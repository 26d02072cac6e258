import Emux.Loop.Sizes
import Emux.Term.Cells
import Emux.Term.Viewport

set_option autoImplicit false

/-!
# The rows to draw again

Output takes the viewport to the bottom and marks the rows of the grid that `take_damage` names. The display is drawn
from the tracker.
-/

namespace Emux

open Checked Screen

theorem markRow_dirty {damage : DamageTracker} {row : Nat} (flag : row < damage.dirtyRows.length) (marked : Nat) :
    (damage.markRow marked).isDirty row = true ↔ damage.isDirty row = true ∨ marked = row := by
  simp only [DamageTracker.isDirty, DamageTracker.markRow, Bool.or_eq_true, List.getD_eq_getElem?_getD, List.getElem?_set]
  by_cases same : marked = row
  next => simp [same, flag]
  next => simp [same]

theorem markRows_dirty (regions : List DamageRegion) {damage : DamageTracker} {row : Nat}
    (flag : row < damage.dirtyRows.length) :
    (regions.foldl (fun damage region => damage.markRow region.row) damage).isDirty row = true ↔
      damage.isDirty row = true ∨ ∃ region ∈ regions, region.row = row := by
  induction regions generalizing damage with
  | nil => simp
  | cons region rest ih =>
    have still : row < (damage.markRow region.row).dirtyRows.length := by
      rw [DamageTracker.markRow, List.length_set]
      exact flag
    rw [List.foldl_cons, ih still, markRow_dirty flag, or_assoc, List.exists_mem_cons_iff]

namespace Screen

def shown (s : Screen) (displayRow : Nat) : Fallible (List Cell) := (s.viewportRow displayRow).map Row.cells

/-- `take_damage` names the row of every cell that is not what it was. -/
def NamesChanges (before after : Screen) : Prop :=
  ∀ r c, after.grid.look r c ≠ before.grid.look r c -> ∃ region ∈ after.takeDamage.1, region.row = r

theorem shown_bottom {s : Screen} (filled : s.grid.Filled) (bottom : s.viewportOffset = 0) {i : Nat} (inside : i < s.rows) :
    ∃ row, s.grid.lines[i]? = some row ∧ s.shown i = .ok row.cells := by
  have found := List.getElem?_eq_getElem (Nat.lt_of_lt_of_eq inside filled.lines.symm)
  refine ⟨_, found, ?_⟩
  rw [shown, viewportRow, if_pos bottom, row_inside inside found]
  rfl

theorem shown_same {s t : Screen} (filled : s.grid.Filled) (filled' : t.grid.Filled) (bottom : s.viewportOffset = 0)
    (bottom' : t.viewportOffset = 0) (rows : t.rows = s.rows) {i : Nat} (inside : i < s.rows)
    (same : ∀ c, t.grid.look i c = s.grid.look i c) : t.shown i = s.shown i := by
  obtain ⟨row, found, shown⟩ := shown_bottom filled bottom inside
  obtain ⟨row', found', shown'⟩ := shown_bottom filled' bottom' (rows.symm ▸ inside)
  have cells : row'.cells = row.cells := by
    apply List.ext_getElem?
    intro c
    simpa [Grid.look, found, found'] using same c
  rw [shown, shown', cells]

def NamesRows (before after : Screen) : Prop :=
  ∀ r < before.rows, after.grid.lines[r]?.map Row.cells = before.grid.lines[r]?.map Row.cells ∨
    ∃ region ∈ after.takeDamage.1, region.row = r

instance (before after : Screen) : Decidable (NamesRows before after) := by
  unfold NamesRows
  infer_instance

theorem NamesRows.changes {before after : Screen} (named : NamesRows before after) (filled : before.grid.Filled)
    (filled' : after.grid.Filled) (rows : after.rows = before.rows) : NamesChanges before after := by
  intro r c changed
  by_cases inside : r < before.rows
  next =>
    have look (g : Grid) : g.look r c = (g.lines[r]?.map Row.cells).bind fun cells => cells[c]? := by
      rw [Grid.look, Option.bind_map]
      rfl
    refine (named r inside).resolve_left fun same => changed ?_
    rw [look, look, same]
  next =>
    have below {g : Grid} (filled : g.Filled) (height : g.rows = before.rows) : g.look r c = none := by
      have none : g.lines[r]? = none := List.getElem?_eq_none (by rw [filled.lines, height]; exact Nat.le_of_not_lt inside)
      rw [Grid.look, none, Option.bind_none]
    exact absurd ((below filled' rows).trans (below filled rfl).symm) changed

end Screen

namespace PaneState

/-- Of `take_damage` it is assumed that it covers what the read changes. -/
def Covered (bytes : Bytes) (pane : PaneState) : Prop :=
  Ensures AnyPanic (pane.terminal.feed bytes) fun terminal =>
    NamesChanges pane.screen terminal.screen.scrollViewportReset

def Unnamed (row : Nat) (bytes : Bytes) (pane : PaneState) : Prop :=
  Ensures AnyPanic (pane.terminal.feed bytes) fun terminal =>
    ∀ region ∈ terminal.screen.scrollViewportReset.takeDamage.1, region.row ≠ row

def MarksShown (pane next : PaneState) : Prop :=
  ∀ row < pane.screen.rows, next.screen.shown row ≠ pane.screen.shown row -> next.damage.isDirty row = true

def ShowsBottom (reads : List Bytes) (pane : PaneState) : Prop :=
  ∀ row < pane.screen.rows, pane.damage.isDirty row = false -> Along drain (Unnamed row) reads pane ->
    pane.screen.shown row = pane.screen.scrollViewportReset.shown row

theorem drain_cases {pane next : PaneState} {bytes : Bytes} (drained : pane.drain bytes = .ok next) :
    ∃ terminal, pane.terminal.feed bytes = .ok terminal ∧
      next.screen = terminal.screen.scrollViewportReset.takeDamage.2 ∧
      next.damage = terminal.screen.scrollViewportReset.takeDamage.1.foldl
        (fun damage region => damage.markRow region.row) pane.damage := by
  rw [drain] at drained
  cases fed : pane.terminal.feed bytes with
  | error panic => simp [fed] at drained
  | ok terminal =>
    rw [fed, ok_bind] at drained
    obtain rfl := Except.ok.inj drained
    exact ⟨terminal, rfl, rfl, rfl⟩

theorem feed_rolled {t : Terminal} (rolled : Rolled False t.screen) (bytes : Bytes) :
    Ensures AnyPanic (t.feed bytes) fun t => Rolled False t.screen :=
  Terminal.handle_rolls (.bytes bytes) False.elim rolled

theorem showsBottom_bottom {pane : PaneState} (bottom : pane.screen.viewportOffset = 0) {reads : List Bytes} :
    ShowsBottom reads pane := by
  intro row _ _ _
  have same : pane.screen.scrollViewportReset = pane.screen := by rw [scrollViewportReset, ← bottom]
  rw [same]

/-- What the code keeps of every pane: screen and tracker have one size, and the grids their rows. -/
structure Sound (pane : PaneState) (rows : Nat) : Prop where
  whole : pane.Whole
  filled : Rolled False pane.screen
  height : pane.screen.rows = rows

theorem Sound.flag {pane : PaneState} {rows row : Nat} (sound : pane.Sound rows) (inside : row < rows) :
    row < pane.damage.dirtyRows.length := by
  obtain ⟨cols, height, fits⟩ := sound.whole
  have same : pane.screen.rows = height := fits.screen.grid.2
  rw [fits.damage, ← same, sound.height]
  exact inside

theorem drain_sound {pane next : PaneState} {rows : Nat} (sound : pane.Sound rows) {bytes : Bytes}
    (drained : pane.drain bytes = .ok next) : next.Sound rows ∧ next.screen.viewportOffset = 0 := by
  obtain ⟨cols, height, fits⟩ := sound.whole
  have sized := (drain_fits bytes fits).of_ok drained
  obtain ⟨terminal, fed, screen, -⟩ := drain_cases drained
  have rolled := (feed_rolled sound.filled bytes).of_ok fed
  refine ⟨⟨⟨_, _, sized⟩, ?_, sized.screen.grid.2.trans (fits.screen.grid.2.symm.trans sound.height)⟩, ?_⟩
  next =>
    rw [screen]
    exact rolled.same rfl rfl (Nat.zero_le _)
  next =>
    rw [screen]
    rfl

theorem drain_dirty {pane next : PaneState} {rows row : Nat} (sound : pane.Sound rows) (inside : row < rows)
    {bytes : Bytes} (drained : pane.drain bytes = .ok next) :
    next.damage.isDirty row = true ↔ pane.damage.isDirty row = true ∨ ¬ Unnamed row bytes pane := by
  obtain ⟨terminal, fed, -, damage⟩ := drain_cases drained
  rw [damage, markRows_dirty _ (sound.flag inside), Unnamed, fed]
  simp only [Ensures, not_forall, ne_eq, not_not, exists_prop]

theorem drain_same {pane next : PaneState} {row : Nat} {bytes : Bytes} (covered : Covered bytes pane)
    (unnamed : Unnamed row bytes pane) (drained : pane.drain bytes = .ok next) (c : Nat) :
    next.screen.grid.look row c = pane.screen.grid.look row c := by
  obtain ⟨terminal, fed, screen, -⟩ := drain_cases drained
  rw [Covered, fed] at covered
  rw [Unnamed, fed] at unnamed
  rw [screen]
  by_contra changed
  obtain ⟨region, member, named⟩ := covered row c changed
  exact unnamed region member named

theorem along_cons {ok : Bytes -> PaneState -> Prop} {bytes : Bytes} {rest : List Bytes} {pane next : PaneState}
    (drained : pane.drain bytes = .ok next) :
    Along drain ok (bytes :: rest) pane ↔ ok bytes pane ∧ Along drain ok rest next := by
  rw [Along, drained]
  rfl

theorem drained_first {bytes : Bytes} {rest : List Bytes} {pane after : PaneState}
    (drained : run drain (bytes :: rest) pane = .ok after) :
    ∃ next, pane.drain bytes = .ok next ∧ run drain rest next = .ok after := by
  rw [run_cons] at drained
  cases first : pane.drain bytes with
  | error panic => simp [first] at drained
  | ok next =>
    rw [first, ok_bind] at drained
    exact ⟨next, rfl, drained⟩

theorem run_sound {reads : List Bytes} {pane after : PaneState} {rows : Nat} (sound : pane.Sound rows)
    (drained : run drain reads pane = .ok after) :
    after.Sound rows ∧ (reads ≠ [] ∨ pane.screen.viewportOffset = 0 -> after.screen.viewportOffset = 0) := by
  induction reads generalizing pane with
  | nil =>
    obtain rfl := Except.ok.inj drained
    exact ⟨sound, fun either => either.resolve_left (· rfl)⟩
  | cons bytes rest ih =>
    obtain ⟨next, first, later⟩ := drained_first drained
    obtain ⟨still, bottom⟩ := drain_sound sound first
    obtain ⟨last, stays⟩ := ih still later
    exact ⟨last, fun _ => stays (.inr bottom)⟩

theorem run_dirty {reads : List Bytes} {pane after : PaneState} {rows row : Nat} (sound : pane.Sound rows)
    (inside : row < rows) (drained : run drain reads pane = .ok after) :
    after.damage.isDirty row = true ↔ pane.damage.isDirty row = true ∨ ¬ Along drain (Unnamed row) reads pane := by
  induction reads generalizing pane with
  | nil =>
    obtain rfl := Except.ok.inj drained
    exact (or_iff_left (not_not.mpr trivial)).symm
  | cons bytes rest ih =>
    obtain ⟨next, first, later⟩ := drained_first drained
    rw [ih (drain_sound sound first).1 later, drain_dirty sound inside first, along_cons first, not_and_or, or_assoc]

theorem run_same {reads : List Bytes} {pane after : PaneState} {row : Nat} (covered : Along drain Covered reads pane)
    (unnamed : Along drain (Unnamed row) reads pane) (drained : run drain reads pane = .ok after) (c : Nat) :
    after.screen.grid.look row c = pane.screen.grid.look row c := by
  induction reads generalizing pane with
  | nil =>
    obtain rfl := Except.ok.inj drained
    rfl
  | cons bytes rest ih =>
    obtain ⟨next, first, later⟩ := drained_first drained
    rw [along_cons first] at covered unnamed
    rw [ih covered.2 unnamed.2 later, drain_same covered.1 unnamed.1 first]

theorem run_marks_iff {reads : List Bytes} {pane after : PaneState} {rows : Nat} (sound : pane.Sound rows)
    (covered : Along drain Covered reads pane) (drained : run drain reads pane = .ok after) :
    pane.MarksShown after ↔ reads = [] ∨ ShowsBottom reads pane := by
  by_cases none : reads = []
  next =>
    subst none
    obtain rfl := Except.ok.inj drained
    exact iff_of_true (fun row _ changed => absurd rfl changed) (.inl rfl)
  next =>
    rw [or_iff_right none]
    obtain ⟨last, bottom⟩ := run_sound sound drained
    have bottom := bottom (.inl none)
    apply forall₂_congr
    intro row inside
    have marked := run_dirty sound (sound.height ▸ inside) drained
    -- A row that is not marked shows at the end what the grid had in it at the start.
    have kept (unnamed : Along drain (Unnamed row) reads pane) :
        after.screen.shown row = pane.screen.scrollViewportReset.shown row :=
      @shown_same pane.screen.scrollViewportReset _ sound.filled.grid last.filled.grid rfl bottom
        (last.height.trans sound.height.symm) _ inside (run_same covered unnamed drained)
    constructor
    next =>
      intro marks clean unnamed
      by_contra differs
      rcases marked.mp (marks fun same => differs (same.symm.trans (kept unnamed))) with dirty | named
      next => simp [clean] at dirty
      next => exact named unnamed
    next =>
      intro shows changed
      by_contra unmarked
      obtain ⟨clean, unnamed⟩ := not_or.mp (mt marked.mpr unmarked)
      have unnamed := not_not.mp unnamed
      exact changed ((kept unnamed).trans (shows (Bool.eq_false_iff.mpr clean) unnamed).symm)

/-- `drain` with the byte loop of the parser, for evaluation. -/
def drainBytes (bytes : Bytes) (pane : PaneState) : Fallible PaneState := do
  let terminal <- pane.terminal.handleBytes (.bytes bytes)
  let (regions, screen) := terminal.screen.scrollViewportReset.takeDamage
  let damage := regions.foldl (fun damage region => damage.markRow region.row) pane.damage
  .ok { terminal := { terminal with screen }, damage }

theorem drain_eq : drain = drainBytes := by
  funext bytes pane
  rw [drain, drainBytes, ← Terminal.handle_eq, Terminal.handle]

theorem covered_of {pane : PaneState} {rows : Nat} (sound : pane.Sound rows) {bytes : Bytes}
    (named : Ensures AnyPanic (pane.terminal.handleBytes (.bytes bytes)) fun terminal =>
      NamesRows pane.screen terminal.screen.scrollViewportReset) : Covered bytes pane := by
  obtain ⟨cols, height, fits⟩ := sound.whole
  rw [← Terminal.handle_eq, Terminal.handle] at named
  have sized := Terminal.feed_hasSize fits.screen bytes
  refine ((named.and (feed_rolled sound.filled bytes)).and sized).weaken fun terminal holds => ?_
  obtain ⟨⟨rows, rolled⟩, size⟩ := holds
  exact rows.changes sound.filled.grid rolled.grid (size.grid.2.trans fits.screen.grid.2.symm)

end PaneState

namespace EventLoop

variable {R : Type}

/-- `reads` are the chunks that each pane's pseudoterminal has to give. -/
def drainPtyReads (reads : PaneId -> List Bytes) (app : EventLoop R) : Fallible (Bool × EventLoop R) := do
  let paneIds := app.panes.keys
  let app <- paneIds.foldlM (fun app id => run (drainOutput id) (reads id) app) app
  .ok (paneIds.any fun id => !(reads id).isEmpty, app)

theorem drainOutput_others (id : PaneId) (bytes : Bytes) (app : EventLoop R) :
    Ensures AnyPanic (app.drainOutput id bytes) fun next =>
      ∀ other, other ≠ id -> next.panes.lookup other = app.panes.lookup other := by
  unfold drainOutput
  split
  next pane stored =>
    refine ensures_after _ fun drained => ensures_ok fun other apart => ?_
    rw [Keyed.lookup_modify, if_neg apart]
  next => exact ensures_ok fun _ _ => rfl

theorem drainPane_others (id : PaneId) (reads : List Bytes) (app : EventLoop R) :
    Ensures AnyPanic (run (drainOutput id) reads app) fun next =>
      ∀ other, other ≠ id -> next.panes.lookup other = app.panes.lookup other := by
  induction reads generalizing app with
  | nil => exact ensures_ok fun _ _ => rfl
  | cons bytes rest ih =>
    refine (drainOutput_others id bytes app).bind fun next first => ?_
    exact (ih next).weaken fun last later other apart => (later other apart).trans (first other apart)

theorem drainPane_lookup {app : EventLoop R} {id : PaneId} {pane : PaneState} (stored : app.panes.lookup id = some pane)
    (reads : List Bytes) :
    Ensures AnyPanic (run (drainOutput id) reads app) fun next =>
      ∃ drained, run PaneState.drain reads pane = .ok drained ∧ next.panes.lookup id = some drained := by
  induction reads generalizing app pane with
  | nil => exact ⟨pane, rfl, stored⟩
  | cons bytes rest ih =>
    rw [run_cons, drainOutput, stored]
    dsimp only
    rw [run_cons]
    cases pane.drain bytes with
    | error panic => trivial
    | ok first =>
      refine @ih { app with panes := Keyed.modify app.panes id fun _ => first } first ?_
      show (Keyed.modify app.panes id fun _ => first).lookup id = some first
      rw [Keyed.lookup_modify, if_pos rfl, stored, Option.map_some]

theorem drainPanes_others (reads : PaneId -> List Bytes) {ids : List PaneId} {id : PaneId} (absent : id ∉ ids)
    (app : EventLoop R) :
    Ensures AnyPanic (ids.foldlM (fun app id => run (drainOutput id) (reads id) app) app) fun next =>
      next.panes.lookup id = app.panes.lookup id := by
  induction ids generalizing app with
  | nil => exact ensures_ok rfl
  | cons first rest ih =>
    obtain ⟨apart, later⟩ := List.ne_and_not_mem_of_not_mem_cons absent
    rw [List.foldlM_cons]
    refine (drainPane_others first (reads first) app).bind fun next kept => ?_
    exact (ih later next).weaken fun last same => same.trans (kept id apart)

theorem drainPtyReads_lookup {app : EventLoop R} {id : PaneId} {pane : PaneState}
    (stored : app.panes.lookup id = some pane) (reads : PaneId -> List Bytes) :
    Ensures AnyPanic (app.drainPtyReads reads) fun result =>
      ∃ drained, run PaneState.drain (reads id) pane = .ok drained ∧ result.2.panes.lookup id = some drained := by
  have member : id ∈ app.panes.keys := AList.mem_keys.mp (AList.lookup_isSome.mp (stored ▸ rfl))
  obtain ⟨before, after, split⟩ := List.append_of_mem member
  have distinct := app.panes.keys_nodup
  rw [split, List.nodup_middle, List.nodup_cons, List.mem_append, not_or] at distinct
  obtain ⟨⟨earlier, later⟩, -⟩ := distinct
  rw [drainPtyReads, split, List.foldlM_append]
  refine Ensures.bind ?_ fun last drained => ensures_ok drained
  refine (drainPanes_others reads earlier app).bind fun first same => ?_
  rw [List.foldlM_cons]
  refine (drainPane_lookup (same.trans stored) (reads id)).bind fun next ⟨drained, ran, here⟩ => ?_
  exact (drainPanes_others reads later next).weaken fun last kept => ⟨drained, ran, kept.trans here⟩

theorem drainPtyReads_marks_iff {app : EventLoop R} {id : PaneId} {pane : PaneState}
    (stored : app.panes.lookup id = some pane) {rows : Nat} (sound : pane.Sound rows) {reads : PaneId -> List Bytes}
    (covered : Along PaneState.drain PaneState.Covered (reads id) pane) :
    Ensures AnyPanic (app.drainPtyReads reads) fun result =>
      ∃ next, result.2.panes.lookup id = some next ∧
        (pane.MarksShown next ↔ reads id = [] ∨ PaneState.ShowsBottom (reads id) pane) :=
  (drainPtyReads_lookup stored reads).weaken fun _ ⟨next, drained, here⟩ =>
    ⟨next, here, PaneState.run_marks_iff sound covered drained⟩

def drawnPane (viewportOffset : Nat) : PaneState where
  terminal := { screen := { Screen.new 2 2 with
    damageMode := .row
    grid := { Grid.new 2 2 with lines := [letter 'b', letter 'c'], scrollback := [letter 'a'] }
    cursor := { row := 1, col := 1 }
    lastChar := some 'c'
    viewportOffset } }
  damage := { dirtyRows := [false, false], fullRedraw := false }
where letter (c : Char) : Row := { cells := [{ Cell.blank with c }, .blank] }

theorem drawnPane_reached :
    ((PaneState.new 2 2).drain (ascii ['a', '\r', '\n', 'b', '\r', '\n', 'c'])).map (fun pane =>
      { scrolled (fun s => s.scrollViewportUp 1) pane with damage := pane.damage.clear }) = .ok (drawnPane 1) := by
  rw [PaneState.drain_eq]
  rfl

theorem drawnPane_sound (viewportOffset : Nat) : (drawnPane viewportOffset).Sound 2 where
  whole := ⟨2, 2, ⟨⟨rfl, rfl⟩, ⟨rfl, rfl⟩⟩, rfl⟩
  filled := ⟨⟨rfl, Nat.one_le_ofNat⟩, ⟨rfl, Nat.zero_le _⟩, False.elim⟩
  height := rfl

def drawing (pane : PaneState) : EventLoop Rat := { (start 2 3 : EventLoop Rat) with panes := AList.singleton 0 pane }

instance (pane next : PaneState) : Decidable (pane.MarksShown next) :=
  inferInstanceAs (Decidable (∀ row < pane.screen.rows,
    next.screen.shown row ≠ pane.screen.shown row -> next.damage.isDirty row = true))

/-- `drainOutput` with the byte loop of the parser, for evaluation. -/
def drainOutputBytes (paneId : PaneId) (bytes : Bytes) (app : EventLoop R) : Fallible (EventLoop R) :=
  match app.panes.lookup paneId with
  | some pane => do
    let pane <- pane.drainBytes bytes
    .ok { app with panes := Keyed.modify app.panes paneId fun _ => pane }
  | none => .ok app

theorem drainOutput_eq : @drainOutput R = drainOutputBytes := by
  funext paneId bytes app
  cases stored : app.panes.lookup paneId with
  | none => simp only [drainOutput, drainOutputBytes, stored]
  | some pane => simp only [drainOutput, drainOutputBytes, stored, PaneState.drain_eq]

theorem drain_marks_bottom :
    Ensures AnyPanic ((drawing (drawnPane 0)).drainPtyReads fun _ => [ascii ['d']]) fun result =>
      ∃ next, result.2.panes.lookup 0 = some next ∧ (drawnPane 0).MarksShown next := by
  have covered := PaneState.covered_of (drawnPane_sound 0) (by decide : Ensures AnyPanic
    ((drawnPane 0).terminal.handleBytes (.bytes (ascii ['d']))) _)
  refine (@drainPtyReads_marks_iff _ (drawing (drawnPane 0)) 0 _ rfl _ (drawnPane_sound 0) (fun _ => [ascii ['d']])
    ⟨covered, ensures_any_iff.mpr fun _ _ => trivial⟩).weaken fun result ⟨next, here, marks⟩ => ?_
  exact ⟨next, here, marks.mpr (.inr (PaneState.showsBottom_bottom rfl))⟩

/-- The first row on display was the row of history and is now the first row of the grid, which has not changed. -/
theorem drain_leaves_row :
    (drawnPane 1).Sound 2 ∧ Along PaneState.drain PaneState.Covered [ascii ['d']] (drawnPane 1) ∧
    ¬ Ensures AnyPanic ((drawing (drawnPane 1)).drainPtyReads fun _ => [ascii ['d']]) fun result =>
      ∃ next, result.2.panes.lookup 0 = some next ∧ (drawnPane 1).MarksShown next := by
  have covered : PaneState.Covered (ascii ['d']) (drawnPane 1) := PaneState.covered_of (drawnPane_sound 1) (by decide)
  refine ⟨drawnPane_sound 1, ⟨covered, ensures_any_iff.mpr fun _ _ => trivial⟩, ?_⟩
  simp only [← Option.mem_def, drainPtyReads, drainOutput_eq]
  decide

end EventLoop

end Emux
