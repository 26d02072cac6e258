import Emux.Library.Run
import Emux.Term.Effects
import Emux.Term.Pairs

set_option autoImplicit false

/-!
# Selective and plain erasing

Selective erasing goes cell by cell and skips protected cells; plain erasing blanks a region, repairs
the wide characters at its edges and resets whole rows, flags included.
-/

namespace Emux

open Checked Grid

namespace Grid

def Unprotected (g : Grid) : Prop := ∀ row ∈ g.lines, ∀ cell ∈ row.cells, cell.attrs.isProtected = false

instance (g : Grid) : Decidable g.Unprotected := by unfold Unprotected; infer_instance

section

variable {cells : List Cell} {left stop : Nat}

theorem resetUnprotected_blanks (plain : ∀ cell ∈ cells, cell.attrs.isProtected = false) :
    mapRange cells left stop (fun _ => Screen.resetUnprotected) = mapRange cells left stop fun _ _ => .blank := by
  apply mapRange_congr
  intro i cell _ _ found
  simp [Screen.resetUnprotected, plain cell (List.mem_of_getElem? found)]

theorem blankSpan_eq_iff (paired : PairedCells cells) (order : left < stop) :
    mapRange cells left stop (fun _ _ => .blank) = blankSpan left stop cells ↔
      trails cells left = false ∧ trails cells stop = false := by
  have behind := paired.second (stop - 1)
  rw [show stop - 1 + 1 = stop by omega] at behind
  constructor
  next =>
    intro same
    have entry := fun i => congrArg (fun cells => trails cells i) same
    have first := fun i => congrArg (fun cells => leads cells i) same
    simp only [blankSpan, trails_blanked, leads_blanked] at entry first
    constructor
    next =>
      -- The repair blanks the first half in front of the range.
      by_contra cut
      have trail := eq_true_of_ne_false cut
      have later : 0 < left := Nat.pos_of_ne_zero fun zero => by simp [zero, paired.1] at trail
      have lead : leads cells (left - 1) = true := by
        rw [← paired.second, show left - 1 + 1 = left by omega, trail]
      have blanked := first (left - 1)
      have stops : stop ≤ spanStop cells left stop := by simp only [spanStop]; split <;> omega
      simp only [lead, spanStart, later, trail, and_self, if_true, Bool.and_true, Bool.not_eq_eq_eq_not,
        Bool.not_not, decide_eq_decide] at blanked
      omega
    next =>
      -- The repair blanks the second half behind the range.
      by_contra cut
      have trail := eq_true_of_ne_false cut
      have blanked := entry stop
      have starts : spanStart cells left ≤ left := by simp only [spanStart]; split <;> omega
      simp only [trail, spanStop, order, ← behind, and_self, if_true, Bool.and_true, Bool.not_eq_eq_eq_not,
        Bool.not_not, decide_eq_decide] at blanked
      omega
  next =>
    rintro ⟨start, past⟩
    simp only [blankSpan, spanStart, spanStop, start, ← behind, past, Bool.false_eq_true, and_false, if_false]

theorem blankSpan_beyond (beyond : cells.length ≤ left) :
    mapRange cells left stop (fun _ _ => .blank) = blankSpan left stop cells := by
  have noTrail : trails cells left = false := by simp [trails, List.getElem?_eq_none beyond]
  rw [mapRange_beyond _ _ beyond, blankSpan, mapRange_beyond _ _ (by simp [spanStart, noTrail, beyond])]

end

variable {row : Row}

theorem eraseSpan_agrees (paired : PairedCells row.cells)
    (plain : ∀ cell ∈ row.cells, cell.attrs.isProtected = false) {left stop : Nat}
    (order : left < stop ∨ row.cells.length ≤ left ∧ stop = row.cells.length) :
    (Screen.eraseSpan true left stop).apply row = (Screen.eraseSpan false left stop).apply row ↔
      trails row.cells left = false ∧ trails row.cells stop = false := by
  simp only [Screen.eraseSpan, if_true, Bool.false_eq_true, if_false, RowEdit.apply, Row.edit, RowEdit.onCells,
    Row.mk.injEq, and_true, resetUnprotected_blanks plain]
  rcases order with inside | ⟨beyond, rfl⟩
  next => exact blankSpan_eq_iff paired inside
  next =>
    refine iff_of_true (blankSpan_beyond beyond) ?_
    simp [trails, List.getElem?_eq_none beyond]

theorem eraseWhole_agrees (plain : ∀ cell ∈ row.cells, cell.attrs.isProtected = false) :
    (Screen.eraseWhole true row.cells.length).apply row = (Screen.eraseWhole false row.cells.length).apply row ↔
      row.flags.continuation = false := by
  have blank : mapRange row.cells 0 row.cells.length (fun _ _ => Cell.blank) = row.cells.map fun _ => .blank := by
    apply List.ext_getElem?
    intro i
    rw [getElem?_mapRange, List.getElem?_map]
    split
    next => rfl
    next outside => rw [List.getElem?_eq_none (by omega), Option.map_none]
  simp only [Screen.eraseWhole, if_true, Bool.false_eq_true, if_false, RowEdit.apply, Row.edit, RowEdit.onCells,
    Row.reset, Row.mk.injEq, resetUnprotected_blanks plain, blank, true_and]
  cases row.flags
  simp

def trailsAt (g : Grid) (r c : Nat) : Bool := (g.look r c).any fun cell => cell.width == 0

def continuesAt (g : Grid) (r : Nat) : Bool := g.lines[r]?.any fun row => row.flags.continuation

theorem trailsAt_eq {g : Grid} {r : Nat} (found : g.lines[r]? = some row) (c : Nat) :
    g.trailsAt r c = trails row.cells c := by rw [trailsAt, look, found, Option.bind_some, trails]

theorem continues_eq {g : Grid} {r : Nat} (found : g.lines[r]? = some row) :
    g.continuesAt r = row.flags.continuation := by rw [continuesAt, found, Option.any_some]

end Grid

/-- Erasing from this cursor cuts no wide character and clears no row that continues a line. -/
def EraseDisplay.Neat (g : Grid) (row col : Nat) : EraseDisplay -> Prop
  | .below => g.trailsAt row col = false ∧ ∀ r < g.rows, row < r -> g.continuesAt r = false
  | .above => (∀ r < row, g.continuesAt r = false) ∧ g.trailsAt row (col + 1) = false
  | .all => ∀ r < g.rows, g.continuesAt r = false
  | .scrollback => True

def EraseLine.Neat (g : Grid) (row col : Nat) : EraseLine -> Prop
  | .toRight => g.trailsAt row col = false
  | .toLeft => g.trailsAt row (col + 1) = false
  | .all => g.continuesAt row = false

instance (g : Grid) (row col : Nat) (mode : EraseDisplay) : Decidable (mode.Neat g row col) := by
  cases mode <;> unfold EraseDisplay.Neat <;> infer_instance

instance (g : Grid) (row col : Nat) (mode : EraseLine) : Decidable (mode.Neat g row col) := by
  cases mode <;> unfold EraseLine.Neat <;> infer_instance

namespace Screen

def withErased (s : Screen) (regions : List DamageRegion) (lines : List Row) : Screen :=
  { s.tell regions with grid := { s.grid with lines } }

theorem withErased_inj {s : Screen} {regions : List DamageRegion} {lines lines' : List Row} :
    (Except.ok (s.withErased regions lines) : Fallible Screen) = .ok (s.withErased regions lines') ↔ lines = lines' := by
  refine ⟨fun same => ?_, fun same => by rw [same]⟩
  have grids := congrArg Screen.grid (Except.ok.inj same)
  exact congrArg Grid.lines grids

variable {s : Screen}

theorem rows_agree_iff {regions : List DamageRegion} {top bottom : Nat} {selective plain : Nat -> Row -> Row} :
    (Except.ok (s.withErased regions (mapRange s.grid.lines top bottom selective)) : Fallible Screen) =
      .ok (s.withErased regions (mapRange s.grid.lines top bottom plain)) ↔
      ∀ (r : Nat) (row : Row), top ≤ r -> r < bottom -> s.grid.lines[r]? = some row -> selective r row = plain r row :=
  withErased_inj.trans mapRange_eq_iff

section Agreement

variable (safe : Safe s) (paired : s.grid.Paired) (unprotected : s.grid.Unprotected)
include safe unprotected

theorem whole_agrees {r : Nat} {row : Row} (found : s.grid.lines[r]? = some row) :
    (eraseWhole true s.cols).apply row = (eraseWhole false s.cols).apply row ↔ s.grid.continuesAt r = false := by
  have agrees := eraseWhole_agrees (unprotected row (List.mem_of_getElem? found))
  rw [safe.grid.cells_at found] at agrees
  rw [continues_eq found]
  exact agrees

include paired

theorem right_agrees {row : Row} (found : s.grid.lines[s.cursor.row]? = some row) :
    (eraseSpan true s.cursor.col s.cols).apply row = (eraseSpan false s.cursor.col s.cols).apply row ↔
      s.grid.trailsAt s.cursor.row s.cursor.col = false := by
  have width : row.cells.length = s.cols := safe.grid.cells_at found
  have member := List.mem_of_getElem? found
  rw [eraseSpan_agrees (paired row member) (unprotected row member) (by omega), trailsAt_eq found]
  exact and_iff_left (by simp [trails, List.getElem?_eq_none (Nat.le_of_eq width)])

theorem left_agrees {row : Row} (found : s.grid.lines[s.cursor.row]? = some row) :
    (eraseSpan true 0 (min (s.cursor.col + 1) s.cols)).apply row =
      (eraseSpan false 0 (min (s.cursor.col + 1) s.cols)).apply row ↔
      s.grid.trailsAt s.cursor.row (s.cursor.col + 1) = false := by
  have width : row.cells.length = s.cols := safe.grid.cells_at found
  have some : 0 < s.cols := safe.someCols
  have member := List.mem_of_getElem? found
  rw [eraseSpan_agrees (paired row member) (unprotected row member) (by omega), trailsAt_eq found,
    and_iff_right (paired row member).1]
  by_cases inside : s.cursor.col + 1 ≤ s.cols
  next => rw [Nat.min_eq_left inside]
  next =>
    have none : ∀ c, s.cols ≤ c -> trails row.cells c = false := by
      intro c beyond
      simp [trails, List.getElem?_eq_none (show row.cells.length ≤ c by omega)]
    exact iff_of_true (none _ (by omega)) (none _ (by omega))

theorem eraseDisplay_agrees (mode : EraseDisplay) :
    s.eraseDisplay mode true = s.eraseDisplay mode false ↔ mode.Neat s.grid s.cursor.row s.cursor.col := by
  have inside : s.cursor.row < s.rows := safe.row
  obtain ⟨edge, here⟩ := safe.grid.row_at inside
  rw [eraseDisplay_ok safe, eraseDisplay_ok safe]
  -- Below and above are the row of the cursor and the whole rows next to it, in one walk over the lines.
  cases mode with
  | below =>
    have joined (selective : Bool) : s.afterEraseDisplay .below selective =
        s.withErased (s.damageOf s.cursor.row s.cursor.col s.cols ++ s.rowsDamage (s.cursor.row + 1) s.rows)
          (mapRange s.grid.lines s.cursor.row s.rows fun r =>
            if r < s.cursor.row + 1 then (eraseSpan selective s.cursor.col s.cols).apply
            else (eraseWhole selective s.cols).apply) := by
      rw [← mapRange_then _ _ _ (Nat.le_add_right _ 1) inside, afterEraseDisplay, tell_tell]
      rfl
    rw [joined, joined, rows_agree_iff]
    constructor
    next =>
      intro same
      have first := same s.cursor.row edge (Nat.le_refl _) inside here
      simp only [Nat.lt_succ_self, if_true] at first
      refine ⟨(right_agrees safe paired unprotected here).mp first, ?_⟩
      intro r high low
      obtain ⟨row, found⟩ := safe.grid.row_at high
      have later := same r row (Nat.le_of_lt low) high found
      simp only [show ¬ r < s.cursor.row + 1 by omega, if_false] at later
      exact (whole_agrees safe unprotected found).mp later
    next =>
      rintro ⟨cut, flags⟩ r row low high found
      by_cases first : r = s.cursor.row
      next =>
        subst first
        simp only [Nat.lt_succ_self, if_true]
        exact (right_agrees safe paired unprotected found).mpr cut
      next =>
        simp only [show ¬ r < s.cursor.row + 1 by omega, if_false]
        exact (whole_agrees safe unprotected found).mpr (flags r high (by omega))
  | above =>
    have joined (selective : Bool) : s.afterEraseDisplay .above selective =
        s.withErased (s.rowsDamage 0 s.cursor.row ++ s.damageOf s.cursor.row 0 (s.cursor.col + 1))
          (mapRange s.grid.lines 0 (s.cursor.row + 1) fun r =>
            if r < s.cursor.row then (eraseWhole selective s.cols).apply
            else (eraseSpan selective 0 (min (s.cursor.col + 1) s.cols)).apply) := by
      rw [← mapRange_then _ _ _ (Nat.zero_le _) (Nat.le_add_right _ 1), withErased, ← tell_tell]
      rfl
    rw [joined, joined, rows_agree_iff]
    constructor
    next =>
      intro same
      have last := same s.cursor.row edge (Nat.zero_le _) (Nat.lt_succ_self _) here
      simp only [Nat.lt_irrefl, if_false] at last
      refine ⟨?_, (left_agrees safe paired unprotected here).mp last⟩
      intro r high
      obtain ⟨row, found⟩ := safe.grid.row_at (show r < s.grid.rows from Nat.lt_trans high inside)
      have earlier := same r row (Nat.zero_le _) (by omega) found
      simp only [high, if_true] at earlier
      exact (whole_agrees safe unprotected found).mp earlier
    next =>
      rintro ⟨flags, cut⟩ r row low high found
      by_cases earlier : r < s.cursor.row
      next =>
        simp only [earlier, if_true]
        exact (whole_agrees safe unprotected found).mpr (flags r earlier)
      next =>
        obtain rfl : r = s.cursor.row := by omega
        simp only [Nat.lt_irrefl, if_false]
        exact (left_agrees safe paired unprotected found).mpr cut
  | all =>
    refine (@rows_agree_iff s (s.rowsDamage 0 s.rows) 0 s.rows _ _).trans ?_
    constructor
    next =>
      intro same r high
      obtain ⟨row, found⟩ := safe.grid.row_at high
      exact (whole_agrees safe unprotected found).mp (same r row (Nat.zero_le _) high found)
    next =>
      intro flags r row _ high found
      exact (whole_agrees safe unprotected found).mpr (flags r high)
  | scrollback => exact iff_of_true rfl trivial

theorem eraseLine_agrees (mode : EraseLine) :
    s.eraseLine mode true = s.eraseLine mode false ↔ mode.Neat s.grid s.cursor.row s.cursor.col := by
  obtain ⟨edge, here⟩ := safe.grid.row_at safe.row
  have one {selective plain : Row -> Row} : (∀ (r : Nat) (row : Row), s.cursor.row ≤ r -> r < s.cursor.row + 1 ->
      s.grid.lines[r]? = some row -> selective row = plain row) ↔ selective edge = plain edge := by
    refine ⟨fun same => same s.cursor.row edge (Nat.le_refl _) (Nat.lt_succ_self _) here, ?_⟩
    intro same r row low high found
    obtain rfl : r = s.cursor.row := by omega
    rw [Option.some.inj (found.symm.trans here)]
    exact same
  rw [eraseLine_ok safe, eraseLine_ok safe]
  cases mode with
  | toRight =>
    refine (@rows_agree_iff s (s.damageOf s.cursor.row s.cursor.col s.cols) _ _ _ _).trans (one.trans ?_)
    exact right_agrees safe paired unprotected here
  | toLeft =>
    refine (@rows_agree_iff s (s.damageOf s.cursor.row 0 (s.cursor.col + 1)) _ _ _ _).trans (one.trans ?_)
    exact left_agrees safe paired unprotected here
  | all =>
    refine (@rows_agree_iff s (s.damageOf s.cursor.row 0 s.cols) _ _ _ _).trans (one.trans ?_)
    exact whole_agrees safe unprotected here

end Agreement

structure Spares (g g' : Grid) : Prop where
  cells (r c : Nat) (cell : Cell) (found : g.look r c = some cell) (isProtected : cell.attrs.isProtected = true) :
    g'.look r c = some cell
  history (i c : Nat) (cell : Cell) (found : (g.scrollback[i]?.bind fun row => row.cells[c]?) = some cell)
    (isProtected : cell.attrs.isProtected = true) : (g'.scrollback[i]?.bind fun row => row.cells[c]?) = some cell

instance : Std.Refl Spares := ⟨fun _ => ⟨fun _ _ _ found _ => found, fun _ _ _ found _ => found⟩⟩

instance : IsTrans Grid Spares where
  trans _ _ _ first second :=
    ⟨fun r c cell found guarded => second.cells r c cell (first.cells r c cell found guarded) guarded,
      fun i c cell found guarded => second.history i c cell (first.history i c cell found guarded) guarded⟩

theorem editCell_spares (g : Grid) (r c : Nat) : Ensures AnyPanic (g.editCell r c resetUnprotected) (Spares g) := by
  rw [ensures_any_iff]
  intro g' ran
  cases found : g.lines[r]? with
  | none => simp [editCell, Checked.get, found] at ran
  | some row =>
    by_cases inside : c < row.cells.length
    next =>
      rw [editCell_ok _ found inside] at ran
      obtain rfl := (Except.ok.inj ran).symm
      refine ⟨?_, fun _ _ _ here _ => here⟩
      intro r' c' cell here guarded
      by_cases same : r' = r
      next =>
        subst same
        simp only [look, found, Option.bind_some] at here
        simp only [look, List.getElem?_set_self (List.getElem?_eq_some_iff.mp found).1, Option.bind_some,
          Row.cells_edit, List.getElem?_modify, here]
        split
        next => simp [resetUnprotected, guarded]
        next => rfl
      next =>
        simp only [look, List.getElem?_set_ne (Ne.symm same)]
        exact here
    next => simp [editCell, get_ok found, Checked.modify, inside] at ran

theorem eachCell_spares (g : Grid) (top left bottom right : Nat) :
    Ensures AnyPanic (forRange top bottom g fun g r => forRange left right g fun g c => g.cellMut r c resetUnprotected)
      (Spares g) :=
  related_forRange (fun g _ => related_forRange (fun g _ => editCell_spares g _ _) left right g) top bottom g

theorem clearRegionImpl_spares (g : Grid) (top left bottom right : Nat) :
    Ensures AnyPanic (clearRegionImpl g top left bottom right true) (Spares g) := eachCell_spares g top left _ _

theorem clearRowImpl_spares (g : Grid) (row : Nat) : Ensures AnyPanic (clearRowImpl g row true) (Spares g) :=
  related_forRange (fun g _ => editCell_spares g _ _) 0 g.cols g

structure Guards (s s' : Screen) : Prop where
  grid : Spares s.grid s'.grid
  altGrid : s'.altGrid = s.altGrid

instance : Std.Refl Guards := ⟨fun s => ⟨Std.Refl.refl s.grid, rfl⟩⟩

instance : IsTrans Screen Guards where
  trans _ _ _ first second := ⟨IsTrans.trans _ _ _ first.grid second.grid, second.altGrid.trans first.altGrid⟩

theorem recordDamage_guards (s : Screen) (row colStart colEnd : Nat) : Guards s (s.recordDamage row colStart colEnd) := by
  unfold recordDamage
  split <;> exact ⟨Std.Refl.refl s.grid, rfl⟩

theorem damaged_guards {s : Screen} {row colStart colEnd : Nat} {f : Grid -> Fallible Grid}
    (spares : ∀ g, Ensures AnyPanic (f g) (Spares g)) :
    Ensures AnyPanic ((s.recordDamage row colStart colEnd).onGrid f) (Guards s) :=
  (spares _).bind fun _ kept => IsTrans.trans _ _ _ (recordDamage_guards s row colStart colEnd) ⟨kept, rfl⟩

theorem eraseRow_guards (s : Screen) (row : Nat) : Ensures AnyPanic (eraseRow true s row) (Guards s) :=
  damaged_guards fun g => clearRowImpl_spares g row

theorem eraseDisplay_guards (s : Screen) {mode : EraseDisplay} (keeps : mode ≠ .scrollback) :
    Ensures AnyPanic (s.eraseDisplay mode true) (Guards s) := by
  unfold eraseDisplay
  cases mode with
  | scrollback => exact absurd rfl keeps
  | below =>
    have told := @related_forRange _ Guards _ _ recordRow (fun t i => recordDamage_guards t i 0 t.cols)
      (s.cursor.row + 1) s.rows (s.recordDamage s.cursor.row s.cursor.col s.cols)
    refine related_bind (told.weaken fun t => IsTrans.trans _ _ _ (recordDamage_guards s _ _ _)) fun t => ?_
    refine Ensures.bind (related_bind (clearRegionImpl_spares t.grid ..) fun g => ?_) fun _ kept => ⟨kept, rfl⟩
    exact related_forRange (fun g r => clearRowImpl_spares g r) _ _ g
  | above =>
    refine related_bind (related_forRange eraseRow_guards _ _ _) fun t => ?_
    exact damaged_guards fun g => clearRegionImpl_spares g ..
  | all => exact related_forRange eraseRow_guards _ _ _

theorem eraseLine_guards (s : Screen) (mode : EraseLine) : Ensures AnyPanic (s.eraseLine mode true) (Guards s) := by
  unfold eraseLine
  cases mode with
  | toRight => exact damaged_guards fun g => clearRegionImpl_spares g ..
  | toLeft => exact damaged_guards fun g => clearRegionImpl_spares g ..
  | all => exact eraseRow_guards s _

def PlainHistory (g : Grid) : Prop := ∀ row ∈ g.scrollback, ∀ cell ∈ row.cells, cell.attrs.isProtected = false

theorem clearHistory_guards_iff (s : Screen) :
    Guards s { s with grid := { s.grid with scrollback := [] } } ↔ PlainHistory s.grid := by
  constructor
  next =>
    intro guards row there cell member
    obtain ⟨i, here⟩ := List.mem_iff_getElem?.mp there
    obtain ⟨c, found⟩ := List.mem_iff_getElem?.mp member
    by_contra guarded
    have kept := guards.grid.history i c cell (by rw [here, Option.bind_some, found]) (eq_true_of_ne_false guarded)
    simp at kept
  next =>
    intro plain
    refine ⟨⟨fun _ _ _ found _ => found, ?_⟩, rfl⟩
    intro i c cell found guarded
    obtain ⟨row, here, there⟩ := Option.bind_eq_some_iff.mp found
    rw [plain row (List.mem_of_getElem? here) cell (List.mem_of_getElem? there)] at guarded
    cases guarded

theorem selective_erase (s : Screen) :
    (Safe s ->
      (∀ mode, ∃ after, s.eraseDisplay mode true = .ok after) ∧
      (∀ mode, ∃ after, s.eraseLine mode true = .ok after) ∧
      (s.grid.Paired -> s.grid.Unprotected ->
        (∀ mode : EraseDisplay,
          s.eraseDisplay mode true = s.eraseDisplay mode false ↔ mode.Neat s.grid s.cursor.row s.cursor.col) ∧
        ∀ mode : EraseLine,
          s.eraseLine mode true = s.eraseLine mode false ↔ mode.Neat s.grid s.cursor.row s.cursor.col)) ∧
    ∀ after : Screen,
      (∀ mode, s.eraseDisplay mode true = .ok after ->
        (Guards s after ↔ (mode = .scrollback -> PlainHistory s.grid))) ∧
      ∀ mode, s.eraseLine mode true = .ok after -> Guards s after := by
  constructor
  next =>
    intro safe
    refine ⟨fun mode => ⟨_, eraseDisplay_ok safe mode true⟩, fun mode => ⟨_, eraseLine_ok safe mode true⟩, ?_⟩
    intro paired unprotected
    exact ⟨eraseDisplay_agrees safe paired unprotected, eraseLine_agrees safe paired unprotected⟩
  next =>
    intro after
    refine ⟨?_, fun mode ran => (eraseLine_guards s mode).of_ok ran⟩
    intro mode ran
    by_cases clears : mode = .scrollback
    next =>
      subst clears
      obtain rfl := Except.ok.inj ran
      rw [clearHistory_guards_iff]
      exact ⟨fun plain _ => plain, fun plain => plain rfl⟩
    next =>
      exact iff_of_true ((eraseDisplay_guards s clears).of_ok ran) fun is => absurd is clears

def onTrail : Screen := { Screen.new 3 1 with grid := wideFirst, cursor := { row := 0, col := 1 } }

theorem onTrail_safe : Safe onTrail :=
  ⟨Screen.framed_filled ⟨by decide, by decide, by decide, by decide⟩ (by decide) (by decide) _, by decide⟩

theorem selective_erase_whole : onTrail.eraseDisplay .all true = onTrail.eraseDisplay .all false :=
  ((((selective_erase onTrail).1 onTrail_safe).2.2 (by decide) (by decide)).1 .all).mpr (by decide)

theorem selective_erase_cuts :
    onTrail.grid.Paired ∧ onTrail.grid.Unprotected ∧
      ((onTrail.eraseLine .toRight true).map fun s => s.grid.look 0 0) = .ok (wideFirst.look 0 0) ∧
      ((onTrail.eraseLine .toRight false).map fun s => s.grid.look 0 0) = .ok (some .blank) ∧
      wideFirst.look 0 0 ≠ some .blank :=
  ⟨by decide, by decide, rfl, rfl, by decide⟩

end Screen

end Emux
