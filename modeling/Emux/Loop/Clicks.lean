import Emux.Loop.Mouse
import Emux.Mux.Neighbors

set_option autoImplicit false

/-!
# Clicks

Which pane is under the pointer, and which row of it.
-/

namespace Emux

open Checked Partition

variable {R : Type} [Ratio R]

def listedAt (positions : List (PaneId × PanePosition)) (col row : UInt16) : List (PaneId × PanePosition) :=
  positions.filter fun placed => placed.2.Contains col row

def OnTop (positions : List (PaneId × PanePosition)) (col row : UInt16) : Option PaneId -> Prop
  | some id => ∃ below pos above, positions = below ++ (id, pos) :: above ∧ pos.Contains col row ∧
      ∀ placed ∈ above, ¬ placed.2.Contains col row
  | none => ∀ placed ∈ positions, ¬ placed.2.Contains col row

section List

variable {positions : List (PaneId × PanePosition)} {col row : UInt16}

theorem paneAtPosition_eq : paneAtPosition positions col row = (listedAt positions col row).head?.map Prod.fst := by
  rw [listedAt, List.head?_filter, paneAtPosition]

theorem getLast?_listedAt {id : PaneId} {pos : PanePosition} :
    (listedAt positions col row).getLast? = some (id, pos) ↔ ∃ below above, positions = below ++ (id, pos) :: above ∧
      pos.Contains col row ∧ ∀ placed ∈ above, ¬ placed.2.Contains col row := by
  rw [listedAt, List.getLast?_filter, List.find?_eq_some_iff_append]
  constructor
  next =>
    rintro ⟨inside, above, below, split, outside⟩
    refine ⟨below.reverse, above.reverse, ?_, by simpa using inside, fun placed member => ?_⟩
    next => rw [← List.reverse_reverse positions, split]; simp
    next => simpa using outside placed (List.mem_reverse.mp member)
  next =>
    rintro ⟨below, above, rfl, inside, outside⟩
    refine ⟨by simpa using inside, above.reverse, below.reverse, by simp, fun placed member => ?_⟩
    simpa using outside placed (List.mem_reverse.mp member)

theorem onTop_iff {answer : Option PaneId} :
    OnTop positions col row answer ↔ answer = (listedAt positions col row).getLast?.map Prod.fst := by
  cases answer with
  | none =>
    rw [eq_comm, Option.map_eq_none_iff, List.getLast?_eq_none_iff, listedAt, List.filter_eq_nil_iff, OnTop]
    simp only [decide_eq_true_eq]
  | some id =>
    rw [eq_comm, Option.map_eq_some_iff, OnTop]
    constructor
    next =>
      rintro ⟨below, pos, above, split⟩
      exact ⟨(id, pos), getLast?_listedAt.mpr ⟨below, above, split⟩, rfl⟩
    next =>
      rintro ⟨⟨id, pos⟩, last, rfl⟩
      obtain ⟨below, above, split⟩ := getLast?_listedAt.mp last
      exact ⟨below, pos, above, split⟩

end List

theorem PanePosition.contains_iff {pos : PanePosition} {col row : UInt16} :
    pos.Contains col row ↔ (col.toNat, row.toNat) ∈ pos.cells := by
  simp only [Contains, cells, Set.mem_ofPred_eq, and_assoc]

namespace Tab

def basePositions (tab : Tab R) : List (PaneId × PanePosition) :=
  match tab.fullscreenPane with
  | some id => [(id, { col := 0, row := 0, cols := tab.size.cols, rows := tab.size.rows })]
  | none => tab.tiledPositions

theorem computePositions_eq (tab : Tab R) : tab.computePositions = tab.basePositions ++ tab.visibleFloating := rfl

theorem basePositions_at (tab : Tab R) (col row : UInt16) :
    listedAt tab.basePositions col row = [] ∨ ∃ placed, listedAt tab.basePositions col row = [placed] := by
  have short : (listedAt tab.basePositions col row).length ≤ 1 := by
    unfold basePositions
    split
    next => exact List.length_filter_le _ _
    next =>
      cases tiled : tab.tiledPositions with
      | nil => simp [listedAt]
      | cons first rest =>
        rw [← tiled]
        have member : first ∈ tab.tiledPositions := by rw [tiled]; exact List.mem_cons_self
        have partitions := (tiledPositions_tile member).1
        have apart : (listedAt tab.tiledPositions col row).Pairwise fun one other => Disjoint one.2.cells other.2.cells :=
          (List.pairwise_map.mp partitions.apart).sublist List.filter_sublist
        match listed : listedAt tab.tiledPositions col row with
        | [] | [_] => simp
        | one :: other :: more =>
          rw [listed] at apart
          have disjoint := (List.pairwise_cons.mp apart).1 other List.mem_cons_self
          have isIn : ∀ placed ∈ listedAt tab.tiledPositions col row, (col.toNat, row.toNat) ∈ placed.2.cells :=
            fun placed among => PanePosition.contains_iff.mp (by simpa using (List.mem_filter.mp among).2)
          rw [listed] at isIn
          exact absurd (isIn other (by simp)) (Set.disjoint_left.mp disjoint (isIn one (by simp)))
  match listedAt tab.basePositions col row, short with
  | [], _ => exact Or.inl rfl
  | [placed], _ => exact Or.inr ⟨placed, rfl⟩

omit [Ratio R] in
theorem visibleFloating_ids (tab : Tab R) : (tab.visibleFloating.map Prod.fst).Sublist tab.floatingPaneIds := by
  unfold visibleFloating
  split
  next =>
    rw [List.map_map]
    exact List.filter_sublist.map FloatingPane.id
  next => exact List.nil_sublist _

theorem fullscreen_at {tab : Tab R} {id : PaneId} (full : tab.fullscreenPane = some id) {col row : UInt16} :
    listedAt tab.basePositions col row ≠ [] ↔ col.toNat < tab.size.cols ∧ row.toNat < tab.size.rows := by
  simp [listedAt, basePositions, full, PanePosition.Contains]

theorem tiled_not_floating {tab : Tab R} (arranged : tab.Arranged) (tiled : tab.fullscreenPane = none)
    {lower upper : PaneId × PanePosition} (below : lower ∈ tab.basePositions) (above : upper ∈ tab.visibleFloating) :
    lower.1 ≠ upper.1 := by
  intro same
  have floating : upper.1 ∈ tab.floatingPaneIds := tab.visibleFloating_ids.subset (List.mem_map_of_mem above)
  rw [basePositions, tiled] at below
  have listed : lower.1 ∈ tab.layout.paneIds := by
    rw [← map_fst_tiledPositions]
    exact List.mem_map_of_mem below
  exact arranged.apart upper.1 floating (same ▸ (arranged.tiles.keys lower.1).mp listed)

theorem listedAt_append (below above : List (PaneId × PanePosition)) (col row : UInt16) :
    listedAt (below ++ above) col row = listedAt below col row ++ listedAt above col row := List.filter_append _ _

omit [Ratio R] in
theorem floating_ends {tab : Tab R} (arranged : tab.Arranged) (col row : UInt16) :
    (listedAt tab.visibleFloating col row).head?.map Prod.fst = (listedAt tab.visibleFloating col row).getLast?.map Prod.fst ↔
      (listedAt tab.visibleFloating col row).length ≤ 1 := by
  have distinct : ((listedAt tab.visibleFloating col row).map Prod.fst).Nodup :=
    (arranged.floatingDistinct.sublist tab.visibleFloating_ids).sublist (List.filter_sublist.map Prod.fst)
  match listedAt tab.visibleFloating col row, distinct with
  | [], _ | [_], _ => simp
  | first :: second :: rest, distinct =>
    have later : (first :: second :: rest).getLast? = (second :: rest).getLast? := List.getLast?_cons_cons
    obtain ⟨last, isLast⟩ : ∃ last, (second :: rest).getLast? = some last := ⟨_, List.getLast?_eq_some_getLast (by simp)⟩
    have apart : first.1 ≠ last.1 := by
      intro same
      refine (List.nodup_cons.mp distinct).1 ?_
      rw [same]
      exact List.mem_map_of_mem (List.mem_of_getLast? isLast)
    simp [later, isLast, apart]

theorem base_onTop_iff {tab : Tab R} (arranged : tab.Arranged) {col row : UInt16} {lower : PaneId × PanePosition}
    (one : listedAt tab.basePositions col row = [lower]) (covered : listedAt tab.visibleFloating col row ≠ []) :
    some lower.1 = (listedAt tab.visibleFloating col row).getLast?.map Prod.fst ↔
      ∃ id, tab.fullscreenPane = some id ∧ (col.toNat < tab.size.cols ∧ row.toNat < tab.size.rows) ∧
        OnTop tab.visibleFloating col row (some id) := by
  have isBase : lower ∈ tab.basePositions := by
    have among : lower ∈ listedAt tab.basePositions col row := by rw [one]; exact List.mem_cons_self
    exact (List.mem_filter.mp among).1
  cases full : tab.fullscreenPane with
  | none =>
    -- A tiled pane is not a floating one.
    have isLast := List.getLast?_eq_some_getLast covered
    have isFloat : (listedAt tab.visibleFloating col row).getLast covered ∈ tab.visibleFloating :=
      (List.mem_filter.mp (List.getLast_mem covered)).1
    have apart := tiled_not_floating arranged full isBase isFloat
    simp [isLast, apart]
  | some id =>
    have inside := (fullscreen_at full).mp (by rw [one]; simp)
    have same : lower.1 = id := by
      rw [basePositions, full] at isBase
      rw [List.mem_singleton.mp isBase]
    rw [same]
    constructor
    next => exact fun same => ⟨id, rfl, inside, onTop_iff.mpr same⟩
    next =>
      rintro ⟨_, is, -, onTop⟩
      cases is
      exact onTop_iff.mp onTop

theorem clicks_onTop_iff {tab : Tab R} (arranged : tab.Arranged) (col row : UInt16) :
    OnTop tab.computePositions col row (paneAtPosition tab.computePositions col row) ↔
      (listedAt tab.computePositions col row).length ≤ 1 ∨
        ∃ id, tab.fullscreenPane = some id ∧ (col.toNat < tab.size.cols ∧ row.toNat < tab.size.rows) ∧
          OnTop tab.visibleFloating col row (some id) := by
  rw [onTop_iff, paneAtPosition_eq, computePositions_eq, listedAt_append]
  rcases tab.basePositions_at col row with none | ⟨lower, one⟩
  next =>
    rw [none, List.nil_append, floating_ends arranged]
    refine ⟨Or.inl, ?_⟩
    rintro (short | ⟨id, full, inside, -⟩)
    next => exact short
    next => exact absurd none ((fullscreen_at full).mpr inside)
  next =>
    have base := fun covered => base_onTop_iff arranged one covered
    rw [one, List.singleton_append, List.head?_cons, Option.map_some]
    cases floats : listedAt tab.visibleFloating col row with
    | nil => simp
    | cons first rest =>
      rw [floats] at base
      rw [List.getLast?_cons_cons, or_iff_right (show ¬ (lower :: first :: rest).length ≤ 1 by simp)]
      exact base (List.cons_ne_nil _ _)

theorem clicks_onTop_new_tab :
    OnTop (Tab.new 0 "Tab 1" 80 24 : Tab Rat).computePositions 40 12
      (paneAtPosition (Tab.new 0 "Tab 1" 80 24 : Tab Rat).computePositions 40 12) :=
  (clicks_onTop_iff (new_sound 0 "Tab 1" 80 24).toArranged 40 12).mpr (Or.inl (by decide))

/-- A click on a floating pane goes to the tiled pane under it. -/
theorem click_falls_through :
    ¬ ∀ ops : List TabOp, Ensures (· = .arithmetic) (run step ops (Tab.new 0 "Tab 1" 80 24 : Tab Rat)) fun tab =>
      ∀ col row, OnTop tab.computePositions col row (paneAtPosition tab.computePositions col row) := by
  intro all
  have reached := all [.newFloatingPane]
  have fallsThrough : Ensures (fun _ => False) (run step [.newFloatingPane] (Tab.new 0 "Tab 1" 80 24 : Tab Rat)) fun tab =>
      paneAtPosition tab.computePositions 40 12 = some 0 ∧
        (listedAt tab.computePositions 40 12).getLast?.map Prod.fst = some 1 := by decide
  cases result : run step [.newFloatingPane] (Tab.new 0 "Tab 1" 80 24 : Tab Rat) with
  | error panic => exact (result ▸ fallsThrough : Ensures (fun _ => False) (.error panic) _)
  | ok tab =>
    obtain ⟨lower, upper⟩ := fallsThrough.of_ok result
    have onTop := onTop_iff.mp (reached.of_ok result 40 12)
    rw [lower, upper] at onTop
    exact absurd onTop (by decide)

end Tab

def movedRows (commands : List PaneCommand) : List UInt16 :=
  commands.filterMap fun command => match command with
    | .moveTo _ row => some row
    | _ => none

/-- The row of history and grid with this number is shown at the row of the terminal, and its number is the one that
the highlight is tested with. -/
structure ShownAt (s : Screen) (pos : PanePosition) (row : UInt16) (absRow : Nat) : Prop where
  shown : ∃ line, s.grid.allRows[absRow]? = some line ∧ s.viewportRow (row.toNat - pos.row) = .ok line
  tested : absRow = s.absRow (row.toNat - pos.row)
  drawn : ∀ damage selection, ∃ commands line, renderPaneRegion s damage pos true selection = .ok commands ∧
    (movedRows commands)[row.toNat - pos.row]? = some row ∧ (drawnLines commands)[row.toNat - pos.row]? = some line ∧
    IsLine s pos selection (row.toNat - pos.row) line

inductive Selects (ctx : MouseContext) (id : PaneId) (col row : UInt16) : SelectionPoint -> Prop where
  | start {commands : List MouseCommand} {point : SelectionPoint}
      (resolved : resolveMouse ⟨.down .left, col, row⟩ ctx = .ok commands)
      (member : .startMouseSelection id point ∈ commands) : Selects ctx id col row point
  | extend {commands : List MouseCommand} {point : SelectionPoint} (selecting : ctx.mouseSelectionPane = some id)
      (resolved : resolveMouse ⟨.drag .left, col, row⟩ ctx = .ok commands)
      (member : .extendMouseSelection point ∈ commands) : Selects ctx id col row point

/-- Whatever the focus, a drag or a selection: the row that is selected at the position is the row shown there. -/
def SelectsShown (positions : List (PaneId × PanePosition)) (panes : Keyed.Map PaneId PaneState) (id : PaneId)
    (pos : PanePosition) (s : Screen) (col row : UInt16) : Prop :=
  ∀ ctx : MouseContext, ctx.positions = positions -> ctx.paneMouseInfo = mouseInfos positions panes ->
    ∀ point, Selects ctx id col row point -> ShownAt s pos row point.row

theorem movedRows_append (first second : List PaneCommand) :
    movedRows (first ++ second) = movedRows first ++ movedRows second := List.filterMap_append

theorem movedRows_renderSpans (selected : Nat -> Bool) (start : Nat) (prev : Option ContentStyle)
    (spans : List (ContentStyle × List Char)) : movedRows (renderSpans selected start prev spans).1 = [] := by
  induction spans generalizing start prev with
  | nil => rfl
  | cons span rest ih =>
    have noMove (condition : Prop) [Decidable condition] (style : ContentStyle) :
        movedRows (if condition then [.setStyle style] else []) = [] := by
      split <;> rfl
    simp only [renderSpans, movedRows_append, noMove, List.nil_append]
    exact ih _ _

theorem movedRows_renderRows {s : Screen} {pos : PanePosition} {selection : Option Selection} {rows : List Nat}
    {prev : Option ContentStyle} {commands : List PaneCommand}
    (rendered : renderRows s pos selection prev rows = .ok commands) :
    movedRows commands = rows.map fun r => UInt16.ofNat (pos.row + r) := by
  induction rows generalizing prev commands with
  | nil =>
    obtain rfl := Except.ok.inj rendered
    rfl
  | cons r rest ih =>
    rw [renderRows, bind_ok_iff] at rendered
    obtain ⟨line, -, rendered⟩ := rendered
    dsimp only at rendered
    rw [bind_ok_iff] at rendered
    obtain ⟨later, laterOk, done⟩ := rendered
    obtain rfl := Except.ok.inj done
    rw [List.map_cons, ← ih laterOk, List.cons_append,
      show ∀ col row more, movedRows (.moveTo col row :: more) = row :: movedRows more from fun _ _ _ => rfl,
      movedRows_append, movedRows_renderSpans, List.nil_append]

theorem shownAt_absRow {s : Screen} {pos : PanePosition} {col row : UInt16} (filled : s.grid.Filled)
    (rows : s.rows = pos.rows) (inside : pos.Contains col row) :
    ShownAt s pos row (s.absRow (row.toNat - pos.row)) := by
  have below : row.toNat - pos.row < s.rows := by
    have := inside.2.2
    omega
  refine ⟨viewportRow_absRow filled below, rfl, fun damage selection => ?_⟩
  have all : drawnRows s damage pos true = List.range pos.rows := by simp [drawnRows, rows]
  have at_row : (List.range pos.rows)[row.toNat - pos.row]? = some (row.toNat - pos.row) :=
    List.getElem?_range (rows ▸ below)
  obtain ⟨commands, lines, ran, draws, each⟩ := @drawn_renderRows s pos selection filled (List.range pos.rows)
    (fun r member => rows ▸ List.mem_range.mp member) none
  have inLines : row.toNat - pos.row < lines.length := by
    rw [← each.length_eq, List.length_range]
    exact rows ▸ below
  refine ⟨commands ++ [.resetColor, .resetAttributes], lines[row.toNat - pos.row], ?_, ?_, ?_, ?_⟩
  next => rw [renderPaneRegion, all, ran, ok_bind]
  next =>
    have back : UInt16.ofNat (pos.row + (row.toNat - pos.row)) = row := by
      rw [Nat.add_sub_cancel' inside.2.2.1, UInt16.ofNat_toNat]
    rw [movedRows_append, movedRows_renderRows ran, show movedRows [.resetColor, .resetAttributes] = [] from rfl,
      List.append_nil, List.getElem?_map, at_row, Option.map_some, back]
  next => rw [drawnLines, draws, List.getElem?_eq_getElem inLines]
  next =>
    have isLine := (List.forall₂_iff_get.mp each).2 (row.toNat - pos.row) (by simpa using rows ▸ below) inLines
    simpa using isLine

theorem pushForwardMouse_forwards {ctx : MouseContext} {event : CtMouseEvent} {commands : List MouseCommand}
    (pushed : ctx.pushForwardMouse event = .ok commands) {command : MouseCommand} (member : command ∈ commands) :
    ∃ id bytes, command = .forwardMouseToPty id bytes := by
  unfold MouseContext.pushForwardMouse at pushed
  have none : ∀ {some : List MouseCommand}, (Except.ok [] : Fallible (List MouseCommand)) = .ok some -> command ∉ some := by
    rintro _ ⟨⟩
    exact List.not_mem_nil
  split at pushed
  next => exact absurd member (none pushed)
  split at pushed
  next => exact absurd member (none pushed)
  split at pushed
  next => exact absurd member (none pushed)
  split at pushed
  next => exact absurd member (none pushed)
  next =>
    obtain ⟨bytes, -, forwarded⟩ := (bind_ok_iff _ _ _).mp pushed
    obtain rfl := Except.ok.inj forwarded
    split_ifs at member
    next => exact absurd member List.not_mem_nil
    next => exact ⟨_, _, List.mem_singleton.mp member⟩

theorem Selects.point_eq {ctx : MouseContext} {id : PaneId} {col row : UInt16} {point : SelectionPoint}
    (selects : Selects ctx id col row point) : ctx.selectionPoint id col row = some point := by
  -- Either command takes its point from the first rectangle listed for the pane.
  cases selects with
  | start resolved member =>
    simp only [resolveMouse] at resolved
    split at resolved
    next =>
      obtain rfl := Except.ok.inj resolved
      simp at member
    split at resolved
    next under =>
      split at resolved
      next =>
        obtain ⟨further, pushed, done⟩ := (bind_ok_iff _ _ _).mp resolved
        obtain rfl := Except.ok.inj done
        rcases List.mem_append.mp member with focus | more
        next => split_ifs at focus <;> simp at focus
        next =>
          obtain ⟨_, _, other⟩ := pushForwardMouse_forwards pushed more
          cases other
      next =>
        obtain rfl := Except.ok.inj resolved
        rcases List.mem_append.mp member with focus | more
        next => split_ifs at focus <;> simp at focus
        next =>
          obtain ⟨found, at_, same⟩ := Option.map_eq_some_iff.mp (Option.mem_toList.mp more)
          cases same
          exact at_
    next =>
      obtain rfl := Except.ok.inj resolved
      simp at member
  | extend selecting resolved member =>
    simp only [resolveMouse] at resolved
    split_ifs at resolved
    next =>
      obtain rfl := Except.ok.inj resolved
      simp at member
    next =>
      rw [selecting] at resolved
      obtain rfl := Except.ok.inj resolved
      obtain ⟨found, at_, same⟩ := Option.map_eq_some_iff.mp (Option.mem_toList.mp member)
      cases same
      exact at_
    next =>
      obtain ⟨_, _, other⟩ := pushForwardMouse_forwards resolved member
      cases other

section Row

variable {positions : List (PaneId × PanePosition)} {panes : Keyed.Map PaneId PaneState} {ctx : MouseContext} {id : PaneId}
  {pos first : PanePosition} {pane : PaneState}

theorem infoOf_pane (infos : ctx.paneMouseInfo = mouseInfos positions panes) (listed : (id, pos) ∈ positions)
    (stored : panes.lookup id = some pane) : ctx.infoOf id = some (pane.mouseInfo id) := by
  rw [MouseContext.infoOf, infos, mouseInfos, List.find?_filterMap]
  have named : (fun placed : PaneId × PanePosition => ((panes.lookup placed.1).map (PaneState.mouseInfo placed.1)).any
      fun info => info.paneId == id) = fun placed => placed.1 == id := by
    funext placed
    rw [Bool.eq_iff_iff, beq_iff_eq]
    constructor
    next =>
      intro any
      obtain ⟨info, found, named⟩ := (Option.any_eq_true _ _).mp any
      obtain ⟨other, -, rfl⟩ := Option.map_eq_some_iff.mp found
      exact eq_of_beq named
    next =>
      rintro rfl
      simp [stored, PaneState.mouseInfo]
  rw [named]
  cases found : positions.find? fun placed => placed.1 == id with
  | none => exact absurd (BEq.rfl : (id == id) = true) (List.find?_eq_none.mp found (id, pos) listed)
  | some placed =>
    have same : placed.1 = id := by simpa using List.find?_some found
    rw [Option.bind_some, same, stored, Option.map_some]

theorem selectionPoint_pane (at_ : ctx.positions = positions) (infos : ctx.paneMouseInfo = mouseInfos positions panes)
    (listed : (id, pos) ∈ positions) (stored : panes.lookup id = some pane)
    (isFirst : positions.find? (fun placed => placed.1 == id) = some (id, first)) (col row : UInt16) :
    ctx.selectionPoint id col row =
      some { row := pane.screen.absRow (row.toNat - first.row), col := col.toNat - first.col } := by
  have place : ctx.placeOf id = some first := by rw [MouseContext.placeOf, at_, isFirst, Option.map_some]
  rw [MouseContext.selectionPoint, place, infoOf_pane infos listed stored]
  rfl

theorem absRow_inj {s : Screen} (offset : s.viewportOffset ≤ s.grid.scrollbackLen) {r other : Nat} :
    s.absRow r = s.absRow other ↔ r = other := by
  rw [Screen.absRow, Screen.absRow]
  omega

theorem selectsShown_of_sameRow (listed : (id, pos) ∈ positions) (stored : panes.lookup id = some pane)
    (filled : pane.screen.grid.Filled) (rows : pane.screen.rows = pos.rows) {col row : UInt16}
    (inside : pos.Contains col row) (isFirst : positions.find? (fun placed => placed.1 == id) = some (id, first))
    (same : row.toNat - first.row = row.toNat - pos.row) : SelectsShown positions panes id pos pane.screen col row := by
  intro ctx at_ infos point selects
  have is := (selectionPoint_pane at_ infos listed stored isFirst col row).symm.trans selects.point_eq
  obtain rfl := Option.some.inj is
  rw [same]
  exact shownAt_absRow filled rows inside

theorem EventLoop.selects_row_shown {app : EventLoop R} {tab : Tab R} (current : app.session.current = .ok tab)
    (once : (tab.computePositions.map Prod.fst).Nodup) (listed : (id, pos) ∈ tab.computePositions)
    (stored : app.panes.lookup id = some pane) (filled : pane.screen.grid.Filled) (rows : pane.screen.rows = pos.rows)
    {col row : UInt16} (inside : pos.Contains col row) {selecting : Option PaneId}
    (context : app.mouseContext selecting = .ok ctx) {point : SelectionPoint} (selects : Selects ctx id col row point) :
    ShownAt pane.screen pos row point.row := by
  rw [EventLoop.mouseContext, current, ok_bind] at context
  obtain rfl := Except.ok.inj context
  have isFirst : tab.computePositions.find? (fun placed => placed.1 == id) = some (id, pos) := by
    cases found : tab.computePositions.find? fun placed => placed.1 == id with
    | none => exact absurd (BEq.rfl : (id == id) = true) (List.find?_eq_none.mp found (id, pos) listed)
    | some placed =>
      have named : placed.1 = id := by simpa using List.find?_some found
      rw [List.inj_on_of_nodup_map once (List.mem_of_find?_eq_some found) listed named]
  exact selectsShown_of_sameRow listed stored filled rows inside isFirst rfl _ rfl rfl point selects

theorem selects_shown_iff (listed : (id, pos) ∈ positions) (stored : panes.lookup id = some pane)
    (filled : pane.screen.grid.Filled) (size : pane.screen.cols = pos.cols ∧ pane.screen.rows = pos.rows)
    (offset : pane.screen.viewportOffset ≤ pane.screen.grid.scrollbackLen) {col row : UInt16}
    (inside : pos.Contains col row) (isFirst : positions.find? (fun placed => placed.1 == id) = some (id, first)) :
    SelectsShown positions panes id pos pane.screen col row ↔
      first.row = pos.row ∨ row.toNat = pos.row ∧ pos.row ≤ first.row := by
  have localRow : row.toNat - first.row = row.toNat - pos.row ↔
      first.row = pos.row ∨ row.toNat = pos.row ∧ pos.row ≤ first.row := by
    have := inside.2.2.1
    omega
  rw [← localRow]
  constructor
  next =>
    intro shown
    let ctx : MouseContext :=
      { positions, activePaneId := none, borderDrag := none, hasMouseSelection := true, mouseSelectionPane := some id
        paneMouseInfo := mouseInfos positions panes }
    have point := @selectionPoint_pane positions panes ctx id pos first pane rfl rfl listed stored isFirst col row
    have resolved : resolveMouse ⟨.drag .left, col, row⟩ ctx =
        .ok ((ctx.selectionPoint id col row).map .extendMouseSelection).toList := rfl
    rw [point] at resolved
    have selected := shown ctx rfl rfl _ (.extend rfl resolved (Option.mem_toList.mpr rfl))
    exact (absRow_inj offset).mp selected.tested
  next => exact selectsShown_of_sameRow listed stored filled size.2 inside isFirst

end Row

def stackedPositions : List (PaneId × PanePosition) :=
  [(0, { col := 0, row := 0, cols := 80, rows := 12 }), (1, { col := 0, row := 12, cols := 80, rows := 12 })]

def stackedPanes : Keyed.Map PaneId PaneState :=
  ((∅ : Keyed.Map PaneId PaneState).insert 0 (.new 80 12)).insert 1 (.new 80 12)

theorem selects_shown_lower_pane :
    SelectsShown stackedPositions stackedPanes 1 { col := 0, row := 12, cols := 80, rows := 12 }
      (PaneState.new 80 12).screen 40 15 :=
  (selects_shown_iff (by decide) (show stackedPanes.lookup 1 = some (.new 80 12) from AList.lookup_insert _)
    (.new 80 12) ⟨rfl, rfl⟩ (Nat.le_refl 0) (by decide) rfl).mpr (Or.inl rfl)

def floatFullscreen : List (PaneId × PanePosition) :=
  [(1, { col := 0, row := 0, cols := 80, rows := 24 }), (1, { col := 20, row := 6, cols := 40, rows := 12 })]

/-- A drag over row 4 of the pane extends its selection to row 10. -/
theorem fullscreen_float_misses :
    Ensures (fun _ => False) (run Tab.call [.op .newFloatingPane, .op .toggleFullscreen] (Tab.new 0 "Tab 1" 80 24 : Tab Rat))
        (fun tab => tab.computePositions = floatFullscreen) ∧
      ¬ ∀ (panes : Keyed.Map PaneId PaneState) (id : PaneId) (pos : PanePosition) (pane : PaneState) (col row : UInt16),
        (id, pos) ∈ floatFullscreen -> panes.lookup id = some pane -> pane.screen.grid.Filled ->
        pane.screen.cols = pos.cols ∧ pane.screen.rows = pos.rows ->
        pane.screen.viewportOffset ≤ pane.screen.grid.scrollbackLen -> pos.Contains col row ->
        SelectsShown floatFullscreen panes id pos pane.screen col row := by
  refine ⟨by decide, fun all => ?_⟩
  let panes : Keyed.Map PaneId PaneState := (∅ : Keyed.Map PaneId PaneState).insert 1 (.new 40 12)
  have stored : panes.lookup 1 = some (.new 40 12) := AList.lookup_insert _
  have shown := all panes 1 { col := 20, row := 6, cols := 40, rows := 12 } (.new 40 12) 40 10 (by decide) stored
    (.new 40 12) ⟨rfl, rfl⟩ (Nat.le_refl 0) (by decide)
  let ctx : MouseContext :=
    { positions := floatFullscreen, activePaneId := some 1, borderDrag := none, hasMouseSelection := true
      mouseSelectionPane := some 1, paneMouseInfo := mouseInfos floatFullscreen panes }
  have point : ctx.selectionPoint 1 40 10 = some { row := 10, col := 40 } := by
    have listed : (1, { col := 20, row := 6, cols := 40, rows := 12 }) ∈ floatFullscreen := by decide
    rw [selectionPoint_pane rfl rfl listed stored rfl]
    rfl
  have resolved : resolveMouse ⟨.drag .left, 40, 10⟩ ctx =
      .ok ((ctx.selectionPoint 1 40 10).map .extendMouseSelection).toList := rfl
  rw [point] at resolved
  have selected := shown ctx rfl rfl _ (.extend rfl resolved (Option.mem_toList.mpr rfl))
  exact absurd selected.tested (by decide)

end Emux
