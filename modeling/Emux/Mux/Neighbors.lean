import Emux.Library.Leftmost
import Emux.Mux.Structure

set_option autoImplicit false

/-!
# The pane across the border

The panes tile the tab, so beyond every border that is not the tab's edge there is a pane. The focus goes to the pane on
that side with the nearest centre, which can lie behind it.
-/

namespace Emux

open Nearest Partition

variable {R : Type} [Ratio R]

def PanePosition.TouchesEdge (active : PanePosition) (size : PaneSize) : FocusDirection -> Prop
  | .up => active.row = 0
  | .down => active.row + active.rows = size.rows
  | .left => active.col = 0
  | .right => active.col + active.cols = size.cols

def PanePosition.Borders (active pos : PanePosition) : FocusDirection -> Prop
  | .up => pos.row + pos.rows = active.row ∧ pos.col < active.col + active.cols ∧ active.col < pos.col + pos.cols
  | .down => active.row + active.rows = pos.row ∧ pos.col < active.col + active.cols ∧ active.col < pos.col + pos.cols
  | .left => pos.col + pos.cols = active.col ∧ pos.row < active.row + active.rows ∧ active.row < pos.row + pos.rows
  | .right => active.col + active.cols = pos.col ∧ pos.row < active.row + active.rows ∧ active.row < pos.row + pos.rows

instance (active pos : PanePosition) : (direction : FocusDirection) -> Decidable (active.Borders pos direction)
  | .up | .down | .left | .right => inferInstanceAs (Decidable (_ ∧ _ ∧ _))

namespace Tab

/-- The panes wholly on this side of the active one that reach into its columns or rows, in the order of the layout. -/
def onSide (tab : Tab R) (active : PaneId) (area : PanePosition) (direction : FocusDirection) :
    List (PaneId × PanePosition) :=
  tab.tiledPositions.filter fun placed => placed.1 != active && isCandidate area placed.2 direction

def SharesBorder (tab tab' : Tab R) (direction : FocusDirection) : Prop :=
  ∃ active area target pos, tab.activePane = some active ∧ tab.tiledPosition active = some area ∧
    tab'.activePane = some target ∧ tab'.tiledPosition target = some pos ∧ area.Borders pos direction

theorem nearest_eq_argmin (active : PaneId) (area : PanePosition) (direction : FocusDirection)
    (positions : List (PaneId × PanePosition)) :
    positions.foldl (nearerNeighbor active area direction) none =
      ((positions.filter fun placed => placed.1 != active && isCandidate area placed.2 direction).argmin fun placed =>
        centerDistance area placed.2).map fun placed => (placed.1, centerDistance area placed.2) := by
  induction positions using List.reverseRecOn with
  | nil => rfl
  | append_singleton front placed ih =>
    rw [List.foldl_append, ih, List.filter_append, List.foldl_cons, List.foldl_nil]
    unfold nearerNeighbor
    by_cases same : placed.1 = active
    next => simp [same]
    next =>
      by_cases candidate : isCandidate area placed.2 direction = true
      next =>
        rw [if_neg same, if_pos candidate, List.filter_cons_of_pos (by simp [same, candidate]), List.filter_nil,
          List.argmin_concat]
        cases (front.filter _).argmin fun placed => centerDistance area placed.2 with
        | none => rfl
        | some best =>
          simp only [Option.map_some, Option.all_some, decide_eq_true_eq]
          split <;> rfl
      next => simp [same, candidate]

theorem findNeighbor_eq {tab : Tab R} {active : PaneId} {area : PanePosition} (focused : tab.activePane = some active)
    (placed : tab.tiledPosition active = some area) (direction : FocusDirection) :
    tab.findNeighborInDirection direction =
      ((tab.onSide active area direction).argmin fun placed => centerDistance area placed.2).map Prod.fst := by
  unfold findNeighborInDirection onSide
  simp [focused, placed, nearest_eq_argmin, Function.comp_def]

theorem mem_onSide {tab : Tab R} {active : PaneId} {area : PanePosition} {direction : FocusDirection}
    {placed : PaneId × PanePosition} : placed ∈ tab.onSide active area direction ↔
      placed ∈ tab.tiledPositions ∧ placed.1 ≠ active ∧ isCandidate area placed.2 direction = true := by
  simp [onSide]

theorem tiledPositions_tile {tab : Tab R} {placed : PaneId × PanePosition} (member : placed ∈ tab.tiledPositions) :
    Partitions (tab.tiledPositions.map fun placed => placed.2.cells)
        (PanePosition.whole tab.size.cols tab.size.rows).cells ∧
      ∀ placed ∈ tab.tiledPositions, placed.2.Within (.whole tab.size.cols tab.size.rows) := by
  unfold tiledPositions LayoutEngine.computePositions at member ⊢
  cases tree : tab.layout.root with
  | none => simp [tree] at member
  | some root => exact ⟨root.positions_partition (.whole _ _), root.positions_within (.whole _ _)⟩

theorem tiledPosition_of_mem {tab : Tab R} (distinct : tab.layout.paneIds.Nodup) {id : PaneId} {pos : PanePosition}
    (member : (id, pos) ∈ tab.tiledPositions) : tab.tiledPosition id = some pos := by
  unfold tiledPosition
  cases found : tab.tiledPositions.find? fun placed => placed.1 == id with
  | none => exact absurd (List.find?_eq_none.mp found _ member) (by simp)
  | some other =>
    have same : other.1 = id := by simpa using List.find?_some found
    rw [← map_fst_tiledPositions] at distinct
    rw [List.inj_on_of_nodup_map distinct (List.mem_of_find?_eq_some found) member same]
    rfl

end Tab

def PanePosition.across (active : PanePosition) : FocusDirection -> Nat × Nat
  | .up => (active.col, active.row - 1)
  | .down => (active.col, active.row + active.rows)
  | .left => (active.col - 1, active.row)
  | .right => (active.col + active.cols, active.row)

def PanePosition.beside (active : PanePosition) : FocusDirection -> Nat × Nat
  | .up => (active.col, active.row)
  | .down => (active.col, active.row + active.rows - 1)
  | .left => (active.col, active.row)
  | .right => (active.col + active.cols - 1, active.row)

namespace PanePosition

variable {active pos : PanePosition} {size : PaneSize} {direction : FocusDirection}

omit [Ratio R] in
theorem beside_mem (filled : 0 < active.cols ∧ 0 < active.rows) (direction : FocusDirection) :
    active.beside direction ∈ active.cells := by
  cases direction <;> simp only [beside, cells, Set.mem_ofPred_eq] <;> omega

theorem across_inside (filled : 0 < active.cols ∧ 0 < active.rows) (within : active.Within (.whole size.cols size.rows))
    (inner : ¬active.TouchesEdge size direction) :
    active.across direction ∈ (PanePosition.whole size.cols size.rows).cells ∧ active.across direction ∉ active.cells := by
  cases direction <;> simp only [across, cells, whole, TouchesEdge, Within, Set.mem_ofPred_eq] at * <;> omega

theorem borders_of_across (filled : 0 < active.cols ∧ 0 < active.rows) (inner : ¬active.TouchesEdge size direction)
    (member : active.across direction ∈ pos.cells) (apart : active.beside direction ∉ pos.cells) :
    active.Borders pos direction := by
  cases direction <;> simp only [across, beside, cells, TouchesEdge, Borders, Set.mem_ofPred_eq] at * <;> omega

theorem Borders.candidate (borders : active.Borders pos direction) : Tab.isCandidate active pos direction = true := by
  cases direction <;> simp [Borders, Tab.isCandidate, Tab.rangesOverlap] at * <;> omega

theorem not_candidate (filled : 0 < pos.cols ∧ 0 < pos.rows) (within : pos.Within (.whole size.cols size.rows))
    (edge : active.TouchesEdge size direction) : ¬Tab.isCandidate active pos direction = true := by
  cases direction <;> simp [TouchesEdge, Tab.isCandidate, Within, whole] at * <;> omega

end PanePosition

namespace Tab

theorem onSide_nonempty_iff {tab : Tab R} (distinct : tab.layout.paneIds.Nodup)
    (filled : ∀ placed ∈ tab.tiledPositions, 0 < placed.2.cols ∧ 0 < placed.2.rows) {active : PaneId} {area : PanePosition}
    (placed : tab.tiledPosition active = some area) (direction : FocusDirection) :
    tab.onSide active area direction ≠ [] ↔ ¬area.TouchesEdge tab.size direction := by
  have member := mem_of_tiledPosition placed
  obtain ⟨tiled, within⟩ := tiledPositions_tile member
  have areaFilled := filled _ member
  constructor
  next =>
    intro nonempty edge
    obtain ⟨other, inside⟩ := List.exists_mem_of_ne_nil _ nonempty
    obtain ⟨listed, -, candidate⟩ := mem_onSide.mp inside
    exact PanePosition.not_candidate (filled other listed) (within other listed) edge candidate
  next =>
    intro inner
    obtain ⟨inTab, outside⟩ := PanePosition.across_inside areaFilled (within _ member) inner
    obtain ⟨cells, listed, holds⟩ := (tiled.covers _).mp inTab
    obtain ⟨other, found, rfl⟩ := List.mem_map.mp listed
    have apart : area.beside direction ∉ other.2.cells := by
      intro shared
      have same := tiled.same found member shared (PanePosition.beside_mem areaFilled direction)
      exact outside (same ▸ holds)
    have borders := PanePosition.borders_of_across areaFilled inner holds apart
    refine List.ne_nil_of_mem (mem_onSide.mpr ⟨found, fun same => ?_, borders.candidate⟩)
    have position := tiledPosition_of_mem distinct (show (active, other.2) ∈ tab.tiledPositions from same ▸ found)
    rw [Option.some.inj (position.symm.trans placed)] at holds
    exact outside holds

theorem focusDirection_borders_iff {tab : Tab R} (distinct : tab.layout.paneIds.Nodup)
    (filled : ∀ placed ∈ tab.tiledPositions, 0 < placed.2.cols ∧ 0 < placed.2.rows) {active : PaneId} {area : PanePosition}
    (focused : tab.activePane = some active) (placed : tab.tiledPosition active = some area) (direction : FocusDirection) :
    ((tab.focusDirection direction).1 = true ↔ ¬area.TouchesEdge tab.size direction) ∧
    (((tab.focusDirection direction).1 = true -> SharesBorder tab (tab.focusDirection direction).2 direction) ↔
      area.TouchesEdge tab.size direction ∨
      Leads (fun other => centerDistance area other.2) (fun other => area.Borders other.2 direction)
        (tab.onSide active area direction)) := by
  have nonempty := onSide_nonempty_iff distinct filled placed direction
  have found := findNeighbor_eq focused placed direction
  unfold focusDirection
  rw [found]
  -- Without a pane on this side the active one ends at the edge of the tab; else the nearest has the focus.
  cases chosen : (tab.onSide active area direction).argmin fun other => centerDistance area other.2 with
  | none =>
    rw [List.argmin_eq_none] at chosen
    have edge : area.TouchesEdge tab.size direction := by
      by_contra inner
      exact nonempty.mpr inner chosen
    simp [edge]
  | some target =>
    have member := List.argmin_mem chosen
    have inner := nonempty.mp (List.ne_nil_of_mem member)
    have shares : SharesBorder tab { tab with fullscreenPane := none, activePane := some target.1 } direction ↔
        area.Borders target.2 direction := by
      have position := tiledPosition_of_mem distinct (mem_onSide.mp member).1
      constructor
      next =>
        rintro ⟨active', area', target', pos, isActive, isArea, isTarget, isPos, borders⟩
        obtain rfl := Option.some.inj (isActive.symm.trans focused)
        obtain rfl := Option.some.inj (isArea.symm.trans placed)
        obtain rfl := Option.some.inj isTarget
        obtain rfl := Option.some.inj (isPos.symm.trans position)
        exact borders
      next =>
        intro borders
        exact ⟨active, area, target.1, target.2, focused, placed, rfl, position, borders⟩
    have leads := @leads_iff _ (fun other : PaneId × PanePosition => centerDistance area other.2)
      (fun other => area.Borders other.2 direction) _ (List.ne_nil_of_mem member)
    rw [chosen] at leads
    simp only [Option.map_some, inner, not_false_eq_true, true_and, forall_const, false_or, shares]
    rw [← leads]
    simp

def columns : Tab Rat :=
  { Tab.new 0 "1" 20 24 with
    layout := { root := some (.Split .vertical (1 / 2) (.Leaf 0)
      (.Split .vertical (1 / 2) (.Split .horizontal (1 / 2) (.Leaf 1) (.Leaf 3)) (.Leaf 2))) }
    panes := AList.insert 3 (Pane.new 3 5 12) (AList.insert 2 (Pane.new 2 5 24) (AList.insert 1 (Pane.new 1 5 12)
      (AList.singleton 0 (Pane.new 0 10 24))))
    nextPaneId := 4 }

theorem tiledPositions_columns : columns.tiledPositions =
    [(0, ⟨0, 0, 10, 24⟩), (1, ⟨10, 0, 5, 12⟩), (3, ⟨10, 12, 5, 12⟩), (2, ⟨15, 0, 5, 24⟩)] := by
  decide +kernel

theorem focusDirection_borders_iff_columns :
    (columns.focusDirection .left).1 = false ∧ (columns.focusDirection .right).1 = true := by
  have filled : ∀ placed ∈ columns.tiledPositions, 0 < placed.2.cols ∧ 0 < placed.2.rows := by
    simp [tiledPositions_columns]
  have distinct : columns.layout.paneIds.Nodup := by decide
  have placed : columns.tiledPosition 0 = some ⟨0, 0, 10, 24⟩ := by decide +kernel
  have left := (focusDirection_borders_iff distinct filled rfl placed .left).1
  have right := (focusDirection_borders_iff distinct filled rfl placed .right).1
  refine ⟨?_, right.mpr (by simp [PanePosition.TouchesEdge, columns, Tab.new])⟩
  rw [← Bool.not_eq_true, left, not_not]
  rfl

/-- To the right of pane `0` the focus skips the middle column, whose panes are half as high. -/
theorem focus_skips_column : (columns.focusDirection .right).1 = true ∧
    (columns.focusDirection .right).2.activePane = some 2 ∧
    ¬SharesBorder columns (columns.focusDirection .right).2 .right := by
  have moved : (columns.focusDirection .right).2.activePane = some 2 := by decide +kernel
  have before : columns.tiledPosition 0 = some ⟨0, 0, 10, 24⟩ := by decide +kernel
  have after : (columns.focusDirection .right).2.tiledPosition 2 = some ⟨15, 0, 5, 24⟩ := by decide +kernel
  refine ⟨by decide +kernel, moved, ?_⟩
  rintro ⟨active, area, target, pos, isActive, isArea, isTarget, isPos, borders⟩
  obtain rfl : 0 = active := Option.some.inj isActive
  obtain rfl := Option.some.inj (isArea.symm.trans before)
  obtain rfl := Option.some.inj (isTarget.symm.trans moved)
  obtain rfl := Option.some.inj (isPos.symm.trans after)
  revert borders
  decide

end Tab

end Emux
