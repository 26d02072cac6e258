import Emux.Mux.Layout

set_option autoImplicit false

/-!
# Panes tile the tab

The rectangles of a layout partition its area, in the order of the leaves; splitting and removing a pane
changes the list of rectangles in one place only.
-/

namespace Emux

open Checked Partition

variable {R : Type} [Ratio R]

def PanePosition.cells (area : PanePosition) : Set (Nat × Nat) :=
  { cell | (area.col ≤ cell.1 ∧ cell.1 < area.col + area.cols) ∧ area.row ≤ cell.2 ∧ cell.2 < area.row + area.rows }

def PanePosition.whole (cols rows : Nat) : PanePosition := { col := 0, row := 0, cols, rows }

def firstExtent (extent : Nat) (ratio : R) : Nat := min (max (Ratio.share extent ratio) 1) (extent - 1)

def PanePosition.along (area : PanePosition) : SplitDirection -> Nat
  | .horizontal => area.rows
  | .vertical => area.cols

def PanePosition.divide (area : PanePosition) (ratio : R) : SplitDirection -> PanePosition × PanePosition
  | .horizontal =>
    let firstRows := firstExtent area.rows ratio
    ({ area with rows := firstRows }, { area with row := area.row + firstRows, rows := area.rows - firstRows })
  | .vertical =>
    let firstCols := firstExtent area.cols ratio
    ({ area with cols := firstCols }, { area with col := area.col + firstCols, cols := area.cols - firstCols })

theorem firstExtent_le (extent : Nat) (ratio : R) : firstExtent extent ratio ≤ extent := by
  unfold firstExtent
  omega

theorem firstExtent_inside {extent : Nat} (ratio : R) (room : 2 ≤ extent) :
    0 < firstExtent extent ratio ∧ firstExtent extent ratio < extent := by
  unfold firstExtent
  omega

theorem PanePosition.divide_partitions (area : PanePosition) (ratio : R) (direction : SplitDirection) :
    Partitions [(area.divide ratio direction).1.cells, (area.divide ratio direction).2.cells] area.cells := by
  have rowsWithin := firstExtent_le area.rows ratio
  have colsWithin := firstExtent_le area.cols ratio
  refine Partitions.pair (Set.disjoint_left.mpr fun cell first second => ?_) fun cell => ?_
  next =>
    cases direction <;> simp only [divide, cells, Set.mem_ofPred_eq] at first second <;> omega
  next =>
    cases direction <;> simp only [divide, cells, Set.mem_ofPred_eq] <;> omega

def PanePosition.Within (inner outer : PanePosition) : Prop :=
  outer.col ≤ inner.col ∧ inner.col + inner.cols ≤ outer.col + outer.cols ∧
    outer.row ≤ inner.row ∧ inner.row + inner.rows ≤ outer.row + outer.rows

theorem PanePosition.Within.trans {inner middle outer : PanePosition} (first : inner.Within middle)
    (second : middle.Within outer) : inner.Within outer := by
  unfold Within at *
  omega

theorem PanePosition.divide_within (area : PanePosition) (ratio : R) (direction : SplitDirection) :
    (area.divide ratio direction).1.Within area ∧ (area.divide ratio direction).2.Within area := by
  have rowsWithin := firstExtent_le area.rows ratio
  have colsWithin := firstExtent_le area.cols ratio
  cases direction <;> simp only [divide, Within] <;> omega

namespace LayoutNode

def positions (node : LayoutNode R) (area : PanePosition) : List (PaneId × PanePosition) :=
  node.computePositionsInner area.col area.row area.cols area.rows

omit [Ratio R] in
@[simp] theorem paneIds_leaf (id : PaneId) : (Leaf id : LayoutNode R).paneIds = [id] := rfl

omit [Ratio R] in
@[simp] theorem paneIds_split (direction : SplitDirection) (ratio : R) (first second : LayoutNode R) :
    (Split direction ratio first second).paneIds = first.paneIds ++ second.paneIds := rfl

@[simp] theorem positions_leaf (id : PaneId) (area : PanePosition) :
    (Leaf id : LayoutNode R).positions area = [(id, area)] := rfl

@[simp] theorem positions_split (direction : SplitDirection) (ratio : R) (first second : LayoutNode R)
    (area : PanePosition) : (Split direction ratio first second).positions area =
      first.positions (area.divide ratio direction).1 ++ second.positions (area.divide ratio direction).2 := by
  cases direction <;> rfl

theorem map_fst_positions (node : LayoutNode R) (area : PanePosition) :
    (node.positions area).map Prod.fst = node.paneIds := by
  induction node generalizing area with
  | Leaf id => rfl
  | Split direction ratio first second ihFirst ihSecond =>
    rw [positions_split, List.map_append, ihFirst, ihSecond, paneIds_split]

theorem computePositionsChecked_ok (node : LayoutNode R) (col row cols rows : Nat) :
    node.computePositionsChecked col row cols rows = .ok (node.computePositionsInner col row cols rows) := by
  induction node generalizing col row cols rows with
  | Leaf id => rfl
  | Split direction ratio first second ihFirst ihSecond =>
    cases direction with
    | horizontal =>
      have within : min (max (Ratio.share rows ratio) 1) (rows - 1) ≤ rows := by omega
      simp only [computePositionsChecked, sub_ok within, ok_bind, ihFirst, ihSecond, computePositionsInner]
    | vertical =>
      have within : min (max (Ratio.share cols ratio) 1) (cols - 1) ≤ cols := by omega
      simp only [computePositionsChecked, sub_ok within, ok_bind, ihFirst, ihSecond, computePositionsInner]

theorem positions_partition (node : LayoutNode R) (area : PanePosition) :
    Partitions ((node.positions area).map fun placed => placed.2.cells) area.cells := by
  induction node generalizing area with
  | Leaf id => exact Partitions.single area.cells
  | Split direction ratio first second ihFirst ihSecond =>
    rw [positions_split, List.map_append]
    exact (area.divide_partitions ratio direction).append (ihFirst _) (ihSecond _)

theorem positions_within (node : LayoutNode R) (area : PanePosition) :
    ∀ placed ∈ node.positions area, placed.2.Within area := by
  induction node generalizing area with
  | Leaf id => simp [PanePosition.Within]
  | Split direction ratio first second ihFirst ihSecond =>
    intro placed member
    obtain ⟨firstWithin, secondWithin⟩ := area.divide_within ratio direction
    rw [positions_split] at member
    rcases List.mem_append.mp member with inFirst | inSecond
    next => exact (ihFirst _ placed inFirst).trans firstWithin
    next => exact (ihSecond _ placed inSecond).trans secondWithin

/-- For every leaf, in order, the extents that the splits on the way down to it divide. -/
def divided : LayoutNode R -> PanePosition -> List (List Nat)
  | .Leaf _, _ => [[]]
  | .Split direction ratio first second, area =>
    (first.divided (area.divide ratio direction).1 ++ second.divided (area.divide ratio direction).2).map
      (area.along direction :: ·)

theorem divide_positive {area : PanePosition} (ratio : R) {direction : SplitDirection}
    (cols : 0 < area.cols) (rows : 0 < area.rows) (room : 2 ≤ area.along direction) :
    (0 < (area.divide ratio direction).1.cols ∧ 0 < (area.divide ratio direction).1.rows) ∧
      0 < (area.divide ratio direction).2.cols ∧ 0 < (area.divide ratio direction).2.rows := by
  cases direction with
  | horizontal =>
    have inside := firstExtent_inside ratio room
    simp only [PanePosition.divide, PanePosition.along] at *
    omega
  | vertical =>
    have inside := firstExtent_inside ratio room
    simp only [PanePosition.divide, PanePosition.along] at *
    omega

theorem positions_positive (node : LayoutNode R) (area : PanePosition) :
    List.Forall₂ (fun extents (placed : PaneId × PanePosition) => 0 < area.cols -> 0 < area.rows ->
      (∀ extent ∈ extents, 2 ≤ extent) -> 0 < placed.2.cols ∧ 0 < placed.2.rows)
      (node.divided area) (node.positions area) := by
  induction node generalizing area with
  | Leaf id => exact .cons (fun cols rows _ => ⟨cols, rows⟩) .nil
  | Split direction ratio first second ihFirst ihSecond =>
    rw [positions_split, divided, List.forall₂_map_left_iff]
    refine List.rel_append ((ihFirst _).imp fun extents placed below => ?_)
      ((ihSecond _).imp fun extents placed below => ?_)
    next =>
      intro cols rows roomy
      obtain ⟨inside, -⟩ := divide_positive ratio cols rows (roomy _ List.mem_cons_self)
      exact below inside.1 inside.2 fun extent member => roomy extent (List.mem_cons_of_mem _ member)
    next =>
      intro cols rows roomy
      obtain ⟨-, inside⟩ := divide_positive ratio cols rows (roomy _ List.mem_cons_self)
      exact below inside.1 inside.2 fun extent member => roomy extent (List.mem_cons_of_mem _ member)

theorem divide_room {area : PanePosition} (ratio : R) {direction : SplitDirection}
    (cols : 0 < (area.divide ratio direction).1.cols) (rows : 0 < (area.divide ratio direction).1.rows) :
    2 ≤ area.along direction := by
  cases direction <;> simp only [PanePosition.divide, PanePosition.along, firstExtent] at * <;> omega

omit [Ratio R] in
theorem paneIds_pos (node : LayoutNode R) : 0 < node.paneIds.length := by
  induction node with
  | Leaf id => exact Nat.one_pos
  | Split direction ratio first second ihFirst ihSecond =>
    rw [paneIds_split, List.length_append]
    omega

theorem area_positive {node : LayoutNode R} {area : PanePosition}
    (positive : ∀ placed ∈ node.positions area, 0 < placed.2.cols ∧ 0 < placed.2.rows) : 0 < area.cols ∧ 0 < area.rows := by
  have some : 0 < (node.positions area).length := by
    rw [← List.length_map (f := Prod.fst), map_fst_positions]
    exact node.paneIds_pos
  obtain ⟨placed, member⟩ := List.exists_mem_of_length_pos some
  obtain ⟨cols, rows⟩ := positive placed member
  have within := node.positions_within area placed member
  unfold PanePosition.Within at within
  omega

theorem positions_positive_iff (node : LayoutNode R) (area : PanePosition) :
    (∀ placed ∈ node.positions area, 0 < placed.2.cols ∧ 0 < placed.2.rows) ↔
      (0 < area.cols ∧ 0 < area.rows) ∧ ∀ extents ∈ node.divided area, ∀ extent ∈ extents, 2 ≤ extent := by
  -- No rectangle is empty exactly where every split has two cells to divide.
  constructor
  next =>
    intro positive
    refine ⟨area_positive positive, ?_⟩
    induction node generalizing area with
    | Leaf id => simp [divided]
    | Split direction ratio first second ihFirst ihSecond =>
      rw [positions_split, List.forall_mem_append] at positive
      obtain ⟨cols, rows⟩ := area_positive positive.1
      rw [divided, List.forall_mem_map, List.forall_mem_append]
      have room := divide_room ratio cols rows
      exact ⟨fun extents member => List.forall_mem_cons.mpr ⟨room, ihFirst _ positive.1 extents member⟩,
        fun extents member => List.forall_mem_cons.mpr ⟨room, ihSecond _ positive.2 extents member⟩⟩
  next =>
    rintro ⟨⟨cols, rows⟩, roomy⟩ placed member
    obtain ⟨index, inside, rfl⟩ := List.getElem_of_mem member
    have each := node.positions_positive area
    have same := each.length_eq
    exact (each.get (same ▸ inside) inside) cols rows (roomy _ (List.getElem_mem _))

theorem split_absent {target : PaneId} (newPane : PaneId) (direction : SplitDirection) {node : LayoutNode R}
    (absent : target ∉ node.paneIds) : node.split target newPane direction = (false, node) := by
  induction node with
  | Leaf id =>
    have other : id ≠ target := fun same => absent (by simp [same])
    simp [split, other]
  | Split axis ratio first second ihFirst ihSecond =>
    rw [paneIds_split, List.mem_append, not_or] at absent
    simp [split, ihFirst absent.1, ihSecond absent.2]

theorem split_positions {target : PaneId} (newPane : PaneId) (direction : SplitDirection) {node : LayoutNode R}
    (present : target ∈ node.paneIds) :
    (node.split target newPane direction).1 = true ∧
      ∀ area, ∃ before old after kept given,
        node.positions area = before ++ (target, old) :: after ∧
          (node.split target newPane direction).2.positions area =
            before ++ (target, kept) :: (newPane, given) :: after ∧
          Partitions [kept.cells, given.cells] old.cells := by
  -- Where a leaf is split, its rectangle alone is replaced, by two that partition it.
  induction node with
  | Leaf id =>
    obtain rfl : target = id := by simpa using present
    refine ⟨by simp [split], fun area => ⟨[], area, [], _, _, rfl, ?_, area.divide_partitions (Ratio.half : R) direction⟩⟩
    simp [split]
  | Split axis ratio first second ihFirst ihSecond =>
    by_cases inFirst : target ∈ first.paneIds
    next =>
      obtain ⟨found, changed⟩ := ihFirst inFirst
      cases result : first.split target newPane direction with
      | mk flag next =>
        rw [result] at found changed
        obtain rfl : flag = true := found
        refine ⟨by simp [split, result], fun area => ?_⟩
        obtain ⟨before, old, after, kept, given, was, now, parts⟩ := changed (area.divide ratio axis).1
        refine ⟨before, old, after ++ second.positions (area.divide ratio axis).2, kept, given, ?_, ?_, parts⟩
        next => simp [was]
        next => simp [split, result, now]
    next =>
      have inSecond : target ∈ second.paneIds := by
        rw [paneIds_split, List.mem_append] at present
        exact present.resolve_left inFirst
      obtain ⟨found, changed⟩ := ihSecond inSecond
      cases result : second.split target newPane direction with
      | mk flag next =>
        rw [result] at found changed
        obtain rfl : flag = true := found
        refine ⟨by simp [split, split_absent newPane direction inFirst, result], fun area => ?_⟩
        obtain ⟨before, old, after, kept, given, was, now, parts⟩ := changed (area.divide ratio axis).2
        refine ⟨first.positions (area.divide ratio axis).1 ++ before, old, after, kept, given, ?_, ?_, parts⟩
        next => simp [was]
        next => simp [split, split_absent newPane direction inFirst, result, now]

/-- `Sibling target node sub`: the leaf `target` and the subtree `sub` are the two children of one split. -/
inductive Sibling (target : PaneId) : LayoutNode R -> LayoutNode R -> Prop where
  | first (direction : SplitDirection) (ratio : R) (sub : LayoutNode R) :
      Sibling target (.Split direction ratio (.Leaf target) sub) sub
  | second (direction : SplitDirection) (ratio : R) (sub : LayoutNode R) :
      Sibling target (.Split direction ratio sub (.Leaf target)) sub
  | inFirst (direction : SplitDirection) (ratio : R) {first sub : LayoutNode R} (second : LayoutNode R)
      (below : Sibling target first sub) : Sibling target (.Split direction ratio first second) sub
  | inSecond (direction : SplitDirection) (ratio : R) (first : LayoutNode R) {second sub : LayoutNode R}
      (below : Sibling target second sub) : Sibling target (.Split direction ratio first second) sub

omit [Ratio R] in
theorem Sibling.present {target : PaneId} {node sub : LayoutNode R} (sibling : Sibling target node sub) :
    target ∈ node.paneIds := by
  induction sibling with
  | first => simp
  | second => simp
  | inFirst _ _ _ _ ih => exact List.mem_append_left _ ih
  | inSecond _ _ _ _ ih => exact List.mem_append_right _ ih

omit [Ratio R] in
theorem exists_sibling {target : PaneId} {node : LayoutNode R} (present : target ∈ node.paneIds)
    (several : 2 ≤ node.paneIds.length) : ∃ sub, Sibling target node sub := by
  -- Down the child that has the leaf, until that child is the leaf itself.
  induction node with
  | Leaf id => simp at several
  | Split direction ratio first second ihFirst ihSecond =>
    rw [paneIds_split, List.mem_append] at present
    rcases present with inFirst | inSecond
    next =>
      cases first with
      | Leaf id =>
        obtain rfl : target = id := by simpa using inFirst
        exact ⟨second, .first direction ratio second⟩
      | Split axis other left right =>
        have more : 2 ≤ (Split axis other left right).paneIds.length := by
          have := paneIds_pos left
          have := paneIds_pos right
          rw [paneIds_split, List.length_append]
          omega
        obtain ⟨sub, sibling⟩ := ihFirst inFirst more
        exact ⟨sub, .inFirst direction ratio second sibling⟩
    next =>
      cases second with
      | Leaf id =>
        obtain rfl : target = id := by simpa using inSecond
        exact ⟨first, .second direction ratio first⟩
      | Split axis other left right =>
        have more : 2 ≤ (Split axis other left right).paneIds.length := by
          have := paneIds_pos left
          have := paneIds_pos right
          rw [paneIds_split, List.length_append]
          omega
        obtain ⟨sub, sibling⟩ := ihSecond inSecond more
        exact ⟨sub, .inSecond direction ratio first sibling⟩

omit [Ratio R] in
theorem remove_absent {target : PaneId} {node : LayoutNode R} (absent : target ∉ node.paneIds) :
    node.remove target = (.notFound, node) := by
  induction node with
  | Leaf id =>
    have other : id ≠ target := fun same => absent (by simp [same])
    simp [remove, other]
  | Split axis ratio first second ihFirst ihSecond =>
    rw [paneIds_split, List.mem_append, not_or] at absent
    simp [remove, ihFirst absent.1, ihSecond absent.2]

/-- The tree that is left after a removal, whether its root was replaced or changed in place. -/
def left : RemoveResult R × LayoutNode R -> Option (LayoutNode R)
  | (.removed, _) => none
  | (.replaced node, _) => some node
  | (.notFound, node) => some node

omit [Ratio R] in
theorem left_remove_inFirst {target : PaneId} {first next : LayoutNode R} (direction : SplitDirection) (ratio : R)
    {second : LayoutNode R} (absent : target ∉ second.paneIds) (removed : left (first.remove target) = some next) :
    left ((Split direction ratio first second).remove target) = some (.Split direction ratio next second) := by
  cases result : first.remove target with
  | mk outcome changed => cases outcome <;> simp_all [left, remove, remove_absent absent]

omit [Ratio R] in
theorem left_remove_inSecond {target : PaneId} {second next : LayoutNode R} (direction : SplitDirection) (ratio : R)
    {first : LayoutNode R} (absent : target ∉ first.paneIds) (removed : left (second.remove target) = some next) :
    left ((Split direction ratio first second).remove target) = some (.Split direction ratio first next) := by
  cases result : second.remove target with
  | mk outcome changed => cases outcome <;> simp_all [left, remove, remove_absent absent]

theorem remove_positions {target : PaneId} {node sub : LayoutNode R} (sibling : Sibling target node sub)
    (distinct : node.paneIds.Nodup) :
    ∃ next, left (node.remove target) = some next ∧
      ∀ area, ∃ before after removed region whole,
        (node.positions area = before ++ (target, removed) :: sub.positions region ++ after ∨
          node.positions area = before ++ (sub.positions region ++ [(target, removed)]) ++ after) ∧
        next.positions area = before ++ sub.positions whole ++ after ∧
        Partitions [removed.cells, region.cells] whole.cells := by
  -- Where a leaf with a sibling is removed, the rectangles of the two alone are replaced, by those of the sibling in
  -- the whole of their area.
  induction sibling with
  | first direction ratio sub =>
    refine ⟨sub, by simp [remove, left], fun area => ⟨[], [], _, _, area, .inl ?_, by simp, area.divide_partitions ratio direction⟩⟩
    simp
  | second direction ratio sub =>
    have absent : target ∉ sub.paneIds := by
      intro member
      rw [paneIds_split, List.nodup_append] at distinct
      exact distinct.2.2 target member target (by simp) rfl
    refine ⟨sub, by simp [remove, left, remove_absent absent], fun area =>
      ⟨[], [], _, _, area, .inr ?_, by simp, (area.divide_partitions ratio direction).swap⟩⟩
    simp
  | inFirst direction ratio second below ih =>
    rw [paneIds_split, List.nodup_append] at distinct
    obtain ⟨next, removed, changed⟩ := ih distinct.1
    have absent : target ∉ second.paneIds := fun member => distinct.2.2 target below.present target member rfl
    refine ⟨_, left_remove_inFirst direction ratio absent removed, fun area => ?_⟩
    obtain ⟨before, after, removed, region, whole, was, now, parts⟩ := changed (area.divide ratio direction).1
    refine ⟨before, after ++ second.positions (area.divide ratio direction).2, removed, region, whole, ?_, ?_, parts⟩
    next => rcases was with was | was <;> simp [was]
    next => simp [now]
  | inSecond direction ratio first below ih =>
    rw [paneIds_split, List.nodup_append] at distinct
    obtain ⟨next, removed, changed⟩ := ih distinct.2.1
    have absent : target ∉ first.paneIds := fun member => distinct.2.2 target member target below.present rfl
    refine ⟨_, left_remove_inSecond direction ratio absent removed, fun area => ?_⟩
    obtain ⟨before, after, removed, region, whole, was, now, parts⟩ := changed (area.divide ratio direction).2
    refine ⟨first.positions (area.divide ratio direction).1 ++ before, after, removed, region, whole, ?_, ?_, parts⟩
    next => rcases was with was | was <;> simp [was]
    next => simp [now]

end LayoutNode

namespace LayoutEngine

theorem positions_tile (root : LayoutNode R) (layout : LayoutEngine R) (tree : layout.root = some root) (cols rows : Nat) :
    layout.computePositionsChecked cols rows = .ok (layout.computePositions cols rows) ∧
      (layout.computePositions cols rows).map Prod.fst = layout.paneIds ∧
      Partitions ((layout.computePositions cols rows).map fun placed => placed.2.cells)
        (PanePosition.whole cols rows).cells ∧
      (∀ placed ∈ layout.computePositions cols rows,
        placed.2.col + placed.2.cols ≤ cols ∧ placed.2.row + placed.2.rows ≤ rows) ∧
      (0 < cols -> 0 < rows -> List.Forall₂ (fun extents (placed : PaneId × PanePosition) =>
        (∀ extent ∈ extents, 2 ≤ extent) -> 0 < placed.2.cols ∧ 0 < placed.2.rows)
        (root.divided (PanePosition.whole cols rows)) (layout.computePositions cols rows)) := by
  obtain ⟨root⟩ := layout
  subst tree
  refine ⟨root.computePositionsChecked_ok 0 0 cols rows, root.map_fst_positions (.whole cols rows),
    root.positions_partition (.whole cols rows),
    fun placed member => ?_, fun positiveCols positiveRows => ?_⟩
  next =>
    have within := root.positions_within (PanePosition.whole cols rows) placed member
    simp only [PanePosition.Within, PanePosition.whole, Nat.zero_add] at within
    exact ⟨within.2.1, within.2.2.2⟩
  next =>
    exact (root.positions_positive (PanePosition.whole cols rows)).imp fun extents placed positive =>
      positive positiveCols positiveRows

open LayoutNode in
theorem positions_tile_split :
    let root : LayoutNode Rat := Split .vertical (1 / 2) (Leaf 0) (Split .horizontal (1 / 3) (Leaf 2) (Leaf 1))
    let layout : LayoutEngine Rat := { root := some root }
    layout.computePositionsChecked 5 3 = .ok (layout.computePositions 5 3) ∧
      (layout.computePositions 5 3).map Prod.fst = [0, 2, 1] ∧
      Partitions ((layout.computePositions 5 3).map fun placed => placed.2.cells) (PanePosition.whole 5 3).cells ∧
      List.Forall₂ (fun extents (placed : PaneId × PanePosition) =>
        (∀ extent ∈ extents, 2 ≤ extent) -> 0 < placed.2.cols ∧ 0 < placed.2.rows)
        [[5], [5, 3], [5, 3]] (layout.computePositions 5 3) := by
  intro root layout
  obtain ⟨checked, ids, parts, -, positive⟩ := positions_tile root layout rfl 5 3
  have extents : root.divided (.whole 5 3) = [[5], [5, 3], [5, 3]] := by decide
  exact ⟨checked, ids, parts, extents ▸ positive (by decide) (by decide)⟩

/-- A tab without cells gives its only pane an empty rectangle, with no split on the way down to it. -/
theorem empty_tab_empty_pane :
    let root : LayoutNode Rat := .Leaf 0
    let layout : LayoutEngine Rat := { root := some root }
    ¬ List.Forall₂ (fun extents (placed : PaneId × PanePosition) =>
        (∀ extent ∈ extents, 2 ≤ extent) -> 0 < placed.2.cols ∧ 0 < placed.2.rows)
        (root.divided (.whole 0 0)) (layout.computePositions 0 0) := by
  intro root layout every
  cases every with
  | cons positive _ =>
    have wide := (positive fun extent member => by cases member).1
    exact absurd wide (by decide)

theorem split_local {root : LayoutNode R} {layout : LayoutEngine R} (tree : layout.root = some root)
    {target : PaneId} (present : target ∈ layout.paneIds) (newPane : PaneId) (direction : SplitDirection)
    (cols rows : Nat) :
    (layout.split target newPane direction).1 = true ∧
      ∃ before old after kept given,
        layout.computePositions cols rows = before ++ (target, old) :: after ∧
        (layout.split target newPane direction).2.computePositions cols rows =
          before ++ (target, kept) :: (newPane, given) :: after ∧
        Partitions [kept.cells, given.cells] old.cells := by
  -- A split changes one rectangle of the list, into two that partition it.
  obtain ⟨root⟩ := layout
  subst tree
  obtain ⟨found, changed⟩ := LayoutNode.split_positions newPane direction present
  exact ⟨found, changed (.whole cols rows)⟩

omit [Ratio R] in
theorem removePane_root (layout : LayoutEngine R) (id : PaneId) :
    (layout.removePane id).2.root = layout.root.bind fun root => LayoutNode.left (root.remove id) := by
  obtain ⟨root⟩ := layout
  cases root with
  | none => rfl
  | some root =>
    simp only [removePane, Option.bind_some]
    cases root.remove id with
    | mk outcome next => cases outcome <;> rfl

theorem removePane_local {root sub : LayoutNode R} {layout : LayoutEngine R} (tree : layout.root = some root)
    (distinct : layout.paneIds.Nodup) {target : PaneId} (sibling : LayoutNode.Sibling target root sub)
    (cols rows : Nat) :
    ∃ before after removed region whole,
      (layout.computePositions cols rows = before ++ (target, removed) :: sub.positions region ++ after ∨
        layout.computePositions cols rows = before ++ (sub.positions region ++ [(target, removed)]) ++ after) ∧
      (layout.removePane target).2.computePositions cols rows = before ++ sub.positions whole ++ after ∧
      Disjoint removed.cells region.cells ∧
      Partitions ((sub.positions region).map fun placed => placed.2.cells) region.cells ∧
      Partitions ((sub.positions whole).map fun placed => placed.2.cells) (removed.cells ∪ region.cells) := by
  -- A removal changes the rectangles of the pane and of its sibling subtree, which takes over the area of both.
  obtain ⟨root⟩ := layout
  subst tree
  obtain ⟨next, removedTo, changed⟩ := LayoutNode.remove_positions sibling distinct
  obtain ⟨before, after, removed, region, whole, was, now, parts⟩ := changed (.whole cols rows)
  have nextRoot : (removePane { root := some root } target).2.root = some next := by
    rw [removePane_root, Option.bind_some, removedTo]
  have union : whole.cells = removed.cells ∪ region.cells := Set.ext parts.pair_covers
  refine ⟨before, after, removed, region, whole, was, ?_, parts.pair_apart, sub.positions_partition region,
    union ▸ sub.positions_partition whole⟩
  rw [computePositions, nextRoot]
  exact now

theorem edits_local {root : LayoutNode R} {layout : LayoutEngine R} (tree : layout.root = some root)
    (distinct : layout.paneIds.Nodup) (cols rows : Nat) :
    (∀ target ∈ layout.paneIds, ∀ newPane direction,
      (layout.split target newPane direction).1 = true ∧
        ∃ before old after kept given,
          layout.computePositions cols rows = before ++ (target, old) :: after ∧
          (layout.split target newPane direction).2.computePositions cols rows =
            before ++ (target, kept) :: (newPane, given) :: after ∧
          Partitions [kept.cells, given.cells] old.cells) ∧
    ∀ target sub, LayoutNode.Sibling target root sub ->
      ∃ before after removed region whole,
        (layout.computePositions cols rows = before ++ (target, removed) :: sub.positions region ++ after ∨
          layout.computePositions cols rows = before ++ (sub.positions region ++ [(target, removed)]) ++ after) ∧
        (layout.removePane target).2.computePositions cols rows = before ++ sub.positions whole ++ after ∧
        Disjoint removed.cells region.cells ∧
        Partitions ((sub.positions region).map fun placed => placed.2.cells) region.cells ∧
        Partitions ((sub.positions whole).map fun placed => placed.2.cells) (removed.cells ∪ region.cells) := by
  constructor
  next =>
    intro target present newPane direction
    exact split_local tree present newPane direction cols rows
  next =>
    intro target sub sibling
    exact removePane_local tree distinct sibling cols rows

open LayoutNode in
theorem edits_local_two_panes :
    let sub : LayoutNode Rat := Split .horizontal (1 / 3) (Leaf 2) (Leaf 1)
    let layout : LayoutEngine Rat := { root := some (Split .vertical (1 / 2) (Leaf 0) sub) }
    (∃ before old after kept given,
      layout.computePositions 5 3 = before ++ (2, old) :: after ∧
      (layout.split 2 3 .vertical).2.computePositions 5 3 = before ++ (2, kept) :: (3, given) :: after ∧
      Partitions [kept.cells, given.cells] old.cells) ∧
    ∃ before after removed region whole,
      (layout.computePositions 5 3 = before ++ (0, removed) :: sub.positions region ++ after ∨
        layout.computePositions 5 3 = before ++ (sub.positions region ++ [(0, removed)]) ++ after) ∧
      (layout.removePane 0).2.computePositions 5 3 = before ++ sub.positions whole ++ after ∧
      Disjoint removed.cells region.cells ∧
      Partitions ((sub.positions region).map fun placed => placed.2.cells) region.cells ∧
      Partitions ((sub.positions whole).map fun placed => placed.2.cells) (removed.cells ∪ region.cells) := by
  intro sub layout
  obtain ⟨splits, removals⟩ := @edits_local Rat _ _ layout rfl (by decide) 5 3
  exact ⟨(splits 2 (by decide) 3 .vertical).2, removals 0 sub (.first .vertical (1 / 2) sub)⟩

end LayoutEngine

end Emux
