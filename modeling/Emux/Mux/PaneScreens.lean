import Emux.Mux.TabRuns
import Emux.Term.PaneSize

set_option autoImplicit false

/-!
# The screens of a resized tab

After a resize every listed pane's screen is resized to its rectangle. A resize event leaves a row for the
status bar and passes one row less than it has, a message passes its rows as they are.
-/

namespace Emux

open Checked

namespace Tab

variable {R : Type} [Ratio R]

structure Roomy (tab : Tab R) (cols rows : Nat) : Prop where
  someCols : 0 < cols
  someRows : 0 < rows
  splits : tab.fullscreenPane = none -> ∀ root, tab.layout.root = some root ->
    ∀ extents ∈ root.divided (.whole cols rows), ∀ extent ∈ extents, 2 ≤ extent
  floating : tab.showFloating = true -> ∀ floating ∈ tab.floatingPanes, floating.visible = true ->
    0 < floating.width ∧ 0 < floating.height

def Filled (positions : List (PaneId × PanePosition)) : Prop := ∀ placed ∈ positions, 0 < placed.2.cols ∧ 0 < placed.2.rows

omit [Ratio R] in
theorem visibleFloating_filled_iff (tab : Tab R) :
    Filled tab.visibleFloating ↔ (tab.showFloating = true -> ∀ floating ∈ tab.floatingPanes,
      floating.visible = true -> 0 < floating.width ∧ 0 < floating.height) := by
  unfold visibleFloating Filled
  cases tab.showFloating with
  | false => simp
  | true => simp only [if_true, List.forall_mem_map, List.mem_filter, and_imp, forall_const]

theorem resize_filled_iff {tab : Tab R} {root : LayoutNode R} (tree : tab.layout.root = some root) (cols rows : Nat) :
    Filled (tab.resize cols rows).computePositions ↔ tab.Roomy cols rows := by
  -- A resize changes the tree's area, and neither what floats nor what is fullscreen.
  have floating : (tab.resize cols rows).visibleFloating = tab.visibleFloating := rfl
  have fullscreen : (tab.resize cols rows).fullscreenPane = tab.fullscreenPane := rfl
  have tiled : (tab.resize cols rows).tiledPositions = root.positions (.whole cols rows) := by
    unfold tiledPositions LayoutEngine.computePositions
    rw [show (tab.resize cols rows).layout = tab.layout from rfl, tree]
    rfl
  have split : Filled (tab.resize cols rows).computePositions ↔ ((0 < cols ∧ 0 < rows) ∧
      (tab.fullscreenPane = none -> ∀ extents ∈ root.divided (.whole cols rows), ∀ extent ∈ extents, 2 ≤ extent)) ∧
      Filled tab.visibleFloating := by
    unfold computePositions
    rw [Filled, List.forall_mem_append, floating, fullscreen, tiled]
    refine and_congr_left fun _ => ?_
    cases tab.fullscreenPane with
    | some id =>
      simp only [List.forall_mem_singleton, reduceCtorEq, false_implies, and_true]
      exact Iff.rfl
    | none =>
      simp only [forall_const]
      exact root.positions_positive_iff (.whole cols rows)
  rw [split, visibleFloating_filled_iff]
  constructor
  next =>
    rintro ⟨⟨⟨someCols, someRows⟩, splits⟩, floats⟩
    refine ⟨someCols, someRows, fun none other is => ?_, floats⟩
    obtain rfl := Option.some.inj (tree.symm.trans is)
    exact splits none
  next => exact fun roomy => ⟨⟨⟨roomy.someCols, roomy.someRows⟩, fun none => roomy.splits none root tree⟩, roomy.floating⟩

theorem resize_runs_iff {tab : Tab R} {root : LayoutNode R} (tree : tab.layout.root = some root)
    {screens : PaneId -> Screen} (resizable : ∀ id, Screen.Resizable (screens id)) (cols rows : Nat) :
    (∀ placed ∈ (tab.resize cols rows).computePositions, (screens placed.1).Runs placed.2.cols placed.2.rows) ↔
      tab.Roomy cols rows ∧
        ∀ placed ∈ (tab.resize cols rows).computePositions, (screens placed.1).sheltered placed.2.rows = true := by
  rw [← resize_filled_iff tree]
  simp only [Filled, Screen.runs_iff (resizable _), ← and_assoc]
  exact forall₂_and

theorem new_resizable {cols rows : Nat} (someCols : 0 < cols) (someRows : 0 < rows) :
    Screen.Resizable (Screen.new cols rows) := (Screen.new_valid someCols someRows).toFramed.resizable

theorem resize_runs_iff_new :
    (∀ placed ∈ ((Tab.new 0 "Tab 1" 80 24 : Tab Rat).resize 1 23).computePositions,
        (Screen.new 80 24).Runs placed.2.cols placed.2.rows) ↔
      (Tab.new 0 "Tab 1" 80 24 : Tab Rat).Roomy 1 23 ∧
        ∀ placed ∈ ((Tab.new 0 "Tab 1" 80 24 : Tab Rat).resize 1 23).computePositions,
          (Screen.new 80 24).sheltered placed.2.rows = true :=
  @resize_runs_iff Rat _ (Tab.new 0 "Tab 1" 80 24) (.Leaf 0) rfl (fun _ => Screen.new 80 24)
    (fun _ => new_resizable (by decide) (by decide)) 1 23

/-- In a tab of one column a vertical split leaves a pane without columns, and erasing in it panics. -/
theorem one_column_split_panics :
    ¬ ∀ tab : Tab Rat, step (.splitPane .vertical) (Tab.new 0 "Tab 1" 80 24) = .ok tab ->
      ∀ placed ∈ (tab.resize 1 24).computePositions, (Screen.new 40 24).Runs placed.2.cols placed.2.rows := by
  intro every
  obtain ⟨tab, split, tree, tiled⟩ : ∃ tab : Tab Rat, step (.splitPane .vertical) (Tab.new 0 "Tab 1" 80 24) = .ok tab ∧
      tab.layout.root = some (.Split .vertical (1 / 2) (.Leaf 0) (.Leaf 1)) ∧ tab.fullscreenPane = none :=
    ⟨_, rfl, rfl, rfl⟩
  have filled : Filled (tab.resize 1 24).computePositions := by
    intro placed member
    have runs := (Screen.runs_iff (new_resizable (by decide) (by decide)) _ _).mp (every tab split placed member)
    exact ⟨runs.1, runs.2.1⟩
  have roomy := (resize_filled_iff tree 1 24).mp filled
  have narrow : ∀ extents ∈ [[1], [1]], ∀ extent ∈ extents, 2 ≤ extent := roomy.splits tiled _ tree
  exact absurd (narrow [1] List.mem_cons_self 1 List.mem_cons_self) (by decide)

end Tab

end Emux
