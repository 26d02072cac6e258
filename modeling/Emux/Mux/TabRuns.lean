import Emux.Mux.Structure

set_option autoImplicit false

/-!
# Runs of tab operations

Every operation on a tab as data, and the invariant of all runs.
-/

namespace Emux

open Checked

inductive TabOp where
  | rename (name : String)
  | undoRename
  | updatePane (id : PaneId) (op : PaneOp)
  | splitPane (direction : SplitDirection)
  | splitLargestPane
  | closePane (id : PaneId)
  | resize (cols rows : Nat)
  | resizePane (id : PaneId) (direction : ResizeDirection) (amount : Int)
  | setPaneConstraints (id : PaneId) (constraints : PaneConstraints)
  | newFloatingPane
  | newFloatingPaneWithCoords (x y w h : Nat)
  | toggleFloatingPanes
  | closeFloatingPane (id : PaneId)
  | embedFloatingPane (id : PaneId)
  | floatPane (id : PaneId)
  | resizeFloatingPane (id : PaneId) (width height : Nat)
  | moveFloatingPane (id : PaneId) (x y : Nat)
  | bringFloatingToFront (id : PaneId)
  | sendFloatingToBack (id : PaneId)
  | swapFloatingZOrder (a b : PaneId)
  | focusPane (id : PaneId)
  | focusNext
  | focusPrev
  | focusDirection (direction : FocusDirection)
  | toggleFullscreen
  | toggleFullscreenById (id : PaneId)
  | moveActivePane (direction : FocusDirection)
  | movePaneById (id : PaneId) (direction : FocusDirection)
  | movePaneBackwards (id : PaneId)
  deriving DecidableEq, Repr

inductive TabCall (R : Type) where
  | op (op : TabOp)
  | registerSwapLayout (name : String) (minPanes maxPanes : Option Nat) (layout : LayoutNode R)
  | autoSwapLayout
  | nextSwapLayout
  | prevSwapLayout
  deriving DecidableEq, Repr

namespace Tab

variable {R : Type} [Ratio R]

def step : TabOp -> Tab R -> Fallible (Tab R)
  | .rename name, tab => .ok (tab.rename name)
  | .undoRename, tab => .ok tab.undoRename.2
  | .updatePane id op, tab => .ok (tab.updatePane id op)
  | .splitPane direction, tab => (tab.splitPane direction).map Prod.snd
  | .splitLargestPane, tab => tab.splitLargestPane.map Prod.snd
  | .closePane id, tab => .ok (tab.closePane id).2
  | .resize cols rows, tab => .ok (tab.resize cols rows)
  | .resizePane id direction amount, tab => .ok (tab.resizePane id direction amount).2
  | .setPaneConstraints id constraints, tab => .ok (tab.setPaneConstraints id constraints)
  | .newFloatingPane, tab => tab.newFloatingPane.map Prod.snd
  | .newFloatingPaneWithCoords x y w h, tab => (tab.newFloatingPaneWithCoords x y w h).map Prod.snd
  | .toggleFloatingPanes, tab => .ok tab.toggleFloatingPanes
  | .closeFloatingPane id, tab => .ok (tab.closeFloatingPane id).2
  | .embedFloatingPane id, tab => .ok (tab.embedFloatingPane id).2
  | .floatPane id, tab => .ok (tab.floatPane id).2
  | .resizeFloatingPane id width height, tab => .ok (tab.resizeFloatingPane id width height).2
  | .moveFloatingPane id x y, tab => .ok (tab.moveFloatingPane id x y).2
  | .bringFloatingToFront id, tab => .ok (tab.bringFloatingToFront id).2
  | .sendFloatingToBack id, tab => .ok (tab.sendFloatingToBack id).2
  | .swapFloatingZOrder a b, tab => .ok (tab.swapFloatingZOrder a b).2
  | .focusPane id, tab => .ok (tab.focusPane id).2
  | .focusNext, tab => .ok tab.focusNext.2
  | .focusPrev, tab => .ok tab.focusPrev.2
  | .focusDirection direction, tab => .ok (tab.focusDirection direction).2
  | .toggleFullscreen, tab => .ok tab.toggleFullscreen.2
  | .toggleFullscreenById id, tab => .ok (tab.toggleFullscreenById id).2
  | .moveActivePane direction, tab => .ok (tab.moveActivePane direction).2
  | .movePaneById id direction, tab => .ok (tab.movePaneById id direction).2
  | .movePaneBackwards id, tab => .ok (tab.movePaneBackwards id).2

def call : TabCall R -> Tab R -> Fallible (Tab R)
  | .op op, tab => tab.step op
  | .registerSwapLayout name minPanes maxPanes layout, tab =>
    .ok (tab.registerSwapLayout name minPanes maxPanes layout)
  | .autoSwapLayout, tab => .ok tab.autoSwapLayout
  | .nextSwapLayout, tab => .ok tab.nextSwapLayout
  | .prevSwapLayout, tab => .ok tab.prevSwapLayout

theorem new_sound (id : Nat) (name : String) (cols rows : Nat) : (Tab.new id name cols rows : Tab R).Sound where
  tiles :=
    { distinct := List.nodup_singleton 0
      nonempty := List.cons_ne_nil 0 []
      keys := fun other => List.mem_singleton.trans (Keyed.mem_singleton ..).symm
      named := fun other pane looked => by
        obtain ⟨rfl, rfl⟩ := Keyed.lookup_singleton looked
        rfl }
  floatingDistinct := List.nodup_nil
  apart _ member := by cases member
  active := ⟨0, rfl, .inl ((Keyed.mem_singleton ..).mpr rfl)⟩
  fresh other owned := by
    rcases owned with tiled | floating
    next =>
      obtain rfl := (Keyed.mem_singleton ..).mp tiled
      exact Nat.one_pos
    next => cases floating
  synced placed member := by
    obtain rfl : placed = (0, { col := 0, row := 0, cols, rows }) := List.mem_singleton.mp member
    exact ⟨Pane.new 0 cols rows, by rw [Tab.new, ← AList.insert_empty, AList.lookup_insert], rfl⟩

/-- A swap layout that the operation applies by itself has no more slots than there are panes then. -/
def stepFits : TabOp -> Tab R -> Bool
  | .splitPane direction, tab => !tab.canSplitActive direction || tab.autoFits (tab.paneCount + 1)
  | .splitLargestPane, tab => !tab.canSplitLargest || tab.autoFits (tab.paneCount + 1)
  | .closePane id, tab => decide (tab.paneCount ≤ 1) || decide (id ∉ tab.panes) || tab.autoFits (tab.paneCount - 1)
  | _, _ => true

theorem stepFits_noSwaps (op : TabOp) {tab : Tab R} (noSwaps : tab.swapLayouts = []) : stepFits op tab = true := by
  cases op <;> simp [stepFits, autoFits_noSwaps noSwaps]

theorem step_sound (op : TabOp) {tab : Tab R} (sound : tab.Sound) (fits : stepFits op tab = true) :
    Ensures tab.OutOfIds (tab.step op) Sound := by
  -- One operation keeps the structure, and can only fail by running out of pane ids.
  cases op with
  | rename name => exact rename_sound sound name
  | undoRename => exact undoRename_sound sound
  | updatePane id op => exact updatePane_sound sound id op
  | splitPane direction => exact (splitPane_sound sound fun can => by simpa [stepFits, can] using fits).map
  | splitLargestPane => exact (splitLargestPane_sound sound fun can => by simpa [stepFits, can] using fits).map
  | closePane id =>
    refine closePane_sound sound fun tiled several => ?_
    simpa [stepFits, tiled, Nat.not_le.mpr several] using fits
  | resize cols rows => exact resize_sound sound cols rows
  | resizePane id direction amount => exact resizePane_sound sound id direction amount
  | setPaneConstraints id constraints => exact setPaneConstraints_sound sound id constraints
  | newFloatingPane => exact (newFloatingPaneWithCoords_sound sound _ _ _ _).map
  | newFloatingPaneWithCoords x y w h => exact (newFloatingPaneWithCoords_sound sound x y w h).map
  | toggleFloatingPanes => exact toggleFloatingPanes_sound sound
  | closeFloatingPane id => exact closeFloatingPane_sound sound id
  | embedFloatingPane id => exact embedFloatingPane_sound sound id
  | floatPane id => exact floatPane_sound sound id
  | resizeFloatingPane id width height =>
    unfold step resizeFloatingPane
    exact updateFloating_sound sound id fun floating => rfl
  | moveFloatingPane id x y =>
    unfold step moveFloatingPane
    exact updateFloating_sound sound id fun floating => rfl
  | bringFloatingToFront id => exact bringFloatingToFront_sound sound id
  | sendFloatingToBack id =>
    unfold step sendFloatingToBack
    exact restack_sound sound id fun floating others => List.Perm.refl _
  | swapFloatingZOrder a b => exact swapFloatingZOrder_sound sound a b
  | focusPane id => exact focusPane_sound sound id
  | focusNext => exact focusCycle_sound sound _ head?_picks
  | focusPrev => exact focusCycle_sound sound _ getLast?_picks
  | focusDirection direction => exact focusDirection_sound sound direction
  | toggleFullscreen => exact toggleFullscreen_sound sound
  | toggleFullscreenById id => exact toggleFullscreenById_sound sound id
  | moveActivePane direction => exact moveActivePane_sound sound direction
  | movePaneById id direction => exact movePaneById_sound sound id direction
  | movePaneBackwards id => exact movePaneBackwards_sound sound id

structure Keeps (tab next : Tab R) : Prop where
  swapLayouts : next.swapLayouts = tab.swapLayouts
  nextPaneId : next.nextPaneId = tab.nextPaneId
  owns : ∀ id, next.Owns id -> tab.Owns id

structure Grows (tab next : Tab R) : Prop where
  swapLayouts : next.swapLayouts = tab.swapLayouts
  nextPaneId : next.nextPaneId = tab.nextPaneId + 1
  owns : ∀ id, next.Owns id -> tab.Owns id ∨ id = tab.nextPaneId

omit [Ratio R] in
theorem Keeps.trans {tab middle next : Tab R} (first : Keeps tab middle) (second : Keeps middle next) : Keeps tab next :=
  ⟨second.swapLayouts.trans first.swapLayouts, second.nextPaneId.trans first.nextPaneId,
    fun id owned => first.owns id (second.owns id owned)⟩

omit [Ratio R] in
theorem Grows.trans {tab middle next : Tab R} (first : Grows tab middle) (second : Keeps middle next) : Grows tab next :=
  ⟨second.swapLayouts.trans first.swapLayouts, second.nextPaneId.trans first.nextPaneId,
    fun id owned => first.owns id (second.owns id owned)⟩

omit [Ratio R] in
theorem keeps_of_same {tab next : Tab R} (swapLayouts : next.swapLayouts = tab.swapLayouts)
    (nextPaneId : next.nextPaneId = tab.nextPaneId) (panes : next.panes = tab.panes)
    (floating : ∀ id ∈ next.floatingPaneIds, id ∈ tab.floatingPaneIds) : Keeps tab next := by
  -- Layout, focus, fullscreen and size may change freely.
  refine ⟨swapLayouts, nextPaneId, fun id owned => ?_⟩
  unfold Owns at owned ⊢
  rw [panes] at owned
  exact owned.imp_right (floating id)

theorem keeps_sync (tab : Tab R) : Keeps tab tab.syncPaneSizes :=
  ⟨rfl, rfl, fun id owned => (owns_syncPaneSizes tab id).mp owned⟩

theorem keeps_relayout (tab : Tab R) (layout : LayoutEngine R) (activePane : Option PaneId) :
    Keeps tab ({ tab with layout, activePane }.syncPaneSizes : Tab R) :=
  (keeps_of_same rfl rfl rfl fun _ member => member : Keeps tab { tab with layout, activePane }).trans (keeps_sync _)

theorem keeps_applySwapLayoutAt (tab : Tab R) (index : Nat) : Keeps tab (tab.applySwapLayoutAt index) := by
  unfold applySwapLayoutAt
  split
  next swap found =>
    have changed : Keeps tab { tab with
        layout := tab.layout.applyTemplate swap.layout tab.layout.paneIds, currentSwapIndex := some index } :=
      keeps_of_same rfl rfl rfl fun _ member => member
    exact changed.trans (keeps_sync _)
  next => exact keeps_of_same rfl rfl rfl fun _ member => member

theorem keeps_autoSwapLayout (tab : Tab R) : Keeps tab tab.autoSwapLayout := by
  unfold autoSwapLayout
  split
  next =>
    split
    next => exact keeps_applySwapLayoutAt tab _
    next => exact keeps_of_same rfl rfl rfl fun _ member => member
  next => exact keeps_of_same rfl rfl rfl fun _ member => member

theorem autoSwapLayout_panes (tab : Tab R) :
    tab.autoSwapLayout.panes.keys = tab.panes.keys ∧ tab.autoSwapLayout.floatingPanes = tab.floatingPanes := by
  -- Which panes are tiled and which float is not for a swap layout to say.
  have applied : ∀ index, (tab.applySwapLayoutAt index).panes.keys = tab.panes.keys ∧
      (tab.applySwapLayoutAt index).floatingPanes = tab.floatingPanes := by
    intro index
    unfold applySwapLayoutAt
    split
    next => exact ⟨keys_syncPaneSizes _, rfl⟩
    next => exact ⟨rfl, rfl⟩
  unfold autoSwapLayout
  split
  next =>
    split
    next => exact applied _
    next => exact ⟨rfl, rfl⟩
  next => exact ⟨rfl, rfl⟩

theorem mem_splitAt (tab : Tab R) (target : PaneId) (direction : SplitDirection) (cols rows : Nat) (id : PaneId) :
    id ∈ (tab.splitAt target direction cols rows).panes ↔ id = tab.nextPaneId ∨ id ∈ tab.panes := by
  unfold splitAt
  rw [AList.mem_keys, (autoSwapLayout_panes _).1, ← AList.mem_keys]
  exact (mem_resizeAll ..).trans (AList.mem_insert _)

theorem autoSwapLayout_none {tab : Tab R} (noSwaps : tab.swapLayouts = []) :
    tab.autoSwapLayout = { tab with currentSwapIndex := none } := by
  rw [autoSwapLayout, applicableSwapLayoutIndices, noSwaps]
  rfl

theorem closePane_panes {tab : Tab R} (id : PaneId) (several : 1 < tab.paneCount) :
    (tab.closePane id).2.panes.keys = tab.panes.keys.erase id ∧
      (tab.closePane id).2.floatingPanes = tab.floatingPanes := by
  unfold closePane
  rw [if_neg (Nat.not_le.mpr several)]
  split
  next absent => exact ⟨(List.erase_of_not_mem (mt AList.mem_keys.mpr absent)).symm, rfl⟩
  next =>
    refine ⟨(autoSwapLayout_panes _).1.trans ((keys_syncPaneSizes _).trans ?_), (autoSwapLayout_panes _).2⟩
    exact AList.keys_erase id tab.panes

theorem owns_closePane {tab : Tab R} (apart : ∀ id ∈ tab.floatingPaneIds, id ∉ tab.panes) {id : PaneId}
    (tiled : id ∈ tab.panes) (several : 1 < tab.paneCount) (other : PaneId) :
    (tab.closePane id).2.Owns other ↔ tab.Owns other ∧ other ≠ id := by
  -- Closing takes exactly that pane away.
  obtain ⟨keys, floating⟩ := closePane_panes id several
  unfold Owns floatingPaneIds
  rw [floating, AList.mem_keys, keys, ← AList.keys_erase, ← AList.mem_keys, AList.mem_erase, or_and_right, and_comm]
  refine or_congr_right (iff_self_and.mpr ?_)
  rintro floats rfl
  exact apart other floats tiled

theorem grows_splitAt (tab : Tab R) (target : PaneId) (direction : SplitDirection) (cols rows : Nat) :
    Grows tab (tab.splitAt target direction cols rows) := by
  have inserted : Grows tab { tab with
      fullscreenPane := none
      nextPaneId := tab.nextPaneId + 1
      panes := tab.panes.insert tab.nextPaneId (Pane.new tab.nextPaneId cols rows)
      layout := (tab.layout.split target tab.nextPaneId direction).2 } := by
    refine ⟨rfl, rfl, fun id owned => ?_⟩
    rcases owned with tiled | floating
    next =>
      rcases (AList.mem_insert _).mp tiled with same | before
      next => exact .inr same
      next => exact .inl (.inl before)
    next => exact .inl (.inr floating)
  refine (inserted.trans (keeps_sync _)).trans (Keeps.trans ?_ (keeps_autoSwapLayout _))
  exact keeps_of_same rfl rfl rfl fun _ member => member

omit [Ratio R] in
theorem grows_newFloatingPaneWithCoords (tab : Tab R) (x y w h : Nat) :
    Ensures AnyPanic (tab.newFloatingPaneWithCoords x y w h) fun result => Grows tab result.2 := by
  unfold newFloatingPaneWithCoords
  rcases takePaneId_cases tab with taken | ⟨full, -⟩
  next =>
    rw [taken, ok_bind]
    refine ⟨rfl, rfl, fun id owned => ?_⟩
    rcases owned with tiled | floating
    next => exact .inl (.inl tiled)
    next =>
      simp only [floatingPaneIds, List.map_append, List.mem_append, List.map_cons, List.map_nil, List.mem_singleton] at floating
      exact floating.imp .inr fun same => same
  next =>
    rw [full, error_bind]
    trivial

omit [Ratio R] in
theorem keeps_restack (tab : Tab R) (id : PaneId) {place : FloatingPane -> List FloatingPane -> List FloatingPane}
    (keeps : ∀ floating others, (place floating others).Perm (floating :: others)) : Keeps tab (tab.restack id place).2 := by
  unfold restack
  split
  next => exact keeps_of_same rfl rfl rfl fun _ member => member
  next floating others taken =>
    obtain ⟨named, perm⟩ := takeFloating_ids taken
    have placed := (keeps floating others).map FloatingPane.id
    rw [List.map_cons, named] at placed
    exact keeps_of_same rfl rfl rfl fun _ member => (placed.trans perm.symm).mem_iff.mp member

omit [Ratio R] in
theorem keeps_updateFloating (tab : Tab R) (id : PaneId) {update : FloatingPane -> FloatingPane}
    (keeps : ∀ floating, (update floating).id = floating.id) : Keeps tab (tab.updateFloating id update).2 := by
  have ids := updateFloating_ids tab id keeps
  unfold updateFloating at ids ⊢
  split
  next => exact keeps_of_same rfl rfl rfl fun _ member => member
  next index found =>
    simp only [found] at ids
    exact keeps_of_same rfl rfl rfl fun _ member => ids ▸ member

omit [Ratio R] in
theorem keeps_bringFloatingToFront (tab : Tab R) (id : PaneId) : Keeps tab (tab.bringFloatingToFront id).2 :=
  keeps_restack tab id fun floating others => List.perm_append_singleton floating others

omit [Ratio R] in
theorem keeps_focusCycle (tab : Tab R) (step : Nat -> Nat -> Nat) (fallback : List PaneId -> Option PaneId) :
    Keeps tab (tab.focusCycle step fallback).2 := by
  unfold focusCycle
  simp only
  split
  next => exact keeps_of_same rfl rfl rfl fun _ member => member
  next =>
    split
    next =>
      split
      next =>
        refine Keeps.trans ?_ (keeps_bringFloatingToFront _ _)
        exact keeps_of_same rfl rfl rfl fun _ member => member
      next => exact keeps_of_same rfl rfl rfl fun _ member => member
    next => exact keeps_of_same rfl rfl rfl fun _ member => member

theorem keeps_closePane (tab : Tab R) (id : PaneId) : Keeps tab (tab.closePane id).2 := by
  unfold closePane
  split
  next => exact keeps_of_same rfl rfl rfl fun _ member => member
  next =>
    split
    next => exact keeps_of_same rfl rfl rfl fun _ member => member
    next =>
      refine Keeps.trans (Keeps.trans ?_ (keeps_sync _)) (keeps_autoSwapLayout _)
      exact ⟨rfl, rfl, fun other owned => owned.imp_left fun there => (AList.mem_erase.mp there).2⟩

omit [Ratio R] in
theorem keeps_closeFloatingPane (tab : Tab R) (id : PaneId) : Keeps tab (tab.closeFloatingPane id).2 := by
  unfold closeFloatingPane
  split
  next => exact keeps_of_same rfl rfl rfl fun _ member => member
  next floating others taken =>
    obtain ⟨-, perm⟩ := takeFloating_ids taken
    exact keeps_of_same rfl rfl rfl fun _ member => perm.mem_iff.mpr (List.mem_cons_of_mem _ member)

theorem keeps_embedFloatingPane (tab : Tab R) (id : PaneId) : Keeps tab (tab.embedFloatingPane id).2 := by
  unfold embedFloatingPane
  split
  next => exact keeps_of_same rfl rfl rfl fun _ member => member
  next floating others taken =>
    obtain ⟨-, perm⟩ := takeFloating_ids taken
    have embedded : Keeps tab { tab with
        floatingPanes := others, panes := tab.panes.insert id floating.pane, layout := tab.layout.addPane id } := by
      refine ⟨rfl, rfl, fun other owned => ?_⟩
      rcases owned with tiled | member
      next =>
        rcases (AList.mem_insert _).mp tiled with rfl | there
        next => exact .inr (perm.mem_iff.mpr List.mem_cons_self)
        next => exact .inl there
      next => exact .inr (perm.mem_iff.mpr (List.mem_cons_of_mem _ member))
    refine (embedded.trans (keeps_sync _)).trans ?_
    exact keeps_of_same rfl rfl rfl fun _ member => member

theorem keeps_floatPane {tab : Tab R} (named : ∀ id pane, tab.panes.lookup id = some pane -> pane.id = id) (id : PaneId) :
    Keeps tab (tab.floatPane id).2 := by
  unfold floatPane
  split
  next => exact keeps_of_same rfl rfl rfl fun _ member => member
  next pane found =>
    split
    next => exact keeps_of_same rfl rfl rfl fun _ member => member
    next =>
      refine ⟨rfl, rfl, fun other owned => ?_⟩
      rcases owned with tiled | floating
      next => exact .inl (AList.mem_erase.mp ((mem_resizeAll ..).mp tiled)).2
      next =>
        simp only [floatingPaneIds, List.map_append, List.mem_append, List.map_cons, List.map_nil, List.mem_singleton] at floating
        rcases floating with before | same
        next => exact .inr before
        next =>
          have name : other = id := same.trans (named id pane found)
          exact .inl (name ▸ AList.lookup_isSome.mp (by simp [found]))

omit [Ratio R] in
theorem keeps_focusPane (tab : Tab R) (id : PaneId) : Keeps tab (tab.focusPane id).2 := by
  unfold focusPane
  split
  next => exact keeps_of_same rfl rfl rfl fun _ member => member
  next =>
    split
    next =>
      refine Keeps.trans ?_ (keeps_bringFloatingToFront _ id)
      exact keeps_of_same rfl rfl rfl fun _ member => member
    next => exact keeps_of_same rfl rfl rfl fun _ member => member

def takesPaneId : TabOp -> Tab R -> Bool
  | .splitPane direction, tab => tab.canSplitActive direction
  | .splitLargestPane, tab => tab.canSplitLargest
  | .newFloatingPane, _ => true
  | .newFloatingPaneWithCoords _ _ _ _, _ => true
  | _, _ => false

theorem step_grows {op : TabOp} {tab : Tab R} (takes : takesPaneId op tab = true) :
    Ensures AnyPanic (tab.step op) (Grows tab) := by
  cases op with
  | splitPane direction =>
    refine Ensures.map (((splitPane_cases tab direction).allow fun _ _ => trivial).weaken fun result cases => ?_)
    rcases cases with ⟨-, cannot⟩ | ⟨target, cols, rows, -, -, rfl, -⟩
    next => exact absurd takes (by simp [takesPaneId, cannot])
    next => exact grows_splitAt tab target direction cols rows
  | splitLargestPane =>
    refine Ensures.map (((splitLargestPane_cases tab).allow fun _ _ => trivial).weaken fun result cases => ?_)
    rcases cases with ⟨-, cannot⟩ | ⟨target, direction, cols, rows, -, rfl, -⟩
    next => exact absurd takes (by simp [takesPaneId, cannot])
    next => exact grows_splitAt tab target direction cols rows
  | newFloatingPane => exact (grows_newFloatingPaneWithCoords tab _ _ _ _).map
  | newFloatingPaneWithCoords x y w h => exact (grows_newFloatingPaneWithCoords tab x y w h).map
  | _ => cases takes

theorem step_keeps {op : TabOp} {tab : Tab R} (sound : tab.Sound) (takes : takesPaneId op tab = false) :
    Ensures AnyPanic (tab.step op) (Keeps tab) := by
  have idle : Keeps tab tab := keeps_of_same rfl rfl rfl fun _ member => member
  cases op with
  | rename name => exact keeps_of_same rfl rfl rfl fun _ member => member
  | undoRename =>
    show Keeps tab tab.undoRename.2
    rw [undoRename_tab]
    exact keeps_of_same rfl rfl rfl fun _ member => member
  | updatePane id op =>
    exact ⟨rfl, rfl, fun other owned => owned.imp_left fun there => (Keyed.mem_modify ..).mp there⟩
  | splitPane direction =>
    refine Ensures.map (((splitPane_cases tab direction).allow fun _ _ => trivial).weaken fun result cases => ?_)
    rcases cases with ⟨rfl, -⟩ | ⟨target, cols, rows, -, -, -, can⟩
    next => exact keeps_of_same rfl rfl rfl fun _ member => member
    next => exact absurd takes (by simp [takesPaneId, can])
  | splitLargestPane =>
    refine Ensures.map (((splitLargestPane_cases tab).allow fun _ _ => trivial).weaken fun result cases => ?_)
    rcases cases with ⟨rfl, -⟩ | ⟨target, direction, cols, rows, -, -, can⟩
    next => exact keeps_of_same rfl rfl rfl fun _ member => member
    next => exact absurd takes (by simp [takesPaneId, can])
  | closePane id => exact keeps_closePane tab id
  | resize cols rows =>
    refine Keeps.trans ?_ (keeps_sync { tab with size := { rows, cols } })
    exact keeps_of_same rfl rfl rfl fun _ member => member
  | resizePane id direction amount =>
    show Keeps tab (tab.resizePane id direction amount).2
    rcases resizePane_cases tab id direction amount with refused | ⟨delta, adjusted⟩
    next =>
      rw [refused]
      exact idle
    next =>
      rw [adjusted]
      rcases adjustRatio_cases tab id (resizeAxis direction) delta with kept | ⟨layout, -, changed⟩
      next =>
        rw [kept]
        exact idle
      next =>
        rw [changed]
        exact keeps_relayout tab layout tab.activePane
  | setPaneConstraints id constraints =>
    exact ⟨rfl, rfl, fun other owned => owned.imp_left fun there => (Keyed.mem_modify ..).mp there⟩
  | newFloatingPane => cases takes
  | newFloatingPaneWithCoords x y w h => cases takes
  | toggleFloatingPanes =>
    show Keeps tab tab.toggleFloatingPanes
    unfold toggleFloatingPanes
    split
    next => split <;> exact keeps_of_same rfl rfl rfl fun _ member => member
    next => split <;> exact keeps_of_same rfl rfl rfl fun _ member => member
  | closeFloatingPane id => exact keeps_closeFloatingPane tab id
  | embedFloatingPane id => exact keeps_embedFloatingPane tab id
  | floatPane id => exact keeps_floatPane sound.tiles.named id
  | resizeFloatingPane id width height =>
    unfold step resizeFloatingPane
    exact keeps_updateFloating tab id fun floating => rfl
  | moveFloatingPane id x y =>
    unfold step moveFloatingPane
    exact keeps_updateFloating tab id fun floating => rfl
  | bringFloatingToFront id => exact keeps_bringFloatingToFront tab id
  | sendFloatingToBack id =>
    unfold step sendFloatingToBack
    exact keeps_restack tab id fun floating others => List.Perm.refl _
  | swapFloatingZOrder a b =>
    show Keeps tab (tab.swapFloatingZOrder a b).2
    obtain ⟨floatingPanes, perm, same⟩ := swapFloatingZOrder_perm tab a b
    rw [same]
    exact keeps_of_same rfl rfl rfl fun _ member => (perm.map FloatingPane.id).mem_iff.mp member
  | focusPane id => exact keeps_focusPane tab id
  | focusNext => exact keeps_focusCycle tab _ _
  | focusPrev => exact keeps_focusCycle tab _ _
  | focusDirection direction =>
    show Keeps tab (tab.focusDirection direction).2
    unfold focusDirection
    split <;> exact keeps_of_same rfl rfl rfl fun _ member => member
  | toggleFullscreen =>
    show Keeps tab tab.toggleFullscreen.2
    unfold toggleFullscreen
    split
    next => exact keeps_of_same rfl rfl rfl fun _ member => member
    next => split <;> exact keeps_of_same rfl rfl rfl fun _ member => member
  | toggleFullscreenById id =>
    show Keeps tab (tab.toggleFullscreenById id).2
    unfold toggleFullscreenById
    split
    next => exact idle
    next => split <;> exact keeps_of_same rfl rfl rfl fun _ member => member
  | moveActivePane direction =>
    show Keeps tab (tab.moveActivePane direction).2
    rcases moveActivePane_cases tab direction with ⟨refused, -⟩ | ⟨active, layout, -, -, -, -, moved⟩
    next =>
      rw [refused]
      exact idle
    next =>
      rw [moved]
      exact keeps_relayout tab layout tab.activePane
  | movePaneById id direction =>
    show Keeps tab (tab.movePaneById id direction).2
    rcases movePaneById_cases tab id direction with ⟨refused, -⟩ | ⟨layout, -, -, -, moved⟩
    next =>
      rw [refused]
      exact idle
    next =>
      rw [moved]
      exact keeps_relayout tab layout (some id)
  | movePaneBackwards id =>
    show Keeps tab (tab.movePaneBackwards id).2
    rcases movePaneBackwards_cases sound.tiles.distinct id with refused | ⟨layout, -, moved⟩
    next =>
      rw [refused]
      exact idle
    next =>
      rw [moved]
      exact keeps_relayout tab layout tab.activePane

theorem step_swapLayouts (op : TabOp) {tab : Tab R} (sound : tab.Sound) :
    Ensures AnyPanic (tab.step op) fun next => next.swapLayouts = tab.swapLayouts := by
  cases takes : takesPaneId op tab with
  | true => exact (step_grows takes).weaken fun next grows => grows.swapLayouts
  | false => exact (step_keeps sound takes).weaken fun next keeps => keeps.swapLayouts

theorem step_counter (op : TabOp) {tab : Tab R} (sound : tab.Sound) :
    Ensures AnyPanic (tab.step op) fun next => next.nextPaneId ≤ tab.nextPaneId + 1 := by
  cases takes : takesPaneId op tab with
  | true => exact (step_grows takes).weaken fun next grows => Nat.le_of_eq grows.nextPaneId
  | false => exact (step_keeps sound takes).weaken fun next keeps => Nat.le_trans (Nat.le_of_eq keeps.nextPaneId) (Nat.le_succ _)

structure SoundAfter (count : Nat) (tab : Tab R) : Prop where
  sound : tab.Sound
  swapLayouts : tab.swapLayouts = []
  counter : tab.nextPaneId ≤ count + 1

theorem step_soundAfter {count : Nat} (op : TabOp) {tab : Tab R} (good : SoundAfter count tab) :
    Ensures (fun panic => panic = .arithmetic ∧ 2 ^ 32 ≤ count + 1 + 1) (tab.step op) (SoundAfter (count + 1)) := by
  have kept := (step_sound op good.sound (stepFits_noSwaps op good.swapLayouts)).and
    ((step_swapLayouts op good.sound).and (step_counter op good.sound))
  have counter : tab.nextPaneId + 1 ≤ count + 1 + 1 := Nat.succ_le_succ good.counter
  refine (kept.allow fun panic spent => ⟨spent.1, Nat.le_trans spent.2 counter⟩).weaken ?_
  rintro next ⟨sound, same, moved⟩
  exact ⟨sound, same.trans good.swapLayouts, Nat.le_trans moved counter⟩

theorem reachable_sound (ops : List TabOp) (id : Nat) (name : String) (cols rows : Nat) :
    Ensures (fun panic => panic = .arithmetic ∧ 2 ^ 32 ≤ ops.length + 1)
      (run step ops (Tab.new id name cols rows : Tab R)) Sound := by
  have start : SoundAfter 0 (Tab.new id name cols rows : Tab R) := ⟨new_sound id name cols rows, rfl, Nat.le_refl 1⟩
  have counted := @run_ensures_counted TabOp (Tab R) (fun count panic => panic = .arithmetic ∧ 2 ^ 32 ≤ count + 1) step
    SoundAfter (fun count op tab good => step_soundAfter op good)
    (fun count panic spent => ⟨spent.1, Nat.le_succ_of_le spent.2⟩) ops 0 _ start
  rw [Nat.zero_add] at counted
  exact counted.weaken fun tab good => good.sound

end Tab

end Emux
