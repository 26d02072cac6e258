import Emux.Mux.TabRuns

set_option autoImplicit false

/-!
# Floating panes on the screen

Creating, moving and resizing a floating pane clamp its rectangle to the tab. Floating a tiled pane does not clamp
the least size, and a resize of the tab leaves the rectangles alone.
-/

namespace Emux

open Checked

def FloatingPane.Inside (floating : FloatingPane) (size : PaneSize) : Prop :=
  floating.x + floating.width ≤ size.cols ∧ floating.y + floating.height ≤ size.rows

instance (floating : FloatingPane) (size : PaneSize) : Decidable (floating.Inside size) :=
  inferInstanceAs (Decidable (_ ∧ _))

namespace Tab

variable {R : Type}

def AllInside (tab : Tab R) (size : PaneSize) : Prop := ∀ floating ∈ tab.floatingPanes, floating.Inside size

def OnScreen (tab : Tab R) : Prop := tab.AllInside tab.size

instance (tab : Tab R) (size : PaneSize) : Decidable (tab.AllInside size) :=
  inferInstanceAs (Decidable (∀ floating ∈ _, _))

instance (tab : Tab R) : Decidable tab.OnScreen := inferInstanceAs (Decidable (tab.AllInside _))

structure Stays (tab next : Tab R) : Prop where
  id : next.id = tab.id
  size : next.size = tab.size
  floats : tab.OnScreen -> next.OnScreen

namespace Stays

variable {tab middle next : Tab R}

theorem trans (first : Stays tab middle) (second : Stays middle next) : Stays tab next :=
  ⟨second.id.trans first.id, second.size.trans first.size, second.floats ∘ first.floats⟩

theorem of_subset (id : next.id = tab.id) (size : next.size = tab.size)
    (floats : next.floatingPanes ⊆ tab.floatingPanes) : Stays tab next :=
  ⟨id, size, fun inside floating member => size ▸ inside floating (floats member)⟩

theorem of_same (id : next.id = tab.id) (size : next.size = tab.size)
    (floats : next.floatingPanes = tab.floatingPanes) : Stays tab next :=
  of_subset id size (floats ▸ List.Subset.refl _)

theorem refl (tab : Tab R) : Stays tab tab := of_same rfl rfl rfl

end Stays

theorem stays_restack (tab : Tab R) (id : PaneId) {place : FloatingPane -> List FloatingPane -> List FloatingPane}
    (keeps : ∀ floating others, (place floating others).Perm (floating :: others)) :
    Stays tab (tab.restack id place).2 := by
  unfold restack
  split
  next => exact .refl tab
  next floating others taken =>
    obtain ⟨before, after, list, rfl, -⟩ := takeFloating_some taken
    have perm : (place floating (before ++ after)).Perm tab.floatingPanes := by
      rw [list]
      exact (keeps _ _).trans List.perm_middle.symm
    exact .of_subset rfl rfl perm.subset

theorem stays_bringFloatingToFront (tab : Tab R) (id : PaneId) : Stays tab (tab.bringFloatingToFront id).2 :=
  stays_restack tab id fun floating others => List.perm_append_singleton floating others

theorem stays_sendFloatingToBack (tab : Tab R) (id : PaneId) : Stays tab (tab.sendFloatingToBack id).2 :=
  stays_restack tab id fun _ _ => List.Perm.refl _

theorem taken_subset {tab : Tab R} {id : PaneId} {floating : FloatingPane} {others : List FloatingPane}
    (taken : tab.takeFloating id = some (floating, others)) : others ⊆ tab.floatingPanes := by
  obtain ⟨before, after, list, rfl, -⟩ := takeFloating_some taken
  rw [list]
  exact ((List.Sublist.refl before).append (List.sublist_cons_self floating after)).subset

theorem stays_closeFloatingPane (tab : Tab R) (id : PaneId) : Stays tab (tab.closeFloatingPane id).2 := by
  unfold closeFloatingPane
  split
  next => exact .refl tab
  next floating others taken => exact .of_subset rfl rfl (taken_subset taken)

theorem stays_embedFloatingPane [Ratio R] (tab : Tab R) (id : PaneId) : Stays tab (tab.embedFloatingPane id).2 := by
  unfold embedFloatingPane
  split
  next => exact .refl tab
  next floating others taken => exact .of_subset rfl rfl (taken_subset taken)

theorem stays_swapFloatingZOrder (tab : Tab R) (a b : PaneId) : Stays tab (tab.swapFloatingZOrder a b).2 := by
  obtain ⟨floatingPanes, perm, same⟩ := swapFloatingZOrder_perm tab a b
  rw [same]
  exact .of_subset rfl rfl perm.subset

theorem stays_updateFloating (tab : Tab R) (id : PaneId) {update : FloatingPane -> FloatingPane}
    (keeps : ∀ floating, floating.Inside tab.size -> (update floating).Inside tab.size) :
    Stays tab (tab.updateFloating id update).2 := by
  unfold updateFloating
  split
  next => exact .refl tab
  next index found =>
    refine ⟨rfl, rfl, fun inside floating member => ?_⟩
    obtain ⟨i, bound, is⟩ := List.mem_iff_getElem.mp member
    rw [List.getElem_modify] at is
    rw [← is]
    split
    next => exact keeps _ (inside _ (List.getElem_mem _))
    next => exact inside _ (List.getElem_mem _)

theorem stays_resizeFloatingPane (tab : Tab R) (id : PaneId) (width height : Nat) :
    Stays tab (tab.resizeFloatingPane id width height).2 := by
  refine stays_updateFloating tab id fun floating _ => ?_
  unfold FloatingPane.Inside
  dsimp only
  omega

theorem stays_moveFloatingPane (tab : Tab R) (id : PaneId) (x y : Nat) : Stays tab (tab.moveFloatingPane id x y).2 := by
  refine stays_updateFloating tab id fun floating inside => ?_
  unfold FloatingPane.Inside at inside ⊢
  dsimp only
  omega

theorem allInside_append {tab : Tab R} {floatingPanes : List FloatingPane} {floating : FloatingPane} {size : PaneSize}
    (list : floatingPanes = tab.floatingPanes ++ [floating]) :
    (∀ other ∈ floatingPanes, other.Inside size) ↔ tab.AllInside size ∧ floating.Inside size := by
  rw [list, List.forall_mem_append, List.forall_mem_singleton]
  exact Iff.rfl

theorem stays_newFloatingPaneWithCoords (tab : Tab R) (x y w h : Nat) :
    Ensures tab.OutOfIds (tab.newFloatingPaneWithCoords x y w h) fun result => Stays tab result.2 := by
  unfold newFloatingPaneWithCoords
  rcases takePaneId_cases tab with taken | ⟨full, spent⟩
  next =>
    rw [taken, ok_bind]
    refine ⟨rfl, rfl, fun inside => (allInside_append rfl).mpr ⟨inside, ?_⟩⟩
    unfold FloatingPane.Inside
    dsimp only
    omega
  next =>
    rw [full, error_bind]
    exact spent

section Tiled

variable [Ratio R]

theorem stays_applySwapLayoutAt (tab : Tab R) (index : Nat) : Stays tab (tab.applySwapLayoutAt index) := by
  unfold applySwapLayoutAt
  split
  next => exact .of_same rfl rfl rfl
  next => exact .refl tab

theorem stays_autoSwapLayout (tab : Tab R) : Stays tab tab.autoSwapLayout := by
  unfold autoSwapLayout
  split
  next =>
    split
    next => exact stays_applySwapLayoutAt tab _
    next => exact .refl tab
  next => exact .of_same rfl rfl rfl

theorem stays_nextSwapLayout (tab : Tab R) : Stays tab tab.nextSwapLayout := by
  unfold nextSwapLayout
  simp only
  split
  next => exact .refl tab
  next =>
    split
    next => exact stays_applySwapLayoutAt tab _
    next => exact .refl tab

theorem stays_prevSwapLayout (tab : Tab R) : Stays tab tab.prevSwapLayout := by
  unfold prevSwapLayout
  simp only
  split
  next => exact .refl tab
  next =>
    split
    next => exact stays_applySwapLayoutAt tab _
    next => exact .refl tab

omit [Ratio R] in
theorem stays_registerSwapLayout (tab : Tab R) (name : String) (minPanes maxPanes : Option Nat)
    (layout : LayoutNode R) : Stays tab (tab.registerSwapLayout name minPanes maxPanes layout) := by
  unfold registerSwapLayout
  split
  next => exact .of_same rfl rfl rfl
  next => exact .of_same rfl rfl rfl

theorem stays_splitAt (tab : Tab R) (target : PaneId) (direction : SplitDirection) (cols rows : Nat) :
    Stays tab (tab.splitAt target direction cols rows) := by
  unfold splitAt
  refine Stays.trans ?_ (stays_autoSwapLayout _)
  exact .of_same rfl rfl rfl

theorem stays_splitPane (tab : Tab R) (direction : SplitDirection) :
    Ensures tab.OutOfIds (tab.splitPane direction) fun result => Stays tab result.2 := by
  refine (splitPane_cases tab direction).weaken fun result cases => ?_
  rcases cases with ⟨rfl, -⟩ | ⟨target, cols, rows, -, -, rfl, -⟩
  next => exact .of_same rfl rfl rfl
  next => exact stays_splitAt tab target direction cols rows

theorem stays_splitLargestPane (tab : Tab R) :
    Ensures tab.OutOfIds tab.splitLargestPane fun result => Stays tab result.2 := by
  refine (splitLargestPane_cases tab).weaken fun result cases => ?_
  rcases cases with ⟨rfl, -⟩ | ⟨target, direction, cols, rows, -, rfl, -⟩
  next => exact .of_same rfl rfl rfl
  next => exact stays_splitAt tab target direction cols rows

theorem stays_closePane (tab : Tab R) (id : PaneId) : Stays tab (tab.closePane id).2 := by
  unfold closePane
  split
  next => exact .refl tab
  next =>
    split
    next => exact .refl tab
    next =>
      refine Stays.trans ?_ (stays_autoSwapLayout _)
      exact .of_same rfl rfl rfl

theorem stays_adjustRatio (tab : Tab R) (id : PaneId) (axis : SplitDirection) (delta : R) :
    Stays tab (tab.adjustRatio id axis delta).2 := by
  rcases adjustRatio_cases tab id axis delta with refused | ⟨layout, -, adjusted⟩
  next =>
    rw [refused]
    exact .refl tab
  next =>
    rw [adjusted]
    exact .of_same rfl rfl rfl

theorem stays_resizePane (tab : Tab R) (id : PaneId) (direction : ResizeDirection) (amount : Int) :
    Stays tab (tab.resizePane id direction amount).2 := by
  rcases resizePane_cases tab id direction amount with refused | ⟨delta, adjusted⟩
  next =>
    rw [refused]
    exact .refl tab
  next =>
    rw [adjusted]
    exact stays_adjustRatio tab id _ delta

theorem stays_swapPanes (tab : Tab R) (a b : PaneId) : Stays tab (tab.swapPanes a b).2 := by
  unfold swapPanes
  split
  next => exact .of_same rfl rfl rfl
  next => exact .of_same rfl rfl rfl

theorem stays_moveActivePane (tab : Tab R) (direction : FocusDirection) :
    Stays tab (tab.moveActivePane direction).2 := by
  unfold moveActivePane
  split
  next => exact .refl tab
  next =>
    split
    next => exact stays_swapPanes tab _ _
    next => exact .refl tab

theorem stays_movePaneById (tab : Tab R) (id : PaneId) (direction : FocusDirection) :
    Stays tab (tab.movePaneById id direction).2 := by
  rcases movePaneById_cases tab id direction with ⟨refused, -⟩ | ⟨layout, -, -, -, moved⟩
  next =>
    rw [refused]
    exact .refl tab
  next =>
    rw [moved]
    exact .of_same rfl rfl rfl

theorem stays_movePaneBackwards (tab : Tab R) (id : PaneId) : Stays tab (tab.movePaneBackwards id).2 := by
  unfold movePaneBackwards
  simp only
  split
  next =>
    split
    next =>
      split
      next => exact stays_swapPanes tab id _
      next => exact .refl tab
    next => exact .refl tab
  next => exact .refl tab

end Tiled

theorem stays_focusPane (tab : Tab R) (id : PaneId) : Stays tab (tab.focusPane id).2 := by
  unfold focusPane
  split
  next => exact .of_same rfl rfl rfl
  next =>
    split
    next =>
      refine Stays.trans ?_ (stays_bringFloatingToFront _ id)
      exact .of_same rfl rfl rfl
    next => exact .refl tab

theorem stays_focusCycle (tab : Tab R) (step : Nat -> Nat -> Nat) (fallback : List PaneId -> Option PaneId) :
    Stays tab (tab.focusCycle step fallback).2 := by
  unfold focusCycle
  simp only
  split
  next => exact .of_same rfl rfl rfl
  next =>
    split
    next =>
      split
      next =>
        refine Stays.trans ?_ (stays_bringFloatingToFront _ _)
        exact .of_same rfl rfl rfl
      next => exact .of_same rfl rfl rfl
    next => exact .of_same rfl rfl rfl

theorem stays_focusDirection [Ratio R] (tab : Tab R) (direction : FocusDirection) :
    Stays tab (tab.focusDirection direction).2 := by
  unfold focusDirection
  split
  next => exact .of_same rfl rfl rfl
  next => exact .refl tab

theorem stays_toggleFullscreen (tab : Tab R) : Stays tab tab.toggleFullscreen.2 := by
  unfold toggleFullscreen
  split
  next => exact .of_same rfl rfl rfl
  next =>
    split
    next => exact .of_same rfl rfl rfl
    next => exact .refl tab

theorem stays_toggleFullscreenById (tab : Tab R) (id : PaneId) : Stays tab (tab.toggleFullscreenById id).2 := by
  unfold toggleFullscreenById
  split
  next => exact .refl tab
  next => split <;> exact .of_same rfl rfl rfl

theorem stays_toggleFloatingPanes (tab : Tab R) : Stays tab tab.toggleFloatingPanes := by
  unfold toggleFloatingPanes
  split
  next => split <;> exact .of_same rfl rfl rfl
  next => split <;> exact .of_same rfl rfl rfl

def resizes : TabOp -> Bool
  | .resize _ _ => true
  | _ => false

def floats : TabOp -> Bool
  | .floatPane _ => true
  | _ => false

theorem step_stays [Ratio R] {op : TabOp} (tab : Tab R) (sized : resizes op = false) (tiled : floats op = false) :
    Ensures tab.OutOfIds (tab.step op) (Stays tab) := by
  cases op with
  | rename name => exact .of_same rfl rfl rfl
  | undoRename =>
    show Stays tab tab.undoRename.2
    rw [undoRename_tab]
    exact .of_same rfl rfl rfl
  | updatePane id op => exact .of_same rfl rfl rfl
  | splitPane direction => exact (stays_splitPane tab direction).map
  | splitLargestPane => exact (stays_splitLargestPane tab).map
  | closePane id => exact stays_closePane tab id
  | resize cols rows => cases sized
  | resizePane id direction amount => exact stays_resizePane tab id direction amount
  | setPaneConstraints id constraints => exact .of_same rfl rfl rfl
  | newFloatingPane => exact (stays_newFloatingPaneWithCoords tab _ _ _ _).map
  | newFloatingPaneWithCoords x y w h => exact (stays_newFloatingPaneWithCoords tab x y w h).map
  | toggleFloatingPanes => exact stays_toggleFloatingPanes tab
  | closeFloatingPane id => exact stays_closeFloatingPane tab id
  | embedFloatingPane id => exact stays_embedFloatingPane tab id
  | floatPane id => cases tiled
  | resizeFloatingPane id width height => exact stays_resizeFloatingPane tab id width height
  | moveFloatingPane id x y => exact stays_moveFloatingPane tab id x y
  | bringFloatingToFront id => exact stays_bringFloatingToFront tab id
  | sendFloatingToBack id => exact stays_sendFloatingToBack tab id
  | swapFloatingZOrder a b => exact stays_swapFloatingZOrder tab a b
  | focusPane id => exact stays_focusPane tab id
  | focusNext => exact stays_focusCycle tab _ _
  | focusPrev => exact stays_focusCycle tab _ _
  | focusDirection direction => exact stays_focusDirection tab direction
  | toggleFullscreen => exact stays_toggleFullscreen tab
  | toggleFullscreenById id => exact stays_toggleFullscreenById tab id
  | moveActivePane direction => exact stays_moveActivePane tab direction
  | movePaneById id direction => exact stays_movePaneById tab id direction
  | movePaneBackwards id => exact stays_movePaneBackwards tab id

theorem centered_inside {floating : FloatingPane} (size : PaneSize)
    (w : floating.width = max (size.cols / 2) minFloatingCols) (h : floating.height = max (size.rows / 2) minFloatingRows)
    (x : floating.x = (size.cols - floating.width) / 2) (y : floating.y = (size.rows - floating.height) / 2) :
    floating.Inside size ↔ minFloatingCols ≤ size.cols ∧ minFloatingRows ≤ size.rows := by
  -- The rectangle that `floatPane` gives has the least size whatever the size of the tab.
  unfold FloatingPane.Inside
  rw [x, y, w, h]
  unfold minFloatingCols minFloatingRows
  omega

def canFloat (tab : Tab R) (id : PaneId) : Prop := id ∈ tab.panes ∧ 1 < tab.paneCount

/-- A resize keeps the floating panes on the screen if they fit the new size, floating a pane does if the tab has room
for the least size of one; the other calls always do. -/
def keepsOnScreen : TabCall R -> Tab R -> Prop
  | .op (.resize cols rows), tab => tab.AllInside { rows, cols }
  | .op (.floatPane id), tab => tab.canFloat id -> minFloatingCols ≤ tab.size.cols ∧ minFloatingRows ≤ tab.size.rows
  | _, _ => True

section Runs

variable [Ratio R]

theorem resize_onScreen_iff (tab : Tab R) (cols rows : Nat) :
    (tab.resize cols rows).OnScreen ↔ tab.AllInside { rows, cols } := Iff.rfl

theorem floatPane_refused {tab : Tab R} {id : PaneId} (refused : ¬ tab.canFloat id) :
    (tab.floatPane id).2 = tab := by
  unfold floatPane
  split
  next => rfl
  next pane found =>
    have alone : tab.paneCount ≤ 1 := by
      by_contra several
      exact refused ⟨AList.lookup_isSome.mp (by rw [found]; rfl), Nat.lt_of_not_le several⟩
    rw [if_pos alone]

theorem floatPane_onScreen_iff {tab : Tab R} {id : PaneId} (can : tab.canFloat id) :
    (tab.floatPane id).2.OnScreen ↔
      tab.OnScreen ∧ minFloatingCols ≤ tab.size.cols ∧ minFloatingRows ≤ tab.size.rows := by
  obtain ⟨tiled, several⟩ := can
  obtain ⟨pane, found⟩ := Option.isSome_iff_exists.mp (AList.lookup_isSome.mpr tiled)
  unfold floatPane
  rw [found]
  simp only [Nat.not_le.mpr several, if_false]
  refine (allInside_append rfl).trans (and_congr Iff.rfl ?_)
  exact centered_inside _ rfl rfl rfl rfl

theorem floatPane_same (tab : Tab R) (id : PaneId) :
    (tab.floatPane id).2.id = tab.id ∧ (tab.floatPane id).2.size = tab.size := by
  unfold floatPane
  split
  next => exact ⟨rfl, rfl⟩
  next => split <;> exact ⟨rfl, rfl⟩

theorem call_onScreen_iff (call_ : TabCall R) {tab : Tab R} (inside : tab.OnScreen) :
    (Ensures AnyPanic (tab.call call_) fun next => next.OnScreen ↔ keepsOnScreen call_ tab) ∧
      (∀ panic, tab.call call_ = .error panic -> keepsOnScreen call_ tab) := by
  -- One call from a tab whose floating panes are on the screen.
  have free : keepsOnScreen call_ tab -> Ensures AnyPanic (tab.call call_) (Stays tab) ->
      (Ensures AnyPanic (tab.call call_) fun next => next.OnScreen ↔ keepsOnScreen call_ tab) ∧
        (∀ panic, tab.call call_ = .error panic -> keepsOnScreen call_ tab) :=
    fun keeps stays => ⟨stays.weaken fun next stays => iff_of_true (stays.floats inside) keeps, fun _ _ => keeps⟩
  cases call_ with
  | registerSwapLayout name minPanes maxPanes layout => exact free trivial (stays_registerSwapLayout ..)
  | autoSwapLayout => exact free trivial (stays_autoSwapLayout tab)
  | nextSwapLayout => exact free trivial (stays_nextSwapLayout tab)
  | prevSwapLayout => exact free trivial (stays_prevSwapLayout tab)
  | op op =>
    by_cases sized : resizes op = true
    next =>
      cases op with
      | resize cols rows => exact ⟨resize_onScreen_iff tab cols rows, nofun⟩
      | _ => cases sized
    next =>
      by_cases tiled : floats op = true
      next =>
        cases op with
        | floatPane id =>
          refine ⟨?_, nofun⟩
          show (tab.floatPane id).2.OnScreen ↔ (tab.canFloat id -> _)
          by_cases can : tab.canFloat id
          next => simp only [floatPane_onScreen_iff can, inside, can, true_and, true_imp_iff]
          next => simp only [floatPane_refused can, inside, can, false_imp_iff]
        | _ => cases tiled
      next =>
        have stays := step_stays tab (Bool.eq_false_iff.mpr sized) (Bool.eq_false_iff.mpr tiled)
        refine free ?_ (stays.allow fun _ _ => trivial)
        cases op with
        | resize cols rows => exact absurd rfl sized
        | floatPane id => exact absurd rfl tiled
        | _ => trivial

theorem floats_onScreen_iff (calls : List (TabCall R)) (id : Nat) (name : String) (cols rows : Nat) :
    Throughout call OnScreen calls (Tab.new id name cols rows : Tab R) ↔
      Along call keepsOnScreen calls (Tab.new id name cols rows : Tab R) :=
  throughout_iff_along (fun call_ _ inside => call_onScreen_iff call_ inside) calls fun _ member => by cases member

end Runs

/-- A floating pane made on a screen of 80 columns stays where it was on one of 10. -/
theorem resize_leaves_floats_outside :
    ¬ Throughout call OnScreen [.op .newFloatingPane, .op (.resize 10 5)] (Tab.new 0 "1" 80 24 : Tab Rat) := by
  intro through
  have last := through.last
  revert last
  decide

end Tab

end Emux
