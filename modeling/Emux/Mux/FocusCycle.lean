import Emux.Library.Raising
import Emux.Mux.TabRuns

set_option autoImplicit false

/-!
# Cycling through the panes

Focusing a floating pane raises it in the list that the cycle is read from, so the order changes on the way round. A tab is
followed by the cycle of its tiled and its shown floating panes.
-/

namespace Emux

open Raising

variable {R : Type}

namespace Tab

def shownFloating (tab : Tab R) : List PaneId := if tab.showFloating then tab.floatingPaneIds else []

def stepNext (tab : Tab R) : Tab R := tab.focusNext.2

def stepPrev (tab : Tab R) : Tab R := tab.focusPrev.2

structure Cycles (tab : Tab R) (rota : Rota PaneId) : Prop where
  tiled : tab.layout.paneIds = rota.fixed
  floating : tab.shownFloating = rota.stack
  active : tab.activePane = some rota.active
  apart : ∀ id ∈ tab.floatingPaneIds, id ∉ tab.layout.paneIds
  distinct : tab.floatingPaneIds.Nodup
  inside : rota.active ∈ rota.ids

theorem takeFloating_none {tab : Tab R} {id : PaneId} (taken : tab.takeFloating id = none) : id ∉ tab.floatingPaneIds := by
  rw [← findFloatingIdx_none_iff]
  cases found : tab.findFloatingIdx id with
  | none => rfl
  | some index =>
    obtain ⟨before, floating, after, list, rfl, -⟩ := findFloatingIdx_some found
    simp [takeFloating, found, list] at taken

theorem floatingPaneIds_bringToFront {tab : Tab R} (distinct : tab.floatingPaneIds.Nodup) (id : PaneId) :
    (tab.bringFloatingToFront id).2.floatingPaneIds = Rota.raise tab.floatingPaneIds id := by
  unfold bringFloatingToFront restack Rota.raise
  cases taken : tab.takeFloating id with
  | none => rw [if_neg (takeFloating_none taken)]
  | some found =>
    obtain ⟨floating, others⟩ := found
    obtain ⟨before, after, list, rfl, rfl⟩ := takeFloating_some taken
    have ids : tab.floatingPaneIds = before.map FloatingPane.id ++ floating.id :: after.map FloatingPane.id := by
      simp [floatingPaneIds, list]
    rw [ids] at distinct ⊢
    have new : floating.id ∉ before.map FloatingPane.id := fun member =>
      (List.nodup_append.mp distinct).2.2 _ member _ List.mem_cons_self rfl
    rw [if_pos (by simp), List.erase_append_right _ new, List.erase_cons_head]
    simp [floatingPaneIds]

@[simp] theorem bringToFront_layout (tab : Tab R) (id : PaneId) : (tab.bringFloatingToFront id).2.layout = tab.layout := by
  unfold bringFloatingToFront restack
  split <;> rfl

@[simp] theorem bringToFront_activePane (tab : Tab R) (id : PaneId) :
    (tab.bringFloatingToFront id).2.activePane = tab.activePane := by
  unfold bringFloatingToFront restack
  split <;> rfl

@[simp] theorem bringToFront_showFloating (tab : Tab R) (id : PaneId) :
    (tab.bringFloatingToFront id).2.showFloating = tab.showFloating := by
  unfold bringFloatingToFront restack
  split <;> rfl

theorem focusCycleIds_eq (tab : Tab R) : tab.focusCycleIds = tab.layout.paneIds ++ tab.shownFloating := rfl

theorem Cycles.visit {tab : Tab R} {rota : Rota PaneId} (cycles : tab.Cycles rota) {id : PaneId} (member : id ∈ rota.ids) :
    (({ tab with fullscreenPane := none, activePane := some id } : Tab R).bringFloatingToFront id).2.Cycles
      (rota.visit id) := by
  have ids := @floatingPaneIds_bringToFront R { tab with fullscreenPane := none, activePane := some id } cycles.distinct id
  have perm : (Rota.raise tab.floatingPaneIds id).Perm tab.floatingPaneIds := Rota.raise_perm _ id
  refine ⟨?_, ?_, ?_, ?_, ?_, Rota.active_mem_visit member⟩
  next => simpa [Rota.visit] using cycles.tiled
  next =>
    have floating := cycles.floating
    unfold shownFloating at floating ⊢
    rw [bringToFront_showFloating, ids]
    dsimp only [Rota.visit]
    rw [← floating]
    split
    next => rfl
    next => rfl
  next => simp [Rota.visit]
  next =>
    intro other inside
    rw [ids] at inside
    simpa using cycles.apart other (perm.mem_iff.mp inside)
  next =>
    rw [ids]
    exact perm.nodup_iff.mpr cycles.distinct

theorem Cycles.focusCycle {tab : Tab R} {rota : Rota PaneId} (cycles : tab.Cycles rota) (step : Nat -> Nat -> Nat)
    (fallback : List PaneId -> Option PaneId) : (tab.focusCycle step fallback).2.Cycles (rota.move step) := by
  have ids : ({ tab with fullscreenPane := none } : Tab R).focusCycleIds = rota.ids := by
    rw [focusCycleIds_eq]
    exact congrArg₂ _ cycles.tiled cycles.floating
  have nonempty : ¬rota.ids.isEmpty = true := by
    rw [List.isEmpty_iff]
    exact List.ne_nil_of_mem cycles.inside
  have pos : rota.ids.findIdx? (· == rota.active) = some (rota.ids.idxOf rota.active) :=
    List.findIdx?_eq_some_iff_findIdx_eq.mpr ⟨List.idxOf_lt_length_of_mem cycles.inside, rfl⟩
  unfold Tab.focusCycle Rota.move
  dsimp only
  rw [ids, if_neg nonempty, cycles.active, Option.bind_some, pos]
  dsimp only
  cases target : rota.ids[step (rota.ids.idxOf rota.active) rota.ids.length]? with
  | some id => exact cycles.visit (List.mem_of_getElem? target)
  | none =>
    dsimp only
    exact ⟨cycles.tiled, cycles.floating, rfl, cycles.apart, cycles.distinct, cycles.inside⟩

theorem Cycles.stepNext {tab : Tab R} {rota : Rota PaneId} (cycles : tab.Cycles rota) : tab.stepNext.Cycles rota.next :=
  cycles.focusCycle forward List.head?

theorem Cycles.stepPrev {tab : Tab R} {rota : Rota PaneId} (cycles : tab.Cycles rota) : tab.stepPrev.Cycles rota.prev :=
  cycles.focusCycle backward List.getLast?

theorem Cycles.iterate {step : Tab R -> Tab R} {move : Rota PaneId -> Rota PaneId}
    (follows : ∀ {tab rota}, Cycles tab rota -> Cycles (step tab) (move rota)) {tab : Tab R} {rota : Rota PaneId}
    (cycles : tab.Cycles rota) (k : Nat) : (step^[k] tab).Cycles (move^[k] rota) := by
  induction k generalizing tab rota with
  | zero => exact cycles
  | succ k ih =>
    rw [Function.iterate_succ_apply, Function.iterate_succ_apply]
    exact ih (follows cycles)

theorem Cycles.reaches_iff {step : Tab R -> Tab R} {move : Rota PaneId -> Rota PaneId}
    (follows : ∀ {tab rota}, Cycles tab rota -> Cycles (step tab) (move rota)) {tab : Tab R} {rota : Rota PaneId}
    (cycles : tab.Cycles rota) (n : Nat) (id : PaneId) :
    Reaches activePane step n tab (some id) ↔ Reaches Rota.active move n rota id := by
  unfold Reaches
  simp only [(cycles.iterate follows _).active, Option.some.injEq]

/-- With `T` tiled and `F` shown floating panes each of them is active within `(T + 1) * (F + 1)` steps. -/
def CyclesThrough (step : Tab R -> Tab R) (tab : Tab R) : Prop :=
  ∀ id ∈ tab.focusCycleIds,
    Reaches activePane step ((tab.layout.paneIds.length + 1) * (tab.shownFloating.length + 1)) tab (some id)

theorem cyclesThrough_iff [Ratio R] {tab : Tab R} (arranged : tab.Arranged) {start : PaneId}
    (active : tab.activePane = some start) (shown : start ∈ tab.focusCycleIds) :
    tab.CyclesThrough stepNext ∧
    (tab.CyclesThrough stepPrev ↔
      tab.shownFloating.length ≤ 1 ∨
      tab.shownFloating.length = 2 ∧ tab.layout.paneIds.getLast? = some start ∨
      tab.shownFloating.length ≤ 3 ∧ tab.shownFloating.head? = some start) := by
  -- The tiled panes and the shown floating ones, with the focus among them, as one rota.
  let rota : Rota PaneId := ⟨tab.layout.paneIds, tab.shownFloating, start⟩
  have apart : ∀ id ∈ tab.floatingPaneIds, id ∉ tab.layout.paneIds := fun id floating leaf =>
    arranged.apart id floating ((arranged.tiles.keys id).mp leaf)
  have cycles : tab.Cycles rota := ⟨rfl, rfl, active, apart, arranged.floatingDistinct, shown⟩
  have among : ∀ id ∈ tab.shownFloating, id ∈ tab.floatingPaneIds := by
    intro id member
    unfold shownFloating at member
    split at member
    next => exact member
    next => cases member
  have distinct : (tab.layout.paneIds ++ tab.shownFloating).Nodup := by
    refine List.nodup_append.mpr ⟨arranged.tiles.distinct, ?_, ?_⟩
    next =>
      unfold shownFloating
      split
      next => exact arranged.floatingDistinct
      next => exact List.nodup_nil
    next =>
      rintro id leaf other floating rfl
      exact apart id (among id floating) leaf
  have nonempty := arranged.tiles.nonempty
  constructor
  next =>
    intro id member
    exact (cycles.reaches_iff Cycles.stepNext _ id).mpr (Rota.next_reaches distinct nonempty shown member)
  next =>
    rw [← Rota.prev_reaches_iff distinct nonempty shown]
    exact forall₂_congr fun id _ => cycles.reaches_iff Cycles.stepPrev _ id

def stacked : Tab Rat :=
  { Tab.new 0 "1" 80 24 with
    layout := { root := some (.Split .vertical (1 / 2) (.Leaf 0) (.Leaf 1)) }
    panes := AList.insert 1 (Pane.new 1 40 24) (AList.singleton 0 (Pane.new 0 40 24))
    floatingPanes := [2, 3].map fun id =>
      { pane := Pane.new id 10 5, x := 0, y := 0, width := 10, height := 5, visible := true }
    showFloating := true
    nextPaneId := 4 }

theorem tiles_stacked : Tiles stacked.layout stacked.panes :=
  (@new_sound Rat _ 0 "1" 40 24).tiles.insert (show (Pane.new 1 40 24).id = 1 from rfl) (by decide) (List.Perm.swap 1 0 [])

theorem arranged_stacked : stacked.Arranged where
  tiles := tiles_stacked
  floatingDistinct := by decide
  apart := by decide
  active := ⟨0, rfl, .inl (by decide)⟩
  fresh id owned := by
    have owned : id ∈ [0, 1] ∨ id ∈ [2, 3] := owned.imp_left (tiles_stacked.keys id).mpr
    simp only [List.mem_cons, List.not_mem_nil, or_false] at owned
    rcases owned with (rfl | rfl) | (rfl | rfl) <;> decide

theorem cyclesThrough_iff_stacked : stacked.CyclesThrough stepNext :=
  (@cyclesThrough_iff Rat _ stacked arranged_stacked 0 rfl (by decide)).1

/-- Backward from the first tiled pane only the two floating panes follow, one after the other for good. -/
theorem backward_misses_pane : ¬(stacked.CyclesThrough stepNext ∧ stacked.CyclesThrough stepPrev) := by
  rintro ⟨-, through⟩
  obtain ⟨k, bound, shows⟩ := through 1 (by decide)
  have short : k ≤ 9 := bound
  revert k
  decide

end Tab

end Emux
