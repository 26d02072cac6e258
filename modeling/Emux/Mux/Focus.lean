import Emux.Mux.TabRuns

set_option autoImplicit false

/-!
# Focus on a pane that is drawn

`Seen` is the invariant of the runs that leave the focus on a listed pane; `keepsFocus` is what each operation
needs of the state before it.
-/

namespace Emux

open Checked

variable {R : Type} [Ratio R]

namespace Tab

def listedIds (tab : Tab R) : List PaneId := tab.computePositions.map Prod.fst

structure Focused (tab : Tab R) : Prop where
  distinct : tab.listedIds.Nodup
  owned : ∀ id ∈ tab.listedIds, tab.Owns id
  active : ∃ id, tab.activePane = some id ∧ id ∈ tab.listedIds

def Backdrop (tab : Tab R) (id : PaneId) : Prop :=
  match tab.fullscreenPane with
  | some fullscreen => id = fullscreen
  | none => id ∈ tab.panes

def Shown (tab : Tab R) (id : PaneId) : Prop :=
  tab.Backdrop id ∨ tab.showFloating = true ∧ id ∈ tab.floatingPaneIds

structure Seen (tab : Tab R) : Prop where
  visible : ∀ floating ∈ tab.floatingPanes, floating.visible = true
  fullscreenTiled : ∀ id, tab.fullscreenPane = some id -> id ∈ tab.panes
  active : ∃ id, tab.activePane = some id ∧ tab.Shown id

omit [Ratio R] in
theorem map_fst_visibleFloating {tab : Tab R} (visible : ∀ floating ∈ tab.floatingPanes, floating.visible = true) :
    tab.visibleFloating.map Prod.fst = if tab.showFloating then tab.floatingPaneIds else [] := by
  unfold visibleFloating
  split
  next =>
    rw [List.filter_eq_self.mpr visible, List.map_map]
    rfl
  next => rfl

theorem listedIds_eq {tab : Tab R} (visible : ∀ floating ∈ tab.floatingPanes, floating.visible = true) :
    tab.listedIds = (match tab.fullscreenPane with
      | some id => [id]
      | none => tab.layout.paneIds) ++ if tab.showFloating then tab.floatingPaneIds else [] := by
  -- The listed panes: those below, then the floating ones if they are shown.
  rw [listedIds, computePositions, List.map_append, map_fst_visibleFloating visible]
  cases tab.fullscreenPane with
  | some id => rfl
  | none => rw [map_fst_tiledPositions]

theorem mem_listedIds {tab : Tab R} (tiles : Tiles tab.layout tab.panes)
    (visible : ∀ floating ∈ tab.floatingPanes, floating.visible = true) (id : PaneId) :
    id ∈ tab.listedIds ↔ tab.Shown id := by
  rw [listedIds_eq visible, List.mem_append]
  unfold Shown Backdrop
  refine or_congr ?_ ?_
  next =>
    cases tab.fullscreenPane with
    | some fullscreen => exact List.mem_singleton
    | none => exact tiles.keys id
  next => cases tab.showFloating <;> simp

theorem Seen.focused {tab : Tab R} (seen : tab.Seen) (sound : tab.Sound) : tab.Focused := by
  have listed := mem_listedIds sound.tiles seen.visible
  refine ⟨?_, fun id member => ?_, ?_⟩
  next =>
    rw [listedIds_eq seen.visible]
    have floating : (if tab.showFloating then tab.floatingPaneIds else []).Nodup := by
      split
      next => exact sound.floatingDistinct
      next => exact List.nodup_nil
    have apart : ∀ id ∈ tab.panes, ¬ id ∈ (if tab.showFloating then tab.floatingPaneIds else []) := by
      intro id tiled member
      split at member
      next => exact sound.apart id member tiled
      next => cases member
    cases is : tab.fullscreenPane with
    | some id => exact List.nodup_cons.mpr ⟨apart id (seen.fullscreenTiled id is), floating⟩
    | none =>
      refine List.nodup_append.mpr ⟨sound.tiles.distinct, floating, fun id leaf other member same => ?_⟩
      exact apart id ((sound.tiles.keys id).mp leaf) (same ▸ member)
  next =>
    rcases (listed id).mp member with below | ⟨-, floating⟩
    next =>
      unfold Backdrop at below
      cases is : tab.fullscreenPane with
      | some fullscreen =>
        simp only [is] at below
        exact .inl (below ▸ seen.fullscreenTiled fullscreen is)
      | none =>
        simp only [is] at below
        exact .inl below
    next => exact .inr floating
  next =>
    obtain ⟨id, is, shown⟩ := seen.active
    exact ⟨id, is, (listed id).mpr shown⟩

/-! ## Changes that do not show -/

structure SameView (tab next : Tab R) : Prop where
  fullscreen : next.fullscreenPane = tab.fullscreenPane
  active : next.activePane = tab.activePane
  showFloating : next.showFloating = tab.showFloating
  floating : next.floatingPanes = tab.floatingPanes
  tiled : ∀ id, id ∈ next.panes ↔ id ∈ tab.panes

omit [Ratio R] in
theorem SameView.trans {tab middle next : Tab R} (first : SameView tab middle) (second : SameView middle next) :
    SameView tab next :=
  ⟨second.fullscreen.trans first.fullscreen, second.active.trans first.active,
    second.showFloating.trans first.showFloating, second.floating.trans first.floating,
    fun id => (second.tiled id).trans (first.tiled id)⟩

omit [Ratio R] in
theorem Seen.of_view {tab next : Tab R} (seen : tab.Seen) (view : SameView tab next) : next.Seen where
  visible := view.floating ▸ seen.visible
  fullscreenTiled id is := (view.tiled id).mpr (seen.fullscreenTiled id (view.fullscreen ▸ is))
  active := by
    obtain ⟨id, is, shown⟩ := seen.active
    refine ⟨id, view.active.trans is, ?_⟩
    unfold Shown Backdrop floatingPaneIds at shown ⊢
    rw [view.fullscreen, view.showFloating, view.floating]
    refine shown.imp_left fun below => ?_
    cases full : tab.fullscreenPane with
    | some fullscreen => simpa only [full] using below
    | none =>
      simp only [full] at below
      exact (view.tiled id).mpr below

theorem sameView_sync (tab : Tab R) : SameView tab tab.syncPaneSizes :=
  ⟨rfl, rfl, rfl, rfl, fun id => mem_resizeAll tab.panes tab.tiledPositions id⟩

theorem sameView_relayout (tab : Tab R) (layout : LayoutEngine R) :
    SameView tab ({ tab with layout }.syncPaneSizes : Tab R) :=
  ⟨rfl, rfl, rfl, rfl, fun id => mem_resizeAll tab.panes _ id⟩

theorem sameView_applySwapLayoutAt (tab : Tab R) (index : Nat) : SameView tab (tab.applySwapLayoutAt index) := by
  unfold applySwapLayoutAt
  split
  next swap found => exact ⟨rfl, rfl, rfl, rfl, fun id => mem_resizeAll tab.panes _ id⟩
  next => exact ⟨rfl, rfl, rfl, rfl, fun _ => Iff.rfl⟩

theorem sameView_autoSwapLayout (tab : Tab R) : SameView tab tab.autoSwapLayout := by
  unfold autoSwapLayout
  split
  next =>
    split
    next => exact sameView_applySwapLayoutAt tab _
    next => exact ⟨rfl, rfl, rfl, rfl, fun _ => Iff.rfl⟩
  next => exact ⟨rfl, rfl, rfl, rfl, fun _ => Iff.rfl⟩

/-! ## Building blocks -/

omit [Ratio R] in
theorem Seen.cleared {tab : Tab R} (seen : tab.Seen) : Seen { tab with fullscreenPane := none } where
  visible := seen.visible
  fullscreenTiled id is := by cases is
  active := by
    obtain ⟨id, is, shown⟩ := seen.active
    refine ⟨id, is, shown.imp_left fun below => ?_⟩
    unfold Backdrop at below
    cases full : tab.fullscreenPane with
    | some fullscreen =>
      simp only [full] at below
      exact below ▸ seen.fullscreenTiled fullscreen full
    | none =>
      simp only [full] at below
      exact below

omit [Ratio R] in
theorem Seen.focus {tab : Tab R} (seen : tab.Seen) {id : PaneId} (shown : tab.Shown id) :
    Seen { tab with activePane := some id } where
  visible := seen.visible
  fullscreenTiled := seen.fullscreenTiled
  active := ⟨id, rfl, shown⟩

omit [Ratio R] in
theorem Seen.restack {tab : Tab R} (seen : tab.Seen) (id : PaneId)
    {place : FloatingPane -> List FloatingPane -> List FloatingPane}
    (keeps : ∀ floating others, (place floating others).Perm (floating :: others)) : (tab.restack id place).2.Seen := by
  unfold Tab.restack
  split
  next => exact seen
  next floating others taken =>
    obtain ⟨before, after, list, rfl, named⟩ := takeFloating_some taken
    have perm : (place floating (before ++ after)).Perm tab.floatingPanes :=
      (keeps _ _).trans (list ▸ List.perm_middle.symm)
    refine ⟨fun other member => seen.visible other (perm.mem_iff.mp member), seen.fullscreenTiled, ?_⟩
    obtain ⟨active, is, shown⟩ := seen.active
    refine ⟨active, is, shown.imp_right fun ⟨show_, inside⟩ => ⟨show_, ?_⟩⟩
    exact (perm.map FloatingPane.id).mem_iff.mpr inside

omit [Ratio R] in
theorem Seen.updateFloating {tab : Tab R} (seen : tab.Seen) (id : PaneId) {update : FloatingPane -> FloatingPane}
    (keepsId : ∀ floating, (update floating).id = floating.id)
    (keepsVisible : ∀ floating, (update floating).visible = floating.visible) : (tab.updateFloating id update).2.Seen := by
  have ids := updateFloating_ids tab id keepsId
  unfold Tab.updateFloating at ids ⊢
  split
  next => exact seen
  next index found =>
    simp only [found] at ids
    obtain ⟨before, floating, after, list, rfl, -⟩ := findFloatingIdx_some found
    refine ⟨fun other member => ?_, seen.fullscreenTiled, ?_⟩
    next =>
      obtain ⟨i, inside, is⟩ := List.mem_iff_getElem.mp member
      rw [List.getElem_modify] at is
      have within : i < tab.floatingPanes.length := by simpa using inside
      have there := seen.visible tab.floatingPanes[i] (List.getElem_mem within)
      split at is
      next => rw [← is, keepsVisible, there]
      next => rw [← is, there]
    next =>
      obtain ⟨active, is, shown⟩ := seen.active
      exact ⟨active, is, shown.imp_right fun ⟨show_, inside⟩ => ⟨show_, ids ▸ inside⟩⟩

omit [Ratio R] in
theorem Seen.bringFloatingToFront {tab : Tab R} (seen : tab.Seen) (id : PaneId) : (tab.bringFloatingToFront id).2.Seen :=
  seen.restack id fun floating others => List.perm_append_singleton floating others

omit [Ratio R] in
theorem newFloatingPaneWithCoords_seen {tab : Tab R} (seen : tab.Seen) (x y w h : Nat) :
    Ensures AnyPanic (tab.newFloatingPaneWithCoords x y w h) fun result => result.2.Seen := by
  unfold newFloatingPaneWithCoords
  rcases takePaneId_cases tab with taken | ⟨full, -⟩
  next =>
    rw [taken, ok_bind]
    refine ⟨fun floating inside => ?_, seen.fullscreenTiled, tab.nextPaneId, rfl, .inr ⟨rfl, ?_⟩⟩
    next =>
      rcases List.mem_append.mp inside with before | new
      next => exact seen.visible floating before
      next =>
        obtain rfl := List.mem_singleton.mp new
        rfl
    next =>
      simp only [floatingPaneIds, List.map_append, List.mem_append, List.map_cons, List.map_nil, List.mem_singleton]
      exact .inr rfl
  next =>
    rw [full, error_bind]
    trivial

theorem Seen.splitAt {tab : Tab R} (seen : tab.Seen) (target : PaneId) (direction : SplitDirection) (cols rows : Nat) :
    (tab.splitAt target direction cols rows).Seen := by
  have split : Seen { tab with
      fullscreenPane := none
      nextPaneId := tab.nextPaneId + 1
      panes := tab.panes.insert tab.nextPaneId (Pane.new tab.nextPaneId cols rows)
      layout := (tab.layout.split target tab.nextPaneId direction).2
      activePane := some tab.nextPaneId } :=
    { visible := seen.visible
      fullscreenTiled := fun id is => by cases is
      active := ⟨tab.nextPaneId, rfl, .inl ((AList.mem_insert _).mpr (.inl rfl))⟩ }
  exact (split.of_view (sameView_sync _)).of_view (sameView_autoSwapLayout _)

theorem Seen.closePane {tab : Tab R} (seen : tab.Seen) (sound : tab.Sound) (id : PaneId) : (tab.closePane id).2.Seen := by
  unfold Tab.closePane
  split
  next => exact seen
  next several =>
    split
    next => exact seen
    next tiled =>
      rw [not_not] at tiled
      obtain ⟨perm, tiles⟩ := removePane_tiles sound.tiles tiled several
      refine Seen.of_view (Seen.of_view ?_ (sameView_sync _)) (sameView_autoSwapLayout _)
      by_cases full : tab.fullscreenPane = some id
      next =>
        refine ⟨seen.visible, fun other is => by simp [full] at is, ?_⟩
        by_cases closed : tab.activePane = some id
        next =>
          obtain ⟨first, is, there⟩ := Tiles.head tiles
          refine ⟨first, (if_pos closed).trans is, .inl ?_⟩
          simpa [Backdrop, full] using there
        next =>
          obtain ⟨other, is, shown⟩ := seen.active
          refine ⟨other, (if_neg closed).trans is, .inr (shown.resolve_left fun below => closed ?_)⟩
          rw [is]
          simpa [Backdrop, full] using below
      next =>
        refine ⟨seen.visible, fun other is => ?_, ?_⟩
        next =>
          have is : tab.fullscreenPane = some other := by simpa [full] using is
          have other_ : other ≠ id := fun same => full (same ▸ is)
          exact AList.mem_erase.mpr ⟨other_, seen.fullscreenTiled other is⟩
        next =>
          by_cases closed : tab.activePane = some id
          next =>
            cases fs : tab.fullscreenPane with
            | some fullscreen =>
              -- the active pane is the fullscreen one or floats, so it was not closed
              exfalso
              obtain ⟨other, is, shown⟩ := seen.active
              obtain rfl : other = id := Option.some.inj (is.symm.trans closed)
              rcases shown with below | ⟨-, floating⟩
              next =>
                simp only [Backdrop, fs] at below
                exact full (below ▸ fs)
              next => exact sound.apart other floating tiled
            | none =>
              obtain ⟨first, is, there⟩ := Tiles.head tiles
              refine ⟨first, (if_pos closed).trans is, .inl ?_⟩
              simpa [Backdrop, fs] using there
          next =>
            obtain ⟨other, is, shown⟩ := seen.active
            refine ⟨other, (if_neg closed).trans is, shown.imp_left fun below => ?_⟩
            have apart : other ≠ id := fun same => closed (same ▸ is)
            cases fs : tab.fullscreenPane with
            | some fullscreen =>
              have here : ¬ fullscreen = id := fun same => full (same ▸ fs)
              simpa [Backdrop, fs, here] using below
            | none =>
              simp only [Backdrop, fs] at below
              simpa [Backdrop, fs] using ⟨apart, below⟩

omit [Ratio R] in
theorem Seen.focusCycle {tab : Tab R} (seen : tab.Seen) (tiles : Tiles tab.layout tab.panes) (step : Nat -> Nat -> Nat)
    {fallback : List PaneId -> Option PaneId} (picks : ∀ ids, ids ≠ [] -> ∃ id ∈ ids, fallback ids = some id) :
    (tab.focusCycle step fallback).2.Seen := by
  have cleared := seen.cleared
  -- Every pane of the cycle is shown, so the focus may go to any of them.
  have shown : ∀ id ∈ tab.focusCycleIds, Shown { tab with fullscreenPane := none } id := by
    intro id member
    rcases List.mem_append.mp member with leaf | floating
    next => exact .inl ((tiles.keys id).mp leaf)
    next =>
      split at floating
      next showing => exact .inr ⟨showing, floating⟩
      next => cases floating
  unfold Tab.focusCycle
  simp only
  split
  next => exact cleared
  next nonempty =>
    split
    next pos found =>
      split
      next target picked =>
        exact (cleared.focus (shown target (List.mem_of_getElem? picked))).bringFloatingToFront target
      next => exact cleared
    next =>
      obtain ⟨id, member, picked⟩ := picks tab.focusCycleIds fun empty => nonempty (by
        rw [show focusCycleIds { tab with fullscreenPane := none } = _ from empty]
        rfl)
      exact ⟨cleared.visible, cleared.fullscreenTiled, id, picked, shown id member⟩

/-! ## The operations that need more than a listed active pane -/

/-- What the operation needs of the state for the focus to stay on a listed pane. -/
def keepsFocus : TabOp -> Tab R -> Bool
  | .focusPane id, tab => tab.showFloating || !tab.floatingPaneIds.contains id
  | .toggleFullscreen, tab => tab.fullscreenPane.isSome || tab.activePane.any fun id => id ∈ tab.panes
  | .toggleFloatingPanes, tab =>
    !tab.showFloating || tab.fullscreenPane.isNone || !tab.activePane.any tab.floatingPaneIds.contains ||
      tab.layout.paneIds.head? == tab.fullscreenPane
  | .closeFloatingPane id, tab =>
    !tab.floatingPaneIds.contains id || tab.fullscreenPane.isNone || tab.activePane != some id ||
      tab.floatingPaneIds.any (· != id) || tab.layout.paneIds.head? == tab.fullscreenPane
  | .embedFloatingPane id, tab => tab.fullscreenPane.isNone || !tab.floatingPaneIds.contains id
  | .floatPane id, tab => tab.fullscreenPane != some id || decide (tab.paneCount ≤ 1)
  | .movePaneById id direction, tab =>
    tab.fullscreenPane.isNone || tab.fullscreenPane == some id ||
      (findNeighborInDirection { tab with activePane := some id } direction).isNone
  | _, _ => true

theorem Seen.focusPane {tab : Tab R} (seen : tab.Seen) {id : PaneId} (keeps : keepsFocus (.focusPane id) tab = true) :
    (tab.focusPane id).2.Seen := by
  unfold Tab.focusPane
  split
  next tiled =>
    by_cases full : tab.fullscreenPane = some id
    next =>
      simp only [full, ne_eq, not_true_eq_false, if_false]
      refine ⟨seen.visible, fun other is => Option.some.inj is ▸ tiled, id, rfl, .inl ?_⟩
      simp [Backdrop]
    next =>
      simp only [full, ne_eq, not_false_eq_true, if_true]
      exact ⟨seen.visible, fun other is => (nomatch is), id, rfl, .inl tiled⟩
  next =>
    split
    next index found =>
      have floating : id ∈ tab.floatingPaneIds := by
        by_contra absent
        simp [(findFloatingIdx_none_iff tab id).mpr absent] at found
      have showing : tab.showFloating = true := by simpa [keepsFocus, floating] using keeps
      exact (seen.focus (.inr ⟨showing, floating⟩)).bringFloatingToFront id
    next => exact seen

theorem Seen.toggleFullscreen {tab : Tab R} (seen : tab.Seen) (keeps : keepsFocus .toggleFullscreen tab = true) :
    tab.toggleFullscreen.2.Seen := by
  unfold Tab.toggleFullscreen
  split
  next => exact seen.cleared
  next none =>
    split
    next active is =>
      have tiled : active ∈ tab.panes := by simpa [keepsFocus, none, is] using keeps
      refine ⟨seen.visible, fun id same => Option.some.inj same ▸ tiled, active, is, .inl ?_⟩
      simp [Backdrop]
    next => exact seen

theorem Seen.toggleFloatingPanes {tab : Tab R} (seen : tab.Seen) (sound : tab.Sound)
    (keeps : keepsFocus .toggleFloatingPanes tab = true) : tab.toggleFloatingPanes.Seen := by
  obtain ⟨active, is, shown⟩ := seen.active
  obtain ⟨first, firstIs, tiled⟩ := Tiles.head sound.tiles
  unfold Tab.toggleFloatingPanes
  split
  next showing =>
    split
    next index found =>
      have floating : active ∈ tab.floatingPaneIds := by
        by_contra absent
        simp [is, (findFloatingIdx_none_iff tab active).mpr absent] at found
      refine ⟨seen.visible, seen.fullscreenTiled, first, firstIs, .inl ?_⟩
      cases fs : tab.fullscreenPane with
      | none => simpa [Backdrop, fs] using tiled
      | some fullscreen => simpa [keepsFocus, showing, fs, is, floating, firstIs, Backdrop] using keeps
    next absent =>
      have tiledOnly : active ∉ tab.floatingPaneIds := by
        simpa [is, findFloatingIdx_none_iff] using absent
      exact ⟨seen.visible, seen.fullscreenTiled, active, is, .inl (shown.resolve_right fun both => tiledOnly both.2)⟩
  next hidden =>
    split
    next floating last =>
      have member : floating.id ∈ tab.floatingPaneIds := List.mem_map_of_mem (List.mem_of_getLast? last)
      exact ⟨seen.visible, seen.fullscreenTiled, floating.id, rfl, .inr ⟨rfl, member⟩⟩
    next => exact ⟨seen.visible, seen.fullscreenTiled, active, is, shown.imp_right fun both => ⟨rfl, both.2⟩⟩

theorem Seen.closeFloatingPane {tab : Tab R} (seen : tab.Seen) (sound : tab.Sound) {id : PaneId}
    (keeps : keepsFocus (.closeFloatingPane id) tab = true) : (tab.closeFloatingPane id).2.Seen := by
  obtain ⟨active, is, shown⟩ := seen.active
  unfold Tab.closeFloatingPane
  split
  next => exact seen
  next floating others taken =>
    obtain ⟨named, perm⟩ := takeFloating_ids taken
    obtain ⟨before, after, list, rfl, -⟩ := takeFloating_some taken
    have member : id ∈ tab.floatingPaneIds := perm.mem_iff.mpr List.mem_cons_self
    have visible : ∀ other ∈ before ++ after, other.visible = true := fun other inside =>
      seen.visible other (list ▸ List.perm_middle.mem_iff.mpr (List.mem_cons_of_mem _ inside))
    by_cases closed : tab.activePane = some id
    next =>
      obtain rfl : active = id := Option.some.inj (is.symm.trans closed)
      have showing : tab.showFloating = true := by
        rcases shown with below | ⟨showing, -⟩
        next =>
          -- a pane below the floating ones is tiled
          exfalso
          refine sound.apart active member ?_
          cases fs : tab.fullscreenPane with
          | some fullscreen =>
            simp only [Backdrop, fs] at below
            exact below ▸ seen.fullscreenTiled fullscreen fs
          | none => simpa only [Backdrop, fs] using below
        next => exact showing
      cases top : (before ++ after).getLast? with
      | some last =>
        refine ⟨visible, seen.fullscreenTiled, last.id, by simp [closed], .inr ⟨showing, ?_⟩⟩
        exact List.mem_map_of_mem (List.mem_of_getLast? top)
      | none =>
        obtain ⟨first, firstIs, tiled⟩ := Tiles.head sound.tiles
        refine ⟨visible, seen.fullscreenTiled, first, by simp [closed, firstIs], .inl ?_⟩
        cases fs : tab.fullscreenPane with
        | none => simpa [Backdrop, fs] using tiled
        | some fullscreen =>
          have alone : ¬ ∃ other ∈ tab.floatingPaneIds, ¬ other = active := by
            rintro ⟨other, inside, apart⟩
            have empty : before ++ after = [] := List.getLast?_eq_none_iff.mp top
            exact apart (by simpa [empty] using perm.mem_iff.mp inside)
          have either : (∃ other ∈ tab.floatingPaneIds, ¬ other = active) ∨ first = fullscreen := by
            simpa [keepsFocus, member, fs, closed, firstIs] using keeps
          simpa [Backdrop, fs] using either.resolve_left alone
    next =>
      refine ⟨visible, seen.fullscreenTiled, active, (if_neg closed).trans is, shown.imp_right fun both => ⟨both.1, ?_⟩⟩
      refine (List.mem_cons.mp (perm.mem_iff.mp both.2)).resolve_left fun same => closed (same ▸ is)

theorem Seen.embedFloatingPane {tab : Tab R} (seen : tab.Seen) {id : PaneId}
    (keeps : keepsFocus (.embedFloatingPane id) tab = true) : (tab.embedFloatingPane id).2.Seen := by
  unfold Tab.embedFloatingPane
  split
  next => exact seen
  next floating others taken =>
    obtain ⟨named, perm⟩ := takeFloating_ids taken
    obtain ⟨before, after, list, rfl, -⟩ := takeFloating_some taken
    have member : id ∈ tab.floatingPaneIds := perm.mem_iff.mpr List.mem_cons_self
    have tiledNow : tab.fullscreenPane = none := by simpa [keepsFocus, member] using keeps
    refine ⟨fun other inside => ?_, fun other is => ?_, id, rfl, .inl ?_⟩
    next => exact seen.visible other (list ▸ List.perm_middle.mem_iff.mpr (List.mem_cons_of_mem _ inside))
    next => simp [tiledNow] at is
    next =>
      simp only [Backdrop, syncPaneSizes_fullscreenPane, tiledNow]
      exact (mem_resizeAll ..).mpr ((AList.mem_insert _).mpr (.inl rfl))

theorem Seen.floatPane {tab : Tab R} (seen : tab.Seen) (sound : tab.Sound) {id : PaneId}
    (keeps : keepsFocus (.floatPane id) tab = true) : (tab.floatPane id).2.Seen := by
  unfold Tab.floatPane
  split
  next => exact seen
  next pane found =>
    split
    next => exact seen
    next several =>
      have other : tab.fullscreenPane ≠ some id := by simpa [keepsFocus, several] using keeps
      refine ⟨fun floating inside => ?_, fun fullscreen is => ?_, id, rfl, .inr ⟨rfl, ?_⟩⟩
      next =>
        rcases List.mem_append.mp inside with before | new
        next => exact seen.visible floating before
        next =>
          obtain rfl := List.mem_singleton.mp new
          rfl
      next =>
        have apart : fullscreen ≠ id := fun same => other (same ▸ is)
        exact (mem_resizeAll ..).mpr (AList.mem_erase.mpr ⟨apart, seen.fullscreenTiled fullscreen is⟩)
      next =>
        have name := sound.tiles.named id pane found
        simp only [floatingPaneIds, List.map_append, List.mem_append, List.map_cons, List.map_nil, List.mem_singleton]
        exact .inr name.symm

theorem Seen.movePaneById {tab : Tab R} (seen : tab.Seen) (sound : tab.Sound) {id : PaneId} {direction : FocusDirection}
    (keeps : keepsFocus (.movePaneById id direction) tab = true) : (tab.movePaneById id direction).2.Seen := by
  rcases movePaneById_cases tab id direction with ⟨refused, -⟩ | ⟨layout, leaf, ⟨neighbor, near⟩, -, moved⟩
  next =>
    rw [refused]
    exact seen
  next =>
    rw [moved]
    have tiled := (sound.tiles.keys id).mp leaf
    have focused : Seen { tab with activePane := some id } := by
      refine seen.focus (.inl ?_)
      cases fs : tab.fullscreenPane with
      | none => simpa [Backdrop, fs] using tiled
      | some fullscreen =>
        simp only [keepsFocus, near, Option.isNone_some, Bool.or_false] at keeps
        have same : fullscreen = id := by simpa [fs] using keeps
        simp [Backdrop, fs, same]
    exact focused.of_view (sameView_relayout { tab with activePane := some id } layout)

/-! ## Runs -/

theorem step_seen {op : TabOp} {tab : Tab R} (keeps : keepsFocus op tab = true) (sound : tab.Sound) (seen : tab.Seen) :
    Ensures AnyPanic (tab.step op) Seen := by
  -- Most operations leave the view as it is; for the others a lemma above says where the focus is then.
  cases op with
  | rename name => exact seen.of_view ⟨rfl, rfl, rfl, rfl, fun _ => Iff.rfl⟩
  | undoRename =>
    show Seen tab.undoRename.2
    rw [undoRename_tab]
    exact seen.of_view ⟨rfl, rfl, rfl, rfl, fun _ => Iff.rfl⟩
  | updatePane id op => exact seen.of_view ⟨rfl, rfl, rfl, rfl, fun other => Keyed.mem_modify tab.panes id _ other⟩
  | splitPane direction =>
    refine Ensures.map (((splitPane_cases tab direction).allow fun _ _ => trivial).weaken fun result cases => ?_)
    rcases cases with ⟨rfl, -⟩ | ⟨target, cols, rows, -, -, rfl, -⟩
    next => exact seen.cleared
    next => exact seen.splitAt target direction cols rows
  | splitLargestPane =>
    refine Ensures.map (((splitLargestPane_cases tab).allow fun _ _ => trivial).weaken fun result cases => ?_)
    rcases cases with ⟨rfl, -⟩ | ⟨target, direction, cols, rows, -, rfl, -⟩
    next => exact seen.cleared
    next => exact seen.splitAt target direction cols rows
  | closePane id => exact seen.closePane sound id
  | resize cols rows => exact seen.of_view ⟨rfl, rfl, rfl, rfl, fun id => mem_resizeAll tab.panes _ id⟩
  | resizePane id direction amount =>
    show Seen (tab.resizePane id direction amount).2
    rcases resizePane_cases tab id direction amount with refused | ⟨delta, adjusted⟩
    next =>
      rw [refused]
      exact seen
    next =>
      rw [adjusted]
      rcases adjustRatio_cases tab id (resizeAxis direction) delta with kept | ⟨layout, -, changed⟩
      next =>
        rw [kept]
        exact seen
      next =>
        rw [changed]
        exact seen.of_view (sameView_relayout tab layout)
  | setPaneConstraints id constraints =>
    exact seen.of_view ⟨rfl, rfl, rfl, rfl, fun other => Keyed.mem_modify tab.panes id _ other⟩
  | newFloatingPane => exact (newFloatingPaneWithCoords_seen seen _ _ _ _).map
  | newFloatingPaneWithCoords x y w h => exact (newFloatingPaneWithCoords_seen seen x y w h).map
  | toggleFloatingPanes => exact seen.toggleFloatingPanes sound keeps
  | closeFloatingPane id => exact seen.closeFloatingPane sound keeps
  | embedFloatingPane id => exact seen.embedFloatingPane keeps
  | floatPane id => exact seen.floatPane sound keeps
  | resizeFloatingPane id width height =>
    unfold step resizeFloatingPane
    exact seen.updateFloating id (fun floating => rfl) fun floating => rfl
  | moveFloatingPane id x y =>
    unfold step moveFloatingPane
    exact seen.updateFloating id (fun floating => rfl) fun floating => rfl
  | bringFloatingToFront id => exact seen.bringFloatingToFront id
  | sendFloatingToBack id =>
    unfold step sendFloatingToBack
    exact seen.restack id fun floating others => List.Perm.refl _
  | swapFloatingZOrder a b =>
    show Seen (tab.swapFloatingZOrder a b).2
    obtain ⟨floatingPanes, perm, same⟩ := swapFloatingZOrder_perm tab a b
    obtain ⟨active, is, shown⟩ := seen.active
    rw [same]
    refine ⟨fun floating member => seen.visible floating (perm.mem_iff.mp member), seen.fullscreenTiled, active, is, ?_⟩
    exact shown.imp_right fun both => ⟨both.1, (perm.map FloatingPane.id).mem_iff.mpr both.2⟩
  | focusPane id => exact seen.focusPane keeps
  | focusNext => exact seen.focusCycle sound.tiles _ head?_picks
  | focusPrev => exact seen.focusCycle sound.tiles _ getLast?_picks
  | focusDirection direction =>
    show Seen (tab.focusDirection direction).2
    unfold focusDirection
    split
    next target found =>
      obtain ⟨active, -, -, leaf, -⟩ := findNeighbor_found found
      exact seen.cleared.focus (.inl ((sound.tiles.keys target).mp leaf))
    next => exact seen
  | toggleFullscreen => exact seen.toggleFullscreen keeps
  | toggleFullscreenById id =>
    show Seen (tab.toggleFullscreenById id).2
    unfold toggleFullscreenById
    split
    next => exact seen
    next tiled =>
      rw [not_not] at tiled
      split
      next => exact seen.cleared
      next => exact ⟨seen.visible, fun other is => Option.some.inj is ▸ tiled, id, rfl, .inl rfl⟩
  | moveActivePane direction =>
    show Seen (tab.moveActivePane direction).2
    rcases moveActivePane_cases tab direction with ⟨refused, -⟩ | ⟨active, layout, -, -, -, -, moved⟩
    next =>
      rw [refused]
      exact seen
    next =>
      rw [moved]
      exact seen.of_view (sameView_relayout tab layout)
  | movePaneById id direction => exact seen.movePaneById sound keeps
  | movePaneBackwards id =>
    show Seen (tab.movePaneBackwards id).2
    rcases movePaneBackwards_cases sound.tiles.distinct id with refused | ⟨layout, -, moved⟩
    next =>
      rw [refused]
      exact seen
    next =>
      rw [moved]
      exact seen.of_view (sameView_relayout tab layout)

def nextSwapIndex (tab : Tab R) : Option Nat :=
  let applicable := tab.applicableSwapLayoutIndices tab.paneCount
  applicable[((tab.currentSwapIndex.bind fun index => applicable.findIdx? (· == index)).map
    fun pos => (pos + 1) % applicable.length).getD 0]?

def prevSwapIndex (tab : Tab R) : Option Nat :=
  let applicable := tab.applicableSwapLayoutIndices tab.paneCount
  applicable[((tab.currentSwapIndex.bind fun index => applicable.findIdx? (· == index)).map
    fun pos => if pos = 0 then applicable.length - 1 else pos - 1).getD (applicable.length - 1)]?

/-- What a call needs for the focus to stay on a listed pane: a swap layout that it applies has no more slots than
there are panes, and the operations with a need of their own have it met. -/
def keepsView : TabCall R -> Tab R -> Bool
  | .op op, tab => keepsFocus op tab && stepFits op tab
  | .registerSwapLayout _ _ _ _, _ => true
  | .autoSwapLayout, tab => tab.autoFits tab.paneCount
  | .nextSwapLayout, tab => tab.nextSwapIndex.all (tab.slotsFit tab.paneCount)
  | .prevSwapLayout, tab => tab.prevSwapIndex.all (tab.slotsFit tab.paneCount)

structure Good (tab : Tab R) : Prop where
  sound : tab.Sound
  seen : tab.Seen

theorem Good.applySwapLayoutAt {tab : Tab R} (good : tab.Good) {index : Nat}
    (fits : tab.slotsFit tab.paneCount index = true) : (tab.applySwapLayoutAt index).Good where
  sound := applySwapLayoutAt_sound good.sound fits
  seen := good.seen.of_view (sameView_applySwapLayoutAt tab index)

theorem Good.autoSwapLayout {tab : Tab R} (good : tab.Good) (fits : tab.autoFits tab.paneCount = true) :
    tab.autoSwapLayout.Good where
  sound := autoSwapLayout_sound good.sound fits
  seen := good.seen.of_view (sameView_autoSwapLayout tab)

theorem nextSwapLayout_eq (tab : Tab R) :
    tab.nextSwapLayout = (tab.nextSwapIndex.map tab.applySwapLayoutAt).getD tab := by
  unfold nextSwapLayout nextSwapIndex
  simp only
  generalize tab.applicableSwapLayoutIndices tab.paneCount = applicable
  generalize (tab.currentSwapIndex.bind fun index => applicable.findIdx? (· == index)) = current
  by_cases empty : applicable = []
  next => simp [empty]
  next =>
    rw [if_neg (fun none => empty (List.isEmpty_iff.mp none))]
    cases current with
    | none =>
      simp only [Option.map_none, Option.getD_none]
      cases applicable[0]? with
      | none => rfl
      | some index => rfl
    | some pos =>
      simp only [Option.map_some, Option.getD_some]
      cases applicable[(pos + 1) % applicable.length]? with
      | none => rfl
      | some index => rfl

theorem prevSwapLayout_eq (tab : Tab R) :
    tab.prevSwapLayout = (tab.prevSwapIndex.map tab.applySwapLayoutAt).getD tab := by
  unfold prevSwapLayout prevSwapIndex
  simp only
  generalize tab.applicableSwapLayoutIndices tab.paneCount = applicable
  generalize (tab.currentSwapIndex.bind fun index => applicable.findIdx? (· == index)) = current
  by_cases empty : applicable = []
  next => simp [empty]
  next =>
    rw [if_neg (fun none => empty (List.isEmpty_iff.mp none))]
    cases current with
    | none =>
      simp only [Option.map_none, Option.getD_none]
      cases applicable[applicable.length - 1]? with
      | none => rfl
      | some index => rfl
    | some pos =>
      simp only [Option.map_some, Option.getD_some]
      cases applicable[if pos = 0 then applicable.length - 1 else pos - 1]? with
      | none => rfl
      | some index => rfl

theorem Good.applied {tab : Tab R} (good : tab.Good) {chosen : Option Nat}
    (fits : chosen.all (tab.slotsFit tab.paneCount) = true) : ((chosen.map tab.applySwapLayoutAt).getD tab).Good := by
  cases chosen with
  | none => exact good
  | some index => exact good.applySwapLayoutAt fits

theorem Good.registerSwapLayout {tab : Tab R} (good : tab.Good) (name : String) (minPanes maxPanes : Option Nat)
    (layout : LayoutNode R) : (tab.registerSwapLayout name minPanes maxPanes layout).Good := by
  have replaced : ∀ swapLayouts : List (SwapLayout R), Good { tab with swapLayouts } := fun swapLayouts =>
    ⟨good.sound.aside rfl rfl rfl good.sound.floatingDistinct good.sound.apart good.sound.active good.sound.fresh,
      good.seen.of_view ⟨rfl, rfl, rfl, rfl, fun _ => Iff.rfl⟩⟩
  unfold Tab.registerSwapLayout
  split
  next => exact replaced _
  next => exact replaced _

theorem call_good {call_ : TabCall R} {tab : Tab R} (keeps : keepsView call_ tab = true) (good : tab.Good) :
    Ensures (· = .arithmetic) (tab.call call_) Good := by
  cases call_ with
  | op op =>
    obtain ⟨focus, fits⟩ := Bool.and_eq_true_iff.mp keeps
    have sound := (step_sound op good.sound fits).allow fun panic spent => spent.1
    exact (sound.and (step_seen focus good.sound good.seen)).weaken fun next both => ⟨both.1, both.2⟩
  | registerSwapLayout name minPanes maxPanes layout => exact good.registerSwapLayout name minPanes maxPanes layout
  | autoSwapLayout => exact good.autoSwapLayout keeps
  | nextSwapLayout =>
    show Good tab.nextSwapLayout
    rw [nextSwapLayout_eq]
    exact good.applied keeps
  | prevSwapLayout =>
    show Good tab.prevSwapLayout
    rw [prevSwapLayout_eq]
    exact good.applied keeps

theorem new_good (id : Nat) (name : String) (cols rows : Nat) : (Tab.new id name cols rows : Tab R).Good where
  sound := new_sound id name cols rows
  seen :=
    { visible := fun floating member => by cases member
      fullscreenTiled := fun other is => by cases is
      active := ⟨0, rfl, .inl ((Keyed.mem_singleton ..).mpr rfl)⟩ }

theorem reachable_focused {calls : List (TabCall R)} {id : Nat} {name : String} {cols rows : Nat}
    (along : Along call (fun call_ tab => keepsView call_ tab = true) calls (Tab.new id name cols rows : Tab R)) :
    Throughout call Focused calls (Tab.new id name cols rows : Tab R) := by
  have one : ∀ (call_ : TabCall R) (tab : Tab R), keepsView call_ tab = true -> tab.Good ->
      Ensures AnyPanic (tab.call call_) Good :=
    fun call_ tab keeps good => (call_good keeps good).allow fun _ _ => trivial
  exact (throughout_of_along one along (new_good id name cols rows)).weaken fun tab good => good.seen.focused good.sound

theorem reachable_focused_float_fullscreen :
    Throughout call Focused
      [.op (.splitPane .vertical), .op .toggleFullscreen, .op (.focusPane 0), .op (.floatPane 0), .op .toggleFloatingPanes]
      (Tab.new 0 "Tab 1" 80 24 : Tab Rat) :=
  reachable_focused (by decide)

/-- Fullscreen of a floating pane lists it twice. -/
theorem floating_fullscreen_listed_twice :
    ¬ ∀ calls : List (TabCall Rat), Ensures (· = .arithmetic) (run call calls (Tab.new 0 "Tab 1" 80 24)) Focused := by
  intro every
  have focused := every [.op .newFloatingPane, .op .toggleFullscreen]
  have twice : Ensures (fun _ => False)
      (run call [.op .newFloatingPane, .op .toggleFullscreen] (Tab.new 0 "Tab 1" 80 24 : Tab Rat))
      fun tab => tab.listedIds = [1, 1] := by decide
  cases result : run call [.op .newFloatingPane, .op .toggleFullscreen] (Tab.new 0 "Tab 1" 80 24 : Tab Rat) with
  | error panic => exact (result ▸ twice : Ensures (fun _ => False) (.error panic) _)
  | ok tab =>
    have distinct := (focused.of_ok result).distinct
    rw [twice.of_ok result] at distinct
    exact absurd distinct (by decide)

end Tab

end Emux
