import Emux.Library.Run
import Emux.Mux.Leaves
import Emux.Mux.Tab

set_option autoImplicit false

/-!
# The structure of a tab

The layout tree, the map of tiled panes, the list of floating panes and the focus agree in every state that a
run of tab operations reaches.
-/

namespace Emux

open Checked

variable {R : Type}

structure Tiles (layout : LayoutEngine R) (panes : Keyed.Map PaneId Pane) : Prop where
  distinct : layout.paneIds.Nodup
  nonempty : layout.paneIds ≠ []
  keys : ∀ id, id ∈ layout.paneIds ↔ id ∈ panes
  named : ∀ id pane, panes.lookup id = some pane -> pane.id = id

namespace Tiles

variable {layout layout' : LayoutEngine R} {panes : Keyed.Map PaneId Pane}

theorem insert (tiles : Tiles layout panes) {id : PaneId} {pane : Pane} (name : pane.id = id) (absent : id ∉ panes)
    (perm : layout'.paneIds.Perm (id :: layout.paneIds)) : Tiles layout' (panes.insert id pane) where
  distinct := perm.nodup_iff.mpr (List.nodup_cons.mpr ⟨fun leaf => absent ((tiles.keys id).mp leaf), tiles.distinct⟩)
  nonempty empty := by simp [empty] at perm
  keys other := by
    rw [perm.mem_iff, List.mem_cons, AList.mem_insert, tiles.keys other]
  named other found looked := by
    by_cases same : other = id
    next =>
      subst same
      rw [AList.lookup_insert] at looked
      exact Option.some.inj looked ▸ name
    next =>
      rw [AList.lookup_insert_ne same] at looked
      exact tiles.named other found looked

theorem erase (tiles : Tiles layout panes) {id : PaneId} (perm : layout.paneIds.Perm (id :: layout'.paneIds))
    (nonempty : layout'.paneIds ≠ []) : Tiles layout' (panes.erase id) where
  distinct := (List.nodup_cons.mp (perm.nodup_iff.mp tiles.distinct)).2
  nonempty := nonempty
  keys other := by
    have apart := (List.nodup_cons.mp (perm.nodup_iff.mp tiles.distinct)).1
    rw [AList.mem_erase, ← tiles.keys other, perm.mem_iff, List.mem_cons]
    constructor
    next => exact fun leaf => ⟨fun same => apart (same ▸ leaf), .inr leaf⟩
    next => exact fun ⟨other, either⟩ => either.resolve_left other
  named other found looked := by
    by_cases same : other = id
    next =>
      subst same
      rw [AList.lookup_erase] at looked
      cases looked
    next =>
      rw [AList.lookup_erase_ne same] at looked
      exact tiles.named other found looked

theorem relayout (tiles : Tiles layout panes) (perm : layout'.paneIds.Perm layout.paneIds) : Tiles layout' panes where
  distinct := perm.nodup_iff.mpr tiles.distinct
  nonempty empty := tiles.nonempty (List.nil_perm.mp (empty ▸ perm))
  keys other := perm.mem_iff.trans (tiles.keys other)
  named := tiles.named

theorem modify (tiles : Tiles layout panes) (key : PaneId) {update : Pane -> Pane}
    (keeps : ∀ pane, (update pane).id = pane.id) : Tiles layout (Keyed.modify panes key update) where
  distinct := tiles.distinct
  nonempty := tiles.nonempty
  keys other := (tiles.keys other).trans (Keyed.mem_modify panes key update other).symm
  named other found looked := by
    rw [Keyed.lookup_modify] at looked
    split at looked
    next =>
      obtain ⟨pane, before, rfl⟩ := Option.map_eq_some_iff.mp looked
      exact (keeps pane).trans (tiles.named other pane before)
    next => exact tiles.named other found looked

theorem size_eq (tiles : Tiles layout panes) : Keyed.size panes = layout.paneIds.length := by
  refine ((List.perm_ext_iff_of_nodup panes.keys_nodup tiles.distinct).mpr fun id => ?_).length_eq
  rw [← AList.mem_keys, tiles.keys id]

end Tiles

namespace Tab

variable [Ratio R]

def Owns (tab : Tab R) (id : PaneId) : Prop := id ∈ tab.panes ∨ id ∈ tab.floatingPaneIds

/-- Tree, maps, floating list, focus and counter agree, whatever the stored sizes. -/
structure Arranged (tab : Tab R) : Prop where
  tiles : Tiles tab.layout tab.panes
  floatingDistinct : tab.floatingPaneIds.Nodup
  apart : ∀ id ∈ tab.floatingPaneIds, id ∉ tab.panes
  active : ∃ id, tab.activePane = some id ∧ tab.Owns id
  fresh : ∀ id, tab.Owns id -> id < tab.nextPaneId

def Synced (tab : Tab R) : Prop :=
  ∀ placed ∈ tab.tiledPositions, ∃ pane, tab.panes.lookup placed.1 = some pane ∧
    pane.size = { rows := placed.2.rows, cols := placed.2.cols }

structure Sound (tab : Tab R) : Prop extends Arranged tab where
  synced : tab.Synced

/-! ## Applying the sizes of the layout -/

@[simp] theorem syncPaneSizes_layout (tab : Tab R) : tab.syncPaneSizes.layout = tab.layout := rfl
@[simp] theorem syncPaneSizes_size (tab : Tab R) : tab.syncPaneSizes.size = tab.size := rfl
@[simp] theorem syncPaneSizes_activePane (tab : Tab R) : tab.syncPaneSizes.activePane = tab.activePane := rfl
@[simp] theorem syncPaneSizes_nextPaneId (tab : Tab R) : tab.syncPaneSizes.nextPaneId = tab.nextPaneId := rfl
@[simp] theorem syncPaneSizes_fullscreenPane (tab : Tab R) :
    tab.syncPaneSizes.fullscreenPane = tab.fullscreenPane := rfl
@[simp] theorem syncPaneSizes_floatingPanes (tab : Tab R) : tab.syncPaneSizes.floatingPanes = tab.floatingPanes := rfl
@[simp] theorem syncPaneSizes_showFloating (tab : Tab R) : tab.syncPaneSizes.showFloating = tab.showFloating := rfl
@[simp] theorem syncPaneSizes_swapLayouts (tab : Tab R) : tab.syncPaneSizes.swapLayouts = tab.swapLayouts := rfl

theorem map_fst_tiledPositions (tab : Tab R) : tab.tiledPositions.map Prod.fst = tab.layout.paneIds := by
  unfold tiledPositions LayoutEngine.computePositions LayoutEngine.paneIds
  cases tab.layout.root with
  | none => rfl
  | some root => exact root.map_fst_positions (.whole tab.size.cols tab.size.rows)

def resizeAll (panes : Keyed.Map PaneId Pane) (positions : List (PaneId × PanePosition)) : Keyed.Map PaneId Pane :=
  positions.foldl (fun panes placed => Keyed.modify panes placed.1 fun pane => pane.resize placed.2.cols placed.2.rows) panes

theorem syncPaneSizes_panes (tab : Tab R) : tab.syncPaneSizes.panes = resizeAll tab.panes tab.tiledPositions := rfl

theorem keys_resizeAll (panes : Keyed.Map PaneId Pane) (positions : List (PaneId × PanePosition)) :
    (resizeAll panes positions).keys = panes.keys := by
  induction positions generalizing panes with
  | nil => rfl
  | cons placed rest ih => exact (ih _).trans (Keyed.keys_modify ..)

theorem keys_syncPaneSizes (tab : Tab R) : tab.syncPaneSizes.panes.keys = tab.panes.keys :=
  keys_resizeAll tab.panes tab.tiledPositions

theorem mem_resizeAll (panes : Keyed.Map PaneId Pane) (positions : List (PaneId × PanePosition)) (id : PaneId) :
    id ∈ resizeAll panes positions ↔ id ∈ panes := by
  rw [AList.mem_keys, AList.mem_keys, keys_resizeAll]

omit [Ratio R] in
theorem tiles_resizeAll {layout : LayoutEngine R} {panes : Keyed.Map PaneId Pane} (tiles : Tiles layout panes)
    (positions : List (PaneId × PanePosition)) : Tiles layout (resizeAll panes positions) := by
  induction positions generalizing panes with
  | nil => exact tiles
  | cons placed rest ih => exact ih (tiles.modify placed.1 fun pane => rfl)

theorem lookup_resizeAll_absent (panes : Keyed.Map PaneId Pane) {positions : List (PaneId × PanePosition)} {id : PaneId}
    (absent : id ∉ positions.map Prod.fst) : (resizeAll panes positions).lookup id = panes.lookup id := by
  induction positions generalizing panes with
  | nil => rfl
  | cons placed rest ih =>
    rw [List.map_cons, List.mem_cons, not_or] at absent
    exact (ih _ absent.2).trans ((Keyed.lookup_modify ..).trans (if_neg absent.1))

theorem lookup_resizeAll (panes : Keyed.Map PaneId Pane) {positions : List (PaneId × PanePosition)}
    (distinct : (positions.map Prod.fst).Nodup) {placed : PaneId × PanePosition} (member : placed ∈ positions) :
    (resizeAll panes positions).lookup placed.1 =
      (panes.lookup placed.1).map fun pane => pane.resize placed.2.cols placed.2.rows := by
  induction positions generalizing panes with
  | nil => cases member
  | cons first rest ih =>
    rw [List.map_cons, List.nodup_cons] at distinct
    rcases List.mem_cons.mp member with rfl | later
    next => exact (lookup_resizeAll_absent _ distinct.1).trans ((Keyed.lookup_modify ..).trans (if_pos rfl))
    next =>
      have other : placed.1 ≠ first.1 := fun same => distinct.1 (same ▸ List.mem_map_of_mem later)
      have skipped := Keyed.lookup_modify panes first.1 (fun pane => pane.resize first.2.cols first.2.rows) placed.1
      rw [if_neg other] at skipped
      exact (ih _ distinct.2 later).trans (congrArg _ skipped)

theorem owns_syncPaneSizes (tab : Tab R) (id : PaneId) : tab.syncPaneSizes.Owns id ↔ tab.Owns id :=
  or_congr_left (mem_resizeAll tab.panes tab.tiledPositions id)

theorem Arranged.sync {tab : Tab R} (arranged : tab.Arranged) : tab.syncPaneSizes.Sound where
  tiles := tiles_resizeAll arranged.tiles tab.tiledPositions
  floatingDistinct := arranged.floatingDistinct
  apart id floating tiled := arranged.apart id floating ((mem_resizeAll ..).mp tiled)
  active := by
    obtain ⟨id, active, owned⟩ := arranged.active
    exact ⟨id, active, (owns_syncPaneSizes tab id).mpr owned⟩
  fresh id owned := arranged.fresh id ((owns_syncPaneSizes tab id).mp owned)
  synced placed member := by
    have ids := map_fst_tiledPositions tab
    have leaf : placed.1 ∈ tab.layout.paneIds := ids ▸ List.mem_map_of_mem member
    have present := AList.lookup_isSome.mpr ((arranged.tiles.keys placed.1).mp leaf)
    obtain ⟨pane, found⟩ := Option.isSome_iff_exists.mp present
    have distinct : (tab.tiledPositions.map Prod.fst).Nodup := ids ▸ arranged.tiles.distinct
    refine ⟨pane.resize placed.2.cols placed.2.rows, ?_, rfl⟩
    rw [syncPaneSizes_panes, lookup_resizeAll tab.panes distinct member, found]
    rfl

theorem Sound.aside {tab tab' : Tab R} (sound : tab.Sound) (layout : tab'.layout = tab.layout)
    (panes : tab'.panes = tab.panes) (size : tab'.size = tab.size) (floatingDistinct : tab'.floatingPaneIds.Nodup)
    (apart : ∀ id ∈ tab'.floatingPaneIds, id ∉ tab.panes) (active : ∃ id, tab'.activePane = some id ∧ tab'.Owns id)
    (fresh : ∀ id, tab'.Owns id -> id < tab'.nextPaneId) : tab'.Sound where
  tiles := by
    rw [layout, panes]
    exact sound.tiles
  floatingDistinct := floatingDistinct
  apart := by
    rw [panes]
    exact apart
  active := active
  fresh := fresh
  synced := by
    unfold Synced tiledPositions
    rw [layout, panes, size]
    exact sound.synced

theorem Sound.refocus {tab tab' : Tab R} (sound : tab.Sound) (layout : tab'.layout = tab.layout)
    (panes : tab'.panes = tab.panes) (size : tab'.size = tab.size) (next : tab'.nextPaneId = tab.nextPaneId)
    (floating : tab'.floatingPaneIds.Perm tab.floatingPaneIds)
    (active : ∃ id, tab'.activePane = some id ∧ tab.Owns id) : tab'.Sound := by
  -- Focus, fullscreen and the order of the floating panes may change freely.
  have owns : ∀ id, tab'.Owns id ↔ tab.Owns id := fun id => by
    unfold Owns
    rw [panes, floating.mem_iff]
  refine sound.aside layout panes size (floating.nodup_iff.mpr sound.floatingDistinct)
    (fun id inside => sound.apart id (floating.mem_iff.mp inside)) ?_ (fun id owned => ?_)
  next =>
    obtain ⟨id, is, owned⟩ := active
    exact ⟨id, is, (owns id).mpr owned⟩
  next =>
    rw [next]
    exact sound.fresh id ((owns id).mp owned)

/-! ## The floating list -/

omit [Ratio R] in
theorem findFloatingIdx_none_iff (tab : Tab R) (id : PaneId) :
    tab.findFloatingIdx id = none ↔ id ∉ tab.floatingPaneIds := by
  rw [findFloatingIdx, List.findIdx?_eq_none_iff, floatingPaneIds, List.mem_map, not_exists]
  refine forall_congr' fun floating => ?_
  rw [not_and]
  exact forall_congr' fun _ => by simp

omit [Ratio R] in
theorem findFloatingIdx_some {tab : Tab R} {id : PaneId} {index : Nat} (found : tab.findFloatingIdx id = some index) :
    ∃ before floating after, tab.floatingPanes = before ++ floating :: after ∧ before.length = index ∧ floating.id = id := by
  obtain ⟨inside, matched, -⟩ := List.findIdx?_eq_some_iff_getElem.mp found
  refine ⟨tab.floatingPanes.take index, tab.floatingPanes[index], tab.floatingPanes.drop (index + 1), ?_, ?_, ?_⟩
  next => rw [← List.drop_eq_getElem_cons inside, List.take_append_drop]
  next => rw [List.length_take]; omega
  next => simpa using matched

omit [Ratio R] in
theorem takeFloating_some {tab : Tab R} {id : PaneId} {floating : FloatingPane} {others : List FloatingPane}
    (taken : tab.takeFloating id = some (floating, others)) :
    ∃ before after, tab.floatingPanes = before ++ floating :: after ∧ others = before ++ after ∧ floating.id = id := by
  cases found : tab.findFloatingIdx id with
  | none => simp [takeFloating, found] at taken
  | some index =>
    obtain ⟨before, floating, after, list, rfl, named⟩ := findFloatingIdx_some found
    have erased : (before ++ floating :: after).eraseIdx before.length = before ++ after := by
      simp [List.eraseIdx_append_of_length_le]
    simp only [takeFloating, found, list, Option.bind_eq_bind, Option.bind_some, List.getElem?_append_right,
      Nat.le_refl, Nat.sub_self, List.getElem?_cons_zero, erased, Option.some.injEq, Prod.mk.injEq] at taken
    exact ⟨before, after, taken.1 ▸ list, taken.2.symm, taken.1 ▸ named⟩

omit [Ratio R] in
theorem takeFloating_ids {tab : Tab R} {id : PaneId} {floating : FloatingPane} {others : List FloatingPane}
    (taken : tab.takeFloating id = some (floating, others)) :
    floating.id = id ∧ tab.floatingPaneIds.Perm (id :: others.map FloatingPane.id) := by
  -- The ids of the list from which a floating pane was taken.
  obtain ⟨before, after, list, rfl, named⟩ := takeFloating_some taken
  refine ⟨named, ?_⟩
  rw [floatingPaneIds, list, List.map_append, List.map_cons, List.map_append, named]
  exact List.perm_middle

omit [Ratio R] in
theorem updateFloating_ids (tab : Tab R) (id : PaneId) {update : FloatingPane -> FloatingPane}
    (keeps : ∀ floating, (update floating).id = floating.id) :
    (tab.updateFloating id update).2.floatingPaneIds = tab.floatingPaneIds := by
  unfold updateFloating
  cases found : tab.findFloatingIdx id with
  | none => rfl
  | some index =>
    simp only [floatingPaneIds]
    refine List.ext_getElem? fun i => ?_
    rw [List.getElem?_map, List.getElem?_map, List.getElem?_modify]
    cases tab.floatingPanes[i]? with
    | none => rfl
    | some floating => by_cases here : index = i <;> simp [here, keeps]

/-! ## Swap layouts -/

def slotsFit (tab : Tab R) (count index : Nat) : Bool :=
  tab.swapLayouts[index]?.all fun swap => swap.layout.paneIds.length ≤ count

def autoFits (tab : Tab R) (count : Nat) : Bool :=
  (tab.applicableSwapLayoutIndices count).head?.all fun index =>
    tab.currentSwapIndex == some index || tab.slotsFit count index

omit [Ratio R] in
theorem autoFits_noSwaps {tab : Tab R} (noSwaps : tab.swapLayouts = []) (count : Nat) : tab.autoFits count = true := by
  simp [autoFits, applicableSwapLayoutIndices, noSwaps]

omit [Ratio R] in
theorem autoFits_same {tab next : Tab R} {count : Nat} (fits : tab.autoFits count = true)
    (swapLayouts : next.swapLayouts = tab.swapLayouts) (current : next.currentSwapIndex = tab.currentSwapIndex)
    (counted : next.paneCount = count) : next.autoFits next.paneCount = true := by
  simpa only [autoFits, slotsFit, applicableSwapLayoutIndices, swapLayouts, current, counted] using fits

theorem applySwapLayoutAt_sound {tab : Tab R} (sound : tab.Sound) {index : Nat}
    (fits : tab.slotsFit tab.paneCount index = true) : (tab.applySwapLayoutAt index).Sound := by
  unfold applySwapLayoutAt
  cases found : tab.swapLayouts[index]? with
  | none => exact sound
  | some swap =>
    have counted : tab.paneCount = tab.layout.paneIds.length := sound.tiles.size_eq
    have slots : swap.layout.paneIds.length ≤ tab.layout.paneIds.length := by
      simpa [slotsFit, found, counted] using fits
    have perm := tab.layout.applyTemplate_paneIds_perm slots
    exact Arranged.sync { sound.toArranged with tiles := sound.tiles.relayout perm }

theorem autoSwapLayout_sound {tab : Tab R} (sound : tab.Sound) (fits : tab.autoFits tab.paneCount = true) :
    tab.autoSwapLayout.Sound := by
  unfold autoSwapLayout
  cases first : (tab.applicableSwapLayoutIndices tab.paneCount).head? with
  | none => exact sound.aside rfl rfl rfl sound.floatingDistinct sound.apart sound.active sound.fresh
  | some index =>
    simp only
    split
    next other =>
      refine applySwapLayoutAt_sound sound ?_
      simpa [autoFits, first, other] using fits
    next => exact sound

/-! ## Splitting and closing -/

theorem mem_of_tiledPosition {tab : Tab R} {id : PaneId} {pos : PanePosition}
    (found : tab.tiledPosition id = some pos) : (id, pos) ∈ tab.tiledPositions := by
  obtain ⟨placed, searched, rfl⟩ := Option.map_eq_some_iff.mp found
  have same : placed.1 = id := by simpa using List.find?_some searched
  exact same ▸ List.mem_of_find?_eq_some searched

theorem leaf_of_tiledPosition {tab : Tab R} {id : PaneId} {pos : PanePosition}
    (found : tab.tiledPosition id = some pos) : id ∈ tab.layout.paneIds :=
  map_fst_tiledPositions tab ▸ List.mem_map_of_mem (mem_of_tiledPosition found)

def splitAt (tab : Tab R) (target : PaneId) (direction : SplitDirection) (cols rows : Nat) : Tab R :=
  { { tab with
      fullscreenPane := none
      nextPaneId := tab.nextPaneId + 1
      panes := tab.panes.insert tab.nextPaneId (Pane.new tab.nextPaneId cols rows)
      layout := (tab.layout.split target tab.nextPaneId direction).2 }.syncPaneSizes with
    activePane := some tab.nextPaneId }.autoSwapLayout

def OutOfIds (tab : Tab R) (panic : Panic) : Prop := panic = .arithmetic ∧ 2 ^ 32 ≤ tab.nextPaneId + 1

omit [Ratio R] in
theorem takePaneId_cases (tab : Tab R) :
    tab.takePaneId = .ok (tab.nextPaneId, { tab with nextPaneId := tab.nextPaneId + 1 }) ∨
      tab.takePaneId = .error .arithmetic ∧ tab.OutOfIds .arithmetic := by
  unfold takePaneId add
  split
  next => exact .inl rfl
  next full => exact .inr ⟨rfl, rfl, Nat.not_lt.mp full⟩

theorem canSplit_placed {tab : Tab R} {id : PaneId} {direction : SplitDirection} (can : tab.canSplit id direction = true) :
    ∃ pos, tab.tiledPosition id = some pos := by
  unfold canSplit at can
  cases placed : tab.tiledPosition id with
  | none => simp [placed] at can
  | some pos => exact ⟨pos, rfl⟩

def canSplitActive (tab : Tab R) (direction : SplitDirection) : Bool :=
  match tab.activePane with
  | some active => tab.canSplit active direction
  | none => false

theorem splitPane_cases (tab : Tab R) (direction : SplitDirection) :
    Ensures tab.OutOfIds (tab.splitPane direction) fun result =>
      (result = (none, { tab with fullscreenPane := none }) ∧ tab.canSplitActive direction = false) ∨
      ∃ target cols rows, tab.activePane = some target ∧ target ∈ tab.layout.paneIds ∧
        result = (some tab.nextPaneId, tab.splitAt target direction cols rows) ∧
        tab.canSplitActive direction = true := by
  -- A split is refused, or it splits a leaf: the active one.
  unfold splitPane
  simp only
  split
  next idle => exact .inl ⟨rfl, by rw [canSplitActive, show tab.activePane = none from idle]⟩
  next target active =>
    have active : tab.activePane = some target := active
    have asked : tab.canSplitActive direction = Tab.canSplit { tab with fullscreenPane := none } target direction := by
      rw [canSplitActive, active]
      rfl
    rw [asked]
    split
    next cannot => exact .inl ⟨rfl, by simpa using cannot⟩
    next can =>
      rw [Bool.not_eq_true', Bool.not_eq_false] at can
      obtain ⟨pos, placed⟩ := canSplit_placed can
      rcases takePaneId_cases { tab with fullscreenPane := none } with taken | ⟨full, spent⟩
      next =>
        rw [taken, ok_bind]
        have again : Tab.tiledPosition { tab with fullscreenPane := none, nextPaneId := tab.nextPaneId + 1 } target =
            some pos := placed
        simp only [again]
        exact .inr ⟨target, _, _, active, leaf_of_tiledPosition placed, rfl, can⟩
      next =>
        rw [full, error_bind]
        exact spent

theorem splitPane_refused {tab : Tab R} {direction : SplitDirection} (cannot : tab.canSplitActive direction = false) :
    tab.splitPane direction = .ok (none, { tab with fullscreenPane := none }) := by
  unfold splitPane
  cases active : tab.activePane with
  | none => rfl
  | some target =>
    rw [canSplitActive, active] at cannot
    have refused : Tab.canSplit { tab with fullscreenPane := none } target direction = false := cannot
    rw [active] at refused
    simp only [refused, Bool.not_false, if_true]

theorem splitPane_full {tab : Tab R} {direction : SplitDirection} (can : tab.canSplitActive direction = true)
    (full : ¬ tab.nextPaneId + 1 < 2 ^ 32) : tab.splitPane direction = .error .arithmetic := by
  unfold splitPane
  cases active : tab.activePane with
  | none =>
    rw [canSplitActive, active] at can
    cases can
  | some target =>
    rw [canSplitActive, active] at can
    have allowed : Tab.canSplit { tab with fullscreenPane := none } target direction = true := can
    rw [active] at allowed
    simp only [allowed, Bool.not_true, Bool.false_eq_true, if_false]
    rw [takePaneId, add, if_neg full]
    rfl

theorem splitPane_happens {tab : Tab R} {direction : SplitDirection} (can : tab.canSplitActive direction = true)
    (room : tab.nextPaneId + 1 < 2 ^ 32) : ∃ target cols rows, tab.activePane = some target ∧
      target ∈ tab.layout.paneIds ∧
      tab.splitPane direction = .ok (some tab.nextPaneId, tab.splitAt target direction cols rows) := by
  have cases := splitPane_cases tab direction
  cases split : tab.splitPane direction with
  | error panic =>
    rw [split] at cases
    exact absurd room (Nat.not_lt.mpr cases.2)
  | ok result =>
    rw [split] at cases
    obtain ⟨-, cannot⟩ | ⟨target, cols, rows, active, leaf, rfl, -⟩ := cases
    next => exact absurd can (by simp [cannot])
    next => exact ⟨target, cols, rows, active, leaf, rfl⟩

theorem splitAt_sound {tab : Tab R} (sound : tab.Sound) (fits : tab.autoFits (tab.paneCount + 1) = true)
    {target : PaneId} (leaf : target ∈ tab.layout.paneIds) (direction : SplitDirection) (cols rows : Nat) :
    (tab.splitAt target direction cols rows).Sound := by
  -- The counter stands above every id in use, so the new leaf has an id of its own.
  have unused : ¬ tab.Owns tab.nextPaneId := fun owned => Nat.lt_irrefl _ (sound.fresh _ owned)
  have perm := LayoutEngine.split_paneIds_perm tab.nextPaneId direction leaf
  have tiles : Tiles (tab.layout.split target tab.nextPaneId direction).2
      (tab.panes.insert tab.nextPaneId (Pane.new tab.nextPaneId cols rows)) :=
    sound.tiles.insert rfl (fun tiled => unused (.inl tiled)) perm
  have split : Arranged { tab with
      fullscreenPane := none
      nextPaneId := tab.nextPaneId + 1
      panes := tab.panes.insert tab.nextPaneId (Pane.new tab.nextPaneId cols rows)
      layout := (tab.layout.split target tab.nextPaneId direction).2 } :=
    { tiles
      floatingDistinct := sound.floatingDistinct
      apart := fun id floating tiled => by
        rcases (AList.mem_insert _).mp tiled with rfl | before
        next => exact unused (.inr floating)
        next => exact sound.apart id floating before
      active := by
        obtain ⟨id, is, owned⟩ := sound.active
        exact ⟨id, is, owned.imp_left fun tiled => (AList.mem_insert _).mpr (.inr tiled)⟩
      fresh := fun id owned => by
        rcases owned with tiled | floating
        next =>
          rcases (AList.mem_insert _).mp tiled with rfl | before
          next => exact Nat.lt_succ_self _
          next => exact Nat.lt_succ_of_lt (sound.fresh id (.inl before))
        next => exact Nat.lt_succ_of_lt (sound.fresh id (.inr floating)) }
  have grown := split.sync.tiles.size_eq.trans (perm.length_eq.trans (congrArg Nat.succ sound.tiles.size_eq.symm))
  refine autoSwapLayout_sound (split.sync.refocus rfl rfl rfl rfl (List.Perm.refl _) ⟨_, rfl, .inl ?_⟩)
    (autoFits_same fits rfl rfl grown)
  exact (mem_resizeAll ..).mpr ((AList.mem_insert _).mpr (.inl rfl))

theorem splitPane_sound {tab : Tab R} (sound : tab.Sound) {direction : SplitDirection}
    (fits : tab.canSplitActive direction = true -> tab.autoFits (tab.paneCount + 1) = true) :
    Ensures tab.OutOfIds (tab.splitPane direction) fun result => result.2.Sound := by
  refine (splitPane_cases tab direction).weaken fun result cases => ?_
  rcases cases with ⟨rfl, -⟩ | ⟨target, cols, rows, -, leaf, rfl, can⟩
  next => exact sound.refocus rfl rfl rfl rfl (List.Perm.refl _) sound.active
  next => exact splitAt_sound sound (fits can) leaf direction cols rows

def canSplitLargest (tab : Tab R) : Bool :=
  match largest tab.tiledPositions with
  | some (target, pos) => tab.canSplit target (if pos.rows ≤ pos.cols then .vertical else .horizontal)
  | none => false

theorem splitLargestPane_cases (tab : Tab R) :
    Ensures tab.OutOfIds tab.splitLargestPane fun result =>
      (result = (none, { tab with fullscreenPane := none }) ∧ tab.canSplitLargest = false) ∨
      ∃ target direction cols rows, target ∈ tab.layout.paneIds ∧
        result = (some tab.nextPaneId, tab.splitAt target direction cols rows) ∧ tab.canSplitLargest = true := by
  -- The largest pane is split, or nothing is.
  unfold splitLargestPane
  simp only
  split
  next empty => exact .inl ⟨rfl, by rw [canSplitLargest, show largest tab.tiledPositions = none from empty]⟩
  next target pos chosen =>
    rw [canSplitLargest, show largest tab.tiledPositions = some (target, pos) from chosen]
    refine (splitPane_cases { tab with fullscreenPane := none, activePane := some target } _).bind fun result cases => ?_
    rcases cases with ⟨rfl, cannot⟩ | ⟨target, cols, rows, is, leaf, rfl, can⟩
    next => exact .inl ⟨rfl, cannot⟩
    next => exact .inr ⟨target, _, cols, rows, leaf, rfl, can⟩

theorem splitLargestPane_sound {tab : Tab R} (sound : tab.Sound)
    (fits : tab.canSplitLargest = true -> tab.autoFits (tab.paneCount + 1) = true) :
    Ensures tab.OutOfIds tab.splitLargestPane fun result => result.2.Sound := by
  refine (splitLargestPane_cases tab).weaken fun result cases => ?_
  rcases cases with ⟨rfl, -⟩ | ⟨target, direction, cols, rows, leaf, rfl, can⟩
  next => exact sound.refocus rfl rfl rfl rfl (List.Perm.refl _) sound.active
  next => exact splitAt_sound sound (fits can) leaf direction cols rows

theorem removePane_tiles {tab : Tab R} (tiles : Tiles tab.layout tab.panes) {id : PaneId} (tiled : id ∈ tab.panes)
    (several : ¬ tab.paneCount ≤ 1) :
    tab.layout.paneIds.Perm (id :: (tab.layout.removePane id).2.paneIds) ∧
      Tiles (tab.layout.removePane id).2 (tab.panes.erase id) := by
  have counted : tab.paneCount = tab.layout.paneIds.length := tiles.size_eq
  have perm := LayoutEngine.removePane_paneIds_perm tiles.distinct ((tiles.keys id).mpr tiled) (by omega)
  have length := perm.length_eq
  rw [List.length_cons] at length
  exact ⟨perm, tiles.erase perm (List.length_pos_iff.mp (by omega))⟩

omit [Ratio R] in
theorem Tiles.head {layout : LayoutEngine R} {panes : Keyed.Map PaneId Pane} (tiles : Tiles layout panes) :
    ∃ id, layout.paneIds.head? = some id ∧ id ∈ panes := by
  cases leaves : layout.paneIds with
  | nil => exact absurd leaves tiles.nonempty
  | cons id rest => exact ⟨id, rfl, (tiles.keys id).mp (leaves ▸ List.mem_cons_self)⟩

theorem closePane_sound {tab : Tab R} (sound : tab.Sound) {id : PaneId}
    (fits : id ∈ tab.panes -> 1 < tab.paneCount -> tab.autoFits (tab.paneCount - 1) = true) :
    (tab.closePane id).2.Sound := by
  unfold closePane
  split
  next => exact sound
  next several =>
    split
    next => exact sound
    next tiled =>
      rw [not_not] at tiled
      obtain ⟨perm, tiles⟩ := removePane_tiles sound.tiles tiled several
      have closed : Arranged { tab with
          fullscreenPane := if tab.fullscreenPane = some id then none else tab.fullscreenPane
          layout := (tab.layout.removePane id).2
          panes := tab.panes.erase id
          activePane := if tab.activePane = some id then (tab.layout.removePane id).2.paneIds.head? else tab.activePane } :=
        { tiles
          floatingDistinct := sound.floatingDistinct
          apart := fun other floating there => sound.apart other floating ((AList.mem_erase.mp there).2)
          active := by
            by_cases closed : tab.activePane = some id
            next =>
              obtain ⟨first, is, there⟩ := Tiles.head tiles
              exact ⟨first, (if_pos closed).trans is, .inl there⟩
            next =>
              obtain ⟨other, is, owned⟩ := sound.active
              have apart : other ≠ id := fun same => closed (same ▸ is)
              refine ⟨other, (if_neg closed).trans is, owned.imp_left fun there => ?_⟩
              exact AList.mem_erase.mpr ⟨apart, there⟩
          fresh := fun other owned => sound.fresh other (owned.imp_left fun there => (AList.mem_erase.mp there).2) }
      have before : Keyed.size tab.panes = (tab.layout.removePane id).2.paneIds.length + 1 :=
        sound.tiles.size_eq.trans perm.length_eq
      have left := closed.sync.tiles.size_eq.trans (Nat.eq_sub_of_add_eq before.symm)
      exact autoSwapLayout_sound closed.sync (autoFits_same (fits tiled (Nat.lt_of_not_le several)) rfl rfl left)

/-! ## Sizes -/

theorem resize_sound {tab : Tab R} (sound : tab.Sound) (cols rows : Nat) : (tab.resize cols rows).Sound :=
  Arranged.sync { sound.toArranged with }

theorem relayout_sound {tab : Tab R} (sound : tab.Sound) {layout : LayoutEngine R}
    (perm : layout.paneIds.Perm tab.layout.paneIds) : ({ tab with layout }.syncPaneSizes : Tab R).Sound :=
  Arranged.sync { sound.toArranged with tiles := sound.tiles.relayout perm }

theorem adjustRatio_cases (tab : Tab R) (id : PaneId) (axis : SplitDirection) (delta : R) :
    tab.adjustRatio id axis delta = (false, tab) ∨
      ∃ layout : LayoutEngine R, layout.paneIds = tab.layout.paneIds ∧
        tab.adjustRatio id axis delta = (true, { tab with layout }.syncPaneSizes) := by
  -- Adjusting changes nothing, or a ratio of the tree.
  unfold adjustRatio
  have leaves := tab.layout.adjustRatio_paneIds id axis delta
  cases result : tab.layout.adjustRatio id axis delta with
  | mk found layout =>
    rw [result] at leaves
    cases found with
    | true => exact .inr ⟨layout, leaves, rfl⟩
    | false =>
      have same := LayoutEngine.adjustRatio_refused (congrArg Prod.fst result)
      rw [result] at same
      exact .inl (by simp only [show layout = tab.layout from same])

theorem resizePane_cases (tab : Tab R) (id : PaneId) (direction : ResizeDirection) (amount : Int) :
    tab.resizePane id direction amount = (false, tab) ∨
      ∃ delta, tab.resizePane id direction amount = tab.adjustRatio id (resizeAxis direction) delta := by
  -- A resize is refused, or it adjusts a ratio along the axis of its direction.
  unfold resizePane
  cases tab.panes.lookup id with
  | none => exact .inl rfl
  | some pane =>
    generalize resizeAxis direction = axis
    cases axis with
    | horizontal =>
      by_cases fixed : pane.hasFixedRows
      next => exact .inl (if_pos fixed)
      next =>
        by_cases empty : tab.size.rows = 0
        next => simp [fixed, empty]
        next => exact .inr ⟨Ratio.portion amount tab.size.rows, by simp [fixed, empty]⟩
    | vertical =>
      by_cases fixed : pane.hasFixedCols
      next => exact .inl (if_pos fixed)
      next =>
        by_cases empty : tab.size.cols = 0
        next => simp [fixed, empty]
        next => exact .inr ⟨Ratio.portion amount tab.size.cols, by simp [fixed, empty]⟩

theorem adjustRatio_sound {tab : Tab R} (sound : tab.Sound) (id : PaneId) (axis : SplitDirection) (delta : R) :
    (tab.adjustRatio id axis delta).2.Sound := by
  rcases adjustRatio_cases tab id axis delta with refused | ⟨layout, leaves, adjusted⟩
  next =>
    rw [refused]
    exact sound
  next =>
    rw [adjusted]
    exact relayout_sound sound (leaves ▸ List.Perm.refl _)

theorem resizePane_sound {tab : Tab R} (sound : tab.Sound) (id : PaneId) (direction : ResizeDirection) (amount : Int) :
    (tab.resizePane id direction amount).2.Sound := by
  rcases resizePane_cases tab id direction amount with refused | ⟨delta, adjusted⟩
  next =>
    rw [refused]
    exact sound
  next =>
    rw [adjusted]
    exact adjustRatio_sound sound id _ delta

theorem modifyPane_sound {tab : Tab R} (sound : tab.Sound) (id : PaneId) {update : Pane -> Pane}
    (named : ∀ pane, (update pane).id = pane.id) (sized : ∀ pane, (update pane).size = pane.size) :
    ({ tab with panes := Keyed.modify tab.panes id update } : Tab R).Sound where
  tiles := @Tiles.modify R tab.layout tab.panes sound.tiles id update named
  floatingDistinct := sound.floatingDistinct
  apart other floating tiled := sound.apart other floating ((Keyed.mem_modify ..).mp tiled)
  active := by
    obtain ⟨other, is, owned⟩ := sound.active
    exact ⟨other, is, owned.imp_left fun tiled => (Keyed.mem_modify ..).mpr tiled⟩
  fresh other owned := sound.fresh other (owned.imp_left fun tiled => (Keyed.mem_modify ..).mp tiled)
  synced placed member := by
    obtain ⟨pane, found, size⟩ := sound.synced placed member
    have looked := Keyed.lookup_modify tab.panes id update placed.1
    rw [found] at looked
    split at looked
    next => exact ⟨_, looked, (sized pane).trans size⟩
    next => exact ⟨_, looked, size⟩

theorem setPaneConstraints_sound {tab : Tab R} (sound : tab.Sound) (id : PaneId) (constraints : PaneConstraints) :
    (tab.setPaneConstraints id constraints).Sound :=
  modifyPane_sound sound id (fun _ => rfl) fun _ => rfl

theorem updatePane_sound {tab : Tab R} (sound : tab.Sound) (id : PaneId) (op : PaneOp) : (tab.updatePane id op).Sound :=
  modifyPane_sound sound id (fun pane => (pane.apply_keeps op).1) fun pane => (pane.apply_keeps op).2.1

theorem rename_sound {tab : Tab R} (sound : tab.Sound) (name : String) : (tab.rename name).Sound :=
  sound.refocus rfl rfl rfl rfl (List.Perm.refl _) sound.active

omit [Ratio R] in
theorem undoRename_tab (tab : Tab R) :
    tab.undoRename.2 = { tab with previousName := none, name := tab.previousName.getD tab.name } := by
  unfold undoRename
  split
  next previous recorded => rw [recorded, Option.getD_some]
  next none =>
    cases tab
    cases none
    rfl

theorem undoRename_sound {tab : Tab R} (sound : tab.Sound) : tab.undoRename.2.Sound := by
  rw [undoRename_tab]
  exact sound.refocus rfl rfl rfl rfl (List.Perm.refl _) sound.active

/-! ## Floating -/

theorem addFloating_sound {tab : Tab R} (sound : tab.Sound) {floating : FloatingPane} {id nextPaneId : PaneId}
    (named : floating.id = id) (unused : ¬ tab.Owns id) (later : tab.nextPaneId ≤ nextPaneId) (below : id < nextPaneId) :
    Sound { tab with
      nextPaneId
      floatingPanes := tab.floatingPanes ++ [floating]
      showFloating := true
      activePane := some id } := by
  -- A new floating pane with an id that no pane has.
  have ids : (tab.floatingPanes ++ [floating]).map FloatingPane.id = tab.floatingPaneIds ++ [id] := by
    simp [floatingPaneIds, named]
  have listed : ∀ other, other ∈ (tab.floatingPanes ++ [floating]).map FloatingPane.id ↔
      other ∈ tab.floatingPaneIds ∨ other = id := fun other => by simp [ids]
  refine sound.aside rfl rfl rfl ?_ (fun other member tiled => ?_) ⟨_, rfl, .inr ((listed _).mpr (.inr rfl))⟩
    fun other owned => ?_
  next =>
    have perm : ((tab.floatingPanes ++ [floating]).map FloatingPane.id).Perm (id :: tab.floatingPaneIds) := by
      rw [ids]
      exact List.perm_append_singleton _ _
    exact perm.nodup_iff.mpr (List.nodup_cons.mpr ⟨fun there => unused (.inr there), sound.floatingDistinct⟩)
  next =>
    rcases (listed other).mp member with before | rfl
    next => exact sound.apart other before tiled
    next => exact unused (.inl tiled)
  next =>
    rcases owned with tiled | member
    next => exact Nat.lt_of_lt_of_le (sound.fresh other (.inl tiled)) later
    next =>
      rcases (listed other).mp member with before | rfl
      next => exact Nat.lt_of_lt_of_le (sound.fresh other (.inr before)) later
      next => exact below

theorem newFloatingPaneWithCoords_sound {tab : Tab R} (sound : tab.Sound) (x y w h : Nat) :
    Ensures tab.OutOfIds (tab.newFloatingPaneWithCoords x y w h) fun result => result.2.Sound := by
  have unused : ¬ tab.Owns tab.nextPaneId := fun owned => Nat.lt_irrefl _ (sound.fresh _ owned)
  unfold newFloatingPaneWithCoords
  rcases takePaneId_cases tab with taken | ⟨full, spent⟩
  next =>
    rw [taken, ok_bind]
    exact addFloating_sound sound rfl unused (Nat.le_succ _) (Nat.lt_succ_self _)
  next =>
    rw [full, error_bind]
    exact spent

theorem toggleFloatingPanes_sound {tab : Tab R} (sound : tab.Sound) : tab.toggleFloatingPanes.Sound := by
  have first : ∃ id, tab.layout.paneIds.head? = some id ∧ tab.Owns id := by
    obtain ⟨id, is, tiled⟩ := Tiles.head sound.tiles
    exact ⟨id, is, .inl tiled⟩
  unfold toggleFloatingPanes
  split
  next =>
    split
    next => exact sound.refocus rfl rfl rfl rfl (List.Perm.refl _) first
    next => exact sound.refocus rfl rfl rfl rfl (List.Perm.refl _) sound.active
  next =>
    split
    next floating last =>
      have owned : tab.Owns floating.id := .inr (List.mem_map_of_mem (List.mem_of_getLast? last))
      exact sound.refocus rfl rfl rfl rfl (List.Perm.refl _) ⟨_, rfl, owned⟩
    next => exact sound.refocus rfl rfl rfl rfl (List.Perm.refl _) sound.active

theorem closeFloatingPane_sound {tab : Tab R} (sound : tab.Sound) (id : PaneId) : (tab.closeFloatingPane id).2.Sound := by
  unfold closeFloatingPane
  split
  next => exact sound
  next floating others taken =>
    obtain ⟨-, perm⟩ := takeFloating_ids taken
    have distinct := List.nodup_cons.mp (perm.nodup_iff.mp sound.floatingDistinct)
    have before : ∀ other, other ∈ others.map FloatingPane.id -> other ∈ tab.floatingPaneIds :=
      fun other member => perm.mem_iff.mpr (List.mem_cons_of_mem _ member)
    refine sound.aside rfl rfl rfl distinct.2 (fun other member => sound.apart other (before other member)) ?_
      fun other owned => sound.fresh other (owned.imp_right (before other))
    by_cases closed : tab.activePane = some id
    next =>
      cases top : others.getLast? with
      | some last =>
        refine ⟨last.id, ?_, .inr (List.mem_map_of_mem (List.mem_of_getLast? top))⟩
        simp [closed]
      | none =>
        obtain ⟨first, is, there⟩ := Tiles.head sound.tiles
        exact ⟨first, by simp [closed, is], .inl there⟩
    next =>
      obtain ⟨other, is, owned⟩ := sound.active
      refine ⟨other, (if_neg closed).trans is, owned.imp_right fun member => ?_⟩
      exact (List.mem_cons.mp (perm.mem_iff.mp member)).resolve_left fun same => closed (same ▸ is)

theorem embedFloatingPane_sound {tab : Tab R} (sound : tab.Sound) (id : PaneId) : (tab.embedFloatingPane id).2.Sound := by
  unfold embedFloatingPane
  split
  next => exact sound
  next floating others taken =>
    obtain ⟨named, perm⟩ := takeFloating_ids taken
    have distinct := List.nodup_cons.mp (perm.nodup_iff.mp sound.floatingDistinct)
    have member : id ∈ tab.floatingPaneIds := perm.mem_iff.mpr List.mem_cons_self
    have before : ∀ other, other ∈ others.map FloatingPane.id -> other ∈ tab.floatingPaneIds :=
      fun other inside => perm.mem_iff.mpr (List.mem_cons_of_mem _ inside)
    have tiles : Tiles (tab.layout.addPane id) (tab.panes.insert id floating.pane) :=
      sound.tiles.insert named (sound.apart id member) (tab.layout.addPane_paneIds_perm id)
    have embedded : Arranged { tab with
        floatingPanes := others
        panes := tab.panes.insert id floating.pane
        layout := tab.layout.addPane id
        activePane := some id } :=
      { tiles
        floatingDistinct := distinct.2
        apart := fun other inside tiled => by
          rcases (AList.mem_insert _).mp tiled with rfl | there
          next => exact distinct.1 inside
          next => exact sound.apart other (before other inside) there
        active := ⟨id, rfl, .inl ((AList.mem_insert _).mpr (.inl rfl))⟩
        fresh := fun other owned => by
          rcases owned with tiled | inside
          next =>
            rcases (AList.mem_insert _).mp tiled with rfl | there
            next => exact sound.fresh other (.inr member)
            next => exact sound.fresh other (.inl there)
          next => exact sound.fresh other (.inr (before other inside)) }
    exact embedded.sync

theorem floatPane_sound {tab : Tab R} (sound : tab.Sound) (id : PaneId) : (tab.floatPane id).2.Sound := by
  unfold floatPane
  split
  next => exact sound
  next pane found =>
    split
    next => exact sound
    -- The pane leaves tree and map and comes to the end of the floating list.
    next several =>
      have tiled : id ∈ tab.panes := AList.lookup_isSome.mp (by simp [found])
      have name := sound.tiles.named id pane found
      obtain ⟨perm, tiles⟩ := removePane_tiles sound.tiles tiled several
      have ids : ∀ floating : FloatingPane, floating.id = id ->
          (tab.floatingPanes ++ [floating]).map FloatingPane.id = tab.floatingPaneIds ++ [id] :=
        fun floating named => by simp [floatingPaneIds, named]
      have floated : ∀ floating : FloatingPane, floating.id = id -> Arranged { tab with
          panes := tab.panes.erase id
          layout := (tab.layout.removePane id).2
          floatingPanes := tab.floatingPanes ++ [floating]
          showFloating := true
          activePane := some id } := by
        intro floating named
        have listed : ∀ other, other ∈ (tab.floatingPanes ++ [floating]).map FloatingPane.id ↔
            other ∈ tab.floatingPaneIds ∨ other = id := fun other => by simp [ids floating named]
        exact
          { tiles
            floatingDistinct := by
              have moved : ((tab.floatingPanes ++ [floating]).map FloatingPane.id).Perm (id :: tab.floatingPaneIds) := by
                rw [ids floating named]
                exact List.perm_append_singleton _ _
              refine moved.nodup_iff.mpr (List.nodup_cons.mpr ⟨fun there => ?_, sound.floatingDistinct⟩)
              exact sound.apart id there tiled
            apart := fun other member there => by
              rcases (listed other).mp member with before | rfl
              next => exact sound.apart other before (AList.mem_erase.mp there).2
              next => exact (AList.mem_erase.mp there).1 rfl
            active := ⟨id, rfl, .inr ((listed id).mpr (.inr rfl))⟩
            fresh := fun other owned => by
              rcases owned with there | member
              next => exact sound.fresh other (.inl (AList.mem_erase.mp there).2)
              next =>
                rcases (listed other).mp member with before | rfl
                next => exact sound.fresh other (.inr before)
                next => exact sound.fresh other (.inl tiled) }
      refine Arranged.sync (floated _ ?_)
      exact name

theorem updateFloating_sound {tab : Tab R} (sound : tab.Sound) (id : PaneId) {update : FloatingPane -> FloatingPane}
    (keeps : ∀ floating, (update floating).id = floating.id) : (tab.updateFloating id update).2.Sound := by
  have ids := updateFloating_ids tab id keeps
  unfold updateFloating at ids ⊢
  split
  next => exact sound
  next index found =>
    simp only [found] at ids
    exact sound.refocus rfl rfl rfl rfl (ids ▸ List.Perm.refl _) sound.active

theorem restack_sound {tab : Tab R} (sound : tab.Sound) (id : PaneId)
    {place : FloatingPane -> List FloatingPane -> List FloatingPane}
    (keeps : ∀ floating others, (place floating others).Perm (floating :: others)) : (tab.restack id place).2.Sound := by
  unfold restack
  split
  next => exact sound
  next floating others taken =>
    obtain ⟨named, perm⟩ := takeFloating_ids taken
    have placed := (keeps floating others).map FloatingPane.id
    rw [List.map_cons, named] at placed
    exact sound.refocus rfl rfl rfl rfl (placed.trans perm.symm) sound.active

omit [Ratio R] in
theorem swapFloatingZOrder_perm (tab : Tab R) (a b : PaneId) :
    ∃ floatingPanes : List FloatingPane, floatingPanes.Perm tab.floatingPanes ∧
      (tab.swapFloatingZOrder a b).2 = { tab with floatingPanes } := by
  unfold swapFloatingZOrder
  split
  next indexA indexB foundA foundB =>
    split
    next floatingA floatingB atA atB =>
      obtain ⟨insideA, isA⟩ := List.getElem?_eq_some_iff.mp atA
      obtain ⟨insideB, isB⟩ := List.getElem?_eq_some_iff.mp atB
      refine ⟨_, ?_, rfl⟩
      rw [← isA, ← isB]
      exact List.set_set_perm insideA insideB
    next => exact ⟨tab.floatingPanes, List.Perm.refl _, rfl⟩
  next => exact ⟨tab.floatingPanes, List.Perm.refl _, rfl⟩

theorem swapFloatingZOrder_sound {tab : Tab R} (sound : tab.Sound) (a b : PaneId) :
    (tab.swapFloatingZOrder a b).2.Sound := by
  obtain ⟨floatingPanes, perm, same⟩ := swapFloatingZOrder_perm tab a b
  rw [same]
  exact sound.refocus rfl rfl rfl rfl (perm.map FloatingPane.id) sound.active

/-! ## Focus and fullscreen -/

theorem bringFloatingToFront_sound {tab : Tab R} (sound : tab.Sound) (id : PaneId) :
    (tab.bringFloatingToFront id).2.Sound :=
  restack_sound sound id fun floating others => List.perm_append_singleton floating others

theorem focus_sound {tab : Tab R} (sound : tab.Sound) {id : PaneId} (owned : tab.Owns id) (fullscreenPane : Option PaneId) :
    Sound { tab with fullscreenPane, activePane := some id } :=
  sound.refocus rfl rfl rfl rfl (List.Perm.refl _) ⟨id, rfl, owned⟩

theorem focusPane_sound {tab : Tab R} (sound : tab.Sound) (id : PaneId) : (tab.focusPane id).2.Sound := by
  unfold focusPane
  split
  next tiled => exact focus_sound sound (.inl tiled) _
  next =>
    split
    next index found =>
      have floating : id ∈ tab.floatingPaneIds := by
        by_contra absent
        simp [(findFloatingIdx_none_iff tab id).mpr absent] at found
      exact bringFloatingToFront_sound (focus_sound sound (.inr floating) tab.fullscreenPane) id
    next => exact sound

omit [Ratio R] in
theorem owns_of_mem_cycle {tab : Tab R} (tiles : Tiles tab.layout tab.panes) {id : PaneId}
    (member : id ∈ tab.focusCycleIds) : tab.Owns id := by
  rcases List.mem_append.mp member with tiled | floating
  next => exact .inl ((tiles.keys id).mp tiled)
  next =>
    split at floating
    next => exact .inr floating
    next => cases floating

theorem focusCycle_sound {tab : Tab R} (sound : tab.Sound) (step : Nat -> Nat -> Nat)
    {fallback : List PaneId -> Option PaneId} (picks : ∀ ids, ids ≠ [] -> ∃ id ∈ ids, fallback ids = some id) :
    (tab.focusCycle step fallback).2.Sound := by
  have cleared : Sound { tab with fullscreenPane := none } :=
    sound.refocus rfl rfl rfl rfl (List.Perm.refl _) sound.active
  unfold focusCycle
  simp only
  split
  next => exact cleared
  next nonempty =>
    split
    next pos found =>
      split
      next target picked =>
        have owned := owns_of_mem_cycle sound.tiles (List.mem_of_getElem? picked)
        exact bringFloatingToFront_sound (focus_sound cleared owned none) target
      next => exact cleared
    next =>
      obtain ⟨id, member, picked⟩ := picks tab.focusCycleIds fun empty => nonempty (by
        rw [show focusCycleIds { tab with fullscreenPane := none } = _ from empty]
        rfl)
      refine sound.refocus rfl rfl rfl rfl (List.Perm.refl _) ⟨id, picked, ?_⟩
      exact owns_of_mem_cycle sound.tiles member

theorem head?_picks (ids : List PaneId) (nonempty : ids ≠ []) : ∃ id ∈ ids, ids.head? = some id :=
  ⟨ids.head nonempty, List.head_mem nonempty, List.head?_eq_some_head nonempty⟩

theorem getLast?_picks (ids : List PaneId) (nonempty : ids ≠ []) : ∃ id ∈ ids, ids.getLast? = some id :=
  ⟨ids.getLast nonempty, List.getLast_mem nonempty, List.getLast?_eq_some_getLast nonempty⟩

theorem nearerNeighbor_picks {active : PaneId} {activePos : PanePosition} {direction : FocusDirection}
    {best : Option (PaneId × Nat)} {placed : PaneId × PanePosition} {chosen : PaneId × Nat}
    (picked : nearerNeighbor active activePos direction best placed = some chosen) :
    best = some chosen ∨ chosen.1 = placed.1 ∧ placed.1 ≠ active := by
  unfold nearerNeighbor at picked
  split at picked
  next => exact .inl picked
  next other =>
    split at picked
    next =>
      simp only at picked
      split at picked
      next =>
        obtain rfl := Option.some.inj picked
        exact .inr ⟨rfl, other⟩
      next => exact .inl picked
    next => exact .inl picked

theorem nearest_picks {active : PaneId} {activePos : PanePosition} {direction : FocusDirection}
    (positions : List (PaneId × PanePosition)) (best : Option (PaneId × Nat)) {chosen : PaneId × Nat}
    (picked : positions.foldl (nearerNeighbor active activePos direction) best = some chosen) :
    best = some chosen ∨ chosen.1 ∈ positions.map Prod.fst ∧ chosen.1 ≠ active := by
  -- The loop over the panes ends with one of them, and not with the active one.
  induction positions generalizing best with
  | nil => exact .inl picked
  | cons placed rest ih =>
    rcases ih _ picked with before | ⟨member, other⟩
    next =>
      rcases nearerNeighbor_picks before with before | ⟨same, other⟩
      next => exact .inl before
      next => exact .inr ⟨same ▸ List.mem_cons_self, same ▸ other⟩
    next => exact .inr ⟨List.mem_cons_of_mem _ member, other⟩

theorem findNeighbor_found {tab : Tab R} {direction : FocusDirection} {target : PaneId}
    (found : tab.findNeighborInDirection direction = some target) :
    ∃ active, tab.activePane = some active ∧ active ∈ tab.layout.paneIds ∧ target ∈ tab.layout.paneIds ∧
      active ≠ target := by
  unfold findNeighborInDirection at found
  cases activeIs : tab.activePane with
  | none => simp [activeIs] at found
  | some active =>
    cases placedAt : tab.tiledPosition active with
    | none => simp [activeIs, placedAt] at found
    | some activePos =>
      simp only [activeIs, placedAt, Option.bind_eq_bind, Option.bind_some] at found
      obtain ⟨best, folded, rfl⟩ := Option.map_eq_some_iff.mp found
      obtain ⟨member, other⟩ := (nearest_picks tab.tiledPositions none folded).resolve_left (by simp)
      exact ⟨active, rfl, leaf_of_tiledPosition placedAt, map_fst_tiledPositions tab ▸ member, Ne.symm other⟩

theorem focusDirection_sound {tab : Tab R} (sound : tab.Sound) (direction : FocusDirection) :
    (tab.focusDirection direction).2.Sound := by
  unfold focusDirection
  split
  next target found =>
    obtain ⟨active, -, -, leaf, -⟩ := findNeighbor_found found
    exact focus_sound sound (.inl ((sound.tiles.keys target).mp leaf)) none
  next => exact sound

theorem toggleFullscreen_sound {tab : Tab R} (sound : tab.Sound) : tab.toggleFullscreen.2.Sound := by
  unfold toggleFullscreen
  split
  next => exact sound.refocus rfl rfl rfl rfl (List.Perm.refl _) sound.active
  next =>
    split
    next => exact sound.refocus rfl rfl rfl rfl (List.Perm.refl _) sound.active
    next => exact sound

theorem toggleFullscreenById_sound {tab : Tab R} (sound : tab.Sound) (id : PaneId) :
    (tab.toggleFullscreenById id).2.Sound := by
  unfold toggleFullscreenById
  split
  next => exact sound
  next tiled =>
    rw [not_not] at tiled
    split
    next => exact sound.refocus rfl rfl rfl rfl (List.Perm.refl _) sound.active
    next => exact focus_sound sound (.inl tiled) (some id)

/-! ## Moving panes -/

theorem swapPanes_leaves {tab : Tab R} {a b : PaneId} (leafA : a ∈ tab.layout.paneIds) (leafB : b ∈ tab.layout.paneIds)
    (other : a ≠ b) : ∃ layout : LayoutEngine R, layout.paneIds.Perm tab.layout.paneIds ∧
      tab.swapPanes a b = (true, { tab with layout }.syncPaneSizes) := by
  -- Two different leaves are exchanged.
  have found := LayoutEngine.swapLeaves_found leafA leafB other
  have perm := tab.layout.swapLeaves_paneIds_perm a b
  unfold swapPanes
  cases result : tab.layout.swapLeaves a b with
  | mk swapped layout =>
    rw [result] at found perm
    obtain rfl : swapped = true := found
    exact ⟨layout, perm, rfl⟩

theorem moveActivePane_cases (tab : Tab R) (direction : FocusDirection) :
    tab.moveActivePane direction = (false, tab) ∧ tab.findNeighborInDirection direction = none ∨
      ∃ (active : PaneId) (layout : LayoutEngine R), tab.activePane = some active ∧ active ∈ tab.layout.paneIds ∧
        (∃ neighbor, tab.findNeighborInDirection direction = some neighbor) ∧
        layout.paneIds.Perm tab.layout.paneIds ∧
        tab.moveActivePane direction = (true, { tab with layout }.syncPaneSizes) := by
  -- A move is refused, or it exchanges the active leaf with another.
  unfold moveActivePane
  split
  next idle => exact .inl ⟨rfl, by simp [findNeighborInDirection, idle]⟩
  next active is =>
    cases found : tab.findNeighborInDirection direction with
    | none => exact .inl ⟨rfl, rfl⟩
    | some neighbor =>
      obtain ⟨here, same, leaf, neighborLeaf, other⟩ := findNeighbor_found found
      obtain rfl : active = here := Option.some.inj (is.symm.trans same)
      obtain ⟨layout, perm, swapped⟩ := swapPanes_leaves leaf neighborLeaf other
      exact .inr ⟨active, layout, is, leaf, ⟨neighbor, rfl⟩, perm, swapped⟩

theorem moveActivePane_sound {tab : Tab R} (sound : tab.Sound) (direction : FocusDirection) :
    (tab.moveActivePane direction).2.Sound := by
  rcases moveActivePane_cases tab direction with ⟨refused, -⟩ | ⟨active, layout, -, -, -, perm, moved⟩
  next =>
    rw [refused]
    exact sound
  next =>
    rw [moved]
    exact relayout_sound sound perm

theorem movePaneById_cases (tab : Tab R) (id : PaneId) (direction : FocusDirection) :
    tab.movePaneById id direction = (false, tab) ∧
        Tab.findNeighborInDirection { tab with activePane := some id } direction = none ∨
      ∃ layout : LayoutEngine R, id ∈ tab.layout.paneIds ∧
        (∃ neighbor, Tab.findNeighborInDirection { tab with activePane := some id } direction = some neighbor) ∧
        layout.paneIds.Perm tab.layout.paneIds ∧
        tab.movePaneById id direction = (true, { tab with layout, activePane := some id }.syncPaneSizes) := by
  unfold movePaneById
  rcases moveActivePane_cases { tab with activePane := some id } direction with
    ⟨refused, alone⟩ | ⟨active, layout, is, leaf, near, perm, moved⟩
  next => exact .inl ⟨by rw [refused], alone⟩
  next =>
    obtain rfl : id = active := Option.some.inj is
    exact .inr ⟨layout, leaf, near, perm, by rw [moved]⟩

theorem movePaneById_sound {tab : Tab R} (sound : tab.Sound) (id : PaneId) (direction : FocusDirection) :
    (tab.movePaneById id direction).2.Sound := by
  rcases movePaneById_cases tab id direction with ⟨refused, -⟩ | ⟨layout, leaf, -, perm, moved⟩
  next =>
    rw [refused]
    exact sound
  next =>
    rw [moved]
    have focused := focus_sound sound (.inl ((sound.tiles.keys id).mp leaf)) tab.fullscreenPane
    exact relayout_sound focused perm

theorem movePaneBackwards_cases {tab : Tab R} (distinct : tab.layout.paneIds.Nodup) (id : PaneId) :
    tab.movePaneBackwards id = (false, tab) ∨
      ∃ layout : LayoutEngine R, layout.paneIds.Perm tab.layout.paneIds ∧
        tab.movePaneBackwards id = (true, { tab with layout }.syncPaneSizes) := by
  unfold movePaneBackwards
  simp only
  split
  next pos found =>
    split
    next positive =>
      obtain ⟨inside, matched, -⟩ := List.findIdx?_eq_some_iff_getElem.mp found
      have here : tab.layout.paneIds[pos] = id := by simpa using matched
      have before : pos - 1 < tab.layout.paneIds.length := by omega
      have other : id ≠ tab.layout.paneIds[pos - 1] := by
        intro same
        have position := (List.Nodup.getElem_inj_iff distinct).mp (here.trans same)
        omega
      rw [List.getElem?_eq_getElem before]
      exact .inr (swapPanes_leaves (here ▸ List.getElem_mem inside) (List.getElem_mem before) other)
    next => exact .inl rfl
  next => exact .inl rfl

theorem movePaneBackwards_sound {tab : Tab R} (sound : tab.Sound) (id : PaneId) :
    (tab.movePaneBackwards id).2.Sound := by
  rcases movePaneBackwards_cases sound.tiles.distinct id with refused | ⟨layout, perm, moved⟩
  next =>
    rw [refused]
    exact sound
  next =>
    rw [moved]
    exact relayout_sound sound perm

end Tab

end Emux
