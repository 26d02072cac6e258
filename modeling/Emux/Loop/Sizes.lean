import Emux.Loop.EventLoop
import Emux.Mux.Identity
import Emux.Term.Deccolm

set_option autoImplicit false

/-!
# The sizes of the screens in the event loop

A command that changes the layout has to bring the screens along. The ones that split, close, resize or end a drag
do, the ones that toggle fullscreen, change the focus or switch tabs do not.
-/

namespace Emux

open Checked

/-! ## The size of a pane -/

namespace PaneState

structure Fits (pane : PaneState) (cols rows : Nat) : Prop where
  screen : pane.screen.HasSize cols rows
  damage : pane.damage.dirtyRows.length = rows

def Whole (pane : PaneState) : Prop := ∃ cols rows, pane.Fits cols rows

def shape (pane : PaneState) : (Nat × Nat) × (Nat × Nat) × Nat :=
  ((pane.screen.grid.cols, pane.screen.grid.rows), (pane.screen.altGrid.cols, pane.screen.altGrid.rows),
    pane.damage.dirtyRows.length)

theorem Fits.of_shape {pane next : PaneState} {cols rows : Nat} (fits : pane.Fits cols rows)
    (same : next.shape = pane.shape) : next.Fits cols rows := by
  simp only [shape, Prod.mk.injEq] at same
  obtain ⟨⟨width, height⟩, ⟨altWidth, altHeight⟩, tracked⟩ := same
  exact ⟨⟨⟨width.trans fits.screen.grid.1, height.trans fits.screen.grid.2⟩,
    ⟨altWidth.trans fits.screen.altGrid.1, altHeight.trans fits.screen.altGrid.2⟩⟩, tracked.trans fits.damage⟩

theorem Whole.of_shape {pane next : PaneState} (whole : pane.Whole) (same : next.shape = pane.shape) : next.Whole := by
  obtain ⟨cols, rows, fits⟩ := whole
  exact ⟨cols, rows, fits.of_shape same⟩

theorem new_fits (cols rows : Nat) : (PaneState.new cols rows).Fits cols rows :=
  ⟨(Screen.HasSize.new cols rows).same rfl rfl, List.length_replicate⟩

theorem scrolled_shape {scroll : Screen -> Screen} (still : ∀ s, (scroll s).grid = s.grid ∧ (scroll s).altGrid = s.altGrid)
    (pane : PaneState) : (EventLoop.scrolled scroll pane).shape = pane.shape := by
  obtain ⟨grid, altGrid⟩ := still pane.screen
  simp only [shape, EventLoop.scrolled, onScreen, markAll, DamageTracker.markAll, screen] at grid altGrid ⊢
  rw [grid, altGrid]

theorem resize_fits (pos : PanePosition) (pane : PaneState) :
    Ensures AnyPanic (resize pos pane) fun next => next.Fits pos.cols pos.rows := by
  refine (pane.screen.resize_hasSize pos.cols pos.rows).bind fun screen sized => ⟨sized, ?_⟩
  simp only [DamageTracker.resize, List.length_append, List.length_take, List.length_replicate]
  omega

theorem sync_fits (pos : PanePosition) {pane : PaneState} (whole : pane.Whole) :
    Ensures AnyPanic (sync pos pane) fun next => next.Fits pos.cols pos.rows := by
  have resized : Ensures AnyPanic
      (onlyIf (pane.screen.cols ≠ pos.cols ∨ pane.screen.rows ≠ pos.rows) pane (resize pos))
      fun next => next.Fits pos.cols pos.rows := by
    refine .ite (fun _ => resize_fits pos pane) fun same => ?_
    obtain ⟨cols, rows, fits⟩ := whole
    obtain ⟨rfl, rfl⟩ := fits.screen.grid
    obtain ⟨width, height⟩ : pane.screen.cols = pos.cols ∧ pane.screen.rows = pos.rows := by
      simpa only [not_or, ne_eq, not_not] using same
    rw [← width, ← height]
    exact ensures_ok fits
  exact resized.bind fun next fits => fits.of_shape rfl

theorem markRows_length (regions : List DamageRegion) (damage : DamageTracker) :
    (regions.foldl (fun damage region => damage.markRow region.row) damage).dirtyRows.length =
      damage.dirtyRows.length := by
  induction regions generalizing damage with
  | nil => rfl
  | cons region rest ih => exact (ih _).trans List.length_set

theorem drain_fits (bytes : Bytes) {pane : PaneState} {cols rows : Nat} (fits : pane.Fits cols rows) :
    Ensures AnyPanic (pane.drain bytes) fun next => next.Fits (pane.terminal.colsAfter bytes) rows := by
  refine (Terminal.feed_hasSize fits.screen bytes).bind fun terminal sized => ?_
  exact ⟨⟨sized.grid, sized.altGrid⟩, (markRows_length _ _).trans fits.damage⟩

/-! ## The panes of a map -/

def AllWhole (panes : Keyed.Map PaneId PaneState) : Prop := ∀ id pane, panes.lookup id = some pane -> pane.Whole

def Displayed (panes : Keyed.Map PaneId PaneState) (positions : List (PaneId × PanePosition)) : Prop :=
  ∀ placed ∈ positions, ∃ pane, panes.lookup placed.1 = some pane ∧ pane.Fits placed.2.cols placed.2.rows

def SameShapes (panes next : Keyed.Map PaneId PaneState) : Prop :=
  ∀ id, (next.lookup id).map shape = (panes.lookup id).map shape

namespace SameShapes

variable {panes next : Keyed.Map PaneId PaneState}

theorem mapValues {update : PaneState -> PaneState} (still : ∀ pane, (update pane).shape = pane.shape) :
    SameShapes panes (Keyed.mapValues panes update) := by
  intro id
  rw [Keyed.lookup_mapValues, Option.map_map, show shape ∘ update = shape from funext still]

theorem modify (id : PaneId) {update : PaneState -> PaneState} (still : ∀ pane, (update pane).shape = pane.shape) :
    SameShapes panes (Keyed.modify panes id update) := by
  intro other
  rw [Keyed.lookup_modify]
  split
  next => rw [Option.map_map, show shape ∘ update = shape from funext still]
  next => rfl

theorem markAll (panes : Keyed.Map PaneId PaneState) : SameShapes panes (Keyed.mapValues panes PaneState.markAll) :=
  mapValues fun _ => rfl

theorem mem (same : SameShapes panes next) (id : PaneId) : id ∈ next ↔ id ∈ panes := by
  rw [← AList.lookup_isSome, ← AList.lookup_isSome, ← Option.isSome_map, same id, Option.isSome_map]

theorem found (same : SameShapes panes next) {id : PaneId} {pane : PaneState} (stored : next.lookup id = some pane) :
    ∃ before, panes.lookup id = some before ∧ pane.shape = before.shape := by
  have shapes := same id
  rw [stored, Option.map_some] at shapes
  obtain ⟨before, there, is⟩ := Option.map_eq_some_iff.mp shapes.symm
  exact ⟨before, there, is.symm⟩

theorem symm (same : SameShapes panes next) : SameShapes next panes := fun id => (same id).symm

theorem whole (same : SameShapes panes next) (whole : AllWhole panes) : AllWhole next := by
  intro id pane stored
  obtain ⟨before, there, shapes⟩ := same.found stored
  exact (whole id before there).of_shape shapes

theorem displayed (same : SameShapes panes next) {positions : List (PaneId × PanePosition)}
    (displayed : Displayed panes positions) : Displayed next positions := by
  intro placed member
  obtain ⟨pane, stored, fits⟩ := displayed placed member
  obtain ⟨after, there, shapes⟩ := same.symm.found stored
  exact ⟨after, there, fits.of_shape shapes.symm⟩

end SameShapes

structure Listed (positions : List (PaneId × PanePosition)) (panes next : Keyed.Map PaneId PaneState) : Prop where
  keys : next.keys = panes.keys
  others : ∀ id, id ∉ positions.map Prod.fst -> next.lookup id = panes.lookup id
  whole : AllWhole next
  displayed : Displayed next positions

theorem allWhole_modify {panes : Keyed.Map PaneId PaneState} (whole : AllWhole panes) (id : PaneId) {pane : PaneState}
    (one : pane.Whole) : AllWhole (Keyed.modify panes id fun _ => pane) := by
  intro other found stored
  rw [Keyed.lookup_modify] at stored
  split at stored
  next =>
    obtain ⟨_, -, rfl⟩ := Option.map_eq_some_iff.mp stored
    exact one
  next => exact whole other found stored

theorem eachListed_listed {body : PanePosition -> PaneState -> Fallible PaneState}
    (one : ∀ pos pane, pane.Whole -> Ensures AnyPanic (body pos pane) fun next => next.Fits pos.cols pos.rows)
    {positions : List (PaneId × PanePosition)} (distinct : (positions.map Prod.fst).Nodup)
    {panes : Keyed.Map PaneId PaneState} (whole : AllWhole panes) (stored : ∀ placed ∈ positions, placed.1 ∈ panes) :
    Ensures AnyPanic (eachListed body positions panes) (Listed positions panes) := by
  induction positions generalizing panes with
  | nil => exact ⟨rfl, fun _ _ => rfl, whole, nofun⟩
  | cons placed rest ih =>
    obtain ⟨id, pos⟩ := placed
    obtain ⟨apart, distinct⟩ := List.nodup_cons.mp distinct
    obtain ⟨here, stored⟩ := List.forall_mem_cons.mp stored
    obtain ⟨pane, found⟩ := Option.isSome_iff_exists.mp (AList.lookup_isSome.mpr here)
    simp only [eachListed, found]
    refine (one pos pane (whole id pane found)).bind fun after fits => ?_
    have looked : (Keyed.modify panes id fun _ => after).lookup id = some after := by
      rw [Keyed.lookup_modify, if_pos rfl, found]
      rfl
    refine (ih distinct (allWhole_modify whole id ⟨_, _, fits⟩) fun placed member => ?_).weaken fun next listed => ?_
    next => exact (Keyed.mem_modify ..).mpr (stored placed member)
    next =>
      refine ⟨listed.keys.trans (Keyed.keys_modify ..), fun other outside => ?_, listed.whole, ?_⟩
      next =>
        obtain ⟨differs, outside⟩ := not_or.mp (mt List.mem_cons.mpr outside)
        rw [listed.others other outside, Keyed.lookup_modify, if_neg differs]
      next =>
        exact List.forall_mem_cons.mpr ⟨⟨after, (listed.others id apart).trans looked, fits⟩, listed.displayed⟩

end PaneState

open PaneState

/-! ## The tabs of the loop -/

namespace Tab

variable {R : Type} [Ratio R]

/-- No command makes a pane float or registers a swap layout. -/
structure Plain (tab : Tab R) : Prop extends Sound tab where
  floats : tab.floatingPanes = []
  noSwaps : tab.swapLayouts = []

def ListedIn (tab : Tab R) (panes : Keyed.Map PaneId PaneState) : Prop :=
  match tab.fullscreenPane with
  | some id => id ∈ panes
  | none => ∀ id ∈ tab.panes, id ∈ panes

omit [Ratio R] in
theorem listedIn_tiled {tab : Tab R} {panes : Keyed.Map PaneId PaneState} (tiled : tab.fullscreenPane = none) :
    tab.ListedIn panes ↔ ∀ id ∈ tab.panes, id ∈ panes := by
  rw [ListedIn, tiled]

omit [Ratio R] in
theorem listedIn_fullscreen {tab : Tab R} {panes : Keyed.Map PaneId PaneState} {id : PaneId}
    (fullscreen : tab.fullscreenPane = some id) : tab.ListedIn panes ↔ id ∈ panes := by
  rw [ListedIn, fullscreen]

omit [Ratio R] in
theorem ListedIn.mono {tab next : Tab R} {panes more : Keyed.Map PaneId PaneState} (listed : tab.ListedIn panes)
    (fullscreen : next.fullscreenPane = tab.fullscreenPane) (tiled : next.panes.keys = tab.panes.keys)
    (kept : ∀ id ∈ panes, id ∈ more) : next.ListedIn more := by
  unfold ListedIn at listed ⊢
  rw [fullscreen]
  split at listed
  next => exact kept _ listed
  next =>
    intro id member
    rw [AList.mem_keys, tiled, ← AList.mem_keys] at member
    exact kept id (listed id member)

namespace Plain

variable {tab : Tab R} {panes : Keyed.Map PaneId PaneState}

theorem positions (plain : tab.Plain) : tab.computePositions =
    match tab.fullscreenPane with
    | some id => [(id, { col := 0, row := 0, cols := tab.size.cols, rows := tab.size.rows })]
    | none => tab.tiledPositions := by
  have none : tab.visibleFloating = [] := by
    rw [visibleFloating, plain.floats]
    exact ite_self _
  exact (congrArg _ none).trans (List.append_nil _)

theorem tiled_positions (plain : tab.Plain) (tiled : tab.fullscreenPane = none) :
    tab.computePositions = tab.tiledPositions := by
  rw [plain.positions, tiled]

theorem distinct (plain : tab.Plain) : (tab.computePositions.map Prod.fst).Nodup := by
  rw [plain.positions]
  split
  next => exact List.nodup_singleton _
  next => exact (map_fst_tiledPositions tab).symm ▸ plain.tiles.distinct

theorem mem_tiled (plain : tab.Plain) (id : PaneId) : id ∈ tab.tiledPositions.map Prod.fst ↔ id ∈ tab.panes := by
  rw [map_fst_tiledPositions]
  exact plain.tiles.keys id

theorem listed_iff (plain : tab.Plain) : tab.ListedIn panes ↔ ∀ placed ∈ tab.computePositions, placed.1 ∈ panes := by
  rw [plain.positions]
  unfold ListedIn
  split
  next => simp
  next => simp only [← plain.mem_tiled, List.forall_mem_map]

theorem displayed_listed (plain : tab.Plain) (displayed : Displayed panes tab.computePositions) : tab.ListedIn panes := by
  refine plain.listed_iff.mpr fun placed member => ?_
  obtain ⟨pane, stored, -⟩ := displayed placed member
  exact AList.lookup_isSome.mp (by rw [stored]; rfl)

theorem of_sound (plain : tab.Plain) {next : Tab R} (sound : next.Sound)
    (floats : next.floatingPanes = tab.floatingPanes) (noSwaps : next.swapLayouts = tab.swapLayouts) : next.Plain :=
  { sound with floats := floats.trans plain.floats, noSwaps := noSwaps.trans plain.noSwaps }

theorem active_tiled (plain : tab.Plain) {id : PaneId} (active : tab.activePane = some id) : id ∈ tab.panes := by
  obtain ⟨other, is, owned⟩ := plain.active
  obtain rfl := Option.some.inj (is.symm.trans active)
  refine owned.resolve_right fun floats => ?_
  rw [floatingPaneIds, plain.floats] at floats
  cases floats

theorem new (id : Nat) (name : String) (cols rows : Nat) : (Tab.new id name cols rows : Tab R).Plain :=
  { Tab.new_sound id name cols rows with floats := rfl, noSwaps := rfl }

theorem resize (plain : tab.Plain) (cols rows : Nat) : (tab.resize cols rows).Plain :=
  plain.of_sound (resize_sound plain.toSound cols rows) rfl rfl

theorem view (plain : tab.Plain) (fullscreenPane : Option PaneId) {active : PaneId} (tiled : active ∈ tab.panes) :
    ({ tab with fullscreenPane, activePane := some active } : Tab R).Plain :=
  plain.of_sound (focus_sound plain.toSound (.inl tiled) fullscreenPane) rfl rfl

theorem fullscreen (plain : tab.Plain) (fullscreenPane : Option PaneId) : ({ tab with fullscreenPane } : Tab R).Plain :=
  plain.of_sound (plain.toSound.refocus rfl rfl rfl rfl (List.Perm.refl _) plain.active) rfl rfl

theorem toggleFloatingPanes (plain : tab.Plain) : tab.toggleFloatingPanes.Plain ∧
    tab.toggleFloatingPanes.computePositions = tab.computePositions := by
  have same : tab.toggleFloatingPanes = { tab with showFloating := !tab.showFloating } := by
    have none : tab.activePane.bind tab.findFloatingIdx = none := by
      simp [findFloatingIdx, plain.floats]
    unfold Tab.toggleFloatingPanes
    rw [none, plain.floats]
    cases tab.showFloating <;> rfl
  have next : tab.toggleFloatingPanes.Plain := by
    refine plain.of_sound (toggleFloatingPanes_sound plain.toSound) ?_ ?_ <;> rw [same]
  refine ⟨next, ?_⟩
  rw [next.positions, plain.positions, same]
  rfl

theorem closePane (plain : tab.Plain) {id : PaneId} (tiled : id ∈ tab.panes) (several : 1 < tab.paneCount) :
    (tab.closePane id).2.Plain ∧
      (tab.closePane id).2.fullscreenPane = (if tab.fullscreenPane = some id then none else tab.fullscreenPane) ∧
      (tab.closePane id).2.size = tab.size := by
  have floats := (closePane_panes id several).2
  have swaps := (keeps_closePane tab id).swapLayouts
  refine ⟨plain.of_sound (closePane_sound plain.toSound fun _ _ => autoFits_noSwaps plain.noSwaps _) floats swaps, ?_⟩
  rw [Tab.closePane, if_neg (Nat.not_le.mpr several), if_neg (not_not.mpr tiled)]
  dsimp only
  rw [autoSwapLayout_none]
  next => exact ⟨rfl, rfl⟩
  next => exact plain.noSwaps

theorem toggled (plain : tab.Plain) : tab.toggleFullscreen.2 =
    { tab with fullscreenPane := if tab.fullscreenPane.isSome then none else tab.activePane } := by
  obtain ⟨id, focused, -⟩ := plain.active
  unfold toggleFullscreen
  rw [focused]
  cases tab.fullscreenPane with
  | some _ => rfl
  | none => rfl

theorem splitAt (plain : tab.Plain) {target : PaneId} (leaf : target ∈ tab.layout.paneIds) (direction : SplitDirection)
    (cols rows : Nat) : (tab.splitAt target direction cols rows).Plain ∧
      (tab.splitAt target direction cols rows).fullscreenPane = none := by
  have sound := splitAt_sound plain.toSound (autoFits_noSwaps plain.noSwaps _) leaf direction cols rows
  have swaps := (grows_splitAt tab target direction cols rows).swapLayouts
  refine ⟨plain.of_sound sound (autoSwapLayout_panes _).2 swaps, ?_⟩
  exact congrArg Tab.fullscreenPane (autoSwapLayout_none (by exact plain.noSwaps))

theorem resizePane (plain : tab.Plain) (id : PaneId) (direction : ResizeDirection) (amount : Int) :
    (tab.resizePane id direction amount).2.Plain ∧
      (tab.resizePane id direction amount).2.fullscreenPane = tab.fullscreenPane ∧
      (tab.resizePane id direction amount).2.panes.keys = tab.panes.keys := by
  have sound := resizePane_sound plain.toSound id direction amount
  rcases resizePane_cases tab id direction amount with refused | ⟨delta, adjusted⟩
  next =>
    rw [refused]
    exact ⟨plain, rfl, rfl⟩
  next =>
    rw [adjusted] at sound ⊢
    rcases adjustRatio_cases tab id (resizeAxis direction) delta with refused | ⟨layout, -, changed⟩
    next =>
      rw [refused]
      exact ⟨plain, rfl, rfl⟩
    next =>
      rw [changed] at sound ⊢
      exact ⟨plain.of_sound sound rfl rfl, rfl, keys_syncPaneSizes _⟩

end Plain

end Tab

/-! ## The states between two events -/

variable {R : Type} [Ratio R]

namespace App

/-- A synchronization of the screens can bring the sizes to agree. -/
structure Ready (app : App R PaneState) : Prop where
  plain : ∀ tab ∈ app.session.tabs, tab.Plain
  whole : AllWhole app.panes
  listed : ∃ tab, app.session.tabs[app.session.activeTab]? = some tab ∧ tab.ListedIn app.panes

def Shows (app : App R PaneState) : Prop :=
  ∃ tab, app.session.tabs[app.session.activeTab]? = some tab ∧ Displayed app.panes tab.computePositions

theorem allWhole_insert {panes : Keyed.Map PaneId PaneState} (whole : AllWhole panes) (id : PaneId) {pane : PaneState}
    (one : pane.Whole) : AllWhole (panes.insert id pane) := by
  intro other found stored
  by_cases same : other = id
  next =>
    subst same
    rw [AList.lookup_insert] at stored
    exact Option.some.inj stored ▸ one
  next => exact whole other found (by rwa [AList.lookup_insert_ne same] at stored)

theorem allWhole_erase {panes : Keyed.Map PaneId PaneState} (whole : AllWhole panes) (id : PaneId) :
    AllWhole (panes.erase id) := by
  intro other found stored
  by_cases same : other = id
  next =>
    subst same
    rw [AList.lookup_erase] at stored
    cases stored
  next => exact whole other found (by rwa [AList.lookup_erase_ne same] at stored)

namespace Ready

variable {app : App R PaneState} {tab : Tab R}

theorem same (ready : app.Ready) {panes : Keyed.Map PaneId PaneState} (same : SameShapes app.panes panes) :
    Ready { app with panes } := by
  obtain ⟨tab, active, listed⟩ := ready.listed
  exact ⟨ready.plain, same.whole ready.whole, tab, active, listed.mono rfl rfl fun id there => (same.mem id).mpr there⟩

theorem tab_plain (ready : app.Ready) (active : app.session.tabs[app.session.activeTab]? = some tab) : tab.Plain :=
  ready.plain tab (List.mem_of_getElem? active)

theorem tab_listed (ready : app.Ready) (active : app.session.tabs[app.session.activeTab]? = some tab) :
    tab.ListedIn app.panes := by
  obtain ⟨other, is, listed⟩ := ready.listed
  exact Option.some.inj (is.symm.trans active) ▸ listed

theorem inside (ready : app.Ready) : app.session.activeTab < app.session.tabs.length := by
  obtain ⟨_, active, -⟩ := ready.listed
  exact (List.getElem?_eq_some_iff.mp active).1

theorem setCurrent (ready : app.Ready) {next : Tab R} (plain : next.Plain) {panes : Keyed.Map PaneId PaneState}
    (whole : AllWhole panes) (listed : next.ListedIn panes) :
    Ready { app with session := app.session.setCurrent next, panes } := by
  refine ⟨fun tab member => ?_, whole, next, List.getElem?_set_self ready.inside, listed⟩
  rcases List.mem_or_eq_of_mem_set member with before | rfl
  next => exact ready.plain tab before
  next => exact plain

end Ready

theorem Shows.same {app : App R PaneState} (shows : app.Shows) {panes : Keyed.Map PaneId PaneState}
    (same : SameShapes app.panes panes) : Shows { app with panes } := by
  obtain ⟨tab, active, displayed⟩ := shows
  exact ⟨tab, active, same.displayed displayed⟩

end App

namespace EventLoop

open App

/-- The sizes agree unless a border is being dragged; in every case they can be brought to. -/
structure Steady (app : EventLoop R) : Prop extends Ready app.toApp where
  shows : app.borderDrag = none -> app.toApp.Shows

variable {app : EventLoop R} {tab : Tab R}

omit [Ratio R] in
theorem current_ok {session : Session R} (active : session.tabs[session.activeTab]? = some tab) :
    session.current = .ok tab := get_ok active

namespace Steady

theorem same (steady : app.Steady) {panes : Keyed.Map PaneId PaneState} (same : SameShapes app.panes panes) :
    Steady { app with panes } :=
  ⟨steady.toReady.same same, fun free => (steady.shows free).same same⟩

theorem marked (steady : app.Steady) : app.markAllDirty.Steady := steady.same (.markAll app.panes)

theorem displayed (steady : app.Steady) (active : app.session.tabs[app.session.activeTab]? = some tab)
    (free : app.borderDrag = none) : Displayed app.panes tab.computePositions := by
  obtain ⟨other, is, displayed⟩ := steady.shows free
  exact Option.some.inj (is.symm.trans active) ▸ displayed

theorem setTab (steady : app.Steady) {next : Tab R} (plain : next.Plain) (listed : next.ListedIn app.panes)
    (displayed : app.borderDrag = none -> Displayed app.panes next.computePositions) : (app.setTab next).Steady :=
  ⟨steady.toReady.setCurrent plain steady.whole listed,
    fun free => ⟨next, List.getElem?_set_self steady.inside, displayed free⟩⟩

theorem setTab_same (steady : app.Steady) (active : app.session.tabs[app.session.activeTab]? = some tab) {next : Tab R}
    (plain : next.Plain) (same : next.computePositions = tab.computePositions) : (app.setTab next).Steady := by
  -- Another tab that lists the same panes in the same places.
  refine steady.setTab plain (plain.listed_iff.mpr ?_) fun free => same ▸ steady.displayed active free
  exact same ▸ (steady.tab_plain active).listed_iff.mp (steady.tab_listed active)

theorem setTab_displayed (steady : app.Steady) {next : Tab R} (plain : next.Plain)
    (displayed : Displayed app.panes next.computePositions) : (app.setTab next).Steady :=
  steady.setTab plain (plain.displayed_listed displayed) fun _ => displayed

theorem onActivePane (steady : app.Steady) {update : PaneState -> PaneState}
    (still : ∀ pane, (update pane).shape = pane.shape) : Ensures AnyPanic (app.onActivePane update) Steady := by
  obtain ⟨tab, active, -⟩ := steady.listed
  rw [EventLoop.onActivePane, current_ok active, ok_bind]
  split
  next => exact steady.same (.modify _ still)
  next => exact steady

theorem selected (steady : app.Steady) {session : Session R} (selected : Session.Selected app.session session)
    {panes : Keyed.Map PaneId PaneState} (whole : AllWhole panes) (displayed : ∀ tab,
      session.tabs[session.activeTab]? = some tab -> Displayed panes tab.computePositions) :
    Steady { app with session, panes } := by
  -- Some of the tabs, one of which is shown in the right sizes.
  have active := List.getElem?_eq_getElem selected.active
  have plain : ∀ tab ∈ session.tabs, tab.Plain := fun tab member => steady.plain tab (selected.tabs.subset member)
  have shown := displayed _ active
  exact ⟨⟨plain, whole, _, active, (plain _ (List.getElem_mem _)).displayed_listed shown⟩, fun _ => ⟨_, active, shown⟩⟩

end Steady

theorem syncPtySizes_steady (ready : app.toApp.Ready) : Ensures AnyPanic app.syncPtySizes Steady := by
  obtain ⟨tab, active, listed⟩ := ready.listed
  have plain := ready.tab_plain active
  rw [syncPtySizes, current_ok active, ok_bind]
  refine (eachListed_listed (fun pos pane => sync_fits pos) plain.distinct ready.whole
    (plain.listed_iff.mp listed)).bind fun panes synced => ?_
  have kept : tab.ListedIn panes := listed.mono rfl rfl fun id there => by
    rwa [AList.mem_keys, synced.keys, ← AList.mem_keys]
  exact ⟨⟨ready.plain, synced.whole, tab, active, kept⟩, fun _ => ⟨tab, active, synced.displayed⟩⟩

def Prepared (result : DispatchResult) (app : EventLoop R) : Prop :=
  match result.spawnPane with
  | some (id, cols, rows) => Ready { app.toApp with panes := app.panes.insert id (PaneState.new cols rows) }
  | none => if result.forceClear then app.toApp.Ready else app.Steady

theorem executeSideEffects_steady {result : DispatchResult} (prepared : Prepared result app) :
    Ensures AnyPanic (app.executeSideEffects result) Steady := by
  rw [Prepared] at prepared
  cases spawned : result.spawnPane with
  | some spawn =>
    obtain ⟨id, cols, rows⟩ := spawn
    rw [spawned] at prepared
    simp only [executeSideEffects, spawned]
    refine (syncPtySizes_steady (by exact prepared)).bind fun next steady => ?_
    exact .ite (fun _ => syncPtySizes_steady steady.toReady) fun _ => steady
  | none =>
    rw [spawned] at prepared
    simp only [executeSideEffects, spawned, ok_bind]
    by_cases forced : result.forceClear = true
    next =>
      rw [onlyIf_true _ _ forced]
      exact syncPtySizes_steady (by simpa [forced] using prepared)
    next =>
      rw [onlyIf_false _ _ forced]
      exact ensures_ok (by simpa [forced] using prepared)

/-! ## Commands -/

def LeadsTo (switched : Bool × Session R) (panes : Keyed.Map PaneId PaneState) : Prop :=
  switched.1 = true -> ∀ tab, switched.2.tabs[switched.2.activeTab]? = some tab -> Displayed panes tab.computePositions

/-- No command changes what is listed without the screens being of the new sizes, where the command does not ask
for them to be resized. -/
def commandKeeps (command : Command) (app : EventLoop R) (tab : Tab R) : Prop :=
  match command with
  | .splitPane direction => tab.fullscreenPane = none ∨
    if tab.canSplitActive direction then ∀ id ∈ tab.panes, id ∈ app.panes else Displayed app.panes tab.tiledPositions
  | .closeActivePane => tab.fullscreenPane = none ∨ ∀ id ∈ tab.panes, id ∈ app.panes
  | .closeTab =>
    LeadsTo (app.session.closeTab app.session.activeTab) (Keyed.eraseAll app.panes tab.layout.paneIds)
  | .nextTab => LeadsTo app.session.nextTab app.panes
  | .prevTab => LeadsTo app.session.prevTab app.panes
  | .focusDirection direction => tab.fullscreenPane = none ∨ tab.findNeighborInDirection direction = none ∨
    Displayed app.panes tab.tiledPositions
  | .toggleFullscreen =>
    if tab.fullscreenPane.isSome then Displayed app.panes tab.tiledPositions
    else ∀ placed ∈ tab.tiledPositions, tab.activePane = some placed.1 ->
      placed.2.cols = tab.size.cols ∧ placed.2.rows = tab.size.rows
  | .focusPane id => tab.fullscreenPane = none ∨ tab.fullscreenPane = some id ∨ tab.activePane = some id ∨
    id ∉ tab.panes ∨ Displayed app.panes tab.tiledPositions
  | _ => True

theorem prepared_steady {result : DispatchResult} (spawns : result.spawnPane = none) (steady : app.Steady) :
    Prepared result app := by
  rw [Prepared, spawns]
  dsimp only
  split
  next => exact steady.toReady
  next => exact steady

theorem write_spawns {result : DispatchResult} (spawns : result.spawnPane = none) (id : PaneId) (bytes : Bytes) :
    (result.write id bytes).spawnPane = none := by
  unfold DispatchResult.write
  split <;> exact spawns

def Dispatches (x : Fallible (DispatchResult × EventLoop R)) : Prop :=
  Ensures AnyPanic x fun dispatched => Prepared dispatched.1 dispatched.2

theorem dispatches_ready {result : DispatchResult} (spawns : result.spawnPane = none) (clears : result.forceClear = true)
    (ready : app.toApp.Ready) : Dispatches (.ok (result, app)) := by
  rw [Dispatches, Ensures, Prepared, spawns]
  exact (if_pos clears).mpr ready

theorem dispatches_steady {result : DispatchResult} (spawns : result.spawnPane = none) (steady : app.Steady) :
    Dispatches (.ok (result, app)) := prepared_steady spawns steady

theorem forward_prepared (steady : app.Steady) {next : EventLoop R} (kept : next.Steady) (bytes : Bytes) :
    Ensures AnyPanic (app.forward bytes) fun result => Prepared result next := by
  obtain ⟨tab, active, -⟩ := steady.listed
  rw [forward, current_ok active, ok_bind]
  split
  next => exact ensures_ok (prepared_steady (write_spawns (by rfl) ..) kept)
  next => exact ensures_ok (prepared_steady (by rfl) kept)

theorem dispatchForwardFocus_prepared (steady : app.Steady) (gained : Bool) :
    Ensures AnyPanic (app.dispatchForwardFocus gained) fun result => Prepared result app := by
  obtain ⟨tab, active, -⟩ := steady.listed
  rw [dispatchForwardFocus, current_ok active, ok_bind]
  split
  next =>
    split
    next => exact ensures_ok (prepared_steady (write_spawns (by rfl) ..) steady)
    next => exact ensures_ok (prepared_steady (by rfl) steady)
  next => exact ensures_ok (prepared_steady (by rfl) steady)

theorem dispatchOnTab_prepared (active : app.session.tabs[app.session.activeTab]? = some tab) {method : Tab R -> Tab R}
    (steady : (app.setTab (method tab)).Steady) : Dispatches (app.dispatchOnTab method) := by
  rw [dispatchOnTab, current_ok active, ok_bind]
  exact dispatches_steady rfl steady.marked

theorem dispatchOnActivePane_prepared (steady : app.Steady) {update : PaneState -> PaneState}
    (still : ∀ pane, (update pane).shape = pane.shape) : Dispatches (app.dispatchOnActivePane update) :=
  (steady.onActivePane still).bind fun _ kept => dispatches_steady rfl kept

theorem Steady.leave (steady : app.Steady) (active : app.session.tabs[app.session.activeTab]? = some tab) {next : Tab R}
    (plain : next.Plain) (tiled : next.computePositions = tab.tiledPositions)
    (shown : tab.fullscreenPane = none ∨ Displayed app.panes tab.tiledPositions) : (app.setTab next).Steady := by
  -- What every method that leaves fullscreen leads to.
  rcases shown with none | displayed
  next => exact steady.setTab_same active plain (tiled.trans ((steady.tab_plain active).tiled_positions none).symm)
  next => exact steady.setTab_displayed plain (tiled ▸ displayed)

theorem Steady.toggleFullscreen (steady : app.Steady) (active : app.session.tabs[app.session.activeTab]? = some tab)
    (keeps : commandKeeps .toggleFullscreen app tab) : (app.setTab tab.toggleFullscreen.2).Steady := by
  have plain := steady.tab_plain active
  rw [plain.toggled]
  simp only [commandKeeps] at keeps
  split at keeps
  next shown =>
    rw [if_pos shown]
    exact steady.leave active (plain.fullscreen none) ((plain.fullscreen none).tiled_positions rfl) (.inr keeps)
  next hidden =>
    rw [if_neg hidden]
    have tiled : tab.fullscreenPane = none := by simpa using hidden
    obtain ⟨id, focused, -⟩ := plain.active
    have there := plain.active_tiled focused
    have full := plain.fullscreen tab.activePane
    have positions := full.positions
    rw [focused] at full positions ⊢
    obtain ⟨placed, member, is⟩ := List.mem_map.mp ((plain.mem_tiled id).mpr there)
    obtain ⟨cols, rows⟩ := keeps placed member (by rw [focused, is])
    refine steady.setTab full ((Tab.listedIn_fullscreen rfl).mpr ?_) fun free => ?_
    next => exact (Tab.listedIn_tiled tiled).mp (steady.tab_listed active) id there
    next =>
      rw [positions]
      obtain ⟨pane, stored, fits⟩ := steady.displayed active free placed (by rwa [plain.tiled_positions tiled])
      exact List.forall_mem_singleton.mpr ⟨pane, is ▸ stored, cols ▸ rows ▸ fits⟩

theorem Steady.focusDirection (steady : app.Steady) (active : app.session.tabs[app.session.activeTab]? = some tab)
    {direction : FocusDirection} (keeps : commandKeeps (.focusDirection direction) app tab) :
    (app.setTab (tab.focusDirection direction).2).Steady := by
  have plain := steady.tab_plain active
  unfold Tab.focusDirection
  split
  next target found =>
    obtain ⟨_, -, -, leaf, -⟩ := Tab.findNeighbor_found found
    have next := plain.view none ((plain.tiles.keys target).mp leaf)
    refine steady.leave active next (next.tiled_positions rfl) (keeps.imp_right fun others => ?_)
    exact others.resolve_left (by simp [found])
  next => exact steady.setTab_same active plain rfl

theorem Steady.focusPane (steady : app.Steady) (active : app.session.tabs[app.session.activeTab]? = some tab)
    {id : PaneId} (other : tab.activePane ≠ some id) (keeps : commandKeeps (.focusPane id) app tab) :
    (app.setTab (tab.focusPane id).2).Steady := by
  have plain := steady.tab_plain active
  unfold Tab.focusPane
  split
  next tiled =>
    by_cases same : tab.fullscreenPane = some id
    next =>
      simp only [same, ne_eq, not_true_eq_false, if_false]
      have next := plain.view (some id) tiled
      refine steady.setTab_same active next ?_
      rw [next.positions, plain.positions, same]
    next =>
      simp only [ne_eq, same, not_false_eq_true, if_true]
      have next := plain.view none tiled
      refine steady.leave active next (next.tiled_positions rfl) (keeps.imp_right fun others => ?_)
      exact ((others.resolve_left same).resolve_left other).resolve_left (not_not.mpr tiled)
  next =>
    have none : tab.findFloatingIdx id = none := by simp [Tab.findFloatingIdx, plain.floats]
    rw [none]
    exact steady.setTab_same active plain rfl

theorem dispatchSplitPane_prepared (steady : app.Steady) (active : app.session.tabs[app.session.activeTab]? = some tab)
    {direction : SplitDirection} (keeps : commandKeeps (.splitPane direction) app tab) :
    Dispatches (app.dispatchSplitPane direction) := by
  have plain := steady.tab_plain active
  rw [dispatchSplitPane, current_ok active, ok_bind]
  refine ((Tab.splitPane_cases tab direction).allow fun _ _ => trivial).bind fun split cases => ?_
  obtain ⟨rfl, cannot⟩ | ⟨target, cols, rows, -, leaf, rfl, can⟩ := cases
  next =>
    simp only [commandKeeps, cannot, Bool.false_eq_true, if_false] at keeps
    have next := plain.fullscreen none
    exact dispatches_steady rfl (steady.leave active next (next.tiled_positions rfl) keeps).marked
  next =>
    simp only [commandKeeps, can, if_true] at keeps
    obtain ⟨next, tiled⟩ := plain.splitAt leaf direction cols rows
    have stored : ∀ id ∈ tab.panes, id ∈ app.panes :=
      keeps.elim (fun none => (Tab.listedIn_tiled none).mp (steady.tab_listed active)) id
    have marked := SameShapes.markAll app.panes
    refine steady.toReady.setCurrent next (allWhole_insert (marked.whole steady.whole) _ ⟨_, _, new_fits _ _⟩) ?_
    refine (Tab.listedIn_tiled tiled).mpr fun id member => (AList.mem_insert _).mpr ?_
    exact ((Tab.mem_splitAt ..).mp member).imp_right fun before => (marked.mem id).mpr (stored id before)

theorem dispatchCloseActivePane_prepared (steady : app.Steady)
    (active : app.session.tabs[app.session.activeTab]? = some tab) (keeps : commandKeeps .closeActivePane app tab) :
    Dispatches app.dispatchCloseActivePane := by
  have plain := steady.tab_plain active
  have listed := steady.tab_listed active
  rw [dispatchCloseActivePane, current_ok active, ok_bind]
  -- The only pane of a tab is not closed, and any other leaves its place to the rest.
  cases focused : tab.activePane with
  | none => exact dispatches_steady rfl steady
  | some id =>
    dsimp only
    refine .ite (fun several => ?_) fun _ => dispatches_steady rfl steady
    obtain ⟨next, fullscreen, -⟩ := plain.closePane (plain.active_tiled focused) several
    have marked := SameShapes.markAll (app.panes.erase id)
    refine dispatches_ready rfl rfl ?_
    refine steady.toReady.setCurrent next (marked.whole (allWhole_erase steady.whole id)) ?_
    have left : ∀ other ∈ app.panes, other ≠ id -> other ∈ Keyed.mapValues (app.panes.erase id) PaneState.markAll :=
      fun other there apart => (marked.mem other).mpr (AList.mem_erase.mpr ⟨apart, there⟩)
    have tiled (all : ∀ other ∈ tab.panes, other ∈ app.panes) : ∀ other ∈ (tab.closePane id).2.panes,
        other ∈ Keyed.mapValues (app.panes.erase id) PaneState.markAll := by
      intro other member
      rw [AList.mem_keys, (Tab.closePane_panes id several).1, tab.panes.keys_nodup.mem_erase_iff, ← AList.mem_keys] at member
      exact left other (all other member.2) member.1
    by_cases front : tab.fullscreenPane = some id
    next =>
      rw [if_pos front] at fullscreen
      exact (Tab.listedIn_tiled fullscreen).mpr (tiled (keeps.resolve_left (by simp [front])))
    next =>
      rw [if_neg front] at fullscreen
      cases shown : tab.fullscreenPane with
      | none =>
        exact (Tab.listedIn_tiled (fullscreen.trans shown)).mpr (tiled ((Tab.listedIn_tiled shown).mp listed))
      | some other =>
        refine (Tab.listedIn_fullscreen (fullscreen.trans shown)).mpr ?_
        exact left other ((Tab.listedIn_fullscreen shown).mp listed) fun same => front (same ▸ shown)

theorem newTab_added (session : Session R) (name : String) : Ensures AnyPanic (session.newTab name) fun added =>
    ∃ tab : Tab R, tab = Tab.new session.nextTabId name session.size.cols session.size.rows ∧
      added.2.tabs = session.tabs ++ [tab] ∧ added.2.tabs[added.2.activeTab]? = some tab := by
  unfold Session.newTab
  rcases Session.takeTabId_cases session with taken | full
  next =>
    rw [taken]
    exact ⟨_, rfl, rfl, by simp⟩
  next =>
    rw [full]
    trivial

theorem dispatchNewTab_prepared (steady : app.Steady) : Dispatches app.dispatchNewTab := by
  -- The new tab shows its first pane, which is spawned in the size of the session.
  refine (newTab_added app.session _).bind fun added done => ?_
  obtain ⟨tabId, session⟩ := added
  obtain ⟨tab, rfl, tabs, active⟩ := done
  dsimp only at tabs active ⊢
  rw [current_ok active, ok_bind, get_ok (by rfl), ok_bind]
  have marked := SameShapes.markAll app.panes
  refine ⟨fun tab member => ?_, allWhole_insert (marked.whole steady.whole) 0 ⟨_, _, new_fits _ _⟩, _, active, ?_⟩
  next =>
    have member : tab ∈ session.tabs := member
    rw [tabs] at member
    rcases List.mem_append.mp member with before | last
    next => exact steady.plain tab before
    next => exact List.mem_singleton.mp last ▸ Tab.Plain.new ..
  next =>
    refine (Tab.listedIn_tiled rfl).mpr fun id member => (AList.mem_insert _).mpr (.inl ?_)
    exact (Keyed.mem_singleton ..).mp member

theorem dispatchCloseTab_prepared (steady : app.Steady) (active : app.session.tabs[app.session.activeTab]? = some tab)
    (keeps : commandKeeps .closeTab app tab) : Dispatches app.dispatchCloseTab := by
  rw [dispatchCloseTab, current_ok active, ok_bind]
  have selected := Session.closeTab_selects steady.inside app.session.activeTab
  simp only [commandKeeps, LeadsTo] at keeps
  cases closed : app.session.closeTab app.session.activeTab with
  | mk closes session =>
    rw [closed] at selected keeps
    cases closes with
    | true =>
      have whole : AllWhole (Keyed.eraseAll app.panes tab.layout.paneIds) :=
        fun id pane stored => steady.whole id pane (Keyed.lookup_eraseAll stored)
      exact dispatches_steady rfl (steady.selected selected whole (keeps rfl)).marked
    | false =>
      have same : session = app.session := by
        unfold Session.closeTab at closed
        split at closed
        next => exact (Prod.mk.inj closed).2.symm
        next => cases (Prod.mk.inj closed).1
      subst same
      exact dispatches_steady rfl steady.marked

theorem dispatchResize_prepared (steady : app.Steady) (cols rows : UInt16) : Dispatches (app.dispatchResize cols rows) := by
  obtain ⟨tab, active, listed⟩ := steady.listed
  have plain := (steady.tab_plain active).resize cols.toNat (rows.toNat - 1)
  have next : (app.session.resize cols.toNat (rows.toNat - 1)).tabs[app.session.activeTab]? =
      some (tab.resize cols.toNat (rows.toNat - 1)) := by
    rw [Session.resize, List.getElem?_map, active]
    rfl
  have kept {panes : Keyed.Map PaneId PaneState} (more : ∀ id ∈ app.panes, id ∈ panes) :
      (tab.resize cols.toNat (rows.toNat - 1)).ListedIn panes :=
    listed.mono rfl (Tab.keys_syncPaneSizes _) more
  rw [dispatchResize, current_ok (by exact next), ok_bind]
  refine (eachListed_listed (fun pos pane _ => resize_fits pos pane) plain.distinct steady.whole
    (plain.listed_iff.mp (kept fun _ there => there))).bind fun panes resized => ?_
  refine dispatches_ready rfl rfl ⟨fun other member => ?_, resized.whole, _, next, kept fun id there => ?_⟩
  next =>
    obtain ⟨before, there, rfl⟩ := List.mem_map.mp member
    exact (steady.plain before there).resize _ _
  next => rwa [AList.mem_keys, resized.keys, ← AList.mem_keys]

theorem continueBorderDrag_steady (steady : app.Steady) (col row : UInt16) (drag : BorderDrag) :
    Ensures AnyPanic (app.continueBorderDrag col row drag) Steady := by
  obtain ⟨tab, active, listed⟩ := steady.listed
  have plain := steady.tab_plain active
  rw [continueBorderDrag, current_ok active, ok_bind]
  have dragged (direction : ResizeDirection) (delta : Int) (next : Tab R)
      (is : next = if delta ≠ 0 then (tab.resizePane drag.paneId direction delta).2 else tab) :
      next.Plain ∧ next.ListedIn app.panes := by
    obtain ⟨moved, fullscreen, keys⟩ := plain.resizePane drag.paneId direction delta
    split at is
    next => exact is ▸ ⟨moved, listed.mono fullscreen keys fun _ there => there⟩
    next => exact is ▸ ⟨plain, listed⟩
  obtain ⟨next, there⟩ := dragged _ _ _ rfl
  exact ensures_ok (Steady.marked ⟨steady.toReady.setCurrent next steady.whole there, nofun⟩)

theorem switch_prepared (steady : app.Steady) {switched : Bool × Session R} (selected : Session.Selected app.session switched.2)
    (stays : switched.1 = false -> switched.2 = app.session) (leads : LeadsTo switched app.panes) :
    Dispatches (.ok (.render, { app with session := switched.2 }.markAllDirty)) := by
  -- The switch to the next or the previous tab.
  cases moves : switched.1 with
  | true => exact dispatches_steady rfl (steady.selected selected steady.whole (leads moves)).marked
  | false =>
    rw [stays moves]
    exact dispatches_steady rfl steady.marked

theorem dispatch_prepared (command : Command) (steady : app.Steady)
    (active : app.session.tabs[app.session.activeTab]? = some tab) (keeps : commandKeeps command app tab) :
    Dispatches (app.dispatch command) := by
  have unscrolled (scroll : Screen -> Screen) (still : ∀ s, (scroll s).grid = s.grid ∧ (scroll s).altGrid = s.altGrid)
      (id : PaneId) : (app.onPane id (scrolled scroll)).Steady := steady.same (.modify id (scrolled_shape still))
  -- What changes the listed panes asks for a synchronization, and scrolling leaves every size as it is.
  cases command with
  | splitPane direction => exact dispatchSplitPane_prepared steady active keeps
  | closeActivePane => exact dispatchCloseActivePane_prepared steady active keeps
  | newTab => exact dispatchNewTab_prepared steady
  | closeTab => exact dispatchCloseTab_prepared steady active keeps
  | nextTab =>
    refine switch_prepared steady (Session.nextTab_selects steady.inside) (fun stays => ?_) keeps
    unfold Session.nextTab at stays ⊢
    split at stays
    next single => rw [if_pos single]
    next => cases stays
  | prevTab =>
    refine switch_prepared steady (Session.prevTab_selects steady.inside) (fun stays => ?_) keeps
    unfold Session.prevTab at stays ⊢
    split at stays
    next single => rw [if_pos single]
    next => cases stays
  | focusDirection direction => exact dispatchOnTab_prepared active (steady.focusDirection active keeps)
  | toggleFullscreen => exact dispatchOnTab_prepared active (steady.toggleFullscreen active keeps)
  | toggleFloat =>
    obtain ⟨next, same⟩ := (steady.tab_plain active).toggleFloatingPanes
    exact dispatchOnTab_prepared active (steady.setTab_same active next same)
  | scrollUp => exact dispatchOnActivePane_prepared steady (scrolled_shape fun _ => ⟨rfl, rfl⟩)
  | scrollDown => exact dispatchOnActivePane_prepared steady (scrolled_shape fun _ => ⟨rfl, rfl⟩)
  | enterCopyMode | copyMove | copyToggleSelection => exact dispatchOnActivePane_prepared steady fun _ => rfl
  | exitCopyMode | copyYank | extendMouseSelection | finalizeMouseSelection => exact dispatches_steady rfl steady.marked
  | enterSearchMode | exitSearchMode | searchAppendChar | searchDeleteChar | searchNextMatch | searchPrevMatch
  | startMouseSelection | quit | detach => exact dispatches_steady rfl steady
  | forwardKeyToPty bytes =>
    have still : ∀ pane : PaneState, (pane.onScreen Screen.scrollViewportReset).shape = pane.shape := fun _ => rfl
    refine (steady.onActivePane still).bind fun next kept => ?_
    exact (forward_prepared kept kept bytes).bind fun _ prepared => prepared
  | forwardPaste data => exact (forward_prepared steady steady.marked data).bind fun _ prepared => prepared
  | forwardFocus gained => exact (dispatchForwardFocus_prepared steady gained).bind fun _ prepared => prepared
  | focusPane id =>
    rw [dispatch, current_ok active, ok_bind]
    refine .ite (fun other => ?_) fun _ => dispatches_steady rfl steady
    exact dispatches_steady rfl (steady.focusPane active other keeps).marked
  | startBorderDrag drag => exact dispatches_steady rfl ⟨steady.toReady, nofun⟩
  | continueBorderDrag col row =>
    rw [dispatch]
    split
    next drag _ => exact (continueBorderDrag_steady steady col row drag).bind fun _ kept => dispatches_steady rfl kept
    next => exact dispatches_steady rfl steady
  | endBorderDrag => exact dispatches_ready rfl rfl steady.toReady
  | forwardMouseToPty id bytes => exact dispatches_steady (write_spawns rfl id bytes) steady
  | scrollPaneUp id amount =>
    exact dispatches_steady rfl (unscrolled (fun s => s.scrollViewportUp amount) (fun _ => ⟨rfl, rfl⟩) id)
  | scrollPaneDown id amount =>
    exact dispatches_steady rfl (unscrolled (fun s => s.scrollViewportDown amount) (fun _ => ⟨rfl, rfl⟩) id)
  | resize cols rows => exact dispatchResize_prepared steady cols rows
  | reloadConfig => exact dispatches_ready rfl rfl steady.marked.toReady

end EventLoop

end Emux
