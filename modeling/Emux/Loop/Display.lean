import Emux.Loop.Highlight
import Emux.Loop.Redraw

set_option autoImplicit false

/-!
# What is on display

A frame draws the rows that are marked and leaves the others as they were drawn before. Borders and bars are outside:
they are drawn again with every frame. The highlight of a mouse selection is drawn with the rows that are drawn, so the
runs are those in which none is begun.
-/

namespace Emux

open Checked Screen

abbrev Line := List (Option ContentStyle × Char)

/-- The lines last drawn for each listed rectangle, and the layout they were drawn for. -/
structure Display where
  positions : List (PaneId × PanePosition)
  lines : PaneId × PanePosition -> Nat -> Option Line

/-- The line that `render_pane_region` queues for a row, if it draws that row, while `app.mouse_selection` is `None`. -/
def drawnLine (pane : PaneState) (pos : PanePosition) (forceAll : Bool) (r : Nat) : Option Line :=
  match renderPaneRegion pane.screen pane.damage pos forceAll none with
  | .ok commands => ((drawnRows pane.screen pane.damage pos forceAll).zip (drawnLines commands)).lookup r
  | .error _ => none

namespace EventLoop

variable {R : Type} [Ratio R]

/-- `app.session.active_tab().compute_positions()` -/
def positions (app : EventLoop R) : List (PaneId × PanePosition) :=
  match app.session.tabs[app.session.activeTab]? with
  | some tab => tab.computePositions
  | none => []

omit [Ratio R] in
def activePane (app : EventLoop R) : Option PaneId := app.session.tabs[app.session.activeTab]?.bind Tab.activePane

omit [Ratio R] in
def marked (frame : Frame) (app : EventLoop R) : Fallible (EventLoop R) :=
  match frame with
  | .full => .ok app.markAllDirty
  | .output => .ok app
  | .input => app.markActiveDirty

end EventLoop

namespace Display

variable {R : Type} [Ratio R]

def draw (forceClear : Bool) (app : EventLoop R) (display : Display) : Display :=
  if forceClear || app.panes.entries.any fun entry => entry.2.damage.needsRedraw then
    let kept (placed : PaneId × PanePosition) (r : Nat) :=
      if display.positions = app.positions then display.lines placed r else none
    { positions := app.positions
      lines := fun placed r =>
        if placed ∈ app.positions then
          ((app.panes.lookup placed.1).bind fun pane => drawnLine pane placed.2 forceClear r).or (kept placed r)
        else kept placed r }
  else display

end Display

structure Drawn (R : Type) where
  app : EventLoop R
  display : Display

namespace Drawn

variable {R : Type} [Ratio R]

def step (event : LoopEvent) (state : Drawn R) : Fallible (Drawn R) := do
  let app <- state.app.step event
  match event with
  | .frame frame =>
    if state.app.exited then .ok state
    else do
      let marked <- state.app.marked frame
      .ok { app, display := state.display.draw (frame == .full) marked }
  | _ => .ok { state with app }

end Drawn

/-! ## One row -/

def lineOf (cells : List Cell) (width : Nat) : Line := highlightedLine (fun _ => false) 0 (renderRow cells width)

theorem lookup_zip_forall₂ {A B : Type} [DecidableEq A] {related : A -> B -> Prop} {keys : List A} {values : List B}
    (pairs : List.Forall₂ related keys values) {key : A} (member : key ∈ keys) :
    ∃ value, (keys.zip values).lookup key = some value ∧ related key value := by
  induction pairs with
  | nil => cases member
  | @cons first value keys values here pairs ih =>
    by_cases same : key = first
    next =>
      subst same
      exact ⟨value, by simp, here⟩
    next =>
      obtain ⟨found, looked, there⟩ := ih (List.mem_of_ne_of_mem same member)
      exact ⟨found, by simp [List.lookup_cons, beq_false_of_ne same, looked], there⟩

theorem lookup_zip_absent {A B : Type} [DecidableEq A] {keys : List A} {key : A} (absent : key ∉ keys) (values : List B) :
    (keys.zip values).lookup key = none := by
  refine List.lookup_eq_none_iff.mpr fun pair member => ?_
  have listed : pair.1 ∈ keys := (List.of_mem_zip member).1
  simpa using fun same : key = pair.1 => absent (same ▸ listed)

section Row

variable {pane : PaneState} {pos : PanePosition} {forceAll : Bool} {r : Nat}

theorem mem_drawnRows : r ∈ drawnRows pane.screen pane.damage pos forceAll ↔
    r < min pos.rows pane.screen.rows ∧ (forceAll = true ∨ pane.damage.isDirty r = true) := by
  simp [drawnRows]

theorem drawnLine_drawn {rows : Nat} (sound : pane.Sound rows)
    (drawn : r ∈ drawnRows pane.screen pane.damage pos forceAll) :
    ∃ cells, pane.screen.shown r = .ok cells ∧
      drawnLine pane pos forceAll r = some (lineOf cells (min pos.cols pane.screen.cols)) := by
  have filled := sound.filled.grid
  have inside : ∀ row ∈ drawnRows pane.screen pane.damage pos forceAll, row < pane.screen.rows := fun row member =>
    Nat.lt_of_lt_of_le (mem_drawnRows.mp member).1 (Nat.min_le_right ..)
  obtain ⟨commands, lines, ran, draws, all⟩ := @drawn_renderRows pane.screen pos none filled _ inside none
  have region : renderPaneRegion pane.screen pane.damage pos forceAll none =
      .ok (commands ++ [.resetColor, .resetAttributes]) := by
    simp only [renderPaneRegion, ran, ok_bind]
  obtain ⟨line, looked, row, found, is⟩ := lookup_zip_forall₂ all drawn
  obtain ⟨other, there, shows⟩ := viewportRow_absRow filled (inside r drawn)
  obtain rfl := Option.some.inj (found.symm.trans there)
  refine ⟨row.cells, by simp [Screen.shown, shows, Except.map], ?_⟩
  simp only [drawnLine, region, drawnLines, draws, looked, is]
  rfl

theorem drawnLine_skipped (skipped : r ∉ drawnRows pane.screen pane.damage pos forceAll) :
    drawnLine pane pos forceAll r = none := by
  unfold drawnLine
  split
  next => exact lookup_zip_absent skipped _
  next => rfl

theorem drawnLine_same {before : PaneState} {rows rows' : Nat} (sound : pane.Sound rows) (sound' : before.Sound rows')
    (cols : pane.screen.cols = before.screen.cols) (height : pane.screen.rows = before.screen.rows)
    (shows : pane.screen.shown r = before.screen.shown r) (inside : r < min pos.rows pane.screen.rows) :
    drawnLine pane pos true r = drawnLine before pos true r := by
  obtain ⟨cells, here, line⟩ := drawnLine_drawn sound (mem_drawnRows.mpr ⟨inside, .inl rfl⟩)
  obtain ⟨cells', there, line'⟩ := drawnLine_drawn sound' (mem_drawnRows.mpr ⟨height ▸ inside, .inl rfl⟩)
  have same : cells = cells' := Except.ok.inj (here.symm.trans (shows.trans there))
  rw [line, line', same, cols]

end Row

/-! ## The panes between two frames -/

namespace PaneState

def Drawable (pane : PaneState) : Prop := ∃ rows, pane.Sound rows

def Marked (pane : PaneState) : Prop := pane.damage.fullRedraw = true

variable {pane next : PaneState}

theorem Drawable.new (cols rows : Nat) : (PaneState.new cols rows).Drawable :=
  ⟨rows, ⟨⟨cols, rows, new_fits cols rows⟩, (Rolled.new cols rows).same rfl rfl (Nat.le_refl _), rfl⟩⟩

theorem Drawable.same (drawable : pane.Drawable) (shape : next.shape = pane.shape)
    (grid : next.screen.grid = pane.screen.grid) (altGrid : next.screen.altGrid = pane.screen.altGrid) : next.Drawable := by
  obtain ⟨rows, whole, filled, height⟩ := drawable
  refine ⟨rows, whole.of_shape shape, ⟨grid ▸ filled.grid, altGrid ▸ filled.altGrid, False.elim⟩, ?_⟩
  rw [← height]
  exact congrArg Grid.rows grid

theorem Drawable.markAll (drawable : pane.Drawable) : pane.markAll.Drawable := drawable.same rfl rfl rfl

theorem Drawable.cleared (drawable : pane.Drawable) : Drawable { pane with damage := pane.damage.clear } :=
  drawable.same (by simp [shape, DamageTracker.clear, screen]) rfl rfl

theorem Drawable.scrolled (drawable : pane.Drawable) {scroll : Screen -> Screen}
    (still : ∀ s, (scroll s).grid = s.grid ∧ (scroll s).altGrid = s.altGrid) :
    (EventLoop.scrolled scroll pane).Drawable :=
  drawable.same (scrolled_shape still pane) (still pane.screen).1 (still pane.screen).2

theorem resize_drawable (drawable : pane.Drawable) (pos : PanePosition) :
    Ensures AnyPanic (resize pos pane) fun next => next.Drawable ∧ next.Marked := by
  obtain ⟨rows, sound⟩ := drawable
  have fits := resize_fits pos pane
  rw [resize] at fits ⊢
  have rolled := @Rolled.resize False _ sound.filled pos.cols pos.rows False.elim
  cases resized : pane.screen.resize pos.cols pos.rows with
  | error panic => trivial
  | ok screen =>
    rw [resized] at rolled
    rw [resized, ok_bind] at fits
    exact ⟨⟨_, ⟨_, _, fits⟩, rolled, rfl⟩, rfl⟩

theorem sync_drawable (drawable : pane.Drawable) (pos : PanePosition) :
    Ensures AnyPanic (sync pos pane) fun next => next.Drawable ∧ next.Marked := by
  have resized : Ensures AnyPanic
      (onlyIf (pane.screen.cols ≠ pos.cols ∨ pane.screen.rows ≠ pos.rows) pane (resize pos)) Drawable :=
    .ite (fun _ => (resize_drawable drawable pos).weaken fun _ done => done.1) fun _ => drawable
  exact resized.bind fun next drawable => ensures_ok ⟨drawable.markAll, rfl⟩

def AllDrawable (panes : Keyed.Map PaneId PaneState) : Prop := ∀ id pane, panes.lookup id = some pane -> pane.Drawable

structure Touched (panes next : Keyed.Map PaneId PaneState) : Prop where
  drawable : AllDrawable next
  kept : ∀ id pane, next.lookup id = some pane -> pane.Marked ∨ panes.lookup id = some pane

namespace Touched

variable {panes middle next : Keyed.Map PaneId PaneState}

theorem refl (drawable : AllDrawable panes) : Touched panes panes := ⟨drawable, fun _ _ stored => .inr stored⟩

theorem trans (first : Touched panes middle) (second : Touched middle next) : Touched panes next :=
  ⟨second.drawable, fun id pane stored => (second.kept id pane stored).elim .inl (first.kept id pane)⟩

theorem insert (drawable : AllDrawable panes) (id : PaneId) (cols rows : Nat) :
    Touched panes (panes.insert id (PaneState.new cols rows)) := by
  have either (other : PaneId) (pane : PaneState) (stored : (panes.insert id (PaneState.new cols rows)).lookup other = some pane) :
      pane = PaneState.new cols rows ∨ panes.lookup other = some pane := by
    by_cases same : other = id
    next =>
      subst same
      rw [AList.lookup_insert] at stored
      exact .inl (Option.some.inj stored).symm
    next => exact .inr (by rwa [AList.lookup_insert_ne same] at stored)
  refine ⟨fun other pane stored => ?_, fun other pane stored => ?_⟩
  next =>
    rcases either other pane stored with rfl | before
    next => exact .new cols rows
    next => exact drawable other pane before
  next => exact (either other pane stored).imp (fun is => by rw [is]; rfl) fun before => before

theorem modify (drawable : AllDrawable panes) (id : PaneId) {update : PaneState -> PaneState}
    (one : ∀ pane, pane.Drawable -> (update pane).Drawable ∧ (update pane).Marked) :
    Touched panes (Keyed.modify panes id update) := by
  have either (other : PaneId) (pane : PaneState) (stored : (Keyed.modify panes id update).lookup other = some pane) :
      pane.Drawable ∧ pane.Marked ∨ panes.lookup other = some pane := by
    rw [Keyed.lookup_modify] at stored
    split at stored
    next =>
      obtain ⟨before, found, rfl⟩ := Option.map_eq_some_iff.mp stored
      exact .inl (one before (drawable other before found))
    next => exact .inr stored
  exact ⟨fun other pane stored => (either other pane stored).elim And.left (drawable other pane),
    fun other pane stored => (either other pane stored).imp And.right fun before => before⟩

theorem eachListed {body : PanePosition -> PaneState -> Fallible PaneState}
    (one : ∀ pos pane, pane.Drawable -> Ensures AnyPanic (body pos pane) fun next => next.Drawable ∧ next.Marked)
    {positions : List (PaneId × PanePosition)} {panes : Keyed.Map PaneId PaneState} (drawable : AllDrawable panes) :
    Ensures AnyPanic (PaneState.eachListed body positions panes) fun next => Touched panes next ∧
      ∀ placed ∈ positions, ∀ pane, next.lookup placed.1 = some pane -> pane.Marked := by
  induction positions generalizing panes with
  | nil => exact ⟨.refl drawable, List.forall_mem_nil _⟩
  | cons placed rest ih =>
    obtain ⟨id, pos⟩ := placed
    cases found : panes.lookup id with
    | none =>
      simp only [PaneState.eachListed, found]
      refine (ih drawable).weaken fun next both => ⟨both.1, List.forall_mem_cons.mpr ⟨?_, both.2⟩⟩
      intro pane stored
      refine (both.1.kept id pane stored).resolve_right fun before => ?_
      simp [found] at before
    | some pane =>
      simp only [PaneState.eachListed, found]
      refine (one pos pane (drawable id pane found)).bind fun after both => ?_
      have first : Touched panes (Keyed.modify panes id fun _ => after) := modify drawable id fun _ _ => both
      refine (ih first.drawable).weaken fun next later => ⟨first.trans later.1, List.forall_mem_cons.mpr ⟨?_, later.2⟩⟩
      -- The head of the list was marked, and the rest of the loop keeps it or marks it again.
      intro other stored
      refine (later.1.kept id other stored).elim (fun marked => marked) fun before => ?_
      rw [Keyed.lookup_modify, if_pos rfl, found] at before
      exact Option.some.inj before ▸ both.2

end Touched

end PaneState

/-! ## What a command leaves -/

namespace EventLoop

open PaneState

variable {R : Type} [Ratio R] {app middle next : EventLoop R}

/-- A pane that is neither drawn whole nor active is as it was, and so is the layout if it lists one. -/
structure Redraws (app next : EventLoop R) : Prop where
  drawable : AllDrawable next.panes
  panes : ∀ id pane, next.panes.lookup id = some pane ->
    pane.Marked ∨ app.panes.lookup id = some pane ∨ next.activePane = some id
  layout : next.positions = app.positions ∧ next.activePane = app.activePane ∨
    ∀ placed ∈ next.positions, ∀ pane, next.panes.lookup placed.1 = some pane -> pane.Marked

theorem positions_same (session : next.session = app.session) : next.positions = app.positions := by
  rw [positions, positions, session]

omit [Ratio R] in
theorem activePane_same (session : next.session = app.session) : next.activePane = app.activePane := by
  rw [activePane, activePane, session]

theorem Redraws.refl (drawable : AllDrawable app.panes) : Redraws app app :=
  ⟨drawable, fun _ _ stored => .inr (.inl stored), .inl ⟨rfl, rfl⟩⟩

theorem Redraws.then (first : Redraws app middle) (session : next.session = middle.session)
    (touched : Touched middle.panes next.panes) : Redraws app next := by
  refine ⟨touched.drawable, fun id pane stored => ?_, ?_⟩
  next =>
    rw [activePane_same session]
    exact (touched.kept id pane stored).elim .inl (first.panes id pane)
  next =>
    rw [positions_same session, activePane_same session]
    refine first.layout.imp_right fun marked placed member pane stored => ?_
    exact (touched.kept placed.1 pane stored).elim (fun marked => marked) (marked placed member pane)

theorem Redraws.touched (session : next.session = app.session) (touched : Touched app.panes next.panes) :
    Redraws app next :=
  ⟨touched.drawable, fun id pane stored => (touched.kept id pane stored).imp_right .inl,
    .inl ⟨positions_same session, activePane_same session⟩⟩

theorem Redraws.marked (drawable : AllDrawable next.panes) : Redraws app next.markAllDirty := by
  have all (id : PaneId) (pane : PaneState) (stored : next.markAllDirty.panes.lookup id = some pane) :
      pane.Drawable ∧ pane.Marked := by
    rw [markAllDirty, Keyed.lookup_mapValues] at stored
    obtain ⟨before, found, rfl⟩ := Option.map_eq_some_iff.mp stored
    exact ⟨(drawable id before found).markAll, rfl⟩
  exact ⟨fun id pane stored => (all id pane stored).1, fun id pane stored => .inl (all id pane stored).2,
    .inr fun placed _ pane stored => (all placed.1 pane stored).2⟩

omit [Ratio R] in
theorem allDrawable_erase (drawable : AllDrawable app.panes) (id : PaneId) : AllDrawable (app.panes.erase id) := by
  intro other pane stored
  by_cases same : other = id
  next =>
    rw [same, AList.lookup_erase] at stored
    cases stored
  next => exact drawable other pane (by rwa [AList.lookup_erase_ne same] at stored)

theorem syncPtySizes_redraws (redraws : Redraws app middle) :
    Ensures AnyPanic middle.syncPtySizes (Redraws app) := by
  unfold syncPtySizes
  refine Session.after_current fun tab active => ?_
  exact (Touched.eachListed (fun pos pane drawable => sync_drawable drawable pos) redraws.drawable).bind
    fun panes ⟨touched, _⟩ => ensures_ok (redraws.then rfl touched)

theorem executeSideEffects_redraws (redraws : Redraws app middle) (result : DispatchResult) :
    Ensures AnyPanic (middle.executeSideEffects result) (Redraws app) := by
  have forced {now : EventLoop R} (redraws : Redraws app now) :
      Ensures AnyPanic (onlyIf (result.forceClear = true) now syncPtySizes) (Redraws app) :=
    .ite (fun _ => syncPtySizes_redraws redraws) fun _ => ensures_ok redraws
  cases spawned : result.spawnPane with
  | some spawn =>
    obtain ⟨id, cols, rows⟩ := spawn
    simp only [executeSideEffects, spawned]
    have there := @Redraws.then R _ app middle { middle with panes := middle.panes.insert id (PaneState.new cols rows) } redraws rfl
      (.insert redraws.drawable id cols rows)
    exact (syncPtySizes_redraws there).bind fun now redraws => forced redraws
  | none =>
    simp only [executeSideEffects, spawned, ok_bind]
    exact forced redraws

def Dispatched (app : EventLoop R) (x : Fallible (DispatchResult × EventLoop R)) : Prop :=
  Ensures AnyPanic x fun done => Redraws app done.2

theorem onActivePane_redraws (drawable : AllDrawable app.panes) {update : PaneState -> PaneState}
    (one : ∀ pane, pane.Drawable -> (update pane).Drawable ∧ (update pane).Marked) :
    Dispatched app (app.dispatchOnActivePane update) := by
  unfold dispatchOnActivePane onActivePane
  refine Ensures.bind (Session.after_current fun tab active => ?_) fun next redraws => ensures_ok redraws
  split
  next activeId _ => exact ensures_ok (.touched (by rfl) (.modify drawable activeId one))
  next => exact ensures_ok (.refl drawable)

theorem dispatchOnTab_redraws (drawable : AllDrawable app.panes) (method : Tab R -> Tab R) :
    Dispatched app (app.dispatchOnTab method) :=
  Session.after_current fun _ _ => ensures_ok (.marked (by exact drawable))

theorem dispatchSplitPane_redraws (drawable : AllDrawable app.panes) (direction : SplitDirection) :
    Dispatched app (app.dispatchSplitPane direction) := by
  refine Session.after_current fun tab _ => ensures_after _ fun split => ?_
  rcases split with ⟨_ | newId, next⟩
  next => exact ensures_ok (.marked (by exact drawable))
  next => exact ensures_ok (.marked (by exact drawable))

theorem dispatchCloseActivePane_redraws (drawable : AllDrawable app.panes) :
    Dispatched app app.dispatchCloseActivePane := by
  refine Session.after_current fun tab _ => ?_
  split
  next activeId _ =>
    exact .ite (fun _ => ensures_ok (.marked (by exact allDrawable_erase drawable activeId))) fun _ => ensures_ok (.refl drawable)
  next => exact ensures_ok (.refl drawable)

theorem dispatchNewTab_redraws (drawable : AllDrawable app.panes) : Dispatched app app.dispatchNewTab :=
  ensures_after _ fun _ => ensures_after _ fun _ => ensures_after _ fun _ => ensures_ok (.marked (by exact drawable))

theorem dispatchCloseTab_redraws (drawable : AllDrawable app.panes) : Dispatched app app.dispatchCloseTab := by
  refine Session.after_current fun tab _ => ?_
  have left (closed : Bool) : AllDrawable (if closed then Keyed.eraseAll app.panes tab.layout.paneIds else app.panes) := by
    cases closed
    next => exact drawable
    next => exact fun id pane stored => drawable id pane (Keyed.lookup_eraseAll stored)
  exact ensures_ok (.marked (left _))

theorem dispatchResize_redraws (drawable : AllDrawable app.panes) (cols rows : UInt16) :
    Dispatched app (app.dispatchResize cols rows) := by
  refine Session.after_current fun tab active => ?_
  refine (Touched.eachListed (fun pos pane drawable => resize_drawable drawable pos) drawable).bind
    fun panes ⟨touched, listed⟩ => ensures_ok ⟨touched.drawable, fun id pane stored => ?_, .inr ?_⟩
  next => exact (touched.kept id pane stored).imp_right .inl
  next =>
    -- What is listed in the new size is what the loop has resized.
    simp only [positions, active]
    exact listed

theorem forwardKey_redraws (drawable : AllDrawable app.panes) (bytes : Bytes) :
    Dispatched app (app.dispatch (.forwardKeyToPty bytes)) := by
  -- The viewport of the active pane goes to the bottom and nothing is marked until the frame after the key.
  simp only [dispatch, onActivePane]
  refine Ensures.bind (Session.after_current fun tab active => ?_) fun next redraws => ensures_after _ fun _ => ensures_ok redraws
  split
  next activeId focused =>
    have reset (id : PaneId) (pane : PaneState)
        (stored : (Keyed.modify app.panes activeId fun pane => pane.onScreen scrollViewportReset).lookup id = some pane) :
        app.panes.lookup id = some pane ∨ id = activeId ∧ ∃ before, app.panes.lookup id = some before ∧
          pane = before.onScreen scrollViewportReset := by
      rw [Keyed.lookup_modify] at stored
      split at stored
      next here =>
        obtain ⟨before, found, is⟩ := Option.map_eq_some_iff.mp stored
        exact .inr ⟨here, before, found, is.symm⟩
      next => exact .inl stored
    refine ensures_ok ⟨fun id pane stored => ?_, fun id pane stored => ?_, .inl ⟨rfl, rfl⟩⟩
    next =>
      rcases reset id pane stored with same | ⟨-, before, found, rfl⟩
      next => exact drawable id pane same
      next => exact (drawable id before found).same rfl rfl rfl
    next =>
      rcases reset id pane stored with same | ⟨rfl, -⟩
      next => exact .inr (.inl same)
      next => exact .inr (.inr (by simp [activePane, onPane, active, focused]))
  next => exact ensures_ok (.refl drawable)

theorem dispatch_redraws (drawable : AllDrawable app.panes) (command : Command) :
    Dispatched app (app.dispatch command) := by
  have marks (pane : PaneState) (can : pane.Drawable) : pane.markAll.Drawable ∧ pane.markAll.Marked := ⟨can.markAll, rfl⟩
  have scrolls {scroll : Screen -> Screen} (still : ∀ s, (scroll s).grid = s.grid ∧ (scroll s).altGrid = s.altGrid)
      (pane : PaneState) (can : pane.Drawable) : (scrolled scroll pane).Drawable ∧ (scrolled scroll pane).Marked :=
    ⟨can.scrolled still, rfl⟩
  cases command with
  | splitPane direction => exact dispatchSplitPane_redraws drawable direction
  | closeActivePane => exact dispatchCloseActivePane_redraws drawable
  | newTab => exact dispatchNewTab_redraws drawable
  | closeTab => exact dispatchCloseTab_redraws drawable
  | nextTab | prevTab | exitCopyMode | copyYank | extendMouseSelection | finalizeMouseSelection | reloadConfig =>
    exact ensures_ok (.marked drawable)
  | focusDirection | toggleFullscreen | toggleFloat => exact dispatchOnTab_redraws drawable _
  | scrollUp | scrollDown => exact onActivePane_redraws drawable (scrolls fun _ => ⟨rfl, rfl⟩)
  | enterCopyMode | copyMove | copyToggleSelection => exact onActivePane_redraws drawable marks
  | enterSearchMode | exitSearchMode | searchAppendChar | searchDeleteChar | searchNextMatch | searchPrevMatch
  | quit | detach | startMouseSelection | forwardMouseToPty | startBorderDrag | endBorderDrag =>
    exact ensures_ok ⟨drawable, fun _ _ stored => .inr (.inl stored), .inl ⟨rfl, rfl⟩⟩
  | forwardKeyToPty bytes => exact forwardKey_redraws drawable bytes
  | forwardPaste data => exact ensures_after _ fun _ => ensures_ok (.marked drawable)
  | forwardFocus gained => exact ensures_after _ fun _ => ensures_ok (.refl drawable)
  | focusPane paneId =>
    exact Session.after_current fun tab _ =>
      .ite (fun _ => ensures_ok (.marked (by exact drawable))) fun _ => ensures_ok (.refl drawable)
  | continueBorderDrag col row =>
    simp only [dispatch]
    split
    next =>
      refine Ensures.bind (Session.after_current fun tab _ => ensures_ok ?_) fun next redraws => ensures_ok redraws
      exact .marked (by exact drawable)
    next => exact ensures_ok (.refl drawable)
  | scrollPaneUp id | scrollPaneDown id =>
    exact ensures_ok (.touched (by rfl) (.modify drawable id (scrolls fun _ => ⟨rfl, rfl⟩)))
  | resize cols rows => exact dispatchResize_redraws drawable cols rows

theorem removeDead_lookup (ids : List PaneId) (app : App R PaneState) :
    Ensures AnyPanic (app.removeDead ids) fun done =>
      ∀ id pane, done.2.panes.lookup id = some pane -> app.panes.lookup id = some pane := by
  induction ids generalizing app with
  | nil => exact ensures_ok fun _ _ stored => stored
  | cons dead rest ih =>
    have erased {id : PaneId} {pane : PaneState} (stored : (app.panes.erase dead).lookup id = some pane) :
        app.panes.lookup id = some pane := by
      by_cases same : id = dead
      next =>
        rw [same, AList.lookup_erase] at stored
        cases stored
      next => rwa [AList.lookup_erase_ne same] at stored
    rw [App.removeDead]
    refine ensures_after _ fun tab => .ite (fun _ => ensures_after _ fun tabs => ?_) fun _ => ensures_ok fun _ _ => erased
    exact (ih _).weaken fun done kept id pane stored => erased (kept id pane stored)

omit [Ratio R] in
theorem renderAll_eq (forceClear : Bool) (app : EventLoop R) : app.renderAll forceClear =
    if forceClear || app.panes.entries.any fun entry => entry.2.damage.needsRedraw then
      { app with panes := Keyed.mapValues app.panes fun pane => { pane with damage := pane.damage.clear } }
    else app := by
  cases forceClear with
  | false => rfl
  | true =>
    simp only [renderAll, markAllDirty, if_true, Bool.true_or, Keyed.mapValues, List.map_map]
    rfl

omit [Ratio R] in
theorem drawFrame_eq (frame : Frame) (app : EventLoop R) :
    app.drawFrame frame = app.marked frame >>= fun marked => .ok (marked.renderAll (frame == .full)) := by
  cases frame with
  | output | input => rfl
  | full =>
    show Except.ok (renderAll true app) = Except.ok (renderAll true app.markAllDirty)
    simp only [renderAll_eq, markAllDirty, Bool.true_or, if_true, Keyed.mapValues, List.map_map]
    rfl

end EventLoop

/-! ## The display -/

/-- Nothing but the frame comes between the commands of an input and that frame. -/
def LoopEvent.followsInput : LoopEvent -> Prop
  | .command _ | .frame .full | .frame .input => True
  | _ => False

def LoopEvent.isCommand : LoopEvent -> Bool
  | .command _ => true
  | _ => false

namespace Drawn

open PaneState

variable {R : Type} [Ratio R] {state : Drawn R} {waiting : Bool}

/-- Rows that are not marked are on display as a full redraw would draw them. As long as a key waits for its frame
the active pane is left out. -/
structure UpToDate (waiting : Bool) (state : Drawn R) : Prop where
  drawable : AllDrawable state.app.panes
  lines : ∀ placed ∈ state.app.positions, ∀ pane, state.app.panes.lookup placed.1 = some pane ->
    (waiting = true -> state.app.activePane ≠ some placed.1) ->
    ∀ r < min placed.2.rows pane.screen.rows, pane.damage.isDirty r = false ->
      state.display.positions = state.app.positions ∧ state.display.lines placed r = drawnLine pane placed.2 true r

def Current (state : Drawn R) : Prop :=
  ∀ placed ∈ state.app.positions, ∀ pane, state.app.panes.lookup placed.1 = some pane ->
    ∀ r < min placed.2.rows pane.screen.rows, ∃ line, drawnLine pane placed.2 true r = some line ∧
      state.display.positions = state.app.positions ∧ state.display.lines placed r = some line

/-- Of `take_damage` it is assumed that it covers what output changes; output of a listed pane is read with the
viewport at the bottom, or changes nothing by going there, and leaves the width of the screen as it is. A death leaves
the layout as it is, or ends the loop. No mouse selection is begun: nothing else sets `app.mouse_selection`. -/
def keepsDrawn (event : LoopEvent) (state : Drawn R) : Prop :=
  match event with
  | .output id bytes => id ∈ state.app.positions.map Prod.fst -> ∀ pane, state.app.panes.lookup id = some pane ->
    pane.Covered bytes ∧ ShowsBottom [bytes] pane ∧ pane.terminal.colsAfter bytes = pane.screen.cols
  | .died ids => ∀ next, state.app.removeDied ids = .ok next ->
    next.exited = true ∨ next.positions = state.app.positions
  | .command (.startMouseSelection _) => False
  | _ => True

omit [Ratio R] in
theorem isDirty_marked {pane : PaneState} (marked : pane.Marked) (r : Nat) : pane.damage.isDirty r = true := by
  rw [DamageTracker.isDirty, show pane.damage.fullRedraw = true from marked, Bool.true_or]

theorem UpToDate.touched (upToDate : UpToDate waiting state) {app : EventLoop R} (session : app.session = state.app.session)
    (touched : Touched state.app.panes app.panes)
    (active : waiting = true -> ∀ id pane, app.activePane = some id -> app.panes.lookup id = some pane -> pane.Marked) :
    UpToDate false { state with app } := by
  refine ⟨touched.drawable, fun placed member pane stored _ r inside clean => ?_⟩
  have positions : app.positions = state.app.positions := EventLoop.positions_same session
  have unmarked : ¬ pane.Marked := fun marked => by simp [isDirty_marked marked] at clean
  rw [positions] at member
  have before := (touched.kept placed.1 pane stored).resolve_left unmarked
  have excused (waits : waiting = true) : state.app.activePane ≠ some placed.1 := fun is =>
    unmarked (active waits placed.1 pane ((EventLoop.activePane_same session).trans is) stored)
  obtain ⟨layout, line⟩ := upToDate.lines placed member pane before excused r inside clean
  exact ⟨layout.trans positions.symm, line⟩

theorem UpToDate.redraws (upToDate : UpToDate waiting state) {app : EventLoop R} (redraws : state.app.Redraws app) :
    UpToDate true { state with app } := by
  refine ⟨redraws.drawable, fun placed member pane stored inactive r inside clean => ?_⟩
  have unmarked : ¬ pane.Marked := fun marked => by simp [isDirty_marked marked] at clean
  have inactive := inactive rfl
  rcases redraws.layout with ⟨positions, active⟩ | marked
  next =>
    have before := ((redraws.panes placed.1 pane stored).resolve_left unmarked).resolve_right inactive
    have member : placed ∈ state.app.positions := positions ▸ member
    have excused : state.app.activePane ≠ some placed.1 := fun is => inactive (active.trans is)
    obtain ⟨layout, line⟩ := upToDate.lines placed member pane before (fun _ => excused) r inside clean
    exact ⟨layout.trans positions.symm, line⟩
  next => exact absurd (marked placed member pane stored) unmarked

theorem drainOutput_upToDate (upToDate : UpToDate false state) {id : PaneId} {bytes : Bytes}
    (keeps : keepsDrawn (.output id bytes) state) :
    Ensures AnyPanic (state.app.drainOutput id bytes) fun app => UpToDate false { state with app } := by
  unfold EventLoop.drainOutput
  split
  next pane found =>
    obtain ⟨rows, sound⟩ := upToDate.drawable id pane found
    obtain ⟨cols, height, fits⟩ := sound.whole
    refine ensures_any_iff.mpr fun app done => ?_
    cases drained : pane.drain bytes with
    | error panic => simp [drained] at done
    | ok after =>
      rw [drained, ok_bind] at done
      obtain rfl := Except.ok.inj done
      have sound' := (drain_sound sound drained).1
      have there (other : PaneId) (next : PaneState)
          (stored : (Keyed.modify state.app.panes id fun _ => after).lookup other = some next) :
          other = id ∧ next = after ∨ other ≠ id ∧ state.app.panes.lookup other = some next := by
        rw [Keyed.lookup_modify] at stored
        split at stored
        next here =>
          obtain ⟨_, _, is⟩ := Option.map_eq_some_iff.mp stored
          exact .inl ⟨here, is.symm⟩
        next apart => exact .inr ⟨apart, stored⟩
      refine ⟨fun other next stored => ?_, fun placed member next stored inactive r inside clean => ?_⟩
      next =>
        rcases there other next stored with ⟨-, rfl⟩ | ⟨-, same⟩
        next => exact ⟨rows, sound'⟩
        next => exact upToDate.drawable other next same
      next =>
        have member : placed ∈ state.app.positions := member
        rcases there placed.1 next stored with ⟨here, rfl⟩ | ⟨-, same⟩
        next =>
          subst here
          obtain ⟨covered, bottom, width⟩ := keeps (List.mem_map_of_mem member) pane found
          have covered : Along drain Covered [bytes] pane := ⟨covered, ensures_any_iff.mpr fun _ _ => trivial⟩
          have ran : run drain [bytes] pane = .ok next := by rw [run_cons, drained, ok_bind, run_nil]
          have marks := (run_marks_iff sound covered ran).mpr (.inr bottom)
          have tall : next.screen.rows = pane.screen.rows := sound'.height.trans sound.height.symm
          have wide : next.screen.cols = pane.screen.cols :=
            ((drain_fits bytes fits).of_ok drained).screen.grid.1.trans width
          have within : r < min placed.2.rows pane.screen.rows := tall ▸ inside
          have lower : r < pane.screen.rows := Nat.lt_of_lt_of_le within (Nat.min_le_right ..)
          -- A row that is not marked after the read was not before, and shows what it did.
          have shows : next.screen.shown r = pane.screen.shown r := by
            by_contra changed
            simp [marks r lower changed] at clean
          have before : pane.damage.isDirty r = false := by
            refine Bool.eq_false_iff.mpr fun dirty => ?_
            simp [(drain_dirty sound (sound.height ▸ lower) drained).mpr (.inl dirty)] at clean
          obtain ⟨layout, line⟩ := upToDate.lines placed member pane found nofun r within before
          exact ⟨layout, line.trans (drawnLine_same sound' sound wide tall shows inside).symm⟩
        next => exact upToDate.lines placed member next same nofun r inside clean
  next => exact ensures_ok upToDate

theorem removeDied_upToDate (upToDate : UpToDate false state) {ids : List PaneId} (keeps : keepsDrawn (.died ids) state) :
    Ensures AnyPanic (state.app.removeDied ids) fun app => app.exited = true ∨ UpToDate false { state with app } := by
  refine ensures_any_iff.mpr fun app removed => (keeps app removed).imp_right fun positions => ?_
  have kept := EventLoop.removeDead_lookup (ids.filter fun id => id ∈ state.app.panes) state.app.toApp
  unfold EventLoop.removeDied at removed
  cases dead : state.app.toApp.removeDead (ids.filter fun id => id ∈ state.app.panes) with
  | error panic => simp [dead] at removed
  | ok done =>
    rw [dead] at kept
    rw [dead, ok_bind] at removed
    obtain rfl := Except.ok.inj removed
    refine ⟨fun id pane stored => upToDate.drawable id pane (kept id pane stored), ?_⟩
    intro placed member pane stored _ r inside clean
    rw [positions] at member ⊢
    exact upToDate.lines placed member pane (kept placed.1 pane stored) nofun r inside clean

theorem runCommand_upToDate (upToDate : UpToDate waiting state) (command : Command) :
    Ensures AnyPanic (state.app.runCommand command) fun app => UpToDate true { state with app } := by
  refine (EventLoop.dispatch_redraws upToDate.drawable command).bind fun done redraws => ?_
  refine (EventLoop.executeSideEffects_redraws redraws done.1).bind fun app redraws => ensures_ok ?_
  exact upToDate.redraws ⟨redraws.drawable, redraws.panes, redraws.layout⟩

theorem marked_upToDate (upToDate : UpToDate waiting state) {frame : Frame} (order : waiting = true -> frame ≠ .output) :
    Ensures AnyPanic (state.app.marked frame) fun app => UpToDate false { state with app } := by
  have marks (pane : PaneState) (can : pane.Drawable) : pane.markAll.Drawable ∧ pane.markAll.Marked := ⟨can.markAll, rfl⟩
  -- Before a frame nothing is marked, or every pane is, or the active one.
  cases frame with
  | output =>
    obtain rfl : waiting = false := Bool.eq_false_iff.mpr fun waits => order waits rfl
    exact ensures_ok upToDate
  | full =>
    have all (id : PaneId) (pane : PaneState) (stored : state.app.markAllDirty.panes.lookup id = some pane) :
        pane.Drawable ∧ pane.Marked := by
      rw [EventLoop.markAllDirty, Keyed.lookup_mapValues] at stored
      obtain ⟨before, found, rfl⟩ := Option.map_eq_some_iff.mp stored
      exact marks before (upToDate.drawable id before found)
    exact ensures_ok (upToDate.touched (by rfl)
      ⟨fun id pane stored => (all id pane stored).1, fun id pane stored => .inl (all id pane stored).2⟩
      fun _ id pane _ stored => (all id pane stored).2)
  | input =>
    refine Session.after_current fun tab active => ?_
    split
    next activeId focused =>
      refine ensures_ok (upToDate.touched (by rfl) (.modify upToDate.drawable activeId marks) fun _ id pane is stored => ?_)
      have here : id = activeId := by
        rw [EventLoop.activePane, EventLoop.onPane, active] at is
        exact Option.some.inj (is.symm.trans focused)
      subst here
      rw [EventLoop.onPane, Keyed.lookup_modify, if_pos rfl] at stored
      obtain ⟨_, -, rfl⟩ := Option.map_eq_some_iff.mp stored
      rfl
    next unfocused =>
      refine ensures_ok (upToDate.touched (by rfl) (.refl upToDate.drawable) fun _ id pane is _ => ?_)
      rw [EventLoop.activePane, active, Option.bind_some, unfocused] at is
      cases is

omit [Ratio R] in
theorem renderAll_lookup (forceClear : Bool) (app : EventLoop R) {id : PaneId} {pane : PaneState}
    (stored : (app.renderAll forceClear).panes.lookup id = some pane) :
    ∃ before, app.panes.lookup id = some before ∧ pane.screen = before.screen ∧ (before.Drawable -> pane.Drawable) := by
  rw [EventLoop.renderAll_eq] at stored
  split at stored
  next =>
    rw [Keyed.lookup_mapValues] at stored
    obtain ⟨before, found, rfl⟩ := Option.map_eq_some_iff.mp stored
    exact ⟨before, found, rfl, Drawable.cleared⟩
  next => exact ⟨pane, stored, rfl, fun drawable => drawable⟩

omit [Ratio R] in
theorem renderAll_session (forceClear : Bool) (app : EventLoop R) : (app.renderAll forceClear).session = app.session := by
  rw [EventLoop.renderAll_eq]
  split <;> rfl

theorem needsRedraw_dirty {damage : DamageTracker} {r : Nat} (dirty : damage.isDirty r = true) :
    damage.needsRedraw = true := by
  simp only [DamageTracker.isDirty, DamageTracker.needsRedraw, Bool.or_eq_true, List.any_eq_true, id_eq,
    exists_eq_right, List.getD_eq_getElem?_getD] at dirty ⊢
  refine dirty.imp_right fun flagged => ?_
  cases flag : damage.dirtyRows[r]? with
  | none => simp [flag] at flagged
  | some value =>
    obtain rfl : value = true := by simpa [flag] using flagged
    exact List.mem_of_getElem? flag

theorem draw_current (upToDate : UpToDate false state) (forceClear : Bool) : Current
    { app := state.app.renderAll forceClear, display := state.display.draw forceClear state.app } := by
  intro placed member pane stored r inside
  obtain ⟨before, found, screen, drawable⟩ := renderAll_lookup forceClear state.app stored
  have positions : (state.app.renderAll forceClear).positions = state.app.positions :=
    EventLoop.positions_same (renderAll_session forceClear state.app)
  rw [positions] at member ⊢
  obtain ⟨rows, sound⟩ := upToDate.drawable placed.1 before found
  obtain ⟨rows', sound'⟩ := drawable ⟨rows, sound⟩
  rw [screen] at inside
  have whole : r ∈ drawnRows before.screen before.damage placed.2 true := mem_drawnRows.mpr ⟨inside, .inl rfl⟩
  have same : drawnLine pane placed.2 true r = drawnLine before placed.2 true r :=
    drawnLine_same sound' sound (by rw [screen]) (by rw [screen]) (by rw [screen]) (screen ▸ inside)
  obtain ⟨cells, shown, line⟩ := drawnLine_drawn sound whole
  refine ⟨_, same.trans line, ?_⟩
  -- A row that is not drawn is clean, and its line was drawn before in this layout.
  have kept (clean : before.damage.isDirty r = false) := upToDate.lines placed member before found nofun r inside clean
  unfold Display.draw
  split
  next =>
    refine ⟨rfl, ?_⟩
    dsimp only
    rw [if_pos member, found, Option.bind_some]
    by_cases drawn : r ∈ drawnRows before.screen before.damage placed.2 forceClear
    next =>
      obtain ⟨cells', shown', line'⟩ := drawnLine_drawn sound drawn
      obtain rfl := Except.ok.inj (shown.symm.trans shown')
      rw [line']
      rfl
    next =>
      have clean : before.damage.isDirty r = false :=
        Bool.eq_false_iff.mpr fun dirty => drawn (mem_drawnRows.mpr ⟨inside, .inr dirty⟩)
      rw [drawnLine_skipped drawn, Option.none_or, if_pos (kept clean).1, (kept clean).2, line]
  next nothing =>
    have clean : before.damage.isDirty r = false := by
      refine Bool.eq_false_iff.mpr fun dirty => nothing ?_
      have listed := AList.mem_lookup_iff.mp found
      exact Bool.or_eq_true_iff.mpr (.inr (List.any_eq_true.mpr ⟨_, listed, needsRedraw_dirty dirty⟩))
    exact ⟨(kept clean).1, (kept clean).2.trans line⟩

theorem drawFrame_current (upToDate : UpToDate waiting state) {frame : Frame} (order : waiting = true -> frame ≠ .output)
    (inside : state.app.exited = false) :
    Ensures AnyPanic (state.step (.frame frame)) fun next => UpToDate false next ∧ Current next := by
  have marks := marked_upToDate upToDate order
  simp only [step, EventLoop.step, inside, Bool.false_eq_true, if_false, EventLoop.drawFrame_eq]
  cases marked : state.app.marked frame with
  | error panic => trivial
  | ok app =>
    rw [marked] at marks
    have current := draw_current marks (frame == .full)
    refine ensures_ok ⟨⟨fun id pane stored => ?_, fun placed member pane stored _ r within _ => ?_⟩, current⟩
    next =>
      obtain ⟨before, found, -, drawable⟩ := renderAll_lookup _ app stored
      exact drawable (marks.drawable id before found)
    next =>
      obtain ⟨line, is, layout, shown⟩ := current placed member pane stored r within
      exact ⟨layout, shown.trans is.symm⟩

/-! ## Runs -/

def Kept (waiting : Bool) (state : Drawn R) : Prop := state.app.exited = true ∨ UpToDate waiting state

theorem step_kept (event : LoopEvent) (keeps : keepsDrawn event state) (follows : waiting = true -> event.followsInput)
    (kept : Kept waiting state) : Ensures AnyPanic (state.step event) (Kept event.isCommand) := by
  by_cases left : state.app.exited = true
  next =>
    have still : state.step event = .ok state := by
      simp only [step, EventLoop.step, left, if_true, ok_bind]
      cases event <;> rfl
    rw [still]
    exact .inl left
  next =>
    have upToDate := kept.resolve_left left
    have inside : state.app.exited = false := by simpa using left
    -- Only commands and the frame after them come while a key waits.
    have ready (other : ¬ event.followsInput) : UpToDate false state := by
      obtain rfl : waiting = false := Bool.eq_false_iff.mpr fun waits => other (follows waits)
      exact upToDate
    cases event with
    | output id bytes =>
      simp only [step, EventLoop.step, left]
      exact (drainOutput_upToDate (ready nofun) keeps).bind fun app done => ensures_ok (.inr done)
    | died ids =>
      simp only [step, EventLoop.step, left]
      exact (removeDied_upToDate (ready nofun) keeps).bind fun app done => ensures_ok done
    | command command =>
      simp only [step, EventLoop.step, left]
      exact (runCommand_upToDate upToDate command).bind fun app done => ensures_ok (.inr done)
    | frame frame =>
      have order (waits : waiting = true) : frame ≠ .output := by
        rintro rfl
        exact follows waits
      exact (drawFrame_current upToDate order inside).weaken fun next done => .inr done.1

/-- What `run_event_loop` starts with, before anything is drawn. -/
def start (cols rows : UInt16) (display : Display) : Drawn R where
  app := EventLoop.start cols rows
  display

end Drawn

end Emux
