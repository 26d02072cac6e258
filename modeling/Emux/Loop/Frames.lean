import Emux.Loop.Sizes

set_option autoImplicit false

/-!
# The sizes at a frame

Events other than a command, and what a whole run keeps.
-/

namespace Emux

open Checked PaneState

variable {R : Type} [Ratio R]

namespace App

theorem Ready.erase {app : App R PaneState} {tab next : Tab R} (ready : app.Ready) (plain : next.Plain)
    (same : next.computePositions = tab.computePositions) (listed : tab.ListedIn app.panes) (before : tab.Plain)
    {id : PaneId} (unlisted : id ∉ tab.computePositions.map Prod.fst) :
    Ready { app with session := app.session.setCurrent next, panes := app.panes.erase id } := by
  refine ready.setCurrent plain (allWhole_erase ready.whole id) (plain.listed_iff.mpr fun placed member => ?_)
  rw [same] at member
  refine AList.mem_erase.mpr ⟨fun is => unlisted ?_, before.listed_iff.mp listed placed member⟩
  exact is ▸ List.mem_map_of_mem member

theorem displayed_erase {panes : Keyed.Map PaneId PaneState} {positions : List (PaneId × PanePosition)}
    (displayed : Displayed panes positions) {id : PaneId} (unlisted : id ∉ positions.map Prod.fst) :
    Displayed (panes.erase id) positions := by
  intro placed member
  have apart : placed.1 ≠ id := fun is => unlisted (is ▸ List.mem_map_of_mem member)
  rw [AList.lookup_erase_ne apart]
  exact displayed placed member

theorem closePane_unlisted {tab : Tab R} (plain : tab.Plain) {id : PaneId} (several : 1 < tab.paneCount)
    (unlisted : id ∉ tab.computePositions.map Prod.fst) :
    (tab.closePane id).2.Plain ∧ (tab.closePane id).2.computePositions = tab.computePositions := by
  -- Closing a pane that the tab does not list changes nothing in what it lists.
  by_cases tiled : id ∈ tab.panes
  next =>
    obtain ⟨next, fullscreen, size⟩ := plain.closePane tiled several
    refine ⟨next, ?_⟩
    rw [plain.positions] at unlisted
    rw [next.positions, plain.positions, fullscreen, size]
    cases shown : tab.fullscreenPane with
    | none =>
      rw [shown] at unlisted
      exact absurd ((plain.mem_tiled id).mpr tiled) unlisted
    | some other =>
      rw [shown] at unlisted
      have apart : other ≠ id := by simpa [eq_comm] using unlisted
      rw [if_neg fun same => apart (Option.some.inj same)]
  next =>
    have same : (tab.closePane id).2 = tab := by rw [Tab.closePane, if_neg (Nat.not_le.mpr several), if_pos tiled]
    rw [same]
    exact ⟨plain, rfl⟩

theorem removeDead_unlisted (ids : List PaneId) {free : Prop} {app : App R PaneState} (ready : app.Ready)
    (shows : free -> app.Shows) {tab : Tab R} (active : app.session.tabs[app.session.activeTab]? = some tab)
    (unlisted : ∀ id ∈ ids, id ∉ tab.computePositions.map Prod.fst) :
    Ensures AnyPanic (removeDead ids app) fun done => done.1 = true ∨ done.2.Ready ∧ (free -> done.2.Shows) := by
  -- Panes that the active tab does not list may die; the loop may still be left, at its last pane.
  induction ids generalizing app tab with
  | nil => exact .inr ⟨ready, shows⟩
  | cons id rest ih =>
    obtain ⟨here, unlisted⟩ := List.forall_mem_cons.mp unlisted
    rw [removeDead]
    dsimp only
    rw [get_ok active, ok_bind]
    refine .ite (fun several => ?_) fun _ => .inl rfl
    rw [set_ok _ ready.inside, ok_bind]
    have plain := ready.tab_plain active
    obtain ⟨next, same⟩ := closePane_unlisted plain several here
    have now : (app.session.tabs.set app.session.activeTab (tab.closePane id).2)[app.session.activeTab]? =
        some (tab.closePane id).2 := List.getElem?_set_self ready.inside
    refine ih (ready.erase next same (ready.tab_listed active) plain here) (fun free => ⟨_, now, ?_⟩) now ?_
    next =>
      obtain ⟨other, is, displayed⟩ := shows free
      obtain rfl := Option.some.inj (is.symm.trans active)
      rw [same]
      exact displayed_erase displayed here
    next => rwa [same]

end App

namespace EventLoop

open App

variable {app : EventLoop R} {tab : Tab R}

/-- The events after which the screens still have the sizes of what is listed. A pane that is listed dies only with
all panes of its tab, when the loop is left. -/
def keepsSizes (event : LoopEvent) (app : EventLoop R) : Prop :=
  ∀ tab, app.session.tabs[app.session.activeTab]? = some tab ->
    match event with
    | .output id bytes => id ∈ tab.computePositions.map Prod.fst -> ∀ pane, app.panes.lookup id = some pane ->
      pane.terminal.colsAfter bytes = pane.screen.cols
    | .died ids => (∀ id ∈ tab.panes, id ∈ ids ∧ id ∈ app.panes) ∨ ∀ id ∈ ids, id ∉ tab.computePositions.map Prod.fst
    | .command command => commandKeeps command app tab
    | .frame _ => True

def Kept (app : EventLoop R) : Prop := app.exited = true ∨ app.Steady

theorem drainOutput_kept (steady : app.Steady) {id : PaneId} {bytes : Bytes} (keeps : keepsSizes (.output id bytes) app) :
    Ensures AnyPanic (app.drainOutput id bytes) Kept := by
  obtain ⟨tab, active, listed⟩ := steady.listed
  unfold drainOutput
  split
  next pane found =>
    obtain ⟨cols, rows, fits⟩ := steady.whole id pane found
    refine (drain_fits bytes fits).bind fun next drained => .inr ?_
    have still := allWhole_modify steady.whole id ⟨_, _, drained⟩
    have there := listed.mono rfl rfl fun other member => (Keyed.mem_modify app.panes id (fun _ => next) other).mpr member
    refine ⟨⟨steady.plain, still, tab, active, there⟩, fun free => ⟨tab, active, fun placed member => ?_⟩⟩
    obtain ⟨before, stored, exact⟩ := steady.displayed active free placed member
    rw [Keyed.lookup_modify]
    by_cases here : placed.1 = id
    next =>
      have same := keeps tab active (here ▸ List.mem_map_of_mem member) pane found
      rw [here, found] at stored
      obtain rfl := Option.some.inj stored
      rw [if_pos here, here, found]
      refine ⟨next, rfl, ?_⟩
      have width : pane.screen.cols = placed.2.cols := exact.screen.grid.1
      have height : rows = placed.2.rows := fits.damage.symm.trans exact.damage
      rwa [same, width, height] at drained
    next =>
      rw [if_neg here]
      exact ⟨before, stored, exact⟩
  next => exact .inr steady

theorem removeDied_kept (steady : app.Steady) {ids : List PaneId} (keeps : keepsSizes (.died ids) app) :
    Ensures AnyPanic (app.removeDied ids) Kept := by
  obtain ⟨tab, active, -⟩ := steady.listed
  have plain := steady.tab_plain active
  unfold removeDied
  rcases keeps tab active with all | unlisted
  next =>
    have tiled : 0 < tab.paneCount := by
      obtain ⟨id, focused, -⟩ := plain.active
      exact List.length_pos_of_mem (AList.mem_keys.mp (plain.active_tiled focused))
    rcases removeDead_cases (ids.filter fun id => id ∈ app.panes) active tiled with
      ⟨-, next, ran, -⟩ | ⟨next, panes, -, -, kept, -, positive⟩
    next =>
      rw [ran, ok_bind]
      exact .inl rfl
    next =>
      have none : tab.panes.keys.diff (ids.filter fun id => id ∈ app.panes) = [] := by
        refine List.eq_nil_iff_forall_not_mem.mpr fun id left => ?_
        obtain ⟨there, alive⟩ := tab.panes.keys_nodup.mem_sdiff_iff.mp left
        obtain ⟨died, stored⟩ := all id (AList.mem_keys.mpr there)
        exact alive (List.mem_filter.mpr ⟨died, decide_eq_true stored⟩)
      have empty : next.paneCount = 0 := congrArg List.length (kept.trans none)
      omega
  next =>
    have left := removeDead_unlisted (ids.filter fun id => id ∈ app.panes) steady.toReady steady.shows active
      fun id member => unlisted id (List.mem_of_mem_filter member)
    exact left.bind fun done kept => kept.imp_right fun both => ⟨both.1, both.2⟩

theorem runCommand_kept (steady : app.Steady) {command : Command} (keeps : keepsSizes (.command command) app) :
    Ensures AnyPanic (app.runCommand command) Kept := by
  obtain ⟨tab, active, -⟩ := steady.listed
  refine (dispatch_prepared command steady active (keeps tab active)).bind fun dispatched prepared => ?_
  exact (executeSideEffects_steady prepared).bind fun next done => .inr ⟨done.toReady, done.shows⟩

theorem renderAll_steady (steady : app.Steady) (forceClear : Bool) : (app.renderAll forceClear).Steady := by
  have drawn {app : EventLoop R} (steady : app.Steady) (redraw : Bool) : (if redraw then
      { app with panes := Keyed.mapValues app.panes fun pane => { pane with damage := pane.damage.clear } }
      else app : EventLoop R).Steady := by
    have still : ∀ pane : PaneState, shape { pane with damage := pane.damage.clear } = pane.shape := fun pane => by
      simp only [shape, screen, DamageTracker.clear, List.length_map]
    cases redraw with
    | true => exact steady.same (.mapValues still)
    | false => exact steady
  cases forceClear with
  | true => exact drawn steady.marked true
  | false => exact drawn steady _

theorem drawFrame_kept (steady : app.Steady) (frame : Frame) : Ensures AnyPanic (app.drawFrame frame) Kept := by
  cases frame with
  | full => exact .inr (renderAll_steady steady true)
  | output => exact .inr (renderAll_steady steady false)
  | input =>
    have still : ∀ pane : PaneState, pane.markAll.shape = pane.shape := fun _ => rfl
    exact (steady.onActivePane still).bind fun next marked => .inr (renderAll_steady marked false)

theorem step_kept (event : LoopEvent) (app : EventLoop R) (keeps : keepsSizes event app) (kept : app.Kept) :
    Ensures AnyPanic (step event app) Kept := by
  unfold step
  refine .ite (fun exited => .inl exited) fun inside => ?_
  have steady := kept.resolve_left inside
  cases event with
  | output id bytes => exact drainOutput_kept steady keeps
  | died ids => exact removeDied_kept steady keeps
  | command command => exact runCommand_kept steady keeps
  | frame frame => exact drawFrame_kept steady frame

theorem start_steady (cols rows : UInt16) : (start cols rows : EventLoop R).Steady := by
  have plain : (Tab.new 0 "Tab 1" cols.toNat (rows.toNat - 1) : Tab R).Plain := .new ..
  have fits := new_fits cols.toNat (rows.toNat - 1)
  have whole : AllWhole (AList.singleton 0 (PaneState.new cols.toNat (rows.toNat - 1)) : Keyed.Map PaneId PaneState) := by
    intro id pane stored
    exact (Keyed.lookup_singleton stored).2 ▸ ⟨_, _, fits⟩
  have shown : Displayed (AList.singleton 0 (PaneState.new cols.toNat (rows.toNat - 1)))
      (Tab.new 0 "Tab 1" cols.toNat (rows.toNat - 1) : Tab R).computePositions :=
    List.forall_mem_singleton.mpr ⟨_, rfl, fits⟩
  refine ⟨⟨fun tab member => ?_, whole, _, rfl, plain.displayed_listed shown⟩, fun _ => ⟨_, rfl, shown⟩⟩
  exact List.mem_singleton.mp member ▸ plain

theorem Steady.sizesAgree (steady : app.Steady) (free : app.borderDrag = none) : app.SizesAgree := by
  intro tab active placed member
  obtain ⟨pane, stored, fits⟩ := steady.displayed active free placed member
  exact ⟨pane, stored, fits.screen.grid.1, fits.screen.grid.2, fits.damage⟩

theorem frames_agree (cols rows : UInt16) (events : List LoopEvent)
    (keeps : Along step keepsSizes events (start cols rows : EventLoop R)) :
    Along step (fun event app => (∃ frame, event = .frame frame) -> app.exited = false -> app.borderDrag = none ->
      app.SizesAgree) events (start cols rows : EventLoop R) := by
  have through := throughout_of_along step_kept keeps (.inr (start_steady cols rows))
  refine through.along fun event app kept _ inside free => ?_
  exact (kept.resolve_left (by simp [inside])).sizesAgree free

theorem frames_agree_split : Along step (fun event app => (∃ frame, event = .frame frame) -> app.exited = false ->
    app.borderDrag = none -> app.SizesAgree)
    [.command (.splitPane .vertical), .command (.resize 100 30), .frame .input] (start 80 24 : EventLoop Rat) := by
  refine frames_agree 80 24 _ ⟨fun tab active => .inl ?_, ensures_any_iff.mpr fun _ _ => ?_⟩
  next =>
    obtain rfl := Option.some.inj active
    rfl
  next =>
    refine ⟨fun _ _ => trivial, ensures_any_iff.mpr fun _ _ => ?_⟩
    exact ⟨fun _ _ => trivial, ensures_any_iff.mpr fun _ _ => trivial⟩

instance (app : EventLoop R) : Decidable app.SizesAgree :=
  inferInstanceAs (Decidable (∀ tab ∈ app.session.tabs[app.session.activeTab]?, ∀ placed ∈ tab.computePositions,
    ∃ pane ∈ app.panes.lookup placed.1, pane.screen.cols = placed.2.cols ∧ pane.screen.rows = placed.2.rows ∧
      pane.damage.dirtyRows.length = placed.2.rows))

def dragging : List LoopEvent :=
  [.command (.splitPane .vertical),
    .command (.startBorderDrag { paneId := 0, vertical := true, lastCol := 3, lastRow := 0 }),
    .command (.continueBorderDrag 5 0)]

/-- While the border is being dragged the panes are drawn in their old sizes. -/
theorem border_drag_draws_old_sizes : ¬ ∀ (cols rows : UInt16) (events : List LoopEvent),
    Along step (fun event app => (∃ frame, event = .frame frame) -> app.exited = false -> app.SizesAgree) events
      (start cols rows : EventLoop Rat) := by
  intro all
  have drawn := ((along_append step _ dragging [.frame .input] _).mp (all 8 3 _)).2
  have differs : (run step dragging (start 8 3 : EventLoop Rat)).toOption.any fun app =>
      !app.exited && !decide app.SizesAgree := by decide +kernel
  cases result : run step dragging (start 8 3 : EventLoop Rat) with
  | error panic =>
    rw [result] at differs
    cases differs
  | ok app =>
    rw [result] at differs drawn
    simp only [Except.toOption, Option.any_some, Bool.and_eq_true, Bool.not_eq_eq_eq_not, Bool.not_true,
      decide_eq_false_iff_not] at differs
    exact differs.2 (drawn.1 ⟨_, rfl⟩ differs.1)

end EventLoop

end Emux
