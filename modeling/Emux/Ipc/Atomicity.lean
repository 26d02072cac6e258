import Emux.Ipc.Handler

set_option autoImplicit false

/-!
# Replies that match what was done

An error reply says that session and pane store are as before, a success that the tiled panes and the keys of the
store have changed alike. The session is changed before the pane store, and neither change is taken back.
-/

namespace Emux

open Checked

variable {R S P : Type} [Ratio R]

namespace Session

def Tiled (session : Session R) (id : PaneId) : Prop :=
  ∃ tab, session.tabs[session.activeTab]? = some tab ∧ id ∈ tab.panes

variable {session : Session R} {tab : Tab R}

omit [Ratio R] in
theorem tiled_iff (active : session.tabs[session.activeTab]? = some tab) (id : PaneId) :
    session.Tiled id ↔ id ∈ tab.panes := by
  constructor
  next =>
    rintro ⟨other, is, tiled⟩
    obtain rfl := Option.some.inj (active.symm.trans is)
    exact tiled
  next => exact fun tiled => ⟨tab, active, tiled⟩

omit [Ratio R] in
theorem tiled_setCurrent (active : session.tabs[session.activeTab]? = some tab) (next : Tab R) (id : PaneId) :
    (session.setCurrent next).Tiled id ↔ id ∈ next.panes :=
  tiled_iff (List.getElem?_set_self (List.getElem?_eq_some_iff.mp active).1) id

omit [Ratio R] in
theorem setCurrent_self (active : session.tabs[session.activeTab]? = some tab) : session.setCurrent tab = session := by
  obtain ⟨inside, rfl⟩ := List.getElem?_eq_some_iff.mp active
  rw [setCurrent, List.set_getElem_self]

omit [Ratio R] in
theorem setCurrent_inj (active : session.tabs[session.activeTab]? = some tab) {next : Tab R}
    (same : session.setCurrent next = session) : next = tab := by
  have tabs := congrArg (fun session : Session R => session.tabs[session.activeTab]?) same
  have set : (session.setCurrent next).tabs[(session.setCurrent next).activeTab]? = some next :=
    List.getElem?_set_self (List.getElem?_eq_some_iff.mp active).1
  exact Option.some.inj (set.symm.trans (tabs.trans active))

theorem tiled_resize (session : Session R) (cols rows : Nat) (id : PaneId) :
    (session.resize cols rows).Tiled id ↔ session.Tiled id := by
  unfold Tiled resize
  simp only [List.getElem?_map, Option.map_eq_some_iff]
  constructor
  next =>
    rintro ⟨_, ⟨tab, active, rfl⟩, tiled⟩
    exact ⟨tab, active, (Tab.mem_resizeAll ..).mp tiled⟩
  next =>
    rintro ⟨tab, active, tiled⟩
    exact ⟨_, ⟨tab, active, rfl⟩, (Tab.mem_resizeAll ..).mpr tiled⟩

end Session

namespace Tab

theorem splitAt_nextPaneId (tab : Tab R) (target : PaneId) (direction : SplitDirection) (cols rows : Nat) :
    (tab.splitAt target direction cols rows).nextPaneId = tab.nextPaneId + 1 :=
  (grows_splitAt tab target direction cols rows).nextPaneId

theorem closePane_refused {tab : Tab R} {id : PaneId} (refused : (tab.closePane id).1 = false) :
    (tab.closePane id).2 = tab ∧ ¬ (1 < tab.paneCount ∧ id ∈ tab.panes) := by
  unfold closePane at refused ⊢
  by_cases last : tab.paneCount ≤ 1
  next => exact ⟨by rw [if_pos last], by omega⟩
  next =>
    by_cases absent : id ∉ tab.panes
    next => exact ⟨by rw [if_neg last, if_pos absent], fun both => absent both.2⟩
    next => rw [if_neg last, if_neg absent] at refused; cases refused

theorem mem_closePane {tab : Tab R} {id : PaneId} (closed : (tab.closePane id).1 = true) (other : PaneId) :
    (other ∈ (tab.closePane id).2.panes ↔ other ≠ id ∧ other ∈ tab.panes) ∧ 1 < tab.paneCount ∧ id ∈ tab.panes := by
  have several : 1 < tab.paneCount := by
    by_contra last
    rw [closePane, if_pos (by omega)] at closed
    cases closed
  have present : id ∈ tab.panes := by
    by_contra absent
    rw [closePane, if_neg (by omega), if_pos absent] at closed
    cases closed
  refine ⟨?_, several, present⟩
  rw [AList.mem_keys, (closePane_panes id several).1, ← AList.keys_erase, ← AList.mem_keys, AList.mem_erase]

omit [Ratio R] in
theorem focusPane_panes (tab : Tab R) (id : PaneId) : (tab.focusPane id).2.panes = tab.panes := by
  unfold focusPane
  split
  next => rfl
  next =>
    split
    next =>
      unfold bringFloatingToFront restack
      split <;> rfl
    next => rfl

omit [Ratio R] in
theorem focusPane_refused {tab : Tab R} {id : PaneId} (refused : (tab.focusPane id).1 = false) :
    (tab.focusPane id).2 = tab := by
  unfold focusPane at refused ⊢
  split at refused
  next => cases refused
  next absent =>
    rw [if_neg absent]
    split at refused
    next => cases refused
    next => rfl

theorem resizePane_keys (tab : Tab R) (id : PaneId) (direction : ResizeDirection) (amount : Int) :
    (tab.resizePane id direction amount).2.panes.keys = tab.panes.keys := by
  rcases resizePane_cases tab id direction amount with refused | ⟨delta, adjusted⟩
  next => rw [refused]
  next =>
    rw [adjusted]
    rcases adjustRatio_cases tab id (resizeAxis direction) delta with kept | ⟨layout, -, changed⟩
    next => rw [kept]
    next =>
      rw [changed]
      exact keys_syncPaneSizes _

theorem resizeListed_keys (tab : Tab R) (id : PaneId) (cols rows : UInt16) (pos : PanePosition) :
    Ensures AnyPanic (tab.resizeListed id cols rows pos) fun next => next.panes.keys = tab.panes.keys := by
  unfold resizeListed
  refine ensures_after _ fun dc => ?_
  refine ensures_after _ fun dr => ?_
  refine ensures_ok ?_
  split <;> split <;> simp only [resizePane_keys]

end Tab

structure Atomic (session : Session R) (store : Keyed.Map PaneId P) (result : IpcResult × Session R × Keyed.Map PaneId P) :
    Prop where
  error : ∀ message, result.1.response = .error message -> result.2 = (session, store)
  success : (result.1.response = .ack ∨ ∃ id, result.1.response = .spawnResult id) -> ∀ id,
    (result.2.1.Tiled id ∧ ¬ session.Tiled id ↔ id ∈ result.2.2 ∧ id ∉ store) ∧
      (session.Tiled id ∧ ¬ result.2.1.Tiled id ↔ id ∈ store ∧ id ∉ result.2.2)

variable {session next : Session R} {store : Keyed.Map PaneId P} {tab : Tab R}

omit [Ratio R] in
theorem atomic_kept (response : ServerMessage) : Atomic session store (.reply response, session, store) :=
  ⟨fun _ _ => rfl, fun _ _ => by simp⟩

omit [Ratio R] in
theorem atomic_ack {result : IpcResult} (acked : result.response = .ack)
    (same : ∀ id, next.Tiled id ↔ session.Tiled id) : Atomic session store (result, next, store) :=
  ⟨fun message failed => (by cases acked.symm.trans failed), fun _ id => by simp [same id]⟩

/-- The split of the active pane happens and pane and terminal of the new id come together, or it is refused and no
fullscreen is given up for it. -/
def splitAtomic (pty : Pty) (store : Keyed.Map PaneId P) (tab : Tab R) (direction : SplitDirection) : Prop :=
  if tab.canSplitActive direction then
    tab.nextPaneId + 1 < 2 ^ 32 -> pty.spawn = .ok () ∧ tab.nextPaneId ∉ store
  else tab.fullscreenPane = none

def atomicFor (pty : Pty) (store : Keyed.Map PaneId P) (tab : Tab R) : ClientMessage -> Prop
  | .splitPane direction _ => splitAtomic pty store tab direction
  | .spawnPane direction => splitAtomic pty store tab (spawnDirection direction)
  | .killPane id => 1 < tab.paneCount -> id ∈ tab.panes -> id ∈ store
  | _ => True

variable {pty : Pty} {capture : PaneId -> P -> Fallible (String × P)} {fresh : Nat -> Nat -> P}

theorem split_spawned_iff (active : session.tabs[session.activeTab]? = some tab) (unused : tab.nextPaneId ∉ tab.panes)
    (target : PaneId) (direction : SplitDirection) (cols rows : Nat) (pane : P) :
    Atomic session store (.replyWithSync (.spawnResult tab.nextPaneId),
        session.setCurrent (tab.splitAt target direction cols rows), store.insert tab.nextPaneId pane) ↔
      tab.nextPaneId ∉ store := by
  constructor
  next =>
    intro atomic
    have gained := (atomic.success (.inr ⟨_, rfl⟩) tab.nextPaneId).1
    rw [Session.tiled_setCurrent active, Session.tiled_iff active, Tab.mem_splitAt] at gained
    exact (gained.mp ⟨.inl rfl, unused⟩).2
  next =>
    intro missing
    refine ⟨nofun, fun _ id => ?_⟩
    rw [Session.tiled_setCurrent active, Session.tiled_iff active, Tab.mem_splitAt, AList.mem_insert]
    by_cases new : id = tab.nextPaneId
    next =>
      subst new
      simp [missing, unused]
    next => simp [new]

theorem splitAndSpawn_atomic_iff (active : session.tabs[session.activeTab]? = some tab)
    (unused : tab.nextPaneId ∉ tab.panes) (direction : SplitDirection) :
    Ensures AnyPanic (splitAndSpawn (storeAccess pty capture fresh) direction session store) (Atomic session store) ↔
      splitAtomic pty store tab direction := by
  unfold splitAndSpawn
  rw [Session.current, get_ok active, ok_bind, splitAtomic]
  -- The layout is split before the spawn, which may fail, and nothing is taken back.
  by_cases can : tab.canSplitActive direction = true
  next =>
    rw [if_pos can]
    by_cases room : tab.nextPaneId + 1 < 2 ^ 32
    next =>
      obtain ⟨target, cols, rows, -, -, split⟩ := Tab.splitPane_happens can room
      rw [split, ok_bind]
      simp only [storeAccess]
      cases pty.spawn with
      | ok _ =>
        refine (split_spawned_iff active unused target direction cols rows _).trans ?_
        exact ⟨fun missing _ => ⟨rfl, missing⟩, fun both => (both room).2⟩
      | error e =>
        refine iff_of_false (fun atomic => ?_) fun both => absurd (both room).1 (by simp)
        have same := congrArg Prod.fst (atomic.error _ rfl)
        have next := congrArg Tab.nextPaneId (Session.setCurrent_inj active same)
        exact absurd ((Tab.splitAt_nextPaneId ..).symm.trans next) (Nat.succ_ne_self _)
    next =>
      rw [Tab.splitPane_full can room]
      exact iff_of_true trivial fun fits => absurd fits room
  next =>
    rw [if_neg can, Tab.splitPane_refused (by simpa using can), ok_bind]
    constructor
    next =>
      intro atomic
      have same := congrArg Prod.fst (atomic.error _ rfl)
      exact (congrArg Tab.fullscreenPane (Session.setCurrent_inj active same)).symm
    next =>
      intro shown
      have kept : ({ tab with fullscreenPane := none } : Tab R) = tab := by rw [← shown]
      simp only [kept, Session.setCurrent_self active]
      exact atomic_kept _

theorem killPane_atomic_iff (active : session.tabs[session.activeTab]? = some tab) (id : PaneId) :
    Ensures AnyPanic (handleIpc (storeAccess pty capture fresh) session store (.killPane id)) (Atomic session store) ↔
      atomicFor pty store tab (.killPane id) := by
  simp only [handleIpc, Session.current, get_ok active, ok_bind, atomicFor]
  -- Whether the layout gives the pane up; the store is asked only then, and its answer is dropped.
  cases result : tab.closePane id with
  | mk closed next =>
    cases closed with
    | false =>
      obtain ⟨same, kept⟩ := Tab.closePane_refused (congrArg Prod.fst result)
      obtain rfl : next = tab := (congrArg Prod.snd result).symm.trans same
      simp only [Session.setCurrent_self active]
      exact iff_of_true (atomic_kept _) fun several tiled => absurd ⟨several, tiled⟩ kept
    | true =>
      have closing := fun other => Tab.mem_closePane (congrArg Prod.fst result) other
      simp only [result] at closing
      have lost : ∀ other, (session.setCurrent next).Tiled other ↔ other ≠ id ∧ session.Tiled other := fun other => by
        rw [Session.tiled_setCurrent active, Session.tiled_iff active, (closing other).1]
      constructor
      next =>
        intro atomic several tiled
        have gone := (atomic.success (.inl rfl) id).2
        rw [lost, Session.tiled_iff active] at gone
        exact (gone.mp ⟨tiled, fun both => both.1 rfl⟩).1
      next =>
        intro there
        have stored := there (closing id).2.1 (closing id).2.2
        refine ⟨fun _ refused => absurd refused (by simp [IpcResult.replyWithSync]), fun _ other => ?_⟩
        rw [lost, Session.tiled_iff active, storeAccess, AList.mem_erase]
        by_cases this : other = id
        next =>
          subst this
          simp [stored, (closing other).2.2]
        next => simp [this]

theorem handleIpc_atomic_iff (active : session.tabs[session.activeTab]? = some tab)
    (unused : tab.nextPaneId ∉ tab.panes) (msg : ClientMessage) :
    Ensures AnyPanic (handleIpc (storeAccess pty capture fresh) session store msg) (Atomic session store) ↔
      atomicFor pty store tab msg := by
  have current : session.current = .ok tab := get_ok active
  have always {x : Fallible (IpcResult × Session R × Keyed.Map PaneId P)} (holds : Ensures AnyPanic x (Atomic session store)) :
      Ensures AnyPanic x (Atomic session store) ↔ True := iff_of_true holds trivial
  -- A split and a closed pane concern the layout and the store; every other message leaves the two in step.
  cases msg with
  | splitPane direction size => exact splitAndSpawn_atomic_iff active unused direction
  | spawnPane direction => exact splitAndSpawn_atomic_iff active unused (spawnDirection direction)
  | killPane id => exact killPane_atomic_iff active id
  | ping | getVersion | attach | detach | killSession | keyInput => exact always (ensures_ok (atomic_kept _))
  | resize cols rows => exact always (ensures_ok (atomic_ack rfl fun id => session.tiled_resize _ _ id))
  | listSessions | listPanes =>
    refine always ?_
    simp only [handleIpc, current, ok_bind]
    exact atomic_kept _
  | getPaneInfo id =>
    refine always ?_
    simp only [handleIpc, current, ok_bind]
    cases tab.pane id with
    | none => exact atomic_kept _
    | some pane => exact atomic_kept _
  | capturePane id =>
    refine always ?_
    simp only [handleIpc, storeAccess]
    cases store.lookup id with
    | none => exact atomic_kept _
    | some pane =>
      cases read : capture id pane with
      | error panic =>
        simp only [read, error_bind]
        trivial
      | ok captured =>
        simp only [read, ok_bind]
        refine ⟨nofun, fun done => ?_⟩
        rcases done with done | ⟨_, done⟩ <;> cases done
  | sendKeys id keys =>
    refine always ?_
    simp only [handleIpc]
    cases (storeAccess pty capture fresh).sendKeys id keys.toUTF8.data.toList store with
    | ok => exact atomic_kept _
    | error message => exact atomic_kept _
  | setPaneTitle id title =>
    refine always ?_
    simp only [handleIpc, current, ok_bind]
    cases tab.pane id with
    | none => exact atomic_kept _
    | some pane =>
      refine atomic_ack rfl fun other => ?_
      rw [Session.tiled_setCurrent active, Session.tiled_iff active]
      exact Keyed.mem_modify ..
  | focusPane id =>
    refine always ?_
    simp only [handleIpc, current, ok_bind]
    cases result : tab.focusPane id with
    | mk focused next =>
      cases focused with
      | false =>
        obtain rfl : next = tab := (congrArg Prod.snd result).symm.trans (Tab.focusPane_refused (congrArg Prod.fst result))
        simp only [Session.setCurrent_self active]
        exact atomic_kept _
      | true =>
        refine atomic_ack rfl fun other => ?_
        have same := tab.focusPane_panes id
        rw [result] at same
        rw [Session.tiled_setCurrent active, Session.tiled_iff active, same]
  | resizePane id cols rows =>
    refine always ?_
    simp only [handleIpc, current, ok_bind]
    cases tab.pane id with
    | none => exact atomic_kept _
    | some pane =>
      cases tab.listed id with
      | none => exact atomic_kept _
      | some pos =>
        refine (tab.resizeListed_keys id cols rows pos).bind fun next same => atomic_ack rfl fun other => ?_
        rw [Session.tiled_setCurrent active, Session.tiled_iff active, AList.mem_keys, same, ← AList.mem_keys]

theorem handleIpc_atomic_iff_split :
    let session : Session Rat := Session.new "main" 80 24
    let store : Keyed.Map PaneId Terminal := AList.singleton 0 (Terminal.new 80 24)
    let pty : Pty := { output := fun _ => [], write := fun _ _ => .ok (), spawn := .ok () }
    Ensures AnyPanic (handleIpc (daemonPanes pty) session store (.splitPane .vertical none)) (Atomic session store) ↔
      atomicFor pty store (Tab.new 0 "Tab 1" 80 24 : Tab Rat) (.splitPane .vertical none) :=
  handleIpc_atomic_iff rfl (by decide) _

/-- Where no terminal can be spawned, the reply is an error and the pane stays in the layout. -/
theorem failed_spawn_keeps_pane :
    let session : Session Rat := Session.new "main" 80 24
    let store : Keyed.Map PaneId Terminal := AList.singleton 0 (Terminal.new 80 24)
    let pty : Pty := { output := fun _ => [], write := fun _ _ => .ok (), spawn := .error "out of ptys" }
    ¬ Ensures AnyPanic (handleIpc (daemonPanes pty) session store (.splitPane .vertical none)) (Atomic session store) := by
  intro session store pty atomic
  have both := (@splitAndSpawn_atomic_iff Rat _ _ session store _ pty (daemonCapture pty) Terminal.new rfl (by decide) _).mp atomic
  exact nomatch (both (by decide)).1

end Emux
