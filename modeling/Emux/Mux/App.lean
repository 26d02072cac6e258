import Emux.Mux.Identity
import Mathlib.Data.List.Nodup

set_option autoImplicit false

/-!
# The application's panes

The application keeps the state of every pane of its session in one map by pane id.
-/

namespace Emux

open Checked

structure App (R P : Type) where
  session : Session R
  panes : Keyed.Map PaneId P

namespace App

variable {R P : Type}

def dead (isAlive : P -> Bool) (app : App R P) : List PaneId :=
  app.panes.keys.filter fun id => (app.panes.lookup id).any fun state => !isAlive state

theorem dead_nodup (isAlive : P -> Bool) (app : App R P) : (app.dead isAlive).Nodup :=
  app.panes.keys_nodup.filter _

theorem mem_of_dead {isAlive : P -> Bool} {app : App R P} {id : PaneId} (died : id ∈ app.dead isAlive) : id ∈ app.panes :=
  AList.mem_keys.mpr (List.mem_of_mem_filter died)

def Matched (app : App R P) : Prop := ∀ id, id ∈ app.panes ↔ ∃ tab ∈ app.session.tabs, tab.Owns id

structure Handled (isAlive : P -> Bool) (app : App R P) (result : Bool × App R P) : Prop where
  count : result.2.session.tabs.length = app.session.tabs.length
  tabs : ∀ (index : Nat) (tab next : Tab R), app.session.tabs[index]? = some tab ->
    result.2.session.tabs[index]? = some next -> ∀ id, next.Owns id ↔ tab.Owns id ∧ id ∉ app.dead isAlive
  panes : ∀ id, id ∈ result.2.panes ↔ id ∈ app.panes ∧ id ∉ app.dead isAlive
  matched : result.2.Matched
  quits : result.1 = true -> ∀ tab ∈ result.2.session.tabs, ∀ id, tab.Owns id -> id ∈ app.dead isAlive

theorem mem_panes_of_positive {tab : Tab R} (positive : 0 < tab.paneCount) : ∃ id, id ∈ tab.panes := by
  obtain ⟨id, member⟩ := List.exists_mem_of_length_pos positive
  exact ⟨id, AList.mem_keys.mpr member⟩

theorem not_handled_of_left {isAlive : P -> Bool} {app next : App R P} {tab : Tab R}
    (member : tab ∈ next.session.tabs) (positive : 0 < tab.paneCount) : ¬ Handled isAlive app (true, next) := by
  -- Quitting with a pane left in some tab is not how dead panes are to be handled.
  intro handled
  obtain ⟨id, there⟩ := mem_panes_of_positive positive
  obtain ⟨index, inside, is⟩ := List.getElem_of_mem member
  have before : index < app.session.tabs.length := handled.count ▸ inside
  have owned : tab.Owns id := .inl there
  have kept := (handled.tabs index _ tab (List.getElem?_eq_getElem before)
    ((List.getElem?_eq_getElem inside).trans (congrArg some is)) id).mp owned
  exact kept.2 (handled.quits rfl tab member id owned)

variable [Ratio R]

/-- The loop of `handle_dead_panes` over the dead panes, which it may leave early. -/
def removeDead : List PaneId -> App R P -> Fallible (Bool × App R P)
  | [], app => .ok (app.panes.keys.isEmpty, app)
  | id :: rest, app => do
    let app := { app with panes := app.panes.erase id }
    let tab <- get app.session.tabs app.session.activeTab
    if 1 < tab.paneCount then
      let tabs <- set app.session.tabs app.session.activeTab (tab.closePane id).2
      removeDead rest { app with session := { app.session with tabs } }
    else .ok (true, app)

/-- Returns whether to quit. -/
def handleDeadPanes (isAlive : P -> Bool) (app : App R P) : Fallible (Bool × App R P) :=
  removeDead (app.dead isAlive) app

theorem removeDead_cases (ids : List PaneId) {app : App R P} {tab : Tab R}
    (active : app.session.tabs[app.session.activeTab]? = some tab) (tiled : 0 < tab.paneCount) :
    (tab.paneCount ≤ ids.length ∧
      ∃ next, removeDead ids app = .ok (true, next) ∧ ∃ tab ∈ next.session.tabs, 0 < tab.paneCount) ∨
    ∃ (next : Tab R) (panes : Keyed.Map PaneId P),
      removeDead ids app = .ok (panes.keys.isEmpty, { session := { app.session with
        tabs := app.session.tabs.set app.session.activeTab next }, panes }) ∧
      panes.keys = app.panes.keys.diff ids ∧ next.panes.keys = tab.panes.keys.diff ids ∧
      next.floatingPanes = tab.floatingPanes ∧ 0 < next.paneCount := by
  -- Either the loop comes to a dead pane while the active tab is down to its last one, or it closes all of them.
  induction ids generalizing app tab with
  | nil =>
    obtain ⟨inside, rfl⟩ := List.getElem?_eq_some_iff.mp active
    refine .inr ⟨_, app.panes, ?_, rfl, rfl, rfl, tiled⟩
    rw [removeDead, List.set_getElem_self]
  | cons id rest ih =>
    have inside := (List.getElem?_eq_some_iff.mp active).1
    by_cases several : 1 < tab.paneCount
    next =>
      obtain ⟨keys, floating⟩ := Tab.closePane_panes id several
      have fewer : tab.paneCount ≤ (tab.closePane id).2.paneCount + 1 := by
        have erased := List.le_length_erase (a := id) (l := tab.panes.keys)
        rw [← keys] at erased
        exact Nat.le_add_of_sub_le erased
      have now : removeDead (id :: rest) app = removeDead rest { app with
          panes := app.panes.erase id
          session := { app.session with tabs := app.session.tabs.set app.session.activeTab (tab.closePane id).2 } } := by
        rw [removeDead, get_ok active, ok_bind, if_pos several, set_ok _ inside, ok_bind]
      rw [now]
      rcases @ih { app with
          panes := app.panes.erase id
          session := { app.session with tabs := app.session.tabs.set app.session.activeTab (tab.closePane id).2 } }
        _ (List.getElem?_set_self inside) (by omega) with ⟨few, stopped⟩ | ⟨next, panes, ran, left, kept, same, positive⟩
      next => exact .inl ⟨by rw [List.length_cons]; omega, stopped⟩
      next =>
        refine .inr ⟨next, panes, ?_, ?_, ?_, same.trans floating, positive⟩
        next => rw [ran, List.set_set]
        next => rw [left, AList.keys_erase, ← List.diff_cons]
        next => rw [kept, keys, ← List.diff_cons]
    next =>
      refine .inl ⟨by rw [List.length_cons]; omega, { app with panes := app.panes.erase id }, ?_, tab,
        List.mem_of_getElem? active, tiled⟩
      rw [removeDead, get_ok active, ok_bind, if_neg several]

structure Closed (isAlive : P -> Bool) (app : App R P) (tab : Tab R) (next : Tab R) (panes : Keyed.Map PaneId P) : Prop where
  left : panes.keys = app.panes.keys.diff (app.dead isAlive)
  kept : next.panes.keys = tab.panes.keys.diff (app.dead isAlive)
  floating : next.floatingPanes = tab.floatingPanes
  positive : 0 < next.paneCount

namespace Closed

variable {isAlive : P -> Bool} {app : App R P} {tab next : Tab R} {panes : Keyed.Map PaneId P}

omit [Ratio R] in
theorem mem_panes (closed : Closed isAlive app tab next panes) (id : PaneId) :
    id ∈ panes ↔ id ∈ app.panes ∧ id ∉ app.dead isAlive := by
  rw [AList.mem_keys, closed.left, app.panes.keys_nodup.mem_sdiff_iff, ← AList.mem_keys]

omit [Ratio R] in
theorem owns (closed : Closed isAlive app tab next panes) (id : PaneId) :
    next.Owns id ↔ (id ∈ tab.panes ∧ id ∉ app.dead isAlive) ∨ id ∈ tab.floatingPaneIds := by
  unfold Tab.Owns Tab.floatingPaneIds
  rw [closed.floating, AList.mem_keys, closed.kept, tab.panes.keys_nodup.mem_sdiff_iff, ← AList.mem_keys]

omit [Ratio R] in
theorem count (closed : Closed isAlive app tab next panes) (tiled : ∀ id ∈ app.dead isAlive, id ∈ tab.panes) :
    (app.dead isAlive).length + next.paneCount = tab.paneCount := by
  -- Every dead pane that was tiled in the active tab has made room there.
  have perm : (app.dead isAlive ++ tab.panes.keys.diff (app.dead isAlive)).Perm tab.panes.keys :=
    List.subperm_append_diff_self_of_count_le fun id died => by
      rw [List.count_eq_one_of_mem (app.dead_nodup isAlive) died,
        List.count_eq_one_of_mem tab.panes.keys_nodup (AList.mem_keys.mp (tiled id died))]
  have lengths := perm.length_eq
  rw [List.length_append, ← closed.kept] at lengths
  exact lengths

end Closed

/-- The dead panes that `handle_dead_panes` finds where it looks for them: tiled in the active tab and in no other
tab, and not all of that tab's panes. -/
def DeadInActive (isAlive : P -> Bool) (app : App R P) (tab : Tab R) : Prop :=
  (∀ id ∈ app.dead isAlive, id ∈ tab.panes ∧
    ∀ other ∈ app.session.tabs.eraseIdx app.session.activeTab, ¬ other.Owns id) ∧
  (app.dead isAlive).length < tab.paneCount

omit [Ratio R] in
theorem handled_of_closed {isAlive : P -> Bool} {app : App R P} {tab next : Tab R} {panes : Keyed.Map PaneId P}
    (matched : app.Matched) (active : app.session.tabs[app.session.activeTab]? = some tab)
    (apart : ∀ id ∈ tab.floatingPaneIds, id ∉ tab.panes) (closed : Closed isAlive app tab next panes)
    (within : app.DeadInActive isAlive tab) :
    Handled isAlive app (panes.keys.isEmpty, { session := { app.session with
      tabs := app.session.tabs.set app.session.activeTab next }, panes }) := by
  have inside := (List.getElem?_eq_some_iff.mp active).1
  have owns : ∀ id, next.Owns id ↔ tab.Owns id ∧ id ∉ app.dead isAlive := by
    intro id
    rw [closed.owns id, Tab.Owns, or_and_right]
    refine or_congr_right (iff_self_and.mpr fun floats died => ?_)
    exact apart id floats (within.1 id died).1
  -- Only the active tab has changed, and its dead panes belong to no other one.
  have tabs : ∀ (index : Nat) (before after : Tab R), app.session.tabs[index]? = some before ->
      (app.session.tabs.set app.session.activeTab next)[index]? = some after ->
      ∀ id, after.Owns id ↔ before.Owns id ∧ id ∉ app.dead isAlive := by
    intro index before after was is id
    by_cases here : app.session.activeTab = index
    next =>
      subst here
      rw [active] at was
      rw [List.getElem?_set_self inside] at is
      obtain rfl := Option.some.inj was
      obtain rfl := Option.some.inj is
      exact owns id
    next =>
      rw [List.getElem?_set_ne here, was] at is
      obtain rfl := Option.some.inj is
      have other := List.mem_eraseIdx_iff_getElem?.mpr ⟨index, Ne.symm here, was⟩
      exact iff_self_and.mpr fun owned died => (within.1 id died).2 before other owned
  have still : App.Matched ({ session := { app.session with
      tabs := app.session.tabs.set app.session.activeTab next }, panes } : App R P) := by
    intro id
    rw [closed.mem_panes id, matched id]
    constructor
    next =>
      rintro ⟨⟨before, member, owned⟩, alive⟩
      obtain ⟨index, there, is⟩ := List.getElem_of_mem member
      have stays : index < (app.session.tabs.set app.session.activeTab next).length := by rwa [List.length_set]
      refine ⟨_, List.getElem_mem stays, ?_⟩
      exact (tabs index before _ (List.getElem?_eq_some_iff.mpr ⟨there, is⟩) (List.getElem?_eq_getElem stays) id).mpr
        ⟨owned, alive⟩
    next =>
      rintro ⟨after, member, owned⟩
      obtain ⟨index, there, is⟩ := List.getElem_of_mem member
      have was : index < app.session.tabs.length := by rwa [List.length_set] at there
      obtain ⟨before, alive⟩ := (tabs index _ after (List.getElem?_eq_getElem was)
        (List.getElem?_eq_some_iff.mpr ⟨there, is⟩) id).mp owned
      exact ⟨⟨_, List.getElem_mem was, before⟩, alive⟩
  obtain ⟨left, there⟩ := mem_panes_of_positive closed.positive
  have member : next ∈ app.session.tabs.set app.session.activeTab next := List.mem_set inside next
  refine ⟨List.length_set, tabs, closed.mem_panes, still, fun quit => ?_⟩
  have present := AList.mem_keys.mp ((still left).mpr ⟨next, member, .inl there⟩)
  rw [List.isEmpty_iff.mp quit] at present
  cases present

omit [Ratio R] in
theorem within_of_handled {isAlive : P -> Bool} {app : App R P} {tab next : Tab R} {panes : Keyed.Map PaneId P} {quit : Bool}
    (matched : app.Matched) (active : app.session.tabs[app.session.activeTab]? = some tab)
    (closed : Closed isAlive app tab next panes)
    (handled : Handled isAlive app (quit, { session := { app.session with
      tabs := app.session.tabs.set app.session.activeTab next }, panes })) : app.DeadInActive isAlive tab := by
  have inside := (List.getElem?_eq_some_iff.mp active).1
  -- The loop does not touch the other tabs, so a dead pane there would still be there.
  have elsewhere : ∀ id ∈ app.dead isAlive, ∀ other ∈ app.session.tabs.eraseIdx app.session.activeTab,
      ¬ other.Owns id := by
    intro id died other member owned
    obtain ⟨index, apart, found⟩ := List.mem_eraseIdx_iff_getElem?.mp member
    have same : (app.session.tabs.set app.session.activeTab next)[index]? = some other := by
      rw [List.getElem?_set_ne (Ne.symm apart), found]
    exact ((handled.tabs index other other found same id).mp owned).2 died
  have tiled : ∀ id ∈ app.dead isAlive, id ∈ tab.panes := by
    intro id died
    obtain ⟨owner, member, owned⟩ := (matched id).mp (mem_of_dead died)
    have here : tab.Owns id := by
      obtain ⟨index, there, is⟩ := List.getElem_of_mem member
      by_cases same : index = app.session.activeTab
      next =>
        subst same
        rw [List.getElem?_eq_getElem there, is] at active
        exact Option.some.inj active ▸ owned
      next =>
        have other := List.mem_eraseIdx_iff_getElem?.mpr
          ⟨index, same, List.getElem?_eq_some_iff.mpr ⟨there, is⟩⟩
        exact absurd owned (elsewhere id died owner other)
    have gone : ¬ next.Owns id := fun still =>
      ((handled.tabs _ tab next active (List.getElem?_set_self inside) id).mp still).2 died
    refine here.resolve_right fun floats => gone ?_
    exact (closed.owns id).mpr (.inr floats)
  refine ⟨fun id died => ⟨tiled id died, elsewhere id died⟩, ?_⟩
  have count := closed.count tiled
  have positive := closed.positive
  omega

theorem handled_iff {isAlive : P -> Bool} {app : App R P} {tab : Tab R} (matched : app.Matched)
    (active : app.session.tabs[app.session.activeTab]? = some tab) (arranged : tab.Arranged) :
    Ensures (fun _ => False) (app.handleDeadPanes isAlive) (Handled isAlive app) ↔ app.DeadInActive isAlive tab := by
  have tiled : 0 < tab.paneCount := by
    have counted : tab.paneCount = tab.layout.paneIds.length := arranged.tiles.size_eq
    rw [counted]
    exact List.length_pos_iff.mpr arranged.tiles.nonempty
  unfold handleDeadPanes
  rcases removeDead_cases (app.dead isAlive) active tiled with ⟨few, last, ran, left, member, positive⟩ |
    ⟨next, panes, ran, left, kept, floating, positive⟩
  next =>
    rw [ran]
    constructor
    next => exact fun handled => absurd handled (not_handled_of_left member positive)
    next => exact fun within => absurd within.2 (Nat.not_lt.mpr few)
  next =>
    rw [ran]
    have closed : Closed isAlive app tab next panes := ⟨left, kept, floating, positive⟩
    constructor
    next => exact within_of_handled matched active closed
    next => exact handled_of_closed matched active arranged.apart closed

def fresh : App Rat Bool where
  session := Session.new "main" 80 24
  panes := AList.singleton 0 true

theorem handled_iff_fresh :
    Ensures (fun _ => False) (fresh.handleDeadPanes id) (Handled id fresh) ↔
      fresh.DeadInActive id (Tab.new 0 "Tab 1" 80 24) := by
  refine handled_iff (fun other => ?_) rfl (Tab.new_sound 0 "Tab 1" 80 24).toArranged
  refine (Keyed.mem_singleton ..).trans ⟨?_, ?_⟩
  next =>
    rintro rfl
    exact ⟨_, List.mem_singleton_self _, .inl ((Keyed.mem_singleton ..).mpr rfl)⟩
  next =>
    rintro ⟨tab, member, owned⟩
    obtain rfl := List.mem_singleton.mp member
    exact owned.elim (Keyed.mem_singleton ..).mp (fun floats => by cases floats)

/-- Pane 0 of a new session is split and closed, then a tab is added: tab 1 has pane 1, which ends, and the active
tab 2 has pane 0. -/
def background : App Rat Bool where
  session :=
    { (Session.new "main" 80 24 : Session Rat) with
      tabs := [
        { (Tab.new 0 "Tab 1" 80 24 : Tab Rat) with
          layout := LayoutEngine.new.addPane 1
          panes := AList.singleton 1 (Pane.new 1 80 24)
          activePane := some 1
          nextPaneId := 2 },
        Tab.new 1 "Tab 2" 80 24]
      activeTab := 1
      nextTabId := 2 }
  panes := (AList.singleton 0 true).insert 1 false

example : run Session.step [.onActiveTab (.splitPane .vertical), .onActiveTab (.closePane 0), .newTab "Tab 2"]
    (Session.new "main" 80 24) = .ok background.session := rfl

/-- When a pane ends in a background tab, the application quits and leaves both panes in their tabs. -/
theorem background_death_quits :
    ¬ ∀ app : App Rat Bool, app.Matched -> Ensures (fun _ => False) (app.handleDeadPanes id) (Handled id app) := by
  intro every
  have matched : background.Matched := by
    intro other
    simp [background, Tab.Owns, Tab.new, Tab.floatingPaneIds, or_comm]
  have handled : Handled id background (true, { background with panes := AList.singleton 0 true }) :=
    every background matched
  have second : (Tab.new 1 "Tab 2" 80 24 : Tab Rat) ∈ background.session.tabs :=
    List.mem_cons_of_mem _ (List.mem_singleton_self _)
  exact absurd handled (not_handled_of_left second Nat.one_pos)

end App

end Emux
