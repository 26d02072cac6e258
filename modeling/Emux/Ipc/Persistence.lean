import Emux.Mux.TabList

set_option autoImplicit false

/-!
# Snapshots of sessions

A snapshot records the tabs of a session with their tiled panes. A session restored from one has the recorded
tabs, each with its first pane only. What is recorded and comes back is what a second snapshot shows.
-/

namespace Emux

open Checked

structure PaneSnapshot where
  id : PaneId
  title : String
  scrollback : List String
  workingDirectory : Option String
  scrollOffset : Nat
  deriving DecidableEq, Repr

structure TabSnapshot where
  name : String
  panes : List PaneSnapshot
  activePaneId : Option PaneId
  deriving DecidableEq, Repr

structure SessionSnapshot where
  name : String
  cols : Nat
  rows : Nat
  tabCount : Nat
  tabNames : List String
  tabs : List TabSnapshot
  activeTabIndex : Nat
  deriving DecidableEq, Repr

variable {R : Type} [Ratio R]

namespace Tab

def paneSnapshot (tab : Tab R) (id : PaneId) : Option PaneSnapshot :=
  (tab.panes.lookup id).map fun pane =>
    -- the working directory is for the caller to fill in
    { id, title := pane.title, scrollback := pane.scrollback, workingDirectory := none, scrollOffset := pane.scrollOffset }

def snapshot (tab : Tab R) : TabSnapshot where
  name := tab.name
  panes := tab.layout.paneIds.filterMap tab.paneSnapshot
  activePaneId := tab.activePane

def restorePane (tab : Tab R) (snap : PaneSnapshot) : Tab R :=
  let tab := if snap.title.isEmpty then tab else tab.updatePane snap.id (.setTitle snap.title)
  match snap.workingDirectory with
  | some path => tab.updatePane snap.id (.setWorkingDirectory path)
  | none => tab

end Tab

def snapshotFromSession (session : Session R) : SessionSnapshot where
  name := session.name
  cols := session.size.cols
  rows := session.size.rows
  tabCount := session.tabs.length
  tabNames := session.tabs.map Tab.name
  tabs := session.tabs.map Tab.snapshot
  activeTabIndex := session.activeTab

/-- `if let Some(tab) = session.tab_mut(index)` -/
def Session.updateTab (session : Session R) (index : Nat) (update : Tab R -> Tab R) : Session R :=
  { session with tabs := session.tabs.modify index update }

def sessionFromSnapshot (snap : SessionSnapshot) : Fallible (Session R) := do
  let session := Session.new snap.name snap.cols snap.rows
  let session :=
    match snap.tabNames.head? with
    | some first => session.updateTab 0 fun tab => tab.rename first
    | none => session
  let session <- (snap.tabNames.drop 1).foldlM
    (fun session name => (session.newTab name).map Prod.snd) session
  let session := snap.tabs.zipIdx.foldl
    (fun session (tabSnap, index) => session.updateTab index fun tab => tabSnap.panes.foldl Tab.restorePane tab) session
  .ok (if snap.activeTabIndex < session.tabs.length then (session.switchTab snap.activeTabIndex).2 else session)

namespace Session

/-- One of the tabs is active, and every tab was given an id of its own. -/
structure Counted (session : Session R) : Prop where
  active : session.activeTab < session.tabs.length
  given : session.tabs.length ≤ session.nextTabId
  fits : session.nextTabId < 2 ^ 32

variable {session : Session R}

omit [Ratio R] in
theorem Counted.selected (counted : session.Counted) {next : Session R} (selected : Selected session next) : next.Counted :=
  ⟨selected.active, selected.ids ▸ selected.tabs.length_le.trans counted.given, selected.ids ▸ counted.fits⟩

omit [Ratio R] in
theorem Counted.changed (counted : session.Counted) {tabs : List (Tab R)} (length : tabs.length = session.tabs.length)
    (size : PaneSize) : Counted { session with tabs, size } :=
  ⟨length ▸ counted.active, length ▸ counted.given, counted.fits⟩

omit [Ratio R] in
theorem takeTabId_counted (session : Session R) :
    Ensures AnyPanic session.takeTabId fun result =>
      result.2 = { session with nextTabId := session.nextTabId + 1 } ∧ session.nextTabId + 1 < 2 ^ 32 := by
  unfold takeTabId add
  by_cases fits : session.nextTabId + 1 < 2 ^ 32
  next =>
    rw [if_pos fits]
    exact ⟨rfl, fits⟩
  next =>
    rw [if_neg fits]
    trivial

theorem newTab_counted (counted : session.Counted) (name : String) :
    Ensures AnyPanic (session.newTab name) fun result => result.2.Counted := by
  unfold newTab
  refine (takeTabId_counted session).bind fun result taken => ?_
  obtain ⟨id, next⟩ := result
  obtain ⟨rfl, fits⟩ := taken
  have given := counted.given
  refine ⟨?_, ?_, fits⟩
  next => simp
  next =>
    rw [List.length_append]
    exact Nat.add_le_add_right given 1

theorem breakPaneToNewTab_counted (counted : session.Counted) (paneId : PaneId) :
    Ensures AnyPanic (session.breakPaneToNewTab paneId) fun result => result.2.Counted := by
  unfold breakPaneToNewTab
  refine ensures_after _ fun tab => ?_
  split
  next => exact counted
  next =>
    split
    next => exact counted
    next =>
      rw [set_ok _ counted.active, ok_bind]
      refine (takeTabId_counted _).bind fun result taken => ?_
      obtain ⟨id, next⟩ := result
      obtain ⟨rfl, fits⟩ := taken
      simp only
      split
      next => trivial
      next inside =>
        have given := counted.given
        have length : (session.tabs.set session.activeTab (tab.closePane paneId).2).length = session.tabs.length :=
          List.length_set
        refine ⟨?_, ?_, fits⟩
        next =>
          simp only
          rw [List.length_insertIdx_of_le_length (Nat.not_lt.mp inside)]
          omega
        next =>
          simp only
          rw [List.length_insertIdx_of_le_length (Nat.not_lt.mp inside)]
          omega

theorem onTab_counted (counted : session.Counted) (index : Nat) (op : TabOp) :
    Ensures AnyPanic (session.onTab index op) Counted := by
  unfold onTab
  split
  next => exact ensures_after _ fun next => counted.changed List.length_set _
  next => exact counted

theorem step_counted (counted : session.Counted) (op : SessionOp) : Ensures AnyPanic (session.step op) Counted := by
  cases op with
  | newTab name => exact (newTab_counted counted name).map
  | breakPaneToNewTab paneId => exact (breakPaneToNewTab_counted counted paneId).map
  | movePaneToNewTabRight =>
    refine Ensures.map (ensures_after _ fun tab => ?_)
    cases tab.activePane with
    | none => exact counted
    | some paneId => exact breakPaneToNewTab_counted counted paneId
  | resize cols rows => exact counted.changed (List.length_map _) _
  | onTab index op => exact onTab_counted counted index op
  | onActiveTab op => exact ensures_after _ fun _ => onTab_counted counted session.activeTab op
  | _ => exact ((step_selects rfl counted.active).weaken fun next => counted.selected).allow fun _ _ => trivial

theorem call_counted (counted : session.Counted) (call : SessionCall R) : Ensures AnyPanic (session.call call) Counted := by
  cases call with
  | op op => exact step_counted counted op
  | onTab index call =>
    simp only [Session.call]
    cases session.tabs[index]? with
    | none => exact counted
    | some tab => exact ensures_after _ fun next => counted.changed List.length_set _

theorem reachable_counted (calls : List (SessionCall R)) (name : String) (cols rows : Nat) :
    Ensures AnyPanic (run call calls (new name cols rows : Session R)) Counted := by
  have start : (new name cols rows : Session R).Counted := ⟨Nat.one_pos, Nat.le_refl 1, by simp [new]⟩
  have one : ∀ (call : SessionCall R) (session : Session R), True -> session.Counted ->
      Ensures AnyPanic (session.call call) Counted := fun call session _ counted => call_counted counted call
  exact run_ensures one (along_of_forall (fun _ _ => trivial) _) start

end Session

namespace Tab

/-- The only tiled pane the tab has is its first one; it is active, and nothing is above what it shows. -/
def Restorable (tab : Tab R) : Prop :=
  (tab.layout.paneIds.filter fun id => decide (id ∈ tab.panes)) = [0] ∧
    (∀ pane, tab.panes.lookup 0 = some pane -> pane.scrollback = [] ∧ pane.scrollOffset = 0) ∧ tab.activePane = some 0

def firstSnapshot (name title : String) : TabSnapshot where
  name
  panes := [{ id := 0, title, scrollback := [], workingDirectory := none, scrollOffset := 0 }]
  activePaneId := some 0

omit [Ratio R] in
theorem snapshot_filter (tab : Tab R) (ids : List PaneId) :
    ids.filterMap tab.paneSnapshot = (ids.filter fun id => decide (id ∈ tab.panes)).filterMap tab.paneSnapshot := by
  rw [List.filterMap_filter]
  refine List.filterMap_congr fun id _ => ?_
  by_cases tiled : id ∈ tab.panes
  next => simp [tiled]
  next => simp [tiled, paneSnapshot, AList.lookup_eq_none.mpr tiled]

omit [Ratio R] in
theorem snapshot_ids (tab : Tab R) (ids : List PaneId) :
    (ids.filterMap tab.paneSnapshot).map PaneSnapshot.id = ids.filter fun id => decide (id ∈ tab.panes) := by
  induction ids with
  | nil => rfl
  | cons id rest ih =>
    cases known : tab.panes.lookup id with
    | none =>
      have absent : id ∉ tab.panes := AList.lookup_eq_none.mp known
      simp [paneSnapshot, known, absent, ih]
    | some pane =>
      have tiled : id ∈ tab.panes := AList.lookup_isSome.mp (by rw [known]; rfl)
      simp [paneSnapshot, known, tiled, ih]

omit [Ratio R] in
theorem restorable_iff (tab : Tab R) : tab.Restorable ↔ ∃ title, tab.snapshot = firstSnapshot tab.name title := by
  constructor
  next =>
    rintro ⟨ids, empty, active⟩
    have tiled : 0 ∈ tab.panes := by
      have member : 0 ∈ tab.layout.paneIds.filter fun id => decide (id ∈ tab.panes) := ids ▸ List.mem_singleton_self 0
      simpa using (List.mem_filter.mp member).2
    obtain ⟨pane, known⟩ := Option.isSome_iff_exists.mp (AList.lookup_isSome.mpr tiled)
    obtain ⟨scrollback, offset⟩ := empty pane known
    refine ⟨pane.title, ?_⟩
    rw [snapshot, firstSnapshot, snapshot_filter, ids, active]
    simp [paneSnapshot, known, scrollback, offset]
  next =>
    rintro ⟨title, same⟩
    have panes := congrArg TabSnapshot.panes same
    have ids := (snapshot_ids tab tab.layout.paneIds).symm.trans (congrArg (List.map PaneSnapshot.id) panes)
    refine ⟨ids, fun pane known => ?_, congrArg TabSnapshot.activePaneId same⟩
    simp only [snapshot, firstSnapshot] at panes
    rw [snapshot_filter, ids] at panes
    simp only [List.map_cons, List.map_nil, firstSnapshot, List.filterMap_cons, List.filterMap_nil, paneSnapshot, known,
      Option.map_some, List.cons.injEq, PaneSnapshot.mk.injEq] at panes
    exact ⟨panes.1.2.2.1, panes.1.2.2.2.2⟩

structure First (tab : Tab R) (name : String) (pane : Pane) : Prop where
  name : tab.name = name
  layout : tab.layout = { root := some (.Leaf 0) }
  panes : tab.panes = AList.singleton 0 pane
  active : tab.activePane = some 0
  scrollback : pane.scrollback = []
  scrollOffset : pane.scrollOffset = 0

namespace First

variable {tab : Tab R} {name : String} {pane : Pane}

omit [Ratio R] in
theorem snapshot (first : tab.First name pane) : tab.snapshot = firstSnapshot name pane.title := by
  rw [Tab.snapshot, firstSnapshot, first.name, first.active, first.layout]
  have known : tab.panes.lookup 0 = some pane := by
    rw [first.panes]
    rfl
  simp [LayoutEngine.paneIds, LayoutNode.paneIds, paneSnapshot, known, first.scrollback, first.scrollOffset]

omit [Ratio R] in
theorem updatePane (first : tab.First name pane) (id : PaneId) (op : PaneOp) (scrollback : (pane.apply op).scrollback = [])
    (scrollOffset : (pane.apply op).scrollOffset = 0) :
    (tab.updatePane id op).First name (if 0 = id then pane.apply op else pane) where
  name := first.name
  layout := first.layout
  panes := by
    rw [Tab.updatePane, first.panes]
    rfl
  active := first.active
  scrollback := by
    split
    next => exact scrollback
    next => exact first.scrollback
  scrollOffset := by
    split
    next => exact scrollOffset
    next => exact first.scrollOffset

omit [Ratio R] in
theorem restorePane (first : tab.First name pane) (snap : PaneSnapshot) : ∃ pane, (tab.restorePane snap).First name pane := by
  have titled : ∃ pane, (if snap.title.isEmpty then tab else tab.updatePane snap.id (.setTitle snap.title)).First name pane := by
    split
    next => exact ⟨pane, first⟩
    next => exact ⟨_, first.updatePane _ _ first.scrollback first.scrollOffset⟩
  obtain ⟨pane, first⟩ := titled
  unfold Tab.restorePane
  cases snap.workingDirectory with
  | none => exact ⟨pane, first⟩
  | some path => exact ⟨_, first.updatePane _ _ first.scrollback first.scrollOffset⟩

omit [Ratio R] in
theorem restorePanes (first : tab.First name pane) (snaps : List PaneSnapshot) :
    ∃ pane, (snaps.foldl Tab.restorePane tab).First name pane := by
  induction snaps generalizing tab pane with
  | nil => exact ⟨pane, first⟩
  | cons snap rest ih =>
    obtain ⟨pane, first⟩ := first.restorePane snap
    exact ih first

omit [Ratio R] in
theorem restore_title (first : tab.First name pane) (untitled : pane.title = "") (title : String) :
    ((firstSnapshot name title).panes.foldl Tab.restorePane tab).snapshot = firstSnapshot name title := by
  -- The title of a first pane comes back; an empty one is the title of a new pane.
  simp only [firstSnapshot, List.foldl_cons, List.foldl_nil, Tab.restorePane]
  by_cases empty : title = ""
  next =>
    subst empty
    rw [if_pos (by rfl), first.snapshot, untitled]
    rfl
  next =>
    rw [if_neg (by simpa using empty)]
    exact (first.updatePane 0 (.setTitle title) first.scrollback first.scrollOffset).snapshot

omit [Ratio R] in
theorem restores_iff {fresh : Tab R} (first : fresh.First tab.name pane) (untitled : pane.title = "") :
    (tab.snapshot.panes.foldl Tab.restorePane fresh).snapshot = tab.snapshot ↔ tab.Restorable := by
  -- A tab built anew from a snapshot shows that snapshot just when there was nothing else to restore.
  rw [restorable_iff]
  constructor
  next =>
    intro same
    obtain ⟨pane, restored⟩ := first.restorePanes tab.snapshot.panes
    exact ⟨pane.title, same.symm.trans restored.snapshot⟩
  next =>
    rintro ⟨title, snapshot⟩
    rw [snapshot]
    exact first.restore_title untitled title

end First

theorem first_new (id : Nat) (name : String) (cols rows : Nat) :
    (Tab.new id name cols rows : Tab R).First name (Pane.new 0 cols rows) := ⟨rfl, rfl, rfl, rfl, rfl, rfl⟩

end Tab

def Renewed (session : Session R) (fresh recorded : List (Tab R)) : Prop :=
  List.Forall₂ (fun fresh tab => fresh.First tab.name (Pane.new 0 session.size.cols session.size.rows)) fresh recorded

theorem newTabs_renewed (recorded : List (Tab R)) {session : Session R}
    (room : session.nextTabId + recorded.length < 2 ^ 32) :
    ∃ next fresh, (recorded.map Tab.name).foldlM (fun session name => (session.newTab name).map Prod.snd) session = .ok next ∧
      next.tabs = session.tabs ++ fresh ∧ Renewed session fresh recorded ∧ next.name = session.name ∧
      next.size = session.size := by
  -- A new tab for each recorded one, behind those made so far.
  induction recorded generalizing session with
  | nil => exact ⟨session, [], rfl, (List.append_nil _).symm, .nil, rfl, rfl⟩
  | cons tab rest ih =>
    rw [List.length_cons] at room
    have fits : session.nextTabId + 1 < 2 ^ 32 := by omega
    let added : Tab R := Tab.new session.nextTabId tab.name session.size.cols session.size.rows
    let grown : Session R :=
      { session with
        tabs := session.tabs ++ [added], activeTab := (session.tabs ++ [added]).length - 1
        nextTabId := session.nextTabId + 1 }
    have grew : (session.newTab tab.name).map Prod.snd = .ok grown := by
      rw [Session.newTab, Session.takeTabId, add_ok fits]
      rfl
    have first : added.First tab.name (Pane.new 0 session.size.cols session.size.rows) := Tab.first_new ..
    have later : grown.nextTabId + rest.length < 2 ^ 32 := by
      show session.nextTabId + 1 + rest.length < 2 ^ 32
      omega
    obtain ⟨next, fresh, made, tabs, renewed, name, size⟩ := ih later
    refine ⟨next, added :: fresh, ?_, ?_, .cons first renewed, name, size⟩
    next =>
      rw [List.map_cons, List.foldlM_cons, grew]
      exact made
    next =>
      rw [tabs]
      exact List.append_assoc ..

theorem foldl_modify_zipIdx {A B : Type} (update : B -> A -> A) (xs : List A) (ys : List B) (done : List A)
    (length : xs.length = ys.length) :
    (ys.zipIdx done.length).foldl (fun xs indexed => xs.modify indexed.2 (update indexed.1)) (done ++ xs) =
      done ++ List.zipWith update ys xs := by
  -- Every element is updated once, with the element of another list at its place.
  induction ys generalizing xs done with
  | nil =>
    obtain rfl := List.length_eq_zero_iff.mp length
    rfl
  | cons y ys ih =>
    cases xs with
    | nil => cases length
    | cons x xs =>
      have here : (done ++ x :: xs).modify done.length (update y) = done ++ update y x :: xs :=
        List.modifyTailIdx_add (List.modifyHead (update y)) 0 done (x :: xs)
      have later := ih xs (done ++ [update y x]) (Nat.succ.inj length)
      rw [List.length_append, List.length_singleton, List.append_assoc, List.append_assoc] at later
      rw [List.zipIdx_cons, List.foldl_cons, here, List.zipWith_cons_cons]
      exact later

omit [Ratio R] in
theorem zipWith_snapshot_iff {session : Session R} {fresh recorded : List (Tab R)} (renewed : Renewed session fresh recorded) :
    (List.zipWith (fun snap tab => snap.panes.foldl Tab.restorePane tab) (recorded.map Tab.snapshot) fresh).map Tab.snapshot =
      recorded.map Tab.snapshot ↔ ∀ tab ∈ recorded, tab.Restorable := by
  -- The restored tabs show the recorded tabs just when each of those is restorable.
  induction renewed with
  | nil => simp
  | cons first rest ih =>
    rw [List.map_cons, List.zipWith_cons_cons, List.map_cons, List.cons.injEq, List.forall_mem_cons, ih,
      first.restores_iff rfl]

omit [Ratio R] in
theorem restoreTabs_eq (session : Session R) (snaps : List TabSnapshot) (length : session.tabs.length = snaps.length) :
    snaps.zipIdx.foldl
        (fun session indexed => session.updateTab indexed.2 fun tab => indexed.1.panes.foldl Tab.restorePane tab) session =
      { session with
        tabs := List.zipWith (fun snap tab => snap.panes.foldl Tab.restorePane tab) snaps session.tabs } := by
  have updated := foldl_modify_zipIdx (fun (snap : TabSnapshot) (tab : Tab R) => snap.panes.foldl Tab.restorePane tab)
    session.tabs snaps [] length
  have through := @List.foldl_hom _ _ _ (fun tabs => ({ session with tabs } : Session R))
    (fun tabs (indexed : TabSnapshot × Nat) => tabs.modify indexed.2 fun tab => indexed.1.panes.foldl Tab.restorePane tab)
    (fun (session : Session R) (indexed : TabSnapshot × Nat) =>
      session.updateTab indexed.2 fun tab => indexed.1.panes.foldl Tab.restorePane tab)
    snaps.zipIdx session.tabs fun tabs indexed => rfl
  exact through.trans (congrArg (fun tabs => ({ session with tabs } : Session R)) updated)

theorem snapshot_restored_iff {session : Session R} (counted : session.Counted) :
    ∃ restored : Session R, sessionFromSnapshot (snapshotFromSession session) = .ok restored ∧
      (snapshotFromSession restored = snapshotFromSession session ↔ ∀ tab ∈ session.tabs, tab.Restorable) := by
  -- A session that is restored from its snapshot has the same snapshot just when every tab is restorable.
  have active := counted.active
  obtain ⟨tab, rest, tabs⟩ := List.exists_cons_of_length_pos (Nat.zero_lt_of_lt active)
  have length : session.tabs.length = rest.length + 1 := congrArg List.length tabs
  let blank : Session R :=
    (Session.new session.name session.size.cols session.size.rows).updateTab 0 fun fresh => fresh.rename tab.name
  have room : blank.nextTabId + rest.length < 2 ^ 32 := by
    have given := counted.given
    have fits := counted.fits
    show 1 + rest.length < 2 ^ 32
    omega
  obtain ⟨next, fresh, made, added, renewed, name, size⟩ := newTabs_renewed rest room
  have first : ((Tab.new 0 "Tab 1" session.size.cols session.size.rows : Tab R).rename tab.name).First tab.name
      (Pane.new 0 session.size.cols session.size.rows) := ⟨rfl, rfl, rfl, rfl, rfl, rfl⟩
  have all : Renewed blank next.tabs session.tabs := by
    rw [added, tabs]
    exact .cons first renewed
  have same : next.tabs.length = session.tabs.length := all.length_eq
  have restored := restoreTabs_eq next (session.tabs.map Tab.snapshot) (by rw [same, List.length_map])
  let back : Session R :=
    { next with
      tabs := List.zipWith (fun snap tab => snap.panes.foldl Tab.restorePane tab) (session.tabs.map Tab.snapshot) next.tabs }
  have backLength : back.tabs.length = session.tabs.length := by
    simp [back, same]
  refine ⟨(back.switchTab session.activeTab).2, ?_, ?_⟩
  next =>
    have head : (snapshotFromSession session).tabNames.head? = some tab.name := by
      rw [snapshotFromSession, tabs]
      rfl
    have names : (snapshotFromSession session).tabNames.drop 1 = rest.map Tab.name := by
      rw [snapshotFromSession, tabs]
      rfl
    unfold sessionFromSnapshot
    simp only [head, names]
    show ((rest.map Tab.name).foldlM (fun session name => (session.newTab name).map Prod.snd) blank >>= fun next => _) = _
    rw [made, ok_bind]
    have shown : (snapshotFromSession session).tabs = session.tabs.map Tab.snapshot := rfl
    simp only [shown, restored]
    exact congrArg Except.ok (if_pos (backLength ▸ active))
  next =>
    have inside : session.activeTab < back.tabs.length := backLength ▸ active
    rw [Session.switchTab, if_pos inside, ← zipWith_snapshot_iff all]
    constructor
    next => exact fun same => congrArg SessionSnapshot.tabs same
    next =>
      intro shown
      have names := congrArg (List.map TabSnapshot.name) shown
      rw [List.map_map, List.map_map] at names
      simp only [snapshotFromSession, SessionSnapshot.mk.injEq]
      exact ⟨name, congrArg PaneSize.cols size, congrArg PaneSize.rows size, backLength, names, shown, trivial⟩

theorem round_trip_iff (calls : List (SessionCall R)) (name : String) (cols rows : Nat) :
    Ensures AnyPanic (run Session.call calls (Session.new name cols rows : Session R)) fun session =>
      ∃ restored : Session R, sessionFromSnapshot (snapshotFromSession session) = .ok restored ∧
        (snapshotFromSession restored = snapshotFromSession session ↔ ∀ tab ∈ session.tabs, tab.Restorable) :=
  (Session.reachable_counted calls name cols rows).weaken fun _ counted => snapshot_restored_iff counted

/-- A line of scrollback is recorded and not restored. -/
theorem scrollback_is_lost :
    ¬ ∀ calls : List (SessionCall Rat),
      Ensures AnyPanic (run Session.call calls (Session.new "main" 80 24 : Session Rat)) fun session =>
        ∃ restored : Session Rat, sessionFromSnapshot (snapshotFromSession session) = .ok restored ∧
          snapshotFromSession restored = snapshotFromSession session := by
  intro every
  let calls : List (SessionCall Rat) := [.op (.onActiveTab (.updatePane 0 (.pushScrollback "line 1: hello world")))]
  have counted := Session.reachable_counted calls "main" 80 24
  obtain ⟨session, ran⟩ : ∃ session, run Session.call calls (Session.new "main" 80 24 : Session Rat) = .ok session := ⟨_, rfl⟩
  obtain ⟨restored, made, same⟩ := (every calls).of_ok ran
  obtain ⟨back, again, exact⟩ := snapshot_restored_iff (counted.of_ok ran)
  obtain rfl := Except.ok.inj (made.symm.trans again)
  cases ran
  have empty := (exact.mp same _ List.mem_cons_self).2.1 _ rfl
  cases empty.1

end Emux
