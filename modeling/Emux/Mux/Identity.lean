import Emux.Mux.Session

set_option autoImplicit false

/-!
# Pane identity across the tabs of a session
-/

namespace Emux

open Checked

inductive SessionOp where
  | rename (name : String)
  | newTab (name : String)
  | closeTab (index : Nat)
  | closeTabById (tabId : Nat)
  | switchTab (index : Nat)
  | nextTab
  | prevTab
  | togglePreviousTab
  | moveTabLeft
  | moveTabRight
  | moveTabLeftWrapping
  | moveTabRightWrapping
  | breakPaneToNewTab (paneId : PaneId)
  | movePaneToNewTabRight
  | resize (cols rows : Nat)
  | onTab (index : Nat) (op : TabOp)
  | onActiveTab (op : TabOp)
  deriving DecidableEq, Repr

variable {R : Type} [Ratio R]

namespace Tab

def owns (tab : Tab R) (id : PaneId) : Bool := decide (id ∈ tab.panes) || tab.floatingPaneIds.contains id

def Apart (tab other : Tab R) : Prop := ∀ id, tab.Owns id -> ¬ other.Owns id

omit [Ratio R] in
theorem owns_iff (tab : Tab R) (id : PaneId) : tab.owns id = true ↔ tab.Owns id := by
  simp [owns, Owns]

omit [Ratio R] in
theorem Apart.symm {tab other : Tab R} (apart : Apart tab other) : Apart other tab :=
  fun id owned owns => apart id owns owned

theorem owns_new (tabId : Nat) (name : String) (cols rows : Nat) (id : PaneId) :
    (Tab.new tabId name cols rows : Tab R).Owns id ↔ id = 0 := by
  unfold Owns
  simp only [new, floatingPaneIds, List.map_nil, List.not_mem_nil, or_false]
  exact Keyed.mem_singleton ..

theorem new_apart {tabId : Nat} {name : String} {cols rows : Nat} {other : Tab R} (free : ¬ other.Owns 0) :
    Apart (Tab.new tabId name cols rows) other := by
  intro id owned owns
  obtain rfl := (owns_new ..).mp owned
  exact free owns

omit [Ratio R] in
theorem Keeps.apart {tab next other : Tab R} (keeps : Keeps tab next) (apart : Apart tab other) : Apart next other :=
  fun id owned => apart id (keeps.owns id owned)

omit [Ratio R] in
theorem Grows.apart {tab next other : Tab R} (grows : Grows tab next) (apart : Apart tab other)
    (free : ¬ other.Owns tab.nextPaneId) : Apart next other := by
  intro id owned
  rcases grows.owns id owned with before | rfl
  next => exact apart id before
  next => exact free

end Tab

structure Separate (tabs : List (Tab R)) : Prop where
  sound : ∀ tab ∈ tabs, tab.Sound
  swapLayouts : ∀ tab ∈ tabs, tab.swapLayouts = []
  apart : tabs.Pairwise Tab.Apart

namespace Separate

variable {tabs others : List (Tab R)} {tab : Tab R} {index : Nat}

theorem perm (separate : Separate tabs) (same : others.Perm tabs) : Separate others where
  sound tab member := separate.sound tab (same.mem_iff.mp member)
  swapLayouts tab member := separate.swapLayouts tab (same.mem_iff.mp member)
  apart := (same.pairwise_iff fun apart => apart.symm).mpr separate.apart

theorem sublist (separate : Separate tabs) (fewer : others.Sublist tabs) : Separate others where
  sound tab member := separate.sound tab (fewer.mem member)
  swapLayouts tab member := separate.swapLayouts tab (fewer.mem member)
  apart := separate.apart.sublist fewer

theorem cons (separate : Separate tabs) (sound : tab.Sound) (swapLayouts : tab.swapLayouts = [])
    (apart : ∀ other ∈ tabs, tab.Apart other) : Separate (tab :: tabs) where
  sound := List.forall_mem_cons.mpr ⟨sound, separate.sound⟩
  swapLayouts := List.forall_mem_cons.mpr ⟨swapLayouts, separate.swapLayouts⟩
  apart := List.pairwise_cons.mpr ⟨apart, separate.apart⟩

theorem others_apart (separate : Separate tabs) (found : tabs[index]? = some tab) :
    ∀ other ∈ tabs.eraseIdx index, tab.Apart other := by
  obtain ⟨inside, rfl⟩ := List.getElem?_eq_some_iff.mp found
  exact (List.pairwise_cons.mp (separate.perm (List.getElem_cons_eraseIdx_perm inside)).apart).1

theorem set (separate : Separate tabs) (inside : index < tabs.length) (sound : tab.Sound)
    (swapLayouts : tab.swapLayouts = []) (apart : ∀ other ∈ tabs.eraseIdx index, tab.Apart other) :
    Separate (tabs.set index tab) :=
  ((separate.sublist (List.eraseIdx_sublist tabs index)).cons sound swapLayouts apart).perm
    (List.set_perm_cons_eraseIdx inside tab)

theorem set_keeps (separate : Separate tabs) (found : tabs[index]? = some tab) {next : Tab R} (sound : next.Sound)
    (keeps : tab.Keeps next) : Separate (tabs.set index next) := by
  -- A tab in which nothing but the pane ids it had is left, in the place of the old one.
  have swapLayouts := separate.swapLayouts tab (List.mem_of_getElem? found)
  refine separate.set (List.getElem?_eq_some_iff.mp found).1 sound (keeps.swapLayouts.trans swapLayouts) ?_
  exact fun other member => keeps.apart (separate.others_apart found other member)

end Separate

namespace Session

def step : SessionOp -> Session R -> Fallible (Session R)
  | .rename name, session => .ok (session.rename name)
  | .newTab name, session => (session.newTab name).map Prod.snd
  | .closeTab index, session => .ok (session.closeTab index).2
  | .closeTabById tabId, session => .ok (session.closeTabById tabId).2
  | .switchTab index, session => .ok (session.switchTab index).2
  | .nextTab, session => .ok session.nextTab.2
  | .prevTab, session => .ok session.prevTab.2
  | .togglePreviousTab, session => .ok session.togglePreviousTab.2
  | .moveTabLeft, session => session.moveTabLeft.map Prod.snd
  | .moveTabRight, session => session.moveTabRight.map Prod.snd
  | .moveTabLeftWrapping, session => session.moveTabLeftWrapping.map Prod.snd
  | .moveTabRightWrapping, session => session.moveTabRightWrapping.map Prod.snd
  | .breakPaneToNewTab paneId, session => (session.breakPaneToNewTab paneId).map Prod.snd
  | .movePaneToNewTabRight, session => session.movePaneToNewTabRight.map Prod.snd
  | .resize cols rows, session => .ok (session.resize cols rows)
  | .onTab index op, session => session.onTab index op
  | .onActiveTab op, session => session.onActiveTab op

structure Sound (session : Session R) : Prop where
  tabs : Separate session.tabs
  active : session.activeTab < session.tabs.length

def Apart (session : Session R) : Prop := session.tabs.Pairwise Tab.Apart

def freeElsewhere (session : Session R) (index : Nat) (id : PaneId) : Bool :=
  (session.tabs.eraseIdx index).all fun other => !other.owns id

def tabAllocatesApart (session : Session R) (index : Nat) (op : TabOp) : Bool :=
  match session.tabs[index]? with
  | some tab => !tab.takesPaneId op || session.freeElsewhere index tab.nextPaneId
  | none => true

/-- The pane is not broken out, or pane 0 is free, at the latest when the pane is closed. -/
def breakAllocatesApart (session : Session R) (paneId : PaneId) : Bool :=
  match session.tabs[session.activeTab]? with
  | some tab =>
    tab.paneCount ≤ 1 || paneId ∉ tab.panes ||
      session.freeElsewhere session.activeTab 0 && (paneId == 0 || !tab.owns 0)
  | none => true

def allocatesApart : SessionOp -> Session R -> Bool
  | .newTab _, session => session.tabs.all fun tab => !tab.owns 0
  | .breakPaneToNewTab paneId, session => session.breakAllocatesApart paneId
  | .movePaneToNewTabRight, session =>
    (session.tabs[session.activeTab]?.bind Tab.activePane).all session.breakAllocatesApart
  | .onTab index op, session => session.tabAllocatesApart index op
  | .onActiveTab op, session => session.tabAllocatesApart session.activeTab op
  | _, _ => true

omit [Ratio R] in
theorem freeElsewhere_iff (session : Session R) (index : Nat) (id : PaneId) :
    session.freeElsewhere index id = true ↔ ∀ other ∈ session.tabs.eraseIdx index, ¬ other.Owns id := by
  simp only [freeElsewhere, List.all_eq_true, Bool.not_eq_true', ← Bool.not_eq_true, Tab.owns_iff]

omit [Ratio R] in
theorem takeTabId_cases (session : Session R) :
    session.takeTabId = .ok (session.nextTabId, { session with nextTabId := session.nextTabId + 1 }) ∨
      session.takeTabId = .error .arithmetic := by
  unfold takeTabId
  by_cases fits : session.nextTabId + 1 < 2 ^ 32
  next => exact .inl (by rw [add_ok fits, ok_bind])
  next => exact .inr (by rw [add, if_neg fits, error_bind])

theorem newTab_sound {session : Session R} (sound : session.Sound) (name : String)
    (free : ∀ tab ∈ session.tabs, ¬ tab.Owns 0) :
    Ensures (· = .arithmetic) (session.newTab name) fun result => result.2.Sound := by
  unfold newTab
  rcases takeTabId_cases session with taken | full
  next =>
    rw [taken, ok_bind]
    refine ⟨?_, by simp⟩
    have added := sound.tabs.cons (Tab.new_sound session.nextTabId name session.size.cols session.size.rows) rfl
      fun other member => Tab.new_apart (free other member)
    exact added.perm (List.perm_append_singleton _ session.tabs)
  next =>
    rw [full, error_bind]
    rfl

/-- Some of the tabs in some order, one of them active, and no tab id given out. -/
structure Selected (session next : Session R) : Prop where
  tabs : next.tabs.Subperm session.tabs
  active : next.activeTab < next.tabs.length
  ids : next.nextTabId = session.nextTabId

theorem Sound.selected {session next : Session R} (sound : session.Sound) (selected : Selected session next) :
    next.Sound := by
  obtain ⟨kept, perm, fewer⟩ := selected.tabs
  exact ⟨(sound.tabs.sublist fewer).perm perm.symm, selected.active⟩

section

omit [Ratio R]

variable {session : Session R}

theorem selected_active {session next : Session R} (tabs : next.tabs = session.tabs) (ids : next.nextTabId = session.nextTabId)
    (active : next.activeTab < session.tabs.length) : Selected session next :=
  ⟨tabs ▸ List.Subperm.refl _, by rw [tabs]; exact active, ids⟩

theorem closeTab_selects (active : session.activeTab < session.tabs.length) (index : Nat) :
    Selected session (session.closeTab index).2 := by
  unfold closeTab
  split
  next => exact selected_active rfl rfl active
  next more =>
    have left : (session.tabs.eraseIdx index).length = session.tabs.length - 1 :=
      List.length_eraseIdx_of_lt (by omega)
    refine ⟨(List.eraseIdx_sublist session.tabs index).subperm, ?_, rfl⟩
    simp only [left]
    split
    next => omega
    next => split <;> omega

theorem closeTabById_selects (active : session.activeTab < session.tabs.length) (tabId : Nat) :
    Selected session (session.closeTabById tabId).2 := by
  unfold closeTabById
  split
  next => exact selected_active rfl rfl active
  next =>
    split
    next index found => exact closeTab_selects active index
    next => exact selected_active rfl rfl active

theorem switchTab_selects (active : session.activeTab < session.tabs.length) (index : Nat) :
    Selected session (session.switchTab index).2 := by
  unfold switchTab
  split
  next inside => exact selected_active rfl rfl inside
  next => exact selected_active rfl rfl active

theorem nextTab_selects (active : session.activeTab < session.tabs.length) : Selected session session.nextTab.2 := by
  unfold nextTab
  split
  next => exact selected_active rfl rfl active
  next => exact selected_active rfl rfl (Nat.mod_lt _ (by omega))

theorem prevTab_selects (active : session.activeTab < session.tabs.length) : Selected session session.prevTab.2 := by
  unfold prevTab
  split
  next => exact selected_active rfl rfl active
  next =>
    refine selected_active rfl rfl ?_
    show (if session.activeTab = 0 then session.tabs.length - 1 else session.activeTab - 1) < session.tabs.length
    split <;> omega

theorem togglePreviousTab_selects (active : session.activeTab < session.tabs.length) :
    Selected session session.togglePreviousTab.2 := by
  unfold togglePreviousTab
  split
  next previous _ =>
    split
    next inside => exact selected_active rfl rfl inside
    next => exact selected_active rfl rfl active
  next => exact selected_active rfl rfl active

theorem swapTabs_ok {a b : Nat} (first : a < session.tabs.length) (second : b < session.tabs.length) :
    session.swapTabs a b = .ok ((session.tabs.set a session.tabs[b]).set b session.tabs[a]) := by
  unfold swapTabs
  rw [get_ok (List.getElem?_eq_getElem first), ok_bind, get_ok (List.getElem?_eq_getElem second), ok_bind,
    set_ok _ first, ok_bind, set_ok _ (by simpa using second)]

structure Moved (session next : Session R) : Prop where
  tabs : next.tabs.Perm session.tabs
  active : next.tabs[next.activeTab]? = session.tabs[session.activeTab]?
  ids : next.nextTabId = session.nextTabId

theorem Moved.refl (session : Session R) : Moved session session := ⟨List.Perm.refl _, rfl, rfl⟩

theorem Moved.selected {next : Session R} (moved : Moved session next) (active : session.activeTab < session.tabs.length) :
    Selected session next := by
  have found := moved.active
  rw [List.getElem?_eq_getElem active] at found
  exact ⟨moved.tabs.subperm, (List.getElem?_eq_some_iff.mp found).1, moved.ids⟩

theorem swap_moves (active : session.activeTab < session.tabs.length) {other : Nat} (inside : other < session.tabs.length) :
    Ensures (· = .arithmetic)
      (do
        let tabs <- session.swapTabs session.activeTab other
        Except.ok (true, { session with tabs, activeTab := other })) fun result => Moved session result.2 := by
  -- The active tab changes places with the tab at `other` and stays active.
  rw [swapTabs_ok active inside, ok_bind]
  refine ⟨List.set_set_perm active inside, ?_, rfl⟩
  simp only
  rw [List.getElem?_set_self (by simpa using inside), List.getElem?_eq_getElem active]

theorem moveTabLeft_moves (active : session.activeTab < session.tabs.length) :
    Ensures (· = .arithmetic) session.moveTabLeft fun result => Moved session result.2 := by
  unfold moveTabLeft
  split
  next => exact .refl session
  next => exact swap_moves active (by omega)

theorem moveTabRight_moves (active : session.activeTab < session.tabs.length) :
    Ensures (· = .arithmetic) session.moveTabRight fun result => Moved session result.2 := by
  unfold moveTabRight
  rw [sub_ok (show 1 ≤ session.tabs.length by omega), ok_bind]
  split
  next => exact .refl session
  next => exact swap_moves active (by omega)

theorem moveTabLeftWrapping_moves (active : session.activeTab < session.tabs.length) :
    Ensures (· = .arithmetic) session.moveTabLeftWrapping fun result => Moved session result.2 := by
  unfold moveTabLeftWrapping
  split
  next => exact .refl session
  next more =>
    split
    next first =>
      have inside : 0 < session.tabs.length := by omega
      rw [get_ok (List.getElem?_eq_getElem inside), ok_bind]
      refine ⟨(List.perm_append_singleton _ _).trans (List.getElem_cons_eraseIdx_perm inside), ?_, rfl⟩
      simp only
      rw [List.length_append, List.length_singleton, Nat.add_sub_cancel, List.getElem?_concat_length, first,
        List.getElem?_eq_getElem inside]
    next => exact swap_moves active (by omega)

theorem moveTabRightWrapping_moves (active : session.activeTab < session.tabs.length) :
    Ensures (· = .arithmetic) session.moveTabRightWrapping fun result => Moved session result.2 := by
  unfold moveTabRightWrapping
  split
  next => exact .refl session
  next more =>
    split
    next last =>
      rw [get_ok (List.getElem?_eq_getElem active), ok_bind]
      refine ⟨List.getElem_cons_eraseIdx_perm active, ?_, rfl⟩
      exact (List.getElem?_eq_getElem active).symm
    next => exact swap_moves active (by omega)

end

variable {session : Session R}

def selects : SessionOp -> Bool
  | .newTab _ | .breakPaneToNewTab _ | .movePaneToNewTabRight | .resize _ _ | .onTab _ _ | .onActiveTab _ => false
  | _ => true

theorem step_selects {op : SessionOp} (same : selects op = true) (active : session.activeTab < session.tabs.length) :
    Ensures (· = .arithmetic) (step op session) (Selected session) := by
  have moved {x : Fallible (Bool × Session R)} (moves : Ensures (· = .arithmetic) x fun result => Moved session result.2) :
      Ensures (· = .arithmetic) (x.map Prod.snd) (Selected session) :=
    (moves.weaken fun _ moved => moved.selected active).map
  cases op with
  | rename name => exact selected_active rfl rfl active
  | closeTab index => exact closeTab_selects active index
  | closeTabById tabId => exact closeTabById_selects active tabId
  | switchTab index => exact switchTab_selects active index
  | nextTab => exact nextTab_selects active
  | prevTab => exact prevTab_selects active
  | togglePreviousTab => exact togglePreviousTab_selects active
  | moveTabLeft => exact moved (moveTabLeft_moves active)
  | moveTabRight => exact moved (moveTabRight_moves active)
  | moveTabLeftWrapping => exact moved (moveTabLeftWrapping_moves active)
  | moveTabRightWrapping => exact moved (moveTabRightWrapping_moves active)
  | _ => cases same

theorem resize_sound {session : Session R} (sound : session.Sound) (cols rows : Nat) : (session.resize cols rows).Sound where
  active := by
    rw [resize, List.length_map]
    exact sound.active
  tabs :=
    { sound := by
        simp only [resize, List.forall_mem_map]
        exact fun tab member => Tab.resize_sound (sound.tabs.sound tab member) cols rows
      swapLayouts := by
        simp only [resize, List.forall_mem_map]
        exact sound.tabs.swapLayouts
      apart := by
        have same : ∀ (tab : Tab R) (id : PaneId), (tab.resize cols rows).Owns id ↔ tab.Owns id :=
          fun tab id => Tab.owns_syncPaneSizes { tab with size := { rows, cols } } id
        refine List.pairwise_map.mpr (sound.tabs.apart.imp fun apart id owned => ?_)
        rw [same] at owned ⊢
        exact apart id owned }

theorem onTab_sound {session : Session R} (sound : session.Sound) (op : TabOp) (index : Nat)
    (free : session.tabAllocatesApart index op = true) :
    Ensures (· = .arithmetic) (session.onTab index op) Sound := by
  unfold onTab
  split
  next tab found =>
    have member := List.mem_of_getElem? found
    have tabSound := sound.tabs.sound tab member
    have noSwaps := sound.tabs.swapLayouts tab member
    have inside := (List.getElem?_eq_some_iff.mp found).1
    have kept : Ensures (· = .arithmetic) (tab.step op) Tab.Sound :=
      (Tab.step_sound op tabSound (Tab.stepFits_noSwaps op noSwaps)).allow fun panic spent => spent.1
    have separate : Ensures AnyPanic (tab.step op) fun next => next.Sound -> Separate (session.tabs.set index next) := by
      cases takes : tab.takesPaneId op with
      | true =>
        simp only [tabAllocatesApart, found, takes, Bool.not_true, Bool.false_or] at free
        refine (Tab.step_grows takes).weaken fun next grows nextSound => ?_
        refine sound.tabs.set inside nextSound (grows.swapLayouts.trans noSwaps) fun other there => ?_
        exact grows.apart (sound.tabs.others_apart found other there) ((freeElsewhere_iff ..).mp free other there)
      | false =>
        exact (Tab.step_keeps tabSound takes).weaken fun next keeps nextSound =>
          sound.tabs.set_keeps found nextSound keeps
    refine (kept.and separate).bind fun next both => ?_
    exact ⟨both.2 both.1, by simpa using sound.active⟩
  next => exact sound

theorem breakPaneToNewTab_sound {session : Session R} (sound : session.Sound) {paneId : PaneId}
    (free : session.breakAllocatesApart paneId = true) :
    Ensures (· = .arithmetic) (session.breakPaneToNewTab paneId) fun result => result.2.Sound := by
  obtain ⟨tab, found⟩ : ∃ tab, session.tabs[session.activeTab]? = some tab :=
    ⟨_, List.getElem?_eq_getElem sound.active⟩
  have member := List.mem_of_getElem? found
  have tabSound := sound.tabs.sound tab member
  have noSwaps := sound.tabs.swapLayouts tab member
  unfold breakPaneToNewTab
  rw [get_ok found, ok_bind]
  split
  next => exact sound
  next several =>
    split
    next => exact sound
    next tiled =>
      rw [not_not] at tiled
      simp only [breakAllocatesApart, found, tiled, several, decide_false, not_true_eq_false, Bool.false_or,
        Bool.and_eq_true, Bool.or_eq_true, beq_iff_eq, Bool.not_eq_true'] at free
      have closedSound := @Tab.closePane_sound _ _ _ tabSound paneId fun _ _ => Tab.autoFits_noSwaps noSwaps _
      have separate := sound.tabs.set_keeps found closedSound (Tab.keeps_closePane tab paneId)
      -- Pane 0 is free in the active tab as well, once the pane is closed.
      have left : ¬ (tab.closePane paneId).2.Owns 0 := by
        rw [Tab.owns_closePane tabSound.apart tiled (Nat.lt_of_not_le several)]
        rintro ⟨owned, other⟩
        rcases free.2 with rfl | absent
        next => exact other rfl
        next => exact absurd ((Tab.owns_iff tab 0).mpr owned) (by simp [absent])
      have none : ∀ other ∈ session.tabs.set session.activeTab (tab.closePane paneId).2, ¬ other.Owns 0 := by
        intro other there
        rcases List.mem_cons.mp ((List.set_perm_cons_eraseIdx sound.active _).mem_iff.mp there) with rfl | rest
        next => exact left
        next => exact (freeElsewhere_iff ..).mp free.1 other rest
      rw [set_ok _ sound.active, ok_bind]
      rcases takeTabId_cases { session with tabs := session.tabs.set session.activeTab (tab.closePane paneId).2 } with
        taken | full
      next =>
        rw [taken, ok_bind]
        have fits : session.activeTab + 1 ≤ (session.tabs.set session.activeTab (tab.closePane paneId).2).length := by
          rw [List.length_set]
          exact sound.active
        simp only
        rw [if_neg (Nat.not_lt.mpr fits)]
        have added := separate.cons (Tab.new_sound session.nextTabId s!"Tab {session.nextTabId + 1}" session.size.cols
          session.size.rows) rfl fun other there => Tab.new_apart (none other there)
        refine ⟨added.perm (List.perm_insertIdx _ _ fits), ?_⟩
        show session.activeTab + 1 < (List.insertIdx _ _ _).length
        rw [List.length_insertIdx_of_le_length fits]
        exact Nat.lt_succ_of_le fits
      next =>
        rw [full, error_bind]
        rfl

theorem movePaneToNewTabRight_sound {session : Session R} (sound : session.Sound)
    (free : (session.tabs[session.activeTab]?.bind Tab.activePane).all session.breakAllocatesApart = true) :
    Ensures (· = .arithmetic) session.movePaneToNewTabRight fun result => result.2.Sound := by
  obtain ⟨tab, found⟩ : ∃ tab, session.tabs[session.activeTab]? = some tab :=
    ⟨_, List.getElem?_eq_getElem sound.active⟩
  unfold movePaneToNewTabRight
  rw [get_ok found, ok_bind]
  split
  next activePane active =>
    simp only [found, Option.bind_some, active, Option.all_some] at free
    exact breakPaneToNewTab_sound sound free
  next => exact sound

theorem step_sound (op : SessionOp) {session : Session R} (sound : session.Sound)
    (free : session.allocatesApart op = true) : Ensures (· = .arithmetic) (step op session) Sound := by
  cases op with
  | newTab name =>
    simp only [allocatesApart, List.all_eq_true, Bool.not_eq_true', ← Bool.not_eq_true, Tab.owns_iff] at free
    exact (newTab_sound sound name free).map
  | breakPaneToNewTab paneId => exact (breakPaneToNewTab_sound sound free).map
  | movePaneToNewTabRight => exact (movePaneToNewTabRight_sound sound free).map
  | resize cols rows => exact resize_sound sound cols rows
  | onTab index op => exact onTab_sound sound op index free
  | onActiveTab op =>
    show Ensures (· = .arithmetic) (session.onActiveTab op) Sound
    unfold onActiveTab
    rw [get_ok (List.getElem?_eq_getElem sound.active), ok_bind]
    exact onTab_sound sound op session.activeTab free
  | _ => exact (step_selects rfl sound.active).weaken fun next selected => sound.selected selected

theorem new_sound (name : String) (cols rows : Nat) : (new name cols rows : Session R).Sound where
  tabs :=
    { sound := by
        simp only [new, List.forall_mem_singleton]
        exact Tab.new_sound 0 "Tab 1" cols rows
      swapLayouts := by
        simp only [new, List.forall_mem_singleton]
        rfl
      apart := List.pairwise_singleton _ _ }
  active := Nat.one_pos

theorem reachable_apart {ops : List SessionOp} {name : String} {cols rows : Nat}
    (free : Along step (fun op session => session.allocatesApart op = true) ops (new name cols rows : Session R)) :
    Throughout step Apart ops (new name cols rows : Session R) := by
  have one : ∀ op (session : Session R), session.allocatesApart op = true -> session.Sound ->
      Ensures AnyPanic (step op session) Sound :=
    fun op session free sound => (step_sound op sound free).allow fun _ _ => trivial
  exact (throughout_of_along one free (new_sound name cols rows)).weaken fun session sound => sound.tabs.apart

theorem reachable_apart_new_tab :
    Throughout step Apart [.onActiveTab (.splitPane .vertical), .onActiveTab (.closePane 0), .newTab "Tab 2"]
      (new "main" 80 24 : Session Rat) :=
  reachable_apart (by decide)

/-- The first panes of two tabs have the same id. -/
theorem new_tab_shares_pane_id :
    ¬ ∀ ops : List SessionOp, Throughout step Apart ops (new "main" 80 24 : Session Rat) := by
  intro every
  have apart := (every [.newTab "Tab 2"]).2
  have both : (new "main" 80 24 : Session Rat).newTab "Tab 2" =
      .ok (1, { (new "main" 80 24 : Session Rat) with
        tabs := [Tab.new 0 "Tab 1" 80 24, Tab.new 1 "Tab 2" 80 24], activeTab := 1, nextTabId := 2 }) := rfl
  simp only [step, both] at apart
  exact (List.pairwise_pair.mp apart) 0 ((Tab.owns_new ..).mpr rfl) ((Tab.owns_new ..).mpr rfl)

end Session

end Emux
