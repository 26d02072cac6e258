import Emux.Mux.Floats
import Emux.Mux.Identity

set_option autoImplicit false

/-!
# The tab list of a session

One tab is active, the tabs have ids of their own and the size of the session. Closing another tab and moving the
active one keep it active.
-/

namespace Emux

open Checked

variable {R : Type}

inductive SessionCall (R : Type) where
  | op (op : SessionOp)
  | onTab (index : Nat) (call : TabCall R)

namespace Tab

theorem call_same [Ratio R] {call_ : TabCall R} (tab : Tab R) (sized : ∀ op, call_ = .op op -> resizes op = false) :
    Ensures (· = .arithmetic) (tab.call call_) fun next => next.id = tab.id ∧ next.size = tab.size := by
  -- Only a resize changes the size of a tab, and no operation its id.
  cases call_ with
  | registerSwapLayout name minPanes maxPanes layout =>
    have stays := stays_registerSwapLayout tab name minPanes maxPanes layout
    exact ⟨stays.id, stays.size⟩
  | autoSwapLayout => exact ⟨(stays_autoSwapLayout tab).id, (stays_autoSwapLayout tab).size⟩
  | nextSwapLayout => exact ⟨(stays_nextSwapLayout tab).id, (stays_nextSwapLayout tab).size⟩
  | prevSwapLayout => exact ⟨(stays_prevSwapLayout tab).id, (stays_prevSwapLayout tab).size⟩
  | op op =>
    by_cases tiled : floats op = true
    next =>
      cases op with
      | floatPane id => exact floatPane_same tab id
      | _ => cases tiled
    next =>
      have stays := step_stays tab (sized op rfl) (Bool.eq_false_iff.mpr tiled)
      exact (stays.allow fun panic spent => spent.1).weaken fun next stays => ⟨stays.id, stays.size⟩

end Tab

namespace Session

section

variable [Ratio R]

def call : SessionCall R -> Session R -> Fallible (Session R)
  | .op op, session => session.step op
  | .onTab index call, session =>
    match session.tabs[index]? with
    | some tab => do
      let tab <- tab.call call
      .ok { session with tabs := session.tabs.set index tab }
    | none => .ok session

end

def activeTabId (session : Session R) : Option Nat := session.tabs[session.activeTab]?.map Tab.id

structure Listed (session : Session R) : Prop where
  active : session.activeTab < session.tabs.length
  distinct : (session.tabs.map Tab.id).Nodup
  given : ∀ tab ∈ session.tabs, tab.id < session.nextTabId
  sizes : ∀ tab ∈ session.tabs, tab.size = session.size

theorem Listed.nonempty {session : Session R} (listed : session.Listed) : session.tabs ≠ [] :=
  List.length_pos_iff.mp (Nat.zero_lt_of_lt listed.active)

variable {session next : Session R}

theorem Listed.selected (listed : session.Listed) (selected : Selected session next) (size : next.size = session.size) :
    next.Listed where
  active := selected.active
  distinct := by
    obtain ⟨kept, perm, fewer⟩ := selected.tabs
    exact (perm.map Tab.id).nodup_iff.mp (listed.distinct.sublist (fewer.map Tab.id))
  given tab member := selected.ids ▸ listed.given tab (selected.tabs.subset member)
  sizes tab member := size ▸ listed.sizes tab (selected.tabs.subset member)

theorem ids_set {index : Nat} {tab tab' : Tab R} (found : session.tabs[index]? = some tab) (id : tab'.id = tab.id) :
    (session.tabs.set index tab').map Tab.id = session.tabs.map Tab.id := by
  obtain ⟨inside, is⟩ := List.getElem?_eq_some_iff.mp found
  rw [List.map_set, id, ← is]
  refine List.ext_getElem (by simp) fun i _ _ => ?_
  rw [List.getElem_set]
  split
  next same =>
    subst same
    rw [List.getElem_map]
  next => rfl

theorem Listed.set (listed : session.Listed) {index : Nat} {tab tab' : Tab R} (found : session.tabs[index]? = some tab)
    (id : tab'.id = tab.id) (size : tab'.size = tab.size) : Listed { session with tabs := session.tabs.set index tab' } := by
  -- One tab changes in place.
  have whole : tab ∈ session.tabs := List.mem_of_getElem? found
  refine ⟨by simpa using listed.active, ids_set found id ▸ listed.distinct, fun other member => ?_, fun other member => ?_⟩
  next =>
    rcases List.mem_or_eq_of_mem_set member with before | rfl
    next => exact listed.given other before
    next => exact id ▸ listed.given tab whole
  next =>
    rcases List.mem_or_eq_of_mem_set member with before | rfl
    next => exact listed.sizes other before
    next => exact size.trans (listed.sizes tab whole)

theorem Listed.join (listed : session.Listed) {tab : Tab R} {tabs : List (Tab R)} (perm : tabs.Perm (tab :: session.tabs))
    (id : tab.id = session.nextTabId) (size : tab.size = session.size) {active : Nat} (inside : active < tabs.length)
    (previousTab : Option Nat) :
    Listed { session with tabs, activeTab := active, previousTab, nextTabId := session.nextTabId + 1 } where
  active := inside
  distinct := by
    refine (perm.map Tab.id).nodup_iff.mpr (List.nodup_cons.mpr ⟨fun member => ?_, listed.distinct⟩)
    obtain ⟨other, there, same⟩ := List.mem_map.mp member
    have less := listed.given other there
    omega
  given other member := by
    rcases List.mem_cons.mp (perm.mem_iff.mp member) with rfl | before
    next => exact id ▸ Nat.lt_succ_self _
    next => exact Nat.lt_succ_of_lt (listed.given other before)
  sizes other member := by
    rcases List.mem_cons.mp (perm.mem_iff.mp member) with rfl | before
    next => exact size
    next => exact listed.sizes other before

theorem closeTab_active (active : session.activeTab < session.tabs.length) {index : Nat} (other : index ≠ session.activeTab) :
    (session.closeTab index).2.tabs[(session.closeTab index).2.activeTab]? = session.tabs[session.activeTab]? := by
  unfold closeTab
  split
  next => rfl
  next more =>
    have left : (session.tabs.eraseIdx index).length = session.tabs.length - 1 :=
      List.length_eraseIdx_of_lt (by omega)
    simp only [left, List.getElem?_eraseIdx]
    by_cases last : session.tabs.length - 1 ≤ session.activeTab
    next =>
      -- The active tab was the last one, so the closed one is before it.
      have after : session.tabs.length - 1 - 1 + 1 = session.activeTab := by omega
      rw [if_pos last, if_neg (show ¬ session.tabs.length - 1 - 1 < index by omega), after]
    next =>
      rw [if_neg last]
      by_cases before : index < session.activeTab
      next =>
        have after : session.activeTab - 1 + 1 = session.activeTab := by omega
        rw [if_pos before, if_neg (show ¬ session.activeTab - 1 < index by omega), after]
      next => rw [if_neg before, if_pos (show session.activeTab < index by omega)]

theorem closeTabById_active (active : session.activeTab < session.tabs.length) {tabId : Nat}
    (other : session.activeTabId ≠ some tabId) :
    (session.closeTabById tabId).2.tabs[(session.closeTabById tabId).2.activeTab]? = session.tabs[session.activeTab]? := by
  unfold closeTabById
  split
  next => rfl
  next =>
    split
    next index found =>
      refine closeTab_active active fun same => other ?_
      obtain ⟨inside, matched, -⟩ := List.findIdx?_eq_some_iff_getElem.mp found
      rw [activeTabId, ← same, List.getElem?_eq_getElem inside, Option.map_some, beq_iff_eq.mp matched]
    next => rfl

theorem closeTab_size (session : Session R) (index : Nat) : (session.closeTab index).2.size = session.size := by
  unfold closeTab
  split <;> rfl

section Step

variable [Ratio R]

theorem selected_size {op : SessionOp} (same : selects op = true) (session : Session R) :
    Ensures AnyPanic (step op session) fun next => next.size = session.size := by
  have swapped : ∀ other, Ensures AnyPanic
      (do
        let tabs <- session.swapTabs session.activeTab other
        Except.ok (true, { session with tabs, activeTab := other })) fun result => result.2.size = session.size :=
    fun other => ensures_after _ fun tabs => rfl
  cases op with
  | rename name => rfl
  | closeTab index => exact closeTab_size session index
  | closeTabById tabId =>
    show (session.closeTabById tabId).2.size = session.size
    unfold closeTabById
    split
    next => rfl
    next => split <;> simp only [closeTab_size]
  | switchTab index =>
    show (session.switchTab index).2.size = session.size
    unfold switchTab
    split <;> rfl
  | nextTab =>
    show session.nextTab.2.size = session.size
    unfold nextTab
    split <;> rfl
  | prevTab =>
    show session.prevTab.2.size = session.size
    unfold prevTab
    split <;> rfl
  | togglePreviousTab =>
    show session.togglePreviousTab.2.size = session.size
    unfold togglePreviousTab
    split
    next => split <;> rfl
    next => rfl
  | moveTabLeft => exact Ensures.map (.ite (fun _ => rfl) fun _ => swapped _)
  | moveTabRight => exact Ensures.map (ensures_after _ fun _ => .ite (fun _ => rfl) fun _ => swapped _)
  | moveTabLeftWrapping =>
    exact Ensures.map (.ite (fun _ => rfl) fun _ => .ite (fun _ => ensures_after _ fun _ => rfl) fun _ => swapped _)
  | moveTabRightWrapping =>
    exact Ensures.map (.ite (fun _ => rfl) fun _ => .ite (fun _ => ensures_after _ fun _ => rfl) fun _ => swapped _)
  | _ => cases same

theorem newTab_listed (listed : session.Listed) (name : String) :
    Ensures (· = .arithmetic) (session.newTab name) fun result => result.2.Listed := by
  unfold newTab
  rcases takeTabId_cases session with taken | full
  next =>
    rw [taken, ok_bind]
    exact listed.join (List.perm_append_singleton _ session.tabs) rfl rfl (by simp) session.previousTab
  next =>
    rw [full, error_bind]
    rfl

theorem breakPaneToNewTab_listed (listed : session.Listed) (paneId : PaneId) :
    Ensures (· = .arithmetic) (session.breakPaneToNewTab paneId) fun result => result.2.Listed := by
  obtain ⟨tab, found⟩ : ∃ tab, session.tabs[session.activeTab]? = some tab :=
    ⟨_, List.getElem?_eq_getElem listed.active⟩
  have stays := Tab.stays_closePane tab paneId
  have closed := listed.set found stays.id stays.size
  unfold breakPaneToNewTab
  rw [get_ok found, ok_bind]
  refine .ite (fun _ => listed) fun _ => .ite (fun _ => listed) fun _ => ?_
  rw [set_ok _ listed.active, ok_bind]
  rcases takeTabId_cases { session with tabs := session.tabs.set session.activeTab (tab.closePane paneId).2 } with
    taken | full
  next =>
    rw [taken, ok_bind]
    have fits : session.activeTab + 1 ≤ (session.tabs.set session.activeTab (tab.closePane paneId).2).length := by
      rw [List.length_set]
      exact listed.active
    simp only
    rw [if_neg (Nat.not_lt.mpr fits)]
    refine closed.join (List.perm_insertIdx _ _ fits) rfl rfl ?_ (some session.activeTab)
    rw [List.length_insertIdx_of_le_length fits]
    exact Nat.lt_succ_of_le fits
  next =>
    rw [full, error_bind]
    rfl

theorem resize_listed (listed : session.Listed) (cols rows : Nat) : (session.resize cols rows).Listed where
  active := by
    rw [resize, List.length_map]
    exact listed.active
  distinct := by
    rw [resize, List.map_map]
    exact listed.distinct
  given := List.forall_mem_map.mpr listed.given
  sizes := List.forall_mem_map.mpr fun _ _ => rfl

theorem onTab_listed (listed : session.Listed) (index : Nat) {call_ : TabCall R}
    (sized : ∀ op, call_ = .op op -> Tab.resizes op = false) :
    Ensures (· = .arithmetic) (session.call (.onTab index call_)) Listed := by
  simp only [call]
  cases found : session.tabs[index]? with
  | none => exact listed
  | some tab => exact (Tab.call_same tab sized).bind fun next same => ensures_ok (listed.set found same.1 same.2)

/-- A resize of one tab by itself, for which the session has no operation. -/
def resizesTab : SessionCall R -> Bool
  | .op (.onTab _ op) | .op (.onActiveTab op) | .onTab _ (.op op) => Tab.resizes op
  | _ => false

def closesOther : SessionCall R -> Session R -> Prop
  | .op (.closeTab index), session => index ≠ session.activeTab
  | .op (.closeTabById tabId), session => session.activeTabId ≠ some tabId
  | _, _ => False

def moves : SessionCall R -> Bool
  | .op .moveTabLeft | .op .moveTabRight | .op .moveTabLeftWrapping | .op .moveTabRightWrapping => true
  | _ => false

/-- What a call leaves: the list in order, the active tab active where the call has no business with it, and the same
tabs after a move. -/
structure Tended (call_ : SessionCall R) (session next : Session R) : Prop where
  listed : next.Listed
  active : closesOther call_ session ∨ moves call_ = true -> next.activeTabId = session.activeTabId
  moved : moves call_ = true -> next.tabs.Perm session.tabs

theorem step_listed (listed : session.Listed) {op : SessionOp} (sized : resizesTab (.op op : SessionCall R) = false) :
    Ensures (· = .arithmetic) (session.step op) Listed := by
  have onTab : ∀ (index : Nat) (op : TabOp), Tab.resizes op = false ->
      Ensures (· = .arithmetic) (session.onTab index op) Listed :=
    fun index op keeps => onTab_listed listed index fun other same => TabCall.op.inj same ▸ keeps
  cases op with
  | newTab name => exact (newTab_listed listed name).map
  | breakPaneToNewTab paneId => exact (breakPaneToNewTab_listed listed paneId).map
  | movePaneToNewTabRight =>
    refine Ensures.map ?_
    unfold movePaneToNewTabRight
    rw [get_ok (List.getElem?_eq_getElem listed.active), ok_bind]
    split
    next paneId _ => exact breakPaneToNewTab_listed listed paneId
    next => exact listed
  | resize cols rows => exact resize_listed listed cols rows
  | onTab index op => exact onTab index op sized
  | onActiveTab op =>
    show Ensures (· = .arithmetic) (session.onActiveTab op) Listed
    unfold onActiveTab
    rw [get_ok (List.getElem?_eq_getElem listed.active), ok_bind]
    exact onTab session.activeTab op sized
  | _ =>
    refine ((step_selects rfl listed.active).and (selected_size rfl session)).weaken fun next both => ?_
    exact listed.selected both.1 both.2

theorem call_tended (listed : session.Listed) {call_ : SessionCall R} (sized : resizesTab call_ = false) :
    Ensures (· = .arithmetic) (session.call call_) (Tended call_ session) := by
  have still : ∀ {next : Session R}, next.tabs[next.activeTab]? = session.tabs[session.activeTab]? ->
      next.activeTabId = session.activeTabId := fun same => congrArg (Option.map Tab.id) same
  cases call_ with
  | onTab index call_ =>
    refine (onTab_listed listed index fun op same => ?_).weaken fun next listed => ⟨listed, by simp [closesOther, moves], nofun⟩
    subst same
    exact sized
  | op op =>
    have kept := step_listed listed sized
    have arranged : ∀ {move : Fallible (Bool × Session R)}, Ensures (· = .arithmetic) (move.map Prod.snd) Listed ->
        Ensures (· = .arithmetic) move (fun result => Moved session result.2) ->
        Ensures (· = .arithmetic) (move.map Prod.snd) (Tended (.op op) session) := by
      intro move kept moved
      refine (kept.and (moved.allow fun _ _ => trivial).map).weaken fun next both => ?_
      exact ⟨both.1, fun _ => still both.2.active, fun _ => both.2.tabs⟩
    cases op with
    | moveTabLeft => exact arranged kept (moveTabLeft_moves listed.active)
    | moveTabRight => exact arranged kept (moveTabRight_moves listed.active)
    | moveTabLeftWrapping => exact arranged kept (moveTabLeftWrapping_moves listed.active)
    | moveTabRightWrapping => exact arranged kept (moveTabRightWrapping_moves listed.active)
    | closeTab index =>
      refine ⟨kept, fun other => still ?_, nofun⟩
      exact closeTab_active listed.active (other.resolve_right nofun)
    | closeTabById tabId =>
      refine ⟨kept, fun other => still ?_, nofun⟩
      exact closeTabById_active listed.active (other.resolve_right nofun)
    | _ => exact kept.weaken fun next listed => ⟨listed, by simp [closesOther, moves], nofun⟩

theorem new_listed (name : String) (cols rows : Nat) : (new name cols rows : Session R).Listed where
  active := Nat.one_pos
  distinct := List.nodup_singleton _
  given := List.forall_mem_singleton.mpr Nat.one_pos
  sizes := List.forall_mem_singleton.mpr rfl

theorem reachable_tended {calls : List (SessionCall R)} (sized : ∀ call_ ∈ calls, resizesTab call_ = false)
    (name : String) (cols rows : Nat) :
    Throughout call Listed calls (new name cols rows) ∧
      Along call (fun call_ session => Ensures (· = .arithmetic) (session.call call_) (Tended call_ session)) calls
        (new name cols rows) := by
  have through : Throughout call Listed calls (new name cols rows : Session R) := by
    refine throughout_of_along (fun call_ session sized listed => ?_) (along_of_forall sized _) (new_listed name cols rows)
    exact ((call_tended listed sized).weaken fun next tended => tended.listed).allow fun _ _ => trivial
  refine ⟨through, ?_⟩
  have each := (through.along fun (_ : SessionCall R) _ listed => listed).with_members sized
  exact each.weaken fun call_ session both => call_tended both.1 both.2

theorem reachable_tended_break :
    Throughout call Listed [.op (.newTab "b"), .op (.onActiveTab (.splitPane .vertical)), .op (.breakPaneToNewTab 0),
        .op .moveTabRightWrapping, .op (.closeTab 1)] (new "main" 80 24 : Session Rat) ∧
      Along call (fun call_ session => Ensures (· = .arithmetic) (session.call call_) (Tended call_ session))
        [.op (.newTab "b"), .op (.onActiveTab (.splitPane .vertical)), .op (.breakPaneToNewTab 0),
          .op .moveTabRightWrapping, .op (.closeTab 1)] (new "main" 80 24 : Session Rat) :=
  reachable_tended (by decide) "main" 80 24

end Step

end Session

end Emux
