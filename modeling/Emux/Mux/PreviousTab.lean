import Emux.Library.Recall
import Emux.Mux.Custody

set_option autoImplicit false

/-!
# The previous tab

A session remembers a previous tab by its place in the list. Every call is one change of the list of tab ids, and the place
is written by some of them only.
-/

namespace Emux

open Checked Recall

variable {R : Type} [Ratio R]

theorem Tab.call_id (tab : Tab R) (call_ : TabCall R) : Ensures AnyPanic (tab.call call_) fun next => next.id = tab.id := by
  by_cases sized : ∀ op, call_ = .op op -> resizes op = false
  next => exact ((call_same tab sized).weaken fun next same => same.1).allow fun _ _ => trivial
  next =>
    push Not at sized
    obtain ⟨op, rfl, resizes⟩ := sized
    cases op with
    | resize cols rows => rfl
    | _ => exact absurd rfl resizes

namespace Session

omit [Ratio R] in
def deck (session : Session R) : Deck Nat :=
  { items := session.tabs.map Tab.id, current := session.activeTab, recorded := session.previousTab }

def closing (session : Session R) (index : Nat) : Turn Nat :=
  if session.tabs.length ≤ 1 ∨ session.tabs.length ≤ index then .stay else .remove index

def broken : Fallible (Option Nat × Session R) -> Turn Nat
  | .ok (some tabId, _) => .insert tabId
  | _ => .stay

def turnOf (session : Session R) : SessionCall R -> Turn Nat
  | .op (.newTab _) => if session.nextTabId + 1 < 2 ^ 32 then .append session.nextTabId else .stay
  | .op (.closeTab index) => session.closing index
  | .op (.closeTabById tabId) =>
    match session.tabs.findIdx? fun tab => tab.id == tabId with
    | some index => session.closing index
    | none => .stay
  | .op (.switchTab index) => if index < session.tabs.length then .visit index else .stay
  | .op .nextTab => if session.tabs.length ≤ 1 then .stay else .jump ((session.activeTab + 1) % session.tabs.length)
  | .op .prevTab =>
    if session.tabs.length ≤ 1 then .stay
    else .jump (if session.activeTab = 0 then session.tabs.length - 1 else session.activeTab - 1)
  | .op .togglePreviousTab => .back
  | .op .moveTabLeft =>
    if session.activeTab = 0 ∨ session.tabs.length ≤ 1 then .stay else .swap (session.activeTab - 1)
  | .op .moveTabRight =>
    if session.tabs.length - 1 ≤ session.activeTab ∨ session.tabs.length ≤ 1 then .stay else .swap (session.activeTab + 1)
  | .op .moveTabLeftWrapping =>
    if session.tabs.length ≤ 1 then .stay
    else if session.activeTab = 0 then .toEnd
    else .swap (session.activeTab - 1)
  | .op .moveTabRightWrapping =>
    if session.tabs.length ≤ 1 then .stay
    else if session.tabs.length - 1 ≤ session.activeTab then .toFront
    else .swap (session.activeTab + 1)
  | .op (.breakPaneToNewTab paneId) => broken (session.breakPaneToNewTab paneId)
  | .op .movePaneToNewTabRight => broken session.movePaneToNewTabRight
  | _ => .stay

structure Numbered (session : Session R) : Prop where
  sound : session.deck.Sound
  given : ∀ id ∈ session.deck.items, id < session.nextTabId

structure Turns (turn : Turn Nat) (session next : Session R) : Prop where
  deck : next.deck = session.deck.turn turn
  ids : next.nextTabId = session.nextTabId + (Deck.added turn).length
  fits : session.deck.Fits turn
  new : ∀ id ∈ Deck.added turn, id = session.nextTabId

variable {session next : Session R}

omit [Ratio R] in
theorem Numbered.active (numbered : session.Numbered) : session.activeTab < session.tabs.length := by
  simpa [Session.deck] using numbered.sound.inside

omit [Ratio R] in
theorem Turns.numbered {turn : Turn Nat} (turns : Turns turn session next) (numbered : session.Numbered) : next.Numbered where
  sound := turns.deck ▸ Deck.turn_sound numbered.sound turns.fits
  given id member := by
    rw [turns.deck] at member
    rw [turns.ids]
    rcases Deck.mem_turn numbered.sound turns.fits member with added | before
    next =>
      have some := List.length_pos_of_mem added
      rw [turns.new id added]
      omega
    next => exact Nat.lt_add_right _ (numbered.given id before)

omit [Ratio R] in
theorem turns_stay (deck : next.deck = session.deck) (ids : next.nextTabId = session.nextTabId) : Turns .stay session next :=
  ⟨deck, ids, trivial, nofun⟩

omit [Ratio R] in
theorem closeTab_turns (session : Session R) (index : Nat) : Turns (session.closing index) session (session.closeTab index).2 := by
  unfold closing closeTab
  split
  next => exact turns_stay rfl rfl
  next more =>
    have fits : index < session.tabs.length := by omega
    refine ⟨?_, rfl, ⟨by simpa [Session.deck] using fits, ?_⟩, nofun⟩
    next =>
      simp only [Session.deck, Deck.turn, Deck.currentWithout, List.eraseIdx_map, List.length_map]
      rw [List.length_eraseIdx_of_lt fits]
      rfl
    next =>
      rw [Session.deck, List.length_map]
      omega

omit [Ratio R] in
theorem closeTabById_turns (session : Session R) (tabId : Nat) :
    Turns (match session.tabs.findIdx? fun tab => tab.id == tabId with
      | some index => session.closing index
      | none => .stay) session (session.closeTabById tabId).2 := by
  unfold closeTabById
  cases session.tabs.findIdx? fun tab => tab.id == tabId with
  | none =>
    simp only [ite_self]
    exact turns_stay rfl rfl
  | some index =>
    simp only
    split
    next few =>
      rw [closing, if_pos (.inl few)]
      exact turns_stay rfl rfl
    next => exact closeTab_turns session index

theorem newTab_turns (numbered : session.Numbered) (name : String) :
    Ensures (fun _ => session.turnOf (.op (.newTab name)) = .stay) (session.newTab name) fun result =>
      Turns (session.turnOf (.op (.newTab name))) session result.2 := by
  unfold newTab takeTabId turnOf
  by_cases fits : session.nextTabId + 1 < 2 ^ 32
  next =>
    rw [if_pos fits, add_ok fits, ok_bind, ok_bind]
    refine ⟨?_, rfl, fun member => ?_, by simp [Deck.added]⟩
    next => simp [Session.deck, Deck.turn, Tab.new]
    next => exact Nat.lt_irrefl _ (numbered.given _ member)
  next =>
    rw [if_neg fits, add, if_neg fits, error_bind]
    rfl

omit [Ratio R] in
theorem swapTabs_turns (numbered : session.Numbered) {other : Nat} (inside : other < session.tabs.length)
    (differs : other ≠ session.activeTab) : Ensures (fun _ => False)
      (do
        let tabs <- session.swapTabs session.activeTab other
        Except.ok (true, { session with tabs, activeTab := other })) fun result =>
      Turns (.swap other) session result.2 := by
  have active := numbered.active
  rw [swapTabs_ok active inside, ok_bind]
  refine ⟨?_, rfl, ⟨by simpa [Session.deck] using inside, differs⟩, nofun⟩
  rw [Deck.turn_swap numbered.sound.inside (by simpa [Session.deck] using inside)]
  simp [Session.deck, List.map_set]

omit [Ratio R] in
theorem togglePreviousTab_turns (session : Session R) : Turns .back session session.togglePreviousTab.2 := by
  have length : session.deck.items.length = session.tabs.length := List.length_map ..
  refine ⟨?_, ?_, trivial, nofun⟩
  next =>
    unfold togglePreviousTab
    simp only [Deck.turn, length]
    split
    next place is =>
      rw [show session.deck.recorded = some place from is]
      simp only
      split <;> rfl
    next is =>
      rw [show session.deck.recorded = none from is]
  next =>
    unfold togglePreviousTab
    split
    next => split <;> rfl
    next => rfl

omit [Ratio R] in
theorem moveTabLeft_turns (numbered : session.Numbered) : Ensures (fun _ => False) session.moveTabLeft fun result =>
    Turns (if session.activeTab = 0 ∨ session.tabs.length ≤ 1 then .stay else .swap (session.activeTab - 1)) session
      result.2 := by
  have active := numbered.active
  unfold moveTabLeft
  split
  next => exact turns_stay rfl rfl
  next => exact swapTabs_turns numbered (by omega) (by omega)

omit [Ratio R] in
theorem moveTabRight_turns (numbered : session.Numbered) : Ensures (fun _ => False) session.moveTabRight fun result =>
    Turns (if session.tabs.length - 1 ≤ session.activeTab ∨ session.tabs.length ≤ 1 then .stay
      else .swap (session.activeTab + 1)) session result.2 := by
  have active := numbered.active
  unfold moveTabRight
  rw [sub_ok (show 1 ≤ session.tabs.length by omega), ok_bind]
  split
  next => exact turns_stay rfl rfl
  next => exact swapTabs_turns numbered (by omega) (by omega)

omit [Ratio R] in
theorem moveTabLeftWrapping_turns (numbered : session.Numbered) :
    Ensures (fun _ => False) session.moveTabLeftWrapping fun result =>
      Turns (if session.tabs.length ≤ 1 then .stay
        else if session.activeTab = 0 then .toEnd
        else .swap (session.activeTab - 1)) session result.2 := by
  have active := numbered.active
  unfold moveTabLeftWrapping
  split
  next => exact turns_stay rfl rfl
  next several =>
    split
    next first =>
      have inside : 0 < session.tabs.length := by omega
      rw [get_ok (List.getElem?_eq_getElem inside), ok_bind]
      refine ⟨?_, rfl, ⟨first, by simpa [Session.deck] using several⟩, nofun⟩
      rw [Deck.turn_toEnd numbered.sound.inside]
      simp [Session.deck, first]
    next later => exact swapTabs_turns numbered (by omega) (by omega)

omit [Ratio R] in
theorem moveTabRightWrapping_turns (numbered : session.Numbered) :
    Ensures (fun _ => False) session.moveTabRightWrapping fun result =>
      Turns (if session.tabs.length ≤ 1 then .stay
        else if session.tabs.length - 1 ≤ session.activeTab then .toFront
        else .swap (session.activeTab + 1)) session result.2 := by
  have active := numbered.active
  unfold moveTabRightWrapping
  split
  next => exact turns_stay rfl rfl
  next several =>
    split
    next last =>
      rw [get_ok (List.getElem?_eq_getElem active), ok_bind]
      have fits : session.deck.Fits .toFront := by
        refine ⟨?_, by simpa [Session.deck] using several⟩
        simp only [Session.deck, List.length_map]
        omega
      refine ⟨?_, rfl, fits, nofun⟩
      rw [Deck.turn_toFront numbered.sound.inside]
      simp [Session.deck, List.eraseIdx_map]
    next => exact swapTabs_turns numbered (by omega) (by omega)

theorem afterBreak_turns (numbered : session.Numbered) {tab : Tab R} (active : session.tabs[session.activeTab]? = some tab)
    (paneId : PaneId) : Turns (.insert session.nextTabId) session (session.afterBreak tab paneId) := by
  refine ⟨?_, rfl, fun member => Nat.lt_irrefl _ (numbered.given _ member), by simp [Deck.added]⟩
  have ids := ids_set active (Tab.stays_closePane tab paneId).id
  simp only [Session.deck, afterBreak, Deck.turn, List.map_insertIdx, ids]
  rfl

theorem breakPaneToNewTab_turns (numbered : session.Numbered) (paneId : PaneId) :
    Ensures (fun _ => broken (session.breakPaneToNewTab paneId) = .stay) (session.breakPaneToNewTab paneId) fun result =>
      Turns (broken (session.breakPaneToNewTab paneId)) session result.2 := by
  cases returned : session.breakPaneToNewTab paneId with
  | error panic => rfl
  | ok result =>
    obtain ⟨broke, next⟩ := result
    rcases breakPaneToNewTab_cases returned with ⟨rfl, rfl⟩ | ⟨tab, pane, active, -, -, rfl, rfl⟩
    next => exact turns_stay rfl rfl
    next => exact afterBreak_turns numbered active paneId

theorem onTab_turns (index : Nat) (call_ : TabCall R) :
    Ensures AnyPanic (session.call (.onTab index call_)) (Turns .stay session) := by
  simp only [call]
  cases found : session.tabs[index]? with
  | none => exact turns_stay rfl rfl
  | some tab =>
    refine (Tab.call_id tab call_).bind fun tab' id => ?_
    refine turns_stay ?_ rfl
    simp only [Session.deck, ids_set found id]

theorem call_turns (numbered : session.Numbered) (call_ : SessionCall R) :
    Ensures (fun _ => session.turnOf call_ = .stay) (session.call call_) (Turns (session.turnOf call_) session) := by
  have active := numbered.active
  have onTab : ∀ (index : Nat) (call_ : TabCall R), Ensures (fun _ => (.stay : Turn Nat) = .stay)
      (session.call (.onTab index call_)) (Turns .stay session) :=
    fun index call_ => (onTab_turns index call_).allow fun _ _ => rfl
  -- A call on one tab changes no place; every other call is one turn of the deck.
  cases call_ with
  | onTab index call_ => exact onTab index call_
  | op op =>
    cases op with
    | rename name => exact turns_stay rfl rfl
    | newTab name => exact (newTab_turns numbered name).map
    | closeTab index => exact closeTab_turns session index
    | closeTabById tabId => exact closeTabById_turns session tabId
    | switchTab index =>
      show Turns (if index < session.tabs.length then .visit index else .stay) session (session.switchTab index).2
      unfold switchTab
      split
      next inside => exact ⟨rfl, rfl, by simpa [Session.deck, Deck.Fits] using inside, nofun⟩
      next => exact turns_stay rfl rfl
    | nextTab =>
      show Turns (if session.tabs.length ≤ 1 then .stay else .jump _) session session.nextTab.2
      unfold nextTab
      split
      next => exact turns_stay rfl rfl
      next =>
        refine ⟨rfl, rfl, ?_, nofun⟩
        simpa [Session.deck, Deck.Fits] using Nat.mod_lt _ (by omega)
    | prevTab =>
      show Turns (if session.tabs.length ≤ 1 then .stay else .jump _) session session.prevTab.2
      unfold prevTab
      split
      next => exact turns_stay rfl rfl
      next =>
        refine ⟨rfl, rfl, ?_, nofun⟩
        simp only [Session.deck, Deck.Fits, List.length_map]
        split <;> omega
    | togglePreviousTab => exact togglePreviousTab_turns session
    | moveTabLeft => exact ((moveTabLeft_turns numbered).allow fun _ => False.elim).map
    | moveTabRight => exact ((moveTabRight_turns numbered).allow fun _ => False.elim).map
    | moveTabLeftWrapping => exact ((moveTabLeftWrapping_turns numbered).allow fun _ => False.elim).map
    | moveTabRightWrapping => exact ((moveTabRightWrapping_turns numbered).allow fun _ => False.elim).map
    | breakPaneToNewTab paneId => exact (breakPaneToNewTab_turns numbered paneId).map
    | movePaneToNewTabRight =>
      obtain ⟨tab, found⟩ : ∃ tab, session.tabs[session.activeTab]? = some tab := ⟨_, List.getElem?_eq_getElem active⟩
      refine Ensures.map ?_
      show Ensures (fun _ => broken session.movePaneToNewTabRight = .stay) session.movePaneToNewTabRight fun result =>
        Turns (broken session.movePaneToNewTabRight) session result.2
      unfold movePaneToNewTabRight
      rw [get_ok found, ok_bind]
      cases tab.activePane with
      | none => exact turns_stay rfl rfl
      | some paneId => exact breakPaneToNewTab_turns numbered paneId
    | resize cols rows =>
      refine turns_stay ?_ rfl
      simp only [Session.deck, Session.resize, List.map_map]
      rfl
    | onTab index op => exact onTab index (.op op)
    | onActiveTab op =>
      show Ensures _ (session.onActiveTab op) _
      unfold onActiveTab
      rw [get_ok (List.getElem?_eq_getElem active), ok_bind]
      exact onTab session.activeTab (.op op)

end Session

/-- A session with the id of the tab that was active before the active one. -/
structure TabTrail (R : Type) where
  session : Session R
  earlier : Option Nat

namespace TabTrail

def start (name : String) (cols rows : Nat) : TabTrail R := { session := Session.new name cols rows, earlier := none }

def call (call_ : SessionCall R) (trail : TabTrail R) : Fallible (TabTrail R) := do
  let session <- trail.session.call call_
  let earlier :=
    if session.activeTabId = trail.session.activeTabId then trail.earlier else trail.session.activeTabId
  .ok { session, earlier }

/-- Toggling activates the tab that was active before the active one, if it is still open, and no other. -/
structure Toggles (trail : TabTrail R) : Prop where
  found : ∀ tab ∈ trail.session.tabs, trail.earlier = some tab.id ->
    trail.session.togglePreviousTab.1 = true ∧ trail.session.togglePreviousTab.2.activeTabId = some tab.id
  lost : (∀ tab ∈ trail.session.tabs, trail.earlier ≠ some tab.id) ->
    trail.session.togglePreviousTab.2.activeTabId = trail.session.activeTabId

variable {trail : TabTrail R}

omit [Ratio R] in
theorem now_eq (session : Session R) : session.deck.now = session.activeTabId := List.getElem?_map

omit [Ratio R] in
theorem togglePreviousTab_target (session : Session R) :
    session.togglePreviousTab.1 = session.deck.target.isSome ∧
      session.togglePreviousTab.2.activeTabId = session.deck.target.or session.activeTabId := by
  have place : ∀ place, session.deck.items[place]? = session.tabs[place]?.map Tab.id := fun _ => List.getElem?_map
  unfold Session.togglePreviousTab Deck.target
  cases is : session.previousTab with
  | none => simp [Session.deck, is]
  | some previous =>
    rw [show session.deck.recorded = some previous from is, Option.bind_some, place]
    by_cases inside : previous < session.tabs.length
    next => simp [inside, Session.activeTabId]
    next => simp [inside]

omit [Ratio R] in
theorem toggles_iff : trail.Toggles ↔ trail.session.deck.Recalls trail.earlier := by
  obtain ⟨returned, active⟩ := togglePreviousTab_target trail.session
  have listed : ∀ id, id ∈ trail.session.deck.items ↔ ∃ tab ∈ trail.session.tabs, tab.id = id := fun _ => List.mem_map
  -- The index that was recorded leads to the tab before as long as no other tab stands there.
  constructor
  next =>
    intro toggles
    refine ⟨fun id same member => ?_, fun gone => ?_⟩
    next =>
      obtain ⟨tab, inside, rfl⟩ := (listed id).mp member
      obtain ⟨found, activated⟩ := toggles.found tab inside same
      obtain ⟨target, is⟩ := Option.isSome_iff_exists.mp (returned.symm.trans found)
      rw [active, is, Option.some_or] at activated
      rwa [is]
    next =>
      have stays := toggles.lost fun tab inside same => gone tab.id same ((listed _).mpr ⟨tab, inside, rfl⟩)
      rw [now_eq]
      cases target : trail.session.deck.target with
      | none => exact .inl rfl
      | some id =>
        rw [active, target, Option.some_or] at stays
        exact .inr stays
  next =>
    intro recalls
    refine ⟨fun tab inside same => ?_, fun gone => ?_⟩
    next =>
      have target := recalls.found tab.id same ((listed _).mpr ⟨tab, inside, rfl⟩)
      rw [returned, active, target]
      exact ⟨rfl, rfl⟩
    next =>
      have off := recalls.lost fun id same member => by
        obtain ⟨tab, inside, rfl⟩ := (listed id).mp member
        exact gone tab inside same
      rw [active]
      rcases off with none | now
      next => rw [none, Option.none_or]
      next =>
        rw [now, now_eq]
        exact Option.or_self

theorem call_trail {call_ : SessionCall R} {next : TabTrail R} (called : trail.call call_ = .ok next) :
    trail.session.call call_ = .ok next.session ∧ next.earlier = trail.session.deck.since next.session.deck trail.earlier := by
  obtain ⟨session, returned, same⟩ := (bind_ok_iff ..).mp called
  obtain rfl := Except.ok.inj same
  refine ⟨returned, ?_⟩
  simp only [Deck.since, now_eq]

def Remembers (trail : TabTrail R) : Prop :=
  trail.session.Numbered ∧ trail.session.deck.Remembers trail.earlier

theorem start_remembers (name : String) (cols rows : Nat) : (start name cols rows : TabTrail R).Remembers := by
  have sound : (start name cols rows : TabTrail R).session.deck.Sound := ⟨List.nodup_singleton 0, Nat.one_pos⟩
  refine ⟨⟨sound, List.forall_mem_singleton.mpr Nat.one_pos⟩, sound, ⟨nofun, fun _ => .inl rfl⟩, nofun⟩

theorem toggles_throughout_iff (calls : List (SessionCall R)) (name : String) (cols rows : Nat) :
    Throughout call Toggles calls (start name cols rows : TabTrail R) ↔
      Along call (fun call_ trail => trail.session.deck.Keeps (trail.session.turnOf call_)) calls (start name cols rows) := by
  refine throughout_iff_along_within (fun trail remembers => toggles_iff.mpr remembers.2.recalls) ?_ ?_ calls
    (start_remembers name cols rows)
  next =>
    rintro call_ trail ⟨numbered, remembers⟩ keeps
    refine ensures_any_iff.mpr fun next called => ?_
    obtain ⟨returned, earlier⟩ := call_trail called
    have turns := (Session.call_turns numbered call_).of_ok returned
    refine ⟨turns.numbered numbered, ?_⟩
    rw [earlier, turns.deck]
    exact remembers.turn turns.fits keeps
  next =>
    rintro call_ trail ⟨numbered, remembers⟩ refused
    cases returned : trail.session.call call_ with
    | error panic =>
      have panics := Session.call_turns numbered call_
      rw [returned] at panics
      exact absurd (show trail.session.deck.Keeps (trail.session.turnOf call_) from panics ▸ trivial) refused
    | ok session =>
      have turns := (Session.call_turns numbered call_).of_ok returned
      refine ⟨_, by rw [call, returned, ok_bind], fun toggles => refused ?_⟩
      have recalls := toggles_iff.mp toggles
      rw [← Deck.recalls_turn_iff remembers turns.fits, ← turns.deck]
      simpa only [Deck.since, now_eq] using recalls

/-- The third tab is active and the second was before it, but the first is remembered. -/
def wandered : TabTrail Rat where
  session :=
    { (Session.new "main" 80 24 : Session Rat) with
      tabs := [Tab.new 0 "Tab 1" 80 24, Tab.new 1 "b" 80 24, Tab.new 2 "c" 80 24]
      activeTab := 2
      previousTab := some 0
      nextTabId := 3 }
  earlier := some 1

theorem toggle_skips_tab : ¬Throughout call Toggles
    [.op (.newTab "b"), .op (.newTab "c"), .op (.switchTab 0), .op (.switchTab 1), .op .nextTab]
    (start "main" 80 24 : TabTrail Rat) := by
  intro through
  have toggles : wandered.Toggles := through.last.of_ok rfl
  have second := (toggles.found (Tab.new 1 "b" 80 24) (by simp [wandered]) rfl).2
  exact absurd second (by decide)

end TabTrail

end Emux
