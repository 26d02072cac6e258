import Mathlib.Data.Multiset.ZeroCons
import Emux.Mux.TabList

set_option autoImplicit false

/-!
# The panes of a session

What a session holds are the panes of all its tabs, tiled and floating, whatever sizes their places give them. A pane is
closed when it is broken out, and the new tab starts with one of its own.
-/

namespace Emux

open Checked

variable {R : Type} [Ratio R]

def Pane.contents (pane : Pane) : Pane := { pane with size := { rows := 0, cols := 0 } }

namespace Tab

def tiledContents (tab : Tab R) : Keyed.Map PaneId Pane := Keyed.mapValues tab.panes Pane.contents

def floatingContents (tab : Tab R) : List Pane := tab.floatingPanes.map fun floating => floating.pane.contents

def contents (tab : Tab R) : List Pane := tab.tiledContents.entries.map Sigma.snd ++ tab.floatingContents

theorem tiledContents_sync (tab : Tab R) : tab.syncPaneSizes.tiledContents = tab.tiledContents := by
  unfold tiledContents
  rw [syncPaneSizes_panes]
  unfold resizeAll
  -- Each pane of the layout is resized in turn.
  generalize tab.tiledPositions = positions
  generalize tab.panes = panes
  induction positions generalizing panes with
  | nil => rfl
  | cons placed rest ih =>
    rw [List.foldl_cons, ih]
    exact Keyed.mapValues_modify panes placed.1 fun _ => rfl

theorem contents_autoSwapLayout (tab : Tab R) :
    tab.autoSwapLayout.tiledContents = tab.tiledContents ∧ tab.autoSwapLayout.floatingPanes = tab.floatingPanes := by
  refine ⟨?_, (autoSwapLayout_panes tab).2⟩
  unfold autoSwapLayout
  split
  next index _ =>
    split
    next =>
      unfold applySwapLayoutAt
      split
      next => exact tiledContents_sync _
      next => rfl
    next => rfl
  next => rfl

theorem contents_closePane {tab : Tab R} {id : PaneId} (several : ¬tab.paneCount ≤ 1) (tiled : id ∈ tab.panes) :
    (tab.closePane id).2.tiledContents = tab.tiledContents.erase id ∧
      (tab.closePane id).2.floatingPanes = tab.floatingPanes := by
  unfold closePane
  rw [if_neg several, if_neg (not_not_intro tiled)]
  obtain ⟨contents, floating⟩ := contents_autoSwapLayout (syncPaneSizes
    { tab with
      fullscreenPane := if tab.fullscreenPane = some id then none else tab.fullscreenPane
      layout := (tab.layout.removePane id).2
      panes := tab.panes.erase id
      activePane := if tab.activePane = some id then (tab.layout.removePane id).2.paneIds.head? else tab.activePane })
  refine ⟨contents.trans ((tiledContents_sync _).trans ?_), floating⟩
  exact Keyed.mapValues_erase tab.panes Pane.contents id

theorem contents_perm_closePane {tab : Tab R} {id : PaneId} {pane : Pane} (several : ¬tab.paneCount ≤ 1)
    (found : tab.panes.lookup id = some pane) :
    tab.contents.Perm (pane.contents :: (tab.closePane id).2.contents) := by
  have tiled : id ∈ tab.panes := AList.lookup_isSome.mp (by rw [found]; rfl)
  obtain ⟨closed, floating⟩ := contents_closePane several tiled
  have there : tab.tiledContents.lookup id = some pane.contents := by
    rw [tiledContents, Keyed.lookup_mapValues, found]
    rfl
  unfold contents floatingContents
  rw [closed, floating, ← List.cons_append]
  exact ((Keyed.entries_perm_erase there).map Sigma.snd).append_right _

end Tab

namespace Session

variable {session next : Session R} {paneId : PaneId}

def contents (session : Session R) : List Pane := session.tabs.flatMap Tab.contents

def afterBreak (session : Session R) (tab : Tab R) (paneId : PaneId) : Session R :=
  { session with
    tabs := (session.tabs.set session.activeTab (tab.closePane paneId).2).insertIdx (session.activeTab + 1)
      (Tab.new session.nextTabId s!"Tab {session.nextTabId + 1}" session.size.cols session.size.rows)
    activeTab := session.activeTab + 1
    previousTab := some session.activeTab
    nextTabId := session.nextTabId + 1 }

theorem breakPaneToNewTab_cases {broke : Option Nat} (returned : session.breakPaneToNewTab paneId = .ok (broke, next)) :
    broke = none ∧ next = session ∨
      ∃ tab pane, session.tabs[session.activeTab]? = some tab ∧ tab.panes.lookup paneId = some pane ∧
        ¬tab.paneCount ≤ 1 ∧ broke = some session.nextTabId ∧ next = session.afterBreak tab paneId := by
  unfold breakPaneToNewTab at returned
  cases active : session.tabs[session.activeTab]? with
  | none => simp [Checked.get, active] at returned
  | some tab =>
    have inside : session.activeTab < session.tabs.length := (List.getElem?_eq_some_iff.mp active).1
    rw [get_ok active, ok_bind] at returned
    split at returned
    next => exact .inl (by simpa [eq_comm] using returned)
    next several =>
      split at returned
      next => exact .inl (by simpa [eq_comm] using returned)
      next tiled =>
        rw [set_ok _ inside, ok_bind] at returned
        rcases takeTabId_cases { session with tabs := session.tabs.set session.activeTab (tab.closePane paneId).2 } with
          taken | full
        next =>
          rw [taken, ok_bind] at returned
          simp only [List.length_set] at returned
          rw [if_neg (by omega)] at returned
          obtain ⟨rfl, rfl⟩ := Prod.mk.inj (Except.ok.inj returned)
          obtain ⟨pane, found⟩ := Option.isSome_iff_exists.mp (AList.lookup_isSome.mpr (not_not.mp tiled))
          exact .inr ⟨tab, pane, rfl, found, several, rfl, rfl⟩
        next =>
          rw [full, error_bind] at returned
          cases returned

/-- What there should be after the pane has left this tab, the active one, for a new tab. -/
structure BrokenOut (session next : Session R) (tab : Tab R) (paneId : PaneId) (pane : Pane) (tabId : Nat) : Prop where
  conserved : next.contents.Perm session.contents
  /-- Two tabs of the list are not among those of before: the one the pane has left and the one it is in. -/
  tabs : ∃ left out : Tab R,
    next.tabs = (session.tabs.set session.activeTab left).insertIdx (session.activeTab + 1) out ∧
    out.id = tabId ∧ out.contents = [pane.contents] ∧
    (∀ other, other ≠ paneId -> left.tiledContents.lookup other = tab.tiledContents.lookup other) ∧
    left.floatingPanes = tab.floatingPanes

omit [Ratio R] in
theorem contents_perm_eraseIdx {tab : Tab R} {index : Nat} (found : session.tabs[index]? = some tab) :
    session.contents.Perm (tab.contents ++ (session.tabs.eraseIdx index).flatMap Tab.contents) := by
  obtain ⟨inside, is⟩ := List.getElem?_eq_some_iff.mp found
  have perm := List.getElem_cons_eraseIdx_perm inside
  rw [is] at perm
  exact perm.symm.flatMap_right _

theorem contents_perm_afterBreak {tab : Tab R} (active : session.tabs[session.activeTab]? = some tab) (paneId : PaneId) :
    (session.afterBreak tab paneId).contents.Perm ((Pane.new 0 0 0).contents :: ((tab.closePane paneId).2.contents ++
      (session.tabs.eraseIdx session.activeTab).flatMap Tab.contents)) := by
  have inside : session.activeTab < session.tabs.length := (List.getElem?_eq_some_iff.mp active).1
  have fits : session.activeTab + 1 ≤ (session.tabs.set session.activeTab (tab.closePane paneId).2).length := by
    rw [List.length_set]
    exact inside
  have joined := List.perm_insertIdx (Tab.new session.nextTabId s!"Tab {session.nextTabId + 1}" session.size.cols
    session.size.rows : Tab R) _ fits
  have closed := List.set_perm_cons_eraseIdx inside (tab.closePane paneId).2
  exact (joined.trans (closed.cons _)).flatMap_right _

theorem breakPane_conserves_iff {broke : Option Nat} (returned : session.breakPaneToNewTab paneId = .ok (broke, next)) :
    (broke = none -> next = session) ∧
    ∀ tabId, broke = some tabId -> ∃ tab pane,
      session.tabs[session.activeTab]? = some tab ∧ tab.panes.lookup paneId = some pane ∧
      (BrokenOut session next tab paneId pane tabId ↔ pane.contents = (Pane.new 0 0 0).contents) := by
  -- Refused, or the pane is closed and the new tab begins with another one.
  rcases breakPaneToNewTab_cases returned with ⟨rfl, same⟩ | ⟨tab, pane, active, found, several, rfl, rfl⟩
  next => exact ⟨fun _ => same, nofun⟩
  next =>
    refine ⟨nofun, fun tabId is => ⟨tab, pane, active, found, ?_⟩⟩
    obtain rfl := Option.some.inj is
    have before := (contents_perm_eraseIdx active).trans ((Tab.contents_perm_closePane several found).append_right _)
    have after := contents_perm_afterBreak active paneId
    constructor
    next =>
      intro broken
      have exchanged := Multiset.coe_eq_coe.mpr (before.symm.trans (broken.conserved.symm.trans after))
      rw [List.cons_append, ← Multiset.cons_coe, ← Multiset.cons_coe] at exchanged
      exact (Multiset.cons_inj_left _).mp exchanged
    next =>
      intro fresh
      refine ⟨after.trans (fresh ▸ before.symm), (tab.closePane paneId).2, _, rfl, rfl, ?_, ?_, ?_⟩
      next =>
        rw [fresh]
        rfl
      next =>
        intro other differs
        have tiled : paneId ∈ tab.panes := AList.lookup_isSome.mp (by rw [found]; rfl)
        rw [(Tab.contents_closePane several tiled).1, AList.lookup_erase_ne differs]
      next =>
        have tiled : paneId ∈ tab.panes := AList.lookup_isSome.mp (by rw [found]; rfl)
        exact (Tab.contents_closePane several tiled).2

def beside : Tab Rat :=
  { Tab.new 0 "Tab 1" 80 24 with
    layout := { root := some (.Split .vertical (1 / 2) (.Leaf 0) (.Leaf 1)) }
    panes := AList.insert 1 ((Pane.new 1 40 24).setTitle "vim") (AList.singleton 0 (Pane.new 0 40 24))
    nextPaneId := 2 }

def editing : Session Rat := { (Session.new "main" 80 24 : Session Rat) with tabs := [beside] }

theorem breakPane_conserves_iff_untouched : BrokenOut editing (editing.afterBreak beside 0) beside 0 (Pane.new 0 40 24) 1 := by
  obtain ⟨tab, pane, active, found, conserves⟩ :=
    (@breakPane_conserves_iff Rat _ editing (editing.afterBreak beside 0) 0 (some 1) rfl).2 1 rfl
  obtain rfl : beside = tab := Option.some.inj active
  obtain rfl : Pane.new 0 40 24 = pane := Option.some.inj found
  exact conserves.mpr rfl

/-- The pane with the title is lost. -/
theorem broken_out_pane_lost : ∃ next, editing.breakPaneToNewTab 1 = .ok (some 1, next) ∧
    ¬∃ tab pane, BrokenOut editing next tab 1 pane 1 := by
  refine ⟨editing.afterBreak beside 1, rfl, ?_⟩
  rintro ⟨tab, pane, broken⟩
  have kept := broken.conserved.mem_iff (a := ((Pane.new 1 40 24).setTitle "vim").contents)
  revert kept
  decide +kernel

end Session

end Emux
