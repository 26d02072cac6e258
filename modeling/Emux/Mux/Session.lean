import Emux.Mux.TabRuns

set_option autoImplicit false

/-!
# Sessions

A session is an ordered list of tabs, one of them active. Pane ids are given out by each tab for itself;
`allocatesApart` says when an operation gives out one that no other tab has.
-/

namespace Emux

open Checked

structure Session (R : Type) where
  name : String
  previousName : Option String
  tabs : List (Tab R)
  activeTab : Nat
  previousTab : Option Nat
  nextTabId : Nat
  size : PaneSize

namespace Session

variable {R : Type} [Ratio R]

def new (name : String) (cols rows : Nat) : Session R where
  name
  previousName := none
  tabs := [Tab.new 0 "Tab 1" cols rows]
  activeTab := 0
  previousTab := none
  nextTabId := 1
  size := { rows, cols }

def rename (session : Session R) (name : String) : Session R := { session with previousName := some session.name, name }

/-- `next_tab_id`, and the session with the counter moved on. -/
def takeTabId (session : Session R) : Fallible (Nat × Session R) := do
  let nextTabId <- add (2 ^ 32) session.nextTabId 1
  .ok (session.nextTabId, { session with nextTabId })

def newTab (session : Session R) (name : String) : Fallible (Nat × Session R) := do
  let (tabId, session) <- session.takeTabId
  let tabs := session.tabs ++ [Tab.new tabId name session.size.cols session.size.rows]
  .ok (tabId, { session with tabs, activeTab := tabs.length - 1 })

def closeTab (session : Session R) (index : Nat) : Bool × Session R :=
  if session.tabs.length ≤ 1 ∨ session.tabs.length ≤ index then (false, session)
  else
    let tabs := session.tabs.eraseIdx index
    let activeTab :=
      if tabs.length ≤ session.activeTab then tabs.length - 1
      else if index < session.activeTab then session.activeTab - 1
      else session.activeTab
    (true, { session with tabs, activeTab })

def closeTabById (session : Session R) (tabId : Nat) : Bool × Session R :=
  if session.tabs.length ≤ 1 then (false, session)
  else
    match session.tabs.findIdx? fun tab => tab.id == tabId with
    | some index => session.closeTab index
    | none => (false, session)

def switchTab (session : Session R) (index : Nat) : Bool × Session R :=
  if index < session.tabs.length then
    let previousTab := if index ≠ session.activeTab then some session.activeTab else session.previousTab
    (true, { session with previousTab, activeTab := index })
  else (false, session)

def nextTab (session : Session R) : Bool × Session R :=
  if session.tabs.length ≤ 1 then (false, session)
  else (true, { session with activeTab := (session.activeTab + 1) % session.tabs.length })

def prevTab (session : Session R) : Bool × Session R :=
  if session.tabs.length ≤ 1 then (false, session)
  else
    let activeTab := if session.activeTab = 0 then session.tabs.length - 1 else session.activeTab - 1
    (true, { session with activeTab })

def togglePreviousTab (session : Session R) : Bool × Session R :=
  match session.previousTab with
  | some previous =>
    if previous < session.tabs.length then
      (true, { session with activeTab := previous, previousTab := some session.activeTab })
    else (false, session)
  | none => (false, session)

def resize (session : Session R) (cols rows : Nat) : Session R :=
  { session with size := { rows, cols }, tabs := session.tabs.map fun tab => tab.resize cols rows }

/-- `self.tabs.swap(a, b)` -/
def swapTabs (session : Session R) (a b : Nat) : Fallible (List (Tab R)) := do
  let first <- get session.tabs a
  let second <- get session.tabs b
  let tabs <- set session.tabs a second
  set tabs b first

def moveTabLeft (session : Session R) : Fallible (Bool × Session R) :=
  if session.activeTab = 0 ∨ session.tabs.length ≤ 1 then .ok (false, session)
  else do
    let tabs <- session.swapTabs session.activeTab (session.activeTab - 1)
    .ok (true, { session with tabs, activeTab := session.activeTab - 1 })

def moveTabRight (session : Session R) : Fallible (Bool × Session R) := do
  let last <- sub session.tabs.length 1
  if last ≤ session.activeTab ∨ session.tabs.length ≤ 1 then .ok (false, session)
  else
    let tabs <- session.swapTabs session.activeTab (session.activeTab + 1)
    .ok (true, { session with tabs, activeTab := session.activeTab + 1 })

def moveTabLeftWrapping (session : Session R) : Fallible (Bool × Session R) :=
  if session.tabs.length ≤ 1 then .ok (false, session)
  else if session.activeTab = 0 then do
    let tab <- get session.tabs 0
    let tabs := session.tabs.eraseIdx 0 ++ [tab]
    .ok (true, { session with tabs, activeTab := tabs.length - 1 })
  else do
    let tabs <- session.swapTabs session.activeTab (session.activeTab - 1)
    .ok (true, { session with tabs, activeTab := session.activeTab - 1 })

def moveTabRightWrapping (session : Session R) : Fallible (Bool × Session R) :=
  if session.tabs.length ≤ 1 then .ok (false, session)
  else if session.tabs.length - 1 ≤ session.activeTab then do
    let tab <- get session.tabs session.activeTab
    let tabs := tab :: session.tabs.eraseIdx session.activeTab
    .ok (true, { session with tabs, activeTab := 0 })
  else do
    let tabs <- session.swapTabs session.activeTab (session.activeTab + 1)
    .ok (true, { session with tabs, activeTab := session.activeTab + 1 })

/-- An operation on `tab_mut(index)`, with what the tab returns dropped. -/
def onTab (session : Session R) (index : Nat) (op : TabOp) : Fallible (Session R) :=
  match session.tabs[index]? with
  | some tab => do
    let tab <- tab.step op
    .ok { session with tabs := session.tabs.set index tab }
  | none => .ok session

/-- An operation on `active_tab_mut()`, which indexes. -/
def onActiveTab (session : Session R) (op : TabOp) : Fallible (Session R) := do
  let _ <- get session.tabs session.activeTab
  session.onTab session.activeTab op

/-- The pane is closed in the active tab; the new tab starts with a pane of its own. -/
def breakPaneToNewTab (session : Session R) (paneId : PaneId) : Fallible (Option Nat × Session R) := do
  let tab <- get session.tabs session.activeTab
  if tab.paneCount ≤ 1 then .ok (none, session)
  else if paneId ∉ tab.panes then .ok (none, session)
  else
    let tabs <- set session.tabs session.activeTab (tab.closePane paneId).2
    let (tabId, session) <- { session with tabs }.takeTabId
    let newTab := Tab.new tabId s!"Tab {tabId + 1}" session.size.cols session.size.rows
    let insertPos := session.activeTab + 1
    if session.tabs.length < insertPos then .error .index
    else
      let tabs := session.tabs.insertIdx insertPos newTab
      .ok (some tabId, { session with tabs, previousTab := some session.activeTab, activeTab := insertPos })

def movePaneToNewTabRight (session : Session R) : Fallible (Option Nat × Session R) := do
  let tab <- get session.tabs session.activeTab
  match tab.activePane with
  | some activePane => session.breakPaneToNewTab activePane
  | none => .ok (none, session)

end Session

end Emux
