import Emux.Ipc.Handler
import Emux.Mux.App
import Emux.Term.Viewport

set_option autoImplicit false

/-!
# Commands of the event loop

`dispatch` changes the session and the panes and says what the loop has to do after it. The state of the search,
of copy mode and of the mouse selection is left out: no command lets it decide about the session or about a
screen. What such a command marks for redrawing is here.
-/

namespace Emux

open Checked

namespace DamageTracker

def markRow (damage : DamageTracker) (row : Nat) : DamageTracker :=
  { damage with dirtyRows := damage.dirtyRows.set row true }

def markAll (damage : DamageTracker) : DamageTracker := { damage with fullRedraw := true }

def clear (damage : DamageTracker) : DamageTracker where
  dirtyRows := damage.dirtyRows.map fun _ => false
  fullRedraw := false

def isDirty (damage : DamageTracker) (row : Nat) : Bool := damage.fullRedraw || damage.dirtyRows.getD row false

def needsRedraw (damage : DamageTracker) : Bool := damage.fullRedraw || damage.dirtyRows.any id

def resize (damage : DamageTracker) (rows : Nat) : DamageTracker where
  dirtyRows := damage.dirtyRows.take rows ++ List.replicate (rows - damage.dirtyRows.length) false
  fullRedraw := true

end DamageTracker

namespace PaneState

def screen (pane : PaneState) : Screen := pane.terminal.screen

def onScreen (pane : PaneState) (update : Screen -> Screen) : PaneState :=
  { pane with terminal := { pane.terminal with screen := update pane.screen } }

def markAll (pane : PaneState) : PaneState := { pane with damage := pane.damage.markAll }

/-- `ps.screen.resize(..)` and `ps.damage.resize(..)` -/
def resize (pos : PanePosition) (pane : PaneState) : Fallible PaneState := do
  let screen <- pane.screen.resize pos.cols pos.rows
  .ok { terminal := { pane.terminal with screen }, damage := pane.damage.resize pos.rows }

/-- Run the loop `for (id, pos) in &positions` over the panes that are there. -/
def eachListed (body : PanePosition -> PaneState -> Fallible PaneState) :
    List (PaneId × PanePosition) -> Keyed.Map PaneId PaneState -> Fallible (Keyed.Map PaneId PaneState)
  | [], panes => .ok panes
  | (id, pos) :: rest, panes =>
    match panes.lookup id with
    | some pane => do
      let pane <- body pos pane
      eachListed body rest (Keyed.modify panes id fun _ => pane)
    | none => eachListed body rest panes

end PaneState

structure BorderDrag where
  paneId : PaneId
  vertical : Bool
  lastCol : UInt16
  lastRow : UInt16
  deriving DecidableEq, Repr

inductive CopyMotion where
  | left
  | down
  | up
  | right
  | startOfLine
  | endOfLine
  | gotoTop
  | gotoBottom
  | halfPageUp
  | halfPageDown
  deriving DecidableEq, Repr

/-- The commands, without the points of a mouse selection and the text of a configuration. -/
inductive Command where
  | splitPane (direction : SplitDirection)
  | closeActivePane
  | newTab
  | closeTab
  | nextTab
  | prevTab
  | focusDirection (direction : FocusDirection)
  | toggleFullscreen
  | toggleFloat
  | scrollUp (amount : Nat)
  | scrollDown (amount : Nat)
  | enterSearchMode
  | exitSearchMode
  | enterCopyMode
  | exitCopyMode
  | searchAppendChar (c : Char)
  | searchDeleteChar
  | searchNextMatch
  | searchPrevMatch
  | copyMove (motion : CopyMotion)
  | copyToggleSelection
  | copyYank
  | forwardKeyToPty (bytes : Bytes)
  | forwardPaste (data : Bytes)
  | forwardFocus (gained : Bool)
  | quit
  | detach
  | focusPane (paneId : PaneId)
  | startBorderDrag (drag : BorderDrag)
  | continueBorderDrag (col row : UInt16)
  | endBorderDrag
  | startMouseSelection (paneId : PaneId)
  | extendMouseSelection
  | finalizeMouseSelection
  | forwardMouseToPty (paneId : PaneId) (bytes : Bytes)
  | scrollPaneUp (paneId : PaneId) (amount : Nat)
  | scrollPaneDown (paneId : PaneId) (amount : Nat)
  | resize (cols rows : UInt16)
  | reloadConfig
  deriving DecidableEq, Repr

inductive ExitReason where
  | quit
  | detach
  deriving DecidableEq, Repr

structure DispatchResult where
  needsRender : Bool := false
  forceClear : Bool := false
  exit : Option ExitReason := none
  ptyWrites : List (PaneId × Bytes) := []
  spawnPane : Option (PaneId × Nat × Nat) := none
  deriving DecidableEq, Repr

namespace DispatchResult

def none : DispatchResult := {}

def render : DispatchResult := { needsRender := true }

def renderClear : DispatchResult := { needsRender := true, forceClear := true }

def write (result : DispatchResult) (id : PaneId) (bytes : Bytes) : DispatchResult :=
  if bytes.isEmpty then result else { result with ptyWrites := result.ptyWrites ++ [(id, bytes)] }

end DispatchResult

def encodeFocus (focused reportingEnabled : Bool) : Bytes :=
  if reportingEnabled then (if focused then 0x1B :: ascii ['[', 'I'] else 0x1B :: ascii ['[', 'O']) else []

/-- `App`, and whether the loop has returned. -/
structure EventLoop (R : Type) extends App R PaneState where
  borderDrag : Option BorderDrag
  exited : Bool

variable {R : Type}

namespace EventLoop

def markAllDirty (app : EventLoop R) : EventLoop R :=
  { app with panes := Keyed.mapValues app.panes PaneState.markAll }

/-- `if let Some(ps) = app.panes.get_mut(&id)` -/
def onPane (app : EventLoop R) (id : PaneId) (update : PaneState -> PaneState) : EventLoop R :=
  { app with panes := Keyed.modify app.panes id update }

def onActivePane (app : EventLoop R) (update : PaneState -> PaneState) : Fallible (EventLoop R) := do
  let tab <- app.session.current
  match tab.activePane with
  | some activeId => .ok (app.onPane activeId update)
  | none => .ok app

def markActiveDirty (app : EventLoop R) : Fallible (EventLoop R) := app.onActivePane PaneState.markAll

def setTab (app : EventLoop R) (tab : Tab R) : EventLoop R := { app with session := app.session.setCurrent tab }

variable [Ratio R]

def dispatchSplitPane (direction : SplitDirection) (app : EventLoop R) : Fallible (DispatchResult × EventLoop R) := do
  let tab <- app.session.current
  match <- tab.splitPane direction with
  | (some newId, tab) =>
    let (pcols, prows) := ((tab.listed newId).map fun pos => (pos.cols, pos.rows)).getD (80, 24)
    .ok ({ DispatchResult.render with spawnPane := some (newId, pcols, prows) }, (app.setTab tab).markAllDirty)
  | (none, tab) => .ok (.render, (app.setTab tab).markAllDirty)

def dispatchCloseActivePane (app : EventLoop R) : Fallible (DispatchResult × EventLoop R) := do
  let tab <- app.session.current
  match tab.activePane with
  | some activeId =>
    if 1 < tab.paneCount then
      let app := app.setTab (tab.closePane activeId).2
      .ok (.renderClear, { app with panes := app.panes.erase activeId }.markAllDirty)
    else .ok (.render, app)
  | none => .ok (.render, app)

def dispatchNewTab (app : EventLoop R) : Fallible (DispatchResult × EventLoop R) := do
  let size := app.session.size
  let count := app.session.tabs.length
  let (_, session) <- app.session.newTab s!"Tab {count}"
  let tab <- session.current
  let newPaneId <- get tab.layout.paneIds 0
  let app := { app with session }.markAllDirty
  .ok ({ DispatchResult.render with spawnPane := some (newPaneId, size.cols, size.rows) }, app)

def dispatchCloseTab (app : EventLoop R) : Fallible (DispatchResult × EventLoop R) := do
  let tab <- app.session.current
  let (closed, session) := app.session.closeTab app.session.activeTab
  let panes := if closed then Keyed.eraseAll app.panes tab.layout.paneIds else app.panes
  .ok (.render, { app with session, panes }.markAllDirty)

def dispatchResize (cols rows : UInt16) (app : EventLoop R) : Fallible (DispatchResult × EventLoop R) := do
  let session := app.session.resize cols.toNat (rows.toNat - 1)
  let tab <- session.current
  let panes <- PaneState.eachListed PaneState.resize tab.computePositions app.panes
  .ok (.renderClear, { app with session, panes })

def dispatchForwardFocus (gained : Bool) (app : EventLoop R) : Fallible DispatchResult := do
  let tab <- app.session.current
  match tab.activePane with
  | some activeId =>
    match app.panes.lookup activeId with
    | some pane => .ok (DispatchResult.none.write activeId (encodeFocus gained pane.screen.modes.focusTracking))
    | none => .ok .none
  | none => .ok .none

def forward (bytes : Bytes) (app : EventLoop R) : Fallible DispatchResult := do
  let tab <- app.session.current
  match tab.activePane with
  | some activeId => .ok (DispatchResult.render.write activeId bytes)
  | none => .ok .render

def continueBorderDrag (col row : UInt16) (drag : BorderDrag) (app : EventLoop R) : Fallible (EventLoop R) := do
  let tab <- app.session.current
  let delta : Int := if drag.vertical then col.toNat - drag.lastCol.toNat else row.toNat - drag.lastRow.toNat
  let direction : ResizeDirection := if drag.vertical then .right else .down
  let tab := if delta ≠ 0 then (tab.resizePane drag.paneId direction delta).2 else tab
  .ok { app.setTab tab with borderDrag := some { drag with lastCol := col, lastRow := row } }.markAllDirty

def dispatchOnTab (method : Tab R -> Tab R) (app : EventLoop R) : Fallible (DispatchResult × EventLoop R) := do
  let tab <- app.session.current
  .ok (.render, (app.setTab (method tab)).markAllDirty)

def dispatchOnActivePane (update : PaneState -> PaneState) (app : EventLoop R) :
    Fallible (DispatchResult × EventLoop R) := do
  let app <- app.onActivePane update
  .ok (.render, app)

def scrolled (scroll : Screen -> Screen) (pane : PaneState) : PaneState := (pane.onScreen scroll).markAll

def dispatch (command : Command) (app : EventLoop R) : Fallible (DispatchResult × EventLoop R) :=
  match command with
  | .splitPane direction => app.dispatchSplitPane direction
  | .closeActivePane => app.dispatchCloseActivePane
  | .newTab => app.dispatchNewTab
  | .closeTab => app.dispatchCloseTab
  | .nextTab => .ok (.render, { app with session := app.session.nextTab.2 }.markAllDirty)
  | .prevTab => .ok (.render, { app with session := app.session.prevTab.2 }.markAllDirty)
  | .focusDirection direction => app.dispatchOnTab fun tab => (tab.focusDirection direction).2
  | .toggleFullscreen => app.dispatchOnTab fun tab => tab.toggleFullscreen.2
  | .toggleFloat => app.dispatchOnTab Tab.toggleFloatingPanes
  | .scrollUp amount => app.dispatchOnActivePane (scrolled fun s => s.scrollViewportUp (max amount 1))
  | .scrollDown amount => app.dispatchOnActivePane (scrolled fun s => s.scrollViewportDown (max amount 1))
  | .enterSearchMode | .exitSearchMode => .ok (.render, app)
  | .enterCopyMode => app.dispatchOnActivePane PaneState.markAll
  | .exitCopyMode => .ok (.render, app.markAllDirty)
  | .searchAppendChar _ | .searchDeleteChar | .searchNextMatch | .searchPrevMatch => .ok (.render, app)
  | .copyMove _ => app.dispatchOnActivePane PaneState.markAll
  | .copyToggleSelection => app.dispatchOnActivePane PaneState.markAll
  | .copyYank => .ok (.render, app.markAllDirty)
  | .forwardKeyToPty bytes => do
    let app <- app.onActivePane fun pane => pane.onScreen Screen.scrollViewportReset
    let result <- app.forward bytes
    .ok (result, app)
  | .forwardPaste data => do
    let result <- app.forward data
    .ok (result, app.markAllDirty)
  | .forwardFocus gained => do
    let result <- app.dispatchForwardFocus gained
    .ok (result, app)
  | .quit => .ok ({ exit := some .quit }, app)
  | .detach => .ok ({ exit := some .detach }, app)
  | .focusPane paneId => do
    let tab <- app.session.current
    if tab.activePane ≠ some paneId then .ok (.render, (app.setTab (tab.focusPane paneId).2).markAllDirty)
    else .ok (.render, app)
  | .startBorderDrag drag => .ok (.none, { app with borderDrag := some drag })
  | .continueBorderDrag col row =>
    match app.borderDrag with
    | some drag => do
      let app <- app.continueBorderDrag col row drag
      .ok (.render, app)
    | none => .ok (.render, app)
  | .endBorderDrag => .ok (.renderClear, { app with borderDrag := none })
  | .startMouseSelection _ => .ok (.render, app)
  | .extendMouseSelection | .finalizeMouseSelection => .ok (.render, app.markAllDirty)
  | .forwardMouseToPty paneId bytes => .ok (DispatchResult.none.write paneId bytes, app)
  | .scrollPaneUp paneId amount => .ok (.render, app.onPane paneId (scrolled fun s => s.scrollViewportUp amount))
  | .scrollPaneDown paneId amount => .ok (.render, app.onPane paneId (scrolled fun s => s.scrollViewportDown amount))
  | .resize cols rows => app.dispatchResize cols rows
  | .reloadConfig => .ok (.renderClear, app.markAllDirty)

end EventLoop

end Emux
