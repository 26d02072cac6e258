import Emux.Loop.Command

set_option autoImplicit false

/-!
# The event loop

What the loop does between two frames, as events in any order: a chunk of output, the panes whose child has ended,
a command with its side effects. New pseudoterminals are taken to start; what is written to them and their own
sizes are outside.
-/

namespace Emux

open Checked

namespace PaneState

/-- The body of the loop of `sync_pty_sizes`. -/
def sync (pos : PanePosition) (pane : PaneState) : Fallible PaneState := do
  let pane <- onlyIf (pane.screen.cols ≠ pos.cols ∨ pane.screen.rows ≠ pos.rows) pane (resize pos)
  .ok pane.markAll

/-- What `drain_pty_reads` does with one chunk. -/
def drain (bytes : Bytes) (pane : PaneState) : Fallible PaneState := do
  let terminal <- pane.terminal.feed bytes
  let (regions, screen) := terminal.screen.scrollViewportReset.takeDamage
  let damage := regions.foldl (fun damage region => damage.markRow region.row) pane.damage
  .ok { terminal := { terminal with screen }, damage }

end PaneState

/-- The first frame and the one after a new configuration are drawn in full, and one is drawn after every input. -/
inductive Frame where
  | full
  | output
  | input
  deriving DecidableEq, Repr

inductive LoopEvent where
  | output (paneId : PaneId) (bytes : Bytes)
  /-- The panes whose child has ended, in the order the map yields them. -/
  | died (paneIds : List PaneId)
  | command (command : Command)
  | frame (frame : Frame)
  deriving DecidableEq, Repr

namespace EventLoop

variable {R : Type} [Ratio R]

def syncPtySizes (app : EventLoop R) : Fallible (EventLoop R) := do
  let tab <- app.session.current
  let panes <- PaneState.eachListed PaneState.sync tab.computePositions app.panes
  .ok { app with panes }

def executeSideEffects (result : DispatchResult) (app : EventLoop R) : Fallible (EventLoop R) := do
  let app <-
    match result.spawnPane with
    | some (paneId, pcols, prows) =>
      syncPtySizes { app with panes := app.panes.insert paneId (PaneState.new pcols prows) }
    | none => .ok app
  onlyIf (result.forceClear = true) app syncPtySizes

omit [Ratio R] in
def drainOutput (paneId : PaneId) (bytes : Bytes) (app : EventLoop R) : Fallible (EventLoop R) :=
  match app.panes.lookup paneId with
  | some pane => do
    let pane <- pane.drain bytes
    .ok { app with panes := Keyed.modify app.panes paneId fun _ => pane }
  | none => .ok app

/-- `handle_dead_panes`, for the dead panes as the loop over the map finds them. -/
def removeDied (paneIds : List PaneId) (app : EventLoop R) : Fallible (EventLoop R) := do
  let (quit, next) <- app.toApp.removeDead (paneIds.filter fun id => id ∈ app.panes)
  .ok { app with toApp := next, exited := quit }

def runCommand (command : Command) (app : EventLoop R) : Fallible (EventLoop R) := do
  let (result, app) <- app.dispatch command
  let app <- app.executeSideEffects result
  .ok { app with exited := result.exit.isSome }

omit [Ratio R] in
/-- `render_all`, as far as it changes the application. -/
def renderAll (forceClear : Bool) (app : EventLoop R) : EventLoop R :=
  let app := if forceClear then app.markAllDirty else app
  if forceClear || app.panes.entries.any fun entry => entry.2.damage.needsRedraw then
    { app with panes := Keyed.mapValues app.panes fun pane => { pane with damage := pane.damage.clear } }
  else app

omit [Ratio R] in
def drawFrame (frame : Frame) (app : EventLoop R) : Fallible (EventLoop R) :=
  match frame with
  | .full => .ok (app.renderAll true)
  | .output => .ok (app.renderAll false)
  | .input => do
    let app <- app.markActiveDirty
    .ok (app.renderAll false)

def step (event : LoopEvent) (app : EventLoop R) : Fallible (EventLoop R) :=
  if app.exited then .ok app
  else
    match event with
    | .output paneId bytes => app.drainOutput paneId bytes
    | .died paneIds => app.removeDied paneIds
    | .command command => app.runCommand command
    | .frame frame => app.drawFrame frame

/-- What `run_event_loop` sets up before its first frame. -/
def start (cols rows : UInt16) : EventLoop R where
  session := Session.new "main" cols.toNat (rows.toNat - 1)
  panes := AList.singleton 0 (PaneState.new cols.toNat (rows.toNat - 1))
  borderDrag := none
  exited := false

/-- Every pane that the active tab lists has a screen and a tracker of the size of its rectangle. -/
def SizesAgree (app : EventLoop R) : Prop :=
  ∀ tab, app.session.tabs[app.session.activeTab]? = some tab -> ∀ placed ∈ tab.computePositions,
    ∃ pane, app.panes.lookup placed.1 = some pane ∧ pane.screen.cols = placed.2.cols ∧
      pane.screen.rows = placed.2.rows ∧ pane.damage.dirtyRows.length = placed.2.rows

end EventLoop

end Emux
