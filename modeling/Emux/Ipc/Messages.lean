import Emux.Mux.Session
import Emux.Term.Performer

set_option autoImplicit false

/-!
# Messages and pane stores

What clients send and servers reply, and the pane stores that `handle_ipc` works on. What the operating system
does for a pseudoterminal is a parameter.
-/

namespace Emux

open Checked

inductive ClientMessage where
  | ping
  | getVersion
  | keyInput (data : Bytes)
  | resize (cols rows : UInt16)
  | spawnPane (direction : Option String)
  | killPane (paneId : PaneId)
  | focusPane (paneId : PaneId)
  | detach
  | attach (cols rows : UInt16)
  | listSessions
  | killSession (name : String)
  | splitPane (direction : SplitDirection) (size : Option UInt16)
  | capturePane (paneId : PaneId)
  | sendKeys (paneId : PaneId) (keys : String)
  | listPanes
  | getPaneInfo (paneId : PaneId)
  | resizePane (paneId : PaneId) (cols rows : UInt16)
  | setPaneTitle (paneId : PaneId) (title : String)
  deriving DecidableEq, Repr

structure SessionEntry where
  name : String
  tabs : Nat
  panes : Nat
  cols : Nat
  rows : Nat
  deriving DecidableEq, Repr

structure PaneEntry where
  id : PaneId
  title : String
  cols : UInt16
  rows : UInt16
  active : Bool
  hasNotification : Bool
  deriving DecidableEq, Repr

inductive ServerMessage where
  | pong
  | version (version : Nat)
  | spawnResult (paneId : PaneId)
  | error (message : String)
  | ack
  | sessionList (sessions : List SessionEntry)
  | paneCaptured (paneId : PaneId) (content : String)
  | paneList (panes : List PaneEntry)
  | paneInfo (pane : PaneEntry)
  deriving DecidableEq, Repr

def protocolVersion : Nat := 1

def Row.text (row : Row) : String :=
  String.ofList (((row.cells.filter fun cell => cell.width != 0).map Cell.c).reverse.dropWhile (· == ' ')).reverse

def Screen.rowText (s : Screen) (row : Nat) : Fallible String := do
  let line <- get s.grid.lines row
  .ok line.text

def Screen.content (s : Screen) : Fallible String := do
  let lines <- (List.range s.rows).mapM s.rowText
  .ok ("\n".intercalate lines)

/-- What the pseudoterminals do while a message is handled: the output each pane has pending, the outcome of a
write to it, and the outcome of a spawn. -/
structure Pty where
  output : PaneId -> Bytes
  write : PaneId -> Bytes -> Except String Unit
  spawn : Except String Unit

structure PaneAccess (S : Type) where
  capturePane : PaneId -> S -> Fallible (Option String × S)
  sendKeys : PaneId -> Bytes -> S -> Except String Unit
  removePane : PaneId -> S -> S
  spawnPane : PaneId -> Nat -> Nat -> S -> Except String S

variable {P : Type}

/-- A store by pane id. The stores of the daemon and of the application differ in how a pane's content is read
and in the state of a new pane. -/
def storeAccess (pty : Pty) (capture : PaneId -> P -> Fallible (String × P)) (fresh : Nat -> Nat -> P) :
    PaneAccess (Keyed.Map PaneId P) where
  capturePane id panes :=
    match panes.lookup id with
    | some pane => do
      let (content, pane) <- capture id pane
      .ok (some content, Keyed.modify panes id fun _ => pane)
    | none => .ok (none, panes)
  sendKeys id data panes :=
    match panes.lookup id with
    | some _ => (pty.write id data).mapError fun e => s!"write error: {e}"
    | none => .error s!"pane {id} not found"
  removePane id panes := panes.erase id
  spawnPane id cols rows panes :=
    match pty.spawn with
    | .ok () => .ok (panes.insert id (fresh cols rows))
    | .error e => .error s!"spawn error: {e}"

/-- `DaemonPanes` reads what the pane has pending before it captures the screen. -/
def daemonCapture (pty : Pty) (id : PaneId) (terminal : Terminal) : Fallible (String × Terminal) := do
  let terminal <- terminal.feed (pty.output id)
  let content <- terminal.screen.content
  .ok (content, terminal)

def daemonPanes (pty : Pty) : PaneAccess (Keyed.Map PaneId Terminal) :=
  storeAccess pty (daemonCapture pty) Terminal.new

structure DamageTracker where
  dirtyRows : List Bool
  fullRedraw : Bool
  deriving DecidableEq, Repr

def DamageTracker.new (rows : Nat) : DamageTracker := { dirtyRows := List.replicate rows false, fullRedraw := true }

/-- `PaneState`: a terminal of the application and what of it is to be redrawn. -/
structure PaneState where
  terminal : Terminal
  damage : DamageTracker

/-- `spawn_pane_state` -/
def PaneState.new (cols rows : Nat) : PaneState where
  terminal := { screen := { Screen.new cols rows with damageMode := .row } }
  damage := DamageTracker.new rows

/-- `StandalonePaneAccess` captures the screen as it is. -/
def standaloneCapture (_ : PaneId) (pane : PaneState) : Fallible (String × PaneState) := do
  let content <- pane.terminal.screen.content
  .ok (content, pane)

def standalonePanes (pty : Pty) : PaneAccess (Keyed.Map PaneId PaneState) :=
  storeAccess pty standaloneCapture PaneState.new

end Emux
