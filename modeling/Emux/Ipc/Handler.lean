import Emux.Ipc.Messages
import Emux.Mux.TabRuns

set_option autoImplicit false

/-!
# The shared message handler

`handle_ipc`, which the daemon and the application's agent socket both use, and when its replies match what it has
done: an error that everything is as before, a success that layout and pane store went through the same change.
-/

namespace Emux

open Checked

structure IpcResult where
  response : ServerMessage
  syncSizes : Bool
  deriving DecidableEq, Repr

namespace IpcResult

def reply (response : ServerMessage) : IpcResult := { response, syncSizes := false }

def replyWithSync (response : ServerMessage) : IpcResult := { response, syncSizes := true }

end IpcResult

variable {R S P : Type} [Ratio R]

namespace Session

/-- `active_tab()`, which indexes. -/
def current (session : Session R) : Fallible (Tab R) := get session.tabs session.activeTab

def setCurrent (session : Session R) (tab : Tab R) : Session R :=
  { session with tabs := session.tabs.set session.activeTab tab }

omit [Ratio R] in
theorem after_current {A : Type} {session : Session R} {next : Tab R -> Fallible A} {post : A -> Prop}
    (one : ∀ tab, session.tabs[session.activeTab]? = some tab -> Ensures AnyPanic (next tab) post) :
    Ensures AnyPanic (session.current >>= next) post := by
  cases active : session.tabs[session.activeTab]? with
  | none => simp [current, Checked.get, active, Ensures, AnyPanic]
  | some tab =>
    rw [current, get_ok active]
    exact one tab active

end Session

namespace Tab

def listed (tab : Tab R) (id : PaneId) : Option PanePosition :=
  (tab.computePositions.find? fun placed => placed.1 == id).map Prod.snd

def pane (tab : Tab R) (id : PaneId) : Option Pane := tab.panes.lookup id

def entry (tab : Tab R) (id : PaneId) (cols rows : Nat) : PaneEntry where
  id
  title := ((tab.pane id).map Pane.title).getD ""
  cols := cols.toUInt16
  rows := rows.toUInt16
  active := tab.activePane = some id
  hasNotification := ((tab.pane id).map Pane.hasNotification).getD false

end Tab

/-- `cols as i32` -/
def asI32 (n : Nat) : Int := Int.bmod n 4294967296

@[irreducible] def subI32 (a b : Int) : Fallible Int :=
  if -2147483648 ≤ a - b ∧ a - b < 2147483648 then .ok (a - b) else .error .arithmetic

namespace Tab

/-- The two calls of `resize_pane` for a message `ResizePane`. -/
def resizeListed (tab : Tab R) (id : PaneId) (cols rows : UInt16) (pos : PanePosition) : Fallible (Tab R) := do
  let dc <- subI32 cols.toNat (asI32 pos.cols)
  let dr <- subI32 rows.toNat (asI32 pos.rows)
  let tab := if dc ≠ 0 then (tab.resizePane id .right dc).2 else tab
  .ok (if dr ≠ 0 then (tab.resizePane id .down dr).2 else tab)

end Tab

def paneNotFound (id : PaneId) : ServerMessage := .error s!"pane {id} not found"

def spawnDirection (direction : Option String) : SplitDirection :=
  if direction = some "horizontal" then .horizontal else .vertical

def splitAndSpawn (panes : PaneAccess S) (direction : SplitDirection) (session : Session R) (store : S) :
    Fallible (IpcResult × Session R × S) := do
  let tab <- session.current
  let (split, tab) <- tab.splitPane direction
  let session := session.setCurrent tab
  match split with
  | some newId =>
    let (cols, rows) := ((tab.listed newId).map fun pos => (pos.cols, pos.rows)).getD (80, 24)
    match panes.spawnPane newId cols rows store with
    | .ok store => .ok (.replyWithSync (.spawnResult newId), session, store)
    | .error e => .ok (.reply (.error s!"spawn error: {e}"), session, store)
  | none => .ok (.reply (.error "cannot split pane"), session, store)

def handleIpc (panes : PaneAccess S) (session : Session R) (store : S) :
    ClientMessage -> Fallible (IpcResult × Session R × S)
  | .ping => .ok (.reply .pong, session, store)
  | .getVersion => .ok (.reply (.version protocolVersion), session, store)
  | .resize cols rows => .ok (.reply .ack, session.resize cols.toNat rows.toNat, store)
  | .listSessions => do
    let tab <- session.current
    let entry :=
      { name := session.name, tabs := session.tabs.length, panes := tab.paneCount
        cols := session.size.cols, rows := session.size.rows }
    .ok (.reply (.sessionList [entry]), session, store)
  | .listPanes => do
    let tab <- session.current
    let entries := tab.computePositions.map fun placed => tab.entry placed.1 placed.2.cols placed.2.rows
    .ok (.reply (.paneList entries), session, store)
  | .getPaneInfo id => do
    let tab <- session.current
    match tab.pane id with
    | some _ =>
      let (cols, rows) := ((tab.listed id).map fun pos => (pos.cols, pos.rows)).getD (0, 0)
      .ok (.reply (.paneInfo (tab.entry id cols rows)), session, store)
    | none => .ok (.reply (paneNotFound id), session, store)
  | .capturePane id => do
    let (captured, store) <- panes.capturePane id store
    match captured with
    | some content => .ok (.reply (.paneCaptured id content), session, store)
    | none => .ok (.reply (paneNotFound id), session, store)
  | .sendKeys id keys =>
    match panes.sendKeys id keys.toUTF8.data.toList store with
    | .ok () => .ok (.reply .ack, session, store)
    | .error message => .ok (.reply (.error message), session, store)
  | .setPaneTitle id title => do
    let tab <- session.current
    match tab.pane id with
    | some _ => .ok (.reply .ack, session.setCurrent (tab.updatePane id (.setTitle title)), store)
    | none => .ok (.reply (paneNotFound id), session, store)
  | .focusPane id => do
    let tab <- session.current
    match tab.focusPane id with
    | (true, tab) => .ok (.reply .ack, session.setCurrent tab, store)
    | (false, tab) => .ok (.reply (paneNotFound id), session.setCurrent tab, store)
  | .splitPane direction _ => splitAndSpawn panes direction session store
  | .spawnPane direction => splitAndSpawn panes (spawnDirection direction) session store
  | .killPane id => do
    let tab <- session.current
    match tab.closePane id with
    | (true, tab) => .ok (.replyWithSync .ack, session.setCurrent tab, panes.removePane id store)
    | (false, tab) => .ok (.reply (.error s!"cannot kill pane {id}"), session.setCurrent tab, store)
  | .resizePane id cols rows => do
    let tab <- session.current
    match tab.pane id with
    | none => .ok (.reply (paneNotFound id), session, store)
    | some _ =>
      match tab.listed id with
      | some pos => do
        let tab <- tab.resizeListed id cols rows pos
        .ok (.replyWithSync .ack, session.setCurrent tab, store)
      | none => .ok (.reply (paneNotFound id), session, store)
  | .attach .. | .detach | .killSession _ | .keyInput _ => .ok (.reply .ack, session, store)

end Emux
