import Emux.Ipc.Atomicity
import Emux.Ipc.Codec
import Emux.Library.Removal

set_option autoImplicit false

/-!
# The daemon loop

The loop owns the terminals and the shared handler changes the layout. The handler says in its result when the
sizes of the terminals have to follow; the loop does not look at it.
-/

namespace Emux

open Checked Arrivals Removal

structure Daemon (R : Type) where
  session : Session R
  paneTerminals : Keyed.Map PaneId Terminal
  shutdown : Bool

variable {R E : Type} [Ratio R]

namespace Daemon

/-- What `run_daemon_loop_inner` sets up before its loop. -/
def start (pty : Pty) (sessionName : String) : Fallible (Daemon R) := do
  let session := Session.new sessionName 80 24
  let tab <- session.current
  let paneTerminals := tab.layout.paneIds.foldl (fun terminals id =>
    let (cols, rows) := ((tab.listed id).map fun pos => (pos.cols, pos.rows)).getD (80, 24)
    match pty.spawn with
    | .ok () => terminals.insert id (Terminal.new cols rows)
    | .error _ => terminals) ∅
  .ok { session, paneTerminals, shutdown := false }

def handle (pty : Pty) (daemon : Daemon R) : ClientMessage -> Fallible (ServerMessage × Daemon R)
  | .attach cols rows => .ok (.ack, { daemon with session := daemon.session.resize cols.toNat rows.toNat })
  | .killSession name =>
    .ok (.ack, { daemon with shutdown := daemon.shutdown || decide (name = daemon.session.name) })
  | .detach => .ok (.ack, daemon)
  | .keyInput _ => do
    -- the outcome of the write to the active pane is only logged
    let _ <- daemon.session.current
    .ok (.ack, daemon)
  | other => do
    let (result, session, paneTerminals) <- handleIpc (daemonPanes pty) daemon.session daemon.paneTerminals other
    .ok (result.response, { daemon with session, paneTerminals })

end Daemon

/-- `ServerMessage`, with the output of a pane. -/
inductive DaemonMessage where
  | reply (message : ServerMessage)
  | ptyOutput (paneId : PaneId) (data : Bytes)
  deriving DecidableEq, Repr

/-- A connection: which one it is, what the daemon will read from it, and what the daemon has written to it. -/
structure Stream where
  number : Nat
  incoming : Socket
  sent : Bytes := []
  deriving DecidableEq, Repr

namespace Stream

/-- `write_all`, and whether it succeeds: a write fails after the bytes that were taken before. -/
def writeAll (bytes : Bytes) (failure : Option Nat) (stream : Stream) : Bool × Stream :=
  match failure with
  | none => (true, { stream with sent := stream.sent ++ bytes })
  | some count => (false, { stream with sent := stream.sent ++ bytes.take count })

def writeEach : List Bytes -> (Nat -> Option Nat) -> Stream -> Bool × Stream
  | [], _, stream => (true, stream)
  | encoded :: rest, failures, stream =>
    match stream.writeAll encoded (failures 0) with
    | (true, stream) => writeEach rest (fun i => failures (i + 1)) stream
    | (false, stream) => (false, stream)

end Stream

/-- What the operating system does in one pass of the loop. -/
structure Pass where
  /-- The connection that waits to be accepted, as what will be read from it. -/
  accepted : Option Socket
  /-- The order in which a hash map lists its keys. -/
  order : List PaneId -> List PaneId
  permutes : ∀ ids, (order ids).Perm ids
  /-- The reads of a pane, up to the one that gives nothing. -/
  chunks : PaneId -> List Bytes
  sizes : ∀ id, ∀ chunk ∈ chunks id, chunk ≠ [] ∧ chunk.length ≤ 65536
  /-- Where the writes to the attached clients fail, by client and message. -/
  writes : Nat -> Nat -> Option Nat
  /-- The panes while the message of a client is handled. -/
  pty : Nat -> Pty
  /-- Where the write of the reply to a client fails. -/
  replies : Nat -> Option Nat

structure Wire (E : Type) where
  requests : SerdeJson ClientMessage E
  messages : SerdeJson DaemonMessage E

/-- The state of `run_daemon_loop_inner`, with the connections it has dropped. -/
structure DaemonLoop (R : Type) where
  daemon : Daemon R
  attachedClients : List Stream := []
  ipcClients : List (Nat × Stream) := []
  nextId : Nat := 1
  closed : List Stream := []

/-- What the loop has read and handled of a one-shot client: the connection, and whether it is to move to the attached
clients, if it is to leave. -/
abbrev Handled := Nat × Stream × Option Bool

namespace DaemonLoop

/-- `listener.try_accept()` -/
def accept (now : Pass) (loop : DaemonLoop R) : DaemonLoop R :=
  match now.accepted with
  | some incoming =>
    { loop with
      ipcClients := loop.ipcClients ++ [(loop.nextId, { number := loop.nextId, incoming })]
      nextId := loop.nextId + 1 }
  | none => loop

def polled (now : Pass) (ids : List PaneId) : List (PaneId × Bytes) :=
  ids.flatMap fun id => (now.chunks id).map (Prod.mk id)

def pollPanes (now : Pass) (ids : List PaneId) (terminals : Keyed.Map PaneId Terminal) :
    Fallible (Keyed.Map PaneId Terminal) :=
  ids.foldlM (fun terminals id =>
    match terminals.lookup id with
    | some terminal => do
      let terminal <- run Terminal.feed (now.chunks id) terminal
      .ok (Keyed.modify terminals id fun _ => terminal)
    | none => .ok terminals) terminals

/-- Messages that cannot be encoded are left out. -/
def encodeOutput (wire : Wire E) (output : List (PaneId × Bytes)) : List Bytes :=
  output.filterMap fun item => (wire.messages.encode (.ptyOutput item.1 item.2)).toOption

def streamOutput (now : Pass) (encoded : List Bytes) (loop : DaemonLoop R) : DaemonLoop R :=
  let written := loop.attachedClients.zipIdx.map fun client => client.1.writeEach encoded (now.writes client.2)
  let dead := marked (fun client => !client.1) written
  { loop with
    attachedClients := (removeAll written dead).map Prod.snd
    closed := loop.closed ++ (dead.filterMap fun i => written[i]?.map Prod.snd) }

/-- `write_message`, whose outcome is dropped. -/
def writeReply (wire : Wire E) (reply : ServerMessage) (failure : Option Nat) (stream : Stream) : Stream :=
  match wire.messages.encode (.reply reply) with
  | .ok encoded => (stream.writeAll encoded failure).2
  | .error _ => stream

/-- A client whose message has come whole is answered. One whose message has not come in time stays, any other error
ends the connection. -/
def serve (wire : Wire E) (now : Pass) (daemon : Daemon R) : List (Nat × Stream) -> Fallible (List Handled × Daemon R)
  | [] => .ok ([], daemon)
  | (id, stream) :: rest =>
    let (result, incoming) := wire.requests.readMessage stream.incoming
    let stream := { stream with incoming }
    match result with
    | .ok msg => do
      let (reply, daemon) <- daemon.handle (now.pty id) msg
      let stream := writeReply wire reply (now.replies id) stream
      let moves := match msg with
        | .attach .. => true
        | _ => false
      let (later, daemon) <- serve wire now daemon rest
      .ok ((id, stream, some moves) :: later, daemon)
    | .error error => do
      let leaves := if SerdeJson.retries (.error error : Except (CodecError E) ClientMessage) then none else some false
      let (later, daemon) <- serve wire now daemon rest
      .ok ((id, stream, leaves) :: later, daemon)

/-- Clients are taken out from the last to the first; those that attach go to the attached clients. -/
def settle (toRemove : List (Nat × Bool)) (loop : DaemonLoop R) : DaemonLoop R :=
  toRemove.reverse.foldl (fun loop removal =>
    match takeKey removal.1 loop.ipcClients with
    | some (stream, ipcClients) =>
      if removal.2 then { loop with ipcClients, attachedClients := loop.attachedClients ++ [stream] }
      else { loop with ipcClients, closed := loop.closed ++ [stream] }
    | none => loop) loop

/-- The body of the loop. -/
def pass (wire : Wire E) (now : Pass) (loop : DaemonLoop R) : Fallible (DaemonLoop R) := do
  let loop := loop.accept now
  let ids := now.order loop.daemon.paneTerminals.keys
  let paneTerminals <- pollPanes now ids loop.daemon.paneTerminals
  let loop := { loop with daemon := { loop.daemon with paneTerminals } }
  let loop := loop.streamOutput now (encodeOutput wire (polled now ids))
  let (handled, daemon) <- serve wire now loop.daemon loop.ipcClients
  let toRemove := handled.filterMap fun client => client.2.2.map (Prod.mk client.1)
  let ipcClients := handled.map fun client => (client.1, client.2.1)
  .ok (settle toRemove { loop with daemon, ipcClients })

/-- `while !shutdown` -/
def step (wire : Wire E) (now : Pass) (loop : DaemonLoop R) : Fallible (DaemonLoop R) :=
  if loop.daemon.shutdown then .ok loop else loop.pass wire now

def start (pty : Pty) (sessionName : String) : Fallible (DaemonLoop R) :=
  (Daemon.start pty sessionName).map fun daemon => { daemon }

end DaemonLoop

/-! ## The steps of a pass -/

inductive DaemonEvent where
  | poll (now : Pass)
  | message (pty : Pty) (msg : ClientMessage)

namespace Daemon

def step : DaemonEvent -> Daemon R -> Fallible (Daemon R)
  | .poll now, daemon =>
    (DaemonLoop.pollPanes now (now.order daemon.paneTerminals.keys) daemon.paneTerminals).map fun paneTerminals =>
      { daemon with paneTerminals }
  | .message pty msg, daemon => (daemon.handle pty msg).map Prod.snd

/-- A terminal whose pane is in the active tab has the size of the rectangle that the tab lists for the pane. -/
def SizesAgree (daemon : Daemon R) : Prop :=
  ∀ tab, daemon.session.tabs[daemon.session.activeTab]? = some tab ->
    ∀ id terminal, id ∈ tab.panes -> daemon.paneTerminals.lookup id = some terminal ->
      ∃ pos, tab.listed id = some pos ∧ terminal.screen.cols = pos.cols ∧ terminal.screen.rows = pos.rows

/-- No pane is added, the session keeps its size, and no output that is polled or that a capture reads changes the
size of a screen. -/
def keepsSizes (event : DaemonEvent) (daemon : Daemon R) : Prop :=
  match event with
  | .poll now => ∀ id terminal, daemon.paneTerminals.lookup id = some terminal ->
      Ensures AnyPanic (run Terminal.feed (now.chunks id) terminal) fun fed =>
        fed.screen.cols = terminal.screen.cols ∧ fed.screen.rows = terminal.screen.rows
  | .message _ (.attach cols rows) | .message _ (.resize cols rows) => cols = 80 ∧ rows = 24
  | .message _ (.splitPane _ _) | .message _ (.spawnPane _) => False
  | .message pty (.capturePane id) => ∀ terminal, daemon.paneTerminals.lookup id = some terminal ->
      Ensures AnyPanic (daemonCapture pty id terminal) fun captured =>
        captured.2.screen.cols = terminal.screen.cols ∧ captured.2.screen.rows = terminal.screen.rows
  | _ => True

end Daemon

namespace DaemonLoop

variable {wire : Wire E} {now : Pass} {loop : DaemonLoop R}

/-- The messages that have come whole, in the order in which they are handled. -/
def arrivals (wire : Wire E) (now : Pass) (clients : List (Nat × Stream)) : List DaemonEvent :=
  clients.filterMap fun client =>
    (wire.requests.readMessage client.2.incoming).1.toOption.map (DaemonEvent.message (now.pty client.1))

def events (wire : Wire E) (now : Pass) (loop : DaemonLoop R) : List DaemonEvent :=
  if loop.daemon.shutdown then [] else .poll now :: arrivals wire now (loop.accept now).ipcClients

theorem serve_daemon (daemon : Daemon R) (clients : List (Nat × Stream)) :
    (serve wire now daemon clients).map Prod.snd = run Daemon.step (arrivals wire now clients) daemon := by
  induction clients generalizing daemon with
  | nil => rfl
  | cons client rest ih =>
    obtain ⟨id, stream⟩ := client
    unfold serve arrivals
    cases read : wire.requests.readMessage stream.incoming with
    | mk result incoming =>
      rw [List.filterMap_cons]
      simp only [read]
      cases result with
      | error error =>
        dsimp only [Except.toOption, Option.map_none]
        refine Eq.trans ?_ (ih daemon)
        cases serve wire now daemon rest <;> rfl
      | ok msg =>
        dsimp only [Except.toOption, Option.map_some]
        rw [run_cons, Daemon.step]
        cases daemon.handle (now.pty id) msg with
        | error panic => rfl
        | ok replied =>
          rw [ok_bind]
          refine Eq.trans ?_ (ih replied.2)
          cases serve wire now replied.2 rest <;> rfl

omit [Ratio R] in
theorem settle_daemon (toRemove : List (Nat × Bool)) (loop : DaemonLoop R) :
    (settle toRemove loop).daemon = loop.daemon := by
  unfold settle
  induction toRemove.reverse generalizing loop with
  | nil => rfl
  | cons removal rest ih =>
    rw [List.foldl_cons, ih]
    split
    next => split <;> rfl
    next => rfl

omit [Ratio R] in
@[simp] theorem accept_daemon (now : Pass) (loop : DaemonLoop R) : (loop.accept now).daemon = loop.daemon := by
  unfold accept
  split <;> rfl

theorem step_daemon (wire : Wire E) (now : Pass) (loop : DaemonLoop R) :
    (loop.step wire now).map daemon = run Daemon.step (loop.events wire now) loop.daemon := by
  unfold step events
  split
  next => rfl
  next =>
    rw [run_cons, Daemon.step, pass]
    simp only [accept_daemon]
    cases pollPanes now (now.order loop.daemon.paneTerminals.keys) loop.daemon.paneTerminals with
    | error panic => rfl
    | ok paneTerminals =>
      rw [ok_bind]
      refine Eq.trans ?_ (serve_daemon _ _)
      dsimp only [streamOutput]
      cases serve wire now { loop.daemon with paneTerminals } (loop.accept now).ipcClients with
      | error panic => rfl
      | ok served => exact congrArg Except.ok (settle_daemon _ _)

end DaemonLoop

/-! ## A tab with the first pane only -/

namespace Tab

structure Alone (tab : Tab R) (cols rows : Nat) : Prop where
  root : tab.layout.root = some (.Leaf 0)
  pane : ∃ pane, tab.panes = AList.singleton 0 pane ∧ pane.constraints = {}
  active : tab.activePane = some 0
  next : tab.nextPaneId = 1
  size : tab.size = { rows, cols }
  fullscreen : tab.fullscreenPane = none
  floating : tab.floatingPanes = []
  swaps : tab.swapLayouts = []

theorem autoSwapLayout_positions {tab : Tab R} (noSwaps : tab.swapLayouts = []) :
    tab.autoSwapLayout.computePositions = tab.computePositions := by
  rw [autoSwapLayout_none noSwaps]
  rfl

namespace Alone

variable {tab : Tab R} {cols rows : Nat}

theorem new (id : Nat) (name : String) (cols rows : Nat) : (Tab.new id name cols rows : Tab R).Alone cols rows where
  root := rfl
  pane := ⟨_, rfl, rfl⟩
  active := rfl
  next := rfl
  size := rfl
  fullscreen := rfl
  floating := rfl
  swaps := rfl

omit [Ratio R] in
theorem mem_panes (alone : tab.Alone cols rows) (id : PaneId) : id ∈ tab.panes ↔ id = 0 := by
  obtain ⟨pane, panes, -⟩ := alone.pane
  rw [panes, Keyed.mem_singleton]

theorem tiledPositions (alone : tab.Alone cols rows) : tab.tiledPositions = [(0, { col := 0, row := 0, cols, rows })] := by
  rw [Tab.tiledPositions, LayoutEngine.computePositions, alone.root, alone.size]
  rfl

theorem listed (alone : tab.Alone cols rows) : tab.listed 0 = some { col := 0, row := 0, cols, rows } := by
  rw [Tab.listed, computePositions, alone.fullscreen, alone.tiledPositions]
  rfl

theorem resize (alone : tab.Alone cols rows) (newCols newRows : Nat) : (tab.resize newCols newRows).Alone newCols newRows := by
  obtain ⟨pane, panes, free⟩ := alone.pane
  refine ⟨alone.root, ⟨pane.resize newCols newRows, ?_, free⟩, alone.active, alone.next, rfl, alone.fullscreen,
    alone.floating, alone.swaps⟩
  rw [Tab.resize, syncPaneSizes_panes, Tab.tiledPositions, LayoutEngine.computePositions, alone.root, panes]
  rfl

omit [Ratio R] in
theorem updatePane (alone : tab.Alone cols rows) (id : PaneId) (op : PaneOp) : (tab.updatePane id op).Alone cols rows := by
  obtain ⟨pane, panes, free⟩ := alone.pane
  refine ⟨alone.root, ⟨if 0 = id then pane.apply op else pane, ?_, ?_⟩, alone.active, alone.next, alone.size,
    alone.fullscreen, alone.floating, alone.swaps⟩
  next => rw [Tab.updatePane, panes]; rfl
  next =>
    split
    next => exact (pane.apply_keeps op).2.2.trans free
    next => exact free

omit [Ratio R] in
theorem focusPane (alone : tab.Alone cols rows) (id : PaneId) : (tab.focusPane id).2.Alone cols rows := by
  rw [Tab.focusPane]
  by_cases tiled : id ∈ tab.panes
  next =>
    obtain rfl := (alone.mem_panes id).mp tiled
    rw [if_pos tiled]
    exact { alone with active := rfl, fullscreen := by simp [alone.fullscreen] }
  next =>
    rw [if_neg tiled, findFloatingIdx, alone.floating]
    exact alone

theorem closePane (alone : tab.Alone cols rows) (id : PaneId) : tab.closePane id = (false, tab) := by
  obtain ⟨pane, panes, -⟩ := alone.pane
  have last : tab.paneCount ≤ 1 := by
    rw [paneCount, panes]
    exact Nat.le_refl 1
  rw [Tab.closePane, if_pos last]

omit [Ratio R] in
theorem layout (alone : tab.Alone cols rows) : tab.layout = { root := some (.Leaf 0) } := by
  rw [← alone.root]

theorem resizePane (alone : tab.Alone cols rows) (id : PaneId) (direction : ResizeDirection) (amount : Int) :
    (tab.resizePane id direction amount).2 = tab := by
  rcases resizePane_cases tab id direction amount with refused | ⟨delta, adjusted⟩
  next => rw [refused]
  next =>
    have leaf : tab.layout.adjustRatio id (resizeAxis direction) delta = (false, tab.layout) := by
      rw [alone.layout]
      rfl
    rw [adjusted, adjustRatio, leaf]

theorem resizeListed (alone : tab.Alone cols rows) (id : PaneId) (newCols newRows : UInt16) (pos : PanePosition) :
    Ensures AnyPanic (tab.resizeListed id newCols newRows pos) fun next => next = tab := by
  unfold Tab.resizeListed
  refine ensures_after _ fun dc => ensures_after _ fun dr => ensures_ok ?_
  simp only [alone.resizePane, ite_self]

theorem canSplitActive (alone : tab.Alone cols rows) (wide : 4 ≤ cols) (high : 4 ≤ rows) (direction : SplitDirection) :
    tab.canSplitActive direction = true := by
  obtain ⟨pane, panes, free⟩ := alone.pane
  have found : tab.panes.lookup 0 = some pane := by
    rw [panes]
    rfl
  have placed : tab.tiledPosition 0 = some { col := 0, row := 0, cols, rows } := by
    rw [tiledPosition, alone.tiledPositions]
    rfl
  rw [Tab.canSplitActive, alone.active]
  simp only [canSplit, found, placed]
  cases direction with
  | horizontal => simp [Pane.hasFixedRows, free, minPaneRows, high]
  | vertical => simp [Pane.hasFixedCols, free, minPaneCols, wide]

theorem splitPane (alone : tab.Alone cols rows) (wide : 4 ≤ cols) (high : 4 ≤ rows) (direction : SplitDirection) :
    ∃ next, tab.splitPane direction = .ok (some 1, next) ∧ 0 ∈ next.panes ∧
      ∃ pos, next.listed 0 = some pos ∧ (pos.cols < cols ∨ pos.rows < rows) := by
  -- The first pane keeps a part of its rectangle only.
  have room : tab.nextPaneId + 1 < 2 ^ 32 := by
    rw [alone.next]
    decide
  obtain ⟨target, c, r, active, -, split⟩ := splitPane_happens (alone.canSplitActive wide high direction) room
  obtain rfl : 0 = target := Option.some.inj (alone.active.symm.trans active)
  rw [alone.next] at split
  refine ⟨_, split, (tab.mem_splitAt 0 direction c r 0).mpr (.inr ((alone.mem_panes 0).mpr rfl)), ?_⟩
  have positions : (tab.splitAt 0 direction c r).computePositions =
      (LayoutNode.Split direction (Ratio.half : R) (.Leaf 0) (.Leaf 1)).computePositionsInner 0 0 cols rows := by
    refine (autoSwapLayout_positions (by exact alone.swaps)).trans ?_
    rw [computePositions, visibleFloating]
    simp only [syncPaneSizes_fullscreenPane, syncPaneSizes_floatingPanes, Tab.tiledPositions, syncPaneSizes_layout,
      syncPaneSizes_size, alone.layout, alone.size, alone.next, alone.floating]
    simp [LayoutEngine.computePositions, LayoutEngine.split, LayoutNode.split]
  rw [Tab.listed, positions]
  cases direction with
  | horizontal => exact ⟨_, rfl, .inr (by simp only; omega)⟩
  | vertical => exact ⟨_, rfl, .inl (by simp only; omega)⟩

end Alone

end Tab

/-! ## The runs in which the sizes agree -/

namespace Daemon

structure Calm (daemon : Daemon R) : Prop where
  tab : ∃ tab, daemon.session.tabs = [tab] ∧ tab.Alone 80 24
  active : daemon.session.activeTab = 0
  terminal : ∃ terminal, daemon.paneTerminals.lookup 0 = some terminal ∧ terminal.screen.cols = 80 ∧
    terminal.screen.rows = 24
  only : ∀ id ∈ daemon.paneTerminals, id = 0

theorem start_calm {pty : Pty} (spawned : pty.spawn = .ok ()) (sessionName : String) :
    ∃ daemon : Daemon R, start pty sessionName = .ok daemon ∧ daemon.Calm := by
  let terminals : Keyed.Map PaneId Terminal := AList.insert 0 (Terminal.new 80 24) ∅
  refine ⟨{ session := Session.new sessionName 80 24, paneTerminals := terminals, shutdown := false }, ?_,
    ⟨_, rfl, Tab.Alone.new ..⟩, rfl, ⟨_, AList.lookup_insert _, rfl, rfl⟩, fun id => List.mem_singleton.mp⟩
  have listed := (Tab.Alone.new 0 "Tab 1" 80 24 : (Tab.new 0 "Tab 1" 80 24 : Tab R).Alone 80 24).listed
  have current : (Session.new sessionName 80 24 : Session R).current = .ok (Tab.new 0 "Tab 1" 80 24) := rfl
  have leaves : (Tab.new 0 "Tab 1" 80 24 : Tab R).layout.paneIds = [0] := rfl
  simp only [start, current, ok_bind, leaves, List.foldl_cons, List.foldl_nil, listed, Option.map_some,
    Option.getD_some, spawned]
  rfl

namespace Calm

variable {daemon : Daemon R} {pty : Pty}

omit [Ratio R] in
theorem current (calm : daemon.Calm) : ∃ tab, daemon.session.current = .ok tab ∧
    daemon.session.tabs[daemon.session.activeTab]? = some tab ∧ tab.Alone 80 24 := by
  obtain ⟨tab, tabs, alone⟩ := calm.tab
  have active : daemon.session.tabs[daemon.session.activeTab]? = some tab := by
    rw [tabs, calm.active]
    rfl
  exact ⟨tab, get_ok active, active, alone⟩

theorem sizesAgree (calm : daemon.Calm) : daemon.SizesAgree := by
  intro tab active id terminal tiled stored
  obtain ⟨only, -, is, alone⟩ := calm.current
  obtain rfl := Option.some.inj (is.symm.trans active)
  obtain rfl := (alone.mem_panes id).mp tiled
  obtain ⟨first, there, cols, rows⟩ := calm.terminal
  obtain rfl := Option.some.inj (there.symm.trans stored)
  exact ⟨_, alone.listed, cols, rows⟩

omit [Ratio R] in
theorem setCurrent (calm : daemon.Calm) {tab : Tab R} (alone : tab.Alone 80 24) :
    Calm { daemon with session := daemon.session.setCurrent tab } := by
  obtain ⟨only, tabs, -⟩ := calm.tab
  refine ⟨⟨tab, ?_, alone⟩, calm.active, calm.terminal, calm.only⟩
  rw [Session.setCurrent, tabs, calm.active]
  rfl

theorem resize (calm : daemon.Calm) : Calm { daemon with session := daemon.session.resize 80 24 } := by
  obtain ⟨only, tabs, alone⟩ := calm.tab
  refine ⟨⟨only.resize 80 24, ?_, alone.resize 80 24⟩, calm.active, calm.terminal, calm.only⟩
  rw [Session.resize, tabs]
  rfl

omit [Ratio R] in
theorem alone (calm : daemon.Calm) : daemon.paneTerminals.keys = [0] := by
  obtain ⟨terminal, stored, -⟩ := calm.terminal
  have there : 0 ∈ daemon.paneTerminals.keys := AList.mem_keys.mp (AList.lookup_isSome.mp (by rw [stored]; rfl))
  refine List.perm_singleton.mp ((List.perm_ext_iff_of_nodup (AList.keys_nodup _) (List.nodup_singleton 0)).mpr fun id => ?_)
  rw [List.mem_singleton]
  exact ⟨fun member => calm.only id (AList.mem_keys.mpr member), fun is => is ▸ there⟩

omit [Ratio R] in
theorem exchange (calm : daemon.Calm) {id : PaneId} {before after : Terminal}
    (stored : daemon.paneTerminals.lookup id = some before)
    (sizes : after.screen.cols = before.screen.cols ∧ after.screen.rows = before.screen.rows) :
    Calm { daemon with paneTerminals := Keyed.modify daemon.paneTerminals id fun _ => after } := by
  obtain rfl := calm.only id (AList.lookup_isSome.mp (by rw [stored]; rfl))
  obtain ⟨first, there, cols, rows⟩ := calm.terminal
  obtain rfl := Option.some.inj (there.symm.trans stored)
  refine ⟨calm.tab, calm.active, ⟨after, ?_, sizes.1.trans cols, sizes.2.trans rows⟩, fun other member => ?_⟩
  next =>
    rw [Keyed.lookup_modify, if_pos rfl, there]
    rfl
  next => exact calm.only other ((Keyed.mem_modify ..).mp member)

theorem capture (calm : daemon.Calm) {id : PaneId} (same : ∀ terminal, daemon.paneTerminals.lookup id = some terminal ->
      Ensures AnyPanic (daemonCapture pty id terminal) fun captured =>
        captured.2.screen.cols = terminal.screen.cols ∧ captured.2.screen.rows = terminal.screen.rows) :
    Ensures AnyPanic (daemon.handle pty (.capturePane id)) fun result => result.2.Calm := by
  -- A capture that leaves the screen at its size.
  simp only [handle.eq_def, handleIpc, daemonPanes, storeAccess]
  cases stored : daemon.paneTerminals.lookup id with
  | none => exact calm
  | some terminal =>
    have sizes := same terminal stored
    cases captured : daemonCapture pty id terminal with
    | error panic => simp only [captured, error_bind]; trivial
    | ok read =>
      rw [captured] at sizes
      simp only [captured, ok_bind]
      exact calm.exchange stored sizes

omit [Ratio R] in
theorem pollPanes_alone (calm : daemon.Calm) (now : Pass) {terminal : Terminal}
    (stored : daemon.paneTerminals.lookup 0 = some terminal) :
    DaemonLoop.pollPanes now (now.order daemon.paneTerminals.keys) daemon.paneTerminals =
      (run Terminal.feed (now.chunks 0) terminal).map fun fed => Keyed.modify daemon.paneTerminals 0 fun _ => fed := by
  have ids : now.order daemon.paneTerminals.keys = [0] := by
    have perm := now.permutes daemon.paneTerminals.keys
    rw [calm.alone] at perm ⊢
    exact List.perm_singleton.mp perm
  simp only [DaemonLoop.pollPanes, ids, List.foldlM_cons, List.foldlM_nil, stored]
  cases run Terminal.feed (now.chunks 0) terminal <;> rfl

theorem poll (calm : daemon.Calm) {now : Pass} (quiet : keepsSizes (.poll now) daemon) :
    Ensures AnyPanic (step (.poll now) daemon) Calm := by
  obtain ⟨terminal, stored, -⟩ := calm.terminal
  have sizes := quiet 0 terminal stored
  rw [step, calm.pollPanes_alone now stored]
  cases fed : run Terminal.feed (now.chunks 0) terminal with
  | error panic => trivial
  | ok after =>
    rw [fed] at sizes
    exact calm.exchange stored sizes

theorem handle (calm : daemon.Calm) (msg : ClientMessage) (quiet : keepsSizes (.message pty msg) daemon) :
    Ensures AnyPanic (daemon.handle pty msg) fun result => result.2.Calm := by
  obtain ⟨tab, current, active, alone⟩ := calm.current
  -- Without a split the one terminal stays that of the first pane.
  cases msg with
  | attach cols rows | resize cols rows =>
    obtain ⟨rfl, rfl⟩ := quiet
    exact calm.resize
  | splitPane | spawnPane => exact quiet.elim
  | capturePane id => exact calm.capture quiet
  | ping | getVersion | detach => exact calm
  | killSession name => exact ⟨calm.tab, calm.active, calm.terminal, calm.only⟩
  | keyInput | listSessions | listPanes =>
    simp only [Daemon.handle.eq_def, handleIpc, current, ok_bind]
    exact calm
  | sendKeys id keys =>
    simp only [Daemon.handle.eq_def, handleIpc]
    cases (daemonPanes pty).sendKeys id keys.toUTF8.data.toList daemon.paneTerminals with
    | ok => exact calm
    | error message => exact calm
  | getPaneInfo id =>
    simp only [Daemon.handle.eq_def, handleIpc, current, ok_bind]
    cases tab.pane id with
    | none => exact calm
    | some pane => exact calm
  | setPaneTitle id title =>
    simp only [Daemon.handle.eq_def, handleIpc, current, ok_bind]
    cases tab.pane id with
    | none => exact calm
    | some pane => exact calm.setCurrent (alone.updatePane id _)
  | focusPane id =>
    simp only [Daemon.handle.eq_def, handleIpc, current, ok_bind]
    have focused := alone.focusPane id
    cases result : tab.focusPane id with
    | mk found next =>
      rw [result] at focused
      cases found with
      | false => exact calm.setCurrent focused
      | true => exact calm.setCurrent focused
  | killPane id =>
    simp only [Daemon.handle.eq_def, handleIpc, current, ok_bind, alone.closePane id]
    exact calm.setCurrent alone
  | resizePane id cols rows =>
    simp only [Daemon.handle.eq_def, handleIpc, current, ok_bind]
    cases tab.pane id with
    | none => exact calm
    | some pane =>
      cases tab.listed id with
      | none => exact calm
      | some pos =>
        have resized := alone.resizeListed id cols rows pos
        cases result : tab.resizeListed id cols rows pos with
        | error panic => simp only [result, error_bind]; trivial
        | ok next =>
          rw [result] at resized
          obtain rfl : next = tab := resized
          simp only [result, ok_bind]
          exact calm.setCurrent alone

theorem disagree {next : Daemon R} {tab : Tab R} {terminal : Terminal} {pos : PanePosition}
    (active : next.session.tabs[next.session.activeTab]? = some tab) (tiled : 0 ∈ tab.panes)
    (listed : tab.listed 0 = some pos) (stored : next.paneTerminals.lookup 0 = some terminal)
    (differs : ¬ (terminal.screen.cols = pos.cols ∧ terminal.screen.rows = pos.rows)) : ¬ next.SizesAgree := by
  intro agree
  obtain ⟨other, is, sizes⟩ := agree tab active 0 terminal tiled stored
  obtain rfl := Option.some.inj (listed.symm.trans is)
  exact differs sizes

theorem resize_disagrees (calm : daemon.Calm) {cols rows : UInt16} (other : ¬ (cols = 80 ∧ rows = 24)) :
    ¬ SizesAgree { daemon with session := daemon.session.resize cols.toNat rows.toNat } := by
  obtain ⟨tab, tabs, alone⟩ := calm.tab
  obtain ⟨terminal, stored, wide, high⟩ := calm.terminal
  have resized := alone.resize cols.toNat rows.toNat
  refine disagree ?_ ((resized.mem_panes 0).mpr rfl) resized.listed stored ?_
  next =>
    rw [Session.resize, tabs, calm.active]
    rfl
  next =>
    rw [wide, high]
    rintro ⟨sameCols, sameRows⟩
    exact other ⟨UInt16.toNat_inj.mp sameCols.symm, UInt16.toNat_inj.mp sameRows.symm⟩

theorem split_disagrees (calm : daemon.Calm) (direction : SplitDirection) :
    ∃ result, splitAndSpawn (daemonPanes pty) direction daemon.session daemon.paneTerminals = .ok result ∧
      ¬ SizesAgree { daemon with session := result.2.1, paneTerminals := result.2.2 } := by
  -- The first pane loses half of its rectangle, and its terminal keeps the whole size.
  obtain ⟨tab, current, active, alone⟩ := calm.current
  obtain ⟨next, split, tiled, pos, listed, smaller⟩ := alone.splitPane (by decide) (by decide) direction
  obtain ⟨terminal, stored, wide, high⟩ := calm.terminal
  have inside := (List.getElem?_eq_some_iff.mp active).1
  have differs : ¬ (terminal.screen.cols = pos.cols ∧ terminal.screen.rows = pos.rows) := by omega
  simp only [splitAndSpawn, current, ok_bind, split, daemonPanes, storeAccess]
  cases pty.spawn with
  | ok =>
    refine ⟨_, rfl, disagree (List.getElem?_set_self inside) tiled listed ?_ differs⟩
    exact (AList.lookup_insert_ne (by decide)).trans stored
  | error e => exact ⟨_, rfl, disagree (List.getElem?_set_self inside) tiled listed stored differs⟩

theorem exchange_disagrees (calm : daemon.Calm) {id : PaneId} {before after : Terminal}
    (stored : daemon.paneTerminals.lookup id = some before)
    (changed : ¬ (after.screen.cols = before.screen.cols ∧ after.screen.rows = before.screen.rows)) :
    ¬ SizesAgree { daemon with paneTerminals := Keyed.modify daemon.paneTerminals id fun _ => after } := by
  obtain rfl := calm.only id (AList.lookup_isSome.mp (by rw [stored]; rfl))
  obtain ⟨tab, -, active, alone⟩ := calm.current
  obtain ⟨first, there, cols, rows⟩ := calm.terminal
  obtain rfl := Option.some.inj (there.symm.trans stored)
  rw [cols, rows] at changed
  refine disagree active ((alone.mem_panes 0).mpr rfl) alone.listed ?_ changed
  rw [Keyed.lookup_modify, if_pos rfl, there]
  rfl

theorem loses (calm : daemon.Calm) (event : DaemonEvent) (loud : ¬ keepsSizes event daemon) :
    ∃ next, step event daemon = .ok next ∧ ¬ next.SizesAgree := by
  cases event with
  | poll now =>
    simp only [keepsSizes, not_forall] at loud
    obtain ⟨id, terminal, stored, changed⟩ := loud
    obtain rfl := calm.only id (AList.lookup_isSome.mp (by rw [stored]; rfl))
    rw [step, calm.pollPanes_alone now stored]
    cases fed : run Terminal.feed (now.chunks 0) terminal with
    | error panic => rw [fed] at changed; exact absurd trivial changed
    | ok after =>
      rw [fed] at changed
      exact ⟨_, rfl, calm.exchange_disagrees stored changed⟩
  | message pty msg =>
    cases msg with
    | attach cols rows | resize cols rows => exact ⟨_, rfl, calm.resize_disagrees loud⟩
    | splitPane direction size =>
      obtain ⟨result, split, differs⟩ := @split_disagrees _ _ _ pty calm direction
      refine ⟨_, ?_, differs⟩
      simp only [step, Daemon.handle.eq_def, handleIpc, split]
      rfl
    | spawnPane direction =>
      obtain ⟨result, split, differs⟩ := @split_disagrees _ _ _ pty calm (spawnDirection direction)
      refine ⟨_, ?_, differs⟩
      simp only [step, Daemon.handle.eq_def, handleIpc, split]
      rfl
    | capturePane id =>
      simp only [keepsSizes, not_forall] at loud
      obtain ⟨terminal, stored, changed⟩ := loud
      cases captured : daemonCapture pty id terminal with
      | error panic => rw [captured] at changed; exact absurd trivial changed
      | ok read =>
        rw [captured] at changed
        refine ⟨{ daemon with paneTerminals := Keyed.modify daemon.paneTerminals id fun _ => read.2 }, ?_,
          calm.exchange_disagrees stored changed⟩
        simp only [step, Daemon.handle.eq_def, handleIpc, daemonPanes, storeAccess, stored, captured]
        rfl
    | _ => exact absurd trivial loud

theorem step (calm : daemon.Calm) (event : DaemonEvent) (quiet : keepsSizes event daemon) :
    Ensures AnyPanic (Daemon.step event daemon) Calm := by
  cases event with
  | poll now => exact calm.poll quiet
  | message pty msg => exact (calm.handle msg quiet).map

end Calm

theorem agree_iff (events : List DaemonEvent) {daemon : Daemon R} (calm : daemon.Calm) :
    Throughout step SizesAgree events daemon ↔ Along step keepsSizes events daemon :=
  throughout_iff_along_within (fun _ => Calm.sizesAgree) (fun event _ calm quiet => calm.step event quiet)
    (fun event _ calm loud => calm.loses event loud) events calm

end Daemon

namespace DaemonLoop

theorem start_calm {pty : Pty} (spawned : pty.spawn = .ok ()) (sessionName : String) :
    ∃ loop : DaemonLoop R, start pty sessionName = .ok loop ∧ loop.daemon.Calm := by
  obtain ⟨daemon, started, calm⟩ := @Daemon.start_calm R _ pty spawned sessionName
  exact ⟨{ daemon }, by rw [start, started]; rfl, calm⟩

theorem keeps_sizes_iff (wire : Wire E) {pty : Pty} (spawned : pty.spawn = .ok ()) (sessionName : String)
    (passes : List Pass) : ∃ loop : DaemonLoop R, start pty sessionName = .ok loop ∧
      (Along (step wire) (fun now loop => Throughout Daemon.step Daemon.SizesAgree (loop.events wire now) loop.daemon)
          passes loop ↔
        Along (step wire) (fun now loop => Along Daemon.step Daemon.keepsSizes (loop.events wire now) loop.daemon)
          passes loop) := by
  obtain ⟨loop, started, calm⟩ := @start_calm R _ pty spawned sessionName
  refine ⟨loop, started, along_iff_within (fun now before (calm : before.daemon.Calm) => Daemon.agree_iff _ calm)
    (fun now before calm quiet => ensures_any_iff.mpr fun next stepped => ?_) passes calm⟩
  have events := run_ensures (fun event _ quiet calm => Daemon.Calm.step calm event quiet) quiet calm
  rw [← step_daemon, stepped] at events
  exact events

def resizeText : Bytes :=
  ascii ['{', '"', 'R', 'e', 's', 'i', 'z', 'e', '"', ':', '{', '"', 'c', 'o', 'l', 's', '"', ':', '1', '0', '0', ',',
    '"', 'r', 'o', 'w', 's', '"', ':', '3', '0', '}', '}']

def resizeWire : Wire Unit where
  requests :=
    { toVec := fun _ => .error ()
      fromSlice := fun data => if data = resizeText then .ok (.resize 100 30) else .error () }
  messages :=
    { toVec := fun _ => .error ()
      fromSlice := fun _ => .error () }

def quietPty : Pty := { output := fun _ => [], write := fun _ _ => .ok (), spawn := .ok () }

/-- The panes print nothing, and every write succeeds. -/
def quietPass (accepted : Option Socket) : Pass where
  accepted
  order ids := ids
  permutes _ := .refl _
  chunks _ := []
  sizes _ _ member := by cases member
  writes _ _ := none
  pty _ := quietPty
  replies _ := none

def resizePass : Pass := quietPass (some (symbols (toBeBytes 33 ++ resizeText)))

theorem keeps_sizes_iff_resize : ∃ loop : DaemonLoop Rat, start quietPty "main" = .ok loop ∧
    (Along (step resizeWire)
        (fun now loop => Throughout Daemon.step Daemon.SizesAgree (loop.events resizeWire now) loop.daemon)
        [resizePass] loop ↔
      Along (step resizeWire)
        (fun now loop => Along Daemon.step Daemon.keepsSizes (loop.events resizeWire now) loop.daemon)
        [resizePass] loop) :=
  keeps_sizes_iff resizeWire rfl "main" [resizePass]

/-- The session has 100 columns after the message, the terminal 80. -/
theorem resize_leaves_screen : ∃ loop : DaemonLoop Rat, start quietPty "main" = .ok loop ∧
    ¬ Along (step resizeWire)
      (fun now loop => Throughout Daemon.step Daemon.SizesAgree (loop.events resizeWire now) loop.daemon)
      [resizePass] loop := by
  obtain ⟨daemon, started, calm⟩ := @Daemon.start_calm Rat _ quietPty rfl "main"
  obtain ⟨terminal, stored, -⟩ := calm.terminal
  have running : daemon.shutdown = false := by
    cases started
    rfl
  have events : events resizeWire resizePass { daemon } = [.poll resizePass, .message quietPty (.resize 100 30)] := by
    rw [DaemonLoop.events, running]
    rfl
  have polled : Daemon.step (.poll resizePass) daemon =
      .ok { daemon with paneTerminals := Keyed.modify daemon.paneTerminals 0 fun _ => terminal } := by
    rw [Daemon.step, calm.pollPanes_alone resizePass stored]
    rfl
  refine ⟨{ daemon }, by rw [start, started]; rfl, fun agrees => ?_⟩
  have through : Throughout Daemon.step Daemon.SizesAgree (DaemonLoop.events resizeWire resizePass { daemon }) daemon :=
    agrees.1
  rw [events] at through
  have quiet := (Daemon.agree_iff _ calm).mp through
  have asked := (quiet.2.of_ok polled).1
  exact absurd asked.1 (by decide)

end DaemonLoop

end Emux
