import Emux.Ipc.Handler

set_option autoImplicit false

/-!
# The daemon server

`DaemonServer::handle_message` answers the same messages as `handle_ipc`, with lookups of its own. Over the same
panes the two give the same replies and leave the same session.
-/

namespace Emux

open Checked

structure DaemonServer (R : Type) where
  session : Session R
  dirty : Bool
  paneTerminals : Keyed.Map PaneId Terminal

variable {R P : Type} [Ratio R]

def blankContent (cols rows : Nat) : String :=
  "\n".intercalate (List.replicate rows (String.ofList (List.replicate cols ' ')))

namespace DaemonServer

def handleMessage (pty : Pty) (server : DaemonServer R) : ClientMessage -> Fallible (ServerMessage × DaemonServer R)
  | .ping => .ok (.pong, server)
  | .getVersion => .ok (.version protocolVersion, server)
  | .resize cols rows =>
    .ok (.ack, { server with session := server.session.resize cols.toNat rows.toNat, dirty := true })
  | .focusPane id => do
    let tab <- server.session.current
    match tab.focusPane id with
    | (ok, tab) =>
      let server := { server with session := server.session.setCurrent tab }
      .ok (if ok then .ack else paneNotFound id, server)
  | .keyInput _ => .ok (.ack, server)
  | .spawnPane direction => do
    let tab <- server.session.current
    let (split, tab) <- tab.splitPane (spawnDirection direction)
    let session := server.session.setCurrent tab
    match split with
    | some paneId => .ok (.spawnResult paneId, { server with session, dirty := true })
    | none => .ok (.error "cannot split pane", { server with session })
  | .killPane id => do
    let tab <- server.session.current
    match tab.closePane id with
    | (true, tab) => .ok (.ack, { server with session := server.session.setCurrent tab, dirty := true })
    | (false, tab) =>
      .ok (.error s!"cannot kill pane {id}", { server with session := server.session.setCurrent tab })
  | .detach => .ok (.ack, server)
  | .listSessions => do
    let tab <- server.session.current
    let session := server.session
    let entry :=
      { name := session.name, tabs := session.tabs.length, panes := tab.paneCount
        cols := session.size.cols, rows := session.size.rows }
    .ok (.sessionList [entry], server)
  | .killSession name =>
    .ok (if name = server.session.name then .ack else .error s!"no such session: {name}", server)
  | .splitPane direction _ => do
    let tab <- server.session.current
    let (split, tab) <- tab.splitPane direction
    let session := server.session.setCurrent tab
    match split with
    | some paneId =>
      let (cols, rows) := ((tab.listed paneId).map fun pos => (pos.cols, pos.rows)).getD (80, 24)
      let paneTerminals :=
        match pty.spawn with
        | .ok () => server.paneTerminals.insert paneId (Terminal.new cols rows)
        | .error _ => server.paneTerminals
      .ok (.spawnResult paneId, { session, paneTerminals, dirty := true })
    | none => .ok (.error "cannot split pane", { server with session })
  | .capturePane id => do
    let tab <- server.session.current
    match tab.pane id with
    | none => .ok (paneNotFound id, server)
    | some _ =>
      match server.paneTerminals.lookup id with
      | some terminal => do
        let (content, terminal) <- daemonCapture pty id terminal
        let paneTerminals := Keyed.modify server.paneTerminals id fun _ => terminal
        .ok (.paneCaptured id content, { server with paneTerminals })
      | none =>
        let (cols, rows) := ((tab.listed id).map fun pos => (pos.cols, pos.rows)).getD (0, 0)
        .ok (.paneCaptured id (blankContent cols rows), server)
  | .sendKeys id keys => do
    let tab <- server.session.current
    match tab.pane id with
    | none => .ok (paneNotFound id, server)
    | some _ =>
      match server.paneTerminals.lookup id with
      | some _ =>
        match pty.write id keys.toUTF8.data.toList with
        | .ok () => .ok (.ack, server)
        | .error e => .ok (.error s!"PTY write error: {e}", server)
      | none => .ok (.ack, server)
  | .listPanes => do
    let tab <- server.session.current
    let entries := tab.computePositions.map fun placed => tab.entry placed.1 placed.2.cols placed.2.rows
    .ok (.paneList entries, server)
  | .getPaneInfo id => do
    let tab <- server.session.current
    match tab.pane id with
    | some _ =>
      let (cols, rows) := ((tab.listed id).map fun pos => (pos.cols, pos.rows)).getD (0, 0)
      .ok (.paneInfo (tab.entry id cols rows), server)
    | none => .ok (paneNotFound id, server)
  | .resizePane id cols rows => do
    let tab <- server.session.current
    match tab.pane id with
    | none => .ok (paneNotFound id, server)
    | some _ =>
      match tab.listed id with
      | some pos => do
        let tab <- tab.resizeListed id cols rows pos
        .ok (.ack, { server with session := server.session.setCurrent tab, dirty := true })
      | none => .ok (.error s!"cannot resize pane {id}", server)
  | .setPaneTitle id title => do
    let tab <- server.session.current
    match tab.pane id with
    | some _ =>
      let session := server.session.setCurrent (tab.updatePane id (.setTitle title))
      .ok (.ack, { server with session, dirty := true })
    | none => .ok (paneNotFound id, server)
  | .attach cols rows => .ok (.ack, { server with session := server.session.resize cols.toNat rows.toNat })

end DaemonServer

/-- Messages that end a connection, begin to follow a session or go to the active pane. -/
def ClientMessage.lifecycle : ClientMessage -> Bool
  | .attach .. | .detach | .killSession _ | .keyInput _ => true
  | _ => false

/-- Equal, or two errors. -/
def SameReply (reply other : ServerMessage) : Prop :=
  reply = other ∨ (∃ text, reply = .error text) ∧ ∃ text, other = .error text

/-- Both return, with the same reply and the same session, or both panic alike. -/
def Agree (x : Fallible (ServerMessage × DaemonServer R)) (y : Fallible (IpcResult × Session R × Keyed.Map PaneId P)) :
    Prop :=
  match x, y with
  | .ok (reply, server), .ok (result, session, _) => SameReply reply result.response ∧ server.session = session
  | .error panic, .error other => panic = other
  | _, _ => False

def daemonGrid (pty : Pty) (id : PaneId) (terminal : Terminal) : Fallible Grid :=
  (terminal.feed (pty.output id)).map fun terminal => terminal.screen.grid

def standaloneGrid (_ : PaneId) (pane : PaneState) : Fallible Grid := .ok pane.terminal.screen.grid

/-- Every tiled pane of the tab has a terminal in both stores, no other pane has, and the two show the same. -/
structure SamePanes (pty : Pty) (grid : PaneId -> P -> Fallible Grid) (tab : Tab R)
    (terminals : Keyed.Map PaneId Terminal) (store : Keyed.Map PaneId P) : Prop where
  onServer : ∀ id, id ∈ terminals ↔ id ∈ tab.panes
  inStore : ∀ id, id ∈ store ↔ id ∈ tab.panes
  shown : ∀ id terminal pane, terminals.lookup id = some terminal -> store.lookup id = some pane ->
    grid id pane = daemonGrid pty id terminal

/-! A capture reads the cells and nothing else of a screen. -/

def Grid.content (grid : Grid) : Fallible String := do
  let lines <- (List.range grid.rows).mapM fun row => do
    let line <- get grid.lines row
    .ok line.text
  .ok ("\n".intercalate lines)

theorem Screen.content_eq (s : Screen) : s.content = s.grid.content := rfl

theorem daemonCapture_text (pty : Pty) (id : PaneId) (terminal : Terminal) :
    (daemonCapture pty id terminal).map Prod.fst = daemonGrid pty id terminal >>= Grid.content := by
  rw [daemonCapture, daemonGrid]
  cases terminal.feed (pty.output id) with
  | error panic => rfl
  | ok drained =>
    rw [ok_bind, Screen.content_eq]
    cases read : drained.screen.grid.content with
    | error panic => exact read.symm
    | ok content => exact read.symm

theorem standaloneCapture_text (id : PaneId) (pane : PaneState) :
    (standaloneCapture id pane).map Prod.fst = standaloneGrid id pane >>= Grid.content := by
  rw [standaloneCapture, standaloneGrid, Screen.content_eq, ok_bind]
  cases pane.terminal.screen.grid.content with
  | error panic => rfl
  | ok content => rfl

variable {server : DaemonServer R} {session : Session R} {store store' : Keyed.Map PaneId P} {tab : Tab R} {pty : Pty}
  {capture : PaneId -> P -> Fallible (String × P)} {grid : PaneId -> P -> Fallible Grid} {fresh : Nat -> Nat -> P}

omit [Ratio R] in
theorem agree_reply (reply : ServerMessage) {next : DaemonServer R} (same : next.session = session) (store : Keyed.Map PaneId P) :
    Agree (.ok (reply, next)) (.ok (.reply reply, session, store)) := ⟨.inl rfl, same⟩

omit [Ratio R] in
theorem SamePanes.lookup (same : SamePanes pty grid tab server.paneTerminals store) (id : PaneId) :
    (tab.pane id = none ∧ store.lookup id = none) ∨ ∃ known terminal pane, tab.pane id = some known ∧
      server.paneTerminals.lookup id = some terminal ∧ store.lookup id = some pane := by
  -- A pane is tiled on both sides or on neither.
  cases known : tab.pane id with
  | none =>
    have absent : id ∉ tab.panes := AList.lookup_eq_none.mp known
    exact .inl ⟨rfl, AList.lookup_eq_none.mpr (mt (same.inStore id).mp absent)⟩
  | some pane =>
    have tiled : id ∈ tab.panes := AList.lookup_isSome.mp (Option.isSome_iff_exists.mpr ⟨pane, known⟩)
    obtain ⟨terminal, there⟩ := Option.isSome_iff_exists.mp (AList.lookup_isSome.mpr ((same.onServer id).mpr tiled))
    obtain ⟨other, stored⟩ := Option.isSome_iff_exists.mp (AList.lookup_isSome.mpr ((same.inStore id).mpr tiled))
    exact .inr ⟨pane, terminal, other, rfl, there, stored⟩

theorem capture_agrees (active : server.session.tabs[server.session.activeTab]? = some tab)
    (same : SamePanes pty grid tab server.paneTerminals store)
    (text : ∀ id pane, (capture id pane).map Prod.fst = grid id pane >>= Grid.content) (id : PaneId) :
    Agree (server.handleMessage pty (.capturePane id))
      (handleIpc (storeAccess pty capture fresh) server.session store (.capturePane id)) := by
  simp only [DaemonServer.handleMessage, handleIpc, Session.current, get_ok active, ok_bind, storeAccess]
  -- The pane is in neither store, or the two terminals show the same.
  rcases same.lookup id with ⟨unknown, missing⟩ | ⟨known, terminal, pane, is, there, stored⟩
  next =>
    simp only [unknown, missing, ok_bind]
    exact agree_reply _ rfl _
  next =>
    have shown : (capture id pane).map Prod.fst = (daemonCapture pty id terminal).map Prod.fst := by
      rw [text, same.shown id terminal pane there stored, daemonCapture_text]
    simp only [is, there, stored]
    cases daemon : daemonCapture pty id terminal with
    | error panic =>
      cases read : capture id pane with
      | error other =>
        rw [daemon, read] at shown
        exact (Except.error.inj shown).symm
      | ok captured => rw [daemon, read] at shown; cases shown
    | ok drained =>
      cases read : capture id pane with
      | error other => rw [daemon, read] at shown; cases shown
      | ok captured =>
        rw [daemon, read] at shown
        have text : captured.1 = drained.1 := Except.ok.inj shown
        simp only [ok_bind, text]
        exact agree_reply _ rfl _

theorem split_agrees (active : server.session.tabs[server.session.activeTab]? = some tab) (spawned : pty.spawn = .ok ())
    (direction : SplitDirection) {answer : Option PaneId × Tab R -> Fallible (ServerMessage × DaemonServer R)}
    (split : ∀ id tab, ∃ next, answer (some id, tab) = .ok (.spawnResult id, next) ∧
      next.session = server.session.setCurrent tab)
    (refused : ∀ tab, ∃ next, answer (none, tab) = .ok (.error "cannot split pane", next) ∧
      next.session = server.session.setCurrent tab) :
    Agree (tab.splitPane direction >>= answer)
      (splitAndSpawn (storeAccess pty capture fresh) direction server.session store) := by
  simp only [splitAndSpawn, Session.current, get_ok active, ok_bind]
  cases tab.splitPane direction with
  | error panic => rfl
  | ok result =>
    obtain ⟨id, after⟩ := result
    simp only [ok_bind]
    cases id with
    | none =>
      obtain ⟨next, answered, same⟩ := refused after
      rw [answered]
      exact agree_reply _ same _
    | some id =>
      obtain ⟨next, answered, same⟩ := split id after
      rw [answered]
      simp only [storeAccess, spawned]
      exact ⟨.inl rfl, same⟩

theorem handleMessage_agrees (active : server.session.tabs[server.session.activeTab]? = some tab)
    (spawned : pty.spawn = .ok ()) (written : ∀ id data, pty.write id data = .ok ())
    (same : SamePanes pty grid tab server.paneTerminals store)
    (text : ∀ id pane, (capture id pane).map Prod.fst = grid id pane >>= Grid.content) (msg : ClientMessage)
    (kept : msg.lifecycle = false) :
    Agree (server.handleMessage pty msg) (handleIpc (storeAccess pty capture fresh) server.session store msg) := by
  -- Every message but those of a connection's lifecycle, over one pane store.
  have current : server.session.current = .ok tab := get_ok active
  cases msg with
  | attach | detach | killSession | keyInput => cases kept
  | ping | getVersion => exact agree_reply _ rfl _
  | resize cols rows => exact agree_reply _ rfl _
  | capturePane id => exact capture_agrees active same text id
  | splitPane direction size =>
    simp only [DaemonServer.handleMessage, handleIpc, current, ok_bind]
    exact split_agrees active spawned direction (fun _ _ => ⟨_, rfl, rfl⟩) fun _ => ⟨_, rfl, rfl⟩
  | spawnPane direction =>
    simp only [DaemonServer.handleMessage, handleIpc, current, ok_bind]
    exact split_agrees active spawned (spawnDirection direction) (fun _ _ => ⟨_, rfl, rfl⟩) fun _ => ⟨_, rfl, rfl⟩
  | listSessions | listPanes =>
    simp only [DaemonServer.handleMessage, handleIpc, current, ok_bind]
    exact agree_reply _ rfl _
  | getPaneInfo id | setPaneTitle id title =>
    simp only [DaemonServer.handleMessage, handleIpc, current, ok_bind]
    cases tab.pane id with
    | none => exact agree_reply _ rfl _
    | some pane => exact agree_reply _ rfl _
  | focusPane id =>
    simp only [DaemonServer.handleMessage, handleIpc, current, ok_bind]
    cases tab.focusPane id with
    | mk focused next =>
      cases focused with
      | false => exact agree_reply _ rfl _
      | true => exact agree_reply _ rfl _
  | killPane id =>
    simp only [DaemonServer.handleMessage, handleIpc, current, ok_bind]
    cases tab.closePane id with
    | mk closed next =>
      cases closed with
      | false => exact agree_reply _ rfl _
      | true => exact ⟨.inl rfl, rfl⟩
  | sendKeys id keys =>
    simp only [DaemonServer.handleMessage, handleIpc, current, ok_bind, storeAccess]
    rcases same.lookup id with ⟨unknown, missing⟩ | ⟨known, terminal, pane, is, there, stored⟩
    next =>
      simp only [unknown, missing]
      exact agree_reply _ rfl _
    next =>
      simp only [is, there, stored, written, Except.mapError]
      exact agree_reply _ rfl _
  | resizePane id cols rows =>
    simp only [DaemonServer.handleMessage, handleIpc, current, ok_bind]
    cases tab.pane id with
    | none => exact agree_reply _ rfl _
    | some pane =>
      cases tab.listed id with
      | none => exact ⟨.inr ⟨⟨_, rfl⟩, _, rfl⟩, rfl⟩
      | some pos =>
        cases resized : tab.resizeListed id cols rows pos with
        | error panic =>
          simp only [resized, error_bind]
          rfl
        | ok next =>
          simp only [resized, ok_bind]
          exact ⟨.inl rfl, rfl⟩

theorem servers_agree (active : server.session.tabs[server.session.activeTab]? = some tab) (spawned : pty.spawn = .ok ())
    (written : ∀ id data, pty.write id data = .ok ()) (msg : ClientMessage) (kept : msg.lifecycle = false) :
    (∀ store, SamePanes pty (daemonGrid pty) tab server.paneTerminals store ->
      Agree (server.handleMessage pty msg) (handleIpc (daemonPanes pty) server.session store msg)) ∧
    ∀ store, SamePanes pty standaloneGrid tab server.paneTerminals store ->
      Agree (server.handleMessage pty msg) (handleIpc (standalonePanes pty) server.session store msg) :=
  ⟨fun _ same => handleMessage_agrees active spawned written same (daemonCapture_text pty) msg kept,
    fun _ same => handleMessage_agrees active spawned written same standaloneCapture_text msg kept⟩

theorem feed_nil (t : Terminal) : t.feed [] = .ok t := by
  rw [Terminal.feed, Parser.advance_eq_advanceBytes]
  rfl

theorem servers_agree_new :
    let server : DaemonServer Rat :=
      { session := Session.new "main" 80 24, dirty := false, paneTerminals := AList.singleton 0 (Terminal.new 80 24) }
    let pty : Pty := { output := fun _ => [], write := fun _ _ => .ok (), spawn := .ok () }
    Agree (server.handleMessage pty (.capturePane 0))
        (handleIpc (daemonPanes pty) server.session server.paneTerminals (.capturePane 0)) ∧
      Agree (server.handleMessage pty (.capturePane 0))
        (handleIpc (standalonePanes pty) server.session (AList.singleton 0 (PaneState.new 80 24)) (.capturePane 0)) := by
  intro server pty
  have both := @servers_agree Rat _ server _ pty rfl rfl (fun _ _ => rfl) (.capturePane 0) rfl
  refine ⟨both.1 _ ⟨fun id => Iff.rfl, fun id => Iff.rfl, fun id terminal pane there stored => ?_⟩,
    both.2 _ ⟨fun id => Iff.rfl, fun id => Iff.rfl, fun id terminal pane there stored => ?_⟩⟩
  next => rw [Option.some.inj (there.symm.trans stored)]
  next =>
    have tiled : id ∈ server.paneTerminals := AList.lookup_isSome.mp (Option.isSome_iff_exists.mpr ⟨terminal, there⟩)
    obtain rfl : id = 0 := List.mem_singleton.mp tiled
    obtain rfl : Terminal.new 80 24 = terminal := Option.some.inj there
    obtain rfl : PaneState.new 80 24 = pane := Option.some.inj stored
    rw [daemonGrid, feed_nil]
    rfl

end Emux
