import Emux.Ipc.Server
import Emux.Ipc.Streaming
import Emux.Term.Clipboard

set_option autoImplicit false

/-!
# What an attached client can rebuild

The messages an attached client is sent carry the bytes that the daemon has read from each pane. A terminal that is fed
with those of one pane goes the way the daemon's own terminal of the pane goes, until a capture reads output that the
loop has not read: such output is sent to nobody.
-/

namespace Emux

open Checked Arrivals Removal

variable {R E : Type} [Ratio R]

namespace Daemon

def Below (daemon : Daemon R) (id : PaneId) : Prop :=
  ∃ tab, daemon.session.tabs[daemon.session.activeTab]? = some tab ∧ id < tab.nextPaneId

/-- What handling a message does to the terminals: ids are not given out again, and a terminal changes by the output
that a capture reads. -/
structure Stepped (pty : Pty) (msg : ClientMessage) (daemon next : Daemon R) : Prop where
  below : ∀ id, daemon.Below id -> next.Below id
  new : ∀ id ∈ next.paneTerminals, id ∈ daemon.paneTerminals ∨ next.Below id
  kept : ∀ id terminal, daemon.Below id -> next.paneTerminals.lookup id = some terminal ->
    ∃ before, daemon.paneTerminals.lookup id = some before ∧
      (terminal = before ∨ msg = .capturePane id ∧ before.feed (pty.output id) = .ok terminal)

variable {pty : Pty} {msg : ClientMessage} {daemon : Daemon R}

omit [Ratio R] in
theorem stepped_session {session : Session R} (below : ∀ id, daemon.Below id -> Below { daemon with session } id)
    (shutdown : Bool) : Stepped pty msg daemon { daemon with session, shutdown } :=
  ⟨below, fun _ => .inl, fun _ terminal _ found => ⟨terminal, found, .inl rfl⟩⟩

omit [Ratio R] in
theorem stepped_refl (shutdown : Bool) : Stepped pty msg daemon { daemon with shutdown } :=
  @stepped_session R pty msg daemon daemon.session (fun _ => id) shutdown

omit [Ratio R] in
theorem below_setCurrent {tab next : Tab R} (active : daemon.session.tabs[daemon.session.activeTab]? = some tab)
    (grown : tab.nextPaneId ≤ next.nextPaneId) (paneTerminals : Keyed.Map PaneId Terminal) (id : PaneId)
    (below : daemon.Below id) : Below { daemon with session := daemon.session.setCurrent next, paneTerminals } id := by
  obtain ⟨other, is, less⟩ := below
  obtain rfl := Option.some.inj (active.symm.trans is)
  exact ⟨next, List.getElem?_set_self (List.getElem?_eq_some_iff.mp active).1, Nat.lt_of_lt_of_le less grown⟩

theorem below_resize (cols rows : Nat) (id : PaneId) (below : daemon.Below id) :
    Below { daemon with session := daemon.session.resize cols rows } id := by
  obtain ⟨tab, active, less⟩ := below
  refine ⟨tab.resize cols rows, ?_, less⟩
  show (daemon.session.tabs.map _)[daemon.session.activeTab]? = _
  rw [List.getElem?_map, active]
  rfl

theorem nextPaneId_resizePane (tab : Tab R) (id : PaneId) (direction : ResizeDirection) (amount : Int) :
    (tab.resizePane id direction amount).2.nextPaneId = tab.nextPaneId := by
  rcases Tab.resizePane_cases tab id direction amount with refused | ⟨delta, adjusted⟩
  next => rw [refused]
  next =>
    rw [adjusted]
    rcases Tab.adjustRatio_cases tab id (Tab.resizeAxis direction) delta with kept | ⟨layout, -, changed⟩
    next => rw [kept]
    next => rw [changed]; rfl

theorem nextPaneId_resizeListed (tab : Tab R) (id : PaneId) (cols rows : UInt16) (pos : PanePosition) :
    Ensures AnyPanic (tab.resizeListed id cols rows pos) fun next => next.nextPaneId = tab.nextPaneId := by
  unfold Tab.resizeListed
  refine ensures_after _ fun dc => ensures_after _ fun dr => ensures_ok ?_
  split <;> split <;> simp only [nextPaneId_resizePane]

theorem split_stepped (direction : SplitDirection) : Ensures AnyPanic
    (splitAndSpawn (daemonPanes pty) direction daemon.session daemon.paneTerminals) fun result =>
      Stepped pty msg daemon { daemon with session := result.2.1, paneTerminals := result.2.2 } := by
  unfold splitAndSpawn
  refine Session.after_current fun tab active => ?_
  next =>
    refine ((Tab.splitPane_cases tab direction).allow fun _ _ => trivial).bind fun split cases => ?_
    rcases cases with ⟨rfl, -⟩ | ⟨target, cols, rows, -, -, rfl, -⟩
    next =>
      have kept := @below_setCurrent R daemon tab { tab with fullscreenPane := none } active (Nat.le_refl _)
      exact ensures_ok (stepped_session (kept daemon.paneTerminals) _)
    next =>
      have grown : tab.nextPaneId + 1 = (tab.splitAt target direction cols rows).nextPaneId :=
        (Tab.splitAt_nextPaneId ..).symm
      have below := @below_setCurrent R daemon tab _ active (Nat.le_trans (Nat.le_succ _) (Nat.le_of_eq grown))
      simp only [daemonPanes, storeAccess]
      cases pty.spawn with
      | error e => exact ensures_ok (stepped_session (below daemon.paneTerminals) _)
      | ok _ =>
        refine ensures_ok ⟨fun id given => below _ id given, fun id member => ?_, fun id terminal given found => ?_⟩
        next =>
          rcases (AList.mem_insert _).mp member with rfl | before
          next =>
            refine .inr ⟨_, List.getElem?_set_self (List.getElem?_eq_some_iff.mp active).1, ?_⟩
            exact Nat.lt_of_lt_of_eq (Nat.lt_succ_self _) grown
          next => exact .inl before
        next =>
          obtain ⟨other, is, less⟩ := given
          obtain rfl := Option.some.inj (active.symm.trans is)
          have apart : id ≠ tab.nextPaneId := Nat.ne_of_lt less
          exact ⟨terminal, (AList.lookup_insert_ne apart).symm.trans found, .inl rfl⟩

theorem capture_stepped (id : PaneId) : Ensures AnyPanic (daemon.handle pty (.capturePane id)) fun result =>
    Stepped pty (.capturePane id) daemon result.2 := by
  simp only [handle.eq_def, handleIpc, daemonPanes, storeAccess]
  cases stored : daemon.paneTerminals.lookup id with
  | none => exact stepped_refl _
  | some terminal =>
    simp only [daemonCapture]
    cases fed : terminal.feed (pty.output id) with
    | error panic => trivial
    | ok after =>
      cases read : after.screen.content with
      | error panic =>
        simp only [ok_bind, read, error_bind]
        trivial
      | ok content =>
        simp only [ok_bind, read]
        refine ensures_ok ⟨fun _ given => given, fun other member => .inl ((Keyed.mem_modify ..).mp member), ?_⟩
        intro other captured _ found
        rw [Keyed.lookup_modify] at found
        by_cases this : other = id
        next =>
          subst this
          rw [if_pos rfl, stored, Option.map_some] at found
          cases found
          exact ⟨terminal, stored, .inr ⟨rfl, fed⟩⟩
        next =>
          rw [if_neg this] at found
          exact ⟨captured, found, .inl rfl⟩

theorem handle_stepped (msg : ClientMessage) : Ensures AnyPanic (daemon.handle pty msg) fun result =>
    Stepped pty msg daemon result.2 := by
  have whole {x : Fallible (IpcResult × Session R × Keyed.Map PaneId Terminal)}
      (stepped : Ensures AnyPanic x fun result =>
        Stepped pty msg daemon { daemon with session := result.2.1, paneTerminals := result.2.2 }) :
      Ensures AnyPanic (x >>= fun result => .ok (result.1.response,
        { daemon with session := result.2.1, paneTerminals := result.2.2 })) fun result => Stepped pty msg daemon result.2 :=
    stepped.bind fun result stepped => ensures_ok stepped
  have set {tab next : Tab R} (active : daemon.session.tabs[daemon.session.activeTab]? = some tab)
      (grown : tab.nextPaneId ≤ next.nextPaneId) :
      Stepped pty msg daemon { daemon with session := daemon.session.setCurrent next } :=
    stepped_session (below_setCurrent active grown daemon.paneTerminals) daemon.shutdown
  cases msg with
  | ping | getVersion | detach | killSession => exact stepped_refl _
  | attach cols rows | resize cols rows => exact stepped_session (below_resize _ _) _
  | capturePane id => exact capture_stepped id
  | keyInput =>
    simp only [handle.eq_def]
    exact Session.after_current fun tab active => ensures_ok (stepped_refl _)
  | listSessions | listPanes =>
    simp only [handle.eq_def, handleIpc]
    exact whole (Session.after_current fun tab active => ensures_ok (stepped_refl _))
  | sendKeys id keys =>
    simp only [handle.eq_def, handleIpc]
    cases (daemonPanes pty).sendKeys id keys.toUTF8.data.toList daemon.paneTerminals with
    | ok => exact stepped_refl _
    | error message => exact stepped_refl _
  | splitPane direction size | spawnPane direction =>
    simp only [handle.eq_def, handleIpc]
    exact whole (split_stepped _)
  | getPaneInfo id =>
    simp only [handle.eq_def, handleIpc]
    refine whole (Session.after_current fun tab active => ?_)
    cases tab.pane id with
    | none => exact stepped_refl _
    | some pane => exact stepped_refl _
  | setPaneTitle id title =>
    simp only [handle.eq_def, handleIpc]
    refine whole (Session.after_current fun tab active => ?_)
    cases tab.pane id with
    | none => exact stepped_refl _
    | some pane => exact set active (Nat.le_refl _)
  | focusPane id =>
    simp only [handle.eq_def, handleIpc]
    refine whole (Session.after_current fun tab active => ?_)
    have same := (Tab.keeps_focusPane tab id).nextPaneId
    cases result : tab.focusPane id with
    | mk found next =>
      rw [result] at same
      cases found <;> exact set active (Nat.le_of_eq same.symm)
  | killPane id =>
    simp only [handle.eq_def, handleIpc]
    refine whole (Session.after_current fun tab active => ?_)
    have same := (Tab.keeps_closePane tab id).nextPaneId
    cases result : tab.closePane id with
    | mk closed next =>
      rw [result] at same
      cases closed with
      | false => exact set active (Nat.le_of_eq same.symm)
      | true =>
        have below := below_setCurrent active (Nat.le_of_eq same.symm) (daemon.paneTerminals.erase id)
        refine ensures_ok ⟨below, fun other member => .inl (AList.mem_erase.mp member).2, fun other terminal _ found => ?_⟩
        have left : (daemon.paneTerminals.erase id).lookup other = some terminal := found
        have apart := (AList.mem_erase.mp (AList.lookup_isSome.mp (by rw [left]; rfl))).1
        exact ⟨terminal, (AList.lookup_erase_ne apart).symm.trans left, .inl rfl⟩
  | resizePane id cols rows =>
    simp only [handle.eq_def, handleIpc]
    refine whole (Session.after_current fun tab active => ?_)
    cases tab.pane id with
    | none => exact stepped_refl _
    | some pane =>
      cases tab.listed id with
      | none => exact stepped_refl _
      | some pos =>
        refine (nextPaneId_resizeListed tab id cols rows pos).bind fun next same => ?_
        exact set active (Nat.le_of_eq same.symm)

def Fresh (daemon : Daemon R) : Prop := ∀ id ∈ daemon.paneTerminals, daemon.Below id

omit [Ratio R] in
theorem Stepped.fresh {next : Daemon R} (stepped : Stepped pty msg daemon next) (fresh : daemon.Fresh) : next.Fresh :=
  fun id member => (stepped.new id member).elim (fun before => stepped.below id (fresh id before)) fun below => below

end Daemon

namespace DaemonLoop

variable {wire : Wire E} {now : Pass} {loop next : DaemonLoop R}

def outputOf (id : PaneId) (output : List (PaneId × Bytes)) : Bytes :=
  output.flatMap fun item => if item.1 = id then item.2 else []

theorem outputOf_append (id : PaneId) (first later : List (PaneId × Bytes)) :
    outputOf id (first ++ later) = outputOf id first ++ outputOf id later := List.flatMap_append

theorem outputOf_polled_cons (id first : PaneId) (rest : List PaneId) :
    outputOf id (polled now (first :: rest)) =
      (if first = id then (now.chunks first).flatten else []) ++ outputOf id (polled now rest) := by
  have chunks : outputOf id ((now.chunks first).map (Prod.mk first)) = if first = id then (now.chunks first).flatten else [] := by
    rw [outputOf, List.flatMap_map]
    by_cases same : first = id
    next => simp [same, List.flatMap_def]
    next => simp [same]
  rw [← chunks, ← outputOf_append]
  rfl

theorem outputOf_polled_absent {id : PaneId} {ids : List PaneId} (absent : id ∉ ids) : outputOf id (polled now ids) = [] := by
  induction ids with
  | nil => rfl
  | cons first rest ih =>
    obtain ⟨other, later⟩ := not_or.mp (mt List.mem_cons.mpr absent)
    rw [outputOf_polled_cons, if_neg (Ne.symm other), ih later, List.append_nil]

theorem pollPanes_lookup {ids : List PaneId} (distinct : ids.Nodup) {terminals after : Keyed.Map PaneId Terminal}
    (polling : pollPanes now ids terminals = .ok after) : after.keys = terminals.keys ∧
      ∀ id terminal, after.lookup id = some terminal ->
        ∃ before, terminals.lookup id = some before ∧ before.feed (outputOf id (polled now ids)) = .ok terminal := by
  induction ids generalizing terminals with
  | nil =>
    cases polling
    exact ⟨rfl, fun id terminal found => ⟨terminal, found, feed_nil terminal⟩⟩
  | cons first rest ih =>
    -- No pane is polled twice, so the panes to come leave this one as it is.
    obtain ⟨apart, others⟩ := List.nodup_cons.mp distinct
    unfold pollPanes at polling
    rw [List.foldlM_cons] at polling
    cases stored : terminals.lookup first with
    | none =>
      simp only [stored, ok_bind] at polling
      obtain ⟨keys, rest⟩ := ih others polling
      refine ⟨keys, fun id terminal found => ?_⟩
      obtain ⟨before, there, fed⟩ := rest id terminal found
      have other : first ≠ id := by
        rintro rfl
        cases stored.symm.trans there
      exact ⟨before, there, by rw [outputOf_polled_cons, if_neg other]; exact fed⟩
    | some terminal =>
      simp only [stored] at polling
      cases fed : run Terminal.feed (now.chunks first) terminal with
      | error panic => rw [fed] at polling; cases polling
      | ok advanced =>
        rw [fed] at polling
        obtain ⟨keys, rest⟩ := ih others polling
        refine ⟨keys.trans (Keyed.keys_modify ..), fun id last found => ?_⟩
        obtain ⟨before, there, more⟩ := rest id last found
        rw [Keyed.lookup_modify] at there
        rw [outputOf_polled_cons]
        by_cases this : id = first
        next =>
          subst this
          rw [if_pos rfl, stored, Option.map_some] at there
          cases there
          rw [outputOf_polled_absent apart, feed_nil] at more
          cases more
          refine ⟨terminal, stored, ?_⟩
          rw [if_pos rfl, outputOf_polled_absent apart, List.append_nil, ← Terminal.run_feed_flatten, fed]
        next =>
          rw [if_neg this] at there
          rw [if_neg (Ne.symm this)]
          exact ⟨before, there, more⟩

/-- No capture that is handled in the pass finds output of the pane that the loop has not read. -/
def capturesNothing (wire : Wire E) (id : PaneId) (now : Pass) (clients : List (Nat × Stream)) : Prop :=
  ∀ client ∈ clients, (wire.requests.readMessage client.2.incoming).1 = .ok (.capturePane id) ->
    (now.pty client.1).output id = []

theorem serve_keeps {daemon after : Daemon R} {clients : List (Nat × Stream)} {handled : List Handled}
    (served : serve wire now daemon clients = .ok (handled, after)) :
    (∀ id, daemon.Below id -> after.Below id) ∧ (daemon.Fresh -> after.Fresh) ∧
      ∀ id terminal, daemon.Below id -> capturesNothing wire id now clients ->
        after.paneTerminals.lookup id = some terminal -> daemon.paneTerminals.lookup id = some terminal := by
  -- Client by client, in the order of the list that the loop walks.
  induction clients generalizing daemon handled with
  | nil =>
    cases served
    exact ⟨fun _ below => below, fun fresh => fresh, fun _ _ _ _ found => found⟩
  | cons client rest ih =>
    obtain ⟨number, stream⟩ := client
    unfold serve at served
    cases read : wire.requests.readMessage stream.incoming with
    | mk result incoming =>
      simp only [read] at served
      cases result with
      | error error =>
        dsimp only at served
        cases later : serve wire now daemon rest with
        | error panic => rw [later] at served; cases served
        | ok others =>
          rw [later, ok_bind] at served
          cases served
          obtain ⟨below, fresh, kept⟩ := ih later
          refine ⟨below, fresh, fun id terminal given unread found => ?_⟩
          exact kept id terminal given (fun client member => unread client (List.mem_cons_of_mem _ member)) found
      | ok msg =>
        dsimp only at served
        have stepped := @Daemon.handle_stepped R _ (now.pty number) daemon msg
        cases replied : daemon.handle (now.pty number) msg with
        | error panic => rw [replied] at served; cases served
        | ok result =>
          obtain ⟨reply, next⟩ := result
          rw [replied, ok_bind] at served
          rw [replied] at stepped
          have stepped : Daemon.Stepped (now.pty number) msg daemon next := stepped
          dsimp only at served
          cases later : serve wire now next rest with
          | error panic => rw [later] at served; cases served
          | ok others =>
            rw [later, ok_bind] at served
            cases served
            obtain ⟨below, fresh, kept⟩ := ih later
            refine ⟨fun id given => below id (stepped.below id given), fun given => fresh (stepped.fresh given), ?_⟩
            intro id terminal given unread found
            have middle := kept id terminal (stepped.below id given)
              (fun client member => unread client (List.mem_cons_of_mem _ member)) found
            obtain ⟨before, there, same | ⟨captured, fed⟩⟩ := stepped.kept id terminal given middle
            next => rw [same]; exact there
            next =>
              have nothing := unread (number, stream) List.mem_cons_self (by rw [read, captured])
              rw [nothing, feed_nil] at fed
              cases fed
              exact there

theorem pass_keeps (passed : loop.pass wire now = .ok next) :
    (∀ id, loop.daemon.Below id -> next.daemon.Below id) ∧ (loop.daemon.Fresh -> next.daemon.Fresh) ∧
      ∀ id terminal, loop.daemon.Below id -> capturesNothing wire id now (loop.accept now).ipcClients ->
        next.daemon.paneTerminals.lookup id = some terminal ->
          ∃ before, loop.daemon.paneTerminals.lookup id = some before ∧
            before.feed (outputOf id (loop.output now)) = .ok terminal := by
  obtain ⟨paneTerminals, handled, daemon, polling, served, rfl⟩ := pass_ok passed
  rw [settle_daemon]
  obtain ⟨below, fresh, kept⟩ := serve_keeps served
  have distinct : (now.order loop.daemon.paneTerminals.keys).Nodup :=
    (now.permutes _).nodup_iff.mpr loop.daemon.paneTerminals.keys_nodup
  obtain ⟨keys, fed⟩ := pollPanes_lookup distinct polling
  refine ⟨below, fun given => fresh fun id member => ?_, fun id terminal given unread found => ?_⟩
  next =>
    have before : id ∈ loop.daemon.paneTerminals := by
      rw [AList.mem_keys, ← keys, ← AList.mem_keys]
      exact member
    exact given id before
  next => exact fed id terminal (kept id terminal given unread found)

/-- In the pass that comes, if one does, no capture takes output of the pane from the clients that are attached. -/
def unread (wire : Wire E) (id : PaneId) (now : Pass) (loop : DaemonLoop R) : Prop :=
  loop.daemon.shutdown = false -> capturesNothing wire id now (loop.accept now).ipcClients

theorem run_keeps {passes : List Pass} (ran : run (step wire) passes loop = .ok next) :
    (∀ id, loop.daemon.Below id -> next.daemon.Below id) ∧ (loop.daemon.Fresh -> next.daemon.Fresh) ∧
      ∀ id terminal, loop.daemon.Below id -> Along (step wire) (unread wire id) passes loop ->
        next.daemon.paneTerminals.lookup id = some terminal ->
          ∃ before, loop.daemon.paneTerminals.lookup id = some before ∧
            before.feed (outputOf id (loop.outputs wire passes)) = .ok terminal := by
  -- What a pass feeds to a terminal comes before what the later ones do.
  induction passes generalizing loop with
  | nil =>
    cases ran
    exact ⟨fun _ below => below, fun fresh => fresh, fun id terminal _ _ found => ⟨terminal, found, feed_nil terminal⟩⟩
  | cons now rest ih =>
    by_cases ended : loop.daemon.shutdown = true
    next =>
      rw [run_shutdown ended] at ran
      cases ran
      rw [outputs_shutdown ended]
      exact ⟨fun _ below => below, fun fresh => fresh, fun id terminal _ _ found => ⟨terminal, found, feed_nil terminal⟩⟩
    next =>
      rw [run_cons, step, if_neg ended] at ran
      cases passed : loop.pass wire now with
      | error panic => rw [passed] at ran; cases ran
      | ok middle =>
        rw [passed, ok_bind] at ran
        obtain ⟨belowPass, freshPass, keptPass⟩ := pass_keeps passed
        obtain ⟨belowRest, freshRest, keptRest⟩ := ih ran
        refine ⟨fun id given => belowRest id (belowPass id given), fun given => freshRest (freshPass given), ?_⟩
        intro id terminal given quiet found
        have stepped : step wire now loop = .ok middle := by rw [step, if_neg ended, passed]
        obtain ⟨between, there, more⟩ := keptRest id terminal (belowPass id given) (quiet.2.of_ok stepped) found
        obtain ⟨before, stored, fed⟩ := keptPass id between given (quiet.1 (by simpa using ended)) there
        refine ⟨before, stored, ?_⟩
        rw [outputs, if_neg ended, passed, outputOf_append, Terminal.feed_append, fed, ok_bind]
        exact more

/-- `serde_json` writes the output of a pane as a list of numbers that is not too large to be read, and reads it back. -/
def Carries (wire : Wire E) (item : PaneId × Bytes) : Prop :=
  ∃ payload, wire.messages.toVec (.ptyOutput item.1 item.2) = .ok payload ∧ payload.length ≤ maxMessageSize ∧
    wire.messages.fromSlice payload = .ok (.ptyOutput item.1 item.2)

def outputMessages (output : List (PaneId × Bytes)) : List DaemonMessage :=
  output.map fun item => .ptyOutput item.1 item.2

theorem readMessages_output {output : List (PaneId × Bytes)} (carries : ∀ item ∈ output, Carries wire item) :
    wire.messages.readMessages output.length (symbols (encodeOutput wire output).flatten) = (.ok (outputMessages output), []) := by
  induction output with
  | nil => rfl
  | cons item rest ih =>
    obtain ⟨⟨payload, written, small, back⟩, others⟩ := List.forall_mem_cons.mp carries
    have bounded : payload.length < 4294967296 := Nat.lt_of_le_of_lt small (by decide)
    have len := fromBeBytes_toBeBytes bounded
    have encoded : wire.messages.encode (.ptyOutput item.1 item.2) = .ok (toBeBytes payload.length ++ payload) := by
      refine SerdeJson.encode_ok_iff.mpr ⟨payload, written, ?_⟩
      rw [Nat.mod_eq_of_lt bounded]
    have here : encodeOutput wire (item :: rest) = (toBeBytes payload.length ++ payload) :: encodeOutput wire rest :=
      List.filterMap_cons_some (by rw [encoded]; rfl)
    have read := @SerdeJson.readMessage_frame _ _ wire.messages _ payload (length_toBeBytes payload.length)
      (by rw [len]; exact small) (Nat.le_of_eq len) (symbols (encodeOutput wire rest).flatten)
    rw [len, List.take_length, List.drop_length, SerdeJson.decode, back] at read
    rw [here, List.flatten_cons, symbols_append, List.length_cons]
    exact SerdeJson.readMessages_succ_iff.mpr ⟨_, _, _, read, ih others, rfl⟩

def paneBytes (id : PaneId) (messages : List DaemonMessage) : Bytes :=
  messages.flatMap fun message => match message with
    | .ptyOutput paneId data => if paneId = id then data else []
    | .reply _ => []

theorem paneBytes_output (id : PaneId) (output : List (PaneId × Bytes)) :
    paneBytes id (outputMessages output) = outputOf id output := by
  rw [paneBytes, outputMessages, List.flatMap_map]
  rfl

theorem start_fresh {pty : Pty} {sessionName : String} (started : start pty sessionName = .ok loop) : loop.daemon.Fresh := by
  unfold start Daemon.start at started
  have leaves : (Tab.new 0 "Tab 1" 80 24 : Tab R).layout.paneIds = [0] := rfl
  have current : (Session.new sessionName 80 24 : Session R).current = .ok (Tab.new 0 "Tab 1" 80 24) := rfl
  simp only [current, ok_bind, leaves, List.foldl_cons, List.foldl_nil] at started
  cases started
  intro id member
  have first : id = 0 := by
    cases spawned : pty.spawn with
    | error e => simp only [spawned] at member; cases member
    | ok _ =>
      simp only [spawned] at member
      exact List.mem_singleton.mp member
  exact ⟨_, rfl, by rw [first]; exact Nat.one_pos⟩

/-- A client that is attached between two moments of a run has received messages from which it can bring a copy of any
pane's terminal, taken at the first moment, to what the daemon has at the second, if no capture has read output of the
pane in between. -/
theorem replica {pty : Pty} {sessionName : String} (started : start pty sessionName = .ok loop) {earlier passes : List Pass}
    {before after : DaemonLoop R} (reached : run (step wire) earlier loop = .ok before)
    (ran : run (step wire) passes before = .ok after) (carries : ∀ item ∈ before.outputs wire passes, Carries wire item)
    {client later : Stream} (attached : client ∈ before.attachedClients) (still : later ∈ after.attachedClients)
    (same : later.number = client.number) {id : PaneId} {copy terminal : Terminal}
    (copied : before.daemon.paneTerminals.lookup id = some copy)
    (kept : after.daemon.paneTerminals.lookup id = some terminal) (quiet : Along (step wire) (unread wire id) passes before) :
    ∃ bytes messages, later.sent = client.sent ++ bytes ∧
      wire.messages.readMessages messages.length (symbols bytes) = (.ok messages, []) ∧
      copy.feed (paneBytes id messages) = .ok terminal := by
  have accounted : Accounted wire _ after := run_accounted (run_accounted (start_accounted started) reached) ran
  have listed : later ∈ after.connections := List.mem_append_left _ (List.mem_append_right _ still)
  -- The client at the end is the one that was attached, with the output of the passes between.
  have received : later = { client with sent := client.sent ++ (encodeOutput wire (before.outputs wire passes)).flatten } := by
    rcases run_attached ran attached with stays | ⟨part, -, -, there⟩
    next => exact accounted.unique listed (List.mem_append_left _ (List.mem_append_right _ stays)) same
    next => exact (accounted.apart still there same).elim
  obtain ⟨-, -, fed⟩ := run_keeps ran
  have given : before.daemon.Below id :=
    (run_keeps reached).2.1 (start_fresh started) id (AList.lookup_isSome.mp (by rw [copied]; rfl))
  obtain ⟨stored, there, rebuilt⟩ := fed id terminal given quiet kept
  obtain rfl := Option.some.inj (copied.symm.trans there)
  refine ⟨_, outputMessages (before.outputs wire passes), by rw [received], ?_, ?_⟩
  next =>
    rw [outputMessages, List.length_map]
    exact readMessages_output carries
  next =>
    rw [paneBytes_output]
    exact rebuilt

theorem replica_letter : ∃ t, (Terminal.new 80 24).feed [0x68] = .ok t ∧
    ∃ bytes messages, toBeBytes 5 ++ ackText ++ (toBeBytes 40 ++ outputText) = toBeBytes 5 ++ ackText ++ bytes ∧
      greetingWire.messages.readMessages messages.length (symbols bytes) = (.ok messages, []) ∧
      (Terminal.new 80 24).feed (paneBytes 0 messages) = .ok t := by
  obtain ⟨t, fed⟩ := letter_fed
  have printed := print_greeted fed
  have said : (greeted : DaemonLoop Rat).outputs greetingWire [printPass] = [(0, [0x68])] := by
    rw [outputs, if_neg (by decide)]
    cases (greeted : DaemonLoop Rat).pass greetingWire printPass <;> rfl
  refine ⟨t, fed, @replica Rat Unit _ greetingWire opened quietPty "main" opened_start [attachPass] [printPass] greeted _
    attach_greeted printed ?_ _ _ List.mem_cons_self List.mem_cons_self rfl 0 _ t rfl rfl ?_⟩
  next =>
    rw [said]
    intro item member
    obtain rfl := List.mem_singleton.mp member
    exact ⟨outputText, rfl, by decide, rfl⟩
  next => exact ⟨fun _ client member => absurd member List.not_mem_nil, ensures_any_iff.mpr fun _ _ => trivial⟩

end DaemonLoop

end Emux
