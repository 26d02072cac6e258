import Emux.Ipc.Daemon

set_option autoImplicit false

/-!
# The daemon's connections

One pass of the daemon's loop accepts a connection, reads what the panes have written, sends it on to the clients that
are attached, and answers the clients that are not. A client that attaches is sent the output of every later pass. What
the operating system does in a pass is a parameter.
-/

namespace Emux

open Checked Arrivals Removal

variable {R E : Type} [Ratio R]

/-! ## Attached clients -/

namespace Stream

def taken (failure : Option Nat) (bytes : Bytes) : Bytes := failure.elim bytes bytes.take

/-- What was written of the messages when the write of one of them failed: those before it, and a part of it. -/
def Cut (encoded : List Bytes) (failures : Nat -> Option Nat) (part : Bytes) : Prop :=
  ∃ j message count, encoded[j]? = some message ∧ failures j = some count ∧
    part = (encoded.take j).flatten ++ message.take count

theorem Cut.begins {encoded : List Bytes} {failures : Nat -> Option Nat} {part : Bytes} (cut : Cut encoded failures part) :
    part <+: encoded.flatten := by
  obtain ⟨j, message, count, there, -, rfl⟩ := cut
  obtain ⟨inside, rfl⟩ := List.getElem?_eq_some_iff.mp there
  conv_rhs => rw [← List.take_append_drop j encoded, List.drop_eq_getElem_cons inside, List.flatten_append, List.flatten_cons]
  rw [List.prefix_append_right_inj]
  exact (List.take_prefix count _).trans (List.prefix_append _ _)

theorem writeEach_cases (encoded : List Bytes) (failures : Nat -> Option Nat) (stream : Stream) :
    stream.writeEach encoded failures = (true, { stream with sent := stream.sent ++ encoded.flatten }) ∨
      ∃ part, Cut encoded failures part ∧
        stream.writeEach encoded failures = (false, { stream with sent := stream.sent ++ part }) := by
  induction encoded generalizing failures stream with
  | nil => exact .inl (by rw [List.flatten_nil, List.append_nil]; rfl)
  | cons message rest ih =>
    unfold writeEach writeAll
    cases first : failures 0 with
    | none =>
      rcases ih (fun i => failures (i + 1)) { stream with sent := stream.sent ++ message } with all | ⟨part, cut, failed⟩
      next => exact .inl (by rw [List.flatten_cons, ← List.append_assoc]; exact all)
      next =>
        obtain ⟨j, other, count, there, fails, rfl⟩ := cut
        refine .inr ⟨message ++ ((rest.take j).flatten ++ other.take count), ⟨j + 1, other, count, there, fails, ?_⟩, ?_⟩
        next => rw [List.take_succ_cons, List.flatten_cons, List.append_assoc]
        next => rw [← List.append_assoc]; exact failed
    | some count => exact .inr ⟨message.take count, ⟨0, message, count, rfl, first, rfl⟩, rfl⟩

theorem writeEach_number (encoded : List Bytes) (failures : Nat -> Option Nat) (stream : Stream) :
    (stream.writeEach encoded failures).2.number = stream.number := by
  rcases stream.writeEach_cases encoded failures with all | ⟨part, -, failed⟩
  next => rw [all]
  next => rw [failed]

end Stream

namespace DaemonLoop

variable {wire : Wire E} {now : Pass} {loop next : DaemonLoop R}

def output (now : Pass) (loop : DaemonLoop R) : List (PaneId × Bytes) :=
  polled now (now.order loop.daemon.paneTerminals.keys)

omit [Ratio R] in
@[simp] theorem accept_attachedClients (now : Pass) (loop : DaemonLoop R) :
    (loop.accept now).attachedClients = loop.attachedClients := by
  unfold accept
  split <;> rfl

omit [Ratio R] in
@[simp] theorem accept_closed (now : Pass) (loop : DaemonLoop R) : (loop.accept now).closed = loop.closed := by
  unfold accept
  split <;> rfl

theorem pass_ok (passed : loop.pass wire now = .ok next) : ∃ paneTerminals handled daemon,
    pollPanes now (now.order loop.daemon.paneTerminals.keys) loop.daemon.paneTerminals = .ok paneTerminals ∧
    serve wire now { loop.daemon with paneTerminals } (loop.accept now).ipcClients = .ok (handled, daemon) ∧
    next = settle (handled.filterMap fun client => client.2.2.map (Prod.mk client.1))
      { (loop.accept now).streamOutput now (encodeOutput wire (loop.output now)) with
        daemon, ipcClients := handled.map fun client => (client.1, client.2.1) } := by
  unfold pass at passed
  simp only [accept_daemon] at passed
  cases polling : pollPanes now (now.order loop.daemon.paneTerminals.keys) loop.daemon.paneTerminals with
  | error panic => rw [polling] at passed; cases passed
  | ok paneTerminals =>
    rw [polling, ok_bind] at passed
    dsimp only [streamOutput] at passed
    cases serving : serve wire now { loop.daemon with paneTerminals } (loop.accept now).ipcClients with
    | error panic => rw [serving] at passed; cases passed
    | ok result =>
      rw [serving, ok_bind] at passed
      cases passed
      exact ⟨paneTerminals, result.1, result.2, rfl, serving, rfl⟩

omit [Ratio R] in
theorem streamOutput_eq (now : Pass) (encoded : List Bytes) (loop : DaemonLoop R) :
    loop.streamOutput now encoded =
      let written := loop.attachedClients.zipIdx.map fun client => client.1.writeEach encoded (now.writes client.2)
      { loop with
        attachedClients := (written.filter Prod.fst).map Prod.snd
        closed := loop.closed ++ (written.filter fun client => !client.1).map Prod.snd } := by
  unfold streamOutput
  dsimp only
  rw [removeAll_marked, ← List.map_filterMap, getElem_marked]
  simp only [Bool.not_not]

omit [Ratio R] in
theorem settle_grows (toRemove : List (Nat × Bool)) (loop : DaemonLoop R) :
    loop.attachedClients <+: (settle toRemove loop).attachedClients ∧ loop.closed <+: (settle toRemove loop).closed := by
  unfold settle
  induction toRemove.reverse generalizing loop with
  | nil => exact ⟨List.prefix_rfl, List.prefix_rfl⟩
  | cons removal rest ih =>
    rw [List.foldl_cons]
    cases takeKey removal.1 loop.ipcClients with
    | none => exact ih loop
    | some taken =>
      obtain ⟨stream, ipcClients⟩ := taken
      dsimp only
      split
      next =>
        obtain ⟨attached, closed⟩ := ih { loop with ipcClients, attachedClients := loop.attachedClients ++ [stream] }
        exact ⟨(List.prefix_append _ _).trans attached, closed⟩
      next =>
        obtain ⟨attached, closed⟩ := ih { loop with ipcClients, closed := loop.closed ++ [stream] }
        exact ⟨attached, (List.prefix_append _ _).trans closed⟩

omit [Ratio R] in
theorem streamOutput_attached (now : Pass) (encoded : List Bytes) {client : Stream}
    (attached : client ∈ loop.attachedClients) :
    { client with sent := client.sent ++ encoded.flatten } ∈ (loop.streamOutput now encoded).attachedClients ∨
      ∃ i part, loop.attachedClients[i]? = some client ∧ Stream.Cut encoded (now.writes i) part ∧
        { client with sent := client.sent ++ part } ∈ (loop.streamOutput now encoded).closed := by
  rw [streamOutput_eq]
  obtain ⟨i, inside, rfl⟩ := List.getElem_of_mem attached
  have there : loop.attachedClients[i]? = some loop.attachedClients[i] := List.getElem?_eq_getElem inside
  have listed : (loop.attachedClients[i], i) ∈ loop.attachedClients.zipIdx := List.mem_zipIdx_iff_getElem?.mpr there
  have written := List.mem_map_of_mem (f := fun client => client.1.writeEach encoded (now.writes client.2)) listed
  rcases Stream.writeEach_cases encoded (now.writes i) loop.attachedClients[i] with all | ⟨part, cut, failed⟩
  next =>
    rw [all] at written
    exact .inl (List.mem_map.mpr ⟨_, List.mem_filter.mpr ⟨written, rfl⟩, rfl⟩)
  next =>
    rw [failed] at written
    refine .inr ⟨i, part, there, cut, List.mem_append_right _ ?_⟩
    exact List.mem_map.mpr ⟨_, List.mem_filter.mpr ⟨written, rfl⟩, rfl⟩

theorem pass_attached (passed : loop.pass wire now = .ok next) {client : Stream} (attached : client ∈ loop.attachedClients) :
    { client with sent := client.sent ++ (encodeOutput wire (loop.output now)).flatten } ∈ next.attachedClients ∨
      ∃ i part, loop.attachedClients[i]? = some client ∧
        Stream.Cut (encodeOutput wire (loop.output now)) (now.writes i) part ∧
        { client with sent := client.sent ++ part } ∈ next.closed := by
  obtain ⟨paneTerminals, handled, daemon, -, -, rfl⟩ := pass_ok passed
  have grows := @settle_grows R (handled.filterMap fun client => client.2.2.map (Prod.mk client.1))
  rw [← accept_attachedClients now] at attached
  rcases streamOutput_attached now (encodeOutput wire (loop.output now)) attached with stays | ⟨i, part, there, cut, dropped⟩
  next => exact .inl ((grows _).1.subset stays)
  next => exact .inr ⟨i, part, by rwa [accept_attachedClients] at there, cut, (grows _).2.subset dropped⟩

theorem pass_closed (passed : loop.pass wire now = .ok next) : loop.closed <+: next.closed := by
  obtain ⟨paneTerminals, handled, daemon, -, -, rfl⟩ := pass_ok passed
  rw [streamOutput_eq]
  refine List.IsPrefix.trans ?_ (settle_grows _ _).2
  rw [accept_closed]
  exact List.prefix_append _ _

def outputs (wire : Wire E) : List Pass -> DaemonLoop R -> List (PaneId × Bytes)
  | [], _ => []
  | now :: rest, loop =>
    if loop.daemon.shutdown then []
    else
      loop.output now ++
        match loop.pass wire now with
        | .ok next => outputs wire rest next
        | .error _ => []

omit [Ratio R] in
theorem encodeOutput_append (wire : Wire E) (first later : List (PaneId × Bytes)) :
    encodeOutput wire (first ++ later) = encodeOutput wire first ++ encodeOutput wire later := List.filterMap_append

theorem run_shutdown (ended : loop.daemon.shutdown = true) (passes : List Pass) : run (step wire) passes loop = .ok loop := by
  induction passes with
  | nil => rfl
  | cons now rest ih =>
    rw [run_cons, step, if_pos ended]
    exact ih

theorem outputs_shutdown (ended : loop.daemon.shutdown = true) (passes : List Pass) : loop.outputs wire passes = [] := by
  cases passes with
  | nil => rfl
  | cons now rest => rw [outputs, if_pos ended]

theorem run_closed {passes : List Pass} (ran : run (step wire) passes loop = .ok next) : loop.closed <+: next.closed := by
  induction passes generalizing loop with
  | nil => cases ran; exact List.prefix_rfl
  | cons now rest ih =>
    by_cases ended : loop.daemon.shutdown = true
    next => rw [run_shutdown ended] at ran; cases ran; exact List.prefix_rfl
    next =>
      rw [run_cons, step, if_neg ended] at ran
      cases passed : loop.pass wire now with
      | error panic => rw [passed] at ran; cases ran
      | ok middle =>
        rw [passed, ok_bind] at ran
        exact (pass_closed passed).trans (ih ran)

def CutOff (wire : Wire E) (passes : List Pass) (loop : DaemonLoop R) (client : Stream) (part : Bytes) : Prop :=
  ∃ first now rest middle i last, passes = first ++ now :: rest ∧ run (step wire) first loop = .ok middle ∧
    middle.daemon.shutdown = false ∧
    middle.attachedClients[i]? =
      some { client with sent := client.sent ++ (encodeOutput wire (loop.outputs wire first)).flatten } ∧
    Stream.Cut (encodeOutput wire (middle.output now)) (now.writes i) last ∧
    part = (encodeOutput wire (loop.outputs wire first)).flatten ++ last

theorem run_attached {passes : List Pass} (ran : run (step wire) passes loop = .ok next) {client : Stream}
    (attached : client ∈ loop.attachedClients) :
    let sent := (encodeOutput wire (loop.outputs wire passes)).flatten
    { client with sent := client.sent ++ sent } ∈ next.attachedClients ∨
      ∃ part, part <+: sent ∧ CutOff wire passes loop client part ∧
        { client with sent := client.sent ++ part } ∈ next.closed := by
  -- Once a write has failed the client is gone, and the passes that follow do not reach it.
  induction passes generalizing loop client with
  | nil =>
    cases ran
    refine .inl ?_
    rw [outputs, encodeOutput, List.filterMap_nil, List.flatten_nil, List.append_nil]
    exact attached
  | cons now rest ih =>
    by_cases ended : loop.daemon.shutdown = true
    next =>
      rw [run_shutdown ended] at ran
      cases ran
      refine .inl ?_
      rw [outputs_shutdown ended, encodeOutput, List.filterMap_nil, List.flatten_nil, List.append_nil]
      exact attached
    next =>
      rw [run_cons, step, if_neg ended] at ran
      cases passed : loop.pass wire now with
      | error panic => rw [passed] at ran; cases ran
      | ok middle =>
        rw [passed, ok_bind] at ran
        have read (later : List Pass) : (encodeOutput wire (loop.outputs wire (now :: later))).flatten =
            (encodeOutput wire (loop.output now)).flatten ++ (encodeOutput wire (middle.outputs wire later)).flatten := by
          rw [outputs, if_neg ended, passed]
          dsimp only
          rw [encodeOutput_append, List.flatten_append]
        rw [read rest]
        rcases pass_attached passed attached with stays | ⟨i, part, there, cut, dropped⟩
        next =>
          rcases ih ran stays with stays | ⟨part, begins, cut, dropped⟩
          next => exact .inl (by rw [← List.append_assoc]; exact stays)
          next =>
            obtain ⟨first, later, others, last, i, piece, rfl, reached, running, there, cut, rfl⟩ := cut
            refine .inr ⟨_, (List.prefix_append_right_inj _).mpr begins,
              ⟨now :: first, later, others, last, i, piece, rfl, ?_, running, ?_, cut, ?_⟩, ?_⟩
            next => rw [run_cons, step, if_neg ended, passed]; exact reached
            next => rw [there, read first, List.append_assoc]
            next => rw [read first, List.append_assoc]
            next => rw [← List.append_assoc]; exact dropped
        next =>
          refine .inr ⟨part, cut.begins.trans (List.prefix_append _ _), ?_, (run_closed ran).subset dropped⟩
          refine ⟨[], now, rest, loop, i, part, rfl, rfl, by simpa using ended, ?_, cut, rfl⟩
          rw [outputs, encodeOutput, List.filterMap_nil, List.flatten_nil, List.append_nil]
          exact there

/-! ## Every connection -/

def connections (loop : DaemonLoop R) : List Stream :=
  loop.ipcClients.map Prod.snd ++ loop.attachedClients ++ loop.closed

def replyBytes (wire : Wire E) (reply : ServerMessage) : Bytes := ((wire.messages.encode (.reply reply)).toOption).getD []

/-- The reply in full, or what a write that failed in one of the passes has taken of it. -/
def Replied (wire : Wire E) (passes : List Pass) (number : Nat) (reply : ServerMessage) (part : Bytes) : Prop :=
  part = replyBytes wire reply ∨
    ∃ now ∈ passes, ∃ count, now.replies number = some count ∧ part = (replyBytes wire reply).take count

def Follows (wire : Wire E) (passes : List Pass) (client : Stream) : Prop :=
  ∃ ack output, Replied wire passes client.number .ack ack ∧ client.sent = ack ++ (encodeOutput wire output).flatten

/-- A client whose connection the daemon has dropped: nothing, one reply, or what an attached client is sent up to a
write that failed. -/
def Left (wire : Wire E) (passes : List Pass) (client : Stream) : Prop :=
  client.sent = [] ∨ (∃ reply, Replied wire passes client.number reply client.sent) ∨
    ∃ followed, followed.number = client.number ∧ Follows wire passes followed ∧ ∃ now ∈ passes, ∃ i output part,
      Stream.Cut (encodeOutput wire output) (now.writes i) part ∧ client.sent = followed.sent ++ part

/-- Every connection that was accepted in the passes is in one place, and was answered at most once. -/
structure Accounted (wire : Wire E) (passes : List Pass) (loop : DaemonLoop R) : Prop where
  first : 1 ≤ loop.nextId
  numbers : (loop.connections.map Stream.number).Perm (List.range' 1 (loop.nextId - 1))
  ids : ∀ client ∈ loop.ipcClients, client.2.number = client.1
  waiting : ∀ client ∈ loop.ipcClients, client.2.sent = []
  attached : ∀ client ∈ loop.attachedClients, Follows wire passes client
  left : ∀ client ∈ loop.closed, Left wire passes client

omit [Ratio R] in
theorem settle_connections (toRemove : List (Nat × Bool)) (loop : DaemonLoop R) :
    (settle toRemove loop).connections.Perm loop.connections ∧ (settle toRemove loop).nextId = loop.nextId := by
  unfold settle
  induction toRemove.reverse generalizing loop with
  | nil => exact ⟨.refl _, rfl⟩
  | cons removal rest ih =>
    rw [List.foldl_cons]
    cases taking : takeKey removal.1 loop.ipcClients with
    | none => exact ih loop
    | some taken =>
      obtain ⟨stream, ipcClients⟩ := taken
      have moved := takeKey_perm taking
      dsimp only
      split
      next =>
        obtain ⟨same, next⟩ := ih { loop with ipcClients, attachedClients := loop.attachedClients ++ [stream] }
        refine ⟨same.trans (List.perm_iff_count.mpr fun other => ?_), next⟩
        have total := List.perm_iff_count.mp moved other
        simp only [connections, List.count_append, List.count_cons, List.count_nil] at total ⊢
        omega
      next =>
        obtain ⟨same, next⟩ := ih { loop with ipcClients, closed := loop.closed ++ [stream] }
        refine ⟨same.trans (List.perm_iff_count.mpr fun other => ?_), next⟩
        have total := List.perm_iff_count.mp moved other
        simp only [connections, List.count_append, List.count_cons, List.count_nil] at total ⊢
        omega

omit [Ratio R] in
theorem settle_append (handled : List Handled) (kept : List (Nat × Stream))
    (distinct : (handled.map Prod.fst ++ kept.map Prod.fst).Nodup) (loop : DaemonLoop R) :
    settle (handled.filterMap fun client => client.2.2.map (Prod.mk client.1))
        { loop with ipcClients := (handled.map fun client => (client.1, client.2.1)) ++ kept } =
      { loop with
        ipcClients := ((handled.filter fun client => client.2.2 = none).map fun client => (client.1, client.2.1)) ++ kept
        attachedClients := loop.attachedClients ++
          (handled.filter fun client => client.2.2 = some true).reverse.map fun client => client.2.1
        closed := loop.closed ++
          (handled.filter fun client => client.2.2 = some false).reverse.map fun client => client.2.1 } := by
  -- From the back: a client that stays joins those behind it.
  induction handled using List.reverseRecOn generalizing kept loop with
  | nil => simp [settle]
  | append_singleton handled client ih =>
    obtain ⟨id, stream, leaves⟩ := client
    have apart : id ∉ handled.map Prod.fst := by
      simp only [List.map_append, List.map_cons, List.map_nil, List.append_assoc] at distinct
      exact fun member => (List.nodup_append.mp distinct).2.2 id member id (by simp) rfl
    cases leaves with
    | none =>
      have stays := ih ((id, stream) :: kept) (by simpa using distinct) loop
      simpa [List.filter_append] using stays
    | some moves =>
      have fewer : (handled.map Prod.fst ++ kept.map Prod.fst).Nodup := by
        refine distinct.sublist (List.Sublist.append_right ?_ _)
        rw [List.map_append]
        exact List.sublist_append_left _ _
      have taken := @takeKey_append Nat Stream _ id (handled.map fun client => (client.1, client.2.1))
        (by simpa [List.map_map, Function.comp_def] using apart) stream kept
      cases moves with
      | true =>
        have rest := ih kept fewer { loop with attachedClients := loop.attachedClients ++ [stream] }
        simp only [settle, List.filterMap_append, List.filterMap_cons, List.filterMap_nil, Option.map_some,
          List.reverse_append, List.reverse_singleton, List.singleton_append, List.foldl_cons, List.map_append,
          List.map_cons, List.map_nil, List.append_assoc, taken, if_true] at rest ⊢
        simpa [List.filter_append] using rest
      | false =>
        have rest := ih kept fewer { loop with closed := loop.closed ++ [stream] }
        simp only [settle, List.filterMap_append, List.filterMap_cons, List.filterMap_nil, Option.map_some,
          List.reverse_append, List.reverse_singleton, List.singleton_append, List.foldl_cons, List.map_append,
          List.map_cons, List.map_nil, List.append_assoc, taken] at rest ⊢
        simpa [List.filter_append] using rest

omit [Ratio R] in
theorem writeReply_eq (wire : Wire E) (reply : ServerMessage) (failure : Option Nat) (stream : Stream) :
    writeReply wire reply failure stream =
      { stream with sent := stream.sent ++ Stream.taken failure (replyBytes wire reply) } := by
  unfold writeReply replyBytes
  cases wire.messages.encode (.reply reply) with
  | error error => cases failure <;> simp [Stream.taken, Except.toOption]
  | ok encoded => cases failure <;> rfl

omit [Ratio R] in
theorem Replied.of_taken {passes : List Pass} (member : now ∈ passes) (number : Nat) (reply : ServerMessage) :
    Replied wire passes number reply (Stream.taken (now.replies number) (replyBytes wire reply)) := by
  cases failure : now.replies number with
  | none => exact .inl rfl
  | some count => exact .inr ⟨now, member, count, failure, rfl⟩

/-- What a pass does with a client that is not attached: nothing is written to it if it stays, an acknowledgement if it
attaches, at most one reply if its connection ends. -/
structure Answered (wire : Wire E) (now : Pass) (client : Nat × Stream) (handled : Handled) : Prop where
  id : handled.1 = client.1
  number : handled.2.1.number = client.2.number
  stays : handled.2.2 = none -> handled.2.1.sent = client.2.sent
  attaches : handled.2.2 = some true ->
    handled.2.1.sent = client.2.sent ++ Stream.taken (now.replies client.1) (replyBytes wire .ack)
  ends : handled.2.2 = some false -> handled.2.1.sent = client.2.sent ∨
    ∃ reply, handled.2.1.sent = client.2.sent ++ Stream.taken (now.replies client.1) (replyBytes wire reply)

theorem serve_answers {daemon after : Daemon R} {clients : List (Nat × Stream)} {handled : List Handled}
    (served : serve wire now daemon clients = .ok (handled, after)) :
    List.Forall₂ (Answered wire now) clients handled := by
  induction clients generalizing daemon handled with
  | nil => cases served; exact .nil
  | cons client rest ih =>
    obtain ⟨id, stream⟩ := client
    -- What the read gives decides: the connection stays, attaches, or ends with its reply.
    unfold serve at served
    cases read : wire.requests.readMessage stream.incoming with
    | mk result incoming =>
      simp only [read] at served
      cases result with
      | error error =>
        dsimp only at served
        cases later : serve wire now daemon rest with
        | error panic => rw [later] at served; cases served
        | ok others =>
          rw [later, ok_bind] at served
          cases served
          refine .cons ⟨rfl, rfl, fun _ => rfl, fun moves => ?_, fun _ => .inl rfl⟩ (ih later)
          dsimp only at moves
          split at moves <;> cases moves
      | ok msg =>
        dsimp only at served
        cases replied : daemon.handle (now.pty id) msg with
        | error panic => rw [replied] at served; cases served
        | ok result =>
          obtain ⟨reply, next⟩ := result
          rw [replied, ok_bind] at served
          dsimp only at served
          cases later : serve wire now next rest with
          | error panic => rw [later] at served; cases served
          | ok others =>
            rw [later, ok_bind] at served
            cases served
            have written := writeReply_eq wire reply (now.replies id) { stream with incoming }
            refine .cons ⟨rfl, by rw [written], fun stays => (by cases stays), fun moves => ?_,
              fun _ => .inr ⟨reply, by rw [written]⟩⟩ (ih later)
            cases msg with
            | attach cols rows =>
              cases replied
              rw [written]
            | _ => cases moves

omit [Ratio R] in
theorem Accounted.more {passes more : List Pass} (accounted : Accounted wire passes loop) (sub : passes ⊆ more) :
    Accounted wire more loop := by
  have replied {number : Nat} {reply : ServerMessage} {part : Bytes} (replied : Replied wire passes number reply part) :
      Replied wire more number reply part := by
    obtain whole | ⟨now, member, cut⟩ := replied
    next => exact .inl whole
    next => exact .inr ⟨now, sub member, cut⟩
  have follows {client : Stream} (follows : Follows wire passes client) : Follows wire more client := by
    obtain ⟨ack, output, acked, sent⟩ := follows
    exact ⟨ack, output, replied acked, sent⟩
  refine { accounted with attached := fun client member => follows (accounted.attached client member), left := ?_ }
  intro client member
  rcases accounted.left client member with nothing | ⟨reply, answered⟩ | ⟨followed, same, before, now, there, cut⟩
  next => exact .inl nothing
  next => exact .inr (.inl ⟨reply, replied answered⟩)
  next => exact .inr (.inr ⟨followed, same, follows before, now, sub there, cut⟩)

omit [Ratio R] in
theorem accept_accounted {passes : List Pass} (now : Pass) (accounted : Accounted wire passes loop) :
    Accounted wire passes (loop.accept now) := by
  unfold accept
  cases now.accepted with
  | none => exact accounted
  | some incoming =>
    refine ⟨Nat.le_succ_of_le accounted.first, ?_, fun client member => ?_, fun client member => ?_, accounted.attached,
      accounted.left⟩
    next =>
      have range : List.range' 1 (loop.nextId + 1 - 1) = List.range' 1 (loop.nextId - 1) ++ [loop.nextId] := by
        have first := accounted.first
        rw [show loop.nextId + 1 - 1 = loop.nextId - 1 + 1 by omega, List.range'_concat]
        congr 2
        omega
      rw [range]
      refine List.Perm.trans ?_ (List.Perm.append_right _ accounted.numbers)
      refine List.perm_iff_count.mpr fun number => ?_
      simp only [connections, List.map_append, List.map_cons, List.map_nil, List.count_append, List.count_cons,
        List.count_nil]
      omega
    next =>
      rcases List.mem_append.mp member with before | new
      next => exact accounted.ids client before
      next => rw [List.mem_singleton.mp new]
    next =>
      rcases List.mem_append.mp member with before | new
      next => exact accounted.waiting client before
      next => rw [List.mem_singleton.mp new]

omit [Ratio R] in
theorem streamOutput_numbers (now : Pass) (encoded : List Bytes) (loop : DaemonLoop R) :
    ((loop.streamOutput now encoded).connections.map Stream.number).Perm (loop.connections.map Stream.number) := by
  rw [streamOutput_eq]
  dsimp only
  generalize same : loop.attachedClients.zipIdx.map (fun client => client.1.writeEach encoded (now.writes client.2)) = written
  have kept : written.map (fun client => client.2.number) = loop.attachedClients.map Stream.number := by
    conv_rhs => rw [← List.zipIdx_map_fst 0 loop.attachedClients, List.map_map]
    rw [← same, List.map_map]
    exact List.map_congr_left fun client _ => client.1.writeEach_number encoded _
  have parts := (List.filter_append_perm Prod.fst written).map fun client => client.2.number
  rw [kept, List.map_append] at parts
  refine List.perm_iff_count.mpr fun number => ?_
  have total := List.perm_iff_count.mp parts number
  simp only [connections, List.map_append, List.map_map, Function.comp_def, List.count_append] at total ⊢
  omega

omit [Ratio R] in
theorem streamOutput_accounted {passes : List Pass} (member : now ∈ passes) (output : List (PaneId × Bytes))
    (accounted : Accounted wire passes loop) :
    Accounted wire passes (loop.streamOutput now (encodeOutput wire output)) := by
  have numbers := (streamOutput_numbers now (encodeOutput wire output) loop).trans accounted.numbers
  rw [streamOutput_eq] at numbers ⊢
  dsimp only at numbers ⊢
  -- Each connection keeps its place, but for those whose write has failed.
  refine ⟨accounted.first, numbers, accounted.ids, accounted.waiting, fun client member => ?_, fun client listed => ?_⟩
  next =>
    obtain ⟨⟨whole, client⟩, chosen, rfl⟩ := List.mem_map.mp member
    obtain ⟨written, done⟩ := List.mem_filter.mp chosen
    obtain ⟨⟨before, i⟩, listed, result⟩ := List.mem_map.mp written
    obtain ⟨ack, earlier, begins, sent⟩ := accounted.attached before (List.fst_mem_of_mem_zipIdx listed)
    rcases before.writeEach_cases (encodeOutput wire output) (now.writes i) with all | ⟨part, -, failed⟩
    next =>
      obtain ⟨rfl, rfl⟩ := Prod.mk.inj (result.symm.trans all)
      refine ⟨ack, earlier ++ output, begins, ?_⟩
      rw [encodeOutput_append, List.flatten_append, ← List.append_assoc, ← sent]
    next =>
      obtain ⟨rfl, -⟩ := Prod.mk.inj (result.symm.trans failed)
      cases done
  next =>
    rcases List.mem_append.mp listed with earlier | dropped
    next => exact accounted.left client earlier
    next =>
      obtain ⟨⟨whole, client⟩, chosen, rfl⟩ := List.mem_map.mp dropped
      obtain ⟨written, stopped⟩ := List.mem_filter.mp chosen
      obtain ⟨⟨before, i⟩, there, result⟩ := List.mem_map.mp written
      have followed := accounted.attached before (List.fst_mem_of_mem_zipIdx there)
      rcases before.writeEach_cases (encodeOutput wire output) (now.writes i) with all | ⟨part, cut, failed⟩
      next =>
        obtain ⟨rfl, -⟩ := Prod.mk.inj (result.symm.trans all)
        cases stopped
      next =>
        obtain ⟨-, rfl⟩ := Prod.mk.inj (result.symm.trans failed)
        exact .inr (.inr ⟨before, rfl, followed, now, member, i, output, part, cut, rfl⟩)

omit [Ratio R] in
theorem answered_lists {clients : List (Nat × Stream)} {handled : List Handled}
    (answers : List.Forall₂ (Answered wire now) clients handled) :
    handled.map Prod.fst = clients.map Prod.fst ∧
      (handled.map fun client => client.2.1.number) = (clients.map fun client => client.2.number) ∧
      ∀ after ∈ handled, ∃ client ∈ clients, Answered wire now client after := by
  induction answers with
  | nil => exact ⟨rfl, rfl, nofun⟩
  | @cons client after clients handled one answers ih =>
    obtain ⟨ids, numbers, each⟩ := ih
    refine ⟨by rw [List.map_cons, List.map_cons, one.id, ids], by rw [List.map_cons, List.map_cons, one.number, numbers], ?_⟩
    intro other member
    rcases List.mem_cons.mp member with rfl | later
    next => exact ⟨client, List.mem_cons_self, one⟩
    next =>
      obtain ⟨before, listed, answered⟩ := each other later
      exact ⟨before, List.mem_cons_of_mem _ listed, answered⟩

omit [Ratio R] in
theorem Accounted.distinct {passes : List Pass} (accounted : Accounted wire passes loop) : (loop.ipcClients.map Prod.fst).Nodup := by
  have same : loop.ipcClients.map Prod.fst = (loop.ipcClients.map Prod.snd).map Stream.number := by
    rw [List.map_map]
    exact List.map_congr_left fun client member => (accounted.ids client member).symm
  have all : (loop.connections.map Stream.number).Nodup := accounted.numbers.nodup_iff.mpr List.nodup_range'
  rw [same]
  refine all.sublist ?_
  simp only [connections, List.map_append, List.append_assoc]
  exact List.sublist_append_left _ _

omit [Ratio R] in
theorem settle_accounted {passes : List Pass} (member : now ∈ passes) {daemon : Daemon R} {handled : List Handled}
    (accounted : Accounted wire passes loop) (answers : List.Forall₂ (Answered wire now) loop.ipcClients handled) :
    Accounted wire passes (settle (handled.filterMap fun client => client.2.2.map (Prod.mk client.1))
      { loop with daemon, ipcClients := handled.map fun client => (client.1, client.2.1) }) := by
  obtain ⟨ids, numbers, each⟩ := answered_lists answers
  have distinct : (handled.map Prod.fst ++ ([] : List (Nat × Stream)).map Prod.fst).Nodup := by
    rw [List.map_nil, List.append_nil, ids]
    exact accounted.distinct
  -- All that leave are taken out first; what became of each then says to which list it goes.
  have moved := settle_append handled [] distinct { loop with daemon }
  have whole := settle_connections (handled.filterMap fun client => client.2.2.map (Prod.mk client.1))
    { loop with daemon, ipcClients := handled.map fun client => (client.1, client.2.1) }
  rw [List.append_nil, List.append_nil] at moved
  have listed : ∀ client : Nat × Stream, ∀ leaves,
      client ∈ ((handled.filter fun client => client.2.2 = leaves).map fun client => (client.1, client.2.1)) ->
        (client.1, client.2, leaves) ∈ handled := by
    intro client leaves member
    obtain ⟨after, chosen, rfl⟩ := List.mem_map.mp member
    obtain ⟨inside, is⟩ := List.mem_filter.mp chosen
    rw [← of_decide_eq_true is]
    exact inside
  have dropped : ∀ stream : Stream, ∀ leaves,
      stream ∈ ((handled.filter fun client => client.2.2 = leaves).reverse.map fun client => client.2.1) ->
        ∃ id, (id, stream, leaves) ∈ handled := by
    intro stream leaves member
    obtain ⟨after, chosen, rfl⟩ := List.mem_map.mp member
    obtain ⟨inside, is⟩ := List.mem_filter.mp (List.mem_reverse.mp chosen)
    exact ⟨after.1, by rw [← of_decide_eq_true is]; exact inside⟩
  refine ⟨?_, ?_, fun client found => ?_, fun client found => ?_, fun client found => ?_, fun client found => ?_⟩
  next => exact whole.2.symm ▸ accounted.first
  next =>
    rw [whole.2]
    refine (whole.1.map Stream.number).trans (List.Perm.trans (List.Perm.of_eq ?_) accounted.numbers)
    simp only [connections, List.map_append, List.map_map, Function.comp_def]
    rw [numbers]
  all_goals rw [moved] at found
  next =>
    obtain ⟨before, there, answered⟩ := each _ (listed client none found)
    exact answered.number.trans ((accounted.ids before there).trans answered.id.symm)
  next =>
    obtain ⟨before, there, answered⟩ := each _ (listed client none found)
    exact (answered.stays rfl).trans (accounted.waiting before there)
  next =>
    rcases List.mem_append.mp found with earlier | new
    next => exact accounted.attached client earlier
    next =>
      obtain ⟨id, inside⟩ := dropped client (some true) new
      obtain ⟨before, there, answered⟩ := each _ inside
      have sent := answered.attaches rfl
      rw [accounted.waiting before there, List.nil_append, ← accounted.ids before there, ← answered.number] at sent
      exact ⟨_, [], .of_taken member _ _, sent.trans (List.append_nil _).symm⟩
  next =>
    rcases List.mem_append.mp found with earlier | new
    next => exact accounted.left client earlier
    next =>
      obtain ⟨id, inside⟩ := dropped client (some false) new
      obtain ⟨before, there, answered⟩ := each _ inside
      rcases answered.ends rfl with same | ⟨reply, sent⟩
      next => exact .inl (same.trans (accounted.waiting before there))
      next =>
        rw [accounted.waiting before there, List.nil_append, ← accounted.ids before there, ← answered.number] at sent
        exact .inr (.inl ⟨reply, sent ▸ .of_taken member _ _⟩)

theorem pass_accounted {passes : List Pass} (member : now ∈ passes) (accounted : Accounted wire passes loop) :
    Ensures AnyPanic (loop.pass wire now) (Accounted wire passes) := by
  refine ensures_any_iff.mpr fun next passed => ?_
  obtain ⟨paneTerminals, handled, daemon, -, served, rfl⟩ := pass_ok passed
  have streamed := streamOutput_accounted member (loop.output now) (accept_accounted now accounted)
  exact settle_accounted member streamed (serve_answers served)

theorem step_accounted {passes : List Pass} (member : now ∈ passes) (accounted : Accounted wire passes loop) :
    Ensures AnyPanic (step wire now loop) (Accounted wire passes) := by
  unfold step
  split
  next => exact accounted
  next => exact pass_accounted member accounted

theorem start_accounted {pty : Pty} {sessionName : String} (started : start pty sessionName = .ok loop) :
    Accounted wire [] loop := by
  unfold start at started
  cases opened : (Daemon.start pty sessionName : Fallible (Daemon R)) with
  | error panic => rw [opened] at started; cases started
  | ok daemon =>
    rw [opened] at started
    cases started
    exact ⟨Nat.le_refl 1, .refl _, nofun, nofun, nofun, nofun⟩

theorem run_accounted {earlier passes : List Pass} (accounted : Accounted wire earlier loop)
    (ran : run (step wire) passes loop = .ok next) : Accounted wire (earlier ++ passes) next := by
  have among : Along (step wire) (fun now _ => now ∈ earlier ++ passes) passes loop :=
    along_of_forall (fun now member => List.mem_append_right earlier member) loop
  have start := accounted.more (List.subset_append_left earlier passes)
  exact (run_ensures (fun now _ member => step_accounted member) among start).of_ok ran

omit [Ratio R] in
theorem Accounted.unique {passes : List Pass} (accounted : Accounted wire passes loop) {one other : Stream} (first : one ∈ loop.connections)
    (second : other ∈ loop.connections) (same : one.number = other.number) : one = other := by
  have distinct : (loop.connections.map Stream.number).Nodup := accounted.numbers.nodup_iff.mpr List.nodup_range'
  exact List.inj_on_of_nodup_map distinct first second same

omit [Ratio R] in
theorem Accounted.apart {passes : List Pass} (accounted : Accounted wire passes loop) {one other : Stream} (attached : one ∈ loop.attachedClients)
    (dropped : other ∈ loop.closed) : one.number ≠ other.number := by
  have distinct : (loop.connections.map Stream.number).Nodup := accounted.numbers.nodup_iff.mpr List.nodup_range'
  rw [connections, List.map_append] at distinct
  exact (List.nodup_append.mp distinct).2.2 _ (List.mem_map_of_mem (List.mem_append_right _ attached)) _
    (List.mem_map_of_mem dropped)

def attachText : Bytes :=
  ascii ['{', '"', 'A', 't', 't', 'a', 'c', 'h', '"', ':', '{', '"', 'c', 'o', 'l', 's', '"', ':', '8', '0', ',',
    '"', 'r', 'o', 'w', 's', '"', ':', '2', '4', '}', '}']

def ackText : Bytes := ascii ['"', 'A', 'c', 'k', '"']

def outputText : Bytes :=
  ascii ['{', '"', 'P', 't', 'y', 'O', 'u', 't', 'p', 'u', 't', '"', ':', '{', '"', 'p', 'a', 'n', 'e', '_', 'i', 'd', '"', ':', '0', ',',
    '"', 'd', 'a', 't', 'a', '"', ':', '[', '1', '0', '4', ']', '}', '}']

def greetingWire : Wire Unit where
  requests :=
    { toVec := fun _ => .error ()
      fromSlice := fun data => if data = attachText then .ok (.attach 80 24) else .error () }
  messages :=
    { toVec := fun msg =>
        if msg = .reply .ack then .ok ackText else if msg = .ptyOutput 0 [0x68] then .ok outputText else .error ()
      fromSlice := fun data =>
        if data = ackText then .ok (.reply .ack) else if data = outputText then .ok (.ptyOutput 0 [0x68]) else .error () }

def attachPass : Pass := quietPass (some (symbols (toBeBytes 32 ++ attachText)))

def printPass : Pass where
  accepted := none
  order ids := ids
  permutes _ := .refl _
  chunks id := if id = 0 then [[0x68]] else []
  sizes id chunk member := by
    split at member
    next =>
      obtain rfl := List.mem_singleton.mp member
      decide
    next => cases member
  writes _ _ := none
  pty _ := quietPty
  replies _ := none

def opened : DaemonLoop Rat where
  daemon :=
    { session := Session.new "main" 80 24
      paneTerminals := AList.insert 0 (Terminal.new 80 24) ∅
      shutdown := false }

theorem opened_start : start quietPty "main" = .ok opened := rfl

def greeted : DaemonLoop Rat where
  daemon := { opened.daemon with session := opened.daemon.session.resize 80 24 }
  attachedClients := [{ number := 1, incoming := [], sent := toBeBytes 5 ++ ackText }]
  nextId := 2

theorem attach_greeted : run (step greetingWire) [attachPass] opened = .ok greeted := by
  rfl

theorem letter_fed : ∃ t, (Terminal.new 80 24).feed [0x68] = .ok t := by
  rw [Terminal.feed, Parser.advance_eq_advanceBytes]
  exact ⟨_, rfl⟩

theorem print_greeted {t : Terminal} (fed : (Terminal.new 80 24).feed [0x68] = .ok t) :
    run (step greetingWire) [printPass] greeted = .ok { greeted with
      daemon := { greeted.daemon with paneTerminals := AList.insert 0 t ∅ }
      attachedClients := [{ number := 1, incoming := [], sent := toBeBytes 5 ++ ackText ++ (toBeBytes 40 ++ outputText) }] } := by
  have polled : pollPanes printPass (printPass.order greeted.daemon.paneTerminals.keys) greeted.daemon.paneTerminals =
      .ok (AList.insert 0 t ∅) := by
    have ids : printPass.order greeted.daemon.paneTerminals.keys = [0] := rfl
    have found : greeted.daemon.paneTerminals.lookup 0 = some (Terminal.new 80 24) := rfl
    have chunks : printPass.chunks 0 = [[0x68]] := rfl
    simp only [pollPanes, ids, List.foldlM_cons, found, chunks, run_cons, fed, ok_bind, run_nil]
    rfl
  rw [run_cons, step, if_neg (by decide), pass]
  simp only [accept_daemon, polled, ok_bind]
  rfl

/-- From any moment on an attached client is sent exactly what the daemon reads from the panes, in the order in which it
is read and once. When a write to it fails it has what comes before, and is not written to again. Nothing is read from it. -/
theorem attached_receives {pty : Pty} {sessionName : String} (started : start pty sessionName = .ok loop)
    {earlier passes : List Pass} {before after : DaemonLoop R} (reached : run (step wire) earlier loop = .ok before)
    (ran : run (step wire) passes before = .ok after) {client : Stream} (attached : client ∈ before.attachedClients) :
    let sent := (encodeOutput wire (before.outputs wire passes)).flatten
    ∃ later ∈ after.connections, (∀ other ∈ after.connections, other.number = client.number ↔ other = later) ∧
      later.incoming = client.incoming ∧
      (later ∈ after.attachedClients ∧ later.sent = client.sent ++ sent ∨
        later ∈ after.closed ∧ ∃ part, part <+: sent ∧ later.sent = client.sent ++ part ∧
          CutOff wire passes before client part) := by
  have accounted : Accounted wire _ after := run_accounted (run_accounted (start_accounted started) reached) ran
  have unique {later : Stream} (there : later ∈ after.connections) (same : later.number = client.number) :
      ∀ other ∈ after.connections, other.number = client.number ↔ other = later := fun other member =>
    ⟨fun number => accounted.unique member there (number.trans same.symm), fun is => is ▸ same⟩
  rcases run_attached ran attached with stays | ⟨part, begins, cut, dropped⟩
  next =>
    have there := List.mem_append_left after.closed (List.mem_append_right (after.ipcClients.map Prod.snd) stays)
    exact ⟨_, there, unique there rfl, rfl, .inl ⟨stays, rfl⟩⟩
  next =>
    have there := List.mem_append_right (after.ipcClients.map Prod.snd ++ after.attachedClients) dropped
    exact ⟨_, there, unique there rfl, rfl, .inr ⟨dropped, part, begins, rfl, cut⟩⟩

theorem attached_receives_letter : ∃ after : DaemonLoop Rat, run (step greetingWire) [printPass] greeted = .ok after ∧
    ∃ later ∈ after.connections, (∀ other ∈ after.connections, other.number = 1 ↔ other = later) ∧ later.incoming = [] ∧
      (later ∈ after.attachedClients ∧ later.sent = toBeBytes 5 ++ ackText ++
          (encodeOutput greetingWire (greeted.outputs greetingWire [printPass])).flatten ∨
        later ∈ after.closed ∧ ∃ part, part <+: (encodeOutput greetingWire (greeted.outputs greetingWire [printPass])).flatten ∧
          later.sent = toBeBytes 5 ++ ackText ++ part ∧
          CutOff greetingWire [printPass] greeted
            { number := 1, incoming := [], sent := toBeBytes 5 ++ ackText } part) := by
  obtain ⟨t, fed⟩ := letter_fed
  exact ⟨_, print_greeted fed, attached_receives opened_start attach_greeted (print_greeted fed) List.mem_cons_self⟩

end DaemonLoop

end Emux
