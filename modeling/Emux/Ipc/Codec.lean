import Emux.Library.Arrivals
import Emux.Vt.Text

set_option autoImplicit false

/-!
# Message framing

A message on the wire is four bytes with the length of its JSON text, and the text. `serde_json` is a parameter.
-/

namespace Emux

open Arrivals

structure SerdeJson (M E : Type) where
  toVec : M -> Except E Bytes
  fromSlice : Bytes -> Except E M

inductive Timeout where
  | wouldBlock
  | timedOut
  deriving DecidableEq, Repr

inductive ErrorKind where
  | wouldBlock
  | timedOut
  | unexpectedEof
  | invalidData
  deriving DecidableEq, Repr

def ErrorKind.of : ReadError Timeout -> ErrorKind
  | .failed .wouldBlock => .wouldBlock
  | .failed .timedOut => .timedOut
  | .unexpectedEof => .unexpectedEof

inductive CodecError (E : Type) where
  | io (kind : ErrorKind)
  | json (error : E)
  deriving DecidableEq, Repr

abbrev Socket := Feed Byte Timeout

def toBeBytes (value : Nat) : Bytes :=
  [(value / 16777216).toUInt8, (value / 65536).toUInt8, (value / 256).toUInt8, value.toUInt8]

def fromBeBytes (bytes : Bytes) : Nat := bytes.foldl (fun value byte => value * 256 + byte.toNat) 0

def maxMessageSize : Nat := 16 * 1024 * 1024

namespace SerdeJson

variable {M E : Type} (json : SerdeJson M E)

def encode (msg : M) : Except (CodecError E) Bytes := do
  let payload <- (json.toVec msg).mapError .json
  let len := payload.length % 4294967296
  .ok (toBeBytes len ++ payload)

def decode (data : Bytes) : Except (CodecError E) M := (json.fromSlice data).mapError .json

def readMessage (reader : Socket) : Except (CodecError E) M × Socket :=
  match readExact 4 reader with
  | (.error error, reader) => (.error (.io (.of error)), reader)
  | (.ok lenBuf, reader) =>
    let len := fromBeBytes lenBuf
    if maxMessageSize < len then (.error (.io .invalidData), reader)
    else
      match readExact len reader with
      | (.error error, reader) => (.error (.io (.of error)), reader)
      | (.ok payload, reader) => (json.decode payload, reader)

end SerdeJson

/-! ## Lengths -/

theorem toNat_toUInt8 (n : Nat) : n.toUInt8.toNat = n % 256 := UInt8.toNat_ofNat'

theorem fromBeBytes_toBeBytes {value : Nat} (small : value < 4294967296) : fromBeBytes (toBeBytes value) = value := by
  simp only [fromBeBytes, toBeBytes, List.foldl_cons, List.foldl_nil, toNat_toUInt8]
  omega

@[simp] theorem length_toBeBytes (value : Nat) : (toBeBytes value).length = 4 := rfl

theorem fromBeBytes_four (a b c d : Byte) :
    fromBeBytes [a, b, c, d] = ((a.toNat * 256 + b.toNat) * 256 + c.toNat) * 256 + d.toNat := by
  simp [fromBeBytes]

theorem max_lt_fromBeBytes {a : Byte} (text : 0x20 ≤ a.toNat) (b c d : Byte) : maxMessageSize < fromBeBytes [a, b, c, d] := by
  -- No character of a text can be the first byte of a length that is allowed.
  rw [fromBeBytes_four, maxMessageSize]
  omega

namespace SerdeJson

variable {M E : Type} {json : SerdeJson M E}

theorem encode_ok_iff {msg : M} {encoded : Bytes} :
    json.encode msg = .ok encoded ↔
      ∃ payload, json.toVec msg = .ok payload ∧ encoded = toBeBytes (payload.length % 4294967296) ++ payload := by
  unfold encode
  cases json.toVec msg with
  | error error => exact iff_of_false nofun fun ⟨_, written, _⟩ => nomatch written
  | ok payload =>
    show Except.ok _ = Except.ok encoded ↔ _
    simp [eq_comm]

/-! ## Reading what was written -/

theorem readMessage_frame {lenBuf payload : Bytes} (four : lenBuf.length = 4) (small : fromBeBytes lenBuf ≤ maxMessageSize)
    (whole : fromBeBytes lenBuf ≤ payload.length) (rest : Socket) :
    json.readMessage (symbols (lenBuf ++ payload) ++ rest) =
      (json.decode (payload.take (fromBeBytes lenBuf)), symbols (payload.drop (fromBeBytes lenBuf)) ++ rest) := by
  -- A length and at least so many bytes.
  have prefixed : 4 ≤ (lenBuf ++ payload).length := by rw [List.length_append]; omega
  unfold readMessage
  rw [readExact_symbols prefixed, List.take_left' four, List.drop_left' four]
  simp only [if_neg (Nat.not_lt.mpr small), readExact_symbols whole]

theorem readMessage_rejects {lenBuf : Bytes} (four : lenBuf.length = 4) (large : maxMessageSize < fromBeBytes lenBuf)
    (rest : Socket) : (json.readMessage (symbols lenBuf ++ rest)).1 = .error (.io .invalidData) := by
  unfold readMessage
  rw [readExact_symbols (Nat.le_of_eq four.symm), List.take_of_length_le (Nat.le_of_eq four)]
  dsimp only
  rw [if_pos large]

theorem readMessage_text {text : Bytes} (four : 4 ≤ text.length) (printable : ∀ byte ∈ text, 0x20 ≤ byte.toNat)
    (rest : Socket) : (json.readMessage (symbols text ++ rest)).1 = .error (.io .invalidData) := by
  -- In the middle of a text there is no length that is allowed.
  match text, four with
  | a :: b :: c :: d :: more, _ =>
    exact readMessage_rejects rfl (max_lt_fromBeBytes (printable a List.mem_cons_self) b c d) (symbols more ++ rest)

def readMessages (json : SerdeJson M E) : Nat -> Socket -> Except (CodecError E) (List M) × Socket
  | 0, reader => (.ok [], reader)
  | count + 1, reader =>
    match json.readMessage reader with
    | (.error error, reader) => (.error error, reader)
    | (.ok msg, reader) =>
      match json.readMessages count reader with
      | (.error error, reader) => (.error error, reader)
      | (.ok msgs, reader) => (.ok (msg :: msgs), reader)

theorem readMessages_succ_iff {count : Nat} {reader after : Socket} {msgs : List M} :
    json.readMessages (count + 1) reader = (.ok msgs, after) ↔ ∃ msg rest others,
      json.readMessage reader = (.ok msg, rest) ∧ json.readMessages count rest = (.ok others, after) ∧
        msgs = msg :: others := by
  rw [readMessages]
  cases json.readMessage reader with
  | mk result rest =>
    cases result with
    | error error => simp
    | ok msg =>
      dsimp only
      cases later : json.readMessages count rest with
      | mk result reader =>
        cases result with
        | error error => simp [later]
        | ok others =>
          constructor
          next =>
            intro same
            obtain ⟨rfl, rfl⟩ : msg :: others = msgs ∧ reader = after := by simpa using same
            exact ⟨msg, rest, others, rfl, later, rfl⟩
          next =>
            rintro ⟨_, _, _, here, there, rfl⟩
            obtain ⟨rfl, rfl⟩ : msg = _ ∧ rest = _ := by simpa using here
            obtain ⟨rfl, rfl⟩ : others = _ ∧ reader = after := by simpa using later.symm.trans there
            rfl

theorem readMessages_error {reader : Socket} {error : CodecError E} (failed : (json.readMessage reader).1 = .error error)
    (msgs : List M) (count : Nat) (after : Socket) : json.readMessages (count + 1) reader ≠ (.ok msgs, after) := by
  -- Nothing is read behind an error.
  intro read
  obtain ⟨msg, rest, others, first, -⟩ := readMessages_succ_iff.mp read
  rw [first] at failed
  cases failed

/-- `serde_json::from_slice` undoes `serde_json::to_vec`. -/
def Undoes (json : SerdeJson M E) : Prop := ∀ msg payload, json.toVec msg = .ok payload -> json.fromSlice payload = .ok msg

/-- `serde_json::to_vec` writes UTF-8 without control characters: it escapes them, and puts no line ends in between. -/
def Printable (json : SerdeJson M E) : Prop :=
  ∀ msg payload, json.toVec msg = .ok payload -> ∀ byte ∈ payload, 0x20 ≤ byte.toNat ∧ byte.toNat ≤ 0xF4

theorem readMessage_encoded (undoes : json.Undoes) {msg : M} {payload : Bytes} (written : json.toVec msg = .ok payload)
    (small : payload.length ≤ maxMessageSize) (rest : Socket) :
    json.readMessage (symbols (toBeBytes (payload.length % 4294967296) ++ payload) ++ rest) = (.ok msg, rest) := by
  have bounded : payload.length < 4294967296 := Nat.lt_of_le_of_lt small (by decide)
  have len := fromBeBytes_toBeBytes bounded
  rw [Nat.mod_eq_of_lt bounded, readMessage_frame (length_toBeBytes _) (by rw [len]; exact small) (Nat.le_of_eq len), len,
    List.take_length, List.drop_length, decode, undoes msg payload written]
  rfl

theorem readMessages_large (printable : json.Printable) {msg : M} {payload : Bytes}
    (written : json.toVec msg = .ok payload) (large : maxMessageSize < payload.length) (rest : Socket) (msgs : List M)
    (count : Nat) :
    json.readMessages (count + 1) (symbols (toBeBytes (payload.length % 4294967296) ++ payload) ++ rest) ≠ (.ok msgs, []) := by
  -- Behind a message that is too large nothing is read as it was written.
  by_cases truncated : payload.length % 4294967296 ≤ maxMessageSize
  next =>
    -- The length lost a multiple of 2^32, and the reader goes on in the middle of the text.
    unfold maxMessageSize at large truncated
    have inside : payload.length % 4294967296 + 4 ≤ payload.length := by omega
    have len := fromBeBytes_toBeBytes (Nat.mod_lt payload.length (by decide : 0 < 4294967296))
    have frame := @readMessage_frame M E json (toBeBytes (payload.length % 4294967296)) payload rfl
      (by rw [len]; exact truncated) (by rw [len]; exact Nat.mod_le _ _) rest
    rw [len] at frame
    intro read
    obtain ⟨other, after, others, first, later, -⟩ := readMessages_succ_iff.mp read
    obtain ⟨-, rfl⟩ := Prod.mk.inj (frame.symm.trans first)
    have left : 4 ≤ (payload.drop (payload.length % 4294967296)).length := by rw [List.length_drop]; omega
    cases count with
    | zero =>
      have empty := congrArg (fun result => result.2.length) later
      simp [readMessages] at empty
      omega
    | succ count =>
      have middle := @readMessage_text M E json _ left
        (fun byte member => (printable msg payload written byte (List.mem_of_mem_drop member)).1) rest
      exact readMessages_error middle others count [] later
  next =>
    have bounded : payload.length % 4294967296 < 4294967296 := Nat.mod_lt _ (by decide)
    have rejected := @readMessage_rejects M E json (toBeBytes (payload.length % 4294967296)) rfl
      (by rw [fromBeBytes_toBeBytes bounded]; omega) (symbols payload ++ rest)
    rw [symbols_append, List.append_assoc]
    exact readMessages_error rejected msgs count []

def killSessionText (letters : Nat) : Bytes :=
  ascii ['{', '"', 'K', 'i', 'l', 'l', 'S', 'e', 's', 's', 'i', 'o', 'n', '"', ':', '{', '"', 'n', 'a', 'm', 'e', '"', ':', '"'] ++
    List.replicate letters 0x61 ++ ascii ['"', '}', '}']

def killSession : SerdeJson Nat Unit where
  toVec letters := .ok (killSessionText letters)
  fromSlice data := if data = killSessionText (data.length - 27) then .ok (data.length - 27) else .error ()

theorem length_killSessionText (letters : Nat) : (killSessionText letters).length = letters + 27 := by
  simp [killSessionText, ascii]

theorem killSession_undoes : killSession.Undoes := by
  rintro letters _ ⟨⟩
  simp [killSession, length_killSessionText]

theorem killSession_printable : killSession.Printable := by
  rintro letters _ ⟨⟩ byte member
  have fixed (cs : List Char) (all : (ascii cs).all (fun byte => 0x20 ≤ byte.toNat && byte.toNat ≤ 0xF4) = true) :
      ∀ byte ∈ ascii cs, 0x20 ≤ byte.toNat ∧ byte.toNat ≤ 0xF4 := by
    simpa only [List.all_eq_true, Bool.and_eq_true, decide_eq_true_eq] using all
  unfold killSessionText at member
  rcases List.mem_append.mp member with before | closing
  next =>
    rcases List.mem_append.mp before with opening | name
    next => exact fixed _ rfl byte opening
    next =>
      obtain rfl := List.eq_of_mem_replicate name
      decide
  next => exact fixed _ rfl byte closing

theorem readMessages_encoded_iff (undoes : json.Undoes) (printable : json.Printable) {msgs : List M}
    {encodings : List Bytes} (accepted : List.Forall₂ (fun msg encoded => json.encode msg = .ok encoded) msgs encodings) :
    json.readMessages msgs.length (symbols encodings.flatten) = (.ok msgs, []) ↔
      ∀ msg ∈ msgs, ∀ payload, json.toVec msg = .ok payload -> payload.length ≤ maxMessageSize := by
  induction accepted with
  | nil => exact iff_of_true rfl nofun
  | @cons msg encoded msgs encodings first accepted ih =>
    obtain ⟨payload, written, rfl⟩ := encode_ok_iff.mp first
    rw [List.length_cons, List.flatten_cons, symbols_append, List.forall_mem_cons, ← ih]
    by_cases small : payload.length ≤ maxMessageSize
    next =>
      have read := readMessage_encoded undoes written small (symbols encodings.flatten)
      have sizes : ∀ other, json.toVec msg = .ok other -> other.length ≤ maxMessageSize := by
        intro other again
        obtain rfl : payload = other := Except.ok.inj (written.symm.trans again)
        exact small
      rw [readMessages_succ_iff, and_iff_right sizes]
      constructor
      next =>
        rintro ⟨_, _, others, here, later, same⟩
        obtain ⟨-, rfl⟩ := List.cons.inj same
        obtain ⟨-, rfl⟩ := Prod.mk.inj (read.symm.trans here)
        exact later
      next => exact fun later => ⟨msg, _, msgs, read, later, rfl⟩
    next =>
      refine iff_of_false ?_ fun both => small (both.1 payload written)
      exact readMessages_large printable written (Nat.not_le.mp small) _ _ _

theorem readMessages_encoded_two :
    killSession.readMessages 2 (symbols [toBeBytes 27 ++ killSessionText 0, toBeBytes 28 ++ killSessionText 1].flatten) =
      (.ok [0, 1], []) := by
  have accepted : List.Forall₂ (fun letters encoded => killSession.encode letters = .ok encoded) [0, 1]
      [toBeBytes 27 ++ killSessionText 0, toBeBytes 28 ++ killSessionText 1] := .cons rfl (.cons rfl .nil)
  refine (readMessages_encoded_iff killSession_undoes killSession_printable accepted).mpr fun letters member payload written => ?_
  obtain rfl : killSessionText letters = payload := Except.ok.inj written
  rw [length_killSessionText]
  rcases List.mem_cons.mp member with rfl | member
  next => decide
  next =>
    obtain rfl := List.mem_singleton.mp member
    decide

/-- A name of 16 MiB: `encode` accepts the message and the reader rejects it. -/
theorem large_message_rejected :
    ∃ encoded, killSession.encode 16777216 = .ok encoded ∧
      (killSession.readMessage (symbols encoded)).1 = .error (.io .invalidData) ∧
      killSession.readMessages 1 (symbols encoded) ≠ (.ok [16777216], []) := by
  have rejected : (killSession.readMessage (symbols (toBeBytes ((killSessionText 16777216).length % 4294967296) ++
      killSessionText 16777216))).1 = .error (.io .invalidData) := by
    rw [length_killSessionText, symbols_append]
    exact readMessage_rejects rfl (by decide) _
  exact ⟨_, encode_ok_iff.mpr ⟨_, rfl, rfl⟩, rejected, readMessages_error rejected _ _ _⟩

/-! ## Timeouts -/

def retries : Except (CodecError E) M -> Bool
  | .error (.io .wouldBlock) | .error (.io .timedOut) => true
  | _ => false

/-- `read_message` called again on the same stream after each timeout; `none` when no attempt is left. -/
def readRetrying (json : SerdeJson M E) : Nat -> Socket -> Option (Except (CodecError E) M × Socket)
  | 0, _ => none
  | attempts + 1, reader =>
    let (result, rest) := json.readMessage reader
    if retries result then json.readRetrying attempts rest else some (result, rest)

theorem readRetrying_succ (attempts : Nat) (reader : Socket) :
    json.readRetrying (attempts + 1) reader =
      if retries (json.readMessage reader).1 then json.readRetrying attempts (json.readMessage reader).2
      else some ((json.readMessage reader).1, (json.readMessage reader).2) := rfl

def Delivers (json : SerdeJson M E) (reader : Socket) (msg : M) (rest : Socket) : Prop :=
  ∃ attempts, json.readRetrying attempts reader = some (.ok msg, rest)

def Uncut (reader : Socket) : Prop :=
  ∃ before bytes, reader = before ++ symbols bytes ∧ ∀ arrival ∈ before, ∃ kind, arrival = .failed kind

theorem readMessage_length_four (reader : Socket) :
    (json.readMessage reader).2.length ≤ (readExact 4 reader).2.length := by
  unfold readMessage
  split
  next read => exact Nat.le_of_eq (by rw [read])
  next lenBuf reader' read =>
    rw [read]
    dsimp only
    split_ifs
    next => exact Nat.le_refl _
    next =>
      have second := readExact_length (fromBeBytes lenBuf) reader'
      split
      next read' => rwa [read'] at second
      next read' => rwa [read'] at second

theorem readMessage_length (reader : Socket) : (json.readMessage reader).2.length ≤ reader.length :=
  Nat.le_trans (readMessage_length_four reader) (readExact_length 4 reader)

theorem readRetrying_length {attempts : Nat} {reader rest : Socket} {result : Except (CodecError E) M}
    (read : json.readRetrying attempts reader = some (result, rest)) : rest.length ≤ reader.length := by
  induction attempts generalizing reader with
  | zero => cases read
  | succ attempts ih =>
    have shorter := @readMessage_length M E json reader
    rw [readRetrying_succ] at read
    split_ifs at read
    next => exact Nat.le_trans (ih read) shorter
    next =>
      obtain ⟨-, rfl⟩ := Prod.mk.inj (Option.some.inj read)
      exact shorter

theorem readMessage_failed (kind : Timeout) (after : Socket) :
    json.readMessage (.failed kind :: after) = (.error (.io (.of (.failed kind))), after) := rfl

theorem retries_timeout (kind : Timeout) : retries (.error (.io (.of (.failed kind))) : Except (CodecError E) M) = true := by
  cases kind <;> rfl

theorem readMessage_barrier (before : Socket) (kind : Timeout) (after : Socket) :
    (∃ kept, (json.readMessage (before ++ .failed kind :: after)).2 = kept ++ .failed kind :: after) ∨
      json.readMessage (before ++ .failed kind :: after) = (.error (.io (.of (.failed kind))), after) := by
  unfold readMessage
  rcases readExact_barrier 4 before kind after with ⟨kept, stays⟩ | fails
  next =>
    split
    next read =>
      rw [read] at stays
      exact .inl ⟨kept, stays⟩
    next lenBuf reader read =>
      rw [read] at stays
      obtain rfl : reader = kept ++ .failed kind :: after := stays
      dsimp only
      split_ifs
      next => exact .inl ⟨kept, rfl⟩
      next =>
        rcases readExact_barrier (fromBeBytes lenBuf) kept kind after with ⟨kept', stays'⟩ | fails'
        next =>
          split
          next read' =>
            rw [read'] at stays'
            exact .inl ⟨kept', stays'⟩
          next read' =>
            rw [read'] at stays'
            exact .inl ⟨kept', stays'⟩
        next => exact .inr (by rw [fails'])
  next => exact .inr (by rw [fails])

theorem readRetrying_barrier {attempts : Nat} {before after rest : Socket} {kind : Timeout}
    {result : Except (CodecError E) M}
    (read : json.readRetrying attempts (before ++ .failed kind :: after) = some (result, rest)) :
    (∃ kept, rest = kept ++ .failed kind :: after) ∨ ∃ later, json.readRetrying later after = some (result, rest) := by
  -- Whatever is returned from behind a failed read is returned when reading starts behind it.
  induction attempts generalizing before with
  | zero => cases read
  | succ attempts ih =>
    rw [readRetrying_succ] at read
    rcases @readMessage_barrier M E json before kind after with ⟨kept, stays⟩ | fails
    next =>
      rw [stays] at read
      split_ifs at read
      next => exact ih read
      next =>
        obtain ⟨-, rfl⟩ := Prod.mk.inj (Option.some.inj read)
        exact .inl ⟨kept, rfl⟩
    next =>
      rw [fails, if_pos (retries_timeout kind)] at read
      exact .inr ⟨attempts, read⟩

section Lengths

variable {n p q r : Nat}

theorem low_three (n : Nat) : (n / 65536 % 256 * 256 + n / 256 % 256) * 256 + n % 256 = n % 16777216 := by omega

theorem low_two (n : Nat) : n / 256 % 256 * 256 + n % 256 = n % 65536 := by omega

theorem length_without_first (small : n ≤ 16777216) (some : 1 ≤ n) (high : p ≤ 0xF4) :
    ((n / 65536 % 256 * 256 + n / 256 % 256) * 256 + n % 256) * 256 + p ≠ n - 1 := by
  intro same
  rw [low_three] at same
  rcases Nat.lt_or_eq_of_le small with less | rfl
  next =>
    rw [Nat.mod_eq_of_lt less] at same
    omega
  next => omega

theorem length_without_two (small : n ≤ 16777216) (some : 2 ≤ n) (first : 0x20 ≤ p ∧ p ≤ 0xF4) (high : q ≤ 0xF4) :
    ((n / 256 % 256 * 256 + n % 256) * 256 + p) * 256 + q ≠ n - 2 := by
  intro same
  have parts := Nat.div_add_mod n 65536
  have below := Nat.mod_lt n (by decide : 0 < 65536)
  rw [low_two] at same
  generalize n % 65536 = remainder at *
  generalize n / 65536 = quotient at *
  rcases Nat.lt_trichotomy remainder quotient with less | equal | more <;> omega

theorem length_without_three (small : n ≤ 16777216) (some : 3 ≤ n) (first : 0x20 ≤ p ∧ p ≤ 0xF4) (high : r ≤ 0xF4) :
    ((n % 256 * 256 + p) * 256 + q) * 256 + r ≠ n - 3 := by
  intro same
  have zero : n % 256 = 0 := by omega
  rw [zero] at same
  omega

end Lengths

theorem no_frame_inside {payload : Bytes} (small : payload.length ≤ maxMessageSize)
    (printable : ∀ byte ∈ payload, 0x20 ≤ byte.toNat ∧ byte.toNat ≤ 0xF4) {k : Nat} (inside : 0 < k) {four text : Bytes}
    (split : (toBeBytes payload.length ++ payload).drop k = four ++ text) (prefixed : four.length = 4)
    (allowed : fromBeBytes four ≤ maxMessageSize) : fromBeBytes four ≠ text.length := by
  -- What starts inside a message is no message that ends with it.
  obtain ⟨a, b, c, d, rfl⟩ : ∃ a b c d, four = [a, b, c, d] := by
    match four, prefixed with
    | [a, b, c, d], _ => exact ⟨a, b, c, d, rfl⟩
  have total := congrArg List.length split
  rw [List.length_drop, List.length_append, List.length_append, length_toBeBytes, prefixed] at total
  unfold maxMessageSize at small
  by_cases far : 4 ≤ k
  next =>
    -- All four bytes are characters.
    obtain ⟨j, rfl⟩ := Nat.exists_eq_add_of_le far
    rw [← List.drop_drop, List.drop_left' (length_toBeBytes _)] at split
    have member : a ∈ payload.drop j := by simp [split]
    have large := max_lt_fromBeBytes (printable a (List.mem_of_mem_drop member)).1 b c d
    exact absurd allowed (Nat.not_le.mpr large)
  next =>
    unfold toBeBytes at split
    rw [fromBeBytes_four]
    rcases (by omega : k = 1 ∨ k = 2 ∨ k = 3) with rfl | rfl | rfl
    next =>
      obtain ⟨p, rest, rfl⟩ : ∃ p rest, payload = p :: rest := List.exists_cons_of_length_pos (by omega)
      simp only [List.cons_append, List.nil_append, List.drop_succ_cons, List.drop_zero, List.cons.injEq] at split
      obtain ⟨rfl, rfl, rfl, rfl, rfl⟩ := split
      simp only [toNat_toUInt8]
      exact length_without_first small (Nat.succ_pos _) (printable p List.mem_cons_self).2
    next =>
      match payload, (by omega : 2 ≤ payload.length) with
      | p :: q :: rest, enough =>
        simp only [List.cons_append, List.nil_append, List.drop_succ_cons, List.drop_zero, List.cons.injEq] at split
        obtain ⟨rfl, rfl, rfl, rfl, rfl⟩ := split
        simp only [toNat_toUInt8]
        exact length_without_two small enough (printable p (by simp)) (printable q (by simp)).2
    next =>
      match payload, (by omega : 3 ≤ payload.length) with
      | p :: q :: r :: rest, enough =>
        simp only [List.cons_append, List.nil_append, List.drop_succ_cons, List.drop_zero, List.cons.injEq] at split
        obtain ⟨rfl, rfl, rfl, rfl, rfl⟩ := split
        simp only [toNat_toUInt8]
        exact length_without_three small enough (printable p (by simp)) (printable r (by simp)).2

theorem readMessage_beyond {bytes : Bytes} (rest : Socket)
    (short : bytes.length < 4 ∨ fromBeBytes (bytes.take 4) ≤ maxMessageSize ∧
      bytes.length < 4 + fromBeBytes (bytes.take 4)) :
    (json.readMessage (symbols bytes ++ rest)).1 = .error (.io .unexpectedEof) ∨
      (json.readMessage (symbols bytes ++ rest)).2.length < rest.length := by
  -- A read that does not find all of its bytes fails for good, or takes from what follows.
  by_cases four : 4 ≤ bytes.length
  next =>
    obtain ⟨small, less⟩ := short.resolve_left (Nat.not_lt.mpr four)
    have short : (bytes.drop 4).length < fromBeBytes (bytes.take 4) := by rw [List.length_drop]; omega
    unfold readMessage
    rw [readExact_symbols four]
    simp only [if_neg (Nat.not_lt.mpr small)]
    have beyond := readExact_beyond short rest
    cases read : readExact (fromBeBytes (bytes.take 4)) (symbols (bytes.drop 4) ++ rest) with
    | mk result reader =>
      rw [read] at beyond
      rcases beyond with ended | shorter
      next =>
        obtain rfl : result = .error .unexpectedEof := ended
        exact .inl rfl
      next =>
        refine .inr ?_
        cases result <;> exact shorter
  next =>
    rcases readExact_beyond (Nat.not_le.mp four) rest with ended | shorter
    next =>
      unfold readMessage
      cases read : readExact 4 (symbols bytes ++ rest) with
      | mk result reader =>
        rw [read] at ended
        obtain rfl : result = .error .unexpectedEof := ended
        exact .inl rfl
    next => exact .inr (Nat.lt_of_le_of_lt (readMessage_length_four _) shorter)

theorem retries_decode (data : Bytes) : retries (json.decode data) = false := by
  unfold decode
  cases json.fromSlice data <;> rfl

theorem readRetrying_inside {payload : Bytes} (small : payload.length ≤ maxMessageSize)
    (printable : ∀ byte ∈ payload, 0x20 ≤ byte.toNat ∧ byte.toNat ≤ 0xF4) {k : Nat} (inside : 0 < k) (rest : Socket)
    (msg : M) (attempts : Nat) :
    json.readRetrying attempts (symbols ((toBeBytes payload.length ++ payload).drop k) ++ rest) ≠ some (.ok msg, rest) := by
  -- Reading that starts inside the bytes of a message does not return it with the stream behind it.
  generalize tail : (toBeBytes payload.length ++ payload).drop k = bytes
  intro delivered
  cases attempts with
  | zero => cases delivered
  | succ attempts =>
    rw [readRetrying_succ] at delivered
    by_cases beyond : bytes.length < 4 ∨ fromBeBytes (bytes.take 4) ≤ maxMessageSize ∧
        bytes.length < 4 + fromBeBytes (bytes.take 4)
    next =>
      rcases readMessage_beyond rest beyond with ended | shorter
      next =>
        rw [ended] at delivered
        cases delivered
      next =>
        split_ifs at delivered
        next => exact Nat.not_le.mpr shorter (readRetrying_length delivered)
        next =>
          obtain ⟨-, same⟩ := Prod.mk.inj (Option.some.inj delivered)
          exact absurd (congrArg List.length same) (Nat.ne_of_lt shorter)
    next =>
      obtain ⟨four, enough⟩ := not_or.mp beyond
      rw [Nat.not_lt] at four
      have split : bytes = bytes.take 4 ++ bytes.drop 4 := (List.take_append_drop 4 bytes).symm
      have prefixed : (bytes.take 4).length = 4 := by rw [List.length_take]; omega
      rw [split] at delivered
      by_cases allowed : fromBeBytes (bytes.take 4) ≤ maxMessageSize
      next =>
        have whole : fromBeBytes (bytes.take 4) ≤ (bytes.drop 4).length := by
          have long := fun less => enough ⟨allowed, less⟩
          rw [List.length_drop]
          omega
        have other := no_frame_inside small printable inside (tail.trans split) prefixed allowed
        rw [readMessage_frame prefixed allowed whole, if_neg (by rw [retries_decode]; exact nofun)] at delivered
        obtain ⟨-, same⟩ := Prod.mk.inj (Option.some.inj delivered)
        have lengths := congrArg List.length same
        rw [List.length_append, length_symbols, List.length_drop] at lengths
        omega
      next =>
        rw [symbols_append, List.append_assoc, readMessage_rejects prefixed (Nat.not_le.mp allowed)] at delivered
        cases delivered

theorem received_failures {before : Socket} (failures : ∀ arrival ∈ before, ∃ kind, arrival = .failed kind) :
    received before = [] := by
  induction before with
  | nil => rfl
  | cons arrival before ih =>
    obtain ⟨⟨kind, rfl⟩, others⟩ := List.forall_mem_cons.mp failures
    exact ih others

theorem cut_cases (reader : Socket) : Uncut reader ∨ ∃ before kind bytes,
    reader = before ++ .failed kind :: symbols bytes ∧ received before ≠ [] := by
  -- A read that fails last, behind some byte and before the last one.
  induction reader with
  | nil => exact .inl ⟨[], [], rfl, nofun⟩
  | cons arrival reader ih =>
    rcases ih with ⟨before, bytes, rfl, failures⟩ | ⟨before, kind, bytes, rfl, some⟩
    next =>
      cases arrival with
      | failed kind => exact .inl ⟨.failed kind :: before, bytes, rfl, List.forall_mem_cons.mpr ⟨⟨kind, rfl⟩, failures⟩⟩
      | symbol byte =>
        rcases List.eq_nil_or_concat before with rfl | ⟨before, arrival, rfl⟩
        next => exact .inl ⟨[], byte :: bytes, rfl, nofun⟩
        next =>
          obtain ⟨kind, rfl⟩ := failures arrival (by simp)
          exact .inr ⟨.symbol byte :: before, kind, bytes, by simp, by simp⟩
    next =>
      refine .inr ⟨arrival :: before, kind, bytes, rfl, fun none => some ?_⟩
      cases arrival with
      | failed kind => exact none
      | symbol byte => cases none

theorem delivers_iff (undoes : json.Undoes) (printable : json.Printable) {msg : M} {encoded : Bytes}
    (accepted : json.encode msg = .ok encoded) (valid : encoded.length ≤ 4 + maxMessageSize) {reader : Socket}
    (arrives : received reader = encoded) (rest : Socket) :
    json.Delivers (reader ++ rest) msg rest ↔ Uncut reader := by
  obtain ⟨payload, written, rfl⟩ := encode_ok_iff.mp accepted
  have small : payload.length ≤ maxMessageSize := by
    rw [List.length_append, length_toBeBytes] at valid
    omega
  have bounded : payload.length < 4294967296 := Nat.lt_of_le_of_lt small (by decide)
  -- Bytes read before a timeout are lost; that does no harm in front of the frame or behind it.
  constructor
  next =>
    rintro ⟨attempts, delivered⟩
    rcases cut_cases reader with clean | ⟨before, kind, bytes, rfl, some⟩
    next => exact clean
    next =>
      exfalso
      rw [List.append_assoc, List.cons_append] at delivered
      rw [received_append, received_failed, received_symbols, Nat.mod_eq_of_lt bounded] at arrives
      rcases readRetrying_barrier delivered with ⟨kept, same⟩ | ⟨later, delivered⟩
      next =>
        have lengths := congrArg List.length same
        simp only [List.length_append, List.length_cons, length_symbols] at lengths
        omega
      next =>
        have tail : (toBeBytes payload.length ++ payload).drop (received before).length = bytes := by
          rw [← arrives, List.drop_left]
        rw [← tail] at delivered
        exact readRetrying_inside small (printable msg payload written) (List.length_pos_iff.mpr some) rest msg later delivered
  next =>
    rintro ⟨before, bytes, rfl, failures⟩
    obtain rfl : bytes = toBeBytes (payload.length % 4294967296) ++ payload := by
      rw [received_append, received_symbols, received_failures failures] at arrives
      exact arrives
    rw [List.append_assoc]
    clear arrives
    induction before with
    | nil =>
      refine ⟨1, ?_⟩
      rw [readRetrying_succ, List.nil_append, readMessage_encoded undoes written small]
      rfl
    | cons arrival before ih =>
      obtain ⟨⟨kind, rfl⟩, others⟩ := List.forall_mem_cons.mp failures
      obtain ⟨attempts, delivered⟩ := ih others
      refine ⟨attempts + 1, ?_⟩
      rw [readRetrying_succ, List.cons_append, readMessage_failed, if_pos (retries_timeout kind)]
      exact delivered

theorem delivers_after_timeout :
    killSession.Delivers (.failed .timedOut :: symbols (toBeBytes 27 ++ killSessionText 0) ++ [.failed .wouldBlock]) 0
      [.failed .wouldBlock] := by
  have valid : (toBeBytes 27 ++ killSessionText 0).length ≤ 4 + maxMessageSize := by
    rw [List.length_append, length_killSessionText]
    decide
  have accepted : killSession.encode 0 = .ok (toBeBytes 27 ++ killSessionText 0) := rfl
  have arrives : received (.failed .timedOut :: symbols (toBeBytes 27 ++ killSessionText 0) : Socket) =
      toBeBytes 27 ++ killSessionText 0 := by
    rw [received_failed, received_symbols]
  have uncut : Uncut (.failed .timedOut :: symbols (toBeBytes 27 ++ killSessionText 0) : Socket) :=
    ⟨[.failed .timedOut], toBeBytes 27 ++ killSessionText 0, rfl, by simp⟩
  have exact := delivers_iff killSession_undoes killSession_printable accepted valid arrives [.failed .wouldBlock]
  exact exact.mpr uncut

/-- A timeout behind the first byte: the second attempt takes the other three and a brace for the length. -/
theorem timeout_loses_byte :
    ¬ killSession.Delivers (.symbol 0 :: .failed .timedOut :: symbols ([0, 0, 27] ++ killSessionText 0)) 0 [] := by
  rintro ⟨attempts, delivered⟩
  have first : killSession.readMessage (.symbol 0 :: .failed .timedOut :: symbols ([0, 0, 27] ++ killSessionText 0)) =
      (.error (.io .timedOut), symbols ([0, 0, 27] ++ killSessionText 0)) := rfl
  have short : ([0, 0, 27] ++ killSessionText 0).length < 4 + fromBeBytes (([0, 0, 27] ++ killSessionText 0).take 4) := by
    decide
  have second := (@readMessage_beyond Nat Unit killSession _ [] (.inr ⟨by decide, short⟩)).resolve_right (Nat.not_lt_zero _)
  rw [List.append_nil] at second
  cases attempts with
  | zero => cases delivered
  | succ attempts =>
    rw [readRetrying_succ, first] at delivered
    replace delivered : killSession.readRetrying attempts (symbols ([0, 0, 27] ++ killSessionText 0)) = some (.ok 0, []) :=
      delivered
    cases attempts with
    | zero => cases delivered
    | succ attempts =>
      rw [readRetrying_succ, second] at delivered
      cases delivered

end SerdeJson

end Emux
