import Emux.Ipc.Codec
import Emux.Library.Cuts
import Emux.Term.Performer
import Emux.Vt.Lossy

set_option autoImplicit false

/-!
# Recordings

A recording has a header and a line for each event, in JSON. Output is recorded as text, so that a read of the pane
that ends inside a character is not what is played back.
-/

namespace Emux

open Checked Lines

structure RecordingHeader where
  version : UInt8
  width : UInt16
  height : UInt16
  timestamp : UInt64
  title : Option Bytes
  deriving DecidableEq, Repr

inductive EventType where
  | output
  | input
  | resize
  deriving DecidableEq, Repr

/-- The methods `record_output`, `record_input` and `record_resize`. -/
inductive RecordCall where
  | output (data : Bytes)
  | input (data : Bytes)
  | resize (cols rows : UInt16)
  deriving DecidableEq, Repr

namespace RecordCall

def eventType : RecordCall -> EventType
  | .output _ => .output
  | .input _ => .input
  | .resize .. => .resize

def data : RecordCall -> Bytes
  | .output data => lossyUtf8 data
  | .input data => lossyUtf8 data
  | .resize cols rows => decimal cols.toNat ++ ascii ['x'] ++ decimal rows.toNat

end RecordCall

def EventType.code : EventType -> Bytes
  | .output => ascii ['o']
  | .input => ascii ['i']
  | .resize => ascii ['r']

variable {T E : Type}

/-- `serde_json` for the header and for the tuple of an event. -/
structure RecorderJson (T E : Type) where
  header : SerdeJson RecordingHeader E
  event : SerdeJson (T × Bytes × Bytes) E

/-- `SessionRecorder`, as what it has written. -/
structure SessionRecorder where
  written : Bytes
  deriving DecidableEq, Repr

namespace SessionRecorder

/-- With the time of day, once the file is there. -/
def new (json : RecorderJson T E) (width height : UInt16) (title : Option Bytes) (timestamp : UInt64) :
    Except E SessionRecorder := do
  let headerJson <- json.header.toVec { version := 2, width, height, timestamp, title }
  .ok { written := headerJson ++ [0x0A] }

def writeEvent (json : RecorderJson T E) (elapsed : T) (eventType data : Bytes) (recorder : SessionRecorder) :
    Except E SessionRecorder := do
  let event <- json.event.toVec (elapsed, eventType, data)
  .ok { written := recorder.written ++ event ++ [0x0A] }

def record (json : RecorderJson T E) (recorder : SessionRecorder) (call : T × RecordCall) : SessionRecorder :=
  match recorder.writeEvent json call.1 call.2.eventType.code call.2.data with
  | .ok next => next
  | .error _ => recorder

def recorded (json : RecorderJson T E) (calls : List (T × RecordCall)) (recorder : SessionRecorder) : Bytes :=
  (calls.foldl (record json) recorder).written

end SessionRecorder

structure RecordingEvent (T : Type) where
  time : T
  eventType : EventType
  data : Bytes
  deriving DecidableEq, Repr

inductive RecordingError (E : Type) where
  | io
  | json (error : E)
  | serialize (message : Bytes)
  deriving DecidableEq, Repr

structure RecordingReader (T : Type) where
  header : RecordingHeader
  events : List (RecordingEvent T)
  deriving DecidableEq, Repr

def outputs (events : List (RecordingEvent T)) : List Bytes :=
  events.filterMap fun event => if event.eventType = .output then some event.data else none

def stripCr (line : Bytes) : Bytes := if line.getLast? = some 0x0D then line.dropLast else line

/-- `BufRead::lines`, before it is checked that they are UTF-8. -/
def bufLines (file : Bytes) : List Bytes :=
  let pieces := file.splitOn 0x0A
  let last := pieces.getLast?.getD []
  pieces.dropLast.map stripCr ++ if last = [] then [] else [last]

/-- `line.trim().is_empty()`: nothing but white space in UTF-8. -/
def isBlank : Bytes -> Bool
  | [] => true
  | 0xC2 :: byte :: rest => (byte == 0x85 || byte == 0xA0) && isBlank rest
  | 0xE1 :: 0x9A :: 0x80 :: rest => isBlank rest
  | 0xE2 :: 0x80 :: byte :: rest => (within 0x80 0x8A byte || byte == 0xA8 || byte == 0xA9 || byte == 0xAF) && isBlank rest
  | 0xE2 :: 0x81 :: 0x9F :: rest => isBlank rest
  | 0xE3 :: 0x80 :: 0x80 :: rest => isBlank rest
  | byte :: rest => (within 0x09 0x0D byte || byte == 0x20) && isBlank rest

namespace RecordingReader

def eventTypeOf (code : Bytes) : Except (RecordingError E) EventType :=
  if code = ascii ['o'] then .ok .output
  else if code = ascii ['i'] then .ok .input
  else if code = ascii ['r'] then .ok .resize
  else .error (.serialize (ascii "unknown event type: ".toList ++ code))

def readLine (line : Bytes) : Except (RecordingError E) Bytes := if validUtf8 line then .ok line else .error .io

def readEvents (json : RecorderJson T E) : List Bytes -> Except (RecordingError E) (List (RecordingEvent T))
  | [] => .ok []
  | line :: rest => do
    let line <- readLine line
    if isBlank line then readEvents json rest
    else do
      let tuple <- (json.event.fromSlice line).mapError .json
      let eventType <- eventTypeOf tuple.2.1
      let events <- readEvents json rest
      .ok ({ time := tuple.1, eventType, data := tuple.2.2 } :: events)

def «open» (json : RecorderJson T E) (file : Bytes) : Except (RecordingError E) (RecordingReader T) :=
  match bufLines file with
  | [] => .error (.serialize (ascii "empty recording file".toList))
  | headerLine :: rest => do
    let headerLine <- readLine headerLine
    let header <- (json.header.fromSlice headerLine).mapError .json
    let events <- readEvents json rest
    .ok { header, events }

end RecordingReader

/-- What `serde_json` writes on a line: it reads it back, up to what `again` says, and no beginning of it. -/
structure SerdeJson.Lined {M : Type} (json : SerdeJson M E) (opening : Byte) (again : M -> M) : Prop where
  reads : ∀ msg text, json.toVec msg = .ok text -> json.fromSlice text = .ok (again msg)
  torn : ∀ msg text, json.toVec msg = .ok text -> ∀ n < text.length, ∃ error, json.fromSlice (text.take n) = .error error
  opens : ∀ msg text, json.toVec msg = .ok text -> text.head? = some opening
  valid : ∀ msg text, json.toVec msg = .ok text -> validUtf8 text = true
  plain : ∀ msg text, json.toVec msg = .ok text -> ∀ byte ∈ text, 0x20 ≤ byte.toNat

theorem bufLines_unlines {lines : List Bytes} (plain : ∀ line ∈ lines, ∀ byte ∈ line, 0x20 ≤ byte.toNat) {rest : Bytes}
    (last : ∀ byte ∈ rest, 0x20 ≤ byte.toNat) :
    bufLines (unlines 0x0A lines ++ rest) = lines ++ if rest = [] then [] else [rest] := by
  have free {line : Bytes} (plain : ∀ byte ∈ line, 0x20 ≤ byte.toNat) : (0x0A : Byte) ∉ line := fun member =>
    absurd (plain _ member) (by decide)
  have kept : lines.map stripCr = lines := by
    refine (List.map_congr_left fun line member => if_neg fun ends => ?_).trans (List.map_id _)
    exact absurd (plain line member _ (List.mem_of_getLast? ends)) (by decide)
  rw [bufLines, splitOn_unlines (fun line member => free (plain line member)) (free last)]
  simp only [List.getLast?_concat, List.dropLast_concat, Option.getD_some, kept]

section Reading

variable {json : RecorderJson T E} {again : T -> T}

def readAgain (again : T -> T) (tuple : T × Bytes × Bytes) : T × Bytes × Bytes := (again tuple.1, tuple.2)

def printed (json : RecorderJson T E) (call : T × RecordCall) : Option Bytes :=
  (json.event.toVec (call.1, call.2.eventType.code, call.2.data)).toOption

def eventsOf (json : RecorderJson T E) (again : T -> T) (calls : List (T × RecordCall)) : List (RecordingEvent T) :=
  calls.filterMap fun call => (printed json call).map fun _ =>
    { time := again call.1, eventType := call.2.eventType, data := call.2.data }

theorem eventsOf_none {call : T × RecordCall} (prints : printed json call = none) (calls : List (T × RecordCall)) :
    eventsOf json again (call :: calls) = eventsOf json again calls := List.filterMap_cons_none (congrArg _ prints)

theorem eventsOf_some {call : T × RecordCall} {text : Bytes} (prints : printed json call = some text)
    (calls : List (T × RecordCall)) : eventsOf json again (call :: calls) =
      { time := again call.1, eventType := call.2.eventType, data := call.2.data } :: eventsOf json again calls :=
  List.filterMap_cons_some (by simp only [prints, Option.map_some])

theorem printed_some {call : T × RecordCall} {text : Bytes} (prints : printed json call = some text) :
    json.event.toVec (call.1, call.2.eventType.code, call.2.data) = .ok text := by
  rw [printed] at prints
  cases written : json.event.toVec (call.1, call.2.eventType.code, call.2.data) with
  | error error => rw [written] at prints; cases prints
  | ok line =>
    rw [written] at prints
    cases prints
    rfl

theorem foldl_record (calls : List (T × RecordCall)) (recorder : SessionRecorder) :
    (calls.foldl (SessionRecorder.record json) recorder).written =
      recorder.written ++ unlines 0x0A (calls.filterMap (printed json)) := by
  induction calls generalizing recorder with
  | nil => exact (List.append_nil _).symm
  | cons call rest ih =>
    rw [List.foldl_cons, ih, SessionRecorder.record, SessionRecorder.writeEvent, List.filterMap_cons, printed]
    cases json.event.toVec (call.1, call.2.eventType.code, call.2.data) with
    | error error => rfl
    | ok text =>
      simp only [Except.toOption, unlines_cons]
      show recorder.written ++ text ++ [0x0A] ++ _ = _
      simp only [List.append_assoc, List.singleton_append]

theorem eventTypeOf_code (eventType : EventType) : RecordingReader.eventTypeOf (E := E) eventType.code = .ok eventType := by
  cases eventType <;> rfl

theorem isBlank_opening {line : Bytes} (opens : line.head? = some 0x5B) : isBlank line = false := by
  obtain ⟨rest, rfl⟩ := List.head?_eq_some_iff.mp opens
  rfl

theorem readEvents_texts (lined : json.event.Lined 0x5B (readAgain again)) (calls : List (T × RecordCall)) (rest : List Bytes) :
    RecordingReader.readEvents json (calls.filterMap (printed json) ++ rest) =
      (RecordingReader.readEvents json rest).map (eventsOf json again calls ++ ·) := by
  induction calls with
  | nil =>
    show RecordingReader.readEvents json rest = _
    cases RecordingReader.readEvents json rest <;> rfl
  | cons call calls ih =>
    cases prints : printed json call with
    | none => rw [List.filterMap_cons_none prints, ih, eventsOf_none prints]
    | some text =>
      have written := printed_some prints
      have whole : RecordingReader.readLine (E := E) text = .ok text := if_pos (lined.valid _ _ written)
      have some : isBlank text = false := isBlank_opening (lined.opens _ _ written)
      have parsed := lined.reads _ _ written
      rw [List.filterMap_cons_some prints, List.cons_append, RecordingReader.readEvents, whole]
      show (if isBlank text = true then _ else _) = _
      rw [some, if_neg Bool.false_ne_true, parsed]
      show RecordingReader.eventTypeOf call.2.eventType.code >>= _ = _
      rw [eventTypeOf_code, eventsOf_some prints]
      show RecordingReader.readEvents json (calls.filterMap (printed json) ++ rest) >>= _ = _
      rw [ih]
      cases RecordingReader.readEvents json rest <;> rfl

section Recorded

variable {width height : UInt16} {title : Option Bytes} {timestamp : UInt64} {recorder : SessionRecorder}

theorem new_written (made : SessionRecorder.new json width height title timestamp = .ok recorder) :
    ∃ text, json.header.toVec { version := 2, width, height, timestamp, title } = .ok text ∧
      recorder.written = unlines 0x0A [text] := by
  rw [SessionRecorder.new] at made
  cases written : json.header.toVec { version := 2, width, height, timestamp, title } with
  | error error => rw [written] at made; cases made
  | ok text =>
    rw [written] at made
    cases made
    exact ⟨text, rfl, by simp⟩

theorem printed_plain (events : json.event.Lined 0x5B (readAgain again)) (calls : List (T × RecordCall)) :
    ∀ line ∈ calls.filterMap (printed json), ∀ byte ∈ line, 0x20 ≤ byte.toNat := by
  intro line member
  obtain ⟨call, -, prints⟩ := List.mem_filterMap.mp member
  exact events.plain _ _ (printed_some prints)

theorem open_lines (headers : json.header.Lined 0x7B id) (events : json.event.Lined 0x5B (readAgain again))
    (made : SessionRecorder.new json width height title timestamp = .ok recorder) (calls : List (T × RecordCall)) {rest : Bytes}
    (plain : ∀ byte ∈ rest, 0x20 ≤ byte.toNat) :
    RecordingReader.open json (recorder.recorded json calls ++ rest) =
      (RecordingReader.readEvents json (if rest = [] then [] else [rest])).map fun later =>
        { header := { version := 2, width, height, timestamp, title }, events := eventsOf json again calls ++ later } := by
  obtain ⟨text, written, start⟩ := new_written made
  have whole : RecordingReader.readLine (E := E) text = .ok text := if_pos (headers.valid _ _ written)
  have lines : bufLines (recorder.recorded json calls ++ rest) =
      text :: (calls.filterMap (printed json) ++ if rest = [] then [] else [rest]) := by
    rw [SessionRecorder.recorded, foldl_record, start, ← unlines_append]
    exact bufLines_unlines (List.forall_mem_cons.mpr ⟨headers.plain _ _ written, printed_plain events calls⟩) plain
  rw [RecordingReader.open, lines]
  dsimp only
  rw [whole]
  show (json.header.fromSlice text).mapError RecordingError.json >>= _ = _
  rw [headers.reads _ _ written]
  show RecordingReader.readEvents json _ >>= _ = _
  rw [readEvents_texts events]
  cases RecordingReader.readEvents json (if rest = [] then [] else [rest]) <;> rfl

theorem readLine_cases (line : Bytes) :
    RecordingReader.readLine (E := E) line = .ok line ∨ RecordingReader.readLine (E := E) line = .error .io := by
  unfold RecordingReader.readLine
  split
  next => exact .inl rfl
  next => exact .inr rfl

theorem readEvents_torn (events : json.event.Lined 0x5B (readAgain again)) {tuple : T × Bytes × Bytes} {text : Bytes}
    (written : json.event.toVec tuple = .ok text) {m : Nat} (some : 0 < m) (short : m < text.length) :
    ∃ error, RecordingReader.readEvents json [text.take m] = .error error := by
  have opens : (text.take m).head? = Option.some 0x5B := by
    rw [List.head?_take, if_neg (Nat.pos_iff_ne_zero.mp some), events.opens _ _ written]
  obtain ⟨error, refused⟩ := events.torn _ _ written m short
  rw [RecordingReader.readEvents]
  rcases @readLine_cases E (text.take m) with whole | invalid
  next =>
    rw [whole]
    show ∃ error, (if isBlank (text.take m) = true then _ else _) = _
    rw [isBlank_opening opens, if_neg Bool.false_ne_true, refused]
    exact ⟨_, rfl⟩
  next =>
    rw [invalid]
    exact ⟨_, rfl⟩

theorem open_torn (headers : json.header.Lined 0x7B id) {header : RecordingHeader} {text : Bytes}
    (written : json.header.toVec header = .ok text) {m : Nat} (short : m < text.length) :
    ∃ error, RecordingReader.open json (text.take m) = .error error := by
  have plain : ∀ byte ∈ text.take m, 0x20 ≤ byte.toNat := fun byte member =>
    headers.plain _ _ written byte (List.mem_of_mem_take member)
  have lines := @bufLines_unlines [] nofun (text.take m) plain
  rw [unlines_nil, List.nil_append, List.nil_append] at lines
  rw [RecordingReader.open, lines]
  split_ifs with empty
  next => exact ⟨_, rfl⟩
  next =>
    obtain ⟨error, refused⟩ := headers.torn _ _ written m short
    rcases @readLine_cases E (text.take m) with whole | invalid
    next =>
      dsimp only
      rw [whole]
      show ∃ error, (json.header.fromSlice (text.take m)).mapError RecordingError.json >>= _ = _
      rw [refused]
      exact ⟨_, rfl⟩
    next =>
      dsimp only
      rw [invalid]
      exact ⟨_, rfl⟩

theorem bufLines_unended {lines : List Bytes} (plain : ∀ line ∈ lines, ∀ byte ∈ line, 0x20 ≤ byte.toNat)
    (none : ∀ line ∈ lines, line ≠ []) {file : Bytes} (ended : file ++ [0x0A] = unlines 0x0A lines) :
    bufLines file = bufLines (file ++ [0x0A]) := by
  rcases List.eq_nil_or_concat' lines with rfl | ⟨init, last, rfl⟩
  next => simp at ended
  next =>
    obtain ⟨before, here⟩ := List.forall_mem_append.mp plain
    have lastPlain := here last (List.mem_singleton.mpr rfl)
    have some := none last (List.mem_append_right _ (List.mem_singleton.mpr rfl))
    have whole := @bufLines_unlines (init ++ [last]) plain [] nofun
    rw [List.append_nil, if_pos rfl, List.append_nil] at whole
    rw [unlines_append, unlines_cons, unlines_nil, ← List.append_assoc] at ended
    rw [List.append_cancel_right ended, bufLines_unlines before lastPlain, if_neg some, ← whole, unlines_append, unlines_cons,
      unlines_nil, List.append_assoc]

section Cuts

variable (headers : json.header.Lined 0x7B id) (events : json.event.Lined 0x5B (readAgain again))
  (made : SessionRecorder.new json width height title timestamp = .ok recorder)

include headers events made

theorem open_recorded (first : List (T × RecordCall)) {file : Bytes}
    (is : file = recorder.recorded json first ∨ file ++ [0x0A] = recorder.recorded json first) :
    RecordingReader.open json file =
      .ok { header := { version := 2, width, height, timestamp, title }, events := eventsOf json again first } := by
  have whole := @open_lines _ _ json again width height title timestamp recorder headers events made first [] nofun
  rw [List.append_nil, if_pos rfl] at whole
  have shown : RecordingReader.open json (recorder.recorded json first) =
      .ok { header := { version := 2, width, height, timestamp, title }, events := eventsOf json again first } := by
    rw [whole]
    simp only [RecordingReader.readEvents, Except.map, List.append_nil]
  rcases is with rfl | ended
  next => exact shown
  next =>
    -- The last line is read without its end too.
    obtain ⟨text, written, start⟩ := new_written made
    have joins : file ++ [0x0A] = unlines 0x0A (text :: first.filterMap (printed json)) := by
      rw [ended, SessionRecorder.recorded, foldl_record, start, ← unlines_append]
      rfl
    have named (line : Bytes) (opening : Byte) (opens : line.head? = some opening) : line ≠ [] := by
      rintro rfl
      cases opens
    have nonempty : ∀ line ∈ text :: first.filterMap (printed json), line ≠ [] := by
      refine List.forall_mem_cons.mpr ⟨named _ _ (headers.opens _ _ written), fun line member => ?_⟩
      obtain ⟨call, -, prints⟩ := List.mem_filterMap.mp member
      exact named _ _ (events.opens _ _ (printed_some prints))
    have plain := List.forall_mem_cons.mpr ⟨headers.plain _ _ written, printed_plain events first⟩
    have lines := bufLines_unended plain nonempty joins
    rw [← shown, RecordingReader.open, RecordingReader.open, lines, ended]

/-- A recording that is cut somewhere opens if it is the recording of the first calls, with or without the last end of a line, and
gives their events; and only then. -/
theorem open_cut (calls : List (T × RecordCall)) (n : Nat)
    (reader : RecordingReader T) :
    RecordingReader.open json ((recorder.recorded json calls).take n) = .ok reader ↔
      ∃ first later, calls = first ++ later ∧
        ((recorder.recorded json calls).take n = recorder.recorded json first ∨
          (recorder.recorded json calls).take n ++ [0x0A] = recorder.recorded json first) ∧
        reader = { header := { version := 2, width, height, timestamp, title }, events := eventsOf json again first } := by
  refine ⟨fun opened => ?_, fun ⟨first, _, _, is, same⟩ => same ▸ open_recorded headers events made first is⟩
  suffices found : ∃ first later, calls = first ++ later ∧
      ((recorder.recorded json calls).take n = recorder.recorded json first ∨
        (recorder.recorded json calls).take n ++ [0x0A] = recorder.recorded json first) by
    obtain ⟨first, later, parts, is⟩ := found
    exact ⟨first, later, parts, is, Except.ok.inj (opened.symm.trans (open_recorded headers events made first is))⟩
  obtain ⟨text, written, start⟩ := new_written made
  have lines (calls : List (T × RecordCall)) :
      recorder.recorded json calls = unlines 0x0A (text :: calls.filterMap (printed json)) := by
    rw [SessionRecorder.recorded, foldl_record, start, ← unlines_append]
    rfl
  rcases @take_unlines _ 0x0A (text :: calls.filterMap (printed json)) n with whole | ⟨before, line, after, m, parts, bound, cut⟩
  next => exact ⟨calls, [], (List.append_nil _).symm, .inl (by rw [lines, whole])⟩
  next =>
    rw [← lines calls] at cut
    cases before with
    | nil =>
      -- The cut goes through the header.
      obtain ⟨rfl, rest⟩ := List.cons.inj parts
      rw [unlines_nil, List.nil_append] at cut
      rcases Nat.lt_or_eq_of_le bound with short | rfl
      next =>
        obtain ⟨error, failed⟩ := open_torn headers written short
        rw [cut, failed] at opened
        cases opened
      next =>
        refine ⟨[], calls, rfl, .inr ?_⟩
        rw [cut, List.take_length, lines]
        simp
    | cons head before =>
      obtain ⟨rfl, rest⟩ := List.cons.inj parts
      obtain ⟨first, others, rfl, front, back⟩ := List.filterMap_eq_append_iff.mp rest
      obtain ⟨silent, call, later, rfl, quiet, prints, tail⟩ := List.filterMap_eq_cons_iff.mp back
      rw [← front, ← lines first] at cut
      rcases Nat.eq_zero_or_pos m with rfl | some
      next => exact ⟨first, silent ++ call :: later, rfl, .inl (by rw [cut, List.take_zero, List.append_nil])⟩
      next =>
        rcases Nat.lt_or_eq_of_le bound with short | rfl
        next =>
          obtain ⟨error, failed⟩ := readEvents_torn events (printed_some prints) some short
          have plain : ∀ byte ∈ line.take m, 0x20 ≤ byte.toNat := fun byte member =>
            events.plain _ _ (printed_some prints) byte (List.mem_of_mem_take member)
          have nonempty : line.take m ≠ [] := by
            rw [ne_eq, List.take_eq_nil_iff, not_or]
            exact ⟨by omega, by rintro rfl; cases short⟩
          rw [cut, open_lines headers events made first plain, if_neg nonempty, failed] at opened
          cases opened
        next =>
          refine ⟨first ++ silent ++ [call], later, by simp, .inr ?_⟩
          rw [cut, List.take_length, lines, lines]
          simp [List.filterMap_append, List.filterMap_eq_nil_iff.mpr quiet, prints]

end Cuts

def spoken (json : RecorderJson T E) (calls : List (T × RecordCall)) : List Bytes :=
  calls.filterMap fun call =>
    match call.2, printed json call with
    | .output chunk, some _ => some chunk
    | _, _ => none

theorem outputs_eventsOf (calls : List (T × RecordCall)) :
    outputs (eventsOf json again calls) = (spoken json calls).map lossyUtf8 := by
  induction calls with
  | nil => rfl
  | cons call rest ih =>
    obtain ⟨elapsed, call⟩ := call
    cases prints : printed json (elapsed, call) with
    | none =>
      rw [eventsOf_none prints, ih, spoken, spoken, List.filterMap_cons_none]
      cases call <;> simp [prints]
    | some text =>
      rw [eventsOf_some prints]
      cases call with
      | output chunk =>
        have here : spoken json ((elapsed, .output chunk) :: rest) = chunk :: spoken json rest :=
          List.filterMap_cons_some (by simp [prints])
        rw [here, List.map_cons, ← ih]
        rfl
      | input | resize =>
        refine Eq.trans ih (congrArg _ (Eq.symm (List.filterMap_cons_none ?_)))
        rfl

theorem replay_iff (headers : json.header.Lined 0x7B id) (events : json.event.Lined 0x5B (readAgain again))
    (made : SessionRecorder.new json width height title timestamp = .ok recorder) (calls : List (T × RecordCall)) :
    ∃ reader, RecordingReader.open json (recorder.recorded json calls) = .ok reader ∧
      ((outputs reader.events).flatten = (spoken json calls).flatten ↔ ∀ chunk ∈ spoken json calls, validUtf8 chunk = true) ∧
      ((∀ chunk ∈ spoken json calls, validUtf8 chunk = true) ->
        ∀ t : Terminal, run Terminal.feed (outputs reader.events) t = run Terminal.feed (spoken json calls) t) := by
  refine ⟨_, open_recorded headers events made calls (.inl rfl), ?_, fun valid t => ?_⟩
  next =>
    dsimp only
    rw [outputs_eventsOf, flatten_map_eq_iff lossyUtf8_length]
    exact forall₂_congr fun chunk _ => lossyUtf8_eq_iff chunk
  next =>
    have same : (spoken json calls).map lossyUtf8 = spoken json calls :=
      (List.map_congr_left fun chunk member => (lossyUtf8_eq_iff chunk).mpr (valid chunk member)).trans (List.map_id _)
    dsimp only
    rw [outputs_eventsOf, same]

end Recorded

end Reading

def oneText {M : Type} [DecidableEq M] (msg : M) (text : Bytes) : SerdeJson M Unit where
  toVec other := if other = msg then .ok text else .error ()
  fromSlice other := if other = text then .ok msg else .error ()

theorem lined_oneText {M : Type} [DecidableEq M] (msg : M) {text : Bytes} {opening : Byte} (opens : text.head? = some opening)
    (valid : validUtf8 text = true) (plain : (text.all fun byte => 0x20 ≤ byte.toNat) = true) :
    (oneText msg text).Lined opening id := by
  have one {other : M} {written : Bytes} (prints : (oneText msg text).toVec other = .ok written) :
      other = msg ∧ written = text := by
    simp only [oneText] at prints
    split_ifs at prints with same
    exact ⟨same, (Except.ok.inj prints).symm⟩
  constructor
  case reads =>
    intro other written prints
    obtain ⟨rfl, rfl⟩ := one prints
    exact if_pos rfl
  case torn =>
    intro other written prints n short
    obtain ⟨rfl, rfl⟩ := one prints
    refine ⟨(), if_neg fun same => ?_⟩
    have length := congrArg List.length same
    rw [List.length_take] at length
    omega
  case opens => exact fun other written prints => (one prints).2 ▸ opens
  case valid => exact fun other written prints => (one prints).2 ▸ valid
  case plain =>
    intro other written prints byte member
    rw [(one prints).2] at member
    simpa using List.all_eq_true.mp plain byte member

def shortHeader : RecordingHeader := { version := 2, width := 80, height := 24, timestamp := 0, title := none }

def shortHeaderText : Bytes :=
  ascii "\x7b\"version\":2,\"width\":80,\"height\":24,\"timestamp\":0\x7d".toList

def shortJson : RecorderJson Bytes Unit where
  header := oneText shortHeader shortHeaderText
  event := oneText (ascii "0.5".toList, ascii ['o'], replacementCharacter)
    (ascii "[0.5,\"o\",\"".toList ++ replacementCharacter ++ ascii "\"]".toList)

def shortRecorder : SessionRecorder where
  written := shortHeaderText ++ [0x0A]

def shortCalls : List (Bytes × RecordCall) := [(ascii "0.5".toList, .output [0xC3])]

theorem open_cut_short :
    RecordingReader.open shortJson ((shortRecorder.recorded shortJson shortCalls).take shortHeaderText.length) =
        .ok { header := { version := 2, width := 80, height := 24, timestamp := 0, title := none }, events := [] } ↔
      ∃ first later, shortCalls = first ++ later ∧
        ((shortRecorder.recorded shortJson shortCalls).take shortHeaderText.length = shortRecorder.recorded shortJson first ∨
          (shortRecorder.recorded shortJson shortCalls).take shortHeaderText.length ++ [0x0A] =
            shortRecorder.recorded shortJson first) ∧
        (⟨{ version := 2, width := 80, height := 24, timestamp := 0, title := none }, []⟩ : RecordingReader Bytes) =
          ⟨{ version := 2, width := 80, height := 24, timestamp := 0, title := none }, eventsOf shortJson id first⟩ :=
  open_cut (lined_oneText _ rfl (by decide) (by decide)) (lined_oneText _ rfl (by decide) (by decide)) rfl shortCalls _ _

theorem replay_iff_short :
    ∃ reader, RecordingReader.open shortJson (shortRecorder.recorded shortJson shortCalls) = .ok reader ∧
      ((outputs reader.events).flatten = (spoken shortJson shortCalls).flatten ↔
        ∀ chunk ∈ spoken shortJson shortCalls, validUtf8 chunk = true) ∧
      ((∀ chunk ∈ spoken shortJson shortCalls, validUtf8 chunk = true) ->
        ∀ t : Terminal, run Terminal.feed (outputs reader.events) t = run Terminal.feed (spoken shortJson shortCalls) t) :=
  @replay_iff Bytes Unit shortJson id 80 24 none 0 shortRecorder (lined_oneText _ rfl (by decide) (by decide))
    (lined_oneText _ rfl (by decide) (by decide)) rfl shortCalls

end Emux
