import Emux.Vt.Params
import Mathlib.Data.List.TakeWhile

set_option autoImplicit false

/-!
# The escape sequence parser

The parser hands each action to the screen as soon as it has it and never looks at the screen,
so here it returns the actions of the bytes in order.
-/

namespace Emux

def maxOscData : Nat := 65536

inductive Action where
  | print (c : Char)
  | execute (byte : Byte)
  | csiDispatch (params : Params) (intermediates : List Byte) (ignore : Bool) (action : Byte)
  | escDispatch (intermediates : List Byte) (ignore : Bool) (byte : Byte)
  | oscDispatch (parts : List Bytes)
  | dcsHook (params : Params) (intermediates : List Byte) (ignore : Bool) (byte : Byte)
  | dcsPut (byte : Byte)
  | dcsUnhook
  | apcDispatch (data : Bytes)
  deriving DecidableEq, Repr

inductive ParserState where
  | ground
  | escape
  | escapeIntermediate
  | csiEntry
  | csiParam
  | csiIntermediate
  | csiIgnore
  | oscString
  | dcsEntry
  | dcsParam
  | dcsIntermediate
  | dcsPassthrough
  | dcsIgnore
  | sosPmApcString
  | utf8
  deriving DecidableEq, Repr

/-- `utf8Buf` holds the bytes of `utf8_buf` up to `utf8_idx`. -/
structure Parser where
  state : ParserState := .ground
  params : Params := {}
  intermediates : List Byte := []
  oscData : Bytes := []
  utf8Buf : Bytes := []
  utf8Len : Nat := 0
  deriving DecidableEq, Repr

namespace Parser

def new : Parser := {}

/-- What one byte does: the parser after it, and the actions it emits. -/
abbrev Step := Parser × List Action

/-- The C0 controls that are executed inside a sequence. -/
def isC0 (byte : Byte) : Bool := within 0x00 0x17 byte || byte == 0x19 || within 0x1C 0x1F byte

def enter (p : Parser) (state : ParserState) : Step := ({ p with state }, [])

def enterDcs (p : Parser) : Step := ({ p with state := .dcsEntry, params := {}, intermediates := [] }, [])

def enterCsi (p : Parser) : Step := ({ p with state := .csiEntry, params := {}, intermediates := [] }, [])

def enterOsc (p : Parser) : Step := ({ p with state := .oscString, oscData := [] }, [])

def startUtf8 (p : Parser) (byte : Byte) (len : Nat) : Step :=
  ({ p with state := .utf8, utf8Buf := [byte], utf8Len := len }, [])

def pushIntermediate (p : Parser) (byte : Byte) : Parser :=
  { p with intermediates := Emux.pushIntermediate p.intermediates byte }

def pushParam (p : Parser) (byte : Byte) : Parser := { p with params := p.params.push byte }

def dispatchCsi (p : Parser) (byte : Byte) : Step :=
  ({ p with state := .ground }, [.csiDispatch p.params p.intermediates false byte])

def dispatchEsc (p : Parser) (byte : Byte) : Step :=
  ({ p with state := .ground }, [.escDispatch p.intermediates false byte])

def hookDcs (p : Parser) (byte : Byte) : Step :=
  ({ p with state := .dcsPassthrough }, [.dcsHook p.params p.intermediates false byte])

def ground (p : Parser) (byte : Byte) : Step :=
  if within 0x00 0x1F byte then (p, [.execute byte])
  else if within 0x20 0x7E byte then (p, [.print (Char.ofNat byte.toNat)])
  else if within 0x80 0x8F byte || within 0x91 0x97 byte || byte == 0x99 || byte == 0x9A then
    (p, [.execute byte])
  else if byte = 0x90 then p.enterDcs
  else if byte = 0x98 ∨ byte = 0x9E ∨ byte = 0x9F then p.enter .sosPmApcString
  else if byte = 0x9B then p.enterCsi
  else if byte = 0x9D then p.enterOsc
  else if within 0xC0 0xDF byte then p.startUtf8 byte 2
  else if within 0xE0 0xEF byte then p.startUtf8 byte 3
  else if within 0xF0 0xF7 byte then p.startUtf8 byte 4
  else (p, [])

def escape (p : Parser) (byte : Byte) : Step :=
  if isC0 byte then (p, [.execute byte])
  else if within 0x20 0x2F byte then (p.pushIntermediate byte).enter .escapeIntermediate
  else if within 0x30 0x4F byte || within 0x51 0x57 byte || byte == 0x59 || byte == 0x5A ||
      byte == 0x5C || within 0x60 0x7E byte then p.dispatchEsc byte
  else if byte = 0x50 then p.enterDcs
  else if byte = 0x58 ∨ byte = 0x5E ∨ byte = 0x5F then p.enter .sosPmApcString
  else if byte = 0x5B then p.enterCsi
  else if byte = 0x5D then p.enterOsc
  else if byte = 0x7F then (p, [])
  else p.enter .ground

def escapeIntermediate (p : Parser) (byte : Byte) : Step :=
  if isC0 byte then (p, [.execute byte])
  else if within 0x20 0x2F byte then (p.pushIntermediate byte, [])
  else if within 0x30 0x7E byte then p.dispatchEsc byte
  else if byte = 0x7F then (p, [])
  else p.enter .ground

def csiEntry (p : Parser) (byte : Byte) : Step :=
  if isC0 byte then (p, [.execute byte])
  else if within 0x20 0x2F byte then (p.pushIntermediate byte).enter .csiIntermediate
  else if within 0x30 0x3B byte then (p.pushParam byte).enter .csiParam
  else if within 0x3C 0x3F byte then (p.pushIntermediate byte).enter .csiParam
  else if within 0x40 0x7E byte then p.dispatchCsi byte
  else if byte = 0x7F then (p, [])
  else p.enter .ground

def csiParam (p : Parser) (byte : Byte) : Step :=
  if isC0 byte then (p, [.execute byte])
  else if within 0x20 0x2F byte then (p.pushIntermediate byte).enter .csiIntermediate
  else if within 0x30 0x3B byte then (p.pushParam byte, [])
  else if within 0x3C 0x3F byte then p.enter .csiIgnore
  else if within 0x40 0x7E byte then p.dispatchCsi byte
  else if byte = 0x7F then (p, [])
  else p.enter .ground

def csiIntermediate (p : Parser) (byte : Byte) : Step :=
  if isC0 byte then (p, [.execute byte])
  else if within 0x20 0x2F byte then (p.pushIntermediate byte, [])
  else if within 0x30 0x3F byte then p.enter .csiIgnore
  else if within 0x40 0x7E byte then p.dispatchCsi byte
  else if byte = 0x7F then (p, [])
  else p.enter .ground

def csiIgnore (p : Parser) (byte : Byte) : Step :=
  if isC0 byte then (p, [.execute byte])
  else if within 0x40 0x7E byte then p.enter .ground
  else (p, [])

def oscString (p : Parser) (byte : Byte) : Step :=
  if byte = 0x07 ∨ byte = 0x9C then
    ({ p with state := .ground }, [.oscDispatch (p.oscData.splitOn 0x3B)])
  else if within 0x00 0x06 byte || within 0x08 0x1F byte then (p, [])
  else if p.oscData.length < maxOscData then ({ p with oscData := p.oscData ++ [byte] }, [])
  else (p, [])

def dcsEntry (p : Parser) (byte : Byte) : Step :=
  if within 0x20 0x2F byte then (p.pushIntermediate byte).enter .dcsIntermediate
  else if within 0x30 0x39 byte || byte == 0x3B then (p.pushParam byte).enter .dcsParam
  else if within 0x3C 0x3F byte then (p.pushIntermediate byte).enter .dcsParam
  else if within 0x40 0x7E byte then p.enter .dcsPassthrough
  else p.enter .dcsIgnore

def dcsParam (p : Parser) (byte : Byte) : Step :=
  if within 0x30 0x39 byte || byte == 0x3B then (p.pushParam byte, [])
  else if within 0x20 0x2F byte then (p.pushIntermediate byte).enter .dcsIntermediate
  else if within 0x40 0x7E byte then p.hookDcs byte
  else if byte = 0x3A ∨ within 0x3C 0x3F byte then p.enter .dcsIgnore
  else (p, [])

def dcsIntermediate (p : Parser) (byte : Byte) : Step :=
  if within 0x20 0x2F byte then (p.pushIntermediate byte, [])
  else if within 0x40 0x7E byte then p.hookDcs byte
  else if within 0x30 0x3F byte then p.enter .dcsIgnore
  else (p, [])

def dcsPassthrough (p : Parser) (byte : Byte) : Step :=
  if byte = 0x9C then ({ p with state := .ground }, [.dcsUnhook])
  else if isC0 byte || within 0x20 0x7E byte then (p, [.dcsPut byte])
  else (p, [])

def dcsIgnore (p : Parser) (byte : Byte) : Step := if byte = 0x9C then p.enter .ground else (p, [])

def sosPmApcString (p : Parser) (byte : Byte) : Step := if byte = 0x9C then p.enter .ground else (p, [])

/-- A continuation byte, whatever it is: the sequence is judged when it is complete. -/
def continueUtf8 (p : Parser) (byte : Byte) : Step :=
  let buf := p.utf8Buf ++ [byte]
  if buf.length = p.utf8Len then
    ({ p with utf8Buf := buf, state := .ground }, ((firstChar buf).map Action.print).toList)
  else ({ p with utf8Buf := buf }, [])

def advanceByte (p : Parser) (byte : Byte) : Step :=
  if p.state = .utf8 then p.continueUtf8 byte
  else if byte = 0x18 ∨ byte = 0x1A then ({ p with state := .ground }, [.execute byte])
  else if byte = 0x1B then ({ p with state := .escape, intermediates := [] }, [])
  else match p.state with
    | .ground => p.ground byte
    | .escape => p.escape byte
    | .escapeIntermediate => p.escapeIntermediate byte
    | .csiEntry => p.csiEntry byte
    | .csiParam => p.csiParam byte
    | .csiIntermediate => p.csiIntermediate byte
    | .csiIgnore => p.csiIgnore byte
    | .oscString => p.oscString byte
    | .dcsEntry => p.dcsEntry byte
    | .dcsParam => p.dcsParam byte
    | .dcsIntermediate => p.dcsIntermediate byte
    | .dcsPassthrough => p.dcsPassthrough byte
    | .dcsIgnore => p.dcsIgnore byte
    | .sosPmApcString => p.sosPmApcString byte
    | .utf8 => (p, [])

/-- The bytes one at a time, without the fast path. -/
def advanceBytes : Parser -> Bytes -> Step
  | p, [] => (p, [])
  | p, byte :: rest =>
    let (p, actions) := p.advanceByte byte
    let (p, more) := p.advanceBytes rest
    (p, actions ++ more)

def isPrintable (byte : Byte) : Bool := within 0x20 0x7E byte

/-- In the ground state a run of printable bytes is printed without the state machine. -/
def advance (p : Parser) (bytes : Bytes) : Step :=
  let run := if p.state = .ground then bytes.takeWhile isPrintable else []
  let printed := run.map fun byte => Action.print (Char.ofNat byte.toNat)
  match _remaining : bytes.drop run.length with
  | [] => (p, printed)
  | byte :: rest =>
    let (p, actions) := p.advanceByte byte
    let (p, more) := p.advance rest
    (p, printed ++ actions ++ more)
termination_by bytes.length
decreasing_by
  have shorter := congrArg List.length _remaining
  simp only [List.length_drop, List.length_cons] at shorter
  omega

theorem advanceByte_printable {p : Parser} {byte : Byte} (ground : p.state = .ground)
    (printable : isPrintable byte = true) :
    p.advanceByte byte = (p, [.print (Char.ofNat byte.toNat)]) := by
  -- In the ground state a printable byte is printed and nothing else changes.
  have range : 0x20 ≤ byte.toNat ∧ byte.toNat ≤ 0x7E := by simpa [isPrintable, within] using printable
  have notControl : ∀ n : UInt8, n.toNat < 0x20 -> byte ≠ n := by
    intro n small same
    rw [same] at range
    omega
  have can : byte ≠ 0x18 := notControl _ (by decide)
  have sub : byte ≠ 0x1A := notControl _ (by decide)
  have esc : byte ≠ 0x1B := notControl _ (by decide)
  have low : within 0x00 0x1F byte = false := by simp [within]; omega
  have high : within 0x20 0x7E byte = true := printable
  simp [advanceByte, ground, can, sub, esc, Parser.ground, low, high]

theorem advanceBytes_printed {p : Parser} (ground : p.state = .ground) (run rest : Bytes)
    (printable : ∀ byte ∈ run, isPrintable byte = true) :
    p.advanceBytes (run ++ rest) =
      ((p.advanceBytes rest).1,
        (run.map fun byte => Action.print (Char.ofNat byte.toNat)) ++ (p.advanceBytes rest).2) := by
  induction run with
  | nil => rfl
  | cons byte run ih =>
    have head := advanceByte_printable ground (printable byte List.mem_cons_self)
    have tail := ih fun byte member => printable byte (List.mem_cons_of_mem _ member)
    rw [List.cons_append, advanceBytes, head]
    simp [tail]

theorem advance_eq_advanceBytes (p : Parser) (bytes : Bytes) : p.advance bytes = p.advanceBytes bytes := by
  -- The fast path agrees with the state machine.
  induction length : bytes.length using Nat.strongRecOn generalizing p bytes with
  | ind count ih =>
    rw [advance]
    generalize runIs : (if p.state = .ground then bytes.takeWhile isPrintable else []) = run
    have whole : run ++ bytes.drop run.length = bytes := by
      rw [← runIs]
      split
      next => exact List.prefix_iff_eq_append.mp (List.takeWhile_prefix isPrintable)
      next => rfl
    have printed : p.advanceBytes bytes =
        ((p.advanceBytes (bytes.drop run.length)).1,
          (run.map fun byte => Action.print (Char.ofNat byte.toNat)) ++
            (p.advanceBytes (bytes.drop run.length)).2) := by
      by_cases ground : p.state = .ground
      next =>
        have printable : ∀ byte ∈ run, isPrintable byte = true := by
          intro byte member
          rw [← runIs, if_pos ground] at member
          exact List.mem_takeWhile_imp member
        conv => lhs; rw [← whole]
        exact advanceBytes_printed ground run _ printable
      next =>
        rw [if_neg ground] at runIs
        simp [← runIs]
    rw [printed]
    split
    next remaining => rw [remaining]; simp [advanceBytes]
    next byte rest remaining =>
      have shorter : rest.length < count := by
        have lengths := congrArg List.length remaining
        simp only [List.length_drop, List.length_cons] at lengths
        omega
      rcases step : p.advanceByte byte with ⟨next, actions⟩
      rw [remaining, advanceBytes]
      simp [step, ih rest.length shorter next rest rfl]

end Parser

end Emux
