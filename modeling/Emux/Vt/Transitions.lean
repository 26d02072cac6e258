import Emux.Library.Run
import Emux.Vt.Streams

set_option autoImplicit false

/-!
# What one byte can do

Every step of the parser, sorted by what it has to do with the data of a device control string, and
from it how hooks, data and unhooks follow each other in a whole stream.
-/

namespace Emux

def Action.follows (byte : Byte) : Action -> Prop
  | .print _ | .csiDispatch .. | .escDispatch .. | .oscDispatch _ => True
  | .execute control => control = byte
  | _ => False

namespace Parser

def isFinalByte (byte : Byte) : Bool := within 0x40 0x7E byte

/-- CAN, SUB and ESC. -/
def isAbort (byte : Byte) : Bool := byte == 0x18 || byte == 0x1A || byte == 0x1B

inductive Transition (p : Parser) (byte : Byte) : Step -> Prop where
  | plain {next : Parser} {actions : List Action} (source : p.state ≠ .dcsPassthrough)
    (target : next.state ≠ .dcsPassthrough) (follows : ∀ action ∈ actions, action.follows byte) :
    Transition p byte (next, actions)
  | enter {next : Parser} (source : p.state = .dcsEntry) (final : isFinalByte byte = true)
    (target : next.state = .dcsPassthrough) : Transition p byte (next, [])
  | hook {next : Parser} {params : Params} {intermediates : List Byte} {ignore : Bool} {final : Byte}
    (source : p.state ≠ .dcsPassthrough) (target : next.state = .dcsPassthrough) :
    Transition p byte (next, [.dcsHook params intermediates ignore final])
  | put {next : Parser} (source : p.state = .dcsPassthrough) (target : next.state = .dcsPassthrough) :
    Transition p byte (next, [.dcsPut byte])
  | skip {next : Parser} (source : p.state = .dcsPassthrough) (target : next.state = .dcsPassthrough) :
    Transition p byte (next, [])
  | unhook {next : Parser} (source : p.state = .dcsPassthrough) (target : next.state ≠ .dcsPassthrough) :
    Transition p byte (next, [.dcsUnhook])
  | abort {next : Parser} {actions : List Action} (source : p.state = .dcsPassthrough) (aborts : isAbort byte = true)
    (target : next.state ≠ .dcsPassthrough) (follows : ∀ action ∈ actions, action.follows byte) :
    Transition p byte (next, actions)

namespace Transition

variable {p next : Parser} {byte : Byte}

theorem quiet (source : p.state ≠ .dcsPassthrough) (target : next.state ≠ .dcsPassthrough) :
    Transition p byte (next, []) := .plain source target (by simp)

theorem one {action : Action} (source : p.state ≠ .dcsPassthrough) (target : next.state ≠ .dcsPassthrough)
    (follows : action.follows byte) : Transition p byte (next, [action]) :=
  .plain source target (by simpa using follows)

end Transition

def apart : ParserState -> Bool
  | .dcsEntry | .dcsParam | .dcsIntermediate | .dcsPassthrough | .utf8 => false
  | _ => true

/-- The step of the current state, for a byte that no anywhere transition takes. -/
def stateStep (p : Parser) (byte : Byte) : Step :=
  match p.state with
  | .ground => p.ground byte
  | .escape => p.escape byte
  | .escapeIntermediate => p.escapeIntermediate byte
  | .csiEntry => p.csiEntry byte
  | .csiParam => p.csiParam byte
  | .csiIntermediate => p.csiIntermediate byte
  | .csiIgnore => p.csiIgnore byte
  | .oscString => p.oscString byte
  | .dcsEntry => p.dcsEntry byte
  | .dcsParam => p.dcsParam byte
  | .dcsIntermediate => p.dcsIntermediate byte
  | .dcsPassthrough => p.dcsPassthrough byte
  | .dcsIgnore => p.dcsIgnore byte
  | .sosPmApcString => p.sosPmApcString byte
  | .utf8 => (p, [])

variable {p : Parser} (byte : Byte)

theorem apart_transition (outside : apart p.state = true) : Transition p byte (p.stateStep byte) := by
  have source : p.state ≠ .dcsPassthrough := by
    intro state
    simp [state, apart] at outside
  unfold stateStep
  cases state : p.state
  all_goals simp only [state, apart, Bool.false_eq_true] at outside
  all_goals dsimp only
  all_goals first
    | unfold ground | unfold escape | unfold escapeIntermediate | unfold csiEntry | unfold csiParam
    | unfold csiIntermediate | unfold csiIgnore | unfold oscString | unfold dcsIgnore | unfold sosPmApcString
  -- `split` would simplify the rest of the chain at every branch.
  all_goals repeat' refine iteInduction (motive := Transition p byte) (fun _ => ?_) fun _ => ?_
  all_goals first
    | exact .one source source rfl
    | exact .one source source trivial
    | exact .one source nofun trivial
    | exact .quiet source source
    | exact .quiet source nofun

theorem dcsEntry_transition (state : p.state = .dcsEntry) : Transition p byte (p.dcsEntry byte) := by
  have source : p.state ≠ .dcsPassthrough := by simp [state]
  unfold dcsEntry
  split_ifs with inter param priv final
  next => exact .quiet source nofun
  next => exact .quiet source nofun
  next => exact .quiet source nofun
  next => exact .enter state final rfl
  next => exact .quiet source nofun

theorem dcsHeader_transition (state : p.state = .dcsParam ∨ p.state = .dcsIntermediate) :
    Transition p byte (p.stateStep byte) := by
  have source : p.state ≠ .dcsPassthrough := by rcases state with state | state <;> simp [state]
  unfold stateStep
  rcases state with state | state
  all_goals simp only [state]
  next =>
    unfold dcsParam
    split_ifs
    next => exact .quiet source source
    next => exact .quiet source nofun
    next => exact .hook source rfl
    next => exact .quiet source nofun
    next => exact .quiet source source
  next =>
    unfold dcsIntermediate
    split_ifs
    next => exact .quiet source source
    next => exact .hook source rfl
    next => exact .quiet source nofun
    next => exact .quiet source source

theorem dcsPassthrough_transition (state : p.state = .dcsPassthrough) : Transition p byte (p.dcsPassthrough byte) := by
  unfold dcsPassthrough
  split_ifs
  next => exact .unhook state nofun
  next => exact .put state state
  next => exact .skip state state

theorem continueUtf8_transition (state : p.state = .utf8) : Transition p byte (p.continueUtf8 byte) := by
  have source : p.state ≠ .dcsPassthrough := by simp [state]
  simp only [continueUtf8]
  split_ifs
  next => cases firstChar (p.utf8Buf ++ [byte]) with
    | none => exact .quiet source nofun
    | some c => exact .one source nofun trivial
  next => exact .quiet source source

theorem advanceByte_transition (p : Parser) (byte : Byte) : Transition p byte (p.advanceByte byte) := by
  unfold advanceByte
  -- An open character, the bytes that act in any state, and then the state at hand.
  split_ifs with inside cancel start
  next => exact continueUtf8_transition byte inside
  next =>
    by_cases source : p.state = .dcsPassthrough
    next => exact .abort source (by rcases cancel with rfl | rfl <;> rfl) nofun (by simp [Action.follows])
    next => exact .one source nofun rfl
  next =>
    by_cases source : p.state = .dcsPassthrough
    next => exact .abort source (by rw [start]; rfl) nofun (by simp)
    next => exact .quiet source nofun
  next =>
    change Transition p byte (p.stateStep byte)
    by_cases outside : apart p.state = true
    next => exact apart_transition byte outside
    next =>
      cases state : p.state
      all_goals simp only [state, apart, not_true_eq_false] at outside
      next =>
        rw [show p.stateStep byte = p.dcsEntry byte by rw [stateStep, state]]
        exact dcsEntry_transition byte state
      next => exact dcsHeader_transition byte (.inl state)
      next => exact dcsHeader_transition byte (.inr state)
      next =>
        rw [show p.stateStep byte = p.dcsPassthrough byte by rw [stateStep, state]]
        exact dcsPassthrough_transition byte state
      next => exact absurd state inside

theorem execute_of_mem {p : Parser} {byte control : Byte} (member : .execute control ∈ (p.advanceByte byte).2) :
    control = byte := by
  -- A control that is executed is the byte that came in.
  have transition := advanceByte_transition p byte
  generalize p.advanceByte byte = step at member transition
  cases transition with
  | plain source target follows => exact follows _ member
  | abort source aborts target follows => exact follows _ member
  | _ => simp at member

/-- Whether a device control string is hooked after an action, `none` when the action is out of place. -/
def bracket : Bool -> Action -> Option Bool
  | false, .dcsHook .. => some true
  | true, .dcsPut _ => some true
  | true, .dcsUnhook => some false
  | false, .print _ | false, .execute _ | false, .csiDispatch .. | false, .escDispatch ..
  | false, .oscDispatch _ => some false
  | hooked, .apcDispatch _ => some hooked
  | _, _ => none

def Bracketed (actions : List Action) : Prop := (actions.foldlM bracket false).isSome = true

instance (actions : List Action) : Decidable (Bracketed actions) := inferInstanceAs (Decidable (_ = true))

/-- No string begins with its final byte, and none is cut by CAN, SUB or ESC. -/
def keepsBrackets (byte : Byte) (p : Parser) : Bool :=
  !(p.state == .dcsEntry && isFinalByte byte) && !(p.state == .dcsPassthrough && isAbort byte)

theorem bracket_follows {byte : Byte} {actions : List Action} (follows : ∀ action ∈ actions, action.follows byte) :
    actions.foldlM bracket false = some false := by
  induction actions with
  | nil => rfl
  | cons action rest ih =>
    have head := follows action List.mem_cons_self
    have tail := ih fun action member => follows action (List.mem_cons_of_mem _ member)
    have one : bracket false action = some false := by
      cases action with
      | print | execute | csiDispatch | escDispatch | oscDispatch => rfl
      | dcsHook | dcsPut | dcsUnhook | apcDispatch => exact absurd head id
    rw [List.foldlM_cons, one]
    exact tail

theorem advanceByte_brackets {p : Parser} {byte : Byte} (keeps : keepsBrackets byte p = true) :
    (p.advanceByte byte).2.foldlM bracket (p.state == .dcsPassthrough) =
      some ((p.advanceByte byte).1.state == .dcsPassthrough) := by
  -- The parser passes data through exactly while a string is hooked.
  have transition := advanceByte_transition p byte
  generalize p.advanceByte byte = result at transition
  simp only [keepsBrackets, Bool.and_eq_true, Bool.not_eq_true', Bool.and_eq_false_iff] at keeps
  cases transition with
  | plain source target follows =>
    simp only [beq_eq_false_iff_ne.mpr source, beq_eq_false_iff_ne.mpr target, bracket_follows follows]
  | enter source final target => simp [source, final] at keeps
  | abort source aborts target follows => simp [source, aborts] at keeps
  | hook source target =>
    rw [beq_eq_false_iff_ne.mpr source, target]
    rfl
  | put source target =>
    rw [source, target]
    rfl
  | skip source target => simp [source, target]
  | unhook source target =>
    rw [source, beq_eq_false_iff_ne.mpr target]
    rfl

def step (byte : Byte) (p : Parser) : Checked.Fallible Parser := .ok (p.advanceByte byte).1

theorem advanceBytes_brackets {bytes : Bytes} {p : Parser}
    (every : Checked.Along step (fun byte p => keepsBrackets byte p = true) bytes p) :
    (p.advanceBytes bytes).2.foldlM bracket (p.state == .dcsPassthrough) =
      some ((p.advanceBytes bytes).1.state == .dcsPassthrough) := by
  induction bytes generalizing p with
  | nil => rfl
  | cons byte rest ih =>
    have first := advanceByte_brackets every.1
    have tail : Checked.Along step (fun byte p => keepsBrackets byte p = true) rest (p.advanceByte byte).1 := every.2
    rw [advanceBytes, List.foldlM_append, first]
    exact ih tail

theorem bracketed_of_keeps {bytes : Bytes}
    (every : Checked.Along step (fun byte p => keepsBrackets byte p = true) bytes Parser.new) :
    Bracketed (Parser.new.advance bytes).2 := by
  have ran := advanceBytes_brackets every
  rw [advance_eq_advanceBytes, Bracketed]
  exact Option.isSome_iff_exists.mpr ⟨_, ran⟩

theorem bracketed_of_keeps_sixel :
    Bracketed (Parser.new.advance [0x1B, 0x50, 0x31, 0x71, 0x41, 0x9C, 0x42]).2 :=
  bracketed_of_keeps (by decide)

/-- `ESC P q A` puts data without a hook, `ESC P 1 q CAN` leaves a hooked string without an unhook. -/
theorem not_bracketed :
    ¬ Bracketed (Parser.new.advance [0x1B, 0x50, 0x71, 0x41]).2 ∧
      ¬ Bracketed (Parser.new.advance [0x1B, 0x50, 0x31, 0x71, 0x18]).2 := by
  simp only [advance_eq_advanceBytes]
  decide

end Parser

end Emux
