import Emux.Vt.Streams
import Emux.Vt.Transitions

set_option autoImplicit false

/-!
# Whole sequences

What the parser makes of a control sequence after a cancel, and of an operating system command
with each of its terminators.
-/

namespace Emux

def Params.of (bytes : Bytes) : Params := bytes.foldl Params.push {}

namespace Parser

def isParamByte (byte : Byte) : Bool := within 0x30 0x3B byte

/-- `ESC [ params final`. -/
def csiBytes (params : Bytes) (final : Byte) : Bytes := 0x1B :: 0x5B :: (params ++ [final])

theorem isC0_false {byte : Byte} (high : 0x20 ≤ byte.toNat) : isC0 byte = false := by
  simp [isC0, within, ← UInt8.toNat_inj]
  omega

theorem anywhere_false {byte : Byte} (high : 0x20 ≤ byte.toNat) : ¬ (byte = 0x18 ∨ byte = 0x1A) ∧ byte ≠ 0x1B := by
  -- Outside a UTF-8 character a byte above the controls goes to the current state.
  simp only [← UInt8.toNat_inj, UInt8.reduceToNat, ne_eq]
  omega

theorem advanceByte_cancel {p : Parser} (outside : p.state ≠ .utf8) :
    p.advanceByte 0x18 = ({ p with state := .ground }, [.execute 0x18]) := by
  rw [advanceByte, if_neg outside, if_pos (.inl rfl)]

theorem advanceByte_escape {p : Parser} (outside : p.state ≠ .utf8) :
    p.advanceByte 0x1B = ({ p with state := .escape, intermediates := [] }, []) := by
  rw [advanceByte, if_neg outside, if_neg (by decide), if_pos rfl]

theorem advanceByte_param {p : Parser} {byte : Byte} (state : p.state = .csiEntry ∨ p.state = .csiParam)
    (param : isParamByte byte = true) :
    p.advanceByte byte = ({ p with params := p.params.push byte, state := .csiParam }, []) := by
  have range := within_iff.mp param
  obtain ⟨notCancel, notEscape⟩ := @anywhere_false byte (by omega)
  have control := @isC0_false byte (by omega)
  have inter : within 0x20 0x2F byte = false := by simp [within]; omega
  have here : within 0x30 0x3B byte = true := param
  rcases state with entry | param
  next => simp [advanceByte, entry, notCancel, notEscape, csiEntry, control, inter, here, pushParam, enter]
  next => simp [advanceByte, param, notCancel, notEscape, csiParam, control, inter, here, pushParam]

theorem advanceByte_final {p : Parser} {byte : Byte} (state : p.state = .csiEntry ∨ p.state = .csiParam)
    (final : isFinalByte byte = true) : p.advanceByte byte = p.dispatchCsi byte := by
  have range := within_iff.mp final
  obtain ⟨notCancel, notEscape⟩ := @anywhere_false byte (by omega)
  have control := @isC0_false byte (by omega)
  have inter : within 0x20 0x2F byte = false := by simp [within]; omega
  have params : within 0x30 0x3B byte = false := by simp [within]; omega
  have privates : within 0x3C 0x3F byte = false := by simp [within]; omega
  have here : within 0x40 0x7E byte = true := final
  rcases state with entry | param
  next => simp [advanceByte, entry, notCancel, notEscape, csiEntry, control, inter, params, privates, here]
  next => simp [advanceByte, param, notCancel, notEscape, csiParam, control, inter, params, privates, here]

theorem advanceBytes_params {p : Parser} (state : p.state = .csiEntry ∨ p.state = .csiParam) {params : Bytes}
    (areParams : ∀ byte ∈ params, isParamByte byte = true) :
    ∃ last : ParserState, (last = .csiEntry ∨ last = .csiParam) ∧
      p.advanceBytes params = ({ p with params := params.foldl Params.push p.params, state := last }, []) := by
  induction params generalizing p with
  | nil => exact ⟨p.state, state, rfl⟩
  | cons byte rest ih =>
    have first := advanceByte_param state (areParams byte List.mem_cons_self)
    obtain ⟨last, inside, tail⟩ := @ih { p with params := p.params.push byte, state := .csiParam } (.inr rfl)
      fun byte member => areParams byte (List.mem_cons_of_mem _ member)
    exact ⟨last, inside, by simp only [advanceBytes, first, tail, List.foldl_cons, List.nil_append]⟩

def Emits (p : Parser) (bytes : Bytes) (actions : List Action) : Prop :=
  (p.advance bytes).2 = actions ∧ (p.advance bytes).1.state = .ground

instance (p : Parser) (bytes : Bytes) (actions : List Action) : Decidable (p.Emits bytes actions) :=
  inferInstanceAs (Decidable (_ ∧ _))

theorem emits_csi {p : Parser} (outside : p.state ≠ .utf8) {params : Bytes} {final : Byte}
    (areParams : ∀ byte ∈ params, isParamByte byte = true) (isFinal : isFinalByte final = true) :
    p.Emits (csiBytes params final) [.csiDispatch (Params.of params) [] false final] := by
  have bracket : ({ p with state := .escape, intermediates := [] } : Parser).advanceByte 0x5B =
      ({ p with state := .csiEntry, params := {}, intermediates := [] }, []) := rfl
  obtain ⟨last, inside, collected⟩ :=
    @advanceBytes_params { p with state := .csiEntry, params := {}, intermediates := [] } (.inl rfl) _ areParams
  have dispatched := @advanceByte_final { p with params := Params.of params, intermediates := [], state := last } final
    inside isFinal
  rw [Emits, advance_eq_advanceBytes, csiBytes, advanceBytes, advanceByte_escape outside]
  simp only [advanceBytes, bracket, advanceBytes_append, collected, List.nil_append, List.append_nil]
  rw [show params.foldl Params.push {} = Params.of params from rfl, dispatched]
  exact ⟨rfl, rfl⟩

theorem Emits.append {p : Parser} {first second : Bytes} {actions more : List Action}
    (emitted : p.Emits first actions) (next : (p.advance first).1.Emits second more) :
    p.Emits (first ++ second) (actions ++ more) := by
  simp only [Emits, advance_eq_advanceBytes, advanceBytes_append] at emitted next ⊢
  exact ⟨by rw [emitted.1, next.1], next.2⟩

theorem advanceByte_utf8 {p : Parser} (inside : p.state = .utf8) (byte : Byte) :
    p.advanceByte byte = p.continueUtf8 byte := if_pos inside

theorem continueUtf8_no_execute {p : Parser} (byte control : Byte) : .execute control ∉ (p.continueUtf8 byte).2 := by
  simp only [continueUtf8]
  split
  next => cases firstChar (p.utf8Buf ++ [byte]) <;> simp
  next => simp

theorem advanceBytes_cons (p : Parser) (byte : Byte) (rest : Bytes) :
    (p.advanceBytes (byte :: rest)).2 = (p.advanceByte byte).2 ++ ((p.advanceByte byte).1.advanceBytes rest).2 := rfl

theorem advanceBytes_executes {p : Parser} {bytes : Bytes} {control : Byte}
    (member : .execute control ∈ (p.advanceBytes bytes).2) : control ∈ bytes := by
  induction bytes generalizing p with
  | nil => cases member
  | cons byte rest ih =>
    rcases List.mem_append.mp member with here | later
    next => exact List.mem_cons.mpr (.inl (execute_of_mem here))
    next => exact List.mem_cons_of_mem _ (ih later)

def Recovers (input params : Bytes) (final : Byte) : Prop :=
  ∃ parsed : Params, parsed.finished = (Params.of params).finished ∧
    Parser.new.Emits (input ++ 0x18 :: csiBytes params final)
      ((Parser.new.advance input).2 ++ [.execute 0x18, .csiDispatch parsed [] false final])

theorem recovers_iff (input : Bytes) {params : Bytes} {final : Byte}
    (areParams : ∀ byte ∈ params, isParamByte byte = true) (isFinal : isFinalByte final = true) :
    Recovers input params final ↔ (Parser.new.advance input).1.state ≠ .utf8 := by
  -- The cancel is executed unless a character is open that takes it as its next byte.
  constructor
  next =>
    rintro ⟨parsed, -, emitted, -⟩ inside
    simp only [advance_eq_advanceBytes, advanceBytes_append, List.append_cancel_left_eq] at emitted inside
    have member : .execute 0x18 ∈ ((Parser.new.advanceBytes input).1.advanceBytes (0x18 :: csiBytes params final)).2 := by
      rw [emitted]
      exact List.mem_cons_self
    rw [advanceBytes_cons] at member
    rcases List.mem_append.mp member with here | later
    next =>
      rw [advanceByte_utf8 inside] at here
      exact continueUtf8_no_execute _ _ here
    next =>
      have outside : (0x18 : Byte) ∉ csiBytes params final := by
        have notParam : (0x18 : Byte) ∉ params := fun present => absurd (areParams _ present) (by decide)
        have notFinal : (0x18 : Byte) ≠ final := by
          rintro rfl
          exact absurd isFinal (by decide)
        simp [csiBytes, notParam, notFinal]
      exact outside (advanceBytes_executes later)
  next =>
    intro outside
    refine ⟨Params.of params, rfl, ?_⟩
    have cancelled := advanceByte_cancel outside
    have sequence := @emits_csi { (Parser.new.advance input).1 with state := .ground } (by simp) _ _ areParams isFinal
    simp only [Emits, advance_eq_advanceBytes, advanceBytes_append, advanceBytes] at cancelled sequence ⊢
    rw [cancelled]
    exact ⟨by rw [sequence.1]; rfl, sequence.2⟩

theorem recovers_iff_truncated :
    Recovers [0x1B, 0x50, 0x71, 0xC3] [0x31, 0x3B, 0x34] 0x6D ↔
      (Parser.new.advance [0x1B, 0x50, 0x71, 0xC3]).1.state ≠ .utf8 :=
  recovers_iff _ (by simp [isParamByte, within]) (by decide)

/-- The first byte of a two-byte character takes the cancel as its second one. -/
theorem lead_takes_cancel : ¬ Recovers [0xC3] [] 0x6D := by
  rintro ⟨parsed, -, emitted, -⟩
  simp only [advance_eq_advanceBytes] at emitted
  have swallowed : (Parser.new.advanceBytes ([0xC3] ++ 0x18 :: csiBytes [] 0x6D)).2 = [.csiDispatch {} [] false 0x6D] := by
    decide
  rw [swallowed, show (Parser.new.advanceBytes [0xC3]).2 = [] by decide] at emitted
  simp at emitted

def oscBytes (payload : Bytes) : Bytes := 0x1B :: 0x5D :: payload

theorem advanceByte_osc {p : Parser} {byte : Byte} (state : p.state = .oscString) (high : 0x20 ≤ byte.toNat)
    (plain : byte ≠ 0x9C) (room : p.oscData.length < maxOscData) :
    p.advanceByte byte = ({ p with oscData := p.oscData ++ [byte] }, []) := by
  obtain ⟨notCancel, notEscape⟩ := anywhere_false high
  have notEnd : ¬ (byte = 0x07 ∨ byte = 0x9C) := by
    simp only [← UInt8.toNat_inj, UInt8.reduceToNat, ne_eq] at plain ⊢
    omega
  have control : (within 0x00 0x06 byte || within 0x08 0x1F byte) = false := by
    simp [within]
    omega
  simp [advanceByte, state, notCancel, notEscape, oscString, notEnd, control, room]

theorem advanceBytes_osc {p : Parser} (state : p.state = .oscString) {payload : Bytes}
    (high : ∀ byte ∈ payload, 0x20 ≤ byte.toNat) (plain : 0x9C ∉ payload)
    (fits : p.oscData.length + payload.length ≤ maxOscData) :
    p.advanceBytes payload = ({ p with oscData := p.oscData ++ payload }, []) := by
  induction payload generalizing p with
  | nil => simp [advanceBytes]
  | cons byte rest ih =>
    rw [List.length_cons] at fits
    obtain ⟨differs, others⟩ := List.ne_and_not_mem_of_not_mem_cons plain
    have first := advanceByte_osc state (high byte List.mem_cons_self) differs.symm (by omega)
    have tail := @ih { p with oscData := p.oscData ++ [byte] } state
      (fun byte member => high byte (List.mem_cons_of_mem _ member)) others (by simp; omega)
    simp [advanceBytes, first, tail]

theorem printable_high {byte : Byte} (printable : isPrintable byte = true) : 0x20 ≤ byte.toNat ∧ byte ≠ 0x9C := by
  have range := within_iff.mp printable
  simp only [← UInt8.toNat_inj, UInt8.reduceToNat, ne_eq]
  omega

theorem advanceBytes_oscBytes {p : Parser} (ground : p.state = .ground) {payload : Bytes}
    (high : ∀ byte ∈ payload, 0x20 ≤ byte.toNat) (plain : 0x9C ∉ payload) (fits : payload.length ≤ maxOscData) :
    p.advanceBytes (oscBytes payload) =
      ({ p with state := .oscString, intermediates := [], oscData := payload }, []) := by
  have outside : p.state ≠ .utf8 := by simp [ground]
  have opened : ({ p with state := .escape, intermediates := [] } : Parser).advanceByte 0x5D =
      ({ p with state := .oscString, intermediates := [], oscData := [] }, []) := rfl
  have collected := @advanceBytes_osc { p with state := .oscString, intermediates := [], oscData := [] } rfl payload
    high plain (by simpa using fits)
  simp only [oscBytes, advanceBytes, advanceByte_escape outside, opened, collected, List.nil_append]

/-- A command with each terminator: BEL and the 8-bit ST deliver it, the ESC of a 7-bit ST cancels it
and the backslash is dispatched by itself. -/
theorem emits_osc {p : Parser} (ground : p.state = .ground) {payload : Bytes}
    (printable : ∀ byte ∈ payload, isPrintable byte = true) (fits : payload.length ≤ maxOscData) :
    p.Emits (oscBytes payload ++ [0x07]) [.oscDispatch (payload.splitOn 0x3B)] ∧
      p.Emits (oscBytes payload ++ [0x9C]) [.oscDispatch (payload.splitOn 0x3B)] ∧
      p.Emits (oscBytes payload ++ [0x1B, 0x5C]) [.escDispatch [] false 0x5C] := by
  have collected := advanceBytes_oscBytes ground (fun byte member => (printable_high (printable byte member)).1)
    (fun member => (printable_high (printable _ member)).2 rfl) fits
  simp only [Emits, advance_eq_advanceBytes, advanceBytes_append, collected, List.nil_append]
  exact ⟨⟨rfl, rfl⟩, ⟨rfl, rfl⟩, ⟨rfl, rfl⟩⟩

theorem emits_osc_title :
    Parser.new.Emits (oscBytes [0x30, 0x3B, 0x61] ++ [0x07]) [.oscDispatch [[0x30], [0x61]]] ∧
      Parser.new.Emits (oscBytes [0x30, 0x3B, 0x61] ++ [0x9C]) [.oscDispatch [[0x30], [0x61]]] ∧
      Parser.new.Emits (oscBytes [0x30, 0x3B, 0x61] ++ [0x1B, 0x5C]) [.escDispatch [] false 0x5C] :=
  @emits_osc Parser.new rfl [0x30, 0x3B, 0x61] (by simp [isPrintable, within]) (by decide)

theorem escape_cancels_osc :
    ¬ Parser.new.Emits (oscBytes [0x30, 0x3B, 0x61] ++ [0x1B, 0x5C]) [.oscDispatch [[0x30], [0x61]]] := by
  simp only [Emits, advance_eq_advanceBytes]
  decide

theorem encodeText_high {text : List Char} (plain : ∀ c ∈ text, 0x20 ≤ c.toNat) :
    ∀ byte ∈ encodeText text, 0x20 ≤ byte.toNat := by
  intro byte member
  obtain ⟨c, inside, member⟩ := List.mem_flatMap.mp member
  have low := plain c inside
  have scalar : c.toNat < 0xD800 ∨ 0xDFFF < c.toNat ∧ c.toNat < 0x110000 := c.valid
  have value : c.val.toNat = c.toNat := rfl
  simp only [String.utf8EncodeChar, value] at member
  -- A byte of a longer character has its top bit set.
  split_ifs at member <;> simp only [List.mem_cons, List.not_mem_nil, or_false] at member
  next =>
    rw [member, toNat_byte (by omega)]
    exact low
  next => rcases member with rfl | rfl <;> rw [toNat_byte (by omega)] <;> omega
  next => rcases member with rfl | rfl | rfl <;> rw [toNat_byte (by omega)] <;> omega
  next => rcases member with rfl | rfl | rfl | rfl <;> rw [toNat_byte (by omega)] <;> omega

def DeliversOsc (p : Parser) (payload : Bytes) : Prop :=
  ∃ parts, (p.advance (oscBytes payload ++ [0x07])).2 = [.oscDispatch parts] ∧ [0x3B].intercalate parts = payload

theorem delivers_of_plain {p : Parser} (ground : p.state = .ground) {payload : Bytes}
    (high : ∀ byte ∈ payload, 0x20 ≤ byte.toNat) (plain : 0x9C ∉ payload) (fits : payload.length ≤ maxOscData) :
    p.DeliversOsc payload := by
  refine ⟨payload.splitOn 0x3B, ?_, List.intercalate_splitOn _⟩
  rw [advance_eq_advanceBytes, advanceBytes_append, advanceBytes_oscBytes ground high plain fits]
  rfl

theorem cut_at_terminator {p : Parser} (ground : p.state = .ground) {front back : Bytes}
    (high : ∀ byte ∈ front, 0x20 ≤ byte.toNat) (plain : 0x9C ∉ front) (fits : front.length ≤ maxOscData) :
    ∃ more, (p.advance (oscBytes (front ++ 0x9C :: back) ++ [0x07])).2 = .oscDispatch (front.splitOn 0x3B) :: more := by
  have split : oscBytes (front ++ 0x9C :: back) ++ [0x07] = oscBytes front ++ 0x9C :: (back ++ [0x07]) := by
    simp [oscBytes]
  rw [split, advance_eq_advanceBytes, advanceBytes_append, advanceBytes_oscBytes ground high plain fits]
  exact ⟨_, rfl⟩

theorem deliversOsc_iff {p : Parser} (ground : p.state = .ground) {text : List Char}
    (plain : ∀ c ∈ text, 0x20 ≤ c.toNat) (fits : (encodeText text).length ≤ maxOscData) :
    p.DeliversOsc (encodeText text) ↔ 0x9C ∉ encodeText text := by
  have high := encodeText_high plain
  constructor
  next =>
    rintro ⟨parts, emitted, joined⟩ present
    obtain ⟨front, back, whole, first⟩ := List.eq_append_cons_of_mem present
    rw [whole] at emitted joined high fits
    obtain ⟨more, cut⟩ := @cut_at_terminator p ground front back
      (fun byte member => high byte (List.mem_append_left _ member)) first (by simp at fits; omega)
    rw [cut] at emitted
    obtain rfl : front.splitOn 0x3B = parts := by simpa using (List.cons.inj emitted).1
    -- Only what stands in front of the terminator is in the command.
    rw [List.intercalate_splitOn] at joined
    simpa using congrArg List.length joined
  next => exact fun absent => delivers_of_plain ground high absent fits

theorem deliversOsc_iff_title :
    Parser.new.DeliversOsc (encodeText "0;é".toList) ↔ 0x9C ∉ encodeText "0;é".toList :=
  @deliversOsc_iff Parser.new rfl "0;é".toList (by simp) (by decide)

/-- The title `Ü` is `C3 9C`. -/
theorem title_cut_inside_character : ¬Parser.new.DeliversOsc (encodeText "0;Ü".toList) := by
  rintro ⟨parts, emitted, -⟩
  have actions : (Parser.new.advanceBytes (oscBytes (encodeText "0;Ü".toList) ++ [0x07])).2 =
      [.oscDispatch [[0x30], [0xC3]], .execute 0x07] := by decide
  rw [advance_eq_advanceBytes, actions] at emitted
  simp at emitted

end Parser

end Emux
