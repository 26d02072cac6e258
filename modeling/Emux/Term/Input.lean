import Emux.Term.Text
import Emux.Vt.Streams
import Emux.Library.Leftmost

set_option autoImplicit false

/-!
# Encoded input

Mouse events and pasted text as a pane's application receives them, and what it reads back.
-/

namespace Emux

open Checked

inductive MouseEncoding where
  | normal
  | sgr
  deriving DecidableEq, Repr

/-- A mouse event to encode, counted from column and row 0 of the pane. -/
inductive MouseEvent where
  | press (button : Byte) (col row : UInt16)
  | release (col row : UInt16)
  | drag (button : Byte) (col row : UInt16)
  | scrollUp (col row : UInt16)
  | scrollDown (col row : UInt16)
  deriving DecidableEq, Repr

def addByte (a : Byte) (b : Nat) : Fallible Byte := do
  .ok (← add 256 a.toNat b).toUInt8

def onePast (position : UInt16) : Fallible Bytes := do
  .ok (decimal (← add 65536 position.toNat 1))

def encodeMouseNormal (event : MouseEvent) : Fallible Bytes := do
  let (buttonByte, col, row) <- match event with
    | .press button col row => do .ok (← addByte button 32, col, row)
    | .release col row => .ok (3 + 32, col, row)
    | .drag button col row => do .ok (← addByte (← addByte button 32) 32, col, row)
    | .scrollUp col row => .ok (64 + 32, col, row)
    | .scrollDown col row => .ok (65 + 32, col, row)
  .ok [0x1B, 0x5B, 0x4D, buttonByte, ← addByte col.toUInt8 33, ← addByte row.toUInt8 33]

/-- `ESC [ < code ; col ; row final`. -/
def sgrReport (code col row : Bytes) (final : Byte) : Bytes :=
  [0x1B, 0x5B, 0x3C] ++ (code ++ 0x3B :: (col ++ 0x3B :: row)) ++ [final]

def encodeMouseSgr (event : MouseEvent) : Fallible Bytes := do
  match event with
  | .press button col row => .ok (sgrReport (decimal button.toNat) (← onePast col) (← onePast row) 0x4D)
  | .release col row => .ok (sgrReport (decimal 0) (← onePast col) (← onePast row) 0x6D)
  | .drag button col row =>
    .ok (sgrReport (decimal (← addByte button 32).toNat) (← onePast col) (← onePast row) 0x4D)
  | .scrollUp col row => .ok (sgrReport (decimal 64) (← onePast col) (← onePast row) 0x4D)
  | .scrollDown col row => .ok (sgrReport (decimal 65) (← onePast col) (← onePast row) 0x4D)

def encodeMouse (event : MouseEvent) (mode : MouseEncoding) : Fallible Bytes :=
  match mode with
  | .normal => encodeMouseNormal event
  | .sgr => encodeMouseSgr event

inductive ReportKind where
  | press (button : Nat)
  | release
  | drag (button : Nat)
  | scrollUp
  | scrollDown
  deriving DecidableEq, Repr

structure MouseReport where
  kind : ReportKind
  col : Nat
  row : Nat
  deriving DecidableEq, Repr

namespace MouseEvent

def kind : MouseEvent -> ReportKind
  | .press button _ _ => .press button.toNat
  | .release _ _ => .release
  | .drag button _ _ => .drag button.toNat
  | .scrollUp _ _ => .scrollUp
  | .scrollDown _ _ => .scrollDown

def position : MouseEvent -> UInt16 × UInt16
  | .press _ col row | .release col row | .drag _ col row | .scrollUp col row | .scrollDown col row => (col, row)

def report (event : MouseEvent) : MouseReport :=
  { kind := event.kind, col := event.position.1.toNat, row := event.position.2.toNat }

end MouseEvent

/-- The event a button code stands for: 32 marks motion, 64 and 65 are the wheel. -/
def reportKind (code : Nat) : Option ReportKind :=
  if code < 3 then some (.press code)
  else if code = 3 then some .release
  else if code < 32 then none
  else if code < 36 then some (.drag (code - 32))
  else if code = 64 then some .scrollUp
  else if code = 65 then some .scrollDown
  else none

/-- `ESC [ M` and three bytes, each offset by 32; positions count from 1. -/
def decodeNormal : Bytes -> Option MouseReport
  | [0x1B, 0x5B, 0x4D, code, col, row] =>
    if 32 ≤ code.toNat ∧ 33 ≤ col.toNat ∧ 33 ≤ row.toNat then
      (reportKind (code.toNat - 32)).map fun kind => ⟨kind, col.toNat - 33, row.toNat - 33⟩
    else none
  | _ => none

/-- `ESC [ <`, three decimal numbers and `M`, or `m` where a button is released. -/
def decodeSgr (bytes : Bytes) : Option MouseReport := do
  let rest <- stripPrefix [0x1B, 0x5B, 0x3C] bytes
  let final <- rest.getLast?
  let [code, col, row] := rest.dropLast.splitOn 0x3B | none
  let kind <- reportKind (← digitsValue 10 code)
  let kind <- if final = 0x4D then some kind else if final = 0x6D then some .release else none
  let col <- digitsValue 10 col
  let row <- digitsValue 10 row
  if 0 < col ∧ 0 < row then some ⟨kind, col - 1, row - 1⟩ else none

def decodeMouse : MouseEncoding -> Bytes -> Option MouseReport
  | .normal => decodeNormal
  | .sgr => decodeSgr

def MouseReport.Representable (report : MouseReport) : MouseEncoding -> Prop
  | .normal => report.col ≤ 222 ∧ report.row ≤ 222
  | .sgr => True

def MouseReport.clamp (report : MouseReport) : MouseReport :=
  { report with col := min report.col 222, row := min report.row 222 }

def MouseEvent.Unwrapped (event : MouseEvent) : MouseEncoding -> Prop
  | .normal => event.position.1.toUInt8.toNat = event.position.1.toNat ∧
      event.position.2.toUInt8.toNat = event.position.2.toNat
  | .sgr => True

/-- Nothing overflows or wraps, and the application reads the event back, or nothing or the
clamped event where there is no report for it. -/
def MouseEvent.Conveyed (event : MouseEvent) (mode : MouseEncoding) : Prop :=
  event.Unwrapped mode ∧ ∃ bytes, encodeMouse event mode = .ok bytes ∧
    (decodeMouse mode bytes = some event.report ∨
      ¬ event.report.Representable mode ∧ (bytes = [] ∨ decodeMouse mode bytes = some event.report.clamp))

def MouseEvent.KnownButton : MouseEvent -> Prop
  | .press button _ _ | .drag button _ _ => button.toNat ≤ 2
  | _ => True

def MouseEncoding.lastPosition : MouseEncoding -> Nat
  | .normal => 222
  | .sgr => 65534

theorem digitValue_digit {c : Char} (range : 48 ≤ c.toNat ∧ c.toNat ≤ 57) :
    digitValue 10 c.toNat.toUInt8 = some (c.toNat - 48) := by
  have byte : c.toNat.toUInt8.toNat = c.toNat := toNat_byte (by omega)
  have inside : within 0x30 0x39 c.toNat.toUInt8 = true := by
    simp only [within, byte, Bool.and_eq_true, decide_eq_true_eq]
    exact range
  simp only [digitValue, inside, if_true, byte]
  rw [if_pos (by omega)]

theorem foldlM_digits (cs : List Char) (digits : ∀ c ∈ cs, 48 ≤ c.toNat ∧ c.toNat ≤ 57) (value : Nat) :
    (ascii cs).foldlM (fun value digit => (digitValue 10 digit).map fun d => value * 10 + d) value =
      some (Nat.ofDigitChars 10 cs value) := by
  induction cs generalizing value with
  | nil => rfl
  | cons c rest ih =>
    have later := ih (fun d member => digits d (List.mem_cons_of_mem c member)) (value * 10 + (c.toNat - 48))
    rw [Nat.ofDigitChars_cons, ascii, List.map_cons, List.foldlM_cons, digitValue_digit (digits c List.mem_cons_self)]
    rw [Nat.mul_comm 10 value]
    exact later

theorem digitsValue_decimal (n : Nat) : digitsValue 10 (decimal n) = some n := by
  rw [digitsValue, decimal, foldlM_digits _ fun c => toDigits_range, Nat.ofDigitChars_ten_toDigits]

theorem notMem_decimal {byte : Byte} (other : ¬(48 ≤ byte.toNat ∧ byte.toNat ≤ 57)) (n : Nat) : byte ∉ decimal n := by
  intro member
  obtain ⟨c, isIn, same⟩ := List.mem_map.mp member
  have range := toDigits_range isIn
  have value : c.toNat.toUInt8.toNat = c.toNat := toNat_byte (by omega)
  rw [same] at value
  exact other (by omega)

namespace MouseEvent

/-- The button code of an event, which differs between the encodings only for a release. -/
def code (mode : MouseEncoding) : MouseEvent -> Nat
  | .press button _ _ => button.toNat
  | .release _ _ => if mode = .normal then 3 else 0
  | .drag button _ _ => button.toNat + 32
  | .scrollUp _ _ => 64
  | .scrollDown _ _ => 65

def final : MouseEvent -> Byte
  | .release _ _ => 0x6D
  | _ => 0x4D

end MouseEvent

theorem addByte_ok {a : Byte} {b : Nat} (fits : a.toNat + b < 256) : addByte a b = .ok (a.toNat + b).toUInt8 := by
  rw [addByte, add_ok fits]
  rfl

theorem encodeMouseNormal_eq {event : MouseEvent} (known : event.KnownButton) :
    encodeMouseNormal event = (do
      let col <- addByte event.position.1.toUInt8 33
      let row <- addByte event.position.2.toUInt8 33
      .ok [0x1B, 0x5B, 0x4D, (event.code .normal + 32).toUInt8, col, row]) := by
  cases event with
  | release col row | scrollUp col row | scrollDown col row => rfl
  | press button col row =>
    have small : button.toNat ≤ 2 := known
    rw [encodeMouseNormal, addByte_ok (by omega)]
    rfl
  | drag button col row =>
    have small : button.toNat ≤ 2 := known
    have first : (button.toNat + 32).toUInt8.toNat = button.toNat + 32 := toNat_byte (by omega)
    rw [encodeMouseNormal, addByte_ok (by omega), ok_bind, addByte_ok (by omega), first]
    rfl

theorem encodeMouseSgr_eq {event : MouseEvent} (known : event.KnownButton) :
    encodeMouseSgr event = (do
      let col <- onePast event.position.1
      let row <- onePast event.position.2
      .ok (sgrReport (decimal (event.code .sgr)) col row event.final)) := by
  cases event with
  | press button col row | release col row | scrollUp col row | scrollDown col row => rfl
  | drag button col row =>
    have small : button.toNat ≤ 2 := known
    have code : (button.toNat + 32).toUInt8.toNat = button.toNat + 32 := toNat_byte (by omega)
    rw [encodeMouseSgr, addByte_ok (by omega), ok_bind, code]
    rfl

theorem reportKind_press {code : Nat} (button : code < 3) : reportKind code = some (.press code) := by
  rw [reportKind, if_pos button]

theorem reportKind_drag {code : Nat} (button : code < 3) : reportKind (code + 32) = some (.drag code) := by
  rw [reportKind, if_neg (by omega), if_neg (by omega), if_neg (by omega), if_pos (by omega), Nat.add_sub_cancel]

theorem reportKind_normal {event : MouseEvent} (known : event.KnownButton) :
    reportKind (event.code .normal) = some event.report.kind := by
  cases event with
  | release col row | scrollUp col row | scrollDown col row => rfl
  | press button col row => exact reportKind_press (Nat.lt_succ_of_le known)
  | drag button col row => exact reportKind_drag (Nat.lt_succ_of_le known)

theorem code_small {event : MouseEvent} (known : event.KnownButton) : event.code .normal ≤ 65 := by
  cases event with
  | release col row | scrollUp col row | scrollDown col row => simp [MouseEvent.code]
  | press button col row | drag button col row =>
    have small : button.toNat ≤ 2 := known
    simp only [MouseEvent.code]
    omega

theorem decodeNormal_report {event : MouseEvent} (known : event.KnownButton)
    (col : event.report.col ≤ 222) (row : event.report.row ≤ 222) :
    decodeNormal [0x1B, 0x5B, 0x4D, (event.code .normal + 32).toUInt8, (event.report.col + 33).toUInt8,
      (event.report.row + 33).toUInt8] = some event.report := by
  have small := code_small known
  have codeByte : (event.code .normal + 32).toUInt8.toNat = event.code .normal + 32 := toNat_byte (by omega)
  have colByte : (event.report.col + 33).toUInt8.toNat = event.report.col + 33 := toNat_byte (by omega)
  have rowByte : (event.report.row + 33).toUInt8.toNat = event.report.row + 33 := toNat_byte (by omega)
  simp only [decodeNormal, codeByte, colByte, rowByte]
  rw [if_pos (by omega)]
  simp only [Nat.add_sub_cancel, reportKind_normal known, Option.map_some]

theorem decodeSgr_report {code col row : Nat} (final : Byte) :
    decodeSgr (sgrReport (decimal code) (decimal (col + 1)) (decimal (row + 1)) final) =
      ((reportKind code).bind fun kind =>
        if final = 0x4D then some kind else if final = 0x6D then some .release else none).map
          fun kind => ⟨kind, col, row⟩ := by
  have fields : (decimal code ++ 0x3B :: (decimal (col + 1) ++ 0x3B :: decimal (row + 1))).splitOn (0x3B : Byte) =
      [decimal code, decimal (col + 1), decimal (row + 1)] := by
    have separate : ∀ field ∈ [decimal code, decimal (col + 1), decimal (row + 1)], (0x3B : Byte) ∉ field := by
      simp only [List.mem_cons, List.not_mem_nil, or_false]
      rintro field (rfl | rfl | rfl)
      all_goals exact notMem_decimal (by decide) _
    simpa [List.intercalate, List.intersperse] using List.splitOn_intercalate 0x3B separate (by simp)
  have started : stripPrefix [0x1B, 0x5B, 0x3C] (sgrReport (decimal code) (decimal (col + 1)) (decimal (row + 1)) final) =
      some (decimal code ++ 0x3B :: (decimal (col + 1) ++ 0x3B :: decimal (row + 1)) ++ [final]) := by
    rw [stripPrefix, sgrReport, List.append_assoc, if_pos (List.prefix_append _ _), List.drop_left]
  simp only [decodeSgr, started, Option.bind_eq_bind, Option.bind_some, List.getLast?_concat, List.dropLast_concat,
    fields, digitsValue_decimal]
  cases reportKind code with
  | none => rfl
  | some kind => by_cases press : final = 0x4D <;> by_cases release : final = 0x6D <;> simp [press, release]

theorem addByte_ok_iff {a b : Byte} {n : Nat} : addByte a n = .ok b ↔ a.toNat + n < 256 ∧ (a.toNat + n).toUInt8 = b := by
  by_cases fits : a.toNat + n < 256
  next => simp [addByte_ok fits, fits]
  next => simp [addByte, add, fits]

theorem onePast_ok_iff {position : UInt16} {text : Bytes} :
    onePast position = .ok text ↔ position.toNat ≤ 65534 ∧ decimal (position.toNat + 1) = text := by
  by_cases fits : position.toNat ≤ 65534
  next => simp [onePast, add_ok (show position.toNat + 1 < 65536 by omega), fits]
  next => simp [onePast, add, fits, show ¬ position.toNat + 1 < 65536 by omega]

theorem encodeMouseNormal_fits {event : MouseEvent} {bytes : Bytes} (known : event.KnownButton)
    (unwrapped : event.Unwrapped .normal) (encoded : encodeMouseNormal event = .ok bytes) :
    event.position.1.toNat ≤ 222 ∧ event.position.2.toNat ≤ 222 := by
  rw [encodeMouseNormal_eq known, bind_ok_iff] at encoded
  obtain ⟨col, colOk, encoded⟩ := encoded
  rw [bind_ok_iff] at encoded
  obtain ⟨row, rowOk, -⟩ := encoded
  have colFits := (addByte_ok_iff.mp colOk).1
  have rowFits := (addByte_ok_iff.mp rowOk).1
  rw [unwrapped.1] at colFits
  rw [unwrapped.2] at rowFits
  omega

theorem encodeMouseSgr_fits {event : MouseEvent} {bytes : Bytes} (known : event.KnownButton)
    (encoded : encodeMouseSgr event = .ok bytes) :
    event.position.1.toNat ≤ 65534 ∧ event.position.2.toNat ≤ 65534 := by
  rw [encodeMouseSgr_eq known, bind_ok_iff] at encoded
  obtain ⟨col, colOk, encoded⟩ := encoded
  rw [bind_ok_iff] at encoded
  obtain ⟨row, rowOk, -⟩ := encoded
  exact ⟨(onePast_ok_iff.mp colOk).1, (onePast_ok_iff.mp rowOk).1⟩

theorem conveyed_normal {event : MouseEvent} (known : event.KnownButton)
    (col : event.position.1.toNat ≤ 222) (row : event.position.2.toNat ≤ 222) : event.Conveyed .normal := by
  have colCast : event.position.1.toUInt8.toNat = event.position.1.toNat := by
    rw [UInt16.toNat_toUInt8]
    omega
  have rowCast : event.position.2.toUInt8.toNat = event.position.2.toNat := by
    rw [UInt16.toNat_toUInt8]
    omega
  refine ⟨⟨colCast, rowCast⟩, [0x1B, 0x5B, 0x4D, (event.code .normal + 32).toUInt8, (event.report.col + 33).toUInt8,
    (event.report.row + 33).toUInt8], ?_, Or.inl (decodeNormal_report known col row)⟩
  rw [encodeMouse, encodeMouseNormal_eq known, addByte_ok (by omega), ok_bind, addByte_ok (by omega), ok_bind,
    colCast, rowCast]
  rfl

theorem conveyed_sgr {event : MouseEvent} (known : event.KnownButton)
    (col : event.position.1.toNat ≤ 65534) (row : event.position.2.toNat ≤ 65534) : event.Conveyed .sgr := by
  refine ⟨trivial, sgrReport (decimal (event.code .sgr)) (decimal (event.position.1.toNat + 1))
    (decimal (event.position.2.toNat + 1)) event.final, ?_, Or.inl ?_⟩
  next =>
    rw [encodeMouse, encodeMouseSgr_eq known, onePast_ok_iff.mpr ⟨col, rfl⟩, ok_bind,
      onePast_ok_iff.mpr ⟨row, rfl⟩, ok_bind]
  next =>
    rw [decodeMouse, decodeSgr_report]
    cases event with
    | release col row | scrollUp col row | scrollDown col row => rfl
    | press button col row => rw [MouseEvent.code, reportKind_press (Nat.lt_succ_of_le known)]; rfl
    | drag button col row => rw [MouseEvent.code, reportKind_drag (Nat.lt_succ_of_le known)]; rfl

theorem mouse_conveyed_iff (event : MouseEvent) (mode : MouseEncoding) (known : event.KnownButton) :
    event.Conveyed mode ↔
      event.position.1.toNat ≤ mode.lastPosition ∧ event.position.2.toNat ≤ mode.lastPosition := by
  cases mode with
  | normal => exact ⟨fun ⟨unwrapped, _, encoded, _⟩ => encodeMouseNormal_fits known unwrapped encoded,
      fun ⟨col, row⟩ => conveyed_normal known col row⟩
  | sgr => exact ⟨fun ⟨_, _, encoded, _⟩ => encodeMouseSgr_fits known encoded,
      fun ⟨col, row⟩ => conveyed_sgr known col row⟩

theorem mouse_conveyed_iff_drag : MouseEvent.Conveyed (.drag 2 222 80) .normal ∧
    ¬ MouseEvent.Conveyed (.drag 2 222 65535) .sgr := by
  constructor
  next => exact (mouse_conveyed_iff (.drag 2 222 80) .normal (Nat.le_refl 2)).mpr (by decide)
  next => exact fun conveyed => absurd ((mouse_conveyed_iff (.drag 2 222 65535) .sgr (Nat.le_refl 2)).mp conveyed) (by decide)

/-- A click in column 223 overflows, one in column 256 is reported in column 0. -/
theorem wide_click_lost :
    (¬ ∀ event : MouseEvent, ∀ mode, event.KnownButton -> event.Conveyed mode) ∧
      encodeMouse (.press 0 223 4) .normal = .error .arithmetic ∧
      (encodeMouse (.press 0 256 4) .normal).map decodeNormal = .ok (some ⟨.press 0, 0, 4⟩) ∧
      encodeMouse (.release 65535 4) .sgr = .error .arithmetic := by
  refine ⟨fun all => ?_, by decide, by decide, by decide⟩
  obtain ⟨-, bytes, encoded, -⟩ := all (.press 0 223 4) .normal (Nat.zero_le 2)
  have overflows : encodeMouse (.press 0 223 4) .normal = .error .arithmetic := by decide
  rw [overflows] at encoded
  cases encoded

def pasteStart : Bytes := [0x1B, 0x5B, 0x32, 0x30, 0x30, 0x7E]

def pasteEnd : Bytes := [0x1B, 0x5B, 0x32, 0x30, 0x31, 0x7E]

def encodePaste (text : Bytes) (bracketed : Bool) : Bytes :=
  if bracketed then pasteStart ++ text ++ pasteEnd else text

/-- The pasted text an application reads, up to the first end marker, and what is left for it to
read as typed. -/
def receivePaste (bytes : Bytes) : Option (Bytes × Bytes) := do
  let rest <- stripPrefix pasteStart bytes
  let stop <- Leftmost.find pasteEnd rest
  some (rest.take stop, rest.drop (stop + pasteEnd.length))

theorem receivePaste_encodePaste (text : Bytes) :
    receivePaste (encodePaste text true) = (Leftmost.find pasteEnd (text ++ pasteEnd)).map fun stop =>
      ((text ++ pasteEnd).take stop, (text ++ pasteEnd).drop (stop + pasteEnd.length)) := by
  have started : stripPrefix pasteStart (encodePaste text true) = some (text ++ pasteEnd) := by
    rw [encodePaste, if_pos rfl, stripPrefix, List.append_assoc, if_pos (List.prefix_append _ _), List.drop_left]
  simp only [receivePaste, started, Option.bind_eq_bind, Option.bind_some]
  cases Leftmost.find pasteEnd (text ++ pasteEnd) <;> rfl

theorem paste_received_iff (text : Bytes) :
    receivePaste (encodePaste text true) = some (text, []) ↔ ¬ pasteEnd <:+: text := by
  have once : (0x1B : Byte) ∉ [0x5B, 0x32, 0x30, 0x31, 0x7E] := by decide
  rw [receivePaste_encodePaste, ← show _ ↔ ¬ pasteEnd <:+: text from Leftmost.find_append_iff once]
  constructor
  next =>
    intro received
    obtain ⟨stop, found, parts⟩ := Option.map_eq_some_iff.mp received
    have inside := (Leftmost.find_eq_some_iff.mp found).2.1.length_le
    have lengths := congrArg List.length (Prod.mk.inj parts).1
    simp only [List.length_take, List.length_drop, List.length_append] at inside lengths
    have six : pasteEnd.length = 6 := rfl
    have stops : stop = text.length := by omega
    rw [← stops]
    exact found
  next =>
    intro found
    have behind : (text ++ pasteEnd).drop (text.length + pasteEnd.length) = [] :=
      List.drop_of_length_le (by rw [List.length_append])
    rw [show Leftmost.find pasteEnd (text ++ pasteEnd) = some text.length from found, Option.map_some, List.take_left,
      behind]

/-- `ls` and a newline behind an end marker are read as typed. -/
theorem paste_escapes :
    (¬ ∀ text, receivePaste (encodePaste text true) = some (text, [])) ∧
      receivePaste (encodePaste (pasteEnd ++ [0x6C, 0x73, 0x0A]) true) =
        some ([], [0x6C, 0x73, 0x0A] ++ pasteEnd) := by
  have escaped : receivePaste (encodePaste (pasteEnd ++ [0x6C, 0x73, 0x0A]) true) =
      some ([], [0x6C, 0x73, 0x0A] ++ pasteEnd) := by decide
  refine ⟨fun all => ?_, escaped⟩
  have whole := all (pasteEnd ++ [0x6C, 0x73, 0x0A])
  rw [escaped] at whole
  exact absurd whole (by decide)

end Emux
