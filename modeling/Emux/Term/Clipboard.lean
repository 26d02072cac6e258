import Emux.Term.Performer
import Emux.Vt.Sequences
import Emux.Vt.Streams

set_option autoImplicit false

/-!
# Base64 and the clipboard

The decoder undoes the encoder and accepts no more than it should. A clipboard set through OSC 52 reaches the screen
byte by byte, and leaves it again in the same form.
-/

namespace Emux

open Checked

/-- `CHARS` -/
def base64Alphabet : Bytes :=
  ascii ['A', 'B', 'C', 'D', 'E', 'F', 'G', 'H', 'I', 'J', 'K', 'L', 'M', 'N', 'O', 'P', 'Q', 'R', 'S', 'T', 'U', 'V',
    'W', 'X', 'Y', 'Z', 'a', 'b', 'c', 'd', 'e', 'f', 'g', 'h', 'i', 'j', 'k', 'l', 'm', 'n', 'o', 'p', 'q', 'r', 's',
    't', 'u', 'v', 'w', 'x', 'y', 'z', '0', '1', '2', '3', '4', '5', '6', '7', '8', '9', '+', '/']

theorem base64Value_char : ∀ value < 64, base64Value (base64Char value) = some value := by decide

theorem base64Alphabet_codes :
    base64Alphabet.map UInt8.toNat = List.range' 0x41 26 ++ List.range' 0x61 26 ++ List.range' 0x30 10 ++ [0x2B, 0x2F] := by
  decide

theorem base64Value_isSome (byte : Byte) : (base64Value byte).isSome = true ↔ byte ∈ base64Alphabet := by
  have codes : byte ∈ base64Alphabet ↔ byte.toNat ∈ base64Alphabet.map UInt8.toNat :=
    (List.mem_map_of_injective fun _ _ => UInt8.toNat_inj.mp).symm
  rw [codes, base64Alphabet_codes]
  simp only [List.mem_append, List.mem_range'_1, List.mem_cons, List.not_mem_nil, or_false]
  simp only [base64Value, within_iff, ← UInt8.toNat_inj, UInt8.reduceToNat]
  split_ifs <;> simp <;> omega

/-- `input.trim_end_matches('=')` -/
def trimPadding (input : Bytes) : Bytes := (input.reverse.dropWhile fun byte => byte == 0x3D).reverse

theorem base64Decode_eq (input : Bytes) : base64Decode input = base64DecodeGroups (trimPadding input) := rfl

/-- `DECODE[bytes[i] as usize]`, `none` for `0xFF`. -/
def base64At (bytes : Bytes) (i : Nat) : Fallible (Option Nat) := do
  let byte <- get bytes i
  .ok (base64Value byte)

def base64Tail (bytes : Bytes) (i : Nat) (out : Bytes) : Fallible (Option Bytes) := do
  let rem <- sub bytes.length i
  if rem = 2 then do
    let a <- base64At bytes i
    let b <- base64At bytes (i + 1)
    match a, b with
    | some a, some b => .ok (some (out ++ [(a * 4 + b / 16).toUInt8]))
    | _, _ => .ok none
  else if rem = 3 then do
    let a <- base64At bytes i
    let b <- base64At bytes (i + 1)
    let c <- base64At bytes (i + 2)
    match a, b, c with
    | some a, some b, some c => .ok (some (out ++ [(a * 4 + b / 16).toUInt8, (b * 16 + c / 4).toUInt8]))
    | _, _, _ => .ok none
  else if rem = 1 then .ok none
  else .ok (some out)

/-- The loop of `base64_decode` from position `i` on, with every access checked. -/
def base64Loop (bytes : Bytes) (i : Nat) (out : Bytes) : Fallible (Option Bytes) :=
  if i + 3 < bytes.length then do
    let a <- base64At bytes i
    let b <- base64At bytes (i + 1)
    let c <- base64At bytes (i + 2)
    let d <- base64At bytes (i + 3)
    match a, b, c, d with
    | some a, some b, some c, some d =>
      let triple := a * 262144 + b * 4096 + c * 64 + d
      base64Loop bytes (i + 4) (out ++ [(triple / 65536).toUInt8, (triple / 256).toUInt8, triple.toUInt8])
    | _, _, _, _ => .ok none
  else base64Tail bytes i out
termination_by bytes.length - i

def base64DecodeChecked (input : Bytes) : Fallible (Option Bytes) := base64Loop (trimPadding input) 0 []

theorem base64At_ok {before rest : Bytes} {k : Nat} {byte : Byte} (there : rest[k]? = some byte) {i : Nat}
    (position : i = before.length + k) : base64At (before ++ rest) i = .ok (base64Value byte) := by
  have found : (before ++ rest)[i]? = some byte := by
    rw [position, List.getElem?_append_right (Nat.le_add_right _ _), Nat.add_sub_cancel_left, there]
  rw [base64At, get_ok found, ok_bind]

theorem base64Tail_eq {before rest : Bytes} (short : rest.length < 4) (out : Bytes) :
    base64Tail (before ++ rest) before.length out = .ok ((base64DecodeGroups rest).map (out ++ ·)) := by
  -- The last group of at most three bytes.
  have rem : sub (before ++ rest).length before.length = .ok rest.length := by
    rw [List.length_append, sub_ok (Nat.le_add_right _ _), Nat.add_sub_cancel_left]
  rw [base64Tail, rem, ok_bind]
  match rest, short with
  | [], _ => simp [base64DecodeGroups]
  | [x], _ => simp [base64DecodeGroups]
  | [x, y], _ =>
    have one := @base64At_ok before [x, y] 0 x rfl _ rfl
    have two := @base64At_ok before [x, y] 1 y rfl _ rfl
    rw [Nat.add_zero] at one
    simp only [List.length_cons, List.length_nil, Nat.zero_add, if_true, one, two, ok_bind, base64DecodeGroups]
    cases base64Value x <;> cases base64Value y <;> rfl
  | [x, y, z], _ =>
    have one := @base64At_ok before [x, y, z] 0 x rfl _ rfl
    have two := @base64At_ok before [x, y, z] 1 y rfl _ rfl
    have three := @base64At_ok before [x, y, z] 2 z rfl _ rfl
    rw [Nat.add_zero] at one
    simp only [List.length_cons, List.length_nil, Nat.zero_add, Nat.reduceAdd, Nat.reduceEqDiff, if_false, if_true, one,
      two, three, ok_bind, base64DecodeGroups]
    cases base64Value x <;> cases base64Value y <;> cases base64Value z <;> rfl

theorem base64Loop_eq (rest before out : Bytes) :
    base64Loop (before ++ rest) before.length out = .ok ((base64DecodeGroups rest).map (out ++ ·)) := by
  -- Every access is inside the text, and what remains is decoded group by group.
  induction rest using base64DecodeGroups.induct generalizing before out with
  | case5 x y z w rest ih =>
    have one := @base64At_ok before (x :: y :: z :: w :: rest) 0 x rfl _ rfl
    have two := @base64At_ok before (x :: y :: z :: w :: rest) 1 y rfl _ rfl
    have three := @base64At_ok before (x :: y :: z :: w :: rest) 2 z rfl _ rfl
    have four := @base64At_ok before (x :: y :: z :: w :: rest) 3 w rfl _ rfl
    rw [Nat.add_zero] at one
    have more : before.length + 3 < (before ++ x :: y :: z :: w :: rest).length := by simp
    rw [base64Loop, if_pos more, one, two, three, four]
    simp only [ok_bind, base64DecodeGroups]
    cases base64Value x with
    | none => rfl
    | some a =>
      cases base64Value y with
      | none => rfl
      | some b =>
        cases base64Value z with
        | none => rfl
        | some c =>
          cases base64Value w with
          | none => rfl
          | some d =>
            have later := ih (before ++ [x, y, z, w])
            simp only [List.append_assoc, List.cons_append, List.nil_append, List.length_append, List.length_cons,
              List.length_nil] at later
            simp only [later]
            cases base64DecodeGroups rest with
            | none => rfl
            | some out => simp
  | _ =>
    rw [base64Loop, if_neg (by simp)]
    exact base64Tail_eq (by simp) out

theorem base64DecodeChecked_eq (input : Bytes) : base64DecodeChecked input = .ok (base64Decode input) := by
  have loop := base64Loop_eq (trimPadding input) [] []
  rw [List.nil_append] at loop
  rw [base64DecodeChecked, base64Decode_eq]
  simpa using loop

theorem base64DecodeGroups_isSome (text : Bytes) :
    (base64DecodeGroups text).isSome = true ↔ (∀ byte ∈ text, byte ∈ base64Alphabet) ∧ text.length % 4 ≠ 1 := by
  have char : ∀ byte, byte ∈ base64Alphabet ↔ ∃ value, base64Value byte = some value := fun byte => by
    rw [← base64Value_isSome, Option.isSome_iff_exists]
  induction text using base64DecodeGroups.induct with
  | case1 => simp [base64DecodeGroups]
  | case2 x => simp [base64DecodeGroups]
  | case3 x y =>
    simp only [List.forall_mem_cons, char, List.length_cons, List.length_nil]
    cases first : base64Value x <;> cases second : base64Value y <;> simp [base64DecodeGroups, first, second]
  | case4 x y z =>
    simp only [List.forall_mem_cons, char, List.length_cons, List.length_nil]
    cases first : base64Value x <;> cases second : base64Value y <;> cases third : base64Value z <;>
      simp [base64DecodeGroups, first, second, third]
  | case5 x y z w rest ih =>
    have length : (x :: y :: z :: w :: rest).length % 4 = rest.length % 4 := Nat.add_mod_right rest.length 4
    rw [length]
    have joined : (base64DecodeGroups (x :: y :: z :: w :: rest)).isSome = true ↔
        ((base64Value x).isSome = true ∧ (base64Value y).isSome = true ∧ (base64Value z).isSome = true ∧
          (base64Value w).isSome = true) ∧ (base64DecodeGroups rest).isSome = true := by
      cases first : base64Value x <;> cases second : base64Value y <;> cases third : base64Value z <;>
        cases fourth : base64Value w <;> cases later : base64DecodeGroups rest <;>
        simp [base64DecodeGroups, first, second, third, fourth, later]
    refine joined.trans ((and_congr_right fun _ => ih).trans ?_)
    simp only [List.forall_mem_cons, base64Value_isSome, and_assoc]

theorem base64DecodeGroups_length {text out : Bytes} (decoded : base64DecodeGroups text = some out) :
    out.length = 3 * text.length / 4 := by
  induction text using base64DecodeGroups.induct generalizing out with
  | case1 =>
    cases decoded
    rfl
  | case2 x => simp [base64DecodeGroups] at decoded
  | case3 x y =>
    simp only [base64DecodeGroups, Option.bind_eq_bind, Option.bind_eq_some_iff, Option.some.injEq] at decoded
    obtain ⟨a, -, b, -, rfl⟩ := decoded
    simp
  | case4 x y z =>
    simp only [base64DecodeGroups, Option.bind_eq_bind, Option.bind_eq_some_iff, Option.some.injEq] at decoded
    obtain ⟨a, -, b, -, c, -, rfl⟩ := decoded
    simp
  | case5 x y z w rest ih =>
    simp only [base64DecodeGroups, Option.bind_eq_bind, Option.bind_eq_some_iff, Option.some.injEq] at decoded
    obtain ⟨a, -, b, -, c, -, d, -, more, later, rfl⟩ := decoded
    have tail := ih later
    simp only [List.length_cons]
    omega

theorem trimPadding_append {front : Bytes} (plain : ∀ byte ∈ front, byte ≠ 0x3D) (rest : Bytes) :
    trimPadding (front ++ rest) = front ++ trimPadding rest := by
  have kept : front.reverse.dropWhile (fun byte => byte == 0x3D) = front.reverse := by
    cases back : front.reverse with
    | nil => rfl
    | cons byte others =>
      have member : byte ∈ front := by
        rw [← List.mem_reverse, back]
        exact List.mem_cons_self
      rw [List.dropWhile_cons_of_neg (by simpa using plain byte member)]
  rw [trimPadding, List.reverse_append, List.dropWhile_append, kept]
  split
  next padding =>
    rw [List.isEmpty_iff] at padding
    rw [List.reverse_reverse, trimPadding, padding, List.reverse_nil, List.append_nil]
  next => rw [List.reverse_append, List.reverse_reverse, trimPadding]

theorem base64Char_plain : ∀ value < 64, base64Char value ≠ 0x3D := by decide

theorem trimPadding_char {value : Nat} (small : value < 64) (rest : Bytes) :
    trimPadding (base64Char value :: rest) = base64Char value :: trimPadding rest :=
  @trimPadding_append [base64Char value] (List.forall_mem_singleton.mpr (base64Char_plain value small)) rest

theorem toUInt8_byte {n : Nat} {byte : Byte} (same : n % 256 = byte.toNat) : n.toUInt8 = byte := by
  rw [← UInt8.toNat_inj, ← same]
  exact UInt8.toNat_ofNat'

theorem base64Decode_encode (text : Bytes) : base64Decode (base64Encode text) = some text := by
  -- Decoding undoes encoding.
  rw [base64Decode_eq]
  induction text using base64Encode.induct with
  | case1 => rfl
  | case2 x =>
    have small := x.toNat_lt
    have first : x.toNat * 65536 / 262144 < 64 := by omega
    have second : x.toNat * 65536 / 4096 % 64 < 64 := by omega
    have padding : trimPadding [0x3D, 0x3D] = [] := rfl
    simp only [base64Encode, trimPadding_char first, trimPadding_char second, padding, base64DecodeGroups,
      base64Value_char _ first, base64Value_char _ second, Option.bind_eq_bind, Option.bind_some]
    congr 2
    exact toUInt8_byte (by omega)
  | case3 x y =>
    have smallX := x.toNat_lt
    have smallY := y.toNat_lt
    have first : (x.toNat * 65536 + y.toNat * 256) / 262144 < 64 := by omega
    have second : (x.toNat * 65536 + y.toNat * 256) / 4096 % 64 < 64 := by omega
    have third : (x.toNat * 65536 + y.toNat * 256) / 64 % 64 < 64 := by omega
    have padding : trimPadding [0x3D] = [] := rfl
    simp only [base64Encode, trimPadding_char first, trimPadding_char second, trimPadding_char third, padding,
      base64DecodeGroups, base64Value_char _ first, base64Value_char _ second, base64Value_char _ third,
      Option.bind_eq_bind, Option.bind_some]
    congr 2
    next => exact toUInt8_byte (by omega)
    next =>
      congr 1
      exact toUInt8_byte (by omega)
  | case4 x y z rest ih =>
    have smallX := x.toNat_lt
    have smallY := y.toNat_lt
    have smallZ := z.toNat_lt
    have first : (x.toNat * 65536 + y.toNat * 256 + z.toNat) / 262144 < 64 := by omega
    have second : (x.toNat * 65536 + y.toNat * 256 + z.toNat) / 4096 % 64 < 64 := by omega
    have third : (x.toNat * 65536 + y.toNat * 256 + z.toNat) / 64 % 64 < 64 := by omega
    have fourth : (x.toNat * 65536 + y.toNat * 256 + z.toNat) % 64 < 64 := by omega
    simp only [base64Encode, trimPadding_char first, trimPadding_char second, trimPadding_char third,
      trimPadding_char fourth, base64DecodeGroups, base64Value_char _ first, base64Value_char _ second,
      base64Value_char _ third, base64Value_char _ fourth, ih, Option.bind_eq_bind, Option.bind_some]
    congr 2
    next => exact toUInt8_byte (by omega)
    next =>
      congr 1
      next => exact toUInt8_byte (by omega)
      next =>
        congr 1
        exact toUInt8_byte (by omega)

/-- Encoding is undone by decoding, for every byte list; and of any text, exactly those without foreign characters
and of a possible length are decoded, to three bytes for every four characters. No access is out of bounds. -/
theorem base64_exact :
    (∀ text : Bytes, base64DecodeChecked (base64Encode text) = .ok (some text)) ∧
      ∀ input : Bytes, ∃ decoded : Option Bytes, base64DecodeChecked input = .ok decoded ∧
        (decoded.isSome = true ↔
          (∀ byte ∈ trimPadding input, byte ∈ base64Alphabet) ∧ (trimPadding input).length % 4 ≠ 1) ∧
        ∀ out, decoded = some out -> out.length = 3 * (trimPadding input).length / 4 := by
  refine ⟨fun text => by rw [base64DecodeChecked_eq, base64Decode_encode], fun input => ?_⟩
  refine ⟨base64Decode input, base64DecodeChecked_eq input, ?_, fun out decoded => ?_⟩
  next => exact base64DecodeGroups_isSome (trimPadding input)
  next => exact base64DecodeGroups_length decoded

theorem validUtf8From_append {ranges : List (Nat × Nat)} {first : Bytes} (second : Bytes)
    (valid : validUtf8From ranges first = true) : validUtf8From ranges (first ++ second) = validUtf8From [] second := by
  induction first generalizing ranges with
  | nil =>
    cases ranges with
    | nil => rfl
    | cons range more => cases valid
  | cons byte rest ih =>
    cases ranges with
    | nil =>
      simp only [List.cons_append, validUtf8From] at valid ⊢
      cases leads : continuationRanges byte with
      | none => simp [leads] at valid
      | some ranges =>
        simp only [leads] at valid ⊢
        exact ih valid
    | cons range more =>
      simp only [List.cons_append, validUtf8From, Bool.and_eq_true] at valid ⊢
      rw [valid.1, Bool.true_and]
      exact ih valid.2

theorem validUtf8_encodeText (text : List Char) : validUtf8 (Parser.encodeText text) = true := by
  induction text with
  | nil => rfl
  | cons c text ih =>
    have one : validUtf8 (String.utf8EncodeChar c) = true := by
      by_contra invalid
      have decoded := firstChar_encode c
      unfold firstChar at decoded
      rw [if_neg invalid] at decoded
      cases decoded
    rw [Parser.encodeText, List.flatMap_cons, validUtf8, validUtf8From_append _ one]
    exact ih

theorem validUtf8_ascii {bytes : Bytes} (low : ∀ byte ∈ bytes, byte.toNat ≤ 0x7F) : validUtf8 bytes = true := by
  unfold validUtf8
  induction bytes with
  | nil => rfl
  | cons byte rest ih =>
    obtain ⟨here, later⟩ := List.forall_mem_cons.mp low
    have single : continuationRanges byte = some [] := by simp [continuationRanges, within, here]
    simp only [validUtf8From, single]
    exact ih later

def isEncoded (byte : Byte) : Bool := base64Alphabet.contains byte || byte == 0x3D

theorem isEncoded_char : ∀ value < 64, isEncoded (base64Char value) = true := by decide

theorem base64Encode_encoded (text : Bytes) : ∀ byte ∈ base64Encode text, isEncoded byte = true := by
  have padding : isEncoded 0x3D = true := rfl
  induction text using base64Encode.induct with
  | case1 => nofun
  | case2 x =>
    have small := x.toNat_lt
    simp only [base64Encode, List.forall_mem_cons]
    exact ⟨isEncoded_char _ (by omega), isEncoded_char _ (by omega), padding, padding, nofun⟩
  | case3 x y =>
    have smallX := x.toNat_lt
    have smallY := y.toNat_lt
    simp only [base64Encode, List.forall_mem_cons]
    exact ⟨isEncoded_char _ (by omega), isEncoded_char _ (by omega), isEncoded_char _ (by omega), padding, nofun⟩
  | case4 x y z rest ih =>
    have smallX := x.toNat_lt
    have smallY := y.toNat_lt
    have smallZ := z.toNat_lt
    simp only [base64Encode, List.forall_mem_cons]
    exact ⟨isEncoded_char _ (by omega), isEncoded_char _ (by omega), isEncoded_char _ (by omega),
      isEncoded_char _ (by omega), ih⟩

theorem isEncoded_plain {byte : Byte} (encoded : isEncoded byte = true) :
    Parser.isPrintable byte = true ∧ byte ≠ 0x3B ∧ byte ≠ 0x3F := by
  have table : ((0x3D :: base64Alphabet).all fun byte =>
      Parser.isPrintable byte && byte != 0x3B && byte != 0x3F) = true := by decide
  rw [isEncoded, Bool.or_eq_true, List.contains_iff_mem, beq_iff_eq] at encoded
  have plain := List.all_eq_true.mp table byte (List.mem_cons.mpr encoded.symm)
  simpa only [Bool.and_eq_true, bne_iff_ne, and_assoc] using plain

def clipboardPayload (text : Bytes) : Bytes := ascii ['5', '2', ';', 'c', ';'] ++ base64Encode text

theorem clipboardPayload_length (text : Bytes) :
    (clipboardPayload text).length = 5 + (base64Encode text).length := List.length_append

theorem clipboardPayload_printable (text : Bytes) : ∀ byte ∈ clipboardPayload text, Parser.isPrintable byte = true := by
  refine List.forall_mem_append.mpr ⟨List.all_eq_true.mp rfl, fun byte member => ?_⟩
  exact (isEncoded_plain (base64Encode_encoded text byte member)).1

theorem clipboardPayload_fields (text : Bytes) :
    (clipboardPayload text).splitOn 0x3B = [ascii ['5', '2'], ascii ['c'], base64Encode text] := by
  have whole : clipboardPayload text = ascii ['5', '2'] ++ 0x3B :: (ascii ['c'] ++ 0x3B :: base64Encode text) := rfl
  have one : (0x3B : Byte) ∉ base64Encode text := fun member =>
    (isEncoded_plain (base64Encode_encoded text _ member)).2.1 rfl
  rw [whole, List.splitOn_append_cons_self_of_not_mem (by decide), List.splitOn_append_cons_self_of_not_mem (by decide),
    List.splitOn_eq_singleton one]

namespace Screen

theorem handleOsc_clipboard (s : Screen) {text : Bytes} (valid : validUtf8 text = true) :
    s.handleOsc ((clipboardPayload text).splitOn 0x3B) = .ok (s.setClipboard text) := by
  have encoded : textPart [ascii ['5', '2'], ascii ['c'], base64Encode text] 2 = base64Encode text := by
    refine if_pos (validUtf8_ascii fun byte member => ?_)
    have plain := within_iff.mp (isEncoded_plain (base64Encode_encoded text byte member)).1
    omega
  have notQuery : base64Encode text ≠ ascii ['?'] := fun same =>
    (isEncoded_plain (base64Encode_encoded text 0x3F (same ▸ List.mem_cons_self))).2.2 rfl
  have set : s.oscClipboard [ascii ['5', '2'], ascii ['c'], base64Encode text] = s.setClipboard text := by
    rw [oscClipboard, if_pos (by simp), encoded, if_neg notQuery, base64Decode_encode, Option.filter_some, if_pos valid]
  rw [clipboardPayload_fields, ← set]
  rfl

end Screen

namespace Terminal

theorem run_feed (chunks : List Bytes) (t : Terminal) :
    run feed chunks t = (run Screen.perform (t.parser.advanceChunks chunks).2 t.screen).map fun screen =>
      { parser := (t.parser.advanceChunks chunks).1, screen } := by
  -- The chunks of a stream, fed one after the other.
  induction chunks generalizing t with
  | nil => rfl
  | cons chunk rest ih =>
    rw [run_cons, feed, Parser.advanceChunks]
    dsimp only
    rw [run_append]
    cases run Screen.perform (t.parser.advance chunk).2 t.screen with
    | error panic => rfl
    | ok screen => exact ih _

theorem feed_clipboard {t : Terminal} (ground : t.parser.state = .ground) {text : List Char}
    (fits : 5 + (base64Encode (Parser.encodeText text)).length ≤ maxOscData) {chunks : List Bytes}
    (whole : chunks.flatten = Parser.oscBytes (clipboardPayload (Parser.encodeText text)) ++ [0x07]) :
    ∃ next, run feed chunks t = .ok next ∧ next.parser.state = .ground ∧
      next.screen = { t.screen with
        clipboard := some (Parser.encodeText text)
        pendingPassthrough := t.screen.pendingPassthrough ++ [osc52Clipboard (Parser.encodeText text)] } := by
  have emitted := (Parser.emits_osc ground (clipboardPayload_printable (Parser.encodeText text))
    (by rw [clipboardPayload_length]; exact fits)).1
  rw [Parser.Emits, ← whole, ← (Parser.advance_partition t.parser chunks).1] at emitted
  have handled : run Screen.perform (t.parser.advanceChunks chunks).2 t.screen =
      .ok (t.screen.setClipboard (Parser.encodeText text)) := by
    rw [emitted.1]
    have osc := t.screen.handleOsc_clipboard (validUtf8_encodeText text)
    simp only [run_cons, run_nil, Screen.perform, Screen.calls, Call.exec, Call.ops, Op.exec, osc, ok_bind]
  rw [run_feed, handled]
  exact ⟨_, rfl, emitted.2, rfl⟩

theorem feed_clipboard_chunks :
    ∃ next, run feed [[0x1B, 0x5D, 0x35], [0x32, 0x3B, 0x63, 0x3B, 0x61], [], [0x4D, 0x4F, 0x70, 0x07]]
        (Terminal.new 80 24) = .ok next ∧ next.parser.state = .ground ∧
      next.screen = { Screen.new 80 24 with
        clipboard := some (Parser.encodeText ['h', 'é'])
        pendingPassthrough := [] ++ [osc52Clipboard (Parser.encodeText ['h', 'é'])] } :=
  @feed_clipboard (Terminal.new 80 24) rfl ['h', 'é'] (by decide) _ (by decide)

theorem run_feed_flatten (chunks : List Bytes) (t : Terminal) : run feed chunks t = t.feed chunks.flatten := by
  rw [run_feed, feed, Parser.advanceChunks_flatten, Parser.advance_eq_advanceBytes]
  obtain ⟨parser, actions⟩ := t.parser.advanceBytes chunks.flatten
  dsimp only
  cases run Screen.perform actions t.screen <;> rfl

theorem feed_append (first later : Bytes) (t : Terminal) : t.feed (first ++ later) = t.feed first >>= feed later := by
  have both := run_feed_flatten [first, later] t
  rw [List.flatten_cons, List.flatten_singleton] at both
  rw [← both, run_cons]
  cases t.feed first with
  | error panic => rfl
  | ok middle =>
    rw [ok_bind, ok_bind, run_feed_flatten, List.flatten_singleton]

end Terminal

end Emux
