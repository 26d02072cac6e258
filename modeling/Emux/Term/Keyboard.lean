import Emux.Term.Input

set_option autoImplicit false

/-!
# Encoded keys

The bytes that a key press is sent as, what an application reads from them, and which key presses it cannot tell apart.
-/

namespace Emux

namespace Keyboard

inductive Key where
  | char (c : Char)
  | enter
  | tab
  | backspace
  | escape
  | up
  | down
  | left
  | right
  | home
  | «end»
  | pageUp
  | pageDown
  | insert
  | delete
  | f (n : UInt8)
  deriving DecidableEq, Repr

structure Modifiers where
  shift : Bool := false
  alt : Bool := false
  ctrl : Bool := false
  deriving DecidableEq, Repr

namespace Modifiers

def none : Modifiers := {}

/-- `1 + shift + 2 * alt + 4 * ctrl` -/
def param (mods : Modifiers) : Nat :=
  let v := 1
  let v := if mods.shift then v + 1 else v
  let v := if mods.alt then v + 2 else v
  if mods.ctrl then v + 4 else v

def any (mods : Modifiers) : Bool := mods.shift || mods.alt || mods.ctrl

end Modifiers

/-! ## Encoding -/

/-- `ESC [ code ; param final` -/
def csiParam (code : Nat) (mods : Modifiers) (final : Byte) : Bytes :=
  [0x1B, 0x5B] ++ (decimal code ++ 0x3B :: decimal mods.param) ++ [final]

def controlCode (ch : Char) : Byte := (ch.toNat - 0x61 + 1).toUInt8

def encodeSpace (mods : Modifiers) : Bytes :=
  if !mods.any then [0x20]
  else if mods.ctrl && !mods.alt && !mods.shift then [0x00]
  else if mods.alt && !mods.ctrl && !mods.shift then [0x1B, 0x20]
  else if mods.ctrl && mods.alt && !mods.shift then [0x1B, 0x00]
  else csiParam 32 mods 0x75

def encodeChar (ch : Char) (mods : Modifiers) (disambiguate : Bool) : Bytes :=
  if ch = ' ' then encodeSpace mods
  else if mods.ctrl && !mods.alt && ch.isLower then
    if disambiguate && ch = 'i' then csiParam ch.toNat mods 0x75 else [controlCode ch]
  else if mods.ctrl && !mods.alt && ch.isUpper then csiParam ch.toNat mods 0x75
  else if mods.ctrl && mods.alt && ch.isLower then [0x1B, controlCode ch]
  else if mods.ctrl && mods.alt && ch.isUpper then csiParam ch.toNat mods 0x75
  else if mods.alt && !mods.ctrl && !mods.shift then 0x1B :: String.utf8EncodeChar ch
  else if mods.any && !mods.alt then
    if (mods.shift && !mods.ctrl) && ch.isAlpha then String.utf8EncodeChar ch else String.utf8EncodeChar ch
  else String.utf8EncodeChar ch

def encodeEnter (_mods : Modifiers) (newlineMode : Bool) : Bytes := if newlineMode then [0x0D, 0x0A] else [0x0D]

def encodeTab (mods : Modifiers) : Bytes :=
  if mods.shift && !mods.ctrl && !mods.alt then [0x1B, 0x5B, 0x5A]
  else if mods.alt && !mods.ctrl && !mods.shift then [0x1B, 0x09]
  else [0x09]

def encodeBackspace (mods : Modifiers) : Bytes :=
  if mods.ctrl && !mods.alt then [0x08]
  else if mods.alt && !mods.ctrl then [0x1B, 0x7F]
  else [0x7F]

def encodeEscape (_mods : Modifiers) : Bytes := [0x1B]

def encodeCursor (suffix : Byte) (mods : Modifiers) (appCursor : Bool) : Bytes :=
  if mods.any then csiParam 1 mods suffix
  else if appCursor then [0x1B, 0x4F, suffix]
  else [0x1B, 0x5B, suffix]

def encodeHomeEnd (suffix : Byte) (mods : Modifiers) (appCursor : Bool) : Bytes := encodeCursor suffix mods appCursor

def encodeTildeKey (code : Nat) (mods : Modifiers) : Bytes :=
  if mods.any then csiParam code mods 0x7E else [0x1B, 0x5B] ++ decimal code ++ [0x7E]

def encodeLowFunctionKey (suffix : Byte) (mods : Modifiers) : Bytes :=
  if mods.any then csiParam 1 mods suffix else [0x1B, 0x4F, suffix]

def encodeFunctionKey (n : UInt8) (mods : Modifiers) : Bytes :=
  match n.toNat with
  | 1 => encodeLowFunctionKey 0x50 mods
  | 2 => encodeLowFunctionKey 0x51 mods
  | 3 => encodeLowFunctionKey 0x52 mods
  | 4 => encodeLowFunctionKey 0x53 mods
  | 5 => encodeTildeKey 15 mods
  | 6 => encodeTildeKey 17 mods
  | 7 => encodeTildeKey 18 mods
  | 8 => encodeTildeKey 19 mods
  | 9 => encodeTildeKey 20 mods
  | 10 => encodeTildeKey 21 mods
  | 11 => encodeTildeKey 23 mods
  | 12 => encodeTildeKey 24 mods
  | _ => []

def encodeKey (key : Key) (mods : Modifiers) (appCursor _appKeypad newlineMode disambiguate : Bool) : Bytes :=
  match key with
  | .char ch => encodeChar ch mods disambiguate
  | .enter => encodeEnter mods newlineMode
  | .tab => encodeTab mods
  | .backspace => encodeBackspace mods
  | .escape => encodeEscape mods
  | .up => encodeCursor 0x41 mods appCursor
  | .down => encodeCursor 0x42 mods appCursor
  | .left => encodeCursor 0x44 mods appCursor
  | .right => encodeCursor 0x43 mods appCursor
  | .home => encodeHomeEnd 0x48 mods appCursor
  | .end => encodeHomeEnd 0x46 mods appCursor
  | .pageUp => encodeTildeKey 5 mods
  | .pageDown => encodeTildeKey 6 mods
  | .insert => encodeTildeKey 2 mods
  | .delete => encodeTildeKey 3 mods
  | .f n => encodeFunctionKey n mods

/-! ## Decoding -/

abbrev KeyPress := Key × Modifiers

def suffixKey (suffix : Byte) : Option Key :=
  match suffix.toNat with
  | 0x41 => some .up
  | 0x42 => some .down
  | 0x43 => some .right
  | 0x44 => some .left
  | 0x46 => some .end
  | 0x48 => some .home
  | 0x50 => some (.f 1)
  | 0x51 => some (.f 2)
  | 0x52 => some (.f 3)
  | 0x53 => some (.f 4)
  | _ => none

def tildeKey (code : Nat) : Option Key :=
  match code with
  | 2 => some .insert
  | 3 => some .delete
  | 5 => some .pageUp
  | 6 => some .pageDown
  | 15 => some (.f 5)
  | 17 => some (.f 6)
  | 18 => some (.f 7)
  | 19 => some (.f 8)
  | 20 => some (.f 9)
  | 21 => some (.f 10)
  | 23 => some (.f 11)
  | 24 => some (.f 12)
  | _ => none

def modifiersOf (param : Nat) : Option Modifiers :=
  if 1 ≤ param ∧ param ≤ 8 then
    some { shift := (param - 1).testBit 0, alt := (param - 1).testBit 1, ctrl := (param - 1).testBit 2 }
  else none

/-- What follows `ESC [`. -/
def decodeCsi (fields : List Bytes) (final : Byte) : Option KeyPress :=
  match fields with
  | [[]] => if final = 0x5A then some (.tab, { shift := true }) else (suffixKey final).map fun key => (key, .none)
  | [code] => do
    let code <- digitsValue 10 code
    if final = 0x7E then (tildeKey code).map fun key => (key, .none) else none
  | [code, param] => do
    let code <- digitsValue 10 code
    let mods <- modifiersOf (← digitsValue 10 param)
    if final = 0x75 then some (.char (Char.ofNat code), mods)
    else if final = 0x7E then (tildeKey code).map fun key => (key, mods)
    else if code = 1 then (suffixKey final).map fun key => (key, mods)
    else none
  | _ => none

/-- What an application reads from the bytes of one key press. -/
def decodeKey (bytes : Bytes) : Option KeyPress :=
  match bytes with
  | [0x0D, 0x0A] => some (.enter, .none)
  | 0x1B :: rest =>
    match rest with
    | [] => some (.char '\x1b', .none)
    | [0x4F, suffix] => (suffixKey suffix).map fun key => (key, .none)
    | 0x5B :: second :: more =>
      decodeCsi ((second :: more).dropLast.splitOn 0x3B) ((second :: more).getLast (List.cons_ne_nil second more))
    | _ => (firstChar rest).map fun c => (.char c, { alt := true })
  | _ => (firstChar bytes).map fun c => (.char c, .none)

/-! ## What is conveyed -/

def controlChar (ch : Char) : Char := Char.ofNat (ch.toNat - 0x61 + 1)

def conveyedChar (ch : Char) (mods : Modifiers) (disambiguate : Bool) : KeyPress :=
  let alt : Modifiers := { alt := mods.alt }
  if ch = ' ' then
    if mods.any && mods.shift then (.char ' ', mods) else (.char (if mods.ctrl then '\x00' else ' '), alt)
  else if mods.ctrl && ch.isLower then
    if disambiguate && ch = 'i' && !mods.alt then (.char 'i', mods) else (.char (controlChar ch), alt)
  else if mods.ctrl && ch.isUpper then (.char ch, mods)
  else if mods.ctrl || mods.shift then (.char ch, .none)
  else (.char ch, alt)

/-- The key press that an application takes a key press for, if anything is sent. The keys above the letters have their
control characters, and lose the modifiers. -/
def conveyed (newlineMode disambiguate : Bool) : KeyPress -> Option KeyPress
  | (.char ch, mods) => some (conveyedChar ch mods disambiguate)
  | (.enter, _) => some (if newlineMode then .enter else .char '\x0d', .none)
  | (.tab, mods) =>
    some (if mods = { shift := true } then (.tab, mods) else (.char '\x09', if mods = { alt := true } then mods else .none))
  | (.backspace, mods) =>
    some (.char (if mods.ctrl && !mods.alt then '\x08' else '\x7f'), { alt := mods.alt && !mods.ctrl })
  | (.escape, _) => some (.char '\x1b', .none)
  | (.f n, mods) => if 1 ≤ n.toNat ∧ n.toNat ≤ 12 then some (.f n, mods) else none
  | press => some press

/-! ## Reading back -/

theorem modifiersOf_param (mods : Modifiers) : modifiersOf mods.param = some mods := by
  obtain ⟨shift, alt, ctrl⟩ := mods
  revert shift alt ctrl
  decide

theorem encode_first (c : Char) : (c.toNat < 0x80 ∧ String.utf8EncodeChar c = [UInt8.ofNat c.toNat]) ∨
    ∃ lead second rest, String.utf8EncodeChar c = lead :: second :: rest ∧ 0xC0 ≤ lead.toNat := by
  by_cases low : c.toNat < 0x80
  next => exact .inl ⟨low, encode_ascii low⟩
  next =>
    obtain ⟨lead, rest, bytes, leads⟩ := encode_lead (Nat.not_lt.mp low)
    cases rest with
    | nil => simp [leadsChar] at leads
    | cons second rest =>
      refine .inr ⟨lead, second, rest, bytes, ?_⟩
      simp only [leadsChar, within_iff, Bool.or_eq_true, Bool.and_eq_true] at leads
      omega

theorem decodeKey_char (c : Char) : decodeKey (String.utf8EncodeChar c) = some (.char c, .none) := by
  have read := firstChar_encode c
  rcases encode_first c with ⟨low, one⟩ | ⟨lead, second, rest, bytes, high⟩
  next =>
    rw [one] at read ⊢
    by_cases escape : UInt8.ofNat c.toNat = 0x1B
    next =>
      have same : c.toNat = 0x1B := by
        have value := congrArg UInt8.toNat escape
        rwa [toNat_byte (by omega)] at value
      obtain rfl : c = '\x1b' := Char.toNat_inj.mp same
      rfl
    next =>
      unfold decodeKey
      split
      next => simp_all
      next => simp_all
      next => rw [read]; rfl
  next =>
    rw [bytes] at read ⊢
    unfold decodeKey
    split
    next => simp_all
    next => simp_all
    next => rw [read]; rfl

theorem decodeKey_alt (c : Char) : decodeKey (0x1B :: String.utf8EncodeChar c) = some (.char c, { alt := true }) := by
  have read := firstChar_encode c
  have text : decodeKey (0x1B :: String.utf8EncodeChar c) =
      (firstChar (String.utf8EncodeChar c)).map fun c => (.char c, { alt := true }) := by
    rcases encode_first c with ⟨-, one⟩ | ⟨lead, second, rest, bytes, high⟩
    next =>
      rw [one]
      unfold decodeKey
      simp only
      split <;> simp_all
    next =>
      rw [bytes]
      unfold decodeKey
      simp only
      split <;> simp_all
  rw [text, read]
  rfl

theorem decodeKey_csi {body : Bytes} (some : body ≠ []) (final : Byte) :
    decodeKey ([0x1B, 0x5B] ++ body ++ [final]) = decodeCsi (body.splitOn 0x3B) final := by
  obtain ⟨first, rest, rfl⟩ := List.exists_cons_of_ne_nil some
  have whole : first :: (rest ++ [final]) = (first :: rest) ++ [final] := rfl
  simp only [decodeKey, List.cons_append, List.nil_append]
  simp only [whole, List.dropLast_concat, List.getLast_concat]

theorem decimal_ne_nil (code : Nat) : decimal code ≠ [] := by simp [decimal, ascii]

theorem decodeKey_param (code : Nat) (mods : Modifiers) (final : Byte) :
    decodeKey (csiParam code mods final) =
      if final = 0x75 then some (.char (Char.ofNat code), mods)
      else if final = 0x7E then (tildeKey code).map fun key => (key, mods)
      else if code = 1 then (suffixKey final).map fun key => (key, mods)
      else none := by
  have separate : ∀ field ∈ [decimal code, decimal mods.param], (0x3B : Byte) ∉ field := by
    simp only [List.mem_cons, List.not_mem_nil, or_false]
    rintro field (rfl | rfl)
    all_goals exact notMem_decimal (by decide) _
  have fields : (decimal code ++ 0x3B :: decimal mods.param).splitOn (0x3B : Byte) = [decimal code, decimal mods.param] := by
    simpa [List.intercalate, List.intersperse] using List.splitOn_intercalate 0x3B separate (by simp)
  rw [csiParam, decodeKey_csi (by simp), fields]
  unfold decodeCsi
  simp only [digitsValue_decimal, modifiersOf_param, Option.bind_eq_bind, Option.bind_some]

theorem decodeKey_tilde (code : Nat) (mods : Modifiers) :
    decodeKey (encodeTildeKey code mods) = (tildeKey code).map fun key => (key, mods) := by
  unfold encodeTildeKey
  by_cases any : mods.any = true
  next =>
    rw [if_pos any, decodeKey_param]
    rfl
  next =>
    have none : mods = .none := by
      obtain ⟨shift, alt, ctrl⟩ := mods
      cases shift <;> cases alt <;> cases ctrl <;> first | rfl | exact absurd rfl any
    have one : (decimal code).splitOn (0x3B : Byte) = [decimal code] :=
      List.splitOn_eq_singleton (notMem_decimal (by decide) code)
    rw [if_neg any, decodeKey_csi (decimal_ne_nil code), one, none]
    obtain ⟨first, rest, digits⟩ := List.exists_cons_of_ne_nil (decimal_ne_nil code)
    have value := digitsValue_decimal code
    rw [digits] at value ⊢
    unfold decodeCsi
    simp only [value, Option.bind_eq_bind, Option.bind_some, if_true]

theorem any_eq_false {mods : Modifiers} (bare : ¬ mods.any = true) : mods = .none := by
  obtain ⟨shift, alt, ctrl⟩ := mods
  revert shift alt ctrl
  decide

theorem suffixKey_final {suffix : Byte} {key : Key} (known : suffixKey suffix = some key) :
    suffix ≠ 0x75 ∧ suffix ≠ 0x7E ∧ suffix ≠ 0x5A := by
  refine ⟨?_, ?_, ?_⟩ <;> rintro rfl <;> cases known

theorem decodeKey_modified {suffix : Byte} {key : Key} (known : suffixKey suffix = some key) (mods : Modifiers) :
    decodeKey (csiParam 1 mods suffix) = some (key, mods) := by
  obtain ⟨text, tilde, -⟩ := suffixKey_final known
  rw [decodeKey_param, if_neg text, if_neg tilde, if_pos rfl, known]
  rfl

theorem decodeKey_ss3 {suffix : Byte} {key : Key} (known : suffixKey suffix = some key) :
    decodeKey [0x1B, 0x4F, suffix] = some (key, .none) := by
  show (suffixKey suffix).map (fun key => (key, Modifiers.none)) = _
  rw [known]
  rfl

theorem decodeKey_cursor {suffix : Byte} {key : Key} (known : suffixKey suffix = some key) (mods : Modifiers)
    (appCursor : Bool) : decodeKey (encodeCursor suffix mods appCursor) = some (key, mods) := by
  unfold encodeCursor
  by_cases any : mods.any = true
  next => rw [if_pos any, decodeKey_modified known]
  next =>
    obtain rfl := any_eq_false any
    rw [if_neg any]
    cases appCursor with
    | true => exact decodeKey_ss3 known
    | false =>
      have read : decodeKey [0x1B, 0x5B, suffix] = decodeCsi [[]] suffix := rfl
      simp only [Bool.false_eq_true, if_false, read, decodeCsi]
      rw [if_neg (suffixKey_final known).2.2, known]
      rfl

theorem decodeKey_low {suffix : Byte} {key : Key} (known : suffixKey suffix = some key) (mods : Modifiers) :
    decodeKey (encodeLowFunctionKey suffix mods) = some (key, mods) := by
  unfold encodeLowFunctionKey
  by_cases any : mods.any = true
  next => rw [if_pos any, decodeKey_modified known]
  next =>
    obtain rfl := any_eq_false any
    rw [if_neg any, decodeKey_ss3 known]

theorem encodeFunctionKey_outside {n : UInt8} (outside : ¬ (1 ≤ n.toNat ∧ n.toNat ≤ 12)) (mods : Modifiers) :
    encodeFunctionKey n mods = [] := by
  have ends : n.toNat = 0 ∨ 13 ≤ n.toNat := by omega
  unfold encodeFunctionKey
  rcases ends with zero | large
  next => rw [zero]; rfl
  next =>
    obtain ⟨more, is⟩ := Nat.exists_eq_add_of_le' large
    rw [is]
    rfl

theorem decodeKey_function (n : UInt8) (mods : Modifiers) : decodeKey (encodeFunctionKey n mods) =
    if 1 ≤ n.toNat ∧ n.toNat ≤ 12 then some (.f n, mods) else none := by
  have number {value : Nat} (is : n.toNat = value) (small : value < 256) : n = UInt8.ofNat value :=
    UInt8.toNat_inj.mp (by rw [is, toNat_byte small])
  by_cases inside : 1 ≤ n.toNat ∧ n.toNat ≤ 12
  next =>
    have low : n.toNat = 1 ∨ n.toNat = 2 ∨ n.toNat = 3 ∨ n.toNat = 4 ∨ 5 ≤ n.toNat := by omega
    rw [if_pos inside]
    rcases low with is | is | is | is | high
    any_goals obtain rfl := number is (by decide); exact decodeKey_low rfl mods
    have high : n.toNat = 5 ∨ n.toNat = 6 ∨ n.toNat = 7 ∨ n.toNat = 8 ∨ n.toNat = 9 ∨ n.toNat = 10 ∨ n.toNat = 11 ∨
        n.toNat = 12 := by omega
    rcases high with is | is | is | is | is | is | is | is
    all_goals obtain rfl := number is (by decide); exact decodeKey_tilde _ mods
  next =>
    rw [if_neg inside, encodeFunctionKey_outside inside]
    rfl

theorem isLower_range {ch : Char} (lower : ch.isLower = true) : 0x61 ≤ ch.toNat ∧ ch.toNat ≤ 0x7A := by
  have letters : (decide ('a'.val ≤ ch.val) && decide (ch.val ≤ 'z'.val)) = true := lower
  simpa [UInt32.le_iff_toNat_le] using letters

theorem isUpper_range {ch : Char} (upper : ch.isUpper = true) : 0x41 ≤ ch.toNat ∧ ch.toNat ≤ 0x5A := by
  have letters : decide ('A'.val ≤ ch.val ∧ ch.val ≤ 'Z'.val) = true := upper
  simpa [UInt32.le_iff_toNat_le] using letters

theorem controlChar_toNat {ch : Char} (lower : ch.isLower = true) : (controlChar ch).toNat = ch.toNat - 0x61 + 1 := by
  have range := isLower_range lower
  have valid : (ch.toNat - 0x61 + 1).isValidChar := .inl (by omega)
  rw [controlChar, Char.ofNat, dif_pos valid]
  exact UInt32.toNat_ofNatLT ..

theorem encode_controlChar {ch : Char} (lower : ch.isLower = true) :
    String.utf8EncodeChar (controlChar ch) = [controlCode ch] := by
  have range := isLower_range lower
  have value := controlChar_toNat lower
  rw [encode_ascii (by omega), value]
  rfl

theorem decodeKey_text (code : Nat) (mods : Modifiers) :
    decodeKey (csiParam code mods 0x75) = some (.char (Char.ofNat code), mods) := decodeKey_param code mods 0x75

theorem decodeKey_control {ch : Char} (lower : ch.isLower = true) : decodeKey [controlCode ch] = some (.char (controlChar ch), .none) := by
  rw [← encode_controlChar lower, decodeKey_char]

theorem decodeKey_altControl {ch : Char} (lower : ch.isLower = true) :
    decodeKey [0x1B, controlCode ch] = some (.char (controlChar ch), { alt := true }) := by
  rw [← encode_controlChar lower, decodeKey_alt]

theorem isUpper_of_isLower {ch : Char} (lower : ch.isLower = true) : ch.isUpper = false := by
  have range := isLower_range lower
  by_contra upper
  have other := isUpper_range (by simpa using upper)
  omega

theorem decodeKey_encodeChar (ch : Char) (mods : Modifiers) (disambiguate : Bool) :
    decodeKey (encodeChar ch mods disambiguate) = some (conveyedChar ch mods disambiguate) := by
  obtain ⟨shift, alt, ctrl⟩ := mods
  -- A character is sent by itself, as a control code, behind an escape or as a sequence.
  by_cases space : ch = ' '
  next =>
    subst space
    revert shift alt ctrl disambiguate
    decide
  next =>
    unfold encodeChar conveyedChar
    rw [if_neg space, if_neg space]
    have text := decodeKey_char ch
    have escaped := decodeKey_alt ch
    by_cases lower : ch.isLower = true
    next =>
      have upper := isUpper_of_isLower lower
      have control := decodeKey_control lower
      have altControl := decodeKey_altControl lower
      by_cases i : ch = 'i'
      next =>
        subst i
        clear space lower upper control altControl text escaped
        revert shift alt ctrl disambiguate
        decide
      next =>
        cases shift <;> cases alt <;> cases ctrl <;>
          simp [lower, upper, i, text, escaped, control, altControl, Modifiers.any, Modifiers.none]
    next =>
      by_cases upper : ch.isUpper = true
      next =>
        have code (mods : Modifiers) : decodeKey (csiParam ch.toNat mods 0x75) = some (.char ch, mods) := by
          rw [decodeKey_text, Char.ofNat_toNat]
        cases shift <;> cases alt <;> cases ctrl <;>
          simp [lower, upper, text, escaped, code, Modifiers.any, Modifiers.none]
      next =>
        cases shift <;> cases alt <;> cases ctrl <;>
          simp [lower, upper, text, escaped, Modifiers.any, Modifiers.none]

theorem decodeKey_encodeKey (press : KeyPress) (appCursor appKeypad newlineMode disambiguate : Bool) :
    decodeKey (encodeKey press.1 press.2 appCursor appKeypad newlineMode disambiguate) =
      conveyed newlineMode disambiguate press := by
  obtain ⟨key, mods⟩ := press
  cases key with
  | char ch => exact decodeKey_encodeChar ch mods disambiguate
  | enter => cases newlineMode <;> rfl
  | tab | backspace =>
    obtain ⟨shift, alt, ctrl⟩ := mods
    cases shift <;> cases alt <;> cases ctrl <;> rfl
  | escape => rfl
  | up | down | left | right | home | «end» => exact decodeKey_cursor rfl mods appCursor
  | pageUp | pageDown | insert | delete => exact decodeKey_tilde _ mods
  | f n => exact decodeKey_function n mods

/-! ## Key presses that cannot be told apart -/

theorem controlChar_ne_space {ch : Char} (lower : ch.isLower = true) : controlChar ch ≠ ' ' := by
  intro same
  have range := isLower_range lower
  have value := controlChar_toNat lower
  rw [same] at value
  have space : ' '.toNat = 0x20 := rfl
  omega

theorem encodeChar_conveyed (ch : Char) (mods : Modifiers) (disambiguate : Bool) {read : KeyPress}
    (conveys : conveyedChar ch mods disambiguate = read) :
    ∃ c, read.1 = .char c ∧ encodeChar c read.2 disambiguate = encodeChar ch mods disambiguate := by
  obtain ⟨shift, alt, ctrl⟩ := mods
  subst conveys
  by_cases space : ch = ' '
  next =>
    subst space
    cases shift <;> cases alt <;> cases ctrl <;> exact ⟨_, rfl, by revert disambiguate; decide⟩
  next =>
    unfold conveyedChar
    rw [if_neg space]
    by_cases lower : ch.isLower = true
    next =>
      have upper := isUpper_of_isLower lower
      have notSpace := controlChar_ne_space lower
      have control := encode_controlChar lower
      by_cases i : ch = 'i'
      next =>
        subst i
        cases shift <;> cases alt <;> cases ctrl <;> cases disambiguate <;> exact ⟨_, rfl, by decide⟩
      next =>
        cases shift <;> cases alt <;> cases ctrl <;>
          simp [encodeChar, lower, upper, i, space, notSpace, control, Modifiers.any, Modifiers.none]
    next =>
      by_cases upper : ch.isUpper = true
      next =>
        cases shift <;> cases alt <;> cases ctrl <;>
          simp [encodeChar, lower, upper, space, Modifiers.any, Modifiers.none]
      next =>
        cases shift <;> cases alt <;> cases ctrl <;>
          simp [encodeChar, lower, upper, space, Modifiers.any, Modifiers.none]

theorem encodeKey_conveyed {press read : KeyPress} {newlineMode disambiguate : Bool}
    (conveys : conveyed newlineMode disambiguate press = some read) (appCursor appKeypad : Bool) :
    encodeKey read.1 read.2 appCursor appKeypad newlineMode disambiguate =
      encodeKey press.1 press.2 appCursor appKeypad newlineMode disambiguate := by
  obtain ⟨key, mods⟩ := press
  cases key with
  | char ch =>
    obtain ⟨c, is, same⟩ := encodeChar_conveyed ch mods disambiguate (Option.some.inj conveys)
    rw [is]
    exact same
  | enter =>
    cases conveys
    cases newlineMode <;> rfl
  | tab | backspace =>
    cases conveys
    obtain ⟨shift, alt, ctrl⟩ := mods
    cases shift <;> cases alt <;> cases ctrl <;> rfl
  | escape => cases conveys; rfl
  | f n =>
    have sent : (if 1 ≤ n.toNat ∧ n.toNat ≤ 12 then some (Key.f n, mods) else none) = some read := conveys
    split at sent
    next => cases sent; rfl
    next => cases sent
  | _ => cases conveys; rfl

theorem encodeKey_silent {press : KeyPress} {newlineMode disambiguate : Bool}
    (silent : conveyed newlineMode disambiguate press = none) (appCursor appKeypad : Bool) :
    encodeKey press.1 press.2 appCursor appKeypad newlineMode disambiguate = [] := by
  obtain ⟨key, mods⟩ := press
  cases key with
  | f n =>
    have outside : ¬ (1 ≤ n.toNat ∧ n.toNat ≤ 12) := by
      intro inside
      rw [conveyed, if_pos inside] at silent
      cases silent
    exact encodeFunctionKey_outside outside mods
  | _ => cases silent

/-- An application reads every key press as the one it stands for, and two key presses are sent alike just when they
stand for the same: modifiers of Enter and Escape are lost, Ctrl and a letter is a control character, Shift and Alt with
a character that is not a letter is the character. -/
theorem encodeKey_alike_iff (press other : KeyPress) (appCursor appKeypad newlineMode disambiguate : Bool) :
    let sent (press : KeyPress) := encodeKey press.1 press.2 appCursor appKeypad newlineMode disambiguate
    decodeKey (sent press) = conveyed newlineMode disambiguate press ∧
      (sent press = sent other ↔ conveyed newlineMode disambiguate press = conveyed newlineMode disambiguate other) := by
  intro sent
  have reads (press : KeyPress) : decodeKey (sent press) = conveyed newlineMode disambiguate press :=
    decodeKey_encodeKey press appCursor appKeypad newlineMode disambiguate
  refine ⟨reads press, fun same => ?_, fun same => ?_⟩
  next => rw [← reads press, ← reads other, same]
  next =>
    cases conveys : conveyed newlineMode disambiguate other with
    | none =>
      rw [conveys] at same
      exact (encodeKey_silent same appCursor appKeypad).trans (encodeKey_silent conveys appCursor appKeypad).symm
    | some read =>
      rw [conveys] at same
      exact (encodeKey_conveyed same appCursor appKeypad).symm.trans (encodeKey_conveyed conveys appCursor appKeypad)

end Keyboard

end Emux
