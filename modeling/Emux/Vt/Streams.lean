import Emux.Vt.Parser

set_option autoImplicit false

/-!
# Byte streams

How a stream is cut into chunks does not matter to the parser, and the characters of UTF-8 text
come out as they went in.
-/

namespace Emux

namespace Parser

def advanceChunks : Parser -> List Bytes -> Step
  | p, [] => (p, [])
  | p, chunk :: rest =>
    let (p, actions) := p.advance chunk
    let (p, more) := p.advanceChunks rest
    (p, actions ++ more)

theorem advanceBytes_append (p : Parser) (first second : Bytes) :
    p.advanceBytes (first ++ second) =
      (((p.advanceBytes first).1.advanceBytes second).1,
        (p.advanceBytes first).2 ++ ((p.advanceBytes first).1.advanceBytes second).2) := by
  induction first generalizing p with
  | nil => rfl
  | cons byte rest ih => simp only [List.cons_append, advanceBytes, ih, List.append_assoc]

theorem advanceChunks_flatten (p : Parser) (chunks : List Bytes) :
    p.advanceChunks chunks = p.advanceBytes chunks.flatten := by
  induction chunks generalizing p with
  | nil => rfl
  | cons chunk rest ih =>
    simp only [advanceChunks, advance_eq_advanceBytes, ih, List.flatten_cons, advanceBytes_append]

theorem advance_partition (p : Parser) (chunks : List Bytes) :
    p.advanceChunks chunks = p.advance chunks.flatten ∧
      p.advance chunks.flatten = p.advanceBytes chunks.flatten := by
  rw [advance_eq_advanceBytes, advanceChunks_flatten]
  exact ⟨rfl, rfl⟩

end Parser

theorem within_iff {low high : Nat} {byte : Byte} :
    within low high byte = true ↔ low ≤ byte.toNat ∧ byte.toNat ≤ high := by
  simp [within]

theorem toNat_byte {n : Nat} (small : n < 256) : (UInt8.ofNat n).toNat = n := UInt8.toNat_ofNat_of_lt' small

theorem firstChar_one {a : Byte} (low : a.toNat ≤ 0x7F) : firstChar [a] = some (Char.ofNat a.toNat) := by
  have ranges : continuationRanges a = some [] := by simp [continuationRanges, within, low]
  simp [firstChar, validUtf8, validUtf8From, ranges, scalarValue]

theorem firstChar_two {a b : Byte} (lead : 0xC2 ≤ a.toNat ∧ a.toNat ≤ 0xDF) (next : within 0x80 0xBF b = true) :
    firstChar [a, b] = some (Char.ofNat (scalarValue [a, b])) := by
  have ranges : continuationRanges a = some [(0x80, 0xBF)] := by
    simp only [continuationRanges, within_iff]
    rw [if_neg (by omega), if_pos lead]
  simp [firstChar, validUtf8, validUtf8From, ranges, next]

theorem firstChar_three {a b c : Byte} (lead : 0xE0 ≤ a.toNat ∧ a.toNat ≤ 0xEF)
    (next : within (if a.toNat = 0xE0 then 0xA0 else 0x80) (if a.toNat = 0xED then 0x9F else 0xBF) b = true)
    (last : within 0x80 0xBF c = true) : firstChar [a, b, c] = some (Char.ofNat (scalarValue [a, b, c])) := by
  have ranges : continuationRanges a =
      some [(if a.toNat = 0xE0 then 0xA0 else 0x80, if a.toNat = 0xED then 0x9F else 0xBF), (0x80, 0xBF)] := by
    simp only [continuationRanges, within_iff, ← UInt8.toNat_inj, UInt8.reduceToNat]
    by_cases first : a.toNat = 0xE0
    next =>
      simp only [first]
      rfl
    next =>
      by_cases surrogate : a.toNat = 0xED
      next =>
        simp only [surrogate]
        rfl
      next =>
        rw [if_neg (by omega), if_neg (by omega), if_neg first, if_neg first, if_neg surrogate, if_neg surrogate,
          if_pos (by omega)]
  simp [firstChar, validUtf8, validUtf8From, ranges, next, last]

theorem firstChar_four {a b c d : Byte} (lead : 0xF0 ≤ a.toNat ∧ a.toNat ≤ 0xF4)
    (next : within (if a.toNat = 0xF0 then 0x90 else 0x80) (if a.toNat = 0xF4 then 0x8F else 0xBF) b = true)
    (third : within 0x80 0xBF c = true) (last : within 0x80 0xBF d = true) :
    firstChar [a, b, c, d] = some (Char.ofNat (scalarValue [a, b, c, d])) := by
  have ranges : continuationRanges a =
      some [(if a.toNat = 0xF0 then 0x90 else 0x80, if a.toNat = 0xF4 then 0x8F else 0xBF), (0x80, 0xBF),
        (0x80, 0xBF)] := by
    simp only [continuationRanges, within_iff, ← UInt8.toNat_inj, UInt8.reduceToNat]
    by_cases first : a.toNat = 0xF0
    next =>
      simp only [first]
      rfl
    next =>
      by_cases final : a.toNat = 0xF4
      next =>
        simp only [final]
        rfl
      next =>
        rw [if_neg (by omega), if_neg (by omega), if_neg (by omega), if_neg (by omega), if_neg (by omega), if_neg first,
          if_neg first, if_pos (by omega), if_neg final]
  simp [firstChar, validUtf8, validUtf8From, ranges, next, third, last]

theorem firstChar_encode (c : Char) : firstChar (String.utf8EncodeChar c) = some c := by
  -- Decoding undoes encoding, one character at a time.
  have scalar : c.toNat < 0xD800 ∨ 0xDFFF < c.toNat ∧ c.toNat < 0x110000 := c.valid
  have same {value : Nat} (value_eq : value = c.toNat) : some (Char.ofNat value) = some c := by
    rw [value_eq, Char.ofNat_toNat]
  have value : c.val.toNat = c.toNat := rfl
  simp only [String.utf8EncodeChar, value]
  split_ifs with one two three
  next =>
    have lead := @toNat_byte c.toNat (by omega)
    rw [firstChar_one (by omega), lead]
    exact same rfl
  next =>
    have lead := @toNat_byte (c.toNat / 64 % 0x20 + 0xC0) (by omega)
    have next := @toNat_byte (c.toNat % 0x40 + 0x80) (by omega)
    rw [firstChar_two (by omega) (by rw [within_iff]; omega)]
    apply same
    simp only [scalarValue, lead, next]
    omega
  next =>
    have lead := @toNat_byte (c.toNat / 4096 % 0x10 + 0xE0) (by omega)
    have next := @toNat_byte (c.toNat / 64 % 0x40 + 0x80) (by omega)
    have last := @toNat_byte (c.toNat % 0x40 + 0x80) (by omega)
    rw [firstChar_three (by omega) (by rw [within_iff]; split_ifs <;> omega) (by rw [within_iff]; omega)]
    apply same
    simp only [scalarValue, lead, next, last]
    omega
  next =>
    have lead := @toNat_byte (c.toNat / 262144 % 0x08 + 0xF0) (by omega)
    have next := @toNat_byte (c.toNat / 4096 % 0x40 + 0x80) (by omega)
    have third := @toNat_byte (c.toNat / 64 % 0x40 + 0x80) (by omega)
    have last := @toNat_byte (c.toNat % 0x40 + 0x80) (by omega)
    rw [firstChar_four (by omega) (by rw [within_iff]; split_ifs <;> omega) (by rw [within_iff]; omega)
      (by rw [within_iff]; omega)]
    apply same
    simp only [scalarValue, lead, next, third, last]
    omega
/-- A first byte of a longer character, and how many bytes that character has. -/
def leadsChar (byte : Byte) (len : Nat) : Bool :=
  len == 2 && within 0xC0 0xDF byte || len == 3 && within 0xE0 0xEF byte || len == 4 && within 0xF0 0xF7 byte

theorem encode_ascii {c : Char} (low : c.toNat < 0x80) : String.utf8EncodeChar c = [UInt8.ofNat c.toNat] := by
  have value : c.val.toNat = c.toNat := rfl
  rw [String.utf8EncodeChar, value, if_pos (by omega)]

theorem encode_lead {c : Char} (high : 0x80 ≤ c.toNat) :
    ∃ lead rest, String.utf8EncodeChar c = lead :: rest ∧ leadsChar lead (rest.length + 1) = true := by
  have scalar : c.toNat < 0xD800 ∨ 0xDFFF < c.toNat ∧ c.toNat < 0x110000 := c.valid
  have value : c.val.toNat = c.toNat := rfl
  simp only [String.utf8EncodeChar, value]
  split_ifs with one two three
  next => omega
  next =>
    refine ⟨_, _, rfl, ?_⟩
    simp [leadsChar, within]
    omega
  next =>
    refine ⟨_, _, rfl, ?_⟩
    simp [leadsChar, within]
    omega
  next =>
    refine ⟨_, _, rfl, ?_⟩
    simp [leadsChar, within]
    omega

namespace Parser

theorem advanceByte_lead {p : Parser} {byte : Byte} {len : Nat} (ground : p.state = .ground)
    (leads : leadsChar byte len = true) : p.advanceByte byte = p.startUtf8 byte len := by
  have cases : len = 2 ∧ (0xC0 ≤ byte.toNat ∧ byte.toNat ≤ 0xDF) ∨ len = 3 ∧ (0xE0 ≤ byte.toNat ∧ byte.toNat ≤ 0xEF) ∨
      len = 4 ∧ (0xF0 ≤ byte.toNat ∧ byte.toNat ≤ 0xF7) := by
    simpa [leadsChar, within, or_assoc] using leads
  simp only [advanceByte, ground, Parser.ground, within_iff, Bool.or_eq_true, beq_iff_eq, ← UInt8.toNat_inj,
    UInt8.reduceToNat]
  rw [if_neg (by simp), if_neg (by omega), if_neg (by omega), if_neg (by omega), if_neg (by omega),
    if_neg (by omega), if_neg (by omega), if_neg (by omega), if_neg (by omega), if_neg (by omega)]
  rcases cases with ⟨rfl, range⟩ | ⟨rfl, range⟩ | ⟨rfl, range⟩
  next => rw [if_pos range]
  next => rw [if_neg (by omega), if_pos range]
  next => rw [if_neg (by omega), if_neg (by omega), if_pos range]

theorem advanceBytes_continue {p : Parser} (inside : p.state = .utf8) (rest : Bytes) (some : rest ≠ [])
    (complete : p.utf8Buf.length + rest.length = p.utf8Len) :
    p.advanceBytes rest = ({ p with utf8Buf := p.utf8Buf ++ rest, state := .ground },
      ((firstChar (p.utf8Buf ++ rest)).map Action.print).toList) := by
  -- The bytes that complete a character, collected one by one.
  induction rest generalizing p with
  | nil => exact absurd rfl some
  | cons byte rest ih =>
    have step : p.advanceByte byte = p.continueUtf8 byte := if_pos inside
    cases rest with
    | nil =>
      have last : p.continueUtf8 byte = ({ p with utf8Buf := p.utf8Buf ++ [byte], state := .ground },
          ((firstChar (p.utf8Buf ++ [byte])).map Action.print).toList) := if_pos (by simpa using complete)
      simp [advanceBytes, step, last]
    | cons next rest =>
      have more : p.continueUtf8 byte = ({ p with utf8Buf := p.utf8Buf ++ [byte] }, []) := by
        apply if_neg
        simp only [List.length_append, List.length_cons, List.length_nil] at complete ⊢
        omega
      have tail := @ih { p with utf8Buf := p.utf8Buf ++ [byte] } inside (by simp) (by
        simp only [List.length_append, List.length_cons, List.length_nil] at complete ⊢
        omega)
      rw [advanceBytes, step, more]
      simp only [tail, List.append_assoc, List.singleton_append, List.nil_append]

theorem advanceBytes_character {p : Parser} (ground : p.state = .ground) {c : Char}
    (plain : 0x20 ≤ c.toNat ∧ c.toNat ≤ 0x7E ∨ 0x80 ≤ c.toNat) :
    (p.advanceBytes (String.utf8EncodeChar c)).2 = [.print c] ∧
      (p.advanceBytes (String.utf8EncodeChar c)).1.state = .ground := by
  -- One character of a text: it is printed, and the parser is back in the ground state.
  rcases plain with printable | high
  next =>
    have size := @toNat_byte c.toNat (by omega)
    have step := @advanceByte_printable p (UInt8.ofNat c.toNat) ground (by simp [isPrintable, within, size, printable])
    rw [encode_ascii (by omega)]
    simp [advanceBytes, step, ground, size]
  next =>
    obtain ⟨lead, rest, encoded, leads⟩ := encode_lead high
    have decoded := firstChar_encode c
    have some : rest ≠ [] := by
      rintro rfl
      simp [leadsChar] at leads
    have collected := @advanceBytes_continue { p with state := .utf8, utf8Buf := [lead], utf8Len := rest.length + 1 } rfl rest
      some (by simp only [List.length_cons, List.length_nil]; omega)
    have step := advanceByte_lead ground leads
    rw [encoded] at decoded ⊢
    simp only [advanceBytes, step, startUtf8, collected]
    simp [decoded]

def encodeText (text : List Char) : Bytes := text.flatMap String.utf8EncodeChar

theorem advanceChunks_text {p : Parser} (ground : p.state = .ground) {text : List Char}
    (plain : ∀ c ∈ text, 0x20 ≤ c.toNat ∧ c.toNat ≤ 0x7E ∨ 0x80 ≤ c.toNat) {chunks : List Bytes}
    (encoded : chunks.flatten = encodeText text) :
    (p.advanceChunks chunks).2 = text.map Action.print ∧ (p.advanceChunks chunks).1.state = .ground := by
  rw [advanceChunks_flatten, encoded]
  clear encoded
  induction text generalizing p with
  | nil => exact ⟨rfl, ground⟩
  | cons c text ih =>
    obtain ⟨printed, back⟩ := advanceBytes_character ground (plain c List.mem_cons_self)
    obtain ⟨more, last⟩ := ih back fun c member => plain c (List.mem_cons_of_mem _ member)
    have whole : encodeText (c :: text) = String.utf8EncodeChar c ++ encodeText text := List.flatMap_cons
    rw [whole, advanceBytes_append]
    exact ⟨by simp [printed, more], last⟩

theorem advanceChunks_text_split :
    (Parser.new.advanceChunks [[0x61, 0xC3], [0xA9, 0xF0, 0x9F], [0x98], [0x80]]).2 =
      [.print 'a', .print 'é', .print '😀'] ∧
    (Parser.new.advanceChunks [[0x61, 0xC3], [0xA9, 0xF0, 0x9F], [0x98], [0x80]]).1.state = .ground :=
  @advanceChunks_text Parser.new rfl ['a', 'é', '😀'] (by simp) _ (by decide)

end Parser

end Emux
