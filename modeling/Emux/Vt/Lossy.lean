import Emux.Vt.Text

set_option autoImplicit false

/-!
# Lossy decoding

A text in which what is no UTF-8 has been replaced is UTF-8, is no shorter, and is the same only if there was nothing to replace.
-/

namespace Emux

def Opens (taken : Bytes) (ranges : List (Nat × Nat)) : Prop :=
  ∀ suffix, validUtf8From [] (taken ++ suffix) = validUtf8From ranges suffix

theorem opens_lead {byte : Byte} {ranges : List (Nat × Nat)} (leads : continuationRanges byte = some ranges) :
    Opens [byte] ranges := by
  intro suffix
  simp only [List.singleton_append, validUtf8From, leads]

theorem Opens.continue {taken : Bytes} {low high : Nat} {more : List (Nat × Nat)} (opens : Opens taken ((low, high) :: more))
    {byte : Byte} (inside : within low high byte = true) : Opens (taken ++ [byte]) more := by
  intro suffix
  rw [List.append_assoc, List.singleton_append, opens, validUtf8From, inside, Bool.true_and]

theorem opens_replacement : Opens replacementCharacter [] := by
  intro suffix
  rfl

theorem lossyUtf8From_start (taken : Bytes) (byte : Byte) (rest : Bytes) :
    lossyUtf8From taken [] (byte :: rest) = taken ++ lossyUtf8From [] [] (byte :: rest) := rfl

theorem lossyUtf8From_broken {low high : Nat} {byte : Byte} (outside : within low high byte = false) (taken : Bytes)
    (more : List (Nat × Nat)) (rest : Bytes) :
    lossyUtf8From taken ((low, high) :: more) (byte :: rest) = replacementCharacter ++ lossyUtf8From [] [] (byte :: rest) := by
  have same : ¬ within low high byte = true := by rw [outside]; decide
  exact if_neg same

theorem lossyUtf8From_valid (rest : Bytes) {taken : Bytes} {ranges : List (Nat × Nat)} (opens : Opens taken ranges) :
    validUtf8From [] (lossyUtf8From taken ranges rest) = true := by
  -- What is written so far ends where a character ends.
  induction rest generalizing taken ranges with
  | nil =>
    cases ranges with
    | nil =>
      have whole := opens []
      rw [List.append_nil] at whole
      exact whole
    | cons range more => rfl
  | cons byte rest ih =>
    have fresh : validUtf8From [] (lossyUtf8From [] [] (byte :: rest)) = true := by
      cases leads : continuationRanges byte with
      | some ranges =>
        simp only [lossyUtf8From, leads, List.nil_append]
        exact ih (opens_lead leads)
      | none =>
        simp only [lossyUtf8From, leads, List.nil_append]
        exact (opens_replacement _).trans (ih fun suffix => rfl)
    cases ranges with
    | nil =>
      rw [lossyUtf8From_start]
      exact (opens _).trans fresh
    | cons range more =>
      obtain ⟨low, high⟩ := range
      cases inside : within low high byte with
      | true =>
        rw [lossyUtf8From, if_pos inside]
        exact ih (opens.continue inside)
      | false =>
        rw [lossyUtf8From_broken inside]
        exact (opens_replacement _).trans fresh

theorem lossyUtf8From_whole {rest : Bytes} {ranges : List (Nat × Nat)} (valid : validUtf8From ranges rest = true) (taken : Bytes) :
    lossyUtf8From taken ranges rest = taken ++ rest := by
  induction rest generalizing taken ranges with
  | nil =>
    cases ranges with
    | nil => exact (List.append_nil _).symm
    | cons range more => cases valid
  | cons byte rest ih =>
    cases ranges with
    | nil =>
      rw [validUtf8From] at valid
      cases leads : continuationRanges byte with
      | none => simp [leads] at valid
      | some ranges =>
        simp only [leads] at valid
        simp only [lossyUtf8From, leads, ih valid, List.singleton_append]
    | cons range more =>
      obtain ⟨low, high⟩ := range
      rw [validUtf8From, Bool.and_eq_true] at valid
      rw [lossyUtf8From, if_pos valid.1, ih valid.2, List.append_assoc, List.singleton_append]

theorem lossyUtf8_eq_iff (bytes : Bytes) : lossyUtf8 bytes = bytes ↔ validUtf8 bytes = true := by
  constructor
  next =>
    intro same
    have valid := @lossyUtf8From_valid bytes [] [] fun suffix => rfl
    rwa [← lossyUtf8, same] at valid
  next => exact fun valid => lossyUtf8From_whole valid []

theorem continuationRanges_length {byte : Byte} {ranges : List (Nat × Nat)} (leads : continuationRanges byte = some ranges) :
    ranges.length ≤ 3 := by
  unfold continuationRanges at leads
  dsimp only at leads
  split_ifs at leads <;> cases leads <;> decide

theorem lossyUtf8From_length (rest : Bytes) {taken : Bytes} {ranges : List (Nat × Nat)} (short : taken.length + ranges.length ≤ 4) :
    taken.length + rest.length ≤ (lossyUtf8From taken ranges rest).length := by
  -- What is replaced at a time is no longer than three bytes.
  induction rest generalizing taken ranges with
  | nil =>
    cases ranges with
    | nil => exact Nat.le_refl _
    | cons range more =>
      simp only [List.length_cons] at short
      simp only [lossyUtf8From, replacementCharacter, List.length_cons, List.length_nil]
      omega
  | cons byte rest ih =>
    have fresh : (byte :: rest).length ≤ (lossyUtf8From [] [] (byte :: rest)).length := by
      cases leads : continuationRanges byte with
      | some ranges =>
        have bound := continuationRanges_length leads
        have later := @ih [byte] ranges (by simp; omega)
        simp only [lossyUtf8From, leads, List.nil_append, List.length_cons, List.length_nil] at later ⊢
        omega
      | none =>
        have later := @ih [] [] (by simp)
        simp only [lossyUtf8From, leads, List.nil_append, List.length_append, replacementCharacter, List.length_cons,
          List.length_nil] at later ⊢
        omega
    cases ranges with
    | nil =>
      rw [lossyUtf8From_start, List.length_append]
      exact Nat.add_le_add_left fresh _
    | cons range more =>
      obtain ⟨low, high⟩ := range
      simp only [List.length_cons] at short
      cases inside : within low high byte with
      | true =>
        have later := @ih (taken ++ [byte]) more (by simp; omega)
        rw [lossyUtf8From, if_pos inside]
        simp only [List.length_append, List.length_cons, List.length_nil] at later ⊢
        omega
      | false =>
        rw [lossyUtf8From_broken inside, List.length_append]
        have three : replacementCharacter.length = 3 := rfl
        omega

theorem lossyUtf8_length (bytes : Bytes) : bytes.length ≤ (lossyUtf8 bytes).length := by
  have bound := @lossyUtf8From_length bytes [] [] (by decide)
  rwa [List.length_nil, Nat.zero_add] at bound

end Emux
