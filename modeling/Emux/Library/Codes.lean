import Emux.Library.Leftmost

set_option autoImplicit false

/-!
# Self-synchronising codes

Texts whose symbols are coded by words that begin with a lead, and leads stand nowhere else: where
a coded text occurs in another one, the text itself does.
-/

namespace Codes

variable {B C : Type}

/-- No word begins another word, and the leads of a coded text are the beginnings of its words. -/
structure Synchronising (word : C -> List B) (lead : B -> Bool) : Prop where
  prefixFree : ∀ {c d : C} {after rest : List B}, word c ++ after = word d ++ rest -> c = d
  begins : ∀ c, ∃ first rest, word c = first :: rest ∧ lead first = true ∧ ∀ symbol ∈ rest, lead symbol = false

def encode (word : C -> List B) (text : List C) : List B := text.flatMap word

variable {word : C -> List B} {lead : B -> Bool}

@[simp] theorem encode_nil : encode word [] = [] := rfl

theorem encode_cons (c : C) (text : List C) : encode word (c :: text) = word c ++ encode word text := List.flatMap_cons

theorem encode_append (first second : List C) : encode word (first ++ second) = encode word first ++ encode word second :=
  List.flatMap_append

def offset (word : C -> List B) (text : List C) (k : Nat) : Nat := (encode word (text.take k)).length

theorem encode_drop_offset (text : List C) (k : Nat) :
    (encode word text).drop (offset word text k) = encode word (text.drop k) := by
  have split : encode word text = encode word (text.take k) ++ encode word (text.drop k) := by
    rw [← encode_append, List.take_append_drop]
  rw [split, offset, List.drop_left]

theorem encode_take_offset (text : List C) (k : Nat) :
    (encode word text).take (offset word text k) = encode word (text.take k) := by
  have split : encode word text = encode word (text.take k) ++ encode word (text.drop k) := by
    rw [← encode_append, List.take_append_drop]
  rw [split, offset, List.take_left]

theorem offset_add (text : List C) (k len : Nat) :
    offset word text (k + len) = offset word text k + (encode word ((text.drop k).take len)).length := by
  rw [offset, offset, List.take_add, encode_append, List.length_append]

theorem offset_le (text : List C) (k : Nat) : offset word text k ≤ (encode word text).length := by
  rw [offset, ← encode_take_offset]
  exact List.length_take_le' _ _

namespace Synchronising

variable (code : Synchronising word lead)

include code

theorem word_length_pos (c : C) : 0 < (word c).length := by
  obtain ⟨first, rest, words, -⟩ := code.begins c
  simp [words]

theorem length_le (text : List C) : text.length ≤ (encode word text).length := by
  induction text with
  | nil => simp
  | cons c rest ih =>
    have long := code.word_length_pos c
    rw [encode_cons, List.length_append, List.length_cons]
    omega

theorem encode_prefix_iff {text whole : List C} : encode word text <+: encode word whole ↔ text <+: whole := by
  constructor
  next =>
    intro prefixed
    induction text generalizing whole with
    | nil => exact List.nil_prefix
    | cons c rest ih =>
      obtain ⟨after, equal⟩ := prefixed
      cases whole with
      | nil =>
        have long := code.word_length_pos c
        have lengths := congrArg List.length equal
        rw [encode_cons, encode_nil, List.length_append, List.length_append, List.length_nil] at lengths
        omega
      | cons d others =>
        rw [encode_cons, encode_cons, List.append_assoc] at equal
        have same := code.prefixFree equal
        subst same
        rw [List.cons_prefix_cons]
        exact ⟨rfl, ih ⟨after, List.append_cancel_left equal⟩⟩
  next =>
    rintro ⟨after, rfl⟩
    rw [encode_append]
    exact List.prefix_append _ _

theorem offset_of_lead {text : List C} {i : Nat} {symbol : B} {rest : List B} (isLead : lead symbol = true)
    (here : (encode word text).drop i = symbol :: rest) : ∃ k < text.length, i = offset word text k := by
  induction text generalizing i with
  | nil => simp at here
  | cons c others ih =>
    obtain ⟨first, tail, words, -, inner⟩ := code.begins c
    by_cases inside : i < (word c).length
    next =>
      cases i with
      | zero => exact ⟨0, by simp, by simp [offset]⟩
      | succ j =>
        -- Past its first symbol a word has no lead.
        have member : symbol ∈ tail := by
          have short : j < tail.length := by simpa [words] using inside
          have found : ((word c ++ encode word others).drop (j + 1))[0]? = some symbol := by
            rw [← encode_cons, here]
            rfl
          rw [List.getElem?_drop, List.getElem?_append_left (by omega), words, Nat.add_zero,
            List.getElem?_cons_succ] at found
          exact List.mem_of_getElem? found
        rw [inner symbol member] at isLead
        cases isLead
    next =>
      rw [encode_cons, List.drop_append, List.drop_of_length_le (by omega), List.nil_append] at here
      obtain ⟨k, short, at_k⟩ := ih here
      refine ⟨k + 1, by simpa using short, ?_⟩
      rw [offset, List.take_succ_cons, encode_cons, List.length_append]
      rw [offset] at at_k
      omega

theorem encode_prefix_drop_iff {text whole : List C} (some : text ≠ []) {i : Nat} :
    encode word text <+: (encode word whole).drop i ↔
      ∃ k < whole.length, i = offset word whole k ∧ text <+: whole.drop k := by
  constructor
  next =>
    intro occurs
    obtain ⟨c, others, rfl⟩ := List.exists_cons_of_ne_nil some
    obtain ⟨first, tail, words, isLead, -⟩ := code.begins c
    obtain ⟨after, equal⟩ := occurs
    rw [encode_cons, words] at equal
    obtain ⟨k, short, at_k⟩ := code.offset_of_lead isLead equal.symm
    refine ⟨k, short, at_k, code.encode_prefix_iff.mp ⟨after, ?_⟩⟩
    rw [← encode_drop_offset, ← at_k, ← equal, encode_cons, words]
  next =>
    rintro ⟨k, -, rfl, occurs⟩
    rw [encode_drop_offset]
    exact code.encode_prefix_iff.mpr occurs

theorem offset_lt {text : List C} {j k : Nat} (before : j < k) (inside : k ≤ text.length) :
    offset word text j < offset word text k := by
  obtain ⟨len, rfl⟩ := Nat.exists_eq_add_of_lt before
  rw [Nat.add_assoc, offset_add]
  have := code.length_le ((text.drop j).take (len + 1))
  simp only [List.length_take, List.length_drop] at this
  omega

theorem find_encode [DecidableEq B] [DecidableEq C] {text whole : List C} (some : text ≠ []) :
    Leftmost.find (encode word text) (encode word whole) = (Leftmost.find text whole).map (offset word whole) := by
  cases found : Leftmost.find text whole with
  | none =>
    rw [Leftmost.find_eq_none_iff] at found
    rw [Option.map_none, Leftmost.find_eq_none_iff]
    intro i _ occurs
    obtain ⟨k, short, -, here⟩ := (code.encode_prefix_drop_iff some).mp occurs
    exact found k (by omega) here
  | some k =>
    obtain ⟨inside, here, first⟩ := Leftmost.find_eq_some_iff.mp found
    rw [Option.map_some, Leftmost.find_eq_some_iff]
    refine ⟨offset_le whole k, ?_, fun i before occurs => ?_⟩
    next =>
      rw [encode_drop_offset]
      exact code.encode_prefix_iff.mpr here
    next =>
      obtain ⟨j, short, rfl, earlier⟩ := (code.encode_prefix_drop_iff some).mp occurs
      refine first j ?_ earlier
      by_contra late
      rcases Nat.eq_or_lt_of_le (Nat.le_of_not_lt late) with rfl | after
      next => exact absurd before (lt_irrefl _)
      next =>
        have := code.offset_lt after (show j ≤ whole.length by omega)
        omega

theorem leads_length (text : List C) : ((encode word text).filter lead).length = text.length := by
  induction text with
  | nil => rfl
  | cons c rest ih =>
    obtain ⟨first, tail, words, isLead, inner⟩ := code.begins c
    have none : tail.filter lead = [] := by
      rw [List.filter_eq_nil_iff]
      intro symbol member
      simp [inner symbol member]
    rw [encode_cons, List.filter_append, List.length_append, ih, words, List.filter_cons_of_pos isLead, none]
    simp [Nat.add_comm]

end Synchronising

end Codes
