import Mathlib.Data.List.Destutter

set_option autoImplicit false

/-!
# Sorted lists without repeats

Entries that stand at places: a list is sorted by where the places begin, and of neighbours at one place the first is
kept. The places of the result come one after the other just where any two of the list are one place or apart.
-/

namespace Repeats

variable {A : Type}

/-- Of neighbours at the same place the first is kept. -/
def dedup (same : A -> A -> Bool) (entries : List A) : List A :=
  entries.destutter fun kept next => ¬same next kept = true

def Apart (same : A -> A -> Bool) (before : A -> A -> Prop) (a b : A) : Prop :=
  same a b = true ∨ before a b ∨ before b a

/-- Being at the same place is an equivalence, coming before is a transitive relation of places, and `le` sorts by it. -/
structure Places (same : A -> A -> Bool) (before : A -> A -> Prop) (le : A -> A -> Bool) : Prop where
  equivalence : Equivalence fun a b => same a b = true
  trans : ∀ {a b c : A}, before a b -> before b c -> before a c
  congr : ∀ {a a' b b' : A}, same a a' = true -> same b b' = true -> before a b -> before a' b'
  le_trans : ∀ a b c : A, le a b = true -> le b c = true -> le a c = true
  le_total : ∀ a b : A, (le a b || le b a) = true
  order : ∀ {a b : A}, before a b -> ¬le b a = true

variable {same : A -> A -> Bool} {before : A -> A -> Prop} {le : A -> A -> Bool}

theorem dedup_sublist (entries : List A) : (dedup same entries).Sublist entries := List.destutter_sublist _ entries

theorem dedup_from (equivalence : Equivalence fun a b => same a b = true) (entries : List A) (kept a : A)
    (member : a ∈ kept :: entries) :
    ∃ b ∈ entries.destutter' (fun kept next => ¬same next kept = true) kept, same a b = true := by
  induction entries generalizing kept a with
  | nil =>
    rw [List.mem_singleton.mp member]
    exact ⟨kept, List.mem_singleton_self kept, equivalence.refl kept⟩
  | cons next rest ih =>
    by_cases repeated : same next kept = true
    next =>
      rw [List.destutter'_cons_neg _ (not_not.mpr repeated)]
      rcases List.mem_cons.mp member with rfl | later
      next => exact ih a a List.mem_cons_self
      next =>
        rcases List.mem_cons.mp later with rfl | later
        next =>
          obtain ⟨b, present, found⟩ := ih kept kept List.mem_cons_self
          exact ⟨b, present, equivalence.trans repeated found⟩
        next => exact ih kept a (List.mem_cons_of_mem _ later)
    next =>
      rw [List.destutter'_cons_pos _ repeated]
      rcases List.mem_cons.mp member with rfl | later
      next => exact ⟨a, List.mem_cons_self, equivalence.refl a⟩
      next =>
        obtain ⟨b, present, found⟩ := ih next a later
        exact ⟨b, List.mem_cons_of_mem _ present, found⟩

theorem dedup_represents (equivalence : Equivalence fun a b => same a b = true) {entries : List A} {a : A}
    (member : a ∈ entries) : ∃ b ∈ dedup same entries, same a b = true := by
  cases entries with
  | nil => cases member
  | cons kept rest => exact dedup_from equivalence rest kept a member

namespace Places

variable (places : Places same before le)

include places

theorem apart_symm {a b : A} (apart : Apart same before a b) : Apart same before b a := by
  rcases apart with equal | first | second
  next => exact Or.inl (places.equivalence.symm equal)
  next => exact Or.inr (Or.inr first)
  next => exact Or.inr (Or.inl second)

theorem apart_congr {a a' b b' : A} (left : same a a' = true) (right : same b b' = true)
    (apart : Apart same before a b) : Apart same before a' b' := by
  rcases apart with equal | first | second
  next => exact Or.inl (places.equivalence.trans (places.equivalence.symm left) (places.equivalence.trans equal right))
  next => exact Or.inr (Or.inl (places.congr left right first))
  next => exact Or.inr (Or.inr (places.congr right left second))

theorem dedup_pairwise {entries : List A} (sorted : entries.Pairwise fun a b => same a b = true ∨ before a b) :
    (dedup same entries).Pairwise before := by
  have chain : (dedup same entries).IsChain fun kept next => ¬same next kept = true := List.isChain_destutter _ entries
  have either : (dedup same entries).IsChain fun a b => same a b = true ∨ before a b :=
    (sorted.sublist (dedup_sublist entries)).isChain
  have next : (dedup same entries).IsChain before := by
    rw [List.isChain_iff_forall_rel_of_append_cons_cons] at chain either ⊢
    intro kept next front later split
    exact (either split).resolve_left fun equal => chain split (places.equivalence.symm equal)
  have : IsTrans A before := ⟨fun _ _ _ => places.trans⟩
  exact List.isChain_iff_pairwise.mp next

theorem dedup_mergeSort_pairwise_iff {entries : List A} :
    (dedup same (entries.mergeSort le)).Pairwise before ↔
      ∀ a ∈ entries, ∀ b ∈ entries, Apart same before a b := by
  constructor
  next =>
    intro pairwise a inA b inB
    obtain ⟨c, inC, sameC⟩ := dedup_represents places.equivalence (List.mem_mergeSort.mpr inA)
    obtain ⟨d, inD, sameD⟩ := dedup_represents places.equivalence (List.mem_mergeSort.mpr inB)
    have ordered : (dedup same (entries.mergeSort le)).Pairwise (Apart same before) :=
      pairwise.imp fun first => Or.inr (Or.inl first)
    have symm : Std.Symm (Apart same before) := ⟨fun _ _ => places.apart_symm⟩
    have itself : ∀ x ∈ dedup same (entries.mergeSort le), Apart same before x x :=
      fun x _ => Or.inl (places.equivalence.refl x)
    have apart : Apart same before c d := List.Pairwise.forall_of_forall itself ordered inC inD
    exact places.apart_congr (places.equivalence.symm sameC) (places.equivalence.symm sameD) apart
  next =>
    intro apart
    have sorted := List.pairwise_mergeSort places.le_trans places.le_total entries
    refine places.dedup_pairwise (sorted.imp_of_mem fun inA inB le => ?_)
    have inA := List.mem_mergeSort.mp inA
    have inB := List.mem_mergeSort.mp inB
    rcases apart _ inA _ inB with equal | first | second
    next => exact Or.inl equal
    next => exact Or.inr first
    next => exact absurd le (places.order second)

end Places

end Repeats
