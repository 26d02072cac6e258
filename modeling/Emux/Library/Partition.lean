import Mathlib.Data.List.Forall2
import Mathlib.Data.List.Pairwise
import Mathlib.Data.Set.Lattice
import Mathlib.Order.CompletePartialOrder

set_option autoImplicit false

/-!
# A whole and its parts

Partitions of a set by a list of sets, of which some may be empty. Lists joined from blocks: every element of the joined
list has a block that it lies in and a place there.
-/

namespace Partition

variable {A : Type}

structure Partitions (parts : List (Set A)) (whole : Set A) : Prop where
  apart : parts.Pairwise Disjoint
  covers : ∀ a, a ∈ whole ↔ ∃ part ∈ parts, a ∈ part

theorem Partitions.single (whole : Set A) : Partitions [whole] whole :=
  ⟨List.pairwise_singleton _ _, fun a => by simp⟩

theorem Partitions.pair {left right whole : Set A} (apart : Disjoint left right)
    (covers : ∀ a, a ∈ whole ↔ a ∈ left ∨ a ∈ right) : Partitions [left, right] whole :=
  ⟨List.pairwise_pair.mpr apart, fun a => by simpa using covers a⟩

theorem Partitions.inside {parts : List (Set A)} {whole part : Set A} (partitions : Partitions parts whole)
    (member : part ∈ parts) : part ⊆ whole :=
  fun a inside => (partitions.covers a).mpr ⟨part, member, inside⟩

theorem Partitions.perm {parts others : List (Set A)} {whole : Set A} (partitions : Partitions parts whole)
    (same : parts.Perm others) : Partitions others whole where
  apart := (same.pairwise_iff fun apart => apart.symm).mp partitions.apart
  covers a := by
    rw [partitions.covers a]
    exact exists_congr fun part => and_congr_left fun _ => same.mem_iff

theorem Partitions.swap {left right whole : Set A} (partitions : Partitions [left, right] whole) :
    Partitions [right, left] whole :=
  partitions.perm (List.Perm.swap right left [])

theorem Partitions.pair_covers {left right whole : Set A} (partitions : Partitions [left, right] whole) (a : A) :
    a ∈ whole ↔ a ∈ left ∨ a ∈ right := by
  simpa using partitions.covers a

theorem Partitions.pair_apart {left right whole : Set A} (partitions : Partitions [left, right] whole) :
    Disjoint left right := List.pairwise_pair.mp partitions.apart

theorem Partitions.same {I : Type} {part : I -> Set A} {members : List I} {whole : Set A}
    (partitions : Partitions (members.map part) whole) {i j : I} (first : i ∈ members) (second : j ∈ members) {a : A}
    (inFirst : a ∈ part i) (inSecond : a ∈ part j) : i = j := by
  by_contra other
  have apart := List.pairwise_map.mp partitions.apart
  have symmetric : Std.Symm fun i j => Disjoint (part i) (part j) := ⟨fun _ _ disjoint => disjoint.symm⟩
  exact Set.disjoint_left.mp (apart.forall first second other) inFirst inSecond

theorem Partitions.append {lefts rights : List (Set A)} {left right whole : Set A}
    (halves : Partitions [left, right] whole) (first : Partitions lefts left) (second : Partitions rights right) :
    Partitions (lefts ++ rights) whole where
  apart := by
    refine List.pairwise_append.mpr ⟨first.apart, second.apart, fun one inFirst other inSecond => ?_⟩
    exact halves.pair_apart.mono (first.inside inFirst) (second.inside inSecond)
  covers a := by
    rw [halves.pair_covers a, first.covers a, second.covers a]
    simp only [List.mem_append, or_and_right, exists_or]

end Partition

namespace Blocks

variable {A : Type}

/-- For each element of the joined list the number of its block, the first one being `number`, and its place there. -/
def places : Nat -> List (List A) -> List (Nat × Nat)
  | _, [] => []
  | number, block :: rest => (List.range block.length).map (fun i => (number, i)) ++ places (number + 1) rest

theorem length_places (number : Nat) (blocks : List (List A)) : (places number blocks).length = blocks.flatten.length := by
  induction blocks generalizing number with
  | nil => rfl
  | cons block rest ih => simp [places, ih]

theorem split_at {blocks : List (List A)} {i : Nat} (inside : i < blocks.flatten.length) :
    ∃ before block after, blocks = before ++ block :: after ∧ before.flatten.length ≤ i ∧
      i < before.flatten.length + block.length := by
  induction blocks generalizing i with
  | nil => simp at inside
  | cons block rest ih =>
    by_cases here : i < block.length
    next => exact ⟨[], block, rest, rfl, Nat.zero_le i, by simpa using here⟩
    next =>
      rw [List.flatten_cons, List.length_append] at inside
      obtain ⟨before, next, after, rfl, low, high⟩ := @ih (i - block.length) (by omega)
      refine ⟨block :: before, next, after, rfl, ?_, ?_⟩
      next =>
        rw [List.flatten_cons, List.length_append]
        omega
      next =>
        rw [List.flatten_cons, List.length_append]
        omega

theorem places_at (before : List (List A)) (block : List A) (after : List (List A)) {i : Nat} (inside : i < block.length)
    (number : Nat) :
    (places number (before ++ block :: after))[before.flatten.length + i]? = some (number + before.length, i) := by
  induction before generalizing number with
  | nil =>
    rw [List.nil_append, places, List.flatten_nil, List.length_nil, Nat.zero_add,
      List.getElem?_append_left (by simpa using inside), List.getElem?_map, List.getElem?_range inside]
    rfl
  | cons first before ih =>
    have later := ih (number + 1)
    rw [List.cons_append, places, List.flatten_cons, List.length_append, Nat.add_assoc,
      List.getElem?_append_right (by simp), List.length_map, List.length_range, Nat.add_sub_cancel_left, later,
      List.length_cons]
    congr 2
    omega

theorem places_found {blocks : List (List A)} {number i : Nat} {place : Nat × Nat}
    (found : (places number blocks)[i]? = some place) :
    ∃ before block after j, blocks = before ++ block :: after ∧ j < block.length ∧ i = before.flatten.length + j ∧
      place = (number + before.length, j) := by
  have inside := (List.getElem?_eq_some_iff.mp found).1
  rw [length_places] at inside
  obtain ⟨before, block, after, rfl, low, high⟩ := split_at inside
  obtain ⟨j, rfl⟩ := Nat.exists_eq_add_of_le low
  have within : j < block.length := by omega
  rw [places_at before block after within] at found
  exact ⟨before, block, after, j, rfl, within, rfl, (Option.some.inj found).symm⟩

theorem places_inj {blocks : List (List A)} {number i j : Nat} {place : Nat × Nat}
    (first : (places number blocks)[i]? = some place) (second : (places number blocks)[j]? = some place) : i = j := by
  obtain ⟨before, block, after, k, split, -, rfl, rfl⟩ := places_found first
  obtain ⟨before', block', after', k', split', -, rfl, same⟩ := places_found second
  obtain ⟨number, rfl⟩ := Prod.mk.inj same
  obtain ⟨rfl, -⟩ := List.append_inj (split.symm.trans split') (Nat.add_left_cancel number)
  rfl

theorem forall₂_places {related : A -> Nat × Nat -> Prop} {blocks : List (List A)} {number : Nat}
    (each : ∀ before block after i a, blocks = before ++ block :: after -> block[i]? = some a ->
      related a (number + before.length, i)) :
    List.Forall₂ related blocks.flatten (places number blocks) := by
  induction blocks generalizing number with
  | nil => exact .nil
  | cons block rest ih =>
    rw [List.flatten_cons, places]
    refine List.rel_append ?_ (ih fun before next after i a split found => ?_)
    next =>
      refine List.forall₂_iff_get.mpr ⟨by simp, fun i low _ => ?_⟩
      simpa using each [] block rest i _ rfl (List.getElem?_eq_getElem low)
    next =>
      have there := each (block :: before) next after i a (by rw [split, List.cons_append]) found
      rwa [List.length_cons, Nat.add_comm before.length, ← Nat.add_assoc] at there

end Blocks
