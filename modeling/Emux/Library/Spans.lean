import Mathlib.Algebra.BigOperators.Group.List.Basic
import Mathlib.Algebra.GroupWithZero.Nat
import Mathlib.Data.List.Chain

set_option autoImplicit false

/-!
# Spans of equal keys

Items that come one by one under a key are gathered in spans, neighbours with the same key in one. A change that is
made to whole spans reaches every item of the run that the item is in. The width of a list is the sum of the widths of
its items.
-/

namespace Spans

variable {K T : Type}

def expand (spans : List (K × List T)) : List (K × T) := spans.flatMap fun span => span.2.map fun item => (span.1, item)

def SameRun (keys : List K) (i j : Nat) : Prop :=
  ∃ key, ∀ k, min i j ≤ k -> k ≤ max i j -> keys[k]? = some key

structure Merged (spans : List (K × List T)) : Prop where
  nonempty : ∀ span ∈ spans, span.2 ≠ []
  apart : spans.IsChain fun span next => span.1 ≠ next.1

@[simp] theorem expand_nil : expand ([] : List (K × List T)) = [] := rfl

@[simp] theorem expand_cons (span : K × List T) (rest : List (K × List T)) :
    expand (span :: rest) = (span.2.map fun item => (span.1, item)) ++ expand rest := rfl

@[simp] theorem expand_append (first second : List (K × List T)) :
    expand (first ++ second) = expand first ++ expand second := List.flatMap_append

theorem merged_nil : Merged ([] : List (K × List T)) := ⟨nofun, .nil⟩

section Push

variable [DecidableEq K]

def push (spans : List (K × List T)) (item : K × T) : List (K × List T) :=
  match spans.getLast? with
  | some last =>
    if last.1 = item.1 then spans.dropLast ++ [(last.1, last.2 ++ [item.2])] else spans ++ [(item.1, [item.2])]
  | none => spans ++ [(item.1, [item.2])]

theorem push_concat (front : List (K × List T)) (last : K × List T) (item : K × T) :
    push (front ++ [last]) item =
      front ++ if last.1 = item.1 then [(last.1, last.2 ++ [item.2])] else [last, (item.1, [item.2])] := by
  rw [push, List.getLast?_concat]
  simp only [List.dropLast_concat]
  split
  next => rfl
  next => simp

theorem expand_push (spans : List (K × List T)) (item : K × T) : expand (push spans item) = expand spans ++ [item] := by
  rcases spans.eq_nil_or_concat with rfl | ⟨front, last, rfl⟩
  next => rfl
  next =>
    rw [List.concat_eq_append, push_concat]
    split
    next same => simp [same]
    next => simp

theorem Merged.push {spans : List (K × List T)} (merged : Merged spans) (item : K × T) : Merged (push spans item) := by
  rcases spans.eq_nil_or_concat with rfl | ⟨front, last, rfl⟩
  next => exact ⟨by simp [Spans.push], .singleton _⟩
  next =>
    rw [List.concat_eq_append] at merged ⊢
    rw [push_concat]
    obtain ⟨before, here⟩ := List.forall_mem_append.mp merged.nonempty
    split
    next same =>
      obtain ⟨chain, -, joint⟩ := List.isChain_append.mp merged.apart
      refine ⟨List.forall_mem_append.mpr ⟨before, by simp⟩, List.isChain_append.mpr ⟨chain, .singleton _, ?_⟩⟩
      -- The last span has the key it had.
      intro x isLast y isFirst
      obtain rfl := Option.some.inj isFirst
      exact joint x isLast last rfl
    next different =>
      refine ⟨List.forall_mem_append.mpr ⟨before, by simpa using here⟩, ?_⟩
      exact List.isChain_append_cons_cons.mpr ⟨merged.apart, different, .singleton _⟩

theorem expand_pushAll (items : List (K × T)) (spans : List (K × List T)) :
    expand (items.foldl push spans) = expand spans ++ items := by
  induction items generalizing spans with
  | nil => exact (List.append_nil _).symm
  | cons item rest ih => rw [List.foldl_cons, ih, expand_push, List.append_assoc, List.singleton_append]

theorem Merged.pushAll {spans : List (K × List T)} (merged : Merged spans) (items : List (K × T)) :
    Merged (items.foldl Spans.push spans) := by
  induction items generalizing spans with
  | nil => exact merged
  | cons item rest ih => exact ih (merged.push item)

end Push

theorem SameRun.refl {keys : List K} {i : Nat} {key : K} (found : keys[i]? = some key) : SameRun keys i i := by
  refine ⟨key, fun k low high => ?_⟩
  obtain rfl : k = i := by omega
  exact found

theorem SameRun.symm {keys : List K} {i j : Nat} (run : SameRun keys i j) : SameRun keys j i := by
  obtain ⟨key, same⟩ := run
  exact ⟨key, fun k low high => same k (by omega) (by omega)⟩

theorem SameRun.found {keys : List K} {i j : Nat} (run : SameRun keys i j) : ∃ key, keys[i]? = some key := by
  obtain ⟨key, same⟩ := run
  exact ⟨key, same i (Nat.min_le_left i j) (Nat.le_max_left i j)⟩

theorem sameRun_append {keys more : List K} (boundary : ∀ key ∈ keys, more.head? ≠ some key) {i : Nat}
    (inside : i < keys.length) (j : Nat) : SameRun (keys ++ more) i j ↔ SameRun keys i j := by
  constructor
  next =>
    rintro ⟨key, same⟩
    have here := same i (Nat.min_le_left i j) (Nat.le_max_left i j)
    rw [List.getElem?_append_left inside] at here
    have also : j < keys.length := by
      by_contra beyond
      have next := same keys.length (by omega) (by omega)
      rw [List.getElem?_append_right (Nat.le_refl _), Nat.sub_self, ← List.head?_eq_getElem?] at next
      exact boundary key (List.mem_of_getElem? here) next
    refine ⟨key, fun k low high => ?_⟩
    rw [← same k low high, List.getElem?_append_left (by omega)]
  next =>
    rintro ⟨key, same⟩
    refine ⟨key, fun k low high => ?_⟩
    have there := same k low high
    rwa [List.getElem?_append_left (List.getElem?_eq_some_iff.mp there).1]

theorem sameRun_replicate {key : K} {n i : Nat} (inside : i < n) (j : Nat) : SameRun (List.replicate n key) i j ↔ j < n := by
  constructor
  next =>
    intro run
    obtain ⟨other, there⟩ := run.symm.found
    simpa using (List.getElem?_eq_some_iff.mp there).1
  next => exact fun also => ⟨key, fun k _ high => List.getElem?_replicate_of_lt (by omega)⟩

theorem sameRun_back {keys : List K} {key : K} {n i : Nat} (boundary : keys.head? ≠ some key) (positive : 0 < n)
    (beyond : n ≤ i) (j : Nat) :
    SameRun (List.replicate n key ++ keys) i j ↔ n ≤ j ∧ SameRun keys (i - n) (j - n) := by
  have back (k : Nat) (behind : n ≤ k) : (List.replicate n key ++ keys)[k]? = keys[k - n]? := by
    rw [List.getElem?_append_right (by simpa using behind), List.length_replicate]
  constructor
  next =>
    rintro ⟨other, same⟩
    have behind : n ≤ j := by
      by_contra before
      have last := same (n - 1) (by omega) (by omega)
      have next := same n (by omega) (by omega)
      rw [List.getElem?_append_left (by simp; omega), List.getElem?_replicate_of_lt (by omega)] at last
      rw [back n (Nat.le_refl n), Nat.sub_self, ← List.head?_eq_getElem?] at next
      exact boundary (next.trans last.symm)
    refine ⟨behind, other, fun k low high => ?_⟩
    have there := same (k + n) (by omega) (by omega)
    rwa [back (k + n) (Nat.le_add_left n k), Nat.add_sub_cancel] at there
  next =>
    rintro ⟨behind, other, same⟩
    refine ⟨other, fun k low high => ?_⟩
    rw [back k (by omega)]
    exact same (k - n) (by omega) (by omega)

/-- `change` on the key of every span of which some item has a marked number. -/
def paint (mark : Nat -> Bool) (change : K -> K) : Nat -> List (K × List T) -> List (K × List T)
  | _, [] => []
  | start, span :: rest =>
    let marked := (List.range span.2.length).any fun i => mark (start + i)
    (if marked then change span.1 else span.1, span.2) :: paint mark change (start + span.2.length) rest

theorem head_keys {spans : List (K × List T)} (merged : Merged spans) :
    ((expand spans).map Prod.fst).head? = spans.head?.map Prod.fst := by
  cases spans with
  | nil => rfl
  | cons span rest =>
    have nonempty := merged.nonempty span List.mem_cons_self
    cases items : span.2 with
    | nil => exact absurd items nonempty
    | cons item items' => simp [items]

theorem expand_paint {mark : Nat -> Bool} {change : K -> K} {spans : List (K × List T)} (merged : Merged spans)
    {start i : Nat} {key : K} {item : T} (found : (expand spans)[i]? = some (key, item)) {marked : Bool}
    (selected : marked = true ↔ ∃ j, SameRun ((expand spans).map Prod.fst) i j ∧ mark (start + j) = true) :
    (expand (paint mark change start spans))[i]? = some (if marked then change key else key, item) := by
  induction spans generalizing start i with
  | nil => cases found
  | cons span rest ih =>
    have tail : Merged rest := ⟨fun other member => merged.nonempty other (List.mem_cons_of_mem _ member), merged.apart.tail⟩
    have positive : 0 < span.2.length := List.length_pos_iff.mpr (merged.nonempty span List.mem_cons_self)
    have keys : (expand (span :: rest)).map Prod.fst =
        List.replicate span.2.length span.1 ++ (expand rest).map Prod.fst := by
      simp [Function.comp_def, List.map_const']
    have boundary : ((expand rest).map Prod.fst).head? ≠ some span.1 := by
      rw [head_keys tail]
      cases rest with
      | nil => nofun
      | cons next others =>
        have apart := (List.isChain_cons_cons.mp merged.apart).1
        exact fun same => apart (Option.some.inj same).symm
    have boundary' : ∀ key ∈ List.replicate span.2.length span.1, ((expand rest).map Prod.fst).head? ≠ some key := by
      intro key member
      rwa [List.eq_of_mem_replicate member]
    rw [keys] at selected
    rw [expand_cons] at found
    rw [paint, expand_cons]
    by_cases front : i < span.2.length
    next =>
      rw [List.getElem?_append_left (by simpa using front), List.getElem?_map] at found ⊢
      obtain ⟨item', there, same⟩ := Option.map_eq_some_iff.mp found
      obtain ⟨rfl, rfl⟩ := Prod.mk.inj same
      have all : ((List.range span.2.length).any fun i => mark (start + i)) = marked := by
        rw [Bool.eq_iff_iff, selected, List.any_eq_true]
        simp only [sameRun_append boundary' (by simpa using front), sameRun_replicate front, List.mem_range]
      rw [there, all]
      rfl
    next =>
      have behind := Nat.le_of_not_lt front
      rw [List.getElem?_append_right (by simpa using behind), List.length_map] at found ⊢
      refine ih tail found ?_
      rw [selected]
      -- The run lies behind the span, where the numbers start later.
      constructor
      next =>
        rintro ⟨j, run, marks⟩
        obtain ⟨later, run⟩ := (sameRun_back boundary positive behind j).mp run
        refine ⟨j - span.2.length, run, ?_⟩
        rwa [Nat.add_assoc, Nat.add_sub_cancel' later]
      next =>
        rintro ⟨j, run, marks⟩
        refine ⟨span.2.length + j, (sameRun_back boundary positive behind _).mpr ⟨Nat.le_add_right .., ?_⟩, ?_⟩
        next => rwa [Nat.add_sub_cancel_left]
        next => rwa [← Nat.add_assoc]

section Width

variable {A : Type} (width : A -> Nat)

theorem width_append (first second : List A) :
    ((first ++ second).map width).sum = (first.map width).sum + (second.map width).sum := by
  rw [List.map_append, List.sum_append]

theorem width_cons (a : A) (rest : List A) : ((a :: rest).map width).sum = width a + (rest.map width).sum := by
  rw [List.map_cons, List.sum_cons]

theorem width_replicate {a : A} (narrow : width a = 1) (count : Nat) : ((List.replicate count a).map width).sum = count := by
  rw [List.map_replicate, List.sum_replicate_nat, narrow, Nat.mul_one]

end Width

end Spans
