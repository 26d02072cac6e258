import Mathlib.Data.List.Basic

set_option autoImplicit false

/-!
# Texts cut at a symbol

A text cut in two at the first or at the last place of a symbol. Lines that each end with a separator: they are told
apart again, and a text of lines that is cut somewhere ends with a beginning of one of them.
-/

namespace Cuts

variable {A : Type} [DecidableEq A]

def cutFirst (d : A) : List A -> Option (List A × List A)
  | [] => none
  | a :: rest => if a = d then some ([], rest) else (cutFirst d rest).map fun (before, after) => (a :: before, after)

def cutLast (d : A) (text : List A) : Option (List A × List A) :=
  (cutFirst d text.reverse).map fun (after, before) => (before.reverse, after.reverse)

variable {d : A} {text before after : List A}

theorem cutFirst_append (first : d ∉ before) : cutFirst d (before ++ d :: after) = some (before, after) := by
  induction before with
  | nil => rw [List.nil_append, cutFirst, if_pos rfl]
  | cons a rest ih =>
    have other : a ≠ d := fun same => first (same ▸ List.mem_cons_self)
    have later : d ∉ rest := fun member => first (List.mem_cons_of_mem a member)
    rw [List.cons_append, cutFirst, if_neg other, ih later, Option.map_some]

theorem cutFirst_eq_none_iff : cutFirst d text = none ↔ d ∉ text := by
  induction text with
  | nil => simp [cutFirst]
  | cons a rest ih =>
    by_cases same : a = d
    next => simp [cutFirst, same]
    next => rw [cutFirst, if_neg same, Option.map_eq_none_iff, ih, List.mem_cons, not_or, and_iff_right (Ne.symm same)]

theorem cutFirst_eq_some_iff : cutFirst d text = some (before, after) ↔ text = before ++ d :: after ∧ d ∉ before := by
  constructor
  next =>
    intro cut
    have member : d ∈ text := by
      by_contra none
      rw [cutFirst_eq_none_iff.mpr none] at cut
      cases cut
    obtain ⟨front, back, rfl, first⟩ := List.eq_append_cons_of_mem member
    rw [cutFirst_append first] at cut
    obtain ⟨rfl, rfl⟩ := Prod.mk.inj (Option.some.inj cut)
    exact ⟨rfl, first⟩
  next =>
    rintro ⟨rfl, first⟩
    exact cutFirst_append first

theorem cutLast_eq_none_iff : cutLast d text = none ↔ d ∉ text := by
  rw [cutLast, Option.map_eq_none_iff, cutFirst_eq_none_iff, List.mem_reverse]

theorem cutLast_eq_some_iff : cutLast d text = some (before, after) ↔ text = before ++ d :: after ∧ d ∉ after := by
  rw [cutLast, Option.map_eq_some_iff]
  constructor
  next =>
    rintro ⟨⟨back, front⟩, cut, same⟩
    obtain ⟨rfl, rfl⟩ := Prod.mk.inj same
    obtain ⟨reversed, last⟩ := cutFirst_eq_some_iff.mp cut
    refine ⟨?_, fun member => last (List.mem_reverse.mp member)⟩
    rw [← List.reverse_reverse text, reversed]
    simp
  next =>
    rintro ⟨rfl, last⟩
    refine ⟨(after.reverse, before.reverse), cutFirst_eq_some_iff.mpr ⟨by simp, ?_⟩, by simp⟩
    rwa [List.mem_reverse]

end Cuts

namespace Lines

variable {B : Type} {sep : B}

def unlines (sep : B) (lines : List (List B)) : List B := lines.flatMap fun line => line ++ [sep]

@[simp] theorem unlines_nil : unlines sep [] = [] := rfl

@[simp] theorem unlines_cons (line : List B) (rest : List (List B)) :
    unlines sep (line :: rest) = line ++ sep :: unlines sep rest := by
  rw [unlines, List.flatMap_cons, List.append_assoc]
  rfl

@[simp] theorem unlines_append (first second : List (List B)) :
    unlines sep (first ++ second) = unlines sep first ++ unlines sep second :=
  List.flatMap_append

theorem splitOn_unlines [DecidableEq B] {lines : List (List B)} (free : ∀ line ∈ lines, sep ∉ line) {rest : List B}
    (last : sep ∉ rest) :
    (unlines sep lines ++ rest).splitOn sep = lines ++ [rest] := by
  induction lines with
  | nil => exact List.splitOn_eq_singleton last
  | cons line lines ih =>
    obtain ⟨here, later⟩ := List.forall_mem_cons.mp free
    rw [unlines_cons, List.append_assoc, List.cons_append, List.splitOn_append_cons_self_of_not_mem here, ih later]
    rfl

theorem take_unlines (lines : List (List B)) (n : Nat) :
    (unlines sep lines).take n = unlines sep lines ∨ ∃ before line after m, lines = before ++ line :: after ∧ m ≤ line.length ∧
      (unlines sep lines).take n = unlines sep before ++ line.take m := by
  induction lines generalizing n with
  | nil => exact .inl (List.take_nil)
  | cons line rest ih =>
    by_cases inside : n ≤ line.length
    next =>
      refine .inr ⟨[], line, rest, n, rfl, inside, ?_⟩
      rw [unlines_cons, List.take_append_of_le_length inside]
      rfl
    next =>
      -- The line and its end are in front of the cut.
      obtain ⟨more, rfl⟩ := Nat.exists_eq_add_of_lt (Nat.lt_of_not_le inside)
      have passed : (unlines sep (line :: rest)).take (line.length + more + 1) =
          line ++ sep :: (unlines sep rest).take more := by
        rw [unlines_cons, Nat.add_assoc, List.take_length_add_append, List.take_succ_cons]
      rcases ih more with whole | ⟨before, cut, after, m, parts, bound, taken⟩
      next => exact .inl (by rw [passed, whole, unlines_cons])
      next =>
        refine .inr ⟨line :: before, cut, after, m, by rw [parts, List.cons_append], bound, ?_⟩
        rw [passed, taken, unlines_cons, List.append_assoc, List.cons_append]

theorem flatten_map_eq_iff {convert : List B -> List B} (grows : ∀ text, text.length ≤ (convert text).length)
    (texts : List (List B)) :
    (texts.map convert).flatten = texts.flatten ↔ ∀ text ∈ texts, convert text = text := by
  have whole (texts : List (List B)) : texts.flatten.length ≤ (texts.map convert).flatten.length := by
    induction texts with
    | nil => exact Nat.le_refl _
    | cons text rest ih =>
      have first := grows text
      simp only [List.map_cons, List.flatten_cons, List.length_append]
      omega
  induction texts with
  | nil => simp
  | cons text rest ih =>
    rw [List.map_cons, List.flatten_cons, List.flatten_cons, List.forall_mem_cons]
    refine Iff.trans ⟨fun same => ?_, ?_⟩ (and_congr_right fun _ => ih)
    next =>
      have first := grows text
      have later := whole rest
      have total := congrArg List.length same
      rw [List.length_append, List.length_append] at total
      exact List.append_inj same (by omega)
    next =>
      intro ⟨first, later⟩
      rw [first, later]

end Lines
