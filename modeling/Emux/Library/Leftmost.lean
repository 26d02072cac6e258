import Mathlib.Data.List.Infix
import Mathlib.Data.List.MinMax
import Mathlib.Data.List.Pairwise
import Mathlib.Data.Nat.Find

set_option autoImplicit false

/-!
# Leftmost occurrences

Where a list occurs in another, and which of the spans that could be taken are taken when they
are chosen from left to right without overlapping.
And the earliest of the elements that a measure makes least: whether that choice has a property can be told without
making it.
-/

namespace Leftmost

variable {A : Type}

section Find

variable [DecidableEq A]

def find (needle hay : List A) : Option Nat :=
  hay.tails.findIdx? fun tail => needle <+: tail

theorem find_eq_some_iff {needle hay : List A} {i : Nat} :
    find needle hay = some i ↔
      i ≤ hay.length ∧ needle <+: hay.drop i ∧ ∀ j < i, ¬ needle <+: hay.drop j := by
  rw [find, List.findIdx?_eq_some_iff_getElem]
  constructor
  next =>
    rintro ⟨inside, here, before⟩
    rw [List.length_tails] at inside
    refine ⟨by omega, by simpa using here, fun j earlier => ?_⟩
    simpa using before j earlier
  next =>
    rintro ⟨inside, here, before⟩
    refine ⟨by rw [List.length_tails]; omega, by simpa using here, fun j earlier => ?_⟩
    simpa using before j earlier

theorem find_eq_none_iff {needle hay : List A} :
    find needle hay = none ↔ ∀ i ≤ hay.length, ¬ needle <+: hay.drop i := by
  rw [find, List.findIdx?_eq_none_iff]
  constructor
  next =>
    intro nowhere i inside here
    have isTail : hay.drop i ∈ hay.tails := List.mem_tails _ _ |>.mpr (List.drop_suffix i hay)
    simpa [here] using nowhere _ isTail
  next =>
    intro nowhere tail isTail
    obtain ⟨before, rfl⟩ := (List.mem_tails _ _).mp isTail
    have here := nowhere before.length (by simp)
    simpa using here

omit [DecidableEq A] in
theorem prefix_drop_iff_infix {needle text : List A} : (∃ i, needle <+: text.drop i) ↔ needle <:+: text := by
  constructor
  next =>
    rintro ⟨i, here⟩
    exact here.isInfix.trans (List.drop_suffix i text).isInfix
  next =>
    rintro ⟨before, after, rfl⟩
    exact ⟨before.length, by simp⟩

theorem find_append_iff {first : A} {tail text : List A} (once : first ∉ tail) :
    find (first :: tail) (text ++ first :: tail) = some text.length ↔ ¬ first :: tail <:+: text := by
  rw [find_eq_some_iff, ← prefix_drop_iff_infix]
  constructor
  next =>
    rintro ⟨-, -, before⟩ ⟨i, here⟩
    have inside : i < text.length := by
      have := here.length_le
      simp only [List.length_cons, List.length_drop] at this
      omega
    refine before i inside ?_
    rw [List.drop_append_of_le_length (by omega)]
    exact here.trans (List.prefix_append _ _)
  next =>
    intro nowhere
    refine ⟨by simp, by simp, fun i before here => nowhere ⟨i, ?_⟩⟩
    rw [List.drop_append_of_le_length (by omega)] at here
    rcases List.prefix_or_prefix_of_prefix here (List.prefix_append (text.drop i) (first :: tail)) with inside | crossing
    next => exact inside
    next =>
      -- The needle continues past the text, so its first symbol comes again.
      obtain ⟨after, whole⟩ := crossing
      have behind : after <+: first :: tail := by
        rw [← List.prefix_append_right_inj (text.drop i), whole]
        exact here
      obtain ⟨c, rest, cut⟩ := List.exists_cons_of_ne_nil (show text.drop i ≠ [] by simpa using before)
      cases after with
      | nil =>
        rw [← whole, List.append_nil]
      | cons symbol others =>
        have again : symbol = first := (List.cons_prefix_cons.mp behind).1
        rw [cut, List.cons_append, List.cons.injEq] at whole
        refine absurd ?_ once
        rw [← whole.2, again]
        simp

end Find

/-- The spans taken from `start` on, each a position and a length, when every span that may be
taken and does not overlap an earlier one is. -/
structure From (hits : Nat -> Nat -> Prop) (start : Nat) (taken : List (Nat × Nat)) : Prop where
  apart : taken.Pairwise fun first second => first.1 + first.2 ≤ second.1
  hit : ∀ span ∈ taken, start ≤ span.1 ∧ hits span.1 span.2
  covers : ∀ position len, start ≤ position -> hits position len ->
    ∃ span ∈ taken, span.1 ≤ position ∧ position < span.1 + span.2

def Free (taken : List (Nat × Nat)) (position : Nat) : Prop :=
  ∀ span ∈ taken, position ≤ span.1 ∨ span.1 + span.2 ≤ position

structure Spans (hits : Nat -> Nat -> Prop) : Prop where
  one : ∀ {position first second}, hits position first -> hits position second -> first = second
  some : ∀ {position len}, hits position len -> 0 < len

variable {hits other : Nat -> Nat -> Prop} {start : Nat} {taken : List (Nat × Nat)}

theorem From.nil (nothing : ∀ position len, start ≤ position -> ¬ hits position len) : From hits start [] where
  apart := List.Pairwise.nil
  hit := by simp
  covers position len after hit := absurd hit (nothing position len after)

theorem From.cons {position len : Nat} (after : start ≤ position) (here : hits position len)
    (first : ∀ earlier other, start ≤ earlier -> earlier < position -> ¬ hits earlier other)
    (rest : From hits (position + len) taken) : From hits start ((position, len) :: taken) where
  apart := List.Pairwise.cons (fun span member => (rest.hit span member).1) rest.apart
  hit := by
    intro span member
    rcases List.mem_cons.mp member with rfl | later
    next => exact ⟨after, here⟩
    next =>
      obtain ⟨behind, hit⟩ := rest.hit span later
      exact ⟨by omega, hit⟩
  covers := by
    intro other otherLen from_start hit
    by_cases before : other < position
    next => exact absurd hit (first other otherLen from_start before)
    by_cases inside : other < position + len
    next => exact ⟨(position, len), List.mem_cons_self, by omega, inside⟩
    obtain ⟨span, member, covered⟩ := rest.covers other otherLen (by omega) hit
    exact ⟨span, List.mem_cons_of_mem _ member, covered⟩

theorem From.free_of_mem (leftmost : From hits start taken) {span : Nat × Nat} (member : span ∈ taken) :
    Free taken span.1 := by
  intro other otherMember
  by_cases same : span = other
  next => exact Or.inl (by rw [same])
  have either : taken.Pairwise fun first second => first.1 + first.2 ≤ second.1 ∨ second.1 + second.2 ≤ first.1 :=
    leftmost.apart.imp Or.inl
  have symmetric : Std.Symm fun first second : Nat × Nat =>
      first.1 + first.2 ≤ second.1 ∨ second.1 + second.2 ≤ first.1 := ⟨fun _ _ => Or.symm⟩
  have apart := either.forall member otherMember same
  omega

theorem From.agree_iff (spans : Spans hits) (otherSpans : Spans other) (leftmost : From hits start taken) :
    From other start taken ↔
      ∀ position, start ≤ position -> Free taken position -> ∀ len, hits position len ↔ other position len := by
  -- The two choices stay in step as long as they take the same span next.
  constructor
  next =>
    intro same position after free len
    constructor
    next =>
      intro hit
      obtain ⟨span, member, low, high⟩ := leftmost.covers position len after hit
      have begins : position = span.1 := by have := free span member; omega
      subst begins
      rw [spans.one hit (leftmost.hit span member).2]
      exact (same.hit span member).2
    next =>
      intro hit
      obtain ⟨span, member, low, high⟩ := same.covers position len after hit
      have begins : position = span.1 := by have := free span member; omega
      subst begins
      rw [otherSpans.one hit (same.hit span member).2]
      exact (leftmost.hit span member).2
  next =>
    intro agree
    refine ⟨leftmost.apart, fun span member => ?_, fun position len after hit => ?_⟩
    next =>
      obtain ⟨after, hit⟩ := leftmost.hit span member
      exact ⟨after, (agree span.1 after (leftmost.free_of_mem member) span.2).mp hit⟩
    next =>
      by_cases free : Free taken position
      next => exact leftmost.covers position len after ((agree position after free len).mpr hit)
      next =>
        simp only [Free, not_forall, not_or, not_le] at free
        obtain ⟨span, member, low, high⟩ := free
        exact ⟨span, member, by omega, high⟩

theorem From.later {span : Nat × Nat} (leftmost : From hits start (span :: taken)) :
    From hits (span.1 + span.2) taken where
  apart := leftmost.apart.of_cons
  hit other member := ⟨(List.pairwise_cons.mp leftmost.apart).1 other member,
    (leftmost.hit other (List.mem_cons_of_mem _ member)).2⟩
  covers := by
    intro position len after hit
    have begun := (leftmost.hit span List.mem_cons_self).1
    obtain ⟨other, member, low, high⟩ := leftmost.covers position len (by omega) hit
    rcases List.mem_cons.mp member with rfl | later
    next => omega
    next => exact ⟨other, later, low, high⟩

theorem From.head_le {span other : Nat × Nat} {rest : List (Nat × Nat)}
    (leftmost : From hits start (span :: taken)) (same : From hits start (other :: rest)) : span.1 ≤ other.1 := by
  obtain ⟨after, hit⟩ := same.hit other List.mem_cons_self
  obtain ⟨first, member, low, high⟩ := leftmost.covers other.1 other.2 after hit
  rcases List.mem_cons.mp member with rfl | later
  next => exact low
  next =>
    have := (List.pairwise_cons.mp leftmost.apart).1 first later
    omega

theorem From.unique (spans : Spans hits) {taken' : List (Nat × Nat)} (leftmost : From hits start taken)
    (same : From hits start taken') : taken = taken' := by
  induction taken generalizing start taken' with
  | nil =>
    cases taken' with
    | nil => rfl
    | cons span rest =>
      obtain ⟨after, hit⟩ := same.hit span List.mem_cons_self
      obtain ⟨_, member, _⟩ := leftmost.covers span.1 span.2 after hit
      exact absurd member List.not_mem_nil
  | cons span rest ih =>
    cases taken' with
    | nil =>
      obtain ⟨after, hit⟩ := leftmost.hit span List.mem_cons_self
      obtain ⟨_, member, _⟩ := same.covers span.1 span.2 after hit
      exact absurd member List.not_mem_nil
    | cons other others =>
      have position : span.1 = other.1 := le_antisymm (leftmost.head_le same) (same.head_le leftmost)
      have len : span.2 = other.2 := by
        have second := (same.hit other List.mem_cons_self).2
        rw [← position] at second
        exact spans.one (leftmost.hit span List.mem_cons_self).2 second
      have equal : span = other := Prod.ext position len
      rw [← equal] at same ⊢
      rw [ih leftmost.later same.later]

theorem From.exists (spans : Spans hits) {stop : Nat} (bounded : ∀ {position len}, hits position len -> position < stop)
    (start : Nat) : ∃ taken, From hits start taken := by
  classical
  induction remaining : stop - start using Nat.strong_induction_on generalizing start with
  | _ remaining ih =>
    subst remaining
    by_cases any : ∃ position, start ≤ position ∧ ∃ len, hits position len
    next =>
      obtain ⟨after, len, hit⟩ := Nat.find_spec any
      have inside := bounded hit
      have long := spans.some hit
      obtain ⟨rest, later⟩ := ih (stop - (Nat.find any + len)) (by omega) (Nat.find any + len) rfl
      refine ⟨(Nat.find any, len) :: rest, From.cons after hit (fun earlier other from_start before here => ?_) later⟩
      exact Nat.find_min any before ⟨from_start, other, here⟩
    next =>
      refine ⟨[], From.nil fun position len after hit => any ⟨position, after, len, hit⟩⟩

end Leftmost

namespace Nearest

variable {A : Type} {measure : A -> Nat}

theorem argmin_splits {candidates : List A} {least : A} (chosen : candidates.argmin measure = some least) :
    ∃ front back, candidates = front ++ least :: back ∧
      (∀ other ∈ front, measure least < measure other) ∧ ∀ other ∈ back, measure least ≤ measure other := by
  induction candidates with
  | nil => simp at chosen
  | cons head rest ih =>
    rw [List.argmin_cons] at chosen
    cases inRest : rest.argmin measure with
    | none =>
      obtain rfl : head = least := by simpa [inRest] using chosen
      obtain rfl := List.argmin_eq_none.mp inRest
      exact ⟨[], [], rfl, by simp, by simp⟩
    | some next =>
      simp only [inRest] at chosen
      split at chosen
      next nearer =>
        obtain rfl : next = least := Option.some.inj chosen
        obtain ⟨front, back, rfl, before, after⟩ := ih inRest
        exact ⟨head :: front, back, rfl, List.forall_mem_cons.mpr ⟨nearer, before⟩, after⟩
      next farther =>
        obtain rfl : head = least := Option.some.inj chosen
        refine ⟨[], rest, rfl, by simp, fun other member => ?_⟩
        exact (not_lt.mp farther).trans (List.le_of_mem_argmin member inRest)

def Leads (measure : A -> Nat) (Good : A -> Prop) (candidates : List A) : Prop :=
  ∃ front best back, candidates = front ++ best :: back ∧ Good best ∧
    (∀ other ∈ front, ¬Good other -> measure best < measure other) ∧
    ∀ other ∈ back, ¬Good other -> measure best ≤ measure other

theorem Leads.good {Good : A -> Prop} {candidates : List A} (leads : Leads measure Good candidates) {least : A}
    (chosen : candidates.argmin measure = some least) : Good least := by
  obtain ⟨front, best, back, rfl, isGood, before, after⟩ := leads
  by_contra bad
  have least_le : measure least ≤ measure best := List.le_of_mem_argmin (by simp) chosen
  -- The choice moves past the elements in front, of which the bad ones are farther than the best.
  induction front with
  | nil =>
    rw [List.nil_append, List.argmin_cons] at chosen
    cases inBack : back.argmin measure with
    | none =>
      obtain rfl : best = least := by simpa [inBack] using chosen
      exact bad isGood
    | some next =>
      simp only [inBack] at chosen
      split at chosen
      next nearer =>
        obtain rfl : next = least := Option.some.inj chosen
        have behind := after next (List.argmin_mem inBack) bad
        omega
      next =>
        obtain rfl : best = least := Option.some.inj chosen
        exact bad isGood
  | cons head rest ih =>
    obtain ⟨headFar, restFar⟩ := List.forall_mem_cons.mp before
    rw [List.cons_append, List.argmin_cons] at chosen
    cases inRest : (rest ++ best :: back).argmin measure with
    | none => simp at inRest
    | some next =>
      simp only [inRest] at chosen
      split at chosen
      next =>
        obtain rfl : next = least := Option.some.inj chosen
        exact ih inRest restFar
      next =>
        obtain rfl : head = least := Option.some.inj chosen
        have ahead := headFar bad
        omega

theorem leads_iff {Good : A -> Prop} {candidates : List A} (nonempty : candidates ≠ []) :
    (∀ least, candidates.argmin measure = some least -> Good least) ↔ Leads measure Good candidates := by
  refine ⟨fun good => ?_, fun leads least chosen => leads.good chosen⟩
  cases chosen : candidates.argmin measure with
  | none => exact absurd (List.argmin_eq_none.mp chosen) nonempty
  | some least =>
    obtain ⟨front, back, rfl, before, after⟩ := argmin_splits chosen
    exact ⟨front, least, back, rfl, good least chosen, fun other member _ => before other member,
      fun other member _ => after other member⟩

end Nearest
