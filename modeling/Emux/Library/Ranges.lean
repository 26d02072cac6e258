import Emux.Library.Fallible
import Mathlib.Data.List.Rotate

set_option autoImplicit false

/-!
# Edits of an index range of a list

Every edit is a map over the indexed list, so its length is immediate and its entries are
read with `getElem?`. The loops that perform the edits one index at a time are computed here.
-/

namespace Checked

variable {A : Type}

def mapRange (xs : List A) (start stop : Nat) (f : Nat -> A -> A) : List A :=
  xs.mapIdx fun i x => if start ≤ i ∧ i < stop then f i x else x

@[simp] theorem length_mapRange (xs : List A) (start stop : Nat) (f : Nat -> A -> A) :
    (mapRange xs start stop f).length = xs.length := by simp [mapRange]

theorem getElem?_mapRange (xs : List A) (start stop : Nat) (f : Nat -> A -> A) (i : Nat) :
    (mapRange xs start stop f)[i]? =
      if start ≤ i ∧ i < stop then xs[i]?.map (f i) else xs[i]? := by
  rw [mapRange, List.getElem?_mapIdx]
  split <;> simp_all

theorem mapRange_empty (xs : List A) {start stop : Nat} (f : Nat -> A -> A)
    (empty : stop ≤ start) : mapRange xs start stop f = xs := by
  apply List.ext_getElem?
  intro i
  rw [getElem?_mapRange, if_neg (by omega)]

theorem mapRange_beyond (xs : List A) {start stop : Nat} (f : Nat -> A -> A)
    (beyond : xs.length ≤ start) : mapRange xs start stop f = xs := by
  apply List.ext_getElem?
  intro i
  rw [getElem?_mapRange]
  split
  next inside => rw [List.getElem?_eq_none (by omega), Option.map_none]
  next => rfl

theorem mapRange_congr {xs : List A} {start stop : Nat} {f g : Nat -> A -> A}
    (same : ∀ (i : Nat) (x : A), start ≤ i -> i < stop -> xs[i]? = some x -> f i x = g i x) :
    mapRange xs start stop f = mapRange xs start stop g := by
  apply List.ext_getElem?
  intro i
  rw [getElem?_mapRange, getElem?_mapRange]
  split
  next inside =>
    cases found : xs[i]? with
    | none => rfl
    | some x => rw [Option.map_some, Option.map_some, same i x inside.1 inside.2 found]
  next => rfl

theorem getElem?_flatMap_parts {B : Type} {xs : List A} {f : A -> List B} {width : Nat}
    (parts : ∀ x ∈ xs, (f x).length = width) (i : Nat) {j : Nat} (inside : j < width) :
    (xs.flatMap f)[i * width + j]? = xs[i]?.bind fun x => (f x)[j]? := by
  induction xs generalizing i with
  | nil => simp
  | cons x xs ih =>
    have first := parts x List.mem_cons_self
    have rest := ih fun x member => parts x (List.mem_cons_of_mem _ member)
    rw [List.flatMap_cons]
    cases i with
    | zero => rw [Nat.zero_mul, Nat.zero_add, List.getElem?_append_left (by omega)]; rfl
    | succ i =>
      rw [Nat.add_mul, Nat.one_mul, List.getElem?_append_right (by omega), first,
        show i * width + width + j - width = i * width + j by omega, rest i]
      rfl

theorem modify_eq_mapRange (xs : List A) (i : Nat) (f : A -> A) :
    xs.modify i f = mapRange xs i (i + 1) fun _ => f := by
  apply List.ext_getElem?
  intro j
  simp only [List.getElem?_modify, getElem?_mapRange]
  by_cases same : i = j
  next => simp [same]
  next =>
    rw [if_neg (show ¬ (i ≤ j ∧ j < i + 1) by omega)]
    simp [same]

theorem set_same {xs : List A} {i : Nat} {x : A} (found : xs[i]? = some x) : xs.set i x = xs := by
  have inside := (List.getElem?_eq_some_iff.mp found).1
  apply List.ext_getElem?
  intro j
  rw [List.getElem?_set]
  split
  next same => rw [← same, found]
  next => rfl

theorem set_eq_mapRange {xs : List A} {i : Nat} {x : A} (f : A -> A) (found : xs[i]? = some x) :
    xs.set i (f x) = mapRange xs i (i + 1) fun _ => f := by
  have inside := (List.getElem?_eq_some_iff.mp found).1
  apply List.ext_getElem?
  intro j
  rw [List.getElem?_set, getElem?_mapRange]
  by_cases same : i = j
  next => rw [if_pos same, ← same, if_pos inside, if_pos (by omega), found, Option.map_some]
  next => rw [if_neg same, if_neg (by omega)]

theorem mapRange_eq_iff {xs : List A} {start stop : Nat} {f g : Nat -> A -> A} :
    mapRange xs start stop f = mapRange xs start stop g ↔
      ∀ (i : Nat) (x : A), start ≤ i -> i < stop -> xs[i]? = some x -> f i x = g i x := by
  refine ⟨?_, mapRange_congr⟩
  intro same i x low high found
  have here := congrArg (·[i]?) same
  simpa [getElem?_mapRange, low, high, found] using here

theorem mapRange_then (xs : List A) {start middle stop : Nat} (f g : Nat -> A -> A)
    (low : start ≤ middle) (high : middle ≤ stop) :
    mapRange (mapRange xs start middle f) middle stop g =
      mapRange xs start stop fun i => if i < middle then f i else g i := by
  apply List.ext_getElem?
  intro i
  simp only [getElem?_mapRange]
  by_cases left : i < middle
  next =>
    have upper : i < stop := by omega
    simp [left, upper, show ¬ (middle ≤ i) by omega]
  next =>
    have lower : start ≤ i := by omega
    simp [left, lower, show middle ≤ i by omega]

theorem mapRange_mapRange (xs : List A) {start middle stop : Nat} (f : Nat -> A -> A)
    (low : start ≤ middle) (high : middle ≤ stop) :
    mapRange (mapRange xs start middle f) middle stop f = mapRange xs start stop f := by
  rw [mapRange_then xs f f low high]
  simp only [ite_self]

theorem mapRange_comm (xs : List A) {a b c d : Nat} (f g : Nat -> A -> A) (apart : b ≤ c) :
    mapRange (mapRange xs a b f) c d g = mapRange (mapRange xs c d g) a b f := by
  apply List.ext_getElem?
  intro i
  simp only [getElem?_mapRange]
  by_cases left : a ≤ i ∧ i < b
  next => simp [left, show ¬ (c ≤ i ∧ i < d) by omega]
  next => simp [left]

/-! One more entry at the end of the range that a loop has done, or at its start. -/

theorem modify_mapRange (xs : List A) {start i : Nat} (f : Nat -> A -> A) (low : start ≤ i) :
    (mapRange xs start i f).modify i (f i) = mapRange xs start (i + 1) f := by
  rw [modify_eq_mapRange, ← mapRange_mapRange xs f low (Nat.le_succ i)]
  apply mapRange_congr
  intro j x above below _
  rw [show j = i by omega]

theorem set_mapRange {xs : List A} {start i : Nat} {x : A} (f : Nat -> A -> A) (low : start ≤ i)
    (here : xs[i]? = some x) :
    (mapRange xs start i f).set i (f i x) = mapRange xs start (i + 1) f := by
  have unread : (mapRange xs start i f)[i]? = some x := by
    rw [getElem?_mapRange, if_neg (by omega), here]
  rw [set_eq_mapRange (f i) unread, ← modify_eq_mapRange, modify_mapRange xs f low]

theorem set_mapRange_down {xs : List A} {i stop : Nat} {x : A} (f : Nat -> A -> A) (high : i < stop)
    (here : xs[i]? = some x) :
    (mapRange xs (i + 1) stop f).set i (f i x) = mapRange xs i stop f := by
  have unread : (mapRange xs (i + 1) stop f)[i]? = some x := by
    rw [getElem?_mapRange, if_neg (by omega), here]
  rw [set_eq_mapRange (f i) unread, ← mapRange_comm xs _ f (Nat.le_refl _),
    ← mapRange_mapRange xs f (Nat.le_succ i) high]
  congr 1
  apply mapRange_congr
  intro j y above below _
  rw [show j = i by omega]

/-- Entries of `xs` outside `[start, stop)`, entries of `ys` inside. -/
def splice (xs ys : List A) (start stop : Nat) : List A :=
  mapRange xs start stop fun i x => ys[i]?.getD x

@[simp] theorem length_splice (xs ys : List A) (start stop : Nat) :
    (splice xs ys start stop).length = xs.length := length_mapRange ..

theorem getElem?_splice (xs ys : List A) (start stop i : Nat) (same : ys.length = xs.length) :
    (splice xs ys start stop)[i]? = if start ≤ i ∧ i < stop then ys[i]? else xs[i]? := by
  rw [splice, getElem?_mapRange]
  split
  next =>
    by_cases inside : i < xs.length
    next => simp [List.getElem?_eq_getElem (same ▸ inside), inside]
    next => simp [List.getElem?_eq_none (Nat.le_of_not_lt inside),
      List.getElem?_eq_none (same ▸ Nat.le_of_not_lt inside)]
  next => rfl

/-- Move the entries of `[top + count, bottom)` up by `count` and blank the last `count`. -/
def shiftUp (xs : List A) (top bottom count : Nat) (blank : A) : List A :=
  mapRange xs top bottom fun i _ =>
    if i + count < bottom then xs[i + count]?.getD blank else blank

/-- Move the entries of `[top, bottom - count)` down by `count` and blank the first `count`. -/
def shiftDown (xs : List A) (top bottom count : Nat) (blank : A) : List A :=
  mapRange xs top bottom fun i _ =>
    if i < top + count then blank else xs[i - count]?.getD blank

@[simp] theorem length_shiftUp (xs : List A) (top bottom count : Nat) (blank : A) :
    (shiftUp xs top bottom count blank).length = xs.length := length_mapRange ..

@[simp] theorem length_shiftDown (xs : List A) (top bottom count : Nat) (blank : A) :
    (shiftDown xs top bottom count blank).length = xs.length := length_mapRange ..

theorem getElem?_shiftUp (xs : List A) (top bottom count : Nat) (blank : A) (i : Nat)
    (bound : bottom ≤ xs.length) :
    (shiftUp xs top bottom count blank)[i]? =
      if top ≤ i ∧ i < bottom then
        if i + count < bottom then xs[i + count]? else some blank
      else xs[i]? := by
  rw [shiftUp, getElem?_mapRange]
  split
  next inside =>
    have here : xs[i]? = some xs[i] := List.getElem?_eq_getElem (by omega)
    split
    next low =>
      have there : xs[i + count]? = some xs[i + count] := List.getElem?_eq_getElem (by omega)
      simp [here, there]
    next high => simp [here]
  next => rfl

theorem getElem?_shiftDown (xs : List A) (top bottom count : Nat) (blank : A) (i : Nat)
    (bound : bottom ≤ xs.length) :
    (shiftDown xs top bottom count blank)[i]? =
      if top ≤ i ∧ i < bottom then
        if i < top + count then some blank else xs[i - count]?
      else xs[i]? := by
  rw [shiftDown, getElem?_mapRange]
  split
  next inside =>
    have here : xs[i]? = some xs[i] := List.getElem?_eq_getElem (by omega)
    split
    next low => simp [here]
    next high =>
      have there : xs[i - count]? = some xs[i - count] := List.getElem?_eq_getElem (by omega)
      simp [here, there]
  next => rfl

theorem shiftUp_min (xs : List A) (top bottom count : Nat) (blank : A) :
    shiftUp xs top bottom (min count (bottom - top)) blank = shiftUp xs top bottom count blank := by
  apply List.ext_getElem?
  intro i
  simp only [shiftUp, getElem?_mapRange]
  by_cases inside : top ≤ i ∧ i < bottom
  next =>
    by_cases low : i + count < bottom
    next => rw [Nat.min_eq_left (by omega)]
    next => simp [inside, low, show ¬ (i + min count (bottom - top) < bottom) by omega]
  next => rw [if_neg inside, if_neg inside]

theorem shiftDown_min (xs : List A) (top bottom count : Nat) (blank : A) :
    shiftDown xs top bottom (min count (bottom - top)) blank = shiftDown xs top bottom count blank := by
  apply List.ext_getElem?
  intro i
  simp only [shiftDown, getElem?_mapRange]
  by_cases inside : top ≤ i ∧ i < bottom
  next =>
    by_cases low : i < top + count
    next => simp [inside, low, show i < top + min count (bottom - top) by omega]
    next => rw [Nat.min_eq_left (by omega)]
  next => rw [if_neg inside, if_neg inside]

theorem shiftUp_zero (xs : List A) (top bottom : Nat) (blank : A) (bound : bottom ≤ xs.length) :
    shiftUp xs top bottom 0 blank = xs := by
  apply List.ext_getElem?
  intro i
  rw [getElem?_shiftUp _ _ _ _ _ _ bound]
  split <;> simp_all

theorem shiftUp_shiftUp (xs : List A) {top bottom : Nat} (m n : Nat) (blank : A) (bound : bottom ≤ xs.length) :
    shiftUp (shiftUp xs top bottom m blank) top bottom n blank = shiftUp xs top bottom (m + n) blank := by
  apply List.ext_getElem?
  intro i
  rw [getElem?_shiftUp _ _ _ _ _ _ (by rw [length_shiftUp]; exact bound), getElem?_shiftUp _ _ _ _ _ _ bound,
    getElem?_shiftUp _ _ _ _ _ _ bound, getElem?_shiftUp _ _ _ _ _ _ bound]
  by_cases inside : top ≤ i ∧ i < bottom
  next =>
    rw [if_pos inside, if_pos inside, show i + (m + n) = i + n + m by omega]
    by_cases low : i + n < bottom
    next => rw [if_pos low, if_pos (by omega)]
    next => rw [if_neg low, if_neg (by omega)]
  next => rw [if_neg inside, if_neg inside, if_neg inside]

theorem take_shiftUp (xs : List A) {bottom m n : Nat} (blank : A) (fits : m + n ≤ bottom)
    (bound : bottom ≤ xs.length) : (shiftUp xs 0 bottom m blank).take n = (xs.drop m).take n := by
  apply List.ext_getElem?
  intro i
  by_cases low : i < n
  next =>
    rw [List.getElem?_take_of_lt low, List.getElem?_take_of_lt low, getElem?_shiftUp _ _ _ _ _ _ bound,
      if_pos (by omega), if_pos (by omega), List.getElem?_drop, Nat.add_comm]
  next =>
    rw [List.getElem?_eq_none (by rw [List.length_take]; omega),
      List.getElem?_eq_none (by rw [List.length_take]; omega)]

theorem shiftDown_zero (xs : List A) (top bottom : Nat) (blank : A) (bound : bottom ≤ xs.length) :
    shiftDown xs top bottom 0 blank = xs := by
  apply List.ext_getElem?
  intro i
  rw [getElem?_shiftDown _ _ _ _ _ _ bound]
  split
  next inside => rw [if_neg (by omega), Nat.sub_zero]
  next => rfl

/-- What was shifted down and back up again is there but for the last `count` entries, which were pushed out. -/
theorem getElem?_shiftUp_shiftDown (xs : List A) (top bottom count : Nat) (blank : A) (i : Nat)
    (bound : bottom ≤ xs.length) :
    (shiftUp (shiftDown xs top bottom count blank) top bottom count blank)[i]? =
      if top ≤ i ∧ i < bottom then if i + count < bottom then xs[i]? else some blank else xs[i]? := by
  rw [getElem?_shiftUp _ _ _ _ _ _ (by rw [length_shiftDown]; exact bound), getElem?_shiftDown _ _ _ _ _ _ bound,
    getElem?_shiftDown _ _ _ _ _ _ bound]
  by_cases inside : top ≤ i ∧ i < bottom
  next =>
    rw [if_pos inside, if_pos inside]
    by_cases low : i + count < bottom
    next => rw [if_pos low, if_pos low, if_pos ⟨by omega, low⟩, if_neg (by omega), Nat.add_sub_cancel]
    next => rw [if_neg low, if_neg low]
  next => rw [if_neg inside, if_neg inside, if_neg inside]

theorem shiftUp_source {xs : List A} {top bottom count r : Nat} {blank x : A}
    (found : (shiftUp xs top bottom count blank)[r]? = some x) :
    x = blank ∨ ∃ old : Nat, xs[old]? = some x := by
  rw [shiftUp, getElem?_mapRange] at found
  split at found
  next =>
    obtain ⟨_, -, rfl⟩ := Option.map_eq_some_iff.mp found
    split
    next =>
      cases old : xs[r + count]? with
      | none => exact .inl rfl
      | some x => exact .inr ⟨_, old⟩
    next => exact .inl rfl
  next => exact .inr ⟨r, found⟩

theorem shiftDown_source {xs : List A} {top bottom count r : Nat} {blank x : A}
    (found : (shiftDown xs top bottom count blank)[r]? = some x) :
    x = blank ∨ ∃ old : Nat, xs[old]? = some x := by
  rw [shiftDown, getElem?_mapRange] at found
  split at found
  next =>
    obtain ⟨_, -, rfl⟩ := Option.map_eq_some_iff.mp found
    split
    next => exact .inl rfl
    next =>
      cases old : xs[r - count]? with
      | none => exact .inl rfl
      | some x => exact .inr ⟨_, old⟩
  next => exact .inr ⟨r, found⟩

/-- `xs[top..bottom].rotate_left(count)`. -/
def rotateRange (xs : List A) (top bottom count : Nat) : List A :=
  xs.take top ++ ((xs.take bottom).drop top).rotate count ++ xs.drop bottom

@[simp] theorem length_rotateRange (xs : List A) {top bottom : Nat} (count : Nat)
    (order : top ≤ bottom) (bound : bottom ≤ xs.length) :
    (rotateRange xs top bottom count).length = xs.length := by
  simp only [rotateRange, List.length_append, List.length_rotate, List.length_take, List.length_drop]
  omega

theorem getElem?_rotateRange (xs : List A) {top bottom count i : Nat} (order : top ≤ bottom)
    (bound : bottom ≤ xs.length) :
    (rotateRange xs top bottom count)[i]? =
      if top ≤ i ∧ i < bottom then xs[top + (i - top + count) % (bottom - top)]? else xs[i]? := by
  have headLength : (xs.take top).length = top := by simp; omega
  have middleLength : (((xs.take bottom).drop top).rotate count).length = bottom - top := by simp; omega
  rw [rotateRange]
  by_cases low : i < top
  next =>
    rw [List.append_assoc, List.getElem?_append_left (by omega), List.getElem?_take_of_lt low,
      if_neg (by omega)]
  next =>
    by_cases high : i < bottom
    next =>
      have modulus : ((xs.take bottom).drop top).length = bottom - top := by simp; omega
      have small := Nat.mod_lt (i - top + count) (show 0 < bottom - top by omega)
      rw [List.append_assoc, List.getElem?_append_right (by omega), headLength,
        List.getElem?_append_left (by omega), List.getElem?_rotate (by omega), modulus,
        List.getElem?_drop, List.getElem?_take_of_lt (by omega), if_pos (by omega)]
    next =>
      rw [List.getElem?_append_right (by simp; omega), List.getElem?_drop, if_neg (by omega)]
      congr 1
      simp only [List.length_append, headLength, middleLength]
      omega

theorem rotateRange_fillBottom (xs : List A) {top bottom count : Nat} (blank : A)
    (fits : top + count ≤ bottom) (bound : bottom ≤ xs.length) :
    mapRange (rotateRange xs top bottom count) (bottom - count) bottom (fun _ _ => blank) =
      shiftUp xs top bottom count blank := by
  apply List.ext_getElem?
  intro i
  rw [getElem?_mapRange, getElem?_shiftUp _ _ _ _ _ _ bound, getElem?_rotateRange _ (by omega) bound]
  by_cases inside : top ≤ i ∧ i < bottom
  next =>
    by_cases low : i + count < bottom
    next =>
      rw [if_neg (by omega), if_pos inside, if_pos inside, if_pos low,
        Nat.mod_eq_of_lt (by omega)]
      congr 1
      omega
    next =>
      have wrapped : top + (i - top + count) % (bottom - top) < xs.length := by
        have small := Nat.mod_lt (i - top + count) (show 0 < bottom - top by omega)
        omega
      rw [if_pos (by omega), if_pos inside, if_pos inside, if_neg low,
        List.getElem?_eq_getElem wrapped]
      rfl
  next => rw [if_neg (by omega), if_neg inside, if_neg inside]

theorem rotateRange_fillTop (xs : List A) {top bottom count : Nat} (blank : A)
    (fits : top + count ≤ bottom) (bound : bottom ≤ xs.length) :
    mapRange (rotateRange xs top bottom (bottom - top - count)) top (top + count) (fun _ _ => blank) =
      shiftDown xs top bottom count blank := by
  apply List.ext_getElem?
  intro i
  rw [getElem?_mapRange, getElem?_shiftDown _ _ _ _ _ _ bound,
    getElem?_rotateRange _ (by omega) bound]
  by_cases inside : top ≤ i ∧ i < bottom
  next =>
    by_cases low : i < top + count
    next =>
      have wrapped : top + (i - top + (bottom - top - count)) % (bottom - top) < xs.length := by
        have small := Nat.mod_lt (i - top + (bottom - top - count)) (show 0 < bottom - top by omega)
        omega
      rw [if_pos (by omega), if_pos inside, if_pos inside, if_pos low,
        List.getElem?_eq_getElem wrapped]
      rfl
    next =>
      have sum : i - top + (bottom - top - count) = (i - count - top) + (bottom - top) := by omega
      rw [if_neg (by omega), if_pos inside, if_pos inside, if_neg low, sum, Nat.add_mod_right,
        Nat.mod_eq_of_lt (by omega)]
      congr 1
      omega
  next => rw [if_neg (by omega), if_neg inside, if_neg inside]

theorem shiftUp_blanked (xs : List A) {top bottom count : Nat} (blank : A)
    (fits : top + count ≤ bottom) (bound : bottom ≤ xs.length) :
    shiftUp (mapRange xs top (top + count) fun _ _ => blank) top bottom count blank =
      shiftUp xs top bottom count blank := by
  apply List.ext_getElem?
  intro i
  rw [getElem?_shiftUp _ _ _ _ _ _ (by simpa using bound), getElem?_shiftUp _ _ _ _ _ _ bound]
  simp only [getElem?_mapRange]
  by_cases inside : top ≤ i ∧ i < bottom
  next => simp [inside, show ¬ (i + count < top + count) by omega]
  next => simp only [inside, if_false]; rw [if_neg (by omega)]

theorem copy_untouched {xs : List A} {start stop i j : Nat} (change : Nat -> A -> A) (untouched : ¬ (start ≤ j ∧ j < stop))
    (here : i < xs.length) (there : j < xs.length) :
    (get (mapRange xs start stop change) j >>= set (mapRange xs start stop change) i) =
      .ok ((mapRange xs start stop change).set i xs[j]) := by
  have read : (mapRange xs start stop change)[j]? = some xs[j] := by
    rw [getElem?_mapRange, if_neg untouched]
    exact List.getElem?_eq_getElem there
  rw [get_ok read, ok_bind, set_ok _ (by simpa using here)]

theorem forRange_copyUp (xs : List A) (top bottom count : Nat)
    (bound : bottom ≤ xs.length) :
    forRange top (bottom - count) xs (fun xs i => get xs (i + count) >>= set xs i) =
      .ok (mapRange xs top (bottom - count) fun i x => xs[i + count]?.getD x) := by
  by_cases le : top ≤ bottom - count
  next =>
    have run := forRange_eq (fun xs i => get xs (i + count) >>= set xs i)
      (fun i => mapRange xs top i fun j x => xs[j + count]?.getD x) le (by
        intro i low high
        have here : xs[i]? = some xs[i] := List.getElem?_eq_getElem (by omega)
        have there : xs[i + count]? = some xs[i + count] := List.getElem?_eq_getElem (by omega)
        rw [copy_untouched _ (by omega) (by omega) (by omega), ← set_mapRange _ low here, there, Option.getD_some])
    rwa [mapRange_empty xs _ (Nat.le_refl _)] at run
  next =>
    rw [forRange_empty _ _ (by omega), mapRange_empty _ _ (by omega)]

theorem forRangeRev_copyDown (xs : List A) (start stop count : Nat)
    (low : count ≤ start) (bound : stop ≤ xs.length) :
    forRangeRev start stop xs (fun xs i => get xs (i - count) >>= set xs i) =
      .ok (mapRange xs start stop fun i x => xs[i - count]?.getD x) := by
  by_cases le : start ≤ stop
  next =>
    have run := forRangeRev_eq (fun xs i => get xs (i - count) >>= set xs i)
      (fun i => mapRange xs i stop fun j x => xs[j - count]?.getD x) le (by
        intro i low high
        have here : xs[i]? = some xs[i] := List.getElem?_eq_getElem (by omega)
        have there : xs[i - count]? = some xs[i - count] := List.getElem?_eq_getElem (by omega)
        rw [copy_untouched _ (by omega) (by omega) (by omega), ← set_mapRange_down _ high here, there, Option.getD_some])
    rwa [mapRange_empty xs _ (Nat.le_refl _)] at run
  next =>
    rw [forRangeRev_empty _ _ (by omega), mapRange_empty _ _ (by omega)]

theorem copyUp_fill (xs : List A) (top bottom count : Nat) (blank : A)
    (fits : top + count ≤ bottom) (bound : bottom ≤ xs.length) :
    mapRange (mapRange xs top (bottom - count) fun i x => xs[i + count]?.getD x)
      (bottom - count) bottom (fun _ _ => blank) = shiftUp xs top bottom count blank := by
  apply List.ext_getElem?
  intro i
  simp only [getElem?_mapRange, getElem?_shiftUp _ _ _ _ _ _ bound]
  by_cases outside : top ≤ i ∧ i < bottom
  next =>
    have here : xs[i]? = some xs[i] := List.getElem?_eq_getElem (by omega)
    by_cases low : i + count < bottom
    next =>
      have there : xs[i + count]? = some xs[i + count] := List.getElem?_eq_getElem (by omega)
      simp [here, there, outside, low, show ¬ (bottom - count ≤ i) by omega,
        show i < bottom - count by omega]
    next =>
      simp [here, outside, low, show bottom - count ≤ i by omega,
        show ¬ (i < bottom - count) by omega]
  next =>
    rw [if_neg (by omega), if_neg (by omega), if_neg outside]

theorem copyDown_fill (xs : List A) (top bottom count : Nat) (blank : A)
    (bound : bottom ≤ xs.length) :
    mapRange (mapRange xs (top + count) bottom fun i x => xs[i - count]?.getD x)
      top (min (top + count) bottom) (fun _ _ => blank) = shiftDown xs top bottom count blank := by
  apply List.ext_getElem?
  intro i
  simp only [getElem?_mapRange, getElem?_shiftDown _ _ _ _ _ _ bound]
  by_cases inside : top ≤ i ∧ i < bottom
  next =>
    have here : xs[i]? = some xs[i] := List.getElem?_eq_getElem (by omega)
    by_cases low : i < top + count
    next =>
      simp [here, inside, low, show i < min (top + count) bottom by omega,
        show ¬ (top + count ≤ i) by omega]
    next =>
      have there : xs[i - count]? = some xs[i - count] := List.getElem?_eq_getElem (by omega)
      simp [here, there, inside, low, show ¬ (i < min (top + count) bottom) by omega,
        show top + count ≤ i by omega]
  next =>
    rw [if_neg (by omega), if_neg (by omega), if_neg inside]

end Checked
