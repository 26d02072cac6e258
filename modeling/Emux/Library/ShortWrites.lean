import Mathlib.Algebra.Order.Group.Nat
import Mathlib.Algebra.GroupWithZero.Nat
import Mathlib.Data.List.Basic

set_option autoImplicit false

/-!
# Writers that take a part

A loop that offers a writer what is left of its data until all of it is taken. While the writer is not ready the loop
pauses, each time twice as long up to a bound, and from the beginning again once something was taken.
-/

namespace ShortWrites

/-- What the writer does when it is called: it takes what it has room for, or nothing. -/
inductive Outcome (E : Type) where
  | room (count : Nat)
  | notReady
  | failed (error : E)
  deriving DecidableEq, Repr

/-- The writer does not fail, and takes something when it is ready. -/
def Outcome.works {E : Type} : Outcome E -> Bool
  | .room count => count != 0
  | .notReady => true
  | .failed _ => false

def Outcome.capacity {E : Type} : Outcome E -> Nat
  | .room count => count
  | _ => 0

inductive Fault (E : Type) where
  | writeZero
  | failed (error : E)
  deriving DecidableEq, Repr

structure Progress (A E : Type) where
  taken : List A := []
  pauses : List Nat := []
  /-- `none` while the loop goes on. -/
  ended : Option (Except (Fault E) Unit) := none
  deriving DecidableEq

variable {A E : Type}

/-- `least` and `most` bound the pauses, `pause` is the next one. -/
def writeAll (least most : Nat) : List (Outcome E) -> Nat -> List A -> Progress A E
  | _, _, [] => { ended := some (.ok ()) }
  | [], _, _ :: _ => {}
  | .room 0 :: _, _, _ :: _ => { ended := some (.error .writeZero) }
  | .room (count + 1) :: rest, _, a :: data =>
    let later := writeAll least most rest least ((a :: data).drop (count + 1))
    { later with taken := (a :: data).take (count + 1) ++ later.taken }
  | .notReady :: rest, pause, a :: data =>
    let later := writeAll least most rest (min (pause * 2) most) (a :: data)
    { later with pauses := pause :: later.pauses }
  | .failed error :: _, _, _ :: _ => { ended := some (.error (.failed error)) }

section Loop

variable {least most pause : Nat} {outcomes : List (Outcome E)} {data : List A}

theorem writeAll_prefix : (writeAll least most outcomes pause data).taken <+: data := by
  fun_induction writeAll least most outcomes pause data with
  | case1 | case2 | case3 | case6 => exact List.nil_prefix
  | case4 count rest pause a data later ih =>
    obtain ⟨left, whole⟩ := ih
    exact ⟨left, by rw [List.append_assoc, whole, List.take_append_drop]⟩
  | case5 rest pause a data later ih => exact ih

theorem writeAll_ok_iff : (writeAll least most outcomes pause data).ended = some (.ok ()) ↔
    (writeAll least most outcomes pause data).taken = data := by
  fun_induction writeAll least most outcomes pause data with
  | case1 => simp
  | case2 | case3 | case6 => simp
  | case4 count rest pause a data later ih =>
    refine ih.trans ⟨fun all => ?_, fun all => ?_⟩
    next => rw [all, List.take_append_drop]
    next => exact List.append_cancel_left (all.trans (List.take_append_drop _ _).symm)
  | case5 rest pause a data later ih => exact ih

theorem writeAll_completes (works : ∀ outcome ∈ outcomes, outcome.works = true)
    (enough : data.length ≤ (outcomes.map Outcome.capacity).sum) :
    (writeAll least most outcomes pause data).ended = some (.ok ()) := by
  fun_induction writeAll least most outcomes pause data with
  | case1 => rfl
  | case2 => simp at enough
  | case3 => simp [Outcome.works] at works
  | case4 count rest pause a data later ih =>
    refine ih (List.forall_mem_cons.mp works).2 ?_
    simp only [List.map_cons, List.sum_cons, Outcome.capacity, List.length_drop] at enough ⊢
    omega
  | case5 rest pause a data later ih =>
    exact ih (List.forall_mem_cons.mp works).2 (by simpa [Outcome.capacity] using enough)
  | case6 => simp [Outcome.works] at works

theorem writeAll_pauses (least_le : least ≤ most) (first : least ≤ pause ∧ pause ≤ most) :
    ∀ waited ∈ (writeAll least most outcomes pause data).pauses, least ≤ waited ∧ waited ≤ most := by
  fun_induction writeAll least most outcomes pause data with
  | case1 | case2 | case3 | case6 => nofun
  | case4 count rest pause a data later ih => exact ih ⟨Nat.le_refl _, least_le⟩
  | case5 rest pause a data later ih =>
    refine List.forall_mem_cons.mpr ⟨first, ih ⟨?_, Nat.min_le_right ..⟩⟩
    omega

end Loop

end ShortWrites
