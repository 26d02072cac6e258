import Mathlib.Data.List.Basic
import Mathlib.Data.List.DropRight
import Mathlib.Data.List.Perm.Basic

set_option autoImplicit false

/-!
# Loops that take elements out of a list

A queue that drops its oldest entries while it is longer than its limit. A loop that must not change the list it walks,
notes what is to go, and takes it out afterwards from the back: by position, or by key.
-/

namespace Checked

variable {A : Type}

/-- `while queue.len() > limit { queue.pop_front() }`. -/
def trimFront (limit : Nat) : List A -> List A
  | [] => []
  | x :: xs => if limit < xs.length + 1 then trimFront limit xs else x :: xs

theorem trimFront_eq_drop (limit : Nat) (xs : List A) :
    trimFront limit xs = xs.drop (xs.length - limit) := by
  induction xs with
  | nil => simp [trimFront]
  | cons x xs ih =>
    by_cases long : limit < xs.length + 1
    next =>
      have more : (x :: xs).length - limit = (xs.length - limit) + 1 := by simp; omega
      rw [trimFront, if_pos long, ih, more, List.drop_succ_cons]
    next =>
      have none : (x :: xs).length - limit = 0 := by simp; omega
      rw [trimFront, if_neg long, none, List.drop_zero]

theorem trimFront_eq_rtake (limit : Nat) (xs : List A) : trimFront limit xs = xs.rtake limit :=
  trimFront_eq_drop limit xs

theorem trimFront_of_le {limit : Nat} {xs : List A} (le : xs.length ≤ limit) :
    trimFront limit xs = xs := by
  rw [trimFront_eq_drop, Nat.sub_eq_zero_of_le le, List.drop_zero]

theorem length_trimFront (limit : Nat) (xs : List A) :
    (trimFront limit xs).length = min xs.length limit := by
  rw [trimFront_eq_drop, List.length_drop]
  omega

theorem trimFront_suffix (limit : Nat) (xs : List A) : trimFront limit xs <:+ xs := by
  rw [trimFront_eq_drop]
  exact List.drop_suffix _ _

theorem reverse_trimFront (limit : Nat) (xs : List A) : (trimFront limit xs).reverse = xs.reverse.take limit := by
  rw [trimFront_eq_drop, List.take_reverse]

theorem mem_of_mem_trimFront {limit : Nat} {xs : List A} {x : A} (member : x ∈ trimFront limit xs) :
    x ∈ xs := (trimFront_suffix limit xs).subset member

theorem trimFront_append_trimFront (limit : Nat) (xs ys : List A) :
    trimFront limit (trimFront limit xs ++ ys) = trimFront limit (xs ++ ys) := by
  simp only [trimFront_eq_drop, List.length_append, List.length_drop, List.drop_append]
  by_cases long : limit ≤ xs.length
  next =>
    rw [List.drop_drop]
    congr 2 <;> omega
  next =>
    have none : xs.length - limit = 0 := by omega
    simp [none]

end Checked

namespace Removal

variable {A K V : Type}

def marked (bad : A -> Bool) (items : List A) : List Nat := (items.zipIdx.filter fun item => bad item.1).map Prod.snd

/-- `for i in positions.into_iter().rev() { items.remove(i); }` -/
def removeAll (items : List A) (positions : List Nat) : List A := positions.reverse.foldl List.eraseIdx items

theorem marked_cons (bad : A -> Bool) (a : A) (rest : List A) :
    marked bad (a :: rest) = (if bad a then [0] else []) ++ (marked bad rest).map (· + 1) := by
  unfold marked
  rw [List.zipIdx_cons', List.filter_cons, List.filter_map]
  by_cases goes : bad a = true
  next => simp [goes, Function.comp_def]
  next => simp [goes, Function.comp_def]

theorem removeAll_succ (a : A) (rest : List A) (positions : List Nat) :
    removeAll (a :: rest) (positions.map (· + 1)) = a :: removeAll rest positions := by
  unfold removeAll
  rw [← List.map_reverse]
  generalize positions.reverse = order
  induction order generalizing rest with
  | nil => rfl
  | cons position order ih => exact ih (rest.eraseIdx position)

theorem removeAll_marked (bad : A -> Bool) (items : List A) :
    removeAll items (marked bad items) = items.filter fun a => !bad a := by
  induction items with
  | nil => rfl
  | cons a rest ih =>
    rw [marked_cons]
    by_cases goes : bad a = true
    next =>
      have last : removeAll (a :: rest) (0 :: (marked bad rest).map (· + 1)) =
          (removeAll (a :: rest) ((marked bad rest).map (· + 1))).eraseIdx 0 := by
        rw [removeAll, List.reverse_cons, List.foldl_append]
        rfl
      rw [if_pos goes, List.singleton_append, last, removeAll_succ, ih]
      simp [goes]
    next =>
      rw [if_neg goes, List.nil_append, removeAll_succ, ih]
      simp [goes]

theorem getElem_marked (bad : A -> Bool) (items : List A) :
    ((marked bad items).filterMap fun i => items[i]?) = items.filter bad := by
  induction items with
  | nil => rfl
  | cons a rest ih =>
    have later : (((marked bad rest).map (· + 1)).filterMap fun i => (a :: rest)[i]?) = rest.filter bad := by
      rw [List.filterMap_map, ← ih]
      rfl
    rw [marked_cons, List.filterMap_append, later]
    by_cases goes : bad a = true
    next => simp [goes]
    next => simp [goes]

section Keys

variable [DecidableEq K]

/-- `if let Some(pos) = entries.iter().position(|(k, _)| k == key) { entries.remove(pos) }` -/
def takeKey (key : K) (entries : List (K × V)) : Option (V × List (K × V)) :=
  (entries.findIdx? fun entry => entry.1 = key).bind fun pos =>
    entries[pos]?.map fun entry => (entry.2, entries.eraseIdx pos)

theorem takeKey_append {key : K} {before : List (K × V)} (fresh : key ∉ before.map Prod.fst) (value : V)
    (after : List (K × V)) : takeKey key (before ++ (key, value) :: after) = some (value, before ++ after) := by
  have missing : (before.findIdx? fun entry => entry.1 = key) = none := by
    refine List.findIdx?_eq_none_iff.mpr fun entry member => decide_eq_false fun same => fresh ?_
    exact List.mem_map.mpr ⟨entry, member, same⟩
  have position : ((before ++ (key, value) :: after).findIdx? fun entry => entry.1 = key) = some before.length := by
    rw [List.findIdx?_append, missing, List.findIdx?_cons]
    simp
  simp only [takeKey, position, Option.bind_some, List.getElem?_append_right (Nat.le_refl _), Nat.sub_self,
    List.getElem?_cons_zero, Option.map_some, List.eraseIdx_append_of_length_le (Nat.le_refl _), List.eraseIdx_cons_zero]

theorem takeKey_perm {key : K} {value : V} {entries rest : List (K × V)} (taken : takeKey key entries = some (value, rest)) :
    (value :: rest.map Prod.snd).Perm (entries.map Prod.snd) := by
  obtain ⟨pos, -, there⟩ := Option.bind_eq_some_iff.mp taken
  obtain ⟨entry, found, same⟩ := Option.map_eq_some_iff.mp there
  obtain ⟨inside, rfl⟩ := List.getElem?_eq_some_iff.mp found
  obtain ⟨rfl, rfl⟩ := Prod.mk.inj same
  exact (List.getElem_cons_eraseIdx_perm inside).map Prod.snd

end Keys

end Removal
