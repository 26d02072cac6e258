import Mathlib.Data.List.Basic

set_option autoImplicit false

/-!
# Computations that may panic

Bounds-checked list accesses, checked subtraction and counted loops, with the rules
that compute a loop from the state it is in before each iteration.
-/

namespace Checked

inductive Panic where
  | index
  | division
  | arithmetic
  | slice
  deriving DecidableEq, Repr

abbrev Fallible (A : Type) := Except Panic A

variable {A B S : Type}

@[simp] theorem ok_bind (a : A) (next : A -> Fallible B) :
    ((Except.ok a : Fallible A) >>= next) = next a := rfl

@[simp] theorem error_bind (panic : Panic) (next : A -> Fallible B) :
    ((Except.error panic : Fallible A) >>= next) = .error panic := rfl

theorem bind_ok_iff (x : Fallible A) (next : A -> Fallible B) (b : B) :
    (x >>= next) = .ok b ↔ ∃ a, x = .ok a ∧ next a = .ok b := by
  cases x with
  | error panic => simp
  | ok a => simp

def get (xs : List A) (i : Nat) : Fallible A :=
  match xs[i]? with
  | some x => .ok x
  | none => .error .index

def modify (xs : List A) (i : Nat) (f : A -> A) : Fallible (List A) :=
  if i < xs.length then .ok (xs.modify i f) else .error .index

def set (xs : List A) (i : Nat) (x : A) : Fallible (List A) :=
  modify xs i fun _ => x

def sub (a b : Nat) : Fallible Nat :=
  if b ≤ a then .ok (a - b) else .error .arithmetic

/-- Addition in an unsigned type with this many values. -/
def add (limit a b : Nat) : Fallible Nat :=
  if a + b < limit then .ok (a + b) else .error .arithmetic

def mul (limit a b : Nat) : Fallible Nat :=
  if a * b < limit then .ok (a * b) else .error .arithmetic

def divCeil (a b : Nat) : Fallible Nat :=
  if b = 0 then .error .division else .ok ((a + b - 1) / b)

theorem get_ok {xs : List A} {i : Nat} {x : A} (found : xs[i]? = some x) : get xs i = .ok x := by
  simp [get, found]

theorem modify_ok {xs : List A} {i : Nat} (f : A -> A) (inside : i < xs.length) :
    modify xs i f = .ok (xs.modify i f) := if_pos inside

theorem set_ok {xs : List A} {i : Nat} (x : A) (inside : i < xs.length) :
    set xs i x = .ok (xs.set i x) := by
  rw [set, modify_ok _ inside, List.set_eq_modify]

theorem sub_ok {a b : Nat} (le : b ≤ a) : sub a b = .ok (a - b) := if_pos le

theorem add_ok {limit a b : Nat} (fits : a + b < limit) : add limit a b = .ok (a + b) := if_pos fits

theorem mul_ok {limit a b : Nat} (fits : a * b < limit) : mul limit a b = .ok (a * b) := if_pos fits

/-- `if condition { body }`. -/
def onlyIf (condition : Prop) [Decidable condition] (state : S) (body : S -> Fallible S) : Fallible S :=
  if condition then body state else .ok state

theorem onlyIf_true {condition : Prop} [Decidable condition] (state : S) (body : S -> Fallible S)
    (holds : condition) : onlyIf condition state body = body state := if_pos holds

theorem onlyIf_false {condition : Prop} [Decidable condition] (state : S) (body : S -> Fallible S)
    (fails : ¬ condition) : onlyIf condition state body = .ok state := if_neg fails

/-- `for i in start..stop`. -/
def forRange (start stop : Nat) (state : S) (body : S -> Nat -> Fallible S) : Fallible S :=
  (List.range' start (stop - start)).foldlM body state

/-- `for i in (start..stop).rev()`. -/
def forRangeRev (start stop : Nat) (state : S) (body : S -> Nat -> Fallible S) : Fallible S :=
  (List.range' start (stop - start)).reverse.foldlM body state

theorem forRange_empty {start stop : Nat} (state : S) (body : S -> Nat -> Fallible S)
    (empty : stop ≤ start) : forRange start stop state body = .ok state := by
  simp [forRange, Nat.sub_eq_zero_of_le empty, pure, Except.pure]

theorem forRangeRev_empty {start stop : Nat} (state : S) (body : S -> Nat -> Fallible S)
    (empty : stop ≤ start) : forRangeRev start stop state body = .ok state := by
  simp [forRangeRev, Nat.sub_eq_zero_of_le empty, pure, Except.pure]

theorem forRange_eq {start stop : Nat} (body : S -> Nat -> Fallible S) (state : Nat -> S)
    (le : start ≤ stop)
    (step : ∀ i, start ≤ i -> i < stop -> body (state i) i = .ok (state (i + 1))) :
    forRange start stop (state start) body = .ok (state stop) := by
  obtain ⟨count, rfl⟩ := Nat.exists_eq_add_of_le le
  rw [forRange, Nat.add_sub_cancel_left]
  clear le
  induction count generalizing start with
  | zero => rfl
  | succ count ih =>
    have tail := @ih (start + 1) fun i low high => step i (by omega) (by omega)
    rw [List.range'_succ, List.foldlM_cons, step start (by omega) (by omega), ok_bind, tail]
    congr 2
    omega

theorem forRangeRev_eq {start stop : Nat} (body : S -> Nat -> Fallible S) (state : Nat -> S)
    (le : start ≤ stop)
    (step : ∀ i, start ≤ i -> i < stop -> body (state (i + 1)) i = .ok (state i)) :
    forRangeRev start stop (state stop) body = .ok (state start) := by
  obtain ⟨count, rfl⟩ := Nat.exists_eq_add_of_le le
  rw [forRangeRev, Nat.add_sub_cancel_left]
  clear le
  induction count with
  | zero => rfl
  | succ count ih =>
    have head := ih fun i low high => step i low (by omega)
    rw [List.range'_concat, List.reverse_append, List.reverse_singleton, List.singleton_append,
      List.foldlM_cons, Nat.one_mul]
    have last := step (start + count) (by omega) (by omega)
    rw [Nat.add_assoc] at last
    rw [last, ok_bind, head]

/-- `for a in items`, where each body appends to one output. -/
def forEach (items : List A) (body : A -> Fallible (List B)) : Fallible (List B) :=
  match items with
  | [] => .ok []
  | a :: rest => do
    let first <- body a
    let later <- forEach rest body
    .ok (first ++ later)

theorem forEach_ok {items : List A} {body : A -> Fallible (List B)} {out : A -> List B}
    (one : ∀ a ∈ items, body a = .ok (out a)) : forEach items body = .ok (items.flatMap out) := by
  induction items with
  | nil => rfl
  | cons a rest ih =>
    have later := ih fun b member => one b (List.mem_cons_of_mem a member)
    rw [forEach, one a List.mem_cons_self, later]
    rfl

theorem mapM_indices {ys : List A} {start : Nat} {body : Nat -> Fallible A}
    (one : ∀ i y, ys[i]? = some y -> body (start + i) = .ok y) : (List.range' start ys.length).mapM body = .ok ys := by
  induction ys generalizing start with
  | nil => rfl
  | cons y rest ih =>
    have head : body start = .ok y := one 0 y rfl
    have tail := @ih (start + 1) fun i z found => by
      rw [Nat.add_assoc, Nat.add_comm 1 i]
      exact one (i + 1) z found
    rw [List.length_cons, List.range'_succ, List.mapM_cons, head, ok_bind, tail]
    rfl

theorem forEach_panics {items : List A} {body : A -> Fallible (List B)} {a : A} {panic : Panic} (member : a ∈ items)
    (panics : body a = .error panic) : ∃ panic, forEach items body = .error panic := by
  induction items with
  | nil => cases member
  | cons b rest ih =>
    rw [forEach]
    cases first : body b with
    | error panic => exact ⟨panic, rfl⟩
    | ok out =>
      rcases List.mem_cons.mp member with rfl | later
      next => cases panics.symm.trans first
      next =>
        obtain ⟨panic, stopped⟩ := ih later
        exact ⟨panic, by rw [stopped]; rfl⟩

end Checked
