import Mathlib.Data.List.Basic
import Mathlib.Data.List.Induction
import Mathlib.Data.List.Nodup
import Mathlib.Logic.Function.Iterate

set_option autoImplicit false

/-!
# A cycle whose visits reorder it

A cycle goes through two lists. The first stays as it is, while an element of the second moves to the end of its list when
it is visited. Going forward reaches every element; going backward reaches only the last two of the second list and what
was passed on the way to them.
-/

namespace Raising

structure Rota (A : Type) where
  fixed : List A
  stack : List A
  active : A

def forward (pos length : Nat) : Nat := (pos + 1) % length

def backward (pos length : Nat) : Nat := if pos = 0 then length - 1 else pos - 1

section Reaching

variable {A B : Type}

def Reaches (shown : A -> B) (step : A -> A) (n : Nat) (a : A) (x : B) : Prop := ∃ k ≤ n, shown (step^[k] a) = x

variable {shown : A -> B} {step : A -> A}

theorem Reaches.mono {m n : Nat} {a : A} {x : B} (reaches : Reaches shown step m a x) (le : m ≤ n) :
    Reaches shown step n a x := by
  obtain ⟨k, bound, shows⟩ := reaches
  exact ⟨k, Nat.le_trans bound le, shows⟩

theorem Reaches.after {m n : Nat} {a b : A} {x : B} (first : step^[m] a = b) (reaches : Reaches shown step n b x) :
    Reaches shown step (m + n) a x := by
  obtain ⟨k, bound, shows⟩ := reaches
  refine ⟨k + m, by omega, ?_⟩
  rw [Function.iterate_add_apply, first, shows]

theorem Reaches.now_or_later {n : Nat} {a : A} {x : B} (reaches : Reaches shown step n a x) :
    shown a = x ∨ Reaches shown step n (step a) x := by
  obtain ⟨k, bound, shows⟩ := reaches
  cases k with
  | zero => exact .inl shows
  | succ k => exact .inr ⟨k, by omega, by rw [← Function.iterate_succ_apply, shows]⟩

theorem reaches_now (n : Nat) (a : A) : Reaches shown step n a (shown a) := ⟨0, Nat.zero_le n, rfl⟩

theorem reaches_of_iterate {n : Nat} {a b : A} (run : step^[n] a = b) : Reaches shown step n a (shown b) :=
  ⟨n, Nat.le_refl n, by rw [run]⟩

theorem iterate_keeps {invariant : A -> Prop} (keeps : ∀ a, invariant a -> invariant (step a)) {a : A}
    (holds : invariant a) (n : Nat) : invariant (step^[n] a) := by
  induction n generalizing a with
  | zero => exact holds
  | succ n ih =>
    rw [Function.iterate_succ_apply]
    exact ih (keeps a holds)

end Reaching

namespace Rota

variable {A : Type} [DecidableEq A]

def ids (rota : Rota A) : List A := rota.fixed ++ rota.stack

def raise (stack : List A) (a : A) : List A := if a ∈ stack then stack.erase a ++ [a] else stack

def visit (rota : Rota A) (a : A) : Rota A := { rota with stack := raise rota.stack a, active := a }

def move (step : Nat -> Nat -> Nat) (rota : Rota A) : Rota A :=
  match rota.ids[step (rota.ids.idxOf rota.active) rota.ids.length]? with
  | some a => rota.visit a
  | none => rota

def next (rota : Rota A) : Rota A := rota.move forward

def prev (rota : Rota A) : Rota A := rota.move backward

/-! ## One step -/

theorem move_at {step : Nat -> Nat -> Nat} {rota : Rota A} {front back : List A} {b : A}
    (split : rota.ids = front ++ rota.active :: back) (new : rota.active ∉ front)
    (target : rota.ids[step front.length rota.ids.length]? = some b) : rota.move step = rota.visit b := by
  have pos : rota.ids.idxOf rota.active = front.length := by
    rw [split, List.idxOf_append_of_notMem new, List.idxOf_cons_self, Nat.add_zero]
  rw [move, pos, target]

theorem raise_perm (stack : List A) (a : A) : (raise stack a).Perm stack := by
  unfold raise
  split
  next inside => exact (List.perm_append_singleton a (stack.erase a)).trans (List.perm_cons_erase inside).symm
  next => exact List.Perm.refl _

theorem active_mem_visit {rota : Rota A} {a : A} (member : a ∈ rota.ids) :
    (rota.visit a).active ∈ (rota.visit a).ids := by
  have perm : (rota.visit a).ids.Perm rota.ids := (raise_perm rota.stack a).append_left rota.fixed
  exact perm.mem_iff.mpr member

omit [DecidableEq A] in
theorem notMem_front {fixed stack front back : List A} {a : A} (distinct : (fixed ++ stack).Nodup)
    (split : fixed ++ stack = front ++ a :: back) : a ∉ front := by
  rw [split] at distinct
  exact fun inside => (List.nodup_append.mp distinct).2.2 a inside a List.mem_cons_self rfl

variable {fixed stack : List A} {a b : A}

theorem next_inner {front back : List A} (distinct : (fixed ++ stack).Nodup)
    (split : fixed ++ stack = front ++ a :: b :: back) : next ⟨fixed, stack, a⟩ = visit ⟨fixed, stack, a⟩ b := by
  refine @move_at A _ forward ⟨fixed, stack, a⟩ front (b :: back) b split (notMem_front distinct split) ?_
  rw [ids, split, forward, Nat.mod_eq_of_lt (by simp), List.getElem?_append_right (by omega)]
  simp

theorem next_last {front back : List A} (distinct : (fixed ++ stack).Nodup) (split : fixed ++ stack = front ++ [a])
    (first : fixed ++ stack = b :: back) : next ⟨fixed, stack, a⟩ = visit ⟨fixed, stack, a⟩ b := by
  refine @move_at A _ forward ⟨fixed, stack, a⟩ front [] b split (notMem_front distinct split) ?_
  have length : (fixed ++ stack).length = front.length + 1 := by rw [split]; simp
  rw [ids, forward, length, Nat.mod_self, first]
  rfl

theorem prev_inner {front back : List A} (distinct : (fixed ++ stack).Nodup)
    (split : fixed ++ stack = front ++ b :: a :: back) : prev ⟨fixed, stack, a⟩ = visit ⟨fixed, stack, a⟩ b := by
  have shifted : fixed ++ stack = (front ++ [b]) ++ a :: back := by rw [split]; simp
  refine @move_at A _ backward ⟨fixed, stack, a⟩ (front ++ [b]) back b shifted (notMem_front distinct shifted) ?_
  rw [ids, split, backward, if_neg (by simp)]
  simp

theorem prev_first {front back : List A} (distinct : (fixed ++ stack).Nodup) (split : fixed ++ stack = a :: back)
    (last : fixed ++ stack = front ++ [b]) : prev ⟨fixed, stack, a⟩ = visit ⟨fixed, stack, a⟩ b := by
  refine @move_at A _ backward ⟨fixed, stack, a⟩ [] back b split (notMem_front distinct split) ?_
  rw [ids, backward, List.length_nil, if_pos rfl, last]
  simp

theorem visit_fixed (distinct : (fixed ++ stack).Nodup) (inside : b ∈ fixed) :
    visit ⟨fixed, stack, a⟩ b = ⟨fixed, stack, b⟩ := by
  have apart : b ∉ stack := fun member => (List.nodup_append.mp distinct).2.2 b inside b member rfl
  rw [visit, raise, if_neg apart]

theorem visit_stack {front back : List A} (distinct : (fixed ++ (front ++ b :: back)).Nodup) :
    visit ⟨fixed, front ++ b :: back, a⟩ b = ⟨fixed, front ++ back ++ [b], b⟩ := by
  have new : b ∉ front := notMem_front (List.nodup_append.mp distinct).2.1 rfl
  rw [visit, raise, if_pos (by simp), List.erase_append_right _ new, List.erase_cons_head]

/-! ## Going forward -/

theorem next_walk {front mid back : List A} (distinct : (fixed ++ stack).Nodup)
    (split : fixed = front ++ a :: (mid ++ b :: back)) :
    next^[mid.length + 1] ⟨fixed, stack, a⟩ = ⟨fixed, stack, b⟩ := by
  induction mid generalizing front a with
  | nil =>
    rw [List.length_nil, Function.iterate_one, next_inner distinct (by rw [split]; simp; rfl)]
    exact visit_fixed distinct (by simp [split])
  | cons c mid ih =>
    have first : next ⟨fixed, stack, a⟩ = ⟨fixed, stack, c⟩ := by
      rw [next_inner distinct (by rw [split]; simp; rfl)]
      exact visit_fixed distinct (by simp [split])
    rw [List.length_cons, Function.iterate_succ_apply, first]
    exact @ih c (front ++ [a]) (by simp [split])

theorem next_reaches_behind {front back : List A} {x : A} (distinct : (fixed ++ stack).Nodup)
    (split : fixed = front ++ a :: back) (member : x ∈ a :: back) :
    Reaches active next back.length ⟨fixed, stack, a⟩ x := by
  rcases List.mem_cons.mp member with rfl | member
  next => exact reaches_now _ (⟨fixed, stack, x⟩ : Rota A)
  next =>
    obtain ⟨mid, rest, rfl⟩ := List.append_of_mem member
    exact (reaches_of_iterate (next_walk distinct split)).mono (by simp)

theorem next_to_last {front back : List A} (distinct : (fixed ++ stack).Nodup) (split : fixed = front ++ a :: back) :
    ∃ before z, fixed = before ++ [z] ∧ next^[back.length] ⟨fixed, stack, a⟩ = ⟨fixed, stack, z⟩ := by
  rcases List.eq_nil_or_concat' back with rfl | ⟨mid, z, rfl⟩
  next => exact ⟨front, a, split, rfl⟩
  next =>
    refine ⟨front ++ a :: mid, z, by simp [split], ?_⟩
    rw [List.length_append, List.length_singleton]
    exact next_walk distinct split

theorem next_leaves {front rest : List A} {z f : A} (distinct : (fixed ++ f :: rest).Nodup) (last : fixed = front ++ [z]) :
    next ⟨fixed, f :: rest, z⟩ = ⟨fixed, rest ++ [f], f⟩ := by
  rw [next_inner distinct (by rw [last]; simp; rfl)]
  exact @visit_stack A _ fixed z f [] rest distinct

theorem next_returns {front rest : List A} {t : A} (distinct : (fixed ++ (front ++ [a])).Nodup) (first : fixed = t :: rest) :
    next ⟨fixed, front ++ [a], a⟩ = ⟨fixed, front ++ [a], t⟩ := by
  rw [@next_last A _ fixed (front ++ [a]) a t (fixed ++ front) (rest ++ (front ++ [a])) distinct (by simp)
    (by simp [first])]
  exact visit_fixed distinct (by simp [first])

omit [DecidableEq A] in
theorem nodup_raised {front back : List A} (distinct : (fixed ++ (front ++ b :: back)).Nodup) :
    (fixed ++ (front ++ back ++ [b])).Nodup := by
  have perm : (front ++ back ++ [b]).Perm (front ++ b :: back) := by
    rw [List.append_assoc]
    exact (List.perm_append_singleton b back).append_left front
  exact (perm.append_left fixed).nodup_iff.mpr distinct

theorem next_round {rest ts : List A} {t f : A} (distinct : (fixed ++ f :: rest).Nodup) (first : fixed = t :: ts) :
    next^[fixed.length] ⟨fixed, f :: rest, t⟩ = ⟨fixed, rest ++ [f], f⟩ ∧
      next^[fixed.length + 1] ⟨fixed, f :: rest, t⟩ = ⟨fixed, rest ++ [f], t⟩ := by
  obtain ⟨before, z, last, walked⟩ := @next_to_last A _ fixed (f :: rest) t [] ts distinct first
  have raised : (fixed ++ (rest ++ [f])).Nodup := @nodup_raised A fixed f [] rest distinct
  have length : fixed.length = ts.length + 1 := by simp [first]
  have visited : next^[fixed.length] ⟨fixed, f :: rest, t⟩ = ⟨fixed, rest ++ [f], f⟩ := by
    rw [length, Function.iterate_succ_apply', walked]
    exact next_leaves distinct last
  refine ⟨visited, ?_⟩
  rw [Function.iterate_succ_apply', visited]
  exact next_returns raised first

theorem head_reaches_stack {front back ts : List A} {t x : A} (distinct : (fixed ++ (front ++ x :: back)).Nodup)
    (first : fixed = t :: ts) :
    Reaches active next (front.length * (fixed.length + 1) + fixed.length) ⟨fixed, front ++ x :: back, t⟩ x := by
  induction front generalizing back with
  | nil =>
    have visited := (next_round distinct first).1
    exact (reaches_of_iterate visited).mono (by simp)
  | cons f front ih =>
    have round := (next_round distinct first).2
    have raised := @nodup_raised A fixed f [] (front ++ x :: back) distinct
    rw [List.nil_append, List.append_assoc, List.cons_append] at raised
    have later := ih raised
    rw [← List.cons_append, ← List.append_assoc] at later
    refine (later.after round).mono ?_
    rw [List.length_cons, Nat.succ_mul]
    omega

theorem head_reaches_raised {ts : List A} {t x : A} (distinct : (fixed ++ stack).Nodup) (first : fixed = t :: ts)
    (member : x ∈ stack) : Reaches active next (stack.length * (fixed.length + 1) - 1) ⟨fixed, stack, t⟩ x := by
  obtain ⟨front, back, rfl⟩ := List.append_of_mem member
  refine (head_reaches_stack distinct first).mono ?_
  rw [List.length_append, List.length_cons, Nat.add_mul, Nat.succ_mul]
  omega

theorem head_reaches_fixed {front back ts : List A} {t x : A} (distinct : (fixed ++ stack).Nodup) (first : fixed = t :: ts)
    (split : fixed = front ++ x :: back) : Reaches active next front.length ⟨fixed, stack, t⟩ x := by
  cases front with
  | nil =>
    obtain rfl : t = x := (List.cons.inj (first.symm.trans split)).1
    exact reaches_now _ (⟨fixed, stack, t⟩ : Rota A)
  | cons head mid =>
    obtain rfl : t = head := (List.cons.inj (first.symm.trans split)).1
    exact reaches_of_iterate (@next_walk A _ fixed stack t x [] mid back distinct split)

theorem to_head {front back ts : List A} {t : A} (distinct : (fixed ++ stack).Nodup) (first : fixed = t :: ts)
    (split : fixed = front ++ a :: back) :
    ∃ n later, n ≤ back.length + 1 + min 1 stack.length ∧ later.Perm stack ∧
      next^[n] ⟨fixed, stack, a⟩ = ⟨fixed, later, t⟩ := by
  obtain ⟨before, z, last, walked⟩ := next_to_last distinct split
  cases stack with
  | nil =>
    refine ⟨back.length + 1, [], by simp, List.Perm.refl _, ?_⟩
    rw [Function.iterate_succ_apply', walked, @next_last A _ fixed [] z t before ts distinct (by simp [last]) (by simp [first])]
    exact visit_fixed distinct (by simp [first])
  | cons f rest =>
    refine ⟨back.length + 2, rest ++ [f], by simp, List.perm_append_singleton f rest, ?_⟩
    rw [Function.iterate_succ_apply', Function.iterate_succ_apply', walked, next_leaves distinct last]
    exact next_returns (@nodup_raised A fixed f [] rest distinct) first

theorem stack_to_head {front back ts : List A} {t : A} (distinct : (fixed ++ (front ++ a :: back)).Nodup)
    (first : fixed = t :: ts) :
    ∃ n later, n ≤ 2 ∧ later.Perm (front ++ a :: back) ∧ next^[n] ⟨fixed, front ++ a :: back, a⟩ = ⟨fixed, later, t⟩ := by
  cases back with
  | nil => exact ⟨1, front ++ [a], by omega, List.Perm.refl _, next_returns distinct first⟩
  | cons b back =>
    have split : front ++ a :: b :: back = (front ++ [a]) ++ b :: back := by simp
    have moved : next ⟨fixed, front ++ a :: b :: back, a⟩ = ⟨fixed, front ++ [a] ++ back ++ [b], b⟩ := by
      rw [@next_inner A _ fixed (front ++ a :: b :: back) a b (fixed ++ front) back distinct (by simp), split]
      exact visit_stack (split ▸ distinct)
    have raised := @nodup_raised A fixed b (front ++ [a]) back (split ▸ distinct)
    refine ⟨2, front ++ [a] ++ back ++ [b], by omega, ?_, ?_⟩
    next =>
      rw [split, List.append_assoc]
      exact (List.perm_append_singleton b back).append_left _
    next =>
      rw [Function.iterate_succ_apply', Function.iterate_one, moved]
      exact next_returns raised first

theorem next_reaches {x : A} (distinct : (fixed ++ stack).Nodup) (some : fixed ≠ []) (start : a ∈ fixed ++ stack)
    (member : x ∈ fixed ++ stack) :
    Reaches active next ((fixed.length + 1) * (stack.length + 1)) ⟨fixed, stack, a⟩ x := by
  obtain ⟨t, ts, first⟩ := List.exists_cons_of_ne_nil some
  have length : fixed.length = ts.length + 1 := by simp [first]
  have bound : (fixed.length + 1) * (stack.length + 1) = stack.length * (fixed.length + 1) + (fixed.length + 1) := by
    rw [Nat.mul_comm, Nat.succ_mul]
  -- The head is reached in one turn through the first list, and what is left of the bound is enough for the second.
  have raised_reached : ∀ {n later}, later.Perm stack -> next^[n] ⟨fixed, stack, a⟩ = ⟨fixed, later, t⟩ ->
      n ≤ fixed.length + 1 -> x ∈ stack ->
      Reaches active next ((fixed.length + 1) * (stack.length + 1)) ⟨fixed, stack, a⟩ x := by
    intro n later perm run short inside
    have whole := perm.append_left fixed
    have reached := head_reaches_raised (whole.nodup_iff.mpr distinct) first (perm.mem_iff.mpr inside)
    rw [perm.length_eq] at reached
    refine (reached.after run).mono ?_
    omega
  rcases List.mem_append.mp start with tiled | raised
  next =>
    obtain ⟨front, back, split⟩ := List.append_of_mem tiled
    obtain ⟨n, later, short, perm, run⟩ := to_head distinct first split
    have parts : fixed.length = front.length + (back.length + 1) := by simp [split]
    rcases List.mem_append.mp member with inside | inside
    next =>
      rw [split] at inside
      rcases List.mem_append.mp inside with before | behind
      next =>
        obtain ⟨pre, post, rfl⟩ := List.append_of_mem before
        have whole := perm.append_left fixed
        have at_head : fixed = pre ++ x :: (post ++ a :: back) := by simp [split]
        have reached := head_reaches_fixed (whole.nodup_iff.mpr distinct) first at_head
        refine (reached.after run).mono ?_
        rw [List.length_append, List.length_cons] at parts
        omega
      next => exact (next_reaches_behind distinct split behind).mono (by omega)
    next => exact raised_reached perm run (by omega) inside
  next =>
    obtain ⟨front, back, rfl⟩ := List.append_of_mem raised
    obtain ⟨n, later, short, perm, run⟩ := stack_to_head distinct first
    rcases List.mem_append.mp member with inside | inside
    next =>
      obtain ⟨pre, post, split⟩ := List.append_of_mem inside
      have whole := perm.append_left fixed
      have reached := head_reaches_fixed (whole.nodup_iff.mpr distinct) first split
      have parts : fixed.length = pre.length + (post.length + 1) := by simp [split]
      refine (reached.after run).mono ?_
      omega
    next => exact raised_reached perm run (by omega) inside

/-! ## Going backward -/

theorem prev_walk {front mid back : List A} (distinct : (fixed ++ stack).Nodup)
    (split : fixed = front ++ b :: (mid ++ a :: back)) :
    prev^[mid.length + 1] ⟨fixed, stack, a⟩ = ⟨fixed, stack, b⟩ := by
  induction mid using List.reverseRecOn generalizing a back with
  | nil =>
    rw [List.length_nil, Function.iterate_one, prev_inner distinct (by rw [split]; simp; rfl)]
    exact visit_fixed distinct (by simp [split])
  | append_singleton mid c ih =>
    have first : prev ⟨fixed, stack, a⟩ = ⟨fixed, stack, c⟩ := by
      rw [@prev_inner A _ fixed stack a c (front ++ b :: mid) (back ++ stack) distinct (by simp [split])]
      exact visit_fixed distinct (by simp [split])
    rw [List.length_append, List.length_singleton, Function.iterate_succ_apply, first]
    exact @ih c (a :: back) (by simp [split])

theorem prev_to_head {front back ts : List A} {t : A} (distinct : (fixed ++ stack).Nodup) (first : fixed = t :: ts)
    (split : fixed = front ++ a :: back) : prev^[front.length] ⟨fixed, stack, a⟩ = ⟨fixed, stack, t⟩ := by
  cases front with
  | nil =>
    obtain rfl : t = a := (List.cons.inj (first.symm.trans split)).1
    rfl
  | cons head mid =>
    obtain rfl : t = head := (List.cons.inj (first.symm.trans split)).1
    exact @prev_walk A _ fixed stack a t [] mid back distinct split

theorem prev_reaches_before {front back : List A} {x : A} (distinct : (fixed ++ stack).Nodup)
    (split : fixed = front ++ a :: back) (member : x ∈ front ++ [a]) :
    Reaches active prev front.length ⟨fixed, stack, a⟩ x := by
  rcases List.mem_append.mp member with member | member
  next =>
    obtain ⟨pre, mid, rfl⟩ := List.append_of_mem member
    refine (reaches_of_iterate (@prev_walk A _ fixed stack a x pre mid back distinct (by simp [split]))).mono ?_
    rw [List.length_append, List.length_cons]
    omega
  next =>
    obtain rfl := List.mem_singleton.mp member
    exact reaches_now _ (⟨fixed, stack, x⟩ : Rota A)

theorem last_reaches {front back before : List A} {x z : A} (distinct : (fixed ++ stack).Nodup)
    (last : fixed = before ++ [z]) (split : fixed = front ++ x :: back) :
    Reaches active prev back.length ⟨fixed, stack, z⟩ x := by
  rcases List.eq_nil_or_concat' back with rfl | ⟨mid, y, rfl⟩
  next =>
    obtain ⟨-, same⟩ := List.append_inj' (last.symm.trans split) rfl
    obtain rfl := List.singleton_inj.mp same
    exact reaches_now _ (⟨fixed, stack, z⟩ : Rota A)
  next =>
    have whole : before ++ [z] = (front ++ x :: mid) ++ [y] := by rw [← last, split]; simp
    obtain ⟨-, same⟩ := List.append_inj' whole rfl
    obtain rfl := List.singleton_inj.mp same
    exact (reaches_of_iterate (@prev_walk A _ fixed stack z x front mid [] distinct split)).mono (by simp)

theorem prev_climbs {front ts : List A} {t f : A} (distinct : (fixed ++ (front ++ [f])).Nodup) (first : fixed = t :: ts) :
    prev ⟨fixed, front ++ [f], t⟩ = ⟨fixed, front ++ [f], f⟩ := by
  rw [@prev_first A _ fixed (front ++ [f]) t f (fixed ++ front) (ts ++ (front ++ [f])) distinct (by simp [first]) (by simp)]
  have raised := @visit_stack A _ fixed t f front [] distinct
  rwa [List.append_nil] at raised

theorem prev_wraps {front ts : List A} {t z : A} (distinct : (fixed ++ []).Nodup) (first : fixed = t :: ts)
    (last : fixed = front ++ [z]) : prev ⟨fixed, [], t⟩ = ⟨fixed, [], z⟩ := by
  rw [@prev_first A _ fixed [] t z front ts distinct (by simp [first]) (by simp [last])]
  exact visit_fixed distinct (by simp [last])

theorem prev_inside {front back : List A} (distinct : (fixed ++ (front ++ b :: a :: back)).Nodup) :
    prev ⟨fixed, front ++ b :: a :: back, a⟩ = ⟨fixed, front ++ a :: back ++ [b], b⟩ := by
  rw [@prev_inner A _ fixed (front ++ b :: a :: back) a b (fixed ++ front) back distinct (by simp)]
  exact visit_stack distinct

theorem prev_descends {front back : List A} {z : A} (distinct : (fixed ++ a :: back).Nodup) (last : fixed = front ++ [z]) :
    prev ⟨fixed, a :: back, a⟩ = ⟨fixed, a :: back, z⟩ := by
  rw [@prev_inner A _ fixed (a :: back) a z front back distinct (by simp [last])]
  exact visit_fixed distinct (by simp [last])

theorem last_reaches_top {base before ts : List A} {t x y z w : A} (distinct : (fixed ++ (base ++ [x, y])).Nodup)
    (first : fixed = t :: ts) (last : fixed = before ++ [z]) (member : w ∈ fixed ∨ w = x ∨ w = y) :
    Reaches active prev (fixed.length + 1) ⟨fixed, base ++ [x, y], z⟩ w := by
  have length : fixed.length = before.length + 1 := by simp [last]
  rcases member with inside | top
  next =>
    obtain ⟨front, back, split⟩ := List.append_of_mem inside
    have parts : fixed.length = front.length + (back.length + 1) := by simp [split]
    exact (last_reaches distinct last split).mono (by omega)
  next =>
    have walked := prev_to_head distinct first last
    have climbed : prev ⟨fixed, base ++ [x, y], t⟩ = ⟨fixed, base ++ [x, y], y⟩ := by
      have step := @prev_climbs A _ fixed (base ++ [x]) ts t y (by simpa using distinct) first
      simpa using step
    have swapped := @prev_inside A _ fixed y x base [] distinct
    rcases top with rfl | rfl
    next =>
      have run : prev^[2] ⟨fixed, base ++ [w, y], t⟩ = ⟨fixed, base ++ [y] ++ [w], w⟩ := by
        rw [Function.iterate_succ_apply', Function.iterate_one, climbed, swapped]
      exact ((reaches_of_iterate run).after walked).mono (by omega)
    next =>
      have run : prev^[1] ⟨fixed, base ++ [x, w], t⟩ = ⟨fixed, base ++ [x, w], w⟩ := climbed
      exact ((reaches_of_iterate run).after walked).mono (by omega)

/-- Of the last two elements each is in front of the other in turn. -/
def Trapped (fixed base : List A) (x y : A) (rota : Rota A) : Prop :=
  rota = ⟨fixed, base ++ [x, y], y⟩ ∨ rota = ⟨fixed, base ++ [y, x], x⟩

theorem Trapped.prev {base : List A} {x y : A} {rota : Rota A} (distinct : (fixed ++ (base ++ [x, y])).Nodup)
    (trapped : Trapped fixed base x y rota) : Trapped fixed base x y rota.prev := by
  have swap : (base ++ [y, x]).Perm (base ++ [x, y]) := (List.Perm.swap x y []).append_left base
  have swapped : (fixed ++ (base ++ [y, x])).Nodup := (swap.append_left fixed).nodup_iff.mpr distinct
  rcases trapped with rfl | rfl
  next =>
    right
    rw [@prev_inside A _ fixed y x base [] distinct]
    simp
  next =>
    left
    rw [@prev_inside A _ fixed x y base [] swapped]
    simp

theorem trapped_unreached {base : List A} {x y w : A} {count : Nat} {rota : Rota A}
    (distinct : (fixed ++ (base ++ [x, y])).Nodup) (trapped : Trapped fixed base x y rota) (other : w ≠ x ∧ w ≠ y) :
    ¬Reaches Rota.active Rota.prev count rota w := by
  rintro ⟨k, -, shows⟩
  have later := @iterate_keeps _ Rota.prev (Trapped fixed base x y) (fun _ => Trapped.prev distinct) rota trapped k
  rcases later with is | is
  next => exact other.2 (by rw [← shows, is])
  next => exact other.1 (by rw [← shows, is])

def Descending (fixed base : List A) (x y : A) (n : Nat) (rota : Rota A) : Prop :=
  (∃ front a back, fixed = front ++ a :: back ∧ front.length ≤ n ∧ rota = ⟨fixed, base ++ [x, y], a⟩) ∨
    Trapped fixed base x y rota

theorem Descending.prev {base : List A} {x y : A} {n : Nat} {rota : Rota A}
    (distinct : (fixed ++ (base ++ [x, y])).Nodup) (descending : Descending fixed base x y n rota) :
    Descending fixed base x y n rota.prev := by
  rcases descending with ⟨front, a, back, split, bound, rfl⟩ | trapped
  next =>
    rcases List.eq_nil_or_concat' front with rfl | ⟨front, b, rfl⟩
    next =>
      have climbed := @prev_climbs A _ fixed (base ++ [x]) back a y (by simpa using distinct) split
      exact .inr (.inl (by simpa using climbed))
    next =>
      have moved : Rota.prev ⟨fixed, base ++ [x, y], a⟩ = ⟨fixed, base ++ [x, y], b⟩ :=
        @prev_walk A _ fixed (base ++ [x, y]) a b front [] back distinct (by simp [split])
      refine .inl ⟨front, b, a :: back, by simp [split], ?_, moved⟩
      rw [List.length_append, List.length_singleton] at bound
      omega
  next => exact .inr (trapped.prev distinct)

omit [DecidableEq A] in
theorem Descending.active {base : List A} {x y : A} {n : Nat} {rota : Rota A}
    (descending : Descending fixed base x y n rota) :
    rota.active ∈ fixed.take (n + 1) ∨ rota.active = x ∨ rota.active = y := by
  rcases descending with ⟨front, a, back, split, bound, rfl⟩ | rfl | rfl
  next =>
    left
    have here : fixed[front.length]? = some a := by simp [split]
    refine List.mem_of_getElem? (i := front.length) ?_
    rw [List.getElem?_take_of_lt (by omega)]
    exact here
  next => exact .inr (.inr rfl)
  next => exact .inr (.inl rfl)

theorem unreached {base : List A} {x y w : A} {n count : Nat} {rota : Rota A}
    (distinct : (fixed ++ (base ++ [x, y])).Nodup) (descending : Descending fixed base x y n rota)
    (behind : w ∉ fixed.take (n + 1)) (other : w ≠ x ∧ w ≠ y) : ¬Reaches Rota.active Rota.prev count rota w := by
  rintro ⟨k, -, rfl⟩
  have later := @iterate_keeps _ Rota.prev (Descending fixed base x y n) (fun _ => Descending.prev distinct) rota descending k
  exact later.active.elim behind fun top => top.elim other.1 other.2

theorem prev_reaches_none {x : A} (distinct : (fixed ++ []).Nodup) (start : a ∈ fixed) (member : x ∈ fixed) :
    Reaches active prev fixed.length ⟨fixed, [], a⟩ x := by
  obtain ⟨front, back, split⟩ := List.append_of_mem start
  obtain ⟨t, ts, first⟩ := List.exists_cons_of_ne_nil (List.ne_nil_of_mem start)
  obtain ⟨before, z, last⟩ := (List.eq_nil_or_concat' fixed).resolve_left (List.ne_nil_of_mem start)
  have parts : fixed.length = front.length + (back.length + 1) := by simp [split]
  have inside := member
  rw [split, ← List.singleton_append, ← List.append_assoc] at inside
  rcases List.mem_append.mp inside with before_a | behind
  next => exact (prev_reaches_before distinct split before_a).mono (by omega)
  next =>
    obtain ⟨pre, post, rfl⟩ := List.append_of_mem behind
    have run : prev^[front.length + 1] ⟨fixed, [], a⟩ = ⟨fixed, [], z⟩ := by
      rw [Function.iterate_succ_apply', prev_to_head distinct first split]
      exact prev_wraps distinct first last
    have reached := @last_reaches A _ fixed [] (front ++ a :: pre) post before x z distinct last (by simp [split])
    refine (reached.after run).mono ?_
    rw [List.length_append, List.length_cons] at parts
    omega

theorem prev_reaches_one {f x : A} (distinct : (fixed ++ [f]).Nodup) (some : fixed ≠ []) (start : a ∈ fixed ++ [f])
    (member : x ∈ fixed ++ [f]) : Reaches active prev (fixed.length + 1) ⟨fixed, [f], a⟩ x := by
  obtain ⟨t, ts, first⟩ := List.exists_cons_of_ne_nil some
  obtain ⟨before, z, last⟩ := (List.eq_nil_or_concat' fixed).resolve_left some
  have down : prev ⟨fixed, [f], f⟩ = ⟨fixed, [f], z⟩ := prev_descends distinct last
  rcases List.mem_append.mp start with tiled | top
  next =>
    obtain ⟨front, back, split⟩ := List.append_of_mem tiled
    have parts : fixed.length = front.length + (back.length + 1) := by simp [split]
    have up : prev^[front.length + 1] ⟨fixed, [f], a⟩ = ⟨fixed, [f], f⟩ := by
      rw [Function.iterate_succ_apply', prev_to_head distinct first split]
      exact @prev_climbs A _ fixed [] ts t f distinct first
    rcases List.mem_append.mp member with inside | inside
    next =>
      rw [split, ← List.singleton_append, ← List.append_assoc] at inside
      rcases List.mem_append.mp inside with before_a | behind
      next => exact (prev_reaches_before distinct split before_a).mono (by omega)
      next =>
        obtain ⟨pre, post, rfl⟩ := List.append_of_mem behind
        have run : prev^[front.length + 2] ⟨fixed, [f], a⟩ = ⟨fixed, [f], z⟩ := by
          rw [Function.iterate_succ_apply', up, down]
        have reached := @last_reaches A _ fixed [f] (front ++ a :: pre) post before x z distinct last (by simp [split])
        refine (reached.after run).mono ?_
        rw [List.length_append, List.length_cons] at parts
        omega
    next =>
      obtain rfl := List.mem_singleton.mp inside
      exact (reaches_of_iterate up).mono (by omega)
  next =>
    obtain rfl := List.mem_singleton.mp top
    rcases List.mem_append.mp member with inside | inside
    next =>
      obtain ⟨pre, post, split⟩ := List.append_of_mem inside
      have parts : fixed.length = pre.length + (post.length + 1) := by simp [split]
      have run : prev^[1] ⟨fixed, [a], a⟩ = ⟨fixed, [a], z⟩ := down
      exact ((last_reaches distinct last split).after run).mono (by omega)
    next =>
      obtain rfl := List.mem_singleton.mp inside
      exact reaches_now _ (⟨fixed, [x], x⟩ : Rota A)

omit [DecidableEq A] in
theorem apart_of_append {w v : A} (distinct : (fixed ++ stack).Nodup) (left : w ∈ fixed) (right : v ∈ stack) : w ≠ v :=
  (List.nodup_append.mp distinct).2.2 w left v right

theorem unreached_behind {front back base : List A} {x y w : A} {count : Nat}
    (distinct : (fixed ++ (base ++ [x, y])).Nodup) (split : fixed = front ++ a :: back) (member : w ∈ back) :
    ¬Reaches active prev count ⟨fixed, base ++ [x, y], a⟩ w := by
  have start : Descending fixed base x y front.length ⟨fixed, base ++ [x, y], a⟩ :=
    .inl ⟨front, a, back, split, Nat.le_refl _, rfl⟩
  have passed : fixed.take (front.length + 1) = front ++ [a] := by
    rw [split, ← List.singleton_append, ← List.append_assoc]
    exact List.take_left' (by simp)
  have inside : w ∈ fixed := by simp [split, member]
  have behind : w ∉ front ++ [a] := by
    have whole : fixed ++ (base ++ [x, y]) = (front ++ [a]) ++ (back ++ (base ++ [x, y])) := by simp [split]
    rw [whole] at distinct
    exact fun before => apart_of_append distinct before (List.mem_append_left _ member) rfl
  exact unreached distinct start (passed ▸ behind)
    ⟨apart_of_append distinct inside (by simp), apart_of_append distinct inside (by simp)⟩

theorem unreached_below {front back base : List A} {x y w : A} {count : Nat}
    (distinct : (fixed ++ (base ++ [x, y])).Nodup) (split : fixed = front ++ a :: back) (member : w ∈ base) :
    ¬Reaches active prev count ⟨fixed, base ++ [x, y], a⟩ w := by
  have start : Descending fixed base x y front.length ⟨fixed, base ++ [x, y], a⟩ :=
    .inl ⟨front, a, back, split, Nat.le_refl _, rfl⟩
  have stacked := (List.nodup_append.mp distinct).2.1
  refine unreached distinct start (fun passed => ?_)
    ⟨apart_of_append stacked member (by simp), apart_of_append stacked member (by simp)⟩
  exact apart_of_append distinct (List.mem_of_mem_take passed) (List.mem_append_left _ member) rfl

theorem unreached_from_raised {front back : List A} {count : Nat} {t : A}
    (distinct : (fixed ++ (front ++ b :: a :: back)).Nodup) (member : t ∈ fixed) :
    ¬Reaches active prev count ⟨fixed, front ++ b :: a :: back, a⟩ t := by
  intro reaches
  rcases reaches.now_or_later with now | later
  next => exact apart_of_append distinct member (by simp) now.symm
  next =>
    rw [prev_inside distinct] at later
    have raised := nodup_raised distinct
    obtain ⟨base, x, same⟩ := (List.eq_nil_or_concat' (a :: back)).resolve_left (List.cons_ne_nil a back)
    have shape : front ++ a :: back ++ [b] = (front ++ base) ++ [x, b] := by simp [same]
    rw [shape] at later raised
    exact trapped_unreached raised (.inl rfl)
      ⟨apart_of_append raised member (by simp), apart_of_append raised member (by simp)⟩ later

/-- Every element is reached going backward when the second list has at most one, when it has two and the start is at the
end of the first list, or when it has two or three and the start is the first of them. -/
theorem prev_reaches_iff (distinct : (fixed ++ stack).Nodup) (some : fixed ≠ []) (start : a ∈ fixed ++ stack) :
    (∀ x ∈ fixed ++ stack, Reaches active prev ((fixed.length + 1) * (stack.length + 1)) ⟨fixed, stack, a⟩ x) ↔
      stack.length ≤ 1 ∨ stack.length = 2 ∧ fixed.getLast? = .some a ∨ stack.length ≤ 3 ∧ stack.head? = .some a := by
  obtain ⟨t, ts, first⟩ := List.exists_cons_of_ne_nil some
  obtain ⟨before, z, last⟩ := (List.eq_nil_or_concat' fixed).resolve_left some
  have widest : fixed.length + 1 ≤ (fixed.length + 1) * (stack.length + 1) := Nat.le_mul_of_pos_right _ (Nat.succ_pos _)
  constructor
  next =>
    intro reached
    by_contra refused
    obtain ⟨many, notEnd, notFirst⟩ := not_or.mp refused |>.imp_right not_or.mp
    obtain ⟨base, x, y, rfl⟩ : ∃ base x y, stack = base ++ [x, y] := by
      rcases List.eq_nil_or_concat' stack with rfl | ⟨front, y, rfl⟩
      next => exact absurd (Nat.zero_le 1) many
      rcases List.eq_nil_or_concat' front with rfl | ⟨base, x, rfl⟩
      next => exact absurd (Nat.le_refl 1) many
      next => exact ⟨base, x, y, by simp⟩
    rcases List.mem_append.mp start with tiled | raised
    next =>
      obtain ⟨front, back, split⟩ := List.append_of_mem tiled
      cases back with
      | cons w back => exact unreached_behind distinct split List.mem_cons_self (reached w (by simp [split]))
      | nil =>
        cases base with
        | nil => exact notEnd ⟨rfl, by simp [split]⟩
        | cons w base => exact unreached_below distinct split List.mem_cons_self (reached w (by simp))
    next =>
      obtain ⟨front, back, split⟩ := List.append_of_mem raised
      rcases List.eq_nil_or_concat' front with rfl | ⟨front, b, rfl⟩
      next =>
        -- From the bottom the end of the first list comes next, and the element above the bottom is missed.
        have atFirst : (base ++ [x, y]).head? = .some a := by simp [split]
        match base with
        | [] | [_] => exact notFirst ⟨by simp, atFirst⟩
        | first :: w :: base =>
          obtain rfl : first = a := by simpa using atFirst
          have stacked := (List.nodup_append.mp distinct).2.1
          rcases (reached w (by simp)).now_or_later with now | later
          next => exact (List.nodup_cons.mp stacked).1 (by simp [show first = w from now])
          next =>
            have down : prev ⟨fixed, first :: w :: base ++ [x, y], first⟩ = ⟨fixed, first :: w :: base ++ [x, y], z⟩ :=
              prev_descends distinct last
            rw [down] at later
            exact unreached_below distinct last (by simp) later
      next =>
        rw [List.append_assoc, List.singleton_append] at split
        have unseen := reached t (by simp [first])
        rw [split] at unseen distinct
        exact unreached_from_raised distinct (by simp [first]) unseen
  next =>
    intro cases x member
    match stack, cases with
    | [], _ =>
      simp only [List.append_nil] at start member
      exact (prev_reaches_none distinct start member).mono (by omega)
    | [f], _ => exact (prev_reaches_one distinct some start member).mono widest
    | f :: g :: rest, cases =>
      have tall : (fixed.length + 1) * 3 ≤ (fixed.length + 1) * ((f :: g :: rest).length + 1) :=
        Nat.mul_le_mul_left _ (by simp)
      rcases cases with few | ⟨two, atEnd⟩ | ⟨three, atFirst⟩
      next => simp at few
      next =>
        obtain rfl : rest = [] := by simpa using two
        obtain rfl : z = a := by simpa [last] using atEnd
        refine (@last_reaches_top A _ fixed [] before ts t f g z x distinct first last ?_).mono widest
        simpa using member
      next =>
        obtain rfl : f = a := by simpa using atFirst
        have down : prev^[1] ⟨fixed, f :: g :: rest, f⟩ = ⟨fixed, f :: g :: rest, z⟩ := prev_descends distinct last
        match rest, three with
        | [], _ =>
          have reached := @last_reaches_top A _ fixed [] before ts t f g z x distinct first last (by simpa using member)
          exact (reached.after down).mono (by omega)
        | [h], _ =>
          rcases List.mem_append.mp member with inside | inside
          next =>
            have reached := @last_reaches_top A _ fixed [f] before ts t g h z x distinct first last (.inl inside)
            exact (reached.after down).mono (by omega)
          next =>
            rcases List.mem_cons.mp inside with rfl | top
            next => exact reaches_now _ (⟨fixed, [x, g, h], x⟩ : Rota A)
            next =>
              have reached := @last_reaches_top A _ fixed [f] before ts t g h z x distinct first last (.inr (by simpa using top))
              exact (reached.after down).mono (by omega)
        | _ :: _ :: _, three =>
          simp only [List.length_cons] at three
          omega

end Rota

end Raising
