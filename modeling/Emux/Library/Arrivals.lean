import Mathlib.Data.List.Basic

set_option autoImplicit false

/-!
# Reads of a stream that may fail

A stream is what its reader will see: symbols, and reads that fail in between. Reading a fixed number of symbols
drops those that came before a failed read.
-/

namespace Arrivals

variable {B F : Type}

inductive Arrival (B F : Type) where
  | symbol (value : B)
  | failed (kind : F)
  deriving DecidableEq, Repr

abbrev Feed (B F : Type) := List (Arrival B F)

inductive ReadError (F : Type) where
  | failed (kind : F)
  | unexpectedEof
  deriving DecidableEq, Repr

/-- `read_exact` into a buffer of this length, and the stream after it. -/
def readExact : Nat -> Feed B F -> Except (ReadError F) (List B) × Feed B F
  | 0, stream => (.ok [], stream)
  | _ + 1, [] => (.error .unexpectedEof, [])
  | _ + 1, .failed kind :: rest => (.error (.failed kind), rest)
  | count + 1, .symbol value :: rest =>
    match readExact count rest with
    | (.ok values, rest) => (.ok (value :: values), rest)
    | (.error error, rest) => (.error error, rest)

def symbols (values : List B) : Feed B F := values.map .symbol

@[simp] theorem symbols_nil : (symbols [] : Feed B F) = [] := rfl

@[simp] theorem symbols_cons (value : B) (values : List B) :
    (symbols (value :: values) : Feed B F) = .symbol value :: symbols values := rfl

@[simp] theorem symbols_append (first second : List B) :
    (symbols (first ++ second) : Feed B F) = symbols first ++ symbols second := List.map_append

@[simp] theorem length_symbols (values : List B) : (symbols values : Feed B F).length = values.length :=
  List.length_map _

def received (stream : Feed B F) : List B :=
  stream.filterMap fun arrival => match arrival with
    | .symbol value => some value
    | .failed _ => none

@[simp] theorem received_nil : received ([] : Feed B F) = [] := rfl

@[simp] theorem received_symbol (value : B) (rest : Feed B F) : received (.symbol value :: rest) = value :: received rest :=
  rfl

@[simp] theorem received_failed (kind : F) (rest : Feed B F) : received (.failed kind :: rest) = received rest := rfl

@[simp] theorem received_append (first second : Feed B F) :
    received (first ++ second) = received first ++ received second := List.filterMap_append

@[simp] theorem received_symbols (values : List B) : received (symbols values : Feed B F) = values := by
  induction values with
  | nil => rfl
  | cons value rest ih => rw [symbols_cons, received_symbol, ih]

theorem readExact_symbols {count : Nat} {values : List B} (enough : count ≤ values.length) (rest : Feed B F) :
    readExact count (symbols values ++ rest) = (.ok (values.take count), symbols (values.drop count) ++ rest) := by
  induction values generalizing count with
  | nil =>
    obtain rfl : count = 0 := by simpa using enough
    rfl
  | cons value values ih =>
    cases count with
    | zero => rfl
    | succ count =>
      have tail := @ih count (by simpa using enough)
      simp only [symbols_cons, List.cons_append, readExact, tail, List.take_succ_cons, List.drop_succ_cons]

theorem readExact_length (count : Nat) (stream : Feed B F) : (readExact count stream).2.length ≤ stream.length := by
  fun_induction readExact count stream with
  | case1 stream => exact Nat.le_refl _
  | case2 count => exact Nat.le_refl _
  | case3 count kind rest => exact Nat.le_succ _
  | case4 count value rest values rest' read ih =>
    rw [read] at ih
    exact Nat.le_succ_of_le ih
  | case5 count value rest error rest' read ih =>
    rw [read] at ih
    exact Nat.le_succ_of_le ih

theorem readExact_takes {count : Nat} (some : 0 < count) (stream : Feed B F) :
    (readExact count stream).1 = .error .unexpectedEof ∨ (readExact count stream).2.length < stream.length := by
  obtain ⟨count, rfl⟩ := Nat.exists_eq_succ_of_ne_zero (Nat.pos_iff_ne_zero.mp some)
  cases stream with
  | nil => exact .inl rfl
  | cons arrival rest =>
    refine .inr (Nat.lt_succ_of_le ?_)
    cases arrival with
    | failed kind => exact Nat.le_refl _
    | symbol value =>
      have shorter := readExact_length count rest
      cases read : readExact count rest with
      | mk result after =>
        rw [read] at shorter
        cases result <;> simpa only [readExact, read] using shorter

theorem readExact_beyond {count : Nat} {values : List B} (short : values.length < count) (rest : Feed B F) :
    (readExact count (symbols values ++ rest)).1 = .error .unexpectedEof ∨
      (readExact count (symbols values ++ rest)).2.length < rest.length := by
  induction values generalizing count with
  | nil => exact readExact_takes short rest
  | cons value values ih =>
    obtain ⟨count, rfl⟩ := Nat.exists_eq_add_of_lt (Nat.zero_lt_of_lt short)
    rw [Nat.zero_add] at short ⊢
    have tail := @ih count (by simpa using short)
    cases read : readExact count (symbols values ++ rest) with
    | mk result after =>
      rw [read] at tail
      cases result with
      | ok values' => simpa [readExact, read] using tail
      | error error => simpa [readExact, read] using tail

theorem readExact_barrier (count : Nat) (before : Feed B F) (kind : F) (after : Feed B F) :
    (∃ kept, (readExact count (before ++ .failed kind :: after)).2 = kept ++ .failed kind :: after) ∨
      readExact count (before ++ .failed kind :: after) = (.error (.failed kind), after) := by
  induction before generalizing count with
  | nil =>
    cases count with
    | zero => exact .inl ⟨[], rfl⟩
    | succ count => exact .inr rfl
  | cons arrival before ih =>
    cases count with
    | zero => exact .inl ⟨arrival :: before, rfl⟩
    | succ count =>
      cases arrival with
      | failed other => exact .inl ⟨before, rfl⟩
      | symbol value =>
        rcases ih count with ⟨kept, stays⟩ | fails
        next =>
          refine .inl ⟨kept, ?_⟩
          rw [← stays]
          cases read : readExact count (before ++ .failed kind :: after) with
          | mk result rest =>
            cases result <;> simp only [List.cons_append, readExact, read]
        next => exact .inr (by simp only [List.cons_append, readExact, fails])

end Arrivals
