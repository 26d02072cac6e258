import Mathlib.Algebra.GroupWithZero.Nat
import Mathlib.Data.List.Basic
import Mathlib.Algebra.BigOperators.Group.List.Basic

set_option autoImplicit false

/-!
# Splitting a line by quotation marks and backslashes

The rules: the name of the program comes first and goes up to the first blank outside quotation marks, which are left out
of it. White space separates the arguments outside quotation marks. Of the backslashes before a mark two stand for one, and
one more makes the mark a character of the argument; elsewhere a backslash is a character.
-/

namespace Arguments

def isBlank (c : Char) : Bool := c == ' ' || c == '\t'

/-- The words of a line: whether a mark is open, the backslashes just read, and the word so far. -/
def splitFrom : Bool -> Nat -> Option (List Char) -> List Char -> List (List Char)
  | _, slashes, word, [] => (word.map fun word => word ++ List.replicate slashes '\\').toList
  | quoted, slashes, word, '\\' :: rest => splitFrom quoted (slashes + 1) (some (word.getD [])) rest
  | quoted, slashes, word, '"' :: rest =>
    let word := word.getD [] ++ List.replicate (slashes / 2) '\\'
    if slashes % 2 = 0 then splitFrom (!quoted) 0 (some word) rest else splitFrom quoted 0 (some (word ++ ['"'])) rest
  | quoted, slashes, word, c :: rest =>
    if isBlank c && !quoted then (word.map fun word => word ++ List.replicate slashes '\\').toList ++ splitFrom false 0 none rest
    else splitFrom quoted 0 (some (word.getD [] ++ List.replicate slashes '\\' ++ [c])) rest

def readProgram : Bool -> List Char -> List Char × List Char
  | _, [] => ([], [])
  | quoted, '"' :: rest => readProgram (!quoted) rest
  | quoted, c :: rest =>
    if isBlank c && !quoted then ([], c :: rest)
    else
      let (name, rest) := readProgram quoted rest
      (c :: name, rest)

def splitCommandLine (line : List Char) : List Char × List (List Char) :=
  let (program, rest) := readProgram false line
  (program, splitFrom false 0 none rest)

def weight (word : List Char) : Nat := 2 * word.count '\\' + word.count '"'

def total (words : List (List Char)) : Nat := (words.map weight).sum

def lineWeight : Nat -> List Char -> Nat
  | slashes, [] => 2 * slashes
  | slashes, '\\' :: rest => lineWeight (slashes + 1) rest
  | slashes, '"' :: rest => slashes + lineWeight 0 rest
  | slashes, _ :: rest => 2 * slashes + lineWeight 0 rest

@[simp] theorem weight_append (first second : List Char) : weight (first ++ second) = weight first + weight second := by
  simp only [weight, List.count_append]
  omega

@[simp] theorem weight_replicate (count : Nat) : weight (List.replicate count '\\') = 2 * count := by
  simp [weight, List.count_replicate]

theorem weight_plain {c : Char} (noSlash : c ≠ '\\') (noMark : c ≠ '"') : weight [c] = 0 := by
  simp [weight, noSlash, noMark]

theorem total_cons (word : List Char) (words : List (List Char)) : total (word :: words) = weight word + total words := rfl

theorem total_append (first second : List (List Char)) : total (first ++ second) = total first + total second := by
  simp [total]

theorem lineWeight_plain (slashes : Nat) {c : Char} (noSlash : c ≠ '\\') (noMark : c ≠ '"') (rest : List Char) :
    lineWeight slashes (c :: rest) = 2 * slashes + lineWeight 0 rest := by
  rw [lineWeight] <;> assumption

theorem total_ended {slashes : Nat} {word : Option (List Char)} (begun : 0 < slashes -> word.isSome = true) :
    total (word.map fun word => word ++ List.replicate slashes '\\').toList = weight (word.getD []) + 2 * slashes := by
  cases word with
  | none =>
    obtain rfl : slashes = 0 := by simpa using begun
    rfl
  | some word => simp [total]

theorem total_splitFrom (quoted : Bool) {slashes : Nat} {word : Option (List Char)} (begun : 0 < slashes -> word.isSome = true)
    (line : List Char) : total (splitFrom quoted slashes word line) = weight (word.getD []) + lineWeight slashes line := by
  fun_induction splitFrom quoted slashes word line with
  | case1 quoted slashes word => exact total_ended begun
  | case2 quoted slashes word rest ih => rw [ih (by simp), lineWeight, Option.getD_some]
  | case3 quoted slashes word rest next even ih =>
    rw [ih (by simp), lineWeight, Option.getD_some, weight_append, weight_replicate]
    omega
  | case4 quoted slashes word rest next odd ih =>
    have mark : weight ['"'] = 1 := rfl
    rw [ih (by simp), lineWeight, Option.getD_some, weight_append, weight_append, weight_replicate, mark]
    omega
  | case5 quoted slashes word c rest noSlash noMark blank ih =>
    have nothing : weight [] = 0 := rfl
    rw [total_append, total_ended begun, ih (by simp), lineWeight_plain slashes noSlash noMark, Option.getD_none, nothing]
    omega
  | case6 quoted slashes word c rest noSlash noMark blank ih =>
    rw [ih (by simp), lineWeight_plain slashes noSlash noMark, Option.getD_some, weight_append, weight_append, weight_replicate,
      weight_plain noSlash noMark]
    omega

section Split

variable {c : Char} {rest : List Char}

theorem isBlank_ne (blank : isBlank c = true) : c ≠ '\\' ∧ c ≠ '"' := by
  constructor <;> rintro rfl <;> cases blank

theorem splitFrom_blank (blank : isBlank c = true) (slashes : Nat) (word : Option (List Char)) (rest : List Char) :
    splitFrom false slashes word (c :: rest) =
      (word.map fun word => word ++ List.replicate slashes '\\').toList ++ splitFrom false 0 none rest := by
  obtain ⟨noSlash, noMark⟩ := isBlank_ne blank
  rw [splitFrom, if_pos (by rw [blank]; rfl)] <;> assumption

theorem splitFrom_char {quoted : Bool} (noSlash : c ≠ '\\') (noMark : c ≠ '"') (inside : quoted = true ∨ isBlank c = false)
    (slashes : Nat) (word : Option (List Char)) (rest : List Char) : splitFrom quoted slashes word (c :: rest) =
      splitFrom quoted 0 (some (word.getD [] ++ List.replicate slashes '\\' ++ [c])) rest := by
  rw [splitFrom, if_neg (by rcases inside with rfl | plain <;> simp [*])] <;> assumption

def Separated (rest : List Char) : Prop := ∀ c, rest.head? = some c -> isBlank c = true

theorem splitFrom_separated (separated : Separated rest) (slashes : Nat) (word : List Char) :
    splitFrom false slashes (some word) rest = (word ++ List.replicate slashes '\\') :: splitFrom false 0 none rest := by
  cases rest with
  | nil => rfl
  | cons c tail =>
    have blank := separated c rfl
    rw [splitFrom_blank blank, splitFrom_blank blank]
    rfl

theorem splitFrom_bare (separated : Separated rest) (slashes : Nat) (word : List Char) {bare : List Char}
    (noBlank : ∀ c ∈ bare, isBlank c = false) (noMark : '"' ∉ bare) :
    splitFrom false slashes (some word) (bare ++ rest) =
      (word ++ List.replicate slashes '\\' ++ bare) :: splitFrom false 0 none rest := by
  induction bare generalizing slashes word with
  | nil => rw [List.nil_append, List.append_nil, splitFrom_separated separated]
  | cons c bare ih =>
    obtain ⟨plain, later⟩ := List.forall_mem_cons.mp noBlank
    obtain ⟨unmarked, others⟩ := not_or.mp (mt List.mem_cons.mpr noMark)
    rw [List.cons_append]
    by_cases slash : c = '\\'
    next =>
      subst slash
      rw [splitFrom, Option.getD_some, ih _ _ later others, List.replicate_succ', List.append_assoc, List.append_assoc,
        List.append_assoc, List.singleton_append]
    next =>
      rw [splitFrom_char slash (Ne.symm unmarked) (.inr plain), ih _ _ later others]
      simp

theorem splitFrom_begun (quoted : Bool) (plain : isBlank c = false) (rest : List Char) :
    splitFrom quoted 0 none (c :: rest) = splitFrom quoted 0 (some []) (c :: rest) := by
  by_cases slash : c = '\\'
  next => subst slash; rfl
  next =>
    by_cases mark : c = '"'
    next => subst mark; rfl
    next => rw [splitFrom_char slash mark (.inr plain), splitFrom_char slash mark (.inr plain)]; rfl

end Split

section Weights

variable {rest : List Char}

theorem lineWeight_separated (separated : Separated rest) (slashes : Nat) :
    lineWeight slashes rest = 2 * slashes + lineWeight 0 rest := by
  cases rest with
  | nil => rfl
  | cons c tail =>
    obtain ⟨noSlash, noMark⟩ := isBlank_ne (separated c rfl)
    rw [lineWeight_plain _ noSlash noMark, lineWeight_plain _ noSlash noMark, Nat.mul_zero, Nat.zero_add]

theorem lineWeight_append (separated : Separated rest) (slashes : Nat) (line : List Char) :
    lineWeight slashes (line ++ rest) = lineWeight slashes line + lineWeight 0 rest := by
  fun_induction lineWeight slashes line with
  | case1 slashes => exact lineWeight_separated separated slashes
  | case2 slashes line ih => exact ih
  | case3 slashes line ih => rw [List.cons_append, lineWeight, ih, Nat.add_assoc]
  | case4 slashes c line noSlash noMark ih => rw [List.cons_append, lineWeight_plain _ noSlash noMark, ih, Nat.add_assoc]

theorem lineWeight_slashes (slashes count : Nat) (line : List Char) :
    lineWeight slashes (List.replicate count '\\' ++ line) = lineWeight (slashes + count) line := by
  induction count generalizing slashes with
  | zero => rfl
  | succ count ih =>
    rw [List.replicate_succ, List.cons_append, lineWeight, ih]
    congr 1
    omega

theorem lineWeight_unmarked (slashes : Nat) {word : List Char} (noMark : '"' ∉ word) :
    lineWeight slashes word = 2 * slashes + weight word := by
  induction word generalizing slashes with
  | nil => rfl
  | cons c word ih =>
    obtain ⟨unmarked, others⟩ := not_or.mp (mt List.mem_cons.mpr noMark)
    have split := weight_append [c] word
    rw [List.singleton_append] at split
    by_cases slash : c = '\\'
    next =>
      subst slash
      have two : weight ['\\'] = 2 := rfl
      rw [lineWeight, ih _ others]
      omega
    next =>
      have zero := weight_plain slash (Ne.symm unmarked)
      rw [lineWeight_plain _ slash (Ne.symm unmarked), ih _ others]
      omega

end Weights

section Program

variable {rest : List Char}

theorem readProgram_mark (quoted : Bool) (rest : List Char) : readProgram quoted ('"' :: rest) = readProgram (!quoted) rest := rfl

theorem readProgram_char {quoted : Bool} {c : Char} (noMark : c ≠ '"') (inside : quoted = true ∨ isBlank c = false)
    (rest : List Char) : readProgram quoted (c :: rest) = (c :: (readProgram quoted rest).1, (readProgram quoted rest).2) := by
  rw [readProgram, if_neg (by rcases inside with rfl | plain <;> simp [*])]
  exact noMark

theorem readProgram_separated (separated : Separated rest) : readProgram false rest = ([], rest) := by
  cases rest with
  | nil => rfl
  | cons c tail =>
    have blank := separated c rfl
    rw [readProgram, if_pos (by rw [blank]; rfl)]
    exact (isBlank_ne blank).2

theorem readProgram_append (quoted : Bool) {name : List Char} (noMark : '"' ∉ name)
    (inside : quoted = true ∨ ∀ c ∈ name, isBlank c = false) (rest : List Char) :
    readProgram quoted (name ++ rest) = (name ++ (readProgram quoted rest).1, (readProgram quoted rest).2) := by
  induction name with
  | nil => rfl
  | cons c name ih =>
    obtain ⟨unmarked, others⟩ := not_or.mp (mt List.mem_cons.mpr noMark)
    have later := ih others (inside.imp id fun plain c member => plain c (List.mem_cons_of_mem _ member))
    rw [List.cons_append, readProgram_char (Ne.symm unmarked) (inside.imp id fun plain => plain c List.mem_cons_self), later]
    rfl

theorem readProgram_unmarked (quoted : Bool) (line : List Char) : '"' ∉ (readProgram quoted line).1 := by
  fun_induction readProgram quoted line with
  | case1 => exact List.not_mem_nil
  | case2 quoted rest ih => exact ih
  | case3 => exact List.not_mem_nil
  | case4 quoted c rest noMark blank name tail read ih =>
    rw [read] at ih
    exact fun member => (List.mem_cons.mp member).elim (fun same => noMark same.symm) ih

end Program

end Arguments
