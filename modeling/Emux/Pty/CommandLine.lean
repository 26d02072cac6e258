import Emux.Library.Arguments

set_option autoImplicit false

/-!
# Command lines

On Windows a pseudoterminal is started with one line for the program and its arguments, each of them quoted. By the rules
of `Arguments.splitCommandLine` the line comes apart again when no quoted argument has a backslash.
-/

namespace Emux

open Arguments

/-- Variables and the working directory do not go on the command line. -/
structure CommandBuilder where
  program : List Char
  args : List (List Char)
  deriving DecidableEq, Repr

/-- The characters of an argument, after this many backslashes, and the closing mark. -/
def quoteLoop : Nat -> List Char -> List Char
  | backslashes, [] => List.replicate backslashes '\\' ++ ['"']
  | backslashes, '\\' :: rest => quoteLoop (backslashes + 1) rest
  | backslashes, '"' :: rest => List.replicate backslashes '\\' ++ '\\' :: '"' :: quoteLoop 0 rest
  | _, c :: rest => c :: quoteLoop 0 rest

def needsQuotes (arg : List Char) : Bool := arg.contains ' ' || arg.contains '"' || arg.contains '\t'

def quoteArg (arg : List Char) : List Char :=
  if arg = [] then ['"', '"']
  else if !needsQuotes arg then arg
  else '"' :: quoteLoop 0 arg

def buildCommandLine (cmd : CommandBuilder) : List Char :=
  cmd.args.foldl (fun line arg => line ++ ' ' :: quoteArg arg) (quoteArg cmd.program)

def argumentsLine (args : List (List Char)) : List Char := args.flatMap fun arg => ' ' :: quoteArg arg

theorem buildCommandLine_eq (cmd : CommandBuilder) : buildCommandLine cmd = quoteArg cmd.program ++ argumentsLine cmd.args := by
  unfold buildCommandLine argumentsLine
  generalize quoteArg cmd.program = line
  induction cmd.args generalizing line with
  | nil => exact (List.append_nil line).symm
  | cons arg rest ih => rw [List.foldl_cons, ih, List.flatMap_cons, List.append_assoc]

/-- What quoting an argument keeps. -/
def keepsArg (arg : List Char) : Bool := !needsQuotes arg || !arg.contains '\\'

/-- The name of a program may end in backslashes, but has no marks. -/
def keepsProgram (program : List Char) : Bool :=
  !needsQuotes program || !program.contains '"' && (program.dropWhile fun c => c != '\\').all fun c => c == '\\'

section Quoting

variable {arg rest : List Char}

theorem needsQuotes_false (bare : needsQuotes arg = false) : (∀ c ∈ arg, isBlank c = false) ∧ '"' ∉ arg := by
  simp only [needsQuotes, Bool.or_eq_false_iff, List.contains_eq_mem, decide_eq_false_iff_not] at bare
  obtain ⟨⟨space, mark⟩, tab⟩ := bare
  refine ⟨fun c member => ?_, mark⟩
  have noSpace : c ≠ ' ' := fun same => space (same ▸ member)
  have noTab : c ≠ '\t' := fun same => tab (same ▸ member)
  simp [isBlank, noSpace, noTab]

theorem argumentsLine_separated (args : List (List Char)) : Separated (argumentsLine args) := by
  intro c first
  cases args with
  | nil => cases first
  | cons arg rest =>
    cases first
    rfl

theorem quoteLoop_char (backslashes : Nat) {c : Char} (noSlash : c ≠ '\\') (noMark : c ≠ '"') (rest : List Char) :
    quoteLoop backslashes (c :: rest) = c :: quoteLoop 0 rest := by
  rw [quoteLoop] <;> assumption

theorem splitFrom_quoteLoop (separated : Separated rest) (noSlash : '\\' ∉ arg) (word : List Char) :
    splitFrom true 0 (some word) (quoteLoop 0 arg ++ rest) = (word ++ arg) :: splitFrom false 0 none rest := by
  induction arg generalizing word with
  | nil =>
    have closed : splitFrom true 0 (some word) ('"' :: rest) = splitFrom false 0 (some (word ++ [])) rest := rfl
    exact closed.trans ((splitFrom_separated separated 0 _).trans (by simp))
  | cons c arg ih =>
    obtain ⟨other, others⟩ := not_or.mp (mt List.mem_cons.mpr noSlash)
    by_cases mark : c = '"'
    next =>
      subst mark
      have escaped : splitFrom true 0 (some word) (quoteLoop 0 ('"' :: arg) ++ rest) =
          splitFrom true 0 (some (word ++ [] ++ ['"'])) (quoteLoop 0 arg ++ rest) := rfl
      rw [escaped, ih others]
      simp
    next =>
      rw [quoteLoop_char 0 (Ne.symm other) mark, List.cons_append, splitFrom_char (Ne.symm other) mark (.inl rfl), ih others]
      simp

theorem splitFrom_quoteArg (separated : Separated rest) (kept : keepsArg arg = true) :
    splitFrom false 0 none (quoteArg arg ++ rest) = arg :: splitFrom false 0 none rest := by
  unfold quoteArg
  split
  next empty =>
    subst empty
    exact splitFrom_quoteLoop separated List.not_mem_nil []
  next some =>
    split
    next bare =>
      obtain ⟨noBlank, noMark⟩ := needsQuotes_false (by simpa using bare)
      obtain ⟨c, arg, rfl⟩ := List.exists_cons_of_ne_nil some
      rw [List.cons_append, splitFrom_begun false (noBlank c List.mem_cons_self), ← List.cons_append,
        splitFrom_bare separated 0 [] noBlank noMark]
      rfl
    next quoted =>
      have noSlash : '\\' ∉ arg := by
        simp only [keepsArg, Bool.or_eq_true, quoted] at kept
        simpa using kept
      exact splitFrom_quoteLoop separated noSlash []

theorem quoteLoop_weight (backslashes : Nat) (arg : List Char) :
    lineWeight 0 (quoteLoop backslashes arg) ≤ 2 * backslashes + weight arg ∧
      (0 < backslashes + arg.count '\\' -> lineWeight 0 (quoteLoop backslashes arg) < 2 * backslashes + weight arg) := by
  -- The backslashes just read are counted until it is known what follows them.
  induction arg generalizing backslashes with
  | nil =>
    have closing : lineWeight (0 + backslashes) ['"'] = 0 + backslashes + 0 := rfl
    have nothing : weight [] = 0 := rfl
    rw [quoteLoop, lineWeight_slashes, closing, nothing]
    simp only [List.count_nil]
    omega
  | cons c arg ih =>
    have split := weight_append [c] arg
    rw [List.singleton_append] at split
    by_cases slash : c = '\\'
    next =>
      subst slash
      have two : weight ['\\'] = 2 := rfl
      have later := ih (backslashes + 1)
      rw [quoteLoop]
      omega
    next =>
      have counted : (c :: arg).count '\\' = arg.count '\\' := List.count_cons_of_ne slash
      have later := ih 0
      by_cases mark : c = '"'
      next =>
        subst mark
        have one : weight ['"'] = 1 := rfl
        rw [quoteLoop, lineWeight_slashes, lineWeight, lineWeight]
        omega
      next =>
        have zero := weight_plain slash mark
        rw [quoteLoop_char _ slash mark, lineWeight_plain _ slash mark]
        omega

theorem quoteArg_weight (arg : List Char) :
    lineWeight 0 (quoteArg arg) ≤ weight arg ∧ (keepsArg arg = false -> lineWeight 0 (quoteArg arg) < weight arg) := by
  unfold quoteArg
  split
  next empty => subst empty; exact ⟨Nat.le_refl _, fun lost => by cases lost⟩
  next =>
    split
    next bare =>
      have weighs := lineWeight_unmarked 0 (needsQuotes_false (by simpa using bare)).2
      exact ⟨by omega, fun lost => by simp [keepsArg, bare] at lost⟩
    next quoted =>
      obtain ⟨most, less⟩ := quoteLoop_weight 0 arg
      rw [lineWeight, Nat.zero_add]
      refine ⟨by omega, fun lost => ?_⟩
      have slash : '\\' ∈ arg := by
        simp only [keepsArg, Bool.or_eq_false_iff] at lost
        simpa using lost.2
      have counted : 0 < arg.count '\\' := List.count_pos_iff.mpr slash
      have lighter := less (by omega)
      omega

theorem argumentsLine_cons (arg : List Char) (args : List (List Char)) :
    argumentsLine (arg :: args) = ' ' :: (quoteArg arg ++ argumentsLine args) := rfl

theorem argumentsLine_weight (args : List (List Char)) : lineWeight 0 (argumentsLine args) ≤ total args ∧
    ((∃ arg ∈ args, keepsArg arg = false) -> lineWeight 0 (argumentsLine args) < total args) := by
  induction args with
  | nil => exact ⟨Nat.le_refl _, fun ⟨_, member, _⟩ => absurd member List.not_mem_nil⟩
  | cons arg args ih =>
    obtain ⟨most, less⟩ := ih
    obtain ⟨mostHere, lessHere⟩ := quoteArg_weight arg
    rw [argumentsLine_cons, lineWeight_plain 0 (by decide) (by decide), lineWeight_append (argumentsLine_separated args), total_cons]
    refine ⟨by omega, fun ⟨lost, member, drops⟩ => ?_⟩
    rcases List.mem_cons.mp member with rfl | later
    next =>
      have lighter := lessHere drops
      omega
    next =>
      have lighter := less ⟨lost, later, drops⟩
      omega

theorem splitFrom_argumentsLine (args : List (List Char)) :
    splitFrom false 0 none (argumentsLine args) = args ↔ ∀ arg ∈ args, keepsArg arg = true := by
  constructor
  next =>
    intro same arg member
    by_contra lost
    have weighs : total (splitFrom false 0 none (argumentsLine args)) = _ :=
      total_splitFrom false (fun begun => absurd begun (Nat.lt_irrefl 0)) (argumentsLine args)
    have lighter := (argumentsLine_weight args).2 ⟨arg, member, by simpa using lost⟩
    have nothing : weight ((none : Option (List Char)).getD []) = 0 := rfl
    rw [same, nothing, Nat.zero_add] at weighs
    omega
  next =>
    intro kept
    induction args with
    | nil => rfl
    | cons arg args ih =>
      obtain ⟨here, later⟩ := List.forall_mem_cons.mp kept
      have blank : isBlank ' ' = true := rfl
      rw [argumentsLine_cons, splitFrom_blank blank, splitFrom_quoteArg (argumentsLine_separated args) here, ih later]
      rfl

theorem quoteLoop_unmarked {program : List Char} (noMark : '"' ∉ program) (backslashes : Nat) :
    ∃ name, quoteLoop backslashes program = name ++ ['"'] ∧ '"' ∉ name ∧ name.length ≤ backslashes + program.length ∧
      (0 < backslashes -> (program.all fun c => c == '\\') = false -> name.length < backslashes + program.length) := by
  induction program generalizing backslashes with
  | nil =>
    refine ⟨List.replicate backslashes '\\', rfl, ?_, by simp, by simp⟩
    exact fun member => absurd (List.eq_of_mem_replicate member) (by decide)
  | cons c program ih =>
    obtain ⟨unmarked, others⟩ := not_or.mp (mt List.mem_cons.mpr noMark)
    by_cases slash : c = '\\'
    next =>
      subst slash
      obtain ⟨name, is, plain, most, less⟩ := ih others (backslashes + 1)
      refine ⟨name, is, plain, by rw [List.length_cons]; omega, fun _ mixed => ?_⟩
      have shorter := less (Nat.succ_pos _) (by simpa using mixed)
      rw [List.length_cons]
      omega
    next =>
      obtain ⟨name, is, plain, most, -⟩ := ih others 0
      refine ⟨c :: name, by rw [quoteLoop_char _ slash (Ne.symm unmarked), is]; rfl, ?_, ?_, fun some _ => ?_⟩
      next => exact fun member => (List.mem_cons.mp member).elim unmarked plain
      next => simp only [List.length_cons]; omega
      next => simp only [List.length_cons]; omega

theorem quoteLoop_slashes (backslashes count : Nat) :
    quoteLoop backslashes (List.replicate count '\\') = List.replicate (backslashes + count) '\\' ++ ['"'] := by
  induction count generalizing backslashes with
  | zero => rfl
  | succ count ih =>
    rw [List.replicate_succ, quoteLoop, ih, Nat.add_right_comm]
    rfl

theorem quoteLoop_keeps_iff {program name : List Char} (noMark : '"' ∉ program) (is : quoteLoop 0 program = name ++ ['"']) :
    name = program ↔ ((program.dropWhile fun c => c != '\\').all fun c => c == '\\') = true := by
  induction program generalizing name with
  | nil =>
    obtain rfl : [] = name := List.append_cancel_right is
    simp
  | cons c program ih =>
    obtain ⟨unmarked, others⟩ := not_or.mp (mt List.mem_cons.mpr noMark)
    by_cases slash : c = '\\'
    next =>
      subst slash
      rw [List.dropWhile_cons_of_neg (by simp), List.all_cons, beq_self_eq_true, Bool.true_and]
      constructor
      next =>
        rintro rfl
        by_contra mixed
        obtain ⟨shorter, shorterIs, -, -, less⟩ := quoteLoop_unmarked others 1
        obtain rfl : shorter = '\\' :: program := List.append_cancel_right (shorterIs.symm.trans is)
        have fewer := less Nat.one_pos (by simpa using mixed)
        rw [List.length_cons] at fewer
        omega
      next =>
        intro all
        have slashes := List.eq_replicate_of_mem fun c member => beq_iff_eq.mp (List.all_eq_true.mp all c member)
        rw [slashes, quoteLoop, quoteLoop_slashes] at is
        rw [slashes, ← List.append_cancel_right is, Nat.add_comm, List.replicate_succ]
    next =>
      obtain ⟨later, laterIs, -⟩ := quoteLoop_unmarked others 0
      rw [quoteLoop_char 0 slash (Ne.symm unmarked), laterIs, ← List.cons_append] at is
      obtain rfl : c :: later = name := List.append_cancel_right is
      rw [List.dropWhile_cons_of_pos (by simpa using slash), List.cons.injEq, ← ih others laterIs]
      simp

theorem readProgram_quoteArg (separated : Separated rest) (program : List Char) :
    (keepsProgram program = true ∧ readProgram false (quoteArg program ++ rest) = (program, rest)) ∨
      keepsProgram program = false ∧ (readProgram false (quoteArg program ++ rest)).1 ≠ program := by
  unfold quoteArg
  split
  next empty =>
    subst empty
    exact .inl ⟨rfl, readProgram_separated separated⟩
  next =>
    split
    next bare =>
      obtain ⟨noBlank, noMark⟩ := needsQuotes_false (by simpa using bare)
      rw [readProgram_append false noMark (.inr noBlank), readProgram_separated separated, List.append_nil]
      exact .inl ⟨by simp [keepsProgram, bare], rfl⟩
    next quoted =>
      by_cases mark : '"' ∈ program
      next =>
        -- No mark is read as part of the name.
        refine .inr ⟨by simp [keepsProgram, quoted, mark], fun same => ?_⟩
        have unmarked := readProgram_unmarked false ('"' :: quoteLoop 0 program ++ rest)
        rw [same] at unmarked
        exact unmarked mark
      next =>
        obtain ⟨name, is, plain, -⟩ := quoteLoop_unmarked mark 0
        have read : readProgram false ('"' :: quoteLoop 0 program ++ rest) = (name, rest) := by
          rw [is, List.cons_append, readProgram_mark, List.append_assoc, Bool.not_false, readProgram_append true plain (.inl rfl),
            List.singleton_append, readProgram_mark, Bool.not_true, readProgram_separated separated, List.append_nil]
        have keeps : keepsProgram program = (program.dropWhile fun c => c != '\\').all fun c => c == '\\' := by
          simp [keepsProgram, quoted, mark]
        rw [read, keeps]
        by_cases same : name = program
        next => exact .inl ⟨(quoteLoop_keeps_iff mark is).mp same, by rw [same]⟩
        next => exact .inr ⟨by simpa using mt (quoteLoop_keeps_iff mark is).mpr same, same⟩

/-- By these rules the line comes apart into the program and its arguments if nothing that is quoted has a backslash, which
only the end of the program's name may have, and not otherwise. -/
theorem splitCommandLine_iff (cmd : CommandBuilder) :
    splitCommandLine (buildCommandLine cmd) = (cmd.program, cmd.args) ↔
      keepsProgram cmd.program = true ∧ ∀ arg ∈ cmd.args, keepsArg arg = true := by
  have parts : splitCommandLine (buildCommandLine cmd) = ((readProgram false (buildCommandLine cmd)).1,
      splitFrom false 0 none (readProgram false (buildCommandLine cmd)).2) := rfl
  rw [parts, buildCommandLine_eq, Prod.mk.injEq]
  rcases readProgram_quoteArg (argumentsLine_separated cmd.args) cmd.program with ⟨keeps, read⟩ | ⟨loses, other⟩
  next =>
    rw [read]
    exact and_congr (iff_of_true rfl keeps) (splitFrom_argumentsLine cmd.args)
  next => exact iff_of_false (fun both => other both.1) fun both => by simp [loses] at both

example : splitCommandLine (buildCommandLine ⟨"cmd.exe".toList, ["/d".toList, "C:\\Program Files".toList]⟩) =
    ("cmd.exe".toList, ["/d".toList, "C:Program Files".toList]) := by decide

end Quoting

end Emux
