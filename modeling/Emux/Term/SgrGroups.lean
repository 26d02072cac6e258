import Emux.Term.Performer

set_option autoImplicit false

/-!
# Colon groups of SGR

The loop of `handle_sgr` takes one turn after the other, each with the field that it reads as a code and the fields that
it uses up behind it. A list of fields is tidy when the colon groups and the turns agree.
-/

namespace Emux

namespace Screen

/-- `colon` tells whether a `:` introduced the code itself. -/
structure SgrTurn where
  code : Nat
  colon : Bool
  args : List (Nat × Bool)

def SgrTurn.fields (turn : SgrTurn) : List (Nat × Bool) := (turn.code, turn.colon) :: turn.args

def runTurn (s : Screen) (turn : SgrTurn) : Screen := (s.sgrStep turn.code turn.args).1

/-- How the loop cuts the fields: what is left of the turn under way, and the turns behind it. -/
def sgrTurnsFrom (s : Screen) (skip : Nat) : List (Nat × Bool) -> List (Nat × Bool) × List SgrTurn
  | [] => ([], [])
  | field :: rest =>
    match skip with
    | skip + 1 => (field :: (s.sgrTurnsFrom skip rest).1, (s.sgrTurnsFrom skip rest).2)
    | 0 =>
      let next := s.sgrStep field.1 rest
      let behind := next.1.sgrTurnsFrom next.2 rest
      ([], { code := field.1, colon := field.2, args := behind.1 } :: behind.2)

def sgrTurns (s : Screen) (fields : List (Nat × Bool)) : List SgrTurn := (s.sgrTurnsFrom 0 fields).2

def sgrFields (params : List Nat) (subflags : List Bool) : List (Nat × Bool) :=
  params.mapIdx fun i value => (value, subflags[i]?.getD false)

theorem sgrTurnsFrom_skip (s : Screen) (skip : Nat) (fields : List (Nat × Bool)) :
    s.sgrTurnsFrom skip fields = (fields.take skip, s.sgrTurns (fields.drop skip)) := by
  induction fields generalizing skip with
  | nil => simp [sgrTurnsFrom, sgrTurns]
  | cons field rest ih =>
    cases skip with
    | zero => rfl
    | succ skip => simp [sgrTurnsFrom, ih]

theorem sgrTurns_cons (s : Screen) (code : Nat) (colon : Bool) (rest : List (Nat × Bool)) :
    s.sgrTurns ((code, colon) :: rest) =
      { code, colon, args := rest.take (s.sgrStep code rest).2 } ::
        (s.sgrStep code rest).1.sgrTurns (rest.drop (s.sgrStep code rest).2) := by
  rw [sgrTurns, sgrTurnsFrom]
  simp only [sgrTurnsFrom_skip]

theorem sgrFrom_skip (s : Screen) (skip : Nat) (fields : List (Nat × Bool)) :
    s.sgrFrom skip fields = s.sgrFrom 0 (fields.drop skip) := by
  induction fields generalizing skip with
  | nil => simp [sgrFrom]
  | cons field rest ih =>
    cases skip with
    | zero => rfl
    | succ skip => exact ih skip

inductive SgrTakes (s : Screen) (code : Nat) : List (Nat × Bool) -> Screen × Nat -> Prop
  | styled (is : code = 4) (style : Nat) (tail : List (Nat × Bool)) :
      SgrTakes s code ((style, true) :: tail) (s.setUnderline (underlineOf style), 1)
  | single (is : code = 4) (rest : List (Nat × Bool)) (plain : ∀ field ∈ rest.head?, field.2 = false) :
      SgrTakes s code rest (s.setUnderline .single, 0)
  | indexed (is : code = 38 ∨ code = 48) (a b : Bool) (index : Nat) (tail : List (Nat × Bool)) :
      SgrTakes s code ((5, a) :: (index, b) :: tail) (s.setColor (code == 38) (.indexed index.toUInt8), 2)
  | rgb (is : code = 38 ∨ code = 48) (a b c d : Bool) (red green blue : Nat) (tail : List (Nat × Bool)) :
      SgrTakes s code ((2, a) :: (red, b) :: (green, c) :: (blue, d) :: tail)
        (s.setColor (code == 38) (.rgb red.toUInt8 green.toUInt8 blue.toUInt8), 4)
  | short (is : code = 38 ∨ code = 48) (kind : Nat) (a : Bool) (tail : List (Nat × Bool))
      (noIndex : kind = 5 -> tail = []) (noRgb : kind = 2 -> tail.length < 3) : SgrTakes s code ((kind, a) :: tail) (s, 1)
  | bare (is : code = 38 ∨ code = 48) : SgrTakes s code [] (s, 0)
  | alone (other : code ≠ 4 ∧ code ≠ 38 ∧ code ≠ 48) (rest : List (Nat × Bool)) :
      SgrTakes s code rest (s.sgrCode code, 0)

theorem sgrStep_takes (s : Screen) (code : Nat) (rest : List (Nat × Bool)) :
    s.SgrTakes code rest (s.sgrStep code rest) := by
  unfold sgrStep
  split
  next underline =>
    split
    next => exact .styled underline ..
    next plain =>
      refine .single underline _ ?_
      rintro ⟨style, colon⟩ first
      obtain ⟨tail, rfl⟩ := List.head?_eq_some_iff.mp first
      cases colon with
      | false => rfl
      | true => exact absurd rfl (plain style tail)
  next other =>
    split
    next color =>
      split
      next => exact .indexed color ..
      next => exact .rgb color ..
      next kind tail noIndex noRgb =>
        obtain ⟨kind, a⟩ := kind
        refine .short color kind a tail ?_ ?_
        next =>
          rintro rfl
          match tail with
          | [] => rfl
          | (index, b) :: tail => exact (noIndex a index b tail rfl rfl).elim
        next =>
          rintro rfl
          match tail with
          | (red, b) :: (green, c) :: (blue, d) :: tail => exact (noRgb a red b green c blue d tail rfl rfl).elim
          | [] | [_] | [_, _] => simp
      next => exact .bare color
    next noColor => exact .alone ⟨other, not_or.mp noColor⟩ rest

theorem sgrStep_used (s : Screen) (code : Nat) (rest : List (Nat × Bool)) :
    (s.sgrStep code (rest.take (s.sgrStep code rest).2)).1 = (s.sgrStep code rest).1 := by
  -- A turn depends on the fields that it uses up and no others.
  have takes := s.sgrStep_takes code rest
  generalize s.sgrStep code rest = result at takes
  cases takes with
  | styled is | single is =>
    subst is
    rfl
  | indexed is | rgb is | bare is => rcases is with rfl | rfl <;> rfl
  | short is kind =>
    have color : code ≠ 4 := by omega
    simp [sgrStep, color, is]
  | alone other => simp [sgrStep, other]

theorem sgrFrom_turns (s : Screen) (fields : List (Nat × Bool)) :
    s.sgrFrom 0 fields = (s.sgrTurns fields).foldl runTurn s ∧ (s.sgrTurns fields).flatMap SgrTurn.fields = fields := by
  induction size : fields.length using Nat.strongRecOn generalizing s fields with
  | ind size ih =>
    match fields with
    | [] => exact ⟨rfl, rfl⟩
    | (code, colon) :: rest =>
      obtain ⟨run, cut⟩ := ih (rest.drop (s.sgrStep code rest).2).length (by simp at size ⊢; omega)
        (s.sgrStep code rest).1 _ rfl
      rw [sgrTurns_cons]
      constructor
      next =>
        rw [List.foldl_cons, runTurn, sgrStep_used, ← run, ← sgrFrom_skip]
        rfl
      next =>
        rw [List.flatMap_cons, cut, SgrTurn.fields, List.cons_append, List.take_append_drop]

/-- No field behind a `:` is read as a code. A turn uses up only such fields or none of them, so that one that does uses up
the colon group of its code and nothing else. -/
structure SgrGrouped (s : Screen) (fields : List (Nat × Bool)) : Prop where
  codes : ∀ turn ∈ s.sgrTurns fields, turn.colon = false
  arguments : ∀ turn ∈ s.sgrTurns fields, ∃ colon, ∀ arg ∈ turn.args, arg.2 = colon
  unsupported : ∀ turn ∈ s.sgrTurns fields, (∃ arg ∈ turn.args, arg.2 = true) ->
    turn.code ≠ 4 ∧ turn.code ≠ 38 ∧ turn.code ≠ 48 -> ∀ t : Screen, t.runTurn turn = t

/-- The fields of a colour behind 38 or 48, all behind `:` or all behind `;`, with `behind` more fields after them. -/
inductive ColorArgs (colon : Bool) : List (Nat × Bool) -> Nat -> Prop
  | indexed (index behind : Nat) : ColorArgs colon [(5, colon), (index, colon)] behind
  | rgb (red green blue behind : Nat) :
      ColorArgs colon [(2, colon), (red, colon), (green, colon), (blue, colon)] behind
  | other {kind : Nat} (behind : Nat) (unknown : kind ≠ 5 ∧ kind ≠ 2) : ColorArgs colon [(kind, colon)] behind
  | noIndex : ColorArgs colon [(5, colon)] 0
  | noRgb {behind : Nat} (short : behind < 3) : ColorArgs colon [(2, colon)] behind
  | none : ColorArgs colon [] 0

inductive Tidy : List (Nat × Bool) -> Prop
  | nil : Tidy []
  | code {code : Nat} {rest : List (Nat × Bool)} (plain : code ≠ 38 ∧ code ≠ 48) (tidy : Tidy rest) :
      Tidy ((code, false) :: rest)
  | underline (style : Nat) {rest : List (Nat × Bool)} (tidy : Tidy rest) : Tidy ((4, false) :: (style, true) :: rest)
  | color {code : Nat} {colon : Bool} {args rest : List (Nat × Bool)} (is : code = 38 ∨ code = 48)
      (args_ok : ColorArgs colon args rest.length) (tidy : Tidy rest) : Tidy ((code, false) :: (args ++ rest))

theorem Tidy.head {field : Nat × Bool} {rest : List (Nat × Bool)} (tidy : Tidy (field :: rest)) : field.2 = false := by
  cases tidy <;> rfl

theorem colorArgs_uses {s : Screen} {code behind : Nat} {colon : Bool} {args rest : List (Nat × Bool)}
    (is : code = 38 ∨ code = 48) (args_ok : ColorArgs colon args behind) (length : rest.length = behind) :
    (s.sgrStep code (args ++ rest)).2 = args.length := by
  have color : code ≠ 4 := by omega
  cases args_ok with
  | indexed | rgb => rcases is with rfl | rfl <;> rfl
  | other behind unknown => simp [sgrStep, color, is, unknown]
  | noIndex =>
    rw [List.length_eq_zero_iff.mp length]
    rcases is with rfl | rfl <;> rfl
  | noRgb short =>
    match rest with
    | [] | [_] | [_, _] => rcases is with rfl | rfl <;> rfl
    | _ :: _ :: _ :: _ =>
      simp only [List.length_cons] at length
      omega
  | none =>
    rw [List.length_eq_zero_iff.mp length]
    rcases is with rfl | rfl <;> rfl

theorem ColorArgs.same {colon : Bool} {args : List (Nat × Bool)} {behind : Nat} (args_ok : ColorArgs colon args behind) :
    ∀ arg ∈ args, arg.2 = colon := by
  cases args_ok <;> simp

theorem tidy_cons (s : Screen) (code : Nat) (colon : Bool) (rest : List (Nat × Bool)) :
    Tidy ((code, colon) :: rest) ↔
      colon = false ∧ (∃ flag, ∀ arg ∈ rest.take (s.sgrStep code rest).2, arg.2 = flag) ∧
        Tidy (rest.drop (s.sgrStep code rest).2) := by
  have takes := s.sgrStep_takes code rest
  -- How the fields are cut into turns against what one turn takes, form by form.
  constructor
  next =>
    intro tidy
    refine ⟨tidy.head, ?_⟩
    cases tidy with
    | code plain tidy =>
      generalize s.sgrStep code rest = result at takes
      cases takes with
      | styled => exact absurd tidy.head (by simp)
      | single | alone => exact ⟨⟨false, by simp⟩, tidy⟩
      | indexed is | rgb is | short is | bare is => omega
    | underline style tidy => exact ⟨⟨true, by simp [sgrStep]⟩, tidy⟩
    | @color _ flag args rest is args_ok tidy =>
      rw [colorArgs_uses is args_ok rfl, List.take_left, List.drop_left]
      exact ⟨⟨flag, args_ok.same⟩, tidy⟩
  next =>
    generalize s.sgrStep code rest = result at takes
    rintro ⟨rfl, ⟨flag, same⟩, tidy⟩
    cases takes with
    | styled is style =>
      subst is
      exact .underline style tidy
    | single is rest plain => exact .code (by omega) tidy
    | indexed is a b index tail =>
      obtain ⟨rfl, rfl⟩ : a = flag ∧ b = flag := by simpa using same
      exact .color is (.indexed index _) tidy
    | rgb is a b c d red green blue tail =>
      obtain ⟨rfl, rfl, rfl, rfl⟩ : a = flag ∧ b = flag ∧ c = flag ∧ d = flag := by simpa using same
      exact .color is (.rgb red green blue _) tidy
    | short is kind a tail noIndex noRgb =>
      have args_ok : ColorArgs a [(kind, a)] tail.length := by
        by_cases five : kind = 5
        next =>
          rw [five, noIndex five]
          exact .noIndex
        next =>
          by_cases two : kind = 2
          next =>
            rw [two]
            exact .noRgb (noRgb two)
          next => exact .other _ ⟨five, two⟩
      exact @Tidy.color code a [(kind, a)] tail is args_ok tidy
    | bare is => exact @Tidy.color code true [] [] is .none .nil
    | alone other rest => exact .code ⟨other.2.1, other.2.2⟩ tidy

theorem sgrGrouped_cons (s : Screen) (code : Nat) (colon : Bool) (rest : List (Nat × Bool)) :
    s.SgrGrouped ((code, colon) :: rest) ↔
      colon = false ∧ (∃ flag, ∀ arg ∈ rest.take (s.sgrStep code rest).2, arg.2 = flag) ∧
        (s.sgrStep code rest).1.SgrGrouped (rest.drop (s.sgrStep code rest).2) := by
  constructor
  next =>
    rintro ⟨codes, arguments, unsupported⟩
    rw [sgrTurns_cons] at codes arguments unsupported
    rw [List.forall_mem_cons] at codes arguments unsupported
    exact ⟨codes.1, arguments.1, codes.2, arguments.2, unsupported.2⟩
  next =>
    rintro ⟨notColon, same, codes, arguments, unsupported⟩
    refine ⟨?_, ?_, ?_⟩ <;> rw [sgrTurns_cons, List.forall_mem_cons]
    next => exact ⟨notColon, codes⟩
    next => exact ⟨same, arguments⟩
    next =>
      refine ⟨?_, unsupported⟩
      rintro ⟨arg, member, -⟩ other
      -- A code that stands alone uses up nothing.
      have none : (s.sgrStep code rest).2 = 0 := by simp [sgrStep, other]
      simp [none] at member

theorem sgrGrouped_iff (s : Screen) (params : List Nat) (subflags : List Bool) :
    (s.handleSgr params subflags = if params = [] then s.resetPen
      else (s.sgrTurns (sgrFields params subflags)).foldl runTurn s) ∧
    (s.sgrTurns (sgrFields params subflags)).flatMap SgrTurn.fields = sgrFields params subflags ∧
    (s.SgrGrouped (sgrFields params subflags) ↔ Tidy (sgrFields params subflags)) := by
  refine ⟨?_, (s.sgrFrom_turns _).2, ?_⟩
  next =>
    rw [← (s.sgrFrom_turns _).1]
    rfl
  next =>
    generalize sgrFields params subflags = fields
    induction size : fields.length using Nat.strongRecOn generalizing s fields with
    | ind size ih =>
      match fields with
      | [] => exact ⟨fun _ => .nil, fun _ => ⟨nofun, nofun, nofun⟩⟩
      | (code, colon) :: rest =>
        rw [sgrGrouped_cons, tidy_cons s, ih (rest.drop (s.sgrStep code rest).2).length (by simp at size ⊢; omega)
          (s.sgrStep code rest).1 _ rfl]

/-- `58:2:1:2:3`: no code 58 is known, so `1` is read as bold. -/
theorem underline_color_read :
    ¬(Screen.new 1 1).SgrGrouped (sgrFields [58, 2, 1, 2, 3] [false, true, true, true, true]) ∧
      ((Screen.new 1 1).handleSgr [58, 2, 1, 2, 3] [false, true, true, true, true]).pen.bold = true := by
  constructor
  next =>
    intro grouped
    exact absurd (grouped.codes ⟨2, true, []⟩ (by simp [sgrFields, sgrTurns, sgrTurnsFrom, sgrStep])) (by simp)
  next => rfl

end Screen

end Emux
