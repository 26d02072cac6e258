import Emux.Term.Performer

set_option autoImplicit false

/-!
# Operating system commands that panic

A colour written `#...` is cut into three components by byte positions, and a cut inside a character panics.
-/

namespace Emux

open Checked

/-- The text of a component is read as a number, so the slice after it is taken. -/
def isHexNumber (text : Bytes) : Bool := (parseUnsigned 16 255 text).isSome

/-- `#` and three components of `width` bytes, with a cut that is reached inside a character. -/
def CutsCharacter (spec : Bytes) : Prop :=
  ∃ rest width, spec = 0x23 :: rest ∧ (width = 1 ∨ width = 2) ∧ rest.length = 3 * width ∧
    (isCharBoundary rest width = false ∨
      isHexNumber (rest.take width) = true ∧ isCharBoundary rest (2 * width) = false)

theorem digitValue_lt {radix : Nat} {byte : Byte} {value : Nat} (digit : digitValue radix byte = some value) :
    value < radix := by
  unfold digitValue at digit
  dsimp only at digit
  split_ifs at digit
  all_goals (cases digit; assumption)

theorem digitsValue_one (radix : Nat) (byte : Byte) : digitsValue radix [byte] = digitValue radix byte := by
  cases found : digitValue radix byte with
  | none => simp [digitsValue, found]
  | some value => simp [digitsValue, found]

theorem parseUnsigned_one {text : Bytes} {value : Nat} (single : text.length = 1)
    (parsed : parseUnsigned 16 255 text = some value) : value * 17 < 256 := by
  -- One digit times 17 fits a byte.
  obtain ⟨byte, rfl⟩ := List.length_eq_one_iff.mp single
  simp only [parseUnsigned, digitsValue_one, reduceCtorEq, if_false, Option.filter_eq_some_iff] at parsed
  have small := digitValue_lt parsed.1
  omega

theorem sliceHex_ok {text : Bytes} {start stop : Nat} (ordered : start ≤ stop) (inside : stop ≤ text.length)
    (left : isCharBoundary text start = true) (right : isCharBoundary text stop = true) :
    sliceHex text start stop = .ok (parseUnsigned 16 255 ((text.take stop).drop start)) := by
  rw [sliceHex, sliceText, if_pos ⟨ordered, inside, left, right⟩, ok_bind]

theorem sliceHex_inside {text : Bytes} {start stop : Nat} (cut : isCharBoundary text stop = false) :
    sliceHex text start stop = .error .slice := by
  have outside : ¬ (start ≤ stop ∧ stop ≤ text.length ∧ isCharBoundary text start ∧ isCharBoundary text stop) := by
    simp [cut]
  rw [sliceHex, sliceText, if_neg outside, error_bind]

theorem components_ok {rest : Bytes} {first second last : Nat} (ordered : first ≤ second) (inside : second ≤ last)
    (len : rest.length = last)
    (next : Nat -> Nat -> Nat -> Fallible (Option Rgb))
    (fits : ∀ r g b, parseUnsigned 16 255 (rest.take first) = some r ->
      parseUnsigned 16 255 ((rest.take second).drop first) = some g ->
      parseUnsigned 16 255 (rest.drop second) = some b -> ∃ color, next r g b = .ok color) :
    Ensures (fun panic => panic = .slice ∧ (isCharBoundary rest first = false ∨
        isHexNumber (rest.take first) = true ∧ isCharBoundary rest second = false))
      (do
        let some r ← sliceHex rest 0 first | .ok none
        let some g ← sliceHex rest first second | .ok none
        let some b ← sliceHex rest second last | .ok none
        next r g b)
      fun _ => isCharBoundary rest first = true ∧
        (isHexNumber (rest.take first) = true -> isCharBoundary rest second = true) := by
  -- Three slices in a row: the first cut is always reached, the second one after a number.
  subst len
  cases left : isCharBoundary rest first with
  | false =>
    rw [sliceHex_inside left]
    exact ⟨rfl, .inl rfl⟩
  | true =>
    have start : isCharBoundary rest 0 = true := rfl
    rw [sliceHex_ok (Nat.zero_le first) (by omega) start left, List.drop_zero, ok_bind]
    cases red : parseUnsigned 16 255 (rest.take first) with
    | none => exact ⟨rfl, fun number => by simp [isHexNumber, red] at number⟩
    | some r =>
      have number : isHexNumber (rest.take first) = true := by rw [isHexNumber, red]; rfl
      cases right : isCharBoundary rest second with
      | false =>
        dsimp only
        rw [sliceHex_inside right]
        exact ⟨rfl, .inr ⟨number, rfl⟩⟩
      | true =>
        have finish : isCharBoundary rest rest.length = true := by simp [isCharBoundary]
        dsimp only
        rw [sliceHex_ok ordered inside left right, ok_bind]
        cases green : parseUnsigned 16 255 ((rest.take second).drop first) with
        | none => exact ⟨rfl, fun _ => rfl⟩
        | some g =>
          dsimp only
          rw [sliceHex_ok inside (Nat.le_refl _) right finish, ok_bind, List.take_length]
          cases blue : parseUnsigned 16 255 (rest.drop second) with
          | none => exact ⟨rfl, fun _ => rfl⟩
          | some b =>
            obtain ⟨color, scaled⟩ := fits r g b red green blue
            dsimp only
            rw [scaled]
            exact ⟨rfl, fun _ => rfl⟩

theorem stripPrefix_eq {start text rest : Bytes} (stripped : stripPrefix start text = some rest) :
    text = start ++ rest := by
  unfold stripPrefix at stripped
  split at stripped
  next found =>
    obtain ⟨tail, rfl⟩ := found
    simpa using stripped
  next => exact absurd stripped nofun

theorem not_cutsCharacter {spec : Bytes} (other : ∀ rest, spec ≠ 0x23 :: rest) : ¬ CutsCharacter spec := by
  rintro ⟨rest, _, eq, _⟩
  exact other rest eq

theorem cutsCharacter_hash {rest : Bytes} {width : Nat} (wide : width = 1 ∨ width = 2) (len : rest.length = 3 * width) :
    CutsCharacter (0x23 :: rest) ↔ isCharBoundary rest width = false ∨
      isHexNumber (rest.take width) = true ∧ isCharBoundary rest (2 * width) = false := by
  constructor
  next =>
    rintro ⟨_, other, eq, _, same, cut⟩
    obtain ⟨_, rfl⟩ := List.cons.inj eq
    obtain rfl : other = width := by omega
    exact cut
  next => exact fun cut => ⟨rest, width, rfl, wide, len, cut⟩

theorem not_cutsCharacter_hash {rest : Bytes} {width : Nat} (wide : width = 1 ∨ width = 2)
    (len : rest.length = 3 * width)
    (whole : isCharBoundary rest width = true ∧
      (isHexNumber (rest.take width) = true -> isCharBoundary rest (2 * width) = true)) :
    ¬ CutsCharacter (0x23 :: rest) := by
  rw [cutsCharacter_hash wide len]
  rintro (cut | ⟨number, cut⟩)
  next => exact absurd (cut.symm.trans whole.1) nofun
  next => exact absurd (cut.symm.trans (whole.2 number)) nofun

theorem parseColorSpec_exact (spec : Bytes) :
    Ensures (fun panic => panic = .slice ∧ CutsCharacter spec) (parseColorSpec spec) fun _ => ¬ CutsCharacter spec := by
  unfold parseColorSpec
  split
  next rest rgb =>
    have plain : ¬ CutsCharacter spec := not_cutsCharacter fun _ eq => by
      rw [stripPrefix_eq rgb] at eq
      exact absurd (List.cons.inj eq).1 (by decide)
    split <;> exact plain
  next =>
    split
    next rest hash =>
      obtain rfl : spec = 0x23 :: rest := stripPrefix_eq hash
      split_ifs
      next len =>
        have cuts := @cutsCharacter_hash rest 1 (.inl rfl) len
        refine ((@components_ok rest 1 2 3 (by decide) (by decide) len _ ?_).allow ?_).weaken ?_
        next =>
          intro r g b red green blue
          have scaled {text : Bytes} {n : Nat} (single : text.length = 1)
              (parsed : parseUnsigned 16 255 text = some n) : mul 256 n 17 = .ok (n * 17) :=
            mul_ok (parseUnsigned_one single parsed)
          rw [scaled (by simp [len]) red, scaled (by simp [len]) green, scaled (by simp [len]) blue]
          exact ⟨_, rfl⟩
        next => exact fun _ bad => ⟨bad.1, cuts.mpr bad.2⟩
        next => exact fun _ whole => not_cutsCharacter_hash (.inl rfl) len whole
      next len =>
        have cuts := @cutsCharacter_hash rest 2 (.inr rfl) len
        refine ((@components_ok rest 2 4 6 (by decide) (by decide) len _ ?_).allow ?_).weaken ?_
        next => exact fun r g b _ _ _ => ⟨_, rfl⟩
        next => exact fun _ bad => ⟨bad.1, cuts.mpr bad.2⟩
        next => exact fun _ whole => not_cutsCharacter_hash (.inr rfl) len whole
      next long short =>
        rintro ⟨_, width, eq, wide, len, _⟩
        obtain ⟨_, rfl⟩ := List.cons.inj eq
        omega
    next plain =>
      refine not_cutsCharacter fun rest eq => ?_
      simp [stripPrefix, eq, ascii] at plain

/-- A command `4;N;spec` that sets a colour of the palette to a text that is cut inside a character. -/
def CutsPalette (parts : List Bytes) : Prop :=
  3 ≤ parts.length ∧ Screen.textPart parts 0 = ascii ['4'] ∧
    (∃ idx, parseUnsigned 10 65535 (Screen.textPart parts 1) = some idx ∧ idx < 256) ∧
    CutsCharacter (Screen.textPart parts 2)

namespace Screen

theorem oscPalette_exact (s : Screen) {parts : List Bytes} (cmd : textPart parts 0 = ascii ['4']) :
    Ensures (fun panic => panic = .slice ∧ CutsPalette parts) (s.oscPalette parts) fun _ => ¬ CutsPalette parts := by
  unfold oscPalette
  split_ifs with short
  next => exact fun cuts => by have long := cuts.1; omega
  next =>
    split
    next none =>
      rintro ⟨_, _, ⟨idx, parsed, small⟩, _⟩
      simp [parsed] at none
      omega
    next idx found =>
      obtain ⟨parsed, small⟩ := Option.filter_eq_some_iff.mp found
      dsimp only
      split_ifs with query
      next =>
        rintro ⟨_, _, _, rest, _, eq, _⟩
        rw [query] at eq
        exact absurd (List.cons.inj eq).1 (by decide)
      next =>
        refine ((parseColorSpec_exact (textPart parts 2)).allow ?_).bind fun color whole => ?_
        next =>
          exact fun _ bad => ⟨bad.1, Nat.not_lt.mp short, cmd, ⟨idx, parsed, of_decide_eq_true small⟩, bad.2⟩
        next => exact fun cuts => whole cuts.2.2.2

theorem handleOsc_palette (s : Screen) {parts : List Bytes} (cmd : textPart parts 0 = ascii ['4']) :
    s.handleOsc parts = s.oscPalette parts := by
  have some : parts ≠ [] := by
    rintro rfl
    exact absurd cmd (by decide)
  simp only [handleOsc, if_neg some, cmd]
  rfl

theorem handleOsc_exact (s : Screen) (parts : List Bytes) :
    Ensures (fun panic => panic = .slice ∧ CutsPalette parts) (s.handleOsc parts) fun _ => ¬ CutsPalette parts := by
  by_cases cmd : textPart parts 0 = ascii ['4']
  next =>
    rw [handleOsc_palette s cmd]
    exact oscPalette_exact s cmd
  next =>
    have other : ¬ CutsPalette parts := fun cuts => cmd cuts.2.1
    unfold handleOsc
    repeat first
      | exact other
      | exact absurd ‹_› cmd
      | refine .ite (fun _ => ?_) fun _ => ?_

theorem handleOsc_returns (s : Screen) (parts : List Bytes) (spec : Bytes) :
    ((∃ s', s.handleOsc parts = .ok s') ↔ ¬ CutsPalette parts) ∧
      ((∃ color, parseColorSpec spec = .ok color) ↔ ¬ CutsCharacter spec) :=
  ⟨(handleOsc_exact s parts).returns_iff, (parseColorSpec_exact spec).returns_iff⟩

/-- `OSC 4;0;#é1`: three bytes after the `#`, the first two of them one character. -/
theorem handleOsc_cut :
    (Screen.new 80 24).handleOsc [ascii ['4'], ascii ['0'], [0x23, 0xC3, 0xA9, 0x31]] = .error .slice ∧
      parseColorSpec [0x23, 0xC3, 0xA9, 0x31] = .error .slice := by
  constructor <;> rfl

end Screen

end Emux
