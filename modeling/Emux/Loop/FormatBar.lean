import Emux.Loop.RowWidth

set_option autoImplicit false

/-!
# Bars of text

The bar at the bottom has a text on the left and one on the right. They are fitted into its width
by a table of wide characters of its own, which the terminal's table does not agree with everywhere.
-/

namespace Emux

namespace FormatBar

def isWideInBar (cp : Nat) : Bool :=
  inRange 0x1100 0x115F cp || inRange 0x2E80 0x303E cp || inRange 0x3040 0x33BF cp || inRange 0x3400 0x4DBF cp ||
    inRange 0x4E00 0x9FFF cp || inRange 0xA000 0xA4CF cp || inRange 0xAC00 0xD7AF cp || inRange 0xF900 0xFAFF cp ||
    inRange 0xFE30 0xFE6F cp || inRange 0xFF01 0xFF60 cp || inRange 0xFFE0 0xFFE6 cp || inRange 0x20000 0x2FFFD cp ||
    inRange 0x30000 0x3FFFD cp

def charColumns (c : Char) : Nat := if isWideInBar c.toNat then 2 else 1

def displayWidth (s : List Char) : Nat := (s.map charColumns).sum

def truncate (width : Nat) : Nat -> List Char -> List Char × Nat
  | w, [] => ([], w)
  | w, c :: rest =>
    let cw := if displayWidth [c] = 2 then 2 else 1
    if width < w + cw then ([], w)
    else
      let (s, w) := truncate width (w + cw) rest
      (c :: s, w)

end FormatBar

open FormatBar in
def formatBar (left right : List Char) (width : Nat) : List Char :=
  let lw := displayWidth left
  let rw := displayWidth right
  if lw + rw ≤ width then left ++ List.replicate (width - lw - rw) ' ' ++ right
  else if lw < width then left ++ List.replicate (width - lw) ' '
  else
    let (s, w) := truncate width 0 left
    s ++ List.replicate (width - w) ' '

namespace FormatBar

def beginning (width : Nat) (text : List Char) : List Char :=
  text.take (Nat.findGreatest (fun n => displayWidth (text.take n) ≤ width) text.length)

def shown (left right : List Char) (width : Nat) : List Char :=
  if displayWidth left + displayWidth right ≤ width then left ++ right else beginning width left

def takesNone (cp : Nat) : Bool :=
  inRange 0x00 0x1F cp || inRange 0x7F 0x9F cp || isZeroWidth cp || isCombining cp

def isWider (cp : Nat) : Bool := inRange 0x2329 0x232A cp || inRange 0xFE10 0xFE19 cp || inRange 0x1F000 0x1F9FF cp

def isSingle (cp : Nat) : Bool := inRange 0xD7A4 0xD7AF cp || inRange 0x2FA20 0x2FFFD cp || inRange 0x31350 0x3FFFD cp

def isNarrower (cp : Nat) : Bool := takesNone cp || isSingle cp

theorem wide_not_control {cp : Nat} (wide : isWide cp = true) : 0x9F < cp := by
  simp only [isWide, inRange, Bool.or_eq_true, Bool.and_eq_true, decide_eq_true_eq] at wide
  omega

theorem takesNone_low {cp : Nat} (low : cp < 0x7F) : takesNone cp = decide (cp < 0x20) := by
  rw [Bool.eq_iff_iff]
  simp only [takesNone, isZeroWidth, isCombining, inRange, Bool.or_eq_true, Bool.and_eq_true, decide_eq_true_eq,
    beq_iff_eq]
  omega

theorem charWidth_eq (c : Char) : charWidth c = if takesNone c.toNat then 0 else if isWide c.toNat then 2 else 1 := by
  by_cases low : c.toNat < 0x7F
  next =>
    have notWide : ¬isWide c.toNat = true := fun wide => by
      have := wide_not_control wide
      omega
    simp only [charWidth, if_pos low, takesNone_low low, if_neg notWide, decide_eq_true_eq]
    split_ifs <;> omega
  next =>
    have notFirst : inRange 0x00 0x1F c.toNat = false := by
      simp only [inRange, Bool.and_eq_false_iff, decide_eq_false_iff_not]
      omega
    have notSmall : ¬c.toNat < 0x20 := by omega
    simp only [charWidth, if_neg low, takesNone, notFirst, Bool.false_or]
    cases control : inRange 0x7F 0x9F c.toNat with
    | true =>
      have notWide : ¬isWide c.toNat = true := fun wide => by
        have := wide_not_control wide
        simp only [inRange, Bool.and_eq_true, decide_eq_true_eq] at control
        omega
      simp [notWide]
    | false => cases isZeroWidth c.toNat <;> cases isCombining c.toNat <;> simp [notSmall]

theorem takesNone_bar {cp : Nat} (none : takesNone cp = true) : isWideInBar cp = false ∧ isWider cp = false := by
  rw [← Bool.not_eq_true, ← Bool.not_eq_true]
  simp only [takesNone, isWideInBar, isWider, isZeroWidth, isCombining, inRange, Bool.or_eq_true, Bool.and_eq_true,
    decide_eq_true_eq, beq_iff_eq] at none ⊢
  omega

theorem wide_or_single_iff (cp : Nat) :
    isWide cp = true ∨ isSingle cp = true ↔ isWideInBar cp = true ∨ isWider cp = true := by
  simp only [isWideInBar, isWide, isWider, isSingle, inRange, Bool.or_eq_true, Bool.and_eq_true, decide_eq_true_eq]
  omega

theorem single_not_wide {cp : Nat} (single : isSingle cp = true) : isWide cp = false := by
  rw [← Bool.not_eq_true]
  simp only [isWide, isSingle, inRange, Bool.or_eq_true, Bool.and_eq_true, decide_eq_true_eq] at single ⊢
  omega

theorem wider_not_inBar {cp : Nat} (wider : isWider cp = true) : isWideInBar cp = false := by
  rw [← Bool.not_eq_true]
  simp only [isWideInBar, isWider, inRange, Bool.or_eq_true, Bool.and_eq_true, decide_eq_true_eq] at wider ⊢
  omega

theorem charWidth_shift (c : Char) :
    charWidth c + (if isNarrower c.toNat then 1 else 0) = charColumns c + (if isWider c.toNat then 1 else 0) := by
  rw [charWidth_eq, charColumns, isNarrower]
  cases none : takesNone c.toNat with
  | true =>
    obtain ⟨notWide, notWider⟩ := takesNone_bar none
    simp [notWide, notWider]
  | false =>
    have either := wide_or_single_iff c.toNat
    have single : isSingle c.toNat = true -> isWide c.toNat = false := single_not_wide
    have wider : isWider c.toNat = true -> isWideInBar c.toNat = false := wider_not_inBar
    revert either single wider
    generalize isWide c.toNat = wide, isSingle c.toNat = single, isWideInBar c.toNat = inBar, isWider c.toNat = wider
    revert wide single inBar wider
    decide

theorem textColumns_shift (text : List Char) :
    textColumns text + text.countP (fun c => isNarrower c.toNat) =
      displayWidth text + text.countP (fun c => isWider c.toNat) := by
  induction text with
  | nil => rfl
  | cons c rest ih =>
    have head := charWidth_shift c
    simp only [textColumns, displayWidth, List.map_cons, List.sum_cons, List.countP_cons] at ih ⊢
    omega

theorem charColumns_cut (c : Char) : (if displayWidth [c] = 2 then 2 else 1) = charColumns c := by
  simp only [displayWidth, charColumns, List.map_cons, List.map_nil, List.sum_cons, List.sum_nil, Nat.add_zero]
  split_ifs <;> omega

theorem displayWidth_cons (c : Char) (rest : List Char) :
    displayWidth (c :: rest) = charColumns c + displayWidth rest := Spans.width_cons charColumns c rest

theorem truncate_width (width w : Nat) (text : List Char) :
    (truncate width w text).2 = w + displayWidth (truncate width w text).1 := by
  induction text generalizing w with
  | nil => rfl
  | cons c rest ih =>
    simp only [truncate, charColumns_cut]
    split_ifs
    next => rfl
    next =>
      rw [ih, displayWidth_cons]
      omega

theorem truncate_longest {width w : Nat} (room : w ≤ width) (text : List Char) :
    ∃ n ≤ text.length, (truncate width w text).1 = text.take n ∧ w + displayWidth (text.take n) ≤ width ∧
      ∀ m, n < m -> m ≤ text.length -> width < w + displayWidth (text.take m) := by
  induction text generalizing w with
  | nil => exact ⟨0, le_rfl, rfl, room, fun m more fits => absurd more (Nat.not_lt.mpr fits)⟩
  | cons c rest ih =>
    simp only [truncate, charColumns_cut]
    split_ifs with full
    next =>
      refine ⟨0, Nat.zero_le _, rfl, room, fun m more _ => ?_⟩
      obtain ⟨m, rfl⟩ := Nat.exists_eq_succ_of_ne_zero more.ne'
      rw [List.take_succ_cons, displayWidth_cons]
      omega
    next =>
      obtain ⟨n, inside, taken, fits, longest⟩ := ih (w := w + charColumns c) (by omega)
      refine ⟨n + 1, Nat.succ_le_succ inside, ?_, ?_, fun m more within => ?_⟩
      next => rw [List.take_succ_cons, ← taken]
      next =>
        rw [List.take_succ_cons, displayWidth_cons]
        omega
      next =>
        obtain ⟨m, rfl⟩ := Nat.exists_eq_succ_of_ne_zero (Nat.ne_zero_of_lt more)
        have past := longest m (Nat.lt_of_succ_lt_succ more) (Nat.le_of_succ_le_succ within)
        rw [List.take_succ_cons, displayWidth_cons]
        omega

theorem beginning_unique {width n : Nat} {text : List Char} (inside : n ≤ text.length)
    (fits : displayWidth (text.take n) ≤ width)
    (longest : ∀ m, n < m -> m ≤ text.length -> width < displayWidth (text.take m)) :
    beginning width text = text.take n := by
  have found : Nat.findGreatest (fun n => displayWidth (text.take n) ≤ width) text.length = n :=
    (Nat.findGreatest_eq_iff).mpr
      ⟨inside, fun _ => fits, fun m more within => Nat.not_le.mpr (longest m more within)⟩
  rw [beginning, found]

theorem truncate_beginning (width : Nat) (text : List Char) : (truncate width 0 text).1 = beginning width text := by
  obtain ⟨n, inside, taken, fits, longest⟩ := truncate_longest (Nat.zero_le width) text
  simp only [Nat.zero_add] at fits longest
  rw [taken, beginning_unique inside fits longest]

theorem beginning_whole {width : Nat} {text : List Char} (fits : displayWidth text ≤ width) :
    beginning width text = text := by
  rw [beginning_unique le_rfl (by rwa [List.take_length]) fun m more within => absurd more (Nat.not_lt.mpr within),
    List.take_length]

theorem displayWidth_beginning (width : Nat) (text : List Char) : displayWidth (beginning width text) ≤ width := by
  obtain ⟨n, inside, taken, fits, longest⟩ := truncate_longest (Nat.zero_le width) text
  rw [← truncate_beginning, taken]
  omega

theorem displayWidth_append (first second : List Char) :
    displayWidth (first ++ second) = displayWidth first + displayWidth second := Spans.width_append charColumns first second

theorem displayWidth_shown (left right : List Char) (width : Nat) : displayWidth (shown left right width) ≤ width := by
  rw [shown]
  split_ifs with both
  next => rwa [displayWidth_append]
  next => exact displayWidth_beginning width left

theorem textColumns_formatBar (left right : List Char) (width : Nat) :
    textColumns (formatBar left right width) + displayWidth (shown left right width) =
      textColumns (shown left right width) + width := by
  have bound := displayWidth_shown left right width
  rw [shown] at bound ⊢
  simp only [formatBar]
  split_ifs at bound ⊢ with both leftFits
  next =>
    simp only [textColumns_append, textColumns_blanks, displayWidth_append]
    omega
  next =>
    rw [beginning_whole leftFits.le, textColumns_append, textColumns_blanks]
    omega
  next =>
    rw [truncate_width, truncate_beginning, textColumns_append, textColumns_blanks]
    omega

end FormatBar

open FormatBar in
theorem formatBar_width_iff (left right : List Char) (width : Nat) :
    textColumns (formatBar left right width) = width ↔
      (shown left right width).countP (fun c => isWider c.toNat) =
        (shown left right width).countP (fun c => isNarrower c.toNat) := by
  have bar := textColumns_formatBar left right width
  have shift := textColumns_shift (shown left right width)
  omega

/-- A name with a smiling face is a column too wide, one with a combining accent is a column too narrow. -/
theorem formatBar_emoji_accent_width :
    textColumns (formatBar "[😀]".toList " 1".toList 10) = 11 ∧
      textColumns (formatBar "[e\u0301]".toList " 1".toList 10) = 9 := by
  decide

end Emux
