import Mathlib.Algebra.BigOperators.Group.List.Basic
import Emux.Loop.Highlight

set_option autoImplicit false

/-!
# The width of drawn rows

How many columns of the terminal the text takes that is drawn for a row of cells.
-/

namespace Emux

open Checked Spans Grid

def textColumns (text : List Char) : Nat := (text.map charWidth).sum

def spanColumns (spans : List (ContentStyle × List Char)) : Nat := (spans.map fun span => textColumns span.2).sum

/-- Wide characters have both their columns, and every character has the width that its cell says. -/
structure WellPaired (cells : List Cell) : Prop where
  paired : PairedCells cells
  widths : ∀ cell ∈ cells, cell.width ≠ 0 -> charWidth cell.glyph = cell.width

theorem textColumns_append (first second : List Char) :
    textColumns (first ++ second) = textColumns first + textColumns second := width_append charWidth first second

theorem spanColumns_expand (spans : List (ContentStyle × List Char)) :
    spanColumns spans = textColumns ((expand spans).map Prod.snd) := by
  induction spans with
  | nil => rfl
  | cons span rest ih =>
    have split : (expand (span :: rest)).map Prod.snd = span.2 ++ (expand rest).map Prod.snd := by
      simp [Function.comp_def]
    rw [split, spanColumns, List.map_cons, List.sum_cons, textColumns_append, ← spanColumns, ih]

def counted (cells : List Cell) : Nat := (cells.map fun cell => if cell.width = 0 then 1 else cell.width).sum

theorem renderRow_col (cells : List Cell) (spans : List (ContentStyle × List Char)) (col : Nat) :
    (cells.foldl (fun (spans, col) cell =>
      if cell.width = 0 then (spans, col + 1) else (push spans (cellStyle cell, cell.glyph), col + cell.width))
      (spans, col)).2 = col + counted cells := by
  induction cells generalizing spans col with
  | nil => rfl
  | cons cell rest ih =>
    rw [List.foldl_cons, counted, List.map_cons, List.sum_cons, ← counted]
    by_cases second : cell.width = 0
    next => simp only [second, if_true, ih, Nat.add_assoc]
    next => simp only [second, if_false, ih, Nat.add_assoc]

theorem renderRow_text (cells : List Cell) (width : Nat) : (expand (renderRow cells width)).map Prod.snd =
    (drawnCells cells width).map Cell.glyph ++ List.replicate (width - counted (cells.take width)) ' ' := by
  unfold renderRow
  dsimp only
  rw [expand_pushAll, renderRow_spans, renderRow_col, expand_pushAll, expand_nil, List.nil_append, Nat.zero_add, drawnCells]
  simp [Function.comp_def]

theorem textColumns_blanks (count : Nat) : textColumns (List.replicate count ' ') = count :=
  width_replicate charWidth (by decide) count

theorem sum_widths_take {cells : List Cell} (well : WellPaired cells) (n : Nat) :
    ((cells.take n).map Cell.width).sum = min n cells.length + if trails cells n then 1 else 0 := by
  induction n with
  | zero => simp [well.paired.1]
  | succ n ih =>
    rw [List.take_add_one, List.map_append, List.sum_append, ih, well.paired.second n]
    cases found : cells[n]? with
    | none =>
      have past := List.getElem?_eq_none_iff.mp found
      simp [trails, leads, found]
      omega
    | some cell =>
      have inside := (List.getElem?_eq_some_iff.mp found).1
      have width : cell.width = 0 ∨ cell.width = 1 ∨ cell.width = 2 := by
        by_cases second : cell.width = 0
        next => exact Or.inl second
        next =>
          rw [← well.widths cell (List.mem_of_getElem? found) second]
          exact charWidth_cases _
      rcases width with width | width | width <;> simp [trails, leads, found, width] <;> omega

theorem counted_eq (cells : List Cell) :
    counted cells = (cells.map Cell.width).sum + cells.countP fun cell => cell.width == 0 := by
  induction cells with
  | nil => rfl
  | cons cell rest ih =>
    rw [counted, List.map_cons, List.sum_cons, ← counted, ih, List.map_cons, List.sum_cons, List.countP_cons]
    by_cases second : cell.width = 0
    next => simp [second]; omega
    next => simp [second]; omega

theorem drawnColumns_eq {cells : List Cell} (well : WellPaired cells) (width : Nat) :
    textColumns ((drawnCells cells width).map Cell.glyph) = ((cells.take width).map Cell.width).sum := by
  have widths : ∀ cell ∈ cells.take width, cell.width ≠ 0 -> charWidth cell.glyph = cell.width := fun cell member =>
    well.widths cell (List.mem_of_mem_take member)
  rw [drawnCells, textColumns, List.map_map]
  generalize cells.take width = taken at widths
  induction taken with
  | nil => rfl
  | cons cell rest ih =>
    obtain ⟨here, later⟩ := List.forall_mem_cons.mp widths
    by_cases second : cell.width = 0
    next => rw [List.filter_cons_of_neg (by simp [second]), ih later, List.map_cons, List.sum_cons, second, Nat.zero_add]
    next =>
      rw [List.filter_cons_of_pos (by simp [second]), List.map_cons, List.sum_cons, ih later, List.map_cons, List.sum_cons,
        Function.comp_apply, here second]

theorem renderRow_columns {cells : List Cell} (well : WellPaired cells) (width : Nat) :
    spanColumns (renderRow cells width) =
      ((cells.take width).map Cell.width).sum + (width - counted (cells.take width)) := by
  rw [spanColumns_expand, renderRow_text, textColumns_append, drawnColumns_eq well, textColumns_blanks]

theorem no_second_iff {cells : List Cell} (well : WellPaired cells) :
    (cells.countP fun cell => cell.width == 0) = 0 ↔ ∀ cell ∈ cells, cell.width ≠ 2 := by
  rw [List.countP_eq_zero]
  constructor
  next =>
    intro none cell member wide
    obtain ⟨i, found⟩ := List.mem_iff_getElem?.mp member
    have second := well.paired.second i
    rw [show leads cells i = true by simp [leads, found, wide]] at second
    obtain ⟨other, at_, zero⟩ := (Option.any_eq_true _ _).mp second
    exact none other (List.mem_of_getElem? at_) zero
  next =>
    intro narrow cell member zero
    obtain ⟨i, found⟩ := List.mem_iff_getElem?.mp member
    have isTrail : trails cells i = true := by simpa [trails, found] using zero
    cases i with
    | zero => rw [well.paired.1] at isTrail; cases isTrail
    | succ i =>
      rw [well.paired.second i] at isTrail
      obtain ⟨lead, at_, wide⟩ := (Option.any_eq_true _ _).mp isTrail
      exact narrow lead (List.mem_of_getElem? at_) (by simpa using wide)

theorem renderRow_width_iff {cells : List Cell} (well : WellPaired cells) (width : Nat) :
    spanColumns (renderRow cells width) = width ↔
      trails cells width = false ∧ (cells.length < width -> ∀ cell ∈ cells, cell.width ≠ 2) := by
  rw [renderRow_columns well, counted_eq, sum_widths_take well]
  rcases Nat.lt_or_ge cells.length width with short | long
  next =>
    have outside : trails cells width = false := by
      rw [trails, List.getElem?_eq_none (Nat.le_of_lt short)]
      rfl
    have whole : cells.take width = cells := List.take_of_length_le (Nat.le_of_lt short)
    rw [outside, whole, ← no_second_iff well]
    simp only [true_and, Bool.false_eq_true, if_false, short, forall_const]
    omega
  next =>
    have notShort : ¬ cells.length < width := by omega
    cases cut : trails cells width with
    | false =>
      simp only [Bool.false_eq_true, if_false, notShort, false_implies, and_self, iff_true]
      omega
    | true =>
      simp only [if_true, Bool.true_eq_false, false_and, iff_false]
      omega

def wideCells : List Cell :=
  [{ Cell.blank with c := '世', width := 2 }, { Cell.blank with c := ' ', width := 0 }]

theorem wideCells_wellPaired : WellPaired (Cell.blank :: wideCells) := ⟨by decide, by decide⟩

theorem renderRow_width_whole : spanColumns (renderRow (Cell.blank :: wideCells) 3) = 3 :=
  (renderRow_width_iff wideCells_wellPaired 3).mpr (by decide)

/-- A wide character at the cut takes one column too many, and one in a short row leaves one out. -/
theorem renderRow_width_off :
    (¬ ∀ (cells : List Cell) (width : Nat), WellPaired cells -> spanColumns (renderRow cells width) = width) ∧
      spanColumns (renderRow (Cell.blank :: wideCells) 2) = 3 ∧ spanColumns (renderRow (Cell.blank :: wideCells) 4) = 3 := by
  have spills : spanColumns (renderRow (Cell.blank :: wideCells) 2) = 3 := by decide
  refine ⟨fun all => ?_, spills, by decide⟩
  have two := all (Cell.blank :: wideCells) 2 wideCells_wellPaired
  rw [spills] at two
  exact absurd two (by decide)

end Emux
