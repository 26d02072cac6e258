import Mathlib.Algebra.Group.Nat.Defs
import Emux.Term.Cells

set_option autoImplicit false

/-!
# Wide characters under an erased range

A wide character takes a cell of width 2 and, behind it, one of width 0. Erasing a range of a row
erases the other half of a wide character that the range cuts, so that no half is left alone.
-/

namespace Emux

open Checked

namespace Grid

/-- Every first column of a wide character has a second one behind it, and no second column is alone. -/
def PairedCells (cells : List Cell) : Prop :=
  trails cells 0 = false ∧ ∀ i < cells.length, trails cells (i + 1) = leads cells i

instance (cells : List Cell) : Decidable (PairedCells cells) := by unfold PairedCells; infer_instance

def Paired (g : Grid) : Prop := ∀ row ∈ g.lines, PairedCells row.cells

instance (g : Grid) : Decidable g.Paired := by unfold Paired; infer_instance

section

variable {cells : List Cell} {left stop : Nat}

theorem PairedCells.second (paired : PairedCells cells) (i : Nat) : trails cells (i + 1) = leads cells i := by
  by_cases inside : i < cells.length
  next => exact paired.2 i inside
  next =>
    simp only [trails, leads, List.getElem?_eq_none (show cells.length ≤ i by omega),
      List.getElem?_eq_none (show cells.length ≤ i + 1 by omega), Option.any_none]

theorem leads_not_trails {i : Nat} (lead : leads cells i = true) : trails cells i = false := by
  simp only [leads, trails, Option.any_eq_true, Option.any_eq_false, beq_iff_eq] at lead ⊢
  obtain ⟨cell, found, width⟩ := lead
  intro other same
  simp [Option.some.inj (same.symm.trans found), width]

theorem trails_blanked (i : Nat) :
    trails (mapRange cells left stop fun _ _ => .blank) i = (!decide (left ≤ i ∧ i < stop) && trails cells i) := by
  simp only [trails, getElem?_mapRange]
  by_cases inside : left ≤ i ∧ i < stop
  next => cases cells[i]? <;> simp [inside, Cell.blank]
  next => simp [inside]

theorem leads_blanked (i : Nat) :
    leads (mapRange cells left stop fun _ _ => .blank) i = (!decide (left ≤ i ∧ i < stop) && leads cells i) := by
  simp only [leads, getElem?_mapRange]
  by_cases inside : left ≤ i ∧ i < stop
  next => cases cells[i]? <;> simp [inside, Cell.blank]
  next => simp [inside]

theorem PairedCells.blanked (paired : PairedCells cells) (start : left < stop -> trails cells left = false)
    (past : left < stop -> trails cells stop = false) :
    PairedCells (mapRange cells left stop fun _ _ => .blank) := by
  refine ⟨by rw [trails_blanked, paired.1, Bool.and_false], ?_⟩
  intro i inside
  rw [trails_blanked, leads_blanked, paired.second i]
  by_cases edge : left < stop ∧ (i + 1 = left ∨ i + 1 = stop)
  next =>
    have alone : leads cells i = false := by
      rw [← paired.second i]
      rcases edge.2 with first | last
      next => rw [first]; exact start edge.1
      next => rw [last]; exact past edge.1
    rw [alone, Bool.and_false, Bool.and_false]
  next =>
    have same : (left ≤ i + 1 ∧ i + 1 < stop) ↔ left ≤ i ∧ i < stop := by omega
    simp only [same]

theorem PairedCells.span (paired : PairedCells cells) (order : left < stop) :
    trails cells (spanStart cells left) = false ∧ trails cells (spanStop cells left stop) = false := by
  constructor
  next =>
    simp only [spanStart]
    split
    next cut =>
      apply leads_not_trails
      rw [← paired.second, show left - 1 + 1 = left by omega]
      exact cut.2
    next whole =>
      by_cases first : left = 0
      next => rw [first]; exact paired.1
      next => exact Bool.eq_false_iff.mpr fun trail => whole ⟨by omega, trail⟩
  next =>
    have behind := paired.second (stop - 1)
    rw [show stop - 1 + 1 = stop by omega] at behind
    simp only [spanStop, order, true_and]
    split
    next cut =>
      rw [paired.second]
      exact Bool.eq_false_iff.mpr fun lead => by simp [leads_not_trails lead, cut] at behind
    next whole => rw [behind]; exact Bool.eq_false_iff.mpr whole

theorem PairedCells.blankSpan (paired : PairedCells cells) (order : left < stop) :
    PairedCells (blankSpan left stop cells) :=
  paired.blanked (fun _ => (paired.span order).1) fun _ => (paired.span order).2

def Touched (cells : List Cell) (left stop c : Nat) : Prop :=
  (left ≤ c ∧ c < stop) ∨ (leads cells c = true ∧ left ≤ c + 1 ∧ c + 1 < stop) ∨
    (trails cells c = true ∧ left + 1 ≤ c ∧ c < stop + 1)

instance (cells : List Cell) (left stop c : Nat) : Decidable (Touched cells left stop c) := by
  unfold Touched; infer_instance

theorem PairedCells.touched_iff (paired : PairedCells cells) (order : left < stop) (c : Nat) :
    Touched cells left stop c ↔ spanStart cells left ≤ c ∧ c < spanStop cells left stop := by
  -- A half outside of the range is touched where its other half is inside, at one of the two ends.
  have behind : trails cells stop = leads cells (stop - 1) := by
    have second := paired.second (stop - 1)
    rwa [show stop - 1 + 1 = stop by omega] at second
  have before := paired.second c
  simp only [Touched, spanStart, spanStop, order, true_and]
  by_cases at_left : c + 1 = left
  next =>
    rw [at_left] at before
    have low : ¬ (left ≤ c ∧ c < stop) := by omega
    have apart : ¬ (left + 1 ≤ c ∧ c < stop + 1) := by omega
    have near : left ≤ c + 1 ∧ c + 1 < stop := by omega
    simp only [← before, low, apart, near, and_self, and_true, and_false, or_false, false_or]
    by_cases trail : trails cells left = true
    next =>
      rw [if_pos ⟨by omega, trail⟩]
      exact iff_of_true trail (by split <;> omega)
    next =>
      rw [if_neg fun both => trail both.2]
      exact iff_of_false trail (by omega)
  next =>
    by_cases at_stop : c = stop
    next =>
      subst at_stop
      rw [behind]
      split <;> split <;> simp_all <;> omega
    next =>
      have lead : ¬ (left ≤ c + 1 ∧ c + 1 < stop) ∨ left ≤ c ∧ c < stop := by omega
      have trail : ¬ (left + 1 ≤ c ∧ c < stop + 1) ∨ left ≤ c ∧ c < stop := by omega
      have plain : Touched cells left stop c ↔ left ≤ c ∧ c < stop := by
        simp only [Touched]
        tauto
      simp only [Touched] at plain
      rw [plain]
      split <;> split <;> omega

end

/-- `erased` is the grid with the columns `[left, stop)` of the rows `[top, bottom)` blank, and with
them the other half of a wide character cut at either edge; every other cell is as it was. -/
structure Erases (g erased : Grid) (top bottom left stop : Nat) : Prop where
  rest : erased = { g with lines := erased.lines }
  length : erased.lines.length = g.lines.length
  flags (r : Nat) : erased.lines[r]?.map Row.flags = g.lines[r]?.map Row.flags
  cells (r c : Nat) (row : Row) (found : g.lines[r]? = some row) :
    erased.look r c =
      if (top ≤ r ∧ r < bottom) ∧ Touched row.cells left stop c then row.cells[c]?.map fun _ => .blank
      else row.cells[c]?

variable {g : Grid} {top bottom left stop : Nat}

theorem mapRange_rows_at {f : Row -> Row} {r : Nat} {row : Row} (found : g.lines[r]? = some row) :
    (mapRange g.lines top bottom fun _ => f)[r]? = some (if top ≤ r ∧ r < bottom then f row else row) := by
  rw [getElem?_mapRange, found]
  split <;> rfl

theorem erases_span (paired : g.Paired) (order : left < stop) :
    let lines := mapRange g.lines top bottom fun _ row => row.edit (blankSpan left stop)
    g.Erases { g with lines } top bottom left stop ∧ ({ g with lines } : Grid).Paired := by
  intro lines
  refine ⟨⟨rfl, length_mapRange .., ?_, ?_⟩, ?_⟩
  next =>
    intro r
    cases found : g.lines[r]? with
    | none => simp [lines, getElem?_mapRange, found]
    | some row =>
      simp only [lines, mapRange_rows_at found, Option.map_some]
      split <;> rfl
  next =>
    intro r c row found
    simp only [look_lines, lines, mapRange_rows_at found, Option.bind_some]
    by_cases inside : top ≤ r ∧ r < bottom
    next =>
      have touched := (paired row (List.mem_of_getElem? found)).touched_iff order c
      simp only [inside, and_self, if_true, true_and, Row.cells_edit, blankSpan, getElem?_mapRange, touched]
    next => simp only [inside, if_false, false_and]
  next =>
    intro row member
    obtain ⟨r, here⟩ := List.mem_iff_getElem?.mp member
    have bound : r < g.lines.length := by
      have inside := (List.getElem?_eq_some_iff.mp here).1
      rwa [length_mapRange] at inside
    have old := paired g.lines[r] (List.getElem_mem bound)
    have same := here.symm.trans (mapRange_rows_at (List.getElem?_eq_getElem bound))
    rw [Option.some.inj same]
    split
    next => exact old.blankSpan order
    next => exact old

theorem erases_nothing : g.Erases g top bottom left left where
  rest := rfl
  length := rfl
  flags r := rfl
  cells r c row found := by
    have untouched : ¬ Touched row.cells left left c := by
      rintro (range | ⟨_, second⟩ | ⟨_, first⟩) <;> omega
    rw [if_neg fun both => untouched both.2, look, found, Option.bind_some]

/-- `Grid::erase_chars` with the sum `col + count` in its `usize`. -/
def eraseCharsUsize (g : Grid) (row col count : Nat) : Fallible Grid :=
  if g.rows ≤ row ∨ g.cols ≤ col then .ok g
  else do
    let _ <- add (2 ^ 64) col count
    g.eraseChars row col count

theorem eraseChars_nothing (sized : g.Sized) {r col : Nat} {row : Row} (found : g.lines[r]? = some row)
    (inside : col < g.cols) (whole : trails row.cells col = false) : g.eraseChars r col 0 = .ok g := by
  have empty : blankSpan col col row.cells = row.cells := by
    simp only [blankSpan, spanStart, spanStop, whole, Nat.lt_irrefl, false_and, if_false, Bool.false_eq_true, and_false]
    exact mapRange_empty _ _ (Nat.le_refl col)
  rw [eraseChars_ok sized 0 found inside, Nat.add_zero, Nat.min_eq_left (by omega), Row.edit, empty, set_same found]

theorem eraseChars_head (sized : g.Sized) {r col : Nat} {row : Row} (found : g.lines[r]? = some row)
    (inside : col < g.cols) (later : 0 < col) (cut : trails row.cells col = true) :
    ∃ erased, g.eraseChars r col 0 = .ok erased ∧ erased.look r (col - 1) = some .blank := by
  -- Nothing is to be erased, but the repair at the start blanks the first column all the same.
  have bound := (List.getElem?_eq_some_iff.mp found).1
  have width := sized.cells_at found
  have before : row.cells[col - 1]? = some row.cells[col - 1] := List.getElem?_eq_getElem (by omega)
  refine ⟨_, eraseChars_ok sized 0 found inside, ?_⟩
  simp only [look_lines, List.getElem?_set_self bound, Option.bind_some, Row.cells_edit, blankSpan, getElem?_mapRange,
    Nat.add_zero, Nat.min_eq_left (Nat.le_of_lt inside), spanStart, spanStop, Nat.lt_irrefl, false_and, if_false, later,
    cut, and_self, if_true, before]
  rw [if_pos (by omega), Option.map_some]

theorem region_erase (sized : g.Sized) (paired : g.Paired) :
    (∀ top left bottom right, top ≤ bottom -> bottom < g.rows -> left ≤ right -> right < g.cols ->
      ∃ erased, g.clearRegion top left bottom right = .ok erased ∧
        g.Erases erased top (bottom + 1) left (right + 1) ∧ erased.Paired) ∧
      ∀ row col count, row < g.rows -> col < g.cols ->
        ((∃ erased, g.eraseCharsUsize row col count = .ok erased ∧
            g.Erases erased row (row + 1) col (min (col + count) g.cols) ∧ erased.Paired) ↔
          col + count < 2 ^ 64 ∧ (0 < count ∨ ∃ cell, g.look row col = some cell ∧ cell.width ≠ 0)) := by
  constructor
  next =>
    intro top left bottom right _ bound order inside
    exact ⟨_, clearRegion_ok sized order inside bound, erases_span paired (by omega)⟩
  next =>
    -- What is erased ends with the row, but the sum before that has to fit its type.
    intro r col count inRows inCols
    obtain ⟨row, found⟩ := sized.row_at inRows
    have width := sized.cells_at found
    have here : row.cells[col]? = some row.cells[col] := List.getElem?_eq_getElem (by omega)
    have cells := paired row (List.mem_of_getElem? found)
    have look : g.look r col = some row.cells[col] := by rw [Grid.look, found, Option.bind_some, here]
    have trailing : trails row.cells col = decide (row.cells[col].width = 0) := by
      simp [trails, here, beq_eq_decide]
    rw [eraseCharsUsize, if_neg (by omega), look]
    simp only [Option.some.injEq, exists_eq_left']
    by_cases fits : col + count < 2 ^ 64
    next =>
      rw [add, if_pos fits, ok_bind]
      simp only [fits, true_and]
      by_cases positive : 0 < count
      next =>
        have span := @erases_span g r (r + 1) col (min (col + count) g.cols) paired (by omega)
        have erased := eraseChars_ok sized count found inCols
        rw [set_eq_mapRange (fun row => row.edit (blankSpan col (min (col + count) g.cols))) found] at erased
        exact iff_of_true ⟨_, erased, span⟩ (.inl positive)
      next =>
        obtain rfl : count = 0 := by omega
        simp only [Nat.add_zero, Nat.min_eq_left (Nat.le_of_lt inCols), Nat.lt_irrefl, false_or]
        by_cases cut : row.cells[col].width = 0
        next =>
          have later : 0 < col := by
            by_contra first
            obtain rfl : col = 0 := by omega
            simp [cells.1, cut] at trailing
          obtain ⟨erased, is, blank⟩ := eraseChars_head sized found inCols later (by simp [trailing, cut])
          refine iff_of_false ?_ (by simpa using cut)
          rintro ⟨result, same, erases, -⟩
          obtain rfl : result = erased := by simpa [is] using same.symm
          have head : leads row.cells (col - 1) = true := by
            rw [← cells.second, show col - 1 + 1 = col by omega, trailing, decide_eq_true cut]
          have untouched : ¬ Touched row.cells col col (col - 1) := by
            rintro (range | ⟨_, second⟩ | ⟨_, first⟩) <;> omega
          have kept := erases.cells r (col - 1) row found
          rw [blank, if_neg fun both => untouched both.2] at kept
          simp [leads, ← kept, Cell.blank] at head
        next =>
          have nothing := eraseChars_nothing sized found inCols (by simp [trailing, cut])
          exact iff_of_true ⟨g, nothing, erases_nothing, paired⟩ cut
    next =>
      rw [add, if_neg fits]
      refine iff_of_false ?_ fun both => fits both.1
      rintro ⟨erased, impossible, -⟩
      cases impossible

def wideFirst : Grid :=
  { cols := 3, rows := 1, lines := [{ cells := [{ c := '中', width := 2 }, { width := 0 }, { c := 'x' }] }] }

theorem region_erase_cut :
    ∃ erased, wideFirst.eraseCharsUsize 0 1 1 = .ok erased ∧ wideFirst.Erases erased 0 1 1 2 ∧ erased.Paired :=
  ((region_erase (g := wideFirst) ⟨by decide, by decide, by decide, by decide⟩ (by decide)).2 0 1 1
    (by decide) (by decide)).mpr ⟨by decide, .inl (by decide)⟩

theorem erases_head_alone :
    wideFirst.Paired ∧ ∃ erased, wideFirst.eraseCharsUsize 0 1 0 = .ok erased ∧
      erased.look 0 0 = some .blank ∧ wideFirst.look 0 0 ≠ some .blank ∧ ¬ erased.Paired :=
  ⟨by decide, _, rfl, by decide, by decide, by decide⟩

end Grid

end Emux
