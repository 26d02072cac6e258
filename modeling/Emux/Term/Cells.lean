import Emux.Term.Edits

set_option autoImplicit false

/-!
# Edits, cell by cell

The cell that a grid shows at a position, and what each edit puts there.
-/

namespace Emux

open Checked Grid

def Grid.look (g : Grid) (r c : Nat) : Option Cell := g.lines[r]?.bind fun row => row.cells[c]?

namespace Grid

theorem look_beyond {g : Grid} (sized : g.Sized) {r c : Nat} (beyond : g.cols ≤ c) : g.look r c = none := by
  unfold look
  cases found : g.lines[r]? with
  | none => rfl
  | some row => exact List.getElem?_eq_none (by rw [sized.cells_at found]; exact beyond)

theorem look_below {g : Grid} (sized : g.Sized) {r : Nat} (c : Nat) (below : g.rows ≤ r) : g.look r c = none := by
  have none : g.lines[r]? = none := List.getElem?_eq_none (by rw [sized.lines]; exact below)
  rw [look, none, Option.bind_none]

theorem look_lines {g : Grid} {lines : List Row} (r c : Nat) :
    ({ g with lines } : Grid).look r c = lines[r]?.bind fun row => row.cells[c]? := rfl

def blankAt (g : Grid) (c : Nat) : Option Cell := (Row.new g.cols).cells[c]?

theorem blankAt_of_lt {g : Grid} {c : Nat} (inside : c < g.cols) : g.blankAt c = some .blank := by
  simp [blankAt, Row.new, inside]

theorem blankAt_beyond {g : Grid} {c : Nat} (beyond : g.cols ≤ c) : g.blankAt c = none :=
  List.getElem?_eq_none (by rw [Row.length_new]; exact beyond)

end Grid

namespace Edit

variable {g : Grid} (r c : Nat)

theorem look_rows (top bottom : Nat) (e : RowEdit) :
    ((Edit.rows top bottom e).apply g).look r c =
      if top ≤ r ∧ r < bottom then g.lines[r]?.bind fun row => (e.onCells row.cells)[c]? else g.look r c := by
  simp only [apply, look_lines, getElem?_mapRange]
  split
  next => cases g.lines[r]? <;> simp
  next => rfl

theorem look_rowsUp (sized : g.Sized) {top bottom : Nat} (count : Nat) (keep : Bool) (bound : bottom ≤ g.rows) :
    ((Edit.rowsUp top bottom count keep).apply g).look r c =
      if top ≤ r ∧ r < bottom then if r + count < bottom then g.look (r + count) c else g.blankAt c
      else g.look r c := by
  have shifted := getElem?_shiftUp g.lines top bottom count (Row.new g.cols) r (by rw [sized.lines]; exact bound)
  simp only [apply, look]
  rw [shifted]
  split
  next => split <;> rfl
  next => rfl

theorem look_rowsDown (sized : g.Sized) {top bottom : Nat} (count : Nat) (bound : bottom ≤ g.rows) :
    ((Edit.rowsDown top bottom count).apply g).look r c =
      if top ≤ r ∧ r < bottom then if r < top + count then g.blankAt c else g.look (r - count) c
      else g.look r c := by
  have shifted := getElem?_shiftDown g.lines top bottom count (Row.new g.cols) r (by rw [sized.lines]; exact bound)
  simp only [apply, look]
  rw [shifted]
  split
  next => split <;> rfl
  next => rfl

theorem look_spliceRows_outside {lines source : List Row} {top bottom left right : Nat}
    (outside : ¬ ((top ≤ r ∧ r < bottom) ∧ left ≤ c ∧ c < right)) :
    ((spliceRows lines source top bottom left right)[r]?.bind fun row => row.cells[c]?) =
      lines[r]?.bind fun row => row.cells[c]? := by
  -- Splicing changes nothing outside its rows and columns.
  rw [spliceRows, getElem?_mapRange]
  split
  next inside =>
    cases lines[r]? with
    | none => rfl
    | some row =>
      have column : ¬ (left ≤ c ∧ c < right) := fun both => outside ⟨inside, both⟩
      simp only [Option.map_some, Option.bind_some, Row.edit, splice, getElem?_mapRange, if_neg column]
  next => rfl

theorem look_columns_outside {top bottom left right : Nat} (count : Nat)
    (outside : ¬ ((top ≤ r ∧ r < bottom) ∧ left ≤ c ∧ c < right)) :
    ((Edit.columnsUp top bottom left right count).apply g).look r c = g.look r c ∧
      ((Edit.columnsDown top bottom left right count).apply g).look r c = g.look r c := by
  have narrow : ¬ ((top ≤ r ∧ r < bottom) ∧ left ≤ c ∧ c < min right g.cols) := by omega
  exact ⟨look_spliceRows_outside r c narrow, look_spliceRows_outside r c narrow⟩

end Edit

end Emux
