import Emux.Term.Cells
import Emux.Term.Effects

set_option autoImplicit false

/-!
# Copying a rectangle

The buffer between reading and pasting makes the copy simultaneous, however source and destination
overlap.
-/

namespace Emux

open Checked Grid

theorem Edit.look_copy {g : Grid} (srcTop srcLeft dstTop dstLeft height width r c : Nat) :
    ((Edit.copy srcTop srcLeft dstTop dstLeft height width).apply g).look r c =
      if (dstTop ≤ r ∧ r < dstTop + height) ∧ dstLeft ≤ c ∧ c < dstLeft + width then
        (g.look r c).map fun old => (g.look (r - dstTop + srcTop) (c - dstLeft + srcLeft)).getD old
      else g.look r c := by
  simp only [Edit.apply, look_lines, getElem?_mapRange]
  by_cases rows : dstTop ≤ r ∧ r < dstTop + height
  next =>
    by_cases cols : dstLeft ≤ c ∧ c < dstLeft + width
    next =>
      cases found : g.lines[r]? with
      | none => simp [rows, cols, look, found]
      | some row => simp [rows, cols, look, found, getElem?_mapRange, Edit.source]
    next =>
      cases found : g.lines[r]? with
      | none => simp [rows, look, found]
      | some row => simp only [rows, cols, and_self, and_false, if_true, if_false, Option.map_some, Option.bind_some,
          Row.cells_edit, getElem?_mapRange, look, found]
  next => simp only [rows, false_and, if_false, look]

theorem Edit.flags_copy {g : Grid} (srcTop srcLeft dstTop dstLeft height width r : Nat) :
    ((Edit.copy srcTop srcLeft dstTop dstLeft height width).apply g).lines[r]?.map Row.flags =
      g.lines[r]?.map Row.flags := by
  simp only [Edit.apply, getElem?_mapRange]
  split
  next => cases g.lines[r]? <;> rfl
  next => rfl

namespace Screen

variable {s : Screen}

theorem look_copied (framed : Framed s) {top left bottom right dstTop dstLeft : Nat} (tall : bottom ≤ s.rows)
    (wide : right ≤ s.cols) {r c : Nat} (row : top + r < bottom) (col : left + c < right)
    (inRows : dstTop + r < s.rows) (inCols : dstLeft + c < s.cols) :
    ((Edit.copy top left dstTop dstLeft (bottom - top) (right - left)).apply s.grid).look (dstTop + r) (dstLeft + c) =
      s.grid.look (top + r) (left + c) := by
  have look {i j : Nat} (low : i < s.rows) (inside : j < s.cols) : ∃ cell, s.grid.look i j = some cell := by
    obtain ⟨line, found⟩ := framed.grid.row_at low
    have bound : j < line.cells.length := by rw [framed.grid.cells_at found]; exact inside
    exact ⟨line.cells[j], by rw [Grid.look, found, Option.bind_some, List.getElem?_eq_getElem bound]⟩
  obtain ⟨source, read⟩ := look (show top + r < s.rows by omega) (show left + c < s.cols by omega)
  obtain ⟨old, was⟩ := look inRows inCols
  rw [Edit.look_copy, if_pos (by omega), was, Option.map_some, show dstTop + r - dstTop + top = top + r by omega,
    show dstLeft + c - dstLeft + left = left + c by omega, read, Option.getD_some]

theorem copyRect_simultaneous (framed : Framed s) (srcTop srcLeft srcBottom srcRight dstTop dstLeft : Nat) :
    let top := min (srcTop - 1) (s.rows - 1)
    let left := min (srcLeft - 1) (s.cols - 1)
    let bottom := min srcBottom s.rows
    let right := min srcRight s.cols
    let row := min (dstTop - 1) (s.rows - 1)
    let col := min (dstLeft - 1) (s.cols - 1)
    ∃ after, s.copyRect srcTop srcLeft srcBottom srcRight dstTop dstLeft = .ok after ∧
      after = { s with grid := { s.grid with lines := after.grid.lines } } ∧
      (∀ r : Nat, after.grid.lines[r]?.map Row.flags = s.grid.lines[r]?.map Row.flags) ∧
      (∀ r c, top + r < bottom -> left + c < right -> row + r < s.rows -> col + c < s.cols ->
        after.grid.look (row + r) (col + c) = s.grid.look (top + r) (left + c)) ∧
      ∀ r c, (¬ ∃ dr dc, top + dr < bottom ∧ left + dc < right ∧ r = row + dr ∧ c = col + dc) ->
        after.grid.look r c = s.grid.look r c := by
  intro top left bottom right row col
  have result := copyRect_ok framed srcTop srcLeft srcBottom srcRight dstTop dstLeft
  by_cases empty : bottom ≤ top ∨ right ≤ left
  next =>
    have unchanged : s.copied srcTop srcLeft srcBottom srcRight dstTop dstLeft = s := if_pos empty
    refine ⟨s, by rw [result, unchanged], rfl, fun _ => rfl, ?_, fun _ _ _ => rfl⟩
    intro r c low inside
    rcases empty with flat | thin
    next => exact absurd (Nat.lt_of_le_of_lt (Nat.le_add_right top r) low) (Nat.not_lt.mpr flat)
    next => exact absurd (Nat.lt_of_le_of_lt (Nat.le_add_right left c) inside) (Nat.not_lt.mpr thin)
  next =>
    have pasted : s.copied srcTop srcLeft srcBottom srcRight dstTop dstLeft =
        s.edit (.copy top left row col (bottom - top) (right - left)) := if_neg empty
    refine ⟨_, by rw [result, pasted], rfl, fun r => Edit.flags_copy .., ?_, ?_⟩
    next =>
      intro r c low inside inRows inCols
      exact look_copied framed (Nat.min_le_right ..) (Nat.min_le_right ..) low inside inRows inCols
    next =>
      intro r c outside
      refine (Edit.look_copy top left row col (bottom - top) (right - left) r c).trans (if_neg ?_)
      rintro ⟨rows, cols⟩
      exact outside ⟨r - row, c - col, by omega, by omega, by omega, by omega⟩

def letters : Screen :=
  { Screen.new 3 1 with grid := { cols := 3, rows := 1, lines := [{ cells := ['a', 'b', 'c'].map fun c => { c } }] } }

theorem letters_framed : Framed letters :=
  framed_filled ⟨by decide, by decide, by decide, by decide⟩ (by decide) (by decide) {}

theorem copyRect_simultaneous_letters :
    ∃ after, letters.copyRect 1 1 1 9 1 2 = .ok after ∧ after.grid.look 0 1 = letters.grid.look 0 0 ∧
      after.grid.look 0 2 = letters.grid.look 0 1 := by
  obtain ⟨after, ran, -, -, copied, -⟩ := copyRect_simultaneous letters_framed 1 1 1 9 1 2
  exact ⟨after, ran, copied 0 0 (by decide) (by decide) (by decide) (by decide),
    copied 0 1 (by decide) (by decide) (by decide) (by decide)⟩

end Screen

end Emux
