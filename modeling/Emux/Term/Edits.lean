import Emux.Term.GridEdits
import Emux.Term.Screen

set_option autoImplicit false

/-!
# Edits

What the methods of the screen do to a grid, as data: a row edit changes one row by itself, an
edit of the grid applies a row edit to a range of rows or moves rows and columns. An edit is total
and keeps the grid sized.
-/

namespace Emux

open Checked Grid

/-- The cells of a row after printing: wide characters cut by the new one become blanks first. -/
def printCells (col width : Nat) (head tail : Cell) (cells : List Cell) : List Cell :=
  let first := if leads cells col then cells.modify (col + 1) Screen.padCell else cells
  let second := if 0 < col ∧ trails cells col then
    first.modify (col - 1) fun cell => if cell.width = 2 then Screen.padCell cell else cell else first
  let third := if width = 2 ∧ leads second (col + 1) then second.modify (col + 2) Screen.padCell else second
  let fourth := third.set col head
  if width = 2 then fourth.set (col + 1) tail else fourth

inductive RowEdit where
  | flag (continuation : Bool)
  | reset
  | erase (left stop : Nat)
  | cells (left right : Nat) (f : Cell -> Cell)
  | print (col width : Nat) (head tail : Cell)
  | insert (col right count : Nat)
  | delete (col right count : Nat)

namespace RowEdit

def onCells (e : RowEdit) (cells : List Cell) : List Cell :=
  match e with
  | .flag _ => cells
  | .reset => cells.map fun _ => .blank
  | .erase left stop => blankSpan left stop cells
  | .cells left right f => mapRange cells left right fun _ => f
  | .print col width head tail => printCells col width head tail cells
  | .insert col right count => shiftDown cells col right count .blank
  | .delete col right count => shiftUp cells col right count .blank

def apply (e : RowEdit) (row : Row) : Row :=
  match e with
  | .flag continuation => { row with flags := { continuation } }
  | .reset => row.reset
  | _ => row.edit e.onCells

@[simp] theorem cells_apply (e : RowEdit) (row : Row) : (e.apply row).cells = e.onCells row.cells := by
  cases e <;> rfl

@[simp] theorem length_onCells (e : RowEdit) (cells : List Cell) :
    (e.onCells cells).length = cells.length := by
  cases e with
  | print col width head tail =>
    simp only [onCells, printCells]
    split_ifs <;> simp
  | _ => simp [onCells]

end RowEdit

inductive Edit where
  | rows (top bottom : Nat) (e : RowEdit)
  | rowsUp (top bottom count : Nat) (keep : Bool)
  | rowsDown (top bottom count : Nat)
  | columnsUp (top bottom left right count : Nat)
  | columnsDown (top bottom left right count : Nat)
  | copy (srcTop srcLeft dstTop dstLeft height width : Nat)
  | clearHistory

namespace Edit

def source (g : Grid) (srcTop srcLeft dstTop dstLeft r c : Nat) : Option Cell :=
  g.lines[r - dstTop + srcTop]?.bind fun row => row.cells[c - dstLeft + srcLeft]?

def apply (e : Edit) (g : Grid) : Grid :=
  match e with
  | .rows top bottom e => { g with lines := mapRange g.lines top bottom fun _ => e.apply }
  | .rowsUp top bottom count keep =>
    { g with
      lines := shiftUp g.lines top bottom count (Row.new g.cols)
      scrollback := if keep then g.historyAfter top bottom count else g.scrollback }
  | .rowsDown top bottom count =>
    { g with lines := shiftDown g.lines top bottom count (Row.new g.cols) }
  | .columnsUp top bottom left right count =>
    { g with
      lines := spliceRows g.lines (shiftUp g.lines top bottom count (Row.new g.cols)) top bottom left
        (min right g.cols) }
  | .columnsDown top bottom left right count =>
    { g with
      lines := spliceRows g.lines (shiftDown g.lines top bottom count (Row.new g.cols)) top bottom left
        (min right g.cols) }
  | .copy srcTop srcLeft dstTop dstLeft height width =>
    { g with
      lines := mapRange g.lines dstTop (dstTop + height) fun r row => row.edit fun cells =>
        mapRange cells dstLeft (dstLeft + width) fun c old =>
          (source g srcTop srcLeft dstTop dstLeft r c).getD old }
  | .clearHistory => { g with scrollback := [] }

@[simp] theorem cols_apply (e : Edit) (g : Grid) : (e.apply g).cols = g.cols := by cases e <;> rfl

@[simp] theorem rows_apply (e : Edit) (g : Grid) : (e.apply g).rows = g.rows := by cases e <;> rfl

theorem sized_shift {g : Grid} (sized : g.Sized) {lines : List Row} (length : lines.length = g.lines.length)
    (from_rows : ∀ (r : Nat) (row : Row), lines[r]? = some row ->
      row = Row.new g.cols ∨ ∃ old : Nat, g.lines[old]? = some row) : ({ g with lines } : Grid).Sized := by
  apply sized.with_lines length
  intro r row found
  rcases from_rows r row found with rfl | ⟨old, here⟩
  next => exact Row.length_new g.cols
  next => exact sized.cells_at here

theorem sized_apply {g : Grid} (sized : g.Sized) (e : Edit) : (e.apply g).Sized := by
  cases e with
  | rows top bottom e => exact sized.map_rows top bottom fun r row => by simp
  | rowsUp top bottom count keep =>
    have moved := @sized_shift g sized (shiftUp g.lines top bottom count (Row.new g.cols)) (by simp)
      fun r row found => shiftUp_source found
    refine ⟨moved.lines, moved.cells, ?_, ?_⟩
    next =>
      intro row member
      simp only [apply] at member
      split at member
      next =>
        simp only [Grid.historyAfter, Grid.pushed] at member
        split at member
        next =>
          rcases List.mem_append.mp (mem_of_mem_trimFront member) with old | new
          next => exact sized.history row old
          next => exact sized.cells row (List.mem_of_mem_take new)
        next => exact sized.history row member
      next => exact sized.history row member
    next =>
      simp only [apply]
      split
      next =>
        simp only [Grid.historyAfter, Grid.pushed]
        split
        next => rw [length_trimFront]; exact Nat.min_le_right ..
        next => exact sized.bounded
      next => exact sized.bounded
  | rowsDown top bottom count => exact sized_shift sized (by simp) fun r row found => shiftDown_source found
  | columnsUp top bottom left right count => exact sized.map_rows top bottom fun r row => by simp
  | columnsDown top bottom left right count => exact sized.map_rows top bottom fun r row => by simp
  | copy srcTop srcLeft dstTop dstLeft height width =>
    exact sized.map_rows dstTop (dstTop + height) fun r row => by simp
  | clearHistory => exact ⟨sized.lines, sized.cells, by simp [apply], Nat.zero_le _⟩

end Edit

end Emux
