import Emux.Term.Grid
import Mathlib.Data.List.DropRight
import Mathlib.Data.List.SplitBy

set_option autoImplicit false

/-!
# Resizing a grid

`reflowLines` joins the rows of a logical line and cuts them again at the new width;
`resizeWithCursor` then moves rows between the viewport and the scrollback.
-/

namespace Emux

open Checked

/-- Whether the trimming loop of the reflow passes over the cell. -/
def Cell.isBlank (cell : Cell) : Bool :=
  cell.c == ' ' && cell.width == 1 && cell.attrs.isDefault && cell.fg == .default &&
    cell.bg == .default && cell.hyperlink.isNone

/-- A logical line starts at a row that is no continuation and takes the continuations after it. -/
def logicalLines (rows : List Row) : List (List Row) :=
  rows.splitBy fun _ next => next.flags.continuation

namespace Grid

def cutRow (cells : List Cell) (newCols r : Nat) : Row :=
  let rowStart := r * newCols
  let rowEnd := min ((r + 1) * newCols) cells.length
  let chunk := (cells.drop rowStart).take (rowEnd - rowStart)
  { cells := chunk ++ List.replicate (newCols - chunk.length) .blank
    flags := { continuation := decide (0 < r) } }

/-- The output rows of one logical line, and among them the row of the cursor when the
cursor is `cursorOffset` cells into the line. -/
def reflowLine (line : List Row) (newCols : Nat) (cursorOffset : Option Nat) :
    Fallible (List Row × Option Nat) :=
  match line with
  | [row] => .ok ([row.resize newCols], cursorOffset.map fun _ => 0)
  | _ =>
    let cells := line.flatMap Row.cells
    let contentLen := (cells.rdropWhile Cell.isBlank).length
    if contentLen = 0 then .ok ([Row.new newCols], cursorOffset.map fun _ => 0)
    else do
      let numRows ← divCeil contentLen newCols
      .ok ((List.range numRows).map (cutRow cells newCols),
        cursorOffset.map fun offset =>
          -- A cursor past the content goes to the last row.
          if offset / newCols < numRows then offset / newCols else numRows - 1)

structure ReflowState where
  start : Nat := 0
  result : List Row := []
  newCursorRow : Option Nat := none

def reflowStep (oldCols newCols : Nat) (cursorAbsRow : Option Nat) (cursorCol : Nat)
    (state : ReflowState) (line : List Row) : Fallible ReflowState := do
  let stop := state.start + line.length
  let cursorOffset := cursorAbsRow.bind fun cr =>
    if state.start ≤ cr ∧ cr < stop then some ((cr - state.start) * oldCols + cursorCol) else none
  let (rows, cursor) ← reflowLine line newCols cursorOffset
  .ok { start := stop
        result := state.result ++ rows
        newCursorRow := match cursor with
          | some row => some (state.result.length + row)
          | none => state.newCursorRow }

def reflowLines (rows : List Row) (oldCols newCols : Nat) (cursorAbsRow : Option Nat)
    (cursorCol : Nat) : Fallible (List Row × Option Nat) := do
  let state ← (logicalLines rows).foldlM (reflowStep oldCols newCols cursorAbsRow cursorCol) {}
  .ok (state.result, state.newCursorRow)

/-- The column change: reflow everything, then split it into scrollback and viewport. -/
def resizeCols (g : Grid) (newCols newRows : Nat) (cursor : Option (Nat × Nat)) :
    Fallible (Grid × Int) := do
  let sbLen := g.scrollback.length
  let abs := cursor.map fun (r, _) => sbLen + r
  let cursorCol := (cursor.map fun (_, c) => c).getD 0
  let (reflowed, newAbs) ← reflowLines (g.scrollback ++ g.lines) g.cols newCols abs cursorCol
  let sbCount := reflowed.length - min reflowed.length newRows
  let delta : Int := match newAbs with
    | some row => ((row - sbCount : Nat) : Int) - ((cursor.map fun (r, _) => r).getD 0 : Nat)
    | none => 0
  .ok ({ g with
      scrollback := trimFront g.scrollbackLimit (reflowed.take sbCount)
      lines := reflowed.drop sbCount
      cols := newCols }, delta)

/-- `new_rows > lines.len()`: pull rows back from the scrollback, then add blank rows. -/
def growRows (g : Grid) (newCols newRows : Nat) : Grid × Int :=
  let extra := newRows - g.lines.length
  let fromScrollback := min extra g.scrollback.length
  -- `pop_back` hands out the newest row first, and each popped row is pushed at the end.
  let popped := (g.scrollback.reverse.take fromScrollback).map fun row => row.resize newCols
  let newLines := popped ++ g.lines
  ({ g with
      scrollback := g.scrollback.take (g.scrollback.length - fromScrollback)
      lines := newLines ++ List.replicate (newRows - newLines.length) (Row.new newCols) },
    fromScrollback)

def looksEmpty (row : Row) : Bool :=
  row.cells.all fun cell => cell.c == ' ' && cell.attrs == {}

/-- `new_rows < lines.len()`: one row less per turn, a bottom row that looks empty if there is
one, else the top row, which goes to the scrollback. -/
def shrinkRows : Nat -> Grid -> Int -> Grid × Int
  | 0, g, delta => (g, delta)
  | excess + 1, g, delta =>
    match g.lines.getLast?, g.lines with
    | some last, first :: rest =>
      if looksEmpty last then
        shrinkRows excess { g with lines := g.lines.dropLast } delta
      else
        shrinkRows excess ({ g with lines := rest }.pushScrollback first) (delta - 1)
    | _, _ => shrinkRows excess g delta

def resizeRows (g : Grid) (newCols newRows : Nat) : Grid × Int :=
  if g.lines.length < newRows then g.growRows newCols newRows
  else shrinkRows (g.lines.length - newRows) g 0

def resizeWithCursor (g : Grid) (newCols newRows : Nat) (cursor : Option (Nat × Nat)) :
    Fallible (Grid × Int) :=
  if newCols = g.cols ∧ newRows = g.rows then .ok (g, 0)
  else do
    let (g, colDelta) ←
      if newCols ≠ g.cols then g.resizeCols newCols newRows cursor else .ok (g, 0)
    let (g, rowDelta) := g.resizeRows newCols newRows
    .ok ({ g with cols := newCols, rows := newRows }, colDelta + rowDelta)

def resize (g : Grid) (newCols newRows : Nat) : Fallible (Grid × Int) :=
  g.resizeWithCursor newCols newRows none

end Grid

end Emux
