import Emux.Library.Ranges
import Emux.Library.Removal
import Emux.Term.Cell

set_option autoImplicit false

/-!
# The grid and its operations

Every index the source writes as `lines[row]` or `cells[col]` is a checked access here, so
a result `.error .index` is a panic of the program.
-/

namespace Emux

open Checked

def defaultScrollbackLimit : Nat := 10000

structure Grid where
  cols : Nat
  rows : Nat
  lines : List Row
  scrollback : List Row := []
  scrollbackLimit : Nat := defaultScrollbackLimit
  deriving DecidableEq, Repr

namespace Grid

def new (cols rows : Nat) : Grid :=
  { cols, rows, lines := List.replicate rows (Row.new cols) }

def scrollbackLen (g : Grid) : Nat := g.scrollback.length

def setScrollbackLimit (g : Grid) (limit : Nat) : Grid :=
  { g with scrollbackLimit := limit, scrollback := trimFront limit g.scrollback }

def modifyRow (g : Grid) (r : Nat) (f : Row -> Row) : Fallible Grid := do
  let lines ← modify g.lines r f
  .ok { g with lines }

def cellAt (g : Grid) (r c : Nat) : Fallible Cell := do
  let row ← get g.lines r
  get row.cells c

def editCell (g : Grid) (r c : Nat) (f : Cell -> Cell) : Fallible Grid := do
  let row ← get g.lines r
  let cells ← modify row.cells c f
  .ok { g with lines := g.lines.set r { row with cells } }

/-- A whole-row edit through `&mut self.lines[r].cells`. -/
def editCells (g : Grid) (r : Nat) (f : List Cell -> Fallible (List Cell)) : Fallible Grid := do
  let row ← get g.lines r
  let cells ← f row.cells
  .ok { g with lines := g.lines.set r { row with cells } }

def cell (g : Grid) (row col : Nat) : Fallible Cell :=
  g.cellAt (min row (g.rows - 1)) (min col (g.cols - 1))

def cellMut (g : Grid) (row col : Nat) (f : Cell -> Cell) : Fallible Grid :=
  g.editCell (min row (g.rows - 1)) (min col (g.cols - 1)) f

def row (g : Grid) (row : Nat) : Fallible Row := get g.lines (min row (g.rows - 1))

def rowMut (g : Grid) (row : Nat) (f : Row -> Row) : Fallible Grid :=
  g.modifyRow (min row (g.rows - 1)) f

def pushScrollback (g : Grid) (row : Row) : Grid :=
  { g with scrollback := trimFront g.scrollbackLimit (g.scrollback ++ [row]) }

/-- `lines[top..bottom].rotate_left(count)`. -/
def rotateLeft (g : Grid) (top bottom count : Nat) : Fallible Grid :=
  if top ≤ bottom ∧ bottom ≤ g.lines.length ∧ count ≤ bottom - top then
    .ok { g with lines := rotateRange g.lines top bottom count }
  else .error .index

/-- `lines[top..bottom].rotate_right(count)`. -/
def rotateRight (g : Grid) (top bottom count : Nat) : Fallible Grid :=
  if top ≤ bottom ∧ bottom ≤ g.lines.length ∧ count ≤ bottom - top then
    .ok { g with lines := rotateRange g.lines top bottom (bottom - top - count) }
  else .error .index

def blankRows (g : Grid) (start stop : Nat) : Fallible Grid :=
  forRange start stop g fun g i => g.modifyRow i fun _ => Row.new g.cols

def scrollUp (g : Grid) (top bottom count : Nat) : Fallible Grid :=
  if bottom ≤ top then .ok g
  else
    let count := min count (bottom - top)
    if count = 0 then .ok g
    else do
      -- Only a region that starts at the top of the screen feeds the scrollback.
      let g ← onlyIf (top = 0) g fun g =>
        forRange 0 count g fun g i => do
          let old ← get g.lines i
          let g ← g.modifyRow i fun _ => Row.new g.cols
          .ok (g.pushScrollback old)
      let g ← g.rotateLeft top bottom count
      g.blankRows (bottom - count) bottom

def scrollDown (g : Grid) (top bottom count : Nat) : Fallible Grid :=
  if bottom ≤ top then .ok g
  else
    let count := min count (bottom - top)
    if count = 0 then .ok g
    else do
      let g ← g.rotateRight top bottom count
      g.blankRows top (top + count)

def clearRow (g : Grid) (row : Nat) : Fallible Grid := g.modifyRow row Row.reset

def insertLines (g : Grid) (row count top bottom : Nat) : Fallible Grid :=
  if row < top ∨ bottom ≤ row then .ok g
  else do
    let count := min count (bottom - row)
    let g ← forRangeRev row (bottom - count) g fun g i => do
      let line ← get g.lines i
      g.modifyRow (i + count) fun _ => line
    g.blankRows row (row + count)

def deleteLines (g : Grid) (row count top bottom : Nat) : Fallible Grid :=
  if row < top ∨ bottom ≤ row then .ok g
  else do
    let count := min count (bottom - row)
    let g ← forRange row (bottom - count) g fun g i => do
      let line ← get g.lines (i + count)
      g.modifyRow i fun _ => line
    g.blankRows (bottom - count) bottom

/-- Clear the first column of a wide character whose second column is at `left`. -/
def repairLeft (g : Grid) (r left : Nat) : Fallible Grid := do
  let edge ← g.cellAt r left
  if edge.width = 0 then g.editCell r (left - 1) fun _ => .blank else .ok g

/-- Clear the second column of a wide character whose first column is at `stop - 1`. -/
def repairRight (g : Grid) (r stop : Nat) : Fallible Grid := do
  let edge ← g.cellAt r (stop - 1)
  if edge.width = 2 then g.editCell r stop fun _ => .blank else .ok g

def clearRegion (g : Grid) (top left bottom right : Nat) : Fallible Grid :=
  let bottom := min bottom (g.rows - 1)
  let right := min right (g.cols - 1)
  forRange top (bottom + 1) g fun g r => do
    let g ← onlyIf (0 < left ∧ left ≤ right) g fun g => g.repairLeft r left
    let g ← onlyIf (right + 1 < g.cols) g fun g => g.repairRight r (right + 1)
    forRange left (right + 1) g fun g c => g.editCell r c fun _ => .blank

def eraseChars (g : Grid) (row col count : Nat) : Fallible Grid :=
  if g.rows ≤ row ∨ g.cols ≤ col then .ok g
  else do
    let stop := min (col + count) g.cols
    let g ← onlyIf (0 < col) g fun g => g.repairLeft row col
    let g ← onlyIf (stop < g.cols ∧ col < stop) g fun g => g.repairRight row stop
    forRange col stop g fun g c => g.editCell row c fun _ => .blank

def insertCellsBounded (g : Grid) (row col count rightBound : Nat) : Fallible Grid :=
  let rightBound := min rightBound g.cols
  if rightBound ≤ col then .ok g
  else
    let count := min count (rightBound - col)
    g.editCells row fun cells => do
      let cells ← forRangeRev (col + count) rightBound cells fun cells i =>
        get cells (i - count) >>= set cells i
      -- `iter_mut().take(..).skip(..)` stops at the end of the row.
      .ok (mapRange cells col (min (col + count) rightBound) fun _ _ => .blank)

def deleteCellsBounded (g : Grid) (row col count rightBound : Nat) : Fallible Grid :=
  let rightBound := min rightBound g.cols
  if rightBound ≤ col then .ok g
  else
    let count := min count (rightBound - col)
    g.editCells row fun cells => do
      let cells ← forRange col (rightBound - count) cells fun cells i =>
        get cells (i + count) >>= set cells i
      .ok (mapRange cells (rightBound - count) rightBound fun _ _ => .blank)

def blankCells (g : Grid) (top bottom left right : Nat) : Fallible Grid :=
  forRange top bottom g fun g r =>
    forRange left (min right g.cols) g fun g c => g.editCell r c fun _ => .blank

def scrollUpRegion (g : Grid) (top bottom left right count : Nat) : Fallible Grid :=
  if bottom ≤ top ∨ right ≤ left then .ok g
  else
    let count := min count (bottom - top)
    if count = 0 then .ok g
    else do
      let g ← forRange top (bottom - count) g fun g r =>
        forRange left (min right g.cols) g fun g c => do
          let moved ← g.cellAt (r + count) c
          g.editCell r c fun _ => moved
      g.blankCells (bottom - count) bottom left right

def scrollDownRegion (g : Grid) (top bottom left right count : Nat) : Fallible Grid :=
  if bottom ≤ top ∨ right ≤ left then .ok g
  else
    let count := min count (bottom - top)
    if count = 0 then .ok g
    else do
      let g ← forRangeRev top (bottom - count) g fun g r =>
        forRange left (min right g.cols) g fun g c => do
          let moved ← g.cellAt r c
          g.editCell (r + count) c fun _ => moved
      g.blankCells top (top + count) left right

end Grid

end Emux
