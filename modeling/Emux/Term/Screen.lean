import Emux.Term.Reflow
import Emux.Term.Text

set_option autoImplicit false

/-!
# The screen

The active and the alternate grid, the cursor, the pen, margins, tab stops and modes, and the
methods that the performer calls. The clock readings of marks and notifications are left out.
-/

namespace Emux

open Checked

inductive ShellMarkKind where
  | promptStart
  | commandStart
  | outputStart
  | commandFinished (exitCode : Int)
  deriving DecidableEq, Repr

structure ShellMark where
  kind : ShellMarkKind
  row : Nat
  deriving DecidableEq, Repr

structure Notification where
  title : Bytes
  body : Bytes
  deriving DecidableEq, Repr

inductive DamageMode where
  | cell
  | row
  | screen
  | scroll
  deriving DecidableEq, Repr

structure DamageRegion where
  row : Nat
  colStart : Nat
  colEnd : Nat
  deriving DecidableEq, Repr

inductive EraseDisplay where
  | below
  | above
  | all
  | scrollback
  deriving DecidableEq, Repr

inductive EraseLine where
  | toRight
  | toLeft
  | all
  deriving DecidableEq, Repr

inductive ClearTabStop where
  | current
  | all
  deriving DecidableEq, Repr

def defaultTabInterval : Nat := 8

def isDefaultTabStop (col : Nat) : Bool := decide (col % defaultTabInterval = 0) && decide (0 < col)

def defaultPalette : List Rgb :=
  [(0, 0, 0), (205, 0, 0), (0, 205, 0), (205, 205, 0), (0, 0, 238), (205, 0, 205), (0, 205, 205),
    (229, 229, 229), (127, 127, 127), (255, 0, 0), (0, 255, 0), (255, 255, 0), (92, 92, 255),
    (255, 0, 255), (0, 255, 255), (255, 255, 255)] ++
  ((List.range 216).map fun i =>
    let level := fun n : Nat => if n = 0 then (0 : Byte) else (55 + 40 * n).toUInt8
    (level (i / 36), level (i / 6 % 6), level (i % 6))) ++
  (List.range 24).map fun i =>
    let v := (8 + 10 * i).toUInt8
    (v, v, v)

structure Screen where
  grid : Grid
  cursor : Cursor := {}
  savedCursor : Option SavedCursor := none
  modes : Modes := {}
  scrollTop : Nat := 0
  scrollBottom : Nat
  scrollLeft : Nat := 0
  scrollRight : Nat
  pen : CellAttrs := {}
  fg : Color := .default
  bg : Color := .default
  tabStops : List Bool
  title : Bytes := []
  charsetG0 : Charset := .ascii
  charsetG1 : Charset := .ascii
  activeCharset : Nat := 0
  pendingWrap : Bool := false
  lastChar : Option Char := none
  palette : List Rgb := defaultPalette
  sgrStack : List (CellAttrs × Color × Color) := []
  savedModes : Option Modes := none
  hyperlink : Option Bytes := none
  boldIsBright : Bool := false
  responseBuf : Bytes := []
  workingDirectory : Option Bytes := none
  viewportOffset : Nat := 0
  altGrid : Grid
  altCursor : Cursor := {}
  altSavedCursor : Option SavedCursor := none
  notifications : List Notification := []
  hasUnreadNotification : Bool := false
  shellMarks : List ShellMark := []
  clipboard : Option Bytes := none
  pendingPassthrough : List Bytes := []
  damageList : List DamageRegion := []
  damageMode : DamageMode := .cell

namespace Screen

def new (cols rows : Nat) : Screen :=
  { grid := Grid.new cols rows
    scrollBottom := rows
    scrollRight := cols
    tabStops := (List.range cols).map isDefaultTabStop
    altGrid := Grid.new cols rows }

def cols (s : Screen) : Nat := s.grid.cols

def rows (s : Screen) : Nat := s.grid.rows

def onGrid (s : Screen) (f : Grid -> Fallible Grid) : Fallible Screen := do
  let grid ← f s.grid
  .ok { s with grid }

/-! ## Damage -/

def recordDamage (s : Screen) (row colStart colEnd : Nat) : Screen :=
  if s.rows ≤ row then s
  else
    let region : DamageRegion := match s.damageMode with
      | .cell | .scroll => { row, colStart, colEnd := min colEnd s.cols }
      | .row => { row, colStart := 0, colEnd := s.cols }
      | .screen => { row := 0, colStart := 0, colEnd := s.cols }
    { s with damageList := s.damageList ++ [region] }

def fullRow (s : Screen) (row : Nat) : DamageRegion := { row, colStart := 0, colEnd := s.cols }

def recordScrollDamage (s : Screen) (top bottom : Nat) : Screen :=
  { s with damageList := s.damageList ++ (List.range' top (bottom - top)).map s.fullRow }

def recordFullDamage (s : Screen) : Screen :=
  { s with damageList := s.damageList ++ (List.range s.rows).map s.fullRow }

def regionLe (x y : DamageRegion) : Bool :=
  decide (x.row < y.row) || (x.row == y.row && decide (x.colStart ≤ y.colStart))

/-- The one pass over the sorted regions; `current` grows while the next region touches it. -/
def mergeFrom (current : DamageRegion) : List DamageRegion -> List DamageRegion
  | [] => [current]
  | r :: rest =>
    if r.row = current.row ∧ r.colStart ≤ current.colEnd then
      mergeFrom { current with colEnd := max current.colEnd r.colEnd } rest
    else current :: mergeFrom r rest

def mergeDamage (regions : List DamageRegion) : List DamageRegion :=
  match regions.mergeSort regionLe with
  | [] => []
  | first :: rest => mergeFrom first rest

def takeDamage (s : Screen) : List DamageRegion × Screen :=
  let damage :=
    if s.damageMode = .screen ∧ s.damageList ≠ [] then (List.range s.rows).map s.fullRow
    else if s.damageMode = .cell ∨ s.damageMode = .scroll then mergeDamage s.damageList
    else s.damageList
  (damage, { s with damageList := [] })

/-! ## Margins, charsets and colours -/

def hasLrMargins (s : Screen) : Bool :=
  s.modes.leftRightMargin && (s.scrollLeft != 0 || s.scrollRight != s.cols)

def effectiveRight (s : Screen) : Nat := if s.hasLrMargins then s.scrollRight else s.cols

def cursorInLrMargins (s : Screen) : Bool :=
  !s.hasLrMargins || (decide (s.scrollLeft ≤ s.cursor.col) && decide (s.cursor.col < s.scrollRight))

def currentCharset (s : Screen) : Charset := if s.activeCharset = 1 then s.charsetG1 else s.charsetG0

def mapChar (s : Screen) (c : Char) : Char :=
  if c.toNat ≤ 0x7E then s.currentCharset.map c.toNat else c

def effectiveFg (s : Screen) : Color :=
  match s.fg with
  | .indexed index => if s.boldIsBright && s.pen.bold && decide (index < 8) then .indexed (index + 8) else s.fg
  | _ => s.fg

/-! ## Line feed and carriage return -/

def carriageReturn (s : Screen) : Screen :=
  if s.hasLrMargins && decide (s.scrollLeft ≤ s.cursor.col) then
    { s with cursor := { s.cursor with col := s.scrollLeft }, pendingWrap := false }
  else { s with cursor := { s.cursor with col := 0 }, pendingWrap := false }

/-- Scroll the region of the margins, all columns of it unless `bounded`. -/
def scrollGridUp (s : Screen) (bounded : Bool) (count : Nat) : Fallible Screen :=
  s.onGrid fun g =>
    if bounded then g.scrollUpRegion s.scrollTop s.scrollBottom s.scrollLeft s.scrollRight count
    else g.scrollUp s.scrollTop s.scrollBottom count

def scrollGridDown (s : Screen) (bounded : Bool) (count : Nat) : Fallible Screen :=
  s.onGrid fun g =>
    if bounded then g.scrollDownRegion s.scrollTop s.scrollBottom s.scrollLeft s.scrollRight count
    else g.scrollDown s.scrollTop s.scrollBottom count

/-- The part of a line feed that moves the cursor or scrolls. -/
def advanceLine (s : Screen) : Fallible Screen :=
  if s.cursor.row + 1 = s.scrollBottom then
    (s.recordScrollDamage s.scrollTop s.scrollBottom).scrollGridUp
      (s.hasLrMargins && s.cursorInLrMargins) 1
  else if s.cursor.row + 1 < s.rows then
    .ok { s with cursor := { s.cursor with row := s.cursor.row + 1 } }
  else .ok s

def linefeed (s : Screen) : Fallible Screen := do
  let s ← ({ s with pendingWrap := false } : Screen).advanceLine
  .ok (if s.modes.newline then { s with cursor := { s.cursor with col := 0 } } else s)

def reverseIndex (s : Screen) : Fallible Screen := do
  let s ←
    (if s.cursor.row = s.scrollTop then s.scrollGridDown (s.hasLrMargins && s.cursorInLrMargins) 1
    else .ok { s with cursor := { s.cursor with row := s.cursor.row - 1 } })
  .ok { s with pendingWrap := false }

/-! ## Printing: the stages of `write_char` -/

def beginChar (s : Screen) (c : Char) : Screen := { s with viewportOffset := 0, lastChar := some c }

def setContinuation (s : Screen) (value : Bool) : Fallible Screen :=
  s.onGrid fun g => g.rowMut s.cursor.row fun row => { row with flags := { continuation := value } }

/-- Take the wrap that an earlier character deferred. -/
def wrapPending (s : Screen) : Fallible Screen :=
  if s.pendingWrap then
    if s.modes.autowrap then do
      let s ← s.setContinuation false
      let s ← s.carriageReturn.linefeed
      let s ← s.setContinuation true
      .ok { s with pendingWrap := false }
    else do
      let col ← sub s.effectiveRight 1
      .ok { s with cursor := { s.cursor with col }, pendingWrap := false }
  else .ok s

def padCell (cell : Cell) : Cell := { cell with c := ' ', width := 1 }

/-- A wide character at the last column goes to the next line, or back by a column. -/
def wrapWide (s : Screen) : Fallible Screen :=
  if s.modes.autowrap then do
    let s ← s.onGrid fun g => onlyIf (s.cursor.col < s.cols) g fun g =>
      g.cellMut s.cursor.row s.cursor.col padCell
    let s ← s.carriageReturn.linefeed
    s.setContinuation true
  else
    let col := s.effectiveRight - 2
    .ok { s with cursor := { s.cursor with col := if s.cols ≤ col then 0 else col } }

def fitWide (s : Screen) (width : Nat) : Fallible Screen :=
  if width = 2 then do
    let last ← sub s.effectiveRight 1
    onlyIf (last ≤ s.cursor.col) s wrapWide
  else .ok s

def shiftForInsert (s : Screen) (width : Nat) : Fallible Screen :=
  if s.modes.insert then
    s.onGrid fun g => g.insertCellsBounded s.cursor.row s.cursor.col width s.effectiveRight
  else .ok s

/-- Repair the wide characters that the new one overwrites in part. -/
def clearFragments (g : Grid) (row col width : Nat) : Fallible Grid := do
  let g ← onlyIf (col < g.cols) g fun g => do
    let existing ← g.cell row col
    let g ← onlyIf (existing.width = 2 ∧ col + 1 < g.cols) g fun g => g.cellMut row (col + 1) padCell
    onlyIf (existing.width = 0 ∧ 0 < col) g fun g =>
      g.cellMut row (col - 1) fun head => if head.width = 2 then padCell head else head
  onlyIf (width = 2 ∧ col + 1 < g.cols) g fun g => do
    let next ← g.cell row (col + 1)
    onlyIf (next.width = 2 ∧ col + 2 < g.cols) g fun g => g.cellMut row (col + 2) padCell

def penCell (s : Screen) (c : Char) (width : Nat) : Cell :=
  { c, width, fg := s.effectiveFg, bg := s.bg, attrs := s.pen, hyperlink := s.hyperlink }

/-- The cursor after a character: at the right margin the wrap is deferred. -/
def advanceTo (s : Screen) (newCol : Nat) : Fallible Screen :=
  if s.effectiveRight ≤ newCol then do
    let last ← sub s.effectiveRight 1
    .ok { s with
      cursor := { s.cursor with col := last }, pendingWrap := s.modes.autowrap || s.pendingWrap }
  else .ok { s with cursor := { s.cursor with col := newCol } }

def putChar (s : Screen) (c : Char) (width : Nat) : Fallible Screen := do
  let row := s.cursor.row
  let col := s.cursor.col
  let s ← s.onGrid fun g => do
    let g ← clearFragments g row col width
    let g ← onlyIf (col < g.cols) g fun g => g.cellMut row col fun _ => s.penCell c width
    onlyIf (width = 2 ∧ col + 1 < g.cols) g fun g => g.cellMut row (col + 1) fun _ => s.penCell ' ' 0
  (s.recordDamage row col (col + width)).advanceTo (col + width)

/-! ## Cursor movement and tab stops -/

def backspace (s : Screen) : Screen :=
  if 0 < s.cursor.col then
    { s with cursor := { s.cursor with col := s.cursor.col - 1 }, pendingWrap := false }
  else if s.modes.reverseWrap && s.modes.autowrap && decide (0 < s.cursor.row) then
    { s with cursor := { s.cursor with row := s.cursor.row - 1, col := s.cols - 1 }, pendingWrap := false }
  else s

def isTabStop (s : Screen) (col : Nat) : Bool := s.tabStops[col]?.getD false

/-- The first tab stop after the column, else the last column. -/
def tab (s : Screen) : Screen :=
  let start := s.cursor.col + 1
  let col := ((List.range' start (s.cols - start)).find? s.isTabStop).getD (s.cols - 1)
  { s with cursor := { s.cursor with col }, pendingWrap := false }

def tabForward (s : Screen) (count : Nat) : Screen := Nat.repeat tab count s

def tabBackwardFrom (s : Screen) : Nat -> Nat -> Nat
  | 0, col => col
  | count + 1, col =>
    if col = 0 then 0
    else s.tabBackwardFrom count (((List.range col).reverse.find? s.isTabStop).getD 0)

def tabBackward (s : Screen) (count : Nat) : Screen :=
  { s with cursor := { s.cursor with col := s.tabBackwardFrom count s.cursor.col }, pendingWrap := false }

def setTabStop (s : Screen) : Screen := { s with tabStops := s.tabStops.set s.cursor.col true }

def clearTabStop (s : Screen) : ClearTabStop -> Screen
  | .current => { s with tabStops := s.tabStops.set s.cursor.col false }
  | .all => { s with tabStops := s.tabStops.map fun _ => false }

def cursorInRegion (s : Screen) : Bool :=
  decide (s.scrollTop ≤ s.cursor.row) && decide (s.cursor.row < s.scrollBottom)

def cursorUp (s : Screen) (count : Nat) : Screen :=
  let top := if s.cursorInRegion then s.scrollTop else 0
  { s with cursor := { s.cursor with row := max (s.cursor.row - count) top }, pendingWrap := false }

def cursorDown (s : Screen) (count : Nat) : Screen :=
  let bottom := if s.cursorInRegion then s.scrollBottom - 1 else s.rows - 1
  { s with cursor := { s.cursor with row := min (s.cursor.row + count) bottom }, pendingWrap := false }

def cursorLeft (s : Screen) (count : Nat) : Screen :=
  { s with cursor := { s.cursor with col := s.cursor.col - count }, pendingWrap := false }

def cursorRight (s : Screen) (count : Nat) : Screen :=
  { s with cursor := { s.cursor with col := min (s.cursor.col + count) (s.cols - 1) }, pendingWrap := false }

def moveTo (s : Screen) (row col : Nat) : Screen :=
  { s with cursor := { s.cursor with row, col }, pendingWrap := false }

def cursorPosition (s : Screen) (row col : Nat) : Screen :=
  if s.modes.origin then
    s.moveTo (min (s.scrollTop + (row - 1)) (s.scrollBottom - 1))
      (min (s.scrollLeft + (col - 1)) (s.scrollRight - 1))
  else s.moveTo (min (row - 1) (s.rows - 1)) (min (col - 1) (s.cols - 1))

/-- Home within the origin mode, as both margin commands do it. -/
def moveHome (s : Screen) : Screen :=
  if s.modes.origin then s.moveTo s.scrollTop s.scrollLeft else s.moveTo 0 0

def setScrollRegion (s : Screen) (top bottom : Nat) : Screen :=
  let top := min ((if top = 0 then 1 else top) - 1) (s.rows - 1)
  let bottom := min (if bottom = 0 then s.rows else bottom) s.rows
  let s := if top + 1 < bottom then { s with scrollTop := top, scrollBottom := bottom } else s
  s.moveHome

def setLeftRightMargin (s : Screen) (left right : Nat) : Screen :=
  if s.modes.leftRightMargin then
    let left := min ((if left = 0 then 1 else left) - 1) (s.cols - 1)
    let right := min (if right = 0 then s.cols else right) s.cols
    let s := if left + 1 < right then { s with scrollLeft := left, scrollRight := right } else s
    s.moveHome
  else s

/-! ## Erasing -/

def resetUnprotected (cell : Cell) : Cell := if cell.attrs.isProtected then cell else .blank

def clearRegionImpl (g : Grid) (top left bottom right : Nat) (selective : Bool) : Fallible Grid :=
  if selective then
    let bottom := min bottom (g.rows - 1)
    let right := min right (g.cols - 1)
    forRange top (bottom + 1) g fun g r =>
      forRange left (right + 1) g fun g c => g.cellMut r c resetUnprotected
  else g.clearRegion top left bottom right

def clearRowImpl (g : Grid) (row : Nat) (selective : Bool) : Fallible Grid :=
  if selective then forRange 0 g.cols g fun g c => g.cellMut row c resetUnprotected
  else g.clearRow row

def eraseRow (selective : Bool) (s : Screen) (row : Nat) : Fallible Screen :=
  (s.recordDamage row 0 s.cols).onGrid fun g => clearRowImpl g row selective

def recordRow (s : Screen) (row : Nat) : Fallible Screen := .ok (s.recordDamage row 0 s.cols)

def clearRowsBelow (selective : Bool) (row rows : Nat) (g : Grid) : Fallible Grid :=
  forRange (row + 1) rows g fun g r => clearRowImpl g r selective

def eraseDisplay (s : Screen) (mode : EraseDisplay) (selective : Bool) : Fallible Screen :=
  let row := s.cursor.row
  let col := s.cursor.col
  match mode with
  | .below => do
    let s ← forRange (row + 1) s.rows (s.recordDamage row col s.cols) recordRow
    s.onGrid fun g => do
      let g ← clearRegionImpl g row col row (g.cols - 1) selective
      clearRowsBelow selective row g.rows g
  | .above => do
    let s ← forRange 0 row s (eraseRow selective)
    (s.recordDamage row 0 (col + 1)).onGrid fun g => clearRegionImpl g row 0 row col selective
  | .all => forRange 0 s.rows s (eraseRow selective)
  | .scrollback => s.onGrid fun g => .ok { g with scrollback := [] }

def eraseLine (s : Screen) (mode : EraseLine) (selective : Bool) : Fallible Screen :=
  let row := s.cursor.row
  let col := s.cursor.col
  match mode with
  | .toRight =>
    (s.recordDamage row col s.cols).onGrid fun g => clearRegionImpl g row col row (g.cols - 1) selective
  | .toLeft =>
    (s.recordDamage row 0 (col + 1)).onGrid fun g => clearRegionImpl g row 0 row col selective
  | .all => eraseRow selective s row

def eraseChars (s : Screen) (count : Nat) : Fallible Screen := do
  let row := s.cursor.row
  let col := s.cursor.col
  let s ← (s.recordDamage row col (min (col + count) s.cols)).onGrid fun g => g.eraseChars row col count
  .ok { s with pendingWrap := false }

/-! ## Scrolling, inserting and deleting -/

def scrollUp (s : Screen) (count : Nat) : Fallible Screen :=
  (s.recordScrollDamage s.scrollTop s.scrollBottom).scrollGridUp s.hasLrMargins count

def scrollDown (s : Screen) (count : Nat) : Fallible Screen :=
  (s.recordScrollDamage s.scrollTop s.scrollBottom).scrollGridDown s.hasLrMargins count

def insertLines (s : Screen) (count : Nat) : Fallible Screen := do
  let s ← s.onGrid fun g => onlyIf (s.cursorInRegion = true) g fun g =>
    g.insertLines s.cursor.row count s.scrollTop s.scrollBottom
  .ok { s with cursor := { s.cursor with col := 0 }, pendingWrap := false }

def deleteLines (s : Screen) (count : Nat) : Fallible Screen := do
  let s ← s.onGrid fun g => onlyIf (s.cursorInRegion = true) g fun g =>
    g.deleteLines s.cursor.row count s.scrollTop s.scrollBottom
  .ok { s with cursor := { s.cursor with col := 0 }, pendingWrap := false }

def insertChars (s : Screen) (count : Nat) : Fallible Screen := do
  let right := s.effectiveRight
  let s ← (s.recordDamage s.cursor.row s.cursor.col right).onGrid fun g =>
    g.insertCellsBounded s.cursor.row s.cursor.col count right
  .ok { s with pendingWrap := false }

def deleteChars (s : Screen) (count : Nat) : Fallible Screen := do
  let right := s.effectiveRight
  let s ← (s.recordDamage s.cursor.row s.cursor.col right).onGrid fun g =>
    g.deleteCellsBounded s.cursor.row s.cursor.col count right
  .ok { s with pendingWrap := false }

/-! ## Rectangles -/

/-- A 1-based first row or column as an index, and the rows or columns it may lie in. -/
def firstIndex (value bound : Nat) : Nat := min (value - 1) (bound - 1)

def eachCell (s : Screen) (top left bottom right : Nat) (f : Cell -> Cell) : Fallible Screen :=
  s.onGrid fun g => forRange top bottom g fun g r => forRange left right g fun g c => g.cellMut r c f

def fillRect (s : Screen) (ch : Char) (top left bottom right : Nat) : Fallible Screen :=
  s.eachCell (firstIndex top s.rows) (firstIndex left s.cols) (min bottom s.rows) (min right s.cols)
    fun cell => { cell with c := ch, width := 1, fg := s.fg, bg := s.bg, attrs := s.pen }

def selectiveEraseRect (s : Screen) (top left bottom right : Nat) : Fallible Screen :=
  s.eachCell (firstIndex top s.rows) (firstIndex left s.cols) (min bottom s.rows) (min right s.cols)
    resetUnprotected

/-- The buffer of `copy_rect`, row by row. -/
def readRect (g : Grid) (top left bottom right : Nat) : Fallible (List Cell) :=
  forRange top bottom [] fun buf r => forRange left right buf fun buf c =>
    if r < g.rows ∧ c < g.cols then do
      let cell ← g.cell r c
      .ok (buf ++ [cell])
    else .ok (buf ++ [.blank])

def pasteRect (g : Grid) (buf : List Cell) (top left height width : Nat) : Fallible Grid :=
  forRange 0 height g fun g dr => forRange 0 width g fun g dc =>
    onlyIf (top + dr < g.rows ∧ left + dc < g.cols) g fun g => do
      let cell ← get buf (dr * width + dc)
      g.cellMut (top + dr) (left + dc) fun _ => cell

def copyRect (s : Screen) (srcTop srcLeft srcBottom srcRight dstTop dstLeft : Nat) : Fallible Screen :=
  let st := firstIndex srcTop s.rows
  let sl := firstIndex srcLeft s.cols
  let sb := min srcBottom s.rows
  let sr := min srcRight s.cols
  let h := sb - st
  let w := sr - sl
  if h = 0 ∨ w = 0 then .ok s
  else s.onGrid fun g => do
    let buf ← readRect g st sl sb sr
    pasteRect g buf (firstIndex dstTop s.rows) (firstIndex dstLeft s.cols) h w

def decaln (s : Screen) : Fallible Screen := do
  let s ← s.eachCell 0 0 s.rows s.cols fun cell =>
    { cell with c := 'E', width := 1, fg := .default, bg := .default, attrs := {} }
  .ok (({ s with scrollTop := 0, scrollBottom := s.rows } : Screen).moveTo 0 0)

/-! ## Saved state, resets and modes -/

def saveCursor (s : Screen) : Screen :=
  { s with
    savedCursor := some
      { row := s.cursor.row
        col := s.cursor.col
        attrs := s.pen
        fg := s.fg
        bg := s.bg
        charsetG0 := s.charsetG0
        charsetG1 := s.charsetG1
        activeCharset := s.activeCharset
        originMode := s.modes.origin
        pendingWrap := s.pendingWrap } }

def restoreCursor (s : Screen) : Screen :=
  match s.savedCursor with
  | some saved =>
    { s with
      cursor := { s.cursor with row := min saved.row (s.rows - 1), col := min saved.col (s.cols - 1) }
      pen := saved.attrs
      fg := saved.fg
      bg := saved.bg
      charsetG0 := saved.charsetG0
      charsetG1 := saved.charsetG1
      activeCharset := saved.activeCharset
      modes := { s.modes with origin := saved.originMode }
      pendingWrap := saved.pendingWrap }
  | none =>
    { s with
      cursor := { s.cursor with row := 0, col := 0 }
      pen := {}
      fg := .default
      bg := .default
      pendingWrap := false }

def swapBuffers (s : Screen) : Screen :=
  { s with grid := s.altGrid, altGrid := s.grid, cursor := s.altCursor, altCursor := s.cursor }

def enterAltScreen (s : Screen) (saveCursorDecsc : Bool) : Fallible Screen :=
  if s.modes.altScreen then .ok s
  else do
    let s : Screen := { s with modes := { s.modes with altScreen := true } }
    let s := if saveCursorDecsc then s.saveCursor else s
    let s ← s.swapBuffers.onGrid fun g => forRange 0 g.rows g Grid.clearRow
    .ok ({ s with cursor := {}, pendingWrap := false } : Screen).recordFullDamage

def leaveAltScreen (s : Screen) (restoreCursorDecrc : Bool) : Screen :=
  if s.modes.altScreen then
    let s : Screen := { s with modes := { s.modes with altScreen := false } }
    let s : Screen := { s.swapBuffers with pendingWrap := false }
    (if restoreCursorDecrc then s.restoreCursor else s).recordFullDamage
  else s

def reset (s : Screen) : Screen := new s.cols s.rows

def softReset (s : Screen) : Screen :=
  { s with
    modes := {}
    pen := {}
    fg := .default
    bg := .default
    charsetG0 := .ascii
    charsetG1 := .ascii
    activeCharset := 0
    savedCursor := none
    pendingWrap := false
    cursor := { s.cursor with visible := true, shape := .block }
    scrollTop := 0
    scrollBottom := s.rows
    scrollLeft := 0
    scrollRight := s.cols }

def setCursorStyle (s : Screen) (style : Nat) : Screen :=
  { s with
    cursor := { s.cursor with
      shape := match style with
        | 3 | 4 => .underline
        | 5 | 6 => .bar
        | _ => .block } }

def pushSgr (s : Screen) : Screen := { s with sgrStack := s.sgrStack ++ [(s.pen, s.fg, s.bg)] }

def popSgr (s : Screen) : Screen :=
  match s.sgrStack.getLast? with
  | some (attrs, fg, bg) =>
    { s with
      sgrStack := s.sgrStack.dropLast
      pen := { attrs with isProtected := s.pen.isProtected }
      fg
      bg }
  | none => s

def saveDecModes (s : Screen) : Screen := { s with savedModes := some s.modes }

def restoreDecModes (s : Screen) : Screen :=
  match s.savedModes with
  | some modes => { s with modes, savedModes := none }
  | none => s

/-! ## Resizing -/

def adjustMargins (first last old new : Nat) : Nat × Nat :=
  if first = 0 ∧ last = old then (0, new)
  else
    let last := min last new
    let first := min first (last - 1)
    (first, if last = 0 then new else last)

def resizeTabStops (stops : List Bool) (newCols : Nat) : List Bool :=
  stops.take newCols ++ (List.range' stops.length (newCols - stops.length)).map isDefaultTabStop

def clampSaved (newCols newRows : Nat) (saved : SavedCursor) : SavedCursor :=
  { saved with row := min saved.row (newRows - 1), col := min saved.col (newCols - 1) }

def resize (s : Screen) (newCols newRows : Nat) : Fallible Screen := do
  let (grid, cursorDelta) ← s.grid.resizeWithCursor newCols newRows (some (s.cursor.row, s.cursor.col))
  let newCursorRow := (s.cursor.row + cursorDelta).toNat
  let (altGrid, _) ← s.altGrid.resize newCols newRows
  .ok { s with
    grid
    altGrid
    scrollTop := (adjustMargins s.scrollTop s.scrollBottom s.rows newRows).1
    scrollBottom := (adjustMargins s.scrollTop s.scrollBottom s.rows newRows).2
    scrollLeft := (adjustMargins s.scrollLeft s.scrollRight s.cols newCols).1
    scrollRight := (adjustMargins s.scrollLeft s.scrollRight s.cols newCols).2
    cursor := { s.cursor with row := min newCursorRow (newRows - 1), col := min s.cursor.col (newCols - 1) }
    savedCursor := s.savedCursor.map (clampSaved newCols newRows)
    tabStops := resizeTabStops s.tabStops newCols
    pendingWrap := false }

end Screen

end Emux
