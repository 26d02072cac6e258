import Emux.Vt.Text

set_option autoImplicit false

/-!
# Cells, rows, cursors and modes
-/

namespace Emux

inductive Color where
  | default
  | indexed (index : UInt8)
  | rgb (r g b : UInt8)
  deriving DecidableEq, Repr

inductive UnderlineStyle where
  | none
  | single
  | double
  | curly
  deriving DecidableEq, Repr

structure CellAttrs where
  bold : Bool := false
  italic : Bool := false
  underline : UnderlineStyle := .none
  blink : Bool := false
  reverse : Bool := false
  invisible : Bool := false
  strikethrough : Bool := false
  isProtected : Bool := false
  deriving DecidableEq, Repr

def CellAttrs.isDefault (attrs : CellAttrs) : Bool := decide (attrs = {})

/-- Width 1 is a normal character, 2 a wide one, 0 the second column of a wide one. -/
structure Cell where
  c : Char := ' '
  width : Nat := 1
  fg : Color := .default
  bg : Color := .default
  attrs : CellAttrs := {}
  hyperlink : Option Bytes := none
  deriving DecidableEq, Repr

/-- `Cell::default`, `Cell::blank` and what `Cell::reset` assigns. -/
def Cell.blank : Cell := {}

structure LineFlags where
  continuation : Bool := false
  deriving DecidableEq, Repr

structure Row where
  cells : List Cell
  flags : LineFlags := {}
  deriving DecidableEq, Repr

def Row.new (cols : Nat) : Row := { cells := List.replicate cols .blank }

def Row.reset (row : Row) : Row := { cells := row.cells.map fun _ => .blank }

def Row.resize (row : Row) (cols : Nat) : Row :=
  { row with cells := row.cells.take cols ++ List.replicate (cols - row.cells.length) .blank }

@[simp] theorem Row.length_new (cols : Nat) : (Row.new cols).cells.length = cols := by
  simp [Row.new]

@[simp] theorem Row.length_resize (row : Row) (cols : Nat) :
    (row.resize cols).cells.length = cols := by
  simp only [Row.resize, List.length_append, List.length_take, List.length_replicate]
  omega

theorem Row.resize_same (row : Row) : row.resize row.cells.length = row := by
  simp [Row.resize]

def inRange (low high cp : Nat) : Bool := decide (low ≤ cp) && decide (cp ≤ high)

def isZeroWidth (cp : Nat) : Bool :=
  cp == 0x200B || cp == 0x200C || cp == 0x200D || cp == 0xFEFF || cp == 0x2060 ||
    cp == 0x2061 || cp == 0x2062 || cp == 0x2063 || cp == 0x2064 || cp == 0x180E

def isCombining (cp : Nat) : Bool :=
  inRange 0x0300 0x036F cp || inRange 0x1AB0 0x1AFF cp || inRange 0x1DC0 0x1DFF cp ||
    inRange 0x20D0 0x20FF cp || inRange 0xFE20 0xFE2F cp

def isWide (cp : Nat) : Bool :=
  inRange 0x1100 0x115F cp || inRange 0x2329 0x232A cp || inRange 0x2E80 0x303E cp ||
    inRange 0x3040 0x33BF cp || inRange 0x3400 0x4DBF cp || inRange 0x4E00 0x9FFF cp ||
    inRange 0xA000 0xA4CF cp || inRange 0xAC00 0xD7A3 cp || inRange 0xF900 0xFAFF cp ||
    inRange 0xFE10 0xFE19 cp || inRange 0xFE30 0xFE6F cp || inRange 0xFF01 0xFF60 cp ||
    inRange 0xFFE0 0xFFE6 cp || inRange 0x1F000 0x1F9FF cp || inRange 0x20000 0x2FA1F cp ||
    inRange 0x30000 0x3134F cp

def charWidth (c : Char) : Nat :=
  let cp := c.toNat
  if cp < 0x7F then
    if 0x20 ≤ cp then 1 else 0
  else if isZeroWidth cp then 0
  else if isCombining cp then 0
  else if isWide cp then 2
  else if cp < 0x20 || inRange 0x7F 0x9F cp then 0
  else 1

theorem charWidth_cases (c : Char) : charWidth c = 0 ∨ charWidth c = 1 ∨ charWidth c = 2 := by
  simp only [charWidth]
  split_ifs <;> simp

inductive CursorShape where
  | block
  | underline
  | bar
  deriving DecidableEq, Repr

structure Cursor where
  row : Nat := 0
  col : Nat := 0
  visible : Bool := true
  shape : CursorShape := .block
  deriving DecidableEq, Repr

structure SavedCursor where
  row : Nat
  col : Nat
  attrs : CellAttrs
  fg : Color
  bg : Color
  charsetG0 : Charset
  charsetG1 : Charset
  activeCharset : Nat
  originMode : Bool
  pendingWrap : Bool
  deriving DecidableEq, Repr

inductive MouseMode where
  | none
  | x10
  | normal
  | buttonEvent
  | anyEvent
  deriving DecidableEq, Repr

structure KittyKeyboardFlags where
  bits : UInt8 := 0
  deriving DecidableEq, Repr

structure Modes where
  applicationCursorKeys : Bool := false
  applicationKeypad : Bool := false
  autowrap : Bool := true
  origin : Bool := false
  insert : Bool := false
  newline : Bool := false
  altScreen : Bool := false
  bracketedPaste : Bool := false
  focusTracking : Bool := false
  mouseTracking : MouseMode := .none
  mouseSgr : Bool := false
  keyboardMode : KittyKeyboardFlags := {}
  allowDeccolm : Bool := false
  leftRightMargin : Bool := false
  reverseWrap : Bool := false
  deriving DecidableEq, Repr

end Emux
