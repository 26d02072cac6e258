import Emux.Library.Run
import Emux.Term.Screen
import Emux.Vt.Parser

set_option autoImplicit false

/-!
# From parsed actions to method calls

Each handler of the source becomes the list of the method calls it makes, so that a run of the
terminal is a run of such calls. A method that touches no grid and records no damage is an
`Update`, every other method an `Op`. Printing is the one call of several operations, since
which of them run depends on the screen.
-/

namespace Emux

open Checked

namespace Screen

def resetPen (s : Screen) : Screen :=
  { s with pen := { isProtected := s.pen.isProtected }, fg := .default, bg := .default }

def setUnderline (s : Screen) (underline : UnderlineStyle) : Screen :=
  { s with pen := { s.pen with underline } }

def underlineOf (style : Nat) : UnderlineStyle :=
  match style with
  | 0 => .none
  | 2 => .double
  | 3 => .curly
  | _ => .single

def sgrCode (s : Screen) (code : Nat) : Screen :=
  match code with
  | 0 => s.resetPen
  | 1 => { s with pen := { s.pen with bold := true } }
  | 3 => { s with pen := { s.pen with italic := true } }
  | 5 => { s with pen := { s.pen with blink := true } }
  | 7 => { s with pen := { s.pen with reverse := true } }
  | 8 => { s with pen := { s.pen with invisible := true } }
  | 9 => { s with pen := { s.pen with strikethrough := true } }
  | 21 => s.setUnderline .double
  | 22 => { s with pen := { s.pen with bold := false } }
  | 23 => { s with pen := { s.pen with italic := false } }
  | 24 => s.setUnderline .none
  | 25 => { s with pen := { s.pen with blink := false } }
  | 27 => { s with pen := { s.pen with reverse := false } }
  | 28 => { s with pen := { s.pen with invisible := false } }
  | 29 => { s with pen := { s.pen with strikethrough := false } }
  | 39 => { s with fg := .default }
  | 49 => { s with bg := .default }
  | _ =>
    if 30 ≤ code ∧ code ≤ 37 then { s with fg := .indexed (code - 30).toUInt8 }
    else if 40 ≤ code ∧ code ≤ 47 then { s with bg := .indexed (code - 40).toUInt8 }
    else if 90 ≤ code ∧ code ≤ 97 then { s with fg := .indexed (code - 90 + 8).toUInt8 }
    else if 100 ≤ code ∧ code ≤ 107 then { s with bg := .indexed (code - 100 + 8).toUInt8 }
    else s

def setColor (s : Screen) (isFg : Bool) (color : Color) : Screen :=
  if isFg then { s with fg := color } else { s with bg := color }

/-- One turn of the loop: the new screen and how many of the fields after `code` are used up. -/
def sgrStep (s : Screen) (code : Nat) (rest : List (Nat × Bool)) : Screen × Nat :=
  if code = 4 then
    match rest with
    | (style, true) :: _ => (s.setUnderline (underlineOf style), 1)
    | _ => (s.setUnderline .single, 0)
  else if code = 38 ∨ code = 48 then
    match rest with
    | (5, _) :: (index, _) :: _ => (s.setColor (code == 38) (.indexed index.toUInt8), 2)
    | (2, _) :: (r, _) :: (g, _) :: (b, _) :: _ =>
      (s.setColor (code == 38) (.rgb r.toUInt8 g.toUInt8 b.toUInt8), 4)
    -- An unfinished colour is skipped up to its kind only.
    | _ :: _ => (s, 1)
    | [] => (s, 0)
  else (s.sgrCode code, 0)

/-- The loop over the fields, each with its colon flag; `skip` of them are used up already. -/
def sgrFrom (s : Screen) (skip : Nat) : List (Nat × Bool) -> Screen
  | [] => s
  | (code, _) :: rest =>
    match skip with
    | skip + 1 => s.sgrFrom skip rest
    | 0 => (s.sgrStep code rest).1.sgrFrom (s.sgrStep code rest).2 rest

def handleSgr (s : Screen) (params : List Nat) (subflags : List Bool) : Screen :=
  if params = [] then s.resetPen
  else s.sgrFrom 0 (params.mapIdx fun i value => (value, subflags[i]?.getD false))

def setAnsiMode (s : Screen) (mode : Nat) (enable : Bool) : Screen :=
  match mode with
  | 4 => { s with modes := { s.modes with insert := enable } }
  | 20 => { s with modes := { s.modes with newline := enable } }
  | _ => s

def setMouse (s : Screen) (mode : MouseMode) (enable : Bool) : Screen :=
  { s with modes := { s.modes with mouseTracking := if enable then mode else .none } }

def setFlagMode (s : Screen) (mode : Nat) (enable : Bool) : Screen :=
  match mode with
  | 1 => { s with modes := { s.modes with applicationCursorKeys := enable } }
  | 6 => ({ s with modes := { s.modes with origin := enable } } : Screen).cursorPosition 1 1
  | 7 => { s with modes := { s.modes with autowrap := enable } }
  | 9 => s.setMouse .x10 enable
  | 45 => { s with modes := { s.modes with reverseWrap := enable } }
  | 40 => { s with modes := { s.modes with allowDeccolm := enable } }
  | 69 =>
    let s : Screen := { s with modes := { s.modes with leftRightMargin := enable } }
    if enable then s else { s with scrollLeft := 0, scrollRight := s.cols }
  | 25 => { s with cursor := { s.cursor with visible := enable } }
  | 1000 => s.setMouse .normal enable
  | 1002 => s.setMouse .buttonEvent enable
  | 1003 => s.setMouse .anyEvent enable
  | 1004 => { s with modes := { s.modes with focusTracking := enable } }
  | 1006 => { s with modes := { s.modes with mouseSgr := enable } }
  | 1048 => if enable then s.saveCursor else s.restoreCursor
  | 2004 => { s with modes := { s.modes with bracketedPaste := enable } }
  | _ => s

def deccolmCols (enable : Bool) : Nat := if enable then 132 else 80

def deccolm (s : Screen) (enable : Bool) : Fallible Screen :=
  onlyIf (s.modes.allowDeccolm = true) s fun s => do
    let rows := s.rows
    let s ← s.resize (deccolmCols enable) rows
    let s ← s.eraseDisplay .all false
    .ok { s.moveTo 0 0 with scrollTop := 0, scrollBottom := rows }

def paletteColor (s : Screen) (idx : Nat) : Rgb := s.palette[idx]?.getD (0, 0, 0)

def setPaletteColor (s : Screen) (idx : Nat) (color : Rgb) : Screen :=
  { s with palette := s.palette.set idx color }

def paletteResponse (idx : Nat) (color : Rgb) : Bytes :=
  let (r, g, b) := color
  [0x1B] ++ ascii [']', '4', ';'] ++ decimal idx ++ ascii [';', 'r', 'g', 'b', ':'] ++
    hexByte r ++ hexByte r ++ ascii ['/'] ++ hexByte g ++ hexByte g ++ ascii ['/'] ++
    hexByte b ++ hexByte b ++ stringTerminator

def pushNotification (s : Screen) (title body : Bytes) : Screen :=
  { s with notifications := s.notifications ++ [{ title, body }], hasUnreadNotification := true }

def addShellMark (s : Screen) (kind : ShellMarkKind) : Screen :=
  { s with shellMarks := s.shellMarks ++ [{ kind, row := s.cursor.row }] }

def setClipboard (s : Screen) (content : Bytes) : Screen :=
  { s with
    clipboard := some content
    pendingPassthrough := s.pendingPassthrough ++ [osc52Clipboard content] }

def queryClipboard (s : Screen) : Screen :=
  { s with pendingPassthrough := s.pendingPassthrough ++ [osc52Query] }

def lossyPart (parts : List Bytes) (i : Nat) : Bytes := (parts[i]?.map lossyUtf8).getD []

def textPart (parts : List Bytes) (i : Nat) : Bytes := (parts[i]?.map utf8OrEmpty).getD []

def oscPalette (s : Screen) (parts : List Bytes) : Fallible Screen :=
  if parts.length < 3 then .ok s
  else
    match (parseUnsigned 10 65535 (textPart parts 1)).filter fun idx => idx < 256 with
    | none => .ok s
    | some idx =>
      let spec := textPart parts 2
      if spec = ascii ['?'] then
        .ok { s with responseBuf := s.responseBuf ++ paletteResponse idx (s.paletteColor idx) }
      else do
        let color ← parseColorSpec spec
        .ok (match color with
          | some rgb => s.setPaletteColor idx rgb
          | none => s)

def oscHyperlink (s : Screen) (parts : List Bytes) : Screen :=
  if 3 ≤ parts.length then
    { s with hyperlink := if textPart parts 2 = [] then none else some (textPart parts 2) }
  else if parts.length = 2 then { s with hyperlink := none }
  else s

def oscClipboard (s : Screen) (parts : List Bytes) : Screen :=
  if 3 ≤ parts.length then
    if textPart parts 2 = ascii ['?'] then s.queryClipboard
    else match (base64Decode (textPart parts 2)).filter fun decoded => validUtf8 decoded with
      | some text => s.setClipboard text
      | none => s
  else if parts.length = 2 then s.queryClipboard
  else s

def exitCode (parts : List Bytes) : Int :=
  match parts[2]? with
  | some text => (parseI32 (if validUtf8 text then text else ascii ['0'])).getD 0
  | none => 0

def oscShellMark (s : Screen) (parts : List Bytes) : Screen :=
  if 2 ≤ parts.length then
    let marker := textPart parts 1
    if marker = ascii ['A'] then s.addShellMark .promptStart
    else if marker = ascii ['B'] then s.addShellMark .commandStart
    else if marker = ascii ['C'] then s.addShellMark .outputStart
    else if marker = ascii ['D'] then s.addShellMark (.commandFinished (exitCode parts))
    else s
  else s

def handleOsc (s : Screen) (parts : List Bytes) : Fallible Screen :=
  if parts = [] then .ok s
  else
    let cmd := textPart parts 0
    if cmd = ascii ['0'] ∨ cmd = ascii ['2'] then
      .ok (if 1 < parts.length then { s with title := lossyPart parts 1 } else s)
    else if cmd = ascii ['7'] then
      .ok (if 1 < parts.length then { s with workingDirectory := some (lossyPart parts 1) } else s)
    else if cmd = ascii ['4'] then s.oscPalette parts
    else if cmd = ascii ['8'] then .ok (s.oscHyperlink parts)
    else if cmd = ascii ['9'] then .ok (s.pushNotification [] (lossyPart parts 1))
    else if cmd = ascii ['9', '9'] then
      .ok (s.pushNotification [] (lossyPart parts (if 2 < parts.length then 2 else 1)))
    else if cmd = ascii ['7', '7', '7'] then
      .ok (if 2 ≤ parts.length ∧ textPart parts 1 = ascii ['n', 'o', 't', 'i', 'f', 'y'] then
        s.pushNotification (lossyPart parts 2) (lossyPart parts 3) else s)
    else if cmd = ascii ['5', '2'] then .ok (s.oscClipboard parts)
    else if cmd = ascii ['1', '3', '3'] then .ok (s.oscShellMark parts)
    else .ok s

end Screen

inductive Update where
  | beginChar (c : Char)
  | backspace
  | tab
  | carriageReturn
  | activateCharset (index : Nat)
  | cursorUp (count : Nat)
  | cursorDown (count : Nat)
  | cursorLeft (count : Nat)
  | cursorRight (count : Nat)
  | cursorPosition (row col : Nat)
  | tabForward (count : Nat)
  | tabBackward (count : Nat)
  | setTabStop
  | clearTabStop (mode : ClearTabStop)
  | sgr (params : List Nat) (subflags : List Bool)
  | saveCursor
  | restoreCursor
  | setAnsiMode (mode : Nat) (enable : Bool)
  | setFlagMode (mode : Nat) (enable : Bool)
  | softReset
  | setCursorStyle (style : Nat)
  | setProtected (value : Bool)
  | saveDecModes
  | restoreDecModes
  | setScrollRegion (top bottom : Nat)
  | setLeftRightMargin (left right : Nat)
  | pushSgr
  | popSgr
  | setApplicationKeypad (value : Bool)
  | designateG0 (charset : Charset)
  | designateG1 (charset : Charset)
  deriving DecidableEq, Repr

def Update.apply (s : Screen) : Update -> Screen
  | .beginChar c => s.beginChar c
  | .backspace => s.backspace
  | .tab => s.tab
  | .carriageReturn => s.carriageReturn
  | .activateCharset index => { s with activeCharset := index }
  | .cursorUp count => s.cursorUp count
  | .cursorDown count => s.cursorDown count
  | .cursorLeft count => s.cursorLeft count
  | .cursorRight count => s.cursorRight count
  | .cursorPosition row col => s.cursorPosition row col
  | .tabForward count => s.tabForward count
  | .tabBackward count => s.tabBackward count
  | .setTabStop => s.setTabStop
  | .clearTabStop mode => s.clearTabStop mode
  | .sgr params subflags => s.handleSgr params subflags
  | .saveCursor => s.saveCursor
  | .restoreCursor => s.restoreCursor
  | .setAnsiMode mode enable => s.setAnsiMode mode enable
  | .setFlagMode mode enable => s.setFlagMode mode enable
  | .softReset => s.softReset
  | .setCursorStyle style => s.setCursorStyle style
  | .setProtected value => { s with pen := { s.pen with isProtected := value } }
  | .saveDecModes => s.saveDecModes
  | .restoreDecModes => s.restoreDecModes
  | .setScrollRegion top bottom => s.setScrollRegion top bottom
  | .setLeftRightMargin left right => s.setLeftRightMargin left right
  | .pushSgr => s.pushSgr
  | .popSgr => s.popSgr
  | .setApplicationKeypad value => { s with modes := { s.modes with applicationKeypad := value } }
  | .designateG0 charset => { s with charsetG0 := charset }
  | .designateG1 charset => { s with charsetG1 := charset }

inductive Op where
  | update (u : Update)
  | osc (parts : List Bytes)
  | wrapPending
  | fitWide (width : Nat)
  | shiftForInsert (width : Nat)
  | putChar (c : Char) (width : Nat)
  | linefeed
  | reverseIndex
  | eraseDisplay (mode : EraseDisplay) (selective : Bool)
  | eraseLine (mode : EraseLine) (selective : Bool)
  | eraseChars (count : Nat)
  | insertLines (count : Nat)
  | deleteLines (count : Nat)
  | insertChars (count : Nat)
  | deleteChars (count : Nat)
  | scrollUp (count : Nat)
  | scrollDown (count : Nat)
  | fillRect (ch : Char) (top left bottom right : Nat)
  | copyRect (srcTop srcLeft srcBottom srcRight dstTop dstLeft : Nat)
  | selectiveEraseRect (top left bottom right : Nat)
  | decaln
  | enterAltScreen (saveCursorDecsc : Bool)
  | leaveAltScreen (restoreCursorDecrc : Bool)
  | reset
  | deccolm (enable : Bool)
  | resize (newCols newRows : Nat)
  deriving DecidableEq, Repr

def Op.exec (op : Op) (s : Screen) : Fallible Screen :=
  match op with
  | .update u => .ok (u.apply s)
  | .osc parts => s.handleOsc parts
  | .wrapPending => s.wrapPending
  | .fitWide width => s.fitWide width
  | .shiftForInsert width => s.shiftForInsert width
  | .putChar c width => s.putChar c width
  | .linefeed => s.linefeed
  | .reverseIndex => s.reverseIndex
  | .eraseDisplay mode selective => s.eraseDisplay mode selective
  | .eraseLine mode selective => s.eraseLine mode selective
  | .eraseChars count => s.eraseChars count
  | .insertLines count => s.insertLines count
  | .deleteLines count => s.deleteLines count
  | .insertChars count => s.insertChars count
  | .deleteChars count => s.deleteChars count
  | .scrollUp count => s.scrollUp count
  | .scrollDown count => s.scrollDown count
  | .fillRect ch top left bottom right => s.fillRect ch top left bottom right
  | .copyRect srcTop srcLeft srcBottom srcRight dstTop dstLeft =>
    s.copyRect srcTop srcLeft srcBottom srcRight dstTop dstLeft
  | .selectiveEraseRect top left bottom right => s.selectiveEraseRect top left bottom right
  | .decaln => s.decaln
  | .enterAltScreen saveCursorDecsc => s.enterAltScreen saveCursorDecsc
  | .leaveAltScreen restoreCursorDecrc => .ok (s.leaveAltScreen restoreCursorDecrc)
  | .reset => .ok s.reset
  | .deccolm enable => s.deccolm enable
  | .resize newCols newRows => s.resize newCols newRows

inductive Call where
  | op (op : Op)
  | writeChar (c : Char)
  deriving DecidableEq, Repr

/-- The stages of `write_char`; a zero-width character or an empty screen stops after the first. -/
def Screen.writeCharOps (s : Screen) (c : Char) : List Op :=
  let c := s.mapChar c
  let width := charWidth c
  .update (.beginChar c) ::
    if s.cols = 0 ∨ s.rows = 0 ∨ width = 0 then []
    else [.wrapPending, .fitWide width, .shiftForInsert width, .putChar c width]

def Call.ops (s : Screen) : Call -> List Op
  | .op o => [o]
  | .writeChar c => s.writeCharOps c

def Call.exec (call : Call) (s : Screen) : Fallible Screen := run Op.exec (call.ops s) s

def executeC0 (byte : Byte) : List Call :=
  match byte.toNat with
  | 0x08 => [.op (.update .backspace)]
  | 0x09 => [.op (.update .tab)]
  | 0x0A | 0x0B | 0x0C => [.op .linefeed]
  | 0x0D => [.op (.update .carriageReturn)]
  | 0x0E => [.op (.update (.activateCharset 1))]
  | 0x0F => [.op (.update (.activateCharset 0))]
  | _ => []

def charsetFromDesignator (byte : Byte) : Charset :=
  match Char.ofNat byte.toNat with
  | '0' => .decSpecialGraphics
  | 'A' => .uk
  | _ => .ascii

def handleEsc (intermediates : List Byte) (byte : Byte) : List Call :=
  match intermediates.head?.map fun first => Char.ofNat first.toNat with
  | none =>
    match Char.ofNat byte.toNat with
    | 'D' => [.op .linefeed]
    | 'E' => [.op (.update .carriageReturn), .op .linefeed]
    | 'H' => [.op (.update .setTabStop)]
    | 'M' => [.op .reverseIndex]
    | '7' => [.op (.update .saveCursor)]
    | '8' => [.op (.update .restoreCursor)]
    | '=' => [.op (.update (.setApplicationKeypad true))]
    | '>' => [.op (.update (.setApplicationKeypad false))]
    | 'c' => [.op .reset]
    | _ => []
  | some '(' => [.op (.update (.designateG0 (charsetFromDesignator byte)))]
  | some ')' => [.op (.update (.designateG1 (charsetFromDesignator byte)))]
  | some '#' => if byte = 0x38 then [.op .decaln] else []
  | some _ => []

def eraseDisplayMode (mode : Nat) : Option EraseDisplay :=
  match mode with
  | 0 => some .below
  | 1 => some .above
  | 2 => some .all
  | 3 => some .scrollback
  | _ => none

def eraseLineMode (mode : Nat) : Option EraseLine :=
  match mode with
  | 0 => some .toRight
  | 1 => some .toLeft
  | 2 => some .all
  | _ => none

def privateModeOp (mode : Nat) (enable : Bool) : Op :=
  match mode with
  | 3 => .deccolm enable
  | 47 | 1047 => if enable then .enterAltScreen false else .leaveAltScreen false
  | 1049 => if enable then .enterAltScreen true else .leaveAltScreen true
  | _ => .update (.setFlagMode mode enable)

def setModes (params : List Nat) (isPrivate enable : Bool) : List Call :=
  params.map fun p =>
    if isPrivate then .op (privateModeOp p enable) else .op (.update (.setAnsiMode p enable))

/-- `self.rows() as u16`. -/
def asU16 (n : Nat) : Nat := n % 65536

def printableOrBlank (code : Nat) : Char := if 32 ≤ code ∧ code ≤ 126 then Char.ofNat code else ' '

namespace Screen

def handleCsi (s : Screen) (params : Params) (intermediates : List Byte) (action : Byte) : List Call :=
  let isPrivate := intermediates.contains 0x3F
  let has := fun c : Char => intermediates.contains c.toNat.toUInt8
  let p := params.getOr
  let update := fun u : Update => [Call.op (.update u)]
  match Char.ofNat action.toNat with
  | 'A' => update (.cursorUp (p 0 1))
  | 'B' => update (.cursorDown (p 0 1))
  | 'C' => update (.cursorRight (p 0 1))
  | 'D' => update (.cursorLeft (p 0 1))
  | 'E' => update (.cursorDown (p 0 1)) ++ update .carriageReturn
  | 'F' => update (.cursorUp (p 0 1)) ++ update .carriageReturn
  | 'G' => update (.cursorPosition (s.cursor.row + 1) (p 0 1))
  | 'H' | 'f' => update (.cursorPosition (p 0 1) (p 1 1))
  | 'J' => ((eraseDisplayMode (p 0 0)).map fun mode => .op (.eraseDisplay mode isPrivate)).toList
  | 'K' => ((eraseLineMode (p 0 0)).map fun mode => .op (.eraseLine mode isPrivate)).toList
  | 'L' => [.op (.insertLines (p 0 1))]
  | 'M' => [.op (.deleteLines (p 0 1))]
  | 'P' => [.op (.deleteChars (p 0 1))]
  | 'S' => [.op (.scrollUp (p 0 1))]
  | 'T' => [.op (.scrollDown (p 0 1))]
  | 'X' => [.op (.eraseChars (p 0 1))]
  | 'I' => update (.tabForward (p 0 1))
  | 'Z' => update (.tabBackward (p 0 1))
  | '@' => [.op (.insertChars (p 0 1))]
  | '\x60' => update (.cursorPosition (s.cursor.row + 1) (p 0 1))
  | 'a' => update (.cursorRight (p 0 1))
  | 'b' =>
    match s.lastChar with
    | some c => List.replicate (p 0 1) (.writeChar c)
    | none => []
  | 'd' => update (.cursorPosition (p 0 1) (s.cursor.col + 1))
  | 'e' => update (.cursorDown (p 0 1))
  | 'g' =>
    match p 0 0 with
    | 0 => update (.clearTabStop .current)
    | 3 => update (.clearTabStop .all)
    | _ => []
  | 'm' => update (.sgr params.finished params.finishedSubparamFlags)
  | 'u' => update .restoreCursor
  | 'h' => setModes params.finished isPrivate true
  | 'l' => setModes params.finished isPrivate false
  | 'p' => if has '!' then update .softReset else []
  | 'q' =>
    if has ' ' then update (.setCursorStyle (p 0 0))
    else if has '"' then
      match p 0 0 with
      | 1 => update (.setProtected true)
      | 0 | 2 => update (.setProtected false)
      | _ => []
    else []
  | 'r' =>
    if isPrivate then update .restoreDecModes
    else update (.setScrollRegion (p 0 1) (p 1 (asU16 s.rows)))
  | 's' =>
    if isPrivate then update .saveDecModes
    else if s.modes.leftRightMargin then update (.setLeftRightMargin (p 0 1) (p 1 (asU16 s.cols)))
    else update .saveCursor
  | 'x' =>
    if has '$' then
      [.op (.fillRect (printableOrBlank (p 0 0)) (p 1 1) (p 2 1) (p 3 (asU16 s.rows)) (p 4 (asU16 s.cols)))]
    else []
  | 'v' =>
    -- The page parameters are ignored.
    if has '$' then
      [.op (.copyRect (p 0 1) (p 1 1) (p 2 (asU16 s.rows)) (p 3 (asU16 s.cols)) (p 5 1) (p 6 1))]
    else []
  | '\x7b' =>
    if has '$' then
      [.op (.selectiveEraseRect (p 0 1) (p 1 1) (p 2 (asU16 s.rows)) (p 3 (asU16 s.cols)))]
    else if has '#' then update .pushSgr
    else []
  | '\x7d' => if has '#' then update .popSgr else []
  | _ => []

def calls (s : Screen) : Action -> List Call
  | .print c => [.writeChar c]
  | .execute byte => executeC0 byte
  | .csiDispatch params intermediates ignore action =>
    if ignore then [] else s.handleCsi params intermediates action
  | .escDispatch intermediates ignore byte => if ignore then [] else handleEsc intermediates byte
  | .oscDispatch parts => [.op (.osc parts)]
  | .dcsHook .. | .dcsPut _ | .dcsUnhook | .apcDispatch _ => []

def perform (action : Action) (s : Screen) : Fallible Screen := run Call.exec (s.calls action) s

def writeChar (s : Screen) (c : Char) : Fallible Screen := (Call.writeChar c).exec s

end Screen

structure Terminal where
  parser : Parser := {}
  screen : Screen

inductive Event where
  | bytes (bytes : Bytes)
  | resize (cols rows : Nat)
  deriving DecidableEq, Repr

namespace Terminal

def new (cols rows : Nat) : Terminal := { screen := Screen.new cols rows }

/-- `parser.advance(&mut screen, bytes)`. -/
def feed (bytes : Bytes) (t : Terminal) : Fallible Terminal := do
  let (parser, actions) := t.parser.advance bytes
  let screen ← run Screen.perform actions t.screen
  .ok { parser, screen }

def handle (event : Event) (t : Terminal) : Fallible Terminal :=
  match event with
  | .bytes bytes => t.feed bytes
  | .resize cols rows => do
    let screen ← t.screen.resize cols rows
    .ok { t with screen }

end Terminal

end Emux
