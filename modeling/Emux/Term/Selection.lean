import Mathlib.Algebra.Group.Nat.Defs
import Mathlib.Data.List.DropRight
import Emux.Library.Run
import Emux.Term.Grid

set_option autoImplicit false

/-!
# Selections

A selection is a pair of positions. Membership goes by columns, the text is cut out of a row's characters by their
number; the two agree where no wide character stands before them, and behind them only blanks are read.
-/

namespace Emux

open Checked

/-- Row 0 is the oldest scrollback row; the rows of the screen follow the scrollback. -/
structure SelectionPoint where
  row : Nat
  col : Nat
  deriving DecidableEq, Repr

/-- `start <= end` -/
def SelectionPoint.le (a b : SelectionPoint) : Bool := a.row < b.row || a.row == b.row && a.col ≤ b.col

inductive SelectionMode where
  | normal
  | rectangular
  deriving DecidableEq, Repr

inductive SelectionState where
  | none
  | selecting
  | selected
  deriving DecidableEq, Repr

structure Selection where
  start : SelectionPoint
  stop : SelectionPoint
  mode : SelectionMode
  state : SelectionState
  deriving DecidableEq, Repr

def isWhitespace (c : Char) : Bool :=
  let cp := c.toNat
  inRange 0x09 0x0D cp || cp == 0x20 || cp == 0x85 || cp == 0xA0 || cp == 0x1680 || inRange 0x2000 0x200A cp ||
    cp == 0x2028 || cp == 0x2029 || cp == 0x202F || cp == 0x205F || cp == 0x3000

def trimEnd (text : List Char) : List Char := text.rdropWhile isWhitespace

def fullText (cells : List Cell) : List Char := (cells.filter fun cell => cell.width != 0).map Cell.c

def Grid.scrollbackRowTextFull (g : Grid) (index : Nat) : List Char :=
  match g.scrollback[index]? with
  | some row => fullText row.cells
  | none => []

def Grid.rowTextFull (g : Grid) (row : Nat) : Fallible (List Char) := do
  let row <- get g.lines row
  .ok (fullText row.cells)

def rowFullText (g : Grid) (absRow scrollbackLen : Nat) : Fallible (List Char) :=
  if absRow < scrollbackLen then .ok (g.scrollbackRowTextFull absRow)
  else
    let vpRow := absRow - scrollbackLen
    if vpRow < g.rows then g.rowTextFull vpRow else .ok []

structure Grid.Formed (g : Grid) : Prop where
  lines : g.lines.length = g.rows
  cells : ∀ row ∈ g.scrollback ++ g.lines, row.cells.length < 2 ^ 64

namespace Selection

def startAt (point : SelectionPoint) (mode : SelectionMode) : Selection :=
  { start := point, stop := point, mode, state := .selecting }

def extend (selection : Selection) (point : SelectionPoint) : Selection := { selection with stop := point }

def finalize (selection : Selection) : Selection := { selection with state := .selected }

def ordered (selection : Selection) : SelectionPoint × SelectionPoint :=
  if selection.start.le selection.stop then (selection.start, selection.stop) else (selection.stop, selection.start)

def contains (selection : Selection) (row col : Nat) : Bool :=
  let (begin, last) := selection.ordered
  match selection.mode with
  | .normal =>
    if row < begin.row || last.row < row then false
    else if begin.row = last.row then begin.col ≤ col && col ≤ last.col
    else if row = begin.row then begin.col ≤ col
    else if row = last.row then col ≤ last.col
    else true
  | .rectangular =>
    let left := min begin.col last.col
    let right := max begin.col last.col
    begin.row ≤ row && row ≤ last.row && left ≤ col && col ≤ right

/-- `chars[sc..ec]` with its end trimmed, for the characters numbered `startCol..=endCol`. -/
def slice (chars : List Char) (startCol endCol : Nat) : Fallible (List Char) := do
  let past <- add (2 ^ 64) endCol 1
  let sc := min startCol chars.length
  let ec := min past chars.length
  .ok (if sc < ec then trimEnd ((chars.take ec).drop sc) else [])

def rowText (selection : Selection) (g : Grid) (absRow : Nat) : Fallible (List Char) := do
  let (begin, last) := selection.ordered
  let chars <- rowFullText g absRow g.scrollbackLen
  match selection.mode with
  | .normal =>
    let startCol := if absRow = begin.row then begin.col else 0
    let endCol := if absRow = last.row then last.col else chars.length - 1
    slice chars startCol endCol
  | .rectangular =>
    let left := min begin.col (min selection.start.col selection.stop.col)
    let right := max begin.col (max selection.start.col selection.stop.col)
    slice chars left right

/-- `begin.row..=end.row` -/
def rows (selection : Selection) : List Nat :=
  List.range' selection.ordered.1.row (selection.ordered.2.row + 1 - selection.ordered.1.row)

def getText (selection : Selection) (g : Grid) : Fallible (List Char) :=
  forEach selection.rows fun absRow => do
    let text <- selection.rowText g absRow
    .ok (text ++ if absRow < selection.ordered.2.row then ['\n'] else [])

end Selection

/-! ## Text without its end -/

theorem trimEnd_append {blanks : List Char} (blank : ∀ c ∈ blanks, isWhitespace c = true) (text : List Char) :
    trimEnd (text ++ blanks) = trimEnd text := by
  induction blanks using List.reverseRecOn with
  | nil => rw [List.append_nil]
  | append_singleton front c ih =>
    obtain ⟨others, here⟩ := List.forall_mem_append.mp blank
    rw [← List.append_assoc, trimEnd, List.rdropWhile_concat_pos _ _ _ (here c (List.mem_singleton_self c))]
    exact ih others

theorem trimEnd_split (text : List Char) :
    ∃ blanks, text = trimEnd text ++ blanks ∧ ∀ c ∈ blanks, isWhitespace c = true :=
  ⟨text.rtakeWhile isWhitespace, List.rdropWhile_append_rtakeWhile.symm, fun _ => List.mem_rtakeWhile_imp⟩

theorem trimEnd_append_iff (text more : List Char) :
    trimEnd (text ++ more) = trimEnd text ↔ ∀ c ∈ more, isWhitespace c = true := by
  refine ⟨fun same => ?_, fun blank => trimEnd_append blank text⟩
  -- What is appended ends the blanks that are trimmed off.
  obtain ⟨blanks, whole, -⟩ := trimEnd_split text
  obtain ⟨trimmed, longer, blank⟩ := trimEnd_split (text ++ more)
  rw [same] at longer
  have joined : trimEnd text ++ (blanks ++ more) = trimEnd text ++ trimmed := by
    rw [← longer, ← List.append_assoc, ← whole]
  have tail : blanks ++ more = trimmed := List.append_cancel_left joined
  exact fun c member => blank c (tail ▸ List.mem_append_right blanks member)

def SameUpToBlanks (text other : List Char) : Prop :=
  ∃ n, text.take n = other.take n ∧ (∀ c ∈ text.drop n, isWhitespace c = true) ∧
    ∀ c ∈ other.drop n, isWhitespace c = true

theorem trimEnd_eq_iff (text other : List Char) : trimEnd text = trimEnd other ↔ SameUpToBlanks text other := by
  constructor
  next =>
    intro same
    obtain ⟨blanks, whole, blank⟩ := trimEnd_split text
    obtain ⟨blanks', whole', blank'⟩ := trimEnd_split other
    rw [← same] at whole'
    clear same
    generalize trimEnd text = front at whole whole'
    subst whole whole'
    refine ⟨front.length, ?_, ?_, ?_⟩
    next => rw [List.take_left, List.take_left]
    next => rwa [List.drop_left]
    next => rwa [List.drop_left]
  next =>
    rintro ⟨n, front, blank, blank'⟩
    rw [← List.take_append_drop n text, ← List.take_append_drop n other, trimEnd_append blank, trimEnd_append blank', front]

instance (text other : List Char) : Decidable (SameUpToBlanks text other) :=
  decidable_of_iff _ (trimEnd_eq_iff text other)

/-! ## Columns and characters -/

def charsBefore (cells : List Cell) (col : Nat) : Nat := (cells.take col).countP fun cell => cell.width != 0

theorem fullText_length (cells : List Cell) : (fullText cells).length = cells.countP fun cell => cell.width != 0 := by
  rw [fullText, List.length_map, List.countP_eq_length_filter]

theorem fullText_append (front back : List Cell) : fullText (front ++ back) = fullText front ++ fullText back := by
  rw [fullText, List.filter_append, List.map_append, fullText, fullText]

theorem fullText_take (cells : List Cell) (col : Nat) :
    fullText (cells.take col) = (fullText cells).take (charsBefore cells col) := by
  conv_rhs => rw [← List.take_append_drop col cells, fullText_append]
  rw [List.take_append_drop, charsBefore, ← fullText_length, List.take_left]

theorem fullText_drop (cells : List Cell) (col : Nat) :
    fullText (cells.drop col) = (fullText cells).drop (charsBefore cells col) := by
  conv_rhs => rw [← List.take_append_drop col cells, fullText_append]
  rw [List.take_append_drop, charsBefore, ← fullText_length, List.drop_left]

theorem fullText_window (cells : List Cell) (first past : Nat) :
    fullText ((cells.take past).drop first) =
      ((fullText cells).take (charsBefore cells past)).drop (charsBefore cells first) := by
  -- The characters in the columns from `first` up to `past`.
  rw [fullText_drop, fullText_take]
  by_cases ordered : first ≤ past
  next => rw [charsBefore, List.take_take, Nat.min_eq_left ordered, ← charsBefore]
  next =>
    -- Nothing is selected, and both sides are empty.
    have same : (cells.take past).take first = cells.take past := List.take_of_length_le (by
      rw [List.length_take]
      omega)
    have fewer : charsBefore cells past ≤ charsBefore cells first :=
      (List.take_sublist_take_left (Nat.le_of_not_le ordered)).countP_le
    rw [charsBefore, same, ← charsBefore, List.drop_of_length_le, List.drop_of_length_le]
    all_goals
      rw [List.length_take]
      omega

theorem zipIdx_window (cells : List Cell) (start first past : Nat) :
    ((cells.zipIdx start).filter fun cell => first ≤ cell.2 && cell.2 < past).map Prod.fst =
      (cells.take (past - start)).drop (first - start) := by
  -- The cells in an interval of columns.
  induction cells generalizing start with
  | nil => simp
  | cons cell rest ih =>
    rw [List.zipIdx_cons, List.filter_cons]
    have later := ih (start + 1)
    by_cases before : start < first
    next =>
      -- The cell lies left of the interval.
      have skip : first - start = first - (start + 1) + 1 := by omega
      rw [if_neg (by simp; omega), later, skip]
      cases left : past - start with
      | zero => rw [show past - (start + 1) = 0 by omega, List.take_zero, List.take_zero, List.drop_nil, List.drop_nil]
      | succ n => rw [show past - (start + 1) = n by omega, List.take_succ_cons, List.drop_succ_cons]
    next =>
      have none : first - start = 0 := by omega
      by_cases after : start < past
      next =>
        have one : past - start = past - (start + 1) + 1 := by omega
        rw [if_pos (by simp; omega), List.map_cons, later, none, one, List.take_succ_cons, List.drop_zero,
          show first - (start + 1) = 0 by omega, List.drop_zero]
      next =>
        rw [if_neg (by simp; omega), later, none, show past - start = 0 by omega, show past - (start + 1) = 0 by omega,
          List.take_zero, List.take_zero, List.drop_nil, List.drop_nil]

namespace Selection

variable {selection : Selection} {g : Grid}

/-! ## Rows and columns of a selection -/

/-- The selected columns of a row of `len` cells: the first, and one past the last. -/
def columns (selection : Selection) (absRow len : Nat) : Nat × Nat :=
  let (begin, last) := selection.ordered
  match selection.mode with
  | .normal => (if absRow = begin.row then begin.col else 0, if absRow = last.row then last.col + 1 else len)
  | .rectangular => (min begin.col last.col, max begin.col last.col + 1)

theorem ordered_le (selection : Selection) : selection.ordered.1.le selection.ordered.2 = true := by
  unfold ordered
  split
  next ordered => exact ordered
  next reversed =>
    simp only [SelectionPoint.le, Bool.or_eq_true, Bool.and_eq_true, decide_eq_true_eq, beq_iff_eq] at reversed ⊢
    omega

theorem ordered_rows (selection : Selection) : selection.ordered.1.row ≤ selection.ordered.2.row := by
  have le := selection.ordered_le
  simp only [SelectionPoint.le, Bool.or_eq_true, Bool.and_eq_true, decide_eq_true_eq, beq_iff_eq] at le
  omega

theorem mem_rows {absRow : Nat} :
    absRow ∈ selection.rows ↔ selection.ordered.1.row ≤ absRow ∧ absRow ≤ selection.ordered.2.row := by
  have le := selection.ordered_rows
  rw [rows, List.mem_range'_1]
  omega

theorem contains_iff {absRow col len : Nat} (inside : col < len) :
    selection.contains absRow col = true ↔ absRow ∈ selection.rows ∧
      (selection.columns absRow len).1 ≤ col ∧ col < (selection.columns absRow len).2 := by
  rw [mem_rows, contains, columns]
  generalize selection.ordered = bounds
  obtain ⟨begin, last⟩ := bounds
  cases selection.mode with
  | normal =>
    simp only
    split_ifs with outside single first final
    all_goals
      simp only [Bool.or_eq_true, Bool.and_eq_true, decide_eq_true_eq, false_iff, true_iff] at *
      omega
  | rectangular => simp only [Bool.and_eq_true, decide_eq_true_eq, and_assoc, Nat.lt_succ_iff]

theorem columns_ordered (selection : Selection) {absRow len : Nat} (inside : (selection.columns absRow len).1 < len) :
    (selection.columns absRow len).1 < (selection.columns absRow len).2 := by
  have le := selection.ordered_le
  unfold columns at inside ⊢
  generalize selection.ordered = bounds at le inside ⊢
  obtain ⟨begin, last⟩ := bounds
  simp only [SelectionPoint.le, Bool.or_eq_true, Bool.and_eq_true, decide_eq_true_eq, beq_iff_eq] at le
  cases mode : selection.mode with
  | normal =>
    simp only [mode] at inside ⊢
    split_ifs at inside ⊢ <;> omega
  | rectangular =>
    simp only
    omega

theorem mem_rows_iff {absRow : Nat} : absRow ∈ selection.rows ↔ ∃ col, selection.contains absRow col = true := by
  -- The rows are those that hold a selected position.
  constructor
  next =>
    intro member
    have first : ∀ len, (selection.columns absRow len).1 = (selection.columns absRow 0).1 := fun len => by
      unfold columns
      cases selection.mode <;> rfl
    refine ⟨(selection.columns absRow 0).1, (contains_iff (Nat.lt_succ_self _)).mpr ⟨member, Nat.le_of_eq (first _), ?_⟩⟩
    have nonempty := @columns_ordered selection absRow ((selection.columns absRow 0).1 + 1)
    rw [first] at nonempty
    exact nonempty (Nat.lt_succ_self _)
  next =>
    rintro ⟨col, inside⟩
    exact ((contains_iff (Nat.lt_succ_self col)).mp inside).1

/-! ## The contained cells -/

def rowCells (g : Grid) (absRow : Nat) : List Cell :=
  match (g.scrollback ++ g.lines)[absRow]? with
  | some row => row.cells
  | none => []

def containedCells (selection : Selection) (absRow : Nat) (cells : List Cell) : List Cell :=
  (cells.zipIdx.filter fun cell => selection.contains absRow cell.2).map Prod.fst

/-- The characters of the selected cells, row by row, each row without its trailing blanks. -/
def containedText (selection : Selection) (g : Grid) : List Char :=
  ['\n'].intercalate (selection.rows.map fun absRow =>
    trimEnd (fullText (selection.containedCells absRow (rowCells g absRow))))

theorem containedCells_eq {absRow : Nat} (member : absRow ∈ selection.rows) (cells : List Cell) :
    selection.containedCells absRow cells =
      (cells.take (selection.columns absRow cells.length).2).drop (selection.columns absRow cells.length).1 := by
  have window := zipIdx_window cells 0 (selection.columns absRow cells.length).1 (selection.columns absRow cells.length).2
  rw [Nat.sub_zero, Nat.sub_zero] at window
  rw [containedCells, ← window]
  congr 1
  refine List.filter_congr fun cell there => ?_
  have inside : cell.2 < cells.length := List.snd_lt_of_mem_zipIdx there
  rw [Bool.eq_iff_iff, contains_iff inside, Bool.and_eq_true, decide_eq_true_eq, decide_eq_true_eq]
  exact and_iff_right member

/-! ## The text that is cut out -/

theorem rowFullText_eq (formed : g.Formed) (absRow : Nat) :
    rowFullText g absRow g.scrollbackLen = .ok (fullText (rowCells g absRow)) := by
  unfold rowFullText rowCells Grid.scrollbackLen
  split
  next old =>
    rw [List.getElem?_append_left old, Grid.scrollbackRowTextFull]
    split <;> rfl
  next recent =>
    rw [List.getElem?_append_right (Nat.le_of_not_lt recent)]
    dsimp only
    split
    next inside =>
      have found := List.getElem?_eq_getElem (formed.lines ▸ inside)
      rw [Grid.rowTextFull, get_ok found, ok_bind, found]
    next below =>
      rw [List.getElem?_eq_none (formed.lines ▸ Nat.le_of_not_lt below)]
      rfl

theorem slice_ok {endCol : Nat} (fits : endCol + 1 < 2 ^ 64) (chars : List Char) (startCol : Nat) :
    slice chars startCol endCol = .ok (trimEnd ((chars.take (endCol + 1)).drop startCol)) := by
  have taken : chars.take (min (endCol + 1) chars.length) = chars.take (endCol + 1) := by
    rw [List.take_eq_take_iff]
    omega
  rw [slice, add_ok fits, ok_bind]
  dsimp only
  rw [taken]
  by_cases some : min startCol chars.length < min (endCol + 1) chars.length
  next =>
    have start : min startCol chars.length = startCol := by omega
    rw [if_pos some, start]
  next =>
    have empty : (chars.take (endCol + 1)).drop startCol = [] := by
      rw [List.drop_eq_nil_iff, List.length_take]
      omega
    rw [if_neg some, empty]
    rfl

def lastCol (selection : Selection) : Nat :=
  match selection.mode with
  | .normal => selection.ordered.2.col
  | .rectangular => max selection.ordered.1.col selection.ordered.2.col

def cutText (selection : Selection) (absRow : Nat) (cells : List Cell) : List Char :=
  ((fullText cells).take (selection.columns absRow cells.length).2).drop (selection.columns absRow cells.length).1

theorem ordered_cols (selection : Selection) :
    min selection.ordered.1.col (min selection.start.col selection.stop.col) =
        min selection.ordered.1.col selection.ordered.2.col ∧
      max selection.ordered.1.col (max selection.start.col selection.stop.col) =
        max selection.ordered.1.col selection.ordered.2.col := by
  unfold ordered
  split
  next =>
    dsimp only
    omega
  next =>
    dsimp only
    omega

theorem rowCells_length (formed : g.Formed) (absRow : Nat) : (rowCells g absRow).length < 2 ^ 64 := by
  unfold rowCells
  split
  next row found => exact formed.cells row (List.mem_of_getElem? found)
  next => exact Nat.two_pow_pos 64

theorem rowText_ok (formed : g.Formed) (fits : selection.lastCol + 1 < 2 ^ 64) (absRow : Nat) :
    selection.rowText g absRow = .ok (trimEnd (selection.cutText absRow (rowCells g absRow))) := by
  have cols := selection.ordered_cols
  have small := rowCells_length formed absRow
  simp only [rowText, rowFullText_eq formed, ok_bind, cutText, columns]
  unfold lastCol at fits
  generalize rowCells g absRow = cells at small ⊢
  have short : (fullText cells).length ≤ cells.length := by
    rw [fullText_length]
    exact List.countP_le_length
  cases mode : selection.mode with
  | normal =>
    simp only [mode] at fits ⊢
    by_cases final : absRow = selection.ordered.2.row
    next => simp only [final, if_true, slice_ok fits]
    next =>
      -- The text is cut at its own length, which is at most the number of cells.
      rw [if_neg final, if_neg final, slice_ok (by omega), List.take_of_length_le, List.take_of_length_le]
      next => exact short
      next => omega
  | rectangular =>
    simp only [mode] at fits ⊢
    rw [cols.1, cols.2, slice_ok fits]

theorem getText_panics (formed : g.Formed) (exceeds : ¬ selection.lastCol + 1 < 2 ^ 64) :
    ∃ panic, selection.getText g = .error panic := by
  -- A selection whose greatest column is the last number cannot be cut out.
  have last : selection.ordered.2.row ∈ selection.rows := mem_rows.mpr ⟨selection.ordered_rows, Nat.le_refl _⟩
  have cols := selection.ordered_cols
  have stopped : ∀ chars startCol, slice chars startCol selection.lastCol = .error .arithmetic := fun chars startCol => by
    rw [slice, add, if_neg exceeds]
    rfl
  have row : selection.rowText g selection.ordered.2.row = .error .arithmetic := by
    simp only [rowText, rowFullText_eq formed, ok_bind]
    unfold lastCol at stopped
    cases mode : selection.mode with
    | normal =>
      simp only [mode] at stopped ⊢
      rw [if_true, stopped]
    | rectangular =>
      simp only [mode] at stopped ⊢
      rw [cols.2, stopped]
  refine @forEach_panics _ _ _ _ _ .arithmetic last ?_
  rw [row]
  rfl

theorem joined_rows (text : Nat -> List Char) (start count : Nat) :
    (List.range' start (count + 1)).flatMap (fun row => text row ++ if row < start + count then ['\n'] else []) =
      ['\n'].intercalate ((List.range' start (count + 1)).map text) := by
  -- The rows of a text between line breaks.
  induction count generalizing start with
  | zero => simp [List.intercalate]
  | succ count ih =>
    have later := ih (start + 1)
    have total : start + 1 + count = start + (count + 1) := by omega
    have more : start < start + (count + 1) := by omega
    rw [total] at later
    rw [List.range'_succ, List.flatMap_cons, later, if_pos more, List.map_cons, List.range'_succ, List.map_cons,
      List.intercalate_cons_cons, List.append_assoc]

theorem getText_ok (formed : g.Formed) (fits : selection.lastCol + 1 < 2 ^ 64) :
    selection.getText g = .ok (['\n'].intercalate (selection.rows.map fun absRow =>
      trimEnd (selection.cutText absRow (rowCells g absRow)))) := by
  have le := selection.ordered_rows
  have count : selection.ordered.2.row + 1 - selection.ordered.1.row =
      selection.ordered.2.row - selection.ordered.1.row + 1 := by omega
  have total : selection.ordered.1.row + (selection.ordered.2.row - selection.ordered.1.row) =
      selection.ordered.2.row := by omega
  have joined := joined_rows (fun absRow => trimEnd (selection.cutText absRow (rowCells g absRow)))
    selection.ordered.1.row (selection.ordered.2.row - selection.ordered.1.row)
  rw [total] at joined
  rw [rows, count, ← joined, getText, rows, count]
  refine forEach_ok fun absRow _ => ?_
  rw [rowText_ok formed fits, ok_bind]

/-- No second half of a wide character stands before the first selected column of a row, where the row reaches it. -/
def StartsStraight (selection : Selection) (g : Grid) : Prop :=
  ∀ absRow ∈ selection.rows,
    let cells := rowCells g absRow
    let columns := selection.columns absRow cells.length
    columns.1 < cells.length -> ∀ cell ∈ cells.take columns.1, cell.width ≠ 0

/-- As many of the characters behind the first `past` columns as second halves stand in these are blanks. -/
def BlankAfter (cells : List Cell) (past : Nat) : Prop :=
  ∀ c ∈ (fullText (cells.drop past)).take ((cells.take past).countP fun cell => cell.width == 0), isWhitespace c = true

def EndsBlank (selection : Selection) (g : Grid) : Prop :=
  ∀ absRow ∈ selection.rows,
    let cells := rowCells g absRow
    let columns := selection.columns absRow cells.length
    columns.1 < cells.length -> BlankAfter cells columns.2

instance (cells : List Cell) (past : Nat) : Decidable (BlankAfter cells past) :=
  decidable_of_iff (((fullText (cells.drop past)).take ((cells.take past).countP fun cell => cell.width == 0)).all
    isWhitespace = true) List.all_eq_true

instance (selection : Selection) (g : Grid) : Decidable (selection.StartsStraight g) := by
  unfold StartsStraight
  infer_instance

instance (selection : Selection) (g : Grid) : Decidable (selection.EndsBlank g) := by
  unfold EndsBlank
  infer_instance

theorem charsBefore_add (cells : List Cell) (col : Nat) :
    charsBefore cells col + (cells.take col).countP (fun cell => cell.width == 0) = min col cells.length := by
  rw [charsBefore, ← List.length_take, List.length_eq_countP_add_countP (fun cell : Cell => cell.width != 0)]
  congr 2
  funext cell
  by_cases narrow : cell.width = 0 <;> simp [narrow]

theorem fullText_overrun (cells : List Cell) (past : Nat) :
    (fullText cells).take past = (fullText cells).take (charsBefore cells past) ++
      (fullText (cells.drop past)).take ((cells.take past).countP fun cell => cell.width == 0) := by
  -- The characters numbered like the columns up to `past` are those in these columns and some that follow.
  have split := charsBefore_add cells past
  rw [fullText_drop]
  by_cases inside : past ≤ cells.length
  next =>
    rw [Nat.min_eq_left inside] at split
    conv_lhs => rw [← split, List.take_add]
  next =>
    have all : charsBefore cells past = (fullText cells).length := by
      rw [charsBefore, List.take_of_length_le (by omega), fullText_length]
    have short : (fullText cells).length ≤ cells.length := by
      rw [fullText_length]
      exact List.countP_le_length
    rw [all, List.drop_length, List.take_nil, List.append_nil, List.take_length, List.take_of_length_le (by omega)]

theorem charsBefore_narrow {cells : List Cell} {col : Nat} (narrow : ∀ cell ∈ cells.take col, cell.width ≠ 0) :
    charsBefore cells col = min col cells.length := by
  have none : (cells.take col).countP (fun cell => cell.width == 0) = 0 :=
    List.countP_eq_zero.mpr fun cell member => by simpa using narrow cell member
  have split := charsBefore_add cells col
  omega

theorem cutText_iff {absRow : Nat} (member : absRow ∈ selection.rows) {cells : List Cell}
    (straight : (selection.columns absRow cells.length).1 < cells.length ->
      ∀ cell ∈ cells.take (selection.columns absRow cells.length).1, cell.width ≠ 0) :
    trimEnd (selection.cutText absRow cells) = trimEnd (fullText (selection.containedCells absRow cells)) ↔
      ((selection.columns absRow cells.length).1 < cells.length ->
        BlankAfter cells (selection.columns absRow cells.length).2) := by
  have ordered := @columns_ordered selection absRow cells.length
  rw [containedCells_eq member, fullText_window, cutText]
  generalize (selection.columns absRow cells.length).1 = first at straight ordered ⊢
  generalize (selection.columns absRow cells.length).2 = past at ordered ⊢
  have short : (fullText cells).length ≤ cells.length := by
    rw [fullText_length]
    exact List.countP_le_length
  by_cases inside : first < cells.length
  next =>
    -- The text begins where the columns begin, and what is read too far is appended.
    have start : charsBefore cells first = first := by
      rw [charsBefore_narrow (straight inside), Nat.min_eq_left (Nat.le_of_lt inside)]
    have fewer : charsBefore cells first ≤ charsBefore cells past :=
      (List.take_sublist_take_left (Nat.le_of_lt (ordered inside))).countP_le
    have reaches : first ≤ ((fullText cells).take (charsBefore cells past)).length := by
      have whole : charsBefore cells past ≤ (fullText cells).length := by
        rw [fullText_length]
        exact (List.take_sublist past cells).countP_le
      rw [List.length_take]
      omega
    rw [start, fullText_overrun, List.drop_append_of_le_length reaches, trimEnd_append_iff]
    exact ⟨fun blank _ => blank, fun blank => blank inside⟩
  next =>
    -- No cell of the row is selected, and no character is cut out.
    have outside : charsBefore cells first = (fullText cells).length := by
      rw [charsBefore, List.take_of_length_le (Nat.le_of_not_lt inside), fullText_length]
    rw [outside, List.drop_of_length_le, List.drop_of_length_le]
    next => exact iff_of_true rfl fun reached => absurd reached inside
    all_goals
      rw [List.length_take]
      omega

theorem fullText_plain {cells : List Cell} {c : Char} (plain : ∀ cell ∈ cells, cell.c ≠ c) : c ∉ fullText cells := by
  rw [fullText, List.mem_map]
  rintro ⟨cell, member, same⟩
  exact plain cell (List.mem_of_mem_filter member) same

theorem trimEnd_sublist (text : List Char) : (trimEnd text).Sublist text :=
  (List.rdropWhile_prefix isWhitespace text).sublist

theorem containedCells_sublist (absRow : Nat) (cells : List Cell) :
    (fullText (selection.containedCells absRow cells)).Sublist (fullText cells) := by
  have fewer : (selection.containedCells absRow cells).Sublist cells := by
    have kept := (List.filter_sublist (p := fun cell => selection.contains absRow cell.2) (l := cells.zipIdx)).map Prod.fst
    rwa [List.zipIdx_map_fst] at kept
  exact (fewer.filter _).map Cell.c

theorem joined_eq_iff {texts others : Nat -> List Char} {rows : List Nat} (some : rows ≠ [])
    (plain : ∀ row, '\n' ∉ texts row) (plain' : ∀ row, '\n' ∉ others row) :
    ['\n'].intercalate (rows.map texts) = ['\n'].intercalate (rows.map others) ↔ ∀ row ∈ rows, texts row = others row := by
  -- Joined texts without line breaks can be told apart.
  have split : ∀ {texts : Nat -> List Char}, (∀ row, '\n' ∉ texts row) ->
      (['\n'].intercalate (rows.map texts)).splitOn '\n' = rows.map texts := fun plain =>
    List.splitOn_intercalate _ (List.forall_mem_map.mpr fun row _ => plain row) (mt List.map_eq_nil_iff.mp some)
  rw [← List.map_inj_left]
  refine ⟨fun same => ?_, fun same => by rw [same]⟩
  rw [← split plain, ← split plain', same]

/-- Cutting a selection out of a grid gives the text of the cells it contains where no wide character ends before the
first selected column and what is read beyond the last one is blank. Where the first holds, the second is needed, if no
cell holds a line break. -/
theorem getText_exact (formed : g.Formed) (selection : Selection) :
    (selection.lastCol + 1 < 2 ^ 64 ∧ selection.StartsStraight g ∧ selection.EndsBlank g ->
      selection.getText g = .ok (selection.containedText g)) ∧
      ((∀ row ∈ g.scrollback ++ g.lines, ∀ cell ∈ row.cells, cell.c ≠ '\n') -> selection.StartsStraight g ->
        selection.getText g = .ok (selection.containedText g) -> selection.lastCol + 1 < 2 ^ 64 ∧ selection.EndsBlank g) := by
  -- Row by row: what is cut out against what is contained, trimmed.
  constructor
  next =>
    rintro ⟨fits, starts, ends⟩
    rw [getText_ok formed fits, containedText]
    congr 2
    exact List.map_congr_left fun absRow member => (cutText_iff member (starts absRow member)).mpr (ends absRow member)
  next =>
    intro plain starts same
    by_cases fits : selection.lastCol + 1 < 2 ^ 64
    next =>
      rw [getText_ok formed fits, Except.ok.injEq, containedText] at same
      have plainRow : ∀ absRow, '\n' ∉ fullText (rowCells g absRow) := fun absRow => by
        refine fullText_plain fun cell member => ?_
        unfold rowCells at member
        split at member
        next row found => exact plain row (List.mem_of_getElem? found) cell member
        next => cases member
      have some : selection.rows ≠ [] := List.ne_nil_of_mem (mem_rows.mpr ⟨Nat.le_refl _, selection.ordered_rows⟩)
      have rows := (joined_eq_iff some (fun absRow inside => plainRow absRow (((trimEnd_sublist _).trans
          ((List.drop_sublist _ _).trans (List.take_sublist _ _))).subset inside)) fun absRow inside =>
        plainRow absRow (((trimEnd_sublist _).trans (containedCells_sublist absRow (rowCells g absRow))).subset inside)).mp same
      exact ⟨fits, fun absRow member => (cutText_iff member (starts absRow member)).mp (rows absRow member)⟩
    next =>
      obtain ⟨panic, stopped⟩ := getText_panics formed fits
      rw [stopped] at same
      cases same

def wideRow : Row :=
  { cells := [{ c := '日', width := 2 }, { c := ' ', width := 0 }, { c := '本', width := 2 }, { c := ' ', width := 0 }] }

def wideGrid : Grid := { cols := 4, rows := 1, lines := [wideRow] }

theorem wideGrid_formed : wideGrid.Formed :=
  ⟨rfl, List.forall_mem_singleton.mpr (by decide)⟩

theorem getText_exact_wide :
    let selection : Selection := { start := ⟨0, 3⟩, stop := ⟨0, 0⟩, mode := .normal, state := .selected }
    (selection.lastCol + 1 < 2 ^ 64 ∧ selection.StartsStraight wideGrid ∧ selection.EndsBlank wideGrid ->
      selection.getText wideGrid = .ok (selection.containedText wideGrid)) ∧
      ((∀ row ∈ wideGrid.scrollback ++ wideGrid.lines, ∀ cell ∈ row.cells, cell.c ≠ '\n') ->
        selection.StartsStraight wideGrid ->
        selection.getText wideGrid = .ok (selection.containedText wideGrid) ->
          selection.lastCol + 1 < 2 ^ 64 ∧ selection.EndsBlank wideGrid) :=
  getText_exact wideGrid_formed _

/-- The first two columns hold one character, and two are cut out. -/
theorem getText_takes_neighbour :
    let selection : Selection := { start := ⟨0, 0⟩, stop := ⟨0, 1⟩, mode := .normal, state := .selected }
    selection.getText wideGrid = .ok ['日', '本'] ∧ selection.containedText wideGrid = ['日'] := by
  decide

end Selection

end Emux
