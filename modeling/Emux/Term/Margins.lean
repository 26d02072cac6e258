import Emux.Term.Cells
import Emux.Term.Safety

set_option autoImplicit false

/-!
# Left and right margins

Which of the operations that scroll, insert and delete stay inside the rectangle of the margins, and
for the others when the cells outside it come out unchanged.
-/

namespace Emux

open Checked Grid

inductive MarginOp where
  | lineFeed
  | index
  | nextLine
  | reverseIndex
  | scrollUp (count : Nat)
  | scrollDown (count : Nat)
  | insertLines (count : Nat)
  | deleteLines (count : Nat)
  | insertChars (count : Nat)
  | deleteChars (count : Nat)
  deriving DecidableEq, Repr

namespace MarginOp

/-- LF, IND (`ESC D`), NEL (`ESC E`), RI (`ESC M`) and the control sequences, as the performer calls them. -/
def ops : MarginOp -> List Op
  | .lineFeed | .index => [.linefeed]
  | .nextLine => [.update .carriageReturn, .linefeed]
  | .reverseIndex => [.reverseIndex]
  | .scrollUp count => [.scrollUp count]
  | .scrollDown count => [.scrollDown count]
  | .insertLines count => [.insertLines count]
  | .deleteLines count => [.deleteLines count]
  | .insertChars count => [.insertChars count]
  | .deleteChars count => [.deleteChars count]

def exec (op : MarginOp) (s : Screen) : Fallible Screen := run Op.exec op.ops s

end MarginOp

namespace Screen

def inMargins (s : Screen) (r c : Nat) : Bool :=
  decide (s.scrollTop ≤ r) && decide (r < s.scrollBottom) && (decide (s.scrollLeft ≤ c) && decide (c < s.scrollRight))

def ConfinedTo (s : Screen) (g : Grid) : Prop :=
  (∀ r c, s.inMargins r c = false -> g.look r c = s.grid.look r c) ∧ g.scrollback = s.grid.scrollback

theorem inMargins_iff (s : Screen) (r c : Nat) : s.inMargins r c = true ↔
    (s.scrollTop ≤ r ∧ r < s.scrollBottom) ∧ s.scrollLeft ≤ c ∧ c < s.scrollRight := by
  simp [inMargins]

theorem confined_self (s : Screen) : s.ConfinedTo s.grid := ⟨fun _ _ _ => rfl, rfl⟩

theorem confined_columns (s : Screen) (count : Nat) :
    s.ConfinedTo ((Edit.columnsUp s.scrollTop s.scrollBottom s.scrollLeft s.scrollRight count).apply s.grid) ∧
      s.ConfinedTo ((Edit.columnsDown s.scrollTop s.scrollBottom s.scrollLeft s.scrollRight count).apply s.grid) := by
  have outside (r c : Nat) (out : s.inMargins r c = false) := @Edit.look_columns_outside s.grid r c s.scrollTop
    s.scrollBottom s.scrollLeft s.scrollRight count (by rw [← inMargins_iff, out]; exact Bool.false_ne_true)
  exact ⟨⟨fun r c out => (outside r c out).1, rfl⟩, ⟨fun r c out => (outside r c out).2, rfl⟩⟩

/-- The rows `[top, bottom)` read the same outside the margin columns when they move up by `count`. -/
def LevelUp (s : Screen) (top bottom count : Nat) : Prop :=
  ∀ r, r < bottom -> top ≤ r -> ∀ c, c < s.cols -> s.inMargins r c = false ->
    (if r + count < bottom then s.grid.look (r + count) c else some .blank) = s.grid.look r c

def LevelDown (s : Screen) (top bottom count : Nat) : Prop :=
  ∀ r, r < bottom -> top ≤ r -> ∀ c, c < s.cols -> s.inMargins r c = false ->
    (if r < top + count then some .blank else s.grid.look (r - count) c) = s.grid.look r c

/-- The cells of the cursor's row from the cursor to the right margin that lie outside the margins
read the same when they move left by `count`. -/
def LevelLeft (s : Screen) (count : Nat) : Prop :=
  ∀ c, c < s.scrollRight -> s.cursor.col ≤ c -> s.inMargins s.cursor.row c = false -> s.cursor.row < s.rows ->
    (if c + count < s.scrollRight then s.grid.look s.cursor.row (c + count) else some .blank) =
      s.grid.look s.cursor.row c

def LevelRight (s : Screen) (count : Nat) : Prop :=
  ∀ c, c < s.scrollRight -> s.cursor.col ≤ c -> s.inMargins s.cursor.row c = false -> s.cursor.row < s.rows ->
    (if c < s.cursor.col + count then some .blank else s.grid.look s.cursor.row (c - count)) =
      s.grid.look s.cursor.row c

theorem confined_rowsUp {s : Screen} (sized : s.grid.Sized) {top bottom : Nat} (count : Nat) (keep : Bool)
    (bound : bottom ≤ s.rows) :
    s.ConfinedTo ((Edit.rowsUp top bottom count keep).apply s.grid) ↔ s.LevelUp top bottom count ∧
      (keep = true -> s.grid.historyAfter top bottom count = s.grid.scrollback) := by
  have history : ((Edit.rowsUp top bottom count keep).apply s.grid).scrollback =
      if keep then s.grid.historyAfter top bottom count else s.grid.scrollback := rfl
  simp only [ConfinedTo, history]
  -- Rows and columns outside of the region stay by themselves; what is left are the columns beside the margins.
  constructor
  next =>
    rintro ⟨same, kept⟩
    refine ⟨fun r below above c inside out => ?_, fun pushes => by simpa [pushes] using kept⟩
    have here := same r c out
    rw [Edit.look_rowsUp r c sized count keep bound, if_pos ⟨above, below⟩, blankAt_of_lt inside] at here
    exact here
  next =>
    rintro ⟨level, kept⟩
    refine ⟨fun r c out => ?_, by cases keep <;> simp_all⟩
    rw [Edit.look_rowsUp r c sized count keep bound]
    split
    next within =>
      by_cases inside : c < s.cols
      next =>
        rw [blankAt_of_lt inside]
        exact level r within.2 within.1 c inside out
      next =>
        have none := Nat.le_of_not_lt inside
        rw [look_beyond sized none, look_beyond sized none, blankAt_beyond none, ite_self]
    next => rfl

theorem confined_rowsDown {s : Screen} (sized : s.grid.Sized) {top bottom : Nat} (count : Nat)
    (bound : bottom ≤ s.rows) :
    s.ConfinedTo ((Edit.rowsDown top bottom count).apply s.grid) ↔ s.LevelDown top bottom count := by
  constructor
  next =>
    rintro ⟨same, -⟩ r below above c inside out
    have here := same r c out
    rw [Edit.look_rowsDown r c sized count bound, if_pos ⟨above, below⟩, blankAt_of_lt inside] at here
    exact here
  next =>
    intro level
    refine ⟨fun r c out => ?_, rfl⟩
    rw [Edit.look_rowsDown r c sized count bound]
    split
    next within =>
      by_cases inside : c < s.cols
      next =>
        rw [blankAt_of_lt inside]
        exact level r within.2 within.1 c inside out
      next =>
        have none := Nat.le_of_not_lt inside
        rw [look_beyond sized none, look_beyond sized none, blankAt_beyond none, ite_self]
    next => rfl

theorem confined_cells {s : Screen} (inside : s.cursor.row < s.rows) {e : RowEdit}
    {moved : Nat -> Option Cell}
    (cells : ∀ c, (s.grid.lines[s.cursor.row]?.bind fun row => (e.onCells row.cells)[c]?) =
      if s.cursor.col ≤ c ∧ c < s.scrollRight then moved c else s.grid.look s.cursor.row c) :
    s.ConfinedTo ((Edit.rows s.cursor.row (s.cursor.row + 1) e).apply s.grid) ↔
      ∀ c, c < s.scrollRight -> s.cursor.col ≤ c -> s.inMargins s.cursor.row c = false -> s.cursor.row < s.rows ->
        moved c = s.grid.look s.cursor.row c := by
  -- A change of the cursor's row within `[col, scrollRight)` whose cells are known.
  constructor
  next =>
    rintro ⟨same, -⟩ c last first out _
    have here := same s.cursor.row c out
    rw [Edit.look_rows, if_pos ⟨Nat.le_refl _, Nat.lt_succ_self _⟩, cells, if_pos ⟨first, last⟩] at here
    exact here
  next =>
    intro level
    refine ⟨fun r c out => ?_, rfl⟩
    rw [Edit.look_rows]
    split
    next within =>
      obtain rfl : r = s.cursor.row := by omega
      rw [cells]
      split
      next range => exact level c range.2 range.1 out inside
      next => rfl
    next => rfl

theorem confined_insert {s : Screen} (framed : Framed s) (count : Nat) (inside : s.cursor.row < s.rows) :
    s.ConfinedTo ((Edit.rows s.cursor.row (s.cursor.row + 1) (.insert s.cursor.col s.scrollRight count)).apply s.grid) ↔
      s.LevelRight count := by
  obtain ⟨row, found⟩ := framed.grid.row_at inside
  have width := framed.grid.cells_at found
  apply confined_cells inside
  intro c
  have shifted := getElem?_shiftDown row.cells s.cursor.col s.scrollRight count .blank c (by
    rw [width]
    exact framed.marginFits)
  simp only [RowEdit.onCells, look, found, Option.bind_some]
  rw [shifted]

theorem confined_delete {s : Screen} (framed : Framed s) (count : Nat) (inside : s.cursor.row < s.rows) :
    s.ConfinedTo ((Edit.rows s.cursor.row (s.cursor.row + 1) (.delete s.cursor.col s.scrollRight count)).apply s.grid) ↔
      s.LevelLeft count := by
  obtain ⟨row, found⟩ := framed.grid.row_at inside
  have width := framed.grid.cells_at found
  apply confined_cells inside
  intro c
  have shifted := getElem?_shiftUp row.cells s.cursor.col s.scrollRight count .blank c (by
    rw [width]
    exact framed.marginFits)
  simp only [RowEdit.onCells, look, found, Option.bind_some]
  rw [shifted]

theorem carriageReturn_still (s : Screen) :
    s.carriageReturn.frame = s.frame ∧ s.carriageReturn.hasLrMargins = s.hasLrMargins := by
  unfold carriageReturn
  split <;> exact ⟨rfl, rfl⟩

theorem confinedTo_congr {s s' : Screen} (same : s'.frame = s.frame) (g : Grid) : s'.ConfinedTo g ↔ s.ConfinedTo g := by
  simp only [frame, Prod.mk.injEq] at same
  obtain ⟨grid, -, top, bottom, left, right, -⟩ := same
  simp only [ConfinedTo, inMargins, grid, top, bottom, left, right]

def fedGrid (s : Screen) : Grid :=
  if s.cursor.row + 1 = s.scrollBottom then
    (s.scrollUpEdit (s.hasLrMargins && s.cursorInLrMargins) 1).apply s.grid
  else s.grid

theorem fed_grid (s : Screen) : s.fed.grid = s.fedGrid := by
  unfold fed nextLine fedGrid
  dsimp only
  split_ifs <;> rfl

/-- A line feed scrolls nothing, or the margins alone, or rows that read the same. -/
def FeedLevel (s : Screen) : Prop :=
  s.cursor.row + 1 = s.scrollBottom -> s.cursorInLrMargins = false ->
    s.LevelUp s.scrollTop s.scrollBottom 1 ∧
      (s.scrollTop = 0 -> s.grid.pushed (s.grid.lines.take 1) = s.grid.scrollback)

def ReverseLevel (s : Screen) : Prop :=
  s.cursor.row = s.scrollTop -> s.cursorInLrMargins = false -> s.LevelDown s.scrollTop s.scrollBottom 1

theorem confined_fed {s : Screen} (framed : Framed s) (margins : s.hasLrMargins = true) :
    s.ConfinedTo s.fedGrid ↔ s.FeedLevel := by
  unfold fedGrid FeedLevel scrollUpEdit
  rw [margins, Bool.true_and]
  by_cases due : s.cursor.row + 1 = s.scrollBottom
  next =>
    cases inside : s.cursorInLrMargins with
    | true => simpa [due] using (s.confined_columns 1).1
    | false =>
      have history : s.grid.historyAfter s.scrollTop s.scrollBottom 1 = s.grid.scrollback ↔
          (s.scrollTop = 0 -> s.grid.pushed (s.grid.lines.take 1) = s.grid.scrollback) := by
        have some : min 1 s.scrollBottom = 1 := by have := framed.region; omega
        unfold historyAfter
        rw [some]
        split <;> simp_all
      have moved := @confined_rowsUp s framed.grid s.scrollTop s.scrollBottom 1 true framed.regionFits
      simp only [due, if_true, Bool.false_eq_true, if_false, moved, history, forall_const]
  next => simpa [due] using s.confined_self

theorem confined_reversed {s : Screen} (framed : Framed s) (margins : s.hasLrMargins = true) :
    s.ConfinedTo s.reversed.grid ↔ s.ReverseLevel := by
  unfold reversed ReverseLevel scrollDownEdit
  rw [margins, Bool.true_and]
  by_cases due : s.cursor.row = s.scrollTop
  next =>
    cases inside : s.cursorInLrMargins with
    | true => simpa [due, edit_grid] using (s.confined_columns 1).2
    | false =>
      have moved := @confined_rowsDown s framed.grid s.scrollTop s.scrollBottom 1 framed.regionFits
      simpa [due, edit_grid] using moved
  next => simpa [due] using s.confined_self

theorem confined_withLines {s : Screen} {e : Edit} {level : Prop}
    (moved : s.ConfinedTo (e.apply s.grid) ↔ level) :
    s.ConfinedTo (s.withLines e).grid ↔ (s.cursorInRegion = true -> level) := by
  unfold withLines
  cases inside : s.cursorInRegion with
  | true =>
    simp only [if_true, true_implies]
    exact moved
  | false => simpa using s.confined_self

theorem onGrid_kept {s : Screen} {f : Grid -> Fallible Grid} (kept : Ensures AnyPanic (f s.grid) (· = s.grid)) :
    Ensures AnyPanic (s.onGrid f) (· = s) :=
  kept.bind fun g same => by rw [same]; exact ensures_ok rfl

theorem insertCells_missing {g : Grid} {r : Nat} (missing : g.lines.length ≤ r) (col count bound : Nat) :
    Ensures AnyPanic (g.insertCellsBounded r col count bound) (· = g) := by
  -- Without a row under the cursor, inserting and deleting characters fails or changes nothing.
  simp only [insertCellsBounded, editCells, Checked.get, List.getElem?_eq_none missing, error_bind]
  split
  next => exact rfl
  next => trivial

theorem deleteCells_missing {g : Grid} {r : Nat} (missing : g.lines.length ≤ r) (col count bound : Nat) :
    Ensures AnyPanic (g.deleteCellsBounded r col count bound) (· = g) := by
  simp only [deleteCellsBounded, editCells, Checked.get, List.getElem?_eq_none missing, error_bind]
  split
  next => exact rfl
  next => trivial

theorem insertChars_missing {s : Screen} (missing : s.grid.lines.length ≤ s.cursor.row) (count : Nat) :
    Ensures AnyPanic (s.insertChars count) fun s' => s'.frame = s.frame := by
  simp only [insertChars, recordDamage_eq]
  exact (onGrid_kept (insertCells_missing missing _ _ _)).bind fun _ same => by rw [same]; exact ensures_ok rfl

theorem deleteChars_missing {s : Screen} (missing : s.grid.lines.length ≤ s.cursor.row) (count : Nat) :
    Ensures AnyPanic (s.deleteChars count) fun s' => s'.frame = s.frame := by
  simp only [deleteChars, recordDamage_eq]
  exact (onGrid_kept (deleteCells_missing missing _ _ _)).bind fun _ same => by rw [same]; exact ensures_ok rfl

end Screen

open Screen

namespace MarginOp

/-- The moves that go beyond the margins are not due or find cells that read the same. -/
def Level (op : MarginOp) (s : Screen) : Prop :=
  match op with
  | .lineFeed | .index => s.FeedLevel
  | .nextLine => s.carriageReturn.FeedLevel
  | .reverseIndex => s.ReverseLevel
  | .scrollUp _ | .scrollDown _ => True
  | .insertLines count => s.cursorInRegion = true -> s.LevelDown s.cursor.row s.scrollBottom count
  | .deleteLines count => s.cursorInRegion = true -> s.LevelUp s.cursor.row s.scrollBottom count
  | .insertChars count => s.LevelRight count
  | .deleteChars count => s.LevelLeft count

theorem confines_of_ok (op : MarginOp) (o : Op) (s : Screen) {s' : Screen} (one : op.ops = [o])
    (ran : o.exec s = .ok s') :
    Ensures AnyPanic (op.exec s) (fun s' => s.ConfinedTo s'.grid) ↔ s.ConfinedTo s'.grid := by
  rw [exec, one, run_cons, ran]
  exact Iff.rfl

theorem confines_of_kept (op : MarginOp) (o : Op) (s : Screen) (one : op.ops = [o])
    (kept : Ensures AnyPanic (o.exec s) fun s' => s'.frame = s.frame) :
    Ensures AnyPanic (op.exec s) fun s' => s.ConfinedTo s'.grid := by
  -- An operation that fails or leaves the grid alone is confined.
  rw [exec, one, run_cons]
  refine kept.bind fun s' same => ?_
  rw [run_nil]
  change s.ConfinedTo s'.grid
  rw [show s'.grid = s.grid from congrArg Prod.fst same]
  exact s.confined_self

theorem confined_iff {s : Screen} (framed : Framed s) (margins : s.hasLrMargins = true) (op : MarginOp) :
    Ensures AnyPanic (op.exec s) (fun s' => s.ConfinedTo s'.grid) ↔ op.Level s := by
  have right : min s.effectiveRight s.grid.cols = s.scrollRight := by
    rw [effectiveRight, if_pos margins]
    exact Nat.min_eq_left framed.marginFits
  -- Every operation returns one grid, which is compared with the old one outside of the margins.
  cases op with
  | lineFeed =>
    rw [confines_of_ok .lineFeed .linefeed s rfl (linefeed_ok framed), fed_grid]
    exact confined_fed framed margins
  | index =>
    rw [confines_of_ok .index .linefeed s rfl (linefeed_ok framed), fed_grid]
    exact confined_fed framed margins
  | nextLine =>
    obtain ⟨frame, same⟩ := s.carriageReturn_still
    have returned : Framed s.carriageReturn := framed.of_frame frame
    have ran : (MarginOp.nextLine).exec s = .ok s.carriageReturn.fed := by
      have fed := linefeed_ok returned
      simp only [exec, ops, run_cons, Op.exec, Update.apply, ok_bind, fed, run_nil]
    rw [ran]
    refine (confinedTo_congr frame _).symm.trans ?_
    rw [fed_grid]
    exact confined_fed returned (same.trans margins)
  | reverseIndex =>
    rw [confines_of_ok .reverseIndex .reverseIndex s rfl (reverseIndex_ok framed)]
    exact confined_reversed framed margins
  | scrollUp count =>
    rw [confines_of_ok (.scrollUp count) (.scrollUp count) s rfl (Screen.scrollUp_ok framed count), scrolledUp, margins]
    exact iff_true_intro (s.confined_columns count).1
  | scrollDown count =>
    rw [confines_of_ok (.scrollDown count) (.scrollDown count) s rfl (Screen.scrollDown_ok framed count), scrolledDown, margins]
    exact iff_true_intro (s.confined_columns count).2
  | insertLines count =>
    rw [confines_of_ok (.insertLines count) (.insertLines count) s rfl (Screen.insertLines_ok framed count)]
    exact confined_withLines (confined_rowsDown framed.grid count framed.regionFits)
  | deleteLines count =>
    rw [confines_of_ok (.deleteLines count) (.deleteLines count) s rfl (Screen.deleteLines_ok framed count)]
    exact confined_withLines (by simpa using confined_rowsUp framed.grid count false framed.regionFits)
  | insertChars count =>
    by_cases inside : s.cursor.row < s.rows
    next =>
      rw [confines_of_ok (.insertChars count) (.insertChars count) s rfl (insertChars_ok ⟨framed, inside⟩ count), right]
      exact confined_insert framed count inside
    next =>
      refine iff_of_true (confines_of_kept _ (.insertChars count) s rfl ?_) fun c _ _ _ within => absurd within inside
      exact insertChars_missing (by rw [framed.grid.lines]; exact Nat.le_of_not_lt inside) count
  | deleteChars count =>
    by_cases inside : s.cursor.row < s.rows
    next =>
      rw [confines_of_ok (.deleteChars count) (.deleteChars count) s rfl (deleteChars_ok ⟨framed, inside⟩ count), right]
      exact confined_delete framed count inside
    next =>
      refine iff_of_true (confines_of_kept _ (.deleteChars count) s rfl ?_) fun c _ _ _ within => absurd within inside
      exact deleteChars_missing (by rw [framed.grid.lines]; exact Nat.le_of_not_lt inside) count

def insetScreen : Screen := { Screen.new 3 2 with modes := { leftRightMargin := true }, scrollLeft := 1 }

theorem insetScreen_framed : Framed insetScreen :=
  ⟨sized_new 3 2, sized_new 3 2, rfl, rfl, by decide, by decide, by decide, by decide, by decide, by decide, rfl⟩

theorem confined_iff_scrollUp :
    Ensures AnyPanic ((MarginOp.scrollUp 1).exec insetScreen) (fun s' => insetScreen.ConfinedTo s'.grid) ↔
      (MarginOp.scrollUp 1).Level insetScreen :=
  confined_iff insetScreen_framed rfl (.scrollUp 1)

def marginsAfterA : Bytes := ascii ['a'] ++ 0x1B :: ascii ['[', '?', '6', '9', 'h'] ++ 0x1B :: ascii ['[', '2', ';', '3', 's']

/-- Inserting a line moves the `a` left of the margins. -/
theorem insertLines_crosses_margins :
    ∃ t, run Terminal.handle [.bytes marginsAfterA] (Terminal.new 3 2) = .ok t ∧ t.screen.hasLrMargins = true ∧
      ¬ Ensures AnyPanic ((MarginOp.insertLines 1).exec t.screen) fun s' => t.screen.ConfinedTo s'.grid := by
  rw [Terminal.handle_eq]
  refine ⟨_, rfl, rfl, fun confined => ?_⟩
  exact absurd (confined.1 0 0 rfl) (by decide)

end MarginOp

end Emux
