import Emux.Term.Edits
import Emux.Term.Performer

set_option autoImplicit false

/-!
# What the methods of the screen compute

On a framed screen with its cursor in some row no method accesses a list out of bounds: each
one is an edit of the grid, an addition to the damage list and a move of the cursor. The column
of the cursor need not be on the screen.
-/

namespace Emux

open Checked Grid

namespace Grid

/-! ## Grid operations as edits -/

/-! An access to a row below the last one is an access to the last one: `place` is what the caller asks
for and `r` the row that it gets. -/

theorem inside_clamped {rows r : Nat} (inside : r < rows) : min r (rows - 1) = r := by omega

theorem cellMut_ok {g : Grid} (sized : g.Sized) {place r c : Nat} (f : Cell -> Cell) (clamped : min place (g.rows - 1) = r)
    (row : r < g.rows) (col : c < g.cols) :
    g.cellMut place c f = .ok ((Edit.rows r (r + 1) (.cells c (c + 1) f)).apply g) := by
  obtain ⟨old, found⟩ := sized.row_at row
  rw [cellMut, clamped, Nat.min_eq_left (by omega),
    editCell_ok f found (by rw [sized.cells_at found]; exact col), set_eq_mapRange (Row.edit · _) found]
  simp only [modify_eq_mapRange]
  rfl

theorem flag_ok {g : Grid} (sized : g.Sized) {place r : Nat} (value : Bool) (clamped : min place (g.rows - 1) = r)
    (row : r < g.rows) : (g.rowMut place fun old => { old with flags := { continuation := value } }) =
      .ok ((Edit.rows r (r + 1) (.flag value)).apply g) := by
  rw [rowMut, clamped, modifyRow_ok _ (by rw [sized.lines]; exact row), modify_eq_mapRange]
  rfl

theorem insertCells_edit {g : Grid} (sized : g.Sized) {r : Nat} (col count bound : Nat) (row : r < g.rows) :
    g.insertCellsBounded r col count bound =
      .ok ((Edit.rows r (r + 1) (.insert col (min bound g.cols) count)).apply g) := by
  obtain ⟨old, found⟩ := sized.row_at row
  rw [insertCellsBounded_ok sized found, set_eq_mapRange (Row.edit · _) found]
  rfl

theorem deleteCells_edit {g : Grid} (sized : g.Sized) {r : Nat} (col count bound : Nat) (row : r < g.rows) :
    g.deleteCellsBounded r col count bound =
      .ok ((Edit.rows r (r + 1) (.delete col (min bound g.cols) count)).apply g) := by
  obtain ⟨old, found⟩ := sized.row_at row
  rw [deleteCellsBounded_ok sized found, set_eq_mapRange (Row.edit · _) found]
  rfl

theorem erase_beyond {g : Grid} (sized : g.Sized) {r left stop : Nat} (row : r < g.rows)
    (beyond : g.cols ≤ left) (_bound : stop ≤ g.cols) : (Edit.rows r (r + 1) (.erase left stop)).apply g = g := by
  obtain ⟨old, found⟩ := sized.row_at row
  have width := sized.cells_at found
  have noTrail : trails old.cells left = false := by
    simp [trails, List.getElem?_eq_none (show old.cells.length ≤ left by omega)]
  have none : blankSpan left stop old.cells = old.cells :=
    mapRange_beyond _ _ (by simp only [spanStart, noTrail]; simp; omega)
  have unchanged : (RowEdit.erase left stop).apply old = old := by
    simp only [RowEdit.apply, Row.edit, RowEdit.onCells, none]
  simp only [Edit.apply]
  rw [← set_eq_mapRange _ found, unchanged, set_same found]

theorem eraseChars_edit {g : Grid} (sized : g.Sized) {r : Nat} (col count : Nat) (row : r < g.rows) :
    g.eraseChars r col count =
      .ok ((Edit.rows r (r + 1) (.erase col (min (col + count) g.cols))).apply g) := by
  obtain ⟨old, found⟩ := sized.row_at row
  have width := sized.cells_at found
  by_cases inside : col < g.cols
  next =>
    rw [eraseChars_ok sized count found inside, set_eq_mapRange (Row.edit · _) found]
    rfl
  next =>
    rw [eraseChars, if_pos (by omega), erase_beyond sized row (by omega) (Nat.min_le_right ..)]

theorem eachCellRow_ok {g : Grid} {place r left right : Nat} {row : Row} (f : Cell -> Cell)
    (clamped : min place (g.rows - 1) = r) (found : g.lines[r]? = some row) (width : row.cells.length = g.cols)
    (cols : right ≤ g.cols) :
    (forRange left right g fun g c => g.cellMut place c f) =
      .ok { g with lines := g.lines.set r ((RowEdit.cells left right f).apply row) } := by
  have inside := (List.getElem?_eq_some_iff.mp found).1
  apply forRange_cells _ found
  intro cells c first last same old
  have target : (g.lines.set r { row with cells })[r]? = some { row with cells } := by simp [inside]
  rw [cellMut, clamped, Nat.min_eq_left (by simp only; omega), editCell_ok _ target (by simp only [same]; omega),
    List.set_set]
  rfl

theorem eachCell_ok {g : Grid} (sized : g.Sized) (top left bottom right : Nat) (f : Cell -> Cell)
    (rows : bottom ≤ g.rows) (cols : right ≤ g.cols) :
    (forRange top bottom g fun g r => forRange left right g fun g c => g.cellMut r c f) =
      .ok ((Edit.rows top bottom (.cells left right f)).apply g) := by
  -- One rectangle of cells, each changed by `f`.
  apply forRange_rows _ _ _ _ (sized.lines ▸ rows)
  intro lines r row low high length later found
  have here : lines[r]? = some row := (later r (Nat.le_refl r)).trans found
  exact eachCellRow_ok (g := { g with lines }) f (inside_clamped (Nat.lt_of_lt_of_le high rows)) here
    (sized.cells_at found) cols

/-! ## One row in focus -/

def focus (g : Grid) (r : Nat) (row : Row) (cells : List Cell) : Grid :=
  { g with lines := g.lines.set r { row with cells } }

theorem focus_self {g : Grid} {r : Nat} {row : Row} (found : g.lines[r]? = some row) :
    g.focus r row row.cells = g := by
  rw [focus, set_same found]

theorem focus_rows {g : Grid} {r : Nat} {row : Row} (found : g.lines[r]? = some row) (e : RowEdit)
    (cells : e.apply row = { row with cells := e.onCells row.cells }) :
    g.focus r row (e.onCells row.cells) = (Edit.rows r (r + 1) e).apply g := by
  rw [focus, ← cells, set_eq_mapRange _ found]
  rfl

variable {g : Grid} {r : Nat} {row : Row} {cells : List Cell}

theorem cell_focus {place c : Nat} {cell : Cell} (clamped : min place (g.rows - 1) = r) (inside : r < g.rows)
    (lines : g.lines.length = g.rows) (width : cells.length = g.cols) (found : cells[c]? = some cell) :
    (g.focus r row cells).cell place c = .ok cell := by
  have bound := (List.getElem?_eq_some_iff.mp found).1
  have rowMin : min place ((g.focus r row cells).rows - 1) = r := clamped
  have colMin : min c ((g.focus r row cells).cols - 1) = c := by simp only [focus]; omega
  have here : (g.focus r row cells).lines[r]? = some { row with cells } := by simp [focus, lines, inside]
  rw [Grid.cell, rowMin, colMin, cellAt_ok here found]

theorem cellMut_focus {place c : Nat} (f : Cell -> Cell) (clamped : min place (g.rows - 1) = r) (inside : r < g.rows)
    (lines : g.lines.length = g.rows) (width : cells.length = g.cols) (bound : c < g.cols) :
    (g.focus r row cells).cellMut place c f = .ok (g.focus r row (cells.modify c f)) := by
  have rowMin : min place ((g.focus r row cells).rows - 1) = r := clamped
  have colMin : min c ((g.focus r row cells).cols - 1) = c := by simp only [focus]; omega
  have here : (g.focus r row cells).lines[r]? = some { row with cells } := by simp [focus, lines, inside]
  rw [cellMut, rowMin, colMin, editCell_ok f here (by simp only; omega)]
  simp [focus, Row.edit]

theorem printCells_beyond {col : Nat} (width : Nat) (head tail : Cell) (beyond : cells.length ≤ col) :
    printCells col width head tail cells = cells := by
  have noLead (i : Nat) (far : cells.length ≤ i) : leads cells i = false := by
    simp [leads, List.getElem?_eq_none far]
  have noTrail : trails cells col = false := by simp [trails, List.getElem?_eq_none beyond]
  simp [printCells, noLead, noTrail, beyond, List.set_eq_of_length_le, show cells.length ≤ col + 1 by omega]

end Grid

namespace Screen

theorem onlyIf_focus {g : Grid} {place r c : Nat} {row : Row} {cells : List Cell} {condition test : Prop}
    [Decidable condition] [Decidable test] (f : Cell -> Cell) (clamped : min place (g.rows - 1) = r) (inside : r < g.rows)
    (lines : g.lines.length = g.rows) (size : cells.length = g.cols)
    (agree : condition ↔ test ∧ c < g.cols) :
    (onlyIf condition (g.focus r row cells) fun g => g.cellMut place c f) =
      .ok (g.focus r row (if test then cells.modify c f else cells)) := by
  by_cases holds : condition
  next => rw [onlyIf_true _ _ holds, if_pos (agree.mp holds).1, cellMut_focus f clamped inside lines size (agree.mp holds).2]
  next =>
    rw [onlyIf_false _ _ holds]
    split
    next tested =>
      have beyond : g.cols ≤ c := by
        by_contra bound
        exact holds (agree.mpr ⟨tested, by omega⟩)
      rw [List.modify_eq_self (by omega)]
    next => rfl

theorem leads_iff {cells : List Cell} {i : Nat} {cell : Cell} (found : cells[i]? = some cell) :
    leads cells i = true ↔ cell.width = 2 := by simp [leads, found]

theorem trails_iff {cells : List Cell} {i : Nat} {cell : Cell} (found : cells[i]? = some cell) :
    trails cells i = true ↔ cell.width = 0 := by simp [trails, found]

theorem printCells_focus {g : Grid} {place r : Nat} {row : Row} {cells : List Cell} {col : Nat} (width : Nat)
    (clamped : min place (g.rows - 1) = r) (inside : r < g.rows) (lines : g.lines.length = g.rows)
    (size : cells.length = g.cols) (bound : col < g.cols) (head tail : Cell) :
    (do
      let g ← clearFragments (g.focus r row cells) place col width
      let g ← onlyIf (col < g.cols) g fun g => g.cellMut place col fun _ => head
      onlyIf (width = 2 ∧ col + 1 < g.cols) g fun g => g.cellMut place (col + 1) fun _ => tail) =
      .ok (g.focus r row (printCells col width head tail cells)) := by
  have here : cells[col]? = some cells[col] := List.getElem?_eq_getElem (by omega)
  have sameCols (cells : List Cell) : (g.focus r row cells).cols = g.cols := rfl
  simp only [clearFragments, sameCols, onlyIf_true _ _ bound, cell_focus clamped inside lines size here, ok_bind]
  simp only [printCells]
  have first := @onlyIf_focus g place r (col + 1) row cells (cells[col].width = 2 ∧ col + 1 < g.cols)
    (leads cells col = true) _ _ padCell clamped inside lines size (by rw [leads_iff here])
  rw [first, ok_bind]
  have firstSize : (if leads cells col = true then cells.modify (col + 1) padCell else cells).length = g.cols := by
    split <;> simp [size]
  generalize (if leads cells col = true then cells.modify (col + 1) padCell else cells) = one at firstSize ⊢
  have second := @onlyIf_focus g place r (col - 1) row one (cells[col].width = 0 ∧ 0 < col)
    (0 < col ∧ trails cells col = true) _ _ (fun cell => if cell.width = 2 then padCell cell else cell) clamped inside lines
    firstSize (by rw [trails_iff here]; omega)
  rw [second, ok_bind]
  generalize repaired : (if 0 < col ∧ trails cells col = true then
    one.modify (col - 1) (fun cell => if cell.width = 2 then padCell cell else cell) else one) = two
  have secondSize : two.length = g.cols := by rw [← repaired]; split <;> simp [firstSize]
  have third : (onlyIf (width = 2 ∧ col + 1 < g.cols) (g.focus r row two) fun g => do
      let next ← g.cell place (col + 1)
      onlyIf (next.width = 2 ∧ col + 2 < g.cols) g fun g => g.cellMut place (col + 2) padCell) =
      .ok (g.focus r row (if width = 2 ∧ leads two (col + 1) = true then two.modify (col + 2) padCell else two)) := by
    by_cases wide : width = 2 ∧ col + 1 < g.cols
    next =>
      have next : two[col + 1]? = some two[col + 1] := List.getElem?_eq_getElem (by omega)
      rw [onlyIf_true _ _ wide, cell_focus clamped inside lines secondSize next, ok_bind]
      exact onlyIf_focus padCell clamped inside lines secondSize (by
        rw [leads_iff next]
        simp only [focus]
        tauto)
    next =>
      have missing : ¬ (width = 2 ∧ leads two (col + 1) = true) := by
        intro both
        have beyond : two[col + 1]? = none := List.getElem?_eq_none (by omega)
        simp [leads, beyond] at both
      rw [onlyIf_false _ _ wide, if_neg missing]
  simp only [sameCols] at third ⊢
  rw [third, ok_bind]
  generalize mended : (if width = 2 ∧ leads two (col + 1) = true then two.modify (col + 2) padCell else two) = three
  have thirdSize : three.length = g.cols := by rw [← mended]; split <;> simp [secondSize]
  rw [onlyIf_true _ _ (show col < (g.focus r row three).cols from bound), cellMut_focus _ clamped inside lines thirdSize bound,
    ok_bind]
  simp only [← List.set_eq_modify]
  have last := @onlyIf_focus g place r (col + 1) row (three.set col head) (width = 2 ∧ col + 1 < g.cols) (width = 2) _ _
    (fun _ => tail) clamped inside lines (by simp [thirdSize]) Iff.rfl
  simp only [← List.set_eq_modify] at last
  exact last

/-! ## Framed screens -/

structure Framed (s : Screen) : Prop where
  grid : s.grid.Sized
  altGrid : s.altGrid.Sized
  altCols : s.altGrid.cols = s.grid.cols
  altRows : s.altGrid.rows = s.grid.rows
  someCols : 0 < s.grid.cols
  someRows : 0 < s.grid.rows
  region : s.scrollTop < s.scrollBottom
  regionFits : s.scrollBottom ≤ s.grid.rows
  margin : s.scrollLeft < s.scrollRight
  marginFits : s.scrollRight ≤ s.grid.cols
  tabs : s.tabStops.length = s.grid.cols

structure Safe (s : Screen) : Prop extends Framed s where
  row : s.cursor.row < s.grid.rows

theorem framed_filled {g : Grid} (sized : g.Sized) (someCols : 0 < g.cols) (someRows : 0 < g.rows) (cursor : Cursor) :
    Framed { new g.cols g.rows with grid := g, cursor } :=
  ⟨sized, Grid.sized_new g.cols g.rows, rfl, rfl, someCols, someRows, someRows, Nat.le_refl g.rows, someCols,
    Nat.le_refl g.cols, by simp [new]⟩

def frame (s : Screen) : Grid × Grid × Nat × Nat × Nat × Nat × List Bool :=
  (s.grid, s.altGrid, s.scrollTop, s.scrollBottom, s.scrollLeft, s.scrollRight, s.tabStops)

theorem Framed.of_frame {s s' : Screen} (framed : Framed s) (same : s'.frame = s.frame) : Framed s' := by
  simp only [frame, Prod.mk.injEq] at same
  obtain ⟨grid, altGrid, top, bottom, left, right, tabs⟩ := same
  exact ⟨grid ▸ framed.grid, altGrid ▸ framed.altGrid, by rw [grid, altGrid, framed.altCols],
    by rw [grid, altGrid, framed.altRows], grid ▸ framed.someCols, grid ▸ framed.someRows,
    by rw [top, bottom]; exact framed.region, by rw [bottom, grid]; exact framed.regionFits,
    by rw [left, right]; exact framed.margin, by rw [right, grid]; exact framed.marginFits,
    by rw [tabs, grid, framed.tabs]⟩

theorem recordFullDamage_frame (s : Screen) : s.recordFullDamage.frame = s.frame := rfl

theorem Safe.of_frame {s s' : Screen} (safe : Safe s) (same : s'.frame = s.frame)
    (row : s'.cursor.row < s.grid.rows) : Safe s' := by
  refine ⟨safe.toFramed.of_frame same, ?_⟩
  rw [show s'.grid = s.grid from congrArg Prod.fst same]
  exact row

def edit (s : Screen) (e : Edit) : Screen := { s with grid := e.apply s.grid }

def tell (s : Screen) (regions : List DamageRegion) : Screen :=
  { s with damageList := s.damageList ++ regions }

theorem edit_grid (s : Screen) (e : Edit) : (s.edit e).grid = e.apply s.grid := rfl

@[simp] theorem edit_cols (s : Screen) (e : Edit) : (s.edit e).cols = s.cols := Edit.cols_apply e s.grid

@[simp] theorem edit_rows (s : Screen) (e : Edit) : (s.edit e).rows = s.rows := Edit.rows_apply e s.grid

theorem Framed.edit {s : Screen} (framed : Framed s) (e : Edit) : Framed (s.edit e) := by
  refine ⟨Edit.sized_apply framed.grid e, framed.altGrid, ?_, ?_, ?_, ?_, framed.region, ?_, framed.margin, ?_, ?_⟩
  all_goals simp only [Screen.edit, Edit.cols_apply, Edit.rows_apply]
  next => exact framed.altCols
  next => exact framed.altRows
  next => exact framed.someCols
  next => exact framed.someRows
  next => exact framed.regionFits
  next => exact framed.marginFits
  next => exact framed.tabs

theorem Safe.edit {s : Screen} (safe : Safe s) (e : Edit) : Safe (s.edit e) :=
  ⟨safe.toFramed.edit e, by simpa only [Screen.edit, Edit.rows_apply] using safe.row⟩

/-- Safety survives, so does a cursor within the columns, and the number of rows stays. -/
structure Keeps (s s' : Screen) : Prop where
  safe : Safe s'
  col : s.cursor.col < s.grid.cols -> s'.cursor.col < s'.grid.cols
  rows : s'.grid.rows = s.grid.rows

theorem Keeps.refl {s : Screen} (safe : Safe s) : Keeps s s := ⟨safe, id, rfl⟩

theorem Keeps.trans {s t u : Screen} (first : Keeps s t) (second : Keeps t u) : Keeps s u :=
  ⟨second.safe, fun inside => second.col (first.col inside), second.rows.trans first.rows⟩

theorem Keeps.of_frame {s s' : Screen} (safe : Safe s) (same : s'.frame = s.frame)
    (row : s'.cursor.row < s.grid.rows) (col : s.cursor.col < s.grid.cols -> s'.cursor.col < s.grid.cols) :
    Keeps s s' := by
  have grid : s'.grid = s.grid := congrArg Prod.fst same
  exact ⟨safe.of_frame same row, by rw [grid]; exact col, by rw [grid]⟩

theorem edit_keeps {s : Screen} (safe : Safe s) (e : Edit) : Keeps s (s.edit e) :=
  ⟨safe.edit e, by simpa only [Screen.edit, Edit.cols_apply] using id, Edit.rows_apply e s.grid⟩

theorem onGrid_edit {s : Screen} {f : Grid -> Fallible Grid} {e : Edit}
    (ran : f s.grid = .ok (e.apply s.grid)) : s.onGrid f = .ok (s.edit e) := by
  rw [onGrid, ran, ok_bind]
  rfl

theorem onGrid_error {s : Screen} {f : Grid -> Fallible Grid} {panic : Panic} (failed : f s.grid = .error panic) :
    s.onGrid f = .error panic := by
  rw [onGrid, failed]
  rfl

theorem onGrid_edits {s : Screen} {f : Grid -> Fallible Grid} {first second : Edit}
    (ran : f s.grid = .ok (second.apply (first.apply s.grid))) :
    s.onGrid f = .ok ((s.edit first).edit second) := by
  rw [onGrid, ran, ok_bind]
  rfl

def damageOf (s : Screen) (row colStart colEnd : Nat) : List DamageRegion :=
  if s.rows ≤ row then []
  else
    match s.damageMode with
    | .cell | .scroll => [{ row, colStart, colEnd := min colEnd s.cols }]
    | .row => [{ row, colStart := 0, colEnd := s.cols }]
    | .screen => [{ row := 0, colStart := 0, colEnd := s.cols }]

theorem recordDamage_eq (s : Screen) (row colStart colEnd : Nat) :
    s.recordDamage row colStart colEnd = s.tell (s.damageOf row colStart colEnd) := by
  unfold recordDamage damageOf tell
  split
  next => simp
  next => cases s.damageMode <;> rfl

def scrollRegions (s : Screen) : List DamageRegion :=
  (List.range' s.scrollTop (s.scrollBottom - s.scrollTop)).map s.fullRow

/-! ## Line feed -/

def scrollUpEdit (s : Screen) (bounded : Bool) (count : Nat) : Edit :=
  if bounded then .columnsUp s.scrollTop s.scrollBottom s.scrollLeft s.scrollRight count
  else .rowsUp s.scrollTop s.scrollBottom count true

def scrollDownEdit (s : Screen) (bounded : Bool) (count : Nat) : Edit :=
  if bounded then .columnsDown s.scrollTop s.scrollBottom s.scrollLeft s.scrollRight count
  else .rowsDown s.scrollTop s.scrollBottom count

theorem scrollGridUp_ok {s : Screen} (framed : Framed s) (bounded : Bool) (count : Nat) :
    s.scrollGridUp bounded count = .ok (s.edit (s.scrollUpEdit bounded count)) := by
  apply onGrid_edit
  cases bounded with
  | true => exact scrollUpRegion_ok framed.grid _ _ _ framed.regionFits
  | false => exact scrollUp_ok framed.grid _ framed.regionFits

theorem scrollGridDown_ok {s : Screen} (framed : Framed s) (bounded : Bool) (count : Nat) :
    s.scrollGridDown bounded count = .ok (s.edit (s.scrollDownEdit bounded count)) := by
  apply onGrid_edit
  cases bounded with
  | true => exact scrollDownRegion_ok framed.grid _ _ _ framed.regionFits
  | false => exact scrollDown_ok framed.grid _ framed.regionFits

def scrolledUp (s : Screen) (bounded : Bool) (count : Nat) : Screen :=
  (s.tell s.scrollRegions).edit (s.scrollUpEdit bounded count)

def nextLine (s : Screen) : Screen :=
  if s.cursor.row + 1 = s.scrollBottom then s.scrolledUp (s.hasLrMargins && s.cursorInLrMargins) 1
  else if s.cursor.row + 1 < s.rows then { s with cursor := { s.cursor with row := s.cursor.row + 1 } }
  else s

def fed (s : Screen) : Screen :=
  let s := ({ s with pendingWrap := false } : Screen).nextLine
  if s.modes.newline then { s with cursor := { s.cursor with col := 0 } } else s

theorem Framed.tell {s : Screen} (framed : Framed s) (regions : List DamageRegion) :
    Framed (s.tell regions) := framed.of_frame rfl

theorem Safe.tell {s : Screen} (safe : Safe s) (regions : List DamageRegion) : Safe (s.tell regions) :=
  safe.of_frame rfl safe.row

theorem tell_keeps {s : Screen} (safe : Safe s) (regions : List DamageRegion) : Keeps s (s.tell regions) :=
  ⟨safe.tell regions, id, rfl⟩

theorem advanceLine_ok {s : Screen} (framed : Framed s) : s.advanceLine = .ok s.nextLine := by
  unfold advanceLine nextLine
  split
  next => exact scrollGridUp_ok (framed.tell _) _ _
  next => split <;> rfl

theorem linefeed_ok {s : Screen} (framed : Framed s) : s.linefeed = .ok s.fed := by
  have unwrapped : Framed { s with pendingWrap := false } := framed.of_frame rfl
  rw [linefeed, advanceLine_ok unwrapped]
  rfl

theorem effectiveRight_pos {s : Screen} (framed : Framed s) : 0 < s.effectiveRight := by
  unfold effectiveRight
  split
  next => exact Nat.zero_lt_of_lt framed.margin
  next => exact framed.someCols

theorem effectiveRight_le {s : Screen} (framed : Framed s) : s.effectiveRight ≤ s.grid.cols := by
  unfold effectiveRight
  split
  next => exact framed.marginFits
  next => exact Nat.le_refl _

theorem nextLine_keeps {s : Screen} (safe : Safe s) : Keeps s s.nextLine := by
  unfold nextLine
  split
  next => exact (tell_keeps safe _).trans (edit_keeps (safe.tell _) _)
  next =>
    split
    next more => exact .of_frame safe rfl more id
    next => exact .refl safe

theorem fed_keeps {s : Screen} (safe : Safe s) : Keeps s s.fed := by
  have unwrapped : Keeps s { s with pendingWrap := false } := .of_frame safe rfl safe.row id
  have moved := unwrapped.trans (nextLine_keeps unwrapped.safe)
  unfold fed
  dsimp only
  split
  next => exact moved.trans (.of_frame moved.safe rfl moved.safe.row fun _ => moved.safe.someCols)
  next => exact moved

theorem carriageReturn_keeps {s : Screen} (safe : Safe s) : Keeps s s.carriageReturn := by
  unfold carriageReturn
  split
  next => exact .of_frame safe rfl safe.row fun _ => Nat.lt_of_lt_of_le safe.margin safe.marginFits
  next => exact .of_frame safe rfl safe.row fun _ => safe.someCols

/-! ## Printing -/

def editLine (s : Screen) (e : RowEdit) : Screen := s.edit (.rows s.cursor.row (s.cursor.row + 1) e)

theorem editLine_keeps {s : Screen} (safe : Safe s) (e : RowEdit) : Keeps s (s.editLine e) := edit_keeps safe _

theorem clamped_inside {s : Screen} (framed : Framed s) {r : Nat} (clamped : min s.cursor.row (s.grid.rows - 1) = r) :
    r < s.grid.rows := by
  have some := framed.someRows
  omega

theorem setContinuation_at {s : Screen} (framed : Framed s) {r : Nat} (clamped : min s.cursor.row (s.grid.rows - 1) = r)
    (value : Bool) : s.setContinuation value = .ok (s.edit (.rows r (r + 1) (.flag value))) :=
  onGrid_edit (flag_ok framed.grid value clamped (clamped_inside framed clamped))

theorem setContinuation_ok {s : Screen} (safe : Safe s) (value : Bool) :
    s.setContinuation value = .ok (s.editLine (.flag value)) :=
  setContinuation_at safe.toFramed (inside_clamped safe.row) value

def wrapped (s : Screen) : Screen :=
  if s.pendingWrap then
    if s.modes.autowrap then
      { (s.editLine (.flag false)).carriageReturn.fed.editLine (.flag true) with pendingWrap := false }
    else { s with cursor := { s.cursor with col := s.effectiveRight - 1 }, pendingWrap := false }
  else s

theorem wrapPending_ok {s : Screen} (safe : Safe s) : s.wrapPending = .ok s.wrapped := by
  unfold wrapPending wrapped
  split
  next =>
    split
    next =>
      have ended := carriageReturn_keeps (editLine_keeps safe (.flag false)).safe
      rw [setContinuation_ok safe, ok_bind, linefeed_ok ended.safe.toFramed, ok_bind,
        setContinuation_ok (fed_keeps ended.safe).safe, ok_bind]
    next => rw [sub_ok (effectiveRight_pos safe.toFramed), ok_bind]
  next => rfl

def padded (s : Screen) : Screen :=
  if s.cursor.col < s.cols then s.editLine (.cells s.cursor.col (s.cursor.col + 1) padCell) else s

def wideWrapped (s : Screen) : Screen :=
  if s.modes.autowrap then s.padded.carriageReturn.fed.editLine (.flag true)
  else
    let col := s.effectiveRight - 2
    { s with cursor := { s.cursor with col := if s.cols ≤ col then 0 else col } }

def fitted (s : Screen) (width : Nat) : Screen :=
  if width = 2 ∧ s.effectiveRight - 1 ≤ s.cursor.col then s.wideWrapped else s

theorem padded_keeps {s : Screen} (safe : Safe s) : Keeps s s.padded := by
  unfold padded
  split
  next => exact editLine_keeps safe _
  next => exact .refl safe

theorem padCursor_at {s : Screen} (framed : Framed s) {r : Nat} (clamped : min s.cursor.row (s.grid.rows - 1) = r) :
    (s.onGrid fun g => onlyIf (s.cursor.col < s.cols) g fun g => g.cellMut s.cursor.row s.cursor.col padCell) =
      .ok (if s.cursor.col < s.cols then s.edit (.rows r (r + 1) (.cells s.cursor.col (s.cursor.col + 1) padCell)) else s) := by
  split
  next inside =>
    apply onGrid_edit
    rw [onlyIf_true _ _ inside]
    exact cellMut_ok framed.grid padCell clamped (clamped_inside framed clamped) inside
  next outside => simp only [onGrid, onlyIf_false _ _ outside, ok_bind]

theorem wrapWide_ok {s : Screen} (safe : Safe s) : s.wrapWide = .ok s.wideWrapped := by
  unfold wrapWide wideWrapped
  split
  next =>
    have pad : (s.onGrid fun g => onlyIf (s.cursor.col < s.cols) g fun g =>
        g.cellMut s.cursor.row s.cursor.col padCell) = .ok s.padded :=
      padCursor_at safe.toFramed (inside_clamped safe.row)
    have ended := carriageReturn_keeps (padded_keeps safe).safe
    rw [pad, ok_bind, linefeed_ok ended.safe.toFramed, ok_bind, setContinuation_ok (fed_keeps ended.safe).safe]
  next => rfl

theorem fitWide_ok {s : Screen} (safe : Safe s) (width : Nat) : s.fitWide width = .ok (s.fitted width) := by
  unfold fitWide fitted
  by_cases wide : width = 2
  next =>
    rw [if_pos wide, sub_ok (effectiveRight_pos safe.toFramed), ok_bind, onlyIf, wrapWide_ok safe]
    simp only [wide, true_and]
    split <;> rfl
  next => rw [if_neg wide, if_neg (fun both => wide both.1)]

def shifted (s : Screen) (width : Nat) : Screen :=
  if s.modes.insert then s.editLine (.insert s.cursor.col (min s.effectiveRight s.grid.cols) width) else s

theorem shiftForInsert_ok {s : Screen} (safe : Safe s) (width : Nat) :
    s.shiftForInsert width = .ok (s.shifted width) := by
  unfold shiftForInsert shifted
  split
  next => exact onGrid_edit (insertCells_edit safe.grid _ _ _ safe.row)
  next => rfl

def advanced (s : Screen) (newCol : Nat) : Screen :=
  if s.effectiveRight ≤ newCol then
    { s with
      cursor := { s.cursor with col := s.effectiveRight - 1 }
      pendingWrap := s.modes.autowrap || s.pendingWrap }
  else { s with cursor := { s.cursor with col := newCol } }

theorem advanceTo_ok {s : Screen} (framed : Framed s) (newCol : Nat) :
    s.advanceTo newCol = .ok (s.advanced newCol) := by
  unfold advanceTo advanced
  split
  next => rw [sub_ok (effectiveRight_pos framed), ok_bind]
  next => rfl

def printEdit (s : Screen) (c : Char) (width : Nat) : RowEdit :=
  .print s.cursor.col width (s.penCell c width) (s.penCell ' ' 0)

def put (s : Screen) (c : Char) (width : Nat) : Screen :=
  ((s.editLine (s.printEdit c width)).tell
    (s.damageOf s.cursor.row s.cursor.col (s.cursor.col + width))).advanced (s.cursor.col + width)

theorem print_edit {g : Grid} (sized : g.Sized) {place r : Nat} (col width : Nat) (head tail : Cell)
    (clamped : min place (g.rows - 1) = r) (inside : r < g.rows) :
    (do
      let g ← clearFragments g place col width
      let g ← onlyIf (col < g.cols) g fun g => g.cellMut place col fun _ => head
      onlyIf (width = 2 ∧ col + 1 < g.cols) g fun g => g.cellMut place (col + 1) fun _ => tail) =
      .ok ((Edit.rows r (r + 1) (.print col width head tail)).apply g) := by
  obtain ⟨row, found⟩ := sized.row_at inside
  have size := sized.cells_at found
  rw [← focus_rows found _ rfl]
  by_cases bound : col < g.cols
  next =>
    have printed := @printCells_focus g place r row row.cells col width clamped inside sized.lines size bound head tail
    rw [focus_self found] at printed
    exact printed
  next =>
    have same : printCells col width head tail row.cells = row.cells := printCells_beyond width head tail (by omega)
    have whole : g.focus r row row.cells = g := focus_self found
    simp only [RowEdit.onCells, same, whole, clearFragments]
    rw [onlyIf_false _ _ bound, ok_bind, onlyIf_false _ _ (by omega), ok_bind, onlyIf_false _ _ bound, ok_bind,
      onlyIf_false _ _ (by omega)]

theorem putChar_at {s : Screen} (framed : Framed s) {r : Nat} (clamped : min s.cursor.row (s.grid.rows - 1) = r) (c : Char)
    (width : Nat) : s.putChar c width = .ok (((s.edit (.rows r (r + 1) (s.printEdit c width))).tell
      (s.damageOf s.cursor.row s.cursor.col (s.cursor.col + width))).advanced (s.cursor.col + width)) := by
  have printed : (s.onGrid fun g => do
      let g ← clearFragments g s.cursor.row s.cursor.col width
      let g ← onlyIf (s.cursor.col < g.cols) g fun g =>
        g.cellMut s.cursor.row s.cursor.col fun _ => s.penCell c width
      onlyIf (width = 2 ∧ s.cursor.col + 1 < g.cols) g fun g =>
        g.cellMut s.cursor.row (s.cursor.col + 1) fun _ => s.penCell ' ' 0) =
      .ok (s.edit (.rows r (r + 1) (s.printEdit c width))) :=
    onGrid_edit (print_edit framed.grid s.cursor.col width (s.penCell c width) (s.penCell ' ' 0) clamped
      (clamped_inside framed clamped))
  have same : (s.edit (.rows r (r + 1) (s.printEdit c width))).damageOf = s.damageOf := by
    funext row colStart colEnd
    simp only [damageOf, edit_rows, edit_cols]
    rfl
  simp only [putChar]
  rw [printed, ok_bind, recordDamage_eq, same]
  exact advanceTo_ok ((framed.edit _).tell _) _

theorem putChar_ok {s : Screen} (safe : Safe s) (c : Char) (width : Nat) :
    s.putChar c width = .ok (s.put c width) := putChar_at safe.toFramed (inside_clamped safe.row) c width

/-! ## Erasing -/

def eraseSpan (selective : Bool) (left stop : Nat) : RowEdit :=
  if selective then .cells left stop resetUnprotected else .erase left stop

def eraseWhole (selective : Bool) (cols : Nat) : RowEdit :=
  if selective then .cells 0 cols resetUnprotected else .reset

theorem clearRegion_edit {g : Grid} (sized : g.Sized) {r left right : Nat} (row : r < g.rows) (some : 0 < g.cols)
    (order : left < g.cols -> left ≤ right) (outside : g.cols ≤ left -> g.cols ≤ right + 1) :
    g.clearRegion r left r right =
      .ok ((Edit.rows r (r + 1) (.erase left (min (right + 1) g.cols))).apply g) := by
  have clamped : g.clearRegion r left r right = g.clearRegion r left r (min right (g.cols - 1)) := by
    simp only [clearRegion, Nat.min_assoc, Nat.min_self]
  rw [clamped]
  by_cases inside : left < g.cols
  next =>
    rw [clearRegion_ok sized (by omega) (by omega) row, show min right (g.cols - 1) + 1 = min (right + 1) g.cols by omega]
    rfl
  next =>
    rw [erase_beyond sized row (by omega) (Nat.min_le_right ..)]
    exact clearRegion_outside (by omega) (by omega) row

theorem clearRegionImpl_ok {g : Grid} (sized : g.Sized) {r left right : Nat} (selective : Bool) (row : r < g.rows)
    (some : 0 < g.cols) (order : left < g.cols -> left ≤ right) (outside : g.cols ≤ left -> g.cols ≤ right + 1) :
    clearRegionImpl g r left r right selective =
      .ok ((Edit.rows r (r + 1) (eraseSpan selective left (min (right + 1) g.cols))).apply g) := by
  cases selective with
  | false => exact clearRegion_edit sized row some order outside
  | true =>
    have bottom : min r (g.rows - 1) + 1 = r + 1 := by omega
    have stop : min right (g.cols - 1) + 1 = min (right + 1) g.cols := by omega
    simp only [clearRegionImpl, if_true, bottom, stop]
    exact eachCell_ok sized r left (r + 1) _ _ row (Nat.min_le_right ..)

theorem clearRowImpl_ok {g : Grid} {r : Nat} {row : Row} (selective : Bool) (found : g.lines[r]? = some row)
    (width : row.cells.length = g.cols) (lines : g.lines.length = g.rows) :
    clearRowImpl g r selective = .ok { g with lines := g.lines.set r ((eraseWhole selective g.cols).apply row) } := by
  cases selective with
  | false =>
    have inside := (List.getElem?_eq_some_iff.mp found).1
    rw [clearRowImpl, if_neg Bool.false_ne_true, clearRow_ok inside, modify_eq_mapRange, ← set_eq_mapRange _ found]
    rfl
  | true =>
    have inside : r < g.rows := lines ▸ (List.getElem?_eq_some_iff.mp found).1
    exact eachCellRow_ok _ (inside_clamped inside) found width (Nat.le_refl _)

theorem clearRows_ok {g : Grid} (sized : g.Sized) (selective : Bool) {top bottom : Nat} (bound : bottom ≤ g.rows) :
    (forRange top bottom g fun g r => clearRowImpl g r selective) =
      .ok ((Edit.rows top bottom (eraseWhole selective g.cols)).apply g) := by
  apply forRange_rows _ _ _ _ (sized.lines ▸ bound)
  intro lines r row low high length later found
  have here : lines[r]? = some row := (later r (Nat.le_refl r)).trans found
  exact clearRowImpl_ok (g := { g with lines }) selective here (sized.cells_at found) (length.trans sized.lines)

def rowsDamage (s : Screen) (top bottom : Nat) : List DamageRegion :=
  (List.range' top (bottom - top)).flatMap fun r => s.damageOf r 0 s.cols

theorem tell_tell (s : Screen) (first second : List DamageRegion) :
    (s.tell first).tell second = s.tell (first ++ second) := by
  simp [tell]

theorem rowsDamage_succ (s : Screen) {top i : Nat} (le : top ≤ i) :
    s.rowsDamage top (i + 1) = s.rowsDamage top i ++ s.damageOf i 0 s.cols := by
  have last : top + (i - top) = i := by omega
  simp only [rowsDamage]
  rw [Nat.sub_add_comm le, List.range'_concat, List.flatMap_append, Nat.one_mul, last]
  simp

theorem rowsDamage_empty (s : Screen) {top bottom : Nat} (empty : bottom ≤ top) : s.rowsDamage top bottom = [] := by
  simp [rowsDamage, Nat.sub_eq_zero_of_le empty]

theorem tell_nil (s : Screen) : s.tell [] = s := by simp [tell]

theorem recordRows_ok (s : Screen) (top bottom : Nat) :
    forRange top bottom s recordRow = .ok (s.tell (s.rowsDamage top bottom)) := by
  by_cases le : top ≤ bottom
  next =>
    have loop := forRange_eq recordRow (fun i => s.tell (s.rowsDamage top i)) le fun i low high => by
      rw [recordRow, recordDamage_eq, tell_tell]
      exact congrArg (fun ds => Except.ok (s.tell ds)) (s.rowsDamage_succ low).symm
    rw [rowsDamage_empty s (Nat.le_refl top), tell_nil] at loop
    exact loop
  next =>
    rw [forRange_empty _ _ (by omega), rowsDamage_empty s (by omega), tell_nil]

theorem eraseRow_ok {s : Screen} (sized : s.grid.Sized) (selective : Bool) {r : Nat} (inside : r < s.grid.rows) :
    eraseRow selective s r =
      .ok ((s.tell (s.damageOf r 0 s.cols)).edit (.rows r (r + 1) (eraseWhole selective s.cols))) := by
  rw [eraseRow, recordDamage_eq]
  apply onGrid_edit
  obtain ⟨row, found⟩ := sized.row_at inside
  have cleared := clearRowImpl_ok selective found (sized.cells_at found) sized.lines
  rw [set_eq_mapRange _ found] at cleared
  exact cleared

theorem eraseRow_below {s : Screen} {r : Nat} (below : s.grid.lines.length ≤ r) : eraseRow false s r = .error .index := by
  -- Erasing a row that the grid does not have.
  have fails : s.grid.clearRow r = .error .index := by
    simp [Grid.clearRow, Grid.modifyRow, Checked.modify, show ¬ r < s.grid.lines.length by omega]
  simp only [eraseRow, recordDamage_eq]
  exact onGrid_error fails

theorem edit_tell_edit (s : Screen) (first second whole : Edit) (d e : List DamageRegion)
    (joined : second.apply (first.apply s.grid) = whole.apply s.grid) :
    (((s.tell d).edit first).tell e).edit second = (s.tell (d ++ e)).edit whole := by
  simp only [tell, edit, List.append_assoc, joined]

theorem eraseRows_ok {s : Screen} (sized : s.grid.Sized) (selective : Bool) {top bottom : Nat}
    (bound : bottom ≤ s.grid.rows) :
    forRange top bottom s (eraseRow selective) =
      .ok ((s.tell (s.rowsDamage top bottom)).edit (.rows top bottom (eraseWhole selective s.cols))) := by
  have none (i : Nat) (empty : i ≤ top) :
      (s.tell (s.rowsDamage top i)).edit (.rows top i (eraseWhole selective s.cols)) = s := by
    rw [rowsDamage_empty s empty, tell_nil]
    simp only [edit, Edit.apply, mapRange_empty _ _ empty]
  by_cases le : top ≤ bottom
  next =>
    have loop := forRange_eq (eraseRow selective)
      (fun i => (s.tell (s.rowsDamage top i)).edit (.rows top i (eraseWhole selective s.cols))) le (by
      intro i low high
      have still : ((s.tell (s.rowsDamage top i)).edit (.rows top i (eraseWhole selective s.cols))).grid.Sized :=
        Edit.sized_apply sized (.rows top i (eraseWhole selective s.cols))
      rw [eraseRow_ok still selective (Nat.lt_of_lt_of_le high bound), rowsDamage_succ s low]
      refine congrArg Except.ok (edit_tell_edit s _ _ _ _ _ ?_)
      simp only [Edit.apply]
      congr 1
      exact mapRange_mapRange _ _ low (Nat.le_succ i))
    simp only [none top (Nat.le_refl top)] at loop
    exact loop
  next => rw [forRange_empty _ _ (by omega), none bottom (by omega)]

theorem clearToEnd_ok {s : Screen} (framed : Framed s) {r : Nat} (col : Nat) (selective : Bool)
    (row : r < s.grid.rows) :
    clearRegionImpl s.grid r col r (s.grid.cols - 1) selective =
      .ok ((Edit.rows r (r + 1) (eraseSpan selective col s.cols)).apply s.grid) := by
  -- From a column to the end of the row.
  have some := framed.someCols
  have stop : min (s.grid.cols - 1 + 1) s.grid.cols = s.cols := by rw [cols]; omega
  have cleared := @clearRegionImpl_ok _ framed.grid r col (s.grid.cols - 1) selective row some (by omega) (by omega)
  rw [stop] at cleared
  exact cleared

def afterEraseDisplay (s : Screen) (mode : EraseDisplay) (selective : Bool) : Screen :=
  let row := s.cursor.row
  let col := s.cursor.col
  match mode with
  | .below =>
    (((s.tell (s.damageOf row col s.cols)).tell (s.rowsDamage (row + 1) s.rows)).edit
      (.rows row (row + 1) (eraseSpan selective col s.cols))).edit
      (.rows (row + 1) s.rows (eraseWhole selective s.cols))
  | .above =>
    (((s.tell (s.rowsDamage 0 row)).edit (.rows 0 row (eraseWhole selective s.cols))).tell
      (s.damageOf row 0 (col + 1))).edit (.rows row (row + 1) (eraseSpan selective 0 (min (col + 1) s.cols)))
  | .all => (s.tell (s.rowsDamage 0 s.rows)).edit (.rows 0 s.rows (eraseWhole selective s.cols))
  | .scrollback => s.edit .clearHistory

theorem eraseDisplay_ok {s : Screen} (safe : Safe s) (mode : EraseDisplay) (selective : Bool) :
    s.eraseDisplay mode selective = .ok (s.afterEraseDisplay mode selective) := by
  have row := safe.row
  cases mode with
  | below =>
    simp only [eraseDisplay, recordDamage_eq, recordRows_ok, ok_bind]
    apply onGrid_edits
    have first := clearToEnd_ok safe.toFramed s.cursor.col selective row
    have second := @clearRows_ok _ (Edit.sized_apply safe.grid
      (.rows s.cursor.row (s.cursor.row + 1) (eraseSpan selective s.cursor.col s.cols))) selective
      (s.cursor.row + 1) s.grid.rows (Nat.le_refl _)
    exact (bind_ok_iff _ _ _).mpr ⟨_, first, second⟩
  | above =>
    simp only [eraseDisplay, eraseRows_ok safe.grid selective (Nat.le_of_lt row), ok_bind, recordDamage_eq]
    apply onGrid_edit
    exact clearRegionImpl_ok (Edit.sized_apply safe.grid _) selective (by simpa using row) (by simpa using safe.someCols)
      (fun _ => Nat.zero_le _) (by have := safe.someCols; simp; omega)
  | all => exact eraseRows_ok safe.grid selective (Nat.le_refl _)
  | scrollback => rfl

def afterEraseLine (s : Screen) (mode : EraseLine) (selective : Bool) : Screen :=
  let row := s.cursor.row
  let col := s.cursor.col
  match mode with
  | .toRight => (s.tell (s.damageOf row col s.cols)).editLine (eraseSpan selective col s.cols)
  | .toLeft => (s.tell (s.damageOf row 0 (col + 1))).editLine (eraseSpan selective 0 (min (col + 1) s.cols))
  | .all => (s.tell (s.damageOf row 0 s.cols)).editLine (eraseWhole selective s.cols)

theorem eraseLine_ok {s : Screen} (safe : Safe s) (mode : EraseLine) (selective : Bool) :
    s.eraseLine mode selective = .ok (s.afterEraseLine mode selective) := by
  have some := safe.someCols
  cases mode with
  | toRight =>
    simp only [eraseLine, recordDamage_eq]
    exact onGrid_edit (clearToEnd_ok safe.toFramed s.cursor.col selective safe.row)
  | toLeft =>
    simp only [eraseLine, recordDamage_eq]
    exact onGrid_edit (clearRegionImpl_ok safe.grid selective safe.row some (fun _ => Nat.zero_le _) (by omega))
  | all => exact eraseRow_ok safe.grid selective safe.row

def afterEraseChars (s : Screen) (count : Nat) : Screen :=
  let row := s.cursor.row
  let col := s.cursor.col
  { (s.tell (s.damageOf row col (min (col + count) s.cols))).editLine (.erase col (min (col + count) s.cols)) with
    pendingWrap := false }

theorem eraseChars_ok {s : Screen} (safe : Safe s) (count : Nat) :
    s.eraseChars count = .ok (s.afterEraseChars count) := by
  have erased := @onGrid_edit (s.tell (s.damageOf s.cursor.row s.cursor.col (min (s.cursor.col + count) s.cols)))
    (fun g => g.eraseChars s.cursor.row s.cursor.col count) _ (eraseChars_edit safe.grid s.cursor.col count safe.row)
  rw [eraseChars, recordDamage_eq, erased]
  rfl

/-! ## Scrolling, inserting and deleting -/

def reversed (s : Screen) : Screen :=
  if s.cursor.row = s.scrollTop then
    { s.edit (s.scrollDownEdit (s.hasLrMargins && s.cursorInLrMargins) 1) with pendingWrap := false }
  else { s with cursor := { s.cursor with row := s.cursor.row - 1 }, pendingWrap := false }

theorem reverseIndex_ok {s : Screen} (framed : Framed s) : s.reverseIndex = .ok s.reversed := by
  unfold reverseIndex reversed
  split
  next => rw [scrollGridDown_ok framed, ok_bind]
  next => rfl

theorem scrollUp_ok {s : Screen} (framed : Framed s) (count : Nat) :
    s.scrollUp count = .ok (s.scrolledUp s.hasLrMargins count) :=
  scrollGridUp_ok (framed.tell s.scrollRegions) s.hasLrMargins count

def scrolledDown (s : Screen) (count : Nat) : Screen :=
  (s.tell s.scrollRegions).edit (s.scrollDownEdit s.hasLrMargins count)

theorem scrollDown_ok {s : Screen} (framed : Framed s) (count : Nat) :
    s.scrollDown count = .ok (s.scrolledDown count) :=
  scrollGridDown_ok (framed.tell s.scrollRegions) s.hasLrMargins count

def withLines (s : Screen) (e : Edit) : Screen :=
  let s := if s.cursorInRegion then s.edit e else s
  { s with cursor := { s.cursor with col := 0 }, pendingWrap := false }

theorem cursorInRegion_iff (s : Screen) :
    s.cursorInRegion = true ↔ s.scrollTop ≤ s.cursor.row ∧ s.cursor.row < s.scrollBottom := by
  simp [cursorInRegion]

theorem withLines_ok {s : Screen} {f : Grid -> Fallible Grid} {e : Edit}
    (ran : s.scrollTop ≤ s.cursor.row -> s.cursor.row < s.scrollBottom -> f s.grid = .ok (e.apply s.grid)) :
    (do
      let s ← s.onGrid fun g => onlyIf (s.cursorInRegion = true) g f
      .ok { s with cursor := { s.cursor with col := 0 }, pendingWrap := false }) = (.ok (s.withLines e) : Fallible Screen) := by
  unfold withLines
  by_cases inside : s.cursorInRegion = true
  next =>
    obtain ⟨low, high⟩ := s.cursorInRegion_iff.mp inside
    have moved := @onGrid_edit s (fun g => onlyIf (s.cursorInRegion = true) g f) e
      (by rw [onlyIf_true _ _ inside]; exact ran low high)
    rw [moved, ok_bind, if_pos inside]
  next =>
    simp only [onGrid, onlyIf_false _ _ inside, ok_bind]
    rw [if_neg inside]

theorem insertLines_ok {s : Screen} (framed : Framed s) (count : Nat) :
    s.insertLines count = .ok (s.withLines (.rowsDown s.cursor.row s.scrollBottom count)) :=
  withLines_ok fun low high => Grid.insertLines_ok framed.grid count low high framed.regionFits

theorem deleteLines_ok {s : Screen} (framed : Framed s) (count : Nat) :
    s.deleteLines count = .ok (s.withLines (.rowsUp s.cursor.row s.scrollBottom count false)) :=
  withLines_ok fun low high => Grid.deleteLines_ok framed.grid count low high framed.regionFits

def withChars (s : Screen) (e : RowEdit) : Screen :=
  { (s.tell (s.damageOf s.cursor.row s.cursor.col s.effectiveRight)).editLine e with pendingWrap := false }

theorem withChars_ok {s : Screen} {f : Grid -> Fallible Grid} {e : RowEdit}
    (ran : f s.grid = .ok ((Edit.rows s.cursor.row (s.cursor.row + 1) e).apply s.grid)) :
    (do
      let s ← (s.recordDamage s.cursor.row s.cursor.col s.effectiveRight).onGrid f
      .ok { s with pendingWrap := false }) = (.ok (s.withChars e) : Fallible Screen) := by
  have shifted := @onGrid_edit (s.tell (s.damageOf s.cursor.row s.cursor.col s.effectiveRight)) f _ ran
  rw [recordDamage_eq, shifted]
  rfl

theorem insertChars_ok {s : Screen} (safe : Safe s) (count : Nat) :
    s.insertChars count = .ok (s.withChars (.insert s.cursor.col (min s.effectiveRight s.grid.cols) count)) :=
  withChars_ok (insertCells_edit safe.grid s.cursor.col count s.effectiveRight safe.row)

theorem deleteChars_ok {s : Screen} (safe : Safe s) (count : Nat) :
    s.deleteChars count = .ok (s.withChars (.delete s.cursor.col (min s.effectiveRight s.grid.cols) count)) :=
  withChars_ok (deleteCells_edit safe.grid s.cursor.col count s.effectiveRight safe.row)

/-! ## Rectangles -/

theorem eachCell_edit {s : Screen} (framed : Framed s) (top left : Nat) {bottom right : Nat} (f : Cell -> Cell)
    (rows : bottom ≤ s.rows) (cols : right ≤ s.cols) :
    s.eachCell top left bottom right f = .ok (s.edit (.rows top bottom (.cells left right f))) :=
  onGrid_edit (eachCell_ok framed.grid top left bottom right f rows cols)

theorem readRect_ok {g : Grid} (sized : g.Sized) {top left bottom right : Nat} (tall : top ≤ bottom)
    (wide : left ≤ right) (rows : bottom ≤ g.rows) (cols : right ≤ g.cols) :
    readRect g top left bottom right =
      .ok (((g.lines.take bottom).drop top).flatMap fun row => (row.cells.take right).drop left) := by
  have loop := forRange_eq (fun (buf : List Cell) r => forRange left right buf fun buf c =>
      if r < g.rows ∧ c < g.cols then do
        let cell ← g.cell r c
        .ok (buf ++ [cell])
      else .ok (buf ++ [.blank]))
    (fun i => ((g.lines.take i).drop top).flatMap fun row => (row.cells.take right).drop left) tall (by
    intro r low high
    obtain ⟨row, found⟩ := sized.row_at (show r < g.rows by omega)
    have size := sized.cells_at found
    have bound := (List.getElem?_eq_some_iff.mp found).1
    have inner (buf : List Cell) := forRange_eq (fun (buf : List Cell) c =>
        if r < g.rows ∧ c < g.cols then do
          let cell ← g.cell r c
          .ok (buf ++ [cell])
        else .ok (buf ++ [.blank]))
      (fun j => buf ++ (row.cells.take j).drop left) wide (by
      intro c first last
      have here : row.cells[c]? = some row.cells[c] := List.getElem?_eq_getElem (by omega)
      have read := @cell_focus g r row row.cells r c _ (by omega) (by omega) sized.lines size here
      rw [focus_self found] at read
      rw [if_pos ⟨by omega, by omega⟩, read, ok_bind, List.take_succ_eq_append_getElem (by omega),
        List.drop_append_of_le_length (by simp; omega), List.append_assoc])
    have whole := inner (((g.lines.take r).drop top).flatMap fun row => (row.cells.take right).drop left)
    have nothing : (row.cells.take left).drop left = [] := by simp
    rw [nothing, List.append_nil] at whole
    rw [whole, List.take_succ_eq_append_getElem bound, List.drop_append_of_le_length (by simp; omega),
      List.flatMap_append, (List.getElem?_eq_some_iff.mp found).2]
    simp)
  have nothing : (g.lines.take top).drop top = [] := by simp
  simpa [readRect, nothing] using loop

theorem pasteRow_ok {g : Grid} {buf : List Cell} {r left width start : Nat} {row : Row} (value : Nat -> Cell)
    (lines : g.lines.length = g.rows) (size : row.cells.length = g.cols) (found : g.lines[r]? = some row)
    (read : ∀ dc, dc < width -> buf[start + dc]? = some (value dc)) :
    (forRange 0 width g fun g dc => onlyIf (r < g.rows ∧ left + dc < g.cols) g fun g => do
      let cell ← get buf (start + dc)
      g.cellMut r (left + dc) fun _ => cell) =
      .ok (g.focus r row (mapRange row.cells left (left + width) fun c _ => value (c - left))) := by
  -- One row of a paste.
  have inside : r < g.rows := lines ▸ (List.getElem?_eq_some_iff.mp found).1
  have loop := forRange_eq (fun (g : Grid) dc => onlyIf (r < g.rows ∧ left + dc < g.cols) g fun g => do
      let cell ← get buf (start + dc)
      g.cellMut r (left + dc) fun _ => cell)
    (fun j => g.focus r row (mapRange row.cells left (left + j) fun c _ => value (c - left))) (Nat.zero_le width) (by
    intro dc _ last
    have more : mapRange row.cells left (left + (dc + 1)) (fun c _ => value (c - left)) =
        (mapRange row.cells left (left + dc) fun c _ => value (c - left)).modify (left + dc) fun _ => value dc := by
      rw [← Nat.add_assoc, modify_eq_mapRange, ← mapRange_mapRange _ _ (Nat.le_add_right left dc) (Nat.le_succ _)]
      apply mapRange_congr
      intro i x low high _
      rw [show i - left = dc by omega]
    by_cases bound : left + dc < g.cols
    next =>
      rw [onlyIf_true _ _ ⟨inside, bound⟩, get_ok (read dc last), ok_bind,
        cellMut_focus _ (inside_clamped inside) inside lines (by rw [length_mapRange, size]) bound, more]
    next =>
      rw [onlyIf_false _ _ (fun both => bound both.2), more, List.modify_eq_self (by rw [length_mapRange]; omega)])
  rw [Nat.add_zero, mapRange_empty _ _ (Nat.le_refl left), focus_self found] at loop
  exact loop

theorem pasteRect_ok {g : Grid} (sized : g.Sized) {buf : List Cell} {top left height width : Nat}
    (value : Nat -> Nat -> Cell)
    (read : ∀ dr dc, dr < height -> dc < width -> buf[dr * width + dc]? = some (value dr dc)) :
    pasteRect g buf top left height width =
      .ok { g with
        lines := mapRange g.lines top (top + height) fun r row => row.edit fun cells =>
          mapRange cells left (left + width) fun c _ => value (r - top) (c - left) } := by
  -- After `i` rows of the buffer the first `i` rows of the target hold it.
  have loop := forRange_eq (fun (g : Grid) dr => forRange 0 width g fun g dc =>
      onlyIf (top + dr < g.rows ∧ left + dc < g.cols) g fun g => do
        let cell ← get buf (dr * width + dc)
        g.cellMut (top + dr) (left + dc) fun _ => cell)
    (fun i => { g with
      lines := mapRange g.lines top (top + i) fun r row => row.edit fun cells =>
        mapRange cells left (left + width) fun c _ => value (r - top) (c - left) }) (Nat.zero_le height) (by
    intro dr _ last
    have more : mapRange g.lines top (top + (dr + 1)) (fun r row => row.edit fun cells =>
          mapRange cells left (left + width) fun c _ => value (r - top) (c - left)) =
        (mapRange g.lines top (top + dr) fun r row => row.edit fun cells =>
          mapRange cells left (left + width) fun c _ => value (r - top) (c - left)).modify (top + dr) fun row =>
            row.edit fun cells => mapRange cells left (left + width) fun c _ => value dr (c - left) := by
      rw [← Nat.add_assoc, modify_eq_mapRange, ← mapRange_mapRange _ _ (Nat.le_add_right top dr) (Nat.le_succ _)]
      apply mapRange_congr
      intro i x low high _
      rw [show i - top = dr by omega]
    have here (row : Row) (found : g.lines[top + dr]? = some row) :
        (mapRange g.lines top (top + dr) fun r row => row.edit fun cells =>
          mapRange cells left (left + width) fun c _ => value (r - top) (c - left))[top + dr]? = some row := by
      rw [getElem?_mapRange, if_neg (by omega), found]
    have length : (mapRange g.lines top (top + dr) fun r row => row.edit fun cells =>
        mapRange cells left (left + width) fun c _ => value (r - top) (c - left)).length = g.rows := by
      rw [length_mapRange, sized.lines]
    rw [more]
    generalize (mapRange g.lines top (top + dr) fun r row => row.edit fun cells =>
      mapRange cells left (left + width) fun c _ => value (r - top) (c - left)) = lines at here length ⊢
    by_cases bound : top + dr < g.rows
    next =>
      obtain ⟨row, found⟩ := sized.row_at bound
      have pasted := @pasteRow_ok { g with lines } buf (top + dr) left width (dr * width) row (value dr) length
        (sized.cells_at found) (here row found) (fun dc inside => read dr dc last inside)
      rw [pasted, modify_eq_mapRange, ← set_eq_mapRange _ (here row found)]
      rfl
    next =>
      rw [List.modify_eq_self (by omega)]
      refine forRange_eq _ (fun _ => { g with lines }) (Nat.zero_le width) fun dc _ _ => ?_
      exact onlyIf_false _ _ (by rintro ⟨inside, -⟩; exact bound inside))
  rw [Nat.add_zero, mapRange_empty _ _ (Nat.le_refl top)] at loop
  exact loop

def copyEdit (s : Screen) (srcTop srcLeft srcBottom srcRight dstTop dstLeft : Nat) : Edit :=
  .copy (firstIndex srcTop s.rows) (firstIndex srcLeft s.cols) (firstIndex dstTop s.rows)
    (firstIndex dstLeft s.cols) (min srcBottom s.rows - firstIndex srcTop s.rows)
    (min srcRight s.cols - firstIndex srcLeft s.cols)

def copied (s : Screen) (srcTop srcLeft srcBottom srcRight dstTop dstLeft : Nat) : Screen :=
  if min srcBottom s.rows ≤ firstIndex srcTop s.rows ∨ min srcRight s.cols ≤ firstIndex srcLeft s.cols then s
  else s.edit (s.copyEdit srcTop srcLeft srcBottom srcRight dstTop dstLeft)

theorem copyRect_ok {s : Screen} (framed : Framed s) (srcTop srcLeft srcBottom srcRight dstTop dstLeft : Nat) :
    s.copyRect srcTop srcLeft srcBottom srcRight dstTop dstLeft =
      .ok (s.copied srcTop srcLeft srcBottom srcRight dstTop dstLeft) := by
  unfold copyRect copied
  dsimp only
  by_cases empty : min srcBottom s.rows ≤ firstIndex srcTop s.rows ∨ min srcRight s.cols ≤ firstIndex srcLeft s.cols
  next => rw [if_pos (by omega), if_pos empty]
  next =>
    rw [if_neg (by omega), if_neg empty]
    -- The rectangle is read into a buffer before any of it is written, whatever the overlap.
    apply onGrid_edit
    have tall : min srcBottom s.rows ≤ s.grid.rows := Nat.min_le_right ..
    have wide : min srcRight s.cols ≤ s.grid.cols := Nat.min_le_right ..
    rw [readRect_ok framed.grid (by omega) (by omega) tall wide, ok_bind, copyEdit]
    generalize min srcBottom s.rows = bottom at *
    generalize min srcRight s.cols = right at *
    generalize firstIndex srcTop s.rows = top at *
    generalize firstIndex srcLeft s.cols = left at *
    generalize firstIndex dstTop s.rows = dt
    generalize firstIndex dstLeft s.cols = dl
    have read (dr dc : Nat) (low : dr < bottom - top) (inside : dc < right - left) :
        (((s.grid.lines.take bottom).drop top).flatMap fun row => (row.cells.take right).drop left)[
          dr * (right - left) + dc]? = s.grid.lines[dr + top]?.bind fun row => row.cells[dc + left]? := by
      rw [getElem?_flatMap_parts _ dr inside]
      next =>
        rw [List.getElem?_drop, List.getElem?_take_of_lt (by omega), Nat.add_comm top dr]
        congr 1
        funext row
        rw [List.getElem?_drop, List.getElem?_take_of_lt (by omega), Nat.add_comm left dc]
      next =>
        intro row member
        have size := framed.grid.cells row (List.mem_of_mem_take (List.mem_of_mem_drop member))
        simp only [List.length_drop, List.length_take, size]
        omega
    have present (dr dc : Nat) (low : dr < bottom - top) (inside : dc < right - left) :
        ∃ cell, (s.grid.lines[dr + top]?.bind fun row => row.cells[dc + left]?) = some cell := by
      obtain ⟨row, found⟩ := framed.grid.row_at (show dr + top < s.grid.rows by omega)
      have bound : dc + left < row.cells.length := by rw [framed.grid.cells_at found]; omega
      exact ⟨row.cells[dc + left], by rw [found, Option.bind_some, List.getElem?_eq_getElem bound]⟩
    rw [pasteRect_ok framed.grid (fun dr dc =>
      (s.grid.lines[dr + top]?.bind fun row => row.cells[dc + left]?).getD .blank)]
    next =>
      simp only [Edit.apply, Edit.source]
      congr 2
      apply mapRange_congr
      intro r row low high found
      simp only [Row.edit]
      congr 1
      apply mapRange_congr
      intro c cell first last here
      obtain ⟨source, known⟩ := present (r - dt) (c - dl) (by omega) (by omega)
      rw [known]
      rfl
    next =>
      intro dr dc low inside
      obtain ⟨source, known⟩ := present dr dc low inside
      rw [read dr dc low inside, known, Option.getD_some]

theorem decaln_ok {s : Screen} (framed : Framed s) :
    s.decaln = .ok (({ s.edit (.rows 0 s.rows (.cells 0 s.cols fun cell =>
      { cell with c := 'E', width := 1, fg := .default, bg := .default, attrs := {} })) with
        scrollTop := 0, scrollBottom := s.rows } : Screen).moveTo 0 0) := by
  rw [decaln, eachCell_edit framed 0 0 _ (Nat.le_refl _) (Nat.le_refl _)]
  simp only [ok_bind, edit_rows]

end Screen

end Emux
