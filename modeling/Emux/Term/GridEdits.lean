import Emux.Term.Grid

set_option autoImplicit false

/-!
# What the grid operations compute

On a grid with the right number of rows and cells no access is out of bounds, and every
operation is an edit of an index range of the lines or of the cells of a row.
-/

namespace Emux

open Checked

def Row.edit (row : Row) (f : List Cell -> List Cell) : Row := { row with cells := f row.cells }

@[simp] theorem Row.cells_edit (row : Row) (f : List Cell -> List Cell) :
    (row.edit f).cells = f row.cells := rfl

@[simp] theorem Row.flags_edit (row : Row) (f : List Cell -> List Cell) :
    (row.edit f).flags = row.flags := rfl

namespace Grid

structure Sized (g : Grid) : Prop where
  lines : g.lines.length = g.rows
  cells : ∀ row ∈ g.lines, row.cells.length = g.cols
  history : ∀ row ∈ g.scrollback, row.cells.length = g.cols
  bounded : g.scrollback.length ≤ g.scrollbackLimit

theorem Sized.cells_at {g : Grid} (sized : g.Sized) {r : Nat} {row : Row}
    (found : g.lines[r]? = some row) : row.cells.length = g.cols :=
  sized.cells row (List.mem_of_getElem? found)

theorem Sized.row_at {g : Grid} (sized : g.Sized) {r : Nat} (inside : r < g.rows) :
    ∃ row, g.lines[r]? = some row :=
  ⟨_, List.getElem?_eq_getElem (sized.lines ▸ inside)⟩

theorem sized_new (cols rows : Nat) : (Grid.new cols rows).Sized := by
  refine ⟨by simp [Grid.new], ?_, by simp [Grid.new], by simp [Grid.new]⟩
  intro row member
  rw [(List.mem_replicate.mp member).2, Row.length_new]
  rfl

theorem Sized.with_lines {g : Grid} (sized : g.Sized) {lines : List Row}
    (length : lines.length = g.lines.length)
    (cells : ∀ (r : Nat) (row : Row), lines[r]? = some row -> row.cells.length = g.cols) :
    ({ g with lines } : Grid).Sized := by
  -- An edit of the lines keeps the grid sized when it keeps their number and their widths.
  refine ⟨length.trans sized.lines, ?_, sized.history, sized.bounded⟩
  intro row member
  obtain ⟨r, found⟩ := List.mem_iff_getElem?.mp member
  exact cells r row found

theorem Sized.map_rows {g : Grid} (sized : g.Sized) (start stop : Nat) {f : Nat -> Row -> Row}
    (keeps : ∀ (r : Nat) (row : Row), (f r row).cells.length = row.cells.length) :
    ({ g with lines := mapRange g.lines start stop f } : Grid).Sized := by
  apply sized.with_lines (length_mapRange ..)
  intro r row found
  rw [getElem?_mapRange] at found
  split at found
  next =>
    obtain ⟨old, here, rfl⟩ := Option.map_eq_some_iff.mp found
    rw [keeps, sized.cells_at here]
  next => exact sized.cells_at found

/-! ## Single accesses -/

theorem modifyRow_ok {g : Grid} {r : Nat} (f : Row -> Row) (inside : r < g.lines.length) :
    g.modifyRow r f = .ok { g with lines := g.lines.modify r f } := by
  simp [modifyRow, modify_ok f inside]

theorem cellAt_ok {g : Grid} {r c : Nat} {row : Row} {cell : Cell}
    (found : g.lines[r]? = some row) (here : row.cells[c]? = some cell) :
    g.cellAt r c = .ok cell := by
  simp [cellAt, get_ok found, get_ok here]

theorem editCell_ok {g : Grid} {r c : Nat} {row : Row} (f : Cell -> Cell)
    (found : g.lines[r]? = some row) (inside : c < row.cells.length) :
    g.editCell r c f = .ok { g with lines := g.lines.set r (row.edit fun cells => cells.modify c f) } := by
  simp [editCell, get_ok found, modify_ok f inside, Row.edit]

theorem editCells_ok {g : Grid} {r : Nat} {row : Row} {f : List Cell -> Fallible (List Cell)}
    {cells : List Cell} (found : g.lines[r]? = some row) (result : f row.cells = .ok cells) :
    g.editCells r f = .ok { g with lines := g.lines.set r (row.edit fun _ => cells) } := by
  simp [editCells, get_ok found, result, Row.edit]

/-! ## Loops over rows and over the cells of a row -/

theorem forRange_rows {g : Grid} (start stop : Nat) (body : Grid -> Nat -> Fallible Grid)
    (f : Nat -> Row -> Row) (bound : stop ≤ g.lines.length)
    (step : ∀ (lines : List Row) (i : Nat) (row : Row), start ≤ i -> i < stop ->
      lines.length = g.lines.length -> (∀ j, i ≤ j -> lines[j]? = g.lines[j]?) ->
      g.lines[i]? = some row ->
      body { g with lines } i = .ok { g with lines := lines.set i (f i row) }) :
    forRange start stop g body = .ok { g with lines := mapRange g.lines start stop f } := by
  by_cases le : start ≤ stop
  next =>
    have run := forRange_eq body (fun i => { g with lines := mapRange g.lines start i f }) le (by
      intro i low high
      have here : g.lines[i]? = some g.lines[i] := List.getElem?_eq_getElem (by omega)
      have later : ∀ j, i ≤ j -> (mapRange g.lines start i f)[j]? = g.lines[j]? := by
        intro j above
        rw [getElem?_mapRange, if_neg (by omega)]
      rw [step _ i _ low high (by simp) later here, set_mapRange f low here])
    simpa [mapRange_empty] using run
  next =>
    rw [forRange_empty _ _ (by omega), mapRange_empty _ _ (by omega)]

theorem forRangeRev_rows {g : Grid} (start stop : Nat) (body : Grid -> Nat -> Fallible Grid)
    (count : Nat) (f : Nat -> Row -> Row) (bound : stop + count ≤ g.lines.length)
    (step : ∀ (lines : List Row) (i : Nat) (row : Row), start ≤ i -> i < stop ->
      lines.length = g.lines.length -> (∀ j, j ≤ i + count -> lines[j]? = g.lines[j]?) ->
      g.lines[i + count]? = some row ->
      body { g with lines } i = .ok { g with lines := lines.set (i + count) (f (i + count) row) }) :
    forRangeRev start stop g body =
      .ok { g with lines := mapRange g.lines (start + count) (stop + count) f } := by
  by_cases le : start ≤ stop
  next =>
    have run := forRangeRev_eq body
      (fun i => { g with lines := mapRange g.lines (i + count) (stop + count) f }) le (by
      intro i low high
      have here : g.lines[i + count]? = some g.lines[i + count] :=
        List.getElem?_eq_getElem (by omega)
      have earlier : ∀ j, j ≤ i + count ->
          (mapRange g.lines (i + 1 + count) (stop + count) f)[j]? = g.lines[j]? := by
        intro j below
        rw [getElem?_mapRange, if_neg (by omega)]
      have shifted : i + 1 + count = i + count + 1 := by omega
      rw [step _ i _ low high (by simp) earlier here, shifted,
        set_mapRange_down f (show i + count < stop + count by omega) here])
    simpa [mapRange_empty] using run
  next =>
    rw [forRangeRev_empty _ _ (by omega), mapRange_empty _ _ (by omega)]

theorem forRange_cells {g : Grid} {r left right : Nat} {row : Row}
    {body : Grid -> Nat -> Fallible Grid} (f : Nat -> Cell -> Cell)
    (found : g.lines[r]? = some row)
    (step : ∀ (cells : List Cell) (c : Nat), left ≤ c -> c < right ->
      cells.length = row.cells.length -> cells[c]? = row.cells[c]? ->
      body { g with lines := g.lines.set r { row with cells } } c =
        .ok { g with lines := g.lines.set r { row with cells := cells.modify c (f c) } }) :
    forRange left right g body =
      .ok { g with lines := g.lines.set r (row.edit fun cells => mapRange cells left right f) } := by
  have unchanged : g.lines.set r row = g.lines := set_same found
  by_cases le : left ≤ right
  next =>
    have run := forRange_eq body
      (fun c => { g with lines := g.lines.set r (row.edit fun cells => mapRange cells left c f) }) le
      (by
        intro c low high
        have next := step (mapRange row.cells left c f) c low high (by simp) (by
          rw [getElem?_mapRange, if_neg (by omega)])
        rw [modify_mapRange row.cells f low] at next
        exact next)
    simpa [mapRange_empty, Row.edit, unchanged] using run
  next =>
    rw [forRange_empty _ _ (by omega)]
    simp [mapRange_empty row.cells f (show right ≤ left by omega), Row.edit, unchanged]

theorem forRange_editCell {g : Grid} {r left right : Nat} {row : Row} (f : Nat -> Cell -> Cell)
    (found : g.lines[r]? = some row) (inside : right ≤ row.cells.length) :
    (forRange left right g fun g c => g.editCell r c (f c)) =
      .ok { g with lines := g.lines.set r (row.edit fun cells => mapRange cells left right f) } := by
  have bound := (List.getElem?_eq_some_iff.mp found).1
  apply forRange_cells f found
  intro cells c low high length same
  have here : (g.lines.set r { row with cells })[r]? = some { row with cells } := by simp [bound]
  rw [editCell_ok (f c) here (by simp only [length]; omega), List.set_set]
  rfl

/-! ## Erasing -/

def trails (cells : List Cell) (i : Nat) : Bool := cells[i]?.any fun cell => cell.width == 0

def leads (cells : List Cell) (i : Nat) : Bool := cells[i]?.any fun cell => cell.width == 2

def spanStart (cells : List Cell) (left : Nat) : Nat :=
  if 0 < left ∧ trails cells left = true then left - 1 else left

def spanStop (cells : List Cell) (left stop : Nat) : Nat :=
  if left < stop ∧ leads cells (stop - 1) = true then stop + 1 else stop

/-- Blank `[left, stop)` with the other half of a wide character cut at either end. -/
def blankSpan (left stop : Nat) (cells : List Cell) : List Cell :=
  mapRange cells (spanStart cells left) (spanStop cells left stop) fun _ _ => .blank

@[simp] theorem length_blankSpan (left stop : Nat) (cells : List Cell) :
    (blankSpan left stop cells).length = cells.length := length_mapRange ..

theorem repairLeft_ok {g : Grid} {r left : Nat} {row : Row} (found : g.lines[r]? = some row)
    (inside : left < row.cells.length) :
    (onlyIf (0 < left) g fun g => g.repairLeft r left) =
      .ok { g with lines := g.lines.set r (row.edit fun cells =>
        mapRange cells (spanStart row.cells left) left fun _ _ => .blank) } := by
  have here : row.cells[left]? = some row.cells[left] := List.getElem?_eq_getElem inside
  have unchanged : g.lines.set r row = g.lines := set_same found
  by_cases positive : 0 < left
  next =>
    rw [onlyIf_true _ _ positive, repairLeft, cellAt_ok found here, ok_bind]
    by_cases trail : row.cells[left].width = 0
    next =>
      have start : spanStart row.cells left = left - 1 := by simp [spanStart, trails, here, positive, trail]
      rw [if_pos trail, editCell_ok _ found (by omega), start]
      simp only [modify_eq_mapRange, show left - 1 + 1 = left by omega]
    next =>
      have start : spanStart row.cells left = left := by simp [spanStart, trails, here, trail]
      rw [if_neg trail, start]
      simp [mapRange_empty, Row.edit, unchanged]
  next =>
    rw [onlyIf_false _ _ positive]
    simp [spanStart, positive, mapRange_empty, Row.edit, unchanged]

theorem repairRight_ok {g : Grid} {r left stop : Nat} {row : Row} (found : g.lines[r]? = some row)
    (width : row.cells.length = g.cols) :
    (onlyIf (stop < g.cols ∧ left < stop) g fun g => g.repairRight r stop) =
      .ok { g with lines := g.lines.set r (row.edit fun cells =>
        mapRange cells stop (spanStop row.cells left stop) fun _ _ => .blank) } := by
  have unchanged : g.lines.set r row = g.lines := set_same found
  by_cases interior : stop < g.cols ∧ left < stop
  next =>
    have here : row.cells[stop - 1]? = some row.cells[stop - 1] := List.getElem?_eq_getElem (by omega)
    rw [onlyIf_true _ _ interior, repairRight, cellAt_ok found here, ok_bind]
    by_cases lead : row.cells[stop - 1].width = 2
    next =>
      have last : spanStop row.cells left stop = stop + 1 := by simp [spanStop, leads, here, lead, interior.2]
      rw [if_pos lead, editCell_ok _ found (by omega), last]
      simp only [modify_eq_mapRange]
    next =>
      have last : spanStop row.cells left stop = stop := by simp [spanStop, leads, here, lead]
      rw [if_neg lead, last]
      simp [mapRange_empty, Row.edit, unchanged]
  next =>
    have none : mapRange row.cells stop (spanStop row.cells left stop) (fun _ _ => Cell.blank) = row.cells := by
      by_cases nonempty : left < stop
      next => exact mapRange_beyond _ _ (by omega)
      next =>
        have last : spanStop row.cells left stop = stop := by simp [spanStop, nonempty]
        rw [last, mapRange_empty _ _ (Nat.le_refl stop)]
    rw [onlyIf_false _ _ interior]
    simp [Row.edit, none, unchanged]

theorem eraseSpan_ok {g : Grid} {r left stop : Nat} {row : Row} (found : g.lines[r]? = some row)
    (width : row.cells.length = g.cols) (start : left < g.cols) (order : left ≤ stop) (inside : stop ≤ g.cols) :
    ((onlyIf (0 < left) g fun g => g.repairLeft r left) >>= fun g =>
      (onlyIf (stop < g.cols ∧ left < stop) g fun g => g.repairRight r stop) >>= fun g =>
      forRange left stop g fun g c => g.editCell r c fun _ => .blank) =
      .ok { g with lines := g.lines.set r (row.edit (blankSpan left stop)) } := by
  -- The two repairs and the blanking of `[left, stop)` in one row.
  have bound : r < g.lines.length := (List.getElem?_eq_some_iff.mp found).1
  rw [repairLeft_ok found (by omega), ok_bind]
  generalize repaired : row.edit (fun cells =>
    mapRange cells (spanStart row.cells left) left fun _ _ => .blank) = first
  have firstLength : first.cells.length = g.cols := by simp [← repaired, width]
  have firstFound : (g.lines.set r first)[r]? = some first := by simp [bound]
  rw [repairRight_ok (g := { g with lines := g.lines.set r first }) firstFound firstLength, ok_bind,
    List.set_set]
  generalize mended : first.edit (fun cells =>
    mapRange cells stop (spanStop first.cells left stop) fun _ _ => .blank) = second
  have secondFound : (g.lines.set r second)[r]? = some second := by simp [bound]
  have secondLength : second.cells.length = g.cols := by simp [← mended, firstLength]
  rw [forRange_editCell (g := { g with lines := g.lines.set r second }) (fun _ _ => .blank)
    secondFound (by omega), List.set_set]
  congr 3
  have startLe : spanStart row.cells left ≤ left := by simp only [spanStart]; split <;> omega
  have stopGe : stop ≤ spanStop row.cells left stop := by simp only [spanStop]; split <;> omega
  have spanSame : spanStop first.cells left stop = spanStop row.cells left stop := by
    simp only [spanStop]
    by_cases nonempty : left < stop
    next =>
      have sameEdge : leads first.cells (stop - 1) = leads row.cells (stop - 1) := by
        simp only [leads, ← repaired, Row.cells_edit, getElem?_mapRange,
          show ¬ (spanStart row.cells left ≤ stop - 1 ∧ stop - 1 < left) by omega, if_false]
      rw [sameEdge]
    next => rw [if_neg (by omega), if_neg (by omega)]
  rw [← mended, spanSame, ← repaired]
  simp only [Row.edit, blankSpan]
  congr 1
  rw [← mapRange_comm _ _ _ (Nat.le_refl stop), mapRange_mapRange _ _ startLe order,
    mapRange_mapRange _ _ (by omega) stopGe]

theorem eraseChars_ok {g : Grid} (sized : g.Sized) {r col : Nat} (count : Nat) {row : Row}
    (found : g.lines[r]? = some row) (inside : col < g.cols) :
    g.eraseChars r col count =
      .ok { g with lines := g.lines.set r (row.edit (blankSpan col (min (col + count) g.cols))) } := by
  have bound : r < g.rows := sized.lines ▸ (List.getElem?_eq_some_iff.mp found).1
  rw [eraseChars, if_neg (by omega)]
  exact eraseSpan_ok found (sized.cells_at found) inside (by omega) (Nat.min_le_right ..)

theorem clearRegion_ok {g : Grid} (sized : g.Sized) {top left bottom right : Nat}
    (order : left ≤ right) (inside : right < g.cols) (bound : bottom < g.rows) :
    g.clearRegion top left bottom right =
      .ok { g with
        lines := mapRange g.lines top (bottom + 1) fun _ row => row.edit (blankSpan left (right + 1)) } := by
  have lastRow : min bottom (g.rows - 1) = bottom := by omega
  have lastCol : min right (g.cols - 1) = right := by omega
  have rows : bottom + 1 ≤ g.lines.length := by rw [sized.lines]; omega
  simp only [clearRegion, lastRow, lastCol]
  apply forRange_rows _ _ _ _ rows
  intro lines i row low high length later found
  have here : lines[i]? = some row := (later i (Nat.le_refl i)).trans found
  have span := @eraseSpan_ok { g with lines } _ left (right + 1) _ here (sized.cells_at found)
    (by simp only; omega) (by omega) (show right + 1 ≤ g.cols by omega)
  simpa only [order, and_true, show left < right + 1 by omega] using span

theorem clearRegion_outside {g : Grid} {r left right : Nat}
    (order : right < left) (last : g.cols ≤ right + 1) (bound : r < g.rows) :
    g.clearRegion r left r right = .ok g := by
  -- A cursor beyond the last column erases nothing to its right.
  have lastRow : min r (g.rows - 1) = r := by omega
  simp only [clearRegion, lastRow, forRange, Nat.add_sub_cancel_left, List.range'_one, List.foldlM_cons,
    List.foldlM_nil]
  rw [onlyIf_false _ _ (by omega), ok_bind, onlyIf_false _ _ (by omega), ok_bind]
  rw [show min right (g.cols - 1) + 1 - left = 0 by omega]
  rfl

theorem clearRow_ok {g : Grid} {r : Nat} (inside : r < g.lines.length) :
    g.clearRow r = .ok { g with lines := g.lines.modify r Row.reset } := modifyRow_ok _ inside

/-! ## Inserting and deleting cells -/

theorem insertCellsBounded_ok {g : Grid} (sized : g.Sized) {r col count bound : Nat} {row : Row}
    (found : g.lines[r]? = some row) :
    g.insertCellsBounded r col count bound =
      .ok { g with lines := g.lines.set r (row.edit fun cells =>
        shiftDown cells col (min bound g.cols) count .blank) } := by
  have width := sized.cells_at found
  by_cases empty : min bound g.cols ≤ col
  next =>
    simp [insertCellsBounded, empty, shiftDown, mapRange_empty, Row.edit, set_same found]
  next =>
    rw [insertCellsBounded, if_neg empty]
    apply editCells_ok found
    rw [forRangeRev_copyDown _ _ _ _ (by omega) (by omega), ok_bind,
      copyDown_fill _ _ _ _ _ (by omega), shiftDown_min]

theorem deleteCellsBounded_ok {g : Grid} (sized : g.Sized) {r col count bound : Nat} {row : Row}
    (found : g.lines[r]? = some row) :
    g.deleteCellsBounded r col count bound =
      .ok { g with lines := g.lines.set r (row.edit fun cells =>
        shiftUp cells col (min bound g.cols) count .blank) } := by
  have width := sized.cells_at found
  by_cases empty : min bound g.cols ≤ col
  next =>
    simp [deleteCellsBounded, empty, shiftUp, mapRange_empty, Row.edit, set_same found]
  next =>
    rw [deleteCellsBounded, if_neg empty]
    apply editCells_ok found
    rw [forRange_copyUp _ _ _ _ (by omega), ok_bind, copyUp_fill _ _ _ _ _ (by omega) (by omega),
      shiftUp_min]

/-! ## Scrolling whole rows -/

theorem blankRows_ok {g : Grid} {start stop : Nat} (bound : stop ≤ g.lines.length) :
    g.blankRows start stop =
      .ok { g with lines := mapRange g.lines start stop fun _ _ => Row.new g.cols } := by
  apply forRange_rows _ _ _ _ bound
  intro lines i row low high length later found
  rw [modifyRow_ok _ (by simp only [length]; omega), List.set_eq_modify]

def pushed (g : Grid) (rows : List Row) : List Row := trimFront g.scrollbackLimit (g.scrollback ++ rows)

theorem pushRows_ok {g : Grid} (bounded : g.scrollback.length ≤ g.scrollbackLimit) {count : Nat}
    (bound : count ≤ g.lines.length) :
    (forRange 0 count g fun g i => do
      let old ← get g.lines i
      let g ← g.modifyRow i fun _ => Row.new g.cols
      .ok (g.pushScrollback old)) =
      .ok { g with
        lines := mapRange g.lines 0 count fun _ _ => Row.new g.cols
        scrollback := g.pushed (g.lines.take count) } := by
  -- After `i` turns the first `i` rows are in the history, and the oldest are trimmed off.
  have run := forRange_eq (fun (g : Grid) i => do
      let old ← get g.lines i
      let g ← g.modifyRow i fun _ => Row.new g.cols
      .ok (g.pushScrollback old))
    (fun i => { g with
        lines := mapRange g.lines 0 i fun _ _ => Row.new g.cols
        scrollback := g.pushed (g.lines.take i) }) (Nat.zero_le count) (by
      intro i low high
      have inside : i < g.lines.length := by omega
      have old : (mapRange g.lines 0 i fun _ _ => Row.new g.cols)[i]? = some g.lines[i] := by
        rw [getElem?_mapRange, if_neg (by omega), List.getElem?_eq_getElem inside]
      rw [get_ok old, ok_bind, modifyRow_ok _ (by simpa using inside), ok_bind]
      simp only [pushScrollback, pushed]
      congr 2
      next =>
        rw [modify_eq_mapRange, mapRange_mapRange _ _ (Nat.zero_le i) (by omega)]
      next =>
        rw [trimFront_append_trimFront, List.append_assoc, List.take_succ_eq_append_getElem inside])
  simpa [mapRange_empty, pushed, trimFront_of_le bounded] using run

/-- A region at the top of the screen feeds the history with the rows it scrolls off. -/
def historyAfter (g : Grid) (top bottom count : Nat) : List Row :=
  if top = 0 then g.pushed (g.lines.take (min count bottom)) else g.scrollback

theorem scrollUp_bounded {g : Grid} (bounded : g.scrollback.length ≤ g.scrollbackLimit) {top bottom : Nat}
    (count : Nat) (bound : bottom ≤ g.lines.length) :
    g.scrollUp top bottom count =
      .ok { g with
        lines := shiftUp g.lines top bottom count (Row.new g.cols)
        scrollback := g.historyAfter top bottom count } := by
  have unpushed : g.pushed [] = g.scrollback := by simp [pushed, trimFront_of_le bounded]
  rw [scrollUp, ← shiftUp_min]
  by_cases empty : bottom ≤ top
  next =>
    have history : g.historyAfter top bottom count = g.scrollback := by
      simp only [historyAfter]
      split
      next first => simp [show bottom = 0 by omega, unpushed]
      next => rfl
    rw [if_pos empty, history]
    simp [shiftUp, mapRange_empty _ _ empty]
  next =>
    have history : g.historyAfter top bottom count =
        if top = 0 then g.pushed (g.lines.take (min count (bottom - top))) else g.scrollback := by
      simp only [historyAfter]
      split
      next first => simp [first]
      next => rfl
    rw [if_neg empty, history]
    generalize amount : min count (bottom - top) = n
    by_cases none : n = 0
    next => simp [none, shiftUp_zero, bound, unpushed]
    next =>
      simp only [none, if_false]
      -- A region at the top of the screen pushes its rows into the history before they rotate.
      by_cases first : top = 0
      next =>
        subst first
        have fits : bottom ≤ (mapRange g.lines 0 n fun _ _ => Row.new g.cols).length := by
          rw [length_mapRange]
          exact bound
        rw [onlyIf_true _ _ rfl, pushRows_ok bounded (by omega), ok_bind, rotateLeft,
          if_pos ⟨Nat.zero_le _, fits, by omega⟩, ok_bind,
          blankRows_ok (by rw [length_rotateRange _ _ (Nat.zero_le _) fits]; exact fits)]
        simp only
        rw [rotateRange_fillBottom _ _ (by omega) (by omega)]
        have blanked := @shiftUp_blanked _ g.lines 0 bottom n (Row.new g.cols) (by omega) (by omega)
        rw [Nat.zero_add] at blanked
        rw [blanked]
        rfl
      next =>
        rw [onlyIf_false _ _ first, ok_bind, rotateLeft, if_pos (by omega), ok_bind,
          blankRows_ok (by rw [length_rotateRange _ _ (by omega) (by omega)]; omega)]
        simp only
        rw [rotateRange_fillBottom _ _ (by omega) (by omega), if_neg first]

theorem scrollUp_ok {g : Grid} (sized : g.Sized) {top bottom : Nat} (count : Nat) (bound : bottom ≤ g.rows) :
    g.scrollUp top bottom count =
      .ok { g with
        lines := shiftUp g.lines top bottom count (Row.new g.cols)
        scrollback := g.historyAfter top bottom count } :=
  scrollUp_bounded sized.bounded count (sized.lines ▸ bound)

theorem scrollDown_ok {g : Grid} (sized : g.Sized) {top bottom : Nat} (count : Nat)
    (bound : bottom ≤ g.rows) :
    g.scrollDown top bottom count =
      .ok { g with lines := shiftDown g.lines top bottom count (Row.new g.cols) } := by
  have length := sized.lines
  rw [scrollDown, ← shiftDown_min]
  by_cases empty : bottom ≤ top
  next =>
    rw [if_pos empty]
    simp [shiftDown, mapRange_empty _ _ empty]
  next =>
    rw [if_neg empty]
    generalize amount : min count (bottom - top) = n
    by_cases none : n = 0
    next => simp [none, shiftDown_zero, length, bound]
    next =>
      simp only [none, if_false]
      rw [rotateRight, if_pos (by omega), ok_bind,
        blankRows_ok (by rw [length_rotateRange _ _ (by omega) (by omega)]; omega)]
      simp only
      rw [rotateRange_fillTop _ _ (by omega) (by omega)]

theorem insertLines_ok {g : Grid} (sized : g.Sized) {row top bottom : Nat} (count : Nat)
    (low : top ≤ row) (high : row < bottom) (bound : bottom ≤ g.rows) :
    g.insertLines row count top bottom =
      .ok { g with lines := shiftDown g.lines row bottom count (Row.new g.cols) } := by
  have length := sized.lines
  rw [insertLines, if_neg (by omega), ← shiftDown_min]
  generalize amount : min count (bottom - row) = n
  have copied := @forRangeRev_rows g row (bottom - n)
    (fun g i => do
      let line ← get g.lines i
      g.modifyRow (i + n) fun _ => line)
    n (fun i old => g.lines[i - n]?.getD old) (by omega) (by
      intro lines i old lower upper same earlier found
      have here : g.lines[i]? = some g.lines[i] := List.getElem?_eq_getElem (by omega)
      have read : lines[i]? = some g.lines[i] := (earlier i (by omega)).trans here
      rw [get_ok read, ok_bind, modifyRow_ok _ (by simp only [same]; omega), List.set_eq_modify]
      simp [here])
  simp only [copied, ok_bind, show bottom - n + n = bottom by omega]
  rw [blankRows_ok (by simp; omega)]
  have filled := copyDown_fill g.lines row bottom n (Row.new g.cols) (by omega)
  rw [Nat.min_eq_left (by omega)] at filled
  simp only [filled]

theorem deleteLines_ok {g : Grid} (sized : g.Sized) {row top bottom : Nat} (count : Nat)
    (low : top ≤ row) (high : row < bottom) (bound : bottom ≤ g.rows) :
    g.deleteLines row count top bottom =
      .ok { g with lines := shiftUp g.lines row bottom count (Row.new g.cols) } := by
  have length := sized.lines
  rw [deleteLines, if_neg (by omega), ← shiftUp_min]
  generalize amount : min count (bottom - row) = n
  have copied := @forRange_rows g row (bottom - n)
    (fun g i => do
      let line ← get g.lines (i + n)
      g.modifyRow i fun _ => line)
    (fun i old => g.lines[i + n]?.getD old) (by omega) (by
      intro lines i old lower upper same later found
      have here : g.lines[i + n]? = some g.lines[i + n] := List.getElem?_eq_getElem (by omega)
      have read : lines[i + n]? = some g.lines[i + n] := (later (i + n) (by omega)).trans here
      rw [get_ok read, ok_bind, modifyRow_ok _ (by simp only [same]; omega), List.set_eq_modify]
      simp [here])
  simp only [copied, ok_bind]
  rw [blankRows_ok (by simp; omega)]
  simp only [copyUp_fill g.lines row bottom n (Row.new g.cols) (by omega) (by omega)]

/-! ## Scrolling between margins -/

def spliceRows (lines source : List Row) (top bottom left right : Nat) : List Row :=
  mapRange lines top bottom fun r row =>
    row.edit fun cells => splice cells ((source[r]?.getD row).cells) left right

@[simp] theorem length_spliceRows (lines source : List Row) (top bottom left right : Nat) :
    (spliceRows lines source top bottom left right).length = lines.length := length_mapRange ..

theorem spliceRows_empty (lines source : List Row) {top bottom left right : Nat}
    (empty : bottom ≤ top ∨ right ≤ left) : spliceRows lines source top bottom left right = lines := by
  rcases empty with rows | cols
  next => exact mapRange_empty _ _ rows
  next =>
    apply List.ext_getElem?
    intro r
    rw [spliceRows, getElem?_mapRange]
    simp [splice, mapRange_empty _ _ cols, Row.edit]

theorem spliceRows_self (lines : List Row) (top bottom left right : Nat) :
    spliceRows lines lines top bottom left right = lines := by
  apply List.ext_getElem?
  intro r
  rw [spliceRows, getElem?_mapRange]
  split
  next inside =>
    cases found : lines[r]? with
    | none => rfl
    | some row =>
      have same : splice row.cells row.cells left right = row.cells := by
        apply List.ext_getElem?
        intro c
        rw [getElem?_splice _ _ _ _ _ rfl, ite_self]
      simp [Row.edit, same]
  next => rfl

theorem blankCells_eq {row : Row} {cols left right : Nat} (width : row.cells.length = cols) :
    mapRange row.cells left (min right cols) (fun _ _ => Cell.blank) =
      splice row.cells (Row.new cols).cells left (min right cols) := by
  -- Blanking columns is splicing in blank rows.
  apply List.ext_getElem?
  intro c
  rw [getElem?_mapRange, getElem?_splice _ _ _ _ _ (by simp [width])]
  split
  next inside =>
    rw [List.getElem?_eq_getElem (by omega)]
    simp [Row.new, show c < cols by omega]
  next => rfl

theorem blankCells_ok {g : Grid} (sized : g.Sized) {top bottom : Nat} (left right : Nat)
    (bound : bottom ≤ g.rows) :
    g.blankCells top bottom left right =
      .ok { g with
        lines := mapRange g.lines top bottom fun _ row =>
          row.edit fun cells => mapRange cells left (min right g.cols) fun _ _ => .blank } := by
  apply forRange_rows _ _ _ _ (sized.lines ▸ bound)
  intro lines i row low high length later found
  have here : lines[i]? = some row := (later i (Nat.le_refl i)).trans found
  exact forRange_editCell (g := { g with lines }) (fun _ _ => .blank) here
    (by rw [sized.cells_at found]; exact Nat.min_le_right ..)

theorem moveCells_ok {g : Grid} {r source left right : Nat} {row moved : Row}
    (found : g.lines[r]? = some row) (read : g.lines[source]? = some moved) (apart : r ≠ source)
    (inside : right ≤ row.cells.length) (same : moved.cells.length = row.cells.length) :
    (forRange left right g fun g c => do
      let cell ← g.cellAt source c
      g.editCell r c fun _ => cell) =
      .ok { g with lines := g.lines.set r (row.edit fun cells => splice cells moved.cells left right) } := by
  -- One row of a region scroll: the columns between the margins come from the row `source`.
  have bound := (List.getElem?_eq_some_iff.mp found).1
  apply forRange_cells _ found
  intro cells c low high length here
  have kept : (g.lines.set r { row with cells })[source]? = some moved := by
    rw [List.getElem?_set_ne apart, read]
  have target : (g.lines.set r { row with cells })[r]? = some { row with cells } := by simp [bound]
  have cell : moved.cells[c]? = some moved.cells[c] := List.getElem?_eq_getElem (by omega)
  rw [cellAt_ok (g := { g with lines := g.lines.set r { row with cells } }) kept cell, ok_bind,
    editCell_ok _ target (by simp only [length]; omega), List.set_set]
  simp [Row.edit, cell]

theorem moveRow_ok {g : Grid} (sized : g.Sized) {lines : List Row} {r source : Nat} {row : Row} (left right : Nat)
    (found : g.lines[r]? = some row) (target : lines[r]? = some row) (unchanged : lines[source]? = g.lines[source]?)
    (inside : source < g.lines.length) (apart : r ≠ source) :
    (forRange left (min right g.cols) { g with lines } fun g c => do
      let cell ← g.cellAt source c
      g.editCell r c fun _ => cell) =
      .ok { g with
        lines := lines.set r (row.edit fun cells => splice cells ((g.lines[source]?.getD row).cells) left (min right g.cols)) } := by
  have here : g.lines[source]? = some g.lines[source] := List.getElem?_eq_getElem inside
  have width := sized.cells_at found
  rw [moveCells_ok (g := { g with lines }) target (unchanged.trans here) apart (by omega)
    (by rw [sized.cells_at here, width])]
  simp [here]

theorem scrollUpRegion_ok {g : Grid} (sized : g.Sized) {top bottom : Nat} (left right count : Nat)
    (bound : bottom ≤ g.rows) :
    g.scrollUpRegion top bottom left right count =
      .ok { g with
        lines := spliceRows g.lines (shiftUp g.lines top bottom count (Row.new g.cols)) top bottom
          left (min right g.cols) } := by
  have length := sized.lines
  rw [scrollUpRegion, ← shiftUp_min]
  by_cases empty : bottom ≤ top ∨ right ≤ left
  next => rw [if_pos empty, spliceRows_empty _ _ (by omega)]
  next =>
    rw [if_neg empty]
    generalize amount : min count (bottom - top) = n
    by_cases none : n = 0
    next => simp [none, shiftUp_zero, length, bound, spliceRows_self]
    next =>
      simp only [none, if_false]
      have copied := @forRange_rows g top (bottom - n)
        (fun (g : Grid) r => forRange left (min right g.cols) g fun g c => do
          let moved ← g.cellAt (r + n) c
          g.editCell r c fun _ => moved)
        (fun r row => row.edit fun cells =>
          splice cells ((g.lines[r + n]?.getD row).cells) left (min right g.cols)) (by omega) (by
          intro lines r row low high same later found
          have target : lines[r]? = some row := (later r (Nat.le_refl r)).trans found
          exact moveRow_ok sized left right found target (later (r + n) (by omega)) (by omega) (by omega))
      rw [copied, ok_bind]
      have still := sized.map_rows top (bottom - n) (f := fun r row => row.edit fun cells =>
        splice cells ((g.lines[r + n]?.getD row).cells) left (min right g.cols)) (by simp)
      rw [blankCells_ok still left right bound]
      simp only
      congr 2
      apply List.ext_getElem?
      intro r
      simp only [spliceRows, getElem?_mapRange, getElem?_shiftUp _ _ _ _ _ _ (show bottom ≤ g.lines.length by omega)]
      by_cases inside : top ≤ r ∧ r < bottom
      next =>
        have here : g.lines[r]? = some g.lines[r] := List.getElem?_eq_getElem (by omega)
        by_cases low : r + n < bottom
        next =>
          rw [if_neg (by omega), if_pos (by omega), if_pos inside, if_pos inside, if_pos low]
        next =>
          rw [if_pos (by omega), if_neg (by omega), if_pos inside, if_pos inside, if_neg low, here]
          simp only [Option.map_some, Option.getD_some, Row.edit]
          rw [@blankCells_eq _ _ left right (sized.cells_at here)]
      next => rw [if_neg (by omega), if_neg (by omega), if_neg inside]

theorem scrollDownRegion_ok {g : Grid} (sized : g.Sized) {top bottom : Nat} (left right count : Nat)
    (bound : bottom ≤ g.rows) :
    g.scrollDownRegion top bottom left right count =
      .ok { g with
        lines := spliceRows g.lines (shiftDown g.lines top bottom count (Row.new g.cols)) top bottom
          left (min right g.cols) } := by
  have length := sized.lines
  rw [scrollDownRegion, ← shiftDown_min]
  by_cases empty : bottom ≤ top ∨ right ≤ left
  next => rw [if_pos empty, spliceRows_empty _ _ (by omega)]
  next =>
    rw [if_neg empty]
    generalize amount : min count (bottom - top) = n
    by_cases none : n = 0
    next => simp [none, shiftDown_zero, length, bound, spliceRows_self]
    next =>
      simp only [none, if_false]
      have copied := @forRangeRev_rows g top (bottom - n)
        (fun (g : Grid) r => forRange left (min right g.cols) g fun g c => do
          let moved ← g.cellAt r c
          g.editCell (r + n) c fun _ => moved)
        n (fun r row => row.edit fun cells =>
          splice cells ((g.lines[r - n]?.getD row).cells) left (min right g.cols)) (by omega) (by
          intro lines r row low high same earlier found
          have target : lines[r + n]? = some row := (earlier (r + n) (Nat.le_refl _)).trans found
          have moved := moveRow_ok sized left right found target (earlier r (by omega)) (by omega) (by omega)
          simpa only [Nat.add_sub_cancel] using moved)
      rw [copied, ok_bind, show bottom - n + n = bottom by omega]
      have still := sized.map_rows (top + n) bottom (f := fun r row => row.edit fun cells =>
        splice cells ((g.lines[r - n]?.getD row).cells) left (min right g.cols)) (by simp)
      rw [blankCells_ok still left right (show top + n ≤ g.rows by omega)]
      simp only
      congr 2
      apply List.ext_getElem?
      intro r
      simp only [spliceRows, getElem?_mapRange, getElem?_shiftDown _ _ _ _ _ _ (show bottom ≤ g.lines.length by omega)]
      by_cases inside : top ≤ r ∧ r < bottom
      next =>
        have here : g.lines[r]? = some g.lines[r] := List.getElem?_eq_getElem (by omega)
        by_cases low : r < top + n
        next =>
          rw [if_pos (by omega), if_neg (by omega), if_pos inside, if_pos inside, if_pos low, here]
          simp only [Option.map_some, Option.getD_some, Row.edit]
          rw [@blankCells_eq _ _ left right (sized.cells_at here)]
        next =>
          rw [if_neg (by omega), if_pos (by omega), if_pos inside, if_pos inside, if_neg low]
      next => rw [if_neg (by omega), if_neg (by omega), if_neg inside]

end Grid

end Emux
