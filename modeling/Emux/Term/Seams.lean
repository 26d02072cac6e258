import Emux.Term.Conservation
import Emux.Term.Erasing
import Emux.Term.Halves

set_option autoImplicit false

/-!
# Where an edit cuts a grid

An edit that cuts the rows of a grid between characters, or cuts both rows that it joins alike, keeps the
wide characters of grid and history whole. So does a resize that cuts its lines between characters.
-/

namespace Emux

open Checked

namespace Grid

def Whole (g : Grid) : Prop := ∀ row ∈ g.allRows, PairedCells row.cells

instance (g : Grid) : Decidable g.Whole := by unfold Whole; infer_instance

section

variable {g : Grid}

theorem Whole.row (whole : g.Whole) {r : Nat} {row : Row} (found : g.lines[r]? = some row) : PairedCells row.cells :=
  whole row (List.mem_append_right _ (List.mem_of_getElem? found))

theorem Whole.past (whole : g.Whole) {row : Row} (member : row ∈ g.scrollback) : PairedCells row.cells :=
  whole row (List.mem_append_left _ member)

theorem whole_of {lines scrollback : List Row} (now : ∀ (r : Nat) (row : Row), lines[r]? = some row -> PairedCells row.cells)
    (past : ∀ row ∈ scrollback, PairedCells row.cells) : ({ g with lines, scrollback } : Grid).Whole := by
  intro row member
  rcases List.mem_append.mp member with old | here
  next => exact past row old
  next =>
    obtain ⟨r, found⟩ := List.mem_iff_getElem?.mp here
    exact now r row found

theorem whole_new (cols rows : Nat) : (Grid.new cols rows).Whole := by
  intro row member
  have same : row = Row.new cols := by
    simp only [allRows, Grid.new, List.nil_append] at member
    exact List.eq_of_mem_replicate member
  rw [same]
  exact pairedCells_new cols

def leadsAt (g : Grid) (r c : Nat) : Bool := (g.look r c).any fun cell => cell.width == 2

theorem leadsAt_eq {r : Nat} {row : Row} (found : g.lines[r]? = some row) (c : Nat) :
    g.leadsAt r c = leads row.cells c := by rw [leadsAt, look, found, Option.bind_some, leads]

def narrowsAt (g : Grid) (f : Cell -> Cell) (left right r c : Nat) : Bool :=
  decide (left ≤ c ∧ c < right) && (g.look r c).any fun cell => (f cell).width == 1

theorem narrowsAt_eq {r : Nat} {row : Row} (found : g.lines[r]? = some row) (f : Cell -> Cell) (left right c : Nat) :
    g.narrowsAt f left right r c = narrows f row.cells left right c := by
  rw [narrowsAt, look, found, Option.bind_some, narrows]

/-- A change of a rectangle that makes both halves of a wide character narrow or neither. -/
def EvenHalves (g : Grid) (f : Cell -> Cell) (top bottom left right : Nat) : Prop :=
  ∀ r < bottom, top ≤ r -> ∀ c < g.cols, g.leadsAt r c = true ->
    g.narrowsAt f left right r c = g.narrowsAt f left right r (c + 1)

/-- At both margins a row is cut as the row that its columns come from when they move up, a blank one at the bottom. -/
def SeamsUp (g : Grid) (top bottom left right count : Nat) : Prop :=
  ∀ r < bottom, top ≤ r -> ∀ c ∈ [left, right],
    g.trailsAt r c = (decide (r + count < bottom) && g.trailsAt (r + count) c)

def SeamsDown (g : Grid) (top bottom left right count : Nat) : Prop :=
  ∀ r < bottom, top ≤ r -> ∀ c ∈ [left, right],
    g.trailsAt r c = (decide (top + count ≤ r) && g.trailsAt (r - count) c)

/-- At both sides of a copy a row is cut as the row that the copy comes from. -/
def SeamsCopy (g : Grid) (srcTop srcLeft dstTop dstLeft height width : Nat) : Prop :=
  ∀ r < g.rows, dstTop ≤ r -> r < dstTop + height -> ∀ c ∈ [dstLeft, min (dstLeft + width) g.cols],
    g.trailsAt r c = g.trailsAt (r - dstTop + srcTop) (c - dstLeft + srcLeft)

instance (g : Grid) (f : Cell -> Cell) (top bottom left right : Nat) : Decidable (g.EvenHalves f top bottom left right) := by
  unfold EvenHalves; infer_instance

instance (g : Grid) (top bottom left right count : Nat) : Decidable (g.SeamsUp top bottom left right count) := by
  unfold SeamsUp; infer_instance

instance (g : Grid) (top bottom left right count : Nat) : Decidable (g.SeamsDown top bottom left right count) := by
  unfold SeamsDown; infer_instance

instance (g : Grid) (srcTop srcLeft dstTop dstLeft height width : Nat) :
    Decidable (g.SeamsCopy srcTop srcLeft dstTop dstLeft height width) := by
  unfold SeamsCopy; infer_instance

end

end Grid

open Grid

def RowEdit.Uncut (e : RowEdit) (cells : List Cell) : Prop :=
  match e with
  | .flag _ | .reset => True
  | .erase left stop => left < stop ∨ trails cells left = false
  | .cells left right f =>
    (∀ cell, (f cell).width = cell.width ∨ (f cell).width = 1) ∧
      ∀ i, leads cells i = true -> narrows f cells left right i = narrows f cells left right (i + 1)
  | .print col width head tail =>
    head.width = width ∧ tail.width = 0 ∧ width ≠ 0 ∧ (width = 2 -> col + 1 < cells.length ∨ cells.length ≤ col)
  | .insert col right count =>
    right ≤ cells.length ∧ (0 < count -> col < right ->
      trails cells col = false ∧ trails cells (right - min count (right - col)) = trails cells right)
  | .delete col right count =>
    right ≤ cells.length ∧ (0 < count -> col < right ->
      trails cells col = trails cells (col + min count (right - col)) ∧ trails cells right = false)

theorem RowEdit.paired_onCells {e : RowEdit} {cells : List Cell} (paired : PairedCells cells) (uncut : e.Uncut cells) :
    PairedCells (e.onCells cells) := by
  cases e with
  | flag => exact paired
  | reset =>
    have blank : (cells.map fun _ => Cell.blank) = List.replicate cells.length .blank := List.map_const' ..
    rw [onCells, blank]
    exact pairedCells_blanks _
  | erase left stop => exact paired.erased uncut
  | cells left right f => exact PairedCells.changed uncut.1 paired uncut.2
  | print col width head tail => exact paired.printed uncut.1 uncut.2.1 uncut.2.2.1 uncut.2.2.2
  | insert col right count => exact paired.inserted uncut.1 uncut.2
  | delete col right count => exact paired.deleted uncut.1 uncut.2

def Edit.Uncut (e : Edit) (g : Grid) : Prop :=
  match e with
  | .rows top bottom e =>
    ∀ (r : Nat) (row : Row), top ≤ r -> r < bottom -> g.lines[r]? = some row -> e.Uncut row.cells
  | .columnsUp top bottom left right count =>
    bottom ≤ g.rows ∧ right ≤ g.cols ∧ g.SeamsUp top bottom left right count
  | .columnsDown top bottom left right count =>
    bottom ≤ g.rows ∧ right ≤ g.cols ∧ g.SeamsDown top bottom left right count
  | .copy srcTop srcLeft dstTop dstLeft height width =>
    srcTop + height ≤ g.rows ∧ srcLeft + width ≤ g.cols ∧ g.SeamsCopy srcTop srcLeft dstTop dstLeft height width
  | .rowsUp .. | .rowsDown .. | .clearHistory => True

namespace Grid

variable {g : Grid}

theorem whole_moved (whole : g.Whole) {lines : List Row} (source : ∀ (r : Nat) (row : Row), lines[r]? = some row ->
    row = Row.new g.cols ∨ ∃ old : Nat, g.lines[old]? = some row) (r : Nat) (row : Row) (found : lines[r]? = some row) :
    PairedCells row.cells := by
  -- A row that was moved is a row of before or a blank one.
  rcases source r row found with rfl | ⟨old, here⟩
  next => exact pairedCells_new g.cols
  next => exact whole.row here

theorem whole_mapRange (whole : g.Whole) {top bottom : Nat} {f : Nat -> Row -> Row}
    (each : ∀ (r : Nat) (row : Row), top ≤ r -> r < bottom -> g.lines[r]? = some row -> PairedCells (f r row).cells) :
    ({ g with lines := mapRange g.lines top bottom f } : Grid).Whole := by
  refine whole_of (fun r row found => ?_) fun row member => whole.past member
  rw [getElem?_mapRange] at found
  split at found
  next inside =>
    obtain ⟨old, here, rfl⟩ := Option.map_eq_some_iff.mp found
    exact each r old inside.1 inside.2 here
  next => exact whole.row found

theorem paired_spliced {cells source : List Cell} {left right : Nat} (paired : PairedCells cells) (other : PairedCells source)
    (size : source.length = cells.length) (seams : ∀ c ∈ [left, right], trails cells c = trails source c) :
    PairedCells (splice cells source left right) := by
  refine @PairedCells.patch cells source _ left right left paired other (fun c => ?_) (fun _ => ?_) fun order => ?_
  next =>
    rw [getElem?_splice _ _ _ _ _ size]
    split
    next inside => rw [Nat.sub_add_cancel inside.1]
    next => rfl
  next => exact seams left (by simp)
  next =>
    rw [Nat.sub_add_cancel (Nat.le_of_lt order)]
    exact seams right (by simp)

theorem whole_columns (sized : g.Sized) (whole : g.Whole) {top bottom left right : Nat} {moved : List Row}
    (fits : right ≤ g.cols) (source : ∀ (r : Nat) (row : Row), moved[r]? = some row ->
      row = Row.new g.cols ∨ ∃ old : Nat, g.lines[old]? = some row)
    (seams : ∀ (r : Nat) (row other : Row), top ≤ r -> r < bottom -> g.lines[r]? = some row -> moved[r]? = some other ->
      ∀ c ∈ [left, right], trails row.cells c = trails other.cells c) :
    ({ g with lines := spliceRows g.lines moved top bottom left (min right g.cols) } : Grid).Whole := by
  rw [Nat.min_eq_left fits]
  refine whole_mapRange whole fun r row low high found => ?_
  rw [Row.cells_edit]
  cases there : moved[r]? with
  | none => exact paired_spliced (whole.row found) (whole.row found) rfl fun _ _ => rfl
  | some other =>
    have width : other.cells.length = row.cells.length := by
      rw [sized.cells_at found]
      rcases source r other there with rfl | ⟨old, here⟩
      next => exact Row.length_new g.cols
      next => exact sized.cells_at here
    exact paired_spliced (whole.row found) (whole_moved whole source r other there) width
      (seams r row other low high found there)

theorem trails_new (cols i : Nat) : trails (Row.new cols).cells i = false := by
  cases i with
  | zero => exact (pairedCells_new cols).1
  | succ i =>
    rw [(pairedCells_new cols).second, leads, Row.new, List.getElem?_replicate]
    split <;> rfl

theorem seams_up (sized : g.Sized) {top bottom left right count : Nat} (bound : bottom ≤ g.rows)
    (seams : g.SeamsUp top bottom left right count) (r : Nat) (row other : Row) (low : top ≤ r) (high : r < bottom)
    (found : g.lines[r]? = some row) (there : (shiftUp g.lines top bottom count (Row.new g.cols))[r]? = some other) (c : Nat)
    (edge : c ∈ [left, right]) : trails row.cells c = trails other.cells c := by
  rw [getElem?_shiftUp _ _ _ _ _ _ (by rw [sized.lines]; exact bound), if_pos ⟨low, high⟩] at there
  rw [← trailsAt_eq found, seams r high low c edge]
  by_cases inside : r + count < bottom
  next =>
    rw [if_pos inside] at there
    rw [decide_eq_true inside, Bool.true_and, trailsAt_eq there]
  next =>
    rw [if_neg inside] at there
    rw [decide_eq_false inside, Bool.false_and, ← Option.some.inj there, trails_new]

theorem seams_down (sized : g.Sized) {top bottom left right count : Nat} (bound : bottom ≤ g.rows)
    (seams : g.SeamsDown top bottom left right count) (r : Nat) (row other : Row) (low : top ≤ r) (high : r < bottom)
    (found : g.lines[r]? = some row) (there : (shiftDown g.lines top bottom count (Row.new g.cols))[r]? = some other)
    (c : Nat) (edge : c ∈ [left, right]) : trails row.cells c = trails other.cells c := by
  rw [getElem?_shiftDown _ _ _ _ _ _ (by rw [sized.lines]; exact bound), if_pos ⟨low, high⟩] at there
  rw [← trailsAt_eq found, seams r high low c edge]
  by_cases inside : r < top + count
  next =>
    rw [if_pos inside] at there
    rw [decide_eq_false (by omega), Bool.false_and, ← Option.some.inj there, trails_new]
  next =>
    rw [if_neg inside] at there
    rw [decide_eq_true (by omega), Bool.true_and, trailsAt_eq there]

theorem whole_copy (sized : g.Sized) (whole : g.Whole) {srcTop srcLeft dstTop dstLeft height width : Nat}
    (rows : srcTop + height ≤ g.rows) (cols : srcLeft + width ≤ g.cols)
    (seams : g.SeamsCopy srcTop srcLeft dstTop dstLeft height width) :
    ((Edit.copy srcTop srcLeft dstTop dstLeft height width).apply g).Whole := by
  refine whole_mapRange whole fun r row low high found => ?_
  have inside : r < g.rows := sized.lines ▸ (List.getElem?_eq_some_iff.mp found).1
  obtain ⟨other, there⟩ := sized.row_at (show r - dstTop + srcTop < g.rows by omega)
  have size := sized.cells_at found
  have seam (c : Nat) (edge : c ∈ [dstLeft, min (dstLeft + width) g.cols]) :
      trails row.cells c = trails other.cells (c - dstLeft + srcLeft) := by
    rw [← trailsAt_eq found, ← trailsAt_eq there]
    exact seams r inside low high c edge
  rw [Row.cells_edit]
  refine @PairedCells.patch row.cells other.cells _ dstLeft (min (dstLeft + width) g.cols) srcLeft (whole.row found)
    (whole.row there) (fun c => ?_) (fun _ => ?_) fun _ => seam _ (by simp)
  next =>
    have read : Edit.source g srcTop srcLeft dstTop dstLeft r c = other.cells[c - dstLeft + srcLeft]? := by
      rw [Edit.source, there, Option.bind_some]
    rw [getElem?_mapRange, read]
    by_cases within : c < g.cols
    next =>
      by_cases pasted : dstLeft ≤ c ∧ c < dstLeft + width
      next =>
        have here : row.cells[c]? = some row.cells[c] := List.getElem?_eq_getElem (by omega)
        have present : c - dstLeft + srcLeft < other.cells.length := by rw [sized.cells_at there]; omega
        rw [if_pos pasted, if_pos (by omega), here, List.getElem?_eq_getElem present]
        rfl
      next => rw [if_neg pasted, if_neg (by omega)]
    next =>
      have none : row.cells[c]? = none := List.getElem?_eq_none (by omega)
      rw [none, Option.map_none, ite_self, if_neg (by omega)]
  next => rw [seam dstLeft (by simp), Nat.sub_self, Nat.zero_add]

theorem trailsAt_rows {top bottom : Nat} {e : RowEdit}
    (same : ∀ (r : Nat) (row : Row), top ≤ r -> r < bottom -> g.lines[r]? = some row ->
      ∀ c, trails (e.onCells row.cells) c = trails row.cells c) (r c : Nat) :
    ((Edit.rows top bottom e).apply g).trailsAt r c = g.trailsAt r c := by
  rw [trailsAt, Edit.look_rows]
  split
  next inside =>
    cases found : g.lines[r]? with
    | none => rw [trailsAt, look, found]; rfl
    | some row =>
      rw [Option.bind_some, trailsAt_eq found, ← same r row inside.1 inside.2 found c]
      rfl
  next => rfl

theorem whole_apply (sized : g.Sized) (whole : g.Whole) {e : Edit} (uncut : e.Uncut g) : (e.apply g).Whole := by
  cases e with
  | rows top bottom e =>
    refine whole_mapRange whole fun r row low high found => ?_
    rw [RowEdit.cells_apply]
    exact RowEdit.paired_onCells (whole.row found) (uncut r row low high found)
  | rowsUp top bottom count keep =>
    refine whole_of (whole_moved whole fun r row found => shiftUp_source found) fun row member => ?_
    split at member
    next =>
      simp only [Grid.historyAfter, Grid.pushed] at member
      split at member
      next =>
        rcases List.mem_append.mp (mem_of_mem_trimFront member) with old | new
        next => exact whole.past old
        next => exact whole row (List.mem_append_right _ (List.mem_of_mem_take new))
      next => exact whole.past member
    next => exact whole.past member
  | rowsDown top bottom count =>
    exact whole_of (whole_moved whole fun r row found => shiftDown_source found) fun row member => whole.past member
  | columnsUp top bottom left right count =>
    obtain ⟨bound, fits, seams⟩ := uncut
    exact whole_columns sized whole fits (fun r row found => shiftUp_source found) (seams_up sized bound seams)
  | columnsDown top bottom left right count =>
    obtain ⟨bound, fits, seams⟩ := uncut
    exact whole_columns sized whole fits (fun r row found => shiftDown_source found) (seams_down sized bound seams)
  | copy srcTop srcLeft dstTop dstLeft height width => exact whole_copy sized whole uncut.1 uncut.2.1 uncut.2.2
  | clearHistory => exact whole_of (fun r row found => whole.row found) fun row member => absurd member List.not_mem_nil

/-- No row that the line is cut into at the new width starts or ends inside a wide character. -/
def LineUncut (newCols : Nat) (line : List Row) : Prop :=
  let cells := line.flatMap Row.cells
  if line.length = 1 then trails cells newCols = false
  else ∀ r ≤ (contentLen cells + newCols - 1) / newCols, trails cells (r * newCols) = false

instance (newCols : Nat) (line : List Row) : Decidable (LineUncut newCols line) := by unfold LineUncut; infer_instance

def ResizeUncut (g : Grid) (newCols : Nat) : Prop :=
  newCols = g.cols ∨ ∀ line ∈ logicalLines g.allRows, LineUncut newCols line

instance (g : Grid) (newCols : Nat) : Decidable (g.ResizeUncut newCols) := by unfold ResizeUncut; infer_instance

theorem paired_cutRow {cells : List Cell} (paired : PairedCells cells) {newCols r : Nat}
    (first : trails cells (r * newCols) = false) (last : trails cells ((r + 1) * newCols) = false) :
    PairedCells (cutRow cells newCols r).cells := by
  have next : (r + 1) * newCols = r * newCols + newCols := Nat.succ_mul ..
  simp only [cutRow]
  refine PairedCells.append ?_ (pairedCells_blanks _)
  by_cases order : r * newCols ≤ cells.length
  next =>
    refine paired.between first ?_ (by omega)
    by_cases inside : (r + 1) * newCols ≤ cells.length
    next =>
      rw [Nat.min_eq_left inside]
      exact last
    next => exact trails_beyond (by omega)
  next =>
    rw [List.drop_eq_nil_of_le (by omega), List.take_nil]
    exact pairedCells_nil

theorem paired_recut {newCols : Nat} {line : List Row} (paired : ∀ row ∈ line, PairedCells row.cells)
    (uncut : LineUncut newCols line) : ∀ row ∈ recut newCols line, PairedCells row.cells := by
  intro row member
  by_cases single : line.length = 1
  next =>
    obtain ⟨only, rfl⟩ := List.length_eq_one_iff.mp single
    have whole : trails only.cells newCols = false := by simpa [LineUncut] using uncut
    rw [List.mem_singleton.mp member]
    exact ((paired only List.mem_cons_self).take whole).append (pairedCells_blanks _)
  next =>
    have cells := pairedCells_flatMap paired
    simp only [LineUncut, single, if_false] at uncut
    rw [recut_multi single] at member
    split at member
    next =>
      rw [List.mem_singleton.mp member]
      exact pairedCells_new newCols
    next =>
      obtain ⟨r, inside, rfl⟩ := List.mem_map.mp member
      have bound := List.mem_range.mp inside
      exact paired_cutRow cells (uncut r (Nat.le_of_lt bound)) (uncut (r + 1) bound)

theorem paired_reflowed (whole : g.Whole) {newCols : Nat} (uncut : ∀ line ∈ logicalLines g.allRows, LineUncut newCols line)
    {row : Row} (member : row ∈ g.reflowed newCols) : PairedCells row.cells := by
  obtain ⟨line, among, inside⟩ := List.mem_flatMap.mp member
  refine paired_recut (fun old part => whole old ?_) (uncut line among) row inside
  have whole : (logicalLines g.allRows).flatten = g.allRows := List.flatten_splitBy ..
  rw [← whole]
  exact List.mem_flatten_of_mem among part

theorem whole_resized (sized : g.Sized) (whole : g.Whole) {newCols : Nat} (newRows : Nat) (uncut : g.ResizeUncut newCols) :
    (g.resized newCols newRows).Whole := by
  -- Rows keep their width and their wide characters when they move between viewport and history.
  have kept {changed : Grid}
      (rows : ∀ row ∈ changed.allRows, row.cells.length = newCols ∧ PairedCells row.cells) :
      ({ (changed.resizeRows newCols newRows).1 with cols := newCols, rows := newRows } : Grid).Whole := by
    obtain ⟨lines, older⟩ := @resizeRows_rows (fun row => row.cells.length = newCols ∧ PairedCells row.cells) changed newCols
      newRows (fun row member => rows row (List.mem_append_right _ member))
      (fun row member => rows row (List.mem_append_left _ member))
      (fun row good => by rw [resize_width good.1]; exact good) ⟨Row.length_new newCols, pairedCells_new newCols⟩
    intro row member
    rcases List.mem_append.mp member with old | here
    next => exact (older row old).2
    next => exact (lines row here).2
  simp only [resized]
  split
  next => exact whole
  next =>
    split
    next changes =>
      refine kept fun row member => ?_
      have among : row ∈ g.reflowed newCols := by
        rcases List.mem_append.mp member with old | here
        next => exact List.mem_of_mem_take (mem_of_mem_trimFront old)
        next => exact List.mem_of_mem_drop here
      exact ⟨width_reflowed among, paired_reflowed whole (uncut.resolve_left changes) among⟩
    next same =>
      have cols : newCols = g.cols := not_not.mp same
      refine kept fun row member => ⟨?_, whole row member⟩
      rw [cols]
      rcases List.mem_append.mp member with old | here
      next => exact sized.history row old
      next => exact sized.cells row here

end Grid

end Emux
