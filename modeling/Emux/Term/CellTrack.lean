import Emux.Library.Partition
import Emux.Library.Ranges
import Emux.Term.Conservation
import Emux.Term.Safety

set_option autoImplicit false

/-!
# The cursor's cell through a resize

A cell has its place in a logical line, and a resize takes the pieces of the lines along: it cuts them anew, or it moves
whole rows. The cursor follows its row.
-/

namespace Emux

open Checked Blocks

namespace Grid

section Reflow

variable {oldCols newCols a cursorCol : Nat}

theorem reflowStep_away {state : ReflowState} {line : List Row} (away : a < state.start ∨ state.start + line.length ≤ a) :
    Ensures (NoColumns newCols) (reflowStep oldCols newCols (some a) cursorCol state line) fun next =>
      next = ⟨state.start + line.length, state.result ++ recut newCols line, state.newCursorRow⟩ := by
  have outside : ¬ (state.start ≤ a ∧ a < state.start + line.length) := by omega
  rw [reflowStep, Option.bind_some, if_neg outside]
  exact (reflowLine_exact newCols line none).bind fun out is => ensures_ok (by rw [is]; rfl)

theorem reflowStep_here {state : ReflowState} {line : List Row} (low : state.start ≤ a)
    (high : a < state.start + line.length) :
    Ensures (NoColumns newCols) (reflowStep oldCols newCols (some a) cursorCol state line) fun next =>
      next = ⟨state.start + line.length, state.result ++ recut newCols line, some (state.result.length +
        min (((a - state.start) * oldCols + cursorCol) / newCols) ((recut newCols line).length - 1))⟩ := by
  rw [reflowStep, Option.bind_some, if_pos ⟨low, high⟩]
  exact (reflowLine_exact newCols line _).bind fun out is => ensures_ok (by rw [is]; rfl)

theorem reflowLines_away (lines : List (List Row)) {state : ReflowState}
    (away : a < state.start ∨ state.start + lines.flatten.length ≤ a) :
    Ensures (NoColumns newCols) (lines.foldlM (reflowStep oldCols newCols (some a) cursorCol) state) fun next =>
      next = ⟨state.start + lines.flatten.length, state.result ++ lines.flatMap (recut newCols),
        state.newCursorRow⟩ := by
  induction lines generalizing state with
  | nil => exact ensures_ok (by simp)
  | cons line rest ih =>
    rw [List.flatten_cons, List.length_append] at away ⊢
    rw [List.foldlM_cons]
    refine (reflowStep_away (by omega)).bind fun next is => ?_
    subst is
    refine (ih (by dsimp only; omega)).weaken fun last is => ?_
    rw [is, List.flatMap_cons, List.append_assoc, Nat.add_assoc]

theorem reflowLines_cursor {rows : List Row} {before after : List (List Row)} {line : List Row}
    (split : logicalLines rows = before ++ line :: after) (low : before.flatten.length ≤ a)
    (high : a < before.flatten.length + line.length) :
    Ensures (NoColumns newCols) (reflowLines rows oldCols newCols (some a) cursorCol) fun out =>
      out.2 = some ((before.flatMap (recut newCols)).length +
        min (((a - before.flatten.length) * oldCols + cursorCol) / newCols) ((recut newCols line).length - 1)) := by
  have folded : Ensures (NoColumns newCols)
      ((before ++ line :: after).foldlM (reflowStep oldCols newCols (some a) cursorCol) {}) fun state =>
        state.newCursorRow = some ((before.flatMap (recut newCols)).length +
          min (((a - before.flatten.length) * oldCols + cursorCol) / newCols) ((recut newCols line).length - 1)) := by
    rw [List.foldlM_append]
    refine (reflowLines_away before (.inr (by simpa using low))).bind fun first is => ?_
    subst is
    rw [List.foldlM_cons]
    refine (reflowStep_here (by simpa using low) (by simpa using high)).bind fun here is => ?_
    subst is
    refine (reflowLines_away after (.inl (by simpa using high))).weaken fun last is => ?_
    rw [is]
    simp
  rw [reflowLines, split]
  exact folded.bind fun last is => ensures_ok is

end Reflow

def lineCell (g : Grid) (line offset : Nat) : Cell :=
  ((((logicalLines g.allRows)[line]?.getD []).flatMap Row.cells)[offset]?).getD .blank

/-- The row has the cells of this piece of a line, the pieces being `cols` wide. -/
def IsPiece (g : Grid) (cols : Nat) (row : Row) (place : Nat × Nat) : Prop :=
  ∀ j < cols, row.cells[j]? = some (g.lineCell place.1 (place.2 * cols + j))

theorem padded_at {cells : List Cell} {cols j : Nat} (short : cells.length ≤ cols) (inside : j < cols) :
    (cells ++ List.replicate (cols - cells.length) .blank)[j]? = some (cells[j]?.getD .blank) := by
  by_cases within : j < cells.length
  next => rw [List.getElem?_append_left within, List.getElem?_eq_getElem within, Option.getD_some]
  next =>
    have beyond := Nat.le_of_not_lt within
    rw [List.getElem?_append_right beyond, List.getElem?_replicate_of_lt (by omega), List.getElem?_eq_none beyond,
      Option.getD_none]

theorem resize_cells (row : Row) {cols j : Nat} (inside : j < cols) :
    (row.resize cols).cells[j]? = some (row.cells[j]?.getD .blank) := by
  have padding : cols - row.cells.length = cols - (row.cells.take cols).length := by
    rw [List.length_take]
    omega
  rw [Row.resize, padding, padded_at (List.length_take_le ..) inside, List.getElem?_take_of_lt inside]

theorem cutRow_cells (cells : List Cell) {newCols j : Nat} (r : Nat) (inside : j < newCols) :
    (cutRow cells newCols r).cells[j]? = some (cells[r * newCols + j]?.getD .blank) := by
  have stop : min ((r + 1) * newCols) cells.length - r * newCols = min newCols (cells.length - r * newCols) := by
    rw [Nat.add_mul]
    omega
  rw [cutRow]
  dsimp only
  rw [padded_at _ inside, stop, List.getElem?_take, List.getElem?_drop]
  next =>
    split
    next => rfl
    next => rw [List.getElem?_eq_none (by omega)]
  next =>
    rw [stop, List.length_take]
    omega

theorem isBlank_eq {cell : Cell} (blank : cell.isBlank = true) : cell = .blank := by
  simp only [Cell.isBlank, CellAttrs.isDefault, Bool.and_eq_true, beq_iff_eq, decide_eq_true_eq, Option.isNone_iff_eq_none]
    at blank
  obtain ⟨⟨⟨⟨⟨c, width⟩, attrs⟩, fg⟩, bg⟩, hyperlink⟩ := blank
  cases cell
  simp_all [Cell.blank]

theorem recut_cells {newCols : Nat} {line : List Row} {i : Nat} {row : Row} (found : (recut newCols line)[i]? = some row)
    {j : Nat} (inside : j < newCols) :
    row.cells[j]? = some ((line.flatMap Row.cells)[i * newCols + j]?.getD .blank) := by
  by_cases single : line.length = 1
  next =>
    obtain ⟨only, rfl⟩ := List.length_eq_one_iff.mp single
    obtain ⟨low, rfl⟩ := List.getElem?_eq_some_iff.mp found
    obtain rfl : i = 0 := by simpa [recut] using low
    rw [List.flatMap_singleton, Nat.zero_mul, Nat.zero_add]
    exact resize_cells only inside
  next =>
    rw [recut_multi single] at found
    split at found
    next empty =>
      obtain ⟨low, rfl⟩ := List.getElem?_eq_some_iff.mp found
      have all := List.rdropWhile_eq_nil_iff.mp (List.length_eq_zero_iff.mp empty)
      have blank : ((line.flatMap Row.cells)[i * newCols + j]?.getD .blank) = .blank := by
        cases there : (line.flatMap Row.cells)[i * newCols + j]? with
        | none => rfl
        | some cell => exact isBlank_eq (all cell (List.mem_of_getElem? there))
      rw [blank]
      simp [Row.new, inside]
    next =>
      rw [List.getElem?_map, Option.map_eq_some_iff] at found
      obtain ⟨r, sits, rfl⟩ := found
      obtain ⟨low, rfl⟩ := List.getElem?_eq_some_iff.mp sits
      rw [List.getElem_range]
      exact cutRow_cells _ i inside

theorem line_at {g : Grid} {before after : List (List Row)} {line : List Row}
    (split : logicalLines g.allRows = before ++ line :: after) : (logicalLines g.allRows)[before.length]? = some line := by
  rw [split, List.getElem?_append_right (Nat.le_refl _), Nat.sub_self]
  rfl

theorem flatten_logicalLines (rows : List Row) : (logicalLines rows).flatten = rows := List.flatten_splitBy ..

theorem allRows_pieces {g : Grid} (sized : g.Sized) :
    List.Forall₂ (g.IsPiece g.cols) g.allRows (places 0 (logicalLines g.allRows)) := by
  have all := @forall₂_places _ (g.IsPiece g.cols) (logicalLines g.allRows) 0 fun before line after i row split found => by
    intro j inside
    have width : ∀ row ∈ line, row.cells.length = g.cols := by
      intro row member
      have within : row ∈ g.allRows := by
        rw [← flatten_logicalLines g.allRows, split]
        exact List.mem_flatten.mpr ⟨line, by simp, member⟩
      rcases List.mem_append.mp within with old | new
      next => exact sized.history row old
      next => exact sized.cells row new
    have there : j < row.cells.length := by rwa [width row (List.mem_of_getElem? found)]
    rw [lineCell, Nat.zero_add, line_at split, Option.getD_some, getElem?_flatMap_parts width i inside, found,
      Option.bind_some, List.getElem?_eq_getElem there, Option.getD_some]
  rwa [flatten_logicalLines] at all

theorem reflowed_pieces (g : Grid) (newCols : Nat) :
    List.Forall₂ (g.IsPiece newCols) (g.reflowed newCols) (places 0 ((logicalLines g.allRows).map (recut newCols))) := by
  rw [reflowed, List.flatMap_def]
  refine forall₂_places fun before rows after i row split found => ?_
  obtain ⟨first, rest, whole, rfl, later⟩ := List.map_eq_append_iff.mp split
  obtain ⟨line, more, rfl, rfl, rfl⟩ := List.map_eq_cons_iff.mp later
  intro j inside
  rw [lineCell, Nat.zero_add, List.length_map, line_at whole]
  exact recut_cells found inside

def Shows (g : Grid) (cols : Nat) (row : Row) : Option (Nat × Nat) -> Prop
  | some place => g.IsPiece cols row place
  | none => row = Row.new cols

def placesAfter (g : Grid) (newCols newRows : Nat) : List (Option (Nat × Nat)) :=
  if newCols ≠ g.cols then
    let kept := (places 0 ((logicalLines g.allRows).map (recut newCols))).drop (g.overflow newCols newRows)
    kept.map some ++ List.replicate (newRows - kept.length) none
  else
    let older := (places 0 (logicalLines g.allRows)).take g.scrollback.length
    let visible := (places 0 (logicalLines g.allRows)).drop g.scrollback.length
    if g.lines.length < newRows then
      let pulled := older.drop (g.scrollback.length - (newRows - g.lines.length))
      (pulled.reverse ++ visible).map some ++ List.replicate (newRows - pulled.length - g.lines.length) none
    else
      ((visible.take (g.lines.length - g.dropped newRows)).drop
        (g.lines.length - newRows - g.dropped newRows)).map some

theorem columnsChanged_resizeRows (g : Grid) (newCols newRows : Nat) :
    ((g.columnsChanged newCols newRows).resizeRows newCols newRows).1.lines =
        (g.reflowed newCols).drop (g.overflow newCols newRows) ++
          List.replicate (newRows - ((g.reflowed newCols).drop (g.overflow newCols newRows)).length) (Row.new newCols) ∧
      ((g.columnsChanged newCols newRows).resizeRows newCols newRows).2 = 0 := by
  have count : ((g.reflowed newCols).drop (g.overflow newCols newRows)).length =
      (g.reflowed newCols).length - g.overflow newCols newRows := List.length_drop
  have overflow : g.overflow newCols newRows = (g.reflowed newCols).length - newRows := rfl
  rw [resizeRows]
  split
  next short =>
    have none : g.overflow newCols newRows = 0 := by
      have short : ((g.reflowed newCols).drop (g.overflow newCols newRows)).length < newRows := short
      omega
    have history : (g.columnsChanged newCols newRows).scrollback = [] := by simp [columnsChanged, none, trimFront]
    simp only [growRows, history, List.reverse_nil, List.take_nil, List.map_nil, List.nil_append, List.length_nil,
      Nat.min_zero]
    exact ⟨rfl, rfl⟩
  next full =>
    have full : newRows ≤ ((g.reflowed newCols).drop (g.overflow newCols newRows)).length := Nat.le_of_not_lt full
    have all : (g.columnsChanged newCols newRows).lines.length - newRows = 0 := by
      show ((g.reflowed newCols).drop (g.overflow newCols newRows)).length - newRows = 0
      omega
    rw [all, shrinkRows, Nat.sub_eq_zero_of_le full, List.replicate_zero, List.append_nil]
    exact ⟨rfl, rfl⟩

theorem resized_lines_cols {g : Grid} {newCols : Nat} (change : newCols ≠ g.cols) (newRows : Nat) :
    (g.resized newCols newRows).lines = (g.reflowed newCols).drop (g.overflow newCols newRows) ++
      List.replicate (newRows - ((g.reflowed newCols).drop (g.overflow newCols newRows)).length) (Row.new newCols) := by
  rw [resized, if_neg fun same => change same.1]
  simp only [change, ne_eq, not_false_eq_true, if_true]
  exact (g.columnsChanged_resizeRows newCols newRows).1

theorem forall₂_blank (g : Grid) (cols count : Nat) :
    List.Forall₂ (g.Shows cols) (List.replicate count (Row.new cols)) (List.replicate count none) := by
  induction count with
  | zero => exact .nil
  | succ count ih => exact .cons rfl ih

theorem resized_pieces {g : Grid} (sized : g.Sized) (newCols : Nat) {newRows : Nat} (someRows : 0 < newRows) :
    List.Forall₂ (g.Shows newCols) (g.resized newCols newRows).lines (g.placesAfter newCols newRows) := by
  have pieces {rows : List Row} {places : List (Nat × Nat)} (all : List.Forall₂ (g.IsPiece newCols) rows places) :
      List.Forall₂ (g.Shows newCols) rows (places.map some) := List.forall₂_map_right_iff.mpr all
  rw [placesAfter]
  split
  next change =>
    have kept := List.forall₂_drop (g.overflow newCols newRows) (g.reflowed_pieces newCols)
    rw [resized_lines_cols change, kept.length_eq]
    exact List.rel_append (pieces kept) (g.forall₂_blank newCols _)
  next same =>
    obtain rfl : newCols = g.cols := not_not.mp same
    have all := allRows_pieces sized
    have older : List.Forall₂ (g.IsPiece g.cols) g.scrollback _ :=
      @List.take_left _ g.scrollback g.lines ▸ List.forall₂_take g.scrollback.length all
    have visible : List.Forall₂ (g.IsPiece g.cols) g.lines _ :=
      @List.drop_left _ g.scrollback g.lines ▸ List.forall₂_drop g.scrollback.length all
    rw [(resized_rowsAfter sized someRows).1, rowsAfter]
    split
    next grows =>
      have pulled := List.forall₂_drop (g.scrollback.length - (newRows - g.lines.length)) older
      rw [Grid.pulled, pulled.length_eq]
      exact List.rel_append (pieces (List.rel_append (List.rel_reverse pulled) visible)) (g.forall₂_blank g.cols _)
    next => exact pieces (List.forall₂_drop _ (List.forall₂_take _ visible))

def placedCell (cols : Nat) (places : List (Option (Nat × Nat))) (row col : Nat) : Option (Nat × Nat) :=
  (places[row]?).bind fun place => place.map fun piece => (piece.1, piece.2 * cols + col)

def cursorCell (g : Grid) (row col : Nat) : Option (Nat × Nat) :=
  (places 0 (logicalLines g.allRows))[g.scrollback.length + row]?.map fun piece => (piece.1, piece.2 * g.cols + col)

def rowsDelta (g : Grid) (newRows : Nat) : Int :=
  if g.lines.length < newRows then (g.pulled newRows).length
  else -(g.lines.length - newRows - g.dropped newRows : Nat)

theorem resizeRows_delta {g : Grid} (sized : g.Sized) {newRows : Nat} (someRows : 0 < newRows)
    (cursor : Option (Nat × Nat)) :
    g.resizeWithCursor g.cols newRows cursor = .ok (g.resized g.cols newRows, g.rowsDelta newRows) := by
  have moved : (g.resizeRows g.cols newRows).2 = g.rowsDelta newRows := by
    rw [resizeRows, rowsDelta]
    split
    next =>
      rw [growRows, pulled, List.length_drop]
      dsimp only
      congr 1
      omega
    next full =>
      rw [shrinkRows_eq g 0 someRows (Nat.le_of_not_lt full) sized.bounded, Int.zero_sub]
  by_cases same : newRows = g.rows
  next =>
    have still : g.rowsDelta newRows = 0 := by
      rw [rowsDelta, if_neg (by rw [sized.lines]; omega), sized.lines]
      omega
    rw [still, same]
    simp [resizeWithCursor, resized]
  next =>
    rw [resized_rows_eq sized, resizeWithCursor, if_neg fun both => same both.2, if_neg (not_not.mpr rfl), ok_bind]
    simp only [moved, Int.zero_add]

theorem resizeCols_delta (g : Grid) {newCols : Nat} (someCols : 0 < newCols) (change : newCols ≠ g.cols) (newRows : Nat)
    {row col : Nat} {before after : List (List Row)} {line : List Row}
    (split : logicalLines g.allRows = before ++ line :: after) (low : before.flatten.length ≤ g.scrollback.length + row)
    (high : g.scrollback.length + row < before.flatten.length + line.length) :
    g.resizeWithCursor newCols newRows (some (row, col)) = .ok (g.resized newCols newRows,
      ((before.flatMap (recut newCols)).length +
        min (((g.scrollback.length + row - before.flatten.length) * g.cols + col) / newCols)
          ((recut newCols line).length - 1) - g.overflow newCols newRows : Nat) - row) := by
  have cursor := @reflowLines_cursor g.cols newCols (g.scrollback.length + row) col g.allRows before after line split low high
  have rows := reflowLines_rows newCols g.allRows g.cols (some (g.scrollback.length + row)) col
  cases ran : reflowLines g.allRows g.cols newCols (some (g.scrollback.length + row)) col with
  | error panic =>
    rw [ran] at rows
    exact absurd rows.2 (Nat.ne_of_gt someCols)
  | ok out =>
    obtain ⟨reflowed, newAbs⟩ := out
    rw [ran] at rows cursor
    obtain rfl : reflowed = g.reflowed newCols := rows
    obtain rfl := cursor
    have count : (g.reflowed newCols).length - min (g.reflowed newCols).length newRows = g.overflow newCols newRows := by
      rw [overflow]
      omega
    have columns : g.resizeCols newCols newRows (some (row, col)) = .ok (g.columnsChanged newCols newRows,
        ((before.flatMap (recut newCols)).length +
          min (((g.scrollback.length + row - before.flatten.length) * g.cols + col) / newCols)
            ((recut newCols line).length - 1) - g.overflow newCols newRows : Nat) - row) := by
      rw [resizeCols, ← count]
      dsimp only [Option.map_some, Option.getD_some]
      rw [← allRows, ran, ok_bind]
      simp only [columnsChanged, ← count]
    have still := (g.columnsChanged_resizeRows newCols newRows).2
    rw [resizeWithCursor, if_neg fun both => change both.1, if_pos change, columns, ok_bind, resized,
      if_neg fun both => change both.1, if_pos change]
    simp only [still, Int.add_zero]

def InView (cols : Nat) (places : List (Option (Nat × Nat))) (cell : Nat × Nat) : Prop :=
  ∃ i j, j < cols ∧ placedCell cols places i j = some cell

theorem placedCell_some {cols row col : Nat} {places : List (Option (Nat × Nat))} {cell : Nat × Nat} :
    placedCell cols places row col = some cell ↔
      ∃ piece, places[row]? = some (some (cell.1, piece)) ∧ piece * cols + col = cell.2 := by
  obtain ⟨number, offset⟩ := cell
  constructor
  next =>
    intro placed
    obtain ⟨place, found, mapped⟩ := Option.bind_eq_some_iff.mp placed
    obtain ⟨⟨_, piece⟩, rfl, same⟩ := Option.map_eq_some_iff.mp mapped
    obtain ⟨rfl, rfl⟩ := Prod.mk.inj same
    exact ⟨piece, found, rfl⟩
  next =>
    rintro ⟨piece, found, rfl⟩
    rw [placedCell, found]
    rfl

theorem cursorCell_split {g : Grid} {row col : Nat} {cell : Nat × Nat} (is : g.cursorCell row col = some cell) :
    ∃ before line after piece, logicalLines g.allRows = before ++ line :: after ∧ piece < line.length ∧
      g.scrollback.length + row = before.flatten.length + piece ∧ cell = (before.length, piece * g.cols + col) := by
  obtain ⟨place, found, rfl⟩ := Option.map_eq_some_iff.mp is
  obtain ⟨before, line, after, piece, split, inside, sits, rfl⟩ := places_found found
  exact ⟨before, line, after, piece, split, inside, sits, by rw [Nat.zero_add]⟩

theorem cursorCell_ok {g : Grid} (sized : g.Sized) {row : Nat} (inside : row < g.rows) (col : Nat) :
    ∃ cell, g.cursorCell row col = some cell := by
  have there : g.scrollback.length + row < (places 0 (logicalLines g.allRows)).length := by
    rw [length_places, flatten_logicalLines, allRows, List.length_append, sized.lines]
    omega
  exact ⟨_, by rw [cursorCell, List.getElem?_eq_getElem there]; rfl⟩

theorem offset_parts {offset cols piece col : Nat} (inside : col < cols) (is : piece * cols + col = offset) :
    offset / cols = piece ∧ offset % cols = col :=
  (Nat.div_mod_unique (Nat.zero_lt_of_lt inside)).mpr ⟨by rw [← is, Nat.add_comm, Nat.mul_comm], inside⟩

theorem cursorCell_iff {g : Grid} {row col r c piece : Nat} {cell : Nat × Nat} (inCol : col < g.cols) (inside : c < g.cols)
    (is : g.cursorCell row col = some cell)
    (found : (places 0 (logicalLines g.allRows))[g.scrollback.length + r]? = some (cell.1, piece))
    (offset : piece * g.cols + c = cell.2) : r = row := by
  obtain ⟨⟨number, whole⟩, there, rfl⟩ := Option.map_eq_some_iff.mp is
  have same := (offset_parts inside offset).1.symm.trans (offset_parts inCol rfl).1
  subst same
  exact Nat.add_left_cancel (places_inj found there)

theorem rows_follow {g : Grid} (sized : g.Sized) {row col newRows : Nat} (inRow : row < g.rows) (inCol : col < g.cols)
    {cell : Nat × Nat} (is : g.cursorCell row col = some cell)
    (inView : InView g.cols (g.placesAfter g.cols newRows) cell) :
    placedCell g.cols (g.placesAfter g.cols newRows) (min (row + g.rowsDelta newRows).toNat (newRows - 1)) col =
      some cell := by
  have count := sized.lines
  have unchanged : ¬ g.cols ≠ g.cols := not_not.mpr rfl
  obtain ⟨place, there, rfl⟩ := Option.map_eq_some_iff.mp is
  refine placedCell_some.mpr ⟨place.2, ?_, rfl⟩
  have older : ((places 0 (logicalLines g.allRows)).take g.scrollback.length).length = g.scrollback.length := by
    rw [List.length_take, length_places, flatten_logicalLines, allRows, List.length_append]
    omega
  rw [placesAfter, if_neg unchanged, rowsDelta]
  by_cases grows : g.lines.length < newRows
  next =>
    -- The rows taken back push the cursor's row down.
    rw [if_pos grows, if_pos grows]
    have pulled : (((places 0 (logicalLines g.allRows)).take g.scrollback.length).drop
        (g.scrollback.length - (newRows - g.lines.length))).length = (g.pulled newRows).length := by
      rw [List.length_drop, older, Grid.pulled, List.length_drop]
    have atMost : (g.pulled newRows).length ≤ newRows - g.lines.length := by
      rw [Grid.pulled, List.length_drop]
      omega
    have newRow : min (row + ((g.pulled newRows).length : Int)).toNat (newRows - 1) = (g.pulled newRows).length + row := by
      omega
    have whole : (places 0 (logicalLines g.allRows)).length = g.scrollback.length + g.lines.length := by
      rw [length_places, flatten_logicalLines, allRows, List.length_append]
    have within : (g.pulled newRows).length + row < (g.pulled newRows).length +
        ((places 0 (logicalLines g.allRows)).drop g.scrollback.length).length := by
      rw [List.length_drop, whole]
      omega
    rw [newRow]
    dsimp only
    rw [List.getElem?_append_left (by rw [List.length_map, List.length_append, List.length_reverse, pulled]; exact within), List.getElem?_map,
      List.getElem?_append_right (by rw [List.length_reverse, pulled]; omega), List.length_reverse, pulled,
      Nat.add_sub_cancel_left, List.getElem?_drop, there]
    rfl
  next =>
    -- The rows that leave at the top take the cursor's row up.
    rw [if_neg grows, if_neg grows]
    obtain ⟨i, j, inside, placed⟩ := inView
    obtain ⟨piece, found, offset⟩ := placedCell_some.mp placed
    rw [placesAfter, if_neg unchanged, if_neg grows] at found
    have kept := found
    rw [List.getElem?_map, Option.map_eq_some_iff] at kept
    obtain ⟨_, shown, labelled⟩ := kept
    obtain rfl := Option.some.inj labelled
    rw [List.getElem?_drop, List.getElem?_take] at shown
    split at shown
    next inView =>
      rw [List.getElem?_drop] at shown
      have same := cursorCell_iff inCol inside is shown offset
      have dropped : g.dropped newRows ≤ g.lines.length - newRows := Nat.min_le_left ..
      have newRow : min (row + -((g.lines.length - newRows - g.dropped newRows : Nat) : Int)).toNat (newRows - 1) = i := by
        omega
      rw [same, there] at shown
      rw [newRow, found, ← Option.some.inj shown]
    next => cases shown

theorem cols_follow {g : Grid} {row col newCols newRows newCol : Nat} (someCols : 0 < newCols) (change : newCols ≠ g.cols)
    {cell : Nat × Nat} (is : g.cursorCell row col = some cell)
    (inView : InView newCols (g.placesAfter newCols newRows) cell) {delta : Int}
    (ran : g.resizeWithCursor newCols newRows (some (row, col)) = .ok (g.resized newCols newRows, delta)) :
    placedCell newCols (g.placesAfter newCols newRows) (min (row + delta).toNat (newRows - 1)) newCol = some cell ↔
      cell.2 % newCols = newCol := by
  -- The line of the cursor, and the piece of it that the cursor is in; both have a place after the reflow.
  obtain ⟨before, line, after, piece, split, inside, sits, rfl⟩ := cursorCell_split is
  obtain ⟨i, j, inCol, placed⟩ := inView
  obtain ⟨k, found, offset⟩ := placedCell_some.mp placed
  obtain ⟨quotient, remainder⟩ := offset_parts inCol offset
  have moved := @resizeCols_delta g newCols someCols change newRows row col before after line split (by omega) (by omega)
  rw [ran] at moved
  have moved := (Prod.mk.inj (Except.ok.inj moved)).2
  rw [sits, Nat.add_sub_cancel_left, quotient] at moved
  have cut := found
  rw [placesAfter, if_pos change] at cut
  dsimp only at cut
  rw [List.getElem?_append] at cut
  split at cut
  next within =>
    rw [List.length_map, List.length_drop, length_places] at within
    rw [List.getElem?_map, Option.map_eq_some_iff] at cut
    obtain ⟨_, shown, labelled⟩ := cut
    obtain rfl := Option.some.inj labelled
    rw [List.getElem?_drop] at shown
    obtain ⟨before', line', after', _, split', inside', sits', same⟩ := places_found shown
    obtain ⟨number, rfl⟩ := Prod.mk.inj same
    rw [split, List.map_append, List.map_cons] at split'
    have firsts : (before.map (recut newCols)).length = before'.length := by
      rw [List.length_map, number, Nat.zero_add]
    obtain ⟨rfl, rests⟩ := List.append_inj split' firsts
    obtain ⟨rfl, -⟩ := List.cons.inj rests
    rw [← List.flatMap_def] at sits'
    have few : ((logicalLines g.allRows).map (recut newCols)).flatten.length - g.overflow newCols newRows ≤ newRows := by
      rw [← List.flatMap_def, overflow, reflowed]
      omega
    have newRow : min (row + delta).toNat (newRows - 1) = i := by omega
    rw [newRow, placedCell_some, found]
    constructor
    next =>
      rintro ⟨other, shared, also⟩
      obtain rfl : k = other := (Prod.mk.inj (Option.some.inj (Option.some.inj shared))).2
      exact remainder.trans (Nat.add_left_cancel (offset.trans also.symm))
    next =>
      intro column
      exact ⟨k, rfl, by rw [← column, remainder, offset]⟩
  next =>
    rw [List.getElem?_replicate] at cut
    split at cut
    next => cases cut
    next => cases cut

end Grid

namespace Screen

open Grid

def KeepsCell (s next : Screen) (cell : Nat × Nat) : Prop :=
  placedCell next.cols (s.grid.placesAfter next.cols next.rows) next.cursor.row next.cursor.col = some cell

instance (s next : Screen) (cell : Nat × Nat) : Decidable (s.KeepsCell next cell) := inferInstanceAs (Decidable (_ = _))

/-- A resize moves the pieces of the logical lines to the rows of `placesAfter`. Where the cell of the cursor is still in
view, the cursor stays on it if and only if the columns do not change, or the cell comes to the column that the cursor
had, or to the last one. -/
theorem resize_keeps_cell {s : Screen} (sized : s.grid.Sized) (row : s.cursor.row < s.rows) (col : s.cursor.col < s.cols)
    {newCols newRows : Nat} (someCols : 0 < newCols) (someRows : 0 < newRows) :
    ∃ next cell, s.resize newCols newRows = .ok next ∧ s.grid.cursorCell s.cursor.row s.cursor.col = some cell ∧
      List.Forall₂ (s.grid.Shows newCols) next.grid.lines (s.grid.placesAfter newCols newRows) ∧
      (InView newCols (s.grid.placesAfter newCols newRows) cell ->
        (s.KeepsCell next cell ↔ newCols = s.cols ∨ cell.2 % newCols = min s.cursor.col (newCols - 1))) := by
  obtain ⟨cell, is⟩ := cursorCell_ok sized row s.cursor.col
  have pieces := resized_pieces sized newCols someRows
  by_cases change : newCols = s.grid.cols
  next =>
    subst change
    refine ⟨_, cell, resize_to someCols (resizeRows_delta sized someRows _), is, pieces, fun inView => ?_⟩
    refine iff_of_true ?_ (.inl rfl)
    have column : min s.cursor.col (s.grid.cols - 1) = s.cursor.col := Nat.min_eq_left (Nat.le_sub_one_of_lt col)
    simp only [KeepsCell, resizedTo, Screen.cols, Screen.rows, resized_cols, resized_rows, column]
    exact rows_follow sized row col is inView
  next =>
    obtain ⟨delta, ran⟩ := s.grid.resizeWithCursor_ok newRows someCols (some (s.cursor.row, s.cursor.col))
    refine ⟨_, cell, resize_to someCols ran, is, pieces, fun inView => ?_⟩
    simp only [KeepsCell, resizedTo, Screen.cols, Screen.rows, resized_cols, resized_rows, change, false_or]
    exact cols_follow someCols change is inView ran

def twoRows : Screen :=
  { Screen.new 2 2 with
    grid :=
      { cols := 2
        rows := 2
        lines := [{ cells := ['a', 'b'].map fun c => { c } },
          { cells := ['c', 'd'].map fun c => { c }, flags := { continuation := true } }] }
    cursor := { row := 1, col := 0 } }

theorem resize_keeps_cell_narrow :
    ∃ next cell, twoRows.resize 1 4 = .ok next ∧ twoRows.grid.cursorCell 1 0 = some cell ∧ twoRows.KeepsCell next cell := by
  have sized : twoRows.grid.Sized := ⟨by decide, by decide, by decide, by decide⟩
  obtain ⟨next, cell, ran, is, -, follows⟩ :=
    @resize_keeps_cell twoRows sized (by decide) (by decide) 1 4 (by decide) (by decide)
  obtain rfl : (0, 2) = cell := Option.some.inj is
  exact ⟨next, (0, 2), ran, is, (follows ⟨2, 0, by decide, by decide⟩).mpr (.inr (by decide))⟩

/-- In four columns the line is one row, and the cursor is on its first cell. -/
theorem resize_misses_cell :
    ∃ next, twoRows.resize 4 2 = .ok next ∧ twoRows.grid.cursorCell 1 0 = some (0, 2) ∧
      InView 4 (twoRows.grid.placesAfter 4 2) (0, 2) ∧ ¬ twoRows.KeepsCell next (0, 2) ∧
      (next.cursor.row, next.cursor.col) = (0, 0) ∧
      next.grid.lines.map (fun row => row.cells.map Cell.c) = [['a', 'b', 'c', 'd'], [' ', ' ', ' ', ' ']] :=
  ⟨_, rfl, by decide, ⟨0, 2, by decide, by decide⟩, by decide, by decide, by decide⟩

end Screen

end Emux
