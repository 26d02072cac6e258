import Emux.Library.Run
import Emux.Term.Reflow
import Emux.Term.GridEdits

set_option autoImplicit false

/-!
# What a resize computes

With at least one column the reflow never divides by zero, every row it makes has the new width,
and the row adjustment leaves exactly the new number of rows.
-/

namespace Emux

open Checked

namespace Grid

theorem length_cutRow (cells : List Cell) (newCols r : Nat) :
    (cutRow cells newCols r).cells.length = newCols := by
  have bound : min ((r + 1) * newCols) cells.length - r * newCols ≤ newCols := by
    rw [Nat.add_mul]
    omega
  simp only [cutRow, List.length_append, List.length_replicate, List.length_take, List.length_drop]
  omega

def contentLen (cells : List Cell) : Nat := (cells.rdropWhile Cell.isBlank).length

def recut (newCols : Nat) (line : List Row) : List Row :=
  match line with
  | [row] => [row.resize newCols]
  | _ =>
    let cells := line.flatMap Row.cells
    if contentLen cells = 0 then [Row.new newCols]
    else (List.range ((contentLen cells + newCols - 1) / newCols)).map (cutRow cells newCols)

theorem recut_multi {newCols : Nat} {line : List Row} (multi : line.length ≠ 1) :
    recut newCols line =
      if contentLen (line.flatMap Row.cells) = 0 then [Row.new newCols]
      else (List.range ((contentLen (line.flatMap Row.cells) + newCols - 1) / newCols)).map
        (cutRow (line.flatMap Row.cells) newCols) := by
  match line, multi with
  | [], _ => rfl
  | _ :: _ :: _, _ => rfl

theorem width_recut {newCols : Nat} {line : List Row} {row : Row} (member : row ∈ recut newCols line) :
    row.cells.length = newCols := by
  by_cases single : line.length = 1
  next =>
    obtain ⟨only, rfl⟩ := List.length_eq_one_iff.mp single
    rw [List.mem_singleton.mp member, Row.length_resize]
  next =>
    rw [recut_multi single] at member
    split at member
    next => rw [List.mem_singleton.mp member, Row.length_new]
    next =>
      obtain ⟨r, -, rfl⟩ := List.mem_map.mp member
      exact length_cutRow ..

/-- The reflow divides by the number of columns. -/
def NoColumns (newCols : Nat) (panic : Panic) : Prop := panic = .division ∧ newCols = 0

theorem reflowLine_exact (newCols : Nat) (line : List Row) (cursorOffset : Option Nat) :
    Ensures (NoColumns newCols) (reflowLine line newCols cursorOffset) fun out =>
      out = (recut newCols line, cursorOffset.map fun offset => min (offset / newCols) ((recut newCols line).length - 1)) := by
  -- A line of one row is cut or filled up; a longer one is joined and cut anew.
  by_cases single : line.length = 1
  next =>
    obtain ⟨only, rfl⟩ := List.length_eq_one_iff.mp single
    exact ensures_ok (Prod.ext rfl (by simp [recut]))
  next =>
    rw [recut_multi single]
    have unfolded : reflowLine line newCols cursorOffset =
        if contentLen (line.flatMap Row.cells) = 0 then
          .ok ([Row.new newCols], cursorOffset.map fun _ => 0)
        else (divCeil (contentLen (line.flatMap Row.cells)) newCols >>= fun numRows =>
          .ok ((List.range numRows).map (cutRow (line.flatMap Row.cells) newCols),
            cursorOffset.map fun offset =>
              if offset / newCols < numRows then offset / newCols else numRows - 1)) := by
      match line, single with
      | [], _ => rfl
      | _ :: _ :: _, _ => rfl
    rw [unfolded]
    split
    next => exact ensures_ok (by simp)
    next =>
      rw [divCeil]
      split
      next zero => exact ⟨rfl, zero⟩
      next =>
        refine ensures_ok (Prod.ext rfl ?_)
        simp only [List.length_map, List.length_range]
        refine congrArg (fun row => cursorOffset.map row) (funext fun offset => ?_)
        generalize (contentLen (line.flatMap Row.cells) + newCols - 1) / newCols = numRows
        split
        next inside => rw [Nat.min_eq_left (Nat.le_sub_one_of_lt inside)]
        next => rw [Nat.min_eq_right (by omega)]

theorem reflowLine_rows (newCols : Nat) (line : List Row) (cursorOffset : Option Nat) :
    Ensures (NoColumns newCols) (reflowLine line newCols cursorOffset) fun out => out.1 = recut newCols line :=
  (reflowLine_exact newCols line cursorOffset).weaken fun _ is => congrArg Prod.fst is

theorem reflowLines_rows (newCols : Nat) (rows : List Row) (oldCols : Nat) (cursorAbsRow : Option Nat)
    (cursorCol : Nat) :
    Ensures (NoColumns newCols) (reflowLines rows oldCols newCols cursorAbsRow cursorCol) fun out =>
      out.1 = (logicalLines rows).flatMap (recut newCols) := by
  have fold (lines : List (List Row)) (state : ReflowState) :
      Ensures (NoColumns newCols) (lines.foldlM (reflowStep oldCols newCols cursorAbsRow cursorCol) state) fun last =>
        last.result = state.result ++ lines.flatMap (recut newCols) := by
    induction lines generalizing state with
    | nil => exact (List.append_nil _).symm
    | cons line lines ih =>
      rw [List.foldlM_cons]
      have step : Ensures (NoColumns newCols) (reflowStep oldCols newCols cursorAbsRow cursorCol state line)
          fun next => next.result = state.result ++ recut newCols line :=
        (reflowLine_rows newCols line _).bind fun out cut => congrArg (state.result ++ ·) cut
      refine step.bind fun next same => (ih next).weaken fun last final => ?_
      rw [final, same, List.flatMap_cons, List.append_assoc]
  refine (fold (logicalLines rows) {}).bind fun last result => ?_
  exact result

def allRows (g : Grid) : List Row := g.scrollback ++ g.lines

def reflowed (g : Grid) (newCols : Nat) : List Row := (logicalLines g.allRows).flatMap (recut newCols)

def overflow (g : Grid) (newCols newRows : Nat) : Nat := (g.reflowed newCols).length - newRows

def columnsChanged (g : Grid) (newCols newRows : Nat) : Grid :=
  { g with
    scrollback := trimFront g.scrollbackLimit ((g.reflowed newCols).take (g.overflow newCols newRows))
    lines := (g.reflowed newCols).drop (g.overflow newCols newRows)
    cols := newCols }

theorem resizeCols_rows (g : Grid) (newCols newRows : Nat) (cursor : Option (Nat × Nat)) :
    Ensures (NoColumns newCols) (g.resizeCols newCols newRows cursor) fun out =>
      out.1 = g.columnsChanged newCols newRows := by
  refine (reflowLines_rows newCols (g.scrollback ++ g.lines) g.cols _ _).bind fun out rows => ?_
  obtain ⟨reflowed, newAbs⟩ := out
  have same : reflowed = g.reflowed newCols := rows
  have split : (g.reflowed newCols).length - min (g.reflowed newCols).length newRows =
      g.overflow newCols newRows := by
    simp only [overflow]
    omega
  subst same
  simp only [Ensures, split]
  rfl

theorem width_reflowed {g : Grid} {newCols : Nat} {row : Row} (member : row ∈ g.reflowed newCols) :
    row.cells.length = newCols := by
  obtain ⟨line, -, inside⟩ := List.mem_flatMap.mp member
  exact width_recut inside

theorem length_growRows {g : Grid} (newCols : Nat) {newRows : Nat} (grows : g.lines.length < newRows) :
    (g.growRows newCols newRows).1.lines.length = newRows := by
  simp only [growRows, List.length_append, List.length_map, List.length_take, List.length_reverse,
    List.length_replicate]
  omega

theorem shrinkRows_rows {good : Row -> Prop} (excess : Nat) (g : Grid) (delta : Int)
    (lines : ∀ row ∈ g.lines, good row) (history : ∀ row ∈ g.scrollback, good row) :
    (∀ row ∈ (shrinkRows excess g delta).1.lines, good row) ∧
      (∀ row ∈ (shrinkRows excess g delta).1.scrollback, good row) := by
  -- What the bound on the width of a row, or any other fact about rows, survives a shrink.
  induction excess generalizing g delta with
  | zero => exact ⟨lines, history⟩
  | succ excess ih =>
    rw [shrinkRows]
    split
    next last first rest atEnd whole =>
      split
      next =>
        exact ih _ _ (fun row member => lines row (List.dropLast_subset _ member)) history
      next =>
        refine ih _ _ (fun row member => lines row (whole ▸ List.mem_cons_of_mem _ member)) ?_
        intro row member
        rcases List.mem_append.mp (mem_of_mem_trimFront member) with old | new
        next => exact history row old
        next =>
          rw [List.mem_singleton.mp new]
          exact lines first (by rw [whole]; exact List.mem_cons_self)
    next => exact ih g delta lines history

theorem shrinkRows_frame (excess : Nat) (g : Grid) (delta : Int) (bounded : g.scrollback.length ≤ g.scrollbackLimit) :
    (shrinkRows excess g delta).1.lines.length = g.lines.length - excess ∧
      (shrinkRows excess g delta).1.scrollback.length ≤ g.scrollbackLimit ∧
      (shrinkRows excess g delta).1.scrollbackLimit = g.scrollbackLimit := by
  -- One row goes at a time, off the bottom or into the history.
  induction excess generalizing g delta with
  | zero => exact ⟨rfl, bounded, rfl⟩
  | succ excess ih =>
    rw [shrinkRows]
    split
    next last first rest atEnd whole =>
      split
      next =>
        obtain ⟨length, history, limit⟩ := ih { g with lines := g.lines.dropLast } delta bounded
        refine ⟨?_, history, limit⟩
        rw [length, List.length_dropLast]
        omega
      next =>
        obtain ⟨length, history, limit⟩ := ih ({ g with lines := rest }.pushScrollback first) (delta - 1)
          (by simp only [pushScrollback, length_trimFront]; omega)
        refine ⟨?_, history, limit⟩
        rw [length, whole]
        simp only [pushScrollback, List.length_cons]
        omega
    next missing =>
      obtain ⟨length, history, limit⟩ := ih g delta bounded
      have empty : g.lines = [] := by
        cases whole : g.lines with
        | nil => rfl
        | cons first rest =>
          have last := List.getLast?_eq_some_getLast (l := first :: rest) (by simp)
          exact (missing _ _ _ (by rw [whole]; exact last) whole).elim
      refine ⟨?_, history, limit⟩
      rw [length, empty]
      simp

theorem resizeRows_rows {good : Row -> Prop} {g : Grid} {newCols newRows : Nat}
    (lines : ∀ row ∈ g.lines, good row) (history : ∀ row ∈ g.scrollback, good row)
    (resized : ∀ row, good row -> good (row.resize newCols)) (blank : good (Row.new newCols)) :
    (∀ row ∈ (g.resizeRows newCols newRows).1.lines, good row) ∧
      (∀ row ∈ (g.resizeRows newCols newRows).1.scrollback, good row) := by
  rw [resizeRows]
  split
  next =>
    refine ⟨?_, fun row member => history row (List.take_subset _ _ member)⟩
    intro row member
    simp only [growRows, List.mem_append, List.mem_map, List.mem_replicate] at member
    rcases member with (⟨old, inside, rfl⟩ | old) | ⟨-, rfl⟩
    next => exact resized old (history old (List.mem_reverse.mp (List.take_subset _ _ inside)))
    next => exact lines row old
    next => exact blank
  next => exact shrinkRows_rows _ _ _ lines history

theorem resizeRows_frame {g : Grid} (newCols newRows : Nat)
    (bounded : g.scrollback.length ≤ g.scrollbackLimit) :
    (g.resizeRows newCols newRows).1.lines.length = newRows ∧
      (g.resizeRows newCols newRows).1.scrollback.length ≤ g.scrollbackLimit ∧
      (g.resizeRows newCols newRows).1.scrollbackLimit = g.scrollbackLimit := by
  rw [resizeRows]
  split
  next grows =>
    refine ⟨length_growRows newCols grows, ?_, rfl⟩
    simp only [growRows, List.length_take]
    omega
  next =>
    obtain ⟨length, history, limit⟩ := shrinkRows_frame (g.lines.length - newRows) g 0 bounded
    exact ⟨by omega, history, limit⟩

def resized (g : Grid) (newCols newRows : Nat) : Grid :=
  if newCols = g.cols ∧ newRows = g.rows then g
  else
    let changed := if newCols ≠ g.cols then g.columnsChanged newCols newRows else g
    { (changed.resizeRows newCols newRows).1 with cols := newCols, rows := newRows }

theorem resizeWithCursor_rows (g : Grid) (newCols newRows : Nat) (cursor : Option (Nat × Nat)) :
    Ensures (NoColumns newCols) (g.resizeWithCursor newCols newRows cursor) fun out =>
      out.1 = g.resized newCols newRows := by
  simp only [resizeWithCursor, resized]
  split
  next => exact rfl
  next =>
    split
    next => exact (g.resizeCols_rows newCols newRows cursor).bind fun out changed => by simp only [Ensures, changed]
    next => exact rfl

theorem resizeWithCursor_ok (g : Grid) {newCols : Nat} (newRows : Nat) (positive : 0 < newCols)
    (cursor : Option (Nat × Nat)) :
    ∃ delta, g.resizeWithCursor newCols newRows cursor = .ok (g.resized newCols newRows, delta) := by
  have ensured := g.resizeWithCursor_rows newCols newRows cursor
  cases result : g.resizeWithCursor newCols newRows cursor with
  | error panic =>
    rw [result] at ensured
    exact absurd ensured.2 (Nat.ne_of_gt positive)
  | ok out =>
    rw [result] at ensured
    exact ⟨out.2, congrArg Except.ok (Prod.ext ensured rfl)⟩

theorem resized_cols (g : Grid) (newCols newRows : Nat) : (g.resized newCols newRows).cols = newCols := by
  simp only [resized]
  split
  next same => exact same.1.symm
  next => rfl

theorem resized_rows (g : Grid) (newCols newRows : Nat) : (g.resized newCols newRows).rows = newRows := by
  simp only [resized]
  split
  next same => exact same.2.symm
  next => rfl

theorem Sized.resized {g : Grid} (sized : g.Sized) (newCols newRows : Nat) :
    (g.resized newCols newRows).Sized := by
  have bounded : (g.columnsChanged newCols newRows).scrollback.length ≤
      (g.columnsChanged newCols newRows).scrollbackLimit := by
    simp only [columnsChanged, length_trimFront]
    omega
  simp only [Grid.resized]
  split
  next => exact sized
  next =>
    split
    next =>
      obtain ⟨length, history, limit⟩ := resizeRows_frame newCols newRows bounded
      obtain ⟨lines, older⟩ := @resizeRows_rows (fun row => row.cells.length = newCols)
        (g.columnsChanged newCols newRows) newCols newRows
        (fun row member => width_reflowed (List.mem_of_mem_drop member))
        (fun row member => width_reflowed (List.mem_of_mem_take (mem_of_mem_trimFront member)))
        (fun row _ => Row.length_resize row newCols) (Row.length_new newCols)
      exact ⟨length, lines, older, limit ▸ history⟩
    next same =>
      have cols : newCols = g.cols := not_not.mp same
      obtain ⟨length, history, limit⟩ := resizeRows_frame newCols newRows sized.bounded
      obtain ⟨lines, older⟩ := @resizeRows_rows (fun row => row.cells.length = newCols) g newCols newRows
        (cols ▸ sized.cells) (cols ▸ sized.history) (fun row _ => Row.length_resize row newCols)
        (Row.length_new newCols)
      exact ⟨length, lines, older, limit ▸ history⟩

end Grid

end Emux
