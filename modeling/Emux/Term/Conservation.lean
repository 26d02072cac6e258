import Emux.Term.Resize
import Mathlib.Data.List.Range

set_option autoImplicit false

/-!
# What a resize keeps

The text of a grid is the list of its logical lines, blank cells at their ends and empty lines
at the end left out. A change of the number of columns keeps the text of every line of two rows
or more; a change of the number of rows alone moves rows between viewport and scrollback.
-/

namespace Emux

open Checked

/-! ## Trailing blanks -/

section RDrop

variable {A : Type} (blank : A -> Bool)

theorem rdropWhile_append_all (xs ys : List A) (all : ∀ y ∈ ys, blank y = true) :
    (xs ++ ys).rdropWhile blank = xs.rdropWhile blank := by
  induction ys using List.reverseRecOn with
  | nil => simp
  | append_singleton ys y ih =>
    rw [← List.append_assoc, List.rdropWhile_concat_pos _ _ _ (all y (by simp))]
    exact ih fun z member => all z (by simp [member])

theorem rdropWhile_rest (xs : List A) :
    ∃ rest, xs = xs.rdropWhile blank ++ rest ∧ ∀ x ∈ rest, blank x = true := by
  induction xs using List.reverseRecOn with
  | nil => exact ⟨[], by simp, by simp⟩
  | append_singleton xs x ih =>
    by_cases last : blank x = true
    next =>
      obtain ⟨rest, whole, all⟩ := ih
      refine ⟨rest ++ [x], ?_, ?_⟩
      next =>
        rw [List.rdropWhile_concat_pos _ _ _ last, ← List.append_assoc, ← whole]
      next =>
        intro y member
        rcases List.mem_append.mp member with old | new
        next => exact all y old
        next => rw [List.mem_singleton.mp new]; exact last
    next => exact ⟨[], by rw [List.rdropWhile_concat_neg _ _ _ last]; simp, by simp⟩

end RDrop

/-! ## Logical lines -/

def isContinuation (row : Row) : Bool := row.flags.continuation

def joined (line : List Row) : List Cell := (line.flatMap Row.cells).rdropWhile Cell.isBlank

def lineTexts (lines : List (List Row)) : List (List Cell) := (lines.map joined).rdropWhile List.isEmpty

def contents (rows : List Row) : List (List Cell) := lineTexts (logicalLines rows)

/-- A logical line of one row is cut to the new width, a longer one is whole. -/
def cutSingle (newCols : Nat) (line : List Row) : List Row :=
  if line.length = 1 then line.map fun row => row.edit (List.take newCols) else line

theorem joined_append_blank {line : List Row} {cells : List Cell} (all : ∀ cell ∈ cells, cell.isBlank = true)
    {more : List Cell} (whole : line.flatMap Row.cells = more ++ cells) :
    joined line = more.rdropWhile Cell.isBlank := by
  rw [joined, whole, rdropWhile_append_all _ _ _ all]

theorem isBlank_replicate (count : Nat) : ∀ cell ∈ List.replicate count Cell.blank, cell.isBlank = true := by
  intro cell member
  rw [(List.mem_replicate.mp member).2]
  rfl

theorem cells_cutRows (cells : List Cell) (newCols count : Nat) :
    ((List.range count).map (Grid.cutRow cells newCols)).flatMap Row.cells =
      cells.take (count * newCols) ++ List.replicate (count * newCols - cells.length) .blank := by
  -- The first `count` rows cut from a line hold its first `count * newCols` cells.
  induction count with
  | zero => simp
  | succ count ih =>
    rw [List.range_succ, List.map_append, List.flatMap_append, ih]
    have next : (count + 1) * newCols = count * newCols + newCols := Nat.succ_mul ..
    simp only [List.map_singleton, List.flatMap_singleton, Grid.cutRow, next]
    by_cases inside : count * newCols ≤ cells.length
    next =>
      have none : count * newCols - cells.length = 0 := by omega
      rw [none, List.replicate_zero, List.append_nil, ← List.append_assoc]
      congr 1
      next =>
        rw [List.take_add]
        congr 1
        apply List.take_eq_take_iff.mpr
        rw [List.length_drop]
        omega
      next =>
        congr 1
        simp only [List.length_take, List.length_drop]
        omega
    next =>
      have drained : cells.drop (count * newCols) = [] := List.drop_eq_nil_of_le (by omega)
      rw [drained, List.take_nil, List.nil_append, List.length_nil, List.take_of_length_le (by omega),
        List.take_of_length_le (by omega), List.append_assoc, List.replicate_append_replicate]
      congr 2
      omega

theorem joined_recut {newCols : Nat} (positive : 0 < newCols) (line : List Row) :
    joined (Grid.recut newCols line) = joined (cutSingle newCols line) := by
  -- A line of one row takes the branch that cuts it; all others are joined and recut.
  by_cases single : line.length = 1
  next =>
    obtain ⟨row, rfl⟩ := List.length_eq_one_iff.mp single
    have whole : (Grid.recut newCols [row]).flatMap Row.cells =
        row.cells.take newCols ++ List.replicate (newCols - row.cells.length) .blank := by
      simp [Grid.recut, Row.resize]
    rw [joined_append_blank (isBlank_replicate _) whole]
    simp [joined, cutSingle, Row.edit]
  next =>
    rw [Grid.recut_multi single, cutSingle, if_neg single]
    generalize cellsIs : line.flatMap Row.cells = cells
    obtain ⟨rest, whole, blank⟩ := rdropWhile_rest Cell.isBlank cells
    split
    next empty =>
      have content : cells.rdropWhile Cell.isBlank = [] := List.length_eq_zero_iff.mp empty
      have empty : joined line = [] := by rw [joined, cellsIs, content]
      have none := rdropWhile_append_all Cell.isBlank [] _ (isBlank_replicate newCols)
      rw [empty]
      simpa [joined, Row.new] using none
    next some =>
      generalize countIs : (Grid.contentLen cells + newCols - 1) / newCols = count
      have enough : Grid.contentLen cells ≤ count * newCols := by
        have bound := Nat.div_add_mod (Grid.contentLen cells + newCols - 1) newCols
        have small := Nat.mod_lt (Grid.contentLen cells + newCols - 1) positive
        rw [countIs, Nat.mul_comm] at bound
        omega
      have kept : cells.take (count * newCols) =
          cells.rdropWhile Cell.isBlank ++ rest.take (count * newCols - Grid.contentLen cells) := by
        conv => lhs; rw [whole]
        rw [List.take_append, List.take_of_length_le enough]
        rfl
      have pieces := cells_cutRows cells newCols count
      rw [joined_append_blank (isBlank_replicate _) pieces, kept,
        rdropWhile_append_all _ _ _ fun cell member => blank cell (List.mem_of_mem_take member),
        List.rdropWhile_idempotent]
      rw [joined, cellsIs]

def Row.isDefault (row : Row) : Bool := row.cells.all Cell.isBlank

theorem isDefault_new (cols : Nat) : (Row.new cols).isDefault = true :=
  List.all_eq_true.mpr (isBlank_replicate cols)

/-! ## The logical lines of the reflowed rows -/

theorem recut_ne_nil {newCols : Nat} (positive : 0 < newCols) (line : List Row) :
    Grid.recut newCols line ≠ [] := by
  by_cases single : line.length = 1
  next =>
    obtain ⟨row, rfl⟩ := List.length_eq_one_iff.mp single
    simp [Grid.recut]
  next =>
    rw [Grid.recut_multi single]
    split
    next => simp
    next some =>
      have quotient := Nat.div_pos
        (show newCols ≤ Grid.contentLen (line.flatMap Row.cells) + newCols - 1 by omega) positive
      simp only [ne_eq, List.map_eq_nil_iff, List.range_eq_nil]
      omega

theorem chain_recut {newCols : Nat} {line : List Row} :
    (Grid.recut newCols line).IsChain fun _ next => isContinuation next = true := by
  -- Rows cut from one line continue it.
  by_cases single : line.length = 1
  next =>
    obtain ⟨row, rfl⟩ := List.length_eq_one_iff.mp single
    exact List.isChain_singleton _
  next =>
    rw [Grid.recut_multi single]
    split
    next => exact List.isChain_singleton _
    next =>
      rw [List.isChain_map]
      generalize (Grid.contentLen (line.flatMap Row.cells) + newCols - 1) / newCols = count
      apply (List.isChain_range (fun _ next => isContinuation
        (Grid.cutRow (line.flatMap Row.cells) newCols next) = true) count).mpr
      intro i inside
      simp [isContinuation, Grid.cutRow]

theorem head_recut {newCols : Nat} {line : List Row} {first : Row}
    (starts : ∀ row ∈ line.head?, isContinuation row = false)
    (head : first ∈ (Grid.recut newCols line).head?) : isContinuation first = false := by
  -- The first row cut from a line starts a line if the line's first row does.
  by_cases single : line.length = 1
  next =>
    obtain ⟨row, rfl⟩ := List.length_eq_one_iff.mp single
    have same : row.resize newCols = first := by simpa [Grid.recut] using head
    rw [← same]
    exact starts row rfl
  next =>
    rw [Grid.recut_multi single] at head
    split at head
    next =>
      have same : Row.new newCols = first := by simpa using head
      rw [← same]
      rfl
    next =>
      rw [List.head?_map, List.head?_range] at head
      split at head
      next => simp at head
      next =>
        have same : Grid.cutRow (line.flatMap Row.cells) newCols 0 = first := by simpa using head
        simp [← same, isContinuation, Grid.cutRow]

theorem logicalLines_reflowed (g : Grid) {newCols : Nat} (positive : 0 < newCols) :
    logicalLines (g.reflowed newCols) = (logicalLines g.allRows).map (Grid.recut newCols) := by
  rw [Grid.reflowed, List.flatMap_def, logicalLines]
  apply List.splitBy_flatten
  next =>
    intro member
    obtain ⟨line, -, empty⟩ := List.mem_map.mp member
    exact recut_ne_nil positive line empty
  next =>
    intro rows member
    obtain ⟨line, -, rfl⟩ := List.mem_map.mp member
    exact chain_recut
  next =>
    rw [List.isChain_map]
    refine (List.isChain_getLast_head_splitBy _ g.allRows).imp ?_
    intro line next starts
    obtain ⟨-, nonempty, fresh⟩ := starts
    refine ⟨recut_ne_nil positive line, recut_ne_nil positive next, ?_⟩
    have starts : ∀ row ∈ next.head?, isContinuation row = false := by
      intro row head
      rw [List.head?_eq_some_head nonempty] at head
      rw [← Option.some_inj.mp head]
      exact fresh
    exact head_recut starts (List.head?_eq_some_head (recut_ne_nil positive next))

theorem contents_append_blank (rows : List Row) (count cols : Nat) :
    contents (rows ++ List.replicate count (Row.new cols)) = contents rows := by
  -- Blank rows at the end are empty lines at the end.
  have lines : logicalLines (rows ++ List.replicate count (Row.new cols)) =
      logicalLines rows ++ List.replicate count [Row.new cols] := by
    induction count generalizing rows with
    | zero => simp
    | succ count ih =>
      have last : logicalLines (rows ++ [Row.new cols]) = logicalLines rows ++ [[Row.new cols]] :=
        List.splitBy_append_cons [] fun _ _ => rfl
      rw [List.replicate_succ, List.append_cons, ih, last, List.replicate_succ, ← List.append_cons]
  rw [contents, lines, lineTexts, List.map_append, rdropWhile_append_all]
  next => rfl
  next =>
    intro text member
    rw [List.map_replicate, List.mem_replicate] at member
    have none := rdropWhile_append_all Cell.isBlank [] _ (isBlank_replicate cols)
    rw [member.2]
    simpa [joined, Row.new] using none

/-! ## A change of the number of columns -/

namespace Grid

theorem resized_otherCols (g : Grid) {newCols : Nat} (change : newCols ≠ g.cols) :
    (g.resized newCols g.rows).lines = (g.reflowed newCols).drop (g.overflow newCols g.rows) ++
        List.replicate (g.rows - (g.reflowed newCols).length) (Row.new newCols) ∧
      (g.resized newCols g.rows).scrollback =
        trimFront g.scrollbackLimit ((g.reflowed newCols).take (g.overflow newCols g.rows)) := by
  have overflowIs : g.overflow newCols g.rows = (g.reflowed newCols).length - g.rows := rfl
  have lineCount : (g.columnsChanged newCols g.rows).lines.length =
      (g.reflowed newCols).length - g.overflow newCols g.rows := List.length_drop
  by_cases short : (g.columnsChanged newCols g.rows).lines.length < g.rows
  next =>
    -- Too few rows for the viewport: the scrollback is empty and blank rows fill the bottom.
    have none : g.overflow newCols g.rows = 0 := by omega
    rw [resized, if_neg (fun same => change same.1)]
    simp only [change, ne_eq, not_false_eq_true, if_true, resizeRows, short]
    simp [growRows, columnsChanged, none, trimFront]
  next =>
    have exact : (g.columnsChanged newCols g.rows).lines.length - g.rows = 0 := by omega
    have full : g.rows - (g.reflowed newCols).length = 0 := by omega
    rw [resized, if_neg (fun same => change same.1), full, List.replicate_zero, List.append_nil]
    simp only [change, ne_eq, not_false_eq_true, if_true, resizeRows, short, if_false, exact]
    exact ⟨rfl, rfl⟩

def unlimitedReflow (g : Grid) (newCols : Nat) : Grid :=
  { g with scrollbackLimit := (g.reflowed newCols).length }

theorem resized_unlimitedReflow (g : Grid) {newCols : Nat} (change : newCols ≠ g.cols) :
    (g.resized newCols g.rows).lines = ((g.unlimitedReflow newCols).resized newCols g.rows).lines ∧
      (g.resized newCols g.rows).scrollback =
        trimFront g.scrollbackLimit ((g.unlimitedReflow newCols).resized newCols g.rows).scrollback ∧
      ((g.unlimitedReflow newCols).resized newCols g.rows).allRows = g.reflowed newCols ++
        List.replicate (g.rows - (g.reflowed newCols).length) (Row.new newCols) := by
  obtain ⟨lines, history⟩ := g.resized_otherCols change
  obtain ⟨wholeLines, wholeHistory⟩ := (g.unlimitedReflow newCols).resized_otherCols change
  -- The limit plays no part in the reflow.
  have room : ((g.reflowed newCols).take (g.overflow newCols g.rows)).length ≤ (g.reflowed newCols).length :=
    List.length_take_le' ..
  have kept : ((g.unlimitedReflow newCols).resized newCols g.rows).scrollback =
      (g.reflowed newCols).take (g.overflow newCols g.rows) := wholeHistory.trans (trimFront_of_le room)
  have same : (g.resized newCols g.rows).lines = ((g.unlimitedReflow newCols).resized newCols g.rows).lines :=
    lines.trans wholeLines.symm
  refine ⟨same, by rw [history, kept], ?_⟩
  rw [allRows, kept, ← same, lines, ← List.append_assoc, List.take_append_drop]

/-- A change of the columns keeps the text of every logical line, except that a line of one row
is cut to the new width; the limit then takes rows off the oldest end only. -/
theorem resize_cols_contents (g : Grid) (newCols : Nat) (positive : 0 < newCols) (change : newCols ≠ g.cols) :
    ∃ g' delta whole delta', g.resize newCols g.rows = .ok (g', delta) ∧
      (g.unlimitedReflow newCols).resize newCols g.rows = .ok (whole, delta') ∧
      contents whole.allRows = lineTexts ((logicalLines g.allRows).map (cutSingle newCols)) ∧
      g'.lines = whole.lines ∧ g'.scrollback = trimFront g.scrollbackLimit whole.scrollback := by
  obtain ⟨delta, ran⟩ := g.resizeWithCursor_ok g.rows positive none
  obtain ⟨delta', ran'⟩ := (g.unlimitedReflow newCols).resizeWithCursor_ok g.rows positive none
  obtain ⟨lines, history, rows⟩ := g.resized_unlimitedReflow change
  refine ⟨_, delta, _, delta', ran, ran', ?_, lines, history⟩
  have texts : (logicalLines (g.reflowed newCols)).map joined =
      ((logicalLines g.allRows).map (cutSingle newCols)).map joined := by
    rw [logicalLines_reflowed g positive, List.map_map, List.map_map]
    exact List.map_congr_left fun line _ => joined_recut positive line
  rw [rows, contents_append_blank, contents, lineTexts, texts, lineTexts]

def sampleRow (text : List Char) : Row := { cells := text.map fun c => { c } }

def sampleGrid : Grid := { cols := 3, rows := 1, lines := [sampleRow ['a', 'b', 'c']] }

theorem resize_cuts_a_single_row :
    ¬ ∃ g' delta whole delta', sampleGrid.resize 2 sampleGrid.rows = .ok (g', delta) ∧
      (sampleGrid.unlimitedReflow 2).resize 2 sampleGrid.rows = .ok (whole, delta') ∧
      contents whole.allRows = contents sampleGrid.allRows ∧
      g'.lines = whole.lines ∧ g'.scrollback = trimFront sampleGrid.scrollbackLimit whole.scrollback := by
  rintro ⟨g', delta, whole, delta', -, ran, same, -⟩
  have computed : (sampleGrid.unlimitedReflow 2).resize 2 sampleGrid.rows =
      .ok ({ sampleGrid.unlimitedReflow 2 with cols := 2, rows := 1, lines := [sampleRow ['a', 'b']] }, 0) := by rfl
  rw [computed] at ran
  obtain ⟨rfl, rfl⟩ := Prod.mk.inj (Except.ok.inj ran)
  revert same
  decide

theorem resize_cols_contents_sample :
    ∃ g' delta whole delta', sampleGrid.resize 2 sampleGrid.rows = .ok (g', delta) ∧
      (sampleGrid.unlimitedReflow 2).resize 2 sampleGrid.rows = .ok (whole, delta') ∧
      contents whole.allRows = lineTexts ((logicalLines sampleGrid.allRows).map (cutSingle 2)) ∧
      g'.lines = whole.lines ∧ g'.scrollback = trimFront sampleGrid.scrollbackLimit whole.scrollback :=
  resize_cols_contents sampleGrid 2 (by decide) (by decide)

/-! ## A change of the number of rows -/

def emptyTail (lines : List Row) : Nat := (lines.reverse.takeWhile looksEmpty).length

theorem emptyTail_le (lines : List Row) : emptyTail lines ≤ lines.length := by
  have bound := (List.takeWhile_sublist looksEmpty (l := lines.reverse)).length_le
  rwa [List.length_reverse] at bound

theorem emptyTail_concat (lines : List Row) (last : Row) :
    emptyTail (lines ++ [last]) = if looksEmpty last then emptyTail lines + 1 else 0 := by
  simp only [emptyTail, List.reverse_append, List.reverse_singleton, List.singleton_append,
    List.takeWhile_cons]
  split <;> simp

theorem emptyTail_rest (lines : List Row) : emptyTail (lines.take (lines.length - emptyTail lines)) = 0 := by
  have rest : lines.reverse.drop (emptyTail lines) = lines.reverse.dropWhile looksEmpty := by
    conv => lhs; rw [← List.takeWhile_append_dropWhile (p := looksEmpty) (l := lines.reverse)]
    exact List.drop_left' rfl
  rw [emptyTail, List.reverse_take, Nat.sub_sub_self (emptyTail_le lines), rest]
  cases tail : lines.reverse.dropWhile looksEmpty with
  | nil => rfl
  | cons last above =>
    have kept := List.head?_dropWhile_not looksEmpty lines.reverse
    simp only [tail, List.head?_cons] at kept
    simp [kept]

theorem shrinkRows_push {g : Grid} {first last : Row} {rest : List Row} (excess : Nat) (delta : Int)
    (whole : g.lines = first :: rest) (atEnd : g.lines.getLast? = some last)
    (full : looksEmpty last = false) :
    shrinkRows (excess + 1) g delta =
      shrinkRows excess ({ g with lines := rest }.pushScrollback first) (delta - 1) := by
  rw [shrinkRows, atEnd, whole]
  simp [full]

theorem shrinkRows_drop {g : Grid} {start : List Row} {last : Row} (excess : Nat) (delta : Int)
    (whole : g.lines = start ++ [last]) (looks : looksEmpty last = true) :
    shrinkRows (excess + 1) g delta = shrinkRows excess { g with lines := start } delta := by
  have atEnd : g.lines.getLast? = some last := by rw [whole, List.getLast?_concat]
  have shorter : g.lines.dropLast = start := by rw [whole, List.dropLast_concat]
  rw [shrinkRows, atEnd]
  cases cons : g.lines with
  | nil => simp [cons] at atEnd
  | cons first rest =>
    rw [cons] at shorter
    simp [looks, shorter]

theorem shrinkRows_top (g : Grid) (excess : Nat) (delta : Int) (full : emptyTail g.lines = 0)
    (less : excess < g.lines.length) (bounded : g.scrollback.length ≤ g.scrollbackLimit) :
    shrinkRows excess g delta =
      ({ g with lines := g.lines.drop excess, scrollback := g.pushed (g.lines.take excess) }, delta - excess) := by
  -- A bottom row that does not look empty stays, so all rows are taken from the top.
  induction excess generalizing g delta with
  | zero => simp [shrinkRows, pushed, trimFront_of_le bounded]
  | succ excess ih =>
    obtain ⟨first, middle, last, whole⟩ : ∃ first middle last, g.lines = first :: (middle ++ [last]) := by
      obtain ⟨first, more, lines⟩ := List.exists_cons_of_length_pos (show 0 < g.lines.length by omega)
      obtain empty | ⟨middle, last, rest⟩ := more.eq_nil_or_concat
      next =>
        rw [lines, empty, List.length_singleton] at less
        omega
      next => exact ⟨first, middle, last, by rw [lines, rest, List.concat_eq_append]⟩
    rw [whole, ← List.cons_append, emptyTail_concat] at full
    have kept : looksEmpty last = false := by
      by_contra looks
      simp [looks] at full
    have atEnd : g.lines.getLast? = some last := by rw [whole, ← List.cons_append, List.getLast?_concat]
    have still : emptyTail (middle ++ [last]) = 0 := by rw [emptyTail_concat, kept]; rfl
    have next := ih ({ g with lines := middle ++ [last] }.pushScrollback first) (delta - 1) still
      (by rw [whole] at less; simpa [pushScrollback] using less)
      (by simp only [pushScrollback, length_trimFront]; omega)
    rw [shrinkRows_push excess delta whole atEnd kept, next, whole]
    simp only [pushScrollback, pushed, trimFront_append_trimFront, List.drop_succ_cons, List.take_succ_cons,
      List.append_assoc, List.singleton_append, Prod.mk.injEq, true_and]
    omega

theorem shrinkRows_bottom (g : Grid) (count more : Nat) (delta : Int) (empty : count ≤ emptyTail g.lines) :
    shrinkRows (count + more) g delta =
      shrinkRows more { g with lines := g.lines.take (g.lines.length - count) } delta := by
  -- Empty bottom rows are dropped first.
  induction count generalizing g with
  | zero => simp
  | succ count ih =>
    obtain nil | ⟨start, last, whole⟩ := List.eq_nil_or_concat' g.lines
    next => simp [nil, emptyTail] at empty
    next =>
      have looks : looksEmpty last = true := by
        by_contra full
        rw [whole, emptyTail_concat, if_neg full] at empty
        omega
      rw [whole, emptyTail_concat, if_pos looks] at empty
      have next := ih { g with lines := start } (by simpa using empty)
      rw [show count + 1 + more = (count + more) + 1 by omega, shrinkRows_drop _ _ whole looks, next, whole]
      congr 2
      simp

def dropped (g : Grid) (newRows : Nat) : Nat := min (g.lines.length - newRows) (emptyTail g.lines)

theorem shrinkRows_eq (g : Grid) {newRows : Nat} (delta : Int) (positive : 0 < newRows)
    (shrinks : newRows ≤ g.lines.length) (bounded : g.scrollback.length ≤ g.scrollbackLimit) :
    shrinkRows (g.lines.length - newRows) g delta =
      ({ g with
        lines := (g.lines.take (g.lines.length - g.dropped newRows)).drop
          (g.lines.length - newRows - g.dropped newRows)
        scrollback := g.pushed (g.lines.take (g.lines.length - newRows - g.dropped newRows)) },
        delta - (g.lines.length - newRows - g.dropped newRows : Nat)) := by
  -- First the rows that look empty go off the bottom, then the others into the history.
  have le : g.dropped newRows ≤ emptyTail g.lines := Nat.min_le_right ..
  have split : g.lines.length - newRows = g.dropped newRows + (g.lines.length - newRows - g.dropped newRows) := by
    simp only [dropped]
    omega
  have length : (g.lines.take (g.lines.length - g.dropped newRows)).length =
      g.lines.length - g.dropped newRows := by simp
  conv => lhs; rw [split]
  rw [shrinkRows_bottom g _ _ delta le]
  by_cases spent : g.lines.length - newRows - g.dropped newRows = 0
  next => simp [spent, shrinkRows, pushed, trimFront_of_le bounded]
  next =>
    have full : emptyTail (g.lines.take (g.lines.length - g.dropped newRows)) = 0 := by
      have all : g.dropped newRows = emptyTail g.lines := by
        simp only [dropped] at spent ⊢
        omega
      rw [all]
      exact emptyTail_rest g.lines
    have top := shrinkRows_top { g with lines := g.lines.take (g.lines.length - g.dropped newRows) }
      (g.lines.length - newRows - g.dropped newRows) delta full (by rw [length]; omega) bounded
    rw [top]
    simp only [pushed, List.take_take]
    congr 5
    omega

theorem resize_width {row : Row} {cols : Nat} (width : row.cells.length = cols) :
    row.resize cols = row := by
  rw [← width, Row.resize_same]

def pulled (g : Grid) (newRows : Nat) : List Row :=
  g.scrollback.drop (g.scrollback.length - (newRows - g.lines.length))

theorem growRows_eq {g : Grid} (sized : g.Sized) (newRows : Nat) :
    (g.growRows g.cols newRows).1 =
      { g with
        scrollback := g.scrollback.take (g.scrollback.length - (newRows - g.lines.length))
        lines := (g.pulled newRows).reverse ++ g.lines ++
          List.replicate (newRows - (g.pulled newRows).length - g.lines.length) (Row.new g.cols) } := by
  have count : g.scrollback.length - min (newRows - g.lines.length) g.scrollback.length =
      g.scrollback.length - (newRows - g.lines.length) := by omega
  have popped : (g.scrollback.reverse.take (min (newRows - g.lines.length) g.scrollback.length)).map
      (fun row => row.resize g.cols) = (g.pulled newRows).reverse := by
    have same : ∀ row ∈ g.scrollback.reverse.take (min (newRows - g.lines.length) g.scrollback.length),
        row.resize g.cols = row := fun row member =>
      resize_width (sized.history row (List.mem_reverse.mp (List.mem_of_mem_take member)))
    rw [List.map_congr_left same, List.map_id', pulled, ← List.take_reverse]
    exact List.take_eq_take_iff.mpr (by rw [List.length_reverse]; omega)
  simp only [growRows, popped, count]
  congr 3
  simp only [List.length_append, List.length_reverse]
  omega

def unlimited (g : Grid) : Grid := { g with scrollbackLimit := g.scrollback.length + g.lines.length }

/-- A change of the rows keeps all rows in order, but for default rows dropped or added at the
bottom, and for the oldest rows that the limit evicts. -/
def ConservesRows (g : Grid) (newRows : Nat) : Prop :=
  ∃ g' delta whole delta', g.resize g.cols newRows = .ok (g', delta) ∧
    g.unlimited.resize g.cols newRows = .ok (whole, delta') ∧
    g'.lines = whole.lines ∧ g'.scrollback = trimFront g.scrollbackLimit whole.scrollback ∧
    ∃ kept dropped added, g.allRows = kept ++ dropped ∧ whole.allRows = kept ++ added ∧
      (∀ row ∈ dropped, row.isDefault = true) ∧ ∀ row ∈ added, row.isDefault = true

/-- When shrinking, the dropped rows are default in all their cells, not only empty to look at.
When growing, the rows taken back read the same in both directions, or from the first difference
on there are only default rows. -/
def KeepsOrder (g : Grid) (newRows : Nat) : Prop :=
  if g.lines.length < newRows then
    ∃ same first second, g.pulled newRows = same ++ first ∧ (g.pulled newRows).reverse = same ++ second ∧
      (first = [] ∨ ∀ row ∈ first ++ second ++ g.lines, row.isDefault = true)
  else ∀ row ∈ g.lines.drop (g.lines.length - g.dropped newRows), row.isDefault = true

theorem resize_rows_ok (g : Grid) (newRows : Nat) :
    ∃ delta, g.resize g.cols newRows = .ok (g.resized g.cols newRows, delta) := by
  simp only [resize, resizeWithCursor, resized, ne_eq, not_true_eq_false, if_false]
  split
  next => exact ⟨0, rfl⟩
  next => exact ⟨_, rfl⟩

theorem resized_rows_eq {g : Grid} (sized : g.Sized) (newRows : Nat) :
    g.resized g.cols newRows = { (g.resizeRows g.cols newRows).1 with cols := g.cols, rows := newRows } := by
  simp only [resized, ne_eq, not_true_eq_false, if_false, true_and]
  split
  next same =>
    have none : g.lines.length - newRows = 0 := by rw [sized.lines]; omega
    rw [resizeRows, if_neg (by rw [sized.lines]; omega), none, shrinkRows, same]
  next => rfl

def rowsAfter (g : Grid) (newRows : Nat) : List Row × List Row :=
  if g.lines.length < newRows then
    ((g.pulled newRows).reverse ++ g.lines ++
        List.replicate (newRows - (g.pulled newRows).length - g.lines.length) (Row.new g.cols),
      g.scrollback.take (g.scrollback.length - (newRows - g.lines.length)))
  else
    ((g.lines.take (g.lines.length - g.dropped newRows)).drop
        (g.lines.length - newRows - g.dropped newRows),
      g.scrollback ++ g.lines.take (g.lines.length - newRows - g.dropped newRows))

theorem resized_rowsAfter {g : Grid} (sized : g.Sized) {newRows : Nat} (positive : 0 < newRows) :
    (g.resized g.cols newRows).lines = (g.rowsAfter newRows).1 ∧
      (g.resized g.cols newRows).scrollback = trimFront g.scrollbackLimit (g.rowsAfter newRows).2 := by
  rw [resized_rows_eq sized]
  by_cases grows : g.lines.length < newRows
  next =>
    have short : (g.scrollback.take (g.scrollback.length - (newRows - g.lines.length))).length ≤
        g.scrollbackLimit := by
      have bounded := sized.bounded
      rw [List.length_take]
      omega
    simp only [resizeRows, grows, if_true, growRows_eq sized, rowsAfter, trimFront_of_le short]
    trivial
  next =>
    have shrunk := shrinkRows_eq g 0 positive (Nat.le_of_not_lt grows) sized.bounded
    simp only [resizeRows, grows, if_false, rowsAfter, shrunk, pushed]
    trivial

theorem Sized.unlimited {g : Grid} (sized : g.Sized) : g.unlimited.Sized :=
  ⟨sized.lines, sized.cells, sized.history, Nat.le_add_right ..⟩

theorem length_rowsAfter (g : Grid) (newRows : Nat) :
    (g.rowsAfter newRows).2.length ≤ g.scrollback.length + g.lines.length := by
  simp only [rowsAfter]
  split
  next => rw [List.length_take]; omega
  next => rw [List.length_append, List.length_take]; omega

theorem rowsAfter_shrink {g : Grid} {newRows : Nat} (shrinks : newRows ≤ g.lines.length) :
    (g.rowsAfter newRows).2 ++ (g.rowsAfter newRows).1 =
      g.scrollback ++ g.lines.take (g.lines.length - g.dropped newRows) := by
  -- A shrink drops the bottom rows it counts and keeps all others in order.
  have fits : g.lines.length - newRows - g.dropped newRows ≤ g.lines.length - g.dropped newRows := by omega
  rw [rowsAfter, if_neg (by omega), List.append_assoc]
  congr 1
  conv => rhs; rw [← List.take_append_drop (g.lines.length - newRows - g.dropped newRows)
    (g.lines.take (g.lines.length - g.dropped newRows))]
  rw [List.take_take, Nat.min_eq_left fits]

theorem conserves_iff {g : Grid} (sized : g.Sized) {newRows : Nat} (positive : 0 < newRows) :
    g.ConservesRows newRows ↔
      ∃ kept dropped added, g.allRows = kept ++ dropped ∧
        (g.rowsAfter newRows).2 ++ (g.rowsAfter newRows).1 = kept ++ added ∧
        (∀ row ∈ dropped, row.isDefault = true) ∧ ∀ row ∈ added, row.isDefault = true := by
  obtain ⟨delta, ran⟩ := g.resize_rows_ok newRows
  obtain ⟨delta', ran'⟩ := g.unlimited.resize_rows_ok newRows
  obtain ⟨lines, history⟩ := resized_rowsAfter sized positive
  obtain ⟨lines', history'⟩ := resized_rowsAfter sized.unlimited positive
  have same : g.unlimited.rowsAfter newRows = g.rowsAfter newRows := rfl
  rw [same] at lines' history'
  rw [show g.unlimited.scrollbackLimit = g.scrollback.length + g.lines.length from rfl,
    trimFront_of_le (g.length_rowsAfter newRows)] at history'
  constructor
  next =>
    rintro ⟨g', _, whole, _, first, second, -, -, kept, dropped, added, old, new, drops, adds⟩
    rw [show g.cols = g.unlimited.cols from rfl, ran'] at second
    obtain ⟨rfl, -⟩ := Prod.mk.inj (Except.ok.inj second)
    exact ⟨kept, dropped, added, old, by rw [← history', ← lines', ← new]; rfl, drops, adds⟩
  next =>
    rintro ⟨kept, dropped, added, old, new, drops, adds⟩
    refine ⟨_, delta, _, delta', ran, ran', ?_, ?_, kept, dropped, added, old, ?_, drops, adds⟩
    next => rw [lines, lines']
    next => rw [history, history']
    next => rw [← new, ← history', ← lines']; rfl

theorem conserves_shrink {g : Grid} {newRows : Nat} (shrinks : newRows ≤ g.lines.length) :
    (∃ kept dropped added, g.allRows = kept ++ dropped ∧
      (g.rowsAfter newRows).2 ++ (g.rowsAfter newRows).1 = kept ++ added ∧
      (∀ row ∈ dropped, row.isDefault = true) ∧ ∀ row ∈ added, row.isDefault = true) ↔
    ∀ row ∈ g.lines.drop (g.lines.length - g.dropped newRows), row.isDefault = true := by
  rw [rowsAfter_shrink shrinks]
  have split : g.allRows = (g.scrollback ++ g.lines.take (g.lines.length - g.dropped newRows)) ++
      g.lines.drop (g.lines.length - g.dropped newRows) := by
    rw [List.append_assoc, List.take_append_drop, allRows]
  constructor
  next =>
    rintro ⟨kept, dropped, added, old, new, drops, -⟩ row member
    apply drops
    -- What is kept is no longer than what is left, so the dropped rows end the old sequence.
    have whole : kept ++ (added ++ g.lines.drop (g.lines.length - g.dropped newRows)) = kept ++ dropped := by
      rw [← old, split, new, List.append_assoc]
    rw [← List.append_cancel_left whole]
    exact List.mem_append_right _ member
  next =>
    intro drops
    exact ⟨_, _, [], split, (List.append_nil _).symm, drops, by simp⟩

theorem conserves_grow {g : Grid} {newRows : Nat} (grows : g.lines.length < newRows) :
    (∃ kept dropped added, g.allRows = kept ++ dropped ∧
      (g.rowsAfter newRows).2 ++ (g.rowsAfter newRows).1 = kept ++ added ∧
      (∀ row ∈ dropped, row.isDefault = true) ∧ ∀ row ∈ added, row.isDefault = true) ↔
    ∃ same first second, g.pulled newRows = same ++ first ∧ (g.pulled newRows).reverse = same ++ second ∧
      (first = [] ∨ ∀ row ∈ first ++ second ++ g.lines, row.isDefault = true) := by
  rw [rowsAfter, if_pos grows, allRows]
  generalize blankIs : List.replicate (newRows - (g.pulled newRows).length - g.lines.length)
    (Row.new g.cols) = blanks
  generalize stayIs : g.scrollback.take (g.scrollback.length - (newRows - g.lines.length)) = stay
  have split : g.scrollback = stay ++ g.pulled newRows := by
    rw [← stayIs, pulled, List.take_append_drop]
  have blankRows : ∀ row ∈ blanks, row.isDefault = true := by
    intro row member
    rw [← blankIs] at member
    rw [(List.mem_replicate.mp member).2]
    exact isDefault_new g.cols
  rw [split]
  generalize g.pulled newRows = moved
  constructor
  next =>
    rintro ⟨kept, dropped, added, old, new, drops, adds⟩
    rcases Nat.lt_or_ge kept.length stay.length with short | long
    next =>
      -- Everything from inside the old scrollback on is default.
      refine ⟨[], moved, moved.reverse, rfl, rfl, .inr ?_⟩
      intro row member
      apply drops
      have tail : dropped = stay.drop kept.length ++ moved ++ g.lines := by
        have cut := congrArg (List.drop kept.length) old
        rw [List.drop_left, List.append_assoc, List.drop_append_of_le_length (Nat.le_of_lt short)] at cut
        rw [← cut, List.append_assoc]
      rw [tail]
      simp only [List.mem_append, List.mem_reverse] at member ⊢
      tauto
    next =>
      obtain ⟨more, rfl⟩ : ∃ more, kept = stay ++ more := by
        refine ⟨kept.drop stay.length, ?_⟩
        have cut := congrArg (List.take stay.length) old
        rw [List.append_assoc, List.take_left, List.take_append_of_le_length long] at cut
        conv => rhs; lhs; rw [cut]
        rw [List.take_append_drop]
      have old' : moved ++ g.lines = more ++ dropped := by
        simpa only [List.append_assoc, List.append_cancel_left_eq] using old
      have new' : moved.reverse ++ (g.lines ++ blanks) = more ++ added := by
        simpa only [List.append_assoc, List.append_cancel_left_eq] using new
      rcases Nat.lt_or_ge more.length moved.length with inside | through
      next =>
        have first : moved = more ++ moved.drop more.length := by
          have cut := congrArg (List.take more.length) old'
          rw [List.take_left, List.take_append_of_le_length (Nat.le_of_lt inside)] at cut
          conv => lhs; rw [← List.take_append_drop more.length moved, cut]
        have second : moved.reverse = more ++ moved.reverse.drop more.length := by
          have cut := congrArg (List.take more.length) new'
          rw [List.take_left, List.take_append_of_le_length (by rw [List.length_reverse]; omega)] at cut
          conv => lhs; rw [← List.take_append_drop more.length moved.reverse, cut]
        refine ⟨more, _, _, first, second, .inr ?_⟩
        have dropIs : moved.drop more.length ++ g.lines = dropped := by
          have cut := congrArg (List.drop more.length) old'
          rwa [List.drop_left, List.drop_append_of_le_length (Nat.le_of_lt inside)] at cut
        have addIs : moved.reverse.drop more.length ++ (g.lines ++ blanks) = added := by
          have cut := congrArg (List.drop more.length) new'
          rwa [List.drop_left, List.drop_append_of_le_length (by rw [List.length_reverse]; omega)] at cut
        intro row member
        rcases List.mem_append.mp member with early | late
        next =>
          rcases List.mem_append.mp early with one | two
          next => exact drops row (by rw [← dropIs]; exact List.mem_append_left _ one)
          next => exact adds row (by rw [← addIs]; exact List.mem_append_left _ two)
        next => exact drops row (by rw [← dropIs]; exact List.mem_append_right _ late)
      next =>
        have palindrome : moved.reverse = moved := by
          have one := congrArg (List.take moved.length) old'
          have two := congrArg (List.take moved.length) new'
          rw [List.take_left, List.take_append_of_le_length through] at one
          rw [List.take_left' List.length_reverse, List.take_append_of_le_length through] at two
          rw [two, ← one]
        exact ⟨moved, [], [], by simp, by simp [palindrome], .inl rfl⟩
  next =>
    rintro ⟨same, first, second, forward, backward, settled⟩
    rcases settled with rfl | default
    next =>
      have none : second = [] := by
        have lengths := congrArg List.length backward
        rw [List.length_reverse, forward] at lengths
        simpa using lengths
      subst none
      refine ⟨stay ++ moved ++ g.lines, [], blanks, by simp, ?_, by simp, blankRows⟩
      rw [backward, forward]
      simp
    next =>
      refine ⟨stay ++ same, first ++ g.lines, second ++ g.lines ++ blanks, ?_, ?_, ?_, ?_⟩
      next => rw [forward]; simp
      next => rw [backward]; simp
      next =>
        intro row member
        apply default
        simp only [List.mem_append] at member ⊢
        tauto
      next =>
        intro row member
        rcases List.mem_append.mp member with early | late
        next =>
          apply default
          simp only [List.mem_append] at early ⊢
          tauto
        next => exact blankRows row late

theorem resize_rows_conserves_iff (g : Grid) (sized : g.Sized) (newRows : Nat) (positive : 0 < newRows) :
    g.ConservesRows newRows ↔ g.KeepsOrder newRows := by
  rw [conserves_iff sized positive, KeepsOrder]
  split
  next grows => exact conserves_grow grows
  next shrinks => exact conserves_shrink (Nat.le_of_not_lt shrinks)

def scrolledGrid : Grid :=
  { cols := 1, rows := 1, lines := [sampleRow ['c']], scrollback := [sampleRow ['a'], sampleRow ['b']] }

theorem grow_reverses_rows : ¬ scrolledGrid.ConservesRows 3 := by
  rintro ⟨g', delta, whole, delta', -, ran, -, -, kept, dropped, added, old, new, drops, -⟩
  have computed : scrolledGrid.unlimited.resize 1 3 =
      .ok ({ scrolledGrid.unlimited with
        rows := 3
        lines := [sampleRow ['b'], sampleRow ['a'], sampleRow ['c']]
        scrollback := [] }, 2) := by rfl
  rw [show scrolledGrid.cols = 1 from rfl, computed] at ran
  obtain ⟨rfl, -⟩ := Prod.mk.inj (Except.ok.inj ran)
  cases kept with
  | nil =>
    have first := drops (sampleRow ['a']) (by rw [← List.nil_append dropped, ← old]; decide)
    exact absurd first (by decide)
  | cons row rest =>
    have one := (List.cons.inj old).1
    have two := (List.cons.inj new).1
    exact absurd (one.trans two.symm) (by decide)

theorem resize_rows_conserves_iff_scrolled :
    scrolledGrid.ConservesRows 2 ↔ scrolledGrid.KeepsOrder 2 :=
  resize_rows_conserves_iff scrolledGrid
    ⟨by decide, by decide, by decide, by decide⟩ 2 (by decide)

end Grid

end Emux
