import Emux.Library.Spans
import Emux.Loop.Command
import Emux.Term.Pairs
import Emux.Term.Selection
import Emux.Term.Viewport

set_option autoImplicit false

/-!
# Drawing a pane

Each row is drawn as spans of equal style. A span is inverted as a whole if the selection contains the number of one of
its characters, the second columns of wide characters not being counted.
-/

namespace Emux

open Checked Spans

inductive CtColor where
  | reset
  | black
  | white
  | ansiValue (index : UInt8)
  | rgb (r g b : UInt8)
  deriving DecidableEq, Repr

inductive Attribute where
  | bold
  | italic
  | underlined
  | doubleUnderlined
  | undercurled
  | slowBlink
  | reverse
  | hidden
  | crossedOut
  deriving DecidableEq, Repr

/-- The attributes are listed in the order in which `cell_style` sets them. -/
structure ContentStyle where
  foregroundColor : Option CtColor := none
  backgroundColor : Option CtColor := none
  attributes : List Attribute := []
  deriving DecidableEq, Repr

def ContentStyle.new : ContentStyle := {}

def colorToCrossterm : Color -> CtColor
  | .default => .reset
  | .indexed index => .ansiValue index
  | .rgb r g b => .rgb r g b

def cellStyle (cell : Cell) : ContentStyle where
  foregroundColor := some (colorToCrossterm cell.fg)
  backgroundColor := some (colorToCrossterm cell.bg)
  attributes :=
    (if cell.attrs.bold then [.bold] else []) ++
    (if cell.attrs.italic then [.italic] else []) ++
    (match cell.attrs.underline with
      | .none => []
      | .single => [.underlined]
      | .double => [.doubleUnderlined]
      | .curly => [.undercurled]) ++
    (if cell.attrs.blink then [.slowBlink] else []) ++
    (if cell.attrs.reverse then [.reverse] else []) ++
    (if cell.attrs.invisible then [.hidden] else []) ++
    (if cell.attrs.strikethrough then [.crossedOut] else [])

def ContentStyle.inverted (style : ContentStyle) : ContentStyle :=
  { style with backgroundColor := some .white, foregroundColor := some .black }

theorem inverted_ne (cell : Cell) : (cellStyle cell).inverted ≠ cellStyle cell := by
  intro same
  have white : some CtColor.white = some (colorToCrossterm cell.bg) := congrArg ContentStyle.backgroundColor same
  cases color : cell.bg <;> simp [color, colorToCrossterm] at white

theorem cellStyle_ne (cell : Cell) : cellStyle cell ≠ .new := by
  intro same
  cases congrArg ContentStyle.backgroundColor same

def Cell.glyph (cell : Cell) : Char := if cell.c < ' ' then ' ' else cell.c

def renderRow (cells : List Cell) (width : Nat) : List (ContentStyle × List Char) :=
  let (spans, col) := (cells.take width).foldl
    (fun (spans, col) cell =>
      if cell.width = 0 then (spans, col + 1) else (push spans (cellStyle cell, cell.glyph), col + cell.width))
    ([], 0)
  (List.replicate (width - col) (.new, ' ')).foldl push spans

def drawnCells (cells : List Cell) (width : Nat) : List Cell := (cells.take width).filter fun cell => cell.width != 0

def cellNumber (cells : List Cell) (col : Nat) : Nat := (drawnCells cells col).length

theorem renderRow_spans (cells : List Cell) (spans : List (ContentStyle × List Char)) (col : Nat) :
    (cells.foldl (fun (spans, col) cell =>
      if cell.width = 0 then (spans, col + 1) else (push spans (cellStyle cell, cell.glyph), col + cell.width))
      (spans, col)).1 =
      ((cells.filter fun cell => cell.width != 0).map fun cell => (cellStyle cell, cell.glyph)).foldl push spans := by
  induction cells generalizing spans col with
  | nil => rfl
  | cons cell rest ih =>
    rw [List.foldl_cons]
    by_cases second : cell.width = 0
    next =>
      simp only [second, if_true, ih]
      rw [List.filter_cons_of_neg (by simp [second])]
    next =>
      simp only [second, if_false, ih]
      rw [List.filter_cons_of_pos (by simp [second]), List.map_cons, List.foldl_cons]

theorem expand_renderRow (cells : List Cell) (width : Nat) :
    Merged (renderRow cells width) ∧ ∃ blanks, expand (renderRow cells width) =
      (drawnCells cells width).map (fun cell => (cellStyle cell, cell.glyph)) ++ List.replicate blanks (.new, ' ') := by
  unfold renderRow
  dsimp only
  constructor
  next =>
    rw [renderRow_spans]
    exact (merged_nil.pushAll _).pushAll _
  next =>
    apply Exists.intro
    rw [expand_pushAll, renderRow_spans, expand_pushAll, expand_nil, List.nil_append, drawnCells]

theorem cell_at_number {cells : List Cell} {width c : Nat} {cell : Cell} (inside : c < width)
    (found : cells[c]? = some cell) (first : cell.width ≠ 0) :
    (drawnCells cells width)[cellNumber cells c]? = some cell := by
  have taken : (cells.take width)[c]? = some cell := by rw [List.getElem?_take_of_lt inside, found]
  obtain ⟨within, is⟩ := List.getElem?_eq_some_iff.mp taken
  have split : cells.take width = cells.take c ++ cell :: (cells.take width).drop (c + 1) := by
    rw [← is, List.cons_getElem_drop_succ, ← Nat.min_eq_left (Nat.le_of_lt inside), ← List.take_take,
      Nat.min_eq_left (Nat.le_of_lt inside), List.take_append_drop]
  rw [drawnCells, split, List.filter_append, cellNumber, drawnCells, List.getElem?_append_right (Nat.le_refl _),
    Nat.sub_self, List.filter_cons_of_pos (by simpa using first)]
  rfl

inductive PaneCommand where
  | moveTo (col row : UInt16)
  | setStyle (style : ContentStyle)
  | print (text : List Char)
  | resetColor
  | resetAttributes
  deriving DecidableEq, Repr

def renderSpans (selected : Nat -> Bool) :
    Nat -> Option ContentStyle -> List (ContentStyle × List Char) -> List PaneCommand × Option ContentStyle
  | _, prevStyle, [] => ([], prevStyle)
  | colOffset, prevStyle, (contentStyle, text) :: rest =>
    let inSelection := (List.range text.length).any fun i => selected (colOffset + i)
    let effectiveStyle := if inSelection then contentStyle.inverted else contentStyle
    let change := if prevStyle ≠ some effectiveStyle then [.setStyle effectiveStyle] else []
    let (commands, last) := renderSpans selected (colOffset + text.length) (some effectiveStyle) rest
    (change ++ .print text :: commands, last)

def Screen.absRow (s : Screen) (r : Nat) : Nat :=
  s.grid.scrollbackLen + r - min s.viewportOffset (s.grid.scrollbackLen + r)

def isSelected (selection : Option Selection) (row col : Nat) : Bool := selection.any fun sel => sel.contains row col

def renderRows (s : Screen) (pos : PanePosition) (selection : Option Selection) :
    Option ContentStyle -> List Nat -> Fallible (List PaneCommand)
  | _, [] => .ok []
  | prevStyle, r :: rest => do
    let displayRow <- s.viewportRow r
    let spans := renderRow displayRow.cells (min pos.cols s.cols)
    let (commands, prevStyle) := renderSpans (isSelected selection (s.absRow r)) 0 prevStyle spans
    let later <- renderRows s pos selection prevStyle rest
    .ok (.moveTo (UInt16.ofNat pos.col) (UInt16.ofNat (pos.row + r)) :: commands ++ later)

def drawnRows (s : Screen) (damage : DamageTracker) (pos : PanePosition) (forceAll : Bool) : List Nat :=
  (List.range (min pos.rows s.rows)).filter fun r => forceAll || damage.isDirty r

def renderPaneRegion (s : Screen) (damage : DamageTracker) (pos : PanePosition) (forceAll : Bool)
    (selection : Option Selection) : Fallible (List PaneCommand) := do
  let commands <- renderRows s pos selection none (drawnRows s damage pos forceAll)
  .ok (commands ++ [.resetColor, .resetAttributes])

def drawn : Option ContentStyle -> List PaneCommand ->
    List (Option ContentStyle × Char) × List (List (Option ContentStyle × Char))
  | _, [] => ([], [])
  | style, .moveTo _ _ :: rest => ([], (drawn style rest).1 :: (drawn style rest).2)
  | _, .setStyle style :: rest => drawn (some style) rest
  | style, .print text :: rest => ((text.map fun c => (style, c)) ++ (drawn style rest).1, (drawn style rest).2)
  | _, .resetColor :: rest => drawn none rest
  | _, .resetAttributes :: rest => drawn none rest

def drawnLines (commands : List PaneCommand) : List (List (Option ContentStyle × Char)) := (drawn none commands).2

def highlightedLine (selected : Nat -> Bool) (start : Nat) (spans : List (ContentStyle × List Char)) :
    List (Option ContentStyle × Char) :=
  (expand (paint selected ContentStyle.inverted start spans)).map fun (style, c) => (some style, c)

theorem drawn_renderSpans (selected : Nat -> Bool) (spans : List (ContentStyle × List Char)) (start : Nat)
    (prev : Option ContentStyle) (rest : List PaneCommand) :
    drawn prev ((renderSpans selected start prev spans).1 ++ rest) =
      (highlightedLine selected start spans ++ (drawn (renderSpans selected start prev spans).2 rest).1,
        (drawn (renderSpans selected start prev spans).2 rest).2) := by
  induction spans generalizing start prev with
  | nil => rfl
  | cons span tail ih =>
    obtain ⟨contentStyle, text⟩ := span
    obtain ⟨effective, style⟩ : ∃ style, (if (List.range text.length).any fun i => selected (start + i) then
        contentStyle.inverted else contentStyle) = style := ⟨_, rfl⟩
    simp only [renderSpans, highlightedLine, paint, style, expand_cons, List.map_append, List.map_map,
      List.append_assoc, List.cons_append]
    -- Whether the style is set again or is still in force, the text is printed with it.
    have inForce (more : List PaneCommand) :
        drawn prev ((if prev ≠ some effective then [.setStyle effective] else []) ++ .print text :: more) =
          drawn (some effective) (.print text :: more) := by
      split
      next => rfl
      next same => rw [not_not.mp same, List.nil_append]
    rw [inForce, drawn, ih]
    rfl

theorem viewportRow_absRow {s : Screen} (filled : s.grid.Filled) {r : Nat} (inside : r < s.rows) :
    ∃ row, s.grid.allRows[s.absRow r]? = some row ∧ s.viewportRow r = .ok row := by
  have length := filled.length_allRows
  have height : s.rows = s.grid.rows := rfl
  -- The offset counts rows from the bottom of history and grid together.
  have within : s.absRow r < s.grid.allRows.length := by
    rw [Screen.absRow]
    omega
  refine ⟨_, List.getElem?_eq_getElem within, ?_⟩
  have found := List.getElem?_eq_getElem within
  generalize s.grid.allRows[s.absRow r] = row at found ⊢
  have number : s.absRow r = s.grid.scrollbackLen + r - s.viewportOffset := by
    rw [Screen.absRow]
    omega
  rw [number, Grid.allRows] at found
  unfold Screen.viewportRow
  split
  next bottom =>
    rw [bottom, List.getElem?_append_right (by simp [Grid.scrollbackLen])] at found
    exact Screen.row_inside inside (by simpa [Grid.scrollbackLen] using found)
  next =>
    dsimp only
    split
    next above =>
      rw [List.getElem?_append_left above] at found
      rw [Grid.scrollbackRow, found]
    next below =>
      rw [List.getElem?_append_right (Nat.not_lt.mp below)] at found
      rw [Nat.min_eq_left (by omega)]
      exact Screen.row_inside (by omega) found

section Region

variable {s : Screen} {pos : PanePosition} {selection : Option Selection}

def IsLine (s : Screen) (pos : PanePosition) (selection : Option Selection) (r : Nat)
    (line : List (Option ContentStyle × Char)) : Prop :=
  ∃ row, s.grid.allRows[s.absRow r]? = some row ∧
    line = highlightedLine (isSelected selection (s.absRow r)) 0 (renderRow row.cells (min pos.cols s.cols))

theorem renderRows_cons {prev : Option ContentStyle} {r : Nat} {rest : List Nat} {row : Row} {commands : List PaneCommand}
    (shown : s.viewportRow r = .ok row)
    (ran : renderRows s pos selection (renderSpans (isSelected selection (s.absRow r)) 0 prev
      (renderRow row.cells (min pos.cols s.cols))).2 rest = .ok commands) :
    renderRows s pos selection prev (r :: rest) = .ok (.moveTo (UInt16.ofNat pos.col) (UInt16.ofNat (pos.row + r)) ::
      (renderSpans (isSelected selection (s.absRow r)) 0 prev (renderRow row.cells (min pos.cols s.cols))).1 ++
      commands) := by
  rw [renderRows, shown, ok_bind]
  dsimp only
  rw [ran, ok_bind]

theorem drawn_renderRows (filled : s.grid.Filled) {rows : List Nat} (inside : ∀ r ∈ rows, r < s.rows)
    (prev : Option ContentStyle) :
    ∃ commands lines, renderRows s pos selection prev rows = .ok commands ∧
      drawn prev (commands ++ [.resetColor, .resetAttributes]) = ([], lines) ∧
      List.Forall₂ (IsLine s pos selection) rows lines := by
  induction rows generalizing prev with
  | nil => exact ⟨[], [], rfl, rfl, .nil⟩
  | cons r rest ih =>
    obtain ⟨here, later⟩ := List.forall_mem_cons.mp inside
    obtain ⟨row, found, shown⟩ := viewportRow_absRow filled here
    obtain ⟨commands, lines, ran, draws, all⟩ := ih later (renderSpans (isSelected selection (s.absRow r)) 0 prev
      (renderRow row.cells (min pos.cols s.cols))).2
    refine ⟨_, _, renderRows_cons shown ran, ?_, .cons ⟨row, found, rfl⟩ all⟩
    rw [List.cons_append, List.cons_append, List.append_assoc, drawn, drawn_renderSpans, draws, List.append_nil]

end Region

def Highlights (selected : Nat -> Bool) (cells : List Cell) (width : Nat)
    (printed : List (Option ContentStyle × Char)) : Prop :=
  ∀ c < width, ∀ cell, cells[c]? = some cell -> cell.width ≠ 0 ->
    printed[cellNumber cells c]? =
      some (some (if selected c then (cellStyle cell).inverted else cellStyle cell), cell.glyph)

/-- The column of a cell that is drawn is selected if and only if the number of a cell of its run of equal style is. -/
def SelectsRuns (selected : Nat -> Bool) (cells : List Cell) (width : Nat) : Prop :=
  ∀ c < width, ∀ cell, cells[c]? = some cell -> cell.width ≠ 0 ->
    (selected c = true ↔
      ∃ j, SameRun ((drawnCells cells width).map cellStyle) (cellNumber cells c) j ∧ selected j = true)

theorem selectsRuns_narrow {selected : Nat -> Bool} {cells : List Cell} {width : Nat}
    (narrow : ∀ cell ∈ cells.take width, cell.width ≠ 0) :
    SelectsRuns selected cells width ↔
      ∀ i j, SameRun ((cells.take width).map cellStyle) i j -> selected i = selected j := by
  have all : drawnCells cells width = cells.take width := List.filter_eq_self.mpr (by simpa using narrow)
  have number {c : Nat} (inside : c < width) (within : c < cells.length) : cellNumber cells c = c := by
    have front : drawnCells cells c = cells.take c := by
      refine List.filter_eq_self.mpr fun cell member => ?_
      have before : cell ∈ cells.take width := List.take_subset_take_left cells (Nat.le_of_lt inside) member
      simpa using narrow cell before
    rw [cellNumber, front, List.length_take, Nat.min_eq_left (Nat.le_of_lt within)]
  have place {i j : Nat} (run : SameRun ((cells.take width).map cellStyle) i j) :
      ∃ cell, i < width ∧ cells[i]? = some cell ∧ cell.width ≠ 0 := by
    obtain ⟨style, found⟩ := run.found
    rw [List.getElem?_map, Option.map_eq_some_iff] at found
    obtain ⟨cell, at_, -⟩ := found
    have inside : i < width := Nat.lt_of_lt_of_le (List.getElem?_eq_some_iff.mp at_).1 (List.length_take_le _ _)
    exact ⟨cell, inside, by rwa [List.getElem?_take_of_lt inside] at at_, narrow cell (List.mem_of_getElem? at_)⟩
  constructor
  next =>
    intro runs i j run
    have spreads {i j : Nat} (run : SameRun ((cells.take width).map cellStyle) i j) (chosen : selected j = true) :
        selected i = true := by
      obtain ⟨cell, inside, found, first⟩ := place run
      have here := runs i inside cell found first
      rw [all, number inside (List.getElem?_eq_some_iff.mp found).1] at here
      exact here.mpr ⟨j, run, chosen⟩
    exact Bool.eq_iff_iff.mpr ⟨spreads run.symm, spreads run⟩
  next =>
    intro whole c inside cell found first
    rw [all, number inside (List.getElem?_eq_some_iff.mp found).1]
    constructor
    next =>
      intro chosen
      have there : ((cells.take width).map cellStyle)[c]? = some (cellStyle cell) := by
        rw [List.getElem?_map, List.getElem?_take_of_lt inside, found, Option.map_some]
      exact ⟨c, .refl there, chosen⟩
    next => exact fun ⟨j, run, chosen⟩ => (whole c j run).trans chosen

theorem highlights_iff (selected : Nat -> Bool) (cells : List Cell) (width : Nat) :
    Highlights selected cells width (highlightedLine selected 0 (renderRow cells width)) ↔
      SelectsRuns selected cells width := by
  obtain ⟨merged, blanks, expanded⟩ := expand_renderRow cells width
  apply forall₅_congr
  intro c inside cell found first
  have numbered := cell_at_number inside found first
  have within := (List.getElem?_eq_some_iff.mp numbered).1
  have here : (expand (renderRow cells width))[cellNumber cells c]? = some (cellStyle cell, cell.glyph) := by
    rw [expanded, List.getElem?_append_left (by simpa using within), List.getElem?_map, numbered]
    rfl
  have keys : (expand (renderRow cells width)).map Prod.fst =
      (drawnCells cells width).map cellStyle ++ List.replicate blanks .new := by
    simp [expanded, Function.comp_def]
  -- The blanks that fill up the row are in no run with a cell.
  have boundary : ∀ style ∈ (drawnCells cells width).map cellStyle, (List.replicate blanks .new).head? ≠ some style := by
    rintro style member isNext
    obtain ⟨other, -, rfl⟩ := List.mem_map.mp member
    exact cellStyle_ne other (List.eq_of_mem_replicate (List.mem_of_mem_head? isNext))
  obtain ⟨marked, marks⟩ : ∃ marked : Bool, marked = true ↔
      ∃ j, SameRun ((drawnCells cells width).map cellStyle) (cellNumber cells c) j ∧ selected j = true := by
    classical
    exact ⟨decide _, decide_eq_true_iff⟩
  have line : (highlightedLine selected 0 (renderRow cells width))[cellNumber cells c]? =
      some (some (if marked then (cellStyle cell).inverted else cellStyle cell), cell.glyph) := by
    rw [highlightedLine, List.getElem?_map, expand_paint merged here (marks.trans ?_)]
    next => rfl
    next => simp only [keys, sameRun_append boundary (by simpa using within), Nat.zero_add]
  have apart := inverted_ne cell
  rw [line, ← marks]
  cases marked <;> cases selected c <;> simp [apart, apart.symm]

section Region

variable {s : Screen}

def DrawsSelection (s : Screen) (damage : DamageTracker) (pos : PanePosition) (forceAll : Bool)
    (selection : Option Selection) (commands : List PaneCommand) : Prop :=
  ∀ (i r : Nat) (row : Row), (drawnRows s damage pos forceAll)[i]? = some r -> s.grid.allRows[s.absRow r]? = some row ->
    ∃ line, (drawnLines commands)[i]? = some line ∧
      Highlights (isSelected selection (s.absRow r)) row.cells (min pos.cols s.cols) line

theorem renderPaneRegion_iff (filled : s.grid.Filled) (damage : DamageTracker) (pos : PanePosition) (forceAll : Bool)
    (selection : Option Selection) :
    ∃ commands, renderPaneRegion s damage pos forceAll selection = .ok commands ∧
      (DrawsSelection s damage pos forceAll selection commands ↔
        ∀ r ∈ drawnRows s damage pos forceAll, ∀ row, s.grid.allRows[s.absRow r]? = some row ->
          SelectsRuns (isSelected selection (s.absRow r)) row.cells (min pos.cols s.cols)) := by
  have inside : ∀ r ∈ drawnRows s damage pos forceAll, r < s.rows := by
    intro r member
    have low := List.mem_range.mp (List.mem_filter.mp member).1
    omega
  obtain ⟨commands, lines, ran, draws, all⟩ := @drawn_renderRows s pos selection filled _ inside none
  refine ⟨_, by rw [renderPaneRegion, ran, ok_bind], ?_⟩
  have isLines : drawnLines (commands ++ [.resetColor, .resetAttributes]) = lines := by rw [drawnLines, draws]
  -- The line that stands for a row.
  have lineOf {i r : Nat} {row : Row} (at_ : (drawnRows s damage pos forceAll)[i]? = some r)
      (found : s.grid.allRows[s.absRow r]? = some row) :
      lines[i]? = some (highlightedLine (isSelected selection (s.absRow r)) 0
        (renderRow row.cells (min pos.cols s.cols))) := by
    obtain ⟨low, rfl⟩ := List.getElem?_eq_some_iff.mp at_
    obtain ⟨same, each⟩ := List.forall₂_iff_get.mp all
    obtain ⟨other, there, line⟩ := each i low (same ▸ low)
    obtain rfl : other = row := Option.some.inj (there.symm.trans found)
    rw [List.getElem?_eq_getElem (same ▸ low)]
    exact congrArg some line
  rw [DrawsSelection, isLines]
  constructor
  next =>
    intro draws r member row found
    obtain ⟨i, at_⟩ := List.mem_iff_getElem?.mp member
    obtain ⟨line, there, highlights⟩ := draws i r row at_ found
    obtain rfl := Option.some.inj ((lineOf at_ found).symm.trans there)
    exact (highlights_iff ..).mp highlights
  next =>
    intro runs i r row at_ found
    exact ⟨_, lineOf at_ found, (highlights_iff ..).mpr (runs r (List.mem_of_getElem? at_) row found)⟩

end Region

def threeLetters : Screen :=
  { Screen.new 3 1 with
    grid := { Grid.new 3 1 with lines := [{ cells := ['a', 'b', 'c'].map fun c => { Cell.blank with c } }] } }

def fullArea : PanePosition := { col := 0, row := 0, cols := 3, rows := 1 }

theorem threeLetters_filled : threeLetters.grid.Filled := ⟨rfl, Nat.zero_le _⟩

theorem renderPaneRegion_row :
    ∃ commands, renderPaneRegion threeLetters (.new 1) fullArea true
        (some { start := ⟨0, 0⟩, stop := ⟨1, 0⟩, mode := .normal, state := .selected }) = .ok commands ∧
      DrawsSelection threeLetters (.new 1) fullArea true
        (some { start := ⟨0, 0⟩, stop := ⟨1, 0⟩, mode := .normal, state := .selected }) commands := by
  obtain ⟨commands, ran, draws⟩ := renderPaneRegion_iff threeLetters_filled (.new 1) fullArea true
    (some { start := ⟨0, 0⟩, stop := ⟨1, 0⟩, mode := .normal, state := .selected })
  refine ⟨commands, ran, draws.mpr fun r member row found => ?_⟩
  obtain rfl : r = 0 := List.mem_singleton.mp member
  obtain rfl := Option.some.inj found
  exact (selectsRuns_narrow (by decide)).mpr fun _ _ _ => rfl

/-- The letter in the middle is selected, and all three are inverted. -/
theorem highlight_spills :
    threeLetters.grid.Paired ∧ ¬ ∃ commands, renderPaneRegion threeLetters (.new 1) fullArea true
        (some { start := ⟨0, 1⟩, stop := ⟨0, 1⟩, mode := .normal, state := .selected }) = .ok commands ∧
      DrawsSelection threeLetters (.new 1) fullArea true
        (some { start := ⟨0, 1⟩, stop := ⟨0, 1⟩, mode := .normal, state := .selected }) commands := by
  refine ⟨by decide, ?_⟩
  rintro ⟨commands, ran, draws⟩
  obtain rfl := Except.ok.inj ran
  obtain ⟨line, there, highlights⟩ := draws 0 0 _ rfl rfl
  obtain rfl := Option.some.inj there
  exact absurd (highlights 0 (by decide) _ rfl (by decide)) (by decide)

end Emux
