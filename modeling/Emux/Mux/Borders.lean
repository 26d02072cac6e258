import Emux.Mux.TabRuns

set_option autoImplicit false

/-!
# Borders between panes

What a frame draws over the last column or row of a pane, where another pane begins.
-/

namespace Emux

open Checked

inductive DrawCommand where
  | setForegroundColor (active : Bool)
  | moveTo (col row : UInt16)
  | print (text : List Char)
  | resetColor
  deriving DecidableEq, Repr

/-- The number of values of `usize`. -/
def usizeLimit : Nat := 2 ^ 64

def isActiveBorder (activeId : Option PaneId) (a b : PaneId) : Bool := activeId = some a || activeId = some b

def drawVerticalEdge (activeId : Option PaneId) (paneAreaRows rightEdge : Nat) (a b : PaneId × PanePosition) :
    Fallible (List DrawCommand) :=
  if a.1 = b.1 then .ok []
  else if b.2.col = rightEdge then do
    let rowStart := max a.2.row b.2.row
    let rowEnd := min (min (<- add usizeLimit a.2.row a.2.rows) (<- add usizeLimit b.2.row b.2.rows)) paneAreaRows
    let line <- forEach (List.range' rowStart (rowEnd - rowStart)) fun row =>
      .ok [.moveTo (rightEdge - 1).toUInt16 row.toUInt16, .print ['│']]
    .ok ([.setForegroundColor (isActiveBorder activeId a.1 b.1)] ++ line ++ [.resetColor])
  else .ok []

def drawHorizontalEdge (activeId : Option PaneId) (totalCols bottomEdge : Nat) (a b : PaneId × PanePosition) :
    Fallible (List DrawCommand) :=
  if a.1 = b.1 then .ok []
  else if b.2.row = bottomEdge then do
    let colStart := max a.2.col b.2.col
    let colEnd := min (min (<- add usizeLimit a.2.col a.2.cols) (<- add usizeLimit b.2.col b.2.cols)) totalCols
    let line := List.replicate (<- sub colEnd colStart) '─'
    .ok [.setForegroundColor (isActiveBorder activeId a.1 b.1), .moveTo colStart.toUInt16 (bottomEdge - 1).toUInt16,
      .print line, .resetColor]
  else .ok []

def drawBorders (positions : List (PaneId × PanePosition)) (activeId : Option PaneId) (totalCols paneAreaRows : Nat) :
    Fallible (List DrawCommand) := do
  let vertical <- forEach positions fun a => do
    let rightEdge <- add usizeLimit a.2.col a.2.cols
    if totalCols ≤ rightEdge then .ok []
    else forEach positions (drawVerticalEdge activeId paneAreaRows rightEdge a)
  let horizontal <- forEach positions fun a => do
    let bottomEdge <- add usizeLimit a.2.row a.2.rows
    if paneAreaRows ≤ bottomEdge then .ok []
    else forEach positions (drawHorizontalEdge activeId totalCols bottomEdge a)
  .ok (vertical ++ horizontal)

/-! ## What is painted -/

/-- The characters that the commands leave on the terminal, from a cursor position on. -/
def painted : Nat × Nat -> List DrawCommand -> List (Char × Nat × Nat)
  | _, [] => []
  | _, .moveTo col row :: rest => painted (col.toNat, row.toNat) rest
  | (col, row), .print text :: rest =>
    (text.zipIdx.map fun (char, i) => (char, col + i, row)) ++ painted (col + text.length, row) rest
  | cursor, .setForegroundColor _ :: rest => painted cursor rest
  | cursor, .resetColor :: rest => painted cursor rest

def cursorAfter : Nat × Nat -> List DrawCommand -> Nat × Nat
  | cursor, [] => cursor
  | _, .moveTo col row :: rest => cursorAfter (col.toNat, row.toNat) rest
  | (col, row), .print text :: rest => cursorAfter (col + text.length, row) rest
  | cursor, .setForegroundColor _ :: rest => cursorAfter cursor rest
  | cursor, .resetColor :: rest => cursorAfter cursor rest

theorem painted_append (cursor : Nat × Nat) (first second : List DrawCommand) :
    painted cursor (first ++ second) = painted cursor first ++ painted (cursorAfter cursor first) second := by
  induction first generalizing cursor with
  | nil => rfl
  | cons command rest ih =>
    cases command with
    | setForegroundColor active => exact ih cursor
    | moveTo col row => exact ih (col.toNat, row.toNat)
    | print text =>
      simp only [List.cons_append, painted, cursorAfter, ih, List.append_assoc]
    | resetColor => exact ih cursor

def Paints (allowed : Char × Nat × Nat -> Prop) (commands : List DrawCommand) : Prop :=
  ∀ cursor, ∀ cell ∈ painted cursor commands, allowed cell

theorem Paints.append {allowed : Char × Nat × Nat -> Prop} {first second : List DrawCommand}
    (one : Paints allowed first) (two : Paints allowed second) : Paints allowed (first ++ second) := by
  intro cursor cell member
  rw [painted_append, List.mem_append] at member
  rcases member with before | after
  next => exact one cursor cell before
  next => exact two _ cell after

theorem paints_nil (allowed : Char × Nat × Nat -> Prop) : Paints allowed [] := fun _ _ member => nomatch member

theorem paints_text {allowed : Char × Nat × Nat -> Prop} {col row : Nat} {char : Char} {count : Nat}
    (smallCol : col < 2 ^ 16) (smallRow : row < 2 ^ 16) (every : ∀ i < count, allowed (char, col + i, row)) :
    Paints allowed [.moveTo col.toUInt16 row.toUInt16, .print (List.replicate count char)] := by
  rintro cursor ⟨_, _, _⟩ member
  simp only [painted, List.append_nil, List.mem_map, Prod.mk.injEq, Prod.exists, Nat.toUInt16,
    UInt16.toNat_ofNat_of_lt' smallCol, UInt16.toNat_ofNat_of_lt' smallRow] at member
  obtain ⟨_, i, indexed, rfl, rfl, rfl⟩ := member
  obtain ⟨inside, same⟩ := List.mem_zipIdx' indexed
  rw [same, List.getElem_replicate]
  exact every i (by simpa using inside)

/-! ## Edges -/

def TouchBeside (a b : PanePosition) (row : Nat) : Prop :=
  b.col = a.col + a.cols ∧ (a.row ≤ row ∧ row < a.row + a.rows) ∧ b.row ≤ row ∧ row < b.row + b.rows

def TouchBelow (a b : PanePosition) (col : Nat) : Prop :=
  b.row = a.row + a.rows ∧ (a.col ≤ col ∧ col < a.col + a.cols) ∧ b.col ≤ col ∧ col < b.col + b.cols

/-- A border character in the last column or row before an edge that two panes share there. -/
def OnSharedEdge (positions : List (PaneId × PanePosition)) : Char × Nat × Nat -> Prop
  | (char, col, row) => ∃ a ∈ positions, ∃ b ∈ positions, a.1 ≠ b.1 ∧
    (char = '│' ∧ TouchBeside a.2 b.2 row ∧ col = a.2.col + a.2.cols - 1 ∨
      char = '─' ∧ TouchBelow a.2 b.2 col ∧ row = a.2.row + a.2.rows - 1)

def ColumnsMeet (totalCols : Nat) (a b : PanePosition) : Prop :=
  max a.col b.col ≤ min (min (a.col + a.cols) (b.col + b.cols)) totalCols

def PanePosition.ColsFit (area : PanePosition) : Prop := area.col + area.cols < usizeLimit

def PanePosition.RowsFit (area : PanePosition) : Prop := area.row + area.rows < usizeLimit

def RowsMeet (positions : List (PaneId × PanePosition)) (totalCols paneAreaRows : Nat) : Prop :=
  ∀ a ∈ positions, ∀ b ∈ positions, a.1 ≠ b.1 -> b.2.row = a.2.row + a.2.rows ->
    a.2.row + a.2.rows < paneAreaRows -> ColumnsMeet totalCols a.2 b.2

theorem paints_setForegroundColor (allowed : Char × Nat × Nat -> Prop) (active : Bool) :
    Paints allowed [.setForegroundColor active] := fun _ _ member => nomatch member

theorem paints_resetColor (allowed : Char × Nat × Nat -> Prop) : Paints allowed [.resetColor] :=
  fun _ _ member => nomatch member

section Loops

variable {positions : List (PaneId × PanePosition)} {a b : PaneId × PanePosition} {totalCols paneAreaRows : Nat}

theorem drawVerticalEdge_exact (activeId : Option PaneId) (inA : a ∈ positions) (inB : b ∈ positions)
    (smallCol : a.2.col + a.2.cols < 2 ^ 16) (smallRows : paneAreaRows < 2 ^ 16) :
    Exactly (a.1 ≠ b.1 -> b.2.col = a.2.col + a.2.cols -> a.2.RowsFit ∧ b.2.RowsFit)
      (drawVerticalEdge activeId paneAreaRows (a.2.col + a.2.cols) a b) (Paints (OnSharedEdge positions)) := by
  unfold drawVerticalEdge
  by_cases same : a.1 = b.1
  next =>
    rw [if_pos same]
    exact exactly_ok (fun different => absurd same different) (paints_nil _)
  next =>
    rw [if_neg same]
    by_cases beside : b.2.col = a.2.col + a.2.cols
    next =>
      rw [if_pos beside]
      have drawLine {start stop : Nat} (above : max a.2.row b.2.row ≤ start)
          (below : stop ≤ min (min (a.2.row + a.2.rows) (b.2.row + b.2.rows)) paneAreaRows) :
          Exactly True
            (forEach (List.range' start (stop - start)) fun row =>
              .ok [.moveTo (a.2.col + a.2.cols - 1).toUInt16 row.toUInt16, .print ['│']])
            (Paints (OnSharedEdge positions)) := by
        refine (exactly_forEach (paints_nil _) Paints.append fun row inside => exactly_ok trivial ?_).congr
          (iff_true_intro fun _ _ => trivial)
        obtain ⟨low, high⟩ := List.mem_range'_1.mp inside
        refine @paints_text _ _ row '│' 1 (by omega) (by omega) fun i one => ?_
        obtain rfl : i = 0 := by omega
        exact ⟨a, inA, b, inB, same, .inl ⟨rfl, ⟨beside, by omega, by omega⟩, rfl⟩⟩
      have condition : (a.2.RowsFit ∧ b.2.RowsFit ∧ True) ↔
          (a.1 ≠ b.1 -> b.2.col = a.2.col + a.2.cols -> a.2.RowsFit ∧ b.2.RowsFit) := by
        simp [same, beside]
      refine Exactly.congr (Exactly.bind (exactly_add usizeLimit a.2.row a.2.rows) fun endA _ isA =>
        Exactly.bind (exactly_add usizeLimit b.2.row b.2.rows) fun endB _ isB => ?_) condition
      subst isA isB
      exact (drawLine le_rfl le_rfl).bind_ok fun line _ drawn =>
        ((paints_setForegroundColor _ _).append drawn).append (paints_resetColor _)
    next =>
      rw [if_neg beside]
      exact exactly_ok (fun _ is => absurd is beside) (paints_nil _)

theorem drawHorizontalEdge_exact (activeId : Option PaneId) (inA : a ∈ positions) (inB : b ∈ positions)
    (smallRow : a.2.row + a.2.rows < 2 ^ 16) (smallCols : totalCols < 2 ^ 16) :
    Exactly (a.1 ≠ b.1 -> b.2.row = a.2.row + a.2.rows -> a.2.ColsFit ∧ b.2.ColsFit ∧ ColumnsMeet totalCols a.2 b.2)
      (drawHorizontalEdge activeId totalCols (a.2.row + a.2.rows) a b) (Paints (OnSharedEdge positions)) := by
  unfold drawHorizontalEdge
  by_cases same : a.1 = b.1
  next =>
    rw [if_pos same]
    exact exactly_ok (fun different => absurd same different) (paints_nil _)
  next =>
    rw [if_neg same]
    by_cases below : b.2.row = a.2.row + a.2.rows
    next =>
      rw [if_pos below]
      have condition : (a.2.ColsFit ∧ b.2.ColsFit ∧ ColumnsMeet totalCols a.2 b.2) ↔ (a.1 ≠ b.1 ->
          b.2.row = a.2.row + a.2.rows -> a.2.ColsFit ∧ b.2.ColsFit ∧ ColumnsMeet totalCols a.2 b.2) := by
        simp [same, below]
      refine Exactly.congr (Exactly.bind (exactly_add usizeLimit a.2.col a.2.cols) fun endA _ isA =>
        Exactly.bind (exactly_add usizeLimit b.2.col b.2.cols) fun endB _ isB => ?_) condition
      subst isA isB
      refine Exactly.bind_ok (exactly_sub _ _) fun length meet is => ?_
      subst is
      unfold ColumnsMeet at meet
      have line := @paints_text (OnSharedEdge positions) (max a.2.col b.2.col) (a.2.row + a.2.rows - 1) '─'
        (min (min (a.2.col + a.2.cols) (b.2.col + b.2.cols)) totalCols - max a.2.col b.2.col)
        (by omega) (by omega) fun i inside =>
          ⟨a, inA, b, inB, same, .inr ⟨rfl, ⟨below, by omega, by omega⟩, rfl⟩⟩
      exact ((paints_setForegroundColor _ _).append line).append (paints_resetColor _)
    next =>
      rw [if_neg below]
      exact exactly_ok (fun _ is => absurd is below) (paints_nil _)

theorem drawBorders_exact (positions : List (PaneId × PanePosition)) (activeId : Option PaneId)
    (smallCols : totalCols < 2 ^ 16) (smallRows : paneAreaRows < 2 ^ 16) :
    Exactly ((∀ a ∈ positions, a.2.ColsFit ∧ a.2.RowsFit) ∧ RowsMeet positions totalCols paneAreaRows)
      (drawBorders positions activeId totalCols paneAreaRows) (Paints (OnSharedEdge positions)) := by
  have vertical : Exactly (∀ a ∈ positions, a.2.ColsFit ∧ (a.2.col + a.2.cols < totalCols ->
        ∀ b ∈ positions, a.1 ≠ b.1 -> b.2.col = a.2.col + a.2.cols -> a.2.RowsFit ∧ b.2.RowsFit))
      (forEach positions fun a => do
        let rightEdge <- add usizeLimit a.2.col a.2.cols
        if totalCols ≤ rightEdge then .ok []
        else forEach positions (drawVerticalEdge activeId paneAreaRows rightEdge a))
      (Paints (OnSharedEdge positions)) := by
    refine exactly_forEach (paints_nil _) Paints.append fun a inA => ?_
    refine Exactly.bind (exactly_add usizeLimit a.2.col a.2.cols) fun rightEdge _ is => ?_
    subst is
    split
    next outside => exact exactly_ok (fun inside => absurd outside (Nat.not_le.mpr inside)) (paints_nil _)
    next inside =>
      refine (exactly_forEach (paints_nil _) Paints.append fun b inB =>
        drawVerticalEdge_exact activeId inA inB (by omega) smallRows).congr ?_
      exact ⟨fun every _ => every, fun every => every (Nat.not_le.mp inside)⟩
  have horizontal : Exactly (∀ a ∈ positions, a.2.RowsFit ∧ (a.2.row + a.2.rows < paneAreaRows ->
        ∀ b ∈ positions, a.1 ≠ b.1 -> b.2.row = a.2.row + a.2.rows ->
          a.2.ColsFit ∧ b.2.ColsFit ∧ ColumnsMeet totalCols a.2 b.2))
      (forEach positions fun a => do
        let bottomEdge <- add usizeLimit a.2.row a.2.rows
        if paneAreaRows ≤ bottomEdge then .ok []
        else forEach positions (drawHorizontalEdge activeId totalCols bottomEdge a))
      (Paints (OnSharedEdge positions)) := by
    refine exactly_forEach (paints_nil _) Paints.append fun a inA => ?_
    refine Exactly.bind (exactly_add usizeLimit a.2.row a.2.rows) fun bottomEdge _ is => ?_
    subst is
    split
    next outside => exact exactly_ok (fun inside => absurd outside (Nat.not_le.mpr inside)) (paints_nil _)
    next inside =>
      refine (exactly_forEach (paints_nil _) Paints.append fun b inB =>
        drawHorizontalEdge_exact activeId inA inB (by omega) smallCols).congr ?_
      exact ⟨fun every _ => every, fun every => every (Nat.not_le.mp inside)⟩
  refine (vertical.bind fun first _ drawn => horizontal.bind_ok fun second _ more => drawn.append more).congr ?_
  constructor
  next =>
    rintro ⟨cols, rows⟩
    exact ⟨fun a inA => ⟨(cols a inA).1, (rows a inA).1⟩, fun a inA b inB different below inside =>
      ((rows a inA).2 inside b inB different below).2.2⟩
  next =>
    rintro ⟨fit, meet⟩
    exact ⟨fun a inA => ⟨(fit a inA).1, fun _ b inB _ _ => ⟨(fit a inA).2, (fit b inB).2⟩⟩,
      fun a inA => ⟨(fit a inA).2, fun inside b inB different below =>
        ⟨(fit a inA).1, (fit b inB).1, meet a inA b inB different below inside⟩⟩⟩

end Loops

/-! ## Tabs -/

namespace Tab

variable {R : Type} [Ratio R]

structure InUsize (tab : Tab R) : Prop where
  cols : tab.size.cols < usizeLimit
  rows : tab.size.rows < usizeLimit
  floating : ∀ floating ∈ tab.floatingPanes, floating.x + floating.width < usizeLimit ∧ floating.y + floating.height < usizeLimit

theorem computePositions_fit {tab : Tab R} (usize : tab.InUsize) {placed : PaneId × PanePosition}
    (listed : placed ∈ tab.computePositions) : placed.2.ColsFit ∧ placed.2.RowsFit := by
  have whole : (PanePosition.whole tab.size.cols tab.size.rows).ColsFit ∧
      (PanePosition.whole tab.size.cols tab.size.rows).RowsFit := by
    simpa [PanePosition.whole, PanePosition.ColsFit, PanePosition.RowsFit] using And.intro usize.cols usize.rows
  rcases List.mem_append.mp listed with below | floats
  next =>
    split at below
    next id full =>
      obtain rfl := List.mem_singleton.mp below
      exact whole
    next =>
      unfold tiledPositions LayoutEngine.computePositions at below
      split at below
      next root tree =>
        obtain ⟨-, right, -, bottom⟩ := root.positions_within (.whole tab.size.cols tab.size.rows) placed below
        exact ⟨Nat.lt_of_le_of_lt right whole.1, Nat.lt_of_le_of_lt bottom whole.2⟩
      next => cases below
  next =>
    unfold visibleFloating at floats
    split at floats
    next =>
      obtain ⟨floating, member, rfl⟩ := List.mem_map.mp floats
      exact usize.floating floating (List.mem_of_mem_filter member)
    next => cases floats

theorem drawBorders_listed {tab : Tab R} (usize : tab.InUsize) (activeId : Option PaneId) (totalCols totalRows : UInt16) :
    Exactly (RowsMeet tab.computePositions totalCols.toNat (totalRows.toNat - 1))
      (drawBorders tab.computePositions activeId totalCols.toNat (totalRows.toNat - 1))
      (Paints (OnSharedEdge tab.computePositions)) := by
  have smallCols := totalCols.toNat_lt
  have smallRows := totalRows.toNat_lt
  have exact := drawBorders_exact tab.computePositions activeId smallCols (by omega : totalRows.toNat - 1 < 2 ^ 16)
  exact exact.congr (and_iff_right fun a => computePositions_fit usize)

theorem drawBorders_returns_iff {tab : Tab R} (usize : tab.InUsize) (activeId : Option PaneId)
    (totalCols totalRows : UInt16) :
    (∃ output, drawBorders tab.computePositions activeId totalCols.toNat (totalRows.toNat - 1) = .ok output ∧
      Paints (OnSharedEdge tab.computePositions) output) ↔
      RowsMeet tab.computePositions totalCols.toNat (totalRows.toNat - 1) :=
  (drawBorders_listed usize activeId totalCols totalRows).returns_iff

theorem drawBorders_returns_iff_split :
    let tab : Tab Rat := { (Tab.new 0 "Tab 1" 80 23 : Tab Rat) with
      layout := { root := some (.Split .vertical (1 / 2) (.Leaf 0) (.Leaf 1)) } }
    (∃ output, drawBorders tab.computePositions (some 0) 80 23 = .ok output ∧
      Paints (OnSharedEdge tab.computePositions) output) ↔ RowsMeet tab.computePositions 80 23 := by
  intro tab
  exact drawBorders_returns_iff ⟨by decide, by decide, fun _ member => absurd member List.not_mem_nil⟩ (some 0) 80 24

/-- Three columns of which the two outer ones are split into rows. -/
theorem outer_rows_apart :
    Ensures (fun _ => False)
      (run call [.op (.splitPane .vertical), .op (.splitPane .vertical), .op (.splitPane .horizontal),
        .op (.focusPane 0), .op (.splitPane .horizontal)] (Tab.new 0 "Tab 1" 80 23 : Tab Rat))
      fun tab => drawBorders tab.computePositions tab.activePane 80 23 = .error .arithmetic := by
  decide +kernel

/-! ## Runs -/

structure Steady (tab next : Tab R) : Prop where
  size : next.size = tab.size
  floating : ∀ floating ∈ next.floatingPanes, floating ∈ tab.floatingPanes

omit [Ratio R] in
theorem Steady.trans {tab middle next : Tab R} (first : Steady tab middle) (second : Steady middle next) :
    Steady tab next :=
  ⟨second.size.trans first.size, fun other member => first.floating other (second.floating other member)⟩

omit [Ratio R] in
theorem steady_same {tab next : Tab R} (size : next.size = tab.size) (floating : next.floatingPanes = tab.floatingPanes) :
    Steady tab next := ⟨size, fun _ member => floating ▸ member⟩

theorem steady_applySwapLayoutAt (tab : Tab R) (index : Nat) : Steady tab (tab.applySwapLayoutAt index) := by
  unfold applySwapLayoutAt
  split <;> exact steady_same rfl rfl

theorem steady_autoSwapLayout (tab : Tab R) : Steady tab tab.autoSwapLayout := by
  unfold autoSwapLayout
  split
  next =>
    split
    next => exact steady_applySwapLayoutAt tab _
    next => exact steady_same rfl rfl
  next => exact steady_same rfl rfl

theorem steady_splitAt (tab : Tab R) (target : PaneId) (direction : SplitDirection) (cols rows : Nat) :
    Steady tab (tab.splitAt target direction cols rows) := by
  unfold splitAt
  refine Steady.trans ?_ (steady_autoSwapLayout _)
  exact steady_same rfl rfl

theorem steady_closePane (tab : Tab R) (id : PaneId) : Steady tab (tab.closePane id).2 := by
  unfold closePane
  split
  next => exact steady_same rfl rfl
  next =>
    split
    next => exact steady_same rfl rfl
    next =>
      refine Steady.trans ?_ (steady_autoSwapLayout _)
      exact steady_same rfl rfl

omit [Ratio R] in
theorem takeFloating_others {tab : Tab R} {id : PaneId} {floating : FloatingPane} {others : List FloatingPane}
    (taken : tab.takeFloating id = some (floating, others)) :
    floating ∈ tab.floatingPanes ∧ ∀ other ∈ others, other ∈ tab.floatingPanes := by
  obtain ⟨before, after, list, rfl, -⟩ := takeFloating_some taken
  rw [list]
  exact ⟨by simp, fun other member => by simp_all [or_left_comm]⟩

omit [Ratio R] in
theorem steady_restack (tab : Tab R) (id : PaneId) {place : FloatingPane -> List FloatingPane -> List FloatingPane}
    (keeps : ∀ floating others, (place floating others).Perm (floating :: others)) :
    Steady tab (tab.restack id place).2 := by
  unfold restack
  split
  next => exact steady_same rfl rfl
  next floating others taken =>
    obtain ⟨mine, theirs⟩ := takeFloating_others taken
    refine ⟨rfl, fun other member => ?_⟩
    rcases List.mem_cons.mp ((keeps floating others).mem_iff.mp member) with rfl | kept
    next => exact mine
    next => exact theirs other kept

omit [Ratio R] in
theorem steady_bringFloatingToFront (tab : Tab R) (id : PaneId) : Steady tab (tab.bringFloatingToFront id).2 :=
  steady_restack tab id fun floating others => List.perm_append_singleton floating others

omit [Ratio R] in
theorem steady_focusCycle (tab : Tab R) (step : Nat -> Nat -> Nat) (fallback : List PaneId -> Option PaneId) :
    Steady tab (tab.focusCycle step fallback).2 := by
  unfold focusCycle
  dsimp only
  split_ifs
  next => exact steady_same rfl rfl
  next =>
    split
    next =>
      split
      next =>
        refine Steady.trans ?_ (steady_bringFloatingToFront _ _)
        exact steady_same rfl rfl
      next => exact steady_same rfl rfl
    next => exact steady_same rfl rfl

theorem steady_swapPanes (tab : Tab R) (a b : PaneId) : Steady tab (tab.swapPanes a b).2 := by
  unfold swapPanes
  split <;> exact steady_same rfl rfl

theorem steady_moveActivePane (tab : Tab R) (direction : FocusDirection) : Steady tab (tab.moveActivePane direction).2 := by
  unfold moveActivePane
  split
  next => exact steady_same rfl rfl
  next =>
    split
    next => exact steady_swapPanes tab _ _
    next => exact steady_same rfl rfl

omit [Ratio R] in
theorem InUsize.steady {tab next : Tab R} (usize : tab.InUsize) (steady : Steady tab next) : next.InUsize where
  cols := steady.size ▸ usize.cols
  rows := steady.size ▸ usize.rows
  floating other member := usize.floating other (steady.floating other member)

omit [Ratio R] in
theorem InUsize.addFloating {tab next : Tab R} (usize : tab.InUsize) (size : next.size = tab.size) {floating : FloatingPane}
    (panes : next.floatingPanes = tab.floatingPanes ++ [floating])
    (fits : floating.x + floating.width < usizeLimit ∧ floating.y + floating.height < usizeLimit) : next.InUsize where
  cols := size ▸ usize.cols
  rows := size ▸ usize.rows
  floating other member := by
    rw [panes] at member
    rcases List.mem_append.mp member with before | new
    next => exact usize.floating other before
    next =>
      obtain rfl := List.mem_singleton.mp new
      exact fits

omit [Ratio R] in
theorem InUsize.updateFloating {tab : Tab R} (usize : tab.InUsize) (id : PaneId) {update : FloatingPane -> FloatingPane}
    (fits : ∀ floating ∈ tab.floatingPanes, (update floating).x + (update floating).width < usizeLimit ∧
      (update floating).y + (update floating).height < usizeLimit) : (tab.updateFloating id update).2.InUsize := by
  unfold Tab.updateFloating
  split
  next => exact usize
  next index found =>
    refine ⟨usize.cols, usize.rows, fun other member => ?_⟩
    obtain ⟨i, inside, is⟩ := List.mem_iff_getElem.mp member
    rw [List.getElem_modify] at is
    have within : i < tab.floatingPanes.length := by simpa using inside
    split at is
    next => exact is ▸ fits _ (List.getElem_mem within)
    next => exact is ▸ usize.floating _ (List.getElem_mem within)

omit [Ratio R] in
theorem newFloatingPaneWithCoords_inUsize {tab : Tab R} (usize : tab.InUsize) (x y w h : Nat) :
    Ensures AnyPanic (tab.newFloatingPaneWithCoords x y w h) fun result => result.2.InUsize := by
  have cols := usize.cols
  have rows := usize.rows
  unfold newFloatingPaneWithCoords
  rcases takePaneId_cases tab with taken | ⟨full, -⟩
  next =>
    rw [taken, ok_bind]
    refine InUsize.addFloating usize rfl rfl ?_
    have narrow : min (max w minFloatingCols) tab.size.cols ≤ tab.size.cols := Nat.min_le_right _ _
    have low : min (max h minFloatingRows) tab.size.rows ≤ tab.size.rows := Nat.min_le_right _ _
    dsimp only
    constructor <;> omega
  next =>
    rw [full, error_bind]
    trivial

def callInUsize : TabCall R -> Bool
  | .op (.resize cols rows) => cols < usizeLimit && rows < usizeLimit
  | _ => true

theorem step_inUsize {op : TabOp} {tab : Tab R} (small : callInUsize (.op op : TabCall R) = true) (usize : tab.InUsize) :
    Ensures AnyPanic (tab.step op) InUsize := by
  have cols := usize.cols
  have rows := usize.rows
  -- Only a resize and the operations that place or size a floating pane need an argument.
  cases op with
  | rename name => exact usize.steady (steady_same rfl rfl)
  | undoRename =>
    show InUsize tab.undoRename.2
    rw [undoRename_tab]
    exact usize.steady (steady_same rfl rfl)
  | updatePane id op => exact usize.steady (steady_same rfl rfl)
  | splitPane direction =>
    refine Ensures.map (((splitPane_cases tab direction).allow fun _ _ => trivial).weaken fun result cases => ?_)
    rcases cases with ⟨rfl, -⟩ | ⟨target, cols, rows, -, -, rfl, -⟩
    next => exact usize.steady (steady_same rfl rfl)
    next => exact usize.steady (steady_splitAt tab target direction cols rows)
  | splitLargestPane =>
    refine Ensures.map (((splitLargestPane_cases tab).allow fun _ _ => trivial).weaken fun result cases => ?_)
    rcases cases with ⟨rfl, -⟩ | ⟨target, direction, cols, rows, -, rfl, -⟩
    next => exact usize.steady (steady_same rfl rfl)
    next => exact usize.steady (steady_splitAt tab target direction cols rows)
  | closePane id => exact usize.steady (steady_closePane tab id)
  | resize cols rows =>
    simp only [callInUsize, Bool.and_eq_true, decide_eq_true_eq] at small
    exact ⟨small.1, small.2, usize.floating⟩
  | resizePane id direction amount =>
    show InUsize (tab.resizePane id direction amount).2
    rcases resizePane_cases tab id direction amount with refused | ⟨delta, adjusted⟩
    next =>
      rw [refused]
      exact usize
    next =>
      rw [adjusted]
      unfold adjustRatio
      split <;> exact usize.steady (steady_same rfl rfl)
  | setPaneConstraints id constraints => exact usize.steady (steady_same rfl rfl)
  | newFloatingPane => exact (newFloatingPaneWithCoords_inUsize usize _ _ _ _).map
  | newFloatingPaneWithCoords x y w h => exact (newFloatingPaneWithCoords_inUsize usize x y w h).map
  | toggleFloatingPanes =>
    show InUsize tab.toggleFloatingPanes
    unfold toggleFloatingPanes
    split_ifs
    all_goals split <;> exact usize.steady (steady_same rfl rfl)
  | closeFloatingPane id =>
    show InUsize (tab.closeFloatingPane id).2
    unfold closeFloatingPane
    split
    next => exact usize
    next floating others taken => exact usize.steady ⟨rfl, (takeFloating_others taken).2⟩
  | embedFloatingPane id =>
    show InUsize (tab.embedFloatingPane id).2
    unfold embedFloatingPane
    split
    next => exact usize
    next floating others taken => exact usize.steady ⟨rfl, (takeFloating_others taken).2⟩
  | floatPane id =>
    show InUsize (tab.floatPane id).2
    unfold floatPane
    split
    next => exact usize
    next =>
      split
      next => exact usize
      next =>
        refine InUsize.addFloating usize rfl rfl ?_
        simp only [syncPaneSizes_size, minFloatingCols, minFloatingRows, usizeLimit] at cols rows ⊢
        omega
  | resizeFloatingPane id width height =>
    refine usize.updateFloating id fun floating member => ?_
    have narrow : min (max width minFloatingCols) tab.size.cols ≤ tab.size.cols := Nat.min_le_right _ _
    have low : min (max height minFloatingRows) tab.size.rows ≤ tab.size.rows := Nat.min_le_right _ _
    dsimp only
    constructor <;> omega
  | moveFloatingPane id x y =>
    refine usize.updateFloating id fun floating member => ?_
    have fits := usize.floating floating member
    dsimp only
    constructor <;> omega
  | bringFloatingToFront id => exact usize.steady (steady_bringFloatingToFront tab id)
  | sendFloatingToBack id => exact usize.steady (steady_restack tab id fun floating others => List.Perm.refl _)
  | swapFloatingZOrder a b =>
    show InUsize (tab.swapFloatingZOrder a b).2
    obtain ⟨floatingPanes, perm, same⟩ := swapFloatingZOrder_perm tab a b
    rw [same]
    exact usize.steady ⟨rfl, fun other member => perm.mem_iff.mp member⟩
  | focusPane id =>
    show InUsize (tab.focusPane id).2
    unfold focusPane
    split
    next => exact usize.steady (steady_same rfl rfl)
    next =>
      split
      next =>
        refine usize.steady (Steady.trans ?_ (steady_bringFloatingToFront _ _))
        exact steady_same rfl rfl
      next => exact usize
  | focusNext => exact usize.steady (steady_focusCycle tab _ _)
  | focusPrev => exact usize.steady (steady_focusCycle tab _ _)
  | focusDirection direction =>
    show InUsize (tab.focusDirection direction).2
    unfold focusDirection
    split <;> exact usize.steady (steady_same rfl rfl)
  | toggleFullscreen =>
    show InUsize tab.toggleFullscreen.2
    unfold toggleFullscreen
    split
    next => exact usize.steady (steady_same rfl rfl)
    next => split <;> exact usize.steady (steady_same rfl rfl)
  | toggleFullscreenById id =>
    show InUsize (tab.toggleFullscreenById id).2
    unfold toggleFullscreenById
    split_ifs <;> exact usize.steady (steady_same rfl rfl)
  | moveActivePane direction => exact usize.steady (steady_moveActivePane tab direction)
  | movePaneById id direction =>
    show InUsize (tab.movePaneById id direction).2
    have moved := steady_moveActivePane { tab with activePane := some id } direction
    unfold movePaneById
    split
    next _ next result =>
      rw [result] at moved
      exact usize.steady ((steady_same rfl rfl : Steady tab { tab with activePane := some id }).trans moved)
    next _ next result =>
      rw [result] at moved
      exact usize.steady ⟨moved.size, moved.floating⟩
  | movePaneBackwards id =>
    show InUsize (tab.movePaneBackwards id).2
    unfold movePaneBackwards
    dsimp only
    split
    next =>
      split
      next =>
        split
        next => exact usize.steady (steady_swapPanes tab _ _)
        next => exact usize
      next => exact usize
    next => exact usize

theorem call_inUsize {call_ : TabCall R} {tab : Tab R} (small : callInUsize call_ = true) (usize : tab.InUsize) :
    Ensures AnyPanic (tab.call call_) InUsize := by
  cases call_ with
  | op op => exact step_inUsize small usize
  | registerSwapLayout name minPanes maxPanes layout =>
    show InUsize (tab.registerSwapLayout name minPanes maxPanes layout)
    unfold registerSwapLayout
    split <;> exact usize.steady (steady_same rfl rfl)
  | autoSwapLayout => exact usize.steady (steady_autoSwapLayout tab)
  | nextSwapLayout =>
    show InUsize tab.nextSwapLayout
    unfold nextSwapLayout
    dsimp only
    split
    next => exact usize
    next =>
      split
      next => exact usize.steady (steady_applySwapLayoutAt tab _)
      next => exact usize
  | prevSwapLayout =>
    show InUsize tab.prevSwapLayout
    unfold prevSwapLayout
    dsimp only
    split
    next => exact usize
    next =>
      split
      next => exact usize.steady (steady_applySwapLayoutAt tab _)
      next => exact usize

theorem reachable_inUsize {calls : List (TabCall R)} (small : ∀ call_ ∈ calls, callInUsize call_ = true) (id : Nat)
    (name : String) {cols rows : Nat} (smallCols : cols < usizeLimit) (smallRows : rows < usizeLimit) :
    Ensures AnyPanic (run call calls (Tab.new id name cols rows : Tab R)) InUsize := by
  -- No operation places a floating pane so that its end overflows.
  have one : ∀ (call_ : TabCall R) (tab : Tab R), callInUsize call_ = true -> tab.InUsize ->
      Ensures AnyPanic (tab.call call_) InUsize := fun call_ tab => call_inUsize
  have start : (Tab.new id name cols rows : Tab R).InUsize :=
    ⟨smallCols, smallRows, fun _ member => absurd member List.not_mem_nil⟩
  exact run_ensures one (along_of_forall small _) start

/-- So are the borders of every tab that a run of calls leads to. -/
theorem reachable_drawBorders {calls : List (TabCall R)} (small : ∀ call_ ∈ calls, callInUsize call_ = true) (id : Nat)
    (name : String) {cols rows : Nat} (smallCols : cols < usizeLimit) (smallRows : rows < usizeLimit)
    (activeId : Option PaneId) (totalCols totalRows : UInt16) :
    Ensures AnyPanic (run call calls (Tab.new id name cols rows : Tab R)) fun tab =>
      Exactly (RowsMeet tab.computePositions totalCols.toNat (totalRows.toNat - 1))
        (drawBorders tab.computePositions activeId totalCols.toNat (totalRows.toNat - 1))
        (Paints (OnSharedEdge tab.computePositions)) :=
  (reachable_inUsize small id name smallCols smallRows).weaken fun _ usize =>
    drawBorders_listed usize activeId totalCols totalRows

end Tab

end Emux
