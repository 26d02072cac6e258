import Emux.Loop.Command
import Emux.Term.Selection

set_option autoImplicit false

/-!
# Copy mode

The copy cursor is a place on the display, the selection a range of rows of history and grid. The two are converted
by the length that the history had when copy mode was entered.
-/

namespace Emux

open Checked

structure CopyModeState where
  row : Nat
  col : Nat
  scrollbackLen : Nat
  selection : Option Selection
  deriving DecidableEq, Repr

/-- The closure that a movement passes to `copy_move`. -/
def CopyMotion.apply (motion : CopyMotion) (s : Screen) (cm : CopyModeState) : CopyModeState :=
  match motion with
  | .left => { cm with col := cm.col - 1 }
  | .down => { cm with row := min (cm.row + 1) (s.rows - 1) }
  | .up => { cm with row := cm.row - 1 }
  | .right => { cm with col := min (cm.col + 1) (s.cols - 1) }
  | .startOfLine => { cm with col := 0 }
  | .endOfLine => { cm with col := s.cols - 1 }
  | .gotoTop => { cm with row := 0 }
  | .gotoBottom => { cm with row := s.rows - 1 }
  | .halfPageUp => { cm with row := cm.row - s.rows / 2 }
  | .halfPageDown => { cm with row := min (cm.row + s.rows / 2) (s.rows - 1) }

@[simp] theorem CopyMotion.apply_scrollbackLen (motion : CopyMotion) (s : Screen) (cm : CopyModeState) :
    (motion.apply s cm).scrollbackLen = cm.scrollbackLen := by
  cases motion <;> rfl

@[simp] theorem CopyMotion.apply_selection (motion : CopyMotion) (s : Screen) (cm : CopyModeState) :
    (motion.apply s cm).selection = cm.selection := by
  cases motion <;> rfl

namespace Selection

variable {selection : Selection} {g h : Grid}

def below (selection : Selection) (top : Nat) : Selection :=
  { selection with
    start := ⟨top + selection.start.row, selection.start.col⟩
    stop := ⟨top + selection.stop.row, selection.stop.col⟩ }

theorem ordered_below (selection : Selection) (top : Nat) :
    (selection.below top).ordered =
      (⟨top + selection.ordered.1.row, selection.ordered.1.col⟩, ⟨top + selection.ordered.2.row, selection.ordered.2.col⟩) := by
  have same : (selection.below top).start.le (selection.below top).stop = selection.start.le selection.stop := by
    show SelectionPoint.le ⟨top + _, _⟩ ⟨top + _, _⟩ = _
    simp only [SelectionPoint.le, Nat.add_lt_add_iff_left, Bool.beq_eq_decide_eq, Nat.add_left_cancel_iff]
  unfold ordered
  rw [same]
  split <;> rfl

theorem rows_below (selection : Selection) (top : Nat) : (selection.below top).rows = selection.rows.map (top + ·) := by
  rw [rows, rows, ordered_below, List.map_add_range']
  congr 1
  dsimp only
  omega

theorem le_of_mem_rows {row : Nat} (member : row ∈ selection.rows) :
    row ≤ max selection.start.row selection.stop.row := by
  have last := (mem_rows.mp member).2
  unfold ordered at last
  split at last
  next => exact Nat.le_trans last (Nat.le_max_right ..)
  next => exact Nat.le_trans last (Nat.le_max_left ..)

theorem contains_below (selection : Selection) (top row col : Nat) :
    (selection.below top).contains (top + row) col = selection.contains row col := by
  rw [contains, contains, ordered_below]
  cases mode : selection.mode with
  | normal => simp only [below, mode, Nat.add_lt_add_iff_left, Nat.add_left_cancel_iff]
  | rectangular => simp only [below, mode, Nat.add_le_add_iff_left]

theorem containedText_below {top : Nat}
    (same : ∀ row ∈ selection.rows, rowCells g (top + row) = rowCells h row) :
    (selection.below top).containedText g = selection.containedText h := by
  rw [containedText, containedText, rows_below, List.map_map]
  congr 1
  refine List.map_congr_left fun row member => ?_
  rw [Function.comp_apply, same row member, containedCells, containedCells]
  simp only [contains_below]

/-- Row by row, the selected cells hold the same characters in both grids, trailing blanks aside. -/
def SameCells (selection : Selection) (g h : Grid) : Prop :=
  ∀ absRow ∈ selection.rows,
    SameUpToBlanks (fullText (selection.containedCells absRow (rowCells g absRow)))
      (fullText (selection.containedCells absRow (rowCells h absRow)))

instance (selection : Selection) (g h : Grid) : Decidable (selection.SameCells g h) :=
  inferInstanceAs (Decidable (∀ absRow ∈ selection.rows, SameUpToBlanks _ _))

theorem SameCells.containedText (same : selection.SameCells g h) :
    selection.containedText g = selection.containedText h := by
  rw [Selection.containedText, Selection.containedText]
  congr 1
  exact List.map_congr_left fun absRow member => (trimEnd_eq_iff _ _).mpr (same absRow member)

end Selection

namespace CopyModeState

def enter (s : Screen) : CopyModeState where
  row := s.cursor.row
  col := s.cursor.col
  scrollbackLen := s.grid.scrollbackLen
  selection := none

def point (cm : CopyModeState) : SelectionPoint := ⟨cm.scrollbackLen + cm.row, cm.col⟩

def copyMove (motion : CopyMotion) (s : Screen) (cm : CopyModeState) : CopyModeState :=
  let cm := motion.apply s cm
  { cm with selection := cm.selection.map fun selection => selection.extend cm.point }

def toggleSelection (cm : CopyModeState) : CopyModeState :=
  match cm.selection with
  | some _ => { cm with selection := none }
  | none => { cm with selection := some (.startAt cm.point .normal) }

/-- `Command::Resize` puts the cursor back onto the screen. -/
def clamp (s : Screen) (cm : CopyModeState) : CopyModeState :=
  { cm with row := min cm.row (s.rows - 1), col := min cm.col (s.cols - 1) }

def yank (g : Grid) (cm : CopyModeState) : Fallible (Option (List Char)) :=
  match cm.selection with
  | some selection => do
    let text <- selection.finalize.getText g
    .ok (if text.isEmpty then none else some text)
  | none => .ok none

theorem yank_ok {cm : CopyModeState} {selection : Selection} {g : Grid} {text : List Char}
    (selected : cm.selection = some selection) (cut : selection.getText g = .ok text) :
    ∃ yanked, cm.yank g = .ok yanked ∧ yanked.getD [] = text := by
  have finalized : selection.finalize.getText g = .ok text := cut
  refine ⟨if text.isEmpty then none else some text, ?_, ?_⟩
  next =>
    rw [yank, selected]
    dsimp only
    rw [finalized, ok_bind]
  next => cases text <;> rfl

end CopyModeState

structure CopyPane where
  terminal : Terminal
  copyMode : Option CopyModeState

inductive CopyEvent where
  /-- Output, scrolling, or another size by `sync_pty_sizes`, which leaves the copy cursor where it is. -/
  | view (event : ViewEvent)
  /-- `Command::Resize`, with the size that the pane is listed with then. -/
  | resize (listed : Option (Nat × Nat))
  | enterCopyMode
  | exitCopyMode
  | copyMove (motion : CopyMotion)
  | copyToggleSelection
  | copyYank
  deriving DecidableEq, Repr

namespace CopyPane

def screen (pane : CopyPane) : Screen := pane.terminal.screen

def dispatch (event : CopyEvent) (pane : CopyPane) : Fallible (Option (List Char) × CopyPane) :=
  match event with
  | .view event => do
    let terminal <- pane.terminal.view event
    .ok (none, { pane with terminal })
  | .resize listed => do
    let terminal <- listed.elim (.ok pane.terminal) fun size => pane.terminal.view (.terminal (.resize size.1 size.2))
    .ok (none, { terminal, copyMode := pane.copyMode.map fun cm => cm.clamp terminal.screen })
  | .enterCopyMode => .ok (none, { pane with copyMode := some (.enter pane.screen) })
  | .exitCopyMode => .ok (none, { pane with copyMode := none })
  | .copyMove motion =>
    .ok (none, { pane with copyMode := pane.copyMode.map fun cm => cm.copyMove motion pane.screen })
  | .copyToggleSelection => .ok (none, { pane with copyMode := pane.copyMode.map CopyModeState.toggleSelection })
  | .copyYank =>
    match pane.copyMode with
    | some cm => do
      let text <- cm.yank pane.screen.grid
      .ok (text, { pane with copyMode := none })
    | none => .ok (none, pane)

end CopyPane

structure Placement where
  screen : Screen
  row : Nat
  col : Nat

def Placement.drawn (p : Placement) : SelectionPoint := ⟨min p.row (p.screen.rows - 1), min p.col (p.screen.cols - 1)⟩

def Screen.shownText (s : Screen) (anchor cursor : SelectionPoint) : Fallible (List Char) := do
  let lines <- s.displayed
  let between : Selection := { start := anchor, stop := cursor, mode := .normal, state := .selected }
  .ok (between.containedText { cols := s.cols, rows := s.rows, lines })

theorem Screen.shownText_ok {s : Screen} {top : Nat} (filled : s.grid.Filled)
    (first : top + s.viewportOffset = s.grid.scrollbackLen) {selection : Selection} (normal : selection.mode = .normal)
    (anchor : selection.start.row < s.rows) (cursor : selection.stop.row < s.rows) :
    s.shownText selection.start selection.stop = .ok ((selection.below top).containedText s.grid) := by
  -- A display whose first row is row `top` of the history and grid shows the rows from there on.
  have offset : s.viewportOffset ≤ s.grid.scrollbackLen := by omega
  have shown := (Screen.showsWindow filled offset).rows
  obtain ⟨start, stop, mode, state⟩ := selection
  subst normal
  rw [Screen.shownText, shown, ok_bind]
  refine congrArg Except.ok (Selection.containedText_below fun row member => ?_).symm
  have inside : row < s.rows := Nat.lt_of_le_of_lt (Selection.le_of_mem_rows member) (Nat.max_lt.mpr ⟨anchor, cursor⟩)
  have found := Screen.getElem?_window filled offset inside
  have number : s.grid.scrollbackLen + row - s.viewportOffset = top + row := by omega
  rw [number] at found
  simp only [Selection.rowCells, List.nil_append]
  rw [found, Grid.allRows]

structure Marked where
  anchor : Placement
  cursor : Placement

namespace Marked

/-- The screens that were on display when the two were put in place. -/
def screens (marked : Marked) : List Screen := [marked.anchor.screen, marked.cursor.screen]

def between (marked : Marked) (state : SelectionState) : Selection where
  start := ⟨marked.anchor.row, marked.anchor.col⟩
  stop := ⟨marked.cursor.row, marked.cursor.col⟩
  mode := .normal
  state := state

end Marked

structure Watched where
  pane : CopyPane
  marked : Option Marked

namespace Watched

def new (cols rows : Nat) : Watched := { pane := { terminal := .new cols rows, copyMode := none }, marked := none }

def screen (w : Watched) : Screen := w.pane.screen

/-- What is marked after the event, with the copy cursor where the event has left it. -/
def watch (event : CopyEvent) (pane : CopyPane) (marked : Option Marked) : Option Marked :=
  let here : Option Placement := pane.copyMode.map fun cm => ⟨pane.screen, cm.row, cm.col⟩
  match event with
  | .view _ | .resize _ => marked
  | .copyMove _ =>
    match marked, here with
    | some marked, some here => some { marked with cursor := here }
    | _, _ => none
  | .copyToggleSelection =>
    match marked, here with
    | none, some here => some ⟨here, here⟩
    | _, _ => none
  | .enterCopyMode | .exitCopyMode | .copyYank => none

def step (event : CopyEvent) (w : Watched) : Fallible Watched := do
  let (_, pane) <- w.pane.dispatch event
  .ok { pane, marked := watch event pane w.marked }

def CopiesShown (event : CopyEvent) (w : Watched) : Prop :=
  event = .copyYank -> ∀ cm ∈ w.pane.copyMode, ∀ selection ∈ cm.selection,
    ∃ marked ∈ w.marked, Ensures (fun _ => False) (cm.yank w.screen.grid) fun text =>
      ∀ s ∈ marked.screens, s.shownText marked.anchor.drawn marked.cursor.drawn = .ok (text.getD [])

/-- The selection is what is marked, counted from the first row that the screen had on entry. -/
structure Follows (w : Watched) : Prop where
  rolled : Screen.Rolled False w.screen
  outside : w.pane.copyMode = none -> w.marked = none
  selection : ∀ cm ∈ w.pane.copyMode,
    cm.selection = w.marked.map fun marked => (marked.between .selecting).below cm.scrollbackLen
  filled : ∀ marked ∈ w.marked, ∀ s ∈ marked.screens, s.grid.Filled

theorem Follows.unmarked {pane : CopyPane} (rolled : Screen.Rolled False pane.screen)
    (unselected : ∀ cm ∈ pane.copyMode, cm.selection = none) : Follows { pane, marked := none } where
  rolled := rolled
  outside := fun _ => rfl
  selection := unselected
  filled := fun marked absent => absurd absent (Option.not_mem_none marked)

theorem Follows.new (cols rows : Nat) : (new cols rows).Follows :=
  .unmarked (.new cols rows) fun cm absent => absurd absent (Option.not_mem_none cm)

theorem Follows.marks {pane : CopyPane} {cm : CopyModeState} {marked : Marked} (rolled : Screen.Rolled False pane.screen)
    (copying : pane.copyMode = some cm) (selected : cm.selection = some ((marked.between .selecting).below cm.scrollbackLen))
    (anchor : marked.anchor.screen.grid.Filled) (cursor : marked.cursor.screen.grid.Filled) :
    Follows { pane, marked := some marked } where
  rolled := rolled
  outside := fun left => by cases copying.symm.trans left
  selection := fun other member => by
    cases copying.symm.trans member
    exact selected
  filled := fun other member => by
    cases member
    simpa [Marked.screens] using And.intro anchor cursor

theorem dispatch_follows (event : CopyEvent) (w : Watched) (follows : w.Follows) :
    Ensures AnyPanic (w.pane.dispatch event) fun result =>
      Follows { pane := result.2, marked := watch event result.2 w.marked } := by
  obtain ⟨⟨terminal, copyMode⟩, marked⟩ := w
  cases event with
  | view event =>
    refine (terminal.view_rolls event nofun follows.rolled).bind fun next rolled => ?_
    exact ⟨rolled, follows.outside, follows.selection, follows.filled⟩
  | resize listed =>
    have resized : Ensures AnyPanic (listed.elim (.ok terminal) fun size =>
        terminal.view (.terminal (.resize size.1 size.2))) fun next => Screen.Rolled False next.screen := by
      cases listed with
      | none => exact follows.rolled
      | some size => exact terminal.view_rolls (.terminal (.resize size.1 size.2)) nofun follows.rolled
    refine resized.bind fun next rolled => ⟨rolled, fun left => ?_, fun clamped member => ?_, follows.filled⟩
    next => exact follows.outside (Option.map_eq_none_iff.mp left)
    next =>
      -- The clamp moves the cursor only, the selection stays.
      obtain ⟨cm, copying, rfl⟩ := Option.map_eq_some_iff.mp member
      exact follows.selection cm copying
  | enterCopyMode =>
    refine Follows.unmarked follows.rolled fun cm entered => ?_
    cases entered
    rfl
  | exitCopyMode => exact Follows.unmarked follows.rolled fun cm absent => absurd absent (Option.not_mem_none cm)
  | copyMove motion =>
    cases copyMode with
    | none =>
      cases follows.outside rfl
      exact follows
    | some cm =>
      have selected := follows.selection cm rfl
      cases marked with
      | none =>
        refine Follows.unmarked follows.rolled fun moved member => ?_
        cases member
        simp only [CopyModeState.copyMove, CopyMotion.apply_selection, selected, Option.map_none]
      | some marked =>
        have filled := follows.filled marked rfl
        refine Follows.marks follows.rolled rfl ?_ (filled _ List.mem_cons_self) follows.rolled.grid
        simp only [CopyModeState.copyMove, CopyMotion.apply_selection, selected, Option.map_some]
        rw [CopyModeState.point, CopyMotion.apply_scrollbackLen]
        rfl
  | copyToggleSelection =>
    cases copyMode with
    | none =>
      cases follows.outside rfl
      exact follows
    | some cm =>
      have selected := follows.selection cm rfl
      cases marked with
      | none =>
        refine Follows.marks follows.rolled rfl ?_ follows.rolled.grid follows.rolled.grid
        simp only [CopyModeState.toggleSelection, selected, Option.map_none]
        rfl
      | some marked =>
        refine Follows.unmarked follows.rolled fun toggled member => ?_
        cases member
        simp only [CopyModeState.toggleSelection, selected, Option.map_some]
  | copyYank =>
    cases copyMode with
    | none =>
      cases follows.outside rfl
      exact follows
    | some cm =>
      refine ensures_after _ fun text => ?_
      exact Follows.unmarked follows.rolled fun cm absent => absurd absent (Option.not_mem_none cm)

theorem step_follows (event : CopyEvent) (w : Watched) (follows : w.Follows) :
    Ensures AnyPanic (w.step event) Follows :=
  (dispatch_follows event w follows).bind fun _ follows => follows

/-- When the anchor and the cursor were put in place, the first row on display was the one that the selection counts
from, both places were on the display, and the selected cells hold the same characters since. -/
def Undisturbed (top : Nat) (marked : Marked) (selection : Selection) (g : Grid) : Prop :=
  marked.anchor.col < marked.anchor.screen.cols ∧ marked.cursor.col < marked.cursor.screen.cols ∧
    ∀ s ∈ marked.screens, top + s.viewportOffset = s.grid.scrollbackLen ∧
      marked.anchor.row < s.rows ∧ marked.cursor.row < s.rows ∧ selection.SameCells g s.grid

/-- At a yank, no wide character shifts the text of the selected columns besides. -/
def keeps (event : CopyEvent) (w : Watched) : Prop :=
  event = .copyYank -> ∀ cm ∈ w.pane.copyMode, ∀ selection ∈ cm.selection, ∀ marked ∈ w.marked,
    Undisturbed cm.scrollbackLen marked selection w.screen.grid ∧
      (∀ row ∈ w.screen.grid.scrollback ++ w.screen.grid.lines, row.cells.length < 2 ^ 64) ∧
      selection.lastCol + 1 < 2 ^ 64 ∧ selection.StartsStraight w.screen.grid ∧ selection.EndsBlank w.screen.grid

theorem shownText_undisturbed {top : Nat} {marked : Marked} {selection : Selection} {g : Grid}
    (selected : selection = (marked.between .selecting).below top) (undisturbed : Undisturbed top marked selection g)
    {s : Screen} (member : s ∈ marked.screens) (filled : s.grid.Filled) :
    s.shownText marked.anchor.drawn marked.cursor.drawn = .ok (selection.containedText g) := by
  obtain ⟨anchorCol, cursorCol, each⟩ := undisturbed
  obtain ⟨first, anchorRow, cursorRow, same⟩ := each s member
  have anchorInside := (each marked.anchor.screen List.mem_cons_self).2.1
  have cursorInside := (each marked.cursor.screen (List.mem_cons_of_mem _ List.mem_cons_self)).2.2.1
  have anchor : marked.anchor.drawn = (marked.between .selecting).start := by
    rw [Placement.drawn, Nat.min_eq_left (by omega), Nat.min_eq_left (by omega)]
    rfl
  have cursor : marked.cursor.drawn = (marked.between .selecting).stop := by
    rw [Placement.drawn, Nat.min_eq_left (by omega), Nat.min_eq_left (by omega)]
    rfl
  rw [anchor, cursor, Screen.shownText_ok filled first rfl anchorRow cursorRow, same.containedText, selected]

theorem yank_shown {event : CopyEvent} {w : Watched} (follows : w.Follows) (kept : keeps event w) :
    CopiesShown event w := by
  intro yanks cm copying selection selected
  have follow := follows.selection cm copying
  cases marks : w.marked with
  | none =>
    rw [marks, selected] at follow
    cases follow
  | some marked =>
    rw [marks, selected] at follow
    have same := Option.some.inj follow
    obtain ⟨undisturbed, short, exact⟩ := kept yanks cm copying selection selected marked marks
    have formed : w.screen.grid.Formed := ⟨follows.rolled.grid.lines, short⟩
    have cut := (Selection.getText_exact formed selection).1 exact
    obtain ⟨yanked, ran, text⟩ := CopyModeState.yank_ok selected cut
    refine ⟨marked, rfl, ?_⟩
    rw [ran]
    intro s member
    rw [text]
    exact shownText_undisturbed same undisturbed member (follows.filled marked marks s member)

theorem copies_shown (cols rows : Nat) (events : List CopyEvent) (kept : Along step keeps events (new cols rows)) :
    Along step CopiesShown events (new cols rows) :=
  (kept.with_invariant (fun event w _ follows => step_follows event w follows) (.new cols rows)).weaken
    fun _ _ both => yank_shown both.2 both.1

instance (top : Nat) (marked : Marked) (selection : Selection) (g : Grid) :
    Decidable (Undisturbed top marked selection g) := by
  unfold Undisturbed
  infer_instance

instance (event : CopyEvent) (w : Watched) : Decidable (keeps event w) := by
  unfold keeps
  infer_instance

/-- `step` with the byte loop of the parser, for evaluation. -/
def stepBytes (event : CopyEvent) (w : Watched) : Fallible Watched :=
  match event with
  | .view event => do
    let terminal <- w.pane.terminal.viewBytes event
    .ok { w with pane := { w.pane with terminal } }
  | event => step event w

theorem step_eq : step = stepBytes := by
  funext event w
  cases event with
  | view event =>
    rw [step, CopyPane.dispatch, Terminal.view_eq, stepBytes]
    cases w.pane.terminal.viewBytes event <;> rfl
  | _ => rfl

instance (event : CopyEvent) (w : Watched) : Decidable (CopiesShown event w) := by
  unfold CopiesShown
  infer_instance

def selectTop : List CopyEvent := [.enterCopyMode, .copyMove .gotoTop, .copyMove .startOfLine, .copyToggleSelection]

def lines (text : List Char) : CopyEvent := .view (.terminal (.bytes (ascii text)))

def scrollWhileSelected : List CopyEvent :=
  lines ['a', '\r', '\n', 'b'] :: selectTop ++ [.copyMove .down, lines ['\r', '\n', 'c'], .copyYank]

theorem copies_shown_scrolled : Along step CopiesShown scrollWhileSelected (new 2 2) :=
  copies_shown 2 2 scrollWhileSelected (by
    rw [step_eq]
    decide +kernel)

def selectScrolledBack : List CopyEvent := Terminal.scrolledBack.map .view ++ selectTop

def selectAfterOutput : List CopyEvent :=
  [lines ['a', '\r', '\n', 'b'], .enterCopyMode, lines ['\r', '\n', 'c'], .copyMove .gotoTop, .copyMove .startOfLine,
    .copyToggleSelection]

def yankedAndShown (w : Watched) : Option (Fallible (Option (List Char)) × List (Fallible (List Char))) := do
  let cm <- w.pane.copyMode
  let marked <- w.marked
  some (cm.yank w.screen.grid, marked.screens.map fun s => s.shownText marked.anchor.drawn marked.cursor.drawn)

/-- The first row on display is the first row of history, and the row that is yanked the first row of the grid; with
output in between it is the other way round. -/
theorem yanks_other_row :
    (run step selectScrolledBack (new 2 2)).map yankedAndShown = .ok (some (.ok (some ['b']), [.ok ['a'], .ok ['a']])) ∧
      (run step selectAfterOutput (new 2 2)).map yankedAndShown =
        .ok (some (.ok (some ['a']), [.ok ['b'], .ok ['b']])) ∧
      ¬ Along step CopiesShown (selectScrolledBack ++ [.copyYank]) (new 2 2) ∧
      ¬ Along step CopiesShown (selectAfterOutput ++ [.copyYank]) (new 2 2) := by
  rw [step_eq]
  exact ⟨rfl, rfl, by decide, by decide⟩

end Watched

end Emux
