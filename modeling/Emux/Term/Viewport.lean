import Emux.Term.PaneSize

set_option autoImplicit false

/-!
# The scrolled viewport

The rows on display are a window into history and grid, `viewportOffset` rows above the bottom. The offset stays
within the history as long as nothing shortens the history below it.
-/

namespace Emux

open Checked

namespace Grid

def scrollbackRow (g : Grid) (index : Nat) : Option Row := g.scrollback[index]?

structure Filled (g : Grid) : Prop where
  lines : g.lines.length = g.rows
  bounded : g.scrollback.length ≤ g.scrollbackLimit

theorem Filled.new (cols rows : Nat) : (Grid.new cols rows).Filled := ⟨List.length_replicate .., Nat.zero_le _⟩

theorem Filled.rewritten {g g' : Grid} (filled : g.Filled) (rewritten : g.Rewritten g') : g'.Filled where
  lines := by rw [rewritten.grows.lines, rewritten.extent.rows, filled.lines]
  bounded := rewritten.grows.bounded filled.bounded

theorem Filled.length_allRows {g : Grid} (filled : g.Filled) : g.allRows.length = g.scrollbackLen + g.rows := by
  rw [allRows, List.length_append, filled.lines, scrollbackLen]

/-- How many rows of history a resize leaves; a grid that gets lower loses none. -/
def historyLeft (g : Grid) (newCols newRows : Nat) : Nat :=
  if newCols = g.cols then g.scrollbackLen - (newRows - g.rows)
  else min ((g.reflowed newCols).length - newRows) g.scrollbackLimit

theorem shrinkRows_history (excess : Nat) (g : Grid) (delta : Int) (bounded : g.scrollback.length ≤ g.scrollbackLimit) :
    g.scrollback.length ≤ (shrinkRows excess g delta).1.scrollback.length := by
  induction excess generalizing g delta with
  | zero => exact Nat.le_refl _
  | succ excess ih =>
    rw [shrinkRows]
    split
    next last first rest atEnd whole =>
      split
      next => exact ih { g with lines := g.lines.dropLast } delta bounded
      next =>
        have grown := (Rewrite.push (g := { g with lines := rest }) first).grows
        exact Nat.le_trans (grown.history bounded) (ih _ (delta - 1) (grown.bounded bounded))
    next => exact ih g delta bounded

theorem resizeRows_history {g : Grid} (newCols newRows : Nat) (bounded : g.scrollback.length ≤ g.scrollbackLimit) :
    g.scrollback.length - (newRows - g.lines.length) ≤ (g.resizeRows newCols newRows).1.scrollback.length := by
  rw [resizeRows]
  split
  next =>
    simp only [growRows, List.length_take]
    omega
  next => exact Nat.le_trans (Nat.sub_le ..) (shrinkRows_history _ g 0 bounded)

theorem columnsChanged_bounded (g : Grid) (newCols newRows : Nat) :
    (g.columnsChanged newCols newRows).scrollback.length ≤ (g.columnsChanged newCols newRows).scrollbackLimit := by
  rw [columnsChanged, length_trimFront]
  exact Nat.min_le_right ..

theorem Filled.resized {g : Grid} (filled : g.Filled) (newCols newRows : Nat) : (g.resized newCols newRows).Filled := by
  rw [Grid.resized]
  split
  next => exact filled
  next =>
    split
    next =>
      obtain ⟨lines, history, limit⟩ := resizeRows_frame newCols newRows (g.columnsChanged_bounded newCols newRows)
      exact ⟨lines, by rw [← limit] at history; exact history⟩
    next =>
      obtain ⟨lines, history, limit⟩ := resizeRows_frame newCols newRows filled.bounded
      exact ⟨lines, by rw [← limit] at history; exact history⟩

theorem historyLeft_le {g : Grid} (filled : g.Filled) (newCols newRows : Nat) :
    g.historyLeft newCols newRows ≤ (g.resized newCols newRows).scrollbackLen := by
  rw [historyLeft, Grid.resized]
  by_cases sameCols : newCols = g.cols
  next =>
    rw [if_pos sameCols]
    by_cases sameRows : newRows = g.rows
    next =>
      rw [if_pos ⟨sameCols, sameRows⟩]
      exact Nat.sub_le ..
    next =>
      have kept := resizeRows_history newCols newRows filled.bounded
      rw [if_neg fun both => sameRows both.2, if_neg (not_not.mpr sameCols)]
      rw [filled.lines] at kept
      exact kept
  next =>
    have kept := resizeRows_history newCols newRows (g.columnsChanged_bounded newCols newRows)
    rw [if_neg sameCols, if_neg fun both => sameCols both.1, if_pos sameCols]
    refine Nat.le_trans ?_ kept
    -- Reflowed rows that do not fill the viewport leave no history for it to take back.
    simp only [columnsChanged, length_trimFront, List.length_take, List.length_drop, overflow]
    omega

end Grid

namespace Screen

def scrollViewportUp (s : Screen) (n : Nat) : Screen :=
  { s with viewportOffset := min (s.viewportOffset + n) s.grid.scrollbackLen }

def scrollViewportDown (s : Screen) (n : Nat) : Screen := { s with viewportOffset := s.viewportOffset - n }

def scrollViewportReset (s : Screen) : Screen := { s with viewportOffset := 0 }

def viewportRow (s : Screen) (displayRow : Nat) : Fallible Row :=
  if s.viewportOffset = 0 then s.grid.row displayRow
  else
    let sbLen := s.grid.scrollbackLen
    let virtualRow := sbLen + displayRow - s.viewportOffset
    if virtualRow < sbLen then
      match s.grid.scrollbackRow virtualRow with
      | some row => .ok row
      | none => s.grid.row 0
    else s.grid.row (min (virtualRow - sbLen) (s.grid.rows - 1))

/-- `viewport_row(0..rows)`. -/
def displayed (s : Screen) : Fallible (List Row) := (List.range' 0 s.rows).mapM s.viewportRow

/-- As many rows as the screen has, the last of them `viewportOffset` rows above the bottom. -/
def window (s : Screen) : List Row := (s.grid.allRows.rdrop s.viewportOffset).rtake s.rows

structure ShowsWindow (s : Screen) : Prop where
  offset : s.viewportOffset ≤ s.grid.scrollbackLen
  rows : s.displayed = .ok s.window

theorem getElem?_window {s : Screen} (filled : s.grid.Filled) (offset : s.viewportOffset ≤ s.grid.scrollbackLen)
    {i : Nat} (inside : i < s.rows) :
    s.window[i]? = s.grid.allRows[s.grid.scrollbackLen + i - s.viewportOffset]? := by
  have length := filled.length_allRows
  have rows : s.rows = s.grid.rows := rfl
  simp only [window, List.rtake, List.rdrop, List.length_take, List.getElem?_drop, length]
  rw [List.getElem?_take_of_lt (by omega)]
  congr 1
  omega

theorem length_window {s : Screen} (filled : s.grid.Filled) (offset : s.viewportOffset ≤ s.grid.scrollbackLen) :
    s.window.length = s.rows := by
  have length := filled.length_allRows
  have rows : s.rows = s.grid.rows := rfl
  simp only [window, List.rtake, List.rdrop, List.length_take, List.length_drop, length]
  omega

theorem row_inside {g : Grid} {r : Nat} {row : Row} (inside : r < g.rows) (found : g.lines[r]? = some row) :
    g.row r = .ok row := by
  -- A row of the grid that lies inside it is read without being clamped.
  rw [Grid.row, Nat.min_eq_left (by omega)]
  exact get_ok found

theorem viewportRow_window {s : Screen} (filled : s.grid.Filled) (offset : s.viewportOffset ≤ s.grid.scrollbackLen)
    {i : Nat} {row : Row} (found : s.window[i]? = some row) : s.viewportRow i = .ok row := by
  have inside : i < s.rows := by
    rw [← length_window filled offset]
    exact List.getElem?_eq_some_iff.mp found |>.1
  rw [getElem?_window filled offset inside, Grid.allRows] at found
  unfold viewportRow
  split
  next bottom =>
    rw [bottom, List.getElem?_append_right (by simp [Grid.scrollbackLen])] at found
    exact row_inside inside (by simpa [Grid.scrollbackLen] using found)
  next =>
    dsimp only
    split
    next above =>
      rw [List.getElem?_append_left above] at found
      rw [Grid.scrollbackRow, found]
    next below =>
      have lines : s.grid.lines[s.grid.scrollbackLen + i - s.viewportOffset - s.grid.scrollbackLen]? = some row := by
        rwa [List.getElem?_append_right (Nat.not_lt.mp below)] at found
      have rows : s.rows = s.grid.rows := rfl
      rw [Nat.min_eq_left (by omega)]
      exact row_inside (by omega) lines

theorem showsWindow {s : Screen} (filled : s.grid.Filled) (offset : s.viewportOffset ≤ s.grid.scrollbackLen) :
    s.ShowsWindow where
  offset := offset
  rows := by
    rw [displayed, ← length_window filled offset]
    refine mapM_indices fun i row found => ?_
    rw [Nat.zero_add]
    exact viewportRow_window filled offset found

structure Rolled (tracked : Prop) (s : Screen) : Prop where
  grid : s.grid.Filled
  altGrid : s.altGrid.Filled
  offset : tracked -> s.viewportOffset ≤ s.grid.scrollbackLen

variable {tracked : Prop}

theorem Rolled.new (cols rows : Nat) : Rolled tracked (Screen.new cols rows) :=
  ⟨.new cols rows, .new cols rows, fun _ => Nat.zero_le _⟩

theorem Rolled.rewritten {s s' : Screen} (rolled : Rolled tracked s) (edit : Rewritten s s') : Rolled tracked s' where
  grid := rolled.grid.rewritten edit.rewritten
  altGrid := edit.altGrid ▸ rolled.altGrid
  offset := fun here => by
    rw [edit.viewportOffset]
    exact Nat.le_trans (rolled.offset here) (edit.rewritten.grows.history rolled.grid.bounded)

theorem Rolled.same {s s' : Screen} (rolled : Rolled tracked s) (grid : s'.grid = s.grid)
    (altGrid : s'.altGrid = s.altGrid) (offset : s'.viewportOffset ≤ s.viewportOffset) : Rolled tracked s' where
  grid := grid ▸ rolled.grid
  altGrid := altGrid ▸ rolled.altGrid
  offset := fun here => grid ▸ Nat.le_trans offset (rolled.offset here)

theorem Rolled.resizedTo {s : Screen} (rolled : Rolled tracked s) {newCols newRows : Nat} (row : Nat)
    (kept : tracked -> s.viewportOffset ≤ s.grid.historyLeft newCols newRows) :
    Rolled tracked (s.resizedTo newCols newRows row) where
  grid := rolled.grid.resized newCols newRows
  altGrid := rolled.altGrid.resized newCols newRows
  offset := fun here => Nat.le_trans (kept here) (Grid.historyLeft_le rolled.grid newCols newRows)

theorem Rolled.resize {s : Screen} (rolled : Rolled tracked s) {newCols newRows : Nat}
    (kept : tracked -> s.viewportOffset ≤ s.grid.historyLeft newCols newRows) :
    Ensures AnyPanic (s.resize newCols newRows) (Rolled tracked) := by
  refine ((s.resize_cases newCols newRows).allow fun _ _ => trivial).weaken fun s' resized => ?_
  obtain ⟨row, rfl⟩ := resized
  exact rolled.resizedTo row kept

theorem tabForward_viewport (s : Screen) (count : Nat) : (s.tabForward count).viewportOffset = s.viewportOffset := by
  obtain ⟨_, _, moved⟩ := s.tabForward_col count
  rw [moved]

theorem cursorPosition_viewport (s : Screen) (row col : Nat) :
    (s.cursorPosition row col).viewportOffset = s.viewportOffset := by
  unfold cursorPosition
  split <;> rfl

theorem moveHome_viewport (s : Screen) : s.moveHome.viewportOffset = s.viewportOffset := by
  unfold moveHome
  split <;> rfl

theorem restoreCursor_viewport (s : Screen) : s.restoreCursor.viewportOffset = s.viewportOffset := by
  unfold restoreCursor
  split <;> rfl

theorem setFlagMode_viewport (s : Screen) (mode : Nat) (enable : Bool) :
    (s.setFlagMode mode enable).viewportOffset = s.viewportOffset := by
  unfold setFlagMode
  split
  case h_2 => exact cursorPosition_viewport ..
  case h_7 => split <;> rfl
  case h_14 =>
    split
    next => rfl
    next => exact restoreCursor_viewport s
  all_goals rfl

end Screen

open Screen

theorem Update.viewport_le (u : Update) (s : Screen) : (u.apply s).viewportOffset ≤ s.viewportOffset := by
  -- A character takes the viewport to the bottom; no other update moves it.
  have same {t : Screen} (offset : t.viewportOffset = s.viewportOffset) : t.viewportOffset ≤ s.viewportOffset :=
    Nat.le_of_eq offset
  cases u with
  | beginChar c => exact Nat.zero_le _
  | sgr params subflags =>
    obtain ⟨_, _, _, changed⟩ := s.handleSgr_pen params subflags
    rw [apply, changed]
  | tabForward count => exact same (s.tabForward_viewport count)
  | setFlagMode mode enable => exact same (s.setFlagMode_viewport mode enable)
  | cursorPosition row col => exact same (s.cursorPosition_viewport row col)
  | restoreCursor => exact same s.restoreCursor_viewport
  | clearTabStop mode => cases mode <;> exact same rfl
  | setScrollRegion top bottom =>
    refine same ((moveHome_viewport _).trans ?_)
    split_ifs <;> rfl
  | setLeftRightMargin left right =>
    simp only [apply, Screen.setLeftRightMargin]
    split
    next =>
      refine same ((moveHome_viewport _).trans ?_)
      split_ifs <;> rfl
    next => exact same rfl
  | backspace =>
    simp only [apply, Screen.backspace]
    split_ifs <;> exact same rfl
  | carriageReturn =>
    simp only [apply, Screen.carriageReturn]
    split <;> exact same rfl
  | setAnsiMode mode enable =>
    simp only [apply, Screen.setAnsiMode]
    split <;> exact same rfl
  | restoreDecModes =>
    simp only [apply, Screen.restoreDecModes]
    split <;> exact same rfl
  | popSgr =>
    simp only [apply, Screen.popSgr]
    split <;> exact same rfl
  | _ => exact same rfl

def Op.keepsHistory (op : Op) (s : Screen) : Prop :=
  match op with
  | .eraseDisplay .scrollback _ => s.viewportOffset = 0
  | .enterAltScreen _ => s.modes.altScreen = false -> s.viewportOffset ≤ s.altGrid.scrollbackLen
  | .leaveAltScreen _ => s.modes.altScreen = true -> s.viewportOffset ≤ s.altGrid.scrollbackLen
  | .deccolm enable => s.modes.allowDeccolm = true -> s.viewportOffset ≤ s.grid.historyLeft (deccolmCols enable) s.rows
  | .resize newCols newRows => s.viewportOffset ≤ s.grid.historyLeft newCols newRows
  | _ => True

instance (op : Op) (s : Screen) : Decidable (op.keepsHistory s) := by
  unfold Op.keepsHistory
  split <;> infer_instance

namespace Screen

variable {tracked : Prop}

theorem Rolled.swap {s t : Screen} (rolled : Rolled tracked s) (grid : t.grid = s.altGrid) (altGrid : t.altGrid = s.grid)
    (offset : t.viewportOffset = s.viewportOffset) (kept : tracked -> s.viewportOffset ≤ s.altGrid.scrollbackLen) :
    Rolled tracked t :=
  ⟨grid ▸ rolled.altGrid, altGrid ▸ rolled.grid, fun here => by rw [offset, grid]; exact kept here⟩

theorem Rolled.enterAltScreen {s : Screen} (rolled : Rolled tracked s) (save : Bool)
    (kept : tracked -> s.modes.altScreen = false -> s.viewportOffset ≤ s.altGrid.scrollbackLen) :
    Ensures AnyPanic (s.enterAltScreen save) (Rolled tracked) := by
  refine .ite (fun _ => rolled) fun primary => ?_
  have inside := fun here => kept here (Bool.eq_false_iff.mpr primary)
  refine (onGrid_rewritten _ (Grid.clearRows_rewrites ..)).bind fun t edit => ?_
  refine (Rolled.rewritten ?_ edit).same rfl rfl (Nat.le_refl _)
  cases save <;> exact rolled.swap rfl rfl rfl inside

theorem Rolled.leaveAltScreen {s : Screen} (rolled : Rolled tracked s) (restore : Bool)
    (kept : tracked -> s.modes.altScreen = true -> s.viewportOffset ≤ s.altGrid.scrollbackLen) :
    Rolled tracked (s.leaveAltScreen restore) := by
  unfold Screen.leaveAltScreen
  split
  next alternate =>
    have inside := fun here => kept here alternate
    cases restore with
    | false => exact rolled.swap rfl rfl rfl inside
    | true =>
      refine rolled.swap (restoreCursor_quiet _).grid (restoreCursor_quiet _).altGrid ?_ inside
      exact restoreCursor_viewport _
  next => exact rolled

theorem Rolled.deccolm {s : Screen} (rolled : Rolled tracked s) (enable : Bool)
    (kept : tracked -> s.modes.allowDeccolm = true ->
      s.viewportOffset ≤ s.grid.historyLeft (deccolmCols enable) s.rows) :
    Ensures AnyPanic (s.deccolm enable) (Rolled tracked) := by
  refine .ite (fun allowed => ?_) fun _ => rolled
  refine (rolled.resize fun here => kept here allowed).bind fun t resized => ?_
  refine (eraseDisplay_rewritten t false (by simp)).bind fun u edit => ?_
  exact (resized.rewritten edit).same rfl rfl (Nat.le_refl _)

end Screen

theorem Op.rolls (op : Op) {tracked : Prop} {s : Screen} (keeps : tracked -> op.keepsHistory s)
    (rolled : Rolled tracked s) : Ensures AnyPanic (op.exec s) (Rolled tracked) := by
  have rewrites (plain : op.edits = true) (history : op.clearsHistory = false) :
      Ensures AnyPanic (op.exec s) (Rolled tracked) :=
    (op.rewritten s plain history).weaken fun _ => rolled.rewritten
  cases op with
  | update u => exact rolled.same (u.quiet s).grid (u.quiet s).altGrid (u.viewport_le s)
  | eraseDisplay mode selective =>
    cases mode with
    | scrollback =>
      exact ⟨⟨rolled.grid.lines, Nat.zero_le _⟩, rolled.altGrid, fun here => Nat.le_of_eq (keeps here)⟩
    | _ => exact rewrites rfl rfl
  | decaln =>
    refine (eachCell_rewritten s ..).bind fun t edit => ?_
    exact (rolled.rewritten edit).same rfl rfl (Nat.le_refl _)
  | enterAltScreen save => exact rolled.enterAltScreen save keeps
  | leaveAltScreen restore => exact rolled.leaveAltScreen restore keeps
  | reset => exact .new _ _
  | deccolm enable => exact rolled.deccolm enable keeps
  | resize newCols newRows => exact rolled.resize keeps
  | _ => exact rewrites rfl rfl

inductive ViewEvent where
  | terminal (event : Event)
  | scrollViewportUp (n : Nat)
  | scrollViewportDown (n : Nat)
  | scrollViewportReset
  | setScrollbackLimit (limit : Nat)
  deriving DecidableEq, Repr

namespace Terminal

def onScreen (t : Terminal) (update : Screen -> Screen) : Terminal := { t with screen := update t.screen }

def view (event : ViewEvent) (t : Terminal) : Fallible Terminal :=
  match event with
  | .terminal event => t.handle event
  | .scrollViewportUp n => .ok (t.onScreen fun s => s.scrollViewportUp n)
  | .scrollViewportDown n => .ok (t.onScreen fun s => s.scrollViewportDown n)
  | .scrollViewportReset => .ok (t.onScreen Screen.scrollViewportReset)
  | .setScrollbackLimit limit => .ok (t.onScreen fun s => { s with grid := s.grid.setScrollbackLimit limit })

/-- Every operation of the event leaves a history that the offset is within, and a new limit is no lower than it. -/
def keepsHistory (event : ViewEvent) (t : Terminal) : Prop :=
  match event with
  | .terminal event => EveryOp Op.keepsHistory [event] t
  | .setScrollbackLimit limit => t.screen.viewportOffset ≤ limit
  | _ => True

theorem handle_rolls (event : Event) {tracked : Prop} {t : Terminal}
    (keeps : tracked -> EveryOp Op.keepsHistory [event] t) (rolled : Rolled tracked t.screen) :
    Ensures AnyPanic (t.handle event) fun t => Rolled tracked t.screen := by
  have every : EveryOp (fun op s => tracked -> op.keepsHistory s) [event] t := along_of_implied keeps
  have ran := ensures_ops (fun op _ keeps rolled => op.rolls keeps rolled) every rolled
  rw [run_cons] at ran
  cases result : t.handle event with
  | error panic => trivial
  | ok next =>
    rw [result] at ran
    exact ran

theorem view_rolls (event : ViewEvent) {tracked : Prop} (t : Terminal) (keeps : tracked -> keepsHistory event t)
    (rolled : Rolled tracked t.screen) : Ensures AnyPanic (t.view event) fun t => Rolled tracked t.screen := by
  cases event with
  | terminal event => exact handle_rolls event keeps rolled
  | scrollViewportUp n => exact ⟨rolled.grid, rolled.altGrid, fun _ => Nat.min_le_right ..⟩
  | scrollViewportDown n => exact rolled.same rfl rfl (Nat.sub_le ..)
  | scrollViewportReset => exact rolled.same rfl rfl (Nat.zero_le _)
  | setScrollbackLimit limit =>
    have length := length_trimFront limit t.screen.grid.scrollback
    refine ⟨⟨rolled.grid.lines, ?_⟩, rolled.altGrid, fun here => ?_⟩
    next =>
      show (trimFront limit t.screen.grid.scrollback).length ≤ limit
      omega
    next =>
      show t.screen.viewportOffset ≤ (trimFront limit t.screen.grid.scrollback).length
      rw [length]
      exact Nat.le_min.mpr ⟨rolled.offset here, keeps here⟩

theorem reachable_shows_window (cols rows : Nat) (events : List ViewEvent)
    (keeps : Along view keepsHistory events (new cols rows)) :
    Ensures AnyPanic (run view events (new cols rows)) fun t => t.screen.ShowsWindow :=
  (run_ensures (fun event t kept => t.view_rolls event fun _ => kept) keeps (Rolled.new cols rows)).weaken fun _ rolled =>
    Screen.showsWindow rolled.grid (rolled.offset trivial)

/-- `view` with the byte loop of the parser, for evaluation. -/
def viewBytes (event : ViewEvent) (t : Terminal) : Fallible Terminal :=
  match event with
  | .terminal event => handleBytes event t
  | event => view event t

theorem view_eq : view = viewBytes := by
  funext event t
  cases event with
  | terminal event => rw [view, handle_eq, viewBytes]
  | _ => rfl

def scrolledBack : List ViewEvent :=
  [.terminal (.bytes (ascii ['a', '\r', '\n', 'b', '\r', '\n', 'c'])), .scrollViewportUp 1]

theorem reachable_shows_window_limit :
    Ensures AnyPanic (run view (scrolledBack ++ [.setScrollbackLimit 1, .terminal (.resize 2 1)]) (new 2 2))
      fun t => t.screen.ShowsWindow :=
  reachable_shows_window 2 2 _ (by
    simp only [scrolledBack, List.cons_append, List.nil_append, Along, keepsHistory, view, EveryOp, ops, calls,
      Event.calls, handle_eq, Parser.advance_eq_advanceBytes]
    decide)

def eraseScrolledBack : List ViewEvent := scrolledBack ++ [.terminal (.bytes (0x1B :: ascii ['[', '3', 'J']))]

/-- ED 3 empties the history under the offset, and both rows on display are the first row of the grid. -/
theorem erase_shows_row_twice :
    (run view eraseScrolledBack (new 2 2)).map (fun t =>
        (t.screen.viewportOffset, t.screen.grid.scrollbackLen,
          t.screen.displayed.map fun rows => rows.map fun row => row.cells.map Cell.c)) =
        .ok (1, 0, .ok [['b', ' '], ['b', ' ']]) ∧
      ¬ Ensures AnyPanic (run view eraseScrolledBack (new 2 2)) fun t => t.screen.ShowsWindow := by
  have offset : ¬ Ensures AnyPanic (run view eraseScrolledBack (new 2 2)) fun t =>
      t.screen.viewportOffset ≤ t.screen.grid.scrollbackLen := by
    rw [view_eq]
    decide
  refine ⟨?_, fun shows => offset (shows.weaken fun t window => window.offset)⟩
  rw [view_eq]
  rfl

end Terminal

end Emux
