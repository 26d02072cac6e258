import Emux.Term.AltScreen

set_option autoImplicit false

/-!
# Sizes at which a screen can run

For which sizes a resize and any bytes after it never panic. A grid without rows or columns has no
cell to erase, and a screen whose alternate buffer was entered from a row that is gone has no line
to return to.
-/

namespace Emux

open Checked

namespace Screen

/-- Leaving the alternate screen leads to one of the rows, or the alternate screen is not shown and
no saved modes say that it is. -/
def sheltered (s : Screen) (rows : Nat) : Bool :=
  decide (s.altCursor.row < rows) || (!s.modes.altScreen && s.savedModes.all fun saved => !saved.altScreen)

theorem sheltered_same {s s' : Screen} {rows : Nat} (altCursor : s'.altCursor = s.altCursor)
    (altScreen : s'.modes.altScreen = s.modes.altScreen) (savedModes : s'.savedModes = s.savedModes) :
    s'.sheltered rows = s.sheltered rows := by
  simp only [sheltered, altCursor, altScreen, savedModes]

theorem sheltered_row {s : Screen} {rows : Nat} (row : s.altCursor.row < rows) : s.sheltered rows = true := by
  simp [sheltered, row]

def Sheltered (s : Screen) : Prop := Safe s ∧ s.sheltered s.grid.rows = true

theorem Keeps.sheltered {s s' : Screen} (keeps : Keeps s s') (same : s'.sheltered s.grid.rows = true) : Sheltered s' :=
  ⟨keeps.safe, by rw [keeps.rows]; exact same⟩

theorem enteredAlt_sheltered {s : Screen} (start : Sheltered s) (save : Bool) : Sheltered (s.enteredAlt save) := by
  refine (enteredAlt_keeps start.1 save).sheltered ?_
  unfold enteredAlt
  split
  next => exact start.2
  next =>
    apply sheltered_row
    cases save <;> exact start.1.row

theorem leaveAltScreen_sheltered {s : Screen} (start : Sheltered s) (restore : Bool) :
    Sheltered (s.leaveAltScreen restore) := by
  obtain ⟨safe, shelter⟩ := start
  by_cases alternate : s.modes.altScreen = true
  next =>
    have row : s.altCursor.row < s.grid.rows := by simpa [sheltered, alternate] using shelter
    refine ⟨leaveAltScreen_safe safe restore fun _ _ => row, sheltered_row ?_⟩
    have swapped : (s.leaveAltScreen restore).altCursor = s.cursor ∧
        (s.leaveAltScreen restore).grid.rows = s.altGrid.rows := by
      cases restore with
      | false => simp [leaveAltScreen, alternate, swapBuffers, recordFullDamage]
      | true =>
        simp only [leaveAltScreen, alternate, if_true, recordFullDamage]
        exact ⟨(restoreCursor_kept _).altCursor, congrArg Grid.rows (restoreCursor_quiet _).grid⟩
    rw [swapped.1, swapped.2, safe.altRows]
    exact safe.row
  next =>
    have same : s.leaveAltScreen restore = s := by rw [leaveAltScreen, if_neg alternate]
    rw [same]
    exact ⟨safe, shelter⟩

end Screen

open Screen

theorem Update.sheltered (u : Update) {s : Screen} (start : Sheltered s) : Sheltered (u.apply s) := by
  refine (u.keeps start.1).sheltered ?_
  have shelter := start.2
  -- Only an update that saves, restores or exchanges can change what leaving leads to.
  have kept (plain : u.touchesSaved = false) : (u.apply s).sheltered s.grid.rows = true := by
    have same := u.kept s plain
    rw [sheltered_same same.altCursor same.altScreen same.savedModes]
    exact shelter
  simp only [Screen.sheltered, Bool.or_eq_true, Bool.and_eq_true, decide_eq_true_eq] at shelter
  cases u with
  | saveCursor => exact start.2
  | softReset =>
    rcases shelter with row | ⟨-, saved⟩
    next => exact sheltered_row row
    next => simp [Screen.sheltered, apply, Screen.softReset, saved]
  | saveDecModes =>
    rcases shelter with row | ⟨primary, -⟩
    next => exact sheltered_row row
    next => simpa [Screen.sheltered, apply, Screen.saveDecModes] using Or.inr primary
  | restoreDecModes =>
    simp only [apply, Screen.restoreDecModes]
    cases found : s.savedModes with
    | none => exact start.2
    | some saved =>
      rcases shelter with row | ⟨-, others⟩
      next => exact sheltered_row row
      next =>
        rw [found] at others
        simpa [Screen.sheltered] using Or.inr others
  | setFlagMode mode enable =>
    by_cases saves : mode = 1048 ∧ enable = true
    next => rw [saves.1, saves.2]; exact start.2
    next => exact kept (by simpa [touchesSaved] using saves)
  | _ => exact kept rfl

theorem Op.sheltered (op : Op) {s : Screen} (guest : op.isResize = false) (start : Sheltered s) :
    Ensures OnlySlice (op.exec s) Sheltered := by
  have same (stays : op.jumps = false) (flags : Ensures AnyPanic (op.exec s) fun s' =>
      s'.altCursor = s.altCursor ∧ s'.modes.altScreen = s.modes.altScreen ∧ s'.savedModes = s.savedModes) :
      Ensures OnlySlice (op.exec s) Sheltered :=
    ((op.keeps start.1 stays).and flags).weaken fun s' both =>
      both.1.sheltered (by rw [sheltered_same both.2.1 both.2.2.1 both.2.2.2]; exact start.2)
  cases op with
  | resize => cases guest
  | update u => exact u.sheltered start
  | enterAltScreen save =>
    rw [exec, enterAltScreen_ok start.1.toFramed]
    exact enteredAlt_sheltered start save
  | leaveAltScreen restore => exact leaveAltScreen_sheltered start restore
  | reset =>
    have fresh := new_valid start.1.someCols start.1.someRows
    exact ⟨fresh.toSafe, sheltered_row start.1.someRows⟩
  | deccolm enable =>
    exact same rfl ((s.deccolm_flags enable).weaken fun s' flags => ⟨flags.2.2, by rw [flags.1], flags.2.1⟩)
  | _ =>
    exact same rfl ((Op.kept _ s rfl).weaken fun _ kept => ⟨kept.altCursor, kept.altScreen, kept.savedModes⟩)

namespace Screen

def Runs (s : Screen) (cols rows : Nat) : Prop :=
  ∀ (parser : Parser) (input : Bytes),
    Ensures OnlySlice (run Terminal.handle [.resize cols rows, .bytes input] { parser, screen := s }) fun _ => True

theorem noResize_ops (input : Bytes) (t : Terminal) : ∀ op ∈ Terminal.ops [.bytes input] t, op.isResize = false := by
  intro op member
  cases op with
  | resize cols rows => simpa using Terminal.resize_of_mem_ops member
  | _ => rfl

theorem runs_of_sheltered {s : Screen} (resizable : Resizable s) {cols rows : Nat} (someCols : 0 < cols)
    (someRows : 0 < rows) (shelter : s.sheltered rows = true) : s.Runs cols rows := by
  intro parser input
  obtain ⟨row, resized⟩ := s.resize_ok rows someCols
  have valid := resizable.valid someCols someRows row
  have height : (s.resizedTo cols rows row).grid.rows = rows := Grid.resized_rows ..
  have start : Sheltered (s.resizedTo cols rows row) := ⟨valid.toSafe, by rw [height]; exact shelter⟩
  have every := @along_of_forall _ _ Op.exec _ _ (noResize_ops input { parser, screen := s.resizedTo cols rows row })
    (s.resizedTo cols rows row)
  have ran := @Terminal.ensures_ops OnlySlice _ Sheltered (fun op _ ok start => op.sheltered ok start) _
    { parser, screen := s.resizedTo cols rows row } every start
  rw [run_cons, Terminal.handle, resized]
  exact ran.weaken fun _ _ => trivial

theorem resize_cases (s : Screen) (newCols newRows : Nat) :
    Ensures (Grid.NoColumns newCols) (s.resize newCols newRows) fun s' =>
      ∃ row, s' = s.resizedTo newCols newRows row := by
  refine (s.grid.resizeWithCursor_rows newCols newRows _).bind fun active same => ?_
  refine (s.altGrid.resizeWithCursor_rows newCols newRows none).bind fun inactive sameAlt => ?_
  obtain ⟨grid, delta⟩ := active
  obtain ⟨altGrid, other⟩ := inactive
  subst same sameAlt
  exact ⟨(s.cursor.row + delta).toNat, rfl⟩

theorem eraseRight_empty {s : Screen} (sized : s.grid.Sized) (empty : s.grid.cols = 0 ∨ s.grid.rows = 0)
    (row : s.cursor.row ≤ s.grid.rows - 1) (col : s.cursor.col ≤ s.grid.cols - 1) :
    s.eraseLine .toRight false = .error .index := by
  -- Erasing to the right in a grid without rows or without columns.
  have fails : s.grid.clearRegion s.cursor.row s.cursor.col s.cursor.row (s.grid.cols - 1) = .error .index := by
    have bottom : min s.cursor.row (s.grid.rows - 1) = s.cursor.row := by omega
    have stop : s.grid.cols - 1 + 1 - s.cursor.col = (s.grid.cols - 1 - s.cursor.col) + 1 := by omega
    have edit : s.grid.editCell s.cursor.row s.cursor.col (fun _ => Cell.blank) = .error .index := by
      cases found : s.grid.lines[s.cursor.row]? with
      | none => simp [Grid.editCell, Checked.get, found]
      | some old =>
        have inside := (List.getElem?_eq_some_iff.mp found).1
        have width := sized.cells_at found
        have rows := sized.lines
        simp [Grid.editCell, Checked.get, found, Checked.modify, show ¬ s.cursor.col < old.cells.length by omega]
    have repair : (onlyIf (0 < s.cursor.col ∧ s.cursor.col ≤ s.grid.cols - 1) s.grid fun g =>
        g.repairLeft s.cursor.row s.cursor.col) = .error .index ∨
        (onlyIf (0 < s.cursor.col ∧ s.cursor.col ≤ s.grid.cols - 1) s.grid fun g =>
        g.repairLeft s.cursor.row s.cursor.col) = .ok s.grid := by
      by_cases interior : 0 < s.cursor.col ∧ s.cursor.col ≤ s.grid.cols - 1
      next =>
        have none : s.grid.lines[s.cursor.row]? = none := List.getElem?_eq_none (by rw [sized.lines]; omega)
        rw [onlyIf_true _ _ interior]
        exact .inl (by simp [Grid.repairLeft, Grid.cellAt, Checked.get, none])
      next => exact .inr (onlyIf_false _ _ interior)
    simp only [Grid.clearRegion, bottom, Nat.min_self, forRange, Nat.add_sub_cancel_left, List.foldlM_cons,
      stop, List.range'_succ]
    rcases repair with failed | passed
    next => rw [failed]; rfl
    next => rw [passed, ok_bind, onlyIf_false _ _ (by omega), ok_bind, edit]; rfl
  simp only [eraseLine, recordDamage_eq]
  exact onGrid_error fails

theorem eraseLine_below {s : Screen} (below : s.grid.lines.length ≤ s.cursor.row) :
    s.eraseLine .all false = .error .index := eraseRow_below below

/-- `CSI K`, and `CSI ?47l` and `CSI 2K` with and without `CSI ?r` before them. -/
def eraseRight : Bytes := 0x1B :: ascii ['[', 'K']

def leaveAndErase : Bytes := 0x1B :: ascii ['[', '?', '4', '7', 'l'] ++ 0x1B :: ascii ['[', '2', 'K']

def restoreLeaveAndErase : Bytes := 0x1B :: ascii ['[', '?', 'r'] ++ leaveAndErase

def leaveAction : Action := .csiDispatch { current := 47, hasCurrent := true } [0x3F] false 0x6C

def eraseAction : Action := .csiDispatch { current := 2, hasCurrent := true } [] false 0x4B

def restoreAction : Action := .csiDispatch {} [0x3F] false 0x72

theorem eraseRight_parsed : (({} : Parser).advanceBytes eraseRight).2 = [.csiDispatch {} [] false 0x4B] := by decide

theorem leaveAndErase_parsed : (({} : Parser).advanceBytes leaveAndErase).2 = [leaveAction, eraseAction] := by decide

theorem restoreLeaveAndErase_parsed :
    (({} : Parser).advanceBytes restoreLeaveAndErase).2 = [restoreAction, leaveAction, eraseAction] := by decide

theorem eraseRight_fails {s : Screen} (fails : s.eraseLine .toRight false = .error .index) :
    run perform [.csiDispatch {} [] false 0x4B] s = .error .index := by
  have erased : s.perform (.csiDispatch {} [] false 0x4B) = .error .index :=
    (@perform_one s _ (.eraseLine .toRight false) rfl).trans fails
  rw [run_cons, erased, error_bind]

theorem leave_erase_fails {s : Screen} (alternate : s.modes.altScreen = true)
    (below : s.altGrid.lines.length ≤ s.altCursor.row) :
    run perform [leaveAction, eraseAction] s = .error .index := by
  have fails : (s.leaveAltScreen false).eraseLine .all false = .error .index := by
    apply eraseLine_below
    simp only [leaveAltScreen, alternate, if_true, swapBuffers, recordFullDamage, if_neg Bool.false_ne_true]
    exact below
  have left : s.perform leaveAction = .ok (s.leaveAltScreen false) :=
    @perform_one s _ (.leaveAltScreen false) rfl
  have erased : (s.leaveAltScreen false).perform eraseAction = .error .index :=
    (@perform_one _ _ (.eraseLine .all false) rfl).trans fails
  rw [run_cons, left, ok_bind, run_cons, erased, error_bind]

theorem restore_leave_erase_fails {s : Screen} {saved : Modes} (found : s.savedModes = some saved)
    (alternate : saved.altScreen = true) (below : s.altGrid.lines.length ≤ s.altCursor.row) :
    run perform [restoreAction, leaveAction, eraseAction] s = .error .index := by
  have restored : s.perform restoreAction = .ok s.restoreDecModes :=
    @perform_one s _ (.update .restoreDecModes) rfl
  have fails := @leave_erase_fails s.restoreDecModes (by rw [restoreDecModes, found]; exact alternate)
    (by rw [restoreDecModes, found]; exact below)
  rw [run_cons, restored, ok_bind, fails]

theorem not_runs {s s' : Screen} {cols rows : Nat} {input : Bytes} {actions : List Action}
    (resized : s.resize cols rows = .ok s') (parsed : (({} : Parser).advanceBytes input).2 = actions)
    (fails : run perform actions s' = .error .index) : ¬ s.Runs cols rows := by
  -- Bytes whose actions fail are bytes that fail.
  intro runs
  have ran := runs {} input
  have after : run Terminal.handle [.bytes input] { screen := s' } = .error .index := by
    rw [@Terminal.run_parsed input (({} : Parser).advanceBytes input).1 actions (Prod.ext rfl parsed), fails]
    rfl
  rw [run_cons, Terminal.handle, resized, ok_bind, ok_bind, after] at ran
  cases ran

theorem runs_iff {s : Screen} (resizable : Resizable s) (cols rows : Nat) :
    s.Runs cols rows ↔ 0 < cols ∧ 0 < rows ∧ s.sheltered rows = true := by
  -- The sizes at which a screen runs, whatever the bytes.
  refine ⟨fun runs => ?_, fun ⟨someCols, someRows, shelter⟩ => runs_of_sheltered resizable someCols someRows shelter⟩
  have resizing := s.resize_cases cols rows
  cases resized : s.resize cols rows with
  | error panic =>
    have ran := runs {} []
    rw [resized] at resizing
    rw [run_cons, Terminal.handle, resized, error_bind, error_bind] at ran
    cases resizing.1.symm.trans ran
  | ok s' =>
    rw [resized] at resizing
    obtain ⟨row, rfl⟩ := resizing
    have next := resizable.resizedTo cols rows row
    have height : (s.resizedTo cols rows row).grid.rows = rows := Grid.resized_rows ..
    have width : (s.resizedTo cols rows row).grid.cols = cols := Grid.resized_cols ..
    have size : 0 < cols ∧ 0 < rows := by
      by_contra empty
      have erased := eraseRight_empty next.grid (by rw [height, width]; omega)
        (by rw [height]; exact Nat.min_le_right ..) (by rw [width]; exact Nat.min_le_right ..)
      exact not_runs resized eraseRight_parsed (eraseRight_fails erased) runs
    refine ⟨size.1, size.2, ?_⟩
    by_contra exposed
    have below : (s.resizedTo cols rows row).altGrid.lines.length ≤ (s.resizedTo cols rows row).altCursor.row := by
      rw [next.altGrid.lines, show (s.resizedTo cols rows row).altGrid.rows = rows from Grid.resized_rows ..]
      simp only [sheltered, Bool.or_eq_true, decide_eq_true_eq, not_or, Nat.not_lt] at exposed
      exact exposed.1
    by_cases alternate : s.modes.altScreen = true
    next => exact not_runs resized leaveAndErase_parsed (leave_erase_fails alternate below) runs
    next =>
      cases found : s.savedModes with
      | none => simp [sheltered, alternate, found] at exposed
      | some saved =>
        have saysSo : saved.altScreen = true := by
          by_contra otherwise
          simp [sheltered, alternate, found, otherwise] at exposed
        exact not_runs resized restoreLeaveAndErase_parsed (restore_leave_erase_fails found saysSo below) runs

end Screen

end Emux
