import Emux.Term.Safety

set_option autoImplicit false

/-!
# The alternate screen

The flag that says which buffer is shown, against the number of exchanges of the buffers, and what
leaving the alternate screen brings back.
-/

namespace Emux

open Checked

namespace Screen

theorem resize_flags (s : Screen) (newCols newRows : Nat) :
    Ensures AnyPanic (s.resize newCols newRows) fun s' =>
      s'.modes = s.modes ∧ s'.savedModes = s.savedModes ∧ s'.altCursor = s.altCursor := by
  rw [ensures_any_iff]
  intro s' ran
  obtain ⟨⟨grid, delta⟩, -, rest⟩ := (bind_ok_iff _ _ _).mp ran
  obtain ⟨⟨altGrid, other⟩, -, result⟩ := (bind_ok_iff _ _ _).mp rest
  rw [← Except.ok.inj result]
  exact ⟨rfl, rfl, rfl⟩

theorem deccolm_flags (s : Screen) (enable : Bool) :
    Ensures AnyPanic (s.deccolm enable) fun s' =>
      s'.modes = s.modes ∧ s'.savedModes = s.savedModes ∧ s'.altCursor = s.altCursor := by
  unfold deccolm onlyIf
  split
  next =>
    refine (s.resize_flags _ _).bind fun t resized => (eraseDisplay_edited t _ _).bind fun u edited => ?_
    exact ⟨edited.modes.trans resized.1, edited.savedModes.trans resized.2.1, edited.altCursor.trans resized.2.2⟩
  next => exact ⟨rfl, rfl, rfl⟩

theorem enterAltScreen_flag (s : Screen) (save : Bool) :
    Ensures AnyPanic (s.enterAltScreen save) fun s' => s'.modes.altScreen = true := by
  unfold enterAltScreen
  split
  next already => exact already
  next =>
    refine (onGrid_rewritten _ (Grid.clearRows_rewrites ..)).bind fun t edited => ?_
    refine edited.altScreen.trans ?_
    cases save <;> rfl

theorem leaveAltScreen_flag (s : Screen) (restore : Bool) : (s.leaveAltScreen restore).modes.altScreen = false := by
  unfold leaveAltScreen
  split
  next =>
    cases restore with
    | false => rfl
    | true => exact (restoreCursor_kept _).altScreen
  next primary => exact Bool.eq_false_iff.mpr primary

end Screen

open Screen

/-- The number of buffer exchanges since construction or RIS, after the operation. -/
def Op.swaps (op : Op) (s : Screen) (count : Nat) : Nat :=
  match op with
  | .enterAltScreen _ => if s.modes.altScreen then count else count + 1
  | .leaveAltScreen _ => if s.modes.altScreen then count + 1 else count
  | .reset => 0
  | _ => count

def Op.counted (op : Op) (p : Screen × Nat) : Fallible (Screen × Nat) := do
  let s ← op.exec p.1
  .ok (s, op.swaps p.1 p.2)

def Parity (p : Screen × Nat) : Prop := p.1.modes.altScreen = decide (p.2 % 2 = 1)

/-- A soft reset finds the primary screen, and restored modes have the flag as it is. -/
def Op.keepsFlag (op : Op) (s : Screen) : Bool :=
  match op with
  | .update .softReset => !s.modes.altScreen
  | .update .restoreDecModes => s.savedModes.all fun saved => saved.altScreen == s.modes.altScreen
  | _ => true

theorem Op.counted_error {op : Op} {p : Screen × Nat} {panic : Panic} (failed : op.counted p = .error panic) :
    op.keepsFlag p.1 = true := by
  cases op with
  | update u => cases failed
  | _ => rfl

theorem Op.counted_parity (op : Op) (p : Screen × Nat) (parity : Parity p) :
    Ensures AnyPanic (op.counted p) fun next => Parity next ↔ op.keepsFlag p.1 = true := by
  obtain ⟨s, count⟩ := p
  have flag : s.modes.altScreen = decide (count % 2 = 1) := parity
  have same (stays : Ensures AnyPanic (op.exec s) fun s' => s'.modes.altScreen = s.modes.altScreen)
      (still : op.swaps s count = count) (keeps : op.keepsFlag s = true) :
      Ensures AnyPanic (op.counted (s, count)) fun next => Parity next ↔ op.keepsFlag s = true := by
    refine stays.bind fun s' unchanged => ?_
    simp only [keeps, iff_true]
    exact unchanged.trans (flag.trans (by rw [still]))
  have kept (stays : op.switches = false) := (op.kept s stays).weaken fun _ unchanged => unchanged.altScreen
  cases op with
  | enterAltScreen save =>
    refine (enterAltScreen_flag s save).bind fun s' entered => ?_
    simp only [Op.keepsFlag, iff_true]
    refine entered.trans ?_
    cases on : s.modes.altScreen with
    | true => simpa [swaps, on] using flag
    | false =>
      have even : count % 2 ≠ 1 := by simpa [on] using flag
      simp only [swaps, on, if_neg Bool.false_ne_true]
      exact (decide_eq_true (show (count + 1) % 2 = 1 by omega)).symm
  | leaveAltScreen restore =>
    refine (iff_true_right rfl).mpr ?_
    refine (leaveAltScreen_flag s restore).trans ?_
    cases on : s.modes.altScreen with
    | true =>
      have odd : count % 2 = 1 := by simpa [on] using flag
      simp only [swaps, on, if_true]
      exact (decide_eq_false (show ¬ (count + 1) % 2 = 1 by omega)).symm
    | false => simpa [swaps, on] using flag
  | reset => exact (iff_true_right rfl).mpr rfl
  | resize cols rows => exact same ((s.resize_flags _ _).weaken fun _ flags => by rw [flags.1]) rfl rfl
  | deccolm enable => exact same ((s.deccolm_flags _).weaken fun _ flags => by rw [flags.1]) rfl rfl
  | update u =>
    cases u with
    | softReset =>
      change (false = decide (count % 2 = 1)) ↔ (!s.modes.altScreen) = true
      rw [flag]
      cases decide (count % 2 = 1) <;> simp
    | restoreDecModes =>
      change (s.restoreDecModes.modes.altScreen = decide (count % 2 = 1)) ↔ _
      simp only [Op.keepsFlag, Screen.restoreDecModes]
      rw [← flag]
      cases s.savedModes with
      | none => simp
      | some saved => simp
    | saveCursor | saveDecModes => exact same rfl rfl rfl
    | setFlagMode mode enable =>
      refine same ?_ rfl rfl
      by_cases saves : mode = 1048 ∧ enable = true
      next => rw [saves.1, saves.2]; rfl
      next => exact (setFlagMode_kept fun is1048 => by simpa [is1048] using saves).altScreen
    | _ => exact same (kept rfl) rfl rfl
  | _ => exact same (kept rfl) rfl rfl

theorem Op.counted_screen (op : Op) (p : Screen × Nat) : (op.counted p).map Prod.fst = op.exec p.1 := by
  simp only [counted]
  cases op.exec p.1 <;> rfl

namespace Terminal

theorem parity_iff (cols rows : Nat) (events : List Event) :
    Throughout Op.counted Parity (ops events (new cols rows)) ((new cols rows).screen, 0) ↔
      EveryOp (fun op s => op.keepsFlag s = true) events (new cols rows) := by
  have guarded := @throughout_iff_along _ _ Op.counted (fun op p => op.keepsFlag p.1 = true) Parity
    (fun op p parity => ⟨op.counted_parity p parity, fun _ failed => Op.counted_error failed⟩)
    (ops events (new cols rows)) ((new cols rows).screen, 0) rfl
  exact guarded.trans (along_project Prod.fst Op.counted_screen (fun op s => op.keepsFlag s = true)
    (ops events (new cols rows)) ((new cols rows).screen, 0))

def resetInside : List Event := [.bytes (0x1B :: ascii ['[', '?', '4', '7', 'h'] ++ 0x1B :: ascii ['[', '!', 'p'])]

/-- The buffers were exchanged once, and the flag says primary. -/
theorem reset_inside_parity :
    (run Op.counted (ops resetInside (new 2 2)) ((new 2 2).screen, 0)).map (fun p => (p.1.modes.altScreen, p.2)) =
      .ok (false, 1) := by
  unfold resetInside
  simp only [ops, calls, Event.calls, handle_eq, Parser.advance_eq_advanceBytes]
  rfl

end Terminal

def SavedCursor.context (saved : SavedCursor) :
    Nat × Nat × CellAttrs × Color × Color × Charset × Charset × Nat :=
  (saved.row, saved.col, saved.attrs, saved.fg, saved.bg, saved.charsetG0, saved.charsetG1, saved.activeCharset)

namespace Screen

def context (s : Screen) : Nat × Nat × CellAttrs × Color × Color × Charset × Charset × Nat :=
  (s.cursor.row, s.cursor.col, s.pen, s.fg, s.bg, s.charsetG0, s.charsetG1, s.activeCharset)

/-- On the alternate screen, with all that leaving it needs for `home`. -/
structure Inside (home s : Screen) : Prop where
  alternate : s.modes.altScreen = true
  altGrid : s.altGrid = home.grid
  saved : ∃ saved, s.savedCursor = some saved ∧ saved.context = home.context

theorem leave_restores {home s : Screen} (valid : Valid home) (inside : Inside home s) :
    (s.leaveAltScreen true).grid = home.grid ∧ (s.leaveAltScreen true).context = home.context := by
  obtain ⟨saved, found, same⟩ := inside.saved
  have row := valid.row
  have col := valid.col
  simp only [SavedCursor.context, context, Prod.mk.injEq] at same
  obtain ⟨sameRow, sameCol, pen, fg, bg, g0, g1, active⟩ := same
  have inRow : min saved.row (home.grid.rows - 1) = home.cursor.row := by omega
  have inCol : min saved.col (home.grid.cols - 1) = home.cursor.col := by omega
  have left : (s.leaveAltScreen true).grid = home.grid := by
    simp only [leaveAltScreen, inside.alternate, if_true, restoreCursor, swapBuffers, found, recordFullDamage]
    exact inside.altGrid
  refine ⟨left, ?_⟩
  simp only [leaveAltScreen, inside.alternate, if_true, restoreCursor, swapBuffers, found, recordFullDamage, context,
    rows, cols, inside.altGrid, inRow, inCol, pen, fg, bg, g0, g1, active]

theorem inside_entered {s : Screen} (primary : s.modes.altScreen = false) : Inside s (s.enteredAlt true) := by
  simp only [enteredAlt, primary, if_neg Bool.false_ne_true, if_true]
  exact ⟨rfl, rfl, _, rfl, rfl⟩

end Screen

/-- No resize, reset or mode change that concerns buffers, saved modes or the saved cursor. -/
def Op.staysInside : Op -> Bool
  | .enterAltScreen _ | .leaveAltScreen _ | .reset | .deccolm _ | .resize .. => false
  | .update .softReset | .update .restoreDecModes => false
  | .update (.setFlagMode mode _) => mode != 1048
  | _ => true

/-- A cursor saved on the alternate screen is saved where and as it was outside. -/
def Op.savesHome (home : Screen) (op : Op) (s : Screen) : Bool :=
  match op with
  | .update .saveCursor => s.context == home.context
  | _ => true

theorem Op.inside {home : Screen} (op : Op) {s : Screen} (stays : op.staysInside = true)
    (saves : op.savesHome home s = true) (inside : Inside home s) :
    Ensures AnyPanic (op.exec s) (Inside home) := by
  have kept (none : op.switches = false) : Ensures AnyPanic (op.exec s) (Inside home) :=
    (op.kept s none).weaken fun _ same =>
      ⟨same.altScreen.trans inside.alternate, same.altGrid.trans inside.altGrid, by
        rw [same.savedCursor]; exact inside.saved⟩
  cases op with
  | enterAltScreen | leaveAltScreen | reset | deccolm | resize => cases stays
  | update u =>
    cases u with
    | softReset | restoreDecModes => cases stays
    | saveCursor =>
      have same : s.context = home.context := by simpa [savesHome] using saves
      exact ⟨inside.alternate, inside.altGrid, _, rfl, same⟩
    | saveDecModes => exact ⟨inside.alternate, inside.altGrid, inside.saved⟩
    | setFlagMode mode enable =>
      apply kept
      have other : mode ≠ 1048 := by simpa [staysInside] using stays
      simp [switches, Update.touchesSaved, other]
    | _ => exact kept rfl
  | _ => exact kept rfl

theorem Op.jumps_of_staysInside {op : Op} (stays : op.staysInside = true) : op.jumps = false := by
  cases op with
  | leaveAltScreen | resize => cases stays
  | _ => rfl

namespace Terminal

/-- One parsed action, as `Perform` receives it. -/
def dispatch (action : Action) (t : Terminal) : Fallible Terminal := do
  let screen ← t.screen.perform action
  .ok { t with screen }

def altScreenMode (enable : Bool) : Action :=
  .csiDispatch ((ascii ['1', '0', '4', '9']).foldl Params.push {}) [0x3F] false (if enable then 0x68 else 0x6C)

theorem perform_altScreenMode (s : Screen) (enable : Bool) :
    s.perform (altScreenMode enable) = (if enable then Op.enterAltScreen true else Op.leaveAltScreen true).exec s :=
  perform_one (by cases enable <;> rfl)

theorem alt_screen_restores {t : Terminal} (valid : Valid t.screen) (primary : t.screen.modes.altScreen = false) :
    ∃ inside, t.dispatch (altScreenMode true) = .ok inside ∧
      ∀ input : Bytes,
        EveryOp (fun op s => (op.staysInside && op.savesHome t.screen s) = true) [.bytes input] inside ->
        Ensures OnlySlice (run handle [.bytes input] inside >>= dispatch (altScreenMode false)) fun last =>
          last.screen.grid = t.screen.grid ∧ last.screen.context = t.screen.context := by
  have entered : t.screen.perform (altScreenMode true) = .ok (t.screen.enteredAlt true) := by
    rw [perform_altScreenMode]
    exact enterAltScreen_ok valid.toFramed true
  refine ⟨{ t with screen := t.screen.enteredAlt true }, by rw [dispatch, entered]; rfl, ?_⟩
  intro input every
  have ran := @ensures_ops OnlySlice _ (fun s => Safe s ∧ Inside t.screen s) (fun op s ok good => by
    obtain ⟨stays, saves⟩ := (Bool.and_eq_true _ _).mp ok
    exact ((op.keeps good.1 (Op.jumps_of_staysInside stays)).weaken fun _ keeps => keeps.safe).and
      (op.inside stays saves good.2)) _ _ every
    ⟨(enteredAlt_keeps valid.toSafe true).safe, inside_entered primary⟩
  refine ran.bind fun last good => ?_
  rw [dispatch, perform_altScreenMode]
  exact leave_restores valid good.2

def boldInside : Bytes := 0x1B :: ascii ['[', '2', ';', '2', 'H'] ++ 0x1B :: ascii ['[', '1', 'm', 'x']

theorem alt_screen_restores_bold :
    ∃ inside, (new 3 3).dispatch (altScreenMode true) = .ok inside ∧
      Ensures OnlySlice (run handle [.bytes boldInside] inside >>= dispatch (altScreenMode false)) fun last =>
        last.screen.grid = (new 3 3).screen.grid ∧ last.screen.context = (new 3 3).screen.context := by
  obtain ⟨inside, entered, restores⟩ := @alt_screen_restores (new 3 3) (new_valid (by decide) (by decide)) rfl
  refine ⟨inside, entered, restores boldInside ?_⟩
  have computed : (new 3 3).dispatch (altScreenMode true) =
      .ok { new 3 3 with screen := (new 3 3).screen.enteredAlt true } := by
    rw [dispatch, perform_altScreenMode]
    rfl
  rw [← Except.ok.inj (computed.symm.trans entered)]
  unfold EveryOp boldInside
  simp only [ops, calls, Event.calls, handle_eq, Parser.advance_eq_advanceBytes]
  decide

def saveInside : List Event :=
  [.bytes (0x1B :: ascii ['[', '?', '1', '0', '4', '9', 'h'] ++ 0x1B :: ascii ['[', '2', ';', '2', 'H'] ++
    0x1B :: ascii ['7'] ++ 0x1B :: ascii ['[', '?', '1', '0', '4', '9', 'l'])]

/-- The cursor was in the first cell and comes back to the second row and column. -/
theorem save_inside_moves_cursor :
    ((new 3 3).screen.cursor.row, (new 3 3).screen.cursor.col) = (0, 0) ∧
      (run handle saveInside (new 3 3)).map (fun t => (t.screen.modes.altScreen, t.screen.cursor.row, t.screen.cursor.col)) =
        .ok (false, 1, 1) := by
  rw [handle_eq]
  exact ⟨rfl, rfl⟩

end Terminal

end Emux
