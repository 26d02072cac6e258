import Emux.Term.Intact

set_option autoImplicit false

/-!
# Runs that keep wide characters whole

No state of a run shows half of a wide character as long as no operation of it cuts one.
-/

namespace Emux

open Checked Grid

namespace Screen

theorem moveHome_frame (s : Screen) : s.moveHome.frame = s.frame := by
  unfold moveHome
  split <;> rfl

theorem restoreCursor_frame (s : Screen) : s.restoreCursor.frame = s.frame := by
  unfold restoreCursor
  split <;> rfl

theorem cursorPosition_frame (s : Screen) (row col : Nat) : (s.cursorPosition row col).frame = s.frame := by
  unfold cursorPosition
  split <;> rfl

theorem tabForward_frame (s : Screen) (count : Nat) : (s.tabForward count).frame = s.frame := by
  induction count with
  | zero => rfl
  | succ count ih => exact ih

theorem setScrollRegion_framed {s : Screen} (framed : Framed s) (top bottom : Nat) :
    Framed (s.setScrollRegion top bottom) := by
  have fits : min (if bottom = 0 then s.rows else bottom) s.rows ≤ s.grid.rows := Nat.min_le_right ..
  simp only [setScrollRegion]
  generalize min ((if top = 0 then 1 else top) - 1) (s.rows - 1) = first
  generalize min (if bottom = 0 then s.rows else bottom) s.rows = last at fits
  refine Framed.of_frame ?_ (moveHome_frame _)
  split
  next order =>
    exact framed.quiet ⟨rfl, rfl, rfl, rfl, rfl, rfl⟩ (Nat.lt_of_succ_lt order) fits framed.margin framed.marginFits
  next => exact framed

theorem setLeftRightMargin_framed {s : Screen} (framed : Framed s) (left right : Nat) :
    Framed (s.setLeftRightMargin left right) := by
  have fits : min (if right = 0 then s.cols else right) s.cols ≤ s.grid.cols := Nat.min_le_right ..
  simp only [setLeftRightMargin]
  generalize min ((if left = 0 then 1 else left) - 1) (s.cols - 1) = first
  generalize min (if right = 0 then s.cols else right) s.cols = last at fits
  split
  next =>
    refine Framed.of_frame ?_ (moveHome_frame _)
    split
    next order =>
      exact framed.quiet ⟨rfl, rfl, rfl, rfl, rfl, rfl⟩ framed.region framed.regionFits (Nat.lt_of_succ_lt order) fits
    next => exact framed
  next => exact framed

theorem setFlagMode_framed {s : Screen} (framed : Framed s) (mode : Nat) (enable : Bool) :
    Framed (s.setFlagMode mode enable) := by
  unfold setFlagMode
  split
  case h_2 => exact Framed.of_frame (framed.of_frame rfl) (cursorPosition_frame _ 1 1)
  case h_7 =>
    dsimp only
    split
    next => exact framed.of_frame rfl
    next =>
      exact framed.quiet ⟨rfl, rfl, rfl, rfl, rfl, rfl⟩ framed.region framed.regionFits framed.someCols (Nat.le_refl _)
  case h_14 =>
    split
    next => exact framed.of_frame rfl
    next => exact framed.of_frame s.restoreCursor_frame
  all_goals exact framed.of_frame rfl

theorem Told.frame {s s' : Screen} (told : Told s s') : s'.frame = s.frame := by
  simp only [Screen.frame, Prod.mk.injEq]
  exact ⟨told.grid, told.altGrid, told.scrollTop, told.scrollBottom, told.scrollLeft, told.scrollRight, told.tabStops⟩

theorem swapped_intact {s t : Screen} (intact : Intact s) (grid : t.grid = s.altGrid) (altGrid : t.altGrid = s.grid)
    (region : (t.scrollTop, t.scrollBottom) = (s.scrollTop, s.scrollBottom))
    (margin : (t.scrollLeft, t.scrollRight) = (s.scrollLeft, s.scrollRight)) (tabs : t.tabStops = s.tabStops) :
    Intact t where
  toFramed := swapped_framed intact.toFramed grid altGrid region margin tabs
  whole := by
    rw [Whole, grid, altGrid]
    exact intact.whole.symm

theorem enteredAlt_intact {s : Screen} (intact : Intact s) (save : Bool) : Intact (s.enteredAlt save) := by
  unfold enteredAlt
  split
  next => exact intact
  next =>
    have cleared (t : Screen) (marked : Intact t) : Intact ({ t.swapBuffers.edit (.rows 0 t.altGrid.rows .reset) with
        cursor := {}, pendingWrap := false } : Screen).recordFullDamage := by
      have swapped : Intact t.swapBuffers := swapped_intact marked rfl rfl rfl rfl rfl
      exact (@Intact.edit _ swapped (.rows 0 t.altGrid.rows .reset) fun _ _ _ _ _ => trivial).of_frame rfl
    cases save with
    | true => exact cleared _ (intact.of_frame rfl)
    | false => exact cleared _ (intact.of_frame rfl)

theorem leaveAltScreen_intact {s : Screen} (intact : Intact s) (restore : Bool) : Intact (s.leaveAltScreen restore) := by
  by_cases alternate : s.modes.altScreen = true
  next =>
    have swapped : Intact s.exchanged := swapped_intact intact rfl rfl rfl rfl rfl
    rw [leaveAltScreen_on alternate]
    cases restore with
    | true => exact (swapped.of_frame (restoreCursor_frame _)).of_frame (recordFullDamage_frame _)
    | false => exact swapped.of_frame (recordFullDamage_frame _)
  next => rwa [leaveAltScreen, if_neg alternate]

theorem new_intact {cols rows : Nat} (someCols : 0 < cols) (someRows : 0 < rows) : Intact (new cols rows) :=
  ⟨(new_valid someCols someRows).toFramed, whole_new cols rows, whole_new cols rows⟩

def ResizeUncut (s : Screen) (newCols : Nat) : Prop := s.grid.ResizeUncut newCols ∧ s.altGrid.ResizeUncut newCols

instance (s : Screen) (newCols : Nat) : Decidable (s.ResizeUncut newCols) := by unfold ResizeUncut; infer_instance

theorem resizedTo_whole {s : Screen} (intact : Intact s) {newCols : Nat} (newRows row : Nat) (uncut : s.ResizeUncut newCols) :
    (s.resizedTo newCols newRows row).Whole :=
  ⟨whole_resized intact.grid intact.whole.1 newRows uncut.1, whole_resized intact.altGrid intact.whole.2 newRows uncut.2⟩

theorem resize_intact {s : Screen} (intact : Intact s) {newCols newRows : Nat} (someCols : 0 < newCols)
    (someRows : 0 < newRows) (uncut : s.ResizeUncut newCols) : Ensures AnyPanic (s.resize newCols newRows) Intact := by
  obtain ⟨row, result⟩ := s.resize_ok newRows someCols
  have valid := intact.toFramed.resizable.valid someCols someRows row
  exact intact_ok result ⟨valid.toFramed, resizedTo_whole intact newRows row uncut⟩

theorem deccolm_intact {s : Screen} (intact : Intact s) (enable : Bool)
    (uncut : s.modes.allowDeccolm = true -> s.ResizeUncut (deccolmCols enable)) :
    Ensures AnyPanic (s.deccolm enable) Intact := by
  by_cases allowed : s.modes.allowDeccolm = true
  next =>
    obtain ⟨row, result⟩ := @deccolm_ok s intact.toFramed enable allowed
    have valid := intact.toFramed.resizable.valid (deccolmCols_pos enable) intact.someRows row
    have resized : Intact (s.resizedTo (deccolmCols enable) s.rows row) :=
      ⟨valid.toFramed, resizedTo_whole intact s.rows row (uncut allowed)⟩
    have erased := whole_apply resized.grid resized.whole.1
      (@eraseWhole_uncut _ 0 (s.resizedTo (deccolmCols enable) s.rows row).rows false resized.grid
        fun selects => absurd selects Bool.false_ne_true)
    exact intact_ok result ⟨(deccolmed_valid intact.toFramed enable row).toFramed, erased, resized.whole.2⟩
  next =>
    rw [Screen.deccolm, onlyIf_false _ _ allowed]
    exact intact

end Screen

open Screen

theorem Update.framed (u : Update) {s : Screen} (framed : Framed s) : Framed (u.apply s) := by
  cases u with
  | setScrollRegion top bottom => exact setScrollRegion_framed framed top bottom
  | setLeftRightMargin left right => exact setLeftRightMargin_framed framed left right
  | setFlagMode mode enable => exact setFlagMode_framed framed mode enable
  | carriageReturn => exact framed.of_frame s.carriageReturn_still.1
  | restoreCursor => exact framed.of_frame s.restoreCursor_frame
  | tabForward count => exact framed.of_frame (s.tabForward_frame count)
  | cursorPosition row col => exact framed.of_frame (s.cursorPosition_frame row col)
  | softReset =>
    exact framed.quiet (quiet .softReset s) framed.someRows (Nat.le_refl _) framed.someCols (Nat.le_refl _)
  | setTabStop =>
    exact framed.quiet (quiet .setTabStop s) framed.region framed.regionFits framed.margin framed.marginFits
  | clearTabStop mode =>
    have cleared := quiet (.clearTabStop mode) s
    cases mode <;> exact framed.quiet cleared framed.region framed.regionFits framed.margin framed.marginFits
  | sgr params subflags =>
    obtain ⟨_, _, _, changed⟩ := s.handleSgr_pen params subflags
    rw [apply, changed]
    exact framed.of_frame rfl
  | backspace =>
    refine framed.of_frame ?_
    simp only [apply, Screen.backspace]
    split_ifs <;> rfl
  | setAnsiMode mode enable =>
    refine framed.of_frame ?_
    simp only [apply, Screen.setAnsiMode]
    split <;> rfl
  | restoreDecModes =>
    refine framed.of_frame ?_
    simp only [apply, Screen.restoreDecModes]
    split <;> rfl
  | popSgr =>
    refine framed.of_frame ?_
    simp only [apply, Screen.popSgr]
    split <;> rfl
  | _ => exact framed.of_frame rfl

theorem Update.intact (u : Update) {s : Screen} (intact : Intact s) : Intact (u.apply s) where
  toFramed := u.framed intact.toFramed
  whole := by
    rw [Screen.Whole, (u.quiet s).grid, (u.quiet s).altGrid]
    exact intact.whole

def Op.Uncut (op : Op) (s : Screen) : Prop :=
  match op with
  | .wrapPending => s.pendingWrap = true -> s.modes.autowrap = true -> s.carriageReturn.FeedUncut
  -- A wide character that wraps pads the cell before the margin.
  | .fitWide width =>
    width = 2 -> s.effectiveRight - 1 ≤ s.cursor.col -> s.modes.autowrap = true ->
      s.CursorWhole ∧ s.carriageReturn.FeedUncut
  | .shiftForInsert width => s.modes.insert = true -> s.InsertUncut width
  | .putChar _ width => width ≠ 0 ∧ (width = 2 -> s.cursor.col + 1 < s.cols ∨ s.cols ≤ s.cursor.col)
  | .linefeed => s.FeedUncut
  | .reverseIndex => s.ReverseUncut
  | .eraseDisplay mode selective => selective = true -> s.DisplayEven mode
  | .eraseLine mode selective => selective = true -> s.LineEven mode
  | .eraseChars count => s.EraseUncut count
  | .insertChars count => s.InsertUncut count
  | .deleteChars count => s.DeleteUncut count
  | .scrollUp count =>
    s.hasLrMargins = true -> s.grid.SeamsUp s.scrollTop s.scrollBottom s.scrollLeft s.scrollRight count
  | .scrollDown count =>
    s.hasLrMargins = true -> s.grid.SeamsDown s.scrollTop s.scrollBottom s.scrollLeft s.scrollRight count
  | .fillRect ch top left bottom right => s.RectEven (s.fillCell ch) top left bottom right
  | .selectiveEraseRect top left bottom right => s.RectEven resetUnprotected top left bottom right
  | .copyRect srcTop srcLeft srcBottom srcRight dstTop dstLeft =>
    s.CopyUncut srcTop srcLeft srcBottom srcRight dstTop dstLeft
  | .deccolm enable => s.modes.allowDeccolm = true -> s.ResizeUncut (deccolmCols enable)
  | .resize newCols _ => s.ResizeUncut newCols
  | _ => True

instance (op : Op) (s : Screen) : Decidable (op.Uncut s) :=
  match op with
  | .wrapPending => by unfold Op.Uncut; infer_instance
  | .fitWide _ => by unfold Op.Uncut; infer_instance
  | .shiftForInsert _ => by unfold Op.Uncut; infer_instance
  | .putChar _ _ => by unfold Op.Uncut; infer_instance
  | .linefeed => by unfold Op.Uncut; infer_instance
  | .reverseIndex => by unfold Op.Uncut; infer_instance
  | .eraseDisplay _ _ => by unfold Op.Uncut; infer_instance
  | .eraseLine _ _ => by unfold Op.Uncut; infer_instance
  | .eraseChars _ => by unfold Op.Uncut; infer_instance
  | .insertChars _ => by unfold Op.Uncut; infer_instance
  | .deleteChars _ => by unfold Op.Uncut; infer_instance
  | .scrollUp _ => by unfold Op.Uncut; infer_instance
  | .scrollDown _ => by unfold Op.Uncut; infer_instance
  | .fillRect _ _ _ _ _ => by unfold Op.Uncut; infer_instance
  | .selectiveEraseRect _ _ _ _ => by unfold Op.Uncut; infer_instance
  | .copyRect _ _ _ _ _ _ => by unfold Op.Uncut; infer_instance
  | .deccolm _ => by unfold Op.Uncut; infer_instance
  | .resize _ _ => by unfold Op.Uncut; infer_instance
  | .update _ | .osc _ | .insertLines _ | .deleteLines _ | .decaln | .enterAltScreen _ | .leaveAltScreen _ | .reset =>
    isTrue trivial

theorem Op.intact (op : Op) {s : Screen} (positive : op.Positive) (uncut : op.Uncut s) (intact : Intact s) :
    Ensures AnyPanic (op.exec s) Intact := by
  have framed := intact.toFramed
  -- The conditions of each operation are those under which its edit cuts no wide character.
  cases op with
  | update u => exact u.intact intact
  | osc parts => exact ((handleOsc_told s parts).allow fun _ _ => trivial).weaken fun _ told => intact.of_frame told.frame
  | wrapPending => exact wrapPending_intact intact uncut
  | fitWide width => exact fitWide_intact intact width uncut
  | shiftForInsert width => exact shiftForInsert_intact intact width uncut
  | putChar c width => exact putChar_intact intact c uncut.1 uncut.2
  | linefeed => exact intact_ok (linefeed_ok framed) (fed_intact intact uncut)
  | reverseIndex => exact intact_ok (reverseIndex_ok framed) (reversed_intact intact uncut)
  | eraseDisplay mode selective => exact eraseDisplay_intact intact mode uncut
  | eraseLine mode selective => exact eraseLine_intact intact mode uncut
  | eraseChars count => exact eraseChars_intact intact count uncut
  | insertLines count => exact intact_ok (insertLines_ok framed count) (withLines_intact intact trivial)
  | deleteLines count => exact intact_ok (deleteLines_ok framed count) (withLines_intact intact trivial)
  | insertChars count => exact insertChars_intact intact count uncut
  | deleteChars count => exact deleteChars_intact intact count uncut
  | scrollUp count =>
    exact intact_ok (Screen.scrollUp_ok framed count) (intact.told_edit (scrollUp_uncut framed uncut) _)
  | scrollDown count =>
    exact intact_ok (Screen.scrollDown_ok framed count) (intact.told_edit (scrollDown_uncut framed uncut) _)
  | fillRect ch top left bottom right => exact rect_intact intact (fun _ => .inr rfl) uncut
  | selectiveEraseRect top left bottom right => exact rect_intact intact resetUnprotected_width uncut
  | copyRect srcTop srcLeft srcBottom srcRight dstTop dstLeft => exact copyRect_intact intact uncut
  | decaln => exact decaln_intact intact
  | enterAltScreen save => exact intact_ok (enterAltScreen_ok framed save) (enteredAlt_intact intact save)
  | leaveAltScreen restore => exact leaveAltScreen_intact intact restore
  | reset => exact new_intact framed.someCols framed.someRows
  | deccolm enable => exact deccolm_intact intact enable uncut
  | resize newCols newRows => exact resize_intact intact positive.1 positive.2 uncut

namespace Terminal

theorem whole_throughout (cols rows : Nat) (events : List Event) (someCols : 0 < cols) (someRows : 0 < rows)
    (sizes : ∀ cols rows : Nat, .resize cols rows ∈ events -> 0 < cols ∧ 0 < rows)
    (uncut : EveryOp Op.Uncut events (new cols rows)) :
    Throughout Op.exec Screen.Whole (ops events (new cols rows)) (Screen.new cols rows) := by
  have kept := @throughout_of_along _ _ Op.exec _ Intact (fun op s ok intact => op.intact ok.2 ok.1 intact) _ _
    (uncut.with_members (positive_ops sizes)) (new_intact someCols someRows)
  exact kept.weaken fun s intact => intact.whole

def insertBefore : List Event :=
  [.bytes (0xE6 :: 0x97 :: 0xA5 :: 0x1B :: ascii ['[', 'G'] ++ 0x1B :: ascii ['[', '@'])]

theorem whole_throughout_insert :
    Throughout Op.exec Screen.Whole (ops insertBefore (new 4 1)) (Screen.new 4 1) :=
  whole_throughout 4 1 insertBefore (by decide) (by decide) (by simp [insertBefore]) (by
    unfold EveryOp insertBefore
    simp only [ops, calls, Event.calls, handle_eq, Parser.advance_eq_advanceBytes]
    decide)

def insertInside : List Event :=
  [.bytes (0xE6 :: 0x97 :: 0xA5 :: 0x1B :: ascii ['[', '2', 'G'] ++ 0x1B :: ascii ['[', '@'])]

/-- The blank parts the two halves. -/
theorem insert_parts_halves : ∃ t, run handle insertInside (new 4 1) = .ok t ∧ ¬ t.screen.Whole := by
  rw [handle_eq]
  exact ⟨_, rfl, by decide⟩

end Terminal

end Emux
