import Emux.Term.Frame
import Emux.Term.Trace

set_option autoImplicit false

/-!
# The deferred wrap

A character in the last column leaves the cursor there and defers the wrap. The flag stays true to the cursor
under every call but those that bring back a saved cursor or switch the left and right margins.
-/

namespace Emux

open Checked

namespace Screen

def WrapsAtEdge (s : Screen) : Prop := s.pendingWrap = true -> s.cursor.col + 1 = s.effectiveRight

def rightIf (s : Screen) (margins : Bool) : Nat :=
  if margins && (s.scrollLeft != 0 || s.scrollRight != s.cols) then s.scrollRight else s.cols

/-- The saved cursor, moved inside the screen, is where its own deferred wrap belongs. -/
def RestoresAtEdge (s : Screen) : Prop :=
  ∀ saved ∈ s.savedCursor, saved.pendingWrap = true -> min saved.col (s.cols - 1) + 1 = s.effectiveRight

structure Unmoved (s s' : Screen) : Prop where
  pendingWrap : s'.pendingWrap = s.pendingWrap
  col : s'.cursor.col = s.cursor.col

instance : Std.Refl Unmoved := ⟨fun _ => ⟨rfl, rfl⟩⟩

instance : IsTrans Screen Unmoved :=
  ⟨fun _ _ _ first second => ⟨second.pendingWrap.trans first.pendingWrap, second.col.trans first.col⟩⟩

def Settled (s : Screen) : Prop := s.pendingWrap = false

theorem Settled.atEdge {s : Screen} (settled : s.Settled) : s.WrapsAtEdge := fun pending => by
  rw [settled] at pending
  cases pending

theorem Settled.unmoved {s s' : Screen} (settled : s.Settled) (unmoved : Unmoved s s') : s'.Settled :=
  unmoved.pendingWrap.trans settled

theorem Edited.effectiveRight {s s' : Screen} (edited : Edited s s') : s'.effectiveRight = s.effectiveRight := by
  have cols : s'.cols = s.cols := edited.extent.cols
  unfold Screen.effectiveRight hasLrMargins
  rw [edited.modes, edited.scrollLeft, edited.scrollRight, cols]

theorem WrapsAtEdge.unmoved {s s' : Screen} (atEdge : s.WrapsAtEdge) (unmoved : Unmoved s s')
    (right : s'.effectiveRight = s.effectiveRight) : s'.WrapsAtEdge := fun pending => by
  rw [unmoved.col, right]
  exact atEdge (unmoved.pendingWrap ▸ pending)

theorem recordDamage_unmoved (s : Screen) (row colStart colEnd : Nat) :
    Unmoved s (s.recordDamage row colStart colEnd) := by
  unfold recordDamage
  split <;> exact ⟨rfl, rfl⟩

theorem onGrid_unmoved (s : Screen) (f : Grid -> Fallible Grid) : Ensures AnyPanic (s.onGrid f) (Unmoved s) :=
  ensures_after _ fun _ => ⟨rfl, rfl⟩

theorem unmoved_after {s t : Screen} {x : Fallible Screen} (first : Unmoved s t)
    (second : Ensures AnyPanic x (Unmoved t)) : Ensures AnyPanic x (Unmoved s) :=
  second.weaken fun _ more => IsTrans.trans _ _ _ first more

theorem eraseRow_unmoved (selective : Bool) (s : Screen) (row : Nat) :
    Ensures AnyPanic (eraseRow selective s row) (Unmoved s) :=
  unmoved_after (recordDamage_unmoved s ..) (onGrid_unmoved ..)

theorem eraseDisplay_unmoved (s : Screen) (mode : EraseDisplay) (selective : Bool) :
    Ensures AnyPanic (s.eraseDisplay mode selective) (Unmoved s) := by
  unfold eraseDisplay
  cases mode with
  | below =>
    have below := @related_forRange _ Unmoved _ _ recordRow (fun t i => recordDamage_unmoved t i 0 t.cols)
      (s.cursor.row + 1) s.rows (s.recordDamage s.cursor.row s.cursor.col s.cols)
    exact related_bind (unmoved_after (recordDamage_unmoved s ..) below) fun t => onGrid_unmoved t _
  | above =>
    refine related_bind (related_forRange (eraseRow_unmoved selective) _ _ _) fun t => ?_
    exact unmoved_after (recordDamage_unmoved t ..) (onGrid_unmoved ..)
  | all => exact related_forRange (eraseRow_unmoved selective) _ _ _
  | scrollback => exact onGrid_unmoved s _

theorem eraseLine_unmoved (s : Screen) (mode : EraseLine) (selective : Bool) :
    Ensures AnyPanic (s.eraseLine mode selective) (Unmoved s) := by
  unfold eraseLine
  cases mode with
  | all => exact eraseRow_unmoved selective s _
  | _ => exact unmoved_after (recordDamage_unmoved s ..) (onGrid_unmoved ..)

theorem copyRect_unmoved (s : Screen) (srcTop srcLeft srcBottom srcRight dstTop dstLeft : Nat) :
    Ensures AnyPanic (s.copyRect srcTop srcLeft srcBottom srcRight dstTop dstLeft) (Unmoved s) := by
  simp only [copyRect]
  exact .ite (fun _ => ⟨rfl, rfl⟩) fun _ => onGrid_unmoved s _

theorem shiftForInsert_unmoved (s : Screen) (width : Nat) : Ensures AnyPanic (s.shiftForInsert width) (Unmoved s) :=
  .ite (fun _ => onGrid_unmoved s _) fun _ => ⟨rfl, rfl⟩

theorem advanceLine_unmoved (s : Screen) : Ensures AnyPanic s.advanceLine (Unmoved s) := by
  refine .ite (fun _ => ensures_after _ fun _ => ⟨rfl, rfl⟩) fun _ => ?_
  exact .ite (fun _ => ⟨rfl, rfl⟩) fun _ => ⟨rfl, rfl⟩

theorem linefeed_settled (s : Screen) : Ensures AnyPanic s.linefeed Settled := by
  refine (advanceLine_unmoved _).bind fun t unmoved => ?_
  have settled : t.Settled := unmoved.pendingWrap
  split <;> exact settled

theorem resize_settled (s : Screen) (newCols newRows : Nat) : Ensures AnyPanic (s.resize newCols newRows) Settled :=
  ensures_after _ fun _ => ensures_after _ fun _ => rfl

theorem wrapPending_settled (s : Screen) : Ensures AnyPanic s.wrapPending Settled := by
  unfold wrapPending
  refine .ite (fun _ => .ite (fun _ => ?_) fun _ => ensures_after _ fun _ => rfl) fun still => ?_
  next => exact ensures_after _ fun _ => ensures_after _ fun _ => ensures_after _ fun _ => rfl
  next => exact Bool.eq_false_iff.mpr still

theorem wrapWide_settled {s : Screen} (settled : s.Settled) : Ensures AnyPanic s.wrapWide Settled := by
  unfold wrapWide
  refine .ite (fun _ => ensures_after _ fun t => ?_) fun _ => settled
  refine (linefeed_settled t.carriageReturn).bind fun u cleared => ?_
  exact (onGrid_unmoved u _).weaken fun _ => cleared.unmoved

theorem fitWide_settled {s : Screen} (settled : s.Settled) (width : Nat) :
    Ensures AnyPanic (s.fitWide width) Settled :=
  .ite (fun _ => ensures_after _ fun _ => .ite (fun _ => wrapWide_settled settled) fun _ => settled) fun _ => settled

theorem advanceTo_atEdge {s : Screen} (settled : s.Settled) (newCol : Nat) :
    Ensures AnyPanic (s.advanceTo newCol) WrapsAtEdge := by
  refine .ite (fun _ => ?_) fun _ => Settled.atEdge settled
  rw [ensures_any_iff]
  intro s' ran
  obtain ⟨last, found, result⟩ := (bind_ok_iff _ _ _).mp ran
  unfold sub at found
  split at found
  next some =>
    intro _
    rw [← Except.ok.inj result, ← Except.ok.inj found]
    exact Nat.sub_add_cancel some
  next => cases found

theorem putChar_atEdge {s : Screen} (settled : s.Settled) (c : Char) (width : Nat) :
    Ensures AnyPanic (s.putChar c width) WrapsAtEdge := by
  refine (onGrid_unmoved s _).bind fun t unmoved => ?_
  have recorded := recordDamage_unmoved t s.cursor.row s.cursor.col (s.cursor.col + width)
  exact advanceTo_atEdge ((settled.unmoved unmoved).unmoved recorded) _

theorem writeChar_atEdge {s : Screen} (atEdge : s.WrapsAtEdge) (c : Char) :
    Ensures AnyPanic (s.writeChar c) WrapsAtEdge := by
  -- A character takes the wrap that waits before it is put on the screen, and defers the next one.
  have began : (s.beginChar (s.mapChar c)).WrapsAtEdge := atEdge.unmoved ⟨rfl, rfl⟩ rfl
  simp only [writeChar, Call.exec, Call.ops, writeCharOps, run_cons, Op.exec, Update.apply, ok_bind]
  split
  next => exact began
  next =>
    refine (wrapPending_settled _).bind fun t taken => (fitWide_settled taken _).bind fun u fitted => ?_
    refine (shiftForInsert_unmoved u _).bind fun v shifted => ?_
    exact (putChar_atEdge (fitted.unmoved shifted) _ _).bind fun w put => put

theorem restoreCursor_atEdge_iff (s : Screen) : s.restoreCursor.WrapsAtEdge ↔ s.RestoresAtEdge := by
  unfold restoreCursor RestoresAtEdge
  split
  next saved found =>
    simp only [found, Option.mem_some_iff, forall_eq']
    exact Iff.rfl
  next missing =>
    rw [missing]
    exact iff_of_true (Settled.atEdge rfl) fun saved member => absurd member (Option.not_mem_none saved)

theorem moveTo_atEdge (s : Screen) (row col : Nat) : (s.moveTo row col).WrapsAtEdge := Settled.atEdge rfl

theorem cursorPosition_atEdge (s : Screen) (row col : Nat) : (s.cursorPosition row col).WrapsAtEdge := by
  unfold cursorPosition
  split <;> exact moveTo_atEdge _ _ _

theorem moveHome_atEdge (s : Screen) : s.moveHome.WrapsAtEdge := by
  unfold moveHome
  split <;> exact moveTo_atEdge _ _ _

end Screen

open Screen

/-- A saved cursor comes back to its edge, and the margins go on or off only where no deferred wrap notices. -/
def Update.keepsEdge (u : Update) (s : Screen) : Prop :=
  match u with
  | .restoreCursor => s.RestoresAtEdge
  | .setFlagMode 1048 false => s.RestoresAtEdge
  | .setFlagMode 69 enable => s.pendingWrap = true -> s.rightIf enable = s.effectiveRight
  | .restoreDecModes =>
    ∀ modes ∈ s.savedModes, s.pendingWrap = true -> s.rightIf modes.leftRightMargin = s.effectiveRight
  | _ => True

def Op.keepsEdge (op : Op) (s : Screen) : Prop :=
  match op with
  | .update u => u.keepsEdge s
  | .leaveAltScreen true => s.modes.altScreen = true -> ({ s with grid := s.altGrid } : Screen).RestoresAtEdge
  | _ => True

def Call.keepsEdge (call : Call) (s : Screen) : Prop :=
  match call with
  | .op o => o.keepsEdge s
  | .writeChar _ => True

theorem setFlagMode_atEdge_iff {s : Screen} (atEdge : s.WrapsAtEdge) (mode : Nat) (enable : Bool) :
    (s.setFlagMode mode enable).WrapsAtEdge ↔ (Update.setFlagMode mode enable).keepsEdge s := by
  have free {t : Screen} {u : Update} (here : t.WrapsAtEdge) (plain : u.keepsEdge s ↔ True) :
      t.WrapsAtEdge ↔ u.keepsEdge s := iff_of_true here (plain.mpr trivial)
  unfold setFlagMode
  split
  case h_2 => exact free (cursorPosition_atEdge _ _ _) Iff.rfl
  case h_7 =>
    cases enable
    all_goals
      refine forall_congr' fun pending => ?_
      rw [← atEdge pending]
      exact eq_comm
  case h_14 =>
    cases enable with
    | true => exact free atEdge Iff.rfl
    | false => exact restoreCursor_atEdge_iff s
  case h_16 =>
    refine free atEdge ?_
    unfold Update.keepsEdge
    split <;> simp_all
  all_goals exact free atEdge Iff.rfl

theorem Update.atEdge_iff (u : Update) {s : Screen} (atEdge : s.WrapsAtEdge) :
    (u.apply s).WrapsAtEdge ↔ u.keepsEdge s := by
  have free {t : Screen} {u : Update} (here : t.WrapsAtEdge) (plain : u.keepsEdge s ↔ True) :
      t.WrapsAtEdge ↔ u.keepsEdge s := iff_of_true here (plain.mpr trivial)
  -- A deferred wrap leaves its edge only with a cursor that comes back or margins that move.
  cases u with
  | restoreCursor => exact restoreCursor_atEdge_iff s
  | setFlagMode mode enable => exact setFlagMode_atEdge_iff atEdge mode enable
  | restoreDecModes =>
    simp only [apply, Screen.restoreDecModes]
    split
    next modes found =>
      simp only [keepsEdge, found, Option.mem_some_iff, forall_eq']
      refine forall_congr' fun pending => ?_
      rw [← atEdge pending]
      exact eq_comm
    next missing => exact iff_of_true atEdge fun modes member => by simp [missing] at member
  | sgr params subflags =>
    obtain ⟨_, _, _, changed⟩ := s.handleSgr_pen params subflags
    rw [apply, changed]
    exact free atEdge Iff.rfl
  | tabForward count =>
    refine free ?_ Iff.rfl
    cases count with
    | zero => exact atEdge
    | succ count => exact Settled.atEdge rfl
  | cursorPosition row col => exact free (cursorPosition_atEdge s row col) Iff.rfl
  | setScrollRegion top bottom => exact free (moveHome_atEdge _) Iff.rfl
  | setLeftRightMargin left right =>
    refine free ?_ Iff.rfl
    simp only [apply, Screen.setLeftRightMargin]
    split
    next => exact moveHome_atEdge _
    next => exact atEdge
  | backspace =>
    refine free ?_ Iff.rfl
    simp only [apply, Screen.backspace]
    split_ifs
    next => exact Settled.atEdge rfl
    next => exact Settled.atEdge rfl
    next => exact atEdge
  | carriageReturn =>
    refine free (Settled.atEdge ?_) Iff.rfl
    simp only [apply, Screen.carriageReturn]
    split <;> rfl
  | popSgr =>
    refine free ?_ Iff.rfl
    simp only [apply, Screen.popSgr]
    split <;> exact atEdge
  | setAnsiMode mode enable =>
    refine free ?_ Iff.rfl
    simp only [apply, Screen.setAnsiMode]
    split <;> exact atEdge
  | clearTabStop mode => cases mode <;> exact free atEdge Iff.rfl
  | tab | cursorUp | cursorDown | cursorLeft | cursorRight | tabBackward | softReset =>
    exact free (Settled.atEdge rfl) Iff.rfl
  | _ => exact free atEdge Iff.rfl

theorem leaveAltScreen_atEdge_iff {s : Screen} (atEdge : s.WrapsAtEdge) (restore : Bool) :
    (s.leaveAltScreen restore).WrapsAtEdge ↔ (Op.leaveAltScreen restore).keepsEdge s := by
  unfold Screen.leaveAltScreen
  split
  next alternate =>
    cases restore with
    | false => exact iff_of_true (Settled.atEdge rfl) trivial
    | true => exact (restoreCursor_atEdge_iff _).trans ⟨fun restores _ => restores, fun restores => restores alternate⟩
  next primary =>
    refine iff_of_true atEdge ?_
    cases restore with
    | false => trivial
    | true => exact fun alternate => absurd alternate primary

/-- A call as an action or the host makes it, no stage of `write_char` by itself. -/
def Call.isWhole (call : Call) : Prop := ∀ op, call = .op op -> op.isStage = false

theorem Terminal.isWhole_calls {events : List Event} {t : Terminal} : ∀ call ∈ calls events t, call.isWhole := by
  rintro call member op rfl
  rcases called_of_mem_calls member with called | ⟨_, _, same, -⟩
  next => exact (Bool.or_eq_false_iff.mp called).2
  next =>
    cases same
    rfl

theorem Op.atEdge (op : Op) {s : Screen} (atEdge : s.WrapsAtEdge) (whole : op.isStage = false) (keeps : op.keepsEdge s) :
    Ensures AnyPanic (op.exec s) WrapsAtEdge := by
  have settles {x : Fallible Screen} (settled : Ensures AnyPanic x Settled) : Ensures AnyPanic x WrapsAtEdge :=
    settled.weaken fun _ => Settled.atEdge
  have stays (edits : op.edits = true) (unmoved : Ensures AnyPanic (op.exec s) (Unmoved s)) :
      Ensures AnyPanic (op.exec s) WrapsAtEdge :=
    (unmoved.and (op.edited s edits)).weaken fun _ both => atEdge.unmoved both.1 both.2.effectiveRight
  cases op with
  | wrapPending | fitWide | shiftForInsert | putChar => cases whole
  | update u => exact (u.atEdge_iff atEdge).mpr keeps
  | leaveAltScreen restore => exact (leaveAltScreen_atEdge_iff atEdge restore).mpr keeps
  | osc parts =>
    refine stays rfl (((handleOsc_told s parts).allow fun _ _ => trivial).weaken fun _ told => ?_)
    exact ⟨told.pendingWrap, congrArg Cursor.col told.cursor⟩
  | eraseDisplay mode selective => exact stays rfl (eraseDisplay_unmoved s mode selective)
  | eraseLine mode selective => exact stays rfl (eraseLine_unmoved s mode selective)
  | copyRect srcTop srcLeft srcBottom srcRight dstTop dstLeft => exact stays rfl (copyRect_unmoved s ..)
  | fillRect | selectiveEraseRect | scrollUp | scrollDown => exact stays rfl (ensures_after _ fun _ => ⟨rfl, rfl⟩)
  | linefeed => exact settles (linefeed_settled s)
  | resize newCols newRows => exact settles (resize_settled s newCols newRows)
  | reset => exact Settled.atEdge rfl
  | enterAltScreen save => exact .ite (fun _ => atEdge) fun _ => ensures_after _ fun _ => Settled.atEdge rfl
  | deccolm enable =>
    exact .ite (fun _ => ensures_after _ fun _ => ensures_after _ fun _ => Settled.atEdge rfl) fun _ => atEdge
  | decaln | reverseIndex | eraseChars | insertLines | deleteLines | insertChars | deleteChars =>
    exact ensures_after _ fun _ => Settled.atEdge rfl

theorem Call.atEdge (call : Call) {s : Screen} (whole : call.isWhole) (atEdge : s.WrapsAtEdge)
    (keeps : call.keepsEdge s) : Ensures AnyPanic (call.exec s) WrapsAtEdge := by
  cases call with
  | op o =>
    rw [exec_op]
    exact o.atEdge atEdge (whole o rfl) keeps
  | writeChar c => exact writeChar_atEdge atEdge c

theorem Call.leaves_edge (call : Call) {s : Screen} (atEdge : s.WrapsAtEdge) (loses : ¬ call.keepsEdge s) :
    ∃ next, call.exec s = .ok next ∧ ¬ next.WrapsAtEdge := by
  cases call with
  | writeChar c => exact absurd trivial loses
  | op o =>
    simp only [exec_op]
    cases o with
    | update u => exact ⟨u.apply s, rfl, mt (u.atEdge_iff atEdge).mp loses⟩
    | leaveAltScreen restore => exact ⟨_, rfl, mt (leaveAltScreen_atEdge_iff atEdge restore).mp loses⟩
    | _ => exact absurd trivial loses

namespace Terminal

theorem pending_wrap_iff (cols rows : Nat) (events : List Event) :
    Throughout Call.exec WrapsAtEdge (calls events (new cols rows)) (Screen.new cols rows) ↔
      EveryCall Call.keepsEdge events (new cols rows) :=
  throughout_iff_along_among (fun _ => id) (fun call _ => call.atEdge) (fun call _ _ => call.leaves_edge)
    isWhole_calls (Settled.atEdge rfl)

def restoreWidened : List Event :=
  [.bytes (ascii ['a', 'b'] ++ 0x1B :: ascii ['7']), .resize 3 1, .bytes (0x1B :: ascii ['8'])]

/-- The wrap waits in the middle one of three columns, and is taken there. -/
theorem restore_widened_wraps :
    (run handle restoreWidened (new 2 1)).map (fun t =>
        (t.screen.pendingWrap, t.screen.cursor.col, t.screen.effectiveRight)) = .ok (true, 1, 3) ∧
      (run handle (restoreWidened ++ [.bytes (ascii ['c'])]) (new 2 1)).map (fun t =>
        (t.screen.grid.scrollback ++ t.screen.grid.lines).map fun row => row.cells.map Cell.c) = .ok [['a', 'b', ' '], ['c', ' ', ' ']] := by
  rw [handle_eq]
  exact ⟨rfl, rfl⟩

end Terminal

end Emux
