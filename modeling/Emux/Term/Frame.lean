import Emux.Term.Extent
import Emux.Term.Osc

set_option autoImplicit false

/-!
# What the methods leave alone

An update touches neither a grid nor the recorded damage. Every method except those that switch
buffers, reset, resize or save keeps the inactive buffer and all that was saved.
-/

namespace Emux

open Checked

namespace Screen

structure Quiet (s s' : Screen) : Prop where
  grid : s'.grid = s.grid
  altGrid : s'.altGrid = s.altGrid
  altCursor : s'.altCursor = s.altCursor
  damageList : s'.damageList = s.damageList
  damageMode : s'.damageMode = s.damageMode
  tabs : s'.tabStops.length = s.tabStops.length

structure Kept (s s' : Screen) : Prop where
  altGrid : s'.altGrid = s.altGrid
  altCursor : s'.altCursor = s.altCursor
  altScreen : s'.modes.altScreen = s.modes.altScreen
  savedModes : s'.savedModes = s.savedModes
  savedCursor : s'.savedCursor = s.savedCursor

theorem Quiet.refl (s : Screen) : Quiet s s := ⟨rfl, rfl, rfl, rfl, rfl, rfl⟩

theorem Quiet.trans {s t u : Screen} (first : Quiet s t) (second : Quiet t u) : Quiet s u :=
  ⟨second.grid.trans first.grid, second.altGrid.trans first.altGrid,
    second.altCursor.trans first.altCursor, second.damageList.trans first.damageList,
    second.damageMode.trans first.damageMode, second.tabs.trans first.tabs⟩

theorem Kept.refl (s : Screen) : Kept s s := ⟨rfl, rfl, rfl, rfl, rfl⟩

theorem Kept.trans {s t u : Screen} (first : Kept s t) (second : Kept t u) : Kept s u :=
  ⟨second.altGrid.trans first.altGrid, second.altCursor.trans first.altCursor,
    second.altScreen.trans first.altScreen, second.savedModes.trans first.savedModes,
    second.savedCursor.trans first.savedCursor⟩

theorem sgrCode_pen (s : Screen) (code : Nat) : ∃ pen fg bg, s.sgrCode code = { s with pen, fg, bg } := by
  unfold sgrCode resetPen setUnderline
  split
  all_goals first
    | exact ⟨_, _, _, rfl⟩
    | (split_ifs <;> exact ⟨_, _, _, rfl⟩)

theorem setColor_pen (s : Screen) (isFg : Bool) (color : Color) :
    ∃ pen fg bg, s.setColor isFg color = { s with pen, fg, bg } := by
  unfold setColor
  split <;> exact ⟨_, _, _, rfl⟩

theorem sgrStep_pen (s : Screen) (code : Nat) (rest : List (Nat × Bool)) :
    ∃ pen fg bg, (s.sgrStep code rest).1 = { s with pen, fg, bg } := by
  unfold sgrStep
  split
  next => split <;> exact ⟨_, _, _, rfl⟩
  next =>
    split
    next =>
      split
      next => exact setColor_pen ..
      next => exact setColor_pen ..
      next => exact ⟨_, _, _, rfl⟩
      next => exact ⟨_, _, _, rfl⟩
    next => exact sgrCode_pen ..

theorem sgrFrom_pen (s : Screen) (skip : Nat) (fields : List (Nat × Bool)) :
    ∃ pen fg bg, s.sgrFrom skip fields = { s with pen, fg, bg } := by
  -- SGR changes the pen and its colours only.
  induction fields generalizing s skip with
  | nil => exact ⟨_, _, _, rfl⟩
  | cons field rest ih =>
    cases skip with
    | succ skip => exact ih s skip
    | zero =>
      obtain ⟨pen, fg, bg, step⟩ := s.sgrStep_pen field.1 rest
      obtain ⟨pen', fg', bg', last⟩ := ih (s.sgrStep field.1 rest).1 (s.sgrStep field.1 rest).2
      refine ⟨pen', fg', bg', ?_⟩
      rw [step] at last
      simp only [sgrFrom]
      rw [step, last]

theorem handleSgr_pen (s : Screen) (params : List Nat) (subflags : List Bool) :
    ∃ pen fg bg, s.handleSgr params subflags = { s with pen, fg, bg } := by
  unfold handleSgr
  split
  next => exact ⟨_, _, _, rfl⟩
  next => exact sgrFrom_pen ..

theorem tabForward_col (s : Screen) (count : Nat) :
    ∃ col pendingWrap, s.tabForward count = { s with cursor := { s.cursor with col }, pendingWrap } := by
  -- Tabs move the cursor within its row.
  induction count with
  | zero => exact ⟨_, _, rfl⟩
  | succ count ih =>
    obtain ⟨col, pendingWrap, moved⟩ := ih
    have step : s.tabForward (count + 1) = (s.tabForward count).tab := rfl
    rw [step, moved]
    exact ⟨_, _, rfl⟩

theorem moveTo_quiet (s : Screen) (row col : Nat) : Quiet s (s.moveTo row col) :=
  ⟨rfl, rfl, rfl, rfl, rfl, rfl⟩

theorem moveTo_kept (s : Screen) (row col : Nat) : Kept s (s.moveTo row col) := ⟨rfl, rfl, rfl, rfl, rfl⟩

theorem cursorPosition_quiet (s : Screen) (row col : Nat) : Quiet s (s.cursorPosition row col) := by
  unfold cursorPosition
  split <;> exact moveTo_quiet ..

theorem cursorPosition_kept (s : Screen) (row col : Nat) : Kept s (s.cursorPosition row col) := by
  unfold cursorPosition
  split <;> exact moveTo_kept ..

theorem moveHome_quiet (s : Screen) : Quiet s s.moveHome := by
  unfold moveHome
  split <;> exact moveTo_quiet ..

theorem moveHome_kept (s : Screen) : Kept s s.moveHome := by
  unfold moveHome
  split <;> exact moveTo_kept ..

theorem restoreCursor_quiet (s : Screen) : Quiet s s.restoreCursor := by
  unfold restoreCursor
  split <;> exact ⟨rfl, rfl, rfl, rfl, rfl, rfl⟩

theorem restoreCursor_kept (s : Screen) : Kept s s.restoreCursor := by
  unfold restoreCursor
  split
  next saved found => exact ⟨rfl, rfl, rfl, rfl, rfl⟩
  next missing => exact ⟨rfl, rfl, rfl, rfl, rfl⟩

theorem setFlagMode_quiet (s : Screen) (mode : Nat) (enable : Bool) : Quiet s (s.setFlagMode mode enable) := by
  unfold setFlagMode
  split
  case h_2 =>
    refine Quiet.trans ?_ (cursorPosition_quiet _ _ _)
    exact ⟨rfl, rfl, rfl, rfl, rfl, rfl⟩
  case h_7 => split <;> exact ⟨rfl, rfl, rfl, rfl, rfl, rfl⟩
  case h_14 =>
    split
    next => exact ⟨rfl, rfl, rfl, rfl, rfl, rfl⟩
    next => exact restoreCursor_quiet s
  all_goals exact ⟨rfl, rfl, rfl, rfl, rfl, rfl⟩

theorem setFlagMode_kept {s : Screen} {mode : Nat} {enable : Bool} (other : mode = 1048 -> enable = false) :
    Kept s (s.setFlagMode mode enable) := by
  unfold setFlagMode
  split
  case h_2 =>
    refine Kept.trans ?_ (cursorPosition_kept _ _ _)
    exact ⟨rfl, rfl, rfl, rfl, rfl⟩
  case h_7 => split <;> exact ⟨rfl, rfl, rfl, rfl, rfl⟩
  case h_14 =>
    rw [other rfl]
    exact restoreCursor_kept s
  all_goals exact ⟨rfl, rfl, rfl, rfl, rfl⟩

end Screen

open Screen

def Update.touchesSaved : Update -> Bool
  | .saveCursor | .softReset | .saveDecModes | .restoreDecModes => true
  | .setFlagMode mode enable => mode == 1048 && enable
  | _ => false

theorem Update.quiet (u : Update) (s : Screen) : Quiet s (u.apply s) := by
  cases u with
  | sgr params subflags =>
    obtain ⟨_, _, _, changed⟩ := s.handleSgr_pen params subflags
    rw [apply, changed]
    exact ⟨rfl, rfl, rfl, rfl, rfl, rfl⟩
  | tabForward count =>
    obtain ⟨_, _, moved⟩ := s.tabForward_col count
    rw [apply, moved]
    exact ⟨rfl, rfl, rfl, rfl, rfl, rfl⟩
  | setFlagMode mode enable => exact s.setFlagMode_quiet mode enable
  | cursorPosition row col => exact s.cursorPosition_quiet row col
  | restoreCursor => exact s.restoreCursor_quiet
  | setTabStop => exact ⟨rfl, rfl, rfl, rfl, rfl, List.length_set ..⟩
  | clearTabStop mode =>
    cases mode with
    | current => exact ⟨rfl, rfl, rfl, rfl, rfl, List.length_set ..⟩
    | all => exact ⟨rfl, rfl, rfl, rfl, rfl, List.length_map ..⟩
  | setScrollRegion top bottom =>
    refine Quiet.trans ?_ (moveHome_quiet _)
    split_ifs <;> exact ⟨rfl, rfl, rfl, rfl, rfl, rfl⟩
  | setLeftRightMargin left right =>
    simp only [apply, Screen.setLeftRightMargin]
    split
    next =>
      refine Quiet.trans ?_ (moveHome_quiet _)
      split_ifs <;> exact ⟨rfl, rfl, rfl, rfl, rfl, rfl⟩
    next => exact Quiet.refl s
  | backspace =>
    simp only [apply, Screen.backspace]
    split_ifs <;> exact ⟨rfl, rfl, rfl, rfl, rfl, rfl⟩
  | carriageReturn =>
    simp only [apply, Screen.carriageReturn]
    split <;> exact ⟨rfl, rfl, rfl, rfl, rfl, rfl⟩
  | setAnsiMode mode enable =>
    simp only [apply, Screen.setAnsiMode]
    split <;> exact ⟨rfl, rfl, rfl, rfl, rfl, rfl⟩
  | restoreDecModes =>
    simp only [apply, Screen.restoreDecModes]
    split <;> exact ⟨rfl, rfl, rfl, rfl, rfl, rfl⟩
  | popSgr =>
    simp only [apply, Screen.popSgr]
    split <;> exact ⟨rfl, rfl, rfl, rfl, rfl, rfl⟩
  | _ => exact ⟨rfl, rfl, rfl, rfl, rfl, rfl⟩

theorem Update.kept (u : Update) (s : Screen) (plain : u.touchesSaved = false) : Kept s (u.apply s) := by
  cases u with
  | saveCursor | softReset | saveDecModes | restoreDecModes => cases plain
  | sgr params subflags =>
    obtain ⟨_, _, _, changed⟩ := s.handleSgr_pen params subflags
    rw [apply, changed]
    exact ⟨rfl, rfl, rfl, rfl, rfl⟩
  | tabForward count =>
    obtain ⟨_, _, moved⟩ := s.tabForward_col count
    rw [apply, moved]
    exact ⟨rfl, rfl, rfl, rfl, rfl⟩
  | setFlagMode mode enable =>
    apply setFlagMode_kept
    rintro rfl
    exact plain
  | cursorPosition row col => exact s.cursorPosition_kept row col
  | restoreCursor => exact s.restoreCursor_kept
  | clearTabStop mode => cases mode <;> exact ⟨rfl, rfl, rfl, rfl, rfl⟩
  | setScrollRegion top bottom =>
    refine Kept.trans ?_ (moveHome_kept _)
    split_ifs <;> exact ⟨rfl, rfl, rfl, rfl, rfl⟩
  | setLeftRightMargin left right =>
    simp only [apply, Screen.setLeftRightMargin]
    split
    next =>
      refine Kept.trans ?_ (moveHome_kept _)
      split_ifs <;> exact ⟨rfl, rfl, rfl, rfl, rfl⟩
    next => exact Kept.refl s
  | backspace =>
    simp only [apply, Screen.backspace]
    split_ifs <;> exact ⟨rfl, rfl, rfl, rfl, rfl⟩
  | carriageReturn =>
    simp only [apply, Screen.carriageReturn]
    split <;> exact ⟨rfl, rfl, rfl, rfl, rfl⟩
  | setAnsiMode mode enable =>
    simp only [apply, Screen.setAnsiMode]
    split <;> exact ⟨rfl, rfl, rfl, rfl, rfl⟩
  | popSgr =>
    simp only [apply, Screen.popSgr]
    split <;> exact ⟨rfl, rfl, rfl, rfl, rfl⟩
  | _ => exact ⟨rfl, rfl, rfl, rfl, rfl⟩

namespace Screen

variable {allowed : Panic -> Prop}

/-- Nothing changes but the grid, the cursor, flags and the recorded damage. -/
structure Edited (s s' : Screen) : Prop extends Kept s s' where
  extent : s.grid.SameExtent s'.grid
  modes : s'.modes = s.modes
  damageMode : s'.damageMode = s.damageMode
  tabStops : s'.tabStops = s.tabStops
  scrollTop : s'.scrollTop = s.scrollTop
  scrollBottom : s'.scrollBottom = s.scrollBottom
  scrollLeft : s'.scrollLeft = s.scrollLeft
  scrollRight : s'.scrollRight = s.scrollRight

structure Rewritten (s s' : Screen) : Prop extends Edited s s' where
  rewritten : s.grid.Rewritten s'.grid
  viewportOffset : s'.viewportOffset = s.viewportOffset

def still (s : Screen) :=
  (s.altGrid, s.altCursor, s.modes, s.savedModes, s.savedCursor, s.damageMode, s.tabStops, s.scrollTop,
    s.scrollBottom, s.scrollLeft, s.scrollRight, s.viewportOffset)

theorem Rewritten.of_still {s s' : Screen} (rewritten : s.grid.Rewritten s'.grid) (same : s'.still = s.still) :
    Rewritten s s' := by
  simp only [still, Prod.mk.injEq] at same
  obtain ⟨altGrid, altCursor, modes, savedModes, savedCursor, damageMode, tabStops, top, bottom, left, right, offset⟩ := same
  exact ⟨⟨⟨altGrid, altCursor, congrArg Modes.altScreen modes, savedModes, savedCursor⟩, rewritten.extent, modes,
    damageMode, tabStops, top, bottom, left, right⟩, rewritten, offset⟩

theorem Rewritten.same {s s' : Screen} (rewritten : Rewritten s s') : s'.still = s.still := by
  simp only [still, rewritten.altGrid, rewritten.altCursor, rewritten.modes, rewritten.savedModes,
    rewritten.savedCursor, rewritten.damageMode, rewritten.tabStops, rewritten.scrollTop, rewritten.scrollBottom,
    rewritten.scrollLeft, rewritten.scrollRight, rewritten.viewportOffset]

theorem Rewritten.refl (s : Screen) : Rewritten s s := .of_still .refl rfl

theorem Rewritten.trans {s t u : Screen} (first : Rewritten s t) (second : Rewritten t u) : Rewritten s u :=
  .of_still (first.rewritten.trans second.rewritten) (second.same.trans first.same)

instance : Std.Refl Rewritten := ⟨Rewritten.refl⟩

instance : IsTrans Screen Rewritten := ⟨fun _ _ _ => Rewritten.trans⟩

theorem recordDamage_rewritten (s : Screen) (row colStart colEnd : Nat) :
    Rewritten s (s.recordDamage row colStart colEnd) := by
  unfold recordDamage
  split
  next => exact Rewritten.refl s
  next => exact .of_still .refl rfl

theorem onGrid_rewritten (s : Screen) {f : Grid -> Fallible Grid} (rewrites : s.grid.Rewrites (f s.grid)) :
    Ensures AnyPanic (s.onGrid f) (Rewritten s) :=
  Ensures.bind rewrites fun _ rewritten => .of_still rewritten rfl

theorem rewritten_after {s t : Screen} {x : Fallible Screen} (first : Rewritten s t)
    (second : Ensures AnyPanic x (Rewritten t)) : Ensures AnyPanic x (Rewritten s) :=
  second.weaken fun _ more => first.trans more

theorem rewritten_ok {s t : Screen} (rewritten : Rewritten s t) : Ensures AnyPanic (.ok t) (Rewritten s) :=
  rewritten

theorem scrollGridUp_rewritten (s : Screen) (bounded : Bool) (count : Nat) :
    Ensures AnyPanic (s.scrollGridUp bounded count) (Rewritten s) :=
  onGrid_rewritten s (.ite (fun _ => s.grid.scrollUpRegion_rewrites ..) fun _ => s.grid.scrollUp_rewrites ..)

theorem scrollGridDown_rewritten (s : Screen) (bounded : Bool) (count : Nat) :
    Ensures AnyPanic (s.scrollGridDown bounded count) (Rewritten s) :=
  onGrid_rewritten s (.ite (fun _ => s.grid.scrollDownRegion_rewrites ..) fun _ => s.grid.scrollDown_rewrites ..)

theorem setContinuation_rewritten (s : Screen) (value : Bool) : Ensures AnyPanic (s.setContinuation value) (Rewritten s) :=
  onGrid_rewritten s (s.grid.rowMut_rewrites _ _)

theorem carriageReturn_rewritten (s : Screen) : Rewritten s s.carriageReturn := by
  unfold carriageReturn
  split <;> exact .of_still .refl rfl

theorem advanceLine_rewritten (s : Screen) : Ensures AnyPanic s.advanceLine (Rewritten s) := by
  unfold advanceLine
  split
  next =>
    refine rewritten_after ?_ (scrollGridUp_rewritten _ _ _)
    exact .of_still .refl rfl
  next =>
    split
    next => exact rewritten_ok (.of_still .refl rfl)
    next => exact rewritten_ok (Rewritten.refl s)

theorem linefeed_rewritten (s : Screen) : Ensures AnyPanic s.linefeed (Rewritten s) := by
  refine related_bind (rewritten_after ?_ (advanceLine_rewritten _)) fun t => rewritten_ok ?_
  next => exact .of_still .refl rfl
  next => split <;> exact .of_still .refl rfl

theorem reverseIndex_rewritten (s : Screen) : Ensures AnyPanic s.reverseIndex (Rewritten s) := by
  refine related_bind ?_ fun t => rewritten_ok ?_
  next =>
    split
    next => exact scrollGridDown_rewritten s _ _
    next => exact rewritten_ok (.of_still .refl rfl)
  next => exact .of_still .refl rfl

theorem wrapPending_rewritten (s : Screen) : Ensures AnyPanic s.wrapPending (Rewritten s) := by
  unfold wrapPending
  split
  next =>
    split
    next =>
      refine related_bind (setContinuation_rewritten _ _) fun t => ?_
      refine related_bind (rewritten_after (carriageReturn_rewritten t) (linefeed_rewritten _)) fun u => ?_
      refine related_bind (setContinuation_rewritten _ _) fun v => rewritten_ok ?_
      exact .of_still .refl rfl
    next =>
      rw [ensures_any_iff]
      intro s' ran
      obtain ⟨col, -, result⟩ := (bind_ok_iff _ _ _).mp ran
      rw [← Except.ok.inj result]
      exact .of_still .refl rfl
  next => exact rewritten_ok (Rewritten.refl s)

theorem wrapWide_rewritten (s : Screen) : Ensures AnyPanic s.wrapWide (Rewritten s) := by
  unfold wrapWide
  split
  next =>
    refine related_bind (onGrid_rewritten s (related_onlyIf (s.grid.cellMut_rewrites ..))) fun t => ?_
    refine related_bind (rewritten_after (carriageReturn_rewritten t) (linefeed_rewritten _)) fun u => ?_
    exact setContinuation_rewritten _ _
  next => exact rewritten_ok (.of_still .refl rfl)

theorem fitWide_rewritten (s : Screen) (width : Nat) : Ensures AnyPanic (s.fitWide width) (Rewritten s) := by
  unfold fitWide
  split
  next =>
    rw [ensures_any_iff]
    intro s' ran
    obtain ⟨last, -, result⟩ := (bind_ok_iff _ _ _).mp ran
    unfold onlyIf at result
    split at result
    next => exact (wrapWide_rewritten s).of_ok result
    next => rw [← Except.ok.inj result]; exact Rewritten.refl s
  next => exact rewritten_ok (Rewritten.refl s)

theorem shiftForInsert_rewritten (s : Screen) (width : Nat) :
    Ensures AnyPanic (s.shiftForInsert width) (Rewritten s) := by
  unfold shiftForInsert
  split
  next => exact onGrid_rewritten s (s.grid.insertCellsBounded_rewrites ..)
  next => exact rewritten_ok (Rewritten.refl s)

theorem advanceTo_rewritten (s : Screen) (newCol : Nat) : Ensures AnyPanic (s.advanceTo newCol) (Rewritten s) := by
  unfold advanceTo
  split
  next =>
    rw [ensures_any_iff]
    intro s' ran
    obtain ⟨last, -, result⟩ := (bind_ok_iff _ _ _).mp ran
    rw [← Except.ok.inj result]
    exact .of_still .refl rfl
  next => exact rewritten_ok (.of_still .refl rfl)

theorem putChar_rewritten (s : Screen) (c : Char) (width : Nat) :
    Ensures AnyPanic (s.putChar c width) (Rewritten s) := by
  refine related_bind (onGrid_rewritten s ?_) fun t => ?_
  next =>
    refine related_bind (clearFragments_rewrites s.grid ..) fun g => ?_
    exact related_bind (related_onlyIf (g.cellMut_rewrites ..)) fun g => related_onlyIf (g.cellMut_rewrites ..)
  next => exact rewritten_after (recordDamage_rewritten t s.cursor.row s.cursor.col (s.cursor.col + width)) (advanceTo_rewritten _ _)

theorem eraseRow_rewritten (selective : Bool) (s : Screen) (row : Nat) :
    Ensures AnyPanic (eraseRow selective s row) (Rewritten s) :=
  rewritten_after (recordDamage_rewritten s _ _ _) (onGrid_rewritten _ (clearRowImpl_rewrites ..))

theorem eraseDisplay_rewritten (s : Screen) {mode : EraseDisplay} (selective : Bool) (keeps : mode ≠ .scrollback) :
    Ensures AnyPanic (s.eraseDisplay mode selective) (Rewritten s) := by
  unfold eraseDisplay
  cases mode with
  | scrollback => exact absurd rfl keeps
  | below =>
    have below := @related_forRange _ Rewritten _ _ recordRow (fun t i => rewritten_ok (recordDamage_rewritten t i 0 t.cols))
      (s.cursor.row + 1) s.rows (s.recordDamage s.cursor.row s.cursor.col s.cols)
    refine related_bind (rewritten_after (recordDamage_rewritten s _ _ _) below) fun t => onGrid_rewritten t ?_
    exact related_bind (clearRegionImpl_rewrites t.grid ..) fun g => clearRowsBelow_rewrites g ..
  | above =>
    refine related_bind (related_forRange (eraseRow_rewritten selective) _ _ _) fun t => ?_
    exact rewritten_after (recordDamage_rewritten t _ _ _) (onGrid_rewritten _ (clearRegionImpl_rewrites ..))
  | all => exact related_forRange (eraseRow_rewritten selective) _ _ _

theorem eraseDisplay_edited (s : Screen) (mode : EraseDisplay) (selective : Bool) :
    Ensures AnyPanic (s.eraseDisplay mode selective) (Edited s) := by
  by_cases clears : mode = .scrollback
  next =>
    subst clears
    exact ⟨⟨rfl, rfl, rfl, rfl, rfl⟩, ⟨rfl, rfl⟩, rfl, rfl, rfl, rfl, rfl, rfl, rfl⟩
  next => exact (eraseDisplay_rewritten s selective clears).weaken fun _ => Rewritten.toEdited

theorem eraseLine_rewritten (s : Screen) (mode : EraseLine) (selective : Bool) :
    Ensures AnyPanic (s.eraseLine mode selective) (Rewritten s) := by
  unfold eraseLine
  cases mode with
  | toRight => exact rewritten_after (recordDamage_rewritten s _ _ _) (onGrid_rewritten _ (clearRegionImpl_rewrites ..))
  | toLeft => exact rewritten_after (recordDamage_rewritten s _ _ _) (onGrid_rewritten _ (clearRegionImpl_rewrites ..))
  | all => exact eraseRow_rewritten selective s _

theorem rewritten_then {s : Screen} {x : Fallible Screen} {f : Screen -> Screen}
    (first : Ensures AnyPanic x (Rewritten s)) (second : ∀ t, Rewritten t (f t)) :
    Ensures AnyPanic (x >>= fun t => .ok (f t)) (Rewritten s) :=
  related_bind first fun t => rewritten_ok (second t)

theorem copyRect_rewritten (s : Screen) (srcTop srcLeft srcBottom srcRight dstTop dstLeft : Nat) :
    Ensures AnyPanic (s.copyRect srcTop srcLeft srcBottom srcRight dstTop dstLeft) (Rewritten s) := by
  simp only [copyRect]
  split
  next => exact rewritten_ok (Rewritten.refl s)
  next => exact onGrid_rewritten s (s.grid.rewrites_after _ fun buf => pasteRect_rewrites s.grid buf ..)

theorem recordScrollDamage_rewritten (s : Screen) (top bottom : Nat) :
    Rewritten s (s.recordScrollDamage top bottom) :=
  .of_still .refl rfl

structure Told (s s' : Screen) : Prop extends Rewritten s s', Quiet s s' where
  cursor : s'.cursor = s.cursor
  pendingWrap : s'.pendingWrap = s.pendingWrap

theorem Told.refl (s : Screen) : Told s s := ⟨Rewritten.refl s, rfl, rfl, rfl, rfl, rfl⟩

def OnlySlice (panic : Panic) : Prop := panic = .slice

theorem parseColorSpec_slice (spec : Bytes) : Ensures OnlySlice (parseColorSpec spec) fun _ => True :=
  ((parseColorSpec_exact spec).allow fun _ bad => bad.1).weaken fun _ _ => trivial

theorem oscPalette_told (s : Screen) (parts : List Bytes) : Ensures OnlySlice (s.oscPalette parts) (Told s) := by
  unfold oscPalette
  split
  next => exact Told.refl s
  next =>
    split
    next => exact Told.refl s
    next =>
      dsimp only
      split
      next => exact ⟨.of_still .refl rfl, rfl, rfl, rfl, rfl, rfl⟩
      next =>
        refine (parseColorSpec_slice _).bind fun color _ => ?_
        cases color with
        | none => exact Told.refl s
        | some rgb => exact ⟨.of_still .refl rfl, rfl, rfl, rfl, rfl, rfl⟩

theorem oscHyperlink_told (s : Screen) (parts : List Bytes) : Told s (s.oscHyperlink parts) := by
  unfold oscHyperlink
  split_ifs <;> exact ⟨.of_still .refl rfl, rfl, rfl, rfl, rfl, rfl⟩

theorem oscClipboard_told (s : Screen) (parts : List Bytes) : Told s (s.oscClipboard parts) := by
  unfold oscClipboard
  split_ifs
  case neg => split <;> exact ⟨.of_still .refl rfl, rfl, rfl, rfl, rfl, rfl⟩
  all_goals exact ⟨.of_still .refl rfl, rfl, rfl, rfl, rfl, rfl⟩

theorem oscShellMark_told (s : Screen) (parts : List Bytes) : Told s (s.oscShellMark parts) := by
  unfold oscShellMark
  dsimp only
  split_ifs <;> exact ⟨.of_still .refl rfl, rfl, rfl, rfl, rfl, rfl⟩

theorem pushNotification_told (s : Screen) (title body : Bytes) : Told s (s.pushNotification title body) :=
  ⟨.of_still .refl rfl, rfl, rfl, rfl, rfl, rfl⟩

theorem handleOsc_told (s : Screen) (parts : List Bytes) : Ensures OnlySlice (s.handleOsc parts) (Told s) := by
  unfold handleOsc
  repeat first
    | exact oscPalette_told s parts
    | exact Told.refl s
    | exact oscHyperlink_told s parts
    | exact pushNotification_told s _ _
    | exact oscClipboard_told s parts
    | exact oscShellMark_told s parts
    | refine .ite (fun _ => ?_) fun _ => ?_
    | exact ensures_ok (by
        split_ifs
        all_goals first
          | exact Told.refl s
          | exact pushNotification_told s _ _
          | exact ⟨.of_still .refl rfl, rfl, rfl, rfl, rfl, rfl⟩)

theorem eachCell_rewritten (s : Screen) (top left bottom right : Nat) (f : Cell -> Cell) :
    Ensures AnyPanic (s.eachCell top left bottom right f) (Rewritten s) :=
  onGrid_rewritten s (eachCell_rewrites ..)

theorem decaln_kept (s : Screen) : Ensures AnyPanic s.decaln (Kept s) := by
  refine (eachCell_rewritten s ..).bind fun t edited => ?_
  exact edited.toKept.trans ⟨rfl, rfl, rfl, rfl, rfl⟩

end Screen

def Op.switches : Op -> Bool
  | .enterAltScreen _ | .leaveAltScreen _ | .reset | .deccolm _ | .resize .. => true
  | .update u => u.touchesSaved
  | _ => false

def Op.edits : Op -> Bool
  | .update _ | .decaln | .enterAltScreen _ | .leaveAltScreen _ | .reset | .deccolm _ | .resize .. => false
  | _ => true

def Op.clearsHistory : Op -> Bool
  | .eraseDisplay .scrollback _ => true
  | _ => false

theorem Op.rewritten (op : Op) (s : Screen) (edits : op.edits = true) (keeps : op.clearsHistory = false) :
    Ensures AnyPanic (op.exec s) (Rewritten s) := by
  have fresh (t : Screen) : Rewritten t { t with pendingWrap := false } :=
    .of_still .refl rfl
  have home (t : Screen) : Rewritten t { t with cursor := { t.cursor with col := 0 }, pendingWrap := false } :=
    .of_still .refl rfl
  cases op with
  | update | decaln | enterAltScreen | leaveAltScreen | reset | deccolm | resize => cases edits
  | osc parts => exact ((handleOsc_told s parts).allow fun _ _ => trivial).weaken fun _ told => told.toRewritten
  | wrapPending => exact wrapPending_rewritten s
  | fitWide width => exact fitWide_rewritten s width
  | shiftForInsert width => exact shiftForInsert_rewritten s width
  | putChar c width => exact putChar_rewritten s c width
  | linefeed => exact linefeed_rewritten s
  | reverseIndex => exact reverseIndex_rewritten s
  | eraseDisplay mode selective =>
    refine eraseDisplay_rewritten s selective ?_
    rintro rfl
    cases keeps
  | eraseLine mode selective => exact eraseLine_rewritten s mode selective
  | eraseChars count =>
    exact rewritten_then (rewritten_after (recordDamage_rewritten s _ _ _) (onGrid_rewritten _ (Grid.eraseChars_rewrites ..))) fresh
  | insertLines count =>
    exact rewritten_then (onGrid_rewritten s (related_onlyIf (s.grid.insertLines_rewrites ..))) home
  | deleteLines count =>
    exact rewritten_then (onGrid_rewritten s (related_onlyIf (s.grid.deleteLines_rewrites ..))) home
  | insertChars count =>
    refine rewritten_then (rewritten_after (recordDamage_rewritten s s.cursor.row s.cursor.col s.effectiveRight) ?_) fresh
    exact onGrid_rewritten _ (Grid.insertCellsBounded_rewrites ..)
  | deleteChars count =>
    refine rewritten_then (rewritten_after (recordDamage_rewritten s s.cursor.row s.cursor.col s.effectiveRight) ?_) fresh
    exact onGrid_rewritten _ (Grid.deleteCellsBounded_rewrites ..)
  | scrollUp count => exact rewritten_after (recordScrollDamage_rewritten s _ _) (scrollGridUp_rewritten _ _ _)
  | scrollDown count => exact rewritten_after (recordScrollDamage_rewritten s _ _) (scrollGridDown_rewritten _ _ _)
  | fillRect ch top left bottom right => exact eachCell_rewritten s _ _ _ _ _
  | copyRect srcTop srcLeft srcBottom srcRight dstTop dstLeft =>
    exact copyRect_rewritten s srcTop srcLeft srcBottom srcRight dstTop dstLeft
  | selectiveEraseRect top left bottom right => exact eachCell_rewritten s _ _ _ _ _

theorem Op.edited (op : Op) (s : Screen) (edits : op.edits = true) : Ensures AnyPanic (op.exec s) (Edited s) := by
  by_cases clears : op.clearsHistory = true
  next =>
    cases op with
    | eraseDisplay mode selective => exact eraseDisplay_edited s mode selective
    | _ => cases clears
  next => exact (op.rewritten s edits (Bool.eq_false_iff.mpr clears)).weaken fun _ => Rewritten.toEdited

theorem Op.kept (op : Op) (s : Screen) (stays : op.switches = false) : Ensures AnyPanic (op.exec s) (Kept s) := by
  cases op with
  | enterAltScreen | leaveAltScreen | reset | deccolm | resize => cases stays
  | update u => exact u.kept s stays
  | decaln => exact decaln_kept s
  | _ => exact (Op.edited _ s rfl).weaken fun _ edit => edit.toKept

end Emux
