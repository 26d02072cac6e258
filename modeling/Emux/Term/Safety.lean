import Emux.Term.Effects
import Emux.Term.Frame
import Emux.Term.Resize
import Emux.Term.Trace

set_option autoImplicit false

/-!
# No operation leaves the screen

Every operation keeps a safe screen safe and its cursor on the screen, but for one: leaving the
alternate screen without restoring the cursor puts the cursor where it was when the alternate
screen was entered, whatever the size is now.
-/

namespace Emux

open Checked

namespace Screen

structure Valid (s : Screen) : Prop extends Safe s where
  col : s.cursor.col < s.grid.cols

theorem Valid.keeps {s s' : Screen} (valid : Valid s') (rows : s'.grid.rows = s.grid.rows) : Keeps s s' :=
  ⟨valid.toSafe, fun _ => valid.col, rows⟩

theorem Keeps.valid {s s' : Screen} (keeps : Keeps s s') (valid : Valid s) : Valid s' :=
  ⟨keeps.safe, keeps.col valid.col⟩

/-! ## Updates -/

theorem Framed.quiet {s s' : Screen} (framed : Framed s) (quiet : Quiet s s') (region : s'.scrollTop < s'.scrollBottom)
    (regionFits : s'.scrollBottom ≤ s.grid.rows) (margin : s'.scrollLeft < s'.scrollRight)
    (marginFits : s'.scrollRight ≤ s.grid.cols) : Framed s' := by
  have grid := quiet.grid
  refine ⟨grid ▸ framed.grid, quiet.altGrid ▸ framed.altGrid, ?_, ?_, ?_, ?_, region, ?_, margin, ?_, ?_⟩
  all_goals rw [grid]
  next => rw [quiet.altGrid, framed.altCols]
  next => rw [quiet.altGrid, framed.altRows]
  next => exact framed.someCols
  next => exact framed.someRows
  next => exact regionFits
  next => exact marginFits
  next => rw [quiet.tabs, framed.tabs]

structure Placed (s s' : Screen) : Prop where
  region : s'.scrollTop < s'.scrollBottom
  regionFits : s'.scrollBottom ≤ s.grid.rows
  margin : s'.scrollLeft < s'.scrollRight
  marginFits : s'.scrollRight ≤ s.grid.cols
  row : s'.cursor.row < s.grid.rows
  col : s.cursor.col < s.grid.cols -> s'.cursor.col < s.grid.cols

theorem Placed.keeps {s s' : Screen} (placed : Placed s s') (safe : Safe s) (quiet : Quiet s s') : Keeps s s' := by
  have grid := quiet.grid
  refine ⟨⟨?_, ?_⟩, ?_, by rw [grid]⟩
  next => exact safe.toFramed.quiet quiet placed.region placed.regionFits placed.margin placed.marginFits
  next => rw [grid]; exact placed.row
  next => rw [grid]; exact placed.col

theorem tab_col {s : Screen} (framed : Framed s) : s.tab.cursor.col < s.grid.cols := by
  have some := framed.someCols
  simp only [tab, cols]
  cases found : (List.range' (s.cursor.col + 1) (s.grid.cols - (s.cursor.col + 1))).find? s.isTabStop with
  | none => simp only [Option.getD_none]; omega
  | some col =>
    have member := List.mem_range'_1.mp (List.mem_of_find?_eq_some found)
    simp only [Option.getD_some]
    omega

theorem tabBackwardFrom_le (s : Screen) (count col : Nat) : s.tabBackwardFrom count col ≤ col := by
  induction count generalizing col with
  | zero => exact Nat.le_refl col
  | succ count ih =>
    rw [tabBackwardFrom]
    split
    next => exact Nat.zero_le col
    next =>
      refine Nat.le_trans (ih _) ?_
      cases found : (List.range col).reverse.find? s.isTabStop with
      | none => exact Nat.zero_le col
      | some stop =>
        have member := List.mem_of_find?_eq_some found
        simp only [List.mem_reverse, List.mem_range] at member
        exact Nat.le_of_lt member

theorem tabForward_keeps {s : Screen} (safe : Safe s) (count : Nat) : Keeps s (s.tabForward count) := by
  induction count with
  | zero => exact .refl safe
  | succ count ih => exact ih.trans (.of_frame ih.safe rfl ih.safe.row fun _ => tab_col ih.safe.toFramed)

theorem moveTo_keeps {s : Screen} (safe : Safe s) {row col : Nat} (inRows : row < s.grid.rows)
    (inCols : col < s.grid.cols) : Keeps s (s.moveTo row col) := .of_frame safe rfl inRows fun _ => inCols

theorem cursorPosition_keeps {s : Screen} (safe : Safe s) (row col : Nat) : Keeps s (s.cursorPosition row col) := by
  have someRows := safe.someRows
  have someCols := safe.someCols
  have region := safe.region
  have regionFits := safe.regionFits
  have margin := safe.margin
  have marginFits := safe.marginFits
  unfold cursorPosition rows cols
  split
  next => exact moveTo_keeps safe (by omega) (by omega)
  next => exact moveTo_keeps safe (by omega) (by omega)

theorem moveHome_keeps {s : Screen} (safe : Safe s) : Keeps s s.moveHome := by
  unfold moveHome
  split
  next =>
    exact moveTo_keeps safe (Nat.lt_of_lt_of_le safe.region safe.regionFits)
      (Nat.lt_of_lt_of_le safe.margin safe.marginFits)
  next => exact moveTo_keeps safe safe.someRows safe.someCols

theorem setScrollRegion_keeps {s : Screen} (safe : Safe s) (top bottom : Nat) : Keeps s (s.setScrollRegion top bottom) := by
  have fits : min (if bottom = 0 then s.rows else bottom) s.rows ≤ s.grid.rows := Nat.min_le_right ..
  simp only [setScrollRegion]
  generalize min ((if top = 0 then 1 else top) - 1) (s.rows - 1) = first
  generalize min (if bottom = 0 then s.rows else bottom) s.rows = last at fits
  split
  next order =>
    have moved : Keeps s { s with scrollTop := first, scrollBottom := last } :=
      Placed.keeps ⟨Nat.lt_of_succ_lt order, fits, safe.margin, safe.marginFits, safe.row, id⟩ safe
        ⟨rfl, rfl, rfl, rfl, rfl, rfl⟩
    exact moved.trans (moveHome_keeps moved.safe)
  next => exact moveHome_keeps safe

theorem setLeftRightMargin_keeps {s : Screen} (safe : Safe s) (left right : Nat) :
    Keeps s (s.setLeftRightMargin left right) := by
  have fits : min (if right = 0 then s.cols else right) s.cols ≤ s.grid.cols := Nat.min_le_right ..
  simp only [setLeftRightMargin]
  generalize min ((if left = 0 then 1 else left) - 1) (s.cols - 1) = first
  generalize min (if right = 0 then s.cols else right) s.cols = last at fits
  split
  next =>
    split
    next order =>
      have moved : Keeps s { s with scrollLeft := first, scrollRight := last } :=
        Placed.keeps ⟨safe.region, safe.regionFits, Nat.lt_of_succ_lt order, fits, safe.row, id⟩ safe
          ⟨rfl, rfl, rfl, rfl, rfl, rfl⟩
      exact moved.trans (moveHome_keeps moved.safe)
    next => exact moveHome_keeps safe
  next => exact .refl safe

theorem restoreCursor_valid {s : Screen} (framed : Framed s) :
    Valid s.restoreCursor := by
  have someRows := framed.someRows
  have someCols := framed.someCols
  unfold restoreCursor
  split
  next saved found =>
    refine ⟨⟨framed.of_frame rfl, ?_⟩, ?_⟩
    next => simp only [rows]; omega
    next => simp only [cols]; omega
  next => exact ⟨⟨framed.of_frame rfl, someRows⟩, someCols⟩

theorem restoreCursor_keeps {s : Screen} (framed : Framed s) : Keeps s s.restoreCursor :=
  (restoreCursor_valid framed).keeps (by rw [s.restoreCursor_quiet.grid])

theorem setFlagMode_keeps {s : Screen} (safe : Safe s) (mode : Nat) (enable : Bool) :
    Keeps s (s.setFlagMode mode enable) := by
  have same (s' : Screen) (frame : s'.frame = s.frame) (cursor : (s'.cursor.row, s'.cursor.col) =
      (s.cursor.row, s.cursor.col)) : Keeps s s' := by
    obtain ⟨row, col⟩ := Prod.mk.inj cursor
    exact .of_frame safe frame (row ▸ safe.row) (col ▸ id)
  unfold setFlagMode
  split
  case h_2 =>
    have kept : Keeps s { s with modes := { s.modes with origin := enable } } := same _ rfl rfl
    exact kept.trans (cursorPosition_keeps kept.safe 1 1)
  case h_7 =>
    dsimp only
    split
    next => exact same _ rfl rfl
    next =>
      exact Placed.keeps ⟨safe.region, safe.regionFits, safe.someCols, Nat.le_refl _, safe.row, id⟩ safe
        ⟨rfl, rfl, rfl, rfl, rfl, rfl⟩
  case h_14 =>
    split
    next => exact same _ rfl rfl
    next => exact restoreCursor_keeps safe.toFramed
  all_goals exact same _ rfl rfl

end Screen

open Screen

theorem Update.keeps (u : Update) {s : Screen} (safe : Safe s) : Keeps s (u.apply s) := by
  have region := safe.region
  have regionFits := safe.regionFits
  have row := safe.row
  have someRows := safe.someRows
  have someCols := safe.someCols
  have placed (holds : Placed s (u.apply s)) : Keeps s (u.apply s) := holds.keeps safe (u.quiet s)
  -- An update leaves the grid alone, so only cursor and margins have to be placed in it.
  cases u with
  | tabForward count => exact tabForward_keeps safe count
  | tab => exact .of_frame safe rfl row fun _ => tab_col safe.toFramed
  | setScrollRegion top bottom => exact setScrollRegion_keeps safe top bottom
  | setLeftRightMargin left right => exact setLeftRightMargin_keeps safe left right
  | setFlagMode mode enable => exact setFlagMode_keeps safe mode enable
  | restoreCursor => exact restoreCursor_keeps safe.toFramed
  | carriageReturn => exact carriageReturn_keeps safe
  | cursorPosition row col => exact cursorPosition_keeps safe row col
  | softReset =>
    exact placed ⟨someRows, Nat.le_refl _, someCols, Nat.le_refl _, row, id⟩
  | sgr params subflags =>
    obtain ⟨_, _, _, changed⟩ := s.handleSgr_pen params subflags
    rw [apply, changed]
    exact .of_frame safe rfl row id
  | tabBackward count =>
    have back := s.tabBackwardFrom_le count s.cursor.col
    exact .of_frame safe rfl row fun inside => Nat.lt_of_le_of_lt back inside
  | backspace =>
    simp only [apply, Screen.backspace]
    split_ifs
    next => exact .of_frame safe rfl row fun inside => by simp only; omega
    next => exact .of_frame safe rfl (by simp only; omega) fun _ => by simp only [cols]; omega
    next => exact .refl safe
  | cursorUp count =>
    refine .of_frame safe rfl ?_ id
    simp only [apply, Screen.cursorUp]
    split
    next inside =>
      have := s.cursorInRegion_iff.mp inside
      omega
    next => omega
  | cursorDown count =>
    refine .of_frame safe rfl ?_ id
    simp only [apply, Screen.cursorDown, rows]
    split <;> omega
  | cursorLeft count => exact .of_frame safe rfl row fun inside => by simp only [apply, Screen.cursorLeft]; omega
  | cursorRight count =>
    exact .of_frame safe rfl row fun inside => by simp only [apply, Screen.cursorRight, cols]; omega
  | setTabStop => exact placed ⟨region, regionFits, safe.margin, safe.marginFits, row, id⟩
  | clearTabStop mode =>
    cases mode <;> exact placed ⟨region, regionFits, safe.margin, safe.marginFits, row, id⟩
  | setAnsiMode mode enable =>
    simp only [apply, Screen.setAnsiMode]
    split <;> exact .of_frame safe rfl row id
  | restoreDecModes =>
    simp only [apply, Screen.restoreDecModes]
    split <;> exact .of_frame safe rfl row id
  | popSgr =>
    simp only [apply, Screen.popSgr]
    split <;> exact .of_frame safe rfl row id
  | _ => exact .of_frame safe rfl row id

namespace Screen

/-! ## Methods that edit the grid -/

theorem wrapped_keeps {s : Screen} (safe : Safe s) : Keeps s s.wrapped := by
  unfold wrapped
  split
  next =>
    split
    next =>
      have first := editLine_keeps safe (.flag false)
      have second := first.trans (carriageReturn_keeps first.safe)
      have third := second.trans (fed_keeps second.safe)
      have fourth := third.trans (editLine_keeps third.safe (.flag true))
      exact fourth.trans (.of_frame fourth.safe rfl fourth.safe.row id)
    next =>
      have some := effectiveRight_pos safe.toFramed
      have fits := effectiveRight_le safe.toFramed
      exact .of_frame safe rfl safe.row fun _ => by simp only; omega
  next => exact .refl safe

theorem wideWrapped_keeps {s : Screen} (safe : Safe s) : Keeps s s.wideWrapped := by
  unfold wideWrapped
  split
  next =>
    have first := padded_keeps safe
    have second := first.trans (carriageReturn_keeps first.safe)
    have third := second.trans (fed_keeps second.safe)
    exact third.trans (editLine_keeps third.safe (.flag true))
  next =>
    refine .of_frame safe rfl safe.row fun _ => ?_
    have some := safe.someCols
    by_cases wide : s.cols ≤ s.effectiveRight - 2
    next => simp only [if_pos wide]; exact some
    next => simp only [if_neg wide]; exact Nat.lt_of_not_le wide

theorem fitted_keeps {s : Screen} (safe : Safe s) (width : Nat) : Keeps s (s.fitted width) := by
  unfold fitted
  split
  next => exact wideWrapped_keeps safe
  next => exact .refl safe

theorem shifted_keeps {s : Screen} (safe : Safe s) (width : Nat) : Keeps s (s.shifted width) := by
  unfold shifted
  split
  next => exact editLine_keeps safe _
  next => exact .refl safe

theorem advanced_keeps {s : Screen} (safe : Safe s) (newCol : Nat) : Keeps s (s.advanced newCol) := by
  have some := effectiveRight_pos safe.toFramed
  have fits := effectiveRight_le safe.toFramed
  unfold advanced
  split
  next => exact .of_frame safe rfl safe.row fun _ => by simp only; omega
  next => exact .of_frame safe rfl safe.row fun _ => by simp only; omega

theorem put_keeps {s : Screen} (safe : Safe s) (c : Char) (width : Nat) : Keeps s (s.put c width) := by
  have printed := editLine_keeps safe (s.printEdit c width)
  have told := printed.trans (tell_keeps printed.safe (s.damageOf s.cursor.row s.cursor.col (s.cursor.col + width)))
  exact told.trans (advanced_keeps told.safe _)

theorem told_edit_keeps {s : Screen} (safe : Safe s) (regions : List DamageRegion) (e : Edit) :
    Keeps s ((s.tell regions).edit e) := (tell_keeps safe _).trans (edit_keeps (safe.tell _) _)

theorem afterEraseDisplay_keeps {s : Screen} (safe : Safe s) (mode : EraseDisplay) (selective : Bool) :
    Keeps s (s.afterEraseDisplay mode selective) := by
  cases mode with
  | below =>
    have first := tell_keeps safe (s.damageOf s.cursor.row s.cursor.col s.cols)
    have second := first.trans (told_edit_keeps first.safe (s.rowsDamage (s.cursor.row + 1) s.rows)
      (.rows s.cursor.row (s.cursor.row + 1) (eraseSpan selective s.cursor.col s.cols)))
    exact second.trans (edit_keeps second.safe _)
  | above =>
    have cleared := told_edit_keeps safe (s.rowsDamage 0 s.cursor.row)
      (.rows 0 s.cursor.row (eraseWhole selective s.cols))
    exact cleared.trans (told_edit_keeps cleared.safe _ _)
  | all => exact told_edit_keeps safe _ _
  | scrollback => exact edit_keeps safe _

theorem afterEraseLine_keeps {s : Screen} (safe : Safe s) (mode : EraseLine) (selective : Bool) :
    Keeps s (s.afterEraseLine mode selective) := by
  cases mode <;> exact told_edit_keeps safe _ _

theorem unwrapped_keeps {s t : Screen} (keeps : Keeps s t) : Keeps s { t with pendingWrap := false } :=
  keeps.trans (.of_frame keeps.safe rfl keeps.safe.row id)

theorem reversed_keeps {s : Screen} (safe : Safe s) : Keeps s s.reversed := by
  unfold reversed
  split
  next => exact unwrapped_keeps (edit_keeps safe _)
  next => exact .of_frame safe rfl (Nat.lt_of_le_of_lt (Nat.sub_le ..) safe.row) id

theorem withLines_keeps {s : Screen} (safe : Safe s) (e : Edit) : Keeps s (s.withLines e) := by
  unfold withLines
  dsimp only
  split
  next =>
    have edited := edit_keeps safe e
    exact edited.trans (.of_frame edited.safe rfl edited.safe.row fun _ => edited.safe.someCols)
  next => exact .of_frame safe rfl safe.row fun _ => safe.someCols

theorem copied_keeps {s : Screen} (safe : Safe s) (srcTop srcLeft srcBottom srcRight dstTop dstLeft : Nat) :
    Keeps s (s.copied srcTop srcLeft srcBottom srcRight dstTop dstLeft) := by
  unfold copied
  split
  next => exact .refl safe
  next => exact edit_keeps safe _

theorem decaln_keeps {s : Screen} (safe : Safe s) : Ensures OnlySlice s.decaln (Keeps s) := by
  rw [decaln_ok safe.toFramed]
  have filled := edit_keeps safe (.rows 0 s.rows (.cells 0 s.cols fun cell =>
    { cell with c := 'E', width := 1, fg := .default, bg := .default, attrs := {} }))
  refine filled.trans (Placed.keeps ⟨safe.someRows, ?_, safe.margin, ?_, ?_, ?_⟩ filled.safe
    ⟨rfl, rfl, rfl, rfl, rfl, rfl⟩)
  next => exact Nat.le_refl _
  next => exact filled.safe.marginFits
  next => exact filled.safe.someRows
  next => exact fun _ => filled.safe.someCols

/-! ## Resizing -/

def resizedTo (s : Screen) (newCols newRows row : Nat) : Screen :=
  { s with
    grid := s.grid.resized newCols newRows
    altGrid := s.altGrid.resized newCols newRows
    scrollTop := (adjustMargins s.scrollTop s.scrollBottom s.rows newRows).1
    scrollBottom := (adjustMargins s.scrollTop s.scrollBottom s.rows newRows).2
    scrollLeft := (adjustMargins s.scrollLeft s.scrollRight s.cols newCols).1
    scrollRight := (adjustMargins s.scrollLeft s.scrollRight s.cols newCols).2
    cursor := { s.cursor with row := min row (newRows - 1), col := min s.cursor.col (newCols - 1) }
    savedCursor := s.savedCursor.map (clampSaved newCols newRows)
    tabStops := resizeTabStops s.tabStops newCols
    pendingWrap := false }

theorem resize_to {s : Screen} {newCols newRows : Nat} {delta : Int} (positive : 0 < newCols)
    (active : s.grid.resizeWithCursor newCols newRows (some (s.cursor.row, s.cursor.col)) =
      .ok (s.grid.resized newCols newRows, delta)) :
    s.resize newCols newRows = .ok (s.resizedTo newCols newRows (s.cursor.row + delta).toNat) := by
  obtain ⟨other, inactive⟩ := s.altGrid.resizeWithCursor_ok newRows positive none
  simp only [resize, Grid.resize]
  rw [active, ok_bind, inactive, ok_bind]
  rfl

theorem resize_ok (s : Screen) {newCols : Nat} (newRows : Nat) (positive : 0 < newCols) :
    ∃ row, s.resize newCols newRows = .ok (s.resizedTo newCols newRows row) := by
  obtain ⟨delta, active⟩ := s.grid.resizeWithCursor_ok newRows positive (some (s.cursor.row, s.cursor.col))
  exact ⟨(s.cursor.row + delta).toNat, resize_to positive active⟩

/-- Margins that a resize makes fit: a range that is not empty, or all of the old rows or columns. -/
def Adjustable (first last old : Nat) : Prop := first = 0 ∧ last = old ∨ first < last

theorem adjustMargins_ordered {first last old new : Nat} (adjustable : Adjustable first last old)
    (positive : 0 < new) :
    (adjustMargins first last old new).1 < (adjustMargins first last old new).2 ∧
      (adjustMargins first last old new).2 ≤ new := by
  unfold adjustMargins
  split
  next => exact ⟨positive, Nat.le_refl new⟩
  next whole =>
    have order := adjustable.resolve_left whole
    have some : min last new ≠ 0 := by omega
    simp only [if_neg some]
    omega

theorem adjustMargins_adjustable {first last old : Nat} (new : Nat) (adjustable : Adjustable first last old) :
    Adjustable (adjustMargins first last old new).1 (adjustMargins first last old new).2 new := by
  rcases Nat.eq_zero_or_pos new with rfl | positive
  next =>
    left
    unfold adjustMargins
    split <;> simp
  next => exact .inr (adjustMargins_ordered adjustable positive).1

theorem length_resizeTabStops (stops : List Bool) (newCols : Nat) :
    (resizeTabStops stops newCols).length = newCols := by
  simp only [resizeTabStops, List.length_append, List.length_take, List.length_map, List.length_range']
  omega

/-- What a resize needs of a screen and leaves to the next resize, at sizes of zero too. -/
structure Resizable (s : Screen) : Prop where
  grid : s.grid.Sized
  altGrid : s.altGrid.Sized
  region : Adjustable s.scrollTop s.scrollBottom s.grid.rows
  margin : Adjustable s.scrollLeft s.scrollRight s.grid.cols

theorem Framed.resizable {s : Screen} (framed : Framed s) : Resizable s :=
  ⟨framed.grid, framed.altGrid, .inr framed.region, .inr framed.margin⟩

theorem Resizable.resizedTo {s : Screen} (resizable : Resizable s) (newCols newRows row : Nat) :
    Resizable (s.resizedTo newCols newRows row) := by
  refine ⟨resizable.grid.resized newCols newRows, resizable.altGrid.resized newCols newRows, ?_, ?_⟩
  all_goals simp only [Screen.resizedTo, Grid.resized_rows, Grid.resized_cols]
  next => exact adjustMargins_adjustable newRows resizable.region
  next => exact adjustMargins_adjustable newCols resizable.margin

theorem Resizable.valid {s : Screen} (resizable : Resizable s) {newCols newRows : Nat} (someCols : 0 < newCols)
    (someRows : 0 < newRows) (row : Nat) : Valid (s.resizedTo newCols newRows row) := by
  have cols := s.grid.resized_cols newCols newRows
  have rows := s.grid.resized_rows newCols newRows
  obtain ⟨region, regionFits⟩ := @adjustMargins_ordered _ _ s.rows _ resizable.region someRows
  obtain ⟨margin, marginFits⟩ := @adjustMargins_ordered _ _ s.cols _ resizable.margin someCols
  refine ⟨⟨⟨resizable.grid.resized newCols newRows, resizable.altGrid.resized newCols newRows, ?_, ?_, ?_, ?_,
    region, ?_, margin, ?_, ?_⟩, ?_⟩, ?_⟩
  all_goals simp only [Screen.resizedTo, cols, rows]
  next => exact Grid.resized_cols ..
  next => exact Grid.resized_rows ..
  next => exact someCols
  next => exact someRows
  next => exact regionFits
  next => exact marginFits
  next => exact length_resizeTabStops ..
  next => omega
  next => omega

/-! ## Buffers -/

def enteredAlt (s : Screen) (saveCursorDecsc : Bool) : Screen :=
  if s.modes.altScreen then s
  else
    let s : Screen := { s with modes := { s.modes with altScreen := true } }
    let s := if saveCursorDecsc then s.saveCursor else s
    ({ s.swapBuffers.edit (.rows 0 s.altGrid.rows .reset) with cursor := {}, pendingWrap := false } :
      Screen).recordFullDamage

theorem enterAltScreen_ok {s : Screen} (framed : Framed s) (save : Bool) :
    s.enterAltScreen save = .ok (s.enteredAlt save) := by
  have cleared := @Screen.clearRows_ok _ framed.altGrid false 0 s.altGrid.rows (Nat.le_refl _)
  unfold enterAltScreen enteredAlt
  split
  next => rfl
  next =>
    dsimp only
    generalize marked : (if save = true then saveCursor { s with modes := { s.modes with altScreen := true } }
      else { s with modes := { s.modes with altScreen := true } }) = t
    have same : t.altGrid = s.altGrid := by
      rw [← marked]
      split <;> rfl
    have wiped : (t.swapBuffers.onGrid fun g => forRange 0 g.rows g Grid.clearRow) =
        .ok (t.swapBuffers.edit (.rows 0 t.altGrid.rows .reset)) := by
      apply onGrid_edit
      simp only [swapBuffers, same]
      exact cleared
    rw [wiped, ok_bind]

theorem swapped_framed {s t : Screen} (framed : Framed s) (grid : t.grid = s.altGrid) (altGrid : t.altGrid = s.grid)
    (region : (t.scrollTop, t.scrollBottom) = (s.scrollTop, s.scrollBottom))
    (margin : (t.scrollLeft, t.scrollRight) = (s.scrollLeft, s.scrollRight))
    (tabs : t.tabStops = s.tabStops) : Framed t := by
  obtain ⟨top, bottom⟩ := Prod.mk.inj region
  obtain ⟨left, right⟩ := Prod.mk.inj margin
  have cols := framed.altCols
  have rows := framed.altRows
  refine ⟨grid ▸ framed.altGrid, altGrid ▸ framed.grid, by rw [grid, altGrid, cols], by rw [grid, altGrid, rows],
    ?_, ?_, by rw [top, bottom]; exact framed.region, ?_, by rw [left, right]; exact framed.margin, ?_, ?_⟩
  next => rw [grid, cols]; exact framed.someCols
  next => rw [grid, rows]; exact framed.someRows
  next => rw [bottom, grid, rows]; exact framed.regionFits
  next => rw [right, grid, cols]; exact framed.marginFits
  next => rw [tabs, grid, cols, framed.tabs]

theorem enteredAlt_keeps {s : Screen} (safe : Safe s) (save : Bool) : Keeps s (s.enteredAlt save) := by
  unfold enteredAlt
  split
  next => exact .refl safe
  next =>
    have cleared (t : Screen) (framed : Framed t) : Valid ({ t.swapBuffers.edit (.rows 0 t.altGrid.rows .reset) with
        cursor := {}, pendingWrap := false } : Screen).recordFullDamage := by
      have swapped : Framed t.swapBuffers := swapped_framed framed rfl rfl rfl rfl rfl
      have edited := swapped.edit (.rows 0 t.altGrid.rows .reset)
      exact ⟨⟨edited.of_frame rfl, edited.someRows⟩, edited.someCols⟩
    have rows (t : Screen) (same : t.altGrid = s.altGrid) :
        (t.swapBuffers.edit (.rows 0 t.altGrid.rows .reset)).grid.rows = s.grid.rows :=
      (Edit.rows_apply _ _).trans (by rw [← safe.altRows, ← same]; rfl)
    have marked : Framed { s with modes := { s.modes with altScreen := true } } := safe.toFramed.of_frame rfl
    cases save with
    | true =>
      have valid := cleared (saveCursor { s with modes := { s.modes with altScreen := true } }) (marked.of_frame rfl)
      exact valid.keeps (rows (saveCursor { s with modes := { s.modes with altScreen := true } }) rfl)
    | false => exact (cleared _ marked).keeps (rows { s with modes := { s.modes with altScreen := true } } rfl)

def exchanged (s : Screen) : Screen :=
  { ({ s with modes := { s.modes with altScreen := false } } : Screen).swapBuffers with pendingWrap := false }

theorem leaveAltScreen_on {s : Screen} (alternate : s.modes.altScreen = true) (restore : Bool) :
    s.leaveAltScreen restore = (if restore then s.exchanged.restoreCursor else s.exchanged).recordFullDamage := by
  rw [leaveAltScreen, if_pos alternate]
  rfl

theorem exchanged_framed {s : Screen} (framed : Framed s) : Framed s.exchanged :=
  swapped_framed framed rfl rfl rfl rfl rfl

theorem leaveAltScreen_safe {s : Screen} (safe : Safe s) (restore : Bool)
    (row : restore = false -> s.modes.altScreen = true -> s.altCursor.row < s.grid.rows) :
    Safe (s.leaveAltScreen restore) := by
  by_cases alternate : s.modes.altScreen = true
  next =>
    have framed := exchanged_framed safe.toFramed
    rw [leaveAltScreen_on alternate]
    cases restore with
    | true =>
      have restored := restoreCursor_valid framed
      exact restored.toSafe.of_frame (recordFullDamage_frame _) restored.row
    | false =>
      refine ⟨framed.of_frame (recordFullDamage_frame _), ?_⟩
      exact Nat.lt_of_lt_of_eq (row rfl alternate) safe.altRows.symm
  next => rwa [leaveAltScreen, if_neg alternate]

theorem leaveAltScreen_col {s : Screen} (safe : Safe s) (restore : Bool) (inside : s.cursor.col < s.grid.cols)
    (col : restore = false -> s.modes.altScreen = true -> s.altCursor.col < s.grid.cols) :
    (s.leaveAltScreen restore).cursor.col < (s.leaveAltScreen restore).grid.cols := by
  by_cases alternate : s.modes.altScreen = true
  next =>
    rw [leaveAltScreen_on alternate]
    cases restore with
    | true => exact (restoreCursor_valid (exchanged_framed safe.toFramed)).col
    | false => exact Nat.lt_of_lt_of_eq (col rfl alternate) safe.altCols.symm
  next => rwa [leaveAltScreen, if_neg alternate]

theorem new_valid {cols rows : Nat} (someCols : 0 < cols) (someRows : 0 < rows) : Valid (new cols rows) :=
  ⟨⟨framed_filled (Grid.sized_new cols rows) someCols someRows {}, someRows⟩, someCols⟩

theorem Told.keeps {s s' : Screen} (told : Told s s') (safe : Safe s) : Keeps s s' := by
  refine Placed.keeps ⟨?_, ?_, ?_, ?_, ?_, ?_⟩ safe told.toQuiet
  next => rw [told.scrollTop, told.scrollBottom]; exact safe.region
  next => rw [told.scrollBottom]; exact safe.regionFits
  next => rw [told.scrollLeft, told.scrollRight]; exact safe.margin
  next => rw [told.scrollRight]; exact safe.marginFits
  next => rw [told.cursor]; exact safe.row
  next => rw [told.cursor]; exact id

def deccolmed (s : Screen) (enable : Bool) (row : Nat) : Screen :=
  { ((s.resizedTo (deccolmCols enable) s.rows row).afterEraseDisplay .all false).moveTo 0 0 with
    scrollTop := 0
    scrollBottom := s.rows }

theorem deccolmCols_pos (enable : Bool) : 0 < deccolmCols enable := by
  unfold deccolmCols
  split <;> omega

theorem deccolm_ok {s : Screen} (framed : Framed s) {enable : Bool} (allowed : s.modes.allowDeccolm = true) :
    ∃ row, s.deccolm enable = .ok (s.deccolmed enable row) := by
  obtain ⟨row, changed⟩ := s.resize_ok s.rows (deccolmCols_pos enable)
  have valid := framed.resizable.valid (deccolmCols_pos enable) framed.someRows row
  have erased := eraseDisplay_ok valid.toSafe .all false
  refine ⟨row, ?_⟩
  rw [deccolm, onlyIf_true _ _ allowed]
  exact (bind_ok_iff _ _ _).mpr ⟨_, changed, (bind_ok_iff _ _ _).mpr ⟨_, erased, rfl⟩⟩

theorem deccolmed_valid {s : Screen} (framed : Framed s) (enable : Bool) (row : Nat) :
    Valid (s.deccolmed enable row) := by
  have valid := framed.resizable.valid (deccolmCols_pos enable) framed.someRows row
  have erased := (afterEraseDisplay_keeps valid.toSafe .all false).valid valid
  have rows : ((s.resizedTo (deccolmCols enable) s.grid.rows row).afterEraseDisplay .all false).grid.rows = s.grid.rows :=
    Grid.resized_rows ..
  have placed : Keeps _ (s.deccolmed enable row) :=
    Placed.keeps ⟨framed.someRows, Nat.le_of_eq rows.symm, erased.margin, erased.marginFits, erased.someRows,
      fun _ => erased.someCols⟩ erased.toSafe ⟨rfl, rfl, rfl, rfl, rfl, rfl⟩
  exact placed.valid erased

end Screen

/-- The operations that take the cursor's place from elsewhere than the screen. -/
def Op.jumps : Op -> Bool
  | .leaveAltScreen _ | .resize .. => true
  | _ => false

theorem Op.keeps (op : Op) {s : Screen} (safe : Safe s) (stays : op.jumps = false) :
    Ensures OnlySlice (op.exec s) (Keeps s) := by
  have framed := safe.toFramed
  have ends {x : Fallible Screen} {t : Screen} (result : x = .ok t) (keeps : Keeps s t) :
      Ensures OnlySlice x (Keeps s) := by rw [result]; exact keeps
  cases op with
  | leaveAltScreen | resize => cases stays
  | update u => exact u.keeps safe
  | osc parts => exact (handleOsc_told s parts).weaken fun _ told => told.keeps safe
  | wrapPending => exact ends (wrapPending_ok safe) (wrapped_keeps safe)
  | fitWide width => exact ends (fitWide_ok safe width) (fitted_keeps safe width)
  | shiftForInsert width => exact ends (shiftForInsert_ok safe width) (shifted_keeps safe width)
  | putChar c width => exact ends (putChar_ok safe c width) (put_keeps safe c width)
  | linefeed => exact ends (linefeed_ok safe.toFramed) (fed_keeps safe)
  | reverseIndex => exact ends (reverseIndex_ok safe.toFramed) (reversed_keeps safe)
  | eraseDisplay mode selective =>
    exact ends (eraseDisplay_ok safe mode selective) (afterEraseDisplay_keeps safe mode selective)
  | eraseLine mode selective => exact ends (eraseLine_ok safe mode selective) (afterEraseLine_keeps safe mode selective)
  | eraseChars count => exact ends (eraseChars_ok safe count) (unwrapped_keeps (told_edit_keeps safe _ _))
  | insertLines count => exact ends (insertLines_ok framed count) (withLines_keeps safe _)
  | deleteLines count => exact ends (deleteLines_ok framed count) (withLines_keeps safe _)
  | insertChars count => exact ends (insertChars_ok safe count) (unwrapped_keeps (told_edit_keeps safe _ _))
  | deleteChars count => exact ends (deleteChars_ok safe count) (unwrapped_keeps (told_edit_keeps safe _ _))
  | scrollUp count => exact ends (Screen.scrollUp_ok framed count) (told_edit_keeps safe _ _)
  | scrollDown count => exact ends (Screen.scrollDown_ok framed count) (told_edit_keeps safe _ _)
  | fillRect ch top left bottom right =>
    exact ends (eachCell_edit framed _ _ _ (Nat.min_le_right ..) (Nat.min_le_right ..)) (edit_keeps safe _)
  | copyRect srcTop srcLeft srcBottom srcRight dstTop dstLeft =>
    exact ends (copyRect_ok framed ..) (copied_keeps safe ..)
  | selectiveEraseRect top left bottom right =>
    exact ends (eachCell_edit framed _ _ _ (Nat.min_le_right ..) (Nat.min_le_right ..)) (edit_keeps safe _)
  | decaln => exact decaln_keeps safe
  | enterAltScreen save => exact ends (enterAltScreen_ok framed save) (enteredAlt_keeps safe save)
  | reset => exact (new_valid framed.someCols framed.someRows).keeps rfl
  | deccolm enable =>
    by_cases allowed : s.modes.allowDeccolm = true
    next =>
      obtain ⟨row, result⟩ := @deccolm_ok s framed enable allowed
      exact ends result ((deccolmed_valid framed enable row).keeps (Grid.resized_rows ..))
    next =>
      rw [exec, Screen.deccolm, onlyIf_false _ _ allowed]
      exact Keeps.refl safe

/-- Where the cursor returns to when the alternate screen is left without restoring it there is a
cell. Every other operation stays on the screen by itself. -/
def Op.returnsInside (op : Op) (s : Screen) : Bool :=
  match op with
  | .leaveAltScreen restore =>
    restore || !s.modes.altScreen || (decide (s.altCursor.row < s.rows) && decide (s.altCursor.col < s.cols))
  | _ => true

def Op.Positive : Op -> Prop
  | .resize cols rows => 0 < cols ∧ 0 < rows
  | _ => True

theorem Op.valid (op : Op) {s : Screen} (returns : op.returnsInside s = true) (positive : op.Positive)
    (valid : Valid s) : Ensures OnlySlice (op.exec s) Valid := by
  have others (stays : op.jumps = false) : Ensures OnlySlice (op.exec s) Valid :=
    (op.keeps valid.toSafe stays).weaken fun _ keeps => keeps.valid valid
  cases op with
  | leaveAltScreen restore =>
    have place (off : restore = false) (on : s.modes.altScreen = true) :
        s.altCursor.row < s.rows ∧ s.altCursor.col < s.cols := by
      simpa [returnsInside, off, on] using returns
    exact ⟨leaveAltScreen_safe valid.toSafe restore fun off on => (place off on).1,
      leaveAltScreen_col valid.toSafe restore valid.col fun off on => (place off on).2⟩
  | resize cols rows =>
    obtain ⟨row, result⟩ := s.resize_ok rows positive.1
    rw [exec, result]
    exact valid.toFramed.resizable.valid positive.1 positive.2 row
  | _ => exact others rfl

namespace Terminal

theorem positive_ops {events : List Event} {t : Terminal}
    (sizes : ∀ cols rows : Nat, .resize cols rows ∈ events -> 0 < cols ∧ 0 < rows) :
    ∀ op ∈ ops events t, op.Positive := by
  intro op member
  cases op with
  | resize cols rows => exact sizes cols rows (resize_of_mem_ops member)
  | _ => trivial

/-- From a new terminal on, every state reached is valid, as long as the alternate screen is left
only to a cursor on the screen; the one panic left is that of a colour text cut inside a character. -/
theorem reachable_valid (cols rows : Nat) (events : List Event) (someCols : 0 < cols) (someRows : 0 < rows)
    (sizes : ∀ cols rows : Nat, .resize cols rows ∈ events -> 0 < cols ∧ 0 < rows)
    (returns : EveryOp (fun op s => op.returnsInside s = true) events (new cols rows)) :
    Ensures OnlySlice (run handle events (new cols rows)) fun t => Valid t.screen :=
  ensures_ops (fun op _ ok valid => op.valid ok.1 ok.2 valid) (returns.with_members (positive_ops sizes))
    (new_valid someCols someRows)

def leaveGrown : List Event :=
  [.bytes ([0x0A, 0x1B] ++ ascii ['[', '?', '4', '7', 'h']), .resize 2 1, .resize 3 3,
    .bytes (0x1B :: ascii ['[', '?', '4', '7', 'l'])]

theorem reachable_valid_grown : Ensures OnlySlice (run handle leaveGrown (new 2 2)) fun t => Valid t.screen :=
  reachable_valid 2 2 leaveGrown (by decide) (by decide) (by simp [leaveGrown]; omega) (by
    unfold EveryOp leaveGrown
    simp only [ops, calls, Event.calls, handle_eq, Parser.advance_eq_advanceBytes]
    decide)

def leaveShrunk : List Event :=
  [.bytes ([0x0A, 0x1B] ++ ascii ['[', '?', '4', '7', 'h']), .resize 2 1,
    .bytes (0x1B :: ascii ['[', '?', '4', '7', 'l'])]

/-- The cursor is in row 1 of 1, and erasing its line is an access out of bounds. -/
theorem leave_shrunk_out_of_bounds :
    (run handle leaveShrunk (new 2 2)).map (fun t => (t.screen.cursor.row, t.screen.rows)) = .ok (1, 1) ∧
      (run handle (leaveShrunk ++ [.bytes (0x1B :: ascii ['[', '2', 'K'])]) (new 2 2)).map
        (fun t => t.screen.rows) = .error .index := by
  rw [handle_eq]
  exact ⟨rfl, rfl⟩

end Terminal

end Emux
