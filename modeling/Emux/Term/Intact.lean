import Emux.Term.Margins
import Emux.Term.Seams

set_option autoImplicit false

/-!
# Screens of whole characters

What each method must not cut, so that no half of a wide character is left alone. The cursor need not be in
a row: an access below the last row is one to the last.
-/

namespace Emux

open Checked Grid

namespace Screen

def Whole (s : Screen) : Prop := s.grid.Whole ∧ s.altGrid.Whole

instance (s : Screen) : Decidable s.Whole := by unfold Whole; infer_instance

structure Intact (s : Screen) : Prop extends Framed s where
  whole : s.Whole

def cursorLine (s : Screen) : Nat := min s.cursor.row (s.grid.rows - 1)

/-! ## What must not be cut -/

/-- A line feed scrolls no columns, or columns that are cut alike. -/
def FeedUncut (s : Screen) : Prop :=
  s.cursor.row + 1 = s.scrollBottom -> (s.hasLrMargins && s.cursorInLrMargins) = true ->
    s.grid.SeamsUp s.scrollTop s.scrollBottom s.scrollLeft s.scrollRight 1

def ReverseUncut (s : Screen) : Prop :=
  s.cursor.row = s.scrollTop -> (s.hasLrMargins && s.cursorInLrMargins) = true ->
    s.grid.SeamsDown s.scrollTop s.scrollBottom s.scrollLeft s.scrollRight 1

def CursorWhole (s : Screen) : Prop :=
  s.grid.leadsAt s.cursorLine s.cursor.col = false ∧ s.grid.trailsAt s.cursorLine s.cursor.col = false

/-- Inserting at the cursor cuts no wide character there, and what it pushes off ends where the margin cuts the row. -/
def InsertUncut (s : Screen) (count : Nat) : Prop :=
  0 < count -> s.cursor.col < s.effectiveRight ->
    s.grid.trailsAt s.cursor.row s.cursor.col = false ∧
      s.grid.trailsAt s.cursor.row (s.effectiveRight - min count (s.effectiveRight - s.cursor.col)) =
        s.grid.trailsAt s.cursor.row s.effectiveRight

def DeleteUncut (s : Screen) (count : Nat) : Prop :=
  0 < count -> s.cursor.col < s.effectiveRight ->
    s.grid.trailsAt s.cursor.row s.cursor.col =
        s.grid.trailsAt s.cursor.row (s.cursor.col + min count (s.effectiveRight - s.cursor.col)) ∧
      s.grid.trailsAt s.cursor.row s.effectiveRight = false

/-- Selective erasing erases both halves of a wide character or neither. -/
def DisplayEven (s : Screen) : EraseDisplay -> Prop
  | .below =>
    s.grid.EvenHalves resetUnprotected s.cursor.row (s.cursor.row + 1) s.cursor.col s.cols ∧
      s.grid.EvenHalves resetUnprotected (s.cursor.row + 1) s.rows 0 s.cols
  | .above =>
    s.grid.EvenHalves resetUnprotected 0 s.cursor.row 0 s.cols ∧
      s.grid.EvenHalves resetUnprotected s.cursor.row (s.cursor.row + 1) 0 (min (s.cursor.col + 1) s.cols)
  | .all => s.grid.EvenHalves resetUnprotected 0 s.rows 0 s.cols
  | .scrollback => True

def LineEven (s : Screen) : EraseLine -> Prop
  | .toRight => s.grid.EvenHalves resetUnprotected s.cursor.row (s.cursor.row + 1) s.cursor.col s.cols
  | .toLeft => s.grid.EvenHalves resetUnprotected s.cursor.row (s.cursor.row + 1) 0 (min (s.cursor.col + 1) s.cols)
  | .all => s.grid.EvenHalves resetUnprotected s.cursorLine (s.cursorLine + 1) 0 s.cols

/-- Erasing no characters at all still cuts a wide character before the cursor. -/
def EraseUncut (s : Screen) (count : Nat) : Prop := count = 0 -> s.grid.trailsAt s.cursor.row s.cursor.col = false

def fillCell (s : Screen) (ch : Char) (cell : Cell) : Cell :=
  { cell with c := ch, width := 1, fg := s.fg, bg := s.bg, attrs := s.pen }

/-- The change of a rectangle makes both halves of a wide character narrow or neither. -/
def RectEven (s : Screen) (f : Cell -> Cell) (top left bottom right : Nat) : Prop :=
  s.grid.EvenHalves f (firstIndex top s.rows) (min bottom s.rows) (firstIndex left s.cols) (min right s.cols)

def CopyUncut (s : Screen) (srcTop srcLeft srcBottom srcRight dstTop dstLeft : Nat) : Prop :=
  firstIndex srcTop s.rows < min srcBottom s.rows -> firstIndex srcLeft s.cols < min srcRight s.cols ->
    s.grid.SeamsCopy (firstIndex srcTop s.rows) (firstIndex srcLeft s.cols) (firstIndex dstTop s.rows)
      (firstIndex dstLeft s.cols) (min srcBottom s.rows - firstIndex srcTop s.rows)
      (min srcRight s.cols - firstIndex srcLeft s.cols)

instance (s : Screen) : Decidable s.FeedUncut := by unfold FeedUncut; infer_instance

instance (s : Screen) : Decidable s.ReverseUncut := by unfold ReverseUncut; infer_instance

instance (s : Screen) : Decidable s.CursorWhole := by unfold CursorWhole; infer_instance

instance (s : Screen) (count : Nat) : Decidable (s.InsertUncut count) := by unfold InsertUncut; infer_instance

instance (s : Screen) (count : Nat) : Decidable (s.DeleteUncut count) := by unfold DeleteUncut; infer_instance

instance (s : Screen) (mode : EraseDisplay) : Decidable (s.DisplayEven mode) := by
  cases mode <;> unfold DisplayEven <;> infer_instance

instance (s : Screen) (mode : EraseLine) : Decidable (s.LineEven mode) := by
  cases mode <;> unfold LineEven <;> infer_instance

instance (s : Screen) (count : Nat) : Decidable (s.EraseUncut count) := by unfold EraseUncut; infer_instance

instance (s : Screen) (f : Cell -> Cell) (top left bottom right : Nat) : Decidable (s.RectEven f top left bottom right) := by
  unfold RectEven; infer_instance

instance (s : Screen) (srcTop srcLeft srcBottom srcRight dstTop dstLeft : Nat) :
    Decidable (s.CopyUncut srcTop srcLeft srcBottom srcRight dstTop dstLeft) := by
  unfold CopyUncut; infer_instance

/-! ## Edits -/

section

variable {s : Screen} (intact : Intact s)
include intact

theorem Intact.of_frame {s' : Screen} (same : s'.frame = s.frame) : Intact s' := by
  refine ⟨intact.toFramed.of_frame same, ?_⟩
  simp only [frame, Prod.mk.injEq] at same
  rw [Whole, same.1, same.2.1]
  exact intact.whole

theorem Intact.edit {e : Edit} (uncut : e.Uncut s.grid) : Intact (s.edit e) :=
  ⟨intact.toFramed.edit e, whole_apply intact.grid intact.whole.1 uncut, intact.whole.2⟩

theorem Intact.tell (regions : List DamageRegion) : Intact (s.tell regions) := intact.of_frame rfl

theorem Intact.told_edit {e : Edit} (uncut : e.Uncut s.grid) (regions : List DamageRegion) :
    Intact ((s.tell regions).edit e) := (intact.tell regions).edit uncut

theorem Intact.line_edit {e : RowEdit}
    (uncut : ∀ row : Row, s.grid.lines[s.cursorLine]? = some row -> e.Uncut row.cells) :
    Intact (s.edit (.rows s.cursorLine (s.cursorLine + 1) e)) := by
  refine intact.edit fun r row low high found => ?_
  obtain rfl : r = s.cursorLine := by omega
  exact uncut row found

theorem Intact.carriageReturn : Intact s.carriageReturn := intact.of_frame s.carriageReturn_still.1

end

theorem intact_ok {s : Screen} {x : Fallible Screen} (result : x = .ok s) (intact : Intact s) :
    Ensures AnyPanic x Intact := by rw [result]; exact intact

theorem intact_missing {s : Screen} {x : Fallible Screen} (intact : Intact s)
    (kept : Ensures AnyPanic x fun s' => s'.frame = s.frame) : Ensures AnyPanic x Intact :=
  kept.weaken fun _ same => intact.of_frame same

/-! ## Line feeds and wraps -/

theorem scrollUp_uncut {s : Screen} (framed : Framed s) {bounded : Bool} {count : Nat}
    (seams : bounded = true -> s.grid.SeamsUp s.scrollTop s.scrollBottom s.scrollLeft s.scrollRight count) :
    (s.scrollUpEdit bounded count).Uncut s.grid := by
  cases bounded with
  | true => exact ⟨framed.regionFits, framed.marginFits, seams rfl⟩
  | false => exact trivial

theorem scrollDown_uncut {s : Screen} (framed : Framed s) {bounded : Bool} {count : Nat}
    (seams : bounded = true -> s.grid.SeamsDown s.scrollTop s.scrollBottom s.scrollLeft s.scrollRight count) :
    (s.scrollDownEdit bounded count).Uncut s.grid := by
  cases bounded with
  | true => exact ⟨framed.regionFits, framed.marginFits, seams rfl⟩
  | false => exact trivial

theorem nextLine_intact {s : Screen} (intact : Intact s) (uncut : s.FeedUncut) : Intact s.nextLine := by
  unfold nextLine
  split
  next due => exact intact.told_edit (scrollUp_uncut intact.toFramed (uncut due)) _
  next =>
    split
    next => exact intact.of_frame rfl
    next => exact intact

theorem fed_intact {s : Screen} (intact : Intact s) (uncut : s.FeedUncut) : Intact s.fed := by
  have moved := nextLine_intact (@Intact.of_frame s intact { s with pendingWrap := false } rfl) uncut
  unfold fed
  dsimp only
  split
  next => exact moved.of_frame rfl
  next => exact moved

theorem reversed_intact {s : Screen} (intact : Intact s) (uncut : s.ReverseUncut) : Intact s.reversed := by
  unfold reversed
  split
  next due => exact (intact.edit (scrollDown_uncut intact.toFramed (uncut due))).of_frame rfl
  next => exact intact.of_frame rfl

theorem broken_intact {s : Screen} (intact : Intact s) (uncut : s.carriageReturn.FeedUncut) :
    Ensures AnyPanic (s.carriageReturn.linefeed >>= fun t => t.setContinuation true) Intact := by
  have returned := intact.carriageReturn
  have fed := fed_intact returned uncut
  rw [linefeed_ok returned.toFramed, ok_bind, setContinuation_at fed.toFramed rfl]
  exact fed.line_edit fun _ _ => trivial

theorem feedUncut_edited {s : Screen} {top bottom : Nat} {e : RowEdit}
    (same : ∀ (r : Nat) (row : Row), top ≤ r -> r < bottom -> s.grid.lines[r]? = some row ->
      ∀ c, trails (e.onCells row.cells) c = trails row.cells c)
    (uncut : s.carriageReturn.FeedUncut) : (s.edit (.rows top bottom e)).carriageReturn.FeedUncut := by
  have moved : (s.edit (.rows top bottom e)).carriageReturn = s.carriageReturn.edit (.rows top bottom e) := by
    unfold Screen.carriageReturn
    by_cases inside : (s.hasLrMargins && decide (s.scrollLeft ≤ s.cursor.col)) = true
    next =>
      rw [if_pos inside]
      exact if_pos inside
    next =>
      rw [if_neg inside]
      exact if_neg inside
  have grid : s.carriageReturn.grid = s.grid := congrArg Prod.fst s.carriageReturn_still.1
  rw [moved]
  intro due bounded r low high c edge
  have seam := uncut due bounded r low high c edge
  simp only [edit_grid, grid, trailsAt_rows same] at seam ⊢
  exact seam

theorem wrapPending_intact {s : Screen} (intact : Intact s)
    (uncut : s.pendingWrap = true -> s.modes.autowrap = true -> s.carriageReturn.FeedUncut) :
    Ensures AnyPanic s.wrapPending Intact := by
  unfold wrapPending
  split
  next pending =>
    split
    next wraps =>
      rw [setContinuation_at intact.toFramed rfl, ok_bind]
      have flagged := @Intact.line_edit s intact (.flag false) fun _ _ => trivial
      have broken := broken_intact flagged (feedUncut_edited (fun _ _ _ _ _ _ => rfl) (uncut pending wraps))
      rw [← bind_assoc]
      exact broken.bind fun t intact => intact.of_frame rfl
    next => rw [sub_ok (effectiveRight_pos intact.toFramed), ok_bind]; exact ensures_ok (intact.of_frame rfl)
  next => exact intact

theorem narrows_padded {cells : List Cell} {col : Nat} (trail : trails cells col = false) (lead : leads cells col = false)
    {i : Nat} (half : leads cells i = true ∨ trails cells i = true) : narrows padCell cells col (col + 1) i = false := by
  have apart : ¬ (col ≤ i ∧ i < col + 1) := by
    intro here
    obtain rfl : i = col := by omega
    simp [trail, lead] at half
  rw [narrows, decide_eq_false apart, Bool.false_and]

theorem fitWide_intact {s : Screen} (intact : Intact s) (width : Nat)
    (uncut : width = 2 -> s.effectiveRight - 1 ≤ s.cursor.col -> s.modes.autowrap = true ->
      s.CursorWhole ∧ s.carriageReturn.FeedUncut) : Ensures AnyPanic (s.fitWide width) Intact := by
  unfold fitWide
  split
  next wide =>
    rw [sub_ok (effectiveRight_pos intact.toFramed), ok_bind]
    refine .ite (fun last => ?_) fun _ => intact
    unfold wrapWide
    split
    next wraps =>
      obtain ⟨⟨lead, trail⟩, feed⟩ := uncut wide last wraps
      rw [padCursor_at intact.toFramed rfl, ok_bind]
      split
      next =>
        have keeps (cell : Cell) : (padCell cell).width = cell.width ∨ (padCell cell).width = 1 := .inr rfl
        have whole (r : Nat) (row : Row) (here : r = s.cursorLine) (found : s.grid.lines[r]? = some row) (i : Nat)
            (half : leads row.cells i = true ∨ trails row.cells i = true) :
            narrows padCell row.cells s.cursor.col (s.cursor.col + 1) i = false := by
          subst here
          rw [leadsAt_eq found] at lead
          rw [trailsAt_eq found] at trail
          exact narrows_padded trail lead half
        have padded := @Intact.line_edit s intact (.cells s.cursor.col (s.cursor.col + 1) padCell) fun row found =>
          ⟨keeps, fun i here => by
            have second := (intact.whole.1.row found).second i
            rw [whole _ row rfl found i (.inl here), whole _ row rfl found (i + 1) (.inr (second.trans here))]⟩
        refine broken_intact padded (feedUncut_edited (fun r row low high found c => ?_) feed)
        rw [RowEdit.onCells, trails_changed keeps]
        cases half : trails row.cells c with
        | false => rw [Bool.and_false]
        | true => rw [whole r row (by simp only [cursorLine]; omega) found c (.inr half)]; rfl
      next => exact broken_intact intact feed
    next => exact intact.of_frame rfl
  next => exact intact

/-! ## Characters -/

theorem cursorRow_margin {s : Screen} (framed : Framed s) {row : Row} (found : s.grid.lines[s.cursor.row]? = some row) :
    min s.effectiveRight s.grid.cols = s.effectiveRight ∧ s.effectiveRight ≤ row.cells.length ∧
      ∀ c, s.grid.trailsAt s.cursor.row c = trails row.cells c := by
  have within := effectiveRight_le framed
  exact ⟨Nat.min_eq_left within, by rwa [framed.grid.cells_at found], fun c => trailsAt_eq found c⟩

theorem insert_uncut {s : Screen} (framed : Framed s) {count : Nat} (uncut : s.InsertUncut count) {row : Row}
    (found : s.grid.lines[s.cursor.row]? = some row) :
    (RowEdit.insert s.cursor.col (min s.effectiveRight s.grid.cols) count).Uncut row.cells := by
  obtain ⟨margin, inside, same⟩ := cursorRow_margin framed found
  rw [margin]
  exact ⟨inside, by simpa only [InsertUncut, same] using uncut⟩

theorem delete_uncut {s : Screen} (framed : Framed s) {count : Nat} (uncut : s.DeleteUncut count) {row : Row}
    (found : s.grid.lines[s.cursor.row]? = some row) :
    (RowEdit.delete s.cursor.col (min s.effectiveRight s.grid.cols) count).Uncut row.cells := by
  obtain ⟨margin, inside, same⟩ := cursorRow_margin framed found
  rw [margin]
  exact ⟨inside, by simpa only [DeleteUncut, same] using uncut⟩

theorem editLine_intact {s : Screen} (intact : Intact s) {e : RowEdit}
    (uncut : ∀ row : Row, s.grid.lines[s.cursor.row]? = some row -> e.Uncut row.cells) : Intact (s.editLine e) := by
  refine intact.edit fun r row low high found => ?_
  obtain rfl : r = s.cursor.row := by omega
  exact uncut row found

theorem withChars_intact {s : Screen} (intact : Intact s) {e : RowEdit}
    (uncut : ∀ row : Row, s.grid.lines[s.cursor.row]? = some row -> e.Uncut row.cells) : Intact (s.withChars e) :=
  (editLine_intact (intact.tell _) uncut).of_frame rfl

theorem shiftForInsert_intact {s : Screen} (intact : Intact s) (width : Nat)
    (uncut : s.modes.insert = true -> s.InsertUncut width) : Ensures AnyPanic (s.shiftForInsert width) Intact := by
  by_cases inside : s.cursor.row < s.grid.rows
  next =>
    rw [shiftForInsert_ok ⟨intact.toFramed, inside⟩, shifted]
    split
    next inserts => exact ensures_ok (editLine_intact intact fun row found => insert_uncut intact.toFramed (uncut inserts) found)
    next => exact ensures_ok intact
  next =>
    unfold shiftForInsert
    split
    next =>
      have missing := insertCells_missing (g := s.grid) (r := s.cursor.row)
        (by rw [intact.grid.lines]; omega) s.cursor.col width s.effectiveRight
      exact (onGrid_kept missing).weaken fun _ same => same ▸ intact
    next => exact intact

theorem insertChars_intact {s : Screen} (intact : Intact s) (count : Nat) (uncut : s.InsertUncut count) :
    Ensures AnyPanic (s.insertChars count) Intact := by
  by_cases inside : s.cursor.row < s.grid.rows
  next =>
    refine intact_ok (insertChars_ok ⟨intact.toFramed, inside⟩ count) ?_
    exact withChars_intact intact fun row found => insert_uncut intact.toFramed uncut found
  next => exact intact_missing intact (insertChars_missing (by rw [intact.grid.lines]; omega) count)

theorem deleteChars_intact {s : Screen} (intact : Intact s) (count : Nat) (uncut : s.DeleteUncut count) :
    Ensures AnyPanic (s.deleteChars count) Intact := by
  by_cases inside : s.cursor.row < s.grid.rows
  next =>
    refine intact_ok (deleteChars_ok ⟨intact.toFramed, inside⟩ count) ?_
    exact withChars_intact intact fun row found => delete_uncut intact.toFramed uncut found
  next => exact intact_missing intact (deleteChars_missing (by rw [intact.grid.lines]; omega) count)

theorem putChar_intact {s : Screen} (intact : Intact s) (c : Char) {width : Nat} (visible : width ≠ 0)
    (room : width = 2 -> s.cursor.col + 1 < s.cols ∨ s.cols ≤ s.cursor.col) :
    Ensures AnyPanic (s.putChar c width) Intact := by
  refine intact_ok (putChar_at intact.toFramed rfl c width) ?_
  have printed := @Intact.line_edit s intact (s.printEdit c width) fun row found =>
    ⟨rfl, rfl, visible, fun wide => by rw [intact.grid.cells_at found]; exact room wide⟩
  have told := printed.tell (s.damageOf s.cursor.row s.cursor.col (s.cursor.col + width))
  unfold advanced
  split <;> exact told.of_frame rfl

/-! ## Erasing and rectangles -/

theorem resetUnprotected_width (cell : Cell) :
    (resetUnprotected cell).width = cell.width ∨ (resetUnprotected cell).width = 1 := by
  unfold resetUnprotected
  split
  next => exact .inl rfl
  next => exact .inr rfl

theorem cells_uncut {g : Grid} {f : Cell -> Cell} {top bottom left right : Nat} (sized : g.Sized)
    (keeps : ∀ cell, (f cell).width = cell.width ∨ (f cell).width = 1) (even : g.EvenHalves f top bottom left right) :
    (Edit.rows top bottom (.cells left right f)).Uncut g := by
  intro r row low high found
  refine ⟨keeps, fun c lead => ?_⟩
  have inside : c < g.cols := by
    by_contra beyond
    rw [leads_beyond (by rw [sized.cells_at found]; omega)] at lead
    cases lead
  have alike := even r high low c inside (by rw [leadsAt_eq found, lead])
  rwa [narrowsAt_eq found, narrowsAt_eq found] at alike

theorem eraseSpan_uncut {g : Grid} {top bottom left stop : Nat} {selective : Bool} (sized : g.Sized)
    (plain : left < stop ∨ g.cols ≤ left)
    (even : selective = true -> g.EvenHalves resetUnprotected top bottom left stop) :
    (Edit.rows top bottom (eraseSpan selective left stop)).Uncut g := by
  cases selective with
  | true => exact cells_uncut sized resetUnprotected_width (even rfl)
  | false =>
    intro r row low high found
    exact plain.imp_right fun beyond => trails_beyond (by rw [sized.cells_at found]; exact beyond)

theorem eraseWhole_uncut {g : Grid} {top bottom : Nat} {selective : Bool} (sized : g.Sized)
    (even : selective = true -> g.EvenHalves resetUnprotected top bottom 0 g.cols) :
    (Edit.rows top bottom (eraseWhole selective g.cols)).Uncut g := by
  cases selective with
  | true => exact cells_uncut sized resetUnprotected_width (even rfl)
  | false => exact fun _ _ _ _ _ => trivial

theorem uncut_apart {g : Grid} {a b c d : Nat} {e f : RowEdit} (apart : b ≤ c ∨ d ≤ a)
    (uncut : (Edit.rows c d f).Uncut g) : (Edit.rows c d f).Uncut ((Edit.rows a b e).apply g) := by
  intro r row low high found
  refine uncut r row low high ?_
  simp only [Edit.apply, getElem?_mapRange] at found
  rwa [if_neg (by omega)] at found

theorem eraseRow_intact {s : Screen} (intact : Intact s) {selective : Bool} {place r : Nat}
    (clamped : min place (s.grid.rows - 1) = r)
    (even : selective = true -> s.grid.EvenHalves resetUnprotected r (r + 1) 0 s.cols) :
    Ensures AnyPanic (eraseRow selective s place) fun s' => Intact s' ∧ s'.grid.rows = s.grid.rows ∧
      (selective = true -> s'.grid = (Edit.rows r (r + 1) (.cells 0 s.cols resetUnprotected)).apply s.grid) := by
  have some := intact.someRows
  have inside : r < s.grid.rows := by omega
  cases selective with
  | true =>
    obtain ⟨row, found⟩ := intact.grid.row_at inside
    have erased := @onGrid_edit (s.tell (s.damageOf place 0 s.cols)) (fun g => clearRowImpl g place true)
      (.rows r (r + 1) (.cells 0 s.cols resetUnprotected)) (by
        have cleared := @eachCellRow_ok s.grid place r 0 s.grid.cols row resetUnprotected clamped found
          (intact.grid.cells_at found) (Nat.le_refl _)
        rw [set_eq_mapRange _ found] at cleared
        exact cleared)
    rw [eraseRow, recordDamage_eq, erased]
    exact ensures_ok ⟨intact.told_edit (cells_uncut intact.grid resetUnprotected_width (even rfl)) _, rfl, fun _ => rfl⟩
  | false =>
    by_cases here : place < s.grid.rows
    next =>
      rw [eraseRow_ok intact.grid false here]
      have plain {p : Prop} : false = true -> p := fun selects => absurd selects Bool.false_ne_true
      have erased := intact.told_edit (@eraseWhole_uncut s.grid place (place + 1) false intact.grid plain)
      exact ensures_ok ⟨erased _, rfl, plain⟩
    next =>
      rw [eraseRow_below (by rw [intact.grid.lines]; omega)]
      trivial

theorem clearRegionImpl_missing {g : Grid} {r left right : Nat} {selective : Bool} (some : 0 < g.rows) (missing : g.rows ≤ r) :
    clearRegionImpl g r left r right selective = .ok g := by
  have empty : min r (g.rows - 1) + 1 ≤ r := by omega
  cases selective with
  | true => exact forRange_empty _ _ empty
  | false => exact forRange_empty _ _ empty

theorem clearRegion_unchanged {s : Screen} (intact : Intact s) {row : Nat} (missing : s.grid.rows ≤ row)
    (regions : List DamageRegion) (left right : Nat) (selective : Bool) :
    ((s.tell regions).onGrid fun g => clearRegionImpl g row left row right selective) = .ok (s.tell regions) := by
  have kept : (s.tell regions).grid = s.grid := rfl
  rw [onGrid, kept, clearRegionImpl_missing intact.someRows missing]
  rfl

theorem eraseLine_intact {s : Screen} (intact : Intact s) (mode : EraseLine) {selective : Bool}
    (even : selective = true -> s.LineEven mode) : Ensures AnyPanic (s.eraseLine mode selective) Intact := by
  have some := intact.someCols
  by_cases inside : s.cursor.row < s.grid.rows
  next =>
    refine intact_ok (eraseLine_ok ⟨intact.toFramed, inside⟩ mode selective) ?_
    cases mode with
    | toRight => exact intact.told_edit (eraseSpan_uncut intact.grid (Nat.lt_or_ge s.cursor.col s.cols) even) _
    | toLeft => exact intact.told_edit (eraseSpan_uncut intact.grid (.inl (by simp only [cols]; omega)) even) _
    | all =>
      have same : s.cursorLine = s.cursor.row := inside_clamped inside
      refine intact.told_edit (eraseWhole_uncut intact.grid fun selects => ?_) _
      have even := even selects
      rwa [LineEven, same] at even
  next =>
    have missing := Nat.le_of_not_lt inside
    cases mode with
    | toRight =>
      simp only [eraseLine, recordDamage_eq]
      exact intact_ok (clearRegion_unchanged intact missing ..) (intact.tell _)
    | toLeft =>
      simp only [eraseLine, recordDamage_eq]
      exact intact_ok (clearRegion_unchanged intact missing ..) (intact.tell _)
    | all => exact (eraseRow_intact intact rfl even).weaken fun _ erased => erased.1

theorem narrows_again {f : Cell -> Cell} {cells : List Cell} {left right : Nat} (again : ∀ cell, f (f cell) = f cell) {i : Nat}
    (half : leads (mapRange cells left right fun _ => f) i = true ∨ trails (mapRange cells left right fun _ => f) i = true) :
    narrows f (mapRange cells left right fun _ => f) left right i = false := by
  -- What is left of a wide character after the change stays when the change is made again.
  rw [leads, trails, getElem?_mapRange] at half
  rw [narrows, getElem?_mapRange]
  by_cases inside : left ≤ i ∧ i < right
  next =>
    rw [if_pos inside] at half ⊢
    cases found : cells[i]? with
    | none => rw [Option.map_none, Option.any_none, Bool.and_false]
    | some cell =>
      simp only [found, Option.map_some, Option.any_some, beq_iff_eq] at half
      rw [Option.map_some, Option.any_some, again, decide_eq_true inside, Bool.true_and, beq_eq_false_iff_ne]
      omega
  next => rw [decide_eq_false inside, Bool.false_and]

theorem resetUnprotected_again (cell : Cell) : resetUnprotected (resetUnprotected cell) = resetUnprotected cell := by
  unfold resetUnprotected
  split
  next => rfl
  next => rfl

theorem even_again {g : Grid} (sized : g.Sized) {r : Nat}
    (whole : ((Edit.rows r (r + 1) (.cells 0 g.cols resetUnprotected)).apply g).Whole)
    (even : g.EvenHalves resetUnprotected 0 g.rows 0 g.cols) :
    ((Edit.rows r (r + 1) (.cells 0 g.cols resetUnprotected)).apply g).EvenHalves resetUnprotected 0 g.rows 0 g.cols := by
  intro q high _ c inside lead
  by_cases here : r ≤ q ∧ q < r + 1
  next =>
    obtain ⟨row, found⟩ := sized.row_at high
    have changed : ((Edit.rows r (r + 1) (.cells 0 g.cols resetUnprotected)).apply g).lines[q]? =
        some ((RowEdit.cells 0 g.cols resetUnprotected).apply row) := by
      simp only [Edit.apply, getElem?_mapRange, if_pos here, found, Option.map_some]
    have second := (whole.row changed).second c
    rw [leadsAt_eq changed, RowEdit.cells_apply, RowEdit.onCells] at lead
    rw [RowEdit.cells_apply, RowEdit.onCells] at second
    rw [narrowsAt_eq changed, narrowsAt_eq changed, RowEdit.cells_apply, RowEdit.onCells,
      narrows_again resetUnprotected_again (.inl lead), narrows_again resetUnprotected_again (.inr (second.trans lead))]
  next =>
    have same (column : Nat) : ((Edit.rows r (r + 1) (.cells 0 g.cols resetUnprotected)).apply g).look q column =
        g.look q column := by rw [Edit.look_rows, if_neg here]
    have old := even q high (Nat.zero_le q) c inside
    simp only [leadsAt, narrowsAt, same] at lead old ⊢
    exact old lead

theorem eraseAbove_missing {s : Screen} (intact : Intact s) {selective : Bool} (missing : s.grid.rows ≤ s.cursor.row)
    (even : selective = true -> s.DisplayEven .above) : Ensures AnyPanic (s.eraseDisplay .above selective) Intact := by
  -- From a cursor below the last row all rows are erased, and the last one again for each row that is missing.
  have cleared : Ensures AnyPanic (forRange 0 s.cursor.row s (eraseRow selective)) fun t => Intact t ∧
      t.grid.rows ≤ s.cursor.row ∧
        (selective = true -> t.grid.EvenHalves resetUnprotected 0 t.grid.rows 0 t.grid.cols) := by
    refine ensures_forRange (fun t i kept => ?_) _ _ ⟨intact, missing, fun selects => ?_⟩
    next =>
      obtain ⟨still, below, even⟩ := kept
      have some := still.someRows
      refine (@eraseRow_intact t still selective i _ rfl fun selects q high low => ?_).weaken fun u erased => ?_
      next => exact even selects q (by omega) (Nat.zero_le q)
      next =>
        obtain ⟨whole, rows, changed⟩ := erased
        refine ⟨whole, rows ▸ below, fun selects => ?_⟩
        rw [changed selects]
        exact even_again still.grid (changed selects ▸ whole.whole.1) (even selects)
    next =>
      intro q high _
      exact (even selects).1 q (by omega) (Nat.zero_le q)
  simp only [eraseDisplay]
  refine cleared.bind fun t kept => ?_
  obtain ⟨still, below, -⟩ := kept
  rw [recordDamage_eq]
  exact intact_ok (clearRegion_unchanged still below _ _ _ _) (still.tell _)

theorem eraseDisplay_intact {s : Screen} (intact : Intact s) (mode : EraseDisplay) {selective : Bool}
    (even : selective = true -> s.DisplayEven mode) : Ensures AnyPanic (s.eraseDisplay mode selective) Intact := by
  have some := intact.someCols
  cases mode with
  | scrollback => exact intact.edit (e := .clearHistory) trivial
  | all =>
    refine intact_ok (eraseRows_ok intact.grid selective (Nat.le_refl _)) ?_
    exact intact.told_edit (eraseWhole_uncut intact.grid even) _
  | below =>
    by_cases inside : s.cursor.row < s.grid.rows
    next =>
      refine intact_ok (eraseDisplay_ok ⟨intact.toFramed, inside⟩ .below selective) ?_
      have span := @eraseSpan_uncut s.grid s.cursor.row (s.cursor.row + 1) s.cursor.col s.cols selective intact.grid
        (Nat.lt_or_ge _ _) fun selects => (even selects).1
      have rest := @eraseWhole_uncut s.grid (s.cursor.row + 1) s.rows selective intact.grid fun selects => (even selects).2
      exact (((intact.tell _).tell _).edit span).edit (uncut_apart (.inl (Nat.le_refl _)) rest)
    next =>
      have missing := Nat.le_of_not_lt inside
      have empty : clearRowsBelow selective s.cursor.row s.grid.rows s.grid = .ok s.grid := forRange_empty _ _ (by omega)
      simp only [eraseDisplay, recordDamage_eq, recordRows_ok, ok_bind, onGrid, tell]
      rw [clearRegionImpl_missing intact.someRows missing, ok_bind, empty]
      exact intact.of_frame rfl
  | above =>
    by_cases inside : s.cursor.row < s.grid.rows
    next =>
      refine intact_ok (eraseDisplay_ok ⟨intact.toFramed, inside⟩ .above selective) ?_
      have whole := @eraseWhole_uncut s.grid 0 s.cursor.row selective intact.grid fun selects => (even selects).1
      have span := @eraseSpan_uncut s.grid s.cursor.row (s.cursor.row + 1) 0 (min (s.cursor.col + 1) s.cols) selective
        intact.grid (.inl (by simp only [cols]; omega)) fun selects => (even selects).2
      exact ((((intact.tell _).edit whole).tell _).edit (uncut_apart (.inl (Nat.le_refl _)) span))
    next => exact eraseAbove_missing intact (Nat.le_of_not_lt inside) even

theorem eraseChars_intact {s : Screen} (intact : Intact s) (count : Nat) (uncut : s.EraseUncut count) :
    Ensures AnyPanic (s.eraseChars count) Intact := by
  by_cases inside : s.cursor.row < s.grid.rows
  next =>
    refine intact_ok (eraseChars_ok ⟨intact.toFramed, inside⟩ count) ?_
    unfold afterEraseChars
    refine Intact.of_frame (editLine_intact (intact.tell _) fun row found => ?_) rfl
    have found : s.grid.lines[s.cursor.row]? = some row := found
    by_cases order : s.cursor.col < min (s.cursor.col + count) s.cols
    next => exact .inl order
    next =>
      refine .inr ?_
      by_cases within : s.cursor.col < s.cols
      next =>
        have whole := uncut (by omega)
        rwa [trailsAt_eq found] at whole
      next => exact trails_beyond (by rw [intact.grid.cells_at found]; exact Nat.le_of_not_lt within)
  next =>
    have missing : s.grid.eraseChars s.cursor.row s.cursor.col count = .ok s.grid :=
      if_pos (.inl (Nat.le_of_not_lt inside))
    simp only [eraseChars, recordDamage_eq, onGrid, tell]
    rw [missing]
    exact intact.of_frame rfl

theorem withLines_intact {s : Screen} (intact : Intact s) {e : Edit} (uncut : e.Uncut s.grid) : Intact (s.withLines e) := by
  unfold withLines
  split
  next => exact (intact.edit uncut).of_frame rfl
  next => exact intact.of_frame rfl

theorem rect_intact {s : Screen} (intact : Intact s) {f : Cell -> Cell} {top left bottom right : Nat}
    (keeps : ∀ cell, (f cell).width = cell.width ∨ (f cell).width = 1) (even : s.RectEven f top left bottom right) :
    Ensures AnyPanic (s.eachCell (firstIndex top s.rows) (firstIndex left s.cols) (min bottom s.rows) (min right s.cols) f)
      Intact := by
  refine intact_ok (eachCell_edit intact.toFramed _ _ f (Nat.min_le_right ..) (Nat.min_le_right ..)) ?_
  exact intact.edit (cells_uncut intact.grid keeps even)

theorem copyRect_intact {s : Screen} (intact : Intact s) {srcTop srcLeft srcBottom srcRight dstTop dstLeft : Nat}
    (uncut : s.CopyUncut srcTop srcLeft srcBottom srcRight dstTop dstLeft) :
    Ensures AnyPanic (s.copyRect srcTop srcLeft srcBottom srcRight dstTop dstLeft) Intact := by
  refine intact_ok (copyRect_ok intact.toFramed ..) ?_
  have rows := Nat.min_le_right srcBottom s.rows
  have cols := Nat.min_le_right srcRight s.cols
  unfold copied
  split
  next => exact intact
  next some =>
    refine intact.edit ⟨?_, ?_, uncut (by omega) (by omega)⟩
    next => rw [Nat.add_sub_cancel' (by omega)]; exact rows
    next => rw [Nat.add_sub_cancel' (by omega)]; exact cols

theorem decaln_intact {s : Screen} (intact : Intact s) : Ensures AnyPanic s.decaln Intact := by
  have filled : Intact (s.edit (.rows 0 s.rows (.cells 0 s.cols fun cell =>
      { cell with c := 'E', width := 1, fg := .default, bg := .default, attrs := {} }))) := by
    refine intact.edit (cells_uncut intact.grid (fun _ => .inr rfl) fun r high low c inside lead => ?_)
    -- Every cell of the row becomes narrow, and behind a first half there is one.
    obtain ⟨row, found⟩ := intact.grid.row_at high
    have size := intact.grid.cells_at found
    have second := (intact.whole.1.row found).second c
    rw [leadsAt_eq found] at lead
    have next : c + 1 < row.cells.length := by
      by_contra beyond
      rw [trails_beyond (Nat.le_of_not_lt beyond), lead] at second
      cases second
    have narrow (i : Nat) (within : i < row.cells.length) : narrows (fun cell : Cell =>
        { cell with c := 'E', width := 1, fg := .default, bg := .default, attrs := {} }) row.cells 0 s.cols i = true := by
      rw [narrows, List.getElem?_eq_getElem within, decide_eq_true ⟨Nat.zero_le i, show i < s.grid.cols from size ▸ within⟩]
      rfl
    rw [narrowsAt_eq found, narrowsAt_eq found, narrow c (by omega), narrow (c + 1) next]
  refine intact_ok (decaln_ok intact.toFramed) ⟨?_, filled.whole⟩
  exact filled.toFramed.quiet ⟨rfl, rfl, rfl, rfl, rfl, rfl⟩ intact.someRows (Nat.le_refl _) intact.margin filled.marginFits

end Screen

end Emux
