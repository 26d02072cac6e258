import Mathlib.Data.List.DropRight
import Emux.Term.Safety

set_option autoImplicit false

/-!
# Soft-wrapped lines

Text that wraps fills one row after another, and all rows but the first are flagged as continuations. The deferred
wrap clears the flag of the row it leaves, so that a line breaks in two at its second deferred wrap.
-/

namespace Emux

open Checked Grid

namespace Screen

def rowsToCursor (s : Screen) : List Row := s.grid.scrollback ++ s.grid.lines.take (s.cursor.row + 1)

def continues (row : Row) : Bool := row.flags.continuation

/-- The last `count` rows down to the cursor's are one logical line: all but the first are continuations. -/
def OneLine (s : Screen) (count : Nat) : Prop :=
  (s.rowsToCursor.rtake count).map continues = (List.range count).map fun i => decide (0 < i)

def rowUp (s : Screen) (i : Nat) : Option Row :=
  if i ≤ s.cursor.row then s.grid.lines[s.cursor.row - i]? else s.grid.scrollback.reverse[i - s.cursor.row - 1]?

def flagUp (s : Screen) (i : Nat) : Option Bool := (s.rowUp i).map continues

/-- The row that a wrap drops, counted from the cursor's row upwards: where a scroll finds the history full, the
oldest row of it, below a top margin the first row of the region. Where the cursor cannot move it is its own row,
which the text then fills again. -/
def dropped (s : Screen) : Option Nat :=
  if s.cursor.row + 1 = s.scrollBottom then
    if s.scrollTop = 0 then
      if s.grid.scrollbackLimit ≤ s.grid.scrollback.length then some (s.grid.scrollback.length + s.cursor.row) else none
    else some (s.cursor.row - s.scrollTop)
  else if s.cursor.row + 1 < s.rows then none
  else some 0

theorem getElem?_rowsToCursor {s : Screen} (inside : s.cursor.row < s.grid.lines.length) (i : Nat) :
    s.rowsToCursor.reverse[i]? = s.rowUp i := by
  have length : (s.grid.lines.take (s.cursor.row + 1)).length = s.cursor.row + 1 := by
    rw [List.length_take]
    omega
  rw [rowsToCursor, List.reverse_append, rowUp]
  split
  next here =>
    rw [List.getElem?_append_left (by rw [List.length_reverse, length]; omega),
      List.getElem?_reverse (by omega), length, List.getElem?_take_of_lt (by omega), Nat.add_sub_cancel]
  next above =>
    rw [List.getElem?_append_right (by rw [List.length_reverse, length]; omega), List.length_reverse, length]
    congr 1

theorem oneLine_iff {s : Screen} (inside : s.cursor.row < s.grid.lines.length) (count : Nat) :
    s.OneLine count ↔ ∀ i, i < count -> s.flagUp i = some (decide (i + 1 ≠ count)) := by
  have flags : (s.rowsToCursor.rtake count).map continues = ((s.rowsToCursor.reverse.take count).map continues).reverse := by
    rw [List.rtake_eq_reverse_take_reverse, List.map_reverse]
  have line : (List.range count).map (fun i => decide (0 < i)) =
      ((List.range count).map fun i => decide (i + 1 ≠ count)).reverse := by
    apply List.ext_getElem (by simp)
    intro i first second
    simp only [List.length_map, List.length_range] at first
    simp only [List.getElem_map, List.getElem_range, List.getElem_reverse, List.length_map, List.length_range,
      decide_eq_decide]
    omega
  rw [OneLine, flags, line, List.reverse_inj, List.ext_getElem?_iff]
  refine forall_congr' fun i => ?_
  rw [flagUp, ← getElem?_rowsToCursor inside, List.getElem?_map, List.getElem?_map, List.getElem?_take]
  by_cases low : i < count
  next => simp [low]
  next => simp [low]

theorem rowUp_beyond {s : Screen} {i : Nat} (beyond : s.cursor.row + s.grid.scrollback.length < i) : s.rowUp i = none := by
  rw [rowUp, if_neg (by omega), List.getElem?_eq_none]
  rw [List.length_reverse]
  omega

theorem rowUp_editLine (s : Screen) (e : RowEdit) (i : Nat) :
    (s.editLine e).rowUp i = if i = 0 then (s.rowUp 0).map e.apply else s.rowUp i := by
  simp only [rowUp, editLine, edit, Edit.apply, getElem?_mapRange]
  by_cases here : i = 0
  next =>
    subst here
    simp
  next =>
    rw [if_neg here]
    split
    next => rw [if_neg (by omega)]
    next => rfl

theorem reverse_historyAfter {g : Grid} (bottom : Nat) (some : 0 < bottom) :
    (g.historyAfter 0 bottom 1).reverse = (g.lines.head?.toList ++ g.scrollback.reverse).take g.scrollbackLimit := by
  -- The history behind a region at the top, newest row first.
  have first : g.lines.take (min 1 bottom) = g.lines.head?.toList := by
    rw [Nat.min_eq_left some]
    cases g.lines <;> rfl
  have one : g.lines.head?.toList.reverse = g.lines.head?.toList := by cases g.lines <;> rfl
  rw [historyAfter, if_pos rfl, first, pushed, reverse_trimFront, List.reverse_append, one]

theorem rowUp_scrolled {s : Screen} (framed : Framed s) (atBottom : s.cursor.row + 1 = s.scrollBottom) (i : Nat) :
    (s.scrolledUp false 1).rowUp (i + 1) =
      match s.dropped with
      | none => s.rowUp i
      | some d => if i < d then s.rowUp i else s.rowUp (i + 1) := by
  have region := framed.region
  have fits : s.scrollBottom ≤ s.grid.lines.length := by
    rw [framed.grid.lines]
    exact framed.regionFits
  have bounded := framed.grid.bounded
  have lines (j : Nat) : (s.scrolledUp false 1).grid.lines[j]? = if s.scrollTop ≤ j ∧ j < s.scrollBottom then
        if j + 1 < s.scrollBottom then s.grid.lines[j + 1]? else some (Row.new s.grid.cols)
      else s.grid.lines[j]? := getElem?_shiftUp s.grid.lines s.scrollTop s.scrollBottom 1 (Row.new s.grid.cols) j fits
  have history : (s.scrolledUp false 1).grid.scrollback = s.grid.historyAfter s.scrollTop s.scrollBottom 1 := rfl
  have row : (s.scrolledUp false 1).cursor.row = s.cursor.row := rfl
  unfold dropped
  rw [if_pos atBottom]
  by_cases whole : s.scrollTop = 0
  next =>
    obtain ⟨first, top⟩ : ∃ first, s.grid.lines.head? = some first := by
      cases here : s.grid.lines with
      | nil => simp [here] at fits; omega
      | cons first rest => exact ⟨first, rfl⟩
    have newest : (s.scrolledUp false 1).grid.scrollback.reverse =
        (first :: s.grid.scrollback.reverse).take s.grid.scrollbackLimit := by
      rw [history, whole, reverse_historyAfter _ (by omega), top]
      rfl
    -- The row that leaves the region is the newest of the history, whatever is dropped at its other end.
    have up : (s.scrolledUp false 1).rowUp (i + 1) =
        if i < s.cursor.row + s.grid.scrollbackLimit then s.rowUp i else none := by
      simp only [rowUp, row, lines, newest, whole]
      by_cases inGrid : i + 1 ≤ s.cursor.row
      next =>
        rw [if_pos inGrid, if_pos (by omega), if_pos (by omega), if_pos (by omega), if_pos (by omega)]
        congr 1
        omega
      next =>
        rw [if_neg inGrid, List.getElem?_take]
        by_cases kept : i < s.cursor.row + s.grid.scrollbackLimit
        next =>
          rw [if_pos kept, if_pos (by omega)]
          by_cases here : i = s.cursor.row
          next => simp [here, List.head?_eq_getElem?.symm.trans top]
          next =>
            obtain ⟨k, rfl⟩ : ∃ k, i = s.cursor.row + 1 + k := ⟨i - (s.cursor.row + 1), by omega⟩
            rw [if_neg (by omega), show s.cursor.row + 1 + k + 1 - s.cursor.row - 1 = k + 1 by omega,
              show s.cursor.row + 1 + k - s.cursor.row - 1 = k by omega, List.getElem?_cons_succ]
        next => rw [if_neg kept, if_neg (by omega)]
    rw [up, if_pos whole]
    by_cases full : s.grid.scrollbackLimit ≤ s.grid.scrollback.length
    next =>
      simp only [if_pos full]
      have limit : s.grid.scrollbackLimit = s.grid.scrollback.length := Nat.le_antisymm full bounded
      rw [limit, Nat.add_comm]
      split
      next => rfl
      next beyond => rw [rowUp_beyond (by omega)]
    next =>
      simp only [if_neg full]
      split
      next => rfl
      next beyond => rw [rowUp_beyond (by omega)]
  next =>
    have same : (s.scrolledUp false 1).grid.scrollback = s.grid.scrollback := by
      rw [history, historyAfter, if_neg whole]
    simp only [if_neg whole, rowUp, row, lines, same]
    by_cases moved : i < s.cursor.row - s.scrollTop
    next =>
      rw [if_pos moved, if_pos (by omega), if_pos (by omega), if_pos (by omega), if_pos (by omega)]
      congr 1
      omega
    next =>
      rw [if_neg moved]
      split
      next => rw [if_neg (by omega)]
      next => rfl

theorem Safe.cursor_inside {s : Screen} (safe : Safe s) : s.cursor.row < s.grid.lines.length := by
  rw [safe.grid.lines]
  exact safe.row

theorem rowUp_zero {s : Screen} (safe : Safe s) : ∃ row, s.rowUp 0 = some row := by
  obtain ⟨row, found⟩ := safe.grid.row_at safe.row
  exact ⟨row, found⟩

theorem rowUp_nextLine {s : Screen} (safe : Safe s) (whole : s.hasLrMargins = false) (i : Nat) :
    s.nextLine.rowUp (i + 1) =
      match s.dropped with
      | none => s.rowUp i
      | some d => if i < d then s.rowUp i else s.rowUp (i + 1) := by
  -- What a line feed does to the rows above: they move up by one, but those beyond the row that it drops.
  unfold nextLine
  split
  next atBottom =>
    rw [whole]
    exact rowUp_scrolled safe.toFramed atBottom i
  next notBottom =>
    unfold dropped
    rw [if_neg notBottom]
    split
    next =>
      simp only [rowUp]
      by_cases inGrid : i ≤ s.cursor.row
      next =>
        rw [if_pos (by omega), if_pos inGrid]
        congr 1
        omega
      next =>
        rw [if_neg (by omega), if_neg inGrid]
        congr 1
        omega
    next => rfl

theorem rowUp_fed {s : Screen} (safe : Safe s) (whole : s.hasLrMargins = false) (i : Nat) :
    s.fed.rowUp (i + 1) =
      match s.dropped with
      | none => s.rowUp i
      | some d => if i < d then s.rowUp i else s.rowUp (i + 1) := by
  have unwrapped : Safe { s with pendingWrap := false } := safe.of_frame rfl safe.row
  have moved := rowUp_nextLine unwrapped whole i
  unfold fed
  dsimp only
  split <;> exact moved

def plainEdit : RowEdit -> Bool
  | .flag _ | .reset => false
  | _ => true

theorem flagUp_plainEdit {e : RowEdit} (plain : plainEdit e = true) (s : Screen) (i : Nat) :
    (s.editLine e).flagUp i = s.flagUp i := by
  have kept (row : Row) : continues (e.apply row) = continues row := by
    cases e with
    | flag | reset => cases plain
    | _ => rfl
  rw [flagUp, rowUp_editLine]
  split
  next here =>
    subst here
    rw [Option.map_map]
    exact congrArg (fun f => (s.rowUp 0).map f) (funext kept)
  next => rfl

theorem flagUp_flag {s : Screen} (safe : Safe s) (value : Bool) (i : Nat) :
    (s.editLine (.flag value)).flagUp i = if i = 0 then some value else s.flagUp i := by
  obtain ⟨row, found⟩ := rowUp_zero safe
  rw [flagUp, rowUp_editLine]
  split
  next => rw [found]; rfl
  next => rfl

theorem carriageReturn_place (s : Screen) :
    s.carriageReturn.rowUp = s.rowUp ∧ s.carriageReturn.dropped = s.dropped ∧
      s.carriageReturn.hasLrMargins = s.hasLrMargins := by
  unfold carriageReturn
  split <;> exact ⟨rfl, rfl, rfl⟩

def continued (s : Screen) : Screen := s.carriageReturn.fed.editLine (.flag true)

theorem flagUp_continued {s : Screen} (safe : Safe s) (whole : s.hasLrMargins = false) (i : Nat) :
    s.continued.flagUp i =
      match i with
      | 0 => some true
      | i + 1 =>
        match s.dropped with
        | none => s.flagUp i
        | some d => if i < d then s.flagUp i else s.flagUp (i + 1) := by
  have back := (carriageReturn_keeps safe).safe
  have place := s.carriageReturn_place
  rw [continued, flagUp_flag (fed_keeps back).safe]
  cases i with
  | zero => rfl
  | succ i =>
    rw [if_neg (Nat.succ_ne_zero i), flagUp, rowUp_fed back (place.2.2.trans whole), place.1, place.2.1]
    dsimp only
    cases s.dropped with
    | none => rfl
    | some d => exact apply_ite (Option.map continues) _ _ _

def droppedOf (s : Screen) (count : Nat) : Option Nat := s.dropped.filter fun d => decide (d < count)

def countAfter (s : Screen) (count : Nat) : Nat := if (s.droppedOf count).isSome then count else count + 1

/-- With a row that is flagged `left` left behind by a wrap, the rows are one line just when the text began in
that row, or began above it and the row is flagged; and of a longer text only rows may be dropped that are
neither its first nor next to one without a flag. -/
def leavesLine (s : Screen) (count : Nat) (left : Bool) : Prop :=
  match s.droppedOf count with
  | none => 1 ≤ count ∧ left = decide (count ≠ 1)
  | some d => 2 ≤ count ∧ (d = 0 ∨ left = decide (count ≠ 2) ∧ (d = 1 ∨ d + 1 < count))

theorem line_grows_iff {flag next : Nat -> Option Bool} {count : Nat} {left : Bool} (here : flag 0 = some left)
    (line : ∀ i, 0 < i -> i < count -> flag i = some (decide (i + 1 ≠ count))) (first : next 0 = some true)
    (moved : ∀ i, i < count -> next (i + 1) = flag i) :
    (∀ i, i < count + 1 -> next i = some (decide (i + 1 ≠ count + 1))) ↔ 1 ≤ count ∧ left = decide (count ≠ 1) := by
  -- A wrap that drops no row of the text.
  constructor
  next =>
    intro whole
    have begun : 1 ≤ count := by
      have start := whole 0 (by omega)
      rw [first] at start
      by_contra none
      simp [show count = 0 by omega] at start
    refine ⟨begun, ?_⟩
    have second := whole 1 (by omega)
    rw [moved 0 (by omega), here] at second
    simpa [eq_comm] using second
  next =>
    rintro ⟨begun, left⟩ i inside
    cases i with
    | zero =>
      rw [first]
      simp
      omega
    | succ i =>
      rw [moved i (by omega)]
      cases i with
      | zero =>
        rw [here, left]
        simp [eq_comm]
      | succ i => rw [line (i + 1) (by omega) (by omega)]; simp

theorem line_drops_iff {flag next : Nat -> Option Bool} {count d : Nat} {left : Bool} (drops : d < count)
    (here : flag 0 = some left) (line : ∀ i, 0 < i -> i < count -> flag i = some (decide (i + 1 ≠ count)))
    (first : next 0 = some true) (moved : ∀ i, next (i + 1) = if i < d then flag i else flag (i + 1)) :
    (∀ i, i < count -> next i = some (decide (i + 1 ≠ count))) ↔
      2 ≤ count ∧ (d = 0 ∨ left = decide (count ≠ 2) ∧ (d = 1 ∨ d + 1 < count)) := by
  -- A wrap that drops row `d` of the text, which has as many rows after it as before.
  constructor
  next =>
    intro whole
    have begun : 2 ≤ count := by
      have start := whole 0 (by omega)
      rw [first] at start
      by_contra one
      simp [show count = 1 by omega] at start
    refine ⟨begun, ?_⟩
    by_cases own : d = 0
    next => exact .inl own
    next =>
      have second := whole 1 (by omega)
      rw [moved 0, if_pos (by omega), here] at second
      refine .inr ⟨by simpa [eq_comm] using second, ?_⟩
      by_contra tight
      -- The first row is gone, and the row after it would have to begin the line.
      have last := whole d drops
      obtain ⟨k, rfl⟩ : ∃ k, d = k + 2 := ⟨d - 2, by omega⟩
      rw [moved (k + 1), if_pos (by omega), line (k + 1) (by omega) (by omega)] at last
      simp [show count = k + 3 by omega] at last
  next =>
    rintro ⟨begun, fits⟩ i inside
    cases i with
    | zero =>
      rw [first]
      simp
      omega
    | succ i =>
      rw [moved i]
      split
      next below =>
        cases i with
        | zero =>
          rcases fits with own | ⟨same, -⟩
          next => omega
          next =>
            rw [here, same]
            simp [eq_comm]
        | succ i =>
          rw [line (i + 1) (by omega) (by omega)]
          simp
          omega
      next => rw [line (i + 1) (by omega) inside]

theorem continued_line_iff {s : Screen} (safe : Safe s) (whole : s.hasLrMargins = false) {count : Nat} {left : Bool}
    (here : s.flagUp 0 = some left) (line : ∀ i, 0 < i -> i < count -> s.flagUp i = some (decide (i + 1 ≠ count))) :
    s.continued.OneLine (s.countAfter count) ↔ s.leavesLine count left := by
  have moved := flagUp_continued safe whole
  have fed := (fed_keeps (carriageReturn_keeps safe).safe).safe
  have continued : Safe s.continued := (editLine_keeps fed _).safe
  rw [oneLine_iff continued.cursor_inside, countAfter, leavesLine, droppedOf]
  cases row : s.dropped with
  | none =>
    rw [row] at moved
    exact line_grows_iff here line (moved 0) fun i _ => moved (i + 1)
  | some d =>
    rw [row] at moved
    by_cases drops : d < count
    next =>
      simp only [Option.filter_some, drops, decide_true, if_true, Option.isSome_some]
      exact line_drops_iff drops here line (moved 0) fun i => moved (i + 1)
    next =>
      simp only [Option.filter_some, drops, decide_false]
      refine line_grows_iff here line (moved 0) fun i inside => (moved (i + 1)).trans (if_pos ?_)
      omega

theorem oneLine_congr {s t : Screen} (before : Safe s) (after : Safe t) (same : ∀ i, t.flagUp i = s.flagUp i)
    (count : Nat) : t.OneLine count ↔ s.OneLine count := by
  rw [oneLine_iff before.cursor_inside, oneLine_iff after.cursor_inside]
  simp only [same]

end Screen

open Screen

def Op.wraps (op : Op) (s : Screen) : Bool :=
  match op with
  | .wrapPending => s.pendingWrap && s.modes.autowrap
  | .fitWide width => decide (width = 2 ∧ s.effectiveRight - 1 ≤ s.cursor.col) && s.modes.autowrap
  | _ => false

/-- How a wrap leaves the flag of a row that is the last of `count`: the deferred one clears it. -/
def Op.leaves (op : Op) (count : Nat) : Bool :=
  match op with
  | .wrapPending => false
  | _ => decide (count ≠ 1)

def Op.occupy (op : Op) (p : Screen × Nat) : Fallible (Screen × Nat) := do
  let s ← op.exec p.1
  .ok (s, if op.wraps p.1 then p.1.countAfter p.2 else p.2)

def Op.keepsLine (op : Op) (p : Screen × Nat) : Prop := op.wraps p.1 = true -> p.1.leavesLine p.2 (op.leaves p.2)

instance (s : Screen) (count : Nat) (left : Bool) : Decidable (s.leavesLine count left) := by
  unfold Screen.leavesLine
  split <;> infer_instance

instance (op : Op) (p : Screen × Nat) : Decidable (op.keepsLine p) :=
  inferInstanceAs (Decidable (op.wraps p.1 = true -> p.1.leavesLine p.2 (op.leaves p.2)))

def textOps (text : List Char) (s : Screen) : List Op := expand Op.exec Screen.writeCharOps text s

def Op.prints : Op -> Bool
  | .update (.beginChar _) => true
  | op => op.isStage

structure Printing (p : Screen × Nat) : Prop where
  safe : Safe p.1
  autowrap : p.1.modes.autowrap = true
  whole : p.1.hasLrMargins = false
  line : p.1.OneLine p.2

theorem prints_textOps {text : List Char} {s : Screen} : ∀ op ∈ textOps text s, op.prints = true := by
  intro op member
  obtain ⟨c, -, s, inside⟩ := mem_expand member
  simp only [writeCharOps] at inside
  split at inside
  next =>
    rw [List.mem_singleton.mp inside]
    rfl
  next =>
    simp only [List.mem_cons, List.not_mem_nil, or_false] at inside
    rcases inside with rfl | rfl | rfl | rfl | rfl <;> rfl

theorem wrapped_line_iff {s : Screen} {count : Nat} (printing : Printing (s, count)) :
    s.wrapped.OneLine (if (Op.wrapPending).wraps s then s.countAfter count else count) ↔
      (Op.wrapPending).keepsLine (s, count) := by
  have safe : Safe s := printing.safe
  have autowrap : s.modes.autowrap = true := printing.autowrap
  unfold wrapped Op.keepsLine
  cases pending : s.pendingWrap with
  | false => simpa [Op.wraps, pending] using printing.line
  | true =>
    have wraps : (Op.wrapPending).wraps s = true := by simp [Op.wraps, pending, autowrap]
    have line := (oneLine_iff safe.cursor_inside count).mp printing.line
    have left := flagUp_flag safe false
    have through : (s.editLine (.flag false)).continued.OneLine (s.countAfter count) ↔ s.leavesLine count false := by
      refine continued_line_iff (editLine_keeps safe _).safe printing.whole (left 0) fun i above inside => ?_
      rw [left, if_neg (Nat.ne_of_gt above)]
      exact line i inside
    rw [if_pos rfl, if_pos autowrap, if_pos wraps, wraps, forall_prop_of_true rfl]
    exact through

theorem leavesLine_kept {s : Screen} {count : Nat} {left : Bool}
    (line : 0 < count -> some left = some (decide (1 ≠ count))) :
    s.leavesLine count left ↔ s.leavesLine count (decide (count ≠ 1)) := by
  -- Of a row whose flag is as the line needs it, a wide character's wrap leaves the flag.
  by_cases begun : 0 < count
  next =>
    have same : left = decide (count ≠ 1) := by simpa [eq_comm] using line begun
    rw [same]
  next =>
    obtain rfl : count = 0 := by omega
    have drops : s.droppedOf 0 = none := by simp [droppedOf]
    simp [leavesLine, drops]

theorem fitted_line_iff {s : Screen} {count : Nat} (printing : Printing (s, count)) (width : Nat) :
    (s.fitted width).OneLine (if (Op.fitWide width).wraps s then s.countAfter count else count) ↔
      (Op.fitWide width).keepsLine (s, count) := by
  have safe : Safe s := printing.safe
  have autowrap : s.modes.autowrap = true := printing.autowrap
  unfold fitted Op.keepsLine
  -- A wide character at the edge wraps or steps back; everything else stays where it is.
  by_cases wide : width = 2 ∧ s.effectiveRight - 1 ≤ s.cursor.col
  next =>
    have wraps : (Op.fitWide width).wraps s = true := by simp [Op.wraps, wide, autowrap]
    have line := (oneLine_iff safe.cursor_inside count).mp printing.line
    have place : s.padded.dropped = s.dropped ∧ s.padded.hasLrMargins = s.hasLrMargins := by
      unfold padded
      split <;> exact ⟨rfl, rfl⟩
    have flags (i : Nat) : s.padded.flagUp i = s.flagUp i := by
      unfold padded
      split
      next => exact flagUp_plainEdit rfl s i
      next => rfl
    obtain ⟨row, found⟩ := rowUp_zero safe
    have here : s.flagUp 0 = some (continues row) := congrArg (Option.map continues) found
    have through := continued_line_iff (padded_keeps safe).safe (place.2.trans printing.whole) ((flags 0).trans here)
      fun i above inside => (flags i).trans (line i inside)
    unfold countAfter leavesLine droppedOf at through
    rw [place.1] at through
    rw [if_pos wide, if_pos wraps, wideWrapped, if_pos autowrap, wraps, forall_prop_of_true rfl]
    exact through.trans (leavesLine_kept fun begun => here.symm.trans (line 0 begun))
  next =>
    have stays : (Op.fitWide width).wraps s = false := by simp only [Op.wraps, wide, decide_false, Bool.false_and]
    rw [if_neg wide, stays, if_neg Bool.false_ne_true]
    exact iff_of_true printing.line fun wraps => absurd wraps Bool.false_ne_true

theorem Screen.put_flagUp (s : Screen) (c : Char) (width i : Nat) : (s.put c width).flagUp i = s.flagUp i := by
  have printed : (s.editLine (s.printEdit c width)).flagUp i = s.flagUp i := flagUp_plainEdit rfl s i
  unfold put advanced
  split <;> exact printed

theorem Screen.shifted_flagUp (s : Screen) (width i : Nat) : (s.shifted width).flagUp i = s.flagUp i := by
  unfold shifted
  split
  next => exact flagUp_plainEdit rfl s i
  next => rfl

theorem Op.occupy_line (op : Op) {p : Screen × Nat} (prints : op.prints = true) (printing : Printing p) :
    ∃ next, op.occupy p = .ok next ∧ (Printing next ↔ op.keepsLine p) ∧ (next.1.OneLine next.2 ↔ op.keepsLine p) := by
  -- A stage keeps the rows of the text one line just when its wrap does.
  obtain ⟨s, count⟩ := p
  have safe : Safe s := printing.safe
  have done {t : Screen} (ran : op.exec s = .ok t) (keeps : Keeps s t) (modes : t.modes = s.modes)
      (margins : t.hasLrMargins = s.hasLrMargins)
      (line : t.OneLine (if op.wraps s then s.countAfter count else count) ↔ op.keepsLine (s, count)) :
      ∃ next, op.occupy (s, count) = .ok next ∧ (Printing next ↔ op.keepsLine (s, count)) ∧
        (next.1.OneLine next.2 ↔ op.keepsLine (s, count)) := by
    refine ⟨(t, if op.wraps s then s.countAfter count else count), ?_, ⟨fun after => line.mp after.line, ?_⟩, line⟩
    next =>
      rw [occupy, ran]
      rfl
    next =>
      intro kept
      exact ⟨keeps.safe, (congrArg Modes.autowrap modes).trans printing.autowrap, margins.trans printing.whole,
        line.mpr kept⟩
  have stage {t : Screen} (ran : op.exec s = .ok t) (keeps : Keeps s t) (edits : op.edits = true)
      (line : t.OneLine (if op.wraps s then s.countAfter count else count) ↔ op.keepsLine (s, count)) :
      ∃ next, op.occupy (s, count) = .ok next ∧ (Printing next ↔ op.keepsLine (s, count)) ∧
        (next.1.OneLine next.2 ↔ op.keepsLine (s, count)) := by
    have edited := (op.edited s edits).of_ok ran
    have cols : t.cols = s.cols := edited.extent.cols
    refine done ran keeps edited.modes ?_ line
    unfold hasLrMargins
    rw [edited.modes, edited.scrollLeft, edited.scrollRight, cols]
  have plain {t : Screen} (after : Safe t) (same : ∀ i, t.flagUp i = s.flagUp i) (stays : op.wraps s = false) :
      t.OneLine (if op.wraps s then s.countAfter count else count) ↔ op.keepsLine (s, count) := by
    rw [stays, if_neg Bool.false_ne_true, oneLine_congr safe after same]
    refine iff_of_true printing.line fun wraps => ?_
    rw [stays] at wraps
    cases wraps
  cases op with
  | update u =>
    cases u with
    | beginChar c =>
      have began : Keeps s (s.beginChar c) := .of_frame safe rfl safe.row id
      exact done rfl began rfl rfl (plain began.safe (fun _ => rfl) rfl)
    | _ => cases prints
  | wrapPending => exact stage (wrapPending_ok safe) (wrapped_keeps safe) rfl (wrapped_line_iff printing)
  | fitWide width => exact stage (fitWide_ok safe width) (fitted_keeps safe width) rfl (fitted_line_iff printing width)
  | shiftForInsert width =>
    have keeps := shifted_keeps safe width
    exact stage (shiftForInsert_ok safe width) keeps rfl (plain keeps.safe (s.shifted_flagUp width) rfl)
  | putChar c width =>
    have keeps := put_keeps safe c width
    exact stage (putChar_ok safe c width) keeps rfl (plain keeps.safe (s.put_flagUp c width) rfl)
  | _ => cases prints

/-- The rows that a text occupies so far: none where a deferred wrap comes first, else the cursor's row. -/
def Screen.rowsBegun (s : Screen) : Nat := if s.pendingWrap then 0 else 1

theorem text_one_line_iff {s : Screen} (safe : Safe s) (autowrap : s.modes.autowrap = true)
    (whole : s.hasLrMargins = false) (fresh : s.grid.lines[s.cursor.row]?.map continues = some false)
    (text : List Char) :
    Throughout Op.occupy (fun p => p.1.OneLine p.2) (textOps text s) (s, s.rowsBegun) ↔
      Along Op.occupy Op.keepsLine (textOps text s) (s, s.rowsBegun) := by
  have start : s.OneLine s.rowsBegun := by
    rw [oneLine_iff safe.cursor_inside, Screen.rowsBegun]
    intro i inside
    cases pending : s.pendingWrap with
    | true => simp [pending] at inside
    | false =>
      obtain rfl : i = 0 := by simpa [pending] using inside
      exact fresh
  refine throughout_iff_along_among (fun p => Printing.line) (fun op p prints printing keeps => ?_)
    (fun op p prints printing breaks => ?_) prints_textOps ⟨safe, autowrap, whole, start⟩
  next =>
    obtain ⟨next, ran, same, -⟩ := op.occupy_line prints printing
    rw [ran]
    exact same.mpr keeps
  next =>
    obtain ⟨next, ran, -, same⟩ := op.occupy_line prints printing
    exact ⟨next, ran, mt same.mp breaks⟩

theorem text_one_line_wide :
    Throughout Op.occupy (fun p => p.1.OneLine p.2) (textOps ['日', '本', '語'] (Screen.new 3 2)) (Screen.new 3 2, 1) :=
  (text_one_line_iff (Screen.new_valid (by decide) (by decide)).toSafe rfl rfl rfl ['日', '本', '語']).mpr (by decide)

/-- The second deferred wrap takes the flag off the row it leaves. -/
theorem second_wrap_clears_flag :
    (run (fun c s => s.writeChar c) ['a', 'b', 'c', 'd', 'e'] (Screen.new 2 3)).map (fun s =>
      s.rowsToCursor.map fun row => (row.cells.map Cell.c, row.flags.continuation)) =
      .ok [(['a', 'b'], false), (['c', 'd'], false), (['e', ' '], true)] := rfl

end Emux
