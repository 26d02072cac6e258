import Emux.Term.Effects
import Emux.Term.Pairs

set_option autoImplicit false

/-!
# Where a row is cut

A row whose wide characters are whole stays so when it is cut between characters and put together
again. A cut inside a wide character leaves a half alone.
-/

namespace Emux

open Checked

namespace Grid

section Pieces

variable {xs ys cells : List Cell}

theorem trails_beyond {i : Nat} (beyond : cells.length ≤ i) : trails cells i = false := by
  rw [trails, List.getElem?_eq_none beyond, Option.any_none]

theorem leads_beyond {i : Nat} (beyond : cells.length ≤ i) : leads cells i = false := by
  rw [leads, List.getElem?_eq_none beyond, Option.any_none]

theorem pairedCells_of (start : trails cells 0 = false) (second : ∀ i, trails cells (i + 1) = leads cells i) :
    PairedCells cells := ⟨start, fun i _ => second i⟩

theorem trails_append (i : Nat) :
    trails (xs ++ ys) i = if i < xs.length then trails xs i else trails ys (i - xs.length) := by
  rw [trails, List.getElem?_append]
  split <;> rfl

theorem leads_append (i : Nat) :
    leads (xs ++ ys) i = if i < xs.length then leads xs i else leads ys (i - xs.length) := by
  rw [leads, List.getElem?_append]
  split <;> rfl

theorem pairedCells_nil : PairedCells [] := ⟨rfl, fun _ inside => absurd inside (Nat.not_lt_zero _)⟩

theorem PairedCells.append (first : PairedCells xs) (second : PairedCells ys) : PairedCells (xs ++ ys) := by
  refine pairedCells_of ?_ fun i => ?_
  next =>
    rw [trails_append]
    split
    next => exact first.1
    next =>
      rw [Nat.zero_sub]
      exact second.1
  next =>
    rw [trails_append, leads_append]
    by_cases inside : i + 1 < xs.length
    next => rw [if_pos inside, if_pos (by omega), first.second]
    next =>
      by_cases last : i < xs.length
      next =>
        have ends := first.second i
        rw [trails_beyond (by omega)] at ends
        rw [if_neg inside, if_pos last, ← ends, show i + 1 - xs.length = 0 by omega, second.1]
      next => rw [if_neg inside, if_neg last, show i + 1 - xs.length = i - xs.length + 1 by omega, second.second]

theorem pairedCells_flatMap {rows : List Row} (all : ∀ row ∈ rows, PairedCells row.cells) :
    PairedCells (rows.flatMap Row.cells) := by
  induction rows with
  | nil => exact pairedCells_nil
  | cons row rest ih =>
    obtain ⟨first, later⟩ := List.forall_mem_cons.mp all
    exact first.append (ih later)

theorem PairedCells.take (paired : PairedCells cells) {stop : Nat} (whole : trails cells stop = false) :
    PairedCells (cells.take stop) := by
  have kept (i : Nat) : (cells.take stop)[i]? = if i < stop then cells[i]? else none := List.getElem?_take
  refine pairedCells_of ?_ fun i => ?_
  next =>
    rw [trails, kept]
    split
    next => exact paired.1
    next => rfl
  next =>
    rw [trails, leads, kept, kept]
    by_cases inside : i + 1 < stop
    next =>
      rw [if_pos inside, if_pos (by omega)]
      exact paired.second i
    next =>
      by_cases last : i + 1 = stop
      next =>
        have alone := paired.second i
        rw [last, whole] at alone
        rw [if_neg inside, if_pos (by omega), Option.any_none]
        exact alone
      next =>
        rw [if_neg inside, if_neg (by omega)]
        rfl

theorem PairedCells.drop (paired : PairedCells cells) {start : Nat} (whole : trails cells start = false) :
    PairedCells (cells.drop start) := by
  refine pairedCells_of ?_ fun i => ?_
  next =>
    rw [trails, List.getElem?_drop, Nat.add_zero]
    exact whole
  next =>
    rw [trails, leads, List.getElem?_drop, List.getElem?_drop]
    exact paired.second (start + i)

theorem pairedCells_blanks (count : Nat) : PairedCells (List.replicate count .blank) := by
  refine pairedCells_of ?_ fun i => ?_
  next =>
    rw [trails, List.getElem?_replicate]
    split <;> rfl
  next =>
    rw [trails, leads, List.getElem?_replicate, List.getElem?_replicate]
    split <;> split <;> rfl

theorem pairedCells_new (cols : Nat) : PairedCells (Row.new cols).cells := pairedCells_blanks cols

theorem PairedCells.patch {source patched : List Cell} {left right start : Nat} (paired : PairedCells cells)
    (other : PairedCells source) (is : ∀ c, patched[c]? = if left ≤ c ∧ c < right then source[c - left + start]? else cells[c]?)
    (first : left < right -> trails cells left = trails source start)
    (last : left < right -> trails cells right = trails source (right - left + start)) : PairedCells patched := by
  have trail (c : Nat) : trails patched c = if left ≤ c ∧ c < right then trails source (c - left + start) else trails cells c := by
    rw [trails, is]
    split <;> rfl
  have lead (c : Nat) : leads patched c = if left ≤ c ∧ c < right then leads source (c - left + start) else leads cells c := by
    rw [leads, is]
    split <;> rfl
  refine pairedCells_of ?_ fun i => ?_
  next =>
    rw [trail]
    split
    next inside =>
      obtain rfl : left = 0 := by omega
      rw [Nat.sub_zero, Nat.zero_add, ← first inside.2]
      exact paired.1
    next => exact paired.1
  next =>
    rw [trail, lead]
    by_cases before : i + 1 = left
    next =>
      rw [if_neg (show ¬ (left ≤ i ∧ i < right) by omega), ← paired.second i]
      split
      next inside => rw [before, Nat.sub_self, Nat.zero_add, first (by omega)]
      next => rfl
    next =>
      by_cases behind : i + 1 = right ∧ left < right
      next =>
        rw [if_neg (by omega), if_pos (by omega), behind.1, last behind.2, ← other.second]
        congr 1
        omega
      next =>
        by_cases inside : left ≤ i ∧ i < right
        next =>
          rw [if_pos (by omega), if_pos inside, ← other.second]
          congr 1
          omega
        next => rw [if_neg (by omega), if_neg inside, paired.second]

theorem PairedCells.between (paired : PairedCells cells) {start stop : Nat} (first : trails cells start = false)
    (last : trails cells stop = false) (order : start ≤ stop) : PairedCells ((cells.drop start).take (stop - start)) := by
  apply (paired.drop first).take
  rw [trails, List.getElem?_drop, Nat.add_sub_cancel' order]
  exact last

theorem trails_drop (start i : Nat) : trails (cells.drop start) i = trails cells (start + i) := by
  rw [trails, List.getElem?_drop, trails]

theorem PairedCells.inserted {col right count : Nat} (paired : PairedCells cells) (fits : right ≤ cells.length)
    (whole : 0 < count -> col < right ->
      trails cells col = false ∧ trails cells (right - min count (right - col)) = trails cells right) :
    PairedCells (shiftDown cells col right count .blank) := by
  -- The cells in front of the cursor, the blanks, and those that stay before the margin.
  by_cases shifts : 0 < count ∧ col < right
  next =>
    obtain ⟨start, joined⟩ := whole shifts.1 shifts.2
    generalize gap : min count (right - col) = m at joined
    have pushed := (pairedCells_blanks m).append (paired.drop start)
    refine @PairedCells.patch cells _ _ col right 0 paired pushed (fun c => ?_) (fun _ => ?_) fun _ => ?_
    next =>
      rw [getElem?_shiftDown _ _ _ _ _ _ fits]
      by_cases inside : col ≤ c ∧ c < right
      next =>
        rw [if_pos inside, if_pos inside, List.getElem?_append, List.length_replicate]
        by_cases low : c < col + count
        next => rw [if_pos low, if_pos (by omega), List.getElem?_replicate_of_lt (by omega)]
        next =>
          rw [if_neg low, if_neg (by omega), List.getElem?_drop]
          congr 1
          omega
      next => rw [if_neg inside, if_neg inside]
    next => rw [start, pushed.1]
    next =>
      rw [trails_append, List.length_replicate, if_neg (by omega), trails_drop, ← joined]
      congr 1
      omega
  next =>
    have same : shiftDown cells col right count .blank = cells := by
      by_cases none : count = 0
      next => rw [none, shiftDown_zero _ _ _ _ fits]
      next => exact mapRange_empty _ _ (by omega)
    rw [same]
    exact paired

theorem PairedCells.deleted {col right count : Nat} (paired : PairedCells cells) (fits : right ≤ cells.length)
    (whole : 0 < count -> col < right ->
      trails cells col = trails cells (col + min count (right - col)) ∧ trails cells right = false) :
    PairedCells (shiftUp cells col right count .blank) := by
  -- The cells in front of the cursor, those that close up, and the blanks at the margin.
  by_cases shifts : 0 < count ∧ col < right
  next =>
    obtain ⟨joined, behind⟩ := whole shifts.1 shifts.2
    generalize gap : min count (right - col) = m at joined
    have length : (cells.take right).length = right := List.length_take_of_le fits
    have kept := (paired.take behind).append (pairedCells_blanks m)
    have beyond (i : Nat) (far : right ≤ i) : trails (cells.take right ++ List.replicate m .blank) i = false := by
      rw [trails_append, length, if_neg (by omega), trails, List.getElem?_replicate]
      split <;> rfl
    refine @PairedCells.patch cells _ _ col right (col + m) paired kept (fun c => ?_) (fun _ => ?_) fun _ => ?_
    next =>
      rw [getElem?_shiftUp _ _ _ _ _ _ fits]
      by_cases inside : col ≤ c ∧ c < right
      next =>
        rw [if_pos inside, if_pos inside, List.getElem?_append, length]
        by_cases low : c + count < right
        next =>
          rw [if_pos low, if_pos (by omega), List.getElem?_take_of_lt (by omega)]
          congr 1
          omega
        next => rw [if_neg low, if_neg (by omega), List.getElem?_replicate_of_lt (by omega)]
      next => rw [if_neg inside, if_neg inside]
    next =>
      rw [joined]
      by_cases inside : col + m < right
      next =>
        rw [trails_append, length, if_pos inside, trails, trails, List.getElem?_take_of_lt inside]
      next => rw [beyond _ (by omega), show col + m = right by omega, behind]
    next => rw [behind, beyond _ (by omega)]
  next =>
    have same : shiftUp cells col right count .blank = cells := by
      by_cases none : count = 0
      next => rw [none, shiftUp_zero _ _ _ _ fits]
      next => exact mapRange_empty _ _ (by omega)
    rw [same]
    exact paired

theorem PairedCells.erased {left stop : Nat} (paired : PairedCells cells)
    (whole : left < stop ∨ trails cells left = false) : PairedCells (Grid.blankSpan left stop cells) := by
  by_cases order : left < stop
  next => exact paired.blankSpan order
  next =>
    have start := whole.resolve_left order
    have same : Grid.blankSpan left stop cells = cells := by
      simp only [Grid.blankSpan, spanStart, spanStop, start, order, Bool.false_eq_true, and_false, false_and, if_false]
      exact mapRange_empty _ _ (by omega)
    rw [same]
    exact paired

def narrows (f : Cell -> Cell) (cells : List Cell) (left right i : Nat) : Bool :=
  decide (left ≤ i ∧ i < right) && cells[i]?.any fun cell => (f cell).width == 1

section Changed

variable {f : Cell -> Cell} {left right : Nat} (keeps : ∀ cell, (f cell).width = cell.width ∨ (f cell).width = 1)
include keeps

theorem width_changed {width : Nat} (wide : width ≠ 1) (i : Nat) :
    ((mapRange cells left right fun _ => f)[i]?.any fun cell => cell.width == width) =
      (!narrows f cells left right i && cells[i]?.any fun cell => cell.width == width) := by
  rw [getElem?_mapRange, narrows]
  by_cases inside : left ≤ i ∧ i < right
  next =>
    rw [if_pos inside, decide_eq_true inside, Bool.true_and]
    cases cells[i]? with
    | none => rfl
    | some cell =>
      rcases keeps cell with same | narrow
      next =>
        simp only [Option.map_some, Option.any_some, same]
        by_cases is : cell.width = width
        next => simp [is, wide]
        next => simp [is]
      next => simp [narrow, Ne.symm wide]
  next => rw [if_neg inside, decide_eq_false inside, Bool.false_and, Bool.not_false, Bool.true_and]

theorem trails_changed (i : Nat) : trails (mapRange cells left right fun _ => f) i =
    (!narrows f cells left right i && trails cells i) := width_changed keeps Nat.zero_ne_one i

theorem leads_changed (i : Nat) : leads (mapRange cells left right fun _ => f) i =
    (!narrows f cells left right i && leads cells i) := width_changed keeps (Nat.succ_ne_self 1) i

theorem PairedCells.changed (paired : PairedCells cells)
    (alike : ∀ i, leads cells i = true -> narrows f cells left right i = narrows f cells left right (i + 1)) :
    PairedCells (mapRange cells left right fun _ => f) := by
  refine pairedCells_of ?_ fun i => ?_
  next => rw [trails_changed keeps, paired.1, Bool.and_false]
  next =>
    rw [trails_changed keeps, leads_changed keeps, paired.second]
    cases here : leads cells i with
    | false => rw [Bool.and_false, Bool.and_false]
    | true => rw [alike i here]

end Changed

theorem trails_modify (f : Cell -> Cell) (i j : Nat) (narrow : ∀ cell, cells[i]? = some cell -> (f cell).width ≠ 0) :
    trails (cells.modify i f) j = (trails cells j && i != j) := by
  rw [trails, trails, List.getElem?_modify]
  by_cases same : i = j
  next =>
    subst same
    cases found : cells[i]? with
    | none => rfl
    | some cell => simp [narrow cell found]
  next => simp [same]

theorem leads_modify (f : Cell -> Cell) (i j : Nat) (narrow : ∀ cell, cells[i]? = some cell -> (f cell).width ≠ 2) :
    leads (cells.modify i f) j = (leads cells j && i != j) := by
  rw [leads, leads, List.getElem?_modify]
  by_cases same : i = j
  next =>
    subst same
    cases found : cells[i]? with
    | none => rfl
    | some cell => simp [narrow cell found]
  next => simp [same]

theorem trails_set {i : Nat} (inside : i < cells.length) (j : Nat) (cell : Cell) :
    trails (cells.set i cell) j = if i = j then cell.width == 0 else trails cells j := by
  rw [trails, List.getElem?_set]
  by_cases same : i = j
  next => simp [same, same ▸ inside]
  next => simp [same, trails]

theorem leads_set {i : Nat} (inside : i < cells.length) (j : Nat) (cell : Cell) :
    leads (cells.set i cell) j = if i = j then cell.width == 2 else leads cells j := by
  rw [leads, List.getElem?_set]
  by_cases same : i = j
  next => simp [same, same ▸ inside]
  next => simp [same, leads]

theorem padded_behind {i : Nat} (behind : trails cells (i + 1) = leads cells i) (j : Nat) :
    trails (if leads cells i then cells.modify (i + 1) Screen.padCell else cells) j = (trails cells j && i + 1 != j) ∧
      leads (if leads cells i then cells.modify (i + 1) Screen.padCell else cells) j = leads cells j := by
  by_cases lead : leads cells i = true
  next =>
    rw [if_pos lead, trails_modify _ _ _ fun _ _ => Nat.one_ne_zero, leads_modify _ _ _ fun _ _ => by simp [Screen.padCell]]
    refine ⟨rfl, ?_⟩
    by_cases same : i + 1 = j
    next =>
      subst same
      have noLead : leads cells (i + 1) = false := by
        by_contra both
        have none := leads_not_trails (eq_true_of_ne_false both)
        rw [behind, lead] at none
        cases none
      rw [noLead, Bool.false_and]
    next => simp [same]
  next =>
    rw [if_neg lead]
    refine ⟨?_, rfl⟩
    by_cases same : i + 1 = j
    next =>
      subst same
      rw [behind, Bool.eq_false_iff.mpr lead, Bool.false_and]
    next => simp [same]

theorem padded_before {i : Nat} (before : 0 < i -> trails cells i = leads cells (i - 1)) (j : Nat) :
    trails (if 0 < i ∧ trails cells i then
        cells.modify (i - 1) fun cell => if cell.width = 2 then Screen.padCell cell else cell else cells) j = trails cells j ∧
      leads (if 0 < i ∧ trails cells i then
        cells.modify (i - 1) fun cell => if cell.width = 2 then Screen.padCell cell else cell else cells) j =
        (leads cells j && j + 1 != i) := by
  by_cases cut : 0 < i ∧ trails cells i = true
  next =>
    have lead : leads cells (i - 1) = true := by rw [← before cut.1, cut.2]
    have width {cell : Cell} (found : cells[i - 1]? = some cell) : cell.width = 2 := (Screen.leads_iff found).mp lead
    have narrow : ∀ cell, cells[i - 1]? = some cell -> (if cell.width = 2 then Screen.padCell cell else cell).width = 1 := by
      intro cell found
      rw [if_pos (width found)]
      rfl
    rw [if_pos cut, trails_modify _ _ _ fun cell found => by rw [narrow cell found]; decide,
      leads_modify _ _ _ fun cell found => by rw [narrow cell found]; decide]
    have position : (i - 1 != j) = (j + 1 != i) := by
      rw [Bool.eq_iff_iff, bne_iff_ne, bne_iff_ne]
      omega
    refine ⟨?_, by rw [position]⟩
    by_cases same : i - 1 = j
    next => rw [← same, leads_not_trails lead, Bool.false_and]
    next => simp [same]
  next =>
    rw [if_neg cut]
    refine ⟨rfl, ?_⟩
    by_cases same : j + 1 = i
    next =>
      subst same
      have none := before (Nat.succ_pos j)
      rw [Bool.eq_false_iff.mpr fun trail => cut ⟨Nat.succ_pos j, trail⟩, Nat.add_sub_cancel] at none
      rw [← none, Bool.false_and]
    next => simp [same]

def cleared (col : Nat) (cells : List Cell) : List Cell :=
  let first := if leads cells col then cells.modify (col + 1) Screen.padCell else cells
  if 0 < col ∧ trails cells col then
    first.modify (col - 1) fun cell => if cell.width = 2 then Screen.padCell cell else cell else first

theorem length_cleared (col : Nat) (cells : List Cell) : (cleared col cells).length = cells.length := by
  simp only [cleared]
  split_ifs <;> simp

theorem printCells_cleared (col width : Nat) (head tail : Cell) (cells : List Cell) :
    printCells col width head tail cells =
      let third := if width = 2 ∧ leads (cleared col cells) (col + 1) then
        (cleared col cells).modify (col + 2) Screen.padCell else cleared col cells
      if width = 2 then (third.set col head).set (col + 1) tail else third.set col head := rfl

theorem PairedCells.cleared (paired : PairedCells cells) (col j : Nat) :
    trails (Grid.cleared col cells) j = (trails cells j && col + 1 != j) ∧
      leads (Grid.cleared col cells) j = (leads cells j && j + 1 != col) := by
  have behind := padded_behind (paired.second col)
  rw [Grid.cleared]
  generalize (if leads cells col then cells.modify (col + 1) Screen.padCell else cells) = first at behind ⊢
  rw [show trails cells col = trails first col by rw [(behind col).1]; simp]
  have before := @padded_before first col (fun later => by
    rw [(behind _).1, (behind _).2, ← paired.second (col - 1), Nat.sub_add_cancel later]
    simp)
  exact ⟨by rw [(before j).1, (behind j).1], by rw [(before j).2, (behind j).2]⟩

theorem PairedCells.printed_narrow {col width : Nat} {head tail : Cell} (paired : PairedCells cells)
    (inside : col < cells.length) (headWidth : head.width = width) (visible : width ≠ 0) (narrow : width ≠ 2) :
    PairedCells (printCells col width head tail cells) := by
  have trail (j : Nat) := (paired.cleared col j).1
  have lead (j : Nat) := (paired.cleared col j).2
  have low : col < (Grid.cleared col cells).length := by rw [length_cleared]; exact inside
  have notTrail : (head.width == 0) = false := by rw [headWidth, beq_eq_false_iff_ne]; exact visible
  have notLead : (head.width == 2) = false := by rw [headWidth, beq_eq_false_iff_ne]; exact narrow
  rw [printCells_cleared]
  simp only [narrow, false_and, if_false]
  refine pairedCells_of ?_ fun i => ?_
  next =>
    rw [trails_set low, trail, paired.1, notTrail]
    simp
  next =>
    rw [trails_set low, leads_set low, trail, lead, paired.second i, notTrail, notLead]
    by_cases left : i + 1 = col
    next => simp [← left]
    next =>
      by_cases here : i = col
      next => simp [here]
      next => simp [Ne.symm left, Ne.symm here, bne_iff_ne.mpr left, bne_iff_ne.mpr (Ne.symm here)]

theorem PairedCells.printed_wide {col : Nat} {head tail : Cell} (paired : PairedCells cells)
    (room : col + 1 < cells.length) (headWidth : head.width = 2) (tailWidth : tail.width = 0) :
    PairedCells (printCells col 2 head tail cells) := by
  have trail (j : Nat) := (paired.cleared col j).1
  have lead (j : Nat) := (paired.cleared col j).2
  -- A wide character overwrites two columns, so that a half may be left on both sides.
  have third := @padded_behind (Grid.cleared col cells) (col + 1) (by
    rw [trail, lead, paired.second (col + 1), bne_iff_ne.mpr (show col + 1 ≠ col + 1 + 1 by omega),
      bne_iff_ne.mpr (show col + 1 + 1 ≠ col by omega)])
  have size := length_cleared col cells
  rw [printCells_cleared]
  simp only [true_and, if_true]
  generalize thirdIs : (if leads (Grid.cleared col cells) (col + 1) then
    (Grid.cleared col cells).modify (col + 2) Screen.padCell else Grid.cleared col cells) = repaired at third ⊢
  have whole : repaired.length = cells.length := by
    rw [← thirdIs, ← size]
    split <;> simp
  have low : col < repaired.length := by rw [whole]; omega
  have bound : col + 1 < (repaired.set col head).length := by rw [List.length_set, whole]; exact room
  refine pairedCells_of ?_ fun i => ?_
  next =>
    rw [trails_set bound, if_neg (by omega), trails_set low, (third 0).1, trail, paired.1, headWidth]
    simp
  next =>
    rw [trails_set bound, trails_set low, leads_set bound, leads_set low, (third _).1, (third _).2, trail, lead,
      paired.second i, tailWidth, headWidth]
    by_cases left : i + 1 = col
    next => simp [← left]
    next =>
      by_cases here : i = col
      next => simp [here]
      next =>
        by_cases right : i = col + 1
        next => simp [right]
        next =>
          simp [Ne.symm left, Ne.symm here, Ne.symm right, bne_iff_ne.mpr left, bne_iff_ne.mpr (Ne.symm here),
            bne_iff_ne.mpr (Ne.symm right)]

theorem PairedCells.printed {col width : Nat} {head tail : Cell} (paired : PairedCells cells) (headWidth : head.width = width)
    (tailWidth : tail.width = 0) (visible : width ≠ 0) (room : width = 2 -> col + 1 < cells.length ∨ cells.length ≤ col) :
    PairedCells (printCells col width head tail cells) := by
  by_cases inside : col < cells.length
  next =>
    by_cases wide : width = 2
    next =>
      subst wide
      exact paired.printed_wide ((room rfl).resolve_right (Nat.not_le_of_lt inside)) headWidth tailWidth
    next => exact paired.printed_narrow inside headWidth visible wide
  next =>
    rw [printCells_beyond width head tail (Nat.le_of_not_lt inside)]
    exact paired

end Pieces

end Grid

end Emux
