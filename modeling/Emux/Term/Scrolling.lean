import Emux.Term.Cells
import Emux.Term.Effects

set_option autoImplicit false

/-!
# Scrolling

Scrolling up by one count and then by another is scrolling up by their sum, history included, and
the three implementations that move rows agree. Within one row, inserting cells and deleting as many
again brings back what was not pushed out.
-/

namespace Emux

open Checked

namespace Grid

theorem history_of_fits {g : Grid} {top bottom count : Nat} (fits : count ≤ bottom - top) :
    g.historyAfter top bottom count = if top = 0 then g.pushed (g.lines.take count) else g.scrollback := by
  simp only [historyAfter]
  split
  next first => rw [Nat.min_eq_left (by omega)]
  next => rfl

theorem history_twice {g : Grid} {top bottom m n : Nat} (bound : bottom ≤ g.lines.length)
    (fits : m + n ≤ bottom - top) :
    ({ g with
      lines := shiftUp g.lines top bottom m (Row.new g.cols)
      scrollback := g.historyAfter top bottom m } : Grid).historyAfter top bottom n =
      g.historyAfter top bottom (m + n) := by
  -- The rows of the second scroll follow those of the first, and trimming twice is trimming once.
  rw [history_of_fits (by omega), history_of_fits (by omega), history_of_fits fits]
  by_cases first : top = 0
  next =>
    subst first
    simp only [if_true, pushed]
    rw [take_shiftUp g.lines _ (by omega) bound, trimFront_append_trimFront, List.append_assoc, ← List.take_add]
  next => simp only [if_neg first]

theorem scrollUp_twice {g : Grid} (bounded : g.scrollback.length ≤ g.scrollbackLimit) {top bottom m n : Nat}
    (bound : bottom ≤ g.lines.length) (fits : m + n ≤ bottom - top) :
    (g.scrollUp top bottom m >>= fun g => g.scrollUp top bottom n) = g.scrollUp top bottom (m + n) := by
  have trimmed : (g.historyAfter top bottom m).length ≤ g.scrollbackLimit := by
    simp only [historyAfter]
    split
    next => rw [pushed, length_trimFront]; exact Nat.min_le_right ..
    next => exact bounded
  rw [scrollUp_bounded bounded m bound, ok_bind,
    scrollUp_bounded (by exact trimmed) n (by rw [length_shiftUp]; exact bound), history_twice bound fits,
    scrollUp_bounded bounded (m + n) bound, shiftUp_shiftUp g.lines m n _ bound]

theorem scrollUp_composes {g : Grid} (length : g.lines.length = g.rows)
    (bounded : g.scrollback.length ≤ g.scrollbackLimit) {top bottom : Nat} (order : top < bottom)
    (bound : bottom ≤ g.rows) {m n : Nat} (fits : m + n ≤ bottom - top) :
    (g.scrollUp top bottom m >>= fun g => g.scrollUp top bottom n) = g.scrollUp top bottom (m + n) ∧
      ∃ scrolled, g.scrollUp top bottom (m + n) = .ok scrolled ∧
        (scrolled.cols = g.cols ∧ scrolled.rows = g.rows ∧ scrolled.scrollbackLimit = g.scrollbackLimit ∧
          scrolled.lines.length = g.rows) ∧
        scrolled.scrollback =
          (if top = 0 then (g.scrollback ++ g.lines.take (m + n)).rtake g.scrollbackLimit else g.scrollback) ∧
        (∀ r, r < top ∨ bottom ≤ r -> scrolled.lines[r]? = g.lines[r]?) ∧
        (∀ r, top ≤ r -> r + (m + n) < bottom -> scrolled.lines[r]? = g.lines[r + (m + n)]?) ∧
        ∀ r, r < bottom -> bottom ≤ r + (m + n) -> scrolled.lines[r]? = some (Row.new g.cols) := by
  have inside : bottom ≤ g.lines.length := length ▸ bound
  have row := fun r => getElem?_shiftUp g.lines top bottom (m + n) (Row.new g.cols) r inside
  refine ⟨scrollUp_twice bounded inside fits, _, scrollUp_bounded bounded (m + n) inside,
    ⟨rfl, rfl, rfl, by rw [length_shiftUp, length]⟩, ?_, ?_, ?_, ?_⟩
  next =>
    simp only [history_of_fits fits, pushed, trimFront_eq_rtake]
  next =>
    intro r outside
    simp only [row, if_neg (show ¬ (top ≤ r ∧ r < bottom) by omega)]
  next =>
    intro r low high
    simp only [row, if_pos (show top ≤ r ∧ r < bottom by omega), if_pos high]
  next =>
    intro r high exposed
    simp only [row, if_pos (show top ≤ r ∧ r < bottom by omega), if_neg (show ¬ r + (m + n) < bottom by omega)]

def namedRows : Grid :=
  { cols := 1, rows := 3, lines := ['a', 'b', 'c'].map fun c => { cells := [{ c }] }
    scrollback := [{ cells := [{ c := 'z' }] }], scrollbackLimit := 2 }

theorem scrollUp_composes_named :
    (namedRows.scrollUp 0 3 1 >>= fun g => g.scrollUp 0 3 1) = namedRows.scrollUp 0 3 2 :=
  (scrollUp_composes (by decide) (by decide) (by decide) (by decide) (by decide)).1

theorem spliceRows_all {g : Grid} (sized : g.Sized) {lines : List Row} (top bottom : Nat)
    (length : lines.length = g.rows) (cells : ∀ row ∈ lines, row.cells.length = g.cols)
    (outside : ∀ r, ¬ (top ≤ r ∧ r < bottom) -> lines[r]? = g.lines[r]?) :
    (spliceRows g.lines lines top bottom 0 (min g.cols g.cols)).map Row.cells = lines.map Row.cells := by
  -- With every column inside the margins a region scroll takes all the cells of a row.
  apply List.ext_getElem?
  intro r
  rw [List.getElem?_map, List.getElem?_map, spliceRows, getElem?_mapRange]
  split
  next inside =>
    by_cases high : r < g.rows
    next =>
      obtain ⟨row, found⟩ := sized.row_at high
      obtain ⟨moved, here⟩ : ∃ moved, lines[r]? = some moved := ⟨_, List.getElem?_eq_getElem (by omega)⟩
      have width := cells moved (List.mem_of_getElem? here)
      simp only [found, here, Option.map_some, Option.getD_some, Row.cells_edit, Option.some.injEq]
      apply List.ext_getElem?
      intro c
      rw [getElem?_splice _ _ _ _ _ (by rw [width, sized.cells_at found])]
      split
      next => rfl
      next beyond =>
        rw [List.getElem?_eq_none (by rw [sized.cells_at found]; omega),
          List.getElem?_eq_none (by omega)]
    next =>
      have none : g.lines[r]? = none := List.getElem?_eq_none (by rw [sized.lines]; omega)
      rw [none, List.getElem?_eq_none (show lines.length ≤ r by omega)]
      rfl
  next apart => rw [outside r apart]

theorem scrolls_agree {g : Grid} (sized : g.Sized) {top row bottom : Nat} (low : top ≤ row) (high : row < bottom)
    (bound : bottom ≤ g.rows) (count : Nat) :
    g.insertLines row count top bottom = g.scrollDown row bottom count ∧
      (∃ deleted scrolled, g.deleteLines row count top bottom = .ok deleted ∧
        g.scrollUp row bottom count = .ok scrolled ∧ deleted.lines = scrolled.lines) ∧
      (∃ region scrolled, g.scrollUpRegion top bottom 0 g.cols count = .ok region ∧
        g.scrollUp top bottom count = .ok scrolled ∧
        region.lines.map Row.cells = scrolled.lines.map Row.cells) ∧
      ∃ region scrolled, g.scrollDownRegion top bottom 0 g.cols count = .ok region ∧
        g.scrollDown top bottom count = .ok scrolled ∧
        region.lines.map Row.cells = scrolled.lines.map Row.cells := by
  refine ⟨?_, ⟨_, _, deleteLines_ok sized count low high bound, scrollUp_ok sized count bound, rfl⟩,
    ⟨_, _, scrollUpRegion_ok sized 0 g.cols count bound, scrollUp_ok sized count bound, ?_⟩,
    ⟨_, _, scrollDownRegion_ok sized 0 g.cols count bound, scrollDown_ok sized count bound, ?_⟩⟩
  next => rw [insertLines_ok sized count low high bound, scrollDown_ok sized count bound]
  next =>
    have moved := Edit.sized_apply sized (.rowsUp top bottom count true)
    apply spliceRows_all sized top bottom moved.lines moved.cells
    intro r outside
    exact (getElem?_shiftUp _ _ _ _ _ _ (sized.lines ▸ bound)).trans (if_neg outside)
  next =>
    have moved := Edit.sized_apply sized (.rowsDown top bottom count)
    apply spliceRows_all sized top bottom moved.lines moved.cells
    intro r outside
    exact (getElem?_shiftDown _ _ _ _ _ _ (sized.lines ▸ bound)).trans (if_neg outside)

theorem scrolls_agree_named :
    namedRows.insertLines 1 5 0 3 = namedRows.scrollDown 1 3 5 ∧
      ∃ deleted scrolled, namedRows.deleteLines 1 5 0 3 = .ok deleted ∧
        namedRows.scrollUp 1 3 5 = .ok scrolled ∧ deleted.lines = scrolled.lines :=
  have agree := scrolls_agree (g := namedRows) ⟨by decide, by decide, by decide, by decide⟩
    (show 0 ≤ 1 by decide) (show 1 < 3 by decide) (by decide) 5
  ⟨agree.1, agree.2.1⟩

theorem look_rowEdit_outside {g : Grid} {r : Nat} {e : RowEdit} {left right : Nat}
    (keeps : ∀ (cells : List Cell) (c : Nat), cells.length = g.cols -> ¬(left ≤ c ∧ c < right) ->
      (e.onCells cells)[c]? = cells[c]?)
    (sized : g.Sized) {r' c : Nat} (outside : ¬(r' = r ∧ left ≤ c ∧ c < right)) :
    ((Edit.rows r (r + 1) e).apply g).look r' c = g.look r' c := by
  rw [Edit.look_rows]
  split
  next here =>
    unfold look
    cases found : g.lines[r']? with
    | none => rfl
    | some row => exact keeps row.cells c (sized.cells_at found) (by omega)
  next => rfl

theorem insert_outside {cells : List Cell} {col bound count c : Nat} (fits : bound ≤ cells.length)
    (outside : ¬(col ≤ c ∧ c < bound)) : ((RowEdit.insert col bound count).onCells cells)[c]? = cells[c]? :=
  (getElem?_shiftDown _ _ _ _ _ _ fits).trans (if_neg outside)

theorem delete_outside {cells : List Cell} {col bound count c : Nat} (fits : bound ≤ cells.length)
    (outside : ¬(col ≤ c ∧ c < bound)) : ((RowEdit.delete col bound count).onCells cells)[c]? = cells[c]? :=
  (getElem?_shiftUp _ _ _ _ _ _ fits).trans (if_neg outside)

theorem look_insert_delete {g : Grid} (sized : g.Sized) {r col count bound c : Nat} (row : r < g.rows)
    (fits : bound ≤ g.cols) (low : col ≤ c) (high : c < bound) :
    ((Edit.rows r (r + 1) (.delete col bound count)).apply
      ((Edit.rows r (r + 1) (.insert col bound count)).apply g)).look r c =
        if c + count < bound then g.look r c else some .blank := by
  obtain ⟨old, found⟩ := sized.row_at row
  have here : r ≤ r ∧ r < r + 1 := ⟨le_rfl, Nat.lt_succ_self r⟩
  have inserted : ((Edit.rows r (r + 1) (.insert col bound count)).apply g).lines[r]? =
      some ((RowEdit.insert col bound count).apply old) := by
    rw [Edit.apply, getElem?_mapRange, if_pos here, found]
    rfl
  have back := getElem?_shiftUp_shiftDown old.cells col bound count Cell.blank c (by rw [sized.cells_at found]; exact fits)
  rw [if_pos ⟨low, high⟩] at back
  rw [Edit.look_rows, if_pos here, inserted, Option.bind_some, RowEdit.cells_apply, look, found, Option.bind_some]
  exact back

theorem insert_then_delete {g : Grid} (sized : g.Sized) {r col bound : Nat} (count : Nat) (row : r < g.rows)
    (inside : col < bound) (fits : bound ≤ g.cols) :
    ∃ inserted deleted restored,
      g.insertCellsBounded r col count bound = .ok inserted ∧
      g.deleteCellsBounded r col count bound = .ok deleted ∧
      inserted.deleteCellsBounded r col count bound = .ok restored ∧
      (∀ c, col ≤ c -> c < bound - count -> restored.look r c = g.look r c) ∧
      (∀ c, max col (bound - count) ≤ c -> c < bound -> restored.look r c = some .blank) ∧
      ∀ r' c, ¬(r' = r ∧ col ≤ c ∧ c < bound) ->
        inserted.look r' c = g.look r' c ∧ deleted.look r' c = g.look r' c ∧
          restored.look r' c = inserted.look r' c := by
  have narrow : min bound g.cols = bound := Nat.min_eq_left fits
  have wide : ((Edit.rows r (r + 1) (.insert col bound count)).apply g).Sized := Edit.sized_apply sized _
  -- Both are edits of one row, so the second is taken of what the first leaves.
  have first := insertCells_edit sized col count bound row
  have alone := deleteCells_edit sized col count bound row
  have second := deleteCells_edit wide col count bound (by simpa using row)
  rw [narrow] at first alone
  rw [Edit.cols_apply, narrow] at second
  refine ⟨_, _, _, first, alone, second, ?_, ?_, ?_⟩
  next =>
    intro c low high
    rw [look_insert_delete sized row fits low (by omega), if_pos (by omega)]
  next =>
    intro c low high
    rw [look_insert_delete sized row fits (by omega) high, if_neg (by omega)]
  next =>
    intro r' c outside
    refine ⟨look_rowEdit_outside (fun cells c width => insert_outside (width ▸ fits)) sized outside,
      look_rowEdit_outside (fun cells c width => delete_outside (width ▸ fits)) sized outside,
      look_rowEdit_outside (fun cells c width => delete_outside ?_) wide outside⟩
    rw [width]
    simpa using fits

def letters : Grid :=
  { cols := 4, rows := 1, lines := [{ cells := ['a', 'b', 'c', 'd'].map fun c => { c } }]
    scrollback := [], scrollbackLimit := 0 }

theorem insert_then_delete_letters :
    ∃ inserted restored, letters.insertCellsBounded 0 1 1 3 = .ok inserted ∧
      inserted.deleteCellsBounded 0 1 1 3 = .ok restored ∧
      restored.look 0 1 = letters.look 0 1 ∧ restored.look 0 2 = some .blank ∧ restored.look 0 3 = letters.look 0 3 :=
  have ⟨inserted, _, restored, first, _, second, kept, blanked, outside⟩ :=
    insert_then_delete (g := letters) ⟨by decide, by decide, by decide, by decide⟩ 1 (show 0 < 1 by decide)
      (show 1 < 3 by decide) (by decide)
  have ⟨before, _, after⟩ := outside 0 3 (by decide)
  ⟨inserted, restored, first, second, kept 1 (by decide) (by decide), blanked 2 (by decide) (by decide),
    after.trans before⟩

end Grid

end Emux
