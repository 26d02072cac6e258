import Emux.Term.Cells
import Emux.Term.Safety

set_option autoImplicit false

/-!
# Damage

Which cells the recorded regions stand for, and which operations record every cell that they
change.
-/

namespace Emux

open Checked Grid

def DamageRegion.Covers (region : DamageRegion) (r c : Nat) : Prop :=
  region.row = r ∧ region.colStart ≤ c ∧ c < region.colEnd

namespace Screen

/-! ## Merging -/

theorem sorted_regions (regions : List DamageRegion) :
    (regions.mergeSort regionLe).Pairwise fun x y => regionLe x y = true := by
  apply List.pairwise_mergeSort
  next =>
    intro x y z first second
    simp only [regionLe, Bool.or_eq_true, Bool.and_eq_true, decide_eq_true_eq, beq_iff_eq] at first second ⊢
    omega
  next =>
    intro x y
    simp only [regionLe, Bool.or_eq_true, Bool.and_eq_true, decide_eq_true_eq, beq_iff_eq]
    omega

theorem sorted_grown {current next : DamageRegion} {rest : List DamageRegion} (last : Nat)
    (sorted : (current :: next :: rest).Pairwise fun x y => regionLe x y = true) :
    ({ current with colEnd := last } :: rest).Pairwise fun x y => regionLe x y = true := by
  obtain ⟨first, later⟩ := List.pairwise_cons.mp sorted
  exact List.pairwise_cons.mpr ⟨fun x inside => first x (List.mem_cons_of_mem _ inside), later.of_cons⟩

theorem mergeFrom_covers {current region : DamageRegion} {rest : List DamageRegion} {r c : Nat}
    (sorted : (current :: rest).Pairwise fun x y => regionLe x y = true) (member : region ∈ current :: rest)
    (covers : region.Covers r c) : ∃ merged ∈ mergeFrom current rest, merged.Covers r c := by
  induction rest generalizing current region with
  | nil => exact ⟨region, member, covers⟩
  | cons next rest ih =>
    obtain ⟨first, later⟩ := List.pairwise_cons.mp sorted
    rw [mergeFrom]
    split
    next joined =>
      have grown := sorted_grown (max current.colEnd next.colEnd) sorted
      have order := first next List.mem_cons_self
      simp only [regionLe, Bool.or_eq_true, Bool.and_eq_true, decide_eq_true_eq, beq_iff_eq] at order
      obtain ⟨row, low, high⟩ := covers
      rcases List.mem_cons.mp member with rfl | member
      next => exact ih grown List.mem_cons_self ⟨row, low, by simp only; omega⟩
      rcases List.mem_cons.mp member with rfl | member
      next => exact ih grown List.mem_cons_self ⟨by simp only; omega, by simp only; omega, by simp only; omega⟩
      next => exact ih grown (List.mem_cons_of_mem _ member) ⟨row, low, high⟩
    next =>
      rcases List.mem_cons.mp member with rfl | member
      next => exact ⟨_, List.mem_cons_self, covers⟩
      next =>
        obtain ⟨merged, inside, holds⟩ := ih later member covers
        exact ⟨merged, List.mem_cons_of_mem _ inside, holds⟩

theorem mergeDamage_covers {regions : List DamageRegion} {region : DamageRegion} {r c : Nat}
    (member : region ∈ regions) (covers : region.Covers r c) :
    ∃ merged ∈ mergeDamage regions, merged.Covers r c := by
  have sorted := sorted_regions regions
  have member : region ∈ regions.mergeSort regionLe := List.mem_mergeSort.mpr member
  unfold mergeDamage
  split
  next empty => simp [empty] at member
  next first rest found =>
    rw [found] at sorted member
    exact mergeFrom_covers sorted member covers

theorem regionLe_iff {x y : DamageRegion} :
    regionLe x y = true ↔ x.row < y.row ∨ x.row = y.row ∧ x.colStart ≤ y.colStart := by
  simp [regionLe]

def Before (x y : DamageRegion) : Prop := x.row < y.row ∨ x.row = y.row ∧ x.colEnd < y.colStart

theorem mergeFrom_later {current merged : DamageRegion} {rest : List DamageRegion}
    (sorted : (current :: rest).Pairwise fun x y => regionLe x y = true) (member : merged ∈ mergeFrom current rest) :
    regionLe current merged = true := by
  induction rest generalizing current with
  | nil =>
    obtain rfl := List.mem_singleton.mp member
    exact regionLe_iff.mpr (.inr ⟨rfl, le_rfl⟩)
  | cons next rest ih =>
    obtain ⟨first, later⟩ := List.pairwise_cons.mp sorted
    rw [mergeFrom] at member
    split at member
    next =>
      have behind := ih (sorted_grown _ sorted) member
      exact behind
    next =>
      rcases List.mem_cons.mp member with rfl | member
      next => exact regionLe_iff.mpr (.inr ⟨rfl, le_rfl⟩)
      next =>
        have order := regionLe_iff.mp (first next List.mem_cons_self)
        have behind := regionLe_iff.mp (ih later member)
        rw [regionLe_iff]
        omega

theorem mergeFrom_nonempty {current merged : DamageRegion} {rest : List DamageRegion}
    (nonempty : ∀ region ∈ current :: rest, region.colStart < region.colEnd) (member : merged ∈ mergeFrom current rest) :
    merged.colStart < merged.colEnd := by
  induction rest generalizing current with
  | nil => exact nonempty merged member
  | cons next rest ih =>
    obtain ⟨here, others⟩ := List.forall_mem_cons.mp nonempty
    rw [mergeFrom] at member
    split at member
    next => exact ih (List.forall_mem_cons.mpr ⟨by dsimp only; omega, (List.forall_mem_cons.mp others).2⟩) member
    next =>
      rcases List.mem_cons.mp member with rfl | member
      next => exact here
      next => exact ih others member

theorem mergeFrom_covered {current merged : DamageRegion} {rest : List DamageRegion} {r c : Nat}
    (member : merged ∈ mergeFrom current rest) (covers : merged.Covers r c) :
    ∃ region ∈ current :: rest, region.Covers r c := by
  induction rest generalizing current with
  | nil => exact ⟨merged, member, covers⟩
  | cons next rest ih =>
    rw [mergeFrom] at member
    split at member
    next joined =>
      obtain ⟨region, inside, holds⟩ := ih member
      rcases List.mem_cons.mp inside with rfl | inside
      next =>
        -- A cell of the grown region is in one of the two that it was made of, as these overlap or touch.
        obtain ⟨row, low, high⟩ := holds
        dsimp only at row low high
        by_cases old : c < current.colEnd
        next => exact ⟨current, List.mem_cons_self, row, low, old⟩
        next =>
          exact ⟨next, List.mem_cons_of_mem _ List.mem_cons_self, joined.1.trans row, by omega, by omega⟩
      next => exact ⟨region, List.mem_cons_of_mem _ (List.mem_cons_of_mem _ inside), holds⟩
    next =>
      rcases List.mem_cons.mp member with rfl | member
      next => exact ⟨_, List.mem_cons_self, covers⟩
      next =>
        obtain ⟨region, inside, holds⟩ := ih member
        exact ⟨region, List.mem_cons_of_mem _ inside, holds⟩

theorem mergeFrom_apart {current : DamageRegion} {rest : List DamageRegion}
    (sorted : (current :: rest).Pairwise fun x y => regionLe x y = true) :
    (mergeFrom current rest).Pairwise Before := by
  induction rest generalizing current with
  | nil => exact List.pairwise_singleton _ _
  | cons next rest ih =>
    obtain ⟨first, later⟩ := List.pairwise_cons.mp sorted
    rw [mergeFrom]
    split
    next => exact ih (sorted_grown _ sorted)
    next separate =>
      refine List.pairwise_cons.mpr ⟨?_, ih later⟩
      intro merged member
      have order := regionLe_iff.mp (first next List.mem_cons_self)
      have behind := regionLe_iff.mp (mergeFrom_later later member)
      unfold Before
      omega

theorem mergeDamage_covered {regions : List DamageRegion} {merged : DamageRegion} {r c : Nat}
    (member : merged ∈ mergeDamage regions) (covers : merged.Covers r c) :
    ∃ region ∈ regions, region.Covers r c := by
  unfold mergeDamage at member
  split at member
  next => cases member
  next first rest found =>
    obtain ⟨region, inside, holds⟩ := mergeFrom_covered member covers
    exact ⟨region, List.mem_mergeSort.mp (found ▸ inside), holds⟩

theorem mergeDamage_nonempty {regions : List DamageRegion} {merged : DamageRegion}
    (nonempty : ∀ region ∈ regions, region.colStart < region.colEnd) (member : merged ∈ mergeDamage regions) :
    merged.colStart < merged.colEnd := by
  unfold mergeDamage at member
  split at member
  next => cases member
  next first rest found =>
    exact mergeFrom_nonempty (fun region inside => nonempty region (List.mem_mergeSort.mp (found ▸ inside))) member

theorem mergeDamage_apart (regions : List DamageRegion) : (mergeDamage regions).Pairwise Before := by
  have sorted := sorted_regions regions
  unfold mergeDamage
  split
  next => exact .nil
  next first rest found => exact mergeFrom_apart (found ▸ sorted)

theorem gap_behind {regions : List DamageRegion} (apart : regions.Pairwise Before)
    (nonempty : ∀ region ∈ regions, region.colStart < region.colEnd) :
    ∀ ⦃x⦄, x ∈ regions -> ∀ ⦃y⦄, y ∈ regions -> ¬y.Covers x.row x.colEnd := by
  apply List.Pairwise.forall_of_forall_of_flip
  next => exact fun x _ covers => Nat.lt_irrefl _ covers.2.2
  next =>
    apply apart.imp
    intro x y before covers
    unfold Before DamageRegion.Covers at *
    omega
  next =>
    apply apart.imp_of_mem
    intro x y _ there before covers
    have width := nonempty y there
    unfold Before DamageRegion.Covers at *
    omega

theorem mergeDamage_exact {regions : List DamageRegion}
    (nonempty : ∀ region ∈ regions, region.colStart < region.colEnd) :
    (∀ merged ∈ mergeDamage regions, merged.colStart < merged.colEnd) ∧
    (∀ r c, (∃ merged ∈ mergeDamage regions, merged.Covers r c) ↔ ∃ region ∈ regions, region.Covers r c) ∧
    (mergeDamage regions).Pairwise (fun x y => x.row < y.row ∨ x.row = y.row ∧ x.colStart ≤ y.colStart) ∧
    (mergeDamage regions).Pairwise fun x y => x.row = y.row ->
      ∃ c, x.colEnd ≤ c ∧ c < y.colStart ∧ ∀ merged ∈ mergeDamage regions, ¬merged.Covers x.row c := by
  have wide : ∀ merged ∈ mergeDamage regions, merged.colStart < merged.colEnd :=
    fun merged member => mergeDamage_nonempty nonempty member
  have apart := mergeDamage_apart regions
  -- Merged regions are not empty, cover what the list covered, and no two of them touch.
  refine ⟨wide, fun r c => ⟨?_, ?_⟩, ?_, ?_⟩
  next =>
    rintro ⟨merged, member, covers⟩
    exact mergeDamage_covered member covers
  next =>
    rintro ⟨region, member, covers⟩
    exact mergeDamage_covers member covers
  next =>
    refine apart.imp_of_mem fun {x y} here there before => ?_
    have width := wide x here
    unfold Before at before
    omega
  next =>
    refine apart.imp_of_mem fun {x y} here there before row => ⟨x.colEnd, le_rfl, ?_, fun merged member => ?_⟩
    next =>
      unfold Before at before
      omega
    next => exact gap_behind apart wide here member

theorem mergeDamage_exact_mixed :
    let regions : List DamageRegion := [⟨1, 4, 6⟩, ⟨0, 3, 5⟩, ⟨1, 0, 9⟩, ⟨0, 0, 3⟩, ⟨0, 7, 8⟩]
    mergeDamage regions = [⟨0, 0, 5⟩, ⟨0, 7, 8⟩, ⟨1, 0, 9⟩] ∧
      ∀ merged ∈ mergeDamage regions, merged.colStart < merged.colEnd :=
  ⟨by simp [mergeDamage, List.mergeSort, List.MergeSort.Internal.splitInTwo, regionLe, mergeFrom],
    (mergeDamage_exact (by decide)).1⟩

/-! ## What the damage list stands for -/

/-- In screen mode any entry stands for the whole screen. -/
def Covered (s : Screen) (r c : Nat) : Prop :=
  if s.damageMode = .screen then s.damageList ≠ [] else ∃ region ∈ s.damageList, region.Covers r c

theorem takeDamage_covers {s : Screen} {r c : Nat} (covered : s.Covered r c) (row : r < s.rows) (col : c < s.cols) :
    ∃ region ∈ s.takeDamage.1, region.Covers r c := by
  unfold Covered at covered
  unfold takeDamage
  dsimp only
  split at covered
  next whole =>
    rw [if_pos ⟨whole, covered⟩]
    exact ⟨s.fullRow r, List.mem_map_of_mem (List.mem_range.mpr row), rfl, Nat.zero_le c, col⟩
  next mode =>
    obtain ⟨region, member, covers⟩ := covered
    rw [if_neg fun both => mode both.1]
    split
    next => exact mergeDamage_covers member covers
    next => exact ⟨region, member, covers⟩

theorem covered_screen {s : Screen} (mode : s.damageMode = .screen) (told : s.damageList ≠ []) (r c : Nat) :
    s.Covered r c := by
  rw [Covered, if_pos mode]
  exact told

theorem covered_region {s : Screen} {region : DamageRegion} {r c : Nat} (told : region ∈ s.damageList)
    (covers : region.Covers r c) : s.Covered r c := by
  unfold Covered
  split
  next => exact List.ne_nil_of_mem told
  next => exact ⟨region, told, covers⟩

def rowwise (s : Screen) : Bool := decide (s.damageMode = .row) || decide (s.damageMode = .screen)

theorem covered_damageOf {s t : Screen} {r left right c : Nat} (mode : t.damageMode = s.damageMode)
    (told : s.damageOf r left right ⊆ t.damageList) (row : r < s.rows) (col : c < s.cols)
    (span : s.rowwise = true ∨ left ≤ c ∧ c < right) : t.Covered r c := by
  rw [damageOf, if_neg (Nat.not_le_of_lt row)] at told
  cases kind : s.damageMode with
  | cell | scroll =>
    simp only [kind] at told
    have inside := span.resolve_left (by simp [rowwise, kind])
    exact covered_region (told List.mem_cons_self) ⟨rfl, inside.1, lt_min inside.2 col⟩
  | row =>
    simp only [kind] at told
    exact covered_region (told List.mem_cons_self) ⟨rfl, Nat.zero_le c, col⟩
  | screen =>
    simp only [kind] at told
    exact covered_screen (mode.trans kind) (List.ne_nil_of_mem (told List.mem_cons_self)) r c

theorem covered_fullRow {s t : Screen} {r c : Nat} (told : s.fullRow r ∈ t.damageList) (col : c < s.cols) :
    t.Covered r c := covered_region told ⟨rfl, Nat.zero_le c, col⟩

theorem Covered.mono {s s' : Screen} (mode : s'.damageMode = s.damageMode) (more : s.damageList <+: s'.damageList)
    {r c : Nat} (covered : s.Covered r c) : s'.Covered r c := by
  unfold Covered at covered ⊢
  rw [mode]
  split
  next whole =>
    rw [if_pos whole] at covered
    exact fun none => covered (List.prefix_nil.mp (none ▸ more))
  next whole =>
    rw [if_neg whole] at covered
    obtain ⟨region, told, covers⟩ := covered
    exact ⟨region, more.subset told, covers⟩

/-! ## Steps that record what they change -/

structure Reports (s s' : Screen) : Prop where
  mode : s'.damageMode = s.damageMode
  more : s.damageList <+: s'.damageList
  cells : ∀ r c cell, s'.grid.look r c = some cell -> s.grid.look r c ≠ some cell -> s'.Covered r c

theorem Reports.of_same {s s' : Screen} (grid : s'.grid = s.grid) (list : s'.damageList = s.damageList)
    (mode : s'.damageMode = s.damageMode) : Reports s s' :=
  ⟨mode, list ▸ List.prefix_rfl, fun _ _ _ here changed => absurd (grid ▸ here) changed⟩

theorem Reports.refl (s : Screen) : Reports s s := .of_same rfl rfl rfl

theorem Reports.trans {s t u : Screen} (first : Reports s t) (second : Reports t u) : Reports s u := by
  refine ⟨second.mode.trans first.mode, first.more.trans second.more, fun r c cell here changed => ?_⟩
  by_cases between : t.grid.look r c = some cell
  next => exact (first.cells r c cell between changed).mono second.mode second.more
  next => exact second.cells r c cell here between

theorem Reports.of_screen {s s' : Screen} (mode : s'.damageMode = s.damageMode) (more : s.damageList <+: s'.damageList)
    (whole : s.damageMode = .screen) (told : s'.damageList ≠ []) : Reports s s' :=
  ⟨mode, more, fun r c _ _ _ => covered_screen (mode.trans whole) told r c⟩

theorem Reports.of_quiet {s s' : Screen} (quiet : Quiet s s') : Reports s s' :=
  .of_same quiet.grid quiet.damageList quiet.damageMode

theorem reports_tell (s : Screen) (regions : List DamageRegion) : Reports s (s.tell regions) :=
  ⟨rfl, List.prefix_append .., fun _ _ _ here changed => absurd here changed⟩

theorem look_inside {g : Grid} (sized : g.Sized) {r c : Nat} {cell : Cell} (here : g.look r c = some cell) :
    r < g.rows ∧ c < g.cols := by
  constructor
  next =>
    by_contra below
    rw [look_below sized c (Nat.le_of_not_lt below)] at here
    cases here
  next =>
    by_contra beyond
    rw [look_beyond sized (Nat.le_of_not_lt beyond)] at here
    cases here

theorem reports_edit {s : Screen} (framed : Framed s) {e : Edit}
    (covered : ∀ r c, r < s.rows -> c < s.cols -> (e.apply s.grid).look r c ≠ s.grid.look r c -> s.Covered r c) :
    Reports s (s.edit e) := by
  refine ⟨rfl, List.prefix_rfl, fun r c cell here changed => ?_⟩
  obtain ⟨row, col⟩ := look_inside (framed.edit e).grid here
  rw [Screen.edit, Edit.rows_apply] at row
  rw [Screen.edit, Edit.cols_apply] at col
  refine covered r c row col fun same => changed ?_
  rw [← same]
  exact here

theorem reports_row {s : Screen} (framed : Framed s) {r : Nat} {e : RowEdit}
    (covered : ∀ row, s.grid.lines[r]? = some row -> ∀ c, r < s.rows -> c < s.cols ->
      (e.onCells row.cells)[c]? ≠ row.cells[c]? -> s.Covered r c) :
    Reports s (s.edit (.rows r (r + 1) e)) := by
  -- An edit of one row.
  apply reports_edit framed
  intro i c row col changed
  rw [Edit.look_rows] at changed
  split at changed
  next here =>
    obtain rfl : i = r := by omega
    obtain ⟨line, found⟩ := framed.grid.row_at row
    rw [look, found] at changed
    exact covered line found c row col changed
  next => exact absurd rfl changed

theorem reports_region {s : Screen} (framed : Framed s) {e : Edit} {top bottom : Nat}
    (told : ∀ r, top ≤ r -> r < bottom -> ∀ c, c < s.cols -> r < s.rows -> s.Covered r c)
    (outside : ∀ r c, ¬ (top ≤ r ∧ r < bottom) -> (e.apply s.grid).look r c = s.grid.look r c) :
    Reports s (s.edit e) := by
  -- An edit within rows that are told of.
  apply reports_edit framed
  intro r c row col changed
  by_cases inside : top ≤ r ∧ r < bottom
  next => exact told r inside.1 inside.2 c col row
  next => exact absurd (outside r c inside) changed

/-! ## Row edits and the columns they change -/

def spares (f : Cell -> Cell) (cells : List Cell) (i : Nat) : Bool := cells[i]?.all fun cell => decide (f cell = cell)

/-- Erasing `[left, stop)` blanks no half of a wide character beyond either end. -/
def erasesInside (cells : List Cell) (left stop : Nat) : Bool :=
  (!(decide (0 < left) && trails cells left) || spares (fun _ => .blank) cells (left - 1)) &&
    (!(decide (left < stop) && leads cells (stop - 1)) || spares (fun _ => .blank) cells stop)

/-- Printing `width` columns at `col` pads no half of a wide character beyond either end. -/
def printsInside (cells : List Cell) (col width : Nat) : Bool :=
  (!(decide (0 < col) && trails cells col) || !leads cells (col - 1)) &&
    (if width = 2 then leads cells col || !leads cells (col + 1) || spares padCell cells (col + 2)
    else !leads cells col || spares padCell cells (col + 1))

theorem spares_same {f : Cell -> Cell} {cells : List Cell} {i : Nat} (spared : spares f cells i = true) :
    cells[i]?.map f = cells[i]? := by
  unfold spares at spared
  cases here : cells[i]? with
  | none => rfl
  | some cell => simpa [here] using spared

theorem blankSpan_inside {cells : List Cell} {left stop c : Nat} (inside : erasesInside cells left stop = true)
    (outside : ¬ (left ≤ c ∧ c < stop)) : (blankSpan left stop cells)[c]? = cells[c]? := by
  rw [blankSpan, getElem?_mapRange]
  split
  next wider =>
    simp only [erasesInside, Bool.and_eq_true, Bool.or_eq_true, Bool.not_eq_true', Bool.and_eq_false_iff,
      decide_eq_false_iff_not] at inside
    obtain ⟨before, after⟩ := inside
    by_cases low : c < left
    next =>
      have cut : 0 < left ∧ trails cells left = true := by
        by_contra uncut
        rw [spanStart, if_neg uncut] at wider
        omega
      have edge : c = left - 1 := by rw [spanStart, if_pos cut] at wider; omega
      rcases before with (none | none) | spared
      next => exact absurd cut.1 none
      next => rw [cut.2] at none; cases none
      next => rw [edge]; exact spares_same spared
    next =>
      have cut : left < stop ∧ leads cells (stop - 1) = true := by
        by_contra uncut
        rw [spanStop, if_neg uncut] at wider
        omega
      have edge : c = stop := by rw [spanStop, if_pos cut] at wider; omega
      rcases after with (none | none) | spared
      next => exact absurd cut.1 none
      next => rw [cut.2] at none; cases none
      next => rw [edge]; exact spares_same spared
  next => rfl

theorem modify_spared {cells : List Cell} {f : Cell -> Cell} {i c : Nat}
    (spared : c = i -> cells[i]?.map f = cells[i]?) : (cells.modify i f)[c]? = cells[c]? := by
  rw [List.getElem?_modify]
  by_cases here : i = c
  next =>
    have same := spared here.symm
    rw [here] at same
    simpa [here] using same
  next => simp [here]

theorem printCells_inside {cells : List Cell} {col width c : Nat} (head tail : Cell) (some : 0 < width)
    (inside : printsInside cells col width = true) (outside : ¬ (col ≤ c ∧ c < col + width)) :
    (printCells col width head tail cells)[c]? = cells[c]? := by
  simp only [printsInside, Bool.and_eq_true, Bool.or_eq_true, Bool.not_eq_true', Bool.and_eq_false_iff,
    decide_eq_false_iff_not] at inside
  obtain ⟨before, after⟩ := inside
  simp only [printCells]
  generalize one : (if leads cells col = true then cells.modify (col + 1) padCell else cells) = first
  have firstSame : (c = col + 1 -> width ≠ 2) -> first[c]? = cells[c]? := by
    intro narrow
    rw [← one]
    split
    next lead =>
      apply modify_spared
      intro edge
      rw [if_neg (narrow edge), lead] at after
      exact spares_same (by simpa using after)
    next => rfl
  generalize two : (if 0 < col ∧ trails cells col = true then
    first.modify (col - 1) (fun cell => if cell.width = 2 then padCell cell else cell) else first) = second
  have secondSame (i : Nat) (apart : col ≤ i ∨ first[i]? = cells[i]?) : second[i]? = first[i]? := by
    rw [← two]
    split
    next cut =>
      apply modify_spared
      rintro rfl
      have same : first[col - 1]? = cells[col - 1]? := apart.resolve_left (by omega)
      rw [same]
      rcases before with (none | none) | alone
      next => exact absurd cut.1 none
      next => rw [cut.2] at none; cases none
      next =>
        cases here : cells[col - 1]? with
        | none => rfl
        | some cell =>
          have narrow : cell.width ≠ 2 := by simpa [leads, here] using alone
          simp [narrow]
    next => rfl
  generalize three : (if width = 2 ∧ leads second (col + 1) = true then second.modify (col + 2) padCell else second) = third
  have thirdSame : third[c]? = cells[c]? := by
    have kept : second[c]? = cells[c]? := by
      have same := firstSame (by omega)
      rw [secondSame c (.inr same), same]
    rw [← three]
    split
    next cut =>
      rw [← kept]
      apply modify_spared
      intro edge
      rw [← edge, kept, edge]
      simp only [if_pos cut.1, Bool.or_eq_true, Bool.not_eq_true'] at after
      have head := cut.2
      rw [leads, secondSame (col + 1) (.inl (by omega)), ← one] at head
      by_cases lead : leads cells col = true
      next =>
        -- The cell after a wide head was padded first, so it leads nothing.
        rw [if_pos lead, List.getElem?_modify] at head
        cases here : cells[col + 1]? <;> simp [here, padCell] at head
      next =>
        rw [if_neg lead] at head
        rcases after with (wide | none) | spared
        next => exact absurd wide lead
        next => simp [leads, head] at none
        next => exact spares_same spared
    next => exact kept
  have fourth : (third.set col head)[c]? = third[c]? := List.getElem?_set_ne (by omega)
  split
  next wide => rw [List.getElem?_set_ne (by omega), fourth, thirdSame]
  next => rw [fourth, thirdSame]

/-! ## Methods that record what they change -/

def line (s : Screen) : List Cell := (s.grid.lines[s.cursor.row]?.map Row.cells).getD []

theorem line_at {s : Screen} {row : Row} (found : s.grid.lines[s.cursor.row]? = some row) : s.line = row.cells := by
  rw [line, found]
  rfl

theorem told_row_reports {s t : Screen} (framed : Framed t) {r left right : Nat} {e : RowEdit}
    (mode : t.damageMode = s.damageMode) (told : s.damageOf r left right ⊆ t.damageList)
    (rows : t.rows = s.rows) (cols : t.cols = s.cols)
    (within : ∀ row, t.grid.lines[r]? = some row -> s.rowwise = true ∨
      ∀ c, ¬ (left ≤ c ∧ c < right) -> (e.onCells row.cells)[c]? = row.cells[c]?) :
    Reports t (t.edit (.rows r (r + 1) e)) := by
  -- An edit of one row, told of as the columns `[left, right)`.
  apply reports_row framed
  intro row found c inRows inCols changed
  refine covered_damageOf mode told (rows ▸ inRows) (cols ▸ inCols) ?_
  rcases within row found with wide | same
  next => exact .inl wide
  next => exact .inr (by_contra fun outside => changed (same c outside))

theorem covered_rowsDamage {s t : Screen} {top bottom r c : Nat} (mode : t.damageMode = s.damageMode)
    (told : s.rowsDamage top bottom ⊆ t.damageList) (low : top ≤ r) (high : r < bottom) (row : r < s.rows)
    (col : c < s.cols) : t.Covered r c := by
  refine @covered_damageOf s t r 0 s.cols c mode (fun region member => told ?_) row col (.inr ⟨Nat.zero_le c, col⟩)
  exact List.mem_flatMap.mpr ⟨r, List.mem_range'_1.mpr ⟨low, by omega⟩, member⟩

theorem told_rows_reports {s t : Screen} (framed : Framed t) {top bottom : Nat} {e : RowEdit}
    (mode : t.damageMode = s.damageMode) (told : s.rowsDamage top bottom ⊆ t.damageList)
    (rows : t.rows = s.rows) (cols : t.cols = s.cols) : Reports t (t.edit (.rows top bottom e)) := by
  -- An edit of whole rows that are told of.
  apply reports_region framed
  next =>
    intro r low high c col row
    exact covered_rowsDamage mode told low high (rows ▸ row) (cols ▸ col)
  next =>
    intro r c outside
    rw [Edit.look_rows, if_neg outside]

theorem flag_reports {s : Screen} (framed : Framed s) (value : Bool) : Reports s (s.editLine (.flag value)) :=
  reports_row framed fun _ _ _ _ _ changed => absurd rfl changed

theorem scrollUp_outside {s : Screen} (framed : Framed s) (bounded : Bool) (count : Nat) {r : Nat} (c : Nat)
    (outside : ¬ (s.scrollTop ≤ r ∧ r < s.scrollBottom)) :
    ((s.scrollUpEdit bounded count).apply s.grid).look r c = s.grid.look r c := by
  cases bounded with
  | true => exact (Edit.look_columns_outside r c count fun both => outside both.1).1
  | false => exact (Edit.look_rowsUp r c framed.grid count true framed.regionFits).trans (if_neg outside)

theorem scrollDown_outside {s : Screen} (framed : Framed s) (bounded : Bool) (count : Nat) {r : Nat} (c : Nat)
    (outside : ¬ (s.scrollTop ≤ r ∧ r < s.scrollBottom)) :
    ((s.scrollDownEdit bounded count).apply s.grid).look r c = s.grid.look r c := by
  cases bounded with
  | true => exact (Edit.look_columns_outside r c count fun both => outside both.1).2
  | false => exact (Edit.look_rowsDown r c framed.grid count framed.regionFits).trans (if_neg outside)

theorem scrolled_reports {s : Screen} (framed : Framed s) {e : Edit}
    (outside : ∀ r c, ¬ (s.scrollTop ≤ r ∧ r < s.scrollBottom) -> (e.apply s.grid).look r c = s.grid.look r c) :
    Reports s ((s.tell s.scrollRegions).edit e) := by
  -- The rows of the scroll region are told of before one of the two edits that scroll them.
  refine (reports_tell s _).trans (@reports_region _ (framed.tell _) e s.scrollTop s.scrollBottom ?_ outside)
  intro r low high c col _
  refine covered_fullRow (List.mem_append_right _ (List.mem_map_of_mem ?_)) col
  exact List.mem_range'_1.mpr ⟨low, by omega⟩

theorem nextLine_reports {s : Screen} (framed : Framed s) : Reports s s.nextLine := by
  unfold nextLine
  split
  next => exact scrolled_reports framed fun r c => scrollUp_outside framed _ 1 c
  next =>
    split
    next => exact .of_same rfl rfl rfl
    next => exact .refl s

theorem fed_reports {s : Screen} (framed : Framed s) : Reports s s.fed := by
  have unwrapped : Framed { s with pendingWrap := false } := framed.of_frame rfl
  have first : Reports s { s with pendingWrap := false } := .of_same rfl rfl rfl
  have fed := first.trans (nextLine_reports unwrapped)
  unfold Screen.fed
  dsimp only
  split
  next => exact fed.trans (.of_same rfl rfl rfl)
  next => exact fed

theorem carriageReturn_reports (s : Screen) : Reports s s.carriageReturn :=
  .of_quiet (Update.quiet .carriageReturn s)

theorem wrapped_reports {s : Screen} (safe : Safe s) : Reports s s.wrapped := by
  unfold wrapped
  split
  next =>
    split
    next =>
      have first := editLine_keeps safe (.flag false)
      have second := carriageReturn_keeps first.safe
      have third := fed_keeps second.safe
      have wrap := ((flag_reports safe.toFramed false).trans (carriageReturn_reports _)).trans
        ((fed_reports second.safe.toFramed).trans (flag_reports third.safe.toFramed true))
      exact wrap.trans (.of_same rfl rfl rfl)
    next => exact .of_same rfl rfl rfl
  next => exact .refl s

theorem padded_appends (s : Screen) : s.padded.damageMode = s.damageMode ∧ s.padded.damageList = s.damageList := by
  unfold padded
  split <;> exact ⟨rfl, rfl⟩

theorem padded_reports {s : Screen} (safe : Safe s) :
    Reports s.padded (s.padded.carriageReturn.fed.editLine (.flag true)) := by
  -- From the padding of the last cell on, a wrap of a wide character records what it changes.
  have first := padded_keeps safe
  have second := carriageReturn_keeps first.safe
  have third := fed_keeps second.safe
  exact (carriageReturn_reports _).trans
    ((fed_reports second.safe.toFramed).trans (flag_reports third.safe.toFramed true))

/-- Nothing is padded, or the padded cell is in a row that scrolls, or it reads the same. -/
def padsRecorded (s : Screen) (width : Nat) : Bool :=
  !(width == 2 && decide (s.effectiveRight - 1 ≤ s.cursor.col) && s.modes.autowrap && decide (s.cursor.col < s.cols)) ||
    s.cursor.row + 1 == s.scrollBottom || spares padCell s.line s.cursor.col

theorem fed_covers {s : Screen} (due : s.cursor.row + 1 = s.scrollBottom) {r c : Nat} (low : s.scrollTop ≤ r)
    (high : r < s.scrollBottom) (col : c < s.cols) : s.fed.Covered r c := by
  have told : s.fullRow r ∈ s.fed.damageList := by
    have here : s.fullRow r ∈ s.damageList ++ s.scrollRegions :=
      List.mem_append_right _ (List.mem_map_of_mem (List.mem_range'_1.mpr ⟨low, by omega⟩))
    unfold Screen.fed nextLine
    simp only [due, if_true]
    split <;> exact here
  exact covered_fullRow told col

theorem padded_look {s : Screen} {r c : Nat} (changed : s.padded.grid.look r c ≠ s.grid.look r c) :
    (r = s.cursor.row ∧ s.cursor.col < s.cols) ∧ spares padCell s.line s.cursor.col = false := by
  -- Padding changes no cell, or one in the row of the cursor.
  unfold padded at changed
  split at changed
  next inside =>
    rw [editLine, edit_grid, Edit.look_rows] at changed
    split at changed
    next here =>
      obtain rfl : r = s.cursor.row := by omega
      refine ⟨⟨rfl, inside⟩, Bool.eq_false_iff.mpr fun spared => changed ?_⟩
      cases found : s.grid.lines[s.cursor.row]? with
      | none => rw [look, found]; rfl
      | some row =>
        rw [line_at found] at spared
        rw [look, found]
        simp only [RowEdit.onCells, Option.bind_some, ← modify_eq_mapRange]
        exact modify_spared fun _ => spares_same spared
    next => exact absurd rfl changed
  next => exact absurd rfl changed

theorem padded_still (s : Screen) : s.padded.carriageReturn.cursor.row = s.cursor.row ∧
    s.padded.carriageReturn.scrollTop = s.scrollTop ∧ s.padded.carriageReturn.scrollBottom = s.scrollBottom := by
  unfold padded carriageReturn
  split <;> split <;> exact ⟨rfl, rfl, rfl⟩

theorem fitted_reports {s : Screen} (safe : Safe s) {width : Nat} (pads : s.padsRecorded width = true) :
    Reports s (s.fitted width) := by
  unfold fitted wideWrapped
  split
  next wide =>
    split
    next autowrap =>
      have later := padded_reports safe
      obtain ⟨mode, list⟩ := s.padded_appends
      refine ⟨later.mode.trans mode, list ▸ later.more, fun r c cell here changed => ?_⟩
      by_cases between : s.padded.grid.look r c = some cell
      next =>
        obtain ⟨⟨rfl, inside⟩, touched⟩ := padded_look (between ▸ changed.symm)
        have due : s.cursor.row + 1 = s.scrollBottom := by
          simpa [padsRecorded, wide.1, wide.2, autowrap, inside, touched] using pads
        obtain ⟨row, top, bottom⟩ := s.padded_still
        have region := safe.region
        have same : s.padded.carriageReturn.grid = s.padded.grid := (Update.quiet .carriageReturn s.padded).grid
        obtain ⟨-, col⟩ := look_inside (padded_keeps safe).safe.grid between
        exact @fed_covers s.padded.carriageReturn (by rw [row, bottom, due]) s.cursor.row c (by rw [top]; omega)
          (by rw [bottom]; omega) (by rw [cols, same]; exact col)
      next => exact later.cells r c cell here between
    next => exact .of_same rfl rfl rfl
  next => exact .refl s

/-- The cells that insert mode shifts beyond the new character read the same. -/
def shiftsInside (s : Screen) (width : Nat) : Bool :=
  let right := min s.effectiveRight s.cols
  (s.line.take right).drop (s.cursor.col + width) == (s.line.take (right - width)).drop s.cursor.col

def shiftsRecorded (s : Screen) (width : Nat) : Bool := !s.modes.insert || s.rowwise || s.shiftsInside width

def printDamage (s : Screen) (width : Nat) : List DamageRegion :=
  s.damageOf s.cursor.row s.cursor.col (s.cursor.col + width)

theorem shiftDown_inside {cells : List Cell} {col right width c : Nat} (fits : right ≤ cells.length)
    (same : (cells.take right).drop (col + width) = (cells.take (right - width)).drop col)
    (outside : ¬ (col ≤ c ∧ c < col + width)) : (shiftDown cells col right width .blank)[c]? = cells[c]? := by
  rw [getElem?_shiftDown _ _ _ _ _ _ fits]
  split
  next inside =>
    rw [if_neg (by omega)]
    have here := congrArg (fun xs => xs[c - (col + width)]?) same
    simp only [List.getElem?_drop] at here
    rw [List.getElem?_take_of_lt (by omega), List.getElem?_take_of_lt (by omega)] at here
    rw [show col + width + (c - (col + width)) = c by omega, show col + (c - (col + width)) = c - width by omega] at here
    exact here.symm
  next => rfl

theorem shifted_reports {s : Screen} (safe : Safe s) {width : Nat} (shifts : s.shiftsRecorded width = true) :
    Reports s ((s.shifted width).tell (s.printDamage width)) := by
  unfold shifted
  split
  next insert =>
    refine (reports_tell s _).trans (told_row_reports (safe.toFramed.tell _) rfl (List.subset_append_right _ _) rfl rfl ?_)
    intro row found
    have found : s.grid.lines[s.cursor.row]? = some row := found
    simp only [shiftsRecorded, insert, Bool.not_true, Bool.false_or, Bool.or_eq_true] at shifts
    refine shifts.imp_right fun inside c outside => ?_
    rw [shiftsInside, line_at found, beq_iff_eq] at inside
    exact shiftDown_inside (by rw [safe.grid.cells_at found]; exact Nat.min_le_right ..) inside outside
  next => exact reports_tell s _

theorem put_reports {s : Screen} (safe : Safe s) (c : Char) {width : Nat} (some : 0 < width)
    (prints : s.rowwise = true ∨ printsInside s.line s.cursor.col width = true) :
    Reports (s.tell (s.printDamage width)) (s.put c width) := by
  have printed : Reports (s.tell (s.printDamage width)) ((s.tell (s.printDamage width)).editLine (s.printEdit c width)) := by
    refine told_row_reports (safe.toFramed.tell _) rfl (List.subset_append_right _ _) rfl rfl ?_
    intro row found
    have found : s.grid.lines[s.cursor.row]? = .some row := found
    rw [line_at found] at prints
    exact prints.imp_right fun inside i outside => printCells_inside _ _ some inside outside
  refine printed.trans ?_
  unfold put advanced
  split <;> exact .of_same rfl rfl rfl

theorem fitted_appends {s : Screen} (safe : Safe s) (width : Nat) :
    (s.fitted width).damageMode = s.damageMode ∧ s.damageList <+: (s.fitted width).damageList := by
  unfold fitted wideWrapped
  split_ifs
  next =>
    have later := padded_reports safe
    obtain ⟨mode, list⟩ := s.padded_appends
    exact ⟨later.mode.trans mode, list ▸ later.more⟩
  all_goals exact ⟨rfl, List.prefix_rfl⟩

theorem shifted_still (s : Screen) (width : Nat) : (s.shifted width).damageMode = s.damageMode ∧
    (s.shifted width).damageList = s.damageList ∧ (s.shifted width).printDamage width = s.printDamage width := by
  unfold shifted
  split
  next =>
    refine ⟨rfl, rfl, ?_⟩
    simp only [printDamage, damageOf, editLine, edit_rows, edit_cols]
    rfl
  next => exact ⟨rfl, rfl, rfl⟩

theorem put_list (s : Screen) (c : Char) (width : Nat) :
    (s.put c width).damageMode = s.damageMode ∧ (s.put c width).damageList = s.damageList ++ s.printDamage width := by
  unfold put advanced
  split <;> exact ⟨rfl, rfl⟩

theorem printDamage_some {s : Screen} (safe : Safe s) (width : Nat) : s.printDamage width ≠ [] := by
  have row : ¬ s.rows ≤ s.cursor.row := Nat.not_le_of_lt safe.row
  rw [printDamage, damageOf, if_neg row]
  cases s.damageMode <;> exact List.cons_ne_nil _ _

theorem printed_reports {s : Screen} (safe : Safe s) (c : Char) {width : Nat} (some : 0 < width)
    (pads : s.damageMode = .screen ∨ s.padsRecorded width = true)
    (shifts : (s.fitted width).shiftsRecorded width = true)
    (prints : ((s.fitted width).shifted width).rowwise = true ∨
      printsInside ((s.fitted width).shifted width).line ((s.fitted width).shifted width).cursor.col width = true) :
    Reports s (((s.fitted width).shifted width).put c width) := by
  -- The stages of a character after the wrap. In screen mode what one of them records stands for all.
  have fits := fitted_keeps safe width
  have shift := shifted_keeps fits.safe width
  obtain ⟨shiftMode, shiftList, sameDamage⟩ := (s.fitted width).shifted_still width
  rcases pads with whole | pads
  next =>
    obtain ⟨fitMode, fitMore⟩ := fitted_appends safe width
    obtain ⟨putMode, putList⟩ := ((s.fitted width).shifted width).put_list c width
    refine .of_screen (putMode.trans (shiftMode.trans fitMode)) ?_ whole ?_
    next => rw [putList, shiftList]; exact fitMore.trans (List.prefix_append ..)
    next =>
      rw [putList]
      exact List.append_ne_nil_of_right_ne_nil _ (printDamage_some shift.safe width)
  next =>
    have second := shifted_reports fits.safe shifts
    rw [← sameDamage] at second
    exact ((fitted_reports safe pads).trans second).trans (put_reports shift.safe c some prints)

def erasesRecorded (s : Screen) (selective : Bool) (left stop : Nat) : Bool :=
  selective || s.rowwise || erasesInside s.line left stop

theorem eraseSpan_inside {s : Screen} {selective : Bool} {left stop right : Nat} {row : Row}
    (found : s.grid.lines[s.cursor.row]? = some row) (fits : stop ≤ right)
    (erases : s.erasesRecorded selective left stop = true) : s.rowwise = true ∨
      ∀ c, ¬ (left ≤ c ∧ c < right) -> ((eraseSpan selective left stop).onCells row.cells)[c]? = row.cells[c]? := by
  cases selective with
  | true =>
    refine .inr fun c outside => ?_
    simp only [eraseSpan, if_true, RowEdit.onCells]
    rw [getElem?_mapRange, if_neg (by omega)]
  | false =>
    simp only [erasesRecorded, Bool.false_or, Bool.or_eq_true, line_at found] at erases
    exact erases.imp_right fun inside c outside => blankSpan_inside inside (by omega)

theorem erased_reports {s : Screen} (safe : Safe s) {selective : Bool} {left stop right : Nat} (fits : stop ≤ right)
    (erases : s.erasesRecorded selective left stop = true) :
    Reports s ((s.tell (s.damageOf s.cursor.row left right)).editLine (eraseSpan selective left stop)) :=
  (reports_tell s _).trans (told_row_reports (safe.toFramed.tell _) rfl (List.subset_append_right _ _) rfl rfl
    fun _ found => eraseSpan_inside found fits erases)

theorem eraseWhole_reports {s : Screen} (framed : Framed s) (selective : Bool) (top bottom : Nat) :
    Reports s ((s.tell (s.rowsDamage top bottom)).edit (.rows top bottom (eraseWhole selective s.cols))) :=
  (reports_tell s _).trans (told_rows_reports (framed.tell _) rfl (List.subset_append_right _ _) rfl rfl)

def eraseDisplayRecorded (s : Screen) (mode : EraseDisplay) (selective : Bool) : Bool :=
  match mode with
  | .below => s.erasesRecorded selective s.cursor.col s.cols
  | .above => s.erasesRecorded selective 0 (min (s.cursor.col + 1) s.cols)
  | .all | .scrollback => true

def eraseLineRecorded (s : Screen) (mode : EraseLine) (selective : Bool) : Bool :=
  match mode with
  | .toRight => s.erasesRecorded selective s.cursor.col s.cols
  | .toLeft => s.erasesRecorded selective 0 (min (s.cursor.col + 1) s.cols)
  | .all => true

theorem afterEraseLine_reports {s : Screen} (safe : Safe s) {mode : EraseLine} {selective : Bool}
    (erases : s.eraseLineRecorded mode selective = true) : Reports s (s.afterEraseLine mode selective) := by
  cases mode with
  | toRight => exact erased_reports safe (Nat.le_refl _) erases
  | toLeft => exact erased_reports safe (Nat.min_le_left ..) erases
  | all =>
    refine (reports_tell s _).trans (told_row_reports (safe.toFramed.tell _) rfl (List.subset_append_right _ _) rfl rfl ?_)
    intro row found
    refine .inr fun c outside => ?_
    have size := safe.grid.cells_at found
    have beyond : row.cells.length ≤ c := by rw [size]; exact Nat.le_of_not_lt fun inside => outside ⟨Nat.zero_le c, inside⟩
    rw [List.getElem?_eq_none (by rw [RowEdit.length_onCells]; exact beyond), List.getElem?_eq_none beyond]

theorem afterEraseDisplay_reports {s : Screen} (safe : Safe s) {mode : EraseDisplay} {selective : Bool}
    (erases : s.eraseDisplayRecorded mode selective = true) : Reports s (s.afterEraseDisplay mode selective) := by
  cases mode with
  | below =>
    have told := (reports_tell s (s.damageOf s.cursor.row s.cursor.col s.cols)).trans
      (reports_tell _ (s.rowsDamage (s.cursor.row + 1) s.rows))
    have framed := (safe.toFramed.tell (s.damageOf s.cursor.row s.cursor.col s.cols)).tell
      (s.rowsDamage (s.cursor.row + 1) s.rows)
    have span := @told_row_reports s _ framed s.cursor.row s.cursor.col s.cols (eraseSpan selective s.cursor.col s.cols) rfl
      (fun region member => List.mem_append_left _ (List.mem_append_right _ member)) rfl rfl
      fun _ found => eraseSpan_inside found (Nat.le_refl _) erases
    refine told.trans (span.trans ?_)
    exact told_rows_reports (framed.edit _) rfl (List.subset_append_right _ _) (edit_rows ..) (edit_cols ..)
  | above =>
    have whole := eraseWhole_reports safe.toFramed selective 0 s.cursor.row
    have framed := ((safe.toFramed.tell (s.rowsDamage 0 s.cursor.row)).edit
      (.rows 0 s.cursor.row (eraseWhole selective s.cols))).tell (s.damageOf s.cursor.row 0 (s.cursor.col + 1))
    refine (whole.trans (reports_tell _ (s.damageOf s.cursor.row 0 (s.cursor.col + 1)))).trans ?_
    refine told_row_reports framed rfl (List.subset_append_right _ _) (edit_rows ..) (edit_cols ..) fun row found => ?_
    have found : (mapRange s.grid.lines 0 s.cursor.row fun _ => (eraseWhole selective s.cols).apply)[s.cursor.row]? =
        some row := found
    rw [getElem?_mapRange, if_neg (by omega)] at found
    exact @eraseSpan_inside s _ _ _ _ _ found (Nat.min_le_left ..) erases
  | all => exact eraseWhole_reports safe.toFramed selective 0 s.rows
  | scrollback => exact ⟨rfl, List.prefix_rfl, fun _ _ _ here changed => absurd here changed⟩

theorem afterEraseChars_reports {s : Screen} (safe : Safe s) {count : Nat}
    (erases : s.erasesRecorded false s.cursor.col (min (s.cursor.col + count) s.cols) = true) :
    Reports s (s.afterEraseChars count) :=
  (erased_reports safe (Nat.le_refl _) erases).trans (.of_same rfl rfl rfl)

theorem withChars_reports {s : Screen} (safe : Safe s) {e : RowEdit}
    (within : ∀ row, s.grid.lines[s.cursor.row]? = some row ->
      ∀ c, ¬ (s.cursor.col ≤ c ∧ c < s.effectiveRight) -> (e.onCells row.cells)[c]? = row.cells[c]?) :
    Reports s (s.withChars e) := by
  -- What inserts or deletes cells up to the right margin leaves the cells beside alone.
  have edited := (reports_tell s (s.damageOf s.cursor.row s.cursor.col s.effectiveRight)).trans
    (told_row_reports (safe.toFramed.tell _) rfl (List.subset_append_right _ _) rfl rfl
      fun row found => .inr (within row found))
  exact edited.trans (.of_same rfl rfl rfl)

theorem insertChars_reports {s : Screen} (safe : Safe s) (count : Nat) :
    Reports s (s.withChars (.insert s.cursor.col (min s.effectiveRight s.grid.cols) count)) := by
  apply withChars_reports safe
  intro row found c outside
  have fits : min s.effectiveRight s.grid.cols ≤ row.cells.length := by
    rw [safe.grid.cells_at found]
    exact Nat.min_le_right ..
  rw [RowEdit.onCells, getElem?_shiftDown _ _ _ _ _ _ fits, if_neg (by omega)]

theorem deleteChars_reports {s : Screen} (safe : Safe s) (count : Nat) :
    Reports s (s.withChars (.delete s.cursor.col (min s.effectiveRight s.grid.cols) count)) := by
  apply withChars_reports safe
  intro row found c outside
  have fits : min s.effectiveRight s.grid.cols ≤ row.cells.length := by
    rw [safe.grid.cells_at found]
    exact Nat.min_le_right ..
  rw [RowEdit.onCells, getElem?_shiftUp _ _ _ _ _ _ fits, if_neg (by omega)]

theorem withLines_reports {s : Screen} (e : Edit) (outside : s.cursorInRegion = false) : Reports s (s.withLines e) := by
  simp only [withLines, outside, Bool.false_eq_true, if_false]
  exact .of_same rfl rfl rfl

theorem reversed_reports {s : Screen} (inside : s.cursor.row ≠ s.scrollTop) : Reports s s.reversed := by
  rw [reversed, if_neg inside]
  exact .of_same rfl rfl rfl

def emptyRect (s : Screen) (top left bottom right : Nat) : Bool :=
  decide (min bottom s.rows ≤ firstIndex top s.rows) || decide (min right s.cols ≤ firstIndex left s.cols)

theorem emptyRect_reports {s : Screen} (framed : Framed s) {top left bottom right : Nat} (f : Cell -> Cell)
    (empty : s.emptyRect top left bottom right = true) :
    Reports s (s.edit (.rows (firstIndex top s.rows) (min bottom s.rows)
      (.cells (firstIndex left s.cols) (min right s.cols) f))) := by
  apply reports_edit framed
  intro r c _ _ changed
  simp only [emptyRect, Bool.or_eq_true, decide_eq_true_eq] at empty
  rw [Edit.look_rows] at changed
  split at changed
  next inside =>
    have columns : min right s.cols ≤ firstIndex left s.cols := by omega
    simp only [RowEdit.onCells, mapRange_empty _ _ columns] at changed
    exact absurd rfl changed
  next => exact absurd rfl changed

theorem copied_reports {s : Screen} {srcTop srcLeft srcBottom srcRight : Nat} (dstTop dstLeft : Nat)
    (empty : s.emptyRect srcTop srcLeft srcBottom srcRight = true) :
    Reports s (s.copied srcTop srcLeft srcBottom srcRight dstTop dstLeft) := by
  rw [copied, if_pos (by simpa [emptyRect] using empty)]
  exact .refl s

theorem Reports.of_all {s s' : Screen} (framed : Framed s') (mode : s'.damageMode = s.damageMode)
    (more : s.damageList <+: s'.damageList) (all : ∀ r c, r < s'.rows -> c < s'.cols -> s'.Covered r c) :
    Reports s s' := by
  -- Every row of the screen that comes out is told of.
  refine ⟨mode, more, fun r c cell here _ => ?_⟩
  obtain ⟨row, col⟩ := look_inside framed.grid here
  exact all r c row col

theorem full_reports {s t : Screen} (framed : Framed t.recordFullDamage) (mode : t.damageMode = s.damageMode)
    (list : t.damageList = s.damageList) : Reports s t.recordFullDamage := by
  refine .of_all framed mode ?_ fun r c row col => ?_
  next => exact list ▸ List.prefix_append ..
  next => exact @covered_fullRow t _ r c (List.mem_append_right _ (List.mem_map_of_mem (List.mem_range.mpr row))) col

theorem enteredAlt_reports {s : Screen} (safe : Safe s) (save : Bool) : Reports s (s.enteredAlt save) := by
  have framed := (enteredAlt_keeps safe save).safe.toFramed
  unfold enteredAlt at framed ⊢
  split
  next => exact .refl s
  next alternate =>
    rw [if_neg alternate] at framed
    refine full_reports framed ?_ ?_ <;> cases save <;> rfl

theorem leaveAltScreen_reports {s : Screen} (restore : Bool) (framed : Framed (s.leaveAltScreen restore)) :
    Reports s (s.leaveAltScreen restore) := by
  unfold leaveAltScreen at framed ⊢
  split
  next alternate =>
    rw [if_pos alternate] at framed
    cases restore with
    | false => exact full_reports framed rfl rfl
    | true => exact full_reports framed (restoreCursor_quiet _).damageMode (restoreCursor_quiet _).damageList
  next => exact .refl s

theorem deccolmed_reports {s : Screen} (framed : Framed s) (enable : Bool) (row : Nat) :
    Reports s (s.deccolmed enable row) := by
  refine .of_all (deccolmed_valid framed enable row).toFramed rfl (List.prefix_append ..) fun r c inRows inCols => ?_
  exact @covered_rowsDamage (s.resizedTo (deccolmCols enable) s.rows row) _ 0
    (s.resizedTo (deccolmCols enable) s.rows row).rows r c rfl (List.subset_append_right _ _) (Nat.zero_le r) inRows inRows inCols

end Screen

open Screen

/-! ## Which operations record what they change -/

def Op.records (op : Op) (s : Screen) : Bool :=
  match op with
  | .reverseIndex => s.cursor.row != s.scrollTop
  | .insertLines _ | .deleteLines _ => !s.cursorInRegion
  | .fillRect _ top left bottom right | .selectiveEraseRect top left bottom right => s.emptyRect top left bottom right
  | .copyRect srcTop srcLeft srcBottom srcRight _ _ => s.emptyRect srcTop srcLeft srcBottom srcRight
  | .decaln | .reset => false
  | .fitWide width => decide (s.damageMode = .screen) || s.padsRecorded width
  | .shiftForInsert width => s.shiftsRecorded width
  | .putChar _ width => s.rowwise || printsInside s.line s.cursor.col width
  | .eraseDisplay mode selective => s.eraseDisplayRecorded mode selective
  | .eraseLine mode selective => s.eraseLineRecorded mode selective
  | .eraseChars count => s.erasesRecorded false s.cursor.col (min (s.cursor.col + count) s.cols)
  -- The cursor of the other buffer may be below the screen, where nothing is recorded.
  | .leaveAltScreen restore => restore || !s.modes.altScreen || decide (s.altCursor.row < s.rows)
  | _ => true

theorem Op.reports (op : Op) {s : Screen} (safe : Safe s) (records : op.records s = true) (guest : op.isResize = false)
    (whole : op.isStage = false) : Ensures OnlySlice (op.exec s) (Reports s) := by
  have framed := safe.toFramed
  have ends {x : Fallible Screen} {t : Screen} (result : x = .ok t) (reports : Reports s t) :
      Ensures OnlySlice x (Reports s) := by rw [result]; exact reports
  -- What an operation records against what its edit changes.
  cases op with
  | wrapPending | fitWide | shiftForInsert | putChar => cases whole
  | resize => cases guest
  | decaln | reset => cases records
  | update u => exact Reports.of_quiet (u.quiet s)
  | osc parts => exact (handleOsc_told s parts).weaken fun _ told => .of_quiet told.toQuiet
  | linefeed => exact ends (linefeed_ok framed) (fed_reports framed)
  | reverseIndex => exact ends (reverseIndex_ok framed) (reversed_reports (by simpa [Op.records] using records))
  | eraseDisplay mode selective => exact ends (eraseDisplay_ok safe mode selective) (afterEraseDisplay_reports safe records)
  | eraseLine mode selective => exact ends (eraseLine_ok safe mode selective) (afterEraseLine_reports safe records)
  | eraseChars count => exact ends (eraseChars_ok safe count) (afterEraseChars_reports safe records)
  | insertLines count =>
    exact ends (insertLines_ok framed count) (withLines_reports _ (by simpa [Op.records] using records))
  | deleteLines count =>
    exact ends (deleteLines_ok framed count) (withLines_reports _ (by simpa [Op.records] using records))
  | insertChars count => exact ends (insertChars_ok safe count) (insertChars_reports safe count)
  | deleteChars count => exact ends (deleteChars_ok safe count) (deleteChars_reports safe count)
  | scrollUp count =>
    exact ends (Screen.scrollUp_ok framed count) (scrolled_reports framed fun r c => scrollUp_outside framed _ count c)
  | scrollDown count =>
    exact ends (Screen.scrollDown_ok framed count) (scrolled_reports framed fun r c => scrollDown_outside framed _ count c)
  | fillRect ch top left bottom right =>
    exact ends (eachCell_edit framed _ _ _ (Nat.min_le_right ..) (Nat.min_le_right ..)) (emptyRect_reports framed _ records)
  | selectiveEraseRect top left bottom right =>
    exact ends (eachCell_edit framed _ _ _ (Nat.min_le_right ..) (Nat.min_le_right ..)) (emptyRect_reports framed _ records)
  | copyRect srcTop srcLeft srcBottom srcRight dstTop dstLeft =>
    exact ends (copyRect_ok framed ..) (copied_reports dstTop dstLeft records)
  | enterAltScreen save => exact ends (enterAltScreen_ok framed save) (enteredAlt_reports safe save)
  | leaveAltScreen restore =>
    have inside (off : restore = false) (on : s.modes.altScreen = true) : s.altCursor.row < s.rows := by
      simpa [Op.records, off, on] using records
    exact leaveAltScreen_reports restore (leaveAltScreen_safe safe restore inside).toFramed
  | deccolm enable =>
    by_cases allowed : s.modes.allowDeccolm = true
    next =>
      obtain ⟨row, result⟩ := @deccolm_ok s framed enable allowed
      exact ends result (deccolmed_reports framed enable row)
    next =>
      rw [exec, Screen.deccolm, onlyIf_false _ _ allowed]
      exact Reports.refl s

theorem Op.safe (op : Op) {s : Screen} (safe : Safe s) (records : op.records s = true) (guest : op.isResize = false) :
    Ensures OnlySlice (op.exec s) Safe := by
  have others (stays : op.jumps = false) : Ensures OnlySlice (op.exec s) Safe :=
    (op.keeps safe stays).weaken fun _ keeps => keeps.safe
  cases op with
  | resize => cases guest
  | leaveAltScreen restore =>
    have inside (off : restore = false) (on : s.modes.altScreen = true) : s.altCursor.row < s.rows := by
      simpa [Op.records, off, on] using records
    exact leaveAltScreen_safe safe restore inside
  | _ => exact others rfl

theorem writeChar_reports {s : Screen} (safe : Safe s) (c : Char)
    (along : Along Op.exec (fun op s => op.records s = true) (s.writeCharOps c) s) :
    Ensures OnlySlice (run Op.exec (s.writeCharOps c) s) fun s' => Safe s' ∧ Reports s s' := by
  have begin : Safe (s.beginChar (s.mapChar c)) := safe.of_frame rfl safe.row
  have quiet : Reports s (s.beginChar (s.mapChar c)) := .of_same rfl rfl rfl
  unfold writeCharOps at along ⊢
  dsimp only at along ⊢
  -- A character without columns, or without a screen, ends before its first write.
  by_cases stops : s.cols = 0 ∨ s.rows = 0 ∨ charWidth (s.mapChar c) = 0
  next =>
    rw [if_pos stops]
    exact ⟨begin, quiet⟩
  next =>
    rw [if_neg stops] at along ⊢
    generalize charWidth (s.mapChar c) = width at stops along ⊢
    generalize s.mapChar c = mapped at along ⊢ begin quiet
    have wrap := wrapped_keeps begin
    have fit := fitted_keeps wrap.safe width
    have shift := shifted_keeps fit.safe width
    have wraps : Op.exec .wrapPending (s.beginChar mapped) = .ok (s.beginChar mapped).wrapped := wrapPending_ok begin
    have fits : Op.exec (.fitWide width) (s.beginChar mapped).wrapped = .ok ((s.beginChar mapped).wrapped.fitted width) :=
      fitWide_ok wrap.safe width
    have shifts : Op.exec (.shiftForInsert width) ((s.beginChar mapped).wrapped.fitted width) =
        .ok (((s.beginChar mapped).wrapped.fitted width).shifted width) := shiftForInsert_ok fit.safe width
    have puts : Op.exec (.putChar mapped width) (((s.beginChar mapped).wrapped.fitted width).shifted width) =
        .ok ((((s.beginChar mapped).wrapped.fitted width).shifted width).put mapped width) := putChar_ok shift.safe mapped width
    have first : Op.exec (.update (.beginChar mapped)) s = .ok (s.beginChar mapped) := rfl
    simp only [Along, first, wraps, fits, shifts, puts, Ensures, Op.records] at along
    simp only [run_cons, first, ok_bind, wraps, fits, shifts, puts, run_nil]
    obtain ⟨-, -, pads, shifting, prints, -⟩ := along
    simp only [Bool.or_eq_true, decide_eq_true_eq] at pads prints
    have later := printed_reports wrap.safe mapped (Nat.pos_of_ne_zero fun none => stops (.inr (.inr none))) pads shifting prints
    exact ⟨(put_keeps shift.safe mapped width).safe, (quiet.trans (wrapped_reports begin)).trans later⟩

theorem Call.reports (call : Call) {s : Screen} (safe : Safe s) (called : call.isUncalled = false)
    (along : Along Op.exec (fun op s => op.records s = true) (call.ops s) s) :
    Ensures OnlySlice (call.exec s) fun s' => Safe s' ∧ Reports s s' := by
  cases call with
  | writeChar c => exact writeChar_reports safe c along
  | op o =>
    have plain : o.isResize = false ∧ o.isStage = false := by simpa [Call.isUncalled] using called
    have reports := o.reports safe along.1 plain.1 plain.2
    rw [exec_op]
    exact (o.safe safe along.1 plain.1).and (reports.allow fun _ _ => trivial)

def Screen.Repaints (s s' : Screen) : Prop :=
  ∀ r c cell, s'.grid.look r c = some cell -> s.grid.look r c ≠ some cell ->
    ∃ region ∈ s'.takeDamage.1, region.Covers r c

namespace Terminal

theorem damage_covers {t : Terminal} (safe : Safe t.screen) (inputs : List Bytes)
    (records : EveryOp (fun op s => op.records s = true) (inputs.map .bytes) { t with screen := t.screen.takeDamage.2 }) :
    Ensures OnlySlice (run handle (inputs.map .bytes) { t with screen := t.screen.takeDamage.2 }) fun t' =>
      t.screen.Repaints t'.screen := by
  have taken : Safe t.screen.takeDamage.2 := safe.of_frame rfl safe.row
  have called : ∀ call ∈ calls (inputs.map .bytes) { t with screen := t.screen.takeDamage.2 }, call.isUncalled = false := by
    intro call member
    refine (called_of_mem_calls member).resolve_right ?_
    rintro ⟨cols, rows, -, asked⟩
    simp at asked
  have ran := @ensures_calls OnlySlice _ (fun s' => Safe s' ∧ Reports t.screen.takeDamage.2 s')
    (by
      intro call s ok good
      refine (call.reports good.1 ok.2 ok.1).weaken fun s' both => ⟨both.1, good.2.trans both.2⟩)
    _ _ ((Along.of_expand records).with_members called) ⟨taken, .refl _⟩
  refine ran.weaken fun t' both r c cell here changed => ?_
  obtain ⟨row, col⟩ := look_inside both.1.grid here
  exact takeDamage_covers (both.2.cells r c cell here changed) row col

theorem damage_covers_letter :
    Ensures OnlySlice (run handle [.bytes (ascii ['a'])] { new 2 2 with screen := (new 2 2).screen.takeDamage.2 }) fun t' =>
      (new 2 2).screen.Repaints t'.screen :=
  @damage_covers (new 2 2) (new_valid (by decide) (by decide)).toSafe [ascii ['a']] (by
    unfold EveryOp
    simp only [List.map, ops, calls, Event.calls, handle_eq, Parser.advance_eq_advanceBytes]
    decide)

/-- A reverse index in the first row moves the `a` down and records nothing. -/
theorem reverse_index_unrecorded :
    ∃ t, run handle [.bytes (ascii ['a'])] (new 2 2) = .ok t ∧
      ∃ t', run handle [.bytes (0x1B :: ascii ['M'])] { t with screen := t.screen.takeDamage.2 } = .ok t' ∧
        ¬ t.screen.Repaints t'.screen := by
  rw [handle_eq]
  refine ⟨_, rfl, _, rfl, fun repaints => ?_⟩
  obtain ⟨region, member, -⟩ := repaints 0 0 .blank rfl (by decide)
  have nothing : region ∈ mergeDamage [] := member
  simp [mergeDamage] at nothing

end Terminal

end Emux
