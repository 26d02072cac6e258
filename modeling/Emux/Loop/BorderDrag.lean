import Mathlib.Algebra.Order.Floor.Ring
import Mathlib.Tactic.FieldSimp
import Mathlib.Tactic.Linarith
import Emux.Loop.EventLoop
import Emux.Mux.Dividers
import Emux.Mux.Neighbors
import Emux.Mux.TabRuns

set_option autoImplicit false

/-!
# Dragging a border

A click in the last column or row before an edge that another pane begins at starts a drag of that edge.
The drag resizes the clicked pane by the cells the pointer has moved.
-/

namespace Emux

open Checked

def detectBorderClick (positions : List (PaneId × PanePosition)) (col row : UInt16) : Option BorderDrag :=
  let c := col.toNat
  let r := row.toNat
  positions.findSome? fun (id, pos) =>
    let rightEdge := pos.col + pos.cols
    let bottomEdge := pos.row + pos.rows
    if (0 < rightEdge ∧ c = rightEdge - 1 ∧ pos.row ≤ r ∧ r < pos.row + pos.rows) ∧
        positions.any (fun other => other.1 != id && other.2.col == rightEdge) then
      some { paneId := id, vertical := true, lastCol := col, lastRow := row }
    else if (0 < bottomEdge ∧ r = bottomEdge - 1 ∧ pos.col ≤ c ∧ c < pos.col + pos.cols) ∧
        positions.any (fun other => other.1 != id && other.2.row == bottomEdge) then
      some { paneId := id, vertical := false, lastCol := col, lastRow := row }
    else none

namespace BorderDrag

def axis (drag : BorderDrag) : SplitDirection := if drag.vertical then .vertical else .horizontal

def delta (drag : BorderDrag) (col row : UInt16) : Int :=
  if drag.vertical then col.toNat - drag.lastCol.toNat else row.toNat - drag.lastRow.toNat

end BorderDrag

theorem detectBorderClick_listed {positions : List (PaneId × PanePosition)} {col row : UInt16} {drag : BorderDrag}
    (clicked : detectBorderClick positions col row = some drag) :
    ∃ pos, (drag.paneId, pos) ∈ positions ∧ 0 < pos.stop drag.axis ∧
      ∃ other ∈ positions, other.2.start drag.axis = pos.stop drag.axis := by
  obtain ⟨⟨id, pos⟩, member, found⟩ := List.exists_of_findSome?_eq_some clicked
  simp only at found
  split at found
  next right =>
    obtain rfl := Option.some.inj found
    obtain ⟨other, listed, meets⟩ := List.any_eq_true.mp right.2
    exact ⟨pos, member, right.1.1, other, listed, beq_iff_eq.mp (Bool.and_eq_true_iff.mp meets).2⟩
  next =>
    split at found
    next bottom =>
      obtain rfl := Option.some.inj found
      obtain ⟨other, listed, meets⟩ := List.any_eq_true.mp bottom.2
      exact ⟨pos, member, bottom.1.1, other, listed, beq_iff_eq.mp (Bool.and_eq_true_iff.mp meets).2⟩
    next => cases found

/-- `(extent * ratio).round()` before it becomes an unsigned number. -/
def rounded (extent : Nat) (ratio : Rat) : Int := ⌊(extent : Rat) * ratio + 1 / 2⌋

theorem firstExtent_rounded {extent : Nat} (ratio : Rat) (room : 0 < extent) :
    (firstExtent extent ratio : Int) = min (max (rounded extent ratio) 1) (extent - 1) := by
  have share : Ratio.share extent ratio = (rounded extent ratio).toNat := rfl
  rw [firstExtent, share]
  omega

theorem rounded_mono (extent : Nat) {low high : Rat} (le : low ≤ high) : rounded extent low ≤ rounded extent high := by
  apply Int.floor_mono
  have scaled := mul_le_mul_of_nonneg_left le (Nat.cast_nonneg (α := Rat) extent)
  linarith

theorem rounded_shift {extent : Nat} (ratio : Rat) (delta : Int) (room : 0 < extent) :
    rounded extent (ratio + Ratio.portion delta extent) = rounded extent ratio + delta := by
  have nonzero : (extent : Rat) ≠ 0 := Nat.cast_ne_zero.mpr (Nat.pos_iff_ne_zero.mp room)
  have portion : (Ratio.portion delta extent : Rat) = delta / extent := rfl
  rw [rounded, rounded, portion, mul_add, mul_div_cancel₀ _ nonzero, add_right_comm, Int.floor_add_intCast]

theorem rounded_clamp (extent : Nat) (ratio : Rat) :
    rounded extent (Ratio.clamp ratio) =
      max (rounded extent (1 / 10)) (min (rounded extent (9 / 10)) (rounded extent ratio)) := by
  have clamp : Ratio.clamp ratio = max (1 / 10) (min (9 / 10) ratio) := rfl
  have mono : Monotone (rounded extent) := fun _ _ le => rounded_mono extent le
  rw [clamp, mono.map_max, mono.map_min]

theorem rounded_fraction {extent : Nat} {ratio : Rat} (low : 0 ≤ ratio) (high : ratio ≤ 1) :
    0 ≤ rounded extent ratio ∧ rounded extent ratio ≤ extent := by
  have least := rounded_mono extent low
  have most := rounded_mono extent high
  have zero : rounded extent 0 = 0 := by norm_num [rounded]
  have one : rounded extent 1 = extent := by
    rw [rounded, mul_one, Int.floor_natCast_add]
    norm_num
  omega

theorem clip_clamp {least most top x : Int} :
    min (max (max least (min most x)) 1) top =
      max (min (max least 1) top) (min (min (max most 1) top) (min (max x 1) top)) := by
  have clip : Monotone fun x : Int => min (max x 1) top := fun _ _ le => min_le_min_right _ (max_le_max_right _ le)
  exact clip.map_max.trans (congrArg _ clip.map_min)

theorem clamp_clip {least most top x : Int} (low : min 1 top ≤ least) (high : most ≤ top) (room : 0 ≤ top) :
    max least (min most (min (max x 1) top)) = max least (min most x) := by
  omega

theorem clamp_near {least most x y : Int} (near : |x - y| ≤ 1) :
    |max least (min most x) - max least (min most y)| ≤ 1 := by
  rw [abs_le] at near ⊢
  omega

theorem firstExtent_moved {extent : Nat} {ratio : Rat} (delta : Int) (low : 0 ≤ ratio) (high : ratio ≤ 1)
    (room : 0 < extent) :
    |(firstExtent extent (Ratio.clamp (ratio + Ratio.portion delta extent)) : Int) -
      max (firstExtent extent (1 / 10 : Rat) : Int)
        (min (firstExtent extent (9 / 10 : Rat)) (firstExtent extent ratio + delta))| ≤ 1 := by
  obtain ⟨least, most⟩ := @rounded_fraction extent ratio low high
  simp only [firstExtent_rounded _ room, rounded_clamp, rounded_shift _ _ room]
  rw [clip_clamp, clamp_clip (by omega) (by omega) (by omega)]
  apply clamp_near
  rw [abs_le]
  omega

namespace Tab

/-- The split that the far border of a pane belongs to: the area it divides, and its ratio. -/
def borderOwner (tab : Tab Rat) (id : PaneId) (axis : SplitDirection) : Option (PanePosition × Rat) :=
  tab.layout.root.bind fun root =>
    Divider.owner axis (root.dividers id) (.whole tab.size.cols tab.size.rows)

/-- From `tab` to `next` the far border of the pane moves by `delta` cells, up to one cell of rounding and
the limits of the split it belongs to. -/
def BorderFollows (tab next : Tab Rat) (id : PaneId) (axis : SplitDirection) (delta : Int) : Prop :=
  ∃ old new whole ratio, tab.tiledPosition id = some old ∧ next.tiledPosition id = some new ∧
    tab.borderOwner id axis = some (whole, ratio) ∧
    if delta = 0 then new.stop axis = old.stop axis
    else
      let low : Int := whole.start axis + firstExtent (whole.along axis) (1 / 10 : Rat)
      let high : Int := whole.start axis + firstExtent (whole.along axis) (9 / 10 : Rat)
      |(new.stop axis : Int) - max low (min high (old.stop axis + delta))| ≤ 1

def fixedAlong (axis : SplitDirection) (pane : Pane) : Bool :=
  match axis with
  | .horizontal => pane.hasFixedRows
  | .vertical => pane.hasFixedCols

/-- The border belongs to the outermost split along the axis above the pane, whose ratio is a fraction,
and the pane has no fixed size along the axis. -/
structure OwnsBorder (tab : Tab Rat) (id : PaneId) (axis : SplitDirection) : Prop where
  outermost : ∃ root divider inner, tab.layout.root = some root ∧ root.along id axis = divider :: inner ∧
    divider.inFirst = true ∧ (∀ below ∈ inner, below.inFirst = false) ∧ 0 ≤ divider.ratio ∧ divider.ratio ≤ 1
  free : ∀ pane, tab.panes.lookup id = some pane -> fixedAlong axis pane = false

theorem OwnsBorder.split {tab : Tab Rat} {id : PaneId} {axis : SplitDirection} (owned : tab.OwnsBorder id axis) :
    ∃ root divider before after, tab.layout.root = some root ∧ root.dividers id = before ++ divider :: after ∧
      (∀ other ∈ before, other.direction ≠ axis) ∧ divider.direction = axis ∧ divider.inFirst = true ∧
      (∀ below ∈ after, below.direction = axis -> below.inFirst = false) ∧ 0 ≤ divider.ratio ∧ divider.ratio ≤ 1 := by
  obtain ⟨root, divider, inner, is, above, first, second, low, high⟩ := owned.outermost
  obtain ⟨before, after, split, outer, isAlong, rest⟩ := List.filter_eq_cons_iff.mp above
  refine ⟨root, divider, before, after, is, split, by simpa using outer, by simpa using isAlong, first, ?_, low, high⟩
  intro below member same
  exact second below (rest ▸ List.mem_filter.mpr ⟨member, by simpa using same⟩)

theorem tiledPosition_of {tab : Tab Rat} {root : LayoutNode Rat} (is : tab.layout.root = some root) {id : PaneId}
    (present : id ∈ root.paneIds) :
    tab.tiledPosition id = some ((root.dividers id).foldl Divider.part (.whole tab.size.cols tab.size.rows)) := by
  have found := root.position_of present (.whole tab.size.cols tab.size.rows)
  rw [tiledPosition, tiledPositions, LayoutEngine.computePositions, is]
  exact congrArg (Option.map Prod.snd) found

theorem stop_outermost {tab : Tab Rat} {root : LayoutNode Rat} (is : tab.layout.root = some root) {id : PaneId}
    (present : id ∈ root.paneIds) {axis : SplitDirection} {before after : List (Divider Rat)} {divider : Divider Rat}
    (split : root.dividers id = before ++ divider :: after) (outer : ∀ other ∈ before, other.direction ≠ axis)
    (isAlong : divider.direction = axis) (first : divider.inFirst = true)
    (second : ∀ inner ∈ after, inner.direction = axis -> inner.inFirst = false) :
    ∃ pos whole, tab.tiledPosition id = some pos ∧ tab.borderOwner id axis = some (whole, divider.ratio) ∧
      whole.start axis = 0 ∧ whole.along axis = (PanePosition.whole tab.size.cols tab.size.rows).along axis ∧
      pos.stop axis = firstExtent (whole.along axis) divider.ratio := by
  obtain ⟨whole, owner, start, extent⟩ :=
    Divider.owner_outermost (.whole tab.size.cols tab.size.rows) outer isAlong first second
  have begins : whole.start axis = 0 := by rw [start]; cases axis <;> rfl
  have stop := @Divider.stop_owner _ _ axis (root.dividers id) (.whole tab.size.cols tab.size.rows)
  rw [split, owner] at stop
  refine ⟨_, whole, tiledPosition_of is present, ?_, begins, extent, ?_⟩
  next => rw [borderOwner, is, Option.bind_some, split, owner]
  next => simpa only [split, begins, Nat.zero_add] using stop

theorem resizePane_ok {tab : Tab Rat} {id : PaneId} {pane : Pane} {direction : ResizeDirection} (delta : Int)
    (stored : tab.panes.lookup id = some pane) (free : fixedAlong (resizeAxis direction) pane = false)
    (room : 0 < (PanePosition.whole tab.size.cols tab.size.rows).along (resizeAxis direction)) :
    tab.resizePane id direction delta = tab.adjustRatio id (resizeAxis direction)
      (Ratio.portion delta ((PanePosition.whole tab.size.cols tab.size.rows).along (resizeAxis direction))) := by
  have some := Nat.pos_iff_ne_zero.mp room
  unfold resizePane
  cases direction <;>
    simp only [resizeAxis, fixedAlong, PanePosition.along, PanePosition.whole] at free some ⊢ <;>
    simp only [stored, free, some, Bool.false_eq_true, if_false]

theorem resizePane_follows {tab : Tab Rat} (tiles : Tiles tab.layout tab.panes) {id : PaneId}
    {direction : ResizeDirection} (present : id ∈ tab.layout.paneIds)
    (room : 0 < (PanePosition.whole tab.size.cols tab.size.rows).along (resizeAxis direction))
    (owned : tab.OwnsBorder id (resizeAxis direction)) {delta : Int} (moves : delta ≠ 0) :
    tab.BorderFollows (tab.resizePane id direction delta).2 id (resizeAxis direction) delta := by
  obtain ⟨pane, stored⟩ := Option.isSome_iff_exists.mp (AList.lookup_isSome.mpr ((tiles.keys id).mp present))
  rw [resizePane_ok delta stored (owned.free pane stored) room]
  generalize resizeAxis direction = axis at room owned ⊢
  obtain ⟨root, divider, before, after, is, split, outer, isAlong, first, second, low, high⟩ := owned.split
  have here : id ∈ root.paneIds := by simpa [LayoutEngine.paneIds, is] using present
  generalize extent : (PanePosition.whole tab.size.cols tab.size.rows).along axis = n at room ⊢
  -- The call adjusts the outermost split along the axis, which is the one the border belongs to.
  have adjusted := LayoutNode.adjustRatio_first (Ratio.portion delta n) split outer isAlong
  generalize result : root.withRatios id
    (before.map Divider.ratio ++ divider.moved (Ratio.portion delta n) :: after.map Divider.ratio) = changed at adjusted
  have resized : (tab.adjustRatio id axis (Ratio.portion delta n)).2 =
      { tab with layout := { root := some changed } }.syncPaneSizes := by
    simp only [Tab.adjustRatio, LayoutEngine.adjustRatio, is, adjusted]
  have replaced : changed.dividers id = before ++ { divider with ratio := divider.moved (Ratio.portion delta n) } :: after :=
    result ▸ LayoutNode.dividers_replaced _ split
  have kept : id ∈ changed.paneIds := by rw [← result, LayoutNode.paneIds_withRatios]; exact here
  obtain ⟨old, whole, wasAt, owner, start, along, stop⟩ := stop_outermost is here split outer isAlong first second
  obtain ⟨new, whole', isAt, -, -, along', stop'⟩ := @stop_outermost
    ({ tab with layout := { root := some changed } }.syncPaneSizes) changed rfl id kept axis _ _ _ replaced outer isAlong
    first second
  refine ⟨old, new, whole, divider.ratio, wasAt, by rw [resized]; exact isAt, owner, ?_⟩
  have same : whole'.along axis = n := along'.trans extent
  have grown : divider.moved (Ratio.portion delta n) = Ratio.clamp (divider.ratio + Ratio.portion delta n) := if_pos first
  have moved := firstExtent_moved delta low high room
  rw [if_neg moves, stop, stop', start, along, extent, same, grown]
  simpa using moved

theorem stays_follows {tab : Tab Rat} {id : PaneId} (present : id ∈ tab.layout.paneIds) {axis : SplitDirection}
    {pos : PanePosition} (found : tab.tiledPosition id = some pos)
    (inside : pos.stop axis < (PanePosition.whole tab.size.cols tab.size.rows).stop axis) :
    tab.BorderFollows tab id axis 0 := by
  cases is : tab.layout.root with
  | none => simp [LayoutEngine.paneIds, is] at present
  | some root =>
    have here : id ∈ root.paneIds := by simpa [LayoutEngine.paneIds, is] using present
    have placed := found.symm.trans (tiledPosition_of is here)
    have stop := @Divider.stop_owner _ _ axis (root.dividers id) (.whole tab.size.cols tab.size.rows)
    rw [← Option.some.inj placed] at stop
    cases owner : Divider.owner axis (root.dividers id) (.whole tab.size.cols tab.size.rows) with
    | none =>
      rw [owner] at stop
      exact absurd stop (Nat.ne_of_lt inside)
    | some split =>
      refine ⟨pos, pos, split.1, split.2, found, found, ?_, by rw [if_pos rfl]⟩
      rw [borderOwner, is, Option.bind_some, owner]

theorem listed_tiled {tab : Tab Rat} (plain : tab.fullscreenPane = none) (bare : tab.visibleFloating = [])
    {placed : PaneId × PanePosition} (listed : placed ∈ tab.computePositions) : placed ∈ tab.tiledPositions := by
  simpa only [computePositions, plain, bare, List.append_nil] using listed

theorem tiled_within {tab : Tab Rat} {placed : PaneId × PanePosition} (tiled : placed ∈ tab.tiledPositions)
    (axis : SplitDirection) :
    placed.1 ∈ tab.layout.paneIds ∧ placed.2.Within (.whole tab.size.cols tab.size.rows) ∧
      (placed.2.start axis = 0 ∨
        placed.2.start axis < (PanePosition.whole tab.size.cols tab.size.rows).stop axis) := by
  simp only [tiledPositions, LayoutEngine.computePositions] at tiled
  cases is : tab.layout.root with
  | none => simp [is] at tiled
  | some root =>
    rw [is] at tiled
    have member : placed ∈ root.positions (.whole tab.size.cols tab.size.rows) := tiled
    have ids : tab.layout.paneIds = root.paneIds := by rw [LayoutEngine.paneIds, is]
    refine ⟨?_, root.positions_within _ placed member, ?_⟩
    next =>
      rw [ids, ← root.map_fst_positions (.whole tab.size.cols tab.size.rows)]
      exact List.mem_map_of_mem member
    next =>
      have begins : (PanePosition.whole tab.size.cols tab.size.rows).start axis = 0 := by cases axis <;> rfl
      exact begins ▸ root.positions_start _ axis placed member

def dragBorder (tab : Tab Rat) (drag : BorderDrag) (col row : UInt16) : Tab Rat :=
  if drag.delta col row ≠ 0 then
    (tab.resizePane drag.paneId (if drag.vertical then .right else .down) (drag.delta col row)).2
  else tab

end Tab

namespace EventLoop

theorem dispatch_drag {app : EventLoop Rat} {tab : Tab Rat} {drag : BorderDrag} (current : app.session.current = .ok tab)
    (dragging : app.borderDrag = some drag) (col row : UInt16) :
    ∃ after, app.dispatch (.continueBorderDrag col row) = .ok (.render, after) ∧
      after.session.current = .ok (tab.dragBorder drag col row) := by
  have inside : app.session.activeTab < app.session.tabs.length := by
    by_contra beyond
    have none := List.getElem?_eq_none (Nat.le_of_not_lt beyond)
    simp [Session.current, Checked.get, none] at current
  refine ⟨({ app.setTab (tab.dragBorder drag col row) with
    borderDrag := some { drag with lastCol := col, lastRow := row } } : EventLoop Rat).markAllDirty, ?_,
    get_ok (List.getElem?_set_self inside)⟩
  rw [dispatch, dragging]
  simp only [continueBorderDrag, current, ok_bind]
  rfl

theorem drag_follows {app : EventLoop Rat} {tab : Tab Rat} {drag : BorderDrag} {col row : UInt16}
    (current : app.session.current = .ok tab) (tiles : Tiles tab.layout tab.panes) (plain : tab.fullscreenPane = none)
    (bare : tab.visibleFloating = []) (clicked : detectBorderClick tab.computePositions col row = some drag)
    (dragging : app.borderDrag = some drag) (toCol toRow : UInt16)
    (owned : drag.delta toCol toRow ≠ 0 -> tab.OwnsBorder drag.paneId drag.axis) :
    ∃ after next, app.dispatch (.continueBorderDrag toCol toRow) = .ok (.render, after) ∧
      after.session.current = .ok next ∧
      tab.BorderFollows next drag.paneId drag.axis (drag.delta toCol toRow) := by
  obtain ⟨pos, member, positive, other, listed, meets⟩ := detectBorderClick_listed clicked
  have tiled := Tab.listed_tiled plain bare member
  obtain ⟨present, within, -⟩ := Tab.tiled_within tiled drag.axis
  -- The other pane begins before the end of the tab, so the border is not the tab's own edge.
  have inside : pos.stop drag.axis < (PanePosition.whole tab.size.cols tab.size.rows).stop drag.axis := by
    obtain ⟨-, -, begins⟩ := Tab.tiled_within (Tab.listed_tiled plain bare listed) drag.axis
    omega
  have room : 0 < (PanePosition.whole tab.size.cols tab.size.rows).along drag.axis := by
    unfold PanePosition.Within at within
    generalize drag.axis = axis at positive ⊢
    cases axis <;> simp only [PanePosition.stop, PanePosition.start, PanePosition.along, PanePosition.whole] at * <;> omega
  have isAxis : Tab.resizeAxis (if drag.vertical then .right else .down) = drag.axis := by
    unfold BorderDrag.axis
    split <;> rfl
  obtain ⟨after, dispatched, result⟩ := dispatch_drag current dragging toCol toRow
  refine ⟨after, _, dispatched, result, ?_⟩
  by_cases still : drag.delta toCol toRow = 0
  next =>
    rw [Tab.dragBorder, if_neg (not_not.mpr still), still]
    exact Tab.stays_follows present (Tab.tiledPosition_of_mem tiles.distinct tiled) inside
  next =>
    have owned := owned still
    rw [← isAxis] at room owned ⊢
    rw [Tab.dragBorder, if_pos still]
    exact Tab.resizePane_follows tiles present room owned still

def threePanes : Tab Rat :=
  { Tab.new 0 "Tab 1" 12 4 with
    layout := { root := some LayoutNode.threeColumns }
    panes := ((AList.singleton 0 (Pane.new 0 6 4)).insert 1 (Pane.new 1 3 4)).insert 2 (Pane.new 2 3 4) }

theorem threePanes_tiles : Tiles threePanes.layout threePanes.panes := by
  have one : Tiles (Tab.new 0 "Tab 1" 6 4 : Tab Rat).layout (Tab.new 0 "Tab 1" 6 4 : Tab Rat).panes :=
    (Tab.new_sound 0 "Tab 1" 6 4).tiles
  let halves : LayoutEngine Rat := { root := some (.Split .vertical (1 / 2) (.Leaf 0) (.Leaf 1)) }
  have two : Tiles halves ((AList.singleton 0 (Pane.new 0 6 4)).insert 1 (Pane.new 1 3 4)) :=
    one.insert rfl (by decide) (by decide)
  exact two.insert rfl (by decide) (by decide)

def draggingBorder (paneId : PaneId) (col : UInt16) : EventLoop Rat :=
  { (start 12 5 : EventLoop Rat) with
    session := { (Session.new "main" 12 4 : Session Rat) with tabs := [threePanes] }
    borderDrag := some { paneId, vertical := true, lastCol := col, lastRow := 0 } }

theorem threePanes_owns : threePanes.OwnsBorder 0 .vertical where
  outermost := by
    refine ⟨LayoutNode.threeColumns, { direction := .vertical, ratio := 1 / 2, inFirst := true }, [], rfl, rfl, rfl, ?_⟩
    norm_num
  free pane stored := by
    have first : threePanes.panes.lookup 0 = some (Pane.new 0 6 4) := rfl
    obtain rfl := Option.some.inj (first.symm.trans stored)
    rfl

theorem drag_follows_outer :
    ∃ after next, (draggingBorder 0 5).dispatch (.continueBorderDrag 7 0) = .ok (.render, after) ∧
      after.session.current = .ok next ∧ threePanes.BorderFollows next 0 .vertical 2 :=
  @drag_follows (draggingBorder 0 5) threePanes _ 5 0 rfl threePanes_tiles rfl rfl (by decide +kernel) rfl 7 0
    fun _ => threePanes_owns

/-- The border between the last two panes is clicked at column 8 and dragged to column 10. The split that changes
is the one above them both, and the border moves to column 7. -/
theorem drag_misses :
    detectBorderClick threePanes.computePositions 8 0 = (draggingBorder 1 8).borderDrag ∧
    ¬ ∃ after next, (draggingBorder 1 8).dispatch (.continueBorderDrag 10 0) = .ok (.render, after) ∧
      after.session.current = .ok next ∧ threePanes.BorderFollows next 1 .vertical 2 := by
  refine ⟨by decide +kernel, ?_⟩
  rintro ⟨after, next, dispatched, current, old, new, whole, ratio, was, is, owner, follows⟩
  obtain ⟨result, runs, tab⟩ := @dispatch_drag (draggingBorder 1 8) threePanes _ rfl rfl 10 0
  obtain rfl : result = after := (Prod.mk.inj (Except.ok.inj (runs.symm.trans dispatched))).2
  obtain rfl : (threePanes.resizePane 1 .right 2).2 = next := Except.ok.inj (tab.symm.trans current)
  have before : threePanes.tiledPosition 1 = some { col := 6, row := 0, cols := 3, rows := 4 } := by decide +kernel
  have moved : (threePanes.resizePane 1 .right 2).2.tiledPosition 1 = some { col := 4, row := 0, cols := 4, rows := 4 } := by
    decide +kernel
  have above : threePanes.borderOwner 1 .vertical = some ({ col := 6, row := 0, cols := 6, rows := 4 }, 1 / 2) := by
    decide +kernel
  obtain rfl := Option.some.inj (before.symm.trans was)
  obtain rfl := Option.some.inj (moved.symm.trans is)
  obtain ⟨rfl, rfl⟩ := Prod.mk.inj (Option.some.inj (above.symm.trans owner))
  exact absurd follows (by decide +kernel)

end EventLoop

end Emux
