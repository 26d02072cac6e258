import Emux.Mux.Tiling

set_option autoImplicit false

/-!
# The splits above a pane

The way from the root to a pane's leaf as a list of the splits that are passed, outermost first.
Adjusting a ratio changes one entry of that list.
-/

namespace Emux

variable {R : Type}

structure Divider (R : Type) where
  direction : SplitDirection
  ratio : R
  inFirst : Bool
  deriving DecidableEq, Repr

namespace Divider

def moved [Ratio R] (delta : R) (divider : Divider R) : R :=
  if divider.inFirst then Ratio.clamp (divider.ratio + delta) else Ratio.clamp (divider.ratio - delta)

def adjustFirst [Ratio R] (axis : SplitDirection) (delta : R) : List (Divider R) -> List R
  | [] => []
  | divider :: rest =>
    if divider.direction = axis then divider.moved delta :: rest.map ratio
    else divider.ratio :: adjustFirst axis delta rest

end Divider

namespace LayoutNode

def dividers (target : PaneId) : LayoutNode R -> List (Divider R)
  | .Leaf _ => []
  | .Split direction ratio first second =>
    if first.paneIds.contains target then { direction, ratio, inFirst := true } :: first.dividers target
    else if second.paneIds.contains target then { direction, ratio, inFirst := false } :: second.dividers target
    else []

/-- The tree with these ratios on the way to the pane, and nothing else changed. -/
def withRatios (target : PaneId) : LayoutNode R -> List R -> LayoutNode R
  | .Leaf id, _ => .Leaf id
  | .Split direction ratio first second, [] => .Split direction ratio first second
  | .Split direction old first second, ratio :: rest =>
    if first.paneIds.contains target then .Split direction ratio (first.withRatios target rest) second
    else if second.paneIds.contains target then .Split direction ratio first (second.withRatios target rest)
    else .Split direction old first second

variable {target : PaneId}

theorem withRatios_self (node : LayoutNode R) : node.withRatios target ((node.dividers target).map Divider.ratio) = node := by
  induction node with
  | Leaf id => rfl
  | Split direction ratio first second ihFirst ihSecond =>
    simp only [dividers]
    split
    next inFirst => simp only [List.map_cons, withRatios, inFirst, if_true, ihFirst]
    next notFirst =>
      split
      next inSecond => simp only [List.map_cons, withRatios, notFirst, inSecond, if_true, if_false, ihSecond, Bool.false_eq_true]
      next => rfl

theorem withRatios_inj {node : LayoutNode R} {ratios ratios' : List R}
    (length : ratios.length = (node.dividers target).length) (length' : ratios'.length = (node.dividers target).length)
    (same : node.withRatios target ratios = node.withRatios target ratios') : ratios = ratios' := by
  induction node generalizing ratios ratios' with
  | Leaf id => rw [List.length_eq_zero_iff.mp length, List.length_eq_zero_iff.mp length']
  | Split direction old first second ihFirst ihSecond =>
    simp only [dividers] at length length'
    split at length
    next inFirst =>
      rw [if_pos inFirst] at length'
      obtain ⟨ratio, rest, rfl⟩ := List.exists_cons_of_length_eq_add_one length
      obtain ⟨ratio', rest', rfl⟩ := List.exists_cons_of_length_eq_add_one length'
      simp only [withRatios, if_pos inFirst, Split.injEq, true_and, and_true] at same
      rw [same.1, ihFirst (Nat.succ.inj length) (Nat.succ.inj length') same.2]
    next notFirst =>
      rw [if_neg notFirst] at length'
      split at length
      next inSecond =>
        rw [if_pos inSecond] at length'
        obtain ⟨ratio, rest, rfl⟩ := List.exists_cons_of_length_eq_add_one length
        obtain ⟨ratio', rest', rfl⟩ := List.exists_cons_of_length_eq_add_one length'
        simp only [withRatios, if_neg notFirst, if_pos inSecond, Split.injEq, true_and] at same
        rw [same.1, ihSecond (Nat.succ.inj length) (Nat.succ.inj length') same.2]
      next absent =>
        rw [if_neg absent] at length'
        rw [List.length_eq_zero_iff.mp length, List.length_eq_zero_iff.mp length']

theorem adjustRatio_eq [Ratio R] (axis : SplitDirection) (delta : R) (node : LayoutNode R) :
    node.adjustRatio target axis delta =
      ((node.dividers target).any fun divider => divider.direction == axis,
        node.withRatios target (Divider.adjustFirst axis delta (node.dividers target))) := by
  induction node with
  | Leaf id => rfl
  | Split direction ratio first second ihFirst ihSecond =>
    by_cases inFirst : target ∈ first.paneIds
    next =>
      by_cases along : direction = axis
      next => simp [adjustRatio, dividers, inFirst, along, Divider.adjustFirst, Divider.moved, withRatios, withRatios_self]
      next => simp [adjustRatio, dividers, inFirst, along, Divider.adjustFirst, withRatios, ihFirst]
    next =>
      by_cases inSecond : target ∈ second.paneIds
      next =>
        by_cases along : direction = axis
        next =>
          simp [adjustRatio, dividers, inFirst, inSecond, along, Divider.adjustFirst, Divider.moved, withRatios,
            withRatios_self]
        next => simp [adjustRatio, dividers, inFirst, inSecond, along, Divider.adjustFirst, withRatios, ihSecond]
      next => simp [adjustRatio, dividers, inFirst, inSecond, Divider.adjustFirst, withRatios]

end LayoutNode

namespace Divider

variable [Ratio R] {axis : SplitDirection} {delta : R}

theorem adjustFirst_append {before after : List (Divider R)} {divider : Divider R}
    (outer : ∀ other ∈ before, other.direction ≠ axis) (along : divider.direction = axis) :
    adjustFirst axis delta (before ++ divider :: after) =
      before.map ratio ++ divider.moved delta :: after.map ratio := by
  induction before with
  | nil => simp [adjustFirst, along]
  | cons other rest ih =>
    have off : other.direction ≠ axis := outer other List.mem_cons_self
    simp [adjustFirst, off, ih fun next member => outer next (List.mem_cons_of_mem other member)]

theorem adjustFirst_none {dividers : List (Divider R)} (off : ∀ other ∈ dividers, other.direction ≠ axis) :
    adjustFirst axis delta dividers = dividers.map ratio := by
  induction dividers with
  | nil => rfl
  | cons other rest ih =>
    have here : other.direction ≠ axis := off other List.mem_cons_self
    simp [adjustFirst, here, ih fun next member => off next (List.mem_cons_of_mem other member)]

end Divider

namespace LayoutNode

variable [Ratio R]

def along (target : PaneId) (axis : SplitDirection) (node : LayoutNode R) : List (Divider R) :=
  (node.dividers target).filter fun divider => divider.direction == axis

def AdjustsNearest (target : PaneId) (axis : SplitDirection) (delta : R) (node : LayoutNode R) : Prop :=
  ∀ before nearest after, node.dividers target = before ++ nearest :: after -> nearest.direction = axis ->
    (∀ other ∈ after, other.direction ≠ axis) ->
    node.adjustRatio target axis delta =
      (true, node.withRatios target
        (before.map Divider.ratio ++ nearest.moved delta :: after.map Divider.ratio))

section

omit [Ratio R]

theorem filter_none_iff {axis : SplitDirection} {dividers : List (Divider R)} :
    (dividers.filter fun divider => divider.direction == axis) = [] ↔ ∀ other ∈ dividers, other.direction ≠ axis := by
  simp [List.filter_eq_nil_iff]

theorem withRatios_at {target : PaneId} {node : LayoutNode R} {before after : List (Divider R)} {divider : Divider R}
    {ratio : R} (dividers : node.dividers target = before ++ divider :: after) (same : ratio = divider.ratio) :
    node.withRatios target (before.map Divider.ratio ++ ratio :: after.map Divider.ratio) = node := by
  have unchanged := @LayoutNode.withRatios_self R target node
  rwa [dividers, List.map_append, List.map_cons, ← same] at unchanged

theorem getLast_along {target : PaneId} {axis : SplitDirection} {node : LayoutNode R} {before after : List (Divider R)}
    {nearest : Divider R} (dividers : node.dividers target = before ++ nearest :: after)
    (isAlong : nearest.direction = axis) (deepest : ∀ other ∈ after, other.direction ≠ axis) :
    (node.along target axis).getLast? = some nearest := by
  simp only [along, dividers, List.filter_append, List.filter_cons, isAlong, beq_self_eq_true, if_true,
    filter_none_iff.mpr deepest, List.getLast?_append, List.getLast?_singleton, Option.some_or]

end

theorem adjustRatio_first {target : PaneId} {axis : SplitDirection} {node : LayoutNode R} (delta : R)
    {outermost : Divider R} {before after : List (Divider R)} (dividers : node.dividers target = before ++ outermost :: after)
    (outer : ∀ other ∈ before, other.direction ≠ axis) (isAlong : outermost.direction = axis) :
    node.adjustRatio target axis delta =
      (true, node.withRatios target
        (before.map Divider.ratio ++ outermost.moved delta :: after.map Divider.ratio)) := by
  rw [adjustRatio_eq, dividers, Divider.adjustFirst_append outer isAlong]
  simp [isAlong]

theorem adjustsNearest_of_single {target : PaneId} {axis : SplitDirection} {node : LayoutNode R} (delta : R)
    (single : (node.along target axis).length ≤ 1) : node.AdjustsNearest target axis delta := by
  intro before nearest after dividers isAlong deepest
  have outer : ∀ other ∈ before, other.direction ≠ axis := by
    rw [← filter_none_iff]
    simp only [along, dividers, List.filter_append, List.filter_cons, isAlong, beq_self_eq_true, if_true,
      List.length_append, List.length_cons] at single
    exact List.length_eq_zero_iff.mp (by omega)
  exact adjustRatio_first delta dividers outer isAlong

theorem adjustsNearest_of_several {target : PaneId} {axis : SplitDirection} {node : LayoutNode R} {delta : R}
    {outermost : Divider R} {others : List (Divider R)} (several : node.along target axis = outermost :: others)
    {nearest : Divider R} (last : others.getLast? = some nearest) :
    node.AdjustsNearest target axis delta ↔
      outermost.moved delta = outermost.ratio ∧ nearest.moved delta = nearest.ratio := by
  obtain ⟨before, rest, dividers, outer, first, inner⟩ := List.filter_eq_cons_iff.mp several
  have outer : ∀ other ∈ before, other.direction ≠ axis := by simpa using outer
  have changed := adjustRatio_first delta dividers outer (by simpa using first)
  constructor
  next =>
    intro adjusts
    obtain ⟨init, rfl⟩ := List.getLast?_eq_some_iff.mp last
    obtain ⟨middle, tail, rfl, -, ends⟩ := List.filter_eq_append_iff.mp inner
    obtain ⟨lead, after, rfl, -, isAlong, none⟩ := List.filter_eq_cons_iff.mp ends
    have expected := adjusts (before ++ outermost :: (middle ++ lead)) nearest after (by simp [dividers])
      (by simpa using isAlong) (filter_none_iff.mp none)
    have same := withRatios_inj (by simp [dividers]) (by simp [dividers])
      (congrArg Prod.snd (changed.symm.trans expected))
    simp only [List.map_append, List.map_cons, List.append_assoc, List.cons_append, List.append_cancel_left_eq,
      List.cons.injEq] at same
    exact ⟨same.1, same.2.1.symm⟩
  next =>
    rintro ⟨still, steady⟩ front divider behind split isAlong deepest
    have whole : (node.along target axis).getLast? = some nearest := by
      rw [several, List.getLast?_cons, last, Option.getD_some]
    obtain rfl : divider = nearest := Option.some.inj ((getLast_along split isAlong deepest).symm.trans whole)
    rw [changed, withRatios_at dividers still, withRatios_at split steady]

theorem adjustRatio_nearest (node : LayoutNode R) (target : PaneId) (axis : SplitDirection) (delta : R) :
    ((node.adjustRatio target axis delta).1 = false ↔ node.along target axis = []) ∧
      ((node.adjustRatio target axis delta).1 = false -> (node.adjustRatio target axis delta).2 = node) ∧
      (node.AdjustsNearest target axis delta ↔
        (node.along target axis).length ≤ 1 ∨
          ∀ divider, (node.along target axis).head? = some divider ∨ (node.along target axis).getLast? = some divider ->
            divider.moved delta = divider.ratio) := by
  refine ⟨?_, ?_, ?_⟩
  next =>
    rw [adjustRatio_eq, along, List.filter_eq_nil_iff, List.any_eq_false]
  next =>
    rw [adjustRatio_eq]
    intro refused
    rw [Divider.adjustFirst_none (by simpa using refused), withRatios_self]
  next =>
    cases several : node.along target axis with
    | nil => exact iff_of_true (adjustsNearest_of_single delta (by simp [several])) (.inl (Nat.zero_le _))
    | cons outermost others =>
      cases last : others.getLast? with
      | none =>
        obtain rfl := List.getLast?_eq_none_iff.mp last
        exact iff_of_true (adjustsNearest_of_single delta (by simp [several])) (.inl (Nat.le_refl _))
      | some nearest =>
        have some : others ≠ [] := by
          rintro rfl
          cases last
        have more : ¬ (outermost :: others).length ≤ 1 := by
          have positive := List.length_pos_iff.mpr some
          rw [List.length_cons]
          omega
        rw [adjustsNearest_of_several several last, or_iff_right more]
        simp only [List.head?_cons, List.getLast?_cons, last, Option.getD_some, Option.some.injEq]
        constructor
        next =>
          rintro ⟨still, steady⟩ divider (rfl | rfl)
          next => exact still
          next => exact steady
        next => exact fun steady => ⟨steady outermost (.inl rfl), steady nearest (.inr rfl)⟩

def threeColumns : LayoutNode Rat := .Split .vertical (1 / 2) (.Leaf 0) (.Split .vertical (1 / 2) (.Leaf 1) (.Leaf 2))

theorem adjusts_outermost : ¬ threeColumns.AdjustsNearest 2 .vertical (1 / 10) := by
  intro adjusts
  have expected := adjusts [{ direction := .vertical, ratio := 1 / 2, inFirst := false }]
    { direction := .vertical, ratio := 1 / 2, inFirst := false } [] rfl rfl (fun _ member => by cases member)
  exact absurd expected (by decide +kernel)

end LayoutNode

namespace PanePosition

def start (area : PanePosition) : SplitDirection -> Nat
  | .horizontal => area.row
  | .vertical => area.col

def stop (area : PanePosition) (axis : SplitDirection) : Nat := area.start axis + area.along axis

end PanePosition

namespace Divider

variable [Ratio R] {axis : SplitDirection}

def part (area : PanePosition) (divider : Divider R) : PanePosition :=
  if divider.inFirst then (area.divide divider.ratio divider.direction).1
  else (area.divide divider.ratio divider.direction).2

/-- The split that the far border of a pane belongs to, with the area it divides: the deepest one along
the axis that has the pane in its first child. -/
def owner (axis : SplitDirection) : List (Divider R) -> PanePosition -> Option (PanePosition × R)
  | [], _ => none
  | divider :: rest, area =>
    match owner axis rest (divider.part area) with
    | some found => some found
    | none => if divider.direction = axis ∧ divider.inFirst = true then some (area, divider.ratio) else none

theorem part_off {divider : Divider R} (area : PanePosition) (off : divider.direction ≠ axis) :
    (divider.part area).start axis = area.start axis ∧ (divider.part area).along axis = area.along axis := by
  unfold part
  cases direction : divider.direction <;> cases axis <;>
    first
      | exact absurd direction off
      | (split <;> exact ⟨rfl, rfl⟩)

theorem part_first {divider : Divider R} (area : PanePosition) (isAlong : divider.direction = axis)
    (first : divider.inFirst = true) :
    (divider.part area).start axis = area.start axis ∧
      (divider.part area).along axis = firstExtent (area.along axis) divider.ratio := by
  subst isAlong
  rw [part, if_pos first]
  cases divider.direction <;> exact ⟨rfl, rfl⟩

theorem part_second {divider : Divider R} (area : PanePosition) (isAlong : divider.direction = axis)
    (second : divider.inFirst = false) : (divider.part area).stop axis = area.stop axis := by
  subst isAlong
  rw [part, if_neg (by rw [second]; exact Bool.false_ne_true)]
  have within := firstExtent_le (area.along divider.direction) divider.ratio
  cases direction : divider.direction <;>
    simp only [direction, PanePosition.along] at within <;>
    simp only [PanePosition.divide, PanePosition.stop, PanePosition.start, PanePosition.along] <;> omega

theorem stop_owner (dividers : List (Divider R)) (area : PanePosition) :
    (dividers.foldl part area).stop axis =
      match owner axis dividers area with
      | some (whole, ratio) => whole.start axis + firstExtent (whole.along axis) ratio
      | none => area.stop axis := by
  induction dividers generalizing area with
  | nil => rfl
  | cons divider rest ih =>
    rw [List.foldl_cons, ih, owner]
    cases owner axis rest (divider.part area) with
    | some found => rfl
    | none =>
      by_cases isAlong : divider.direction = axis
      next =>
        by_cases first : divider.inFirst = true
        next =>
          obtain ⟨start, extent⟩ := part_first area isAlong first
          simp only [PanePosition.stop, start, extent, isAlong, first, and_self, if_true]
        next =>
          have other : ¬ (divider.direction = axis ∧ divider.inFirst = true) := fun both => first both.2
          simp only [part_second area isAlong (Bool.eq_false_iff.mpr first), other, if_false]
      next =>
        obtain ⟨start, extent⟩ := part_off area isAlong
        simp only [PanePosition.stop, start, extent, isAlong, false_and, if_false]

theorem owner_none {dividers : List (Divider R)} (area : PanePosition)
    (second : ∀ divider ∈ dividers, divider.direction = axis -> divider.inFirst = false) :
    owner axis dividers area = none := by
  induction dividers generalizing area with
  | nil => rfl
  | cons divider rest ih =>
    rw [owner, ih _ fun inner member => second inner (List.mem_cons_of_mem _ member)]
    refine if_neg ?_
    rintro ⟨isAlong, first⟩
    rw [second divider List.mem_cons_self isAlong] at first
    cases first

theorem owner_outermost {before after : List (Divider R)} {outermost : Divider R} (area : PanePosition)
    (outer : ∀ other ∈ before, other.direction ≠ axis) (isAlong : outermost.direction = axis)
    (first : outermost.inFirst = true)
    (second : ∀ inner ∈ after, inner.direction = axis -> inner.inFirst = false) :
    ∃ whole, owner axis (before ++ outermost :: after) area = some (whole, outermost.ratio) ∧
      whole.start axis = area.start axis ∧ whole.along axis = area.along axis := by
  induction before generalizing area with
  | nil =>
    refine ⟨area, ?_, rfl, rfl⟩
    rw [List.nil_append, owner, owner_none _ second]
    exact if_pos ⟨isAlong, first⟩
  | cons other rest ih =>
    obtain ⟨start, extent⟩ := part_off area (outer other List.mem_cons_self)
    obtain ⟨whole, found, here, there⟩ := ih (other.part area) fun next member => outer next (List.mem_cons_of_mem _ member)
    refine ⟨whole, ?_, here.trans start, there.trans extent⟩
    rw [List.cons_append, owner, found]

end Divider

namespace LayoutNode

variable [Ratio R] {target : PaneId}

theorem positions_start (node : LayoutNode R) (area : PanePosition) (axis : SplitDirection) :
    ∀ placed ∈ node.positions area, placed.2.start axis = area.start axis ∨ placed.2.start axis < area.stop axis := by
  induction node generalizing area with
  | Leaf id => simp
  | Split direction ratio first second ihFirst ihSecond =>
    intro placed member
    have parts : (area.divide ratio direction).1.start axis = area.start axis ∧
        (area.divide ratio direction).1.stop axis ≤ area.stop axis ∧
        ((area.divide ratio direction).2.start axis = area.start axis ∨
          (area.divide ratio direction).2.start axis < area.stop axis) ∧
        (area.divide ratio direction).2.stop axis ≤ area.stop axis := by
      have fits : firstExtent (area.along direction) ratio ≤ area.along direction - 1 := Nat.min_le_right _ _
      cases direction <;> cases axis <;>
        simp only [PanePosition.along] at fits <;>
        simp only [PanePosition.divide, PanePosition.stop, PanePosition.start, PanePosition.along, true_or, true_and] <;>
        omega
    rw [positions_split] at member
    rcases List.mem_append.mp member with inFirst | inSecond
    next =>
      have begins := ihFirst _ placed inFirst
      omega
    next =>
      have begins := ihSecond _ placed inSecond
      omega

theorem position_of {node : LayoutNode R} (present : target ∈ node.paneIds) (area : PanePosition) :
    (node.positions area).find? (fun placed => placed.1 == target) =
      some (target, (node.dividers target).foldl Divider.part area) := by
  induction node generalizing area with
  | Leaf id =>
    obtain rfl := List.mem_singleton.mp present
    simp [dividers]
  | Split direction ratio first second ihFirst ihSecond =>
    rw [positions_split, List.find?_append]
    by_cases inFirst : target ∈ first.paneIds
    next => simp [dividers, inFirst, ihFirst inFirst, Divider.part]
    next =>
      have inSecond : target ∈ second.paneIds := (List.mem_append.mp present).resolve_left inFirst
      have absent : (first.positions (area.divide ratio direction).1).find? (fun placed => placed.1 == target) = none := by
        refine List.find?_eq_none.mpr fun placed member same => inFirst ?_
        rw [← first.map_fst_positions (area.divide ratio direction).1, ← beq_iff_eq.mp same]
        exact List.mem_map_of_mem member
      simp [dividers, inFirst, inSecond, absent, ihSecond inSecond, Divider.part]

omit [Ratio R] in
theorem paneIds_withRatios (node : LayoutNode R) (ratios : List R) : (node.withRatios target ratios).paneIds = node.paneIds := by
  induction node generalizing ratios with
  | Leaf id => rfl
  | Split direction old first second ihFirst ihSecond =>
    cases ratios with
    | nil => rfl
    | cons ratio rest =>
      simp only [withRatios]
      split
      next => rw [paneIds_split, paneIds_split, ihFirst]
      next =>
        split
        next => rw [paneIds_split, paneIds_split, ihSecond]
        next => rfl

omit [Ratio R] in
theorem dividers_withRatios {node : LayoutNode R} {ratios : List R} (length : ratios.length = (node.dividers target).length) :
    (node.withRatios target ratios).dividers target =
      (node.dividers target).zipWith (fun divider ratio => { divider with ratio }) ratios := by
  induction node generalizing ratios with
  | Leaf id => rfl
  | Split direction old first second ihFirst ihSecond =>
    by_cases inFirst : target ∈ first.paneIds
    next =>
      simp only [dividers, List.contains_iff_mem, inFirst, if_true, List.length_cons] at length ⊢
      obtain ⟨ratio, rest, rfl⟩ := List.exists_cons_of_length_eq_add_one length
      simp [withRatios, dividers, inFirst, paneIds_withRatios, ihFirst (Nat.succ.inj length)]
    next =>
      by_cases inSecond : target ∈ second.paneIds
      next =>
        simp only [dividers, List.contains_iff_mem, inFirst, inSecond, if_true, if_false, List.length_cons] at length ⊢
        obtain ⟨ratio, rest, rfl⟩ := List.exists_cons_of_length_eq_add_one length
        simp [withRatios, dividers, inFirst, inSecond, paneIds_withRatios, ihSecond (Nat.succ.inj length)]
      next =>
        simp only [dividers, List.contains_iff_mem, inFirst, inSecond, if_false, List.length_nil] at length ⊢
        obtain rfl := List.length_eq_zero_iff.mp length
        simp [withRatios, dividers, inFirst, inSecond]

omit [Ratio R] in
theorem dividers_replaced {node : LayoutNode R} {before after : List (Divider R)} {divider : Divider R} (ratio : R)
    (split : node.dividers target = before ++ divider :: after) :
    (node.withRatios target (before.map Divider.ratio ++ ratio :: after.map Divider.ratio)).dividers target =
      before ++ { divider with ratio } :: after := by
  have same (dividers : List (Divider R)) :
      dividers.zipWith (fun divider ratio => { divider with ratio }) (dividers.map Divider.ratio) = dividers := by
    rw [List.zipWith_map_right, List.zipWith_self, List.map_id']
  rw [dividers_withRatios (by simp [split]), split, List.zipWith_append (by simp), same, List.zipWith_cons_cons, same]

end LayoutNode

end Emux
