import Emux.Mux.Leaves

set_option autoImplicit false

/-!
# Filling a layout template

A template names its slots by placeholder ids that share the space of the pane ids. Filling replaces the first
leaf with a placeholder's id, so a placeholder equal to a pane placed earlier moves that pane; pruning cannot
remove a child of the root.
-/

namespace Emux

variable {R : Type}

abbrev fillIds (slots : List (PaneId × PaneId)) (ids : List PaneId) : List PaneId :=
  slots.foldl (fun ids slot => ids.replace slot.1 slot.2) ids

theorem fillIds_length (slots : List (PaneId × PaneId)) (ids : List PaneId) :
    (fillIds slots ids).length = ids.length := by
  induction slots generalizing ids with
  | nil => rfl
  | cons slot rest ih => exact (ih _).trans List.length_replace

theorem fillIds_append (slots : List (PaneId × PaneId)) (ids surplus : List PaneId)
    (apart : ∀ slot ∈ slots, slot.1 ∉ surplus) : fillIds slots (ids ++ surplus) = fillIds slots ids ++ surplus := by
  induction slots generalizing ids with
  | nil => rfl
  | cons slot rest ih =>
    have here : (ids ++ surplus).replace slot.1 slot.2 = ids.replace slot.1 slot.2 ++ surplus := by
      by_cases present : slot.1 ∈ ids
      next => exact List.replace_append_left present
      next =>
        rw [List.replace_append_right present, List.replace_of_not_mem present,
          List.replace_of_not_mem (apart slot List.mem_cons_self)]
    rw [fillIds, List.foldl_cons, here]
    exact ih _ fun slot member => apart slot (List.mem_cons_of_mem _ member)

theorem fillIds_cons {slots : List (PaneId × PaneId)} {id : PaneId} (ids : List PaneId)
    (apart : ∀ slot ∈ slots, slot.1 ≠ id) : fillIds slots (id :: ids) = id :: fillIds slots ids := by
  induction slots generalizing ids with
  | nil => rfl
  | cons slot rest ih =>
    have here : (id :: ids).replace slot.1 slot.2 = id :: ids.replace slot.1 slot.2 := by
      rw [List.replace_cons, beq_eq_false_iff_ne.mpr (apart slot List.mem_cons_self)]
    rw [fillIds, List.foldl_cons, here]
    exact ih _ fun slot member => apart slot (List.mem_cons_of_mem _ member)

theorem fillIds_head (slots : List (PaneId × PaneId)) (id : PaneId) (ids : List PaneId) :
    ∃ head rest, fillIds slots (id :: ids) = head :: rest ∧
      (head ∈ slots.map Prod.snd ∨ head = id ∧ ∀ slot ∈ slots, slot.1 ≠ id) := by
  -- The first id changes only to an id that is placed later.
  induction slots generalizing id ids with
  | nil => exact ⟨id, ids, rfl, .inr ⟨rfl, by simp⟩⟩
  | cons slot rest ih =>
    by_cases same : slot.1 = id
    next =>
      have here : (id :: ids).replace slot.1 slot.2 = slot.2 :: ids := by rw [same, List.replace_cons_self]
      obtain ⟨head, left, filled, comes⟩ := ih slot.2 ids
      refine ⟨head, left, by rw [fillIds, List.foldl_cons, here]; exact filled, .inl ?_⟩
      rcases comes with comes | ⟨rfl, -⟩
      next => exact List.mem_cons_of_mem _ comes
      next => exact List.mem_cons_self
    next =>
      have here : (id :: ids).replace slot.1 slot.2 = id :: ids.replace slot.1 slot.2 := by
        rw [List.replace_cons, beq_eq_false_iff_ne.mpr same]
      obtain ⟨head, left, filled, comes⟩ := ih id (ids.replace slot.1 slot.2)
      refine ⟨head, left, by rw [fillIds, List.foldl_cons, here]; exact filled, ?_⟩
      rcases comes with comes | ⟨rfl, apart⟩
      next => exact .inl (List.mem_cons_of_mem _ comes)
      next => exact .inr ⟨rfl, List.forall_mem_cons.mpr ⟨same, apart⟩⟩

theorem fillIds_eq_iff {slots : List (PaneId × PaneId)} (distinct : (slots.map Prod.snd).Nodup) :
    fillIds slots (slots.map Prod.fst) = slots.map Prod.snd ↔
      slots.Pairwise fun earlier later => later.1 ≠ earlier.2 := by
  -- The panes end in their slots exactly where no slot is named like a pane placed before it.
  induction slots with
  | nil => simp
  | cons slot rest ih =>
    rw [List.map_cons, List.nodup_cons] at distinct
    have placed : fillIds (slot :: rest) ((slot :: rest).map Prod.fst) =
        fillIds rest (slot.2 :: rest.map Prod.fst) := by
      rw [fillIds, List.foldl_cons, List.map_cons, List.replace_cons_self]
    rw [placed, List.map_cons, List.pairwise_cons]
    by_cases apart : ∀ later ∈ rest, later.1 ≠ slot.2
    next =>
      rw [fillIds_cons _ apart, List.cons_inj_right, ih distinct.2]
      exact ⟨fun pairwise => ⟨apart, pairwise⟩, And.right⟩
    next =>
      refine ⟨fun filled => ?_, fun pairwise => absurd pairwise.1 apart⟩
      obtain ⟨head, left, found, comes⟩ := fillIds_head rest slot.2 (rest.map Prod.fst)
      rw [found] at filled
      obtain ⟨rfl, -⟩ := List.cons.inj filled
      rcases comes with comes | ⟨-, kept⟩
      next => exact absurd comes distinct.1
      next => exact absurd kept apart

namespace LayoutNode

theorem fill_paneIds (slots : List (PaneId × PaneId)) (tree : LayoutNode R) :
    (slots.foldl (fun tree slot => (tree.replaceLeaf slot.1 slot.2).2) tree).paneIds =
      fillIds slots tree.paneIds := by
  induction slots generalizing tree with
  | nil => rfl
  | cons slot rest ih =>
    rw [List.foldl_cons, ih, (tree.replaceLeaf_paneIds slot.1 slot.2).2, fillIds, fillIds, List.foldl_cons]

def firstLeaves : LayoutNode R -> Nat
  | .Leaf _ => 0
  | .Split _ _ first _ => first.paneIds.length

theorem replaceLeaf_firstLeaves (oldId newId : PaneId) (tree : LayoutNode R) :
    (tree.replaceLeaf oldId newId).2.firstLeaves = tree.firstLeaves := by
  cases tree with
  | Leaf id =>
    unfold replaceLeaf
    split <;> rfl
  | Split direction ratio first second =>
    have same : (first.replaceLeaf oldId newId).2.paneIds.length = first.paneIds.length := by
      rw [(first.replaceLeaf_paneIds oldId newId).2, List.length_replace]
    cases result : first.replaceLeaf oldId newId with
    | mk found next =>
      rw [result] at same
      cases found <;> simpa [replaceLeaf, result, firstLeaves] using same

theorem fill_firstLeaves (slots : List (PaneId × PaneId)) (tree : LayoutNode R) :
    (slots.foldl (fun tree slot => (tree.replaceLeaf slot.1 slot.2).2) tree).firstLeaves = tree.firstLeaves := by
  induction slots generalizing tree with
  | nil => rfl
  | cons slot rest ih => rw [List.foldl_cons, ih, replaceLeaf_firstLeaves]

/-- Leaves of `node` are left out, none but such with the id `target`. -/
structure Trims (target : PaneId) (node next : LayoutNode R) : Prop where
  sublist : next.paneIds.Sublist node.paneIds
  others : ∀ keep : PaneId -> Bool, keep target = false -> next.paneIds.filter keep = node.paneIds.filter keep

theorem Trims.refl (target : PaneId) (node : LayoutNode R) : Trims target node node :=
  ⟨List.Sublist.refl _, fun _ _ => rfl⟩

theorem Trims.split {target : PaneId} {first second nextFirst nextSecond : LayoutNode R} (direction : SplitDirection)
    (ratio : R) (inFirst : Trims target first nextFirst) (inSecond : Trims target second nextSecond) :
    Trims target (.Split direction ratio first second) (.Split direction ratio nextFirst nextSecond) where
  sublist := inFirst.sublist.append inSecond.sublist
  others keep hidden := by
    rw [paneIds_split, paneIds_split, List.filter_append, List.filter_append, inFirst.others keep hidden,
      inSecond.others keep hidden]

theorem Trims.collapse_first {target : PaneId} (direction : SplitDirection) (ratio : R) (second : LayoutNode R) :
    Trims target (.Split direction ratio (.Leaf target) second) second where
  sublist := List.sublist_cons_self target second.paneIds
  others keep hidden := by simp [hidden]

theorem Trims.collapse_second {target : PaneId} {first nextFirst : LayoutNode R} (direction : SplitDirection)
    (ratio : R) (inFirst : Trims target first nextFirst) :
    Trims target (.Split direction ratio first (.Leaf target)) nextFirst where
  sublist := inFirst.sublist.trans (List.sublist_append_left _ _)
  others keep hidden := by simp [hidden, inFirst.others keep hidden]

structure Removes (target : PaneId) (node : LayoutNode R) : Prop where
  removed : (node.remove target).1 = .removed -> node = .Leaf target
  replaced : ∀ next, (node.remove target).1 = .replaced next -> Trims target node next
  changed : Trims target node (node.remove target).2

theorem Removes.children {target : PaneId} {first second : LayoutNode R} (direction : SplitDirection) (ratio : R)
    (inFirst : Removes target first) (inSecond : Removes target second) :
    ∃ nextFirst nextSecond, ((Split direction ratio first second).remove target).2 =
      .Split direction ratio nextFirst nextSecond ∧ Trims target first nextFirst ∧ Trims target second nextSecond := by
  obtain ⟨-, replacedFirst, changedFirst⟩ := inFirst
  obtain ⟨-, replacedSecond, changedSecond⟩ := inSecond
  cases firstResult : first.remove target with
  | mk outcome nextFirst =>
    rw [firstResult] at replacedFirst changedFirst
    cases outcome with
    | removed => exact ⟨nextFirst, second, by simp [remove, firstResult], changedFirst, Trims.refl target second⟩
    | replaced replacement =>
      exact ⟨replacement, second, by simp [remove, firstResult], replacedFirst replacement rfl, Trims.refl target second⟩
    | notFound =>
      cases secondResult : second.remove target with
      | mk outcome nextSecond =>
        rw [secondResult] at replacedSecond changedSecond
        cases outcome with
        | replaced replacement =>
          exact ⟨nextFirst, replacement, by simp [remove, firstResult, secondResult], changedFirst,
            replacedSecond replacement rfl⟩
        | removed | notFound =>
          exact ⟨nextFirst, nextSecond, by simp [remove, firstResult, secondResult], changedFirst, changedSecond⟩

theorem Removes.split {target : PaneId} {first second : LayoutNode R} (direction : SplitDirection) (ratio : R)
    (inFirst : Removes target first) (inSecond : Removes target second) :
    Removes target (.Split direction ratio first second) := by
  obtain ⟨nextFirst, nextSecond, same, trimsFirst, trimsSecond⟩ := inFirst.children direction ratio inSecond
  have changed : Trims target _ ((Split direction ratio first second).remove target).2 :=
    same ▸ trimsFirst.split direction ratio trimsSecond
  cases firstResult : first.remove target with
  | mk outcome nextFirst =>
    cases outcome with
    | removed =>
      obtain rfl := inFirst.removed (by rw [firstResult])
      refine ⟨by simp [remove], fun next result => ?_, changed⟩
      obtain rfl : second = next := by simpa [remove, firstResult] using result
      exact Trims.collapse_first direction ratio second
    | replaced replacement =>
      exact ⟨by simp [remove, firstResult], by simp [remove, firstResult], changed⟩
    | notFound =>
      have changedFirst := inFirst.changed
      rw [firstResult] at changedFirst
      cases secondResult : second.remove target with
      | mk outcome nextSecond =>
        cases outcome with
        | removed =>
          obtain rfl := inSecond.removed (by rw [secondResult])
          refine ⟨by simp [remove, firstResult], fun next result => ?_, changed⟩
          obtain rfl : nextFirst = next := by simpa [remove, firstResult, secondResult] using result
          exact changedFirst.collapse_second direction ratio
        | replaced | notFound =>
          exact ⟨by simp [remove, firstResult, secondResult], by simp [remove, firstResult, secondResult], changed⟩

theorem remove_removes (target : PaneId) (node : LayoutNode R) : Removes target node := by
  induction node with
  | Leaf id =>
    by_cases same : id = target
    next => exact ⟨by simp [same], by simp [remove, same], by simpa [remove, same] using Trims.refl target _⟩
    next => exact ⟨by simp [remove, same], by simp [remove, same], by simpa [remove, same] using Trims.refl target _⟩
  | Split direction ratio first second ihFirst ihSecond => exact ihFirst.split direction ratio ihSecond

abbrev prune (surplus : List PaneId) (tree : LayoutNode R) : LayoutNode R :=
  surplus.foldl (fun tree extra => (tree.remove extra).2) tree

theorem prune_others {surplus : List PaneId} (tree : LayoutNode R) {keep : PaneId -> Bool}
    (hidden : ∀ id ∈ surplus, keep id = false) :
    (prune surplus tree).paneIds.filter keep = tree.paneIds.filter keep := by
  induction surplus generalizing tree with
  | nil => rfl
  | cons extra rest ih =>
    have here := (remove_removes extra tree).changed.others keep (hidden extra List.mem_cons_self)
    exact (ih _ fun id member => hidden id (List.mem_cons_of_mem _ member)).trans here

theorem prune_children (surplus : List PaneId) (direction : SplitDirection) (ratio : R) (first second : LayoutNode R) :
    ∃ nextFirst nextSecond, prune surplus (.Split direction ratio first second) =
      .Split direction ratio nextFirst nextSecond ∧ nextSecond.paneIds.Sublist second.paneIds := by
  -- The second child of the root is never pruned away.
  induction surplus generalizing first second with
  | nil => exact ⟨first, second, rfl, List.Sublist.refl _⟩
  | cons extra rest ih =>
    obtain ⟨nextFirst, nextSecond, same, -, trims⟩ :=
      (remove_removes extra first).children direction ratio (remove_removes extra second)
    obtain ⟨lastFirst, lastSecond, pruned, within⟩ := ih nextFirst nextSecond
    exact ⟨lastFirst, lastSecond, by rw [prune, List.foldl_cons, same]; exact pruned, within.trans trims.sublist⟩

theorem left_trims {target : PaneId} {node next : LayoutNode R} (remains : left (node.remove target) = some next) :
    Trims target node next := by
  obtain ⟨-, replaced, changed⟩ := remove_removes target node
  cases result : node.remove target with
  | mk outcome after =>
    rw [result] at remains replaced changed
    cases outcome with
    | removed => cases remains
    | replaced replacement => exact replaced next (congrArg RemoveResult.replaced (Option.some.inj remains))
    | notFound => exact Option.some.inj remains ▸ changed

theorem remove_erases [Ratio R] {target : PaneId} {node : LayoutNode R} (distinct : node.paneIds.Nodup)
    (present : target ∈ node.paneIds) (several : 2 ≤ node.paneIds.length) :
    ∃ next, left (node.remove target) = some next ∧ next.paneIds = node.paneIds.erase target := by
  obtain ⟨sub, sibling⟩ := exists_sibling present several
  obtain ⟨next, remains, perm⟩ := remove_paneIds_perm sibling distinct
  refine ⟨next, remains, ?_⟩
  have absent : target ∉ next.paneIds := (List.nodup_cons.mp (perm.nodup distinct)).1
  have others := (left_trims remains).others (fun id => id != target) (by simp)
  rw [distinct.erase_eq_filter, ← others]
  refine (List.filter_eq_self.mpr fun id member => bne_iff_ne.mpr ?_).symm
  rintro rfl
  exact absent member

theorem prune_inSecond [Ratio R] {surplus kept : List PaneId} (direction : SplitDirection) (ratio : R)
    {first second : LayoutNode R} (ids : second.paneIds = kept ++ surplus) (some : kept ≠ [])
    (distinct : (first.paneIds ++ (kept ++ surplus)).Nodup) :
    (prune surplus (.Split direction ratio first second)).paneIds = first.paneIds ++ kept := by
  induction surplus generalizing second with
  | nil => rw [prune, List.foldl_nil, paneIds_split, ids, List.append_nil]
  | cons extra rest ih =>
    obtain ⟨-, distinctSecond, apart⟩ := List.nodup_append.mp distinct
    have inSecond : extra ∈ second.paneIds := by simp [ids]
    have notFirst : extra ∉ first.paneIds := fun member => apart extra member extra (by simp) rfl
    have several : 2 ≤ second.paneIds.length := by
      have := List.length_pos_iff.mpr some
      rw [ids, List.length_append, List.length_cons]
      omega
    obtain ⟨next, removed, erased⟩ := remove_erases (ids ▸ distinctSecond) inSecond several
    have notKept : extra ∉ kept := fun member =>
      (List.nodup_append.mp distinctSecond).2.2 extra member extra List.mem_cons_self rfl
    have nextIds : next.paneIds = kept ++ rest := by
      rw [erased, ids, List.erase_append_right _ notKept, List.erase_cons_head]
    have here : ((Split direction ratio first second).remove extra).2 = .Split direction ratio first next := by
      cases result : second.remove extra with
      | mk outcome changed => cases outcome <;> simp_all [left, remove, remove_absent notFirst]
    rw [prune, List.foldl_cons, here]
    exact ih nextIds (distinct.sublist ((List.sublist_cons_self _ _).append_left _ |>.append_left _))

theorem split_paneIds [Ratio R] {target : PaneId} (newPane : PaneId) (direction : SplitDirection)
    {node : LayoutNode R} (present : target ∈ node.paneIds) :
    ∃ before after, node.paneIds = before ++ target :: after ∧
      (node.split target newPane direction).2.paneIds = before ++ target :: newPane :: after := by
  obtain ⟨-, changed⟩ := split_positions newPane direction present
  obtain ⟨before, old, after, kept, given, was, now, -⟩ := changed (.whole 0 0)
  refine ⟨before.map Prod.fst, after.map Prod.fst, ?_, ?_⟩
  next => rw [<- map_fst_positions node (.whole 0 0), was, List.map_append, List.map_cons]
  next => rw [<- map_fst_positions _ (.whole 0 0), now, List.map_append, List.map_cons, List.map_cons]

abbrev extend [Ratio R] (extras : List PaneId) (last : PaneId) (tree : LayoutNode R) : LayoutNode R :=
  (extras.foldl (fun (state : LayoutNode R × PaneId) extra => ((state.1.split state.2 extra .vertical).2, extra))
    (tree, last)).1

theorem extend_others [Ratio R] {extras : List PaneId} (last : PaneId) (tree : LayoutNode R) {keep : PaneId -> Bool}
    (hidden : ∀ id ∈ extras, keep id = false) :
    (extend extras last tree).paneIds.filter keep = tree.paneIds.filter keep := by
  induction extras generalizing tree last with
  | nil => rfl
  | cons extra rest ih =>
    have here : (tree.split last extra .vertical).2.paneIds.filter keep = tree.paneIds.filter keep := by
      by_cases present : last ∈ tree.paneIds
      next =>
        obtain ⟨before, after, was, now⟩ := split_paneIds extra .vertical present
        have gone := hidden extra List.mem_cons_self
        rw [was, now, List.filter_append, List.filter_append, List.filter_cons, List.filter_cons, List.filter_cons, gone]
        simp
      next => rw [split_absent extra .vertical present]
    exact (ih extra _ fun id member => hidden id (List.mem_cons_of_mem _ member)).trans here

theorem extend_paneIds [Ratio R] {extras init : List PaneId} {last : PaneId} {tree : LayoutNode R}
    (ends : tree.paneIds = init ++ [last]) (distinct : (tree.paneIds ++ extras).Nodup) :
    (extend extras last tree).paneIds = tree.paneIds ++ extras := by
  induction extras generalizing tree init last with
  | nil => exact (List.append_nil _).symm
  | cons extra rest ih =>
    obtain ⟨before, after, was, now⟩ := split_paneIds extra .vertical (show last ∈ tree.paneIds by simp [ends])
    have nothing : after = [] := by
      rcases List.eq_nil_or_concat after with empty | ⟨between, final, rfl⟩
      next => exact empty
      next =>
        have same := was.symm.trans ends
        rw [List.concat_eq_append, ← List.cons_append, ← List.append_assoc] at same
        have final : final = last := by simpa using (List.append_inj' same rfl).2
        have alone := (List.nodup_append.mp distinct).1
        rw [was, final] at alone
        exact absurd (List.nodup_cons.mp (List.nodup_append.mp alone).2.1).1 (by simp)
    subst nothing
    have nextIds : (tree.split last extra .vertical).2.paneIds = tree.paneIds ++ [extra] := by rw [now, was]; simp
    have next := @ih tree.paneIds extra (tree.split last extra .vertical).2 nextIds (by rw [nextIds]; simpa using distinct)
    exact next.trans (by rw [nextIds]; simp)

end LayoutNode

namespace LayoutEngine

open LayoutNode

/-- The panes by the slots they are meant for. -/
abbrev slots (template : LayoutNode R) (ids : List PaneId) : List (PaneId × PaneId) := template.paneIds.zip ids

abbrev fill (template : LayoutNode R) (ids : List PaneId) : LayoutNode R :=
  (slots template ids).foldl (fun tree slot => (tree.replaceLeaf slot.1 slot.2).2) template

theorem slots_fst (template : LayoutNode R) (ids : List PaneId) :
    (slots template ids).map Prod.fst = template.paneIds.take ids.length := by
  rw [slots, List.zip_eq_zip_take_min, List.map_fst_zip (by simp), Nat.min_comm, ← List.take_take]
  simp

theorem slots_snd (template : LayoutNode R) (ids : List PaneId) :
    (slots template ids).map Prod.snd = ids.take template.paneIds.length := by
  rw [slots, List.zip_eq_zip_take_min, List.map_snd_zip (by simp), ← List.take_take]
  simp

theorem applyTemplate_root [Ratio R] (layout : LayoutEngine R) (template : LayoutNode R) {ids : List PaneId}
    (some : ids ≠ []) : (layout.applyTemplate template ids).paneIds =
      (prune (template.paneIds.drop ids.length) (extend (ids.drop template.paneIds.length)
        (ids.getD (template.paneIds.length - 1) 0) (fill template ids))).paneIds := by
  have nonempty : ids.isEmpty = false := by simpa using some
  simp only [applyTemplate, nonempty, Bool.false_eq_true, if_false]
  by_cases more : template.paneIds.length < ids.length
  next =>
    rw [if_pos more, if_neg (by omega), List.drop_of_length_le (show template.paneIds.length ≤ ids.length by omega)]
    rfl
  next =>
    rw [if_neg more, List.drop_of_length_le (show ids.length ≤ template.paneIds.length by omega)]
    by_cases fewer : ids.length < template.paneIds.length
    next => rw [if_pos fewer]; rfl
    next =>
      rw [if_neg fewer, List.drop_of_length_le (show template.paneIds.length ≤ ids.length by omega)]
      rfl

theorem fill_ids {template : LayoutNode R} (ids : List PaneId) (distinct : template.paneIds.Nodup) :
    (fill template ids).paneIds =
      fillIds (slots template ids) ((slots template ids).map Prod.fst) ++ template.paneIds.drop ids.length := by
  have apart : ∀ slot ∈ slots template ids, slot.1 ∉ template.paneIds.drop ids.length := fun slot member surplus => by
    have taken : slot.1 ∈ template.paneIds.take ids.length := slots_fst template ids ▸ List.mem_map_of_mem member
    exact List.disjoint_take_drop distinct (Nat.le_refl _) taken surplus
  rw [← fillIds_append _ _ _ apart, slots_fst, List.take_append_drop]
  exact fill_paneIds _ template

/-- No slot is named like a pane placed before it, no surplus slot like a live pane, and the second child of the
root does not lose all its leaves. -/
structure Fills (template : LayoutNode R) (ids : List PaneId) : Prop where
  apart : (slots template ids).Pairwise fun earlier later => later.1 ≠ earlier.2
  surplus : ∀ id ∈ template.paneIds.drop ids.length, id ∉ ids
  room : template.paneIds.length ≤ ids.length ∨ template.firstLeaves < ids.length

theorem placed_length (template : LayoutNode R) (ids : List PaneId) :
    (fillIds (slots template ids) ((slots template ids).map Prod.fst)).length = min template.paneIds.length ids.length := by
  rw [fillIds_length, List.length_map, List.length_zip]

theorem Fills.placed {template : LayoutNode R} {ids : List PaneId} (fills : Fills template ids) (distinct : ids.Nodup) :
    fillIds (slots template ids) ((slots template ids).map Prod.fst) = ids.take template.paneIds.length := by
  rw [← slots_snd]
  exact (fillIds_eq_iff (slots_snd template ids ▸ distinct.take)).mpr fills.apart

theorem Fills.applyTemplate_extends [Ratio R] {template : LayoutNode R} {ids : List PaneId} (fills : Fills template ids)
    (layout : LayoutEngine R) (slotsDistinct : template.paneIds.Nodup) (distinct : ids.Nodup) (some : ids ≠ [])
    (enough : template.paneIds.length ≤ ids.length) : (layout.applyTemplate template ids).paneIds = ids := by
  have positive := template.paneIds_pos
  have filled := fill_ids ids slotsDistinct
  rw [fills.placed distinct, List.drop_of_length_le enough, List.append_nil] at filled
  have ends : (fill template ids).paneIds =
      ids.take (template.paneIds.length - 1) ++ [ids.getD (template.paneIds.length - 1) 0] := by
    have inside : template.paneIds.length - 1 < ids.length := by omega
    rw [filled, List.getD_eq_getElem?_getD, List.getElem?_eq_getElem inside, Option.getD_some, List.take_append_getElem inside]
    congr 1
    omega
  rw [applyTemplate_root layout template some, List.drop_of_length_le enough, prune, List.foldl_nil,
    extend_paneIds ends (by rw [filled, List.take_append_drop]; exact distinct), filled, List.take_append_drop]

theorem Fills.applyTemplate_prunes [Ratio R] {template : LayoutNode R} {ids : List PaneId} (fills : Fills template ids)
    (layout : LayoutEngine R) (slotsDistinct : template.paneIds.Nodup) (distinct : ids.Nodup) (some : ids ≠ [])
    (fewer : ids.length < template.paneIds.length) : (layout.applyTemplate template ids).paneIds = ids := by
  -- The slots that no pane is left for are removed one by one.
  have filled := fill_ids ids slotsDistinct
  rw [fills.placed distinct, List.take_of_length_le (Nat.le_of_lt fewer)] at filled
  have leaves : (fill template ids).firstLeaves = template.firstLeaves := fill_firstLeaves _ _
  have room : template.firstLeaves < ids.length := fills.room.resolve_left (by omega)
  rw [applyTemplate_root layout template some, List.drop_of_length_le (Nat.le_of_lt fewer), extend, List.foldl_nil]
  cases shape : fill template ids with
  | Leaf id =>
    have one := congrArg (fun tree : LayoutNode R => tree.paneIds.length) shape
    simp only [filled, List.length_append, List.length_drop, paneIds_leaf, List.length_singleton] at one
    have := List.length_pos_iff.mpr some
    omega
  | Split direction ratio first second =>
    rw [shape] at filled leaves
    have inFirst : first.paneIds.length < ids.length := by
      rw [firstLeaves] at leaves
      omega
    have both : first.paneIds ++ second.paneIds =
        ids.take first.paneIds.length ++ (ids.drop first.paneIds.length ++ template.paneIds.drop ids.length) := by
      rw [← List.append_assoc, List.take_append_drop]
      exact filled
    obtain ⟨firstIds, secondIds⟩ := List.append_inj both (by rw [List.length_take]; omega)
    have kept : ids.drop first.paneIds.length ≠ [] := by simpa using inFirst
    have apart : (first.paneIds ++ (ids.drop first.paneIds.length ++ template.paneIds.drop ids.length)).Nodup := by
      rw [← secondIds, both, ← List.append_assoc, List.take_append_drop]
      refine List.nodup_append.mpr ⟨distinct, slotsDistinct.drop, fun id member other surplus same => ?_⟩
      exact fills.surplus other surplus (same ▸ member)
    rw [prune_inSecond direction ratio secondIds kept apart, firstIds, List.length_take,
      Nat.min_eq_left (Nat.le_of_lt inFirst), List.take_append_drop]

theorem placed_of_result [Ratio R] {layout : LayoutEngine R} {template : LayoutNode R} {ids : List PaneId}
    (slotsDistinct : template.paneIds.Nodup) (distinct : ids.Nodup) (some : ids ≠ [])
    (surplus : ∀ id ∈ template.paneIds.drop ids.length, id ∉ ids)
    (kept : (layout.applyTemplate template ids).paneIds = ids) :
    fillIds (slots template ids) ((slots template ids).map Prod.fst) = ids.take template.paneIds.length := by
  -- What is filled in can be read off the result: neither extending nor pruning touches it.
  obtain ⟨keep, isKeep⟩ : ∃ keep : PaneId -> Bool, ∀ id,
      keep id = true ↔ id ∉ template.paneIds.drop ids.length ∧ id ∉ ids.drop template.paneIds.length :=
    ⟨fun id => decide (_ ∧ _), fun id => decide_eq_true_iff⟩
  have surplusHidden : ∀ id ∈ template.paneIds.drop ids.length, keep id = false := fun id member =>
    Bool.eq_false_iff.mpr fun shown => ((isKeep id).mp shown).1 member
  have extrasHidden : ∀ id ∈ ids.drop template.paneIds.length, keep id = false := fun id member =>
    Bool.eq_false_iff.mpr fun shown => ((isKeep id).mp shown).2 member
  have noSurplus : (template.paneIds.drop ids.length).filter keep = [] :=
    List.filter_eq_nil_iff.mpr fun id member => by simp [surplusHidden id member]
  have noExtras : (ids.drop template.paneIds.length).filter keep = [] :=
    List.filter_eq_nil_iff.mpr fun id member => by simp [extrasHidden id member]
  have result : (layout.applyTemplate template ids).paneIds.filter keep =
      (fillIds (slots template ids) ((slots template ids).map Prod.fst)).filter keep := by
    rw [applyTemplate_root layout template some, prune_others _ surplusHidden, extend_others _ _ extrasHidden,
      fill_ids ids slotsDistinct, List.filter_append, noSurplus, List.append_nil]
  have shown : ids.filter keep = ids.take template.paneIds.length := by
    conv_lhs => rw [← List.take_append_drop template.paneIds.length ids]
    rw [List.filter_append, noExtras, List.append_nil]
    refine List.filter_eq_self.mpr fun id member => (isKeep id).mpr ⟨fun other => ?_, ?_⟩
    next => exact surplus id other (List.mem_of_mem_take member)
    next => exact List.disjoint_take_drop distinct (Nat.le_refl _) member
  rw [kept] at result
  have whole := (List.filter_sublist (p := keep)
    (l := fillIds (slots template ids) ((slots template ids).map Prod.fst))).eq_of_length (by
      rw [← result, shown, placed_length, List.length_take])
  rw [← whole, ← result, shown]

theorem surplus_remains [Ratio R] {template : LayoutNode R} {ids : List PaneId} (slotsDistinct : template.paneIds.Nodup)
    (placed : fillIds (slots template ids) ((slots template ids).map Prod.fst) = ids.take template.paneIds.length)
    (some : ids ≠ []) (fewer : ids.length < template.paneIds.length) (fits : ids.length ≤ template.firstLeaves)
    (layout : LayoutEngine R) :
    ∃ id ∈ template.paneIds.drop ids.length, id ∈ (layout.applyTemplate template ids).paneIds := by
  -- Where the panes fit into the first child of the root, a leaf of the second one keeps its placeholder.
  have filled := fill_ids ids slotsDistinct
  rw [placed, List.take_of_length_le (Nat.le_of_lt fewer)] at filled
  have leaves : (fill template ids).firstLeaves = template.firstLeaves := fill_firstLeaves _ _
  rw [applyTemplate_root layout template some, List.drop_of_length_le (Nat.le_of_lt fewer), extend, List.foldl_nil]
  cases shape : fill template ids with
  | Leaf id =>
    rw [shape, firstLeaves] at leaves
    have := List.length_pos_iff.mpr some
    omega
  | Split direction ratio first second =>
    rw [shape] at filled leaves
    have inFirst : ids.length ≤ first.paneIds.length := by
      rw [firstLeaves] at leaves
      omega
    obtain ⟨nextFirst, nextSecond, pruned, within⟩ :=
      prune_children (template.paneIds.drop ids.length) direction ratio first second
    obtain ⟨id, member⟩ := List.exists_mem_of_length_pos nextSecond.paneIds_pos
    refine ⟨id, ?_, by rw [pruned]; exact List.mem_append_right _ member⟩
    have dropped : second.paneIds = (ids ++ template.paneIds.drop ids.length).drop first.paneIds.length := by
      rw [← filled, paneIds_split, List.drop_left]
    rw [List.drop_append, List.drop_of_length_le inFirst, List.nil_append] at dropped
    exact List.mem_of_mem_drop (dropped ▸ within.subset member)

theorem applyTemplate_keeps_panes [Ratio R] (layout : LayoutEngine R) {template : LayoutNode R} {ids : List PaneId}
    (slotsDistinct : template.paneIds.Nodup) (distinct : ids.Nodup) (some : ids ≠ []) :
    (Fills template ids -> (layout.applyTemplate template ids).paneIds = ids) ∧
      ((∀ id ∈ template.paneIds.drop ids.length, id ∉ ids) ->
        (layout.applyTemplate template ids).paneIds = ids -> Fills template ids) := by
  constructor
  next =>
    intro fills
    by_cases enough : template.paneIds.length ≤ ids.length
    next => exact fills.applyTemplate_extends layout slotsDistinct distinct some enough
    next => exact fills.applyTemplate_prunes layout slotsDistinct distinct some (by omega)
  next =>
    intro surplus kept
    have placed := placed_of_result slotsDistinct distinct some surplus kept
    refine ⟨(fillIds_eq_iff (slots_snd template ids ▸ distinct.take)).mp (slots_snd template ids ▸ placed), surplus, ?_⟩
    by_contra crowded
    rw [not_or, Nat.not_le, Nat.not_lt] at crowded
    obtain ⟨id, isSurplus, shown⟩ := surplus_remains slotsDistinct placed some crowded.1 crowded.2 layout
    exact surplus id isSurplus (kept ▸ shown)

theorem applyTemplate_keeps_two_panes :
    let template : LayoutNode Rat := .Split .vertical (1 / 2) (.Leaf 100) (.Split .horizontal (1 / 2) (.Leaf 101) (.Leaf 102))
    (LayoutEngine.new.applyTemplate template [7, 5]).paneIds = [7, 5] :=
  (applyTemplate_keeps_panes LayoutEngine.new (by decide) (by decide) (by decide)).1
    ⟨by decide, by decide, by decide⟩

/-- A single pane in a template of two slots leaves the second placeholder in the tree. -/
theorem applyTemplate_keeps_placeholder :
    let template : LayoutNode Rat := .Split .vertical (1 / 2) (.Leaf 100) (.Leaf 101)
    template.paneIds.Nodup ∧ (LayoutEngine.new.applyTemplate template [0]).paneIds = [0, 101] := by
  decide

end LayoutEngine

end Emux
