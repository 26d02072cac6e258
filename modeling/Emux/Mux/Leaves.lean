import Mathlib.Data.List.Perm.Basic
import Emux.Mux.Tiling

set_option autoImplicit false

/-!
# Leaves of an edited layout

What each operation on the tree does to the list of leaf ids.
-/

namespace Emux

variable {R : Type}

namespace LayoutNode

theorem split_paneIds_perm [Ratio R] {target : PaneId} (newPane : PaneId) (direction : SplitDirection)
    {node : LayoutNode R} (present : target ∈ node.paneIds) :
    (node.split target newPane direction).2.paneIds.Perm (newPane :: node.paneIds) := by
  obtain ⟨-, changed⟩ := split_positions newPane direction present
  obtain ⟨before, old, after, kept, given, was, now, -⟩ := changed (.whole 0 0)
  have was := congrArg (List.map Prod.fst) was
  have now := congrArg (List.map Prod.fst) now
  rw [map_fst_positions, List.map_append, List.map_cons] at was now
  rw [was, now, List.map_cons]
  exact (List.perm_append_left_iff _).mpr (List.Perm.swap ..) |>.trans List.perm_middle

theorem remove_paneIds_perm [Ratio R] {target : PaneId} {node sub : LayoutNode R} (sibling : Sibling target node sub)
    (distinct : node.paneIds.Nodup) :
    ∃ next, left (node.remove target) = some next ∧ node.paneIds.Perm (target :: next.paneIds) := by
  obtain ⟨next, removedTo, changed⟩ := remove_positions sibling distinct
  obtain ⟨before, after, removed, region, whole, was, now, -⟩ := changed (.whole 0 0)
  have now := congrArg (List.map Prod.fst) now
  simp only [map_fst_positions, List.map_append] at now
  refine ⟨next, removedTo, ?_⟩
  rcases was with was | was
  next =>
    have was := congrArg (List.map Prod.fst) was
    simp only [map_fst_positions, List.map_append, List.map_cons] at was
    rw [was, now]
    simp only [List.append_assoc, List.cons_append]
    exact List.perm_middle
  next =>
    have was := congrArg (List.map Prod.fst) was
    simp only [map_fst_positions, List.map_append, List.map_cons, List.map_nil] at was
    rw [was, now]
    simp only [List.append_assoc, List.singleton_append]
    rw [← List.append_assoc, ← List.append_assoc]
    exact List.perm_middle

theorem adjustRatio_paneIds [Ratio R] (target : PaneId) (axis : SplitDirection) (delta : R) (node : LayoutNode R) :
    (node.adjustRatio target axis delta).2.paneIds = node.paneIds := by
  induction node with
  | Leaf id => rfl
  | Split direction ratio first second ihFirst ihSecond =>
    simp only [adjustRatio]
    split
    next => rfl
    next =>
      split
      next => split <;> rfl
      next =>
        split
        next => simp [ihFirst]
        next => simp [ihSecond]

theorem adjustRatio_refused [Ratio R] {target : PaneId} {axis : SplitDirection} {delta : R} {node : LayoutNode R}
    (refused : (node.adjustRatio target axis delta).1 = false) : (node.adjustRatio target axis delta).2 = node := by
  induction node with
  | Leaf id => rfl
  | Split direction ratio first second ihFirst ihSecond =>
    simp only [adjustRatio] at refused ⊢
    split at refused
    next absent => rw [if_pos absent]
    next present =>
      rw [if_neg present]
      split at refused
      next => split at refused <;> cases refused
      next other =>
        rw [if_neg other]
        split at refused
        next inFirst => simp only [if_pos inFirst, ihFirst refused]
        next notFirst => simp only [if_neg notFirst, ihSecond refused]

theorem replaceLeaf_paneIds (oldId newId : PaneId) (node : LayoutNode R) :
    (node.replaceLeaf oldId newId).1 = node.paneIds.contains oldId ∧
      (node.replaceLeaf oldId newId).2.paneIds = node.paneIds.replace oldId newId := by
  induction node with
  | Leaf id =>
    by_cases same : id = oldId
    next => simp [replaceLeaf, same]
    next => simp [replaceLeaf, same, Ne.symm same]
  | Split direction ratio first second ihFirst ihSecond =>
    cases firstResult : first.replaceLeaf oldId newId with
    | mk found next =>
      rw [firstResult] at ihFirst
      cases found with
      | true =>
        have inFirst : oldId ∈ first.paneIds := by simpa using ihFirst.1.symm
        simp [replaceLeaf, firstResult, ihFirst.2, List.replace_append_left inFirst, inFirst]
      | false =>
        have notFirst : oldId ∉ first.paneIds := by simpa using ihFirst.1.symm
        cases secondResult : second.replaceLeaf oldId newId with
        | mk found after =>
          rw [secondResult] at ihSecond
          have kept : next.paneIds = first.paneIds := ihFirst.2.trans (List.replace_of_not_mem notFirst)
          refine ⟨?_, ?_⟩
          next => simpa [replaceLeaf, firstResult, secondResult, notFirst] using ihSecond.1
          next => simp [replaceLeaf, firstResult, secondResult, kept, ihSecond.2, List.replace_append_right notFirst]

theorem count_replace {a : PaneId} (b x : PaneId) {ids : List PaneId} (present : a ∈ ids) :
    (ids.replace a b).count x + (if a = x then 1 else 0) = ids.count x + if b = x then 1 else 0 := by
  induction ids with
  | nil => cases present
  | cons id rest ih =>
    by_cases same : a = id
    next =>
      subst same
      simp only [List.replace_cons_self, List.count_cons, beq_iff_eq]
      omega
    next =>
      have later := ih ((List.mem_cons.mp present).resolve_left same)
      have passed : (id :: rest).replace a b = id :: rest.replace a b := by
        rw [List.replace_cons, beq_eq_false_iff_ne.mpr same]
      rw [passed, List.count_cons, List.count_cons]
      omega

theorem swapLeaves_paneIds_perm (a b : PaneId) (node : LayoutNode R) :
    (node.swapLeaves a b).2.paneIds.Perm node.paneIds := by
  unfold swapLeaves
  obtain ⟨foundA, idsA⟩ := node.replaceLeaf_paneIds a sentinel
  cases resultA : node.replaceLeaf a sentinel with
  | mk found marked =>
    rw [resultA] at foundA idsA
    cases found with
    | false =>
      have absent : a ∉ node.paneIds := by simpa using foundA.symm
      simp [idsA, List.replace_of_not_mem absent]
    | true =>
      have present : a ∈ node.paneIds := by simpa using foundA.symm
      have countA := fun x => count_replace sentinel x present
      rw [← show marked.paneIds = _ from idsA] at countA
      have marks : sentinel ∈ marked.paneIds := by
        have := countA sentinel
        simp only [if_true] at this
        split at this
        next same => exact List.count_pos_iff.mp (by have := List.count_pos_iff.mpr (same ▸ present); omega)
        next => exact List.count_pos_iff.mp (by omega)
      obtain ⟨foundB, idsB⟩ := marked.replaceLeaf_paneIds b a
      cases resultB : marked.replaceLeaf b a with
      | mk found swapped =>
        rw [resultB] at foundB idsB
        cases found with
        | false =>
          have absent : b ∉ marked.paneIds := by simpa using foundB.symm
          have kept : swapped.paneIds = marked.paneIds := idsB.trans (List.replace_of_not_mem absent)
          have back := fun x => count_replace a x marks
          simp only [resultB]
          refine List.perm_iff_count.mpr fun x => ?_
          rw [(swapped.replaceLeaf_paneIds sentinel a).2, kept]
          have := countA x
          have := back x
          omega
        | true =>
          have present : b ∈ marked.paneIds := by simpa using foundB.symm
          have countB := fun x => count_replace a x present
          rw [← show swapped.paneIds = _ from idsB] at countB
          simp only [resultB]
          refine List.perm_iff_count.mpr fun x => ?_
          rw [(swapped.replaceLeaf_paneIds sentinel b).2]
          have one := countA x
          have two := countB x
          by_cases remains : sentinel ∈ swapped.paneIds
          next =>
            have three := count_replace b x remains
            omega
          next =>
            -- The mark itself was the second pane.
            obtain rfl : sentinel = b := by
              by_contra other
              have lost := countB sentinel
              rw [List.count_eq_zero_of_not_mem remains, if_neg (Ne.symm other)] at lost
              have := List.count_pos_iff.mpr marks
              omega
            rw [List.replace_of_not_mem remains]
            omega

theorem fill_count (slots : List (PaneId × PaneId)) (tree : LayoutNode R)
    (available : ∀ x, (slots.map Prod.fst).count x ≤ tree.paneIds.count x) (x : PaneId) :
    (slots.foldl (fun tree slot => (tree.replaceLeaf slot.1 slot.2).2) tree).paneIds.count x +
      (slots.map Prod.fst).count x = tree.paneIds.count x + (slots.map Prod.snd).count x := by
  -- Replacing one leaf after the other exchanges the two lists of ids.
  induction slots generalizing tree with
  | nil => rfl
  | cons slot rest ih =>
    have here : slot.1 ∈ tree.paneIds := by
      refine List.count_pos_iff.mp (Nat.lt_of_lt_of_le ?_ (available slot.1))
      simp
    have replaced := fun y => count_replace slot.2 y here
    rw [← (tree.replaceLeaf_paneIds slot.1 slot.2).2] at replaced
    have left := ih (tree.replaceLeaf slot.1 slot.2).2 fun y => by
      have before := available y
      have now := replaced y
      simp only [List.map_cons, List.count_cons, beq_iff_eq] at before
      omega
    have now := replaced x
    simp only [List.foldl_cons, List.map_cons, List.count_cons, beq_iff_eq]
    omega

theorem extend_perm [Ratio R] (extras : List PaneId) (tree : LayoutNode R) (last : PaneId)
    (present : last ∈ tree.paneIds) :
    (extras.foldl (fun (state : LayoutNode R × PaneId) extra => ((state.1.split state.2 extra .vertical).2, extra))
      (tree, last)).1.paneIds.Perm (tree.paneIds ++ extras) := by
  -- Splitting one leaf off the other adds the ids.
  induction extras generalizing tree last with
  | nil => simp
  | cons extra rest ih =>
    have added := split_paneIds_perm extra .vertical present
    have next := ih (tree.split last extra .vertical).2 extra (added.mem_iff.mpr List.mem_cons_self)
    exact next.trans ((added.append_right rest).trans List.perm_middle.symm)

theorem swapLeaves_found {a b : PaneId} {node : LayoutNode R} (presentA : a ∈ node.paneIds)
    (presentB : b ∈ node.paneIds) (other : a ≠ b) : (node.swapLeaves a b).1 = true := by
  unfold swapLeaves
  obtain ⟨foundA, idsA⟩ := node.replaceLeaf_paneIds a sentinel
  cases resultA : node.replaceLeaf a sentinel with
  | mk found marked =>
    rw [resultA] at foundA idsA
    obtain rfl : found = true := by simpa [presentA] using foundA
    have kept : b ∈ marked.paneIds := by
      have counted := count_replace sentinel b presentA
      rw [← show marked.paneIds = _ from idsA, if_neg other] at counted
      have := List.count_pos_iff.mpr presentB
      exact List.count_pos_iff.mp (by omega)
    have foundB := (marked.replaceLeaf_paneIds b a).1
    cases resultB : marked.replaceLeaf b a with
    | mk found swapped =>
      rw [resultB] at foundB
      obtain rfl : found = true := by simpa [kept] using foundB
      simp only [resultB]

end LayoutNode

namespace LayoutEngine

theorem split_paneIds_perm [Ratio R] {layout : LayoutEngine R} {target : PaneId} (newPane : PaneId)
    (direction : SplitDirection) (present : target ∈ layout.paneIds) :
    (layout.split target newPane direction).2.paneIds.Perm (newPane :: layout.paneIds) := by
  obtain ⟨root⟩ := layout
  cases root with
  | none => cases present
  | some root => exact LayoutNode.split_paneIds_perm newPane direction present

theorem addPane_paneIds_perm [Ratio R] (layout : LayoutEngine R) (id : PaneId) :
    (layout.addPane id).paneIds.Perm (id :: layout.paneIds) := by
  obtain ⟨root⟩ := layout
  cases root with
  | none => exact List.Perm.refl _
  | some root =>
    simp only [addPane]
    cases last : (paneIds { root := some root }).getLast? with
    | none =>
      have empty := List.getLast?_eq_none_iff.mp last
      exact absurd empty (List.length_pos_iff.mp root.paneIds_pos)
    | some last' => exact split_paneIds_perm id .vertical (List.mem_of_getLast? last)

theorem removePane_paneIds_perm [Ratio R] {layout : LayoutEngine R} {target : PaneId} (distinct : layout.paneIds.Nodup)
    (present : target ∈ layout.paneIds) (several : 2 ≤ layout.paneIds.length) :
    layout.paneIds.Perm (target :: (layout.removePane target).2.paneIds) := by
  obtain ⟨root⟩ := layout
  cases root with
  | none => cases present
  | some root =>
    obtain ⟨sub, sibling⟩ := LayoutNode.exists_sibling present several
    obtain ⟨next, removedTo, perm⟩ := LayoutNode.remove_paneIds_perm sibling distinct
    have nextRoot : (removePane { root := some root } target).2.root = some next := by
      rw [removePane_root, Option.bind_some, removedTo]
    have same : (removePane { root := some root } target).2.paneIds = next.paneIds := by
      rw [paneIds, nextRoot]
    rw [same]
    exact perm

theorem adjustRatio_paneIds [Ratio R] (layout : LayoutEngine R) (target : PaneId) (axis : SplitDirection) (delta : R) :
    (layout.adjustRatio target axis delta).2.paneIds = layout.paneIds := by
  obtain ⟨root⟩ := layout
  cases root with
  | none => rfl
  | some root => exact root.adjustRatio_paneIds target axis delta

theorem adjustRatio_refused [Ratio R] {layout : LayoutEngine R} {target : PaneId} {axis : SplitDirection} {delta : R}
    (refused : (layout.adjustRatio target axis delta).1 = false) :
    (layout.adjustRatio target axis delta).2 = layout := by
  obtain ⟨root⟩ := layout
  cases root with
  | none => rfl
  | some root =>
    have same := LayoutNode.adjustRatio_refused refused
    exact congrArg (fun root : LayoutNode R => ({ root := some root } : LayoutEngine R)) same

theorem swapLeaves_found {layout : LayoutEngine R} {a b : PaneId} (presentA : a ∈ layout.paneIds)
    (presentB : b ∈ layout.paneIds) (other : a ≠ b) : (layout.swapLeaves a b).1 = true := by
  obtain ⟨root⟩ := layout
  cases root with
  | none => cases presentA
  | some root => exact LayoutNode.swapLeaves_found presentA presentB other

theorem swapLeaves_paneIds_perm (layout : LayoutEngine R) (a b : PaneId) :
    (layout.swapLeaves a b).2.paneIds.Perm layout.paneIds := by
  obtain ⟨root⟩ := layout
  cases root with
  | none => exact List.Perm.refl _
  | some root => exact root.swapLeaves_paneIds_perm a b

theorem applyTemplate_paneIds_perm [Ratio R] (layout : LayoutEngine R) {template : LayoutNode R} {ids : List PaneId}
    (fits : template.paneIds.length ≤ ids.length) : (layout.applyTemplate template ids).paneIds.Perm ids := by
  -- A template with no more slots than there are panes keeps exactly the panes.
  have slots := template.paneIds_pos
  have nonempty : ids.isEmpty = false := by
    cases ids with
    | nil => simp at fits; simp [fits] at slots
    | cons id rest => rfl
  have firsts : (template.paneIds.zip ids).map Prod.fst = template.paneIds := List.map_fst_zip fits
  have seconds : (template.paneIds.zip ids).map Prod.snd = ids.take template.paneIds.length := by
    rw [List.zip_eq_zip_take_min, Nat.min_eq_left fits, List.take_length]
    exact List.map_snd_zip (by rw [List.length_take]; omega)
  obtain ⟨filled, isFilled⟩ : ∃ tree, tree =
      (template.paneIds.zip ids).foldl (fun tree slot => (tree.replaceLeaf slot.1 slot.2).2) template := ⟨_, rfl⟩
  have taken : filled.paneIds.Perm (ids.take template.paneIds.length) := by
    refine List.perm_iff_count.mpr fun x => ?_
    have counted := LayoutNode.fill_count (template.paneIds.zip ids) template (fun y => by rw [firsts]) x
    rw [firsts, seconds, ← isFilled] at counted
    omega
  have pruned : ¬ ids.length < template.paneIds.length := by omega
  simp only [applyTemplate, nonempty, Bool.false_eq_true, if_false, pruned, ← isFilled]
  split
  next more =>
    have last : ids.getD (template.paneIds.length - 1) 0 ∈ filled.paneIds := by
      refine taken.mem_iff.mpr (List.mem_take_iff_getElem.mpr ⟨template.paneIds.length - 1, by omega, ?_⟩)
      simp [List.getD_eq_getElem?_getD, List.getElem?_eq_getElem (show template.paneIds.length - 1 < ids.length by omega)]
    have extended := LayoutNode.extend_perm (ids.drop template.paneIds.length) filled _ last
    exact extended.trans ((taken.append_right _).trans (by rw [List.take_append_drop]))
  next same =>
    rw [List.take_of_length_le (by omega)] at taken
    exact taken

end LayoutEngine

end Emux
