import Mathlib.Logic.Equiv.Basic
import Emux.Mux.Templates

set_option autoImplicit false

/-!
# Exact edits of the layout

Where the leaf ids are distinct and none of them is the mark that `swap_leaves` uses, every edit does to the list of
ids exactly what its name says, at any depth of the tree.
-/

namespace Emux

variable {R : Type}

theorem replace_eq_map {ids : List PaneId} (distinct : ids.Nodup) (a b : PaneId) :
    ids.replace a b = ids.map fun id => if id = a then b else id := by
  induction ids with
  | nil => rfl
  | cons id rest ih =>
    obtain ⟨absent, distinct⟩ := List.nodup_cons.mp distinct
    by_cases here : id = a
    next =>
      subst here
      have kept : rest.map (fun other => if other = id then b else other) = rest := by
        refine (List.map_congr_left fun other member => if_neg ?_).trans (List.map_id rest)
        rintro rfl
        exact absent member
      rw [List.replace_cons_self, List.map_cons, if_pos rfl, kept]
    next =>
      rw [List.replace_cons, beq_eq_false_iff_ne.mpr (Ne.symm here), List.map_cons, if_neg here, ih distinct]

theorem replace_nodup {ids : List PaneId} (distinct : ids.Nodup) (a : PaneId) {b : PaneId} (fresh : b ∉ ids) :
    (ids.replace a b).Nodup := by
  rw [replace_eq_map distinct]
  refine distinct.map_on fun x here y there same => ?_
  split at same <;> split at same <;> grind

theorem replace_thrice {ids : List PaneId} (distinct : ids.Nodup) {a b mark : PaneId} (fresh : mark ∉ ids)
    (inA : a ∈ ids) (inB : b ∈ ids) :
    ((ids.replace a mark).replace b a).replace mark b = ids.map (Equiv.swap a b) := by
  -- The two ids change places by way of a mark that is not in the list.
  have markA : mark ≠ a := fun same => fresh (same ▸ inA)
  have markB : mark ≠ b := fun same => fresh (same ▸ inB)
  have marked := replace_nodup distinct a fresh
  have freed : a ∉ ids.replace a mark := by
    rw [replace_eq_map distinct, List.mem_map]
    rintro ⟨id, -, is⟩
    split at is
    next => exact markA is
    next different => exact different is
  rw [replace_eq_map (replace_nodup marked b freed), replace_eq_map marked, replace_eq_map distinct, List.map_map,
    List.map_map]
  refine List.map_congr_left fun id member => ?_
  have real : id ≠ mark := fun same => fresh (same ▸ member)
  simp only [Function.comp_apply, Equiv.swap_apply_def]
  split_ifs <;> grind

namespace LayoutNode

theorem split_present [Ratio R] {target : PaneId} (newPane : PaneId) (direction : SplitDirection) {node : LayoutNode R}
    (present : target ∈ node.paneIds) : (node.split target newPane direction).1 = true :=
  (split_positions newPane direction present).1

theorem replaceLeaf_absent {oldId : PaneId} (newId : PaneId) {node : LayoutNode R} (absent : oldId ∉ node.paneIds) :
    node.replaceLeaf oldId newId = (false, node) := by
  induction node with
  | Leaf id =>
    have other : id ≠ oldId := fun same => absent (by simp [same])
    simp [replaceLeaf, other]
  | Split direction ratio first second ihFirst ihSecond =>
    rw [paneIds_split, List.mem_append, not_or] at absent
    simp [replaceLeaf, ihFirst absent.1, ihSecond absent.2]

theorem replaceLeaf_back {oldId mark : PaneId} {node : LayoutNode R} (present : oldId ∈ node.paneIds)
    (fresh : mark ∉ node.paneIds) : (node.replaceLeaf oldId mark).2.replaceLeaf mark oldId = (true, node) := by
  -- The way back from a mark that was not in the tree.
  induction node with
  | Leaf id =>
    obtain rfl : oldId = id := by simpa using present
    simp [replaceLeaf]
  | Split direction ratio first second ihFirst ihSecond =>
    rw [paneIds_split, List.mem_append, not_or] at fresh
    by_cases here : oldId ∈ first.paneIds
    next =>
      have found := (first.replaceLeaf_paneIds oldId mark).1
      have back := ihFirst here fresh.1
      cases marked : first.replaceLeaf oldId mark with
      | mk done next =>
        rw [marked] at found back
        obtain rfl : done = true := by simpa [here] using found
        simp [replaceLeaf, marked, back]
    next =>
      have there : oldId ∈ second.paneIds := by
        rw [paneIds_split, List.mem_append] at present
        exact present.resolve_left here
      have back := ihSecond there fresh.2
      cases marked : second.replaceLeaf oldId mark with
      | mk done next =>
        rw [marked] at back
        simp [replaceLeaf, replaceLeaf_absent mark here, marked, replaceLeaf_absent oldId fresh.1, back]

theorem swapLeaves_paneIds {a b : PaneId} {node : LayoutNode R} (distinct : node.paneIds.Nodup)
    (real : sentinel ∉ node.paneIds) (inA : a ∈ node.paneIds) (inB : b ∈ node.paneIds) (other : a ≠ b) :
    (node.swapLeaves a b).2.paneIds = node.paneIds.map (Equiv.swap a b) := by
  rw [← replace_thrice distinct real inA inB]
  have swapped := swapLeaves_found inA inB other
  unfold swapLeaves at swapped ⊢
  have marks := (node.replaceLeaf_paneIds a sentinel).2
  cases marked : node.replaceLeaf a sentinel with
  | mk found next =>
    rw [marked] at marks
    rw [marked] at swapped
    cases found with
    | false => cases swapped
    | true =>
      have moves := (next.replaceLeaf_paneIds b a).2
      dsimp only at swapped marks ⊢
      cases moved : next.replaceLeaf b a with
      | mk found last =>
        rw [moved] at swapped moves
        cases found with
        | false => cases swapped
        | true =>
          dsimp only at moves ⊢
          rw [(last.replaceLeaf_paneIds sentinel b).2, moves, marks]

theorem swapLeaves_absent {a b : PaneId} {node : LayoutNode R} (real : sentinel ∉ node.paneIds)
    (absent : a ∉ node.paneIds ∨ b ∉ node.paneIds) : (node.swapLeaves a b).2 = node := by
  -- An absent id is found neither before the mark is set nor after, and the mark is taken back.
  by_cases inA : a ∈ node.paneIds
  next =>
    have notB := absent.resolve_left (not_not.mpr inA)
    obtain ⟨found, marks⟩ := node.replaceLeaf_paneIds a sentinel
    have back := replaceLeaf_back inA real
    unfold swapLeaves
    cases marked : node.replaceLeaf a sentinel with
    | mk done next =>
      rw [marked] at found marks back
      obtain rfl : done = true := by simpa [inA] using found
      dsimp only at marks back ⊢
      by_cases mark : b = sentinel
      next =>
        -- The mark itself is the second id: it is replaced at once.
        subst mark
        rw [back]
        exact congrArg Prod.snd (replaceLeaf_absent sentinel real)
      next =>
        have missing : b ∉ next.paneIds := by
          have counted := count_replace sentinel b inA
          rw [← show next.paneIds = _ from marks, List.count_eq_zero_of_not_mem notB, if_neg (Ne.symm mark)] at counted
          exact List.count_eq_zero.mp (by omega)
        rw [replaceLeaf_absent a missing]
        exact congrArg Prod.snd back
  next => simp only [swapLeaves, replaceLeaf_absent sentinel inA]

end LayoutNode

namespace LayoutEngine

theorem removePane_present [Ratio R] {layout : LayoutEngine R} {id : PaneId} (distinct : layout.paneIds.Nodup)
    (present : id ∈ layout.paneIds) : (layout.removePane id).1 = true ∧
      (layout.removePane id).2.paneIds = layout.paneIds.erase id := by
  -- What `remove_pane` does with a pane that is there.
  obtain ⟨root⟩ := layout
  cases root with
  | none => cases present
  | some root =>
    have absent : id ∉ root.paneIds.erase id := fun member => (distinct.mem_erase_iff.mp member).1 rfl
    by_cases several : 2 ≤ root.paneIds.length
    next =>
      obtain ⟨next, remains, erased⟩ := LayoutNode.remove_erases distinct present several
      simp only [removePane, paneIds]
      cases result : root.remove id with
      | mk outcome changed =>
        rw [result] at remains
        cases outcome with
        | removed => cases remains
        | replaced node =>
          obtain rfl := Option.some.inj remains
          exact ⟨rfl, erased⟩
        | notFound =>
          obtain rfl := Option.some.inj remains
          refine ⟨?_, erased⟩
          simpa [erased] using absent
    next =>
      cases root with
      | Leaf other =>
        obtain rfl : id = other := by simpa [paneIds] using present
        simp [removePane, LayoutNode.remove, paneIds]
      | Split direction ratio first second =>
        have one := first.paneIds_pos
        have two := second.paneIds_pos
        rw [LayoutNode.paneIds_split, List.length_append] at several
        omega

theorem removePane_only {layout : LayoutEngine R} {id : PaneId} (only : layout.paneIds = [id]) :
    (layout.removePane id).2 = new := by
  -- The layout is empty when its only leaf is removed.
  obtain ⟨root⟩ := layout
  cases root with
  | none => cases only
  | some root =>
    cases root with
    | Leaf other =>
      obtain rfl : other = id := List.singleton_inj.mp only
      simp [removePane, LayoutNode.remove, new]
    | Split direction ratio first second =>
      have lengths := congrArg List.length only
      have one := first.paneIds_pos
      have two := second.paneIds_pos
      simp only [paneIds, LayoutNode.paneIds_split, List.length_append, List.length_singleton] at lengths
      omega

theorem removePane_absent {layout : LayoutEngine R} {id : PaneId} (absent : id ∉ layout.paneIds) :
    (layout.removePane id).2 = layout := by
  obtain ⟨root⟩ := layout
  cases root with
  | none => rfl
  | some root => simp only [removePane, LayoutNode.remove_absent absent]

variable [Ratio R]

theorem edits_exact {layout : LayoutEngine R} (distinct : layout.paneIds.Nodup)
    (real : LayoutNode.sentinel ∉ layout.paneIds) :
    (∀ target ∈ layout.paneIds, ∀ newPane direction, (layout.split target newPane direction).1 = true ∧
      ∃ before after, layout.paneIds = before ++ target :: after ∧
        (layout.split target newPane direction).2.paneIds = before ++ target :: newPane :: after) ∧
    (∀ id ∈ layout.paneIds, (layout.removePane id).1 = true ∧
      (layout.removePane id).2.paneIds = layout.paneIds.erase id ∧
      (layout.paneIds = [id] -> (layout.removePane id).2 = new)) ∧
    (∀ a ∈ layout.paneIds, ∀ b ∈ layout.paneIds, a ≠ b -> (layout.swapLeaves a b).1 = true ∧
      (layout.swapLeaves a b).2.paneIds = layout.paneIds.map (Equiv.swap a b)) ∧
    (∀ target ∉ layout.paneIds, ∀ newPane direction, (layout.split target newPane direction).2 = layout) ∧
    (∀ a b, a ∉ layout.paneIds ∨ b ∉ layout.paneIds -> (layout.swapLeaves a b).2 = layout) ∧
    (∀ id ∉ layout.paneIds, (layout.removePane id).2 = layout) := by
  refine ⟨?_, fun id present => ?_, fun a inA b inB other => ⟨swapLeaves_found inA inB other, ?_⟩, ?_, ?_,
    fun id absent => removePane_absent absent⟩
  next =>
    intro target present newPane direction
    obtain ⟨root⟩ := layout
    cases root with
    | none => cases present
    | some root => exact ⟨LayoutNode.split_present newPane direction present, LayoutNode.split_paneIds newPane direction present⟩
  next =>
    obtain ⟨removed, ids⟩ := removePane_present distinct present
    exact ⟨removed, ids, removePane_only⟩
  next =>
    obtain ⟨root⟩ := layout
    cases root with
    | none => cases inA
    | some root => exact LayoutNode.swapLeaves_paneIds distinct real inA inB other
  next =>
    intro target absent newPane direction
    obtain ⟨root⟩ := layout
    cases root with
    | none => rfl
    | some root => simp only [split, LayoutNode.split_absent newPane direction absent]
  next =>
    intro a b absent
    obtain ⟨root⟩ := layout
    cases root with
    | none => rfl
    | some root =>
      exact congrArg (fun root : LayoutNode R => ({ root := some root } : LayoutEngine R))
        (LayoutNode.swapLeaves_absent real absent)

theorem edits_exact_three : ∃ layout : LayoutEngine Rat, layout.paneIds = [0, 1, 2] ∧
    (layout.removePane 1).2.paneIds = [0, 2] ∧ (layout.swapLeaves 0 2).2.paneIds = [2, 1, 0] := by
  let layout : LayoutEngine Rat :=
    { root := some (.Split .vertical Ratio.half (.Leaf 0) (.Split .horizontal Ratio.half (.Leaf 1) (.Leaf 2))) }
  have ids : layout.paneIds = [0, 1, 2] := rfl
  obtain ⟨-, removes, swaps, -⟩ := @edits_exact Rat _ layout (by decide) (by decide)
  refine ⟨layout, ids, (removes 1 (by decide)).2.1.trans (by decide), (swaps 0 (by decide) 2 (by decide) (by decide)).2.trans ?_⟩
  rw [ids]
  decide

end LayoutEngine

end Emux
