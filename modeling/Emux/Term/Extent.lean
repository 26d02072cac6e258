import Emux.Library.Run
import Emux.Term.Screen
import Mathlib.Logic.Relation

set_option autoImplicit false

/-!
# What the methods do to a grid

Whatever a method does, it does by giving the grid other contents for its rows and by adding rows to the
history. The grid keeps its extent, and its history gets no shorter. This holds in grids of any shape, also in
those where the method panics.
-/

namespace Emux

open Checked

namespace Grid

structure SameExtent (g g' : Grid) : Prop where
  cols : g'.cols = g.cols
  rows : g'.rows = g.rows

instance : Std.Refl SameExtent := ⟨fun _ => ⟨rfl, rfl⟩⟩

instance : IsTrans Grid SameExtent :=
  ⟨fun _ _ _ first second => ⟨second.cols.trans first.cols, second.rows.trans first.rows⟩⟩

inductive Rewrite (g : Grid) : Grid -> Prop
  | lines (lines : List Row) (same : lines.length = g.lines.length) : Rewrite g { g with lines }
  | push (row : Row) : Rewrite g (g.pushScrollback row)

abbrev Rewritten : Grid -> Grid -> Prop := Relation.ReflTransGen Rewrite

def Rewrites (g : Grid) (x : Fallible Grid) : Prop := Ensures AnyPanic x (Rewritten g)

/-- There are as many lines as before, and no row of the history is lost to anything but its limit. -/
structure Grows (g g' : Grid) : Prop where
  lines : g'.lines.length = g.lines.length
  limit : g'.scrollbackLimit = g.scrollbackLimit
  history : g.scrollback.length ≤ g.scrollbackLimit -> g.scrollback.length ≤ g'.scrollback.length
  bounded : g.scrollback.length ≤ g.scrollbackLimit -> g'.scrollback.length ≤ g'.scrollbackLimit

theorem Grows.refl (g : Grid) : Grows g g := ⟨rfl, rfl, fun _ => Nat.le_refl _, id⟩

theorem Grows.trans {g g' g'' : Grid} (first : Grows g g') (second : Grows g' g'') : Grows g g'' where
  lines := second.lines.trans first.lines
  limit := second.limit.trans first.limit
  history bounded := Nat.le_trans (first.history bounded) (second.history (first.bounded bounded))
  bounded := second.bounded ∘ first.bounded

theorem Rewrite.extent {g g' : Grid} (step : Rewrite g g') : SameExtent g g' := by
  cases step <;> exact ⟨rfl, rfl⟩

theorem Rewrite.grows {g g' : Grid} (step : Rewrite g g') : Grows g g' := by
  cases step with
  | lines lines same => exact ⟨same, rfl, fun _ => Nat.le_refl _, id⟩
  | push row =>
    have length : (g.pushScrollback row).scrollback.length = min (g.scrollback.length + 1) g.scrollbackLimit := by
      rw [pushScrollback, length_trimFront, List.length_append, List.length_singleton]
    exact ⟨rfl, rfl, fun bounded => by omega, fun _ => by rw [length]; exact Nat.min_le_right ..⟩

theorem Rewritten.extent {g g' : Grid} (rewritten : Rewritten g g') : SameExtent g g' := by
  induction rewritten with
  | refl => exact Std.Refl.refl g
  | tail _ step ih => exact IsTrans.trans _ _ _ ih step.extent

theorem Rewritten.grows {g g' : Grid} (rewritten : Rewritten g g') : Grows g g' := by
  induction rewritten with
  | refl => exact Grows.refl g
  | tail _ step ih => exact ih.trans step.grows

variable {A : Type} (g : Grid)

theorem rewrites_ok : g.Rewrites (.ok g) := Relation.ReflTransGen.refl

theorem rewrites_lines {lines : List Row} (same : lines.length = g.lines.length) : g.Rewrites (.ok { g with lines }) :=
  .single (.lines lines same)

theorem rewrites_after (x : Fallible A) {next : A -> Fallible Grid} (second : ∀ a, g.Rewrites (next a)) :
    g.Rewrites (x >>= next) := ensures_after x second

theorem modifyRow_rewrites (r : Nat) (f : Row -> Row) : g.Rewrites (g.modifyRow r f) :=
  (ensures_modify g.lines r f).bind fun _ same => g.rewrites_lines same

theorem editCell_rewrites (r c : Nat) (f : Cell -> Cell) : g.Rewrites (g.editCell r c f) :=
  g.rewrites_after _ fun _ => g.rewrites_after _ fun _ => g.rewrites_lines (List.length_set ..)

theorem editCells_rewrites (r : Nat) (f : List Cell -> Fallible (List Cell)) : g.Rewrites (g.editCells r f) :=
  g.rewrites_after _ fun _ => g.rewrites_after _ fun _ => g.rewrites_lines (List.length_set ..)

theorem cellMut_rewrites (row col : Nat) (f : Cell -> Cell) : g.Rewrites (g.cellMut row col f) := g.editCell_rewrites _ _ f

theorem rowMut_rewrites (row : Nat) (f : Row -> Row) : g.Rewrites (g.rowMut row f) := g.modifyRow_rewrites _ f

theorem rotateLeft_rewrites (top bottom count : Nat) : g.Rewrites (g.rotateLeft top bottom count) :=
  .ite (fun inside => g.rewrites_lines (length_rotateRange _ _ inside.1 inside.2.1)) fun _ => trivial

theorem rotateRight_rewrites (top bottom count : Nat) : g.Rewrites (g.rotateRight top bottom count) :=
  .ite (fun inside => g.rewrites_lines (length_rotateRange _ _ inside.1 inside.2.1)) fun _ => trivial

theorem blankRows_rewrites (start stop : Nat) : g.Rewrites (g.blankRows start stop) :=
  related_forRange (fun g i => g.modifyRow_rewrites i _) start stop g

theorem scrollUp_rewrites (top bottom count : Nat) : g.Rewrites (g.scrollUp top bottom count) := by
  refine .ite (fun _ => g.rewrites_ok) fun _ => .ite (fun _ => g.rewrites_ok) fun _ => ?_
  refine related_bind (related_onlyIf (related_forRange (fun g i => ?_) _ _ g)) fun g => ?_
  next =>
    refine g.rewrites_after _ fun old => (g.modifyRow_rewrites i _).bind fun g' rewritten => ?_
    exact rewritten.tail (.push old)
  next => exact related_bind (g.rotateLeft_rewrites top bottom _) fun g => g.blankRows_rewrites _ bottom

theorem scrollDown_rewrites (top bottom count : Nat) : g.Rewrites (g.scrollDown top bottom count) := by
  refine .ite (fun _ => g.rewrites_ok) fun _ => .ite (fun _ => g.rewrites_ok) fun _ => ?_
  exact related_bind (g.rotateRight_rewrites top bottom _) fun g => g.blankRows_rewrites top _

theorem clearRow_rewrites (row : Nat) : g.Rewrites (g.clearRow row) := g.modifyRow_rewrites row Row.reset

theorem clearRows_rewrites (start stop : Nat) : g.Rewrites (forRange start stop g clearRow) :=
  related_forRange (fun g r => g.clearRow_rewrites r) start stop g

theorem insertLines_rewrites (row count top bottom : Nat) : g.Rewrites (g.insertLines row count top bottom) := by
  refine .ite (fun _ => g.rewrites_ok) fun _ => ?_
  refine related_bind (related_forRangeRev (fun g i => ?_) _ _ g) fun g => g.blankRows_rewrites row _
  exact g.rewrites_after _ fun line => g.modifyRow_rewrites _ _

theorem deleteLines_rewrites (row count top bottom : Nat) : g.Rewrites (g.deleteLines row count top bottom) := by
  refine .ite (fun _ => g.rewrites_ok) fun _ => ?_
  refine related_bind (related_forRange (fun g i => ?_) _ _ g) fun g => g.blankRows_rewrites _ bottom
  exact g.rewrites_after _ fun line => g.modifyRow_rewrites _ _

theorem repairLeft_rewrites (r left : Nat) : g.Rewrites (g.repairLeft r left) :=
  g.rewrites_after _ fun _ => .ite (fun _ => g.editCell_rewrites r _ _) fun _ => g.rewrites_ok

theorem repairRight_rewrites (r stop : Nat) : g.Rewrites (g.repairRight r stop) :=
  g.rewrites_after _ fun _ => .ite (fun _ => g.editCell_rewrites r stop _) fun _ => g.rewrites_ok

theorem fill_rewrites (r left stop : Nat) (f : Cell -> Cell) :
    g.Rewrites (forRange left stop g fun g c => g.editCell r c f) :=
  related_forRange (fun g c => g.editCell_rewrites r c f) left stop g

theorem clearRegion_rewrites (top left bottom right : Nat) : g.Rewrites (g.clearRegion top left bottom right) := by
  refine related_forRange (fun g r => ?_) top _ g
  refine related_bind (related_onlyIf (g.repairLeft_rewrites r left)) fun g => ?_
  exact related_bind (related_onlyIf (g.repairRight_rewrites r _)) fun g => g.fill_rewrites r left _ _

theorem eraseChars_rewrites (row col count : Nat) : g.Rewrites (g.eraseChars row col count) := by
  refine .ite (fun _ => g.rewrites_ok) fun _ => ?_
  refine related_bind (related_onlyIf (g.repairLeft_rewrites row col)) fun g => ?_
  exact related_bind (related_onlyIf (g.repairRight_rewrites row _)) fun g => g.fill_rewrites row col _ _

theorem insertCellsBounded_rewrites (row col count rightBound : Nat) :
    g.Rewrites (g.insertCellsBounded row col count rightBound) :=
  .ite (fun _ => g.rewrites_ok) fun _ => g.editCells_rewrites row _

theorem deleteCellsBounded_rewrites (row col count rightBound : Nat) :
    g.Rewrites (g.deleteCellsBounded row col count rightBound) :=
  .ite (fun _ => g.rewrites_ok) fun _ => g.editCells_rewrites row _

theorem blankCells_rewrites (top bottom left right : Nat) : g.Rewrites (g.blankCells top bottom left right) :=
  related_forRange (fun g r => g.fill_rewrites r left _ _) top bottom g

theorem scrollUpRegion_rewrites (top bottom left right count : Nat) :
    g.Rewrites (g.scrollUpRegion top bottom left right count) := by
  refine .ite (fun _ => g.rewrites_ok) fun _ => .ite (fun _ => g.rewrites_ok) fun _ => ?_
  refine related_bind (related_forRange (fun g r => related_forRange (fun g c => ?_) _ _ g) _ _ g) fun g => ?_
  next => exact g.rewrites_after _ fun moved => g.editCell_rewrites _ c _
  next => exact g.blankCells_rewrites _ bottom left right

theorem scrollDownRegion_rewrites (top bottom left right count : Nat) :
    g.Rewrites (g.scrollDownRegion top bottom left right count) := by
  refine .ite (fun _ => g.rewrites_ok) fun _ => .ite (fun _ => g.rewrites_ok) fun _ => ?_
  refine related_bind (related_forRangeRev (fun g r => related_forRange (fun g c => ?_) _ _ g) _ _ g) fun g => ?_
  next => exact g.rewrites_after _ fun moved => g.editCell_rewrites _ c _
  next => exact g.blankCells_rewrites top _ left right

end Grid

namespace Screen

open Grid

variable (g : Grid)

theorem eachCell_rewrites (top left bottom right : Nat) (f : Cell -> Cell) :
    g.Rewrites (forRange top bottom g fun g r => forRange left right g fun g c => g.cellMut r c f) :=
  related_forRange (fun g r => related_forRange (fun g c => g.cellMut_rewrites r c f) left right g) top bottom g

theorem clearRegionImpl_rewrites (top left bottom right : Nat) (selective : Bool) :
    g.Rewrites (clearRegionImpl g top left bottom right selective) :=
  .ite (fun _ => eachCell_rewrites g top left _ _ _) fun _ => g.clearRegion_rewrites top left bottom right

theorem clearRowImpl_rewrites (row : Nat) (selective : Bool) : g.Rewrites (clearRowImpl g row selective) :=
  .ite (fun _ => related_forRange (fun g c => g.cellMut_rewrites row c _) 0 _ g) fun _ => g.clearRow_rewrites row

theorem clearRowsBelow_rewrites (selective : Bool) (row rows : Nat) : g.Rewrites (clearRowsBelow selective row rows g) :=
  related_forRange (fun g r => clearRowImpl_rewrites g r selective) _ rows g

theorem clearFragments_rewrites (row col width : Nat) : g.Rewrites (clearFragments g row col width) := by
  refine related_bind (related_onlyIf (g.rewrites_after _ fun existing => ?_)) fun g => related_onlyIf ?_
  next =>
    refine related_bind (related_onlyIf (g.cellMut_rewrites row _ _)) fun g => ?_
    exact related_onlyIf (g.cellMut_rewrites row _ _)
  next => exact g.rewrites_after _ fun next => related_onlyIf (g.cellMut_rewrites row _ _)

theorem pasteRect_rewrites (buf : List Cell) (top left height width : Nat) :
    g.Rewrites (pasteRect g buf top left height width) := by
  refine related_forRange (fun g dr => related_forRange (fun g dc => ?_) 0 width g) 0 height g
  exact related_onlyIf (g.rewrites_after _ fun cell => g.cellMut_rewrites _ _ _)

end Screen

end Emux
