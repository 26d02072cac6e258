import Mathlib.Data.Rat.Floor
import Mathlib.Data.List.Nodup
import Emux.Library.Fallible
import Emux.Library.Partition

set_option autoImplicit false

/-!
# The layout tree

Split ratios are `f32` in the source; `Ratio` names the operations the layout uses of them, and the rational
numbers are one instance. `computePositions` subtracts as the natural numbers do; `computePositionsChecked`
is the same recursion with every subtraction checked.
-/

namespace Emux

open Checked Partition

abbrev PaneId := Nat

class Ratio (R : Type) extends Add R, Sub R where
  half : R
  /-- `amount as f32 / total as f32` -/
  portion : Int -> Nat -> R
  /-- `ratio.clamp(0.1, 0.9)` -/
  clamp : R -> R
  /-- `((extent as f32) * ratio).round() as usize` -/
  share : Nat -> R -> Nat

instance : Ratio Rat where
  half := 1 / 2
  portion amount total := amount / total
  clamp ratio := max (1 / 10) (min (9 / 10) ratio)
  share extent ratio := (extent * ratio + 1 / 2).floor.toNat

inductive SplitDirection where
  | horizontal
  | vertical
  deriving DecidableEq, Repr

inductive LayoutNode (R : Type) where
  | Leaf (id : PaneId)
  | Split (direction : SplitDirection) (ratio : R) (first second : LayoutNode R)
  deriving DecidableEq, Repr

structure PanePosition where
  col : Nat
  row : Nat
  cols : Nat
  rows : Nat
  deriving DecidableEq, Repr

inductive RemoveResult (R : Type) where
  | notFound
  | removed
  | replaced (node : LayoutNode R)
  deriving DecidableEq, Repr

variable {R : Type}

namespace LayoutNode

def paneIds : LayoutNode R -> List PaneId
  | .Leaf id => [id]
  | .Split _ _ first second => first.paneIds ++ second.paneIds

def count : LayoutNode R -> Nat
  | .Leaf _ => 1
  | .Split _ _ first second => first.count + second.count

def split [Ratio R] (target newPane : PaneId) (direction : SplitDirection) : LayoutNode R -> Bool × LayoutNode R
  | .Leaf id =>
    if id = target then (true, .Split direction Ratio.half (.Leaf target) (.Leaf newPane)) else (false, .Leaf id)
  | .Split axis ratio first second =>
    match first.split target newPane direction with
    | (true, first) => (true, .Split axis ratio first second)
    | (false, first) =>
      match second.split target newPane direction with
      | (found, second) => (found, .Split axis ratio first second)

/-- The result of the call and the node as the call leaves it. -/
def remove (target : PaneId) : LayoutNode R -> RemoveResult R × LayoutNode R
  | .Leaf id => if id = target then (.removed, .Leaf id) else (.notFound, .Leaf id)
  | .Split axis ratio first second =>
    match first.remove target with
    | (.removed, first) => (.replaced second, .Split axis ratio first second)
    | (.replaced replacement, _) => (.notFound, .Split axis ratio replacement second)
    | (.notFound, first) =>
      match second.remove target with
      | (.removed, second) => (.replaced first, .Split axis ratio first second)
      | (.replaced replacement, _) => (.notFound, .Split axis ratio first replacement)
      | (.notFound, second) => (.notFound, .Split axis ratio first second)

def computePositionsInner [Ratio R] : LayoutNode R -> Nat -> Nat -> Nat -> Nat -> List (PaneId × PanePosition)
  | .Leaf id, col, row, cols, rows => [(id, { col, row, cols, rows })]
  | .Split .horizontal ratio first second, col, row, cols, rows =>
    let firstRows := min (max (Ratio.share rows ratio) 1) (rows - 1)
    let secondRows := rows - firstRows
    first.computePositionsInner col row cols firstRows ++
      second.computePositionsInner col (row + firstRows) cols secondRows
  | .Split .vertical ratio first second, col, row, cols, rows =>
    let firstCols := min (max (Ratio.share cols ratio) 1) (cols - 1)
    let secondCols := cols - firstCols
    first.computePositionsInner col row firstCols rows ++
      second.computePositionsInner (col + firstCols) row secondCols rows

/-- `compute_positions_inner` with `rows - first_rows` and `cols - first_cols` checked. -/
def computePositionsChecked [Ratio R] :
    LayoutNode R -> Nat -> Nat -> Nat -> Nat -> Fallible (List (PaneId × PanePosition))
  | .Leaf id, col, row, cols, rows => .ok [(id, { col, row, cols, rows })]
  | .Split .horizontal ratio first second, col, row, cols, rows => do
    let firstRows := min (max (Ratio.share rows ratio) 1) (rows - 1)
    let secondRows <- sub rows firstRows
    let above <- first.computePositionsChecked col row cols firstRows
    let below <- second.computePositionsChecked col (row + firstRows) cols secondRows
    .ok (above ++ below)
  | .Split .vertical ratio first second, col, row, cols, rows => do
    let firstCols := min (max (Ratio.share cols ratio) 1) (cols - 1)
    let secondCols <- sub cols firstCols
    let left <- first.computePositionsChecked col row firstCols rows
    let right <- second.computePositionsChecked (col + firstCols) row secondCols rows
    .ok (left ++ right)

def adjustRatio [Ratio R] (target : PaneId) (axis : SplitDirection) (delta : R) : LayoutNode R -> Bool × LayoutNode R
  | .Leaf id => (false, .Leaf id)
  | .Split direction ratio first second =>
    let inFirst := first.paneIds.contains target
    let inSecond := second.paneIds.contains target
    if !inFirst && !inSecond then (false, .Split direction ratio first second)
    else if direction = axis then
      if inFirst then (true, .Split direction (Ratio.clamp (ratio + delta)) first second)
      else (true, .Split direction (Ratio.clamp (ratio - delta)) first second)
    else if inFirst then
      match first.adjustRatio target axis delta with
      | (adjusted, first) => (adjusted, .Split direction ratio first second)
    else
      match second.adjustRatio target axis delta with
      | (adjusted, second) => (adjusted, .Split direction ratio first second)

def replaceLeaf (oldId newId : PaneId) : LayoutNode R -> Bool × LayoutNode R
  | .Leaf id => if id = oldId then (true, .Leaf newId) else (false, .Leaf id)
  | .Split direction ratio first second =>
    match first.replaceLeaf oldId newId with
    | (true, first) => (true, .Split direction ratio first second)
    | (false, first) =>
      match second.replaceLeaf oldId newId with
      | (found, second) => (found, .Split direction ratio first second)

/-- `u32::MAX` -/
def sentinel : PaneId := 2 ^ 32 - 1

def swapLeaves (a b : PaneId) (node : LayoutNode R) : Bool × LayoutNode R :=
  match node.replaceLeaf a sentinel with
  | (false, node) => (false, node)
  | (true, node) =>
    match node.replaceLeaf b a with
    | (false, node) => (false, (node.replaceLeaf sentinel a).2)
    | (true, node) => (true, (node.replaceLeaf sentinel b).2)

end LayoutNode

structure LayoutEngine (R : Type) where
  root : Option (LayoutNode R)
  deriving DecidableEq, Repr

namespace LayoutEngine

def new : LayoutEngine R := { root := none }

def paneIds (layout : LayoutEngine R) : List PaneId :=
  match layout.root with
  | some root => root.paneIds
  | none => []

def count (layout : LayoutEngine R) : Nat :=
  match layout.root with
  | some root => root.count
  | none => 0

def split [Ratio R] (layout : LayoutEngine R) (target newPane : PaneId) (direction : SplitDirection) :
    Bool × LayoutEngine R :=
  match layout.root with
  | some root =>
    match root.split target newPane direction with
    | (found, root) => (found, { root := some root })
  | none => (false, layout)

def addPane [Ratio R] (layout : LayoutEngine R) (id : PaneId) : LayoutEngine R :=
  match layout.root with
  | none => { root := some (.Leaf id) }
  | some _ =>
    match layout.paneIds.getLast? with
    | some last => (layout.split last id .vertical).2
    | none => layout

def removePane (layout : LayoutEngine R) (id : PaneId) : Bool × LayoutEngine R :=
  match layout.root with
  | some root =>
    match root.remove id with
    | (.removed, _) => (true, { root := none })
    | (.replaced newRoot, _) => (true, { root := some newRoot })
    | (.notFound, root) => (!root.paneIds.contains id, { root := some root })
  | none => (false, layout)

def computePositions [Ratio R] (layout : LayoutEngine R) (totalCols totalRows : Nat) : List (PaneId × PanePosition) :=
  match layout.root with
  | some root => root.computePositionsInner 0 0 totalCols totalRows
  | none => []

def computePositionsChecked [Ratio R] (layout : LayoutEngine R) (totalCols totalRows : Nat) :
    Fallible (List (PaneId × PanePosition)) :=
  match layout.root with
  | some root => root.computePositionsChecked 0 0 totalCols totalRows
  | none => .ok []

def adjustRatio [Ratio R] (layout : LayoutEngine R) (target : PaneId) (axis : SplitDirection) (delta : R) :
    Bool × LayoutEngine R :=
  match layout.root with
  | some root =>
    match root.adjustRatio target axis delta with
    | (adjusted, root) => (adjusted, { root := some root })
  | none => (false, layout)

def swapLeaves (layout : LayoutEngine R) (a b : PaneId) : Bool × LayoutEngine R :=
  match layout.root with
  | some root =>
    match root.swapLeaves a b with
    | (swapped, root) => (swapped, { root := some root })
  | none => (false, layout)

def applyTemplate [Ratio R] (layout : LayoutEngine R) (template : LayoutNode R) (paneIds : List PaneId) :
    LayoutEngine R :=
  if paneIds.isEmpty then layout
  else
    let templateIds := template.paneIds
    let filled := (templateIds.zip paneIds).foldl (fun tree slot => (tree.replaceLeaf slot.1 slot.2).2) template
    let extended :=
      if templateIds.length < paneIds.length then
        ((paneIds.drop templateIds.length).foldl
          (fun (state : LayoutNode R × PaneId) extra => ((state.1.split state.2 extra .vertical).2, extra))
          (filled, paneIds.getD (templateIds.length - 1) 0)).1
      else filled
    let pruned :=
      if paneIds.length < templateIds.length then
        (templateIds.drop paneIds.length).foldl (fun tree extra => (tree.remove extra).2) extended
      else extended
    { root := some pruned }

end LayoutEngine

end Emux
