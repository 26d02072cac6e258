import Emux.Library.Keyed
import Emux.Mux.Layout

set_option autoImplicit false

/-!
# Tabs

A tab has a layout of tiled panes and a list of floating ones. Functions that change the tab return what the
source returns and the tab after the call. Pane ids are `u32`; giving out the last of them panics, as
in a build with overflow checks.
-/

namespace Emux

open Checked

structure PaneSize where
  rows : Nat
  cols : Nat
  deriving DecidableEq, Repr

structure PaneConstraints where
  fixedRows : Option Nat := none
  fixedCols : Option Nat := none
  deriving DecidableEq, Repr

structure Pane where
  id : PaneId
  title : String
  previousTitle : Option String
  size : PaneSize
  cleared : Bool
  scrollOffset : Nat
  constraints : PaneConstraints
  scrollback : List String
  hasNotification : Bool
  notificationText : Option String
  workingDirectory : Option String
  deriving DecidableEq, Repr

namespace Pane

def new (id : PaneId) (cols rows : Nat) : Pane where
  id
  title := ""
  previousTitle := none
  size := { rows, cols }
  cleared := false
  scrollOffset := 0
  constraints := {}
  scrollback := []
  hasNotification := false
  notificationText := none
  workingDirectory := none

def setTitle (pane : Pane) (title : String) : Pane := { pane with previousTitle := some pane.title, title }

def undoRename (pane : Pane) : Bool × Pane :=
  match pane.previousTitle with
  | some previous => (true, { pane with previousTitle := none, title := previous })
  | none => (false, pane)

def setCleared (pane : Pane) (cleared : Bool) : Pane := { pane with cleared }

/-- `usize::MAX` -/
def lastOffset : Nat := 2 ^ 64 - 1

def scrollUp (pane : Pane) (lines : Nat) : Pane := { pane with scrollOffset := min (pane.scrollOffset + lines) lastOffset }

def scrollDown (pane : Pane) (lines : Nat) : Pane := { pane with scrollOffset := pane.scrollOffset - lines }

def scrollToTop (pane : Pane) : Pane := { pane with scrollOffset := lastOffset }

def scrollToBottom (pane : Pane) : Pane := { pane with scrollOffset := 0 }

def resize (pane : Pane) (cols rows : Nat) : Pane := { pane with size := { rows, cols } }

def setConstraints (pane : Pane) (constraints : PaneConstraints) : Pane := { pane with constraints }

def hasFixedCols (pane : Pane) : Bool := pane.constraints.fixedCols.isSome

def hasFixedRows (pane : Pane) : Bool := pane.constraints.fixedRows.isSome

def pushScrollback (pane : Pane) (line : String) : Pane := { pane with scrollback := pane.scrollback ++ [line] }

def setWorkingDirectory (pane : Pane) (path : String) : Pane := { pane with workingDirectory := some path }

def setNotification (pane : Pane) (text : String) : Pane :=
  { pane with hasNotification := true, notificationText := some text }

def clearNotification (pane : Pane) : Pane := { pane with hasNotification := false, notificationText := none }

end Pane

/-- What can be done to a pane through `pane_mut`, apart from its size and constraints. -/
inductive PaneOp where
  | setTitle (title : String)
  | undoRename
  | setCleared (cleared : Bool)
  | scrollUp (lines : Nat)
  | scrollDown (lines : Nat)
  | scrollToTop
  | scrollToBottom
  | pushScrollback (line : String)
  | setWorkingDirectory (path : String)
  | setNotification (text : String)
  | clearNotification
  deriving DecidableEq, Repr

def Pane.apply (pane : Pane) : PaneOp -> Pane
  | .setTitle title => pane.setTitle title
  | .undoRename => pane.undoRename.2
  | .setCleared cleared => pane.setCleared cleared
  | .scrollUp lines => pane.scrollUp lines
  | .scrollDown lines => pane.scrollDown lines
  | .scrollToTop => pane.scrollToTop
  | .scrollToBottom => pane.scrollToBottom
  | .pushScrollback line => pane.pushScrollback line
  | .setWorkingDirectory path => pane.setWorkingDirectory path
  | .setNotification text => pane.setNotification text
  | .clearNotification => pane.clearNotification

theorem Pane.apply_keeps (pane : Pane) (op : PaneOp) :
    (pane.apply op).id = pane.id ∧ (pane.apply op).size = pane.size ∧ (pane.apply op).constraints = pane.constraints := by
  cases op with
  | undoRename =>
    show pane.undoRename.2.id = pane.id ∧ pane.undoRename.2.size = pane.size ∧
      pane.undoRename.2.constraints = pane.constraints
    unfold undoRename
    split <;> exact ⟨rfl, rfl, rfl⟩
  | _ => exact ⟨rfl, rfl, rfl⟩

inductive FocusDirection where
  | up
  | down
  | left
  | right
  deriving DecidableEq, Repr

inductive ResizeDirection where
  | up
  | down
  | left
  | right
  deriving DecidableEq, Repr

def minPaneCols : Nat := 2
def minPaneRows : Nat := 2
def minFloatingCols : Nat := 5
def minFloatingRows : Nat := 2

structure FloatingPane where
  pane : Pane
  x : Nat
  y : Nat
  width : Nat
  height : Nat
  visible : Bool
  deriving DecidableEq, Repr

def FloatingPane.id (floating : FloatingPane) : PaneId := floating.pane.id

structure SwapLayout (R : Type) where
  name : String
  minPanes : Option Nat
  maxPanes : Option Nat
  layout : LayoutNode R
  deriving DecidableEq, Repr

structure Tab (R : Type) where
  id : Nat
  name : String
  previousName : Option String
  layout : LayoutEngine R
  panes : Keyed.Map PaneId Pane
  activePane : Option PaneId
  nextPaneId : PaneId
  size : PaneSize
  fullscreenPane : Option PaneId
  floatingPanes : List FloatingPane
  showFloating : Bool
  swapLayouts : List (SwapLayout R)
  currentSwapIndex : Option Nat

namespace Tab

variable {R : Type} [Ratio R]

def new (id : Nat) (name : String) (cols rows : Nat) : Tab R where
  id
  name
  previousName := none
  layout := LayoutEngine.new.addPane 0
  panes := AList.singleton 0 (Pane.new 0 cols rows)
  activePane := some 0
  nextPaneId := 1
  size := { rows, cols }
  fullscreenPane := none
  floatingPanes := []
  showFloating := true
  swapLayouts := []
  currentSwapIndex := none

def rename (tab : Tab R) (name : String) : Tab R := { tab with previousName := some tab.name, name }

def undoRename (tab : Tab R) : Bool × Tab R :=
  match tab.previousName with
  | some previous => (true, { tab with previousName := none, name := previous })
  | none => (false, tab)

/-- `if let Some(pane) = tab.pane_mut(id)`, with the operation on the pane. -/
def updatePane (tab : Tab R) (id : PaneId) (op : PaneOp) : Tab R :=
  { tab with panes := Keyed.modify tab.panes id fun pane => pane.apply op }

def paneCount (tab : Tab R) : Nat := Keyed.size tab.panes

def floatingPaneIds (tab : Tab R) : List PaneId := tab.floatingPanes.map FloatingPane.id

/-- `self.layout.compute_positions(self.size.cols, self.size.rows)` -/
def tiledPositions (tab : Tab R) : List (PaneId × PanePosition) :=
  tab.layout.computePositions tab.size.cols tab.size.rows

def tiledPosition (tab : Tab R) (id : PaneId) : Option PanePosition :=
  (tab.tiledPositions.find? fun placed => placed.1 == id).map Prod.snd

/-- `next_pane_id`, and the tab with the counter moved on. -/
def takePaneId (tab : Tab R) : Fallible (PaneId × Tab R) := do
  let nextPaneId <- add (2 ^ 32) tab.nextPaneId 1
  .ok (tab.nextPaneId, { tab with nextPaneId })

def syncPaneSizes (tab : Tab R) : Tab R :=
  let panes := tab.tiledPositions.foldl
    (fun panes placed => Keyed.modify panes placed.1 fun pane => pane.resize placed.2.cols placed.2.rows) tab.panes
  { tab with panes }

def applicableSwapLayoutIndices (tab : Tab R) (paneCount : Nat) : List Nat :=
  (List.range tab.swapLayouts.length).filter fun index =>
    match tab.swapLayouts[index]? with
    | some swap => swap.minPanes.all (· ≤ paneCount) && swap.maxPanes.all (paneCount ≤ ·)
    | none => false

def applySwapLayoutAt (tab : Tab R) (index : Nat) : Tab R :=
  match tab.swapLayouts[index]? with
  | some swap =>
    let layout := tab.layout.applyTemplate swap.layout tab.layout.paneIds
    { tab with layout, currentSwapIndex := some index }.syncPaneSizes
  | none => tab

def autoSwapLayout (tab : Tab R) : Tab R :=
  match (tab.applicableSwapLayoutIndices tab.paneCount).head? with
  | some index => if tab.currentSwapIndex ≠ some index then tab.applySwapLayoutAt index else tab
  | none => { tab with currentSwapIndex := none }

def registerSwapLayout (tab : Tab R) (name : String) (minPanes maxPanes : Option Nat) (layout : LayoutNode R) : Tab R :=
  match tab.swapLayouts.findIdx? fun swap => swap.name == name with
  | some index =>
    { tab with swapLayouts := tab.swapLayouts.modify index fun swap => { swap with minPanes, maxPanes, layout } }
  | none => { tab with swapLayouts := tab.swapLayouts ++ [{ name, minPanes, maxPanes, layout }] }

def nextSwapLayout (tab : Tab R) : Tab R :=
  let applicable := tab.applicableSwapLayoutIndices tab.paneCount
  if applicable.isEmpty then tab
  else
    let nextPos :=
      match tab.currentSwapIndex.bind fun index => applicable.findIdx? (· == index) with
      | some pos => (pos + 1) % applicable.length
      | none => 0
    match applicable[nextPos]? with
    | some index => tab.applySwapLayoutAt index
    | none => tab

def prevSwapLayout (tab : Tab R) : Tab R :=
  let applicable := tab.applicableSwapLayoutIndices tab.paneCount
  if applicable.isEmpty then tab
  else
    let prevPos :=
      match tab.currentSwapIndex.bind fun index => applicable.findIdx? (· == index) with
      | some pos => if pos = 0 then applicable.length - 1 else pos - 1
      | none => applicable.length - 1
    match applicable[prevPos]? with
    | some index => tab.applySwapLayoutAt index
    | none => tab

def canSplit (tab : Tab R) (id : PaneId) (direction : SplitDirection) : Bool :=
  let fixed :=
    match tab.panes.lookup id, direction with
    | some pane, .vertical => pane.hasFixedCols
    | some pane, .horizontal => pane.hasFixedRows
    | none, _ => false
  if fixed then false
  else
    match tab.tiledPosition id, direction with
    | some pos, .vertical => minPaneCols * 2 ≤ pos.cols
    | some pos, .horizontal => minPaneRows * 2 ≤ pos.rows
    | none, _ => false

def splitPane (tab : Tab R) (direction : SplitDirection) : Fallible (Option PaneId × Tab R) :=
  let tab := { tab with fullscreenPane := none }
  match tab.activePane with
  | none => .ok (none, tab)
  | some active =>
    if !tab.canSplit active direction then .ok (none, tab)
    else do
      let (newId, tab) <- tab.takePaneId
      match tab.tiledPosition active with
      | none => .ok (none, tab)
      | some activePos =>
        let (newCols, newRows) :=
          match direction with
          | .horizontal => (activePos.cols, activePos.rows - activePos.rows / 2)
          | .vertical => (activePos.cols - activePos.cols / 2, activePos.rows)
        let panes := tab.panes.insert newId (Pane.new newId newCols newRows)
        let (_, layout) := tab.layout.split active newId direction
        let tab := { tab with panes, layout }.syncPaneSizes
        .ok (some newId, { tab with activePane := some newId }.autoSwapLayout)

def closePane (tab : Tab R) (id : PaneId) : Bool × Tab R :=
  if tab.paneCount ≤ 1 then (false, tab)
  else if id ∉ tab.panes then (false, tab)
  else
    let fullscreenPane := if tab.fullscreenPane = some id then none else tab.fullscreenPane
    let (_, layout) := tab.layout.removePane id
    let panes := tab.panes.erase id
    let activePane := if tab.activePane = some id then layout.paneIds.head? else tab.activePane
    (true, { tab with fullscreenPane, layout, panes, activePane }.syncPaneSizes.autoSwapLayout)

def resize (tab : Tab R) (cols rows : Nat) : Tab R :=
  { tab with size := { rows, cols } }.syncPaneSizes

def adjustRatio (tab : Tab R) (id : PaneId) (axis : SplitDirection) (delta : R) : Bool × Tab R :=
  match tab.layout.adjustRatio id axis delta with
  | (true, layout) => (true, { tab with layout }.syncPaneSizes)
  | (false, layout) => (false, { tab with layout })

def resizeAxis : ResizeDirection -> SplitDirection
  | .down | .up => .horizontal
  | .right | .left => .vertical

def resizePane (tab : Tab R) (id : PaneId) (direction : ResizeDirection) (amount : Int) : Bool × Tab R :=
  match tab.panes.lookup id with
  | none => (false, tab)
  | some pane =>
    let axis := resizeAxis direction
    let fixed :=
      match axis with
      | .horizontal => pane.hasFixedRows
      | .vertical => pane.hasFixedCols
    if fixed then (false, tab)
    else
      let total :=
        match axis with
        | .horizontal => tab.size.rows
        | .vertical => tab.size.cols
      if total = 0 then (false, tab)
      else tab.adjustRatio id axis (Ratio.portion amount total)

def setPaneConstraints (tab : Tab R) (id : PaneId) (constraints : PaneConstraints) : Tab R :=
  { tab with panes := Keyed.modify tab.panes id fun pane => pane.setConstraints constraints }

def findFloatingIdx (tab : Tab R) (id : PaneId) : Option Nat :=
  tab.floatingPanes.findIdx? fun floating => floating.id == id

/-- `self.find_floating_idx(id).map(|idx| self.floating_panes.remove(idx))`, with the panes that stay. -/
def takeFloating (tab : Tab R) (id : PaneId) : Option (FloatingPane × List FloatingPane) := do
  let index <- tab.findFloatingIdx id
  let floating <- tab.floatingPanes[index]?
  some (floating, tab.floatingPanes.eraseIdx index)

def newFloatingPaneWithCoords (tab : Tab R) (x y w h : Nat) : Fallible (PaneId × Tab R) := do
  let (id, tab) <- tab.takePaneId
  let w := min (max w minFloatingCols) tab.size.cols
  let h := min (max h minFloatingRows) tab.size.rows
  let x := min x (tab.size.cols - w)
  let y := min y (tab.size.rows - h)
  let floating := { pane := Pane.new id w h, x, y, width := w, height := h, visible := true }
  .ok (id, { tab with
    floatingPanes := tab.floatingPanes ++ [floating], showFloating := true, activePane := some id })

def newFloatingPane (tab : Tab R) : Fallible (PaneId × Tab R) :=
  let w := max (tab.size.cols / 2) minFloatingCols
  let h := max (tab.size.rows / 2) minFloatingRows
  tab.newFloatingPaneWithCoords ((tab.size.cols - w) / 2) ((tab.size.rows - h) / 2) w h

def toggleFloatingPanes (tab : Tab R) : Tab R :=
  if tab.showFloating then
    match tab.activePane.bind tab.findFloatingIdx with
    | some _ => { tab with showFloating := false, activePane := tab.layout.paneIds.head? }
    | none => { tab with showFloating := false }
  else
    match tab.floatingPanes.getLast? with
    | some floating => { tab with showFloating := true, activePane := some floating.id }
    | none => { tab with showFloating := true }

def closeFloatingPane (tab : Tab R) (id : PaneId) : Bool × Tab R :=
  match tab.takeFloating id with
  | none => (false, tab)
  | some (_, floatingPanes) =>
    let activePane :=
      if tab.activePane = some id then
        (floatingPanes.getLast?.map FloatingPane.id).or tab.layout.paneIds.head?
      else tab.activePane
    (true, { tab with floatingPanes, activePane })

def embedFloatingPane (tab : Tab R) (id : PaneId) : Bool × Tab R :=
  match tab.takeFloating id with
  | none => (false, tab)
  | some (floating, floatingPanes) =>
    let panes := tab.panes.insert id floating.pane
    let layout := tab.layout.addPane id
    (true, { { tab with floatingPanes, panes, layout }.syncPaneSizes with activePane := some id })

def floatPane (tab : Tab R) (id : PaneId) : Bool × Tab R :=
  match tab.panes.lookup id with
  | none => (false, tab)
  | some pane =>
    if tab.paneCount ≤ 1 then (false, tab)
    else
      let (_, layout) := tab.layout.removePane id
      let tab := { tab with panes := tab.panes.erase id, layout }.syncPaneSizes
      let w := max (tab.size.cols / 2) minFloatingCols
      let h := max (tab.size.rows / 2) minFloatingRows
      let x := (tab.size.cols - w) / 2
      let y := (tab.size.rows - h) / 2
      let floating := { pane := pane.resize w h, x, y, width := w, height := h, visible := true }
      (true, { tab with
        floatingPanes := tab.floatingPanes ++ [floating], showFloating := true, activePane := some id })

def updateFloating (tab : Tab R) (id : PaneId) (update : FloatingPane -> FloatingPane) : Bool × Tab R :=
  match tab.findFloatingIdx id with
  | none => (false, tab)
  | some index => (true, { tab with floatingPanes := tab.floatingPanes.modify index update })

def resizeFloatingPane (tab : Tab R) (id : PaneId) (width height : Nat) : Bool × Tab R :=
  tab.updateFloating id fun floating =>
    let w := min (max width minFloatingCols) tab.size.cols
    let h := min (max height minFloatingRows) tab.size.rows
    { floating with
      x := min floating.x (tab.size.cols - w), y := min floating.y (tab.size.rows - h),
      width := w, height := h, pane := floating.pane.resize w h }

def moveFloatingPane (tab : Tab R) (id : PaneId) (x y : Nat) : Bool × Tab R :=
  tab.updateFloating id fun floating =>
    { floating with
      x := min x (tab.size.cols - floating.width), y := min y (tab.size.rows - floating.height) }

def restack (tab : Tab R) (id : PaneId) (place : FloatingPane -> List FloatingPane -> List FloatingPane) : Bool × Tab R :=
  match tab.takeFloating id with
  | none => (false, tab)
  | some (floating, others) => (true, { tab with floatingPanes := place floating others })

def bringFloatingToFront (tab : Tab R) (id : PaneId) : Bool × Tab R :=
  tab.restack id fun floating others => others ++ [floating]

def sendFloatingToBack (tab : Tab R) (id : PaneId) : Bool × Tab R :=
  tab.restack id fun floating others => floating :: others

def swapFloatingZOrder (tab : Tab R) (a b : PaneId) : Bool × Tab R :=
  match tab.findFloatingIdx a, tab.findFloatingIdx b with
  | some indexA, some indexB =>
    match tab.floatingPanes[indexA]?, tab.floatingPanes[indexB]? with
    | some floatingA, some floatingB =>
      (true, { tab with floatingPanes := (tab.floatingPanes.set indexA floatingB).set indexB floatingA })
    | _, _ => (false, tab)
  | _, _ => (false, tab)

def focusPane (tab : Tab R) (id : PaneId) : Bool × Tab R :=
  if id ∈ tab.panes then
    let fullscreenPane := if tab.fullscreenPane ≠ some id then none else tab.fullscreenPane
    (true, { tab with fullscreenPane, activePane := some id })
  else
    match tab.findFloatingIdx id with
    | some _ => (true, ({ tab with activePane := some id }.bringFloatingToFront id).2)
    | none => (false, tab)

def focusCycleIds (tab : Tab R) : List PaneId :=
  tab.layout.paneIds ++ if tab.showFloating then tab.floatingPaneIds else []

/-- Focus the id that `step` picks from the cycle, given the position of the active pane in it. -/
def focusCycle (tab : Tab R) (step : Nat -> Nat -> Nat) (fallback : List PaneId -> Option PaneId) : Bool × Tab R :=
  let tab := { tab with fullscreenPane := none }
  let ids := tab.focusCycleIds
  if ids.isEmpty then (false, tab)
  else
    match tab.activePane.bind fun active => ids.findIdx? (· == active) with
    | some pos =>
      match ids[step pos ids.length]? with
      | some target => (true, ({ tab with activePane := some target }.bringFloatingToFront target).2)
      | none => (false, tab)
    | none => (true, { tab with activePane := fallback ids })

def focusNext (tab : Tab R) : Bool × Tab R :=
  tab.focusCycle (fun pos length => (pos + 1) % length) List.head?

def focusPrev (tab : Tab R) : Bool × Tab R :=
  tab.focusCycle (fun pos length => if pos = 0 then length - 1 else pos - 1) List.getLast?

def rangesOverlap (startA endA startB endB : Nat) : Bool :=
  startA < endB && startB < endA

def isCandidate (active pos : PanePosition) : FocusDirection -> Bool
  | .up => pos.row + pos.rows ≤ active.row &&
      rangesOverlap pos.col (pos.col + pos.cols) active.col (active.col + active.cols)
  | .down => active.row + active.rows ≤ pos.row &&
      rangesOverlap pos.col (pos.col + pos.cols) active.col (active.col + active.cols)
  | .left => pos.col + pos.cols ≤ active.col &&
      rangesOverlap pos.row (pos.row + pos.rows) active.row (active.row + active.rows)
  | .right => active.col + active.cols ≤ pos.col &&
      rangesOverlap pos.row (pos.row + pos.rows) active.row (active.row + active.rows)

/-- `a.abs_diff(b)` -/
def absDiff (a b : Nat) : Nat := (a - b) + (b - a)

def centerDistance (active pos : PanePosition) : Nat :=
  absDiff (active.col * 2 + active.cols) (pos.col * 2 + pos.cols) +
    absDiff (active.row * 2 + active.rows) (pos.row * 2 + pos.rows)

def nearerNeighbor (active : PaneId) (activePos : PanePosition) (direction : FocusDirection)
    (best : Option (PaneId × Nat)) (placed : PaneId × PanePosition) : Option (PaneId × Nat) :=
  if placed.1 = active then best
  else if isCandidate activePos placed.2 direction then
    let dist := centerDistance activePos placed.2
    if best.all fun found => dist < found.2 then some (placed.1, dist) else best
  else best

def findNeighborInDirection (tab : Tab R) (direction : FocusDirection) : Option PaneId := do
  let active <- tab.activePane
  let activePos <- tab.tiledPosition active
  let best := tab.tiledPositions.foldl (nearerNeighbor active activePos direction) none
  best.map Prod.fst

def focusDirection (tab : Tab R) (direction : FocusDirection) : Bool × Tab R :=
  match tab.findNeighborInDirection direction with
  | some target => (true, { tab with fullscreenPane := none, activePane := some target })
  | none => (false, tab)

def toggleFullscreen (tab : Tab R) : Bool × Tab R :=
  match tab.fullscreenPane with
  | some _ => (true, { tab with fullscreenPane := none })
  | none =>
    match tab.activePane with
    | some active => (true, { tab with fullscreenPane := some active })
    | none => (false, tab)

def toggleFullscreenById (tab : Tab R) (id : PaneId) : Bool × Tab R :=
  if id ∉ tab.panes then (false, tab)
  else if tab.fullscreenPane = some id then (true, { tab with fullscreenPane := none })
  else (true, { tab with fullscreenPane := some id, activePane := some id })

def visibleFloating (tab : Tab R) : List (PaneId × PanePosition) :=
  if tab.showFloating then
    (tab.floatingPanes.filter FloatingPane.visible).map fun floating =>
      (floating.id, { col := floating.x, row := floating.y, cols := floating.width, rows := floating.height })
  else []

def computePositions (tab : Tab R) : List (PaneId × PanePosition) :=
  (match tab.fullscreenPane with
    | some id => [(id, { col := 0, row := 0, cols := tab.size.cols, rows := tab.size.rows })]
    | none => tab.tiledPositions) ++ tab.visibleFloating

/-- `positions.iter().max_by_key(|(_, pos)| pos.cols * pos.rows)`: the last of the largest. -/
def largest (positions : List (PaneId × PanePosition)) : Option (PaneId × PanePosition) :=
  positions.foldl (fun best placed =>
    if best.all fun found => found.2.cols * found.2.rows ≤ placed.2.cols * placed.2.rows then some placed else best) none

def splitLargestPane (tab : Tab R) : Fallible (Option PaneId × Tab R) :=
  let tab := { tab with fullscreenPane := none }
  match largest tab.tiledPositions with
  | none => .ok (none, tab)
  | some (target, pos) => do
    let direction : SplitDirection := if pos.rows ≤ pos.cols then .vertical else .horizontal
    let oldActive := tab.activePane
    match <- { tab with activePane := some target }.splitPane direction with
    | (none, tab) => .ok (none, { tab with activePane := oldActive })
    | (some newId, tab) => .ok (some newId, tab)

def swapPanes (tab : Tab R) (a b : PaneId) : Bool × Tab R :=
  match tab.layout.swapLeaves a b with
  | (true, layout) => (true, { tab with layout }.syncPaneSizes)
  | (false, layout) => (false, { tab with layout })

def moveActivePane (tab : Tab R) (direction : FocusDirection) : Bool × Tab R :=
  match tab.activePane with
  | none => (false, tab)
  | some active =>
    match tab.findNeighborInDirection direction with
    | some neighbor => tab.swapPanes active neighbor
    | none => (false, tab)

def movePaneById (tab : Tab R) (id : PaneId) (direction : FocusDirection) : Bool × Tab R :=
  match { tab with activePane := some id }.moveActivePane direction with
  | (true, moved) => (true, moved)
  | (false, moved) => (false, { moved with activePane := tab.activePane })

def movePaneBackwards (tab : Tab R) (id : PaneId) : Bool × Tab R :=
  let ids := tab.layout.paneIds
  match ids.findIdx? (· == id) with
  | some pos =>
    if 0 < pos then
      match ids[pos - 1]? with
      | some previous => tab.swapPanes id previous
      | none => (false, tab)
    else (false, tab)
  | none => (false, tab)

end Tab

end Emux
