import Emux.Loop.BorderDrag
import Emux.Loop.Highlight
import Emux.Term.Input

set_option autoImplicit false

/-!
# The mouse

What a mouse event does, by the panes that are listed and what is known about their screens.
-/

namespace Emux

open Checked

inductive CtMouseButton where
  | left
  | right
  | middle
  deriving DecidableEq, Repr

inductive CtMouseEventKind where
  | down (button : CtMouseButton)
  | up (button : CtMouseButton)
  | drag (button : CtMouseButton)
  | moved
  | scrollDown
  | scrollUp
  | scrollLeft
  | scrollRight
  deriving DecidableEq, Repr

/-- An event of the terminal library, in columns and rows of the terminal. -/
structure CtMouseEvent where
  kind : CtMouseEventKind
  column : UInt16
  row : UInt16
  deriving DecidableEq, Repr

/-- The commands that a mouse event can have, with the points of a selection. -/
inductive MouseCommand where
  | startBorderDrag (drag : BorderDrag)
  | focusPane (paneId : PaneId)
  | startMouseSelection (paneId : PaneId) (point : SelectionPoint)
  | forwardMouseToPty (paneId : PaneId) (bytes : Bytes)
  | scrollPaneUp (paneId : PaneId) (amount : Nat)
  | scrollPaneDown (paneId : PaneId) (amount : Nat)
  | endBorderDrag
  | finalizeMouseSelection
  | continueBorderDrag (col row : UInt16)
  | extendMouseSelection (point : SelectionPoint)
  deriving DecidableEq, Repr

structure PaneMouseInfo where
  paneId : PaneId
  mouseTracking : MouseMode
  mouseSgr : Bool
  scrollbackLen : Nat
  viewportOffset : Nat
  deriving DecidableEq, Repr

structure MouseContext where
  positions : List (PaneId × PanePosition)
  activePaneId : Option PaneId
  borderDrag : Option BorderDrag
  hasMouseSelection : Bool
  mouseSelectionPane : Option PaneId
  paneMouseInfo : List PaneMouseInfo
  deriving DecidableEq, Repr

def PanePosition.Contains (pos : PanePosition) (col row : UInt16) : Prop :=
  pos.col ≤ col.toNat ∧ col.toNat < pos.col + pos.cols ∧ pos.row ≤ row.toNat ∧ row.toNat < pos.row + pos.rows

instance (pos : PanePosition) (col row : UInt16) : Decidable (pos.Contains col row) :=
  inferInstanceAs (Decidable (_ ∧ _))

def paneAtPosition (positions : List (PaneId × PanePosition)) (col row : UInt16) : Option PaneId :=
  (positions.find? fun placed => placed.2.Contains col row).map Prod.fst

def crosstermButtonToU8 : CtMouseButton -> Byte
  | .left => 0
  | .middle => 1
  | .right => 2

namespace MouseContext

/-- `pane_mouse_info.iter().find(..)` -/
def infoOf (ctx : MouseContext) (id : PaneId) : Option PaneMouseInfo :=
  ctx.paneMouseInfo.find? fun info => info.paneId == id

/-- `positions.iter().find(..)` -/
def placeOf (ctx : MouseContext) (id : PaneId) : Option PanePosition :=
  (ctx.positions.find? fun placed => placed.1 == id).map Prod.snd

def isTracking (ctx : MouseContext) (id : PaneId) : Bool :=
  (ctx.infoOf id).any fun info => info.mouseTracking != .none

def selectionPoint (ctx : MouseContext) (id : PaneId) (col row : UInt16) : Option SelectionPoint := do
  let ppos <- ctx.placeOf id
  let info <- ctx.infoOf id
  let localCol := col.toNat - ppos.col
  let localRow := row.toNat - ppos.row
  let absRow := info.scrollbackLen + localRow - min info.viewportOffset (info.scrollbackLen + localRow)
  some { row := absRow, col := localCol }

def reported (event : CtMouseEvent) (ppos : PanePosition) : Option MouseEvent :=
  let localCol := (event.column.toNat - ppos.col).toUInt16
  let localRow := (event.row.toNat - ppos.row).toUInt16
  match event.kind with
  | .down button => some (.press (crosstermButtonToU8 button) localCol localRow)
  | .up _ => some (.release localCol localRow)
  | .drag button => some (.drag (crosstermButtonToU8 button) localCol localRow)
  | .moved => some (.drag 3 localCol localRow)
  | .scrollUp => some (.scrollUp localCol localRow)
  | .scrollDown => some (.scrollDown localCol localRow)
  | .scrollLeft | .scrollRight => none

def pushForwardMouse (ctx : MouseContext) (event : CtMouseEvent) : Fallible (List MouseCommand) :=
  match paneAtPosition ctx.positions event.column event.row with
  | none => .ok []
  | some paneId =>
    match ctx.infoOf paneId with
    | none => .ok []
    | some info =>
      if info.mouseTracking = .none then .ok []
      else
        match (ctx.placeOf paneId).bind (reported event) with
        | none => .ok []
        | some mouseEv => do
          let bytes <- encodeMouse mouseEv (if info.mouseSgr then .sgr else .normal)
          .ok (if bytes.isEmpty then [] else [.forwardMouseToPty paneId bytes])

end MouseContext

open MouseContext in
def resolveMouse (event : CtMouseEvent) (ctx : MouseContext) : Fallible (List MouseCommand) :=
  let under := paneAtPosition ctx.positions event.column event.row
  match event.kind with
  | .down .left =>
    match detectBorderClick ctx.positions event.column event.row with
    | some drag => .ok [.startBorderDrag drag]
    | none =>
      match under with
      | some paneId => do
        let focus := if ctx.activePaneId ≠ some paneId then [.focusPane paneId] else []
        let further <- if ctx.isTracking paneId then ctx.pushForwardMouse event
          else .ok ((ctx.selectionPoint paneId event.column event.row).map (.startMouseSelection paneId)).toList
        .ok (focus ++ further)
      | none => .ok []
  | .scrollUp =>
    match under with
    | some paneId => if ctx.isTracking paneId then ctx.pushForwardMouse event else .ok [.scrollPaneUp paneId 3]
    | none => .ok []
  | .scrollDown =>
    match under with
    | some paneId => if ctx.isTracking paneId then ctx.pushForwardMouse event else .ok [.scrollPaneDown paneId 3]
    | none => .ok []
  | .down .right | .down .middle => ctx.pushForwardMouse event
  | .up _ =>
    if ctx.borderDrag.isSome then .ok [.endBorderDrag]
    else if ctx.hasMouseSelection then .ok [.finalizeMouseSelection]
    else ctx.pushForwardMouse event
  | .drag .left =>
    if ctx.borderDrag.isSome then .ok [.continueBorderDrag event.column event.row]
    else if ctx.hasMouseSelection then
      match ctx.mouseSelectionPane with
      | some selPane => .ok ((ctx.selectionPoint selPane event.column event.row).map .extendMouseSelection).toList
      | none => .ok []
    else ctx.pushForwardMouse event
  | .drag _ => ctx.pushForwardMouse event
  | .moved =>
    match under with
    | some paneId =>
      if (ctx.infoOf paneId).any fun info => info.mouseTracking == .anyEvent then ctx.pushForwardMouse event else .ok []
    | none => .ok []
  | .scrollLeft | .scrollRight => .ok []

def PaneState.mouseInfo (id : PaneId) (pane : PaneState) : PaneMouseInfo where
  paneId := id
  mouseTracking := pane.screen.modes.mouseTracking
  mouseSgr := pane.screen.modes.mouseSgr
  scrollbackLen := pane.screen.grid.scrollbackLen
  viewportOffset := pane.screen.viewportOffset

/-- `pane_info` -/
def mouseInfos (positions : List (PaneId × PanePosition)) (panes : Keyed.Map PaneId PaneState) : List PaneMouseInfo :=
  positions.filterMap fun placed => (panes.lookup placed.1).map (PaneState.mouseInfo placed.1)

def EventLoop.mouseContext {R : Type} [Ratio R] (app : EventLoop R) (selecting : Option PaneId) : Fallible MouseContext := do
  let tab <- app.session.current
  .ok
    { positions := tab.computePositions
      activePaneId := tab.activePane
      borderDrag := app.borderDrag
      hasMouseSelection := selecting.isSome
      mouseSelectionPane := selecting
      paneMouseInfo := mouseInfos tab.computePositions app.panes }

end Emux
