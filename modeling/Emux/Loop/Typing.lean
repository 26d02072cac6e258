import Emux.Library.ShortWrites
import Emux.Loop.SearchPrompt
import Emux.Term.Keyboard

set_option autoImplicit false

/-!
# Typing

How keys, pastes and focus changes come to the child of a pane: the event is resolved and dispatched, and what is to be
written goes to the pseudoterminal in as many writes as it takes.
-/

namespace Emux

open Checked Keyboard ShortWrites

def keyOf : KeyCode -> Option Keyboard.Key
  | .char c => some (.char c)
  | .enter => some .enter
  | .backspace => some .backspace
  | .tab => some .tab
  | .esc => some .escape
  | .up => some .up
  | .down => some .down
  | .left => some .left
  | .right => some .right
  | .home => some .home
  | .end => some .end
  | .pageUp => some .pageUp
  | .pageDown => some .pageDown
  | .insert => some .insert
  | .delete => some .delete
  | .f n => some (.f n)
  | _ => none

def KeyModifiers.held (mods : KeyModifiers) : Modifiers where
  shift := mods.contains .shift
  alt := mods.contains .alt
  ctrl := mods.contains .control

def translateKey (event : KeyEvent) (screen : Screen) : Bytes :=
  match keyOf event.code with
  | some key =>
    encodeKey key event.modifiers.held screen.modes.applicationCursorKeys screen.modes.applicationKeypad
      screen.modes.newline false
  | none => []

/-- Pauses of 10 to 1000 microseconds. -/
def ptyWriteAll {E : Type} (outcomes : List (Outcome E)) (data : Bytes) : Progress Byte E := writeAll 10 1000 outcomes 10 data

/-- The writes of a dispatched command, as far as the loop gets with them. An error is logged. -/
def ptyWrites {E : Type} (panes : Keyed.Map PaneId PaneState) :
    List (PaneId × Bytes) -> (Nat -> List (Outcome E)) -> List (PaneId × Progress Byte E)
  | [], _ => []
  | (paneId, bytes) :: rest, outcomes =>
    if paneId ∈ panes then
      let progress := ptyWriteAll (outcomes 0) bytes
      (paneId, progress) :: if progress.ended.isSome then ptyWrites panes rest fun i => outcomes (i + 1) else []
    else ptyWrites panes rest fun i => outcomes (i + 1)

/-- The events that a child may get something of. -/
inductive Input where
  | key (event : KeyEvent)
  | paste (text : Bytes)
  | focus (gained : Bool)
  deriving DecidableEq, Repr

structure Typing (R E : Type) where
  app : SearchApp R
  given : List (PaneId × Progress Byte E)

namespace Typing

variable {R E : Type}

def blocked (state : Typing R E) : Bool := state.given.any fun write => write.2.ended.isNone

def command (input : Input) (app : SearchApp R) : Fallible Command := do
  let pane <- app.activePane
  match input with
  | .key event =>
    let forwardBytes := (pane.map fun pane => translateKey event pane.screen).getD []
    let half := max ((pane.map fun pane => pane.screen.rows / 2).getD 1) 1
    match resolveKeybinding event (app.context forwardBytes) with
    | .scrollUp 0 => .ok (.scrollUp half)
    | .scrollDown 0 => .ok (.scrollDown half)
    | other => .ok other
  | .paste text => .ok (.forwardPaste ((pane.map fun pane => encodePaste text pane.screen.modes.bracketedPaste).getD []))
  | .focus gained => .ok (.forwardFocus gained)

/-- One event, with what the writes to the pseudoterminals do. Nothing happens while a write does not end. -/
def step [Ratio R] (tables : CaseTables) (item : Input × (Nat -> List (Outcome E))) (state : Typing R E) :
    Fallible (Typing R E) :=
  if state.app.exited || state.blocked then .ok state
  else do
    let command <- command item.1 state.app
    let (result, app) <- state.app.dispatch tables command
    let base <- app.toEventLoop.executeSideEffects result
    let given := state.given ++ ptyWrites base.panes result.ptyWrites item.2
    .ok { app := { app with toEventLoop := { base with exited := result.exit.isSome } }, given }

def sent (modes : Modes) : Input -> Bytes
  | .key event =>
    match keyOf event.code with
    | some key => encodeKey key event.modifiers.held modes.applicationCursorKeys modes.applicationKeypad modes.newline false
    | none => []
  | .paste text => encodePaste text modes.bracketedPaste
  | .focus gained => encodeFocus gained modes.focusTracking

def forwarded (app : SearchApp R) : Input -> Prop
  | .key event => ∀ test ∈ (app.context []).tests, matchesBinding event test.1 = false
  | _ => True

def takenBy (id : PaneId) (given : List (PaneId × Progress Byte E)) : Bytes :=
  given.flatMap fun write => if write.1 = id then write.2.taken else []

structure Focused (id : PaneId) (modes : Modes) (app : SearchApp R) : Prop where
  mode : app.inputMode = .normal
  running : app.exited = false
  active : ∃ tab, app.session.tabs[app.session.activeTab]? = some tab ∧ tab.activePane = some id
  stored : ∃ pane, app.panes.lookup id = some pane ∧ pane.screen.modes = modes

section Step

variable {id : PaneId} {modes : Modes} {app : SearchApp R}

theorem Focused.activePane (focused : Focused id modes app) :
    ∃ pane, app.activePane = .ok (some pane) ∧ app.panes.lookup id = some pane ∧ pane.screen.modes = modes := by
  obtain ⟨tab, active, is⟩ := focused.active
  obtain ⟨pane, stored, same⟩ := focused.stored
  exact ⟨pane, by simp [SearchApp.activePane, Session.current, get_ok active, is, stored], stored, same⟩

variable [Ratio R]

end Step

def Reads (modes : Modes) (item : Input × (Nat -> List (Outcome E))) : Prop :=
  (∀ outcome ∈ item.2 0, outcome.works = true) ∧ (sent modes item.1).length ≤ ((item.2 0).map Outcome.capacity).sum

instance (modes : Modes) (item : Input × (Nat -> List (Outcome E))) : Decidable (Reads modes item) :=
  inferInstanceAs (Decidable (_ ∧ _))

structure Delivers (id : PaneId) (modes : Modes) (items : List (Input × (Nat -> List (Outcome E))))
    (given : List (PaneId × Progress Byte E)) : Prop where
  only : ∀ write ∈ given, write.1 = id
  paced : ∀ write ∈ given, ∀ waited ∈ write.2.pauses, 10 ≤ waited ∧ waited ≤ 1000
  parts : ∃ parts, List.Forall₂ (fun part item => part <+: sent modes item.1) parts items ∧
    takenBy id given = parts.flatten

theorem takenBy_append (id : PaneId) (first second : List (PaneId × Progress Byte E)) :
    takenBy id (first ++ second) = takenBy id first ++ takenBy id second := List.flatMap_append

section Run

variable {id : PaneId} {modes : Modes} {item : Input × (Nat -> List (Outcome E))}
  {items : List (Input × (Nat -> List (Outcome E)))}

theorem Delivers.cons {given : List (PaneId × Progress Byte E)} (later : Delivers id modes items given) (silent : Bool) :
    Delivers id modes (item :: items)
      ((if silent || (sent modes item.1).isEmpty then [] else [(id, ptyWriteAll (item.2 0) (sent modes item.1))]) ++ given) := by
  obtain ⟨parts, each, whole⟩ := later.parts
  split
  next => exact ⟨later.only, later.paced, [] :: parts, .cons List.nil_prefix each, whole⟩
  next =>
    refine ⟨List.forall_mem_cons.mpr ⟨rfl, later.only⟩, List.forall_mem_cons.mpr ⟨?_, later.paced⟩,
      (ptyWriteAll (item.2 0) (sent modes item.1)).taken :: parts, .cons writeAll_prefix each, ?_⟩
    next => exact writeAll_pauses (by decide) (by decide)
    next => rw [takenBy_append, whole, takenBy, List.flatMap_singleton, if_pos rfl, List.flatten_cons]

theorem Reads.taken (reads : Reads modes item) :
    (ptyWriteAll (item.2 0) (sent modes item.1)).ended = some (.ok ()) ∧
      (ptyWriteAll (item.2 0) (sent modes item.1)).taken = sent modes item.1 := by
  have completes : (ptyWriteAll (item.2 0) (sent modes item.1)).ended = some (.ok ()) := writeAll_completes reads.1 reads.2
  exact ⟨completes, writeAll_ok_iff.mp completes⟩

variable [Ratio R]

end Run

end Typing

end Emux
