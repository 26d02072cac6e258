import Emux.Term.Performer

set_option autoImplicit false

/-!
# A run of the terminal is a run of operations

Bytes reach the screen as parsed actions, actions as calls, calls as operations. A condition on
operations holds in a run when every operation that the run executes meets it where it starts.
-/

namespace Emux

open Checked

def Event.calls (event : Event) (t : Terminal) : List Call :=
  match event with
  | .bytes input => expand Call.exec Screen.calls (t.parser.advance input).2 t.screen
  | .resize cols rows => [.op (.resize cols rows)]

namespace Terminal

def calls : List Event -> Terminal -> List Call
  | [], _ => []
  | event :: rest, t =>
    event.calls t ++
      match t.handle event with
      | .ok next => calls rest next
      | .error _ => []

def ops (events : List Event) (t : Terminal) : List Op :=
  expand Op.exec (fun s call => call.ops s) (calls events t) t.screen

def EveryCall (ok : Call -> Screen -> Prop) (events : List Event) (t : Terminal) : Prop :=
  Along Call.exec ok (calls events t) t.screen

def EveryOp (ok : Op -> Screen -> Prop) (events : List Event) (t : Terminal) : Prop :=
  Along Op.exec ok (ops events t) t.screen

instance (ok : Call -> Screen -> Prop) [decided : ∀ call s, Decidable (ok call s)] (events : List Event)
    (t : Terminal) : Decidable (EveryCall ok events t) :=
  inferInstanceAs (Decidable (Along Call.exec ok (calls events t) t.screen))

instance (ok : Op -> Screen -> Prop) [decided : ∀ op s, Decidable (ok op s)] (events : List Event)
    (t : Terminal) : Decidable (EveryOp ok events t) :=
  inferInstanceAs (Decidable (Along Op.exec ok (ops events t) t.screen))

end Terminal

theorem exec_op (op : Op) (s : Screen) : (Call.op op).exec s = op.exec s := by
  simp only [Call.exec, Call.ops, run_cons]
  cases op.exec s <;> rfl

namespace Terminal

theorem handle_calls (event : Event) (t : Terminal) :
    (t.handle event).map Terminal.screen = run Call.exec (event.calls t) t.screen := by
  cases event with
  | bytes input =>
    have ran := run_expand Call.exec Screen.calls (t.parser.advance input).2 t.screen
    simp only [handle, feed, Event.calls, ran]
    change _ = run Screen.perform (t.parser.advance input).2 t.screen
    cases run Screen.perform (t.parser.advance input).2 t.screen <;> rfl
  | resize cols rows =>
    simp only [handle, Event.calls, run_cons, exec_op]
    change _ = t.screen.resize cols rows >>= run Call.exec []
    cases t.screen.resize cols rows <;> rfl

theorem run_calls (events : List Event) (t : Terminal) :
    (run handle events t).map Terminal.screen = run Call.exec (calls events t) t.screen := by
  induction events generalizing t with
  | nil => rfl
  | cons event rest ih =>
    rw [calls, run_append, ← handle_calls, run_cons]
    cases t.handle event with
    | error panic => rfl
    | ok next => exact ih next

theorem run_ops (events : List Event) (t : Terminal) :
    (run handle events t).map Terminal.screen = run Op.exec (ops events t) t.screen := by
  rw [run_calls, ops, run_expand]
  rfl

theorem ensures_of_map {allowed : Panic -> Prop} {x : Fallible Terminal} {y : Fallible Screen} {good : Screen -> Prop}
    (same : x.map Terminal.screen = y) (ensured : Ensures allowed y good) : Ensures allowed x fun t => good t.screen := by
  rw [← same] at ensured
  cases x with
  | error panic => exact ensured
  | ok last => exact ensured

theorem ensures_calls {allowed : Panic -> Prop} {ok : Call -> Screen -> Prop} {good : Screen -> Prop}
    (one : ∀ call s, ok call s -> good s -> Ensures allowed (call.exec s) good) {events : List Event}
    {t : Terminal} (every : EveryCall ok events t) (start : good t.screen) :
    Ensures allowed (run handle events t) fun t => good t.screen :=
  ensures_of_map (run_calls events t) (run_ensures one every start)

theorem ensures_ops {allowed : Panic -> Prop} {ok : Op -> Screen -> Prop} {good : Screen -> Prop}
    (one : ∀ op s, ok op s -> good s -> Ensures allowed (op.exec s) good) {events : List Event}
    {t : Terminal} (every : EveryOp ok events t) (start : good t.screen) :
    Ensures allowed (run handle events t) fun t => good t.screen :=
  ensures_of_map (run_ops events t) (run_ensures one every start)

end Terminal

theorem perform_one {s : Screen} {action : Action} {op : Op} (one : s.calls action = [.op op]) :
    s.perform action = op.exec s := by
  -- An action that one operation carries out.
  rw [Screen.perform, one, run_cons, exec_op]
  cases op.exec s <;> rfl

def Op.isResize : Op -> Bool
  | .resize .. => true
  | _ => false

def Op.isStage : Op -> Bool
  | .wrapPending | .fitWide _ | .shiftForInsert _ | .putChar .. => true
  | _ => false

/-- No action calls it: a resize, or a stage by itself. -/
def Call.isUncalled : Call -> Bool
  | .op o => o.isResize || o.isStage
  | .writeChar _ => false

theorem privateModeOp_called (mode : Nat) (enable : Bool) :
    (Call.op (privateModeOp mode enable)).isUncalled = false := by
  unfold privateModeOp
  split <;> cases enable <;> rfl

theorem setModes_called (params : List Nat) (isPrivate enable : Bool) :
    (setModes params isPrivate enable).any Call.isUncalled = false := by
  rw [setModes, List.any_map, List.any_eq_false]
  intro p _
  cases isPrivate with
  | false => simp [Call.isUncalled, Op.isResize, Op.isStage]
  | true => simp [privateModeOp_called]

theorem executeC0_called (byte : Byte) : (executeC0 byte).any Call.isUncalled = false := by
  unfold executeC0
  split <;> rfl

theorem handleEsc_called (intermediates : List Byte) (byte : Byte) :
    (handleEsc intermediates byte).any Call.isUncalled = false := by
  unfold handleEsc
  split
  next => split <;> rfl
  next => rfl
  next => rfl
  next => split <;> rfl
  next => rfl

namespace Screen

theorem handleCsi_called (s : Screen) (params : Params) (intermediates : List Byte) (action : Byte) :
    (s.handleCsi params intermediates action).any Call.isUncalled = false := by
  have repeated (c : Char) (count : Nat) : (List.replicate count (Call.writeChar c)).any Call.isUncalled = false := by
    simp [Call.isUncalled]
  unfold handleCsi
  dsimp only
  split
  all_goals first
    | rfl
    | exact setModes_called ..
    | (split <;> first | rfl | (split <;> rfl))
    | (cases eraseDisplayMode (params.getOr 0 0) <;> rfl)
    | (cases eraseLineMode (params.getOr 0 0) <;> rfl)
    | (cases s.lastChar <;> first | rfl | exact repeated ..)
    | (split_ifs <;> first | rfl | (split <;> rfl))

theorem calls_called (s : Screen) (action : Action) : (s.calls action).any Call.isUncalled = false := by
  cases action with
  | csiDispatch params intermediates ignore byte =>
    cases ignore with
    | true => rfl
    | false => exact s.handleCsi_called params intermediates byte
  | escDispatch intermediates ignore byte =>
    cases ignore with
    | true => rfl
    | false => exact handleEsc_called intermediates byte
  | execute byte => exact executeC0_called byte
  | _ => rfl

end Screen

theorem writeCharOps_noResize (s : Screen) (c : Char) : (s.writeCharOps c).any Op.isResize = false := by
  simp only [Screen.writeCharOps]
  split_ifs <;> rfl

namespace Terminal

theorem called_of_mem_calls {call : Call} {events : List Event} {t : Terminal} (member : call ∈ calls events t) :
    call.isUncalled = false ∨ ∃ cols rows, call = .op (.resize cols rows) ∧ Event.resize cols rows ∈ events := by
  -- A call comes from an action, or it is a resize that the host asked for.
  induction events generalizing t with
  | nil => cases member
  | cons event rest ih =>
    rcases List.mem_append.mp member with here | later
    next =>
      cases event with
      | resize cols rows => exact .inr ⟨cols, rows, List.mem_singleton.mp here, List.mem_cons_self⟩
      | bytes input =>
        obtain ⟨action, -, s, inside⟩ := mem_expand here
        exact .inl (by simpa using List.any_eq_false.mp (s.calls_called action) call inside)
    next =>
      cases result : t.handle event with
      | error panic => simp [result] at later
      | ok next =>
        simp only [result] at later
        rcases ih later with called | ⟨cols, rows, same, asked⟩
        next => exact .inl called
        next => exact .inr ⟨cols, rows, same, List.mem_cons_of_mem _ asked⟩

theorem resize_of_mem_calls {cols rows : Nat} {events : List Event} {t : Terminal}
    (member : Call.op (.resize cols rows) ∈ calls events t) : Event.resize cols rows ∈ events := by
  rcases called_of_mem_calls member with called | ⟨_, _, same, asked⟩
  next => cases called
  next =>
    cases same
    exact asked

theorem resize_of_mem_ops {cols rows : Nat} {events : List Event} {t : Terminal}
    (member : Op.resize cols rows ∈ ops events t) : Event.resize cols rows ∈ events := by
  obtain ⟨call, called, s, inside⟩ := mem_expand member
  cases call with
  | writeChar c =>
    have none := List.any_eq_false.mp (writeCharOps_noResize s c) _ inside
    exact absurd rfl none
  | op o =>
    cases List.mem_singleton.mp inside
    exact resize_of_mem_calls called

/-- `handle` with the byte loop of the parser in place of its fast path, which computes by recursion
on the bytes. -/
def handleBytes (event : Event) (t : Terminal) : Fallible Terminal :=
  match event with
  | .bytes input => do
    let (parser, actions) := t.parser.advanceBytes input
    let screen ← run Screen.perform actions t.screen
    .ok { parser, screen }
  | .resize cols rows => do
    let screen ← t.screen.resize cols rows
    .ok { t with screen }

theorem handle_eq : handle = handleBytes := by
  funext event t
  cases event with
  | bytes input => simp only [handle, feed, handleBytes, Parser.advance_eq_advanceBytes]
  | resize cols rows => rfl

theorem run_parsed {input : Bytes} {parser : Parser} {actions : List Action}
    (parsed : ({} : Parser).advanceBytes input = (parser, actions)) (s : Screen) :
    run handle [.bytes input] { screen := s } = (run Screen.perform actions s).map fun screen => { parser, screen } := by
  simp only [run_cons, handle, feed, Parser.advance_eq_advanceBytes, parsed]
  cases run Screen.perform actions s <;> rfl

end Terminal

end Emux
