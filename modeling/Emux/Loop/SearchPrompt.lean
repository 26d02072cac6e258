import Emux.Library.Run
import Emux.Loop.EventLoop
import Emux.Loop.Keys
import Emux.Loop.Searcher

set_option autoImplicit false

/-!
# The search prompt

Keys typed at the prompt go into the query, until the letter `n` becomes a command.
-/

namespace Emux

open Checked

/-- `App` with its search; copy mode and the mouse selection are left out. -/
structure SearchApp (R : Type) extends EventLoop R where
  bindings : ParsedBindings
  daemonMode : Bool
  inputMode : InputMode
  searchQuery : List Char
  searchState : SearchState
  searchDirectionActive : Bool

def SearchState.default : SearchState where
  query := []
  found := []
  current := none
  caseSensitive := false
  regex := false

def nextMatchIndex (current : Option Nat) (total : Nat) : Option Nat :=
  if total = 0 then none
  else
    match current with
    | some idx => some ((idx + 1) % total)
    | none => some 0

def prevMatchIndex (current : Option Nat) (total : Nat) : Option Nat :=
  if total = 0 then none
  else
    match current with
    | some 0 => some (total - 1)
    | some idx => some (idx - 1)
    | none => some (total - 1)

namespace SearchApp

variable {R : Type}

def activePane (app : SearchApp R) : Fallible (Option PaneState) := do
  let tab <- app.session.current
  .ok (tab.activePane.bind fun id => app.panes.lookup id)

def runSearch (tables : CaseTables) (app : SearchApp R) : Fallible (SearchApp R) := do
  if app.searchQuery.isEmpty then .ok { app with searchState := .default }
  else
    match <- app.activePane with
    | none => .ok app
    | some pane =>
      let texts <- (List.range pane.screen.rows).mapM pane.screen.grid.rowText
      let found <- findAllMatches tables texts app.searchQuery false
      let current := if found.isEmpty then none else some 0
      let searchState := { query := app.searchQuery, found, current, caseSensitive := false, regex := false }
      .ok { app with searchState }

def context (app : SearchApp R) (forwardBytes : Bytes) : ResolveContext where
  inputMode := app.inputMode
  bindings := app.bindings
  daemonMode := app.daemonMode
  searchQuery := app.searchQuery
  searchDirectionActive := app.searchDirectionActive
  forwardBytes

section Dispatch

variable [Ratio R]

def dispatch (tables : CaseTables) (command : Command) (app : SearchApp R) :
    Fallible (DispatchResult × SearchApp R) := do
  match command with
  | .enterSearchMode =>
    .ok (.render, { app with
      inputMode := .search, searchQuery := [], searchState := .default, searchDirectionActive := false })
  | .exitSearchMode => .ok (.render, { app with inputMode := .normal })
  | .searchAppendChar c =>
    let app <- runSearch tables { app with searchQuery := app.searchQuery ++ [c] }
    .ok (.render, { app with searchDirectionActive := true })
  | .searchDeleteChar =>
    let app <- runSearch tables { app with searchQuery := app.searchQuery.dropLast }
    .ok (.render, app)
  | .searchNextMatch =>
    let current := nextMatchIndex app.searchState.current app.searchState.found.length
    .ok (.render, { app with searchState := { app.searchState with current } })
  | .searchPrevMatch =>
    let current := prevMatchIndex app.searchState.current app.searchState.found.length
    .ok (.render, { app with searchState := { app.searchState with current } })
  | .enterCopyMode =>
    let pane <- app.activePane
    let (result, base) <- app.toEventLoop.dispatch command
    .ok (result, { app with toEventLoop := base, inputMode := if pane.isSome then .copy else app.inputMode })
  | .exitCopyMode | .copyYank =>
    let (result, base) <- app.toEventLoop.dispatch command
    .ok (result, { app with toEventLoop := base, inputMode := .normal })
  | _ =>
    let (result, base) <- app.toEventLoop.dispatch command
    .ok (result, { app with toEventLoop := base })

def press (tables : CaseTables) (translateKey : KeyEvent -> Screen -> Bytes) (key : KeyEvent) (app : SearchApp R) :
    Fallible (SearchApp R) := do
  let pane <- app.activePane
  let forwardBytes := (pane.map fun pane => translateKey key pane.screen).getD []
  let half := max ((pane.map fun pane => pane.screen.rows / 2).getD 1) 1
  let command := match resolveKeybinding key (app.context forwardBytes) with
    | .scrollUp 0 => .scrollUp half
    | .scrollDown 0 => .scrollDown half
    | other => other
  let (_, app) <- app.dispatch tables command
  .ok app

end Dispatch

def typed (c : Char) : KeyEvent := { code := .char c, modifiers := .empty }

variable {app : SearchApp R}

theorem rowTexts_ok {g : Grid} (filled : g.Filled) : ∃ texts, (List.range g.rows).mapM g.rowText = .ok texts := by
  have each : ∀ i text, (g.lines.map fun row => trimSpaces (fullText row.cells))[i]? = some text ->
      g.rowText (0 + i) = .ok text := by
    intro i text at_
    rw [List.getElem?_map, Option.map_eq_some_iff] at at_
    obtain ⟨row, found, rfl⟩ := at_
    rw [Grid.rowText, Grid.rowTextFull, Nat.zero_add, get_ok found]
    rfl
  have all := mapM_indices each
  rw [List.length_map, filled.lines, ← List.range_eq_range'] at all
  exact ⟨_, all⟩

structure Readable (app : SearchApp R) : Prop where
  tab : ∃ tab, app.session.current = .ok tab
  filled : ∀ pane, app.activePane = .ok (some pane) -> pane.screen.grid.Filled

theorem Readable.activePane_ok (readable : app.Readable) : ∃ pane, app.activePane = .ok pane := by
  obtain ⟨tab, active⟩ := readable.tab
  exact ⟨_, by rw [activePane, active, ok_bind]⟩

theorem runSearch_ok (tables : CaseTables) (readable : app.Readable) :
    ∃ searchState, runSearch tables app = .ok { app with searchState } := by
  unfold runSearch
  split
  next => exact ⟨_, rfl⟩
  next =>
    obtain ⟨pane, active⟩ := readable.activePane_ok
    cases pane with
    | none => exact ⟨app.searchState, by rw [active]; rfl⟩
    | some pane =>
      obtain ⟨texts, read⟩ := rowTexts_ok (readable.filled pane active)
      obtain ⟨found, ran⟩ := CaseTables.findAllMatches_total tables texts app.searchQuery false
      rw [active, ok_bind]
      dsimp only
      rw [show (List.range pane.screen.rows).mapM pane.screen.grid.rowText = .ok texts from read, ok_bind, ran]
      exact ⟨_, rfl⟩

structure Prompts (app next : SearchApp R) : Prop where
  base : next.toEventLoop = app.toEventLoop
  mode : next.inputMode = .search

theorem Prompts.readable {next : SearchApp R} (prompts : app.Prompts next) (readable : app.Readable) : next.Readable := by
  have session : next.session = app.session := congrArg (fun base => base.session) prompts.base
  have active : next.activePane = app.activePane := by
    rw [activePane, activePane, prompts.base]
  exact ⟨session ▸ readable.tab, active ▸ readable.filled⟩

variable [Ratio R] {app : SearchApp R}

def IsNext (app : SearchApp R) (c : Char) : Prop := c = 'n' ∧ app.searchQuery ≠ [] ∧ app.searchDirectionActive = true

theorem press_eq (tables : CaseTables) (translateKey : KeyEvent -> Screen -> Bytes) {pane : Option PaneState}
    (active : app.activePane = .ok pane) {key : KeyEvent} {command : Command}
    (resolved : ∀ bytes, resolveKeybinding key (app.context bytes) = command)
    (still : ∀ amount, command ≠ .scrollUp amount ∧ command ≠ .scrollDown amount) :
    press tables translateKey key app = (app.dispatch tables command).map Prod.snd := by
  rw [press, active, ok_bind]
  dsimp only
  rw [resolved]
  split
  next => exact absurd rfl (still 0).1
  next => exact absurd rfl (still 0).2
  next => cases app.dispatch tables command <;> rfl

theorem press_typed (tables : CaseTables) (translateKey : KeyEvent -> Screen -> Bytes) (readable : app.Readable)
    (mode : app.inputMode = .search) (c : Char) :
    ∃ next, press tables translateKey (typed c) app = .ok next ∧ app.Prompts next ∧
      (app.IsNext c -> next.searchQuery = app.searchQuery ∧ next.searchDirectionActive = app.searchDirectionActive) ∧
      (¬ app.IsNext c -> next.searchQuery = app.searchQuery ++ [c] ∧ next.searchDirectionActive = true) := by
  obtain ⟨pane, active⟩ := readable.activePane_ok
  have resolved (bytes : Bytes) : resolveKeybinding (typed c) (app.context bytes) =
      if c = 'n' ∧ app.searchQuery ≠ [] ∧ app.searchDirectionActive = true then .searchNextMatch
      else .searchAppendChar c := by
    have unshifted : KeyModifiers.empty.contains .shift = false := by decide
    simp only [resolveKeybinding, context, mode, resolveSearchKey, typed, true_and, unshifted, Bool.false_eq_true, false_and,
      and_false, if_false]
  by_cases next : app.IsNext c
  next =>
    have command (bytes : Bytes) : resolveKeybinding (typed c) (app.context bytes) = .searchNextMatch :=
      (resolved bytes).trans (if_pos next)
    let current := nextMatchIndex app.searchState.current app.searchState.found.length
    refine ⟨{ app with searchState := { app.searchState with current } }, ?_, ⟨rfl, mode⟩, fun _ => ⟨rfl, rfl⟩,
      fun other => absurd next other⟩
    rw [press_eq tables translateKey active command fun _ => ⟨by simp, by simp⟩]
    rfl
  next =>
    have command (bytes : Bytes) : resolveKeybinding (typed c) (app.context bytes) = .searchAppendChar c :=
      (resolved bytes).trans (if_neg next)
    obtain ⟨searchState, ran⟩ := runSearch_ok tables
      (show Readable { app with searchQuery := app.searchQuery ++ [c] } from ⟨readable.tab, readable.filled⟩)
    refine ⟨{ app with searchQuery := app.searchQuery ++ [c], searchState, searchDirectionActive := true }, ?_, ⟨rfl, mode⟩,
      fun isNext => absurd isNext next, fun _ => ⟨rfl, rfl⟩⟩
    have appended : app.dispatch tables (.searchAppendChar c) = (do
        let app <- runSearch tables { app with searchQuery := app.searchQuery ++ [c] }
        .ok (.render, { app with searchDirectionActive := true })) := rfl
    rw [press_eq tables translateKey active command fun _ => ⟨by simp, by simp⟩, appended, ran, ok_bind]
    rfl

theorem press_run (tables : CaseTables) (translateKey : KeyEvent -> Screen -> Bytes) (readable : app.Readable)
    (mode : app.inputMode = .search) (some : app.searchQuery ≠ []) (direction : app.searchDirectionActive = true)
    (text : List Char) : ∃ last, run (press tables translateKey) (text.map typed) app = .ok last ∧
      app.Prompts last ∧ last.searchQuery = app.searchQuery ++ text.filter (· ≠ 'n') := by
  induction text generalizing app with
  | nil => exact ⟨app, rfl, ⟨rfl, mode⟩, by simp⟩
  | cons c rest ih =>
    obtain ⟨next, pressed, prompts, left, added⟩ := press_typed tables translateKey readable mode c
    by_cases isNext : c = 'n'
    next =>
      obtain ⟨query, active⟩ := left ⟨isNext, some, direction⟩
      obtain ⟨last, ran, after, whole⟩ := ih (prompts.readable readable) prompts.mode (query ▸ some) (active ▸ direction)
      refine ⟨last, ?_, ⟨after.base.trans prompts.base, after.mode⟩, ?_⟩
      next => rw [List.map_cons, run_cons, pressed, ok_bind, ran]
      next => rw [whole, query, List.filter_cons_of_neg (by simpa using isNext)]
    next =>
      obtain ⟨query, active⟩ := added fun other => isNext other.1
      obtain ⟨last, ran, after, whole⟩ := ih (prompts.readable readable) prompts.mode (by simp [query]) active
      refine ⟨last, ?_, ⟨after.base.trans prompts.base, after.mode⟩, ?_⟩
      next => rw [List.map_cons, run_cons, pressed, ok_bind, ran]
      next => rw [whole, query, List.filter_cons_of_pos (by simpa using isNext), List.append_assoc, List.singleton_append]

def queryOf : List Char -> List Char
  | [] => []
  | c :: rest => c :: rest.filter (· ≠ 'n')

def typeQuery (tables : CaseTables) (translateKey : KeyEvent -> Screen -> Bytes) (text : List Char) (app : SearchApp R) :
    Fallible (SearchApp R) := do
  let (_, app) <- app.dispatch tables .enterSearchMode
  run (press tables translateKey) (text.map typed) app

theorem typeQuery_ok (tables : CaseTables) (translateKey : KeyEvent -> Screen -> Bytes) (readable : app.Readable)
    (text : List Char) : ∃ last, typeQuery tables translateKey text app = .ok last ∧
      last.inputMode = .search ∧ last.searchQuery = queryOf text := by
  let entered : SearchApp R :=
    { app with inputMode := .search, searchQuery := [], searchState := .default, searchDirectionActive := false }
  have start : typeQuery tables translateKey text app = run (press tables translateKey) (text.map typed) entered := rfl
  have ready : entered.Readable := ⟨readable.tab, readable.filled⟩
  rw [start]
  cases text with
  | nil => exact ⟨entered, rfl, rfl, rfl⟩
  | cons c rest =>
    obtain ⟨next, pressed, prompts, -, added⟩ := press_typed tables translateKey ready rfl c
    obtain ⟨query, active⟩ := added fun other => other.2.1 rfl
    obtain ⟨last, ran, after, whole⟩ :=
      press_run tables translateKey (prompts.readable ready) prompts.mode (by simp [query]) active rest
    refine ⟨last, ?_, after.mode, ?_⟩
    next => rw [List.map_cons, run_cons, pressed, ok_bind, ran]
    next => rw [whole, query]; rfl

theorem search_prompt_query (tables : CaseTables) (translateKey : KeyEvent -> Screen -> Bytes) {tab : Tab R}
    (active : app.session.current = .ok tab)
    (filled : ∀ id pane, tab.activePane = some id -> app.panes.lookup id = some pane -> pane.screen.grid.Filled)
    (text : List Char) : ∃ last, typeQuery tables translateKey text app = .ok last ∧
      last.inputMode = .search ∧ last.searchQuery = queryOf text := by
  refine typeQuery_ok tables translateKey ⟨⟨tab, active⟩, fun pane found => ?_⟩ text
  rw [activePane, active, ok_bind] at found
  obtain ⟨id, isActive, stored⟩ := Option.bind_eq_some_iff.mp (Except.ok.inj found)
  exact filled id pane isActive stored

def started (cols rows : UInt16) : SearchApp R where
  toEventLoop := .start cols rows
  bindings := .fromConfig CaseTables.latin .default
  daemonMode := false
  inputMode := .normal
  searchQuery := []
  searchState := .default
  searchDirectionActive := false

theorem started_filled (id : PaneId) (pane : PaneState) (stored : (started 80 25 : SearchApp Rat).panes.lookup id = some pane) :
    pane.screen.grid.Filled := by
  obtain ⟨-, rfl⟩ := Keyed.lookup_singleton stored
  exact .new 80 24

theorem search_prompt_query_banana :
    ∃ last, typeQuery CaseTables.latin (fun _ _ => []) "banana".toList (started 80 25 : SearchApp Rat) = .ok last ∧
      last.inputMode = .search ∧ last.searchQuery = "baaa".toList :=
  search_prompt_query CaseTables.latin (fun _ _ => []) rfl (fun id pane _ stored => started_filled id pane stored)
    "banana".toList

/-- Of `an` only the first letter is in the query. -/
theorem typed_n_dropped :
    ¬ ∀ text, ∃ last, typeQuery CaseTables.latin (fun _ _ => []) text (started 80 25 : SearchApp Rat) = .ok last ∧
      last.searchQuery = text := by
  intro all
  have readable : (started 80 25 : SearchApp Rat).Readable := by
    refine ⟨⟨_, rfl⟩, fun pane found => ?_⟩
    obtain ⟨id, -, stored⟩ := Option.bind_eq_some_iff.mp (Except.ok.inj found)
    exact started_filled id pane stored
  obtain ⟨last, ran, -, query⟩ := typeQuery_ok CaseTables.latin (fun _ _ => []) readable ['a', 'n']
  obtain ⟨other, same, whole⟩ := all ['a', 'n']
  rw [ran] at same
  obtain rfl := Except.ok.inj same
  rw [query] at whole
  exact absurd whole (by decide)

end SearchApp

end Emux
