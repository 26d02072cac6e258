import Emux.Loop.Command
import Emux.Term.Search
import Emux.Term.Selection

set_option autoImplicit false

/-!
# Keys

Which command a key event is, by the mode of the input and the configured bindings.
-/

namespace Emux

open Checked

/-- The bits of `KeyModifiers`. -/
structure KeyModifiers where
  bits : UInt8
  deriving DecidableEq, Repr

namespace KeyModifiers

def empty : KeyModifiers := ⟨0⟩

def shift : KeyModifiers := ⟨1⟩

def control : KeyModifiers := ⟨2⟩

def alt : KeyModifiers := ⟨4⟩

def union (mods other : KeyModifiers) : KeyModifiers := ⟨mods.bits ||| other.bits⟩

def contains (mods other : KeyModifiers) : Bool := mods.bits &&& other.bits == other.bits

theorem contains_self (mods : KeyModifiers) : mods.contains mods = true := by
  simp [contains]

end KeyModifiers

/-- The media and modifier keys by their numbers. -/
inductive KeyCode where
  | backspace
  | enter
  | left
  | right
  | up
  | down
  | home
  | «end»
  | pageUp
  | pageDown
  | tab
  | backTab
  | delete
  | insert
  | f (number : UInt8)
  | char (c : Char)
  | null
  | esc
  | capsLock
  | scrollLock
  | numLock
  | printScreen
  | pause
  | menu
  | keypadBegin
  | media (key : Nat)
  | modifier (key : Nat)
  deriving DecidableEq, Repr

structure KeyEvent where
  code : KeyCode
  modifiers : KeyModifiers
  deriving DecidableEq, Repr

inductive InputMode where
  | normal
  | search
  | copy
  deriving DecidableEq, Repr

abbrev KeyBinding := KeyModifiers × KeyCode

/-- One thing for each action that has a key. -/
structure Bindings (A : Type) where
  splitDown : A
  splitRight : A
  closePane : A
  focusUp : A
  focusDown : A
  focusLeft : A
  focusRight : A
  newTab : A
  closeTab : A
  nextTab : A
  prevTab : A
  detach : A
  search : A
  toggleFullscreen : A
  toggleFloat : A
  copyMode : A
  scrollUp : A
  scrollDown : A
  deriving DecidableEq, Repr

abbrev KeyBindings := Bindings (List Char)

abbrev ParsedBindings := Bindings (Option KeyBinding)

def Bindings.map {A B : Type} (f : A -> B) (bindings : Bindings A) : Bindings B where
  splitDown := f bindings.splitDown
  splitRight := f bindings.splitRight
  closePane := f bindings.closePane
  focusUp := f bindings.focusUp
  focusDown := f bindings.focusDown
  focusLeft := f bindings.focusLeft
  focusRight := f bindings.focusRight
  newTab := f bindings.newTab
  closeTab := f bindings.closeTab
  nextTab := f bindings.nextTab
  prevTab := f bindings.prevTab
  detach := f bindings.detach
  search := f bindings.search
  toggleFullscreen := f bindings.toggleFullscreen
  toggleFloat := f bindings.toggleFloat
  copyMode := f bindings.copyMode
  scrollUp := f bindings.scrollUp
  scrollDown := f bindings.scrollDown

def KeyBindings.default : KeyBindings where
  splitDown := "Leader+D".toList
  splitRight := "Leader+R".toList
  closePane := "Leader+X".toList
  focusUp := "Leader+Up".toList
  focusDown := "Leader+Down".toList
  focusLeft := "Leader+Left".toList
  focusRight := "Leader+Right".toList
  newTab := "Leader+T".toList
  closeTab := "Leader+W".toList
  nextTab := "Leader+N".toList
  prevTab := "Leader+P".toList
  detach := "Leader+Q".toList
  search := "Leader+/".toList
  toggleFullscreen := "Leader+F".toList
  toggleFloat := "Leader+G".toList
  copyMode := "Leader+[".toList
  scrollUp := "Leader+PageUp".toList
  scrollDown := "Leader+PageDown".toList

def trim (text : List Char) : List Char := trimEnd (text.dropWhile isWhitespace)

section Parse

variable (tables : CaseTables)

def parseModifier (part : List Char) : Option KeyModifiers :=
  match String.ofList (tables.toLowercase part) with
  | "leader" => some (KeyModifiers.control.union .shift)
  | "ctrl" | "control" => some .control
  | "shift" => some .shift
  | "alt" | "meta" | "opt" | "option" => some .alt
  | _ => none

def parseKey (keyStr : List Char) : Option KeyCode :=
  match String.ofList (tables.toLowercase keyStr) with
  | "up" => some .up
  | "down" => some .down
  | "left" => some .left
  | "right" => some .right
  | "tab" => some .tab
  | "enter" | "return" => some .enter
  | "esc" | "escape" => some .esc
  | "backspace" => some .backspace
  | "delete" | "del" => some .delete
  | "insert" | "ins" => some .insert
  | "home" => some .home
  | "end" => some .end
  | "pageup" => some .pageUp
  | "pagedown" => some .pageDown
  | _ =>
    match tables.toLowercase keyStr with
    | 'f' :: digit :: rest =>
      (parseUnsigned 10 255 (Parser.encodeText (digit :: rest))).map fun number => .f number.toUInt8
    | _ =>
      match keyStr with
      | [c] => some (.char c)
      | _ => none

/-- The last part that is no modifier is the key. -/
def parseKeybinding (binding : List Char) : Option KeyBinding := do
  let (mods, keyPart) := (binding.splitOn '+').foldl
    (fun (mods, keyPart) part =>
      match parseModifier tables (trim part) with
      | some more => (mods.union more, keyPart)
      | none => (mods, some (trim part)))
    (KeyModifiers.empty, none)
  let code <- parseKey tables (<- keyPart)
  some (mods, code)

def ParsedBindings.fromConfig (keys : KeyBindings) : ParsedBindings := keys.map (parseKeybinding tables)

end Parse

def sameKey : KeyCode -> KeyCode -> Bool
  | .char bc, .char kc => bc.toLower == kc.toLower
  | bound, pressed => bound == pressed

def matchesBinding (key : KeyEvent) (binding : Option KeyBinding) : Bool :=
  binding.any fun (mods, code) => key.modifiers.contains mods && sameKey code key.code

structure ResolveContext where
  inputMode : InputMode
  bindings : ParsedBindings
  daemonMode : Bool
  searchQuery : List Char
  searchDirectionActive : Bool
  forwardBytes : Bytes
  deriving DecidableEq, Repr

namespace ResolveContext

/-- The bindings in the order in which they are tested, each with its command. -/
def tests (ctx : ResolveContext) : List (Option KeyBinding × Command) :=
  [(ctx.bindings.detach, if ctx.daemonMode then .detach else .quit),
    (ctx.bindings.search, .enterSearchMode),
    (ctx.bindings.splitDown, .splitPane .horizontal),
    (ctx.bindings.splitRight, .splitPane .vertical),
    (ctx.bindings.closePane, .closeActivePane),
    (ctx.bindings.focusUp, .focusDirection .up),
    (ctx.bindings.focusDown, .focusDirection .down),
    (ctx.bindings.focusLeft, .focusDirection .left),
    (ctx.bindings.focusRight, .focusDirection .right),
    (ctx.bindings.newTab, .newTab),
    (ctx.bindings.nextTab, .nextTab),
    (ctx.bindings.prevTab, .prevTab),
    (ctx.bindings.closeTab, .closeTab),
    (ctx.bindings.toggleFullscreen, .toggleFullscreen),
    (ctx.bindings.toggleFloat, .toggleFloat),
    (ctx.bindings.scrollUp, .scrollUp 0),
    (ctx.bindings.scrollDown, .scrollDown 0),
    (ctx.bindings.copyMode, .enterCopyMode)]

end ResolveContext

def resolveNormalKey (key : KeyEvent) (ctx : ResolveContext) : Command :=
  match ctx.tests.find? fun test => matchesBinding key test.1 with
  | some (_, command) => command
  | none => .forwardKeyToPty ctx.forwardBytes

def resolveSearchKey (key : KeyEvent) (ctx : ResolveContext) : Command :=
  match key.code with
  | .esc | .enter => .exitSearchMode
  | .backspace => .searchDeleteChar
  | .char c =>
    if c = 'n' ∧ key.modifiers = .empty ∧ ctx.searchQuery ≠ [] ∧ ctx.searchDirectionActive then .searchNextMatch
    else if c = 'N' ∧ key.modifiers.contains .shift ∧ ctx.searchQuery ≠ [] ∧ ctx.searchDirectionActive then
      .searchPrevMatch
    else .searchAppendChar c
  | _ => .exitSearchMode

def resolveCopyKey (key : KeyEvent) : Command :=
  match key.code with
  | .esc | .char 'q' => .exitCopyMode
  | .char 'h' | .left => .copyMove .left
  | .char 'j' | .down => .copyMove .down
  | .char 'k' | .up => .copyMove .up
  | .char 'l' | .right => .copyMove .right
  | .char '0' => .copyMove .startOfLine
  | .char '$' => .copyMove .endOfLine
  | .char 'g' => .copyMove .gotoTop
  | .char 'G' => .copyMove .gotoBottom
  | .char 'u' => if key.modifiers.contains .control then .copyMove .halfPageUp else .exitCopyMode
  | .char 'd' => if key.modifiers.contains .control then .copyMove .halfPageDown else .exitCopyMode
  | .char 'v' => .copyToggleSelection
  | .char 'y' => .copyYank
  | _ => .exitCopyMode

def resolveKeybinding (key : KeyEvent) (ctx : ResolveContext) : Command :=
  match ctx.inputMode with
  | .copy => resolveCopyKey key
  | .search => resolveSearchKey key ctx
  | .normal => resolveNormalKey key ctx

def ResolveContext.Distinct (ctx : ResolveContext) : Prop :=
  (ctx.tests.filterMap Prod.fst).Pairwise fun first second => ¬ (first.1 = second.1 ∧ sameKey first.2 second.2 = true)

def ResolveContext.Resolves (ctx : ResolveContext) (binding : KeyBinding) (command : Command) : Prop :=
  ∀ key : KeyEvent, key.modifiers = binding.1 -> sameKey binding.2 key.code = true -> resolveKeybinding key ctx = command

instance (ctx : ResolveContext) : Decidable ctx.Distinct :=
  inferInstanceAs (Decidable (List.Pairwise _ _))

def KeyCode.folded : KeyCode -> KeyCode
  | .char c => .char c.toLower
  | code => code

theorem sameKey_iff {bound pressed : KeyCode} : sameKey bound pressed = true ↔ bound.folded = pressed.folded := by
  unfold sameKey
  split
  next => simp [KeyCode.folded]
  next notBoth =>
    rw [beq_iff_eq]
    cases bound with
    | char c =>
      cases pressed with
      | char d => exact absurd rfl (notBoth c d rfl)
      | _ => simp [KeyCode.folded]
    | _ => cases pressed <;> simp [KeyCode.folded]

theorem matchesBinding_iff {key : KeyEvent} {binding : KeyBinding} :
    matchesBinding key (some binding) = true ↔
      key.modifiers.contains binding.1 = true ∧ binding.2.folded = key.code.folded := by
  rw [← sameKey_iff]
  simp [matchesBinding]

namespace ResolveContext

variable {ctx : ResolveContext}

theorem commands_distinct : (ctx.tests.map Prod.snd).Nodup := by
  cases daemon : ctx.daemonMode <;> simp [tests, daemon]

theorem tests_inj {i j : Nat} {test other : Option KeyBinding × Command} (at_i : ctx.tests[i]? = some test)
    (at_j : ctx.tests[j]? = some other) (same : test.2 = other.2) : i = j := by
  have commands : (ctx.tests.map Prod.snd)[i]? = (ctx.tests.map Prod.snd)[j]? := by
    rw [List.getElem?_map, List.getElem?_map, at_i, at_j]
    exact congrArg some same
  have within : i < (ctx.tests.map Prod.snd).length := by
    rw [List.length_map]
    exact (List.getElem?_eq_some_iff.mp at_i).1
  exact (List.getElem?_inj within commands_distinct).mp commands

theorem resolveNormalKey_first {key : KeyEvent} {i : Nat} {binding : KeyBinding} {command : Command}
    (at_ : ctx.tests[i]? = some (some binding, command)) (hits : matchesBinding key (some binding) = true) :
    ∃ j ≤ i, ∃ test, ctx.tests[j]? = some test ∧ matchesBinding key test.1 = true ∧ resolveNormalKey key ctx = test.2 ∧
      ∀ k < j, ∀ test, ctx.tests[k]? = some test -> matchesBinding key test.1 = false := by
  cases found : ctx.tests.find? fun test => matchesBinding key test.1 with
  | none => exact absurd hits (List.find?_eq_none.mp found _ (List.mem_of_getElem? at_))
  | some test =>
    obtain ⟨isHit, j, inside, rfl, first⟩ := List.find?_eq_some_iff_getElem.mp found
    have earlier : ∀ k < j, ∀ test, ctx.tests[k]? = some test -> matchesBinding key test.1 = false := by
      intro k before test at_k
      obtain ⟨within, rfl⟩ := List.getElem?_eq_some_iff.mp at_k
      simpa using first k before
    refine ⟨j, ?_, ctx.tests[j], List.getElem?_eq_getElem inside, isHit, by rw [resolveNormalKey, found], earlier⟩
    by_contra late
    rw [earlier i (by omega) _ at_] at hits
    cases hits

theorem resolves_iff (normal : ctx.inputMode = .normal) {i : Nat} {binding : KeyBinding} {command : Command}
    (at_ : ctx.tests[i]? = some (some binding, command)) :
    ctx.Resolves binding command ↔
      ∀ test ∈ ctx.tests.take i, ∀ other ∈ test.1,
        ¬ (sameKey other.2 binding.2 = true ∧ binding.1.contains other.1 = true) := by
  have resolve (key : KeyEvent) : resolveKeybinding key ctx = resolveNormalKey key ctx := by
    rw [resolveKeybinding, normal]
  constructor
  next =>
    rintro resolves ⟨_, command'⟩ isEarlier other rfl ⟨same, contained⟩
    obtain ⟨j, taken⟩ := List.mem_iff_getElem?.mp isEarlier
    have before : j < i := by
      by_contra late
      rw [List.getElem?_take_eq_none (Nat.not_lt.mp late)] at taken
      cases taken
    have at_j : ctx.tests[j]? = some (some other, command') := by rw [← List.getElem?_take_of_lt before, taken]
    have pressed : matchesBinding ⟨binding.2, binding.1⟩ (some binding) = true :=
      matchesBinding_iff.mpr ⟨binding.1.contains_self, rfl⟩
    have shadowed : matchesBinding ⟨binding.2, binding.1⟩ (some other) = true :=
      matchesBinding_iff.mpr ⟨contained, sameKey_iff.mp same⟩
    obtain ⟨k, le, test, at_k, -, command_k, -⟩ := resolveNormalKey_first at_j shadowed
    have is := resolves ⟨binding.2, binding.1⟩ rfl (sameKey_iff.mpr rfl)
    rw [resolve, command_k] at is
    -- The commands of two tests differ.
    have := tests_inj at_k at_ is
    omega
  next =>
    intro unshadowed key mods code
    have pressed : matchesBinding key (some binding) = true :=
      matchesBinding_iff.mpr ⟨mods ▸ key.modifiers.contains_self, sameKey_iff.mp code⟩
    obtain ⟨j, le, ⟨bound, command'⟩, at_j, isHit, command_j, -⟩ := resolveNormalKey_first at_ pressed
    rw [resolve, command_j]
    rcases Nat.eq_or_lt_of_le le with rfl | before
    next => exact (congrArg Prod.snd (Option.some.inj (at_.symm.trans at_j))).symm
    next =>
      cases bound with
      | none => cases isHit
      | some other =>
        obtain ⟨contained, same⟩ := matchesBinding_iff.mp isHit
        have isEarlier : (some other, command') ∈ ctx.tests.take i :=
          List.mem_of_getElem? ((List.getElem?_take_of_lt before).trans at_j)
        refine absurd ⟨sameKey_iff.mpr (same.trans (sameKey_iff.mp code).symm), ?_⟩ (unshadowed _ isEarlier other rfl)
        rw [← mods]
        exact contained

def configured (keys : KeyBindings) : ResolveContext where
  inputMode := .normal
  bindings := .fromConfig CaseTables.latin keys
  daemonMode := false
  searchQuery := []
  searchDirectionActive := false
  forwardBytes := []

theorem resolves_copy_mode :
    (configured .default).Resolves (KeyModifiers.control.union .shift, .char '[') .enterCopyMode :=
  (@resolves_iff (configured .default) rfl 17 (KeyModifiers.control.union .shift, .char '[') .enterCopyMode
    (by decide)).mpr (by decide)

def altBindings : KeyBindings :=
  { KeyBindings.default with nextTab := "Alt+N".toList, closeTab := "Alt+Shift+N".toList }

/-- With the tabs switched by `Alt+N`, a key `Alt+Shift+N` that closes the tab switches it. -/
theorem binding_shadowed :
    (configured altBindings).Distinct ∧
      (some (KeyModifiers.alt.union .shift, KeyCode.char 'N'), Command.closeTab) ∈ (configured altBindings).tests ∧
      resolveKeybinding ⟨.char 'N', KeyModifiers.alt.union .shift⟩ (configured altBindings) = .nextTab ∧
      ¬ ∀ (ctx : ResolveContext) (binding : KeyBinding) (command : Command), ctx.inputMode = .normal -> ctx.Distinct ->
        (some binding, command) ∈ ctx.tests -> ctx.Resolves binding command := by
  have distinct : (configured altBindings).Distinct := by decide
  have bound : (some (KeyModifiers.alt.union .shift, KeyCode.char 'N'), Command.closeTab) ∈
      (configured altBindings).tests := by decide
  have switches : resolveKeybinding ⟨.char 'N', KeyModifiers.alt.union .shift⟩ (configured altBindings) = .nextTab := by
    decide
  refine ⟨distinct, bound, switches, fun all => ?_⟩
  have closes := all (configured altBindings) _ _ rfl distinct bound ⟨.char 'N', KeyModifiers.alt.union .shift⟩ rfl rfl
  exact absurd (switches.symm.trans closes) (by decide)

end ResolveContext

end Emux
