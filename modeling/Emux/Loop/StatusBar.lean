import Mathlib.Algebra.BigOperators.Group.List.Basic
import Emux.Loop.Highlight

set_option autoImplicit false

/-!
# The status bar

Session and tabs stand on the left, notifications, time and host on the right, and blanks fill what
is left between them.
-/

namespace Emux

open Checked

def powerlineRight : Char := '\uE0B0'

def powerlineLeft : Char := '\uE0B2'

structure Segment where
  text : List Char
  fg : CtColor
  bg : CtColor
  bold : Bool := false
  deriving DecidableEq, Repr

structure TabInfo where
  name : List Char
  index : Nat
  hasNotification : Bool
  deriving DecidableEq, Repr

structure StatusBarInfo where
  sessionName : List Char
  tabs : List TabInfo
  activeTab : Nat
  notificationCount : Nat
  hostname : List Char
  powerline : Bool
  deriving DecidableEq, Repr

structure StatusBarTheme where
  barBg : CtColor
  sessionFg : CtColor
  sessionBg : CtColor
  activeTabFg : CtColor
  activeTabBg : CtColor
  inactiveTabFg : CtColor
  inactiveTabBg : CtColor
  notifyTabFg : CtColor
  right1Bg : CtColor
  right2Fg : CtColor
  right2Bg : CtColor
  right3Fg : CtColor
  right3Bg : CtColor
  deriving DecidableEq, Repr

def StatusBarTheme.default : StatusBarTheme where
  barBg := .rgb 0x08 0x08 0x08
  sessionFg := .rgb 0x08 0x08 0x08
  sessionBg := .rgb 0xFF 0xFF 0x00
  activeTabFg := .rgb 0x08 0x08 0x08
  activeTabBg := .rgb 0x00 0xAF 0xFF
  inactiveTabFg := .rgb 0x8A 0x8A 0x8A
  inactiveTabBg := .rgb 0x08 0x08 0x08
  notifyTabFg := .rgb 0xFF 0xFF 0x00
  right1Bg := .rgb 0x08 0x08 0x08
  right2Fg := .rgb 0xE4 0xE4 0xE4
  right2Bg := .rgb 0xD7 0x00 0x00
  right3Fg := .rgb 0x08 0x08 0x08
  right3Bg := .rgb 0xE4 0xE4 0xE4

def charColumns (c : Char) : Nat :=
  let cp := c.toNat
  if cp < 0x80 then 1
  else if inRange 0x1100 0x115F cp || inRange 0x2E80 0x303E cp || inRange 0x3040 0x33BF cp ||
      inRange 0x3400 0x4DBF cp || inRange 0x4E00 0x9FFF cp || inRange 0xAC00 0xD7AF cp || inRange 0xF900 0xFAFF cp ||
      inRange 0xFE30 0xFE6F cp || inRange 0xFF01 0xFF60 cp || inRange 0x1F000 0x1FFFF cp ||
      inRange 0x20000 0x2FFFF cp then 2
  else 1

def displayWidth (s : List Char) : Nat := (s.map charColumns).sum

def digits (n : Nat) : List Char := Nat.toDigits 10 n

/-- The indices of tabs are `usize`. -/
def tabSegment (info : StatusBarInfo) (theme : StatusBarTheme) (tab : TabInfo) : Fallible Segment := do
  let isActive := tab.index == info.activeTab
  let (fg, bg) :=
    if isActive then (theme.activeTabFg, theme.activeTabBg)
    else if tab.hasNotification then (theme.notifyTabFg, theme.inactiveTabBg)
    else (theme.inactiveTabFg, theme.inactiveTabBg)
  let marker := if tab.hasNotification then ['●'] else []
  let number <- add (2 ^ 64) tab.index 1
  .ok { text := [' '] ++ digits number ++ marker ++ [' '] ++ tab.name ++ [' '], fg, bg, bold := isActive }

def leftSegments (info : StatusBarInfo) (theme : StatusBarTheme) : Fallible (List Segment) := do
  let session : Segment :=
    { text := [' ', '❐', ' '] ++ info.sessionName ++ [' '], fg := theme.sessionFg, bg := theme.sessionBg, bold := true }
  let tabs <- info.tabs.mapM (tabSegment info theme)
  .ok (session :: tabs)

def rightSegments (info : StatusBarInfo) (theme : StatusBarTheme) (now : List Char) : List Segment :=
  (if 0 < info.notificationCount then
    [{ text := [' ', '!'] ++ digits info.notificationCount ++ [' '], fg := theme.notifyTabFg, bg := theme.right1Bg }]
  else []) ++
  [{ text := [' '] ++ now ++ [' '], fg := theme.right2Fg, bg := theme.right2Bg },
    { text := [' '] ++ info.hostname ++ [' '], fg := theme.right3Fg, bg := theme.right3Bg, bold := true }]

def Segment.span (seg : Segment) : ContentStyle × List Char :=
  ({ foregroundColor := some seg.fg, backgroundColor := some seg.bg, attributes := if seg.bold then [.bold] else [] },
    seg.text)

def separator (fg bg : CtColor) (c : Char) : ContentStyle × List Char :=
  ({ foregroundColor := some fg, backgroundColor := some bg }, [c])

def leftSpans (powerline : Bool) (barBg : CtColor) : List Segment -> List (ContentStyle × List Char)
  | [] => []
  | seg :: rest =>
    let nextBg := (rest.head?.map Segment.bg).getD barBg
    seg.span :: (if powerline then [separator seg.bg nextBg powerlineRight] else []) ++ leftSpans powerline barBg rest

def rightSpans (powerline : Bool) : CtColor -> List Segment -> List (ContentStyle × List Char)
  | _, [] => []
  | prevBg, seg :: rest =>
    (if powerline then [separator seg.bg prevBg powerlineLeft] else []) ++ seg.span :: rightSpans powerline seg.bg rest

def segmentsWidth (powerline : Bool) (segments : List Segment) : Nat :=
  (segments.map fun seg => displayWidth seg.text).sum + if powerline then segments.length else 0

def assembleBar (left right : List Segment) (theme : StatusBarTheme) (width : Nat) (powerline : Bool) :
    List (ContentStyle × List Char) :=
  let fill := width - (segmentsWidth powerline left + segmentsWidth powerline right)
  let middle :=
    if 0 < fill then
      [({ foregroundColor := some theme.barBg, backgroundColor := some theme.barBg }, List.replicate fill ' ')]
    else []
  leftSpans powerline theme.barBg left ++ middle ++ rightSpans powerline theme.barBg right

def renderStatusbar (info : StatusBarInfo) (theme : StatusBarTheme) (now : List Char) (width : Nat) :
    Fallible (List (ContentStyle × List Char)) := do
  let left <- leftSegments info theme
  .ok (assembleBar left (rightSegments info theme now) theme width info.powerline)

def barWidth (spans : List (ContentStyle × List Char)) : Nat := (spans.map fun span => displayWidth span.2).sum

@[simp] theorem displayWidth_append (first second : List Char) :
    displayWidth (first ++ second) = displayWidth first + displayWidth second := Spans.width_append charColumns first second

@[simp] theorem displayWidth_nil : displayWidth [] = 0 := rfl

@[simp] theorem displayWidth_cons (c : Char) (text : List Char) :
    displayWidth (c :: text) = charColumns c + displayWidth text := Spans.width_cons charColumns c text

@[simp] theorem barWidth_append (first second : List (ContentStyle × List Char)) :
    barWidth (first ++ second) = barWidth first + barWidth second := Spans.width_append _ first second

@[simp] theorem barWidth_cons (span : ContentStyle × List Char) (rest : List (ContentStyle × List Char)) :
    barWidth (span :: rest) = displayWidth span.2 + barWidth rest := Spans.width_cons _ span rest

theorem displayWidth_narrow {text : List Char} (narrow : ∀ c ∈ text, charColumns c = 1) : displayWidth text = text.length := by
  rw [displayWidth, List.map_congr_left narrow, List.map_const', List.sum_replicate]
  simp

theorem displayWidth_digits (n : Nat) : displayWidth (digits n) = (digits n).length := by
  refine displayWidth_narrow fun c member => ?_
  have range := toDigits_range member
  rw [charColumns, if_pos (by omega)]

theorem segmentsWidth_cons (powerline : Bool) (seg : Segment) (rest : List Segment) :
    segmentsWidth powerline (seg :: rest) =
      displayWidth seg.text + (if powerline then 1 else 0) + segmentsWidth powerline rest := by
  cases powerline with
  | false => simp [segmentsWidth]
  | true =>
    simp only [segmentsWidth, List.map_cons, List.sum_cons, List.length_cons, if_true]
    omega

theorem barWidth_separator (powerline : Bool) (fg bg : CtColor) {c : Char} (narrow : charColumns c = 1) :
    barWidth (if powerline then [separator fg bg c] else []) = if powerline then 1 else 0 := by
  cases powerline <;> simp [barWidth, separator, displayWidth, narrow]

theorem barWidth_leftSpans (powerline : Bool) (barBg : CtColor) (segments : List Segment) :
    barWidth (leftSpans powerline barBg segments) = segmentsWidth powerline segments := by
  induction segments with
  | nil => cases powerline <;> rfl
  | cons seg rest ih =>
    rw [leftSpans, List.cons_append, barWidth_cons, barWidth_append, barWidth_separator powerline _ _ (by decide), ih,
      segmentsWidth_cons, Nat.add_assoc]
    rfl

theorem barWidth_rightSpans (powerline : Bool) (prevBg : CtColor) (segments : List Segment) :
    barWidth (rightSpans powerline prevBg segments) = segmentsWidth powerline segments := by
  induction segments generalizing prevBg with
  | nil => cases powerline <;> rfl
  | cons seg rest ih =>
    rw [rightSpans, barWidth_append, barWidth_separator powerline _ _ (by decide), barWidth_cons, ih, segmentsWidth_cons]
    exact Nat.add_left_comm _ _ _ |>.trans (Nat.add_assoc _ _ _).symm

theorem barWidth_assembleBar (left right : List Segment) (theme : StatusBarTheme) (width : Nat) (powerline : Bool) :
    barWidth (assembleBar left right theme width powerline) =
      max width (segmentsWidth powerline left + segmentsWidth powerline right) := by
  have blanks (count : Nat) : displayWidth (List.replicate count ' ') = count :=
    Spans.width_replicate charColumns (by decide) count
  rw [assembleBar, barWidth_append, barWidth_append, barWidth_leftSpans, barWidth_rightSpans]
  split
  next => rw [barWidth_cons, blanks, show barWidth [] = 0 from rfl]; omega
  next => rw [show barWidth [] = 0 from rfl]; omega

def TabInfo.columns (tab : TabInfo) : Nat :=
  3 + (digits (tab.index + 1)).length + (if tab.hasNotification then 1 else 0) + displayWidth tab.name

def TabInfo.Numbered (tab : TabInfo) : Prop := tab.index + 1 < 2 ^ 64

theorem tabSegment_ok (info : StatusBarInfo) (theme : StatusBarTheme) {tab : TabInfo} (numbered : tab.Numbered) :
    ∃ seg, tabSegment info theme tab = .ok seg ∧ displayWidth seg.text = tab.columns := by
  simp only [tabSegment, add_ok numbered, ok_bind]
  refine ⟨_, rfl, ?_⟩
  have blank : displayWidth [' '] = 1 := by decide
  have marker : displayWidth (if tab.hasNotification = true then ['●'] else []) = if tab.hasNotification then 1 else 0 := by
    split <;> decide
  simp only [displayWidth_append, displayWidth_digits, blank, marker, TabInfo.columns]
  omega

theorem tabSegment_numbered {info : StatusBarInfo} {theme : StatusBarTheme} {tab : TabInfo} {seg : Segment}
    (built : tabSegment info theme tab = .ok seg) : tab.Numbered := by
  obtain ⟨number, counted, -⟩ := (bind_ok_iff _ _ _).mp built
  by_contra high
  have overflows : add (2 ^ 64) tab.index 1 = .error .arithmetic := if_neg high
  rw [overflows] at counted
  cases counted

theorem tabSegments_ok (info : StatusBarInfo) (theme : StatusBarTheme) {tabs : List TabInfo}
    (numbered : ∀ tab ∈ tabs, tab.Numbered) :
    ∃ segments, tabs.mapM (tabSegment info theme) = .ok segments ∧ segments.length = tabs.length ∧
      (segments.map fun seg => displayWidth seg.text).sum = (tabs.map TabInfo.columns).sum := by
  induction tabs with
  | nil => exact ⟨[], rfl, rfl, rfl⟩
  | cons tab rest ih =>
    obtain ⟨here, later⟩ := List.forall_mem_cons.mp numbered
    obtain ⟨seg, built, columns⟩ := tabSegment_ok info theme here
    obtain ⟨segments, others, length, sum⟩ := ih later
    refine ⟨seg :: segments, ?_, by rw [List.length_cons, length, List.length_cons], ?_⟩
    next => rw [List.mapM_cons, built, ok_bind, others]; rfl
    next => rw [List.map_cons, List.sum_cons, columns, sum, List.map_cons, List.sum_cons]

theorem tabSegments_numbered {info : StatusBarInfo} {theme : StatusBarTheme} {tabs : List TabInfo} {segments : List Segment}
    (built : tabs.mapM (tabSegment info theme) = .ok segments) : ∀ tab ∈ tabs, tab.Numbered := by
  induction tabs generalizing segments with
  | nil => simp
  | cons tab rest ih =>
    rw [List.mapM_cons] at built
    obtain ⟨seg, first, built⟩ := (bind_ok_iff _ _ _).mp built
    obtain ⟨others, later, -⟩ := (bind_ok_iff _ _ _).mp built
    exact List.forall_mem_cons.mpr ⟨tabSegment_numbered first, ih later⟩

namespace StatusBarInfo

def leftColumns (info : StatusBarInfo) : Nat :=
  4 + displayWidth info.sessionName + (info.tabs.map TabInfo.columns).sum +
    if info.powerline then info.tabs.length + 1 else 0

def rightColumns (info : StatusBarInfo) (now : List Char) : Nat :=
  (if 0 < info.notificationCount then 3 + (digits info.notificationCount).length + if info.powerline then 1 else 0 else 0) +
    (2 + displayWidth now) + (2 + displayWidth info.hostname) + if info.powerline then 2 else 0

end StatusBarInfo

theorem leftSegments_ok {info : StatusBarInfo} (theme : StatusBarTheme) (numbered : ∀ tab ∈ info.tabs, tab.Numbered) :
    ∃ segments, leftSegments info theme = .ok segments ∧ segmentsWidth info.powerline segments = info.leftColumns := by
  obtain ⟨tabs, built, length, sum⟩ := tabSegments_ok info theme numbered
  refine ⟨_, by rw [leftSegments, built, ok_bind], ?_⟩
  have front : displayWidth [' ', '❐', ' '] = 3 := by decide
  have back : displayWidth [' '] = 1 := by decide
  simp only [segmentsWidth, StatusBarInfo.leftColumns, List.map_cons, List.sum_cons, List.length_cons, displayWidth_append,
    front, back, length, sum]
  omega

theorem rightSegments_width (info : StatusBarInfo) (theme : StatusBarTheme) (now : List Char) :
    segmentsWidth info.powerline (rightSegments info theme now) = info.rightColumns now := by
  have blank : charColumns ' ' = 1 := by decide
  have mark : charColumns '!' = 1 := by decide
  have last (fg bg : CtColor) (text : List Char) (bold : Bool) (rest : List Segment) :
      segmentsWidth info.powerline ({ text := [' '] ++ text ++ [' '], fg, bg, bold } :: rest) =
        2 + displayWidth text + (if info.powerline then 1 else 0) + segmentsWidth info.powerline rest := by
    rw [segmentsWidth_cons, displayWidth_append, displayWidth_append, displayWidth_cons, displayWidth_nil, blank]
    omega
  have none : segmentsWidth info.powerline [] = 0 := by cases info.powerline <;> rfl
  unfold rightSegments StatusBarInfo.rightColumns
  split
  next some =>
    rw [List.singleton_append, segmentsWidth_cons, last, last, none, displayWidth_append, displayWidth_append,
      displayWidth_cons, displayWidth_cons, displayWidth_cons, displayWidth_nil, displayWidth_digits, blank, mark]
    split <;> omega
  next =>
    rw [List.nil_append, last, last, none]
    split <;> omega

theorem statusbar_width_iff (info : StatusBarInfo) (theme : StatusBarTheme) (now : List Char) (width : Nat) :
    (∃ spans, renderStatusbar info theme now width = .ok spans ∧ barWidth spans = width) ↔
      (∀ tab ∈ info.tabs, tab.Numbered) ∧ info.leftColumns + info.rightColumns now ≤ width := by
  constructor
  next =>
    rintro ⟨spans, rendered, columnsAre⟩
    have numbered : ∀ tab ∈ info.tabs, tab.Numbered := by
      obtain ⟨left, built, -⟩ := (bind_ok_iff _ _ _).mp rendered
      obtain ⟨tabs, mapped, -⟩ := (bind_ok_iff _ _ _).mp built
      exact tabSegments_numbered mapped
    obtain ⟨left, built, columns⟩ := leftSegments_ok theme numbered
    rw [renderStatusbar, built, ok_bind] at rendered
    obtain rfl := Except.ok.inj rendered
    rw [barWidth_assembleBar, columns, rightSegments_width] at columnsAre
    exact ⟨numbered, by omega⟩
  next =>
    rintro ⟨numbered, fits⟩
    obtain ⟨left, built, columns⟩ := leftSegments_ok theme numbered
    refine ⟨_, by rw [renderStatusbar, built, ok_bind], ?_⟩
    rw [barWidth_assembleBar, columns, rightSegments_width]
    omega

def shellInfo : StatusBarInfo where
  sessionName := ['m', 'a', 'i', 'n']
  tabs := [{ name := ['T', 'a', 'b', ' ', '1'], index := 0, hasNotification := false }]
  activeTab := 0
  notificationCount := 0
  hostname := ['h', 'o', 's', 't']
  powerline := false

/-- A new session takes 30 columns of a bar of 20. -/
theorem statusbar_spills :
    (¬ ∀ info now width, ∃ spans, renderStatusbar info .default now width = .ok spans ∧ barWidth spans = width) ∧
      (renderStatusbar shellInfo .default ['1', '2', ':', '0', '0'] 20).map barWidth = .ok 30 := by
  have wide : (renderStatusbar shellInfo .default ['1', '2', ':', '0', '0'] 20).map barWidth = .ok 30 := by decide
  refine ⟨fun all => ?_, wide⟩
  obtain ⟨spans, rendered, columnsAre⟩ := all shellInfo ['1', '2', ':', '0', '0'] 20
  rw [rendered] at wide
  have thirty : barWidth spans = 30 := Except.ok.inj wide
  omega

end Emux
