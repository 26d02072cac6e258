import Emux.Loop.Highlight
import Emux.Term.Search

set_option autoImplicit false

/-!
# Searching a screen

The matches of a search are kept with the rows of history and grid they are in; some of these rows
are on display.
-/

namespace Emux

open Checked

/-- `trim_end_matches(' ')` -/
def trimSpaces (text : List Char) : List Char := text.rdropWhile fun c => c == ' '

def Grid.rowText (g : Grid) (row : Nat) : Fallible (List Char) := do
  let text <- g.rowTextFull row
  .ok (trimSpaces text)

def Grid.scrollbackRowText (g : Grid) (index : Nat) : List Char := trimSpaces (g.scrollbackRowTextFull index)

def allRowTexts (s : Screen) : Fallible (List (List Char)) := do
  let shown <- (List.range s.rows).mapM s.grid.rowText
  .ok ((List.range s.grid.scrollbackLen).map s.grid.scrollbackRowText ++ shown)

structure SearchState where
  query : List Char
  found : List SearchMatch
  current : Option Nat
  caseSensitive : Bool
  regex : Bool
  deriving DecidableEq, Repr

structure ScreenSearcher where
  state : Option SearchState := none
  deriving DecidableEq, Repr

namespace ScreenSearcher

def firstBelow (sbLen : Nat) (found : List SearchMatch) : Option Nat :=
  if found.isEmpty then none else (found.findIdx? fun hit => sbLen ≤ hit.row).or (some 0)

def searchForward (tables : CaseTables) (s : Screen) (query : List Char) (caseSensitive : Bool) :
    Fallible (List SearchMatch × ScreenSearcher) := do
  let texts <- allRowTexts s
  let found <- findAllMatches tables texts query caseSensitive
  let current := firstBelow s.grid.scrollbackLen found
  .ok (found, { state := some { query, found, current, caseSensitive, regex := false } })

def visibleMatches (searcher : ScreenSearcher) (s : Screen) : List SearchMatch :=
  match searcher.state with
  | none => []
  | some state =>
    let sbLen := s.grid.scrollbackLen
    let vpStart := sbLen
    let vpEnd := sbLen + s.rows
    state.found.filter fun hit => vpStart ≤ hit.row && hit.row < vpEnd

def found (searcher : ScreenSearcher) : List SearchMatch := (searcher.state.map SearchState.found).getD []

end ScreenSearcher

/-- The row of history and grid with this number is what `viewport_row` shows in some row of the screen. -/
def Screen.Displays (s : Screen) (absRow : Nat) : Prop :=
  ∃ r < s.rows, s.absRow r = absRow ∧ ∃ row, s.grid.allRows[absRow]? = some row ∧ s.viewportRow r = .ok row

theorem displays_iff {s : Screen} (filled : s.grid.Filled) {absRow : Nat} :
    s.Displays absRow ↔ 0 < s.rows ∧
      (absRow = s.grid.scrollbackLen - s.viewportOffset ∨
        s.grid.scrollbackLen ≤ absRow + s.viewportOffset ∧
          absRow + s.viewportOffset < s.grid.scrollbackLen + s.rows) := by
  constructor
  next =>
    rintro ⟨r, inside, rfl, -⟩
    rw [Screen.absRow]
    omega
  next =>
    rintro ⟨some, top | range⟩
    next =>
      have number : s.absRow 0 = absRow := by
        rw [Screen.absRow]
        omega
      exact ⟨0, some, number, number ▸ viewportRow_absRow filled some⟩
    next =>
      have inside : absRow + s.viewportOffset - s.grid.scrollbackLen < s.rows := by omega
      have number : s.absRow (absRow + s.viewportOffset - s.grid.scrollbackLen) = absRow := by
        rw [Screen.absRow]
        omega
      have shown := viewportRow_absRow filled inside
      rw [number] at shown
      exact ⟨_, inside, number, shown⟩

namespace ScreenSearcher

def ShowsExactly (searcher : ScreenSearcher) (s : Screen) : Prop :=
  ∀ hit, hit ∈ searcher.visibleMatches s ↔ hit ∈ searcher.found ∧ s.Displays hit.row

theorem mem_visibleMatches {searcher : ScreenSearcher} {s : Screen} {hit : SearchMatch} :
    hit ∈ searcher.visibleMatches s ↔
      hit ∈ searcher.found ∧ s.grid.scrollbackLen ≤ hit.row ∧ hit.row < s.grid.scrollbackLen + s.rows := by
  obtain ⟨_ | state⟩ := searcher
  next => simp [visibleMatches, found]
  next => simp [visibleMatches, found]

theorem visible_matches_iff (searcher : ScreenSearcher) {s : Screen} (filled : s.grid.Filled) :
    searcher.ShowsExactly s ↔ s.rows = 0 ∨ ∀ hit ∈ searcher.found,
      (hit.row < s.grid.scrollbackLen -> hit.row ≠ s.grid.scrollbackLen - s.viewportOffset ∧
        (hit.row + s.viewportOffset < s.grid.scrollbackLen ∨
          s.grid.scrollbackLen + s.rows ≤ hit.row + s.viewportOffset)) ∧
      (s.grid.scrollbackLen ≤ hit.row -> hit.row < s.grid.scrollbackLen + s.rows ->
        hit.row = s.grid.scrollbackLen - s.viewportOffset ∨
          hit.row + s.viewportOffset < s.grid.scrollbackLen + s.rows) := by
  have each : ∀ hit, (hit ∈ searcher.visibleMatches s ↔ hit ∈ searcher.found ∧ s.Displays hit.row) ↔
      (hit ∈ searcher.found -> (s.grid.scrollbackLen ≤ hit.row ∧ hit.row < s.grid.scrollbackLen + s.rows ↔
        s.Displays hit.row)) := by
    intro hit
    rw [mem_visibleMatches]
    exact and_congr_right_iff
  rw [ShowsExactly, forall_congr' each]
  rcases Nat.eq_zero_or_pos s.rows with none | some
  next =>
    refine iff_of_true (fun hit _ => ?_) (Or.inl none)
    rw [displays_iff filled]
    omega
  next =>
    rw [or_iff_right (by omega)]
    refine forall₂_congr fun hit _ => ?_
    rw [displays_iff filled]
    omega

theorem visible_matches_bottom (searcher : ScreenSearcher) {s : Screen} (filled : s.grid.Filled)
    (bottom : s.viewportOffset = 0) : searcher.ShowsExactly s := by
  refine (searcher.visible_matches_iff filled).mpr (Or.inr fun hit _ => ?_)
  omega

def threeRows (viewportOffset : Nat) : Screen :=
  let row (c : Char) : Row := { cells := [{ Cell.blank with c }] }
  { Screen.new 1 2 with
    grid := { Grid.new 1 2 with scrollback := [row 'a'], lines := [row 'b', row 'c'], scrollbackLimit := 10 }
    viewportOffset }

def searched (query : List Char) (s : Screen) : Fallible ScreenSearcher := do
  let (_, searcher) <- searchForward CaseTables.latin s query true
  .ok searcher

theorem visible_matches_middle :
    ∃ searcher, searched ['b'] (threeRows 1) = .ok searcher ∧ searcher.ShowsExactly (threeRows 1) :=
  ⟨{ state := some { query := ['b'], found := [⟨1, 0, 1⟩], current := some 0, caseSensitive := true, regex := false } },
    by decide, (visible_matches_iff _ ⟨rfl, by decide⟩).mpr (Or.inr (by decide))⟩

/-- Scrolled back by one row, the match on display is left out, and the match below the display is not. -/
theorem visible_matches_ignore_scroll :
    (¬ ∀ (query : List Char) (s : Screen), Ensures AnyPanic (searched query s) fun searcher => searcher.ShowsExactly s) ∧
      (searched ['a'] (threeRows 1)).map (fun searcher => searcher.visibleMatches (threeRows 1)) = .ok [] ∧
      (searched ['c'] (threeRows 1)).map (fun searcher => searcher.visibleMatches (threeRows 1)) = .ok [⟨2, 0, 1⟩] := by
  refine ⟨fun all => ?_, by decide, by decide⟩
  have ran : searched ['a'] (threeRows 1) = .ok
      { state := some { query := ['a'], found := [⟨0, 0, 1⟩], current := some 0, caseSensitive := true, regex := false } } := by
    decide
  have shown := (all ['a'] (threeRows 1)).of_ok ran ⟨0, 0, 1⟩
  have displayed : (threeRows 1).Displays 0 := ⟨0, by decide, by decide, _, rfl, rfl⟩
  exact absurd (shown.mpr ⟨by decide, displayed⟩) (by decide)

end ScreenSearcher

end Emux
