import Emux.Term.Effects

set_option autoImplicit false

/-!
# Moves along one axis

CHA, HPA and VPA hand the other coordinate of the cursor to the routine for both, which takes it as relative to the
margins in origin mode.
-/

namespace Emux

namespace Screen

def charAbsolute : Byte := 0x47

def horizontalPosition : Byte := 0x60

def verticalPosition : Byte := 0x64

def columnFor (s : Screen) (n : Nat) : Nat :=
  if s.modes.origin then min (s.scrollLeft + (n - 1)) (s.scrollRight - 1) else min (n - 1) (s.cols - 1)

def rowFor (s : Screen) (n : Nat) : Nat :=
  if s.modes.origin then min (s.scrollTop + (n - 1)) (s.scrollBottom - 1) else min (n - 1) (s.rows - 1)

theorem cursorPosition_eq (s : Screen) (row col : Nat) :
    s.cursorPosition row col = s.moveTo (s.rowFor row) (s.columnFor col) := by
  unfold cursorPosition rowFor columnFor
  split <;> rfl

def MovesAlongRow (s : Screen) (params : Params) (intermediates : List Byte) (action : Byte) : Prop :=
  ∃ after, s.perform (.csiDispatch params intermediates false action) = .ok after ∧
    after.cursor.row = s.cursor.row ∧ after.cursor.col = s.columnFor (params.getOr 0 1)

def MovesAlongColumn (s : Screen) (params : Params) (intermediates : List Byte) (action : Byte) : Prop :=
  ∃ after, s.perform (.csiDispatch params intermediates false action) = .ok after ∧
    after.cursor.col = s.cursor.col ∧ after.cursor.row = s.rowFor (params.getOr 0 1)

variable {s : Screen} (params : Params) (intermediates : List Byte)

theorem movesAlongRow_iff {action : Byte} {row : Nat}
    (moved : s.perform (.csiDispatch params intermediates false action) =
      .ok (s.moveTo row (s.columnFor (params.getOr 0 1)))) :
    s.MovesAlongRow params intermediates action ↔ row = s.cursor.row := by
  unfold MovesAlongRow
  rw [moved]
  constructor
  next =>
    rintro ⟨after, same, kept, -⟩
    obtain rfl := Except.ok.inj same
    exact kept
  next => exact fun kept => ⟨_, rfl, kept, rfl⟩

theorem movesAlongColumn_iff {action : Byte} {col : Nat}
    (moved : s.perform (.csiDispatch params intermediates false action) =
      .ok (s.moveTo (s.rowFor (params.getOr 0 1)) col)) :
    s.MovesAlongColumn params intermediates action ↔ col = s.cursor.col := by
  unfold MovesAlongColumn
  rw [moved]
  constructor
  next =>
    rintro ⟨after, same, kept, -⟩
    obtain rfl := Except.ok.inj same
    exact kept
  next => exact fun kept => ⟨_, rfl, kept, rfl⟩

theorem perform_charAbsolute : s.perform (.csiDispatch params intermediates false charAbsolute) =
    .ok (s.moveTo (s.rowFor (s.cursor.row + 1)) (s.columnFor (params.getOr 0 1))) := by
  rw [← cursorPosition_eq]
  rfl

theorem perform_horizontalPosition : s.perform (.csiDispatch params intermediates false horizontalPosition) =
    .ok (s.moveTo (s.rowFor (s.cursor.row + 1)) (s.columnFor (params.getOr 0 1))) := by
  rw [← cursorPosition_eq]
  rfl

theorem perform_verticalPosition : s.perform (.csiDispatch params intermediates false verticalPosition) =
    .ok (s.moveTo (s.rowFor (params.getOr 0 1)) (s.columnFor (s.cursor.col + 1))) := by
  rw [← cursorPosition_eq]
  rfl

theorem rowFor_current (framed : s.Framed) (inside : s.scrollTop ≤ s.cursor.row ∧ s.cursor.row < s.scrollBottom) :
    s.rowFor (s.cursor.row + 1) = s.cursor.row ↔
      (s.modes.origin = true -> s.scrollTop = 0 ∨ s.cursor.row + 1 = s.scrollBottom) := by
  have fits := framed.regionFits
  unfold rowFor rows
  split
  next origin => simp only [origin, forall_const]; omega
  next plain => exact ⟨fun _ origin => absurd origin plain, fun _ => by omega⟩

theorem columnFor_current (framed : s.Framed) (inside : s.scrollLeft ≤ s.cursor.col ∧ s.cursor.col < s.scrollRight) :
    s.columnFor (s.cursor.col + 1) = s.cursor.col ↔
      (s.modes.origin = true -> s.scrollLeft = 0 ∨ s.cursor.col + 1 = s.scrollRight) := by
  have fits := framed.marginFits
  unfold columnFor cols
  split
  next origin => simp only [origin, forall_const]; omega
  next plain => exact ⟨fun _ origin => absurd origin plain, fun _ => by omega⟩

theorem singleAxis_iff (framed : s.Framed) (row : s.scrollTop ≤ s.cursor.row ∧ s.cursor.row < s.scrollBottom)
    (col : s.scrollLeft ≤ s.cursor.col ∧ s.cursor.col < s.scrollRight) :
    (s.MovesAlongRow params intermediates charAbsolute ↔
      (s.modes.origin = true -> s.scrollTop = 0 ∨ s.cursor.row + 1 = s.scrollBottom)) ∧
    (s.MovesAlongRow params intermediates horizontalPosition ↔
      (s.modes.origin = true -> s.scrollTop = 0 ∨ s.cursor.row + 1 = s.scrollBottom)) ∧
    (s.MovesAlongColumn params intermediates verticalPosition ↔
      (s.modes.origin = true -> s.scrollLeft = 0 ∨ s.cursor.col + 1 = s.scrollRight)) := by
  have rows := rowFor_current framed row
  have cols := columnFor_current framed col
  exact ⟨(movesAlongRow_iff params intermediates (perform_charAbsolute params intermediates)).trans rows,
    (movesAlongRow_iff params intermediates (perform_horizontalPosition params intermediates)).trans rows,
    (movesAlongColumn_iff params intermediates (perform_verticalPosition params intermediates)).trans cols⟩

def inRegion : Screen :=
  { new 3 5 with modes := { origin := true }, scrollTop := 1, scrollBottom := 4, cursor := { row := 1, col := 2 } }

theorem framed_inRegion : inRegion.Framed :=
  ⟨Grid.sized_new 3 5, Grid.sized_new 3 5, rfl, rfl, by decide, by decide, by decide, by decide, by decide, by decide, rfl⟩

theorem singleAxis_iff_region :
    inRegion.MovesAlongColumn {} [] verticalPosition ↔
      (inRegion.modes.origin = true -> inRegion.scrollLeft = 0 ∨ inRegion.cursor.col + 1 = inRegion.scrollRight) :=
  (singleAxis_iff {} [] framed_inRegion (by decide) (by decide)).2.2

/-- CHA moves the cursor down by the top margin. -/
theorem charAbsolute_leaves_row : ¬inRegion.MovesAlongRow {} [] charAbsolute := by
  rw [movesAlongRow_iff {} [] (perform_charAbsolute {} [])]
  decide

end Screen

end Emux
