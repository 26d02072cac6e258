import Emux.Term.PaneSize

set_option autoImplicit false

/-!
# The size of a screen under output

Output changes neither the rows of a screen nor, unless DECCOLM is allowed, its columns. The inactive buffer has
the size of the active one.
-/

namespace Emux

open Checked

namespace Screen

structure HasSize (s : Screen) (cols rows : Nat) : Prop where
  grid : s.grid.cols = cols ∧ s.grid.rows = rows
  altGrid : s.altGrid.cols = cols ∧ s.altGrid.rows = rows

namespace HasSize

variable {s s' : Screen} {cols rows : Nat}

theorem new (cols rows : Nat) : (Screen.new cols rows).HasSize cols rows := ⟨⟨rfl, rfl⟩, ⟨rfl, rfl⟩⟩

theorem same (size : s.HasSize cols rows) (grid : s'.grid = s.grid) (altGrid : s'.altGrid = s.altGrid) :
    s'.HasSize cols rows := ⟨grid ▸ size.grid, altGrid ▸ size.altGrid⟩

theorem swap (size : s.HasSize cols rows) (grid : s'.grid = s.altGrid) (altGrid : s'.altGrid = s.grid) :
    s'.HasSize cols rows := ⟨grid ▸ size.altGrid, altGrid ▸ size.grid⟩

theorem edited (size : s.HasSize cols rows) (extent : s.grid.SameExtent s'.grid) (altGrid : s'.altGrid = s.altGrid) :
    s'.HasSize cols rows :=
  ⟨⟨extent.cols.trans size.grid.1, extent.rows.trans size.grid.2⟩, altGrid ▸ size.altGrid⟩

theorem resizedTo (s : Screen) (newCols newRows row : Nat) : (s.resizedTo newCols newRows row).HasSize newCols newRows :=
  ⟨⟨Grid.resized_cols .., Grid.resized_rows ..⟩, ⟨Grid.resized_cols .., Grid.resized_rows ..⟩⟩

theorem leaveAltScreen (size : s.HasSize cols rows) (restore : Bool) : (s.leaveAltScreen restore).HasSize cols rows := by
  unfold Screen.leaveAltScreen
  split
  next =>
    cases restore with
    | false => exact size.swap rfl rfl
    | true => exact size.swap (restoreCursor_quiet _).grid (restoreCursor_quiet _).altGrid
  next => exact size

end HasSize

theorem resize_hasSize (s : Screen) (newCols newRows : Nat) :
    Ensures AnyPanic (s.resize newCols newRows) fun s' => s'.HasSize newCols newRows :=
  ((s.resize_cases newCols newRows).allow fun _ _ => trivial).weaken fun _ resized => by
    obtain ⟨row, rfl⟩ := resized
    exact .resizedTo s newCols newRows row

end Screen

open Screen

def Op.colsAfter (op : Op) (s : Screen) (cols : Nat) : Nat :=
  match op with
  | .deccolm enable => if s.modes.allowDeccolm then deccolmCols enable else cols
  | _ => cols

theorem Op.hasSize (op : Op) {s : Screen} {cols rows : Nat} (guest : op.isResize = false) (size : s.HasSize cols rows) :
    Ensures AnyPanic (op.exec s) fun s' => s'.HasSize (op.colsAfter s cols) rows := by
  cases op with
  | resize => cases guest
  | update u => exact size.same (u.quiet s).grid (u.quiet s).altGrid
  | decaln =>
    refine (eachCell_rewritten s ..).bind fun t edited => ?_
    exact size.edited edited.extent edited.altGrid
  | enterAltScreen save =>
    refine .ite (fun _ => size) fun _ => ?_
    refine (onGrid_rewritten _ (Grid.clearRows_rewrites ..)).bind fun t edited => ?_
    cases save <;> exact (size.swap rfl rfl).edited edited.extent edited.altGrid
  | leaveAltScreen restore =>
    exact size.leaveAltScreen restore
  | reset =>
    obtain ⟨rfl, rfl⟩ := size.grid
    exact .new _ _
  | deccolm enable =>
    refine .ite (fun allowed => ?_) fun refused => ?_
    next =>
      have cols : (Op.deccolm enable).colsAfter s cols = deccolmCols enable := if_pos allowed
      obtain ⟨rfl, rfl⟩ := size.grid
      rw [cols]
      refine (s.resize_hasSize _ _).bind fun t resized => (eraseDisplay_edited t _ _).bind fun u edited => ?_
      exact resized.edited edited.extent edited.altGrid
    next =>
      have same : (Op.deccolm enable).colsAfter s cols = cols := if_neg refused
      rw [same]
      exact size
  | _ => exact (Op.edited _ s rfl).weaken fun _ edited => size.edited edited.extent edited.altGrid

/-- The columns that the last DECCOLM of a run asks for, if one is carried out. -/
def colsAsked : List Op -> Screen -> Nat -> Nat
  | [], _, cols => cols
  | op :: rest, s, cols =>
    match op.exec s with
    | .ok next => colsAsked rest next (op.colsAfter s cols)
    | .error _ => cols

theorem run_hasSize {ops : List Op} (guests : ∀ op ∈ ops, op.isResize = false) {s : Screen} {cols rows : Nat}
    (size : s.HasSize cols rows) :
    Ensures AnyPanic (run Op.exec ops s) fun s' => s'.HasSize (colsAsked ops s cols) rows := by
  induction ops generalizing s cols with
  | nil => exact size
  | cons op rest ih =>
    obtain ⟨first, later⟩ := List.forall_mem_cons.mp guests
    have one := op.hasSize first size
    rw [run_cons, colsAsked]
    cases result : op.exec s with
    | error panic => trivial
    | ok next =>
      rw [result] at one
      exact ih later one

namespace Terminal

def colsAfter (t : Terminal) (output : Bytes) : Nat := colsAsked (ops [.bytes output] t) t.screen t.screen.cols

theorem feed_hasSize {t : Terminal} {cols rows : Nat} (size : t.screen.HasSize cols rows) (output : Bytes) :
    Ensures AnyPanic (t.feed output) fun t' => t'.screen.HasSize (t.colsAfter output) rows := by
  obtain ⟨rfl, rfl⟩ := size.grid
  have ran := ensures_of_map (run_ops [.bytes output] t) (run_hasSize (noResize_ops output t) size)
  rw [run_cons, handle] at ran
  cases result : t.feed output with
  | error panic => trivial
  | ok last =>
    rw [result] at ran
    exact ran

end Terminal

end Emux
