import Emux.Vt.Text

set_option autoImplicit false

/-!
# CSI parameters and intermediate bytes
-/

namespace Emux

def maxParams : Nat := 32

def maxIntermediates : Nat := 4

/-- The arrays of the source up to `len`; what lies beyond is never read. -/
structure Params where
  values : List Nat := []
  subparamFlags : List Bool := []
  current : Nat := 0
  hasCurrent : Bool := false
  trailingSep : Bool := false
  pendingColon : Bool := false
  deriving DecidableEq, Repr

namespace Params

def u16Max : Nat := 65535

def u32Max : Nat := 4294967295

/-- The value a separator closes: `0` when no digit came. -/
def pendingValue (p : Params) : Nat := if p.hasCurrent then min p.current u16Max else 0

/-- The part that both separators share: store the pending value if there is room. -/
def closeValue (p : Params) : Params :=
  if p.values.length < maxParams then
    { p with
      values := p.values ++ [p.pendingValue]
      subparamFlags := p.subparamFlags ++ [p.pendingColon]
      current := 0
      hasCurrent := false }
  else { p with current := 0, hasCurrent := false }

def push (p : Params) (byte : Byte) : Params :=
  if within 0x30 0x39 byte then
    { p with
      hasCurrent := true
      trailingSep := false
      current := min (min (p.current * 10) u32Max + (byte.toNat - 0x30)) u32Max }
  else if byte = 0x3b then
    { p.closeValue with trailingSep := true, pendingColon := false }
  else if byte = 0x3a then
    { p.closeValue with pendingColon := true }
  else p

def finished (p : Params) : List Nat :=
  if p.values.length < maxParams then
    if p.hasCurrent then p.values ++ [min p.current u16Max]
    else if p.trailingSep then p.values ++ [0]
    else p.values
  else p.values

def finishedLen (p : Params) : Nat :=
  if p.values.length < maxParams ∧ (p.hasCurrent ∨ p.trailingSep) then p.values.length + 1
  else p.values.length

def get (p : Params) (index default : Nat) : Nat :=
  if p.finishedLen ≤ index then default
  else match p.values[index]? with
    | some value => value
    | none => p.pendingValue

/-- `0` stands for the default. -/
def getOr (p : Params) (index default : Nat) : Nat :=
  if p.get index 0 = 0 then default else p.get index 0

def finishedSubparamFlags (p : Params) : List Bool :=
  if p.hasCurrent ∧ p.subparamFlags.length < maxParams then p.subparamFlags ++ [p.pendingColon]
  else if p.trailingSep ∧ ¬ p.hasCurrent ∧ p.subparamFlags.length < maxParams then
    p.subparamFlags ++ [false]
  else p.subparamFlags

end Params

def pushIntermediate (intermediates : List Byte) (byte : Byte) : List Byte :=
  if intermediates.length < maxIntermediates then intermediates ++ [byte] else intermediates

end Emux
