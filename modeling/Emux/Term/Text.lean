import Emux.Vt.Text
import Emux.Library.Fallible

set_option autoImplicit false

/-!
# Text formats of operating system commands

Numbers, colour specifications and base64, as the handlers of OSC sequences read and write them.
-/

namespace Emux

open Checked

def digitValue (radix : Nat) (byte : Byte) : Option Nat :=
  let value :=
    if within 0x30 0x39 byte then byte.toNat - 0x30
    else if within 0x41 0x5A byte then byte.toNat - 0x41 + 10
    else if within 0x61 0x7A byte then byte.toNat - 0x61 + 10
    else radix
  if value < radix then some value else none

def digitsValue (radix : Nat) (digits : Bytes) : Option Nat :=
  digits.foldlM (fun value digit => (digitValue radix digit).map fun d => value * radix + d) 0

/-- `from_str_radix` of an unsigned type: an optional `+`, then digits up to the type's maximum. -/
def parseUnsigned (radix limit : Nat) (text : Bytes) : Option Nat :=
  let digits := match text with
    | 0x2B :: second :: rest => second :: rest
    | _ => text
  if digits = [] then none
  else (digitsValue radix digits).filter fun value => value ≤ limit

def parseI32 (text : Bytes) : Option Int :=
  match text with
  | 0x2D :: second :: rest =>
    ((digitsValue 10 (second :: rest)).filter fun value => value ≤ 2147483648).map fun value => -(value : Int)
  | _ => (parseUnsigned 10 2147483647 text).map fun value => (value : Int)

def decimal (value : Nat) : Bytes := ascii (Nat.toDigits 10 value)

theorem toDigits_range {value : Nat} {c : Char} (member : c ∈ Nat.toDigits 10 value) : 48 ≤ c.toNat ∧ c.toNat ≤ 57 := by
  have digit := Nat.isDigit_of_mem_toDigits (by omega) (by omega) member
  simpa [Char.isDigit, UInt32.le_iff_toNat_le] using digit

def hexByte (value : Byte) : Bytes :=
  ascii [Nat.digitChar (value.toNat / 16), Nat.digitChar (value.toNat % 16)]

abbrev Rgb := Byte × Byte × Byte

def isCharBoundary (text : Bytes) (i : Nat) : Bool :=
  i == 0 || i == text.length || text[i]?.any fun byte => !within 0x80 0xBF byte

/-- `&text[start..stop]`, which panics inside a character. -/
def sliceText (text : Bytes) (start stop : Nat) : Fallible Bytes :=
  if start ≤ stop ∧ stop ≤ text.length ∧ isCharBoundary text start ∧ isCharBoundary text stop then
    .ok ((text.take stop).drop start)
  else .error .slice

/-- The hex value of a slice of one byte's worth of digits, `none` where `.ok()?` returns. -/
def sliceHex (text : Bytes) (start stop : Nat) : Fallible (Option Nat) := do
  let digits ← sliceText text start stop
  .ok (parseUnsigned 16 255 digits)

def stripPrefix (start text : Bytes) : Option Bytes :=
  if start <+: text then some (text.drop start.length) else none

def parseColorSpec (spec : Bytes) : Fallible (Option Rgb) :=
  match stripPrefix (ascii ['r', 'g', 'b', ':']) spec with
  | some rest =>
    match rest.splitOn 0x2F with
    | [red, green, blue] =>
      .ok <| do
        let r ← parseUnsigned 16 65535 red
        let g ← parseUnsigned 16 65535 green
        let b ← parseUnsigned 16 65535 blue
        if red.length ≤ 2 then some (r.toUInt8, g.toUInt8, b.toUInt8)
        else some ((r / 256).toUInt8, (g / 256).toUInt8, (b / 256).toUInt8)
    | _ => .ok none
  | none =>
    match stripPrefix (ascii ['#']) spec with
    | some rest =>
      if rest.length = 3 then do
        -- Each slice is taken only when the one before it was a number.
        let some r ← sliceHex rest 0 1 | .ok none
        let some g ← sliceHex rest 1 2 | .ok none
        let some b ← sliceHex rest 2 3 | .ok none
        .ok (some ((← mul 256 r 17).toUInt8, (← mul 256 g 17).toUInt8, (← mul 256 b 17).toUInt8))
      else if rest.length = 6 then do
        let some r ← sliceHex rest 0 2 | .ok none
        let some g ← sliceHex rest 2 4 | .ok none
        let some b ← sliceHex rest 4 6 | .ok none
        .ok (some (r.toUInt8, g.toUInt8, b.toUInt8))
      else .ok none
    | none => .ok none

def base64Value (byte : Byte) : Option Nat :=
  if within 0x41 0x5A byte then some (byte.toNat - 0x41)
  else if within 0x61 0x7A byte then some (byte.toNat - 0x61 + 26)
  else if within 0x30 0x39 byte then some (byte.toNat - 0x30 + 52)
  else if byte = 0x2B then some 62
  else if byte = 0x2F then some 63
  else none

def base64Char (value : Nat) : Byte :=
  if value < 26 then (0x41 + value).toUInt8
  else if value < 52 then (0x61 + (value - 26)).toUInt8
  else if value < 62 then (0x30 + (value - 52)).toUInt8
  else if value = 62 then 0x2B
  else 0x2F

def base64DecodeGroups : Bytes -> Option Bytes
  | [] => some []
  | [_] => none
  | [x, y] => do
    let a ← base64Value x
    let b ← base64Value y
    some [(a * 4 + b / 16).toUInt8]
  | [x, y, z] => do
    let a ← base64Value x
    let b ← base64Value y
    let c ← base64Value z
    some [(a * 4 + b / 16).toUInt8, (b * 16 + c / 4).toUInt8]
  | x :: y :: z :: w :: rest => do
    let a ← base64Value x
    let b ← base64Value y
    let c ← base64Value z
    let d ← base64Value w
    let more ← base64DecodeGroups rest
    let triple := a * 262144 + b * 4096 + c * 64 + d
    some ((triple / 65536).toUInt8 :: (triple / 256).toUInt8 :: triple.toUInt8 :: more)

/-- `trim_end_matches('=')`, then groups of four. -/
def base64Decode (input : Bytes) : Option Bytes :=
  base64DecodeGroups (input.reverse.dropWhile fun byte => byte == 0x3D).reverse

def base64Encode : Bytes -> Bytes
  | [] => []
  | [x] =>
    let triple := x.toNat * 65536
    [base64Char (triple / 262144), base64Char (triple / 4096 % 64), 0x3D, 0x3D]
  | [x, y] =>
    let triple := x.toNat * 65536 + y.toNat * 256
    [base64Char (triple / 262144), base64Char (triple / 4096 % 64), base64Char (triple / 64 % 64), 0x3D]
  | x :: y :: z :: rest =>
    let triple := x.toNat * 65536 + y.toNat * 256 + z.toNat
    base64Char (triple / 262144) :: base64Char (triple / 4096 % 64) ::
      base64Char (triple / 64 % 64) :: base64Char (triple % 64) :: base64Encode rest

def stringTerminator : Bytes := [0x1B, 0x5C]

def osc52Clipboard (text : Bytes) : Bytes :=
  [0x1B] ++ ascii [']', '5', '2', ';', 'c', ';'] ++ base64Encode text ++ stringTerminator

def osc52Query : Bytes := [0x1B] ++ ascii [']', '5', '2', ';', 'c', ';', '?'] ++ stringTerminator

end Emux
