import Mathlib.Data.List.Basic

set_option autoImplicit false

/-!
# Bytes, UTF-8 text and character sets
-/

namespace Emux

abbrev Byte := UInt8

/-- Byte strings; a Rust `String` is the byte string of its UTF-8 text. -/
abbrev Bytes := List Byte

def within (low high : Nat) (byte : Byte) : Bool := decide (low ≤ byte.toNat) && decide (byte.toNat ≤ high)

def ascii (cs : List Char) : Bytes := cs.map fun c => c.toNat.toUInt8

/-- The ranges of the bytes that must follow a lead byte, `none` when no character starts so. -/
def continuationRanges (lead : Byte) : Option (List (Nat × Nat)) :=
  let any := (0x80, 0xBF)
  if within 0x00 0x7F lead then some []
  else if within 0xC2 0xDF lead then some [any]
  else if lead = 0xE0 then some [(0xA0, 0xBF), any]
  else if lead = 0xED then some [(0x80, 0x9F), any]
  else if within 0xE1 0xEF lead then some [any, any]
  else if lead = 0xF0 then some [(0x90, 0xBF), any, any]
  else if within 0xF1 0xF3 lead then some [any, any, any]
  else if lead = 0xF4 then some [(0x80, 0x8F), any, any]
  else none

def validUtf8From : List (Nat × Nat) -> Bytes -> Bool
  | [], [] => true
  | _ :: _, [] => false
  | [], byte :: rest =>
    match continuationRanges byte with
    | some ranges => validUtf8From ranges rest
    | none => false
  | (low, high) :: more, byte :: rest => within low high byte && validUtf8From more rest

/-- `std::str::from_utf8(bytes).is_ok()`. -/
def validUtf8 (bytes : Bytes) : Bool := validUtf8From [] bytes

/-- `std::str::from_utf8(bytes).unwrap_or("")`. -/
def utf8OrEmpty (bytes : Bytes) : Bytes := if validUtf8 bytes then bytes else []

def replacementCharacter : Bytes := [0xEF, 0xBF, 0xBD]

/-- `taken` is the valid start of a character that still needs the continuations `ranges`. -/
def lossyUtf8From (taken : Bytes) : List (Nat × Nat) -> Bytes -> Bytes
  | [], [] => taken
  | _ :: _, [] => replacementCharacter
  | [], byte :: rest =>
    taken ++ match continuationRanges byte with
      | some ranges => lossyUtf8From [byte] ranges rest
      | none => replacementCharacter ++ lossyUtf8From [] [] rest
  | (low, high) :: more, byte :: rest =>
    if within low high byte then lossyUtf8From (taken ++ [byte]) more rest
    else
      -- The byte that does not continue the character is read again as a first byte.
      replacementCharacter ++ match continuationRanges byte with
        | some ranges => lossyUtf8From [byte] ranges rest
        | none => replacementCharacter ++ lossyUtf8From [] [] rest

def lossyUtf8 (bytes : Bytes) : Bytes := lossyUtf8From [] [] bytes

def scalarValue : Bytes -> Nat
  | [a] => a.toNat
  | [a, b] => a.toNat % 32 * 64 + b.toNat % 64
  | [a, b, c] => (a.toNat % 16 * 64 + b.toNat % 64) * 64 + c.toNat % 64
  | [a, b, c, d] => ((a.toNat % 8 * 64 + b.toNat % 64) * 64 + c.toNat % 64) * 64 + d.toNat % 64
  | _ => 0

/-- `from_utf8(bytes)` and then `chars().next()`. -/
def firstChar (bytes : Bytes) : Option Char :=
  if validUtf8 bytes then
    match bytes with
    | [] => none
    | lead :: rest =>
      (continuationRanges lead).map fun ranges =>
        Char.ofNat (scalarValue (lead :: rest.take ranges.length))
  else none

example : firstChar [0xE4, 0xB8, 0xAD] = some '中' := by decide

inductive Charset where
  | ascii
  | decSpecialGraphics
  | uk
  deriving DecidableEq, Repr

def decSpecialGraphics (byte : Nat) : Char :=
  match byte with
  | 0x6a => '┘'
  | 0x6b => '┐'
  | 0x6c => '┌'
  | 0x6d => '└'
  | 0x6e => '┼'
  | 0x71 => '─'
  | 0x74 => '├'
  | 0x75 => '┤'
  | 0x76 => '┴'
  | 0x77 => '┬'
  | 0x78 => '│'
  | 0x61 => '▒'
  | _ => Char.ofNat byte

def Charset.map : Charset -> Nat -> Char
  | .ascii, byte | .uk, byte => Char.ofNat byte
  | .decSpecialGraphics, byte => Emux.decSpecialGraphics byte

end Emux
