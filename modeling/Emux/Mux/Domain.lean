import Emux.Library.Cuts
import Emux.Term.Input

set_option autoImplicit false

/-!
# Domains

Where a session lives, and the destination `[user@]host[:port]` of a remote one.
-/

namespace Emux

open Cuts
open Emux.Parser (encodeText)

inductive Domain where
  | local
  | remote (host : List Char) (user : Option (List Char)) (port : Option UInt16)
  deriving DecidableEq, Repr

inductive DomainParseError where
  | emptyHost
  | emptyUser
  | invalidPort (text : List Char)
  deriving DecidableEq, Repr

namespace Domain

/-- `u16::to_string`. -/
def portText (port : UInt16) : List Char := Nat.toDigits 10 port.toNat

/-- `str::parse::<u16>`. -/
def parsePort (text : List Char) : Option UInt16 := (parseUnsigned 10 65535 (encodeText text)).map Nat.toUInt16

def sshDestination : Domain -> Option (List Char)
  | .local => none
  | .remote host user port =>
    let dest := match user with
      | some u => u ++ ['@']
      | none => []
    let dest := dest ++ host
    some (match port with
      | some p => dest ++ [':'] ++ portText p
      | none => dest)

/-- `{u}@` -/
def userPrefix (user : Option (List Char)) : List Char :=
  match user with
  | some u => u ++ ['@']
  | none => []

/-- `:{p}` -/
def portSuffix (port : Option UInt16) : List Char :=
  match port with
  | some p => ':' :: portText p
  | none => []

def display : Domain -> List Char
  | .local => ['l', 'o', 'c', 'a', 'l']
  | .remote host user port => userPrefix user ++ (host ++ portSuffix port)

def splitUser (s : List Char) : Except DomainParseError (Option (List Char) × List Char) :=
  match cutFirst '@' s with
  | some (user, rest) => if user.isEmpty then .error .emptyUser else .ok (some user, rest)
  | none => .ok (none, s)

def splitPort (rest : List Char) : Except DomainParseError (List Char × Option UInt16) :=
  match cutLast ':' rest with
  | some (host, portStr) =>
    match parsePort portStr with
    | some port => .ok (host, some port)
    | none => .error (.invalidPort portStr)
  | none => .ok (rest, none)

def parseRemote (s : List Char) : Except DomainParseError Domain :=
  if s.isEmpty then .error .emptyHost
  else do
    let (user, rest) <- splitUser s
    let (host, port) <- splitPort rest
    if host.isEmpty then .error .emptyHost else .ok (.remote host user port)

theorem encodeText_digits (value : Nat) : encodeText (Nat.toDigits 10 value) = decimal value := by
  have each : ∀ c ∈ Nat.toDigits 10 value, String.utf8EncodeChar c = [c.toNat.toUInt8] := fun c member =>
    encode_ascii (by have := toDigits_range member; omega)
  rw [encodeText, List.flatMap_congr each, decimal, ascii, List.map_eq_flatMap]

theorem parseUnsigned_unsigned {radix limit : Nat} {text : Bytes} (some : text ≠ []) (noSign : (0x2B : Byte) ∉ text) :
    parseUnsigned radix limit text = (digitsValue radix text).filter fun value => value ≤ limit := by
  dsimp only [parseUnsigned]
  split
  next => exact absurd List.mem_cons_self noSign
  next => rw [if_neg some]

theorem parsePort_portText (port : UInt16) : parsePort (portText port) = some port := by
  have nonempty : decimal port.toNat ≠ [] := by simp [decimal, ascii]
  have small : port.toNat ≤ 65535 := Nat.le_of_lt_succ port.toNat_lt
  have noSign : (0x2B : Byte) ∉ decimal port.toNat := notMem_decimal (by decide) _
  rw [parsePort, portText, encodeText_digits, parseUnsigned_unsigned nonempty noSign, digitsValue_decimal]
  simp [small]

theorem notMem_portText {c : Char} (port : UInt16) (other : ¬ (48 ≤ c.toNat ∧ c.toNat ≤ 57)) : c ∉ portText port :=
  fun member => other (toDigits_range member)

inductive Named : Domain -> Prop where
  | remote {host : List Char} {user : Option (List Char)} {port : Option UInt16} (nonempty : host ≠ [])
      (userName : ∀ u ∈ user, u ≠ [] ∧ '@' ∉ u) (noUser : user = none -> '@' ∉ host)
      (noPort : port = none -> ':' ∉ host) : Named (.remote host user port)

theorem splitUser_ok_iff {s rest : List Char} {user : Option (List Char)} :
    splitUser s = .ok (user, rest) ↔
      s = userPrefix user ++ rest ∧ (∀ u ∈ user, u ≠ [] ∧ '@' ∉ u) ∧ (user = none -> '@' ∉ rest) := by
  unfold splitUser
  -- The first `@` ends the user; without one the whole text is the host.
  cases cut : cutFirst '@' s with
  | none =>
    have absent := cutFirst_eq_none_iff.mp cut
    constructor
    next =>
      rintro ⟨⟩
      exact ⟨rfl, by simp, fun _ => absent⟩
    next =>
      rintro ⟨rfl, -, -⟩
      cases user with
      | none => rfl
      | some u => exact absurd (by simp [userPrefix]) absent
  | some parts =>
    obtain ⟨u, after⟩ := parts
    obtain ⟨rfl, first⟩ := cutFirst_eq_some_iff.mp cut
    constructor
    next =>
      intro split
      dsimp only at split
      split_ifs at split with empty
      cases split
      exact ⟨by simp [userPrefix], by simpa using ⟨by simpa using empty, first⟩, by simp⟩
    next =>
      rintro ⟨same, userName, noUser⟩
      cases user with
      | none =>
        have whole : u ++ '@' :: after = rest := same
        exact absurd (by rw [← whole]; simp) (noUser rfl)
      | some v =>
        obtain ⟨nonempty, clean⟩ := userName v rfl
        have again : cutFirst '@' (u ++ '@' :: after) = some (v, rest) :=
          cutFirst_eq_some_iff.mpr ⟨by rw [same]; simp [userPrefix], clean⟩
        rw [cutFirst_append first] at again
        obtain ⟨rfl, rfl⟩ := Prod.mk.inj (Option.some.inj again)
        simp [nonempty]

theorem splitPort_named {rest host : List Char} {port : Option UInt16} (split : splitPort rest = .ok (host, port)) :
    host <+: rest ∧ (port = none -> ':' ∉ host) := by
  unfold splitPort at split
  cases cut : cutLast ':' rest with
  | none =>
    rw [cut] at split
    cases split
    exact ⟨List.prefix_rfl, fun _ => cutLast_eq_none_iff.mp cut⟩
  | some parts =>
    obtain ⟨front, portStr⟩ := parts
    obtain ⟨rfl, -⟩ := cutLast_eq_some_iff.mp cut
    simp only [cut] at split
    cases parsed : parsePort portStr with
    | none =>
      rw [parsed] at split
      cases split
    | some p =>
      rw [parsed] at split
      cases split
      exact ⟨List.prefix_append _ _, by simp⟩

theorem splitPort_display {host : List Char} {port : Option UInt16} (noPort : port = none -> ':' ∉ host) :
    splitPort (host ++ portSuffix port) = .ok (host, port) := by
  cases port with
  | none =>
    rw [portSuffix, List.append_nil, splitPort, cutLast_eq_none_iff.mpr (noPort rfl)]
  | some p =>
    have cut : cutLast ':' (host ++ ':' :: portText p) = some (host, portText p) :=
      cutLast_eq_some_iff.mpr ⟨rfl, notMem_portText p (by decide)⟩
    simp only [portSuffix, splitPort, cut, parsePort_portText]

theorem parseRemote_named {s : List Char} {domain : Domain} (accepted : parseRemote s = .ok domain) : Named domain := by
  unfold parseRemote at accepted
  split_ifs at accepted
  cases first : splitUser s with
  | error reason =>
    rw [first] at accepted
    cases accepted
  | ok parts =>
    obtain ⟨user, rest⟩ := parts
    obtain ⟨-, userName, noUser⟩ := splitUser_ok_iff.mp first
    cases second : splitPort rest with
    | error reason =>
      rw [first] at accepted
      simp only [bind, Except.bind, second] at accepted
      cases accepted
    | ok parts =>
      obtain ⟨host, port⟩ := parts
      obtain ⟨inRest, noPort⟩ := splitPort_named second
      rw [first] at accepted
      simp only [bind, Except.bind, second] at accepted
      split_ifs at accepted with empty
      cases accepted
      exact .remote (by simpa using empty) userName (fun none member => noUser none (inRest.subset member)) noPort

theorem parseRemote_display {domain : Domain} (named : Named domain) : parseRemote domain.display = .ok domain := by
  obtain @⟨host, user, port, nonempty, userName, noUser, noPort⟩ := named
  have some : ¬ (display (.remote host user port)).isEmpty = true := by simp [display, nonempty]
  have first : splitUser (display (.remote host user port)) = .ok (user, host ++ portSuffix port) := by
    refine splitUser_ok_iff.mpr ⟨rfl, userName, fun none member => ?_⟩
    rcases List.mem_append.mp member with inHost | inPort
    next => exact noUser none inHost
    next =>
      cases port with
      | none => cases inPort
      | some p =>
        rcases List.mem_cons.mp inPort with colon | digit
        next => exact absurd colon (by decide)
        next => exact notMem_portText p (by decide) digit
  rw [parseRemote, if_neg some, first]
  simp [bind, Except.bind, splitPort_display noPort, nonempty]

theorem sshDestination_remote (host : List Char) (user : Option (List Char)) (port : Option UInt16) :
    sshDestination (.remote host user port) = some (display (.remote host user port)) := by
  cases user <;> cases port <;> simp [sshDestination, display, userPrefix, portSuffix]

theorem remote_round_trip {s : List Char} {domain : Domain} (accepted : parseRemote s = .ok domain) :
    ∃ destination, domain.sshDestination = some destination ∧ destination = domain.display ∧
      parseRemote destination = .ok domain := by
  have named := parseRemote_named accepted
  refine ⟨domain.display, ?_, rfl, parseRemote_display named⟩
  cases named with
  | remote => exact sshDestination_remote _ _ _

theorem remote_round_trip_signed : ∃ destination,
    (Domain.remote "c:d".toList (some "a".toList) (some 22)).sshDestination = some destination ∧
      destination = (Domain.remote "c:d".toList (some "a".toList) (some 22)).display ∧
      parseRemote destination = .ok (.remote "c:d".toList (some "a".toList) (some 22)) :=
  @remote_round_trip "a@c:d:+022".toList _ (by decide)

end Domain

end Emux
