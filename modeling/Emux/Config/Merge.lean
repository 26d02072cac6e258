import Mathlib.Data.Char
import Mathlib.Data.List.Lex
import Emux.Library.Keyed

set_option autoImplicit false

/-!
# Merging configurations

A configuration file says only what differs from the defaults: its tables are merged into theirs.
-/

namespace Emux

open SortedMap

abbrev Key := List Char

/-- `toml::Value`, where `S` is a string, an integer, a float, a boolean or a date. -/
inductive TomlValue (S : Type) where
  | scalar (value : S)
  | array (items : List (TomlValue S))
  | table (entries : List ((_ : Key) × TomlValue S))

namespace TomlValue

variable {S : Type}

mutual

def deepMerge : TomlValue S -> TomlValue S -> TomlValue S
  | .table base, .table overlay => .table (mergeEntries base overlay)
  | _, overlay => overlay

def mergeEntries : List ((_ : Key) × TomlValue S) -> List ((_ : Key) × TomlValue S) -> List ((_ : Key) × TomlValue S)
  | base, [] => base
  | base, ⟨key, overlayVal⟩ :: rest =>
    let mergedVal := match lookup key base with
      | some baseVal => deepMerge baseVal overlayVal
      | none => overlayVal
    mergeEntries (insert key mergedVal (remove key base)) rest

end

/-- `defaults` is the default configuration as a value, which a value is converted back from. -/
def mergeWithDefaults {C : Type} (defaults : TomlValue S) (tryInto : TomlValue S -> Option C) (default : C)
    (partialValue : TomlValue S) : C :=
  (tryInto (deepMerge defaults partialValue)).getD default

def find : TomlValue S -> List Key -> Option (TomlValue S)
  | value, [] => some value
  | .table entries, key :: rest => (lookup key entries).bind fun value => find value rest
  | _, _ :: _ => none

def IsTable (value : TomlValue S) : Prop := ∃ entries, value = .table entries

theorem scalar_leaf (value : S) : ¬ (TomlValue.scalar value).IsTable := by
  rintro ⟨entries, same⟩
  cases same

theorem array_leaf (items : List (TomlValue S)) : ¬ (TomlValue.array items).IsTable := by
  rintro ⟨entries, same⟩
  cases same

inductive Ordered : TomlValue S -> Prop where
  | scalar (value : S) : Ordered (.scalar value)
  | array {items : List (TomlValue S)} (each : ∀ item ∈ items, Ordered item) : Ordered (.array items)
  | table {entries : List ((_ : Key) × TomlValue S)} (ascending : Ascending entries)
      (each : ∀ entry ∈ entries, Ordered entry.2) : Ordered (.table entries)

/-- What stands under the path once the overlay is merged into the base. -/
structure Overlaid (base overlay merged : TomlValue S) (path : List Key) : Prop where
  value : ∀ value, overlay.find path = some value -> ¬ value.IsTable -> merged.find path = some value
  table : ∀ value, overlay.find path = some value -> value.IsTable -> ∃ table, merged.find path = some table ∧ table.IsTable
  hidden : ∀ front value, front <+: path -> front ≠ path -> overlay.find front = some value -> ¬ value.IsTable ->
    merged.find path = none
  kept : overlay.find path = none ->
    (∀ front value, front <+: path -> front ≠ path -> overlay.find front = some value -> value.IsTable) ->
    merged.find path = base.find path

theorem find_append (value : TomlValue S) (front rest : List Key) :
    value.find (front ++ rest) = (value.find front).bind fun inner => inner.find rest := by
  induction front generalizing value with
  | nil => rfl
  | cons key front ih =>
    cases value with
    | scalar _ | array _ => rfl
    | table entries =>
      rw [List.cons_append, find, find, Option.bind_assoc]
      exact congrArg _ (funext ih)

theorem find_leaf {value : TomlValue S} (leaf : ¬ value.IsTable) {path : List Key} (some : path ≠ []) :
    value.find path = none := by
  obtain ⟨key, rest, rfl⟩ := List.exists_cons_of_ne_nil some
  cases value with
  | scalar _ | array _ => rfl
  | table entries => exact absurd ⟨entries, rfl⟩ leaf

theorem find_behind {value leaf : TomlValue S} (isLeaf : ¬ leaf.IsTable) {front path : List Key} (begins : front <+: path)
    (proper : front ≠ path) (found : value.find front = some leaf) : value.find path = none := by
  obtain ⟨rest, rfl⟩ := begins
  have some : rest ≠ [] := fun empty => proper (by rw [empty, List.append_nil])
  rw [find_append, found, Option.bind_some, find_leaf isLeaf some]

theorem deepMerge_leaf (base : TomlValue S) {overlay : TomlValue S} (leaf : ¬ overlay.IsTable) :
    deepMerge base overlay = overlay := by
  cases overlay with
  | scalar _ | array _ => cases base <;> rfl
  | table entries => exact absurd ⟨entries, rfl⟩ leaf

def mergedAt (base overlay : Option (TomlValue S)) : Option (TomlValue S) :=
  match overlay, base with
  | none, baseVal => baseVal
  | some overlayVal, some baseVal => some (deepMerge baseVal overlayVal)
  | some overlayVal, none => some overlayVal

theorem mergeEntries_ascending {base : List ((_ : Key) × TomlValue S)} (ascending : Ascending base)
    (overlay : List ((_ : Key) × TomlValue S)) : Ascending (mergeEntries base overlay) := by
  induction overlay generalizing base with
  | nil => exact ascending
  | cons entry rest ih => exact ih ((ascending.remove entry.1).insert _ _)

theorem lookup_mergeEntries {base overlay : List ((_ : Key) × TomlValue S)} (ascending : Ascending base)
    (distinct : overlay.NodupKeys) (key : Key) :
    lookup key (mergeEntries base overlay) = mergedAt (lookup key base) (lookup key overlay) := by
  induction overlay generalizing base with
  | nil => rfl
  | cons entry rest ih =>
    obtain ⟨first, overlayVal⟩ := entry
    obtain ⟨once, later⟩ := List.nodupKeys_cons.mp distinct
    have erased := ascending.remove first
    rw [mergeEntries, ih (erased.insert _ _) later]
    by_cases same : key = first
    next =>
      subst same
      rw [lookup_eq_none_iff.mpr once, lookup_insert erased, lookup_cons_self]
      cases lookup key base <;> rfl
    next => rw [lookup_insert_ne erased same, lookup_remove_ne same, lookup_cons_ne same]

theorem mem_mergedAt {base overlay : List ((_ : Key) × TomlValue S)} (ascending : Ascending base)
    (distinct : overlay.NodupKeys) {entry : (_ : Key) × TomlValue S} (member : entry ∈ mergeEntries base overlay) :
    mergedAt (lookup entry.1 base) (lookup entry.1 overlay) = some entry.2 := by
  rw [← lookup_mergeEntries ascending distinct]
  exact (lookup_eq_some_iff (mergeEntries_ascending ascending overlay)).mpr member

theorem deepMerge_ordered {base overlay : TomlValue S} (ordered : base.Ordered) (overlayOrdered : overlay.Ordered) :
    (deepMerge base overlay).Ordered := by
  -- On the overlay, whose tables are what the merge goes down into.
  induction overlayOrdered generalizing base with
  | scalar value =>
    rw [deepMerge_leaf base (scalar_leaf value)]
    exact .scalar value
  | array each _ =>
    rw [deepMerge_leaf base (array_leaf _)]
    exact .array each
  | @table overlay overlayAscending each ih =>
    cases ordered with
    | scalar _ | array _ => exact .table overlayAscending each
    | @table base ascending baseEach =>
      refine .table (mergeEntries_ascending ascending overlay) fun entry member => ?_
      have merged := mem_mergedAt ascending overlayAscending.nodupKeys member
      cases inOverlay : lookup entry.1 overlay with
      | none =>
        rw [inOverlay] at merged
        exact baseEach entry ((lookup_eq_some_iff ascending).mp merged)
      | some overlayVal =>
        have isOverlay := (lookup_eq_some_iff overlayAscending).mp inOverlay
        cases inBase : lookup entry.1 base with
        | none =>
          rw [inOverlay, inBase] at merged
          obtain rfl := Option.some.inj merged
          exact each _ isOverlay
        | some baseVal =>
          rw [inOverlay, inBase] at merged
          rw [← Option.some.inj merged]
          exact ih _ isOverlay (baseEach _ ((lookup_eq_some_iff ascending).mp inBase))

theorem Ordered.inner {entries : List ((_ : Key) × TomlValue S)} (ordered : (TomlValue.table entries).Ordered) {key : Key}
    {value : TomlValue S} (found : lookup key entries = some value) : value.Ordered := by
  cases ordered with
  | table ascending each => exact each _ ((lookup_eq_some_iff ascending).mp found)

theorem find_deepMerge {base overlay value : TomlValue S} {path : List Key} (ordered : base.Ordered)
    (overlayOrdered : overlay.Ordered) (found : overlay.find path = some value) :
    (deepMerge base overlay).find path = mergedAt (base.find path) (some value) := by
  induction path generalizing base overlay with
  | nil =>
    obtain rfl := Option.some.inj found
    rfl
  | cons key rest ih =>
    cases overlay with
    | scalar _ | array _ => cases found
    | table overlay =>
      obtain ⟨overlayVal, inOverlay, inner⟩ := Option.bind_eq_some_iff.mp found
      cases base with
      | scalar _ | array _ => exact found
      | table base =>
        cases ordered with
        | table ascending each =>
          have distinct : overlay.NodupKeys := by cases overlayOrdered with | table ascending _ => exact ascending.nodupKeys
          rw [deepMerge, find, lookup_mergeEntries ascending distinct, find, inOverlay]
          cases inBase : lookup key base with
          | none => exact inner
          | some baseVal =>
            exact ih (each _ ((lookup_eq_some_iff ascending).mp inBase)) (overlayOrdered.inner inOverlay) inner

theorem find_deepMerge_kept {base overlay : TomlValue S} {path : List Key} (ordered : base.Ordered)
    (overlayOrdered : overlay.Ordered) (nothing : overlay.find path = none)
    (tables : ∀ front value, front <+: path -> front ≠ path -> overlay.find front = some value -> value.IsTable) :
    (deepMerge base overlay).find path = base.find path := by
  -- Down the path, along which the overlay has tables only.
  induction path generalizing base overlay with
  | nil => cases nothing
  | cons key rest ih =>
    obtain ⟨overlay, rfl⟩ := tables [] overlay (List.nil_prefix) (List.cons_ne_nil key rest).symm rfl
    cases base with
    | scalar _ | array _ => exact nothing
    | table base =>
      have ascending : Ascending base := by cases ordered with | table ascending _ => exact ascending
      have distinct : overlay.NodupKeys := by cases overlayOrdered with | table ascending _ => exact ascending.nodupKeys
      rw [deepMerge, find, find, lookup_mergeEntries ascending distinct]
      rw [find] at nothing
      cases inOverlay : lookup key overlay with
      | none => rfl
      | some overlayVal =>
        rw [inOverlay] at nothing
        have inner : ∀ front value, front <+: rest -> front ≠ rest -> overlayVal.find front = some value ->
            value.IsTable := by
          intro front value begins proper found
          refine tables (key :: front) value ((List.prefix_cons_inj key).mpr begins)
            (fun same => proper (List.cons.inj same).2) ?_
          rw [find, inOverlay]
          exact found
        cases inBase : lookup key base with
        | none => exact nothing
        | some baseVal => exact ih (ordered.inner inBase) (overlayOrdered.inner inOverlay) nothing inner

theorem deepMerge_overlaid {base overlay : TomlValue S} (ordered : base.Ordered) (overlayOrdered : overlay.Ordered)
    (path : List Key) : Overlaid base overlay (deepMerge base overlay) path := by
  have leafStays : ∀ front leaf, overlay.find front = some leaf -> ¬ leaf.IsTable ->
      (deepMerge base overlay).find front = some leaf := by
    intro front leaf found isLeaf
    rw [find_deepMerge ordered overlayOrdered found]
    cases base.find front with
    | none => rfl
    | some baseVal => exact congrArg some (deepMerge_leaf baseVal isLeaf)
  refine ⟨leafStays path, fun value found isTable => ?_, fun front leaf begins proper found isLeaf => ?_,
    find_deepMerge_kept ordered overlayOrdered⟩
  next =>
    obtain ⟨entries, rfl⟩ := isTable
    rw [find_deepMerge ordered overlayOrdered found]
    cases base.find path with
    | none => exact ⟨_, rfl, entries, rfl⟩
    | some baseVal =>
      refine ⟨_, rfl, ?_⟩
      cases baseVal with
      | scalar _ | array _ => exact ⟨entries, rfl⟩
      | table base => exact ⟨mergeEntries base entries, rfl⟩
  next => exact find_behind isLeaf begins proper (leafStays front leaf found isLeaf)

theorem deepMerge_self {value : TomlValue S} (ordered : value.Ordered) : deepMerge value value = value := by
  induction ordered with
  | scalar _ | array _ _ => rfl
  | @table entries ascending each ih =>
    rw [deepMerge]
    congr 1
    refine (mergeEntries_ascending ascending entries).ext ascending fun key => ?_
    rw [lookup_mergeEntries ascending ascending.nodupKeys]
    cases found : lookup key entries with
    | none => rfl
    | some value => exact congrArg some (ih _ ((lookup_eq_some_iff ascending).mp found))

theorem deepMerge_again {base overlay : TomlValue S} (ordered : base.Ordered) (overlayOrdered : overlay.Ordered) :
    deepMerge (deepMerge base overlay) overlay = deepMerge base overlay := by
  induction overlayOrdered generalizing base with
  | scalar value => rw [deepMerge_leaf _ (scalar_leaf value), deepMerge_leaf _ (scalar_leaf value)]
  | array each _ => rw [deepMerge_leaf _ (array_leaf _), deepMerge_leaf _ (array_leaf _)]
  | @table overlay overlayAscending each ih =>
    cases ordered with
    | scalar _ | array _ => exact deepMerge_self (.table overlayAscending each)
    | @table base ascending baseEach =>
      have merged := mergeEntries_ascending ascending overlay
      rw [deepMerge, deepMerge]
      congr 1
      refine (mergeEntries_ascending merged overlay).ext merged fun key => ?_
      rw [lookup_mergeEntries merged overlayAscending.nodupKeys,
        lookup_mergeEntries ascending overlayAscending.nodupKeys]
      cases inOverlay : lookup key overlay with
      | none => rfl
      | some overlayVal =>
        have isOverlay := (lookup_eq_some_iff overlayAscending).mp inOverlay
        cases inBase : lookup key base with
        | none => exact congrArg some (deepMerge_self (each _ isOverlay))
        | some baseVal =>
          exact congrArg some (ih _ isOverlay (baseEach _ ((lookup_eq_some_iff ascending).mp inBase)))

end TomlValue

structure TomlTable (S : Type) where
  entries : List ((_ : Key) × TomlValue S)
  ordered : (TomlValue.table entries).Ordered

namespace TomlTable

variable {S : Type}

def value (table : TomlTable S) : TomlValue S := .table table.entries

def merge (base overlay : TomlTable S) : TomlTable S where
  entries := TomlValue.mergeEntries base.entries overlay.entries
  ordered := TomlValue.deepMerge_ordered base.ordered overlay.ordered

theorem merge_overlaid (base overlay : TomlTable S) :
    (∀ path, TomlValue.Overlaid base.value overlay.value (TomlValue.deepMerge base.value overlay.value) path) ∧
      TomlValue.deepMerge (TomlValue.deepMerge base.value overlay.value) overlay.value =
        TomlValue.deepMerge base.value overlay.value :=
  ⟨TomlValue.deepMerge_overlaid base.ordered overlay.ordered, TomlValue.deepMerge_again base.ordered overlay.ordered⟩

example :
    let colors : TomlTable Nat :=
      ⟨[⟨['b', 'g'], .scalar 0⟩, ⟨['f', 'g'], .scalar 1⟩],
        .table (List.pairwise_pair.mpr (by decide)) (by simp [TomlValue.Ordered.scalar])⟩
    let changed : TomlTable Nat :=
      ⟨[⟨['f', 'g'], .scalar 2⟩], .table (List.pairwise_singleton _ _) (by simp [TomlValue.Ordered.scalar])⟩
    let theme (table : TomlTable Nat) : TomlTable Nat :=
      ⟨[⟨['t'], table.value⟩], .table (List.pairwise_singleton _ _) (List.forall_mem_singleton.mpr table.ordered)⟩
    ((theme colors).merge (theme changed)).entries =
        [⟨['t'], .table [⟨['b', 'g'], .scalar 0⟩, ⟨['f', 'g'], .scalar 2⟩]⟩] ∧
      TomlValue.mergeWithDefaults (theme colors).value (fun value => value.find [['t'], ['b', 'g']]) (.scalar 9)
        (theme changed).value = .scalar 0 := ⟨rfl, rfl⟩

end TomlTable

end Emux
