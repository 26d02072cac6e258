import Mathlib.Data.List.AList
import Mathlib.Data.List.Sigma
import Mathlib.Data.List.Sort
import Mathlib.Order.Basic

set_option autoImplicit false

/-!
# Finite maps

`AList` with non-dependent values, an update of the value under one key, and the number of its keys under insertion
and removal. Lists of entries with ascending keys, each of which is the only such list with its values.
-/

namespace Keyed

variable {K V : Type} [DecidableEq K]

abbrev Map (K V : Type) := AList fun _ : K => V

def size (map : Map K V) : Nat := map.keys.length

/-- `if let Some(value) = map.get_mut(key)`: nothing happens where there is no value. -/
def modify (map : Map K V) (key : K) (update : V -> V) : Map K V where
  entries := map.entries.map fun entry => ⟨entry.1, if entry.1 = key then update entry.2 else entry.2⟩
  nodupKeys := by
    have same : (map.entries.map fun entry : (_ : K) × V =>
        (⟨entry.1, if entry.1 = key then update entry.2 else entry.2⟩ : (_ : K) × V)).keys = map.entries.keys := by
      simp [List.keys, Function.comp_def]
    rw [List.NodupKeys, same]
    exact map.nodupKeys

@[simp] theorem keys_modify (map : Map K V) (key : K) (update : V -> V) : (modify map key update).keys = map.keys := by
  simp [modify, AList.keys, List.keys, Function.comp_def]

@[simp] theorem mem_modify (map : Map K V) (key : K) (update : V -> V) (other : K) :
    other ∈ modify map key update ↔ other ∈ map := by
  rw [AList.mem_keys, AList.mem_keys, keys_modify]

theorem lookup_modify (map : Map K V) (key : K) (update : V -> V) (other : K) :
    (modify map key update).lookup other = if other = key then (map.lookup other).map update else map.lookup other := by
  have through := @List.dlookup_map₂ K _ (fun _ => V) (fun _ => V) map.entries
    (fun k value => if k = key then update value else value) other
  refine through.trans ?_
  by_cases same : other = key
  next => simp [AList.lookup, same]
  next => simp [AList.lookup, same]

omit [DecidableEq K] in
/-- `for value in map.values_mut()`. -/
def mapValues (map : Map K V) (update : V -> V) : Map K V where
  entries := map.entries.map fun entry => ⟨entry.1, update entry.2⟩
  nodupKeys := by
    have same : (map.entries.map fun entry : (_ : K) × V => (⟨entry.1, update entry.2⟩ : (_ : K) × V)).keys =
        map.entries.keys := by
      simp [List.keys, Function.comp_def]
    rw [List.NodupKeys, same]
    exact map.nodupKeys

/-- `for key in keys { map.remove(&key) }`. -/
def eraseAll (map : Map K V) (keys : List K) : Map K V := keys.foldl (fun map key => map.erase key) map

theorem lookup_eraseAll {map : Map K V} {keys : List K} {key : K} {value : V}
    (found : (eraseAll map keys).lookup key = some value) : map.lookup key = some value := by
  induction keys generalizing map with
  | nil => exact found
  | cons first rest ih =>
    have there : (map.erase first).lookup key = some value := ih found
    by_cases same : key = first
    next =>
      subst same
      rw [AList.lookup_erase] at there
      cases there
    next => rwa [AList.lookup_erase_ne same] at there

theorem lookup_mapValues (map : Map K V) (update : V -> V) (key : K) :
    (mapValues map update).lookup key = (map.lookup key).map update :=
  @List.dlookup_map₂ K _ (fun _ => V) (fun _ => V) map.entries (fun _ => update) key

theorem mapValues_erase (map : Map K V) (update : V -> V) (key : K) :
    mapValues (map.erase key) update = (mapValues map update).erase key := by
  refine AList.ext ?_
  show (List.kerase key map.entries).map _ = List.kerase key (map.entries.map _)
  unfold List.kerase
  rw [List.eraseP_map]
  rfl

theorem mapValues_modify (map : Map K V) (key : K) {update view : V -> V} (hidden : ∀ value, view (update value) = view value) :
    mapValues (modify map key update) view = mapValues map view := by
  refine AList.ext ?_
  show (map.entries.map _).map _ = map.entries.map _
  rw [List.map_map]
  refine List.map_congr_left fun entry _ => ?_
  simp only [Function.comp_apply]
  split
  next => rw [hidden]
  next => rfl

theorem entries_perm_erase {map : Map K V} {key : K} {value : V} (found : map.lookup key = some value) :
    map.entries.Perm (⟨key, value⟩ :: (map.erase key).entries) := by
  have listed : (⟨key, value⟩ : (_ : K) × V) ∈ map.entries := AList.mem_lookup_iff.mp found
  obtain ⟨other, before, after, -, entries, erased⟩ := List.exists_of_kerase (List.mem_keys_of_mem listed)
  have there : map.lookup key = some other := AList.mem_lookup_iff.mpr (by simp [entries])
  obtain rfl : value = other := Option.some.inj (found.symm.trans there)
  show map.entries.Perm (⟨key, value⟩ :: List.kerase key map.entries)
  rw [erased, entries]
  exact List.perm_middle

omit [DecidableEq K] in
@[simp] theorem mem_singleton (key : K) (value : V) (other : K) :
    other ∈ (AList.singleton key value : Map K V) ↔ other = key := by
  rw [AList.mem_keys, AList.keys_singleton, List.mem_singleton]

theorem lookup_singleton {key other : K} {value found : V}
    (looked : (AList.singleton key value : Map K V).lookup other = some found) : other = key ∧ value = found := by
  have here : other = key := (mem_singleton key value other).mp (AList.lookup_isSome.mp (by rw [looked]; rfl))
  subst here
  rw [← AList.insert_empty, AList.lookup_insert] at looked
  exact ⟨rfl, Option.some.inj looked⟩

end Keyed

namespace SortedMap

variable {K V : Type} [LinearOrder K]

abbrev Entries (K V : Type) := List ((_ : K) × V)

def Ascending (entries : Entries K V) : Prop := entries.Pairwise fun one other => one.1 < other.1

def lookup (key : K) (entries : Entries K V) : Option V := entries.dlookup key

def remove (key : K) (entries : Entries K V) : Entries K V := entries.kerase key

def insert (key : K) (value : V) (entries : Entries K V) : Entries K V :=
  (remove key entries).orderedInsert (fun one other => one.1 ≤ other.1) ⟨key, value⟩

variable {entries other : Entries K V}

theorem Ascending.nodupKeys (ascending : Ascending entries) : entries.NodupKeys :=
  List.nodupKeys_iff_pairwise.mpr (ascending.imp ne_of_lt)

theorem insert_perm (key : K) (value : V) (entries : Entries K V) :
    (insert key value entries).Perm (entries.kinsert key value) := List.perm_orderedInsert _ _ _

theorem Ascending.remove (ascending : Ascending entries) (key : K) : Ascending (remove key entries) :=
  ascending.sublist (List.kerase_sublist _ _)

theorem Ascending.insert (ascending : Ascending entries) (key : K) (value : V) : Ascending (insert key value entries) := by
  have distinct : (SortedMap.insert key value entries).NodupKeys :=
    (List.perm_nodupKeys (insert_perm key value entries)).mpr (List.kinsert_nodupKeys key value ascending.nodupKeys)
  have total : Std.Total fun one other : (_ : K) × V => one.1 ≤ other.1 := ⟨fun one other => le_total one.1 other.1⟩
  have transitive : IsTrans ((_ : K) × V) fun one other => one.1 ≤ other.1 := ⟨fun _ _ _ => le_trans⟩
  have sorted : (SortedMap.insert key value entries).Pairwise fun one other => one.1 ≤ other.1 :=
    ((ascending.remove key).imp le_of_lt).orderedInsert _ _
  exact (sorted.and (List.nodupKeys_iff_pairwise.mp distinct)).imp fun both => lt_of_le_of_ne both.1 both.2

@[simp] theorem lookup_nil (key : K) : lookup key ([] : Entries K V) = none := rfl

theorem lookup_cons_self (key : K) (value : V) (entries : Entries K V) : lookup key (⟨key, value⟩ :: entries) = some value :=
  List.dlookup_cons_eq _ _ _

theorem lookup_cons_ne {key asked : K} (differ : asked ≠ key) (value : V) (entries : Entries K V) :
    lookup asked (⟨key, value⟩ :: entries) = lookup asked entries :=
  List.dlookup_cons_ne entries (⟨key, value⟩ : (_ : K) × V) differ

theorem lookup_eq_none_iff {key : K} : lookup key entries = none ↔ key ∉ entries.keys := List.dlookup_eq_none

theorem lookup_eq_some_iff (ascending : Ascending entries) {key : K} {value : V} :
    lookup key entries = some value ↔ ⟨key, value⟩ ∈ entries := List.mem_dlookup_iff ascending.nodupKeys

theorem lookup_remove_ne {key asked : K} (differ : asked ≠ key) (entries : Entries K V) :
    lookup asked (remove key entries) = lookup asked entries := List.dlookup_kerase_ne differ

theorem lookup_insert (ascending : Ascending entries) (key : K) (value : V) :
    lookup key (insert key value entries) = some value := by
  rw [lookup, List.perm_dlookup key (ascending.insert key value).nodupKeys (insert_perm key value entries),
    List.dlookup_kinsert]

theorem lookup_insert_ne (ascending : Ascending entries) {key asked : K} (differ : asked ≠ key) (value : V) :
    lookup asked (insert key value entries) = lookup asked entries := by
  rw [lookup, List.perm_dlookup asked (ascending.insert key value).nodupKeys (insert_perm key value entries),
    List.dlookup_kinsert_ne differ, lookup]

theorem Ascending.ext (ascending : Ascending entries) (otherAscending : Ascending other)
    (same : ∀ key, lookup key entries = lookup key other) : entries = other := by
  refine (List.lookup_ext ascending.nodupKeys otherAscending.nodupKeys fun key value => ?_).eq_of_pairwise
    (fun one other _ _ less more => absurd less (lt_asymm more)) ascending otherAscending
  rw [← lookup, ← lookup, same key]

end SortedMap
