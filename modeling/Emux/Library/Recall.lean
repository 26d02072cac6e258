import Mathlib.Data.List.Nodup
import Mathlib.Data.List.Perm.Basic

set_option autoImplicit false

/-!
# A list with a way back

One element of a list is the current one. A position that was recorded when some element was left leads back, as long
as the list has not changed under it.
-/

namespace Recall

variable {A : Type}

structure Deck (A : Type) where
  items : List A
  current : Nat
  recorded : Option Nat

namespace Deck

def now (deck : Deck A) : Option A := deck.items[deck.current]?

def target (deck : Deck A) : Option A := deck.recorded.bind fun place => deck.items[place]?

structure Sound (deck : Deck A) : Prop where
  distinct : deck.items.Nodup
  inside : deck.current < deck.items.length

/-- The way back leads to the element that was current earlier, if that is still there, and else nowhere. -/
structure Recalls (deck : Deck A) (earlier : Option A) : Prop where
  found : ∀ a, earlier = some a -> a ∈ deck.items -> deck.target = some a
  lost : (∀ a, earlier = some a -> a ∉ deck.items) -> deck.target = none ∨ deck.target = deck.now

def since [DecidableEq A] (before after : Deck A) (earlier : Option A) : Option A :=
  if after.now = before.now then earlier else before.now

variable {deck deck' : Deck A} {earlier : Option A} {a : A}

theorem Sound.apart (sound : deck.Sound) {i j : Nat} (first : i < deck.items.length) (second : j < deck.items.length)
    (other : i ≠ j) : deck.items[i]? ≠ deck.items[j]? := by
  rw [List.getElem?_eq_getElem first, List.getElem?_eq_getElem second]
  exact fun same => other ((sound.distinct.getElem_inj_iff).mp (Option.some.inj same))

theorem target_mem (target : deck.target = some a) : a ∈ deck.items := by
  obtain ⟨place, -, there⟩ := Option.bind_eq_some_iff.mp target
  exact List.mem_of_getElem? there

theorem recalls_some_iff (member : a ∈ deck.items) : deck.Recalls (some a) ↔ deck.target = some a := by
  refine ⟨fun recalls => recalls.found a rfl member, fun target => ⟨fun b same _ => ?_, fun gone => ?_⟩⟩
  next => exact target.trans same
  next => exact absurd member (gone a rfl)

theorem recalls_gone_iff (gone : ∀ a, earlier = some a -> a ∉ deck.items) :
    deck.Recalls earlier ↔ deck.target = none ∨ deck.target = deck.now :=
  ⟨fun recalls => recalls.lost gone, fun off => ⟨fun a same member => absurd member (gone a same), fun _ => off⟩⟩

theorem target_iff (distinct : deck.items.Nodup) {place : Nat} (there : deck.items[place]? = some a) :
    deck.target = some a ↔ deck.recorded = some place := by
  obtain ⟨inside, rfl⟩ := List.getElem?_eq_some_iff.mp there
  constructor
  next =>
    intro target
    obtain ⟨other, recorded, same⟩ := Option.bind_eq_some_iff.mp target
    obtain ⟨within, equal⟩ := List.getElem?_eq_some_iff.mp same
    rw [recorded, (distinct.getElem_inj_iff).mp equal]
  next =>
    intro recorded
    rw [Deck.target, recorded]
    exact there

theorem off_iff (sound : deck.Sound) : (deck.target = none ∨ deck.target = deck.now) ↔
    ∀ place, deck.recorded = some place -> deck.items.length ≤ place ∨ place = deck.current := by
  have inside := sound.inside
  have here : deck.now = some deck.items[deck.current] := List.getElem?_eq_getElem inside
  rw [here, target_iff sound.distinct here]
  cases recorded : deck.recorded with
  | none => simp [target, recorded]
  | some place => simp [target, recorded]

theorem Recalls.stays (recalls : deck.Recalls earlier) (items : deck'.items ⊆ deck.items) (target : deck'.target = deck.target)
    (now : deck'.now = deck.now) : deck'.Recalls earlier where
  found a same member := target.trans (recalls.found a same (items member))
  lost gone := by
    rw [target, now]
    refine recalls.lost fun a same member => gone a same ?_
    exact target_mem (target.trans (recalls.found a same member))

theorem recalls_left {place : Nat} (there : deck'.items[place]? = some a) (distinct : deck'.items.Nodup) :
    deck'.Recalls (some a) ↔ deck'.recorded = some place :=
  (recalls_some_iff (List.mem_of_getElem? there)).trans (target_iff distinct there)

theorem recalls_rearranged_iff (recalls : deck.Recalls earlier) (perm : deck'.items.Perm deck.items)
    (recorded : deck'.recorded = deck.recorded) (now : deck'.now = deck.now) :
    deck'.Recalls earlier ↔
      ∀ place, deck.recorded = some place -> place < deck.items.length -> deck'.items[place]? = deck.items[place]? := by
  constructor
  next =>
    intro again place is inside
    have target : deck.target = deck.items[place]? := by rw [Deck.target, is, Option.bind_some]
    have target' : deck'.target = deck'.items[place]? := by rw [Deck.target, recorded, is, Option.bind_some]
    rw [← target, ← target']
    by_cases there : ∃ a, earlier = some a ∧ a ∈ deck.items
    next =>
      obtain ⟨a, same, member⟩ := there
      rw [recalls.found a same member, again.found a same (perm.mem_iff.mpr member)]
    next =>
      have gone : ∀ a, earlier = some a -> a ∉ deck.items := fun a same member => there ⟨a, same, member⟩
      have before : deck.target = deck.now := by
        refine (recalls.lost gone).resolve_left ?_
        rw [target, List.getElem?_eq_getElem inside]
        exact nofun
      have after : deck'.target = deck'.now := by
        refine (again.lost fun a same member => gone a same (perm.mem_iff.mp member)).resolve_left ?_
        rw [target', List.getElem?_eq_getElem (perm.length_eq ▸ inside)]
        exact nofun
      rw [after, before, now]
  next =>
    intro same
    refine recalls.stays perm.subset ?_ now
    unfold target
    rw [recorded]
    cases is : deck.recorded with
    | none => rfl
    | some place =>
      rw [Option.bind_some, Option.bind_some]
      by_cases inside : place < deck.items.length
      next => exact same place is inside
      next =>
        rw [List.getElem?_eq_none (Nat.le_of_not_lt inside),
          List.getElem?_eq_none (perm.length_eq ▸ Nat.le_of_not_lt inside)]

end Deck

inductive Turn (A : Type) where
  | stay
  /-- Another element becomes current, and the place of the one left is recorded. -/
  | visit (place : Nat)
  /-- Another element becomes current, and nothing is recorded. -/
  | jump (place : Nat)
  | back
  /-- A new element at the end becomes current, and nothing is recorded. -/
  | append (a : A)
  /-- A new element behind the current one becomes current, and the place of the one left is recorded. -/
  | insert (a : A)
  | remove (index : Nat)
  | swap (other : Nat)
  /-- The current element, the first, goes behind the last. -/
  | toEnd
  /-- The current element, the last, goes before the first. -/
  | toFront

namespace Deck

def currentWithout (deck : Deck A) (index : Nat) : Nat :=
  if deck.items.length - 1 ≤ deck.current then deck.items.length - 1 - 1
  else if index < deck.current then deck.current - 1
  else deck.current

def turn : Turn A -> Deck A -> Deck A
  | .stay, deck => deck
  | .visit place, deck =>
    { deck with current := place, recorded := if place ≠ deck.current then some deck.current else deck.recorded }
  | .jump place, deck => { deck with current := place }
  | .back, deck =>
    match deck.recorded with
    | some place =>
      if place < deck.items.length then { deck with current := place, recorded := some deck.current } else deck
    | none => deck
  | .append a, deck => { deck with items := deck.items ++ [a], current := deck.items.length }
  | .insert a, deck =>
    { items := deck.items.insertIdx (deck.current + 1) a, current := deck.current + 1, recorded := some deck.current }
  | .remove index, deck => { deck with items := deck.items.eraseIdx index, current := deck.currentWithout index }
  | .swap other, deck =>
    match deck.items[deck.current]?, deck.items[other]? with
    | some a, some b => { deck with items := (deck.items.set deck.current b).set other a, current := other }
    | _, _ => deck
  | .toEnd, deck =>
    { deck with items := deck.items.eraseIdx deck.current ++ deck.now.toList, current := deck.items.length - 1 }
  | .toFront, deck => { deck with items := deck.now.toList ++ deck.items.eraseIdx deck.current, current := 0 }

def added : Turn A -> List A
  | .append a | .insert a => [a]
  | _ => []

def Fits (deck : Deck A) : Turn A -> Prop
  | .visit place | .jump place => place < deck.items.length
  | .append a | .insert a => a ∉ deck.items
  | .remove index => index < deck.items.length ∧ 1 < deck.items.length
  | .swap other => other < deck.items.length ∧ other ≠ deck.current
  | .toEnd => deck.current = 0 ∧ 1 < deck.items.length
  | .toFront => deck.current = deck.items.length - 1 ∧ 1 < deck.items.length
  | .stay | .back => True

def Keeps (deck : Deck A) : Turn A -> Prop
  | .stay | .visit _ | .back | .insert _ => True
  | .jump place => place = deck.current ∨ deck.recorded = some deck.current
  | .append _ => deck.recorded = some deck.current
  | .remove index => ∀ place, deck.recorded = some place -> place < deck.items.length ->
      index ≠ deck.current ∧ place < index ∨
      (place = index ∨ place = deck.current ∨ index = deck.current) ∧
        (place + 1 = deck.items.length ∨ place = deck.currentWithout index)
  | .swap other => ∀ place, deck.recorded = some place -> place < deck.items.length ->
      place ≠ deck.current ∧ place ≠ other
  | .toEnd | .toFront => ∀ place, deck.recorded = some place -> deck.items.length ≤ place

variable {deck : Deck A} {earlier : Option A}

theorem turn_back_cases (deck : Deck A) : deck.turn .back = deck ∨
    ∃ place, deck.recorded = some place ∧ place < deck.items.length ∧
      deck.turn .back = { deck with current := place, recorded := some deck.current } := by
  simp only [Deck.turn]
  split
  next place recorded =>
    split
    next inside => exact .inr ⟨place, recorded, inside, rfl⟩
    next => exact .inl rfl
  next => exact .inl rfl

theorem turn_swap {other : Nat} (inside : deck.current < deck.items.length) (fits : other < deck.items.length) :
    deck.turn (.swap other) = { deck with
      items := (deck.items.set deck.current deck.items[other]).set other deck.items[deck.current]
      current := other } := by
  simp only [Deck.turn]
  rw [List.getElem?_eq_getElem inside, List.getElem?_eq_getElem fits]

theorem turn_toEnd (inside : deck.current < deck.items.length) : deck.turn .toEnd = { deck with
    items := deck.items.eraseIdx deck.current ++ [deck.items[deck.current]]
    current := deck.items.length - 1 } := by
  simp only [Deck.turn, now]
  rw [List.getElem?_eq_getElem inside]
  rfl

theorem turn_toFront (inside : deck.current < deck.items.length) : deck.turn .toFront = { deck with
    items := deck.items[deck.current] :: deck.items.eraseIdx deck.current
    current := 0 } := by
  simp only [Deck.turn, now]
  rw [List.getElem?_eq_getElem inside]
  rfl

theorem turn_items (sound : deck.Sound) {turn : Turn A} (fits : deck.Fits turn) :
    ∃ kept, kept.Sublist deck.items ∧ (deck.turn turn).items.Perm (added turn ++ kept) := by
  have inside := sound.inside
  have rejoined : (deck.items[deck.current] :: deck.items.eraseIdx deck.current).Perm deck.items :=
    List.getElem_cons_eraseIdx_perm inside
  cases turn with
  | stay | visit place | jump place => exact ⟨deck.items, .refl _, .refl _⟩
  | back =>
    refine ⟨deck.items, .refl _, ?_⟩
    rcases turn_back_cases deck with same | ⟨place, -, -, back⟩
    next =>
      rw [same]
      exact .refl _
    next =>
      rw [back]
      exact .refl _
  | append a => exact ⟨deck.items, .refl _, List.perm_append_singleton a deck.items⟩
  | insert a => exact ⟨deck.items, .refl _, List.perm_insertIdx a deck.items inside⟩
  | remove index => exact ⟨deck.items.eraseIdx index, List.eraseIdx_sublist .., .refl _⟩
  | swap other =>
    refine ⟨deck.items, .refl _, ?_⟩
    rw [turn_swap inside fits.1]
    exact List.set_set_perm inside fits.1
  | toEnd =>
    refine ⟨deck.items, .refl _, ?_⟩
    rw [turn_toEnd inside]
    exact (List.perm_append_singleton _ _).trans rejoined
  | toFront =>
    refine ⟨deck.items, .refl _, ?_⟩
    rw [turn_toFront inside]
    exact rejoined

theorem mem_turn (sound : deck.Sound) {turn : Turn A} (fits : deck.Fits turn) {a : A}
    (member : a ∈ (deck.turn turn).items) : a ∈ added turn ∨ a ∈ deck.items := by
  obtain ⟨kept, fewer, perm⟩ := turn_items sound fits
  exact (List.mem_append.mp (perm.mem_iff.mp member)).imp_right (fewer.subset ·)

theorem turn_inside (sound : deck.Sound) {turn : Turn A} (fits : deck.Fits turn) :
    (deck.turn turn).current < (deck.turn turn).items.length := by
  have inside := sound.inside
  cases turn with
  | stay => exact inside
  | visit place | jump place => exact fits
  | back =>
    rcases turn_back_cases deck with same | ⟨place, -, within, back⟩
    next =>
      rw [same]
      exact inside
    next =>
      rw [back]
      exact within
  | append a => simp [Deck.turn]
  | insert a =>
    simp only [Deck.turn]
    rw [List.length_insertIdx_of_le_length inside]
    exact Nat.succ_lt_succ inside
  | remove index =>
    simp only [Deck.turn, currentWithout]
    rw [List.length_eraseIdx_of_lt fits.1]
    have several := fits.2
    split
    next => omega
    next => split <;> omega
  | swap other =>
    rw [turn_swap inside fits.1]
    simpa using fits.1
  | toEnd =>
    rw [turn_toEnd inside, List.length_append, List.length_eraseIdx_of_lt inside]
    exact Nat.lt_succ_self _
  | toFront =>
    rw [turn_toFront inside]
    exact Nat.zero_lt_succ _

theorem turn_sound (sound : deck.Sound) {turn : Turn A} (fits : deck.Fits turn) : (deck.turn turn).Sound := by
  obtain ⟨kept, fewer, perm⟩ := turn_items sound fits
  refine ⟨perm.nodup_iff.mpr ?_, turn_inside sound fits⟩
  have distinct := sound.distinct.sublist fewer
  have new : ∀ a, deck.Fits (.insert a) -> (a :: kept).Nodup := fun a new =>
    List.nodup_cons.mpr ⟨fun member => new (fewer.subset member), distinct⟩
  cases turn with
  | append a | insert a => exact new a fits
  | _ => exact distinct

variable [DecidableEq A]

theorem since_apart {deck' : Deck A} (apart : earlier ≠ deck.now) : deck.since deck' earlier ≠ deck'.now := by
  unfold since
  split
  next same => exact same ▸ apart
  next other => exact Ne.symm other

theorem since_left {deck' : Deck A} (other : deck'.now ≠ deck.now) : deck.since deck' earlier = deck.now := if_neg other

theorem since_same {deck' : Deck A} (same : deck'.now = deck.now) : deck.since deck' earlier = earlier := if_pos same

theorem recalls_unchanged (recalls : deck.Recalls earlier) : deck.Recalls (deck.since deck earlier) := by
  rwa [since_same rfl]

theorem recalls_jump_iff (sound : deck.Sound) {place : Nat} (fits : place < deck.items.length)
    (other : place ≠ deck.current) (recorded : Option Nat) :
    Recalls { deck with current := place, recorded } (deck.since { deck with current := place, recorded } earlier) ↔
      recorded = some deck.current := by
  have inside := sound.inside
  have here : deck.now = some deck.items[deck.current] := List.getElem?_eq_getElem inside
  have left : now { deck with current := place, recorded } ≠ deck.now := sound.apart fits inside other
  rw [since_left left, here]
  exact @recalls_left _ { deck with current := place, recorded } _ _ (List.getElem?_eq_getElem inside) sound.distinct

theorem recalls_add_iff (sound : deck.Sound) {deck' : Deck A} (sound' : deck'.Sound) {a : A} (new : a ∉ deck.items)
    (now : deck'.now = some a) (still : deck'.items[deck.current]? = deck.items[deck.current]?) :
    deck'.Recalls (deck.since deck' earlier) ↔ deck'.recorded = some deck.current := by
  have inside := sound.inside
  have here : deck.now = some deck.items[deck.current] := List.getElem?_eq_getElem inside
  have left : deck'.now ≠ deck.now := by
    rw [now, here]
    exact fun same => new (Option.some.inj same ▸ List.getElem_mem inside)
  rw [since_left left, here]
  exact recalls_left (still.trans (List.getElem?_eq_getElem inside)) sound'.distinct

theorem recalls_swap_iff (sound : deck.Sound) (recalls : deck.Recalls earlier) {other : Nat}
    (fits : deck.Fits (.swap other)) :
    (deck.turn (.swap other)).Recalls (deck.since (deck.turn (.swap other)) earlier) ↔ deck.Keeps (.swap other) := by
  have inside := sound.inside
  obtain ⟨within, differs⟩ := fits
  have now : (deck.turn (.swap other)).now = deck.now := by
    rw [turn_swap inside within, Deck.now, Deck.now]
    simp only
    rw [List.getElem?_set_self (by simpa using within), List.getElem?_eq_getElem inside]
  have perm : (deck.turn (.swap other)).items.Perm deck.items := by
    rw [turn_swap inside within]
    exact List.set_set_perm inside within
  have recorded : (deck.turn (.swap other)).recorded = deck.recorded := by rw [turn_swap inside within]
  rw [since_same now, recalls_rearranged_iff recalls perm recorded now]
  refine forall₃_congr fun place _ placed => ?_
  rw [turn_swap inside within]
  simp only
  constructor
  next =>
    intro same
    constructor
    next =>
      rintro rfl
      rw [List.getElem?_set_ne differs, List.getElem?_set_self inside, ← List.getElem?_eq_getElem within] at same
      exact sound.apart within inside differs same
    next =>
      rintro rfl
      rw [List.getElem?_set_self (by simpa using within), ← List.getElem?_eq_getElem inside] at same
      exact sound.apart inside within (Ne.symm differs) same
  next =>
    rintro ⟨notCurrent, notOther⟩
    rw [List.getElem?_set_ne (Ne.symm notOther), List.getElem?_set_ne (Ne.symm notCurrent)]

theorem recalls_rotated_iff (recalls : deck.Recalls earlier) {deck' : Deck A} (perm : deck'.items.Perm deck.items)
    (recorded : deck'.recorded = deck.recorded) (now : deck'.now = deck.now)
    (rotated : ∀ place, place < deck.items.length -> deck'.items[place]? ≠ deck.items[place]?) :
    deck'.Recalls (deck.since deck' earlier) ↔ ∀ place, deck.recorded = some place -> deck.items.length ≤ place := by
  rw [since_same now, recalls_rearranged_iff recalls perm recorded now]
  refine forall₂_congr fun place _ => ?_
  constructor
  next =>
    intro same
    by_contra beyond
    exact rotated place (by omega) (same (by omega))
  next => exact fun beyond inside => absurd beyond (by omega)

theorem recalls_toEnd_iff (sound : deck.Sound) (recalls : deck.Recalls earlier) (fits : deck.Fits .toEnd) :
    (deck.turn .toEnd).Recalls (deck.since (deck.turn .toEnd) earlier) ↔ deck.Keeps .toEnd := by
  have inside := sound.inside
  obtain ⟨first, several⟩ := fits
  have whole : (deck.items.eraseIdx deck.current ++ [deck.items[deck.current]]).Perm deck.items :=
    (List.perm_append_singleton _ _).trans (List.getElem_cons_eraseIdx_perm inside)
  have length := List.length_eraseIdx_of_lt inside
  rw [turn_toEnd inside]
  refine recalls_rotated_iff recalls whole rfl ?_ ?_
  next =>
    simp only [now]
    rw [List.getElem?_append_right (by omega), length, Nat.sub_self, List.getElem?_cons_zero,
      List.getElem?_eq_getElem inside]
  next =>
    intro place placed
    simp only
    by_cases last : place + 1 < deck.items.length
    next =>
      rw [List.getElem?_append_left (by omega), List.getElem?_eraseIdx, if_neg (by omega)]
      exact sound.apart last placed (by omega)
    next =>
      have end_ : place = (deck.items.eraseIdx deck.current).length := by omega
      rw [List.getElem?_append_right (by omega), ← end_, Nat.sub_self, List.getElem?_cons_zero,
        ← List.getElem?_eq_getElem inside]
      exact sound.apart inside placed (by omega)

theorem recalls_toFront_iff (sound : deck.Sound) (recalls : deck.Recalls earlier) (fits : deck.Fits .toFront) :
    (deck.turn .toFront).Recalls (deck.since (deck.turn .toFront) earlier) ↔ deck.Keeps .toFront := by
  have inside := sound.inside
  obtain ⟨last, several⟩ := fits
  rw [turn_toFront inside]
  refine recalls_rotated_iff recalls (List.getElem_cons_eraseIdx_perm inside) rfl ?_ ?_
  next =>
    simp only [now]
    rw [List.getElem?_cons_zero, List.getElem?_eq_getElem inside]
  next =>
    intro place placed
    cases place with
    | zero =>
      simp only
      rw [List.getElem?_cons_zero, ← List.getElem?_eq_getElem inside]
      exact sound.apart inside placed (by omega)
    | succ place =>
      simp only
      rw [List.getElem?_cons_succ, List.getElem?_eraseIdx, if_pos (by omega)]
      exact sound.apart (by omega) placed (by omega)

omit [DecidableEq A] in
theorem notMem_eraseIdx (sound : deck.Sound) {index : Nat} (inside : index < deck.items.length) :
    deck.items[index] ∉ deck.items.eraseIdx index :=
  (List.nodup_cons.mp ((List.getElem_cons_eraseIdx_perm inside).nodup_iff.mpr sound.distinct)).1

omit [DecidableEq A] in
theorem now_remove (sound : deck.Sound) {index : Nat} (fits : deck.Fits (.remove index)) (other : index ≠ deck.current) :
    (deck.turn (.remove index)).now = deck.now := by
  have inside := sound.inside
  obtain ⟨within, several⟩ := fits
  simp only [Deck.turn, now, currentWithout, List.getElem?_eraseIdx]
  split
  next last =>
    -- The current element is the last one, so the removed one is before it.
    rw [if_neg (by omega)]
    congr 1
    omega
  next =>
    split
    next before =>
      rw [if_neg (by omega)]
      congr 1
      omega
    next => rw [if_pos (by omega)]

omit [DecidableEq A] in
theorem Recalls.gone (recalls : deck.Recalls earlier) (apart : earlier ≠ deck.now)
    (off : deck.target = none ∨ deck.target = deck.now) : ∀ a, earlier = some a -> a ∉ deck.items := by
  intro a same member
  have found := recalls.found a same member
  rcases off with none | now
  next => simp [none] at found
  next => exact apart (same.trans (found.symm.trans now))

theorem recalls_remove_iff (sound : deck.Sound) (recalls : deck.Recalls earlier) (apart : earlier ≠ deck.now) {index : Nat}
    (fits : deck.Fits (.remove index)) :
    (deck.turn (.remove index)).Recalls (deck.since (deck.turn (.remove index)) earlier) ↔ deck.Keeps (.remove index) := by
  have inside := sound.inside
  have sound' := turn_sound sound fits
  have length : (deck.turn (.remove index)).items.length = deck.items.length - 1 := List.length_eraseIdx_of_lt fits.1
  have recorded : (deck.turn (.remove index)).recorded = deck.recorded := rfl
  have subset : (deck.turn (.remove index)).items ⊆ deck.items := (List.eraseIdx_sublist ..).subset
  -- Once the earlier element is gone, the way back has to lead nowhere.
  have nowhere : ((deck.turn (.remove index)).target = none ∨
      (deck.turn (.remove index)).target = (deck.turn (.remove index)).now) ↔ ∀ place, deck.recorded = some place ->
        deck.items.length - 1 ≤ place ∨ place = deck.currentWithout index := by
    rw [off_iff sound', length, recorded]
    rfl
  by_cases active : index = deck.current
  next =>
    have here : deck.now = some deck.items[deck.current] := List.getElem?_eq_getElem inside
    have gone : deck.items[deck.current] ∉ (deck.turn (.remove index)).items := active ▸ notMem_eraseIdx sound inside
    have left : (deck.turn (.remove index)).now ≠ deck.now := by
      rw [here]
      exact fun same => gone (List.mem_of_getElem? same)
    rw [since_left left, here, recalls_gone_iff (by simpa using gone), nowhere]
    refine forall₂_congr fun place _ => ?_
    omega
  next =>
    rw [since_same (now_remove sound fits active)]
    by_cases off : deck.target = none ∨ deck.target = deck.now
    next =>
      have gone := recalls.gone apart off
      rw [recalls_gone_iff fun a same member => gone a same (subset member), nowhere]
      refine forall₂_congr fun place is => ?_
      have beyond := (off_iff sound).mp off place is
      have bounds := fits.1
      unfold currentWithout
      split
      next => omega
      next => split <;> omega
    next =>
      -- The way back leads to the earlier element, which is not the current one.
      obtain ⟨a, rfl⟩ : ∃ a, earlier = some a := by
        by_contra nobody
        exact off (recalls.lost fun a same => absurd ⟨a, same⟩ nobody)
      have member : a ∈ deck.items := by
        by_contra gone
        exact off (recalls.lost fun b same => Option.some.inj same ▸ gone)
      have target := recalls.found a rfl member
      obtain ⟨place, is, there⟩ := Option.bind_eq_some_iff.mp target
      obtain ⟨placed, rfl⟩ := List.getElem?_eq_some_iff.mp there
      have differs : place ≠ deck.current := by
        rintro rfl
        exact off (.inr (target.trans (List.getElem?_eq_getElem placed).symm))
      have only : deck.Keeps (.remove index) ↔ index ≠ deck.current ∧ place < index ∨
          place = index ∧ (place + 1 = deck.items.length ∨ place = deck.currentWithout index) := by
        simp only [Keeps, is, Option.some.injEq, forall_eq', placed, true_imp_iff]
        omega
      rw [only]
      rcases Nat.lt_trichotomy place index with before | rfl | behind
      next =>
        refine iff_of_true (recalls.stays subset ?_ (now_remove sound fits active)) (.inl ⟨active, before⟩)
        rw [Deck.target, recorded, is, target]
        exact (List.getElem?_eraseIdx_of_lt before).trans there
      next =>
        have gone : deck.items[place] ∉ (deck.turn (.remove place)).items := notMem_eraseIdx sound placed
        rw [recalls_gone_iff (by simpa using gone), nowhere]
        simp only [is, Option.some.injEq, forall_eq', Nat.lt_irrefl, and_false, false_or, true_and]
        omega
      next =>
        have moved : (deck.turn (.remove index)).items[place - 1]? = some deck.items[place] := by
          refine (List.getElem?_eraseIdx_of_ge (by omega)).trans ?_
          rw [Nat.sub_add_cancel (by omega)]
          exact there
        rw [recalls_left moved sound'.distinct, recorded, is]
        simp only [Option.some.injEq]
        omega

structure Remembers (deck : Deck A) (earlier : Option A) : Prop where
  sound : deck.Sound
  recalls : deck.Recalls earlier
  apart : earlier ≠ deck.now

theorem recalls_turn_iff (remembers : deck.Remembers earlier) {turn : Turn A} (fits : deck.Fits turn) :
    (deck.turn turn).Recalls (deck.since (deck.turn turn) earlier) ↔ deck.Keeps turn := by
  obtain ⟨sound, recalls, apart⟩ := remembers
  have inside := sound.inside
  -- A turn records the place it leaves, brings in an element or rearranges the list: one lemma above for each.
  cases turn with
  | stay => exact iff_of_true (recalls_unchanged recalls) trivial
  | visit place =>
    refine iff_of_true ?_ trivial
    simp only [Deck.turn]
    by_cases same : place = deck.current
    next =>
      subst same
      rw [if_neg (by simp)]
      exact recalls_unchanged recalls
    next =>
      rw [if_pos same]
      exact (recalls_jump_iff sound fits same _).mpr rfl
  | jump place =>
    show _ ↔ place = deck.current ∨ deck.recorded = some deck.current
    by_cases same : place = deck.current
    next =>
      subst same
      exact iff_of_true (recalls_unchanged recalls) (.inl rfl)
    next => rw [or_iff_right same, ← recalls_jump_iff sound fits same deck.recorded]; rfl
  | back =>
    refine iff_of_true ?_ trivial
    rcases turn_back_cases deck with same | ⟨place, recorded, placed, back⟩
    next =>
      rw [same]
      exact recalls_unchanged recalls
    next =>
      rw [back]
      by_cases same : place = deck.current
      next =>
        have still : ({ deck with current := place, recorded := some deck.current } : Deck A) = deck := by
          subst same
          rw [← recorded]
        rw [still]
        exact recalls_unchanged recalls
      next => exact (recalls_jump_iff sound placed same _).mpr rfl
  | append a =>
    refine recalls_add_iff sound (turn_sound sound fits) fits ?_ ?_
    next => exact List.getElem?_concat_length
    next => exact List.getElem?_append_left inside
  | insert a =>
    refine iff_of_true ((recalls_add_iff sound (turn_sound sound fits) fits ?_ ?_).mpr rfl) trivial
    next => exact List.getElem?_insertIdx_self.trans (if_pos inside)
    next => exact List.getElem?_insertIdx_of_lt (Nat.lt_succ_self _)
  | remove index => exact recalls_remove_iff sound recalls apart fits
  | swap other => exact recalls_swap_iff sound recalls fits
  | toEnd => exact recalls_toEnd_iff sound recalls fits
  | toFront => exact recalls_toFront_iff sound recalls fits

theorem Remembers.turn (remembers : deck.Remembers earlier) {turn : Turn A} (fits : deck.Fits turn) (keeps : deck.Keeps turn) :
    (deck.turn turn).Remembers (deck.since (deck.turn turn) earlier) where
  sound := turn_sound remembers.sound fits
  recalls := (recalls_turn_iff remembers fits).mpr keeps
  apart := since_apart remembers.apart

end Deck

end Recall
