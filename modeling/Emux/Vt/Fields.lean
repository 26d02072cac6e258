import Mathlib.Data.List.Induction
import Emux.Vt.Sequences

set_option autoImplicit false

/-!
# The fields of a parameter string

What the accumulator makes of a string of digits, `;` and `:`, compared with the string cut at its separators. A `:` at
the very end opens a field that the accumulator has no mark for.
-/

namespace Emux

namespace Params

def isSeparator (byte : Byte) : Bool := byte == 0x3b || byte == 0x3a

def fields (text : Bytes) : List Bytes := text.splitOnP isSeparator

/-- For each field whether a `:` introduced it; nothing introduced the first. -/
def colons (text : Bytes) : List Bool := false :: (text.filter isSeparator).map (· == 0x3a)

def number (digits : Bytes) : Nat := digits.foldl (fun sum digit => sum * 10 + (digit.toNat - 0x30)) 0

/-- An empty field counts as `0`. -/
def fieldValue (field : Bytes) : Nat := min (number field) u16Max

theorem fields_separator {byte : Byte} (separator : isSeparator byte = true) (text : Bytes) :
    fields (text ++ [byte]) = fields text ++ [[]] := by
  rw [fields, List.splitOnP_append_cons _ _ separator]
  rfl

theorem fields_digit {byte : Byte} (digit : isSeparator byte = false) (text : Bytes) :
    ∃ closed last, fields text = closed ++ [last] ∧ fields (text ++ [byte]) = closed ++ [last ++ [byte]] := by
  induction text with
  | nil => exact ⟨[], [], rfl, by simp [fields, List.splitOnP_cons_eq_if_modifyHead, digit]⟩
  | cons first rest ih =>
    obtain ⟨closed, last, before, after⟩ := ih
    unfold fields at before after ⊢
    rw [List.cons_append, List.splitOnP_cons_eq_if_modifyHead, List.splitOnP_cons_eq_if_modifyHead, before, after]
    split
    next => exact ⟨[] :: closed, last, rfl, rfl⟩
    next =>
      cases closed with
      | nil => exact ⟨[], first :: last, rfl, rfl⟩
      | cons head closed => exact ⟨(first :: head) :: closed, last, rfl, rfl⟩

theorem colons_separator {byte : Byte} (separator : isSeparator byte = true) (text : Bytes) :
    colons (text ++ [byte]) = colons text ++ [byte == 0x3a] := by
  simp [colons, separator]

theorem colons_digit {byte : Byte} (digit : isSeparator byte = false) (text : Bytes) :
    colons (text ++ [byte]) = colons text := by
  simp [colons, digit]

theorem length_fields (text : Bytes) : (fields text).length = (text.filter isSeparator).length + 1 := by
  induction text using List.reverseRecOn with
  | nil => rfl
  | append_singleton text byte ih =>
    cases separator : isSeparator byte with
    | true => simp [fields_separator separator, ih, separator]
    | false =>
      obtain ⟨closed, last, before, after⟩ := fields_digit separator text
      rw [before] at ih
      simpa [after, separator] using ih

theorem number_concat (digits : Bytes) (digit : Byte) :
    number (digits ++ [digit]) = number digits * 10 + (digit.toNat - 0x30) := by
  simp [number]

/-- The accumulator holds the closed fields as far as there is room and the open one by its value. -/
structure Reads (p : Params) (closed : List Bytes) (last : Bytes) (flags : List Bool) (flag : Bool) : Prop where
  same : flags.length = closed.length
  values : p.values = (closed.map fieldValue).take maxParams
  subparamFlags : p.subparamFlags = flags.take maxParams
  current : p.current = min (number last) u32Max
  hasCurrent : p.hasCurrent = true ↔ last ≠ []
  pendingColon : p.pendingColon = flag

variable {p : Params} {closed : List Bytes} {last : Bytes} {flags : List Bool} {flag : Bool}

theorem Reads.pendingValue (reads : p.Reads closed last flags flag) : p.pendingValue = fieldValue last := by
  rw [Params.pendingValue, reads.current, fieldValue]
  split
  next => simp only [u32Max, u16Max]; omega
  next none =>
    have empty : last = [] := not_not.mp fun some => none (reads.hasCurrent.mpr some)
    rw [empty]
    rfl

theorem Reads.push_digit (reads : p.Reads closed last flags flag) {byte : Byte} (digit : within 0x30 0x39 byte = true) :
    (p.push byte).Reads closed (last ++ [byte]) flags flag := by
  rw [push, if_pos digit]
  refine ⟨reads.same, reads.values, reads.subparamFlags, ?_, by simp, reads.pendingColon⟩
  simp only [number_concat, reads.current, u32Max]
  omega

theorem Reads.closeValue (reads : p.Reads closed last flags flag) :
    p.closeValue.values = ((closed ++ [last]).map fieldValue).take maxParams ∧
      p.closeValue.subparamFlags = (flags ++ [flag]).take maxParams ∧
      p.closeValue.current = 0 ∧ p.closeValue.hasCurrent = false := by
  have same := reads.same
  unfold Params.closeValue
  rw [reads.pendingValue, reads.pendingColon, reads.values, reads.subparamFlags]
  by_cases room : closed.length < maxParams
  next =>
    rw [if_pos (by simp; omega), List.take_of_length_le (by simp; omega), List.take_of_length_le (by omega),
      List.take_of_length_le (by simp; omega), List.take_of_length_le (by simp; omega)]
    simp
  next =>
    rw [if_neg (by simp; omega)]
    refine ⟨?_, ?_, rfl, rfl⟩
    next => rw [List.map_append, List.take_append_of_le_length (by simp; omega)]
    next => rw [List.take_append_of_le_length (by omega)]

theorem Reads.push_separator (reads : p.Reads closed last flags flag) {byte : Byte} (separator : isSeparator byte = true) :
    (p.push byte).Reads (closed ++ [last]) [] (flags ++ [flag]) (byte == 0x3a) := by
  obtain ⟨values, subparamFlags, current, hasCurrent⟩ := reads.closeValue
  have same : (flags ++ [flag]).length = (closed ++ [last]).length := by simp [reads.same]
  simp only [isSeparator, Bool.or_eq_true, beq_iff_eq] at separator
  rcases separator with rfl | rfl
  next => exact ⟨same, values, subparamFlags, current, by simp [push, within, hasCurrent], rfl⟩
  next => exact ⟨same, values, subparamFlags, current, by simp [push, within, hasCurrent], rfl⟩

theorem isParamByte_cases {byte : Byte} (param : Parser.isParamByte byte = true) :
    within 0x30 0x39 byte = true ∧ isSeparator byte = false ∨ isSeparator byte = true := by
  have range := within_iff.mp param
  simp only [within_iff, isSeparator, Bool.or_eq_true, Bool.or_eq_false_iff, beq_iff_eq, beq_eq_false_iff_ne,
    ← UInt8.toNat_inj, UInt8.reduceToNat, ne_eq]
  omega

theorem of_concat (text : Bytes) (byte : Byte) : Params.of (text ++ [byte]) = (Params.of text).push byte := by
  simp [Params.of]

theorem reads_of {text : Bytes} (areParams : ∀ byte ∈ text, Parser.isParamByte byte = true) :
    ∃ closed last flags flag, fields text = closed ++ [last] ∧ colons text = flags ++ [flag] ∧
      (Params.of text).Reads closed last flags flag := by
  induction text using List.reverseRecOn with
  | nil => exact ⟨[], [], [], false, rfl, rfl, rfl, rfl, rfl, rfl, by simp [Params.of], rfl⟩
  | append_singleton text byte ih =>
    obtain ⟨closed, last, flags, flag, cut, marked, reads⟩ := ih fun b member => areParams b (List.mem_append_left _ member)
    rw [of_concat]
    rcases isParamByte_cases (areParams byte (by simp)) with ⟨digit, plain⟩ | separator
    next =>
      obtain ⟨front, open', before, after⟩ := fields_digit plain text
      obtain ⟨rfl, same⟩ := List.append_inj' (before.symm.trans cut) rfl
      obtain rfl := List.singleton_inj.mp same
      exact ⟨front, _, flags, flag, after, (colons_digit plain text).trans marked, reads.push_digit digit⟩
    next =>
      refine ⟨closed ++ [last], [], flags ++ [flag], byte == 0x3a, ?_, ?_, reads.push_separator separator⟩
      next => rw [fields_separator separator, cut]
      next => rw [colons_separator separator, marked]

def Pending (p : Params) : Prop := p.values.length < maxParams ∧ (p.hasCurrent = true ∨ p.trailingSep = true)

theorem finished_pending (pending : p.Pending) : p.finished = p.values ++ [p.pendingValue] := by
  obtain ⟨room, known⟩ := pending
  rw [finished, if_pos room, pendingValue]
  cases has : p.hasCurrent with
  | true => rfl
  | false => simp [known.resolve_left (by simp [has])]

theorem finished_done (done : ¬p.Pending) : p.finished = p.values := by
  rw [finished]
  by_cases room : p.values.length < maxParams
  next =>
    have unknown := not_or.mp fun known => done ⟨room, known⟩
    rw [if_pos room, if_neg unknown.1, if_neg unknown.2]
  next => rw [if_neg room]

theorem get_eq (p : Params) (index default : Nat) : p.get index default = p.finished[index]?.getD default := by
  by_cases pending : p.Pending
  next =>
    have length : p.finishedLen = p.values.length + 1 := if_pos pending
    rw [Params.get, finished_pending pending, length]
    rcases Nat.lt_trichotomy index p.values.length with stored | rfl | beyond
    next =>
      rw [if_neg (by omega), List.getElem?_append_left stored, List.getElem?_eq_getElem stored]
      rfl
    next => rw [if_neg (by omega), List.getElem?_eq_none le_rfl, List.getElem?_concat_length, Option.getD_some]
    next =>
      rw [if_pos (by omega), List.getElem?_eq_none (by simp; omega)]
      rfl
  next =>
    have length : p.finishedLen = p.values.length := if_neg pending
    rw [Params.get, finished_done pending, length]
    by_cases stored : index < p.values.length
    next =>
      rw [if_neg (by omega), List.getElem?_eq_getElem stored]
      rfl
    next =>
      rw [if_pos (by omega), List.getElem?_eq_none (by omega)]
      rfl

def ReadsFields (text : Bytes) : Prop :=
  (Params.of text).finished = ((fields text).map fieldValue).take maxParams ∧
  (Params.of text).finishedSubparamFlags.length = (Params.of text).finished.length ∧
  (Params.of text).finishedSubparamFlags = (colons text).take maxParams ∧
  ∀ index default, (Params.of text).get index default = (Params.of text).finished[index]?.getD default

theorem Reads.length_values (reads : p.Reads closed last flags flag) :
    p.values.length = min maxParams closed.length ∧ p.subparamFlags.length = p.values.length := by
  rw [reads.values, reads.subparamFlags]
  simp [reads.same]

theorem Reads.full (reads : p.Reads closed last flags flag) (full : maxParams ≤ closed.length) :
    p.finished = ((closed ++ [last]).map fieldValue).take maxParams ∧
      p.finishedSubparamFlags = (flags ++ [flag]).take maxParams := by
  have lengths := reads.length_values
  have same := reads.same
  constructor
  next =>
    rw [finished_done (fun pending => by have := pending.1; omega), reads.values, List.map_append,
      List.take_append_of_le_length (by simpa using full)]
  next =>
    rw [finishedSubparamFlags, if_neg (by omega), if_neg (by omega), reads.subparamFlags,
      List.take_append_of_le_length (by omega)]

theorem Reads.open_field (reads : p.Reads closed last flags flag) (room : closed.length < maxParams)
    (known : last ≠ [] ∨ p.trailingSep = true ∧ flag = false) :
    p.finished = ((closed ++ [last]).map fieldValue).take maxParams ∧
      p.finishedSubparamFlags = (flags ++ [flag]).take maxParams := by
  have lengths := reads.length_values
  have same := reads.same
  have stored : p.values = closed.map fieldValue := by
    rw [reads.values, List.take_of_length_le (by simp; omega)]
  have marks : p.subparamFlags = flags := by rw [reads.subparamFlags, List.take_of_length_le (by omega)]
  constructor
  next =>
    have pending : p.Pending := ⟨by omega, known.imp reads.hasCurrent.mpr And.left⟩
    rw [finished_pending pending, reads.pendingValue, stored, List.take_of_length_le (by simp; omega)]
    simp
  next =>
    rw [finishedSubparamFlags, marks, reads.pendingColon, List.take_of_length_le (by simp; omega)]
    by_cases has : p.hasCurrent = true
    next => rw [if_pos ⟨has, by omega⟩]
    next =>
      obtain ⟨trailing, rfl⟩ := known.resolve_left fun some => has (reads.hasCurrent.mpr some)
      rw [if_neg (fun both => has both.1), if_pos ⟨trailing, has, by omega⟩]

theorem Reads.lost_field (reads : p.Reads closed [] flags true) (room : closed.length < maxParams) :
    ¬(p.finished = ((closed ++ [[]]).map fieldValue).take maxParams ∧
      p.finishedSubparamFlags = (flags ++ [true]).take maxParams) := by
  rintro ⟨values, marks⟩
  have lengths := reads.length_values
  have same := reads.same
  have none : ¬p.hasCurrent = true := fun has => reads.hasCurrent.mp has rfl
  by_cases trailing : p.trailingSep = true
  next =>
    rw [finishedSubparamFlags, if_neg (fun both => none both.1), if_pos ⟨trailing, none, by omega⟩, reads.subparamFlags,
      List.take_of_length_le (by omega), List.take_of_length_le (by simp; omega)] at marks
    simp at marks
  next =>
    rw [finished_done (fun pending => pending.2.elim none trailing)] at values
    have length := congrArg List.length values
    simp only [List.length_take, List.length_map, List.length_append, List.length_singleton] at length
    omega

theorem readsFields_of {text : Bytes} (cut : fields text = closed ++ [last]) (marked : colons text = flags ++ [flag])
    (same : flags.length = closed.length) :
    ReadsFields text ↔ (Params.of text).finished = ((closed ++ [last]).map fieldValue).take maxParams ∧
      (Params.of text).finishedSubparamFlags = (flags ++ [flag]).take maxParams := by
  unfold ReadsFields
  rw [cut, marked]
  constructor
  next => exact fun ⟨values, _, marks, _⟩ => ⟨values, marks⟩
  next => exact fun ⟨values, marks⟩ => ⟨values, by rw [values, marks]; simp [same], marks, get_eq _⟩

theorem open_of_last {byte : Byte} (param : Parser.isParamByte byte = true) (p : Params) :
    if byte = 0x3a then (p.push byte).hasCurrent = false ∧ (p.push byte).pendingColon = true
    else (p.push byte).hasCurrent = true ∨ (p.push byte).trailingSep = true ∧ (p.push byte).pendingColon = false := by
  rcases isParamByte_cases param with ⟨digit, plain⟩ | separator
  next =>
    have notColon : byte ≠ 0x3a := by
      rintro rfl
      simp [isSeparator] at plain
    rw [if_neg notColon, push, if_pos digit]
    exact .inl rfl
  next =>
    have cleared : p.closeValue.hasCurrent = false := by
      unfold closeValue
      split <;> rfl
    simp only [isSeparator, Bool.or_eq_true, beq_iff_eq] at separator
    rcases separator with rfl | rfl
    next => exact .inr ⟨rfl, rfl⟩
    next => exact ⟨cleared, rfl⟩

theorem readsFields_iff {text : Bytes} (areParams : ∀ byte ∈ text, Parser.isParamByte byte = true) (some : text ≠ []) :
    ReadsFields text ↔ text.getLast? ≠ .some 0x3a ∨ maxParams ≤ (text.filter isSeparator).length := by
  obtain ⟨closed, last, flags, flag, cut, marked, reads⟩ := reads_of areParams
  have separators : (text.filter isSeparator).length = closed.length := by
    have length := length_fields text
    rw [cut, List.length_append, List.length_singleton] at length
    omega
  rw [readsFields_of cut marked reads.same, separators]
  by_cases full : maxParams ≤ closed.length
  next => exact ⟨fun _ => .inr full, fun _ => reads.full full⟩
  next =>
    obtain ⟨front, byte, rfl⟩ := (List.eq_nil_or_concat' text).resolve_left some
    have final := open_of_last (areParams byte (by simp)) (Params.of front)
    rw [← of_concat] at final
    rw [List.getLast?_concat, or_iff_left full, ne_eq, Option.some_inj]
    by_cases colon : byte = 0x3a
    next =>
      rw [if_pos colon, reads.pendingColon] at final
      obtain ⟨none, rfl⟩ := final
      have empty : last = [] := not_not.mp fun open' => by simp [reads.hasCurrent.mpr open'] at none
      subst empty
      exact ⟨fun holds => absurd holds (reads.lost_field (Nat.lt_of_not_le full)), fun different => absurd colon different⟩
    next =>
      rw [if_neg colon, reads.hasCurrent, reads.pendingColon] at final
      exact ⟨fun _ => colon, fun _ => reads.open_field (Nat.lt_of_not_le full) final⟩

theorem readsFields_iff_mixed : ReadsFields [0x34, 0x3b, 0x33, 0x31, 0x3a, 0x32] ↔
    ([0x34, 0x3b, 0x33, 0x31, 0x3a, 0x32] : Bytes).getLast? ≠ some 0x3a ∨
      maxParams ≤ (([0x34, 0x3b, 0x33, 0x31, 0x3a, 0x32] : Bytes).filter isSeparator).length :=
  readsFields_iff (by simp [Parser.isParamByte, within]) (by decide)

/-- `4:` has two fields, of which the accumulator hands out one. -/
theorem trailing_colon_lost : ¬ReadsFields [0x34, 0x3a] := by
  rintro ⟨values, -⟩
  revert values
  decide

end Params

end Emux
