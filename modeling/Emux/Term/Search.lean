import Mathlib.Algebra.GroupWithZero.Nat
import Emux.Library.Codes
import Emux.Term.Text
import Emux.Vt.Streams

set_option autoImplicit false

/-!
# Searching rows

A search that ignores case looks for the lowercased query in a lowercased copy of each row, and
reports the columns of the copy.
-/

namespace Emux

open Checked Codes Leftmost
open Emux.Parser (encodeText)

/-- The Unicode tables of `char`. -/
structure CaseTables where
  lower : Char -> List Char
  cased : Char -> Bool
  caseIgnorable : Char -> Bool
  lower_ne_nil : ∀ c, lower c ≠ []

namespace CaseTables

variable (tables : CaseTables)

def caseIgnorableThenCased (chars : List Char) : Bool :=
  match chars.dropWhile tables.caseIgnorable with
  | c :: _ => tables.cased c
  | [] => false

/-- `before` holds the characters before this one, the last one first. -/
def lowerFrom : List Char -> List Char -> List Char
  | _, [] => []
  | before, c :: rest =>
    (if c = 'Σ' then
      (if tables.caseIgnorableThenCased before && !tables.caseIgnorableThenCased rest then ['ς'] else ['σ'])
    else tables.lower c) ++ lowerFrom (c :: before) rest

def toLowercase (text : List Char) : List Char := tables.lowerFrom [] text

def compared (caseSensitive : Bool) (text : List Char) : List Char :=
  if caseSensitive then text else tables.toLowercase text

end CaseTables

structure SearchMatch where
  row : Nat
  col : Nat
  len : Nat
  deriving DecidableEq, Repr

/-- `chars().count()`: the bytes that do not continue a character. -/
def charCount (text : Bytes) : Nat := (text.filter fun byte => !within 0x80 0xBF byte).length

/-- The loop over one row, from a byte on. -/
def findInRow (haystack query : Bytes) (row : Nat) : Nat -> Nat -> Fallible (List SearchMatch)
  | 0, _ => .ok []
  | fuel + 1, start => do
    let rest <- sliceText haystack start haystack.length
    match find query rest with
    | none => .ok []
    | some pos => do
      let byteOffset := start + pos
      let before <- sliceText haystack 0 byteOffset
      let later <- findInRow haystack query row fuel (byteOffset + max query.length 1)
      .ok ({ row, col := charCount before, len := charCount query } :: later)

def findAllMatches (tables : CaseTables) (texts : List (List Char)) (query : List Char) (caseSensitive : Bool) :
    Fallible (List SearchMatch) :=
  if query.isEmpty then .ok []
  else
    let queryCmp := encodeText (tables.compared caseSensitive query)
    forEach texts.zipIdx fun (text, rowIdx) =>
      let haystack := encodeText (tables.compared caseSensitive text)
      findInRow haystack queryCmp rowIdx (haystack.length + 1) 0

namespace CaseTables

variable (tables : CaseTables) (caseSensitive : Bool)

def Occurs (row query : List Char) (col len : Nat) : Prop :=
  0 < len ∧ col + len ≤ row.length ∧
    tables.compared caseSensitive ((row.drop col).take len) = tables.compared caseSensitive query

def Shows (row query : List Char) (col len : Nat) : Prop :=
  0 < len ∧ len = (tables.compared caseSensitive query).length ∧
    tables.compared caseSensitive query <+: (tables.compared caseSensitive row).drop col

/-- The matches are the leftmost occurrences that do not overlap, by row and column. -/
structure FindsExactly (texts : List (List Char)) (query : List Char) (found : List SearchMatch) : Prop where
  sorted : found.Pairwise fun first second =>
    first.row < second.row ∨ first.row = second.row ∧ first.col + first.len ≤ second.col
  occurs : ∀ hit ∈ found, ∃ row, texts[hit.row]? = some row ∧ tables.Occurs caseSensitive row query hit.col hit.len
  covers : ∀ (r : Nat) (row : List Char), texts[r]? = some row -> ∀ col len, tables.Occurs caseSensitive row query col len ->
    ∃ hit ∈ found, hit.row = r ∧ hit.col ≤ col ∧ col < hit.col + hit.len

/-- Wherever no leftmost occurrence reaches, the copies of row and query agree with the row and the query. -/
def Aligned (query row : List Char) : Prop :=
  ∀ taken, From (tables.Occurs false row query) 0 taken -> ∀ col, Free taken col ->
    ∀ len, tables.Occurs false row query col len ↔ tables.Shows false row query col len

end CaseTables

def leadsText (byte : Byte) : Bool := !within 0x80 0xBF byte

theorem utf8_begins (c : Char) : ∃ first rest, String.utf8EncodeChar c = first :: rest ∧ leadsText first = true ∧
    ∀ byte ∈ rest, leadsText byte = false := by
  have scalar : c.toNat < 0xD800 ∨ 0xDFFF < c.toNat ∧ c.toNat < 0x110000 := c.valid
  have value : c.val.toNat = c.toNat := rfl
  simp only [String.utf8EncodeChar, value]
  have continues {n : Nat} : leadsText (UInt8.ofNat (n % 0x40 + 0x80)) = false := by
    simp only [leadsText, Bool.not_eq_false', within_iff, toNat_byte (show n % 0x40 + 0x80 < 256 by omega)]
    omega
  have leads {n : Nat} (small : n < 256) (range : n < 0x80 ∨ 0xC0 ≤ n) : leadsText (UInt8.ofNat n) = true := by
    simp only [leadsText, Bool.not_eq_true', Bool.eq_false_iff, ne_eq, within_iff, toNat_byte small]
    omega
  split_ifs with one two three
  next => exact ⟨_, [], rfl, leads (by omega) (by omega), by simp⟩
  next => exact ⟨_, _, rfl, leads (by omega) (by omega), List.forall_mem_singleton.mpr continues⟩
  next =>
    exact ⟨_, _, rfl, leads (by omega) (by omega),
      List.forall_mem_cons.mpr ⟨continues, List.forall_mem_singleton.mpr continues⟩⟩
  next =>
    exact ⟨_, _, rfl, leads (by omega) (by omega),
      List.forall_mem_cons.mpr ⟨continues, List.forall_mem_cons.mpr ⟨continues, List.forall_mem_singleton.mpr continues⟩⟩⟩

theorem utf8_synchronising : Synchronising String.utf8EncodeChar leadsText where
  prefixFree := by
    intro c d after rest same
    have decoded : ∀ (e : Char) (tail : Bytes),
        (String.utf8EncodeChar e ++ tail).toByteArray.utf8DecodeChar? 0 = some e := by
      intro e tail
      rw [List.toByteArray_append]
      exact ByteArray.utf8DecodeChar?_utf8EncodeChar_append
    have first := decoded c after
    rw [same, decoded d rest] at first
    exact (Option.some.inj first).symm
  begins := utf8_begins

theorem isCharBoundary_offset (text : List Char) (k : Nat) :
    isCharBoundary (encodeText text) (offset String.utf8EncodeChar text k) = true := by
  rcases Nat.lt_or_ge k text.length with inside | past
  next =>
    obtain ⟨c, rest, cut⟩ := List.exists_cons_of_ne_nil (show text.drop k ≠ [] by simpa using inside)
    obtain ⟨first, tail, word, leads, -⟩ := utf8_begins c
    have at_k : (encodeText text)[offset String.utf8EncodeChar text k]? = some first := by
      have dropped : (encode String.utf8EncodeChar text).drop (offset String.utf8EncodeChar text k) =
          encode String.utf8EncodeChar (text.drop k) := encode_drop_offset text k
      rw [cut, encode_cons, word] at dropped
      have head := congrArg List.head? dropped
      rw [List.head?_drop] at head
      exact head
    have lead : (!within 0x80 0xBF first) = true := leads
    simp [isCharBoundary, at_k, lead]
  next =>
    have whole : offset String.utf8EncodeChar text k = (encodeText text).length := by
      rw [offset, List.take_of_length_le past]
      rfl
    simp [isCharBoundary, whole]

theorem sliceText_offset (text : List Char) {j k : Nat} (le : j ≤ k) :
    sliceText (encodeText text) (offset String.utf8EncodeChar text j) (offset String.utf8EncodeChar text k) =
      .ok (encodeText ((text.take k).drop j)) := by
  have order : offset String.utf8EncodeChar text j ≤ offset String.utf8EncodeChar text k := by
    obtain ⟨len, rfl⟩ := Nat.exists_eq_add_of_le le
    rw [offset_add]
    exact Nat.le_add_right _ _
  have cut : offset String.utf8EncodeChar text j = offset String.utf8EncodeChar (text.take k) j := by
    rw [offset, offset, List.take_take, Nat.min_eq_left le]
  rw [sliceText, if_pos ⟨order, offset_le text k, isCharBoundary_offset text j, isCharBoundary_offset text k⟩,
    show encodeText text = encode String.utf8EncodeChar text from rfl, encode_take_offset, cut, encode_drop_offset]
  rfl

theorem charCount_encode (text : List Char) : charCount (encodeText text) = text.length :=
  utf8_synchronising.leads_length text

def Stands (query row : List Char) (col len : Nat) : Prop := len = query.length ∧ query <+: row.drop col

theorem stands_bounds {query row : List Char} (some : query ≠ []) {col len : Nat} (stands : Stands query row col len) :
    col + len ≤ row.length ∧ 0 < len := by
  obtain ⟨rfl, here⟩ := stands
  have long := List.length_pos_iff.mpr some
  have fits := here.length_le
  rw [List.length_drop] at fits
  omega

theorem findInRow_leftmost {query row : List Char} (some : query ≠ []) {fuel : Nat} {start : Nat}
    (enough : row.length < start + fuel) (inside : start ≤ row.length) :
    ∃ taken, From (Stands query row) start taken ∧ ∀ number,
      findInRow (encodeText row) (encodeText query) number fuel (offset String.utf8EncodeChar row start) =
        .ok (taken.map fun (col, len) => { row := number, col, len }) := by
  induction fuel generalizing start with
  | zero => omega
  | succ fuel ih =>
    have whole : (encodeText row).length = offset String.utf8EncodeChar row row.length := by
      rw [offset, List.take_length]
      rfl
    have rest := sliceText_offset row inside
    rw [List.take_length, ← whole] at rest
    -- Where the next occurrence begins, in bytes and in characters.
    have found : find (encodeText query) (encodeText (row.drop start)) =
        (find query (row.drop start)).map (offset String.utf8EncodeChar (row.drop start)) :=
      utf8_synchronising.find_encode some
    simp only [findInRow, rest, ok_bind, found]
    cases first : find query (row.drop start) with
    | none =>
      refine ⟨[], From.nil fun col len after stands => ?_, fun _ => rfl⟩
      have bounds := stands_bounds some stands
      refine find_eq_none_iff.mp first (col - start) (by rw [List.length_drop]; omega) ?_
      rw [List.drop_drop, Nat.add_sub_cancel' after]
      exact stands.2
    | some j =>
      obtain ⟨near, here, before⟩ := find_eq_some_iff.mp first
      rw [List.length_drop] at near
      rw [List.drop_drop] at here
      have stands : Stands query row (start + j) query.length := ⟨rfl, here⟩
      have bounds := stands_bounds some stands
      have byteOffset : offset String.utf8EncodeChar row start + offset String.utf8EncodeChar (row.drop start) j =
          offset String.utf8EncodeChar row (start + j) := (offset_add row start j).symm
      have next : offset String.utf8EncodeChar row (start + j) + max (encodeText query).length 1 =
          offset String.utf8EncodeChar row (start + j + query.length) := by
        have long : query.length ≤ (encodeText query).length := utf8_synchronising.length_le query
        have cut : (row.drop (start + j)).take query.length = query := List.prefix_iff_eq_take.mp here |>.symm
        rw [offset_add row (start + j) query.length, cut, Nat.max_eq_left (by omega)]
        rfl
      obtain ⟨taken, leftmost, later⟩ := @ih (start + j + query.length) (by omega) bounds.1
      refine ⟨(start + j, query.length) :: taken, From.cons (by omega) stands ?_ leftmost, fun number => ?_⟩
      next =>
        intro earlier len after early other
        refine before (earlier - start) (by omega) ?_
        rw [List.drop_drop, Nat.add_sub_cancel' after]
        exact other.2
      next =>
        have front := sliceText_offset row (Nat.zero_le (start + j))
        rw [show offset String.utf8EncodeChar row 0 = 0 from rfl, List.drop_zero] at front
        simp only [Option.map_some, byteOffset, front, ok_bind, next, later, charCount_encode, List.length_take,
          List.map_cons]
        rw [Nat.min_eq_left (by omega)]

def allMatches (texts : List (List Char)) (takenOf : List Char -> List (Nat × Nat)) : List SearchMatch :=
  texts.zipIdx.flatMap fun (text, row) => (takenOf text).map fun (col, len) => { row, col, len }

theorem mem_allMatches {texts : List (List Char)} {takenOf : List Char -> List (Nat × Nat)} {hit : SearchMatch} :
    hit ∈ allMatches texts takenOf ↔ ∃ text, texts[hit.row]? = some text ∧ (hit.col, hit.len) ∈ takenOf text := by
  rw [allMatches, List.mem_flatMap]
  constructor
  next =>
    rintro ⟨⟨text, row⟩, member, isIn⟩
    obtain ⟨⟨col, len⟩, taken, rfl⟩ := List.mem_map.mp isIn
    exact ⟨text, List.mk_mem_zipIdx_iff_getElem?.mp member, taken⟩
  next =>
    rintro ⟨text, at_, taken⟩
    exact ⟨(text, hit.row), List.mk_mem_zipIdx_iff_getElem?.mpr at_, List.mem_map.mpr ⟨_, taken, rfl⟩⟩

theorem allMatches_sorted (texts : List (List Char)) {takenOf : List Char -> List (Nat × Nat)}
    (apart : ∀ text, (takenOf text).Pairwise fun first second => first.1 + first.2 ≤ second.1) :
    (allMatches texts takenOf).Pairwise fun first second =>
      first.row < second.row ∨ first.row = second.row ∧ first.col + first.len ≤ second.col := by
  have numbers : texts.zipIdx.Pairwise fun one other => one.2 < other.2 := by
    rw [← List.pairwise_map (R := (· < ·)), List.zipIdx_map_snd]
    exact List.pairwise_lt_range'
  rw [allMatches, List.pairwise_flatMap]
  constructor
  next =>
    rintro ⟨text, row⟩ -
    rw [List.pairwise_map]
    exact (apart text).imp fun before => Or.inr ⟨rfl, before⟩
  next =>
    refine numbers.imp ?_
    rintro ⟨text, row⟩ ⟨other, later⟩ before hit member second isSecond
    obtain ⟨_, -, rfl⟩ := List.mem_map.mp member
    obtain ⟨_, -, rfl⟩ := List.mem_map.mp isSecond
    exact Or.inl before

namespace CaseTables

variable (tables : CaseTables) (caseSensitive : Bool)

def copied (c : Char) : Nat := if caseSensitive then 1 else if c = 'Σ' then 1 else (tables.lower c).length

theorem copied_pos (c : Char) : 0 < tables.copied caseSensitive c := by
  have some := List.length_pos_iff.mpr (tables.lower_ne_nil c)
  unfold copied
  split_ifs <;> omega

theorem length_lowerFrom (before text : List Char) :
    (tables.lowerFrom before text).length = (text.map (tables.copied false)).sum := by
  induction text generalizing before with
  | nil => rfl
  | cons c rest ih =>
    rw [lowerFrom, List.length_append, ih, List.map_cons, List.sum_cons, copied]
    congr 1
    simp only [Bool.false_eq_true, if_false]
    split
    next => split <;> rfl
    next => rfl

theorem length_compared (text : List Char) :
    (tables.compared caseSensitive text).length = (text.map (tables.copied caseSensitive)).sum := by
  cases caseSensitive with
  | false => exact tables.length_lowerFrom [] text
  | true => induction text <;> simp_all [compared, copied, Nat.add_comm]

theorem length_le_compared (text : List Char) : text.length ≤ (tables.compared caseSensitive text).length := by
  rw [length_compared]
  induction text with
  | nil => simp
  | cons c rest ih =>
    have := tables.copied_pos caseSensitive c
    rw [List.length_cons, List.map_cons, List.sum_cons]
    omega

theorem compared_ne_nil {text : List Char} (some : text ≠ []) : tables.compared caseSensitive text ≠ [] := by
  have long := tables.length_le_compared caseSensitive text
  have := List.length_pos_iff.mpr some
  exact List.length_pos_iff.mp (by omega)

theorem compared_take_lt (text : List Char) {len other : Nat} (less : len < other) (inside : other ≤ text.length) :
    (tables.compared caseSensitive (text.take len)).length < (tables.compared caseSensitive (text.take other)).length := by
  obtain ⟨more, rfl⟩ := Nat.exists_eq_add_of_lt less
  have longer := tables.length_le_compared caseSensitive ((text.drop len).take (more + 1))
  rw [length_compared, List.length_take, List.length_drop] at longer
  rw [length_compared, length_compared, Nat.add_assoc, List.take_add, List.map_append, List.sum_append]
  omega

theorem occurs_spans (row query : List Char) : Spans (tables.Occurs caseSensitive row query) where
  one := by
    rintro col first second ⟨-, firstFits, firstSame⟩ ⟨-, secondFits, secondSame⟩
    have same := congrArg List.length (firstSame.trans secondSame.symm)
    have room : (row.drop col).length = row.length - col := List.length_drop
    rcases Nat.lt_trichotomy first second with less | equal | more
    next =>
      have := tables.compared_take_lt caseSensitive (row.drop col) less (by omega)
      omega
    next => exact equal
    next =>
      have := tables.compared_take_lt caseSensitive (row.drop col) more (by omega)
      omega
  some occurs := occurs.1

variable {tables} {caseSensitive}

theorem shows_iff_stands {row query : List Char} (some : query ≠ []) {col len : Nat} :
    tables.Shows caseSensitive row query col len ↔
      Stands (tables.compared caseSensitive query) (tables.compared caseSensitive row) col len :=
  ⟨fun shows => shows.2,
    fun stands => ⟨(stands_bounds (tables.compared_ne_nil caseSensitive some) stands).2, stands⟩⟩

theorem findAllMatches_ok (texts : List (List Char)) {query : List Char} (some : query ≠ []) :
    ∃ takenOf : List Char -> List (Nat × Nat),
      (∀ row, From (tables.Shows caseSensitive row query) 0 (takenOf row)) ∧
      findAllMatches tables texts query caseSensitive = .ok (allMatches texts takenOf) := by
  have each : ∀ row : List Char, ∃ taken, From (tables.Shows caseSensitive row query) 0 taken ∧ ∀ number,
      findInRow (encodeText (tables.compared caseSensitive row)) (encodeText (tables.compared caseSensitive query)) number
        ((encodeText (tables.compared caseSensitive row)).length + 1) 0 =
        .ok (taken.map fun (col, len) => { row := number, col, len }) := by
    intro row
    have same : tables.Shows caseSensitive row query =
        Stands (tables.compared caseSensitive query) (tables.compared caseSensitive row) := by
      funext col len
      exact propext (shows_iff_stands some)
    rw [same]
    have long : (tables.compared caseSensitive row).length ≤ (encodeText (tables.compared caseSensitive row)).length :=
      utf8_synchronising.length_le _
    exact findInRow_leftmost (tables.compared_ne_nil caseSensitive some) (by omega) (Nat.zero_le _)
  choose takenOf leftmost found using each
  refine ⟨takenOf, leftmost, ?_⟩
  rw [findAllMatches, if_neg (by simpa using some)]
  exact forEach_ok fun placed _ => found placed.1 placed.2

theorem findAllMatches_total (tables : CaseTables) (texts : List (List Char)) (query : List Char) (caseSensitive : Bool) :
    ∃ found, findAllMatches tables texts query caseSensitive = .ok found := by
  by_cases empty : query = []
  next =>
    subst empty
    exact ⟨[], rfl⟩
  next =>
    obtain ⟨takenOf, -, found⟩ := @findAllMatches_ok tables caseSensitive texts query empty
    exact ⟨_, found⟩

theorem findsExactly_iff {texts : List (List Char)} {query : List Char} {takenOf : List Char -> List (Nat × Nat)}
    (leftmost : ∀ row, From (tables.Shows caseSensitive row query) 0 (takenOf row)) :
    tables.FindsExactly caseSensitive texts query (allMatches texts takenOf) ↔
      ∀ row ∈ texts, From (tables.Occurs caseSensitive row query) 0 (takenOf row) := by
  -- Matches and leftmost occurrences of a row agree; the rows come in order.
  constructor
  next =>
    intro finds row member
    obtain ⟨r, at_⟩ := List.mem_iff_getElem?.mp member
    refine ⟨(leftmost row).apart, fun span taken => ⟨Nat.zero_le _, ?_⟩, fun col len _ occurs => ?_⟩
    next =>
      obtain ⟨other, found, occurs⟩ := finds.occurs ⟨r, span.1, span.2⟩ (mem_allMatches.mpr ⟨row, at_, taken⟩)
      rw [at_] at found
      obtain rfl := Option.some.inj found
      exact occurs
    next =>
      obtain ⟨hit, isIn, rfl, covered⟩ := finds.covers r row at_ col len occurs
      obtain ⟨other, found, taken⟩ := mem_allMatches.mp isIn
      rw [at_] at found
      obtain rfl := Option.some.inj found
      exact ⟨_, taken, covered⟩
  next =>
    intro each
    refine ⟨allMatches_sorted texts fun row => (leftmost row).apart, fun hit isIn => ?_, fun r row at_ col len occurs => ?_⟩
    next =>
      obtain ⟨row, at_, taken⟩ := mem_allMatches.mp isIn
      exact ⟨row, at_, ((each row (List.mem_of_getElem? at_)).hit _ taken).2⟩
    next =>
      obtain ⟨span, taken, covered⟩ := (each row (List.mem_of_getElem? at_)).covers col len (Nat.zero_le _) occurs
      exact ⟨⟨r, span.1, span.2⟩, mem_allMatches.mpr ⟨row, at_, taken⟩, rfl, covered⟩

theorem shows_spans (row query : List Char) : Spans (tables.Shows caseSensitive row query) where
  one first second := first.2.1.trans second.2.1.symm
  some shows := shows.1

theorem leftmost_iff_aligned {row query : List Char} {taken : List (Nat × Nat)}
    (leftmost : From (tables.Shows false row query) 0 taken) :
    From (tables.Occurs false row query) 0 taken ↔ tables.Aligned query row := by
  have spans := tables.occurs_spans false row query
  constructor
  next =>
    intro occurs taken' occurs' col free len
    obtain rfl := occurs.unique spans occurs'
    exact (occurs'.agree_iff spans (shows_spans row query)).mp leftmost col (Nat.zero_le _) free len
  next =>
    intro aligned
    obtain ⟨taken', occurs'⟩ := From.exists spans (fun {col len} occurs => show col < row.length by
      have := occurs.1
      have := occurs.2.1
      omega) 0
    have shows' := (occurs'.agree_iff spans (shows_spans row query)).mpr fun col _ => aligned taken' occurs' col
    obtain rfl := leftmost.unique (shows_spans row query) shows'
    exact occurs'

theorem occurs_sensitive (row query : List Char) : tables.Occurs true row query = tables.Shows true row query := by
  funext col len
  apply propext
  simp only [Occurs, Shows, compared, if_true]
  constructor
  next =>
    rintro ⟨some, fits, rfl⟩
    have length : ((row.drop col).take len).length = len := by
      rw [List.length_take, List.length_drop]
      omega
    exact ⟨some, length.symm, List.take_prefix _ _⟩
  next =>
    rintro ⟨some, rfl, here⟩
    have room := here.length_le
    rw [List.length_drop] at room
    exact ⟨some, by omega, (List.prefix_iff_eq_take.mp here).symm⟩

theorem not_occurs_empty {row : List Char} {col len : Nat} : ¬ tables.Occurs caseSensitive row [] col len := by
  rintro ⟨some, fits, same⟩
  have nonempty : (row.drop col).take len ≠ [] := by
    rw [← List.length_pos_iff, List.length_take, List.length_drop]
    omega
  refine tables.compared_ne_nil caseSensitive nonempty (same.trans ?_)
  cases caseSensitive <;> rfl

theorem not_shows_empty {row : List Char} {col len : Nat} : ¬ tables.Shows caseSensitive row [] col len := by
  rintro ⟨some, rfl, -⟩
  cases caseSensitive <;> exact absurd some (Nat.lt_irrefl 0)

theorem search_exact_iff (tables : CaseTables) (texts : List (List Char)) (query : List Char) (caseSensitive : Bool) :
    (∃ found, findAllMatches tables texts query caseSensitive = .ok found ∧
      tables.FindsExactly caseSensitive texts query found) ↔
      caseSensitive = true ∨ ∀ row ∈ texts, tables.Aligned query row := by
  by_cases empty : query = []
  next =>
    subst empty
    have finds : tables.FindsExactly caseSensitive texts [] [] :=
      ⟨List.Pairwise.nil, fun hit member => absurd member List.not_mem_nil,
        fun _ _ _ _ _ occurs => absurd occurs not_occurs_empty⟩
    exact iff_of_true ⟨[], rfl, finds⟩ (Or.inr fun row _ _ _ _ _ _ => iff_of_false not_occurs_empty not_shows_empty)
  next =>
    obtain ⟨takenOf, leftmost, found⟩ := @findAllMatches_ok tables caseSensitive texts query empty
    have only : (∃ found, findAllMatches tables texts query caseSensitive = .ok found ∧
        tables.FindsExactly caseSensitive texts query found) ↔
          ∀ row ∈ texts, From (tables.Occurs caseSensitive row query) 0 (takenOf row) := by
      rw [← findsExactly_iff leftmost, found]
      exact ⟨fun ⟨_, same, finds⟩ => Except.ok.inj same ▸ finds, fun finds => ⟨_, rfl, finds⟩⟩
    rw [only]
    cases caseSensitive with
    | true =>
      refine iff_of_true (fun row _ => ?_) (Or.inl rfl)
      rw [occurs_sensitive]
      exact leftmost row
    | false =>
      rw [or_iff_right Bool.false_ne_true]
      exact forall₂_congr fun row _ => leftmost_iff_aligned (leftmost row)

theorem lowerFrom_plain {text : List Char} (plain : ∀ c ∈ text, c ≠ 'Σ' ∧ (tables.lower c).length = 1) (before : List Char) :
    tables.lowerFrom before text = text.map fun c => (tables.lower c).headD c := by
  induction text generalizing before with
  | nil => rfl
  | cons c rest ih =>
    obtain ⟨noSigma, one⟩ := plain c List.mem_cons_self
    obtain ⟨lower, is⟩ := List.length_eq_one_iff.mp one
    rw [lowerFrom, if_neg noSigma, ih fun d member => plain d (List.mem_cons_of_mem _ member), List.map_cons, is]
    rfl

theorem aligned_of_plain {row : List Char} (plain : ∀ c ∈ row, c ≠ 'Σ' ∧ (tables.lower c).length = 1) (query : List Char) :
    tables.Aligned query row := by
  intro _ _ col _ len
  have slice : tables.compared false ((row.drop col).take len) =
      ((tables.compared false row).drop col).take len := by
    have part : ∀ c ∈ (row.drop col).take len, c ≠ 'Σ' ∧ (tables.lower c).length = 1 := fun c member =>
      plain c (List.mem_of_mem_drop (List.mem_of_mem_take member))
    simp only [compared, toLowercase, Bool.false_eq_true, if_false, lowerFrom_plain plain, lowerFrom_plain part,
      List.map_take, List.map_drop]
  have length : (tables.compared false row).length = row.length := by
    simp only [compared, toLowercase, Bool.false_eq_true, if_false, lowerFrom_plain plain, List.length_map]
  rw [Occurs, Shows, slice]
  constructor
  next =>
    rintro ⟨some, fits, same⟩
    rw [← same]
    refine ⟨some, ?_, List.take_prefix _ _⟩
    rw [List.length_take, List.length_drop]
    omega
  next =>
    rintro ⟨some, rfl, here⟩
    have room := here.length_le
    rw [List.length_drop] at room
    exact ⟨some, by omega, (List.prefix_iff_eq_take.mp here).symm⟩

def latin : CaseTables where
  lower c := if c = 'İ' then ['i', '\u0307'] else if 'A' ≤ c ∧ c ≤ 'Z' then [Char.ofNat (c.toNat + 32)] else [c]
  cased c := c = 'İ' || c.isAlpha
  caseIgnorable c := c = '\u0307'
  lower_ne_nil c := by split_ifs <;> simp

/-- The letter in the second column is found in the third, which the row does not have. -/
theorem search_shifts :
    (¬ ∀ texts query, ∃ found, findAllMatches latin texts query false = .ok found ∧
      latin.FindsExactly false texts query found) ∧
    findAllMatches latin [['İ', 'x']] ['x'] false = .ok [{ row := 0, col := 2, len := 1 }] := by
  have shifted : findAllMatches latin [['İ', 'x']] ['x'] false = .ok [{ row := 0, col := 2, len := 1 }] := by decide
  refine ⟨fun all => ?_, shifted⟩
  obtain ⟨found, ran, finds⟩ := all [['İ', 'x']] ['x']
  obtain rfl := Except.ok.inj (shifted.symm.trans ran)
  obtain ⟨row, at_, -, fits, -⟩ := finds.occurs _ (List.mem_singleton.mpr rfl)
  obtain rfl := Option.some.inj at_
  exact absurd fits (by decide)

end CaseTables

end Emux
