import Emux.Library.Repeats
import Emux.Term.Search
import Emux.Term.Selection

set_option autoImplicit false

/-!
# Hints

Five patterns are looked for in the text of each row. A match is reported by columns, and these are
counted in the characters of the text: they are those of the cells where no wide character stands before them.
-/

namespace Emux

open Checked Codes Repeats
open Emux.Parser (encodeText)

inductive HintKind where
  | url
  | filePath
  | gitSha
  | ipAddress
  | email
  | number
  deriving DecidableEq, Repr

structure HintMatch where
  text : List Char
  kind : HintKind
  startRow : Nat
  startCol : Nat
  endRow : Nat
  endCol : Nat
  deriving DecidableEq, Repr

/-! ## Patterns -/

/-- A match of a pattern in a text is never empty: it is the characters `first`, ..., `past - 1`. -/
structure Match (text : List Char) where
  first : Nat
  past : Nat
  some : first < past
  inside : past ≤ text.length
  deriving DecidableEq

namespace Match

variable {text : List Char}

def start (found : Match text) : Nat := offset String.utf8EncodeChar text found.first

def stop (found : Match text) : Nat := offset String.utf8EncodeChar text found.past

def asStr (found : Match text) : List Char := (text.take found.past).drop found.first

end Match

structure Pattern where
  findIter : (text : List Char) -> List (Match text)
  ordered : ∀ text, (findIter text).Pairwise fun a b => a.stop ≤ b.start

structure Patterns where
  url : Pattern
  filePath : Pattern
  gitSha : Pattern
  ipAddress : Pattern
  email : Pattern

/-! ## Detection -/

abbrev Detected := Nat × Nat × List Char

def Match.detected {text : List Char} (found : Match text) : Detected := (found.start, found.stop, found.asStr)

/-- Not the two slashes after a protocol. -/
def looksLikePath (s : List Char) : Bool := !(['/', '/'].isPrefixOf s)

def looksLikeSha (s : List Char) : Bool := s.any Char.isDigit && s.any Char.isAlpha

namespace Patterns

variable (patterns : Patterns)

def detectUrls (text : List Char) : List Detected := (patterns.url.findIter text).map Match.detected

def detectFilePaths (text : List Char) : List Detected :=
  ((patterns.filePath.findIter text).filter fun found => looksLikePath found.asStr).map Match.detected

def detectGitShas (text : List Char) : List Detected :=
  ((patterns.gitSha.findIter text).filter fun found => looksLikeSha found.asStr).map Match.detected

def detectIpAddresses (text : List Char) : List Detected := (patterns.ipAddress.findIter text).map Match.detected

def detectEmails (text : List Char) : List Detected := (patterns.email.findIter text).map Match.detected

end Patterns

def rowToText (row : Row) : List Char := trimEnd (fullText row.cells)

def overlapsAny (start stop : Nat) (ranges : List (Nat × Nat)) : Bool :=
  ranges.any fun (rs, re) => start < re && rs < stop

theorem overlapsAny_iff {start stop : Nat} {ranges : List (Nat × Nat)} :
    overlapsAny start stop ranges = true ↔ ∃ range ∈ ranges, start < range.2 ∧ range.1 < stop := by
  simp [overlapsAny]

/-- `text[..byte_off].chars().count()` -/
def byteToCol (text : List Char) (byteOff : Nat) : Fallible Nat := do
  let before <- sliceText (encodeText text) 0 byteOff
  .ok (charCount before)

def ranges (found : List Detected) : List (Nat × Nat) := found.map fun (start, stop, _) => (start, stop)

/-- One of the loops over what is detected in a row. -/
def pushHints (text : List Char) (rowIdx : Nat) (kind : HintKind) (taken : List (Nat × Nat)) (found : List Detected) :
    Fallible (List HintMatch) :=
  forEach found fun (start, stop, t) =>
    if overlapsAny start stop taken then .ok []
    else do
      let sc <- byteToCol text start
      let past <- byteToCol text stop
      .ok [{ text := t, kind, startRow := rowIdx, startCol := sc, endRow := rowIdx, endCol := past - 1 }]

def rowHints (patterns : Patterns) (row : Row) (rowIdx : Nat) : Fallible (List HintMatch) := do
  let text := rowToText row
  let urls := patterns.detectUrls text
  let emails := patterns.detectEmails text
  let filePaths := patterns.detectFilePaths text
  let gitShas := patterns.detectGitShas text
  let ofUrls <- pushHints text rowIdx .url [] urls
  let ofEmails <- pushHints text rowIdx .email [] emails
  let ofIps <- pushHints text rowIdx .ipAddress (ranges urls) (patterns.detectIpAddresses text)
  let ofPaths <- pushHints text rowIdx .filePath (ranges urls ++ ranges emails) filePaths
  let ofShas <- pushHints text rowIdx .gitSha (ranges urls ++ ranges emails ++ ranges filePaths) gitShas
  .ok (ofUrls ++ ofEmails ++ ofIps ++ ofPaths ++ ofShas)

namespace HintMatch

/-- The order by row and column that the matches are sorted in. -/
def le (a b : HintMatch) : Bool := a.startRow < b.startRow || a.startRow == b.startRow && a.startCol ≤ b.startCol

def samePlace (a b : HintMatch) : Bool :=
  a.startRow == b.startRow && a.startCol == b.startCol && a.endRow == b.endRow && a.endCol == b.endCol

end HintMatch

/-- The number of columns only says how much room to set aside for a text. -/
def detectHints (patterns : Patterns) (rows : List Row) (_cols : Nat) : Fallible (List HintMatch) := do
  let found <- forEach rows.zipIdx fun (row, rowIdx) => rowHints patterns row rowIdx
  .ok (dedup HintMatch.samePlace (found.mergeSort HintMatch.le))

/-! ## What a match tells -/

theorem offset_of_isCharBoundary {text : List Char} {i : Nat} (inside : i ≤ (encodeText text).length)
    (isBoundary : isCharBoundary (encodeText text) i = true) :
    ∃ k ≤ text.length, i = offset String.utf8EncodeChar text k := by
  have whole : (encodeText text).length = offset String.utf8EncodeChar text text.length := by
    rw [offset, List.take_length]
    rfl
  rcases Nat.eq_or_lt_of_le inside with last | before
  next => exact ⟨text.length, le_rfl, last.trans whole⟩
  next =>
    rcases Nat.eq_zero_or_pos i with rfl | positive
    next => exact ⟨0, Nat.zero_le _, rfl⟩
    next =>
      have found : (encodeText text)[i]? = some ((encodeText text)[i]) := List.getElem?_eq_getElem before
      have lead : leadsText ((encodeText text)[i]) = true := by
        have other : ((i == 0) = false) ∧ ((i == (encodeText text).length) = false) := by
          simp only [beq_eq_false_iff_ne]
          omega
        rw [isCharBoundary, other.1, other.2, found] at isBoundary
        exact isBoundary
      obtain ⟨k, short, at_k⟩ := utf8_synchronising.offset_of_lead lead (List.drop_eq_getElem_cons before)
      exact ⟨k, short.le, at_k⟩

namespace Match

variable {text : List Char}

theorem exists_of_bytes {start stop : Nat} (some : start < stop) (inside : stop ≤ (encodeText text).length)
    (begins : isCharBoundary (encodeText text) start = true) (ends : isCharBoundary (encodeText text) stop = true) :
    ∃ found : Match text, found.start = start ∧ found.stop = stop := by
  obtain ⟨first, firstInside, rfl⟩ := offset_of_isCharBoundary (some.le.trans inside) begins
  obtain ⟨past, pastInside, rfl⟩ := offset_of_isCharBoundary inside ends
  have less : first < past := by
    by_contra later
    rcases Nat.eq_or_lt_of_le (Nat.not_lt.mp later) with rfl | after
    next => exact absurd some (lt_irrefl _)
    next => exact absurd some (utf8_synchronising.offset_lt after firstInside).not_gt
  exact ⟨{ first, past, some := less, inside := pastInside }, rfl, rfl⟩

theorem sliceText_asStr (found : Match text) :
    sliceText (encodeText text) found.start found.stop = .ok (encodeText found.asStr) :=
  sliceText_offset text found.some.le

theorem stop_le_start_iff (a b : Match text) : a.stop ≤ b.start ↔ a.past ≤ b.first := by
  constructor
  next =>
    intro before
    by_contra later
    have := utf8_synchronising.offset_lt (Nat.not_le.mp later) a.inside
    exact absurd before (Nat.not_le.mpr this)
  next =>
    intro before
    rcases Nat.eq_or_lt_of_le before with same | earlier
    next =>
      rw [stop, start, same]
    next => exact (utf8_synchronising.offset_lt earlier (b.some.le.trans b.inside)).le

def hint (found : Match text) (rowIdx : Nat) (kind : HintKind) : HintMatch :=
  { text := found.asStr, kind, startRow := rowIdx, startCol := found.first, endRow := rowIdx, endCol := found.past - 1 }

end Match

theorem byteToCol_offset {text : List Char} {k : Nat} (inside : k ≤ text.length) :
    byteToCol text (offset String.utf8EncodeChar text k) = .ok k := by
  have front := sliceText_offset text (Nat.zero_le k)
  rw [show offset String.utf8EncodeChar text 0 = 0 from rfl, List.drop_zero] at front
  rw [byteToCol, front, ok_bind, charCount_encode, List.length_take, Nat.min_eq_left inside]

theorem pushHints_detected {text : List Char} (rowIdx : Nat) (kind : HintKind) (taken : List (Nat × Nat))
    (found : List (Match text)) :
    pushHints text rowIdx kind taken (found.map Match.detected) =
      .ok ((found.filter fun one => !overlapsAny one.start one.stop taken).map fun one => one.hint rowIdx kind) := by
  induction found with
  | nil => rfl
  | cons one rest ih =>
    rw [pushHints] at ih ⊢
    rw [List.map_cons, forEach, ih]
    simp only [Match.detected]
    by_cases overlaps : overlapsAny one.start one.stop taken = true
    next => simp [overlaps]
    next =>
      have first : byteToCol text one.start = .ok one.first := byteToCol_offset (one.some.le.trans one.inside)
      have past : byteToCol text one.stop = .ok one.past := byteToCol_offset one.inside
      simp [overlaps, first, past, Match.hint]

/-! ## The matches of a row that are reported -/

namespace Match

variable {text : List Char}

def bytes (found : Match text) : Nat × Nat := (found.start, found.stop)

def Overlaps (a b : Match text) : Prop := a.start < b.stop ∧ b.start < a.stop

def Clear (a b : Match text) : Prop := a.Overlaps b -> a = b

def free (taken : List (Match text)) (found : Match text) : Bool :=
  !overlapsAny found.start found.stop (taken.map bytes)

theorem free_iff {taken : List (Match text)} {found : Match text} :
    found.free taken = true ↔ ∀ other ∈ taken, ¬found.Overlaps other := by
  rw [free, Bool.not_eq_true', ← Bool.not_eq_true, overlapsAny_iff]
  constructor
  next => exact fun none other member overlaps => none ⟨other.bytes, List.mem_map_of_mem member, overlaps⟩
  next =>
    rintro none ⟨range, member, overlaps⟩
    obtain ⟨other, among, rfl⟩ := List.mem_map.mp member
    exact none other among overlaps

end Match

namespace Patterns

variable (patterns : Patterns) (text : List Char)

def urls : List (Match text) := patterns.url.findIter text

def emails : List (Match text) := patterns.email.findIter text

def filePaths : List (Match text) := (patterns.filePath.findIter text).filter fun found => looksLikePath found.asStr

def keptIps : List (Match text) := (patterns.ipAddress.findIter text).filter (Match.free (patterns.urls text))

def keptPaths : List (Match text) :=
  (patterns.filePaths text).filter (Match.free (patterns.urls text ++ patterns.emails text))

def keptShas : List (Match text) :=
  ((patterns.gitSha.findIter text).filter fun found => looksLikeSha found.asStr).filter
    (Match.free (patterns.urls text ++ patterns.emails text ++ patterns.filePaths text))

def kept : List (HintKind × Match text) :=
  (patterns.urls text).map (Prod.mk HintKind.url) ++ (patterns.emails text).map (Prod.mk HintKind.email) ++
    (patterns.keptIps text).map (Prod.mk HintKind.ipAddress) ++
    (patterns.keptPaths text).map (Prod.mk HintKind.filePath) ++ (patterns.keptShas text).map (Prod.mk HintKind.gitSha)

theorem kept_map {B : Type} (f : HintKind × Match text -> B) : (patterns.kept text).map f =
    (patterns.urls text).map (fun found => f (.url, found)) ++
      (patterns.emails text).map (fun found => f (.email, found)) ++
      (patterns.keptIps text).map (fun found => f (.ipAddress, found)) ++
      (patterns.keptPaths text).map (fun found => f (.filePath, found)) ++
      (patterns.keptShas text).map (fun found => f (.gitSha, found)) := by
  simp [kept, Function.comp_def]

/-- No URL crosses an email address, and no address that is reported crosses what is reported besides URLs. -/
structure Undisputed : Prop where
  urls : ∀ url ∈ patterns.urls text, ∀ email ∈ patterns.emails text, url.Clear email
  ips : ∀ ip ∈ patterns.keptIps text,
    ∀ other ∈ patterns.emails text ++ patterns.keptPaths text ++ patterns.keptShas text, ip.Clear other

end Patterns

theorem ranges_detected {text : List Char} (found : List (Match text)) :
    ranges (found.map Match.detected) = found.map Match.bytes := by
  simp [ranges, Match.detected, Match.bytes, Function.comp_def]

theorem rowHints_kept (patterns : Patterns) (row : Row) (rowIdx : Nat) :
    rowHints patterns row rowIdx =
      .ok ((patterns.kept (rowToText row)).map fun (kind, found) => found.hint rowIdx kind) := by
  have all {text : List Char} (found : List (Match text)) :
      (found.filter fun one => !overlapsAny one.start one.stop []) = found := by
    simp [overlapsAny]
  simp only [rowHints, Patterns.detectUrls, Patterns.detectEmails, Patterns.detectFilePaths, Patterns.detectGitShas,
    Patterns.detectIpAddresses, ranges_detected, ← List.map_append, pushHints_detected, all, ok_bind]
  rw [Patterns.kept_map]
  rfl

/-! ## Places -/

namespace HintMatch

def Before (a b : HintMatch) : Prop := (a.startCol ≤ a.endCol ∧ b.startCol ≤ b.endCol) ∧
  (a.startRow < b.startRow ∨ a.startRow = b.startRow ∧ a.endCol < b.startCol)

theorem samePlace_iff {a b : HintMatch} : a.samePlace b = true ↔
    ((a.startRow = b.startRow ∧ a.startCol = b.startCol) ∧ a.endRow = b.endRow) ∧ a.endCol = b.endCol := by
  simp [samePlace]

theorem le_iff {a b : HintMatch} :
    a.le b = true ↔ a.startRow < b.startRow ∨ a.startRow = b.startRow ∧ a.startCol ≤ b.startCol := by
  simp [le]

theorem places : Places samePlace Before le where
  equivalence := by
    refine ⟨fun a => ?_, fun same => ?_, fun first second => ?_⟩
    next => simp [samePlace_iff]
    next =>
      rw [samePlace_iff] at same ⊢
      omega
    next =>
      rw [samePlace_iff] at first second ⊢
      omega
  trans := by
    intro a b c first second
    simp only [Before] at first second ⊢
    omega
  congr := by
    intro a a' b b' left right before
    rw [samePlace_iff] at left right
    simp only [Before] at before ⊢
    omega
  le_trans := by
    intro a b c first second
    rw [le_iff] at first second ⊢
    omega
  le_total := by
    intro a b
    rw [Bool.or_eq_true, le_iff, le_iff]
    omega
  order := by
    intro a b before
    rw [le_iff]
    simp only [Before] at before
    omega

end HintMatch

/-! ## Which places are apart -/

namespace Match

variable {text : List Char}

theorem overlaps_iff {a b : Match text} : a.Overlaps b ↔ a.first < b.past ∧ b.first < a.past := by
  have left := stop_le_start_iff b a
  have right := stop_le_start_iff a b
  rw [Overlaps]
  omega

theorem clear_symm {a b : Match text} (clear : a.Clear b) : b.Clear a :=
  fun overlaps => (clear overlaps.symm).symm

theorem hint_columns (found : Match text) (rowIdx : Nat) (kind : HintKind) :
    (found.hint rowIdx kind).startCol ≤ (found.hint rowIdx kind).endCol := by
  have some := found.some
  simp only [hint]
  omega

theorem samePlace_hint {a b : Match text} {rowIdx : Nat} {kind kind' : HintKind} :
    (a.hint rowIdx kind).samePlace (b.hint rowIdx kind') = true ↔ a = b := by
  rw [HintMatch.samePlace_iff]
  constructor
  next =>
    rintro ⟨⟨⟨-, sameFirst⟩, -⟩, samePast⟩
    obtain ⟨first, past, some, inside⟩ := a
    obtain ⟨first', past', some', inside'⟩ := b
    simp only [hint] at sameFirst samePast
    obtain rfl : past = past' := by omega
    subst sameFirst
    rfl
  next =>
    rintro rfl
    exact ⟨⟨⟨rfl, rfl⟩, rfl⟩, rfl⟩

theorem apart_hint {a b : Match text} {rowIdx : Nat} {kind kind' : HintKind} :
    Apart HintMatch.samePlace HintMatch.Before (a.hint rowIdx kind) (b.hint rowIdx kind') ↔ a.Clear b := by
  have left := a.some
  have right := b.some
  rw [Apart, samePlace_hint, Clear, overlaps_iff]
  simp only [HintMatch.Before, hint, lt_irrefl, true_and, false_or]
  constructor
  next =>
    rintro (same | apart) overlaps
    next => exact same
    next => omega
  next =>
    intro clear
    by_cases overlaps : a.first < b.past ∧ b.first < a.past
    next => exact Or.inl (clear overlaps)
    next => exact Or.inr (by omega)

def AllClear (found other : List (Match text)) : Prop := ∀ a ∈ found, ∀ b ∈ other, a.Clear b

theorem allClear_append {found other : List (Match text)} :
    AllClear (found ++ other) (found ++ other) ↔
      (AllClear found found ∧ AllClear other other) ∧ AllClear found other := by
  simp only [AllClear, List.forall_mem_append]
  constructor
  next =>
    rintro ⟨first, second⟩
    exact ⟨⟨fun a member => (first a member).1, fun a member => (second a member).2⟩, fun a member => (first a member).2⟩
  next =>
    rintro ⟨⟨first, second⟩, cross⟩
    exact ⟨fun a member => ⟨first a member, cross a member⟩,
      fun a member => ⟨fun b among => clear_symm (cross b among a member), second a member⟩⟩

theorem allClear_append_left {found other rest : List (Match text)} :
    AllClear (found ++ other) rest ↔ AllClear found rest ∧ AllClear other rest := List.forall_mem_append

theorem allClear_comm {found other : List (Match text)} : AllClear found other ↔ AllClear other found :=
  ⟨fun clear a inA b inB => clear_symm (clear b inB a inA), fun clear a inA b inB => clear_symm (clear b inB a inA)⟩

theorem allClear_self {found : List (Match text)} (ordered : found.Pairwise fun a b => a.stop ≤ b.start) :
    AllClear found found := by
  have symm : Std.Symm (@Clear text) := ⟨fun _ _ => clear_symm⟩
  exact List.Pairwise.forall_of_forall (fun _ _ _ => rfl)
    (ordered.imp fun before overlaps => absurd overlaps.2 (Nat.not_lt.mpr before))

theorem allClear_free {taken found : List (Match text)} (all : ∀ one ∈ found, one.free taken = true) :
    AllClear taken found :=
  fun other among one member => clear_symm fun overlaps => absurd overlaps (free_iff.mp (all one member) other among)

end Match

open Match in
theorem Patterns.undisputed_iff (patterns : Patterns) (text : List Char) :
    (∀ a ∈ patterns.kept text, ∀ b ∈ patterns.kept text, a.2.Clear b.2) ↔ patterns.Undisputed text := by
  have found : (patterns.kept text).map Prod.snd = patterns.urls text ++ patterns.emails text ++ patterns.keptIps text ++
      patterns.keptPaths text ++ patterns.keptShas text := by
    simp [Patterns.kept_map]
  have all : (∀ a ∈ patterns.kept text, ∀ b ∈ patterns.kept text, a.2.Clear b.2) ↔
      AllClear ((patterns.kept text).map Prod.snd) ((patterns.kept text).map Prod.snd) := by
    simp only [AllClear, List.forall_mem_map]
  -- Matches of one pattern do not overlap; of two patterns the filters keep some apart, and the rest is the condition.
  have urls : AllClear (patterns.urls text) (patterns.urls text) := allClear_self (patterns.url.ordered text)
  have emails : AllClear (patterns.emails text) (patterns.emails text) := allClear_self (patterns.email.ordered text)
  have ips : AllClear (patterns.keptIps text) (patterns.keptIps text) :=
    allClear_self ((patterns.ipAddress.ordered text).filter _)
  have paths : AllClear (patterns.keptPaths text) (patterns.keptPaths text) :=
    allClear_self (((patterns.filePath.ordered text).filter _).filter _)
  have shas : AllClear (patterns.keptShas text) (patterns.keptShas text) :=
    allClear_self (((patterns.gitSha.ordered text).filter _).filter _)
  have freeIps : AllClear (patterns.urls text) (patterns.keptIps text) :=
    allClear_free fun _ member => (List.mem_filter.mp member).2
  have freePaths : AllClear (patterns.urls text ++ patterns.emails text) (patterns.keptPaths text) :=
    allClear_free fun _ member => (List.mem_filter.mp member).2
  have freeShas :
      AllClear (patterns.urls text ++ patterns.emails text ++ patterns.filePaths text) (patterns.keptShas text) :=
    allClear_free fun _ member => (List.mem_filter.mp member).2
  have pathShas : AllClear (patterns.keptPaths text) (patterns.keptShas text) :=
    fun path member => freeShas path (List.mem_append_right _ (List.mem_of_mem_filter member))
  rw [all, found, allClear_append, allClear_append, allClear_append, allClear_append]
  rw [allClear_append_left] at freeShas
  simp only [allClear_append_left, urls, emails, ips, paths, shas, freeIps, freePaths, freeShas, pathShas, true_and,
    and_true]
  constructor
  next =>
    rintro ⟨⟨⟨urlEmail, emailIp⟩, ipPath⟩, ipSha⟩
    refine ⟨urlEmail, fun ip member => ?_⟩
    rw [List.forall_mem_append, List.forall_mem_append]
    exact ⟨⟨allClear_comm.mp emailIp ip member, ipPath ip member⟩, ipSha ip member⟩
  next =>
    rintro ⟨urlEmail, ofIps⟩
    have ofShas := fun ip member => List.forall_mem_append.mp (ofIps ip member)
    have ofPaths := fun ip member => List.forall_mem_append.mp (ofShas ip member).1
    have emailIp := allClear_comm.mp fun ip member => (ofPaths ip member).1
    exact ⟨⟨⟨urlEmail, emailIp⟩, fun ip member => (ofPaths ip member).2⟩, fun ip member => (ofShas ip member).2⟩

/-! ## Columns and characters of a match -/

def columnText (row : Row) (startCol endCol : Nat) : List Char := fullText ((row.cells.take (endCol + 1)).drop startCol)

namespace Match

variable {row : Row}

/-- No second column of a wide character is among the columns, and the text reads the same from the number of characters
before them on. -/
structure Straight (found : Match (rowToText row)) : Prop where
  single : ∀ cell ∈ (row.cells.take found.past).drop found.first, cell.width ≠ 0
  again : ((rowToText row).drop (charsBefore row.cells found.first)).take (found.past - found.first) = found.asStr

theorem columnText_eq (found : Match (rowToText row)) : columnText row found.first (found.past - 1) =
    ((rowToText row).take (charsBefore row.cells found.past)).drop (charsBefore row.cells found.first) := by
  have past : found.past - 1 + 1 = found.past := Nat.sub_add_cancel (Nat.one_le_of_lt found.some)
  have few : charsBefore row.cells found.past ≤ (rowToText row).length :=
    List.countP_le_length.trans ((List.length_take_le _ _).trans found.inside)
  obtain ⟨blanks, whole⟩ : rowToText row <+: fullText row.cells := List.rdropWhile_prefix isWhitespace _
  rw [columnText, past, fullText_window, ← whole, List.take_append_of_le_length few]

theorem charsBefore_past (found : Match (rowToText row)) : charsBefore row.cells found.past =
    charsBefore row.cells found.first +
      ((row.cells.take found.past).drop found.first).countP fun cell => cell.width != 0 := by
  have front : (row.cells.take found.past).take found.first = row.cells.take found.first := by
    rw [List.take_take, Nat.min_eq_left found.some.le]
  rw [charsBefore, charsBefore, ← front, ← List.countP_append, List.take_append_drop]

theorem length_columns (found : Match (rowToText row)) :
    ((row.cells.take found.past).drop found.first).length = found.past - found.first := by
  have fewer : (rowToText row).length ≤ row.cells.length :=
    ((List.rdropWhile_prefix isWhitespace _).length_le.trans_eq (fullText_length _)).trans List.countP_le_length
  have inside := found.inside
  rw [List.length_drop, List.length_take, Nat.min_eq_left (inside.trans fewer)]

theorem straight_of_narrow (found : Match (rowToText row))
    (narrow : ∀ cell ∈ row.cells.take found.past, cell.width ≠ 0) : found.Straight := by
  have inside := found.inside
  have columns := length_columns found
  have enough : found.past ≤ row.cells.length := by
    have some := found.some
    rw [List.length_drop, List.length_take] at columns
    omega
  have before : charsBefore row.cells found.first = found.first := by
    have front : ∀ cell ∈ row.cells.take found.first, (cell.width != 0) = true := fun cell member =>
      bne_iff_ne.mpr (narrow cell ((List.take_sublist_take_left found.some.le).subset member))
    rw [charsBefore, List.countP_eq_length.mpr front, List.length_take, Nat.min_eq_left (found.some.le.trans enough)]
  refine ⟨fun cell member => narrow cell (List.mem_of_mem_drop member), ?_⟩
  rw [before, asStr, List.drop_take]

theorem asStr_columnText_iff (found : Match (rowToText row)) :
    found.asStr = columnText row found.first (found.past - 1) ↔ found.Straight := by
  have past := charsBefore_past found
  have columns := length_columns found
  have inside := found.inside
  have few : charsBefore row.cells found.past ≤ found.past := List.countP_le_length.trans (List.length_take_le _ _)
  rw [columnText_eq]
  constructor
  next =>
    intro same
    have lengths := congrArg List.length same
    simp only [asStr, List.length_drop, List.length_take] at lengths
    have all : ((row.cells.take found.past).drop found.first).countP (fun cell => cell.width != 0) =
        ((row.cells.take found.past).drop found.first).length := by
      omega
    refine ⟨fun cell member => bne_iff_ne.mp (List.countP_eq_length.mp all cell member), ?_⟩
    rw [same, past, all, columns, List.drop_take, Nat.add_sub_cancel_left]
  next =>
    intro straight
    have all : ((row.cells.take found.past).drop found.first).countP (fun cell => cell.width != 0) =
        found.past - found.first := by
      rw [← columns, List.countP_eq_length]
      exact fun cell member => bne_iff_ne.mpr (straight.single cell member)
    rw [past, all, List.drop_take, Nat.add_sub_cancel_left, straight.again]

end Match

/-! ## All rows -/

def allHints (patterns : Patterns) (rows : List Row) : List HintMatch :=
  rows.zipIdx.flatMap fun (row, rowIdx) =>
    (patterns.kept (rowToText row)).map fun (kind, found) => found.hint rowIdx kind

def reported (patterns : Patterns) (rows : List Row) : List HintMatch :=
  dedup HintMatch.samePlace ((allHints patterns rows).mergeSort HintMatch.le)

theorem detectHints_eq (patterns : Patterns) (rows : List Row) (cols : Nat) :
    detectHints patterns rows cols = .ok (reported patterns rows) := by
  have found : forEach rows.zipIdx (fun (row, rowIdx) => rowHints patterns row rowIdx) = .ok (allHints patterns rows) :=
    forEach_ok fun (row, rowIdx) _ => rowHints_kept patterns row rowIdx
  rw [detectHints, found, ok_bind, reported]

theorem mem_allHints_of_reported {patterns : Patterns} {rows : List Row} {hint : HintMatch}
    (member : hint ∈ reported patterns rows) : hint ∈ allHints patterns rows :=
  List.mem_mergeSort.mp ((dedup_sublist _).subset member)

theorem reported_represents {patterns : Patterns} {rows : List Row} {hint : HintMatch}
    (member : hint ∈ allHints patterns rows) : ∃ other ∈ reported patterns rows, hint.samePlace other = true :=
  dedup_represents HintMatch.places.equivalence (List.mem_mergeSort.mpr member)

theorem mem_allHints_iff {patterns : Patterns} {rows : List Row} {hint : HintMatch} :
    hint ∈ allHints patterns rows ↔ ∃ row, rows[hint.startRow]? = some row ∧
      ∃ one ∈ patterns.kept (rowToText row), hint = one.2.hint hint.startRow one.1 := by
  simp only [allHints, List.mem_flatMap, List.mem_map]
  constructor
  next =>
    rintro ⟨⟨row, rowIdx⟩, member, one, kept, rfl⟩
    exact ⟨row, List.mem_zipIdx_iff_getElem?.mp member, one, kept, rfl⟩
  next =>
    rintro ⟨row, found, one, kept, same⟩
    exact ⟨(row, hint.startRow), List.mem_zipIdx_iff_getElem?.mpr found, one, kept, same.symm⟩

theorem allHints_columns {patterns : Patterns} {rows : List Row} {hint : HintMatch}
    (member : hint ∈ allHints patterns rows) : hint.startCol ≤ hint.endCol := by
  obtain ⟨row, -, one, -, same⟩ := mem_allHints_iff.mp member
  rw [same]
  exact one.2.hint_columns _ _

structure HintsFit (rows : List Row) (hints : List HintMatch) : Prop where
  text : ∀ hint ∈ hints, hint.endRow = hint.startRow ∧ ∃ row, rows[hint.startRow]? = some row ∧
    hint.text = columnText row hint.startCol hint.endCol
  apart : hints.Pairwise fun a b => a.startRow = b.startRow -> a.endCol < b.startCol

structure RowFits (patterns : Patterns) (row : Row) : Prop where
  undisputed : patterns.Undisputed (rowToText row)
  straight : ∀ one ∈ patterns.kept (rowToText row), one.2.Straight

namespace HintsFit

variable {patterns : Patterns} {rows : List Row}

theorem text_iff : (∀ hint ∈ reported patterns rows, hint.endRow = hint.startRow ∧
      ∃ row, rows[hint.startRow]? = some row ∧ hint.text = columnText row hint.startCol hint.endCol) ↔
    ∀ row ∈ rows, ∀ one ∈ patterns.kept (rowToText row), one.2.Straight := by
  constructor
  next =>
    -- A hint that is left out has the place of one that is reported, so it is the same match.
    intro fits row member one kept
    obtain ⟨rowIdx, found⟩ := List.mem_iff_getElem?.mp member
    obtain ⟨other, present, same⟩ :=
      reported_represents (mem_allHints_iff.mpr ⟨row, found, one, kept, rfl⟩ : one.2.hint rowIdx one.1 ∈ _)
    obtain ⟨-, shown, at_other, text⟩ := fits other present
    obtain ⟨row', found', one', -, equal⟩ := mem_allHints_iff.mp (mem_allHints_of_reported present)
    obtain rfl : rowIdx = other.startRow := (HintMatch.samePlace_iff.mp same).1.1.1
    obtain rfl : row = row' := Option.some.inj (found.symm.trans found')
    obtain rfl : row = shown := Option.some.inj (found.symm.trans at_other)
    rw [equal] at same text
    have sameMatch : one.2 = one'.2 := Match.samePlace_hint.mp same
    rw [sameMatch]
    exact (Match.asStr_columnText_iff one'.2).mp text
  next =>
    intro straight hint member
    obtain ⟨row, found, one, kept, same⟩ := mem_allHints_iff.mp (mem_allHints_of_reported member)
    have fits := (Match.asStr_columnText_iff one.2).mpr (straight row (List.mem_of_getElem? found) one kept)
    rw [same]
    exact ⟨rfl, row, found, fits⟩

theorem before_iff : ((reported patterns rows).Pairwise fun a b => a.startRow = b.startRow -> a.endCol < b.startCol) ↔
    (reported patterns rows).Pairwise HintMatch.Before := by
  have sorted : (reported patterns rows).Pairwise fun a b => a.le b = true :=
    (List.pairwise_mergeSort HintMatch.places.le_trans HintMatch.places.le_total _).sublist (dedup_sublist _)
  have columns {hint : HintMatch} (member : hint ∈ reported patterns rows) : hint.startCol ≤ hint.endCol :=
    allHints_columns (mem_allHints_of_reported member)
  constructor
  next =>
    refine fun apart => (sorted.and apart).imp_of_mem fun inA inB ⟨le, after⟩ => ⟨⟨columns inA, columns inB⟩, ?_⟩
    rw [HintMatch.le_iff] at le
    omega
  next =>
    refine fun ordered => ordered.imp fun before same => ?_
    simp only [HintMatch.Before] at before
    omega

theorem apart_iff : ((reported patterns rows).Pairwise fun a b => a.startRow = b.startRow -> a.endCol < b.startCol) ↔
    ∀ row ∈ rows, patterns.Undisputed (rowToText row) := by
  rw [before_iff, reported, HintMatch.places.dedup_mergeSort_pairwise_iff]
  simp only [← Patterns.undisputed_iff]
  constructor
  next =>
    intro apart row member one kept other among
    obtain ⟨rowIdx, found⟩ := List.mem_iff_getElem?.mp member
    have first : one.2.hint rowIdx one.1 ∈ allHints patterns rows := mem_allHints_iff.mpr ⟨row, found, one, kept, rfl⟩
    have second : other.2.hint rowIdx other.1 ∈ allHints patterns rows :=
      mem_allHints_iff.mpr ⟨row, found, other, among, rfl⟩
    exact Match.apart_hint.mp (apart _ first _ second)
  next =>
    intro clear a inA b inB
    obtain ⟨row, found, one, kept, same⟩ := mem_allHints_iff.mp inA
    obtain ⟨row', found', other, among, same'⟩ := mem_allHints_iff.mp inB
    have columns := allHints_columns inA
    have columns' := allHints_columns inB
    rcases Nat.lt_trichotomy a.startRow b.startRow with above | level | below
    next => exact Or.inr (Or.inl ⟨⟨columns, columns'⟩, Or.inl above⟩)
    next =>
      rw [level] at found
      obtain rfl : row = row' := Option.some.inj (found.symm.trans found')
      rw [same, same', level, Match.apart_hint]
      exact clear row (List.mem_of_getElem? found) one kept other among
    next => exact Or.inr (Or.inr ⟨⟨columns', columns⟩, Or.inl below⟩)

end HintsFit

theorem detectHints_fit_iff (patterns : Patterns) (rows : List Row) (cols : Nat) :
    (∃ hints, detectHints patterns rows cols = .ok hints ∧ HintsFit rows hints) ↔
      ∀ row ∈ rows, RowFits patterns row := by
  rw [detectHints_eq]
  constructor
  next =>
    rintro ⟨hints, ran, fits⟩
    cases ran
    exact fun row member => ⟨HintsFit.apart_iff.mp fits.apart row member, HintsFit.text_iff.mp fits.text row member⟩
  next =>
    intro fits
    exact ⟨_, rfl, HintsFit.text_iff.mpr fun row member => (fits row member).straight,
      HintsFit.apart_iff.mpr fun row member => (fits row member).undisputed⟩

def Pattern.firstOf (c : Char) (rest : List Char) : Pattern where
  findIter text :=
    match found : Leftmost.find (c :: rest) text with
    | some i => [{
        first := i
        past := i + (rest.length + 1)
        some := Nat.lt_add_of_pos_right (Nat.succ_pos _)
        inside := by
          obtain ⟨-, here, -⟩ := Leftmost.find_eq_some_iff.mp found
          have fits := here.length_le
          rw [List.length_drop, List.length_cons] at fits
          omega }]
    | none => []
  ordered text := by
    split
    next => exact List.pairwise_singleton _ _
    next => exact List.Pairwise.nil

def Pattern.nothing : Pattern where
  findIter _ := []
  ordered _ := List.Pairwise.nil

def Patterns.none : Patterns :=
  { url := .nothing, filePath := .nothing, gitSha := .nothing, ipAddress := .nothing, email := .nothing }

def wideRow : Row := { cells := [{ c := '世', width := 2 }, { width := 0 }, {}, { c := '/' }, { c := 'a' }] }

def widePatterns : Patterns := { Patterns.none with filePath := .firstOf '/' ['a'] }

def userRow : Row := { cells := "http://me@x.org".toList.map fun c => { c } }

def userPatterns : Patterns :=
  { Patterns.none with
    url := .firstOf 'h' "ttp://me@x.org".toList
    email := .firstOf 'm' "e@x.org".toList
    filePath := .firstOf '/' ['m', 'e'] }

theorem detectHints_one {patterns : Patterns} {row : Row} {cols : Nat} {found : List HintMatch}
    (ran : rowHints patterns row 0 = .ok found) (sorted : found.Pairwise fun a b => a.le b = true) :
    detectHints patterns [row] cols = .ok (dedup HintMatch.samePlace found) := by
  have once : [row].zipIdx = [(row, 0)] := rfl
  rw [detectHints, once]
  simp only [forEach, ran, ok_bind, List.append_nil]
  rw [List.mergeSort_of_pairwise sorted]

/-- The columns of the path are those of a blank and the slash, and the email address is inside the URL. -/
theorem detectHints_unfit :
    (¬∃ hints, detectHints widePatterns [wideRow] 5 = .ok hints ∧ HintsFit [wideRow] hints) ∧
      ¬∃ hints, detectHints userPatterns [userRow] 15 = .ok hints ∧ HintsFit [userRow] hints := by
  constructor
  next =>
    rintro ⟨hints, ran, fits⟩
    have found : rowHints widePatterns wideRow 0 =
        .ok [{ text := ['/', 'a'], kind := .filePath, startRow := 0, startCol := 2, endRow := 0, endCol := 3 }] := by
      decide
    cases ran.symm.trans (detectHints_one found (by decide))
    obtain ⟨-, row, same, text⟩ := fits.text _ List.mem_cons_self
    cases same
    revert text
    decide
  next =>
    rintro ⟨hints, ran, fits⟩
    have found : rowHints userPatterns userRow 0 =
        .ok [{ text := "http://me@x.org".toList, kind := .url, startRow := 0, startCol := 0, endRow := 0, endCol := 14 },
          { text := "me@x.org".toList, kind := .email, startRow := 0, startCol := 7, endRow := 0, endCol := 14 }] := by
      decide
    cases ran.symm.trans (detectHints_one found (by decide))
    have apart := fits.apart
    revert apart
    decide

end Emux
