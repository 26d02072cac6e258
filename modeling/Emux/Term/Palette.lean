import Emux.Term.Clipboard
import Emux.Term.Osc

set_option autoImplicit false

/-!
# Colours of the palette

Programs set the colours of the palette and ask for them. A report is the command that sets the colour it tells, so that
another terminal takes it over if the command ends with BEL. It ends with the 7-bit string terminator instead, which
cancels it.
-/

namespace Emux

open Checked

theorem length_defaultPalette : defaultPalette.length = 256 := by simp [defaultPalette]

/-- `rgb:RRRR/GGGG/BBBB`, with each byte twice. -/
def colorText (color : Rgb) : Bytes :=
  ascii ['r', 'g', 'b', ':'] ++ (hexByte color.1 ++ hexByte color.1 ++ 0x2F :: (hexByte color.2.1 ++ hexByte color.2.1 ++
    0x2F :: (hexByte color.2.2 ++ hexByte color.2.2)))

def palettePayload (idx : Nat) (spec : Bytes) : Bytes := ascii ['4'] ++ 0x3B :: (decimal idx ++ 0x3B :: spec)

theorem paletteResponse_eq (idx : Nat) (color : Rgb) :
    Screen.paletteResponse idx color = Parser.oscBytes (palettePayload idx (colorText color)) ++ stringTerminator := by
  simp [Screen.paletteResponse, palettePayload, colorText, Parser.oscBytes, ascii]

theorem parseUnsigned_decimal : ∀ idx < 256, parseUnsigned 10 65535 (decimal idx) = some idx := by decide +kernel

@[elab_as_elim] theorem forall_byte {P : Byte -> Prop} (table : ∀ value < 256, P value.toUInt8) (byte : Byte) : P byte := by
  have small := table byte.toNat byte.toNat_lt
  rwa [toUInt8_byte (Nat.mod_eq_of_lt byte.toNat_lt)] at small

theorem parseUnsigned_hexByte (byte : Byte) :
    parseUnsigned 16 65535 (hexByte byte ++ hexByte byte) = some (byte.toNat * 257) :=
  forall_byte (by decide +kernel) byte

theorem hexByte_slash (byte : Byte) : (0x2F : Byte) ∉ hexByte byte ++ hexByte byte :=
  forall_byte (by decide +kernel) byte

theorem parseColorSpec_text (color : Rgb) : parseColorSpec (colorText color) = .ok (some color) := by
  -- Each field has four digits, and its upper byte is the colour's.
  have upper (byte : Byte) : (byte.toNat * 257 / 256).toUInt8 = byte := by
    have small := byte.toNat_lt
    have whole : byte.toNat * 257 / 256 = byte.toNat := Nat.div_eq_of_lt_le (by omega) (by omega)
    exact toUInt8_byte (by omega)
  have long : ¬ (hexByte color.1 ++ hexByte color.1).length ≤ 2 := by simp [hexByte, ascii]
  have fields : (hexByte color.1 ++ hexByte color.1 ++ 0x2F :: (hexByte color.2.1 ++ hexByte color.2.1 ++
      0x2F :: (hexByte color.2.2 ++ hexByte color.2.2))).splitOn 0x2F =
      [hexByte color.1 ++ hexByte color.1, hexByte color.2.1 ++ hexByte color.2.1, hexByte color.2.2 ++ hexByte color.2.2] := by
    rw [List.splitOn_append_cons_self_of_not_mem (hexByte_slash _),
      List.splitOn_append_cons_self_of_not_mem (hexByte_slash _), List.splitOn_eq_singleton (hexByte_slash _)]
  rw [parseColorSpec, colorText, stripPrefix, if_pos (List.prefix_append _ _), List.drop_left]
  simp only [fields, parseUnsigned_hexByte, Option.bind_eq_bind, Option.bind_some, if_neg long, upper]

def IsField (text : Bytes) : Prop := ∀ byte ∈ text, Parser.isPrintable byte = true ∧ byte ≠ 0x3B

theorem isField_of_all {text : Bytes} (all : (text.all fun byte => Parser.isPrintable byte && byte != 0x3B) = true) :
    IsField text := by
  intro byte member
  have plain := List.all_eq_true.mp all byte member
  rwa [Bool.and_eq_true, bne_iff_ne] at plain

theorem isField_hexByte (byte : Byte) : IsField (hexByte byte) := by
  -- The digits are run through as a list: deciding over every byte instead would test each number 256 times.
  apply isField_of_all
  exact forall_byte (by decide +kernel) byte

theorem isField_decimal {idx : Nat} (small : idx < 256) : IsField (decimal idx) := by
  have table : ∀ idx < 256, ((decimal idx).all fun digit => Parser.isPrintable digit && digit != 0x3B) = true := by
    decide +kernel
  exact isField_of_all (table idx small)

theorem isField_colorText (color : Rgb) : IsField (colorText color) := by
  have pair (byte : Byte) : IsField (hexByte byte ++ hexByte byte) :=
    List.forall_mem_append.mpr ⟨isField_hexByte byte, isField_hexByte byte⟩
  have slash : Parser.isPrintable 0x2F = true ∧ (0x2F : Byte) ≠ 0x3B := by decide
  refine List.forall_mem_append.mpr ⟨isField_of_all rfl, List.forall_mem_append.mpr ⟨pair _, ?_⟩⟩
  exact List.forall_mem_cons.mpr ⟨slash, List.forall_mem_append.mpr ⟨pair _, List.forall_mem_cons.mpr ⟨slash, pair _⟩⟩⟩

theorem IsField.text {text : Bytes} (field : IsField text) : utf8OrEmpty text = text := by
  refine if_pos (validUtf8_ascii fun byte member => ?_)
  have printable := within_iff.mp (field byte member).1
  omega

inductive PaletteRequest where
  | query (idx : Nat)
  | set (idx : Nat) (color : Rgb)

namespace PaletteRequest

def idx : PaletteRequest -> Nat
  | .query idx => idx
  | .set idx _ => idx

def spec : PaletteRequest -> Bytes
  | .query _ => ascii ['?']
  | .set _ color => colorText color

def bytes (request : PaletteRequest) : Bytes := Parser.oscBytes (palettePayload request.idx request.spec) ++ [0x07]

def colors (before : Nat -> Rgb) : List PaletteRequest -> Nat -> Rgb
  | [] => before
  | .query _ :: rest => colors before rest
  | .set idx color :: rest => colors (Function.update before idx color) rest

def answers (before : Nat -> Rgb) : List PaletteRequest -> List (Nat × Rgb)
  | [] => []
  | .query idx :: rest => (idx, before idx) :: answers before rest
  | .set idx color :: rest => answers (Function.update before idx color) rest

def ofReport (report : Nat × Rgb) : PaletteRequest := .set report.1 report.2

theorem colors_append (before : Nat -> Rgb) (first later : List PaletteRequest) :
    colors before (first ++ later) = colors (colors before first) later := by
  induction first generalizing before with
  | nil => rfl
  | cons request rest ih => cases request <;> exact ih _

theorem answers_append (before : Nat -> Rgb) (first later : List PaletteRequest) :
    answers before (first ++ later) = answers before first ++ answers (colors before first) later := by
  induction first generalizing before with
  | nil => rfl
  | cons request rest ih =>
    cases request with
    | query idx => exact congrArg _ (ih _)
    | set idx color => exact ih _

theorem mem_answers {before : Nat -> Rgb} {requests : List PaletteRequest} {report : Nat × Rgb}
    (member : report ∈ answers before requests) : .query report.1 ∈ requests := by
  induction requests generalizing before with
  | nil => cases member
  | cons request rest ih =>
    cases request with
    | query idx =>
      rcases List.mem_cons.mp member with rfl | later
      next => exact List.mem_cons_self
      next => exact List.mem_cons_of_mem _ (ih later)
    | set idx color => exact List.mem_cons_of_mem _ (ih member)

theorem colors_unasked {reports : List (Nat × Rgb)} {idx : Nat} (unasked : ∀ report ∈ reports, report.1 ≠ idx)
    (copy : Nat -> Rgb) : colors copy (reports.map ofReport) idx = copy idx := by
  induction reports generalizing copy with
  | nil => rfl
  | cons report rest ih =>
    obtain ⟨here, later⟩ := List.forall_mem_cons.mp unasked
    exact (ih later _).trans (Function.update_of_ne here.symm _ _)

theorem answers_ofReport (before : Nat -> Rgb) (reports : List (Nat × Rgb)) :
    answers before (reports.map ofReport) = [] := by
  induction reports generalizing before with
  | nil => rfl
  | cons report rest ih => exact ih _

theorem colors_reports {requests : List PaletteRequest} {idx : Nat} (unset : ∀ color, .set idx color ∉ requests)
    {mine copy : Nat -> Rgb} (agree : copy idx = mine idx) :
    colors copy ((answers mine requests).map ofReport) idx = colors mine requests idx := by
  induction requests generalizing mine copy with
  | nil => exact agree
  | cons request rest ih =>
    have later (color : Rgb) : .set idx color ∉ rest := fun member => unset color (List.mem_cons_of_mem _ member)
    cases request with
    | query other =>
      refine ih later ?_
      rcases eq_or_ne idx other with rfl | differs
      next => exact Function.update_self ..
      next => rw [Function.update_of_ne differs, agree]
    | set other color =>
      refine ih later ?_
      have differs : idx ≠ other := by
        rintro rfl
        exact unset color List.mem_cons_self
      rw [Function.update_of_ne differs, agree]

theorem colors_asked {first later : List PaletteRequest} {idx : Nat} (unset : ∀ color, .set idx color ∉ later)
    (mine copy : Nat -> Rgb) :
    colors copy ((answers mine (first ++ .query idx :: later)).map ofReport) idx =
      colors mine (first ++ .query idx :: later) idx := by
  rw [answers_append, List.map_append, colors_append, colors_append]
  exact colors_reports unset (Function.update_self ..)

theorem isField_spec (request : PaletteRequest) : IsField request.spec := by
  cases request with
  | query idx => exact isField_of_all rfl
  | set idx color => exact isField_colorText color

theorem fields {request : PaletteRequest} (small : request.idx < 256) :
    (palettePayload request.idx request.spec).splitOn 0x3B = [ascii ['4'], decimal request.idx, request.spec] := by
  have number : (0x3B : Byte) ∉ decimal request.idx := fun member => (isField_decimal small _ member).2 rfl
  have last : (0x3B : Byte) ∉ request.spec := fun member => (request.isField_spec _ member).2 rfl
  rw [palettePayload, List.splitOn_append_cons_self_of_not_mem (by decide), List.splitOn_append_cons_self_of_not_mem number,
    List.splitOn_eq_singleton last]

theorem printable {request : PaletteRequest} (small : request.idx < 256) :
    ∀ byte ∈ palettePayload request.idx request.spec, Parser.isPrintable byte = true := by
  have separator : Parser.isPrintable 0x3B = true := rfl
  refine List.forall_mem_append.mpr ⟨List.all_eq_true.mp rfl, ?_⟩
  refine List.forall_mem_cons.mpr ⟨separator, List.forall_mem_append.mpr ⟨?_, ?_⟩⟩
  next => exact fun byte member => (isField_decimal small byte member).1
  next => exact List.forall_mem_cons.mpr ⟨separator, fun byte member => (request.isField_spec byte member).1⟩

theorem fits {request : PaletteRequest} (small : request.idx < 256) :
    (palettePayload request.idx request.spec).length ≤ maxOscData := by
  have number : ∀ idx < 256, (decimal idx).length ≤ 3 := by decide +kernel
  have digits := number _ small
  have short : request.spec.length ≤ 18 := by
    cases request with
    | query idx => simp [spec, ascii]
    | set idx color => simp [spec, colorText, hexByte, ascii]
  have limit : 100 ≤ maxOscData := by decide
  simp only [palettePayload, List.length_append, List.length_cons, ascii, List.length_map, List.length_nil]
  omega

end PaletteRequest

namespace Screen

def request (s : Screen) : PaletteRequest -> Screen
  | .query idx => { s with responseBuf := s.responseBuf ++ paletteResponse idx (s.paletteColor idx) }
  | .set idx color => s.setPaletteColor idx color

theorem handleOsc_request (s : Screen) {request : PaletteRequest} (small : request.idx < 256) :
    s.handleOsc ((palettePayload request.idx request.spec).splitOn 0x3B) = .ok (s.request request) := by
  have number : textPart [ascii ['4'], decimal request.idx, request.spec] 1 = decimal request.idx :=
    IsField.text (isField_decimal small)
  have last : textPart [ascii ['4'], decimal request.idx, request.spec] 2 = request.spec := request.isField_spec.text
  have listed : ¬ [ascii ['4'], decimal request.idx, request.spec].length < 3 := by simp
  rw [PaletteRequest.fields small, handleOsc_palette s rfl, oscPalette, if_neg listed, number, last,
    parseUnsigned_decimal _ small, Option.filter_some, if_pos (by simpa using small)]
  cases request with
  | query idx => rfl
  | set idx color =>
    have other : colorText color ≠ ascii ['?'] := by simp [colorText, ascii]
    dsimp only [PaletteRequest.spec]
    rw [if_neg other, parseColorSpec_text]
    rfl

theorem paletteColor_set {s : Screen} {idx : Nat} (small : idx < s.palette.length) (color : Rgb) :
    (s.setPaletteColor idx color).paletteColor = Function.update s.paletteColor idx color := by
  funext other
  rcases eq_or_ne other idx with rfl | differs
  next => simp [paletteColor, setPaletteColor, small]
  next => simp [paletteColor, setPaletteColor, List.getElem?_set_ne differs.symm, Function.update_of_ne differs]

/-- What requests do to a screen: the palette goes the way of an array of colours, and each query is answered from it. -/
structure Answered (requests : List PaletteRequest) (before after : Screen) : Prop where
  rest : after = { before with
    palette := after.palette
    responseBuf := before.responseBuf ++
      (PaletteRequest.answers before.paletteColor requests).flatMap fun answer => paletteResponse answer.1 answer.2 }
  full : after.palette.length = before.palette.length
  colors : after.paletteColor = PaletteRequest.colors before.paletteColor requests

theorem Answered.cons {request : PaletteRequest} {requests : List PaletteRequest} {before after : Screen}
    (small : request.idx < before.palette.length) (later : Answered requests (before.request request) after) :
    Answered (request :: requests) before after := by
  obtain ⟨rest, full, colors⟩ := later
  cases request with
  | query idx =>
    refine ⟨?_, full, colors⟩
    rw [rest]
    simp only [Screen.request, PaletteRequest.answers, List.flatMap_cons, List.append_assoc]
    rfl
  | set idx color =>
    have painted : (before.request (.set idx color)).paletteColor = Function.update before.paletteColor idx color :=
      paletteColor_set small color
    rw [painted] at rest colors
    refine ⟨?_, ?_, colors⟩
    next =>
      rw [rest]
      rfl
    next => rw [full, Screen.request, setPaletteColor, List.length_set]

end Screen

namespace Terminal

variable {t : Terminal}

theorem feed_request (ground : t.parser.state = .ground) {request : PaletteRequest} (small : request.idx < 256) :
    ∃ next, t.feed request.bytes = .ok next ∧ next.parser.state = .ground ∧ next.screen = t.screen.request request := by
  have collected := Parser.advanceBytes_oscBytes ground
    (fun byte member => (Parser.printable_high (PaletteRequest.printable small byte member)).1)
    (fun member => (Parser.printable_high (PaletteRequest.printable small _ member)).2 rfl) (PaletteRequest.fits small)
  have handled := t.screen.handleOsc_request small
  have parsed : t.parser.advance request.bytes =
      ({ t.parser with intermediates := [], oscData := palettePayload request.idx request.spec, state := .ground },
        [.oscDispatch ((palettePayload request.idx request.spec).splitOn 0x3B)]) := by
    rw [Parser.advance_eq_advanceBytes, PaletteRequest.bytes, Parser.advanceBytes_append, collected]
    rfl
  have performed : run Screen.perform [.oscDispatch ((palettePayload request.idx request.spec).splitOn 0x3B)] t.screen =
      .ok (t.screen.request request) := by
    simp only [run_cons, run_nil, Screen.perform, Screen.calls, Call.exec, Call.ops, Op.exec, handled, ok_bind]
  rw [feed, parsed]
  dsimp only
  rw [performed, ok_bind]
  exact ⟨_, rfl, rfl, rfl⟩

theorem feed_nil (t : Terminal) : t.feed [] = .ok t := (run_feed_flatten [] t).symm

/-- The escape cancels the command, and the backslash is dispatched without an effect. -/
theorem feed_paletteResponse (ground : t.parser.state = .ground) {idx : Nat} (small : idx < 256) (color : Rgb) :
    ∃ next, t.feed (Screen.paletteResponse idx color) = .ok next ∧ next.parser.state = .ground ∧ next.screen = t.screen := by
  have request : (PaletteRequest.set idx color).idx < 256 := small
  have collected := Parser.advanceBytes_oscBytes ground
    (fun byte member => (Parser.printable_high (PaletteRequest.printable request byte member)).1)
    (fun member => (Parser.printable_high (PaletteRequest.printable request _ member)).2 rfl) (PaletteRequest.fits request)
  have parsed : t.parser.advance (Screen.paletteResponse idx color) =
      ({ t.parser with intermediates := [], oscData := palettePayload idx (colorText color), state := .ground },
        [.escDispatch [] false 0x5C]) := by
    rw [Parser.advance_eq_advanceBytes, paletteResponse_eq, Parser.advanceBytes_append]
    dsimp only [PaletteRequest.idx, PaletteRequest.spec] at collected
    rw [collected]
    rfl
  have performed : run Screen.perform [.escDispatch [] false 0x5C] t.screen = .ok t.screen := rfl
  rw [feed, parsed]
  dsimp only
  rw [performed, ok_bind]
  exact ⟨_, rfl, rfl, rfl⟩

theorem feed_requests (ground : t.parser.state = .ground) {requests : List PaletteRequest}
    (small : ∀ request ∈ requests, request.idx < 256) (full : t.screen.palette.length = 256) :
    ∃ next, t.feed (requests.flatMap PaletteRequest.bytes) = .ok next ∧ next.parser.state = .ground ∧
      Screen.Answered requests t.screen next.screen := by
  -- One request after the other.
  induction requests generalizing t with
  | nil =>
    refine ⟨t, feed_nil t, ground, ?_, rfl, rfl⟩
    simp [PaletteRequest.answers]
  | cons request rest ih =>
    obtain ⟨here, later⟩ := List.forall_mem_cons.mp small
    obtain ⟨middle, fed, between, shown⟩ := feed_request ground here
    have kept : middle.screen.palette.length = 256 := by
      rw [shown, ← full]
      cases request with
      | query idx => rfl
      | set idx color => exact List.length_set
    obtain ⟨next, finished, after, answered⟩ := ih between later kept
    refine ⟨next, ?_, after, ?_⟩
    next => rw [List.flatMap_cons, feed_append, fed, ok_bind, finished]
    next =>
      rw [shown] at answered
      exact .cons (by omega) answered

theorem feed_reports (ground : t.parser.state = .ground) {reports : List (Nat × Rgb)}
    (small : ∀ report ∈ reports, report.1 < 256) :
    ∃ next, t.feed (reports.flatMap fun report => Screen.paletteResponse report.1 report.2) = .ok next ∧
      next.parser.state = .ground ∧ next.screen = t.screen := by
  induction reports generalizing t with
  | nil => exact ⟨t, feed_nil t, ground, rfl⟩
  | cons report rest ih =>
    obtain ⟨here, later⟩ := List.forall_mem_cons.mp small
    obtain ⟨middle, fed, between, shown⟩ := feed_paletteResponse ground here report.2
    obtain ⟨next, finished, after, same⟩ := ih between later
    refine ⟨next, ?_, after, same.trans shown⟩
    rw [List.flatMap_cons, feed_append, fed, ok_bind, finished]

/-- Requests in any chunks: what a terminal does with them, and what another one does with the reports, with BEL at
the end and as they are sent. -/
theorem palette_exchange {a b : Terminal} (groundA : a.parser.state = .ground) (fullA : a.screen.palette.length = 256)
    (groundB : b.parser.state = .ground) (fullB : b.screen.palette.length = 256) {requests : List PaletteRequest}
    (small : ∀ request ∈ requests, request.idx < 256) {chunks : List Bytes}
    (whole : chunks.flatten = requests.flatMap PaletteRequest.bytes) :
    ∃ next, run feed chunks a = .ok next ∧ next.parser.state = .ground ∧
      Screen.Answered requests a.screen next.screen ∧
      (∀ pieces : List Bytes, pieces.flatten = (PaletteRequest.answers a.screen.paletteColor requests).flatMap
          (fun report => (PaletteRequest.ofReport report).bytes) ->
        ∃ copy, run feed pieces b = .ok copy ∧ copy.screen = { b.screen with palette := copy.screen.palette } ∧
          (∀ idx, .query idx ∉ requests -> copy.screen.paletteColor idx = b.screen.paletteColor idx) ∧
          ∀ first idx later, requests = first ++ .query idx :: later -> (∀ color, .set idx color ∉ later) ->
            copy.screen.paletteColor idx = next.screen.paletteColor idx) ∧
      ∀ pieces : List Bytes, pieces.flatten = (PaletteRequest.answers a.screen.paletteColor requests).flatMap
          (fun report => Screen.paletteResponse report.1 report.2) ->
        ∃ copy, run feed pieces b = .ok copy ∧ copy.screen = b.screen := by
  obtain ⟨next, fed, after, answered⟩ := feed_requests groundA small fullA
  have reported : ∀ report ∈ PaletteRequest.answers a.screen.paletteColor requests, report.1 < 256 :=
    fun report member => small _ (PaletteRequest.mem_answers member)
  refine ⟨next, ?_, after, answered, ?_, ?_⟩
  next => rw [run_feed_flatten, whole, fed]
  next =>
    intro pieces joined
    have commands : ∀ request ∈ (PaletteRequest.answers a.screen.paletteColor requests).map PaletteRequest.ofReport,
        request.idx < 256 := List.forall_mem_map.mpr reported
    obtain ⟨copy, copied, -, changed⟩ := feed_requests groundB commands fullB
    refine ⟨copy, ?_, ?_, fun idx unasked => ?_, fun first idx later split unset => ?_⟩
    next => rw [run_feed_flatten, joined, ← copied, List.flatMap_map]
    next =>
      -- The copy is asked for nothing.
      have silent : PaletteRequest.answers b.screen.paletteColor
          ((PaletteRequest.answers a.screen.paletteColor requests).map PaletteRequest.ofReport) = [] :=
        PaletteRequest.answers_ofReport _ _
      have rest := changed.rest
      rw [silent, List.flatMap_nil, List.append_nil] at rest
      exact rest
    next =>
      rw [changed.colors]
      refine PaletteRequest.colors_unasked (fun report member same => ?_) _
      exact unasked (same ▸ PaletteRequest.mem_answers member)
    next =>
      rw [changed.colors, answered.colors, split]
      exact PaletteRequest.colors_asked unset _ _
  next =>
    intro pieces joined
    obtain ⟨copy, copied, -, same⟩ := feed_reports groundB reported
    exact ⟨copy, by rw [run_feed_flatten, joined, copied], same⟩

theorem palette_exchange_red :
    ∃ next, run feed [[0x1B, 0x5D, 0x34, 0x3B, 0x31, 0x3B], colorText (205, 0, 0) ++ [0x07, 0x1B],
          [0x5D, 0x34, 0x3B, 0x31, 0x3B, 0x3F, 0x07]] (Terminal.new 80 24) = .ok next ∧ next.parser.state = .ground ∧
      Screen.Answered [.set 1 (205, 0, 0), .query 1] (Terminal.new 80 24).screen next.screen ∧
      (∀ pieces : List Bytes, pieces.flatten =
          (PaletteRequest.answers (Terminal.new 80 24).screen.paletteColor [.set 1 (205, 0, 0), .query 1]).flatMap
            (fun report => (PaletteRequest.ofReport report).bytes) ->
        ∃ copy, run feed pieces (Terminal.new 10 5) = .ok copy ∧
          copy.screen = { (Terminal.new 10 5).screen with palette := copy.screen.palette } ∧
          (∀ idx, .query idx ∉ [.set 1 (205, 0, 0), PaletteRequest.query 1] ->
            copy.screen.paletteColor idx = (Terminal.new 10 5).screen.paletteColor idx) ∧
          ∀ first idx later, [.set 1 (205, 0, 0), .query 1] = first ++ PaletteRequest.query idx :: later ->
            (∀ color, .set idx color ∉ later) -> copy.screen.paletteColor idx = next.screen.paletteColor idx) ∧
      ∀ pieces : List Bytes, pieces.flatten =
          (PaletteRequest.answers (Terminal.new 80 24).screen.paletteColor [.set 1 (205, 0, 0), .query 1]).flatMap
            (fun report => Screen.paletteResponse report.1 report.2) ->
        ∃ copy, run feed pieces (Terminal.new 10 5) = .ok copy ∧ copy.screen = (Terminal.new 10 5).screen :=
  @palette_exchange (Terminal.new 80 24) (Terminal.new 10 5) rfl length_defaultPalette rfl
    length_defaultPalette [.set 1 (205, 0, 0), .query 1] (by decide) _ (by decide)

end Terminal

end Emux
