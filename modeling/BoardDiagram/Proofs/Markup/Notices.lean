import BoardDiagram.Proofs.Filling
import BoardDiagram.Proofs.Session

/-! Notices as a reader finds them.  The document of a notice shows its message in spans, one for
each line, and its frame and its own size grow with the number of spans.  The spans hold all of the
message but white space, in order, and none is empty or too wide. -/

namespace BoardDiagram

open Text Wrap

namespace Markup

/-! ### The texts of elements -/

/-- The character data before the first tag. -/
def leadingText : Markup → List Char
  | .data text :: rest => text ++ leadingText rest
  | _ => []

/-- The text of each element of a given name, up to the first tag inside, as it is written. -/
def texts (name : List Char) : Markup → List (List Char)
  | [] => []
  | .start other _ :: rest =>
    if other = name then leadingText rest :: texts name rest else texts name rest
  | _ :: rest => texts name rest

theorem leadingText_dataPiece (text : List Char) (rest : Markup) :
    leadingText (dataPiece text ++ rest) = text ++ leadingText rest := by
  unfold dataPiece
  split
  · rename_i hempty
    rw [List.isEmpty_iff.mp hempty]
    rfl
  · rfl

theorem leadingText_settle (text : List Char) (markup : Markup) :
    leadingText (settle text markup) = text ++ leadingText markup := by
  induction markup generalizing text with
  | nil =>
    have hdata := leadingText_dataPiece text []
    rwa [List.append_nil] at hdata
  | cons piece markup ih =>
    cases piece with
    | data more =>
      show leadingText (settle (text ++ more) markup) = text ++ (more ++ leadingText markup)
      rw [ih, List.append_assoc]
    | start name attributes => exact leadingText_dataPiece text _
    | stop name => exact leadingText_dataPiece text _
    | void name attributes => exact leadingText_dataPiece text _

theorem texts_append {name : List Char} {a : Markup} (h : ∀ piece ∈ a, opens name piece = false)
    (b : Markup) : texts name (a ++ b) = texts name b := by
  induction a with
  | nil => rfl
  | cons piece a ih =>
    obtain ⟨hpiece, ha⟩ := List.forall_mem_cons.mp h
    cases piece with
    | start other attributes =>
      have hother : ¬ other = name := of_decide_eq_false hpiece
      rw [List.cons_append, texts, if_neg hother, ih ha]
    | _ => exact ih ha

/-- Joining character data keeps the texts of elements. -/
theorem texts_settle (name text : List Char) (markup : Markup) :
    texts name (settle text markup) = texts name markup := by
  have hdata (text : List Char) (rest : Markup) :
      texts name (dataPiece text ++ rest) = texts name rest := by
    apply texts_append
    intro piece hpiece
    unfold dataPiece at hpiece
    split at hpiece
    · exact absurd hpiece List.not_mem_nil
    · rw [List.mem_singleton.mp hpiece]
      rfl
  induction markup generalizing text with
  | nil =>
    have hnil := hdata text []
    rwa [List.append_nil] at hnil
  | cons piece markup ih =>
    cases piece with
    | data more => exact ih (text ++ more)
    | start other attributes =>
      show texts name (dataPiece text ++ .start other attributes :: settle [] markup) = _
      rw [hdata, texts, texts, leadingText_settle, ih, List.nil_append]
    | stop other => exact (hdata text _).trans (ih [])
    | void other attributes => exact (hdata text _).trans (ih [])

end Markup

namespace Drawing

open Markup Shape

/-! ### The lines of a notice -/

theorem noticeLines_eq_wrap {message : List Char} (h : isBlankText message = false) :
    noticeLines message = wrap 60 (by decide) message := by
  have hlines := wrap_ne_nil (show 0 < 60 by decide) h
  rw [noticeLines, if_neg (mt List.isEmpty_iff.mp hlines)]

theorem texts_noticeSpans (lines : List (List Char)) (index : Nat) (rest : Markup) :
    texts "tspan".toList (noticeSpans lines index ++ rest) =
      lines.map escape ++ texts "tspan".toList rest := by
  induction lines generalizing index with
  | nil => rfl
  | cons line lines ih =>
    rw [noticeSpans_cons, List.append_assoc, List.map_cons, List.cons_append, ← ih (index + 1)]
    simp [noticeLine, Markup.inline, texts, leadingText]

theorem opens_noticeSpans {name : List Char} (h : name ≠ "tspan".toList) (lines : List (List Char))
    (index : Nat) : ∀ piece ∈ noticeSpans lines index, opens name piece = false := by
  intro piece hpiece
  obtain ⟨⟨text, i⟩, -, hpiece⟩ := List.mem_flatMap.mp hpiece
  simp only [noticeLine, Markup.inline, List.mem_cons, List.not_mem_nil, or_false,
    List.cons_append, List.nil_append] at hpiece
  obtain rfl | rfl | rfl := hpiece
  · exact decide_eq_false h.symm
  · rfl
  · rfl

/-- What stands before the spans of a notice. -/
def noticeFront (height : Nat) : Markup := [
  .start "svg".toList (rootAttributes 520 height), newline,
  .start "g".toList [attr "class" Palette.errorClass], newline,
  .void "rect".toList (frameAttributes height), newline,
  .start "text".toList [attr "x" "30".toList, attr "y" "30".toList, attr "font-size" "15".toList,
    attr "fill" "black".toList]]

/-- What stands behind the spans of a notice. -/
def noticeBack : Markup := [
  .stop "text".toList, newline, .stop "g".toList, newline, .stop "svg".toList, newline]

theorem document_eq_spans (message : List Char) :
    document (rootAttributes 520 ((noticeLines message).length * 50 : Nat)) []
        (noticeContent message) =
      noticeFront ((noticeLines message).length * 50) ++
        (noticeSpans (noticeLines message) 0 ++ noticeBack) := by
  simp [document, heading, noticeContent_eq, closeDocument, block, line, Markup.inline, leaf,
    noticeFront, noticeBack]

/-! ### Reading a notice -/

/-- The lines that a notice shows, as they are read. -/
def spans (document : Markup) : List (List Char) :=
  (texts "tspan".toList document).map unescape

/-- A document shows a message: each of its spans has some of the text, and the image is as high as
they need. -/
structure ShowsMessage (message : List Char) (document : Markup) : Prop where
  some_span : 1 ≤ (spans document).length
  span : ∀ span ∈ spans document, span ≠ [] ∧ span.length ≤ 60
  text : (spans document).flatten.filter (!isBlank ·) = message.filter (!isBlank ·)
  root : ∃ attributes,
    document.filter (opens "svg".toList) = [.start "svg".toList attributes] ∧
      Diagram.attribute? "height" attributes = some (decimal (50 * (spans document).length : Nat)) ∧
      Diagram.attribute? "viewBox" attributes =
        some ("0 0 520 ".toList ++ decimal (50 * (spans document).length : Nat))
  frame : ∃ attributes,
    document.filter (opens "rect".toList) = [.void "rect".toList attributes] ∧
      Diagram.attribute? "height" attributes = some (decimal (50 * (spans document).length : Nat))

section Read

variable (message : List Char)

/-- The document of a notice as it is read. -/
def noticeDocument : Markup :=
  settle [] (document (rootAttributes 520 ((noticeLines message).length * 50 : Nat)) []
    (noticeContent message))

theorem spans_noticeDocument : spans (noticeDocument message) = noticeLines message := by
  have hfront (height : Nat) :
      ∀ piece ∈ noticeFront height, opens "tspan".toList piece = false := by
    simp +decide [noticeFront, opens, newline]
  have hback : texts "tspan".toList noticeBack = [] := rfl
  have hround : unescape ∘ escape = id := funext unescape_escape
  rw [spans, noticeDocument, texts_settle, document_eq_spans, texts_append (hfront _),
    texts_noticeSpans, hback, List.append_nil, List.map_map, hround, List.map_id]

theorem root_noticeDocument : (noticeDocument message).filter (opens "svg".toList) =
    [.start "svg".toList (rootAttributes 520 ((noticeLines message).length * 50 : Nat))] :=
  filter_svg_document [] (fragment_noticeContent message)

theorem frame_noticeDocument : (noticeDocument message).filter (opens "rect".toList) =
    [.void "rect".toList (frameAttributes ((noticeLines message).length * 50))] := by
  have hspans : (noticeSpans (noticeLines message) 0).filter (opens "rect".toList) = [] :=
    List.filter_eq_nil_iff.mpr fun piece hpiece =>
      Bool.eq_false_iff.mp (opens_noticeSpans (by decide) _ _ piece hpiece)
  rw [noticeDocument, filter_opens_settle, document_eq_spans, List.filter_append,
    List.filter_append, hspans]
  rfl

theorem showsMessage_noticeDocument {message : List Char} (h : isBlankText message = false) :
    ShowsMessage message (noticeDocument message) := by
  have hlines := noticeLines_eq_wrap h
  have hsize : (noticeLines message).length * 50 = 50 * (noticeLines message).length :=
    Nat.mul_comm _ _
  constructor
  case some_span =>
    rw [spans_noticeDocument, hlines]
    exact List.length_pos_iff.mpr (wrap_ne_nil _ h)
  case span =>
    rw [spans_noticeDocument, hlines]
    exact line_of_mem_wrap _ message
  case text =>
    rw [spans_noticeDocument, hlines]
    exact solid_wrap _ message
  case root =>
    refine ⟨_, root_noticeDocument message, ?_, ?_⟩ <;>
      rw [spans_noticeDocument, ← hsize] <;> rfl
  case frame =>
    refine ⟨_, frame_noticeDocument message, ?_⟩
    rw [spans_noticeDocument, ← hsize]
    rfl

end Read

/-! ### Notices that can be written -/

theorem exists_notice_iff (message : List Char) : (∃ picture, notice message = .ok picture) ↔
    50 * (noticeLines message).length < Numeral.bound := by
  rw [Nat.mul_comm]
  constructor
  · rintro ⟨picture, hpicture⟩
    exact (notice_eq_ok.mp hpicture).1
  · intro h
    exact ⟨_, notice_eq_ok.mpr ⟨h, rfl⟩⟩

/-- The loop that fills lines ends for every message.  The notice of a message that is not blank can
be written unless its height is a number with too many digits, for which the message would have to
be longer than any that can be stored; and its document shows the message. -/
theorem notice_shows_message (message : List Char) :
    (∀ passes, 16 * message.length ≤ passes →
      (Filling.pass 60)^[passes] (.ofText message) = ⟨wrap 60 (by decide) message, []⟩) ∧
    (isBlankText message = false →
      ((∃ picture, notice message = .ok picture) ↔
        50 * (wrap 60 (by decide) message).length < Numeral.bound) ∧
      (400 * message.length < Numeral.bound → ∃ picture, notice message = .ok picture) ∧
      ∀ picture, notice message = .ok picture → ∃ document,
        pieces? picture.xml = some document ∧ IsDocument "svg".toList document ∧
          ShowsMessage message document) := by
  refine ⟨fun passes hpasses => Filling.iterate_ofText (by decide) message hpasses, fun h => ?_⟩
  have hiff := exists_notice_iff message
  rw [noticeLines_eq_wrap h] at hiff
  refine ⟨hiff, fun hlength => hiff.mpr ?_, fun picture hpicture => ?_⟩
  · have hlines := length_wrap_le (show 0 < 60 by decide) message
    omega
  · obtain ⟨-, rfl⟩ := notice_eq_ok.mp hpicture
    have hcontent := fragment_noticeContent message
    obtain ⟨hread, -⟩ := pieces?_document (quiet_rootAttributes 520 _) [] hcontent
    exact ⟨noticeDocument message, hread, isDocument_settle [] hcontent,
      showsMessage_noticeDocument h⟩

/-- A message whose first word fills a line, so that nothing of the next word, which is longer than
a line, fits behind it. -/
def fullLine : List Char :=
  List.replicate 60 'a' ++ ' ' :: List.replicate 61 'b'

theorem notice_shows_message_fullLine : ∃ picture document, notice fullLine = .ok picture ∧
    pieces? picture.xml = some document ∧ ShowsMessage fullLine document ∧
      (Filling.pass 60)^[16 * fullLine.length] (.ofText fullLine) =
        ⟨wrap 60 (by decide) fullLine, []⟩ := by
  have hsolid : isBlankText fullLine = false := by decide
  have hlength : 400 * fullLine.length < Numeral.bound := by decide +kernel
  obtain ⟨hends, hshown⟩ := notice_shows_message fullLine
  obtain ⟨-, hwritten, hread⟩ := hshown hsolid
  obtain ⟨picture, hpicture⟩ := hwritten hlength
  obtain ⟨document, hpieces, -, hshows⟩ := hread picture hpicture
  exact ⟨picture, document, hpicture, hpieces, hshows, hends _ (Nat.le_refl _)⟩

end Drawing

end BoardDiagram
