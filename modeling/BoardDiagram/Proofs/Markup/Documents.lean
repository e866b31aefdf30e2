import BoardDiagram.Diagram
import BoardDiagram.Proofs.Markup.Scenes
import BoardDiagram.Proofs.Numerals

/-! Documents as markup.  The document of a diagram and the notice that there is none are both one
`svg` element around fragments.  So a reader takes the text of any picture apart into nested elements
whose values and data hold no markup of their own, and finds the title and the addresses of the links
as they were given. -/

namespace BoardDiagram

namespace Markup

/-! ### One element around a fragment -/

/-- The title of a document, on a line of its own. -/
def heading (title : List Char) : Markup :=
  if title.isEmpty then [] else line "title" [] [.data (escape title)]

def document (attributes : List Attribute) (title : List Char) (content : Markup) : Markup :=
  .start "svg".toList attributes :: newline :: (heading title ++ content ++ Shape.closeDocument)

theorem nested_heading (title : List Char) : Nested (heading title) := by
  unfold heading
  split
  · exact .nil
  · exact .element _ _ (.data _ .nil) (.data _ .nil)

theorem isWritten_heading (title : List Char) :
    ∀ piece ∈ heading title, isWritten piece = true := by
  have htag : isName "title".toList = true := by decide
  unfold heading
  split
  · exact fun _ h => absurd h List.not_mem_nil
  · intro piece hpiece
    simp only [line, inline, List.cons_append, List.nil_append, List.mem_cons, List.not_mem_nil,
      or_false] at hpiece
    obtain rfl | rfl | rfl | rfl := hpiece
    · exact Bool.and_eq_true_iff.mpr ⟨htag, rfl⟩
    · exact isSafe_escape title
    · exact htag
    · decide

theorem escape_ne_nil {s : List Char} (h : s ≠ []) : escape s ≠ [] := by
  intro hescape
  have hs := unescape_escape s
  rw [hescape] at hs
  exact h hs.symm

section Document

variable {attributes : List Attribute} {addresses : List (List Char)} {content : Markup}

/-- What a reader of a document finds. -/
theorem pieces?_document (hattributes : Quiet attributes) (title : List Char)
    (h : Fragment addresses content) :
    pieces? (document attributes title content).write =
        some (settle [] (document attributes title content)) ∧
      ∀ piece ∈ settle [] (document attributes title content), isWritten piece = true := by
  have hsvg : isName "svg".toList = true := by decide
  have hwritten : ∀ piece ∈ document attributes title content, isWritten piece = true := by
    intro piece hpiece
    simp only [document, Shape.closeDocument, List.mem_cons, List.mem_append, List.not_mem_nil,
      or_false] at hpiece
    obtain rfl | rfl | (hpiece | hpiece) | rfl | rfl := hpiece
    · exact Bool.and_eq_true_iff.mpr ⟨hsvg, hattributes.attributes.1⟩
    · decide
    · exact isWritten_heading title piece hpiece
    · exact h.written piece hpiece
    · exact hsvg
    · decide
  exact ⟨pieces?_write hwritten, isWritten_settle hwritten rfl⟩

theorem isDocument_settle (title : List Char) (h : Fragment addresses content) :
    IsDocument "svg".toList (settle [] (document attributes title content)) := by
  have hstart (t : List Char) : Piece.start "svg".toList attributes ≠ .data t := nofun
  have hstop (t : List Char) : Piece.stop "svg".toList ≠ .data t := nofun
  refine ⟨attributes, settle [] (newline :: (heading title ++ content)), [newline], ?_, ?_, ?_⟩
  · rw [document, Shape.closeDocument, settle_tag hstart, ← List.cons_append,
      settle_append_tag _ _ hstop]
    rfl
  · exact .settle (.data _ ((nested_heading title).append h.nested)) []
  · exact List.forall_mem_singleton.mpr ⟨['\n'], rfl, by decide⟩

theorem hrefs_document (hattributes : Quiet attributes) (title : List Char)
    (h : Fragment addresses content) :
    hrefs (settle [] (document attributes title content)) = addresses := by
  have hheading : hrefs (heading title) = [] := by
    unfold heading
    split <;> rfl
  have hroot : hrefs [.start "svg".toList attributes, newline] = [] := by
    simp only [hrefs, List.flatMap_cons, List.flatMap_nil, tagAttributes, newline, List.append_nil,
      hattributes.attributes.2, List.map_nil]
  have hclose : hrefs Shape.closeDocument = [] := rfl
  have hparts : document attributes title content =
      [.start "svg".toList attributes, newline] ++ (heading title ++ content) ++
        Shape.closeDocument := by
    simp [document]
  rw [hrefs_settle, hparts, hrefs_append, hrefs_append, hrefs_append, hroot, hheading, hclose,
    h.hrefs, List.nil_append, List.nil_append, List.append_nil]

/-- No part of a document but its root is an `svg` element. -/
theorem filter_svg_document (title : List Char) (h : Fragment addresses content) :
    (settle [] (document attributes title content)).filter (opens "svg".toList) =
      [.start "svg".toList attributes] := by
  have hcontent : content.filter (opens "svg".toList) = [] :=
    List.filter_eq_nil_iff.mpr fun piece hpiece => Bool.eq_false_iff.mp (h.inner piece hpiece).1
  have hheading : (heading title).filter (opens "svg".toList) = [] := by
    unfold heading
    split <;> rfl
  rw [filter_opens_settle, document, List.filter_cons, if_pos (by simp [opens]), List.filter_cons,
    if_neg (by simp [opens, newline]), List.filter_append, List.filter_append, hheading, hcontent]
  rfl

theorem filter_title_document {title : List Char} (htitle : title ≠ [])
    (h : Fragment addresses content) :
    (settle [] (document attributes title content)).filter (opens "title".toList) =
      [.start "title".toList []] := by
  have hcontent : content.filter (opens "title".toList) = [] :=
    List.filter_eq_nil_iff.mpr fun piece hpiece => Bool.eq_false_iff.mp (h.inner piece hpiece).2
  rw [filter_opens_settle, document, heading, if_neg (by simpa using htitle), List.filter_cons,
    if_neg (by simp [opens]), List.filter_cons, if_neg (by simp [opens, newline]),
    List.filter_append, List.filter_append, hcontent]
  rfl

theorem infix_title_document {title : List Char} (htitle : title ≠ []) (content : Markup) :
    [.start "title".toList [], .data (escape title), .stop "title".toList] <:+:
      settle [] (document attributes title content) := by
  have hempty : (escape title).isEmpty = false := by
    simpa using escape_ne_nil htitle
  refine ⟨[.start "svg".toList attributes, newline], settle [] (newline :: (content ++
    Shape.closeDocument)), ?_⟩
  rw [document, heading, if_neg (by simpa using htitle)]
  simp [line, inline, settle, newline, dataPiece, hempty]

end Document

end Markup

namespace Shape

open Markup

/-- The attributes of the root of a document, which show the size of the picture. -/
def rootAttributes (width height : Int) : List Attribute := [
  attr "xmlns" "http://www.w3.org/2000/svg".toList,
  attr "width" (decimal width),
  attr "height" (decimal height),
  attr "viewBox" ("0 0 ".toList ++ decimal width ++ ' ' :: decimal height)]

theorem quiet_rootAttributes (width height : Int) : Quiet (rootAttributes width height) := by
  have hbox : isSafe ("0 0 ".toList ++ decimal width ++ ' ' :: decimal height) = true :=
    isSafe_append (isSafe_append (by decide) (isSafe_decimal width))
      (isSafe_cons rfl (isSafe_decimal height))
  exact .attr rfl rfl <| .attr rfl (isSafe_decimal width) <| .attr rfl (isSafe_decimal height) <|
    .attr rfl hbox .nil

theorem openDocument_eq_ok {width height : Int} {title : List Char} {markup : Markup} :
    openDocument width height title = .ok markup ↔
      (width.natAbs < Numeral.bound ∧ height.natAbs < Numeral.bound) ∧
        markup = .start "svg".toList (rootAttributes width height) :: newline :: heading title := by
  unfold openDocument
  rw [bind_eq_ok]
  constructor
  · rintro ⟨w, hw, h⟩
    obtain ⟨hwidth, rfl⟩ := Numeral.write_eq_ok.mp hw
    obtain ⟨h', hh, h⟩ := bind_eq_ok.mp h
    obtain ⟨hheight, rfl⟩ := Numeral.write_eq_ok.mp hh
    cases h
    exact ⟨⟨hwidth, hheight⟩, rfl⟩
  · rintro ⟨⟨hwidth, hheight⟩, rfl⟩
    refine ⟨_, Numeral.write_eq_ok.mpr ⟨hwidth, rfl⟩, bind_eq_ok.mpr ?_⟩
    exact ⟨_, Numeral.write_eq_ok.mpr ⟨hheight, rfl⟩, rfl⟩

end Shape

namespace Drawing

open Markup Shape

/-- The picture of a diagram is a document of the size of its layout, around its sections. -/
theorem exists_sections_of_picture {scene : Scene} {boardSize : Int} {title : List Char}
    {picture : Picture} (h : Drawing.picture scene boardSize title = .ok picture) :
    ∃ sections : Sections, background scene.layout = .ok sections.background ∧
      scene.overlay = .ok sections.links ∧ scene.body = .ok sections.body ∧
      coordinates ⟨scene.layout, scene.grid.borders, boardSize, scene.font⟩ =
        .ok sections.coordinates ∧
      picture = ⟨document (rootAttributes scene.layout.width scene.layout.height) title
        sections.assemble, some scene.layout.width, some scene.layout.height⟩ := by
  obtain ⟨background, hbackground, h⟩ := bind_eq_ok.mp h
  obtain ⟨-, -, h⟩ := bind_eq_ok.mp h
  obtain ⟨links, hlinks, h⟩ := bind_eq_ok.mp h
  obtain ⟨body, hbody, h⟩ := bind_eq_ok.mp h
  obtain ⟨coordinates, hcoordinates, h⟩ := bind_eq_ok.mp h
  obtain ⟨opening, hopening, h⟩ := bind_eq_ok.mp h
  obtain ⟨-, rfl⟩ := openDocument_eq_ok.mp hopening
  cases h
  refine ⟨⟨background, links, body, coordinates⟩, hbackground, hlinks, hbody, hcoordinates, ?_⟩
  simp [document]

theorem picture_eq_document {scene : Scene} {boardSize : Int} {title : List Char}
    {picture : Picture} (h : Drawing.picture scene boardSize title = .ok picture) :
    ∃ content, Fragment (scene.addresses.map escape) content ∧
      picture = ⟨document (rootAttributes scene.layout.width scene.layout.height) title content,
        some scene.layout.width, some scene.layout.height⟩ := by
  obtain ⟨sections, hbackground, hlinks, hbody, hcoordinates, rfl⟩ := exists_sections_of_picture h
  have hbackground : Drawn (fun _ => True) sections.background := drawn_background hbackground
  have hbody : Drawn (fun _ => True) sections.body :=
    Scene.drawn_body (fun _ => trivial) (fun _ _ _ => trivial) hbody
  have hcoordinates : Drawn (fun _ => True) sections.coordinates :=
    drawn_coordinates (fun _ => trivial) (fun _ _ => trivial) hcoordinates
  have hcontent := ((hbackground.fragment.append (Scene.fragment_overlay hlinks)).append
    hbody.fragment).append hcoordinates.fragment
  exact ⟨sections.assemble, by simpa [Sections.assemble] using hcontent, rfl⟩

theorem fragment_noticeLine (text : List Char) (index : Nat) :
    Fragment [] (noticeLine text index) := by
  have hshift : isSafe (if index = 0 then ['0'] else "1.2em".toList) = true := by
    split <;> decide
  exact .inline rfl (.attr rfl rfl (.attr rfl hshift .nil)) (.data (isSafe_escape text))

/-- What a notice shows: a frame with the lines of the message in it. -/
def noticeContent (message : List Char) : Markup :=
  block "g" [attr "class" Palette.errorClass] (leaf "rect" [attr "x" ['0'], attr "y" ['0'],
    attr "rx" "20".toList, attr "ry" "20".toList, attr "width" "520".toList,
    attr "height" (decimal ((noticeLines message).length * 50 : Nat)), attr "fill" "red".toList,
    attr "stroke" "black".toList] ++
    line "text" [attr "x" "30".toList, attr "y" "30".toList, attr "font-size" "15".toList,
      attr "fill" "black".toList]
      ((noticeLines message).zipIdx.flatMap fun (text, i) => noticeLine text i))

/-- The lines of a notice as spans. -/
def noticeSpans (lines : List (List Char)) (index : Nat) : Markup :=
  (lines.zipIdx index).flatMap fun (text, i) => noticeLine text i

theorem noticeSpans_cons (line : List Char) (lines : List (List Char)) (index : Nat) :
    noticeSpans (line :: lines) index = noticeLine line index ++ noticeSpans lines (index + 1) := rfl

/-- The attributes of the frame of a notice. -/
def frameAttributes (height : Nat) : List Attribute := [
  attr "x" ['0'], attr "y" ['0'], attr "rx" "20".toList, attr "ry" "20".toList,
  attr "width" "520".toList, attr "height" (decimal height), attr "fill" "red".toList,
  attr "stroke" "black".toList]

theorem noticeContent_eq (message : List Char) : noticeContent message =
    block "g" [attr "class" Palette.errorClass]
      (leaf "rect" (frameAttributes ((noticeLines message).length * 50)) ++
        line "text" [attr "x" "30".toList, attr "y" "30".toList, attr "font-size" "15".toList,
          attr "fill" "black".toList] (noticeSpans (noticeLines message) 0)) := rfl

theorem fragment_noticeContent (message : List Char) : Fragment [] (noticeContent message) := by
  have hnumber : isSafe (decimal ((noticeLines message).length * 50 : Nat)) = true :=
    isSafe_decimal _
  refine .block rfl (.attr rfl rfl .nil) (Fragment.append (.leaf rfl ?_) (.line rfl ?_ ?_))
  · exact .attr rfl rfl <| .attr rfl rfl <| .attr rfl rfl <| .attr rfl rfl <|
      .attr rfl rfl <| .attr rfl hnumber <| .attr rfl rfl <| .attr rfl rfl .nil
  · exact .attr rfl rfl <| .attr rfl rfl <| .attr rfl rfl <| .attr rfl rfl .nil
  · exact .flatten (List.forall_mem_map.mpr fun (text, i) _ => fragment_noticeLine text i)

/-- A notice can be written if the height of its frame can. -/
theorem notice_eq_ok {message : List Char} {picture : Picture} :
    notice message = .ok picture ↔ (noticeLines message).length * 50 < Numeral.bound ∧
      picture = ⟨document (rootAttributes 520 ((noticeLines message).length * 50 : Nat)) []
        (noticeContent message), none, none⟩ := by
  unfold notice
  rw [bind_eq_ok]
  have hwidth : Int.natAbs 520 < Numeral.bound := by decide +kernel
  constructor
  · rintro ⟨opening, hopening, h⟩
    obtain ⟨⟨-, hheight⟩, rfl⟩ := openDocument_eq_ok.mp hopening
    cases h
    exact ⟨hheight, rfl⟩
  · rintro ⟨hheight, rfl⟩
    exact ⟨_, openDocument_eq_ok.mpr ⟨⟨hwidth, hheight⟩, rfl⟩, rfl⟩

theorem notice_eq_document {message : List Char} {picture : Picture}
    (h : notice message = .ok picture) :
    ∃ height, picture = ⟨document (rootAttributes 520 height) [] (noticeContent message), none,
      none⟩ :=
  ⟨_, (notice_eq_ok.mp h).2⟩

end Drawing

namespace Diagram

open Markup Drawing Shape

/-- The text of every picture, whether of a diagram or of the notice that there is none, is one
`svg` element with whole elements inside and with values and data that hold no markup of their own.
In the picture of a diagram the title and the addresses of the visible anchors can be read again.
-/
theorem picture_wellFormed {diagram : Diagram} {picture : Picture}
    (h : diagram.picture = .ok picture) :
    ∃ document, pieces? picture.xml = some document ∧ IsDocument "svg".toList document ∧
      (document.filter (opens "svg".toList)).length = 1 ∧
      (∀ piece ∈ document, isWritten piece = true) ∧
      ∀ board, diagram.board? = some board →
        (diagram.header.title ≠ [] → (document.filter (opens "title".toList)).length = 1 ∧
          ∃ text, [.start "title".toList [], .data text, .stop "title".toList] <:+: document ∧
            unescape text = diagram.header.title) ∧
        (hrefs document).map unescape =
          board.grid.visible.filterMap fun placed => diagram.links.get? placed.cell.token := by
  unfold Diagram.picture at h
  cases houtcome : diagram.outcome with
  | error cause =>
    rw [houtcome] at h
    obtain ⟨height, rfl⟩ := notice_eq_document h
    have hcontent := fragment_noticeContent failureNotice
    obtain ⟨hread, hwritten⟩ := pieces?_document (quiet_rootAttributes 520 height) [] hcontent
    refine ⟨_, hread, isDocument_settle [] hcontent, ?_, hwritten, fun board hboard => ?_⟩
    · rw [filter_svg_document [] hcontent]
      rfl
    · rw [board?, houtcome] at hboard
      cases hboard
  | ok found =>
    rw [houtcome] at h
    obtain ⟨content, hcontent, rfl⟩ := picture_eq_document h
    have hquiet := quiet_rootAttributes found.layout.width found.layout.height
    obtain ⟨hread, hwritten⟩ := pieces?_document hquiet diagram.header.title hcontent
    refine ⟨_, hread, isDocument_settle _ hcontent, ?_, hwritten, fun board hboard => ⟨?_, ?_⟩⟩
    · rw [filter_svg_document _ hcontent]
      rfl
    · intro htitle
      refine ⟨?_, escape diagram.header.title, infix_title_document htitle content,
        unescape_escape _⟩
      rw [filter_title_document htitle hcontent]
      rfl
    · rw [board?, houtcome] at hboard
      cases hboard
      have hround : unescape ∘ escape = id := funext unescape_escape
      rw [hrefs_document hquiet _ hcontent, List.map_map, hround, List.map_id]
      rfl

/-- A diagram with a title and a link that both hold characters of markup. -/
def signpost : List Char :=
  "$$ Here & <there>\n$$ . a\n$$ [a|x?y&z]".toList

theorem picture_wellFormed_signpost :
    ∃ diagram picture document, Diagram.ofText signpost .default = .ok diagram ∧
      diagram.picture = .ok picture ∧ pieces? picture.xml = some document ∧
      IsDocument "svg".toList document ∧ (∀ piece ∈ document, isWritten piece = true) ∧
      (∃ text, [.start "title".toList [], .data text, .stop "title".toList] <:+: document ∧
        unescape text = "Here & <there>".toList) ∧
      (hrefs document).map unescape = ["x?y&z".toList] := by
  have hdrawn : (Diagram.ofText signpost .default).toOption.any (fun diagram =>
      diagram.picture.toOption.isSome && diagram.header.title = "Here & <there>".toList &&
        diagram.board?.any fun board => (board.grid.visible.filterMap fun placed =>
          diagram.links.get? placed.cell.token) = ["x?y&z".toList]) = true := by
    decide +kernel
  simp only [Option.any_eq_true, Bool.and_eq_true, Option.isSome_iff_exists, decide_eq_true_eq,
    toOption_eq_some] at hdrawn
  obtain ⟨diagram, hdiagram, ⟨⟨picture, hpicture⟩, htitle⟩, board, hboard, haddresses⟩ := hdrawn
  obtain ⟨document, hread, hdocument, -, hwritten, hfound⟩ := picture_wellFormed hpicture
  obtain ⟨htitled, hlinked⟩ := hfound board hboard
  obtain ⟨-, hsection⟩ := htitled (by rw [htitle]; decide)
  rw [htitle] at hsection
  rw [haddresses] at hlinked
  exact ⟨diagram, picture, document, hdiagram, hpicture, hread, hdocument, hwritten, hsection,
    hlinked⟩

end Diagram

end BoardDiagram
