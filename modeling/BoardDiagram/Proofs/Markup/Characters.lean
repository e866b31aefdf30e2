import BoardDiagram.Proofs.Addresses
import BoardDiagram.Proofs.DirectiveLines
import BoardDiagram.Proofs.HeaderLines
import BoardDiagram.Proofs.Markup.Documents
import BoardDiagram.Proofs.Positions

/-! The characters of a document.  XML leaves out most control characters and two others, and a
document that holds one of them is no XML.  Tags, numbers, labels and the notice are written with
allowed characters only, and escaping neither adds nor removes any other.  So whether a document is
written in allowed characters is decided by its title and the addresses of its links. -/

namespace BoardDiagram

open Text

namespace Markup

/-- A character that XML allows in a document: a tab, a line break of either kind, or one from the
space on, but for surrogates and the last two of the basic plane. -/
def isXmlChar (c : Char) : Bool :=
  let n := c.toNat
  n = 0x9 || n = 0xa || n = 0xd || (0x20 ≤ n && n ≤ 0xd7ff) || (0xe000 ≤ n && n ≤ 0xfffd) ||
    (0x10000 ≤ n && n ≤ 0x10ffff)

/-- A text of characters that XML allows. -/
def IsXml (s : List Char) : Prop :=
  ∀ c ∈ s, isXmlChar c = true

instance (s : List Char) : Decidable (IsXml s) :=
  List.decidableBAll (fun c => isXmlChar c = true) s

theorem IsXml.of_subset {s t : List Char} (h : IsXml t) (hst : ∀ c ∈ s, c ∈ t) : IsXml s :=
  fun c hc => h c (hst c hc)

@[simp] theorem isXml_nil : IsXml [] :=
  fun _ h => absurd h List.not_mem_nil

@[simp] theorem isXml_cons {c : Char} {s : List Char} :
    IsXml (c :: s) ↔ isXmlChar c = true ∧ IsXml s :=
  List.forall_mem_cons

@[simp] theorem isXml_append {a b : List Char} : IsXml (a ++ b) ↔ IsXml a ∧ IsXml b :=
  List.forall_mem_append

@[simp] theorem isXml_flatMap {α : Type} {f : α → List Char} {as : List α} :
    IsXml (as.flatMap f) ↔ ∀ a ∈ as, IsXml (f a) := by
  induction as with
  | nil => simp
  | cons a as ih => rw [List.flatMap_cons, isXml_append, ih, List.forall_mem_cons]

/-! ### Texts and numbers -/

theorem isXmlChar_of_isFigure {c : Char} (h : isFigure c = true) : isXmlChar c = true := by
  have hrange : 0x20 ≤ c.toNat ∧ c.toNat ≤ 0x7f := by
    simp only [isFigure, Bool.or_eq_true, decide_eq_true_eq] at h
    obtain (((hdigit | hlower) | rfl) | rfl) | rfl := h
    · have hbounds : 48 ≤ c.toNat ∧ c.toNat ≤ 57 := by
        simpa [Char.isDigit, UInt32.le_iff_toNat_le] using hdigit
      omega
    · have hbounds : 97 ≤ c.toNat ∧ c.toNat ≤ 122 := by
        have hlower : (decide (c.val ≥ 97) && decide (c.val ≤ 122)) = true := hlower
        simpa [UInt32.le_iff_toNat_le] using hlower
      omega
    all_goals decide
  have hhigh : c.toNat ≤ 0xd7ff := by omega
  simp [isXmlChar, hrange.1, hhigh]

@[simp] theorem isXml_pixels (a : Binary64) : IsXml a.pixels :=
  fun _ h => isXmlChar_of_isFigure (isFigure_pixels h)

@[simp] theorem isXml_decimal (n : Int) : IsXml (decimal n) :=
  fun _ h => isXmlChar_of_isFigure (isFigure_decimal h)

theorem isXml_entity : ∀ entity ∈ entities, IsXml entity.1 ∧ isXmlChar entity.2 = true := by
  decide

theorem isXml_escapeChar (c : Char) : IsXml (escapeChar c) ↔ isXmlChar c = true := by
  obtain ⟨entity, hmem, rfl, hentity⟩ | ⟨hself, -⟩ := escapeChar_cases c
  · obtain ⟨htext, hchar⟩ := isXml_entity entity hmem
    rw [hentity, hchar]
    exact iff_of_true htext rfl
  · rw [hself, isXml_cons]
    simp

/-- A character that is not allowed is not escaped either. -/
@[simp] theorem isXml_escape (s : List Char) : IsXml (escape s) ↔ IsXml s := by
  rw [escape, isXml_flatMap]
  exact forall₂_congr fun c _ => isXml_escapeChar c

/-! ### Markup -/

@[simp] theorem isXml_attr (name : String) (value : List Char) :
    IsXml (attr name value).write ↔ IsXml name.toList ∧ IsXml value := by
  simp +decide [attr, Attribute.write]

@[simp] theorem isXml_pixelAttr (name : String) (value : Binary64) :
    IsXml (Shape.pixelAttr name value).write ↔ IsXml name.toList := by
  simp [Shape.pixelAttr]

@[simp] theorem isXml_write_nil : IsXml (write []) :=
  isXml_nil

@[simp] theorem isXml_write_append (a b : Markup) :
    IsXml (write (a ++ b)) ↔ IsXml a.write ∧ IsXml b.write := by
  rw [write_append, isXml_append]

theorem isXml_write_flatten {parts : List Markup} :
    IsXml (write parts.flatten) ↔ ∀ part ∈ parts, IsXml part.write := by
  induction parts with
  | nil => simp
  | cons part parts ih => rw [List.flatten_cons, isXml_write_append, ih, List.forall_mem_cons]

theorem isXml_write_flatMap {α : Type} {f : α → Markup} {as : List α} :
    IsXml (write (as.flatMap f)) ↔ ∀ a ∈ as, IsXml (f a).write := by
  rw [List.flatMap_def, isXml_write_flatten, List.forall_mem_map]

@[simp] theorem isXml_write_data (text : List Char) (rest : Markup) :
    IsXml (write (.data text :: rest)) ↔ IsXml text ∧ IsXml rest.write := by
  rw [write, List.flatMap_cons, isXml_append]
  rfl

@[simp] theorem isXml_write_newline (rest : Markup) :
    IsXml (write (newline :: rest)) ↔ IsXml rest.write := by
  simp +decide [newline]

@[simp] theorem isXml_leaf (name : String) (attributes : List Attribute) :
    IsXml (leaf name attributes).write ↔
      IsXml name.toList ∧ ∀ a ∈ attributes, IsXml a.write := by
  simp +decide [leaf, write, Piece.write, newline]

@[simp] theorem isXml_inline (name : String) (attributes : List Attribute) (content : Markup) :
    IsXml (inline name attributes content).write ↔
      IsXml name.toList ∧ (∀ a ∈ attributes, IsXml a.write) ∧ IsXml content.write := by
  simp +decide only [inline, write, Piece.write, List.flatMap_cons, List.flatMap_append,
    isXml_append, isXml_cons, isXml_flatMap, List.flatMap_nil]
  tauto

@[simp] theorem isXml_line (name : String) (attributes : List Attribute) (content : Markup) :
    IsXml (line name attributes content).write ↔
      IsXml name.toList ∧ (∀ a ∈ attributes, IsXml a.write) ∧ IsXml content.write := by
  simp [line]

@[simp] theorem isXml_block (name : String) (attributes : List Attribute) (content : Markup) :
    IsXml (block name attributes content).write ↔
      IsXml name.toList ∧ (∀ a ∈ attributes, IsXml a.write) ∧ IsXml content.write := by
  simp [block]

end Markup

/-! ### Shapes -/

namespace Shape

open Markup

theorem isXml_classAttr {name : Option (List Char)} (h : ∀ text ∈ name, IsXml text) :
    ∀ a ∈ classAttr name, IsXml a.write := by
  unfold classAttr
  split
  · rename_i c rest
    simpa +decide using h (c :: rest) rfl
  · exact fun _ ha => absurd ha List.not_mem_nil

theorem isXml_rect (x y width height : Binary64) {fill : List Char} {className : Option (List Char)}
    (hfill : IsXml fill) (hclass : ∀ text ∈ className, IsXml text) :
    IsXml (rect x y width height fill className).write := by
  refine (isXml_leaf _ _).mpr ⟨by decide, List.forall_mem_append.mpr ⟨?_, isXml_classAttr hclass⟩⟩
  simp +decide [hfill]

theorem isXml_stone (x y radius : Binary64) {ring fill : List Char} {className : Option (List Char)}
    (hring : IsXml ring) (hfill : IsXml fill) (hclass : ∀ text ∈ className, IsXml text) :
    IsXml (stone x y radius ring fill className).write := by
  refine (isXml_leaf _ _).mpr ⟨by decide, List.forall_mem_append.mpr ⟨?_, isXml_classAttr hclass⟩⟩
  simp +decide [circle, hring, hfill]

section Marks

variable (x y radius : Binary64) {color : List Char} (hcolor : IsXml color)
include hcolor

theorem isXml_segment (x1 y1 x2 y2 : Binary64) : IsXml (segment x1 y1 x2 y2 color).write := by
  simp +decide [segment, hcolor]

theorem isXml_mark (m : Mark) : IsXml (mark x y radius color m).write := by
  cases m with
  | hoshi => simp +decide [mark, hoshiMark, hcolor]
  | circle => simp +decide [mark, circleMark, circle, hcolor]
  | square => simp +decide [mark, squareMark, hcolor]
  | triangle => simp +decide [mark, triangleMark, corner, hcolor]
  | cross => simp [mark, crossMark, isXml_segment hcolor]

theorem isXml_intersection (closed : Sides) :
    IsXml (intersection x y radius color closed).write := by
  have hside (side : Bool) (x1 y1 x2 y2 : Binary64) :
      IsXml (write (if side then [] else segment x1 y1 x2 y2 color)) := by
    cases side with
    | false => exact isXml_segment hcolor x1 y1 x2 y2
    | true => exact isXml_write_nil
  simp [intersection, hside]

end Marks

theorem isXml_label (x y : Binary64) (text : List Char) {color className : List Char}
    (size : Binary64) (hcolor : IsXml color) (hclass : IsXml className) :
    IsXml (label x y text color className size).write ↔ IsXml text := by
  simp +decide [label, hcolor, hclass]

theorem isXml_linkArea (x y radius : Binary64) (url : List Char) :
    IsXml (linkArea x y radius url).write ↔ IsXml url := by
  simp +decide [linkArea]

end Shape

/-! ### The parts of a picture -/

theorem Kind.exists_isLower_of_ofToken {token : List Char} (h : ofToken token = .ok .letter) :
    ∃ c, token = [c] ∧ c.isLower = true := by
  unfold ofToken at h
  split at h
  · rename_i c
    split at h
    · rename_i kind hkind
      cases h
      unfold ofSymbol? at hkind
      split at hkind <;> cases hkind
    · split at h
      · obtain ⟨number, -, h⟩ := map_eq_ok.mp h
        cases h
      · split at h
        · rename_i hlower
          exact ⟨c, rfl, hlower⟩
        · cases h
  · split at h
    · obtain ⟨number, -, h⟩ := map_eq_ok.mp h
      cases h
    · cases h

namespace Drawing

open Markup Shape

/-- The token of a letter is a small letter. -/
theorem isXml_of_letter {cell : Cell} (hcell : Cell.ofToken cell.token = .ok cell)
    (hletter : cell.kind = .letter) : IsXml cell.token := by
  obtain ⟨kind, hkind, hcell⟩ := map_eq_ok.mp hcell
  obtain rfl : kind = .letter := by rw [← hletter, ← hcell]
  obtain ⟨c, hc, hlower⟩ := Kind.exists_isLower_of_ofToken hkind
  rw [hc]
  exact isXml_cons.mpr ⟨isXmlChar_of_isFigure (by simp [isFigure, hlower]), isXml_nil⟩

theorem Drawn.isXml {markup : Markup} (h : Drawn IsXml markup) : IsXml markup.write := by
  have hpalette : ∀ text ∈ Palette.texts, IsXml text := by decide
  induction h with
  | nil => exact isXml_write_nil
  | append _ _ iha ihb => exact (isXml_write_append _ _).mpr ⟨iha, ihb⟩
  | rect x y width height hfill hclass =>
    refine isXml_rect x y width height (hpalette _ hfill) fun text htext => ?_
    cases htext
    exact hpalette _ hclass
  | stone x y radius hring hfill hclass =>
    exact isXml_stone x y radius (hpalette _ hring) (hpalette _ hfill) fun text htext =>
      hpalette text (hclass text htext)
  | mark x y radius hcolor m => exact isXml_mark x y radius (hpalette _ hcolor) m
  | intersection x y radius hcolor closed =>
    exact isXml_intersection x y radius (hpalette _ hcolor) closed
  | label x y size htext hcolor hclass =>
    exact (isXml_label x y _ size (hpalette _ hcolor) (hpalette _ hclass)).mpr htext

namespace Scene

variable {scene : Scene} {markup : Markup}

theorem isXml_linked (scene : Scene) (cell : Cell) (x y : Binary64) :
    IsXml (scene.linked cell x y).write ↔
      ∀ url, scene.links.get? cell.token = some url → IsXml url := by
  unfold linked
  cases scene.links.get? cell.token with
  | none => exact iff_of_true isXml_write_nil nofun
  | some url => simp [isXml_linkArea]

theorem isXml_overlay (h : scene.overlay = .ok markup) : IsXml markup.write ↔
    ∀ placed ∈ scene.grid.visible, ∀ url,
      scene.links.get? placed.cell.token = some url → IsXml url := by
  obtain ⟨centers, -, h⟩ := bind_eq_ok.mp h
  cases h
  simp only [isXml_write_flatMap, isXml_linked]

end Scene

/-! ### Documents -/

theorem isXml_document (width height : Int) (title : List Char) (content : Markup) :
    IsXml (document (rootAttributes width height) title content).write ↔
      IsXml title ∧ IsXml content.write := by
  have hroot : ∀ a ∈ rootAttributes width height, IsXml a.write := by
    simp +decide [rootAttributes]
  have hheading : IsXml (heading title).write ↔ IsXml title := by
    unfold heading
    split
    · rename_i hempty
      simp [List.isEmpty_iff.mp hempty]
    · simp +decide
  have hblock : document (rootAttributes width height) title content =
      block "svg" (rootAttributes width height) (heading title ++ content) := by
    simp [document, block, line, Markup.inline, closeDocument]
  have hname : IsXml "svg".toList := by decide
  rw [hblock, isXml_block, isXml_write_append, hheading]
  exact ⟨fun h => h.2.2, fun h => ⟨hname, hroot, h⟩⟩

theorem isXml_noticeLine (text : List Char) (index : Nat) :
    IsXml (noticeLine text index).write ↔ IsXml text := by
  have hshift : IsXml (attr "dy" (if index = 0 then ['0'] else "1.2em".toList)).write := by
    split <;> decide
  have hattributes : ∀ a ∈ [attr "x" "30".toList,
      attr "dy" (if index = 0 then ['0'] else "1.2em".toList)], IsXml a.write :=
    List.forall_mem_cons.mpr ⟨by decide, List.forall_mem_singleton.mpr hshift⟩
  have hname : IsXml "tspan".toList := by decide
  rw [noticeLine, isXml_inline, isXml_write_data, isXml_escape]
  exact ⟨fun h => h.2.2.1, fun h => ⟨hname, hattributes, h, isXml_write_nil⟩⟩

theorem isXml_noticeSpans (lines : List (List Char)) (index : Nat) :
    IsXml (noticeSpans lines index).write ↔ ∀ line ∈ lines, IsXml line := by
  induction lines generalizing index with
  | nil => exact iff_of_true isXml_write_nil (fun _ h => absurd h List.not_mem_nil)
  | cons line lines ih =>
    rw [noticeSpans_cons, isXml_write_append, isXml_noticeLine, ih, List.forall_mem_cons]

theorem isXml_noticeContent (message : List Char) :
    IsXml (noticeContent message).write ↔ ∀ line ∈ noticeLines message, IsXml line := by
  simp +decide [noticeContent_eq, frameAttributes, isXml_noticeSpans]

/-- Whether the picture of a scene is written in allowed characters is decided by its title and the
addresses of the visible cells. -/
theorem isXml_picture {scene : Scene} {boardSize : Int} {title : List Char} {picture : Picture}
    (hcells : ∀ placed ∈ scene.grid.visible, Cell.ofToken placed.cell.token = .ok placed.cell)
    (h : Drawing.picture scene boardSize title = .ok picture) :
    IsXml picture.xml ↔ IsXml title ∧ ∀ placed ∈ scene.grid.visible, ∀ url,
      scene.links.get? placed.cell.token = some url → IsXml url := by
  obtain ⟨sections, hbackground, hlinks, hbody, hcoordinates, rfl⟩ := exists_sections_of_picture h
  rw [Picture.xml, isXml_document, Sections.assemble, isXml_write_append, isXml_write_append,
    isXml_write_append, Scene.isXml_overlay hlinks]
  have hbackground : IsXml sections.background.write := (drawn_background hbackground).isXml
  have hbody : IsXml sections.body.write := by
    refine (Scene.drawn_body isXml_decimal (fun placed hplaced hkind => ?_) hbody).isXml
    exact isXml_of_letter (hcells placed hplaced) hkind
  have hlabels : IsXml columnLabels := by decide
  have hnames : ∀ name ∈ columnLabels, IsXml [name] := fun name hname =>
    isXml_cons.mpr ⟨hlabels name hname, isXml_nil⟩
  have hcoordinates : IsXml sections.coordinates.write :=
    (drawn_coordinates isXml_decimal hnames hcoordinates).isXml
  constructor
  · rintro ⟨htitle, ⟨⟨-, hlinks⟩, -⟩, -⟩
    exact ⟨htitle, hlinks⟩
  · rintro ⟨htitle, hlinks⟩
    exact ⟨htitle, ⟨⟨hbackground, hlinks⟩, hbody⟩, hcoordinates⟩

end Drawing

/-! ### Where the title and the addresses come from -/

theorem Header.mem_of_mem_title {line : List Char} {header : Header} {c : Char}
    (h : ofLine line = .ok header) (hc : c ∈ header.title) : c ∈ line := by
  obtain ⟨s, -, htext, houtcome⟩ := exists_longest_of_ok h
  obtain ⟨-, rfl⟩ := Spelling.outcome_eq_ok.mp houtcome
  have hrest : c ∈ strip line := by
    rw [htext, Spelling.text_eq]
    exact List.mem_append_right _ (mem_of_mem_strip hc)
  exact mem_of_mem_strip hrest

theorem Directive.mem_of_mem_link? {line anchor url : List Char} {c : Char} (hline : '\n' ∉ line)
    (h : link? line = some (anchor, url)) (hc : c ∈ url) : c ∈ line := by
  obtain ⟨parts, rfl, -, rfl, -⟩ := (link?_eq_some_iff hline).mp h
  have hright := mem_of_mem_strip hc
  simp [LinkParts.line, LinkParts.inside, hright]

namespace Diagram

open Markup Drawing

theorem mem_lines_of_mem_dropBlankLines {text line : List Char}
    (h : line ∈ dropBlankLines (lines text)) : line ∈ lines text := by
  obtain ⟨blanks, first, rest, hlines, hdrop, -⟩ :=
    dropBlankLines_spec (List.splitOn_ne_nil '\n' text)
  rw [lines, hdrop] at h
  rw [lines, hlines]
  exact List.mem_append_right blanks h

/-- The addresses of the links of a text are written in its characters. -/
theorem mem_of_mem_linksOf {text anchor url : List Char} {c : Char}
    (h : (linksOf text).get? anchor = some url) (hc : c ∈ url) : c ∈ text := by
  unfold linksOf at h
  split at h
  · obtain ⟨line, hline, hlink⟩ := List.mem_filterMap.mp (Links.mem_of_get?_ofList h)
    have hdropped := mem_lines_of_mem_dropBlankLines (List.mem_of_mem_tail hline)
    have hbreak : '\n' ∉ line := fun hmem => (mem_of_mem_lines hdropped hmem).2 rfl
    exact (mem_of_mem_lines hdropped (Directive.mem_of_mem_link? hbreak hlink hc)).1
  · cases h

theorem mem_of_mem_firstLine {text : List Char} {c : Char} (hc : c ∈ firstLine text) :
    c ∈ text := by
  have hfirst : firstLine text ∈ dropBlankLines (lines text) := by
    rw [dropBlankLines_lines]
    exact List.mem_cons_self
  exact (mem_of_mem_lines (mem_lines_of_mem_dropBlankLines hfirst) hc).1

theorem ofToken_of_mem_visible {text : List Char} {font : Font} {diagram : Diagram} {board : Board}
    (h : ofText text font = .ok diagram) (hboard : diagram.board? = some board) :
    ∀ placed ∈ board.grid.visible, Cell.ofToken placed.cell.token = .ok placed.cell := by
  obtain ⟨-, -, hbody⟩ := ofBody_of_ofText h hboard
  obtain ⟨hgrid, -⟩ := Board.ofBody_eq_ok.mp hbody
  intro placed hplaced
  exact Grid.ofToken_of_cellAt hgrid (Grid.mem_visible.mp hplaced).2

theorem isXml_failureNotice {picture : Picture} (h : notice failureNotice = .ok picture) :
    IsXml picture.xml := by
  obtain ⟨height, rfl⟩ := notice_eq_document h
  have hlines : noticeLines failureNotice = [failureNotice] := by decide +kernel
  rw [Picture.xml, isXml_document, isXml_noticeContent, hlines, List.forall_mem_singleton]
  exact ⟨isXml_nil, by decide⟩

/-- A document is written in characters that XML allows exactly if its title and the addresses of
its visible anchors are, as they are when the whole text is: numbers, letters and the notice are
always written in them, and escaping leaves the others as they are. -/
theorem isXml_picture_iff {text : List Char} {font : Font} {diagram : Diagram} {picture : Picture}
    (hread : ofText text font = .ok diagram) (hpicture : diagram.picture = .ok picture) :
    (IsXml picture.xml ↔ ∀ board, diagram.board? = some board → IsXml diagram.header.title ∧
      ∀ placed ∈ board.grid.visible, ∀ url,
        diagram.links.get? placed.cell.token = some url → IsXml url) ∧
      (IsXml text → IsXml picture.xml) := by
  have hiff : IsXml picture.xml ↔ ∀ board, diagram.board? = some board →
      IsXml diagram.header.title ∧ ∀ placed ∈ board.grid.visible, ∀ url,
        diagram.links.get? placed.cell.token = some url → IsXml url := by
    unfold Diagram.picture at hpicture
    cases houtcome : diagram.outcome with
    | error cause =>
      rw [houtcome] at hpicture
      refine iff_of_true (isXml_failureNotice hpicture) fun board hboard => ?_
      rw [board?, houtcome] at hboard
      cases hboard
    | ok board =>
      have hboard : diagram.board? = some board := by rw [board?, houtcome]; rfl
      rw [houtcome] at hpicture
      rw [isXml_picture (ofToken_of_mem_visible hread hboard) hpicture, hboard]
      simp only [Option.some.injEq, forall_eq']
      exact Iff.rfl
  refine ⟨hiff, fun htext => hiff.mpr fun board hboard => ⟨?_, fun placed _ url hurl => ?_⟩⟩
  · obtain ⟨-, hheader, -⟩ := ofBody_of_ofText hread hboard
    exact htext.of_subset fun c hc => mem_of_mem_firstLine (Header.mem_of_mem_title hheader hc)
  · rw [links_of_ofText hread] at hurl
    exact htext.of_subset fun c hc => mem_of_mem_linksOf hurl hc

theorem isXml_picture_iff_signpost : ∃ diagram picture,
    ofText signpost .default = .ok diagram ∧ diagram.picture = .ok picture ∧
      IsXml signpost ∧ IsXml picture.xml ∧ IsXml diagram.header.title := by
  have hdrawn : (ofText signpost .default).toOption.any (fun diagram =>
      diagram.picture.toOption.isSome && diagram.board?.isSome) = true := by decide +kernel
  simp only [Option.any_eq_true, Bool.and_eq_true, Option.isSome_iff_exists,
    toOption_eq_some] at hdrawn
  obtain ⟨diagram, hdiagram, ⟨picture, hpicture⟩, board, hboard⟩ := hdrawn
  obtain ⟨hiff, hpreserved⟩ := isXml_picture_iff hdiagram hpicture
  have htext : IsXml signpost := by decide
  have hxml := hpreserved htext
  exact ⟨diagram, picture, hdiagram, hpicture, htext, hxml, (hiff.mp hxml board hboard).1⟩

/-- A diagram with a control character inside its title and another inside an address. -/
def controlled : List Char :=
  "$$ A\x01B\n$$ . a\n$$ [a|x\x02y]".toList

/-- A title and an address take control characters into the document of a diagram. -/
theorem not_isXml_controlled : ∃ diagram picture,
    ofText controlled .default = .ok diagram ∧ diagram.picture = .ok picture ∧
      '\x01' ∈ picture.xml ∧ '\x02' ∈ picture.xml ∧ ¬ IsXml picture.xml := by
  have hdrawn : (ofText controlled .default).toOption.any (fun diagram =>
      diagram.picture.toOption.any fun picture =>
        picture.xml.contains '\x01' && picture.xml.contains '\x02') = true := by
    decide +kernel
  simp only [Option.any_eq_true, Bool.and_eq_true, List.contains_iff_mem,
    toOption_eq_some] at hdrawn
  obtain ⟨diagram, hdiagram, picture, hpicture, htitle, haddress⟩ := hdrawn
  exact ⟨diagram, picture, hdiagram, hpicture, htitle, haddress, fun h =>
    absurd (h _ htitle) (by decide)⟩

end Diagram

end BoardDiagram
