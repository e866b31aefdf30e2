import BoardDiagram.Drawing.Picture
import BoardDiagram.Proofs.Markup.Shapes
import BoardDiagram.Proofs.Numerals

/-! The parts of a picture as markup.  Cells, coordinates and the background are put together from
shapes without links, in the colors of the palette, with numbers, letters and the names of columns
as labels; the overlay of links has an address for each visible cell that shows an anchor. -/

namespace BoardDiagram

/-- The colors of the palette and its classes, but for those of links and notices. -/
def Palette.texts : List (List Char) := [
  black, white, red, board, link, boardClass, markClass, coordinateClass, stoneClass .black,
  stoneClass .white]

theorem Palette.stone_mem_texts (color : Color) : stone color ∈ texts := by
  cases color <;> decide

theorem Palette.stoneClass_mem_texts (color : Color) : stoneClass color ∈ texts := by
  cases color <;> decide

namespace Drawing

open Markup Shape

/-! ### Markup from shapes -/

/-- Markup that is put together from shapes other than links, with labels of some texts. -/
inductive Drawn (isText : List Char → Prop) : Markup → Prop where
  | nil : Drawn isText []
  | append {a b : Markup} (ha : Drawn isText a) (hb : Drawn isText b) : Drawn isText (a ++ b)
  | rect (x y width height : Binary64) {fill className : List Char}
      (hfill : fill ∈ Palette.texts) (hclass : className ∈ Palette.texts) :
      Drawn isText (rect x y width height fill (some className))
  | stone (x y radius : Binary64) {ring fill : List Char} {className : Option (List Char)}
      (hring : ring ∈ Palette.texts) (hfill : fill ∈ Palette.texts)
      (hclass : ∀ name ∈ className, name ∈ Palette.texts) :
      Drawn isText (stone x y radius ring fill className)
  | mark (x y radius : Binary64) {color : List Char} (hcolor : color ∈ Palette.texts) (m : Mark) :
      Drawn isText (mark x y radius color m)
  | intersection (x y radius : Binary64) {color : List Char} (hcolor : color ∈ Palette.texts)
      (closed : Sides) : Drawn isText (intersection x y radius color closed)
  | label (x y : Binary64) {text color className : List Char} (size : Binary64)
      (htext : isText text) (hcolor : color ∈ Palette.texts) (hclass : className ∈ Palette.texts) :
      Drawn isText (label x y text color className size)

namespace Drawn

variable {isText : List Char → Prop}

theorem flatten {parts : List Markup} (h : ∀ part ∈ parts, Drawn isText part) :
    Drawn isText parts.flatten := by
  induction parts with
  | nil => exact .nil
  | cons part parts ih =>
    obtain ⟨hpart, hparts⟩ := List.forall_mem_cons.mp h
    exact .append hpart (ih hparts)

/-- Shapes other than links may stand anywhere inside a document, whatever their labels are. -/
theorem fragment {markup : Markup} (h : Drawn isText markup) : Fragment [] markup := by
  have hsafe : ∀ text ∈ Palette.texts, isSafe text = true := by decide
  induction h with
  | nil => exact .nil
  | append _ _ iha ihb => exact iha.append ihb
  | rect x y width height hfill hclass =>
    refine fragment_rect x y width height (hsafe _ hfill) fun text htext => ?_
    cases htext
    exact hsafe _ hclass
  | stone x y radius hring hfill hclass =>
    exact fragment_stone x y radius (hsafe _ hring) (hsafe _ hfill) fun text htext =>
      hsafe text (hclass text htext)
  | mark x y radius hcolor m => exact fragment_mark x y radius (hsafe _ hcolor) m
  | intersection x y radius hcolor closed =>
    exact fragment_intersection x y radius (hsafe _ hcolor) closed
  | label x y size _ hcolor hclass =>
    exact fragment_label x y _ size (hsafe _ hcolor) (hsafe _ hclass)

end Drawn

/-! ### Cells -/

namespace Scene

variable {scene : Scene} {x y : Binary64} {markup : Markup} {isText : List Char → Prop}

/-- A number or letter in the middle of a cell is one label. -/
theorem exists_label_of_centered {text color : List Char}
    (h : scene.centered text color x y = .ok markup) :
    ∃ left top size, markup = label left top text color Palette.markClass size := by
  obtain ⟨size, -, h⟩ := bind_eq_ok.mp h
  dsimp only at h
  split at h
  all_goals
    obtain ⟨left, -, h⟩ := bind_eq_ok.mp h
    obtain ⟨half, -, h⟩ := bind_eq_ok.mp h
    obtain ⟨size, -, h⟩ := bind_eq_ok.mp h
    cases h
    exact ⟨_, _, _, rfl⟩

theorem drawn_centered {text color : List Char} (htext : isText text)
    (hcolor : color ∈ Palette.texts) (h : scene.centered text color x y = .ok markup) :
    Drawn isText markup := by
  obtain ⟨left, top, size, rfl⟩ := exists_label_of_centered h
  exact .label left top size htext hcolor (by decide)

theorem drawn_plainStone (scene : Scene) (color : Color) (x y : Binary64) :
    Drawn isText (scene.plainStone color x y) := by
  refine .stone x y _ (by decide) (Palette.stone_mem_texts color) fun name hname => ?_
  cases hname
  exact Palette.stoneClass_mem_texts color

theorem drawn_point (scene : Scene) (row column : Nat) (x y : Binary64) :
    Drawn isText (scene.point row column x y) :=
  .intersection x y _ (by decide) _

theorem drawn_marked (scene : Scene) (mark : Option Mark) {color : List Char}
    (hcolor : color ∈ Palette.texts) (x y : Binary64) :
    Drawn isText (scene.marked mark color x y) := by
  cases mark with
  | none => exact .nil
  | some m => exact .mark x y _ hcolor m

theorem drawn_letter {token : List Char} (htoken : isText token)
    (h : scene.letter token x y = .ok markup) : Drawn isText markup := by
  obtain ⟨text, htext, h⟩ := bind_eq_ok.mp h
  cases h
  have hfill :
      (if scene.links.contains token then Palette.link else Palette.board) ∈ Palette.texts := by
    split <;> decide
  exact .append (.stone x y _ (by decide) hfill nofun) (drawn_centered htoken (by decide) htext)

section Labels

variable (hnumber : ∀ n : Int, isText (decimal n))
include hnumber

/-- A cell of any kind is drawn in shapes without links. -/
theorem drawn_cell {placed : Placed}
    (hletter : placed.cell.kind = .letter → isText placed.cell.token)
    (h : scene.cell placed x y = .ok markup) : Drawn isText markup := by
  unfold cell at h
  split at h
  case h_1 color mark _ =>
    cases h
    exact .append (drawn_plainStone scene color x y) (drawn_marked scene mark (by decide) x y)
  case h_2 star _ =>
    cases h
    refine .append (drawn_point scene _ _ x y) ?_
    cases star with
    | false => exact .nil
    | true => exact .mark x y scene.layout.radius (by decide) .hoshi
  case h_3 mark _ =>
    cases h
    exact .append (drawn_point scene _ _ x y) (.mark x y _ (by decide) mark)
  case h_4 number _ =>
    obtain ⟨text, htext, h⟩ := bind_eq_ok.mp h
    obtain ⟨label, hlabel, h⟩ := bind_eq_ok.mp h
    cases h
    obtain ⟨-, rfl⟩ := Numeral.write_eq_ok.mp htext
    exact .append (drawn_plainStone scene _ x y)
      (drawn_centered (hnumber _) (Palette.stone_mem_texts _) hlabel)
  case h_5 hkind =>
    obtain ⟨letter, hmarkup, h⟩ := bind_eq_ok.mp h
    cases h
    exact .append (drawn_point scene _ _ x y) (drawn_letter (hletter hkind) hmarkup)
  all_goals
    cases h
    exact .nil

theorem drawn_body (hletter : ∀ placed ∈ scene.grid.visible,
    placed.cell.kind = .letter → isText placed.cell.token) (h : scene.body = .ok markup) :
    Drawn isText markup := by
  obtain ⟨centers, -, h⟩ := bind_eq_ok.mp h
  obtain ⟨pieces, hpieces, h⟩ := bind_eq_ok.mp h
  cases h
  exact .flatten (forall_mem_mapM hpieces fun placed hplaced piece hpiece =>
    drawn_cell hnumber (hletter placed hplaced) hpiece)

end Labels

/-! ### Links -/

/-- The addresses of the visible cells that show an anchor, row by row. -/
def addresses (scene : Scene) : List (List Char) :=
  scene.grid.visible.filterMap fun placed => scene.links.get? placed.cell.token

theorem fragment_linked (scene : Scene) (cell : Cell) (x y : Binary64) :
    Fragment ((scene.links.get? cell.token).map escape).toList (scene.linked cell x y) := by
  unfold linked
  cases scene.links.get? cell.token with
  | none => exact .nil
  | some url => exact fragment_linkArea x y _ url

theorem fragment_overlay (h : scene.overlay = .ok markup) :
    Fragment (scene.addresses.map escape) markup := by
  obtain ⟨centers, -, h⟩ := bind_eq_ok.mp h
  cases h
  rw [addresses, List.map_filterMap]
  exact .flatMap fun placed _ => fragment_linked scene placed.cell _ _

end Scene

/-! ### Coordinates -/

namespace Margin

variable {margin : Margin} {markup : Markup} {isText : List Char → Prop}

theorem drawn_rows (hnumber : ∀ n : Int, isText (decimal n)) (h : margin.rows = .ok markup) :
    Drawn isText markup := by
  obtain ⟨size, -, h⟩ := bind_eq_ok.mp h
  obtain ⟨numbers, -, h⟩ := bind_eq_ok.mp h
  obtain ⟨first, -, h⟩ := bind_eq_ok.mp h
  obtain ⟨pieces, hpieces, h⟩ := bind_eq_ok.mp h
  cases h
  refine .flatten (forall_mem_mapM hpieces fun (number, i) _ piece hpiece => ?_)
  obtain ⟨x, -, hpiece⟩ := bind_eq_ok.mp hpiece
  cases hpiece
  exact .label _ _ _ (hnumber number) (by decide) (by decide)

theorem drawn_columns (hname : ∀ name ∈ columnLabels, isText [name])
    (h : margin.columns = .ok markup) : Drawn isText markup := by
  obtain ⟨size, -, h⟩ := bind_eq_ok.mp h
  obtain ⟨centers, -, h⟩ := bind_eq_ok.mp h
  obtain ⟨half, -, h⟩ := bind_eq_ok.mp h
  obtain ⟨top, -, h⟩ := bind_eq_ok.mp h
  have hnames : ∀ name ∈ margin.columnNames, isText [name] := fun name hmem =>
    hname name (List.mem_of_mem_drop (List.mem_of_mem_take hmem))
  dsimp only at h
  split at h
  all_goals
    obtain ⟨-, -, h⟩ := bind_eq_ok.mp h
    cases h
    refine .flatten (List.forall_mem_map.mpr fun (name, i) hentry => ?_)
    have htext : isText [name] := hnames name (List.fst_mem_of_mem_zipIdx hentry)
    exact .label _ _ _ htext (by decide) (by decide)

end Margin

theorem drawn_coordinates {margin : Margin} {markup : Markup} {isText : List Char → Prop}
    (hnumber : ∀ n : Int, isText (decimal n)) (hname : ∀ name ∈ columnLabels, isText [name])
    (h : coordinates margin = .ok markup) : Drawn isText markup := by
  unfold coordinates at h
  split at h
  · obtain ⟨rows, hrows, h⟩ := bind_eq_ok.mp h
    obtain ⟨columns, hcolumns, h⟩ := bind_eq_ok.mp h
    cases h
    exact .append (Margin.drawn_rows hnumber hrows) (Margin.drawn_columns hname hcolumns)
  · cases h
    exact .nil

theorem drawn_background {layout : Layout} {markup : Markup} {isText : List Char → Prop}
    (h : background layout = .ok markup) : Drawn isText markup := by
  obtain ⟨zero, -, h⟩ := bind_eq_ok.mp h
  obtain ⟨width, -, h⟩ := bind_eq_ok.mp h
  obtain ⟨height, -, h⟩ := bind_eq_ok.mp h
  cases h
  exact .rect _ _ _ _ (by decide) (by decide)

end Drawing

end BoardDiagram
