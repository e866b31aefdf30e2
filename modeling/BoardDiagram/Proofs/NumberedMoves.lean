import BoardDiagram.Proofs.Outcomes
import BoardDiagram.Proofs.Positions

/-! Numbered moves.  The number that a move is written with decides its color; the number that it
shows is another one, for zero is shown as ten and the first move need not be shown as one.  As ten
is even like zero, and the start moves all numbers by the same amount, moves alternate by the
numbers that they show, too.  With the other color first, the moves swap their colors with those of
their numbers, and nothing else changes. -/

namespace BoardDiagram

/-! ### Which cells are moves -/

namespace Placed

/-- The number that a token is written for, as one of digits alone. -/
def number (placed : Placed) : ℕ :=
  Nat.ofDigitChars 10 placed.cell.token 0

def isMove (placed : Placed) : Bool :=
  placed.cell.kind.number?.isSome

/-- The cells of moves are those with tokens of digits, of which a move has the number. -/
theorem isMove_iff {placed : Placed} (h : Cell.ofToken placed.cell.token = .ok placed.cell) :
    placed.isMove = true ↔ IsNumeral placed.cell.token := by
  rw [isMove]
  constructor
  · intro hmove
    cases hkind : placed.cell.kind with
    | move number => exact ((Cell.kind_eq_move h number).mp hkind).1
    | _ =>
      rw [hkind] at hmove
      cases hmove
  · intro hnumeral
    rw [(Cell.kind_eq_move h _).mpr ⟨hnumeral, rfl⟩]
    rfl

theorem kind_of_isMove {placed : Placed} (h : Cell.ofToken placed.cell.token = .ok placed.cell)
    (hmove : placed.isMove = true) : placed.cell.kind = .move placed.number :=
  (Cell.kind_eq_move h _).mpr ⟨(isMove_iff h).mp hmove, rfl⟩

end Placed

/-! ### The other color -/

namespace Color

/-- How a color is filled in. -/
def fill : Color → List Char
  | .black => "rgb(0, 0, 0)".toList
  | .white => "rgb(255, 255, 255)".toList

/-- The class of a stone. -/
def className : Color → List Char
  | .black => "blackstone".toList
  | .white => "whitestone".toList

end Color

/-- Black for white and white for black, among fills. -/
def otherFill (fill : List Char) : List Char :=
  if fill = Color.black.fill then Color.white.fill
  else if fill = Color.white.fill then Color.black.fill
  else fill

/-- Black for white and white for black, among classes of stones. -/
def otherClass (name : List Char) : List Char :=
  if name = Color.black.className then Color.white.className
  else if name = Color.white.className then Color.black.className
  else name

def Attribute.recolor (a : Attribute) : Attribute :=
  if a.name = "fill".toList then { a with value := otherFill a.value }
  else if a.name = "class".toList then { a with value := otherClass a.value }
  else a

def Piece.recolor : Piece → Piece
  | .start name attributes => .start name (attributes.map Attribute.recolor)
  | .void name attributes => .void name (attributes.map Attribute.recolor)
  | piece => piece

/-- A stretch of a document with fills and classes of stones in the other color. -/
def Markup.recolor (markup : Markup) : Markup :=
  markup.map Piece.recolor

namespace Drawing.Scene

open Markup

theorem recolor_append (a b : Markup) : recolor (a ++ b) = recolor a ++ recolor b :=
  List.map_append

theorem stone_eq_fill (color : Color) : Palette.stone color = color.fill := by
  cases color <;> rfl

theorem stone_eq_disc (x y radius : Binary64) (color : Color) :
    Shape.stone x y radius Palette.black (Palette.stone color)
        (some (Palette.stoneClass color)) =
      disc x.pixels y.pixels radius.pixels Color.black.fill color.fill color.className := by
  have hclass : Palette.stoneClass color ≠ [] := by cases color <;> decide
  rw [Shape.stone_eq x y radius Palette.black (Palette.stone color) hclass]
  cases color <;> rfl

theorem recolor_stone (x y radius : Binary64) (color : Color) :
    recolor (Shape.stone x y radius Palette.black (Palette.stone color)
        (some (Palette.stoneClass color))) =
      Shape.stone x y radius Palette.black (Palette.stone color.opponent)
        (some (Palette.stoneClass color.opponent)) := by
  cases color <;> rfl

theorem recolor_label (x y : Binary64) (text : List Char) (color : Color) (size : Binary64) :
    recolor (Shape.label x y text (Palette.stone color) Palette.markClass size) =
      Shape.label x y text (Palette.stone color.opponent) Palette.markClass size := by
  cases color <;> rfl

/-- The scene with the other color first. -/
def withOpponentFirst (scene : Scene) : Scene :=
  { scene with firstColor := scene.firstColor.opponent }

theorem moveColor_withOpponentFirst (scene : Scene) (number : ℕ) :
    scene.withOpponentFirst.moveColor number = (scene.moveColor number).opponent := by
  unfold moveColor
  split
  · rfl
  · rfl

/-- What is drawn in the other color is recolored. -/
theorem centered_withOpponentFirst (scene : Scene) (text : List Char) (color : Color)
    (x y : Binary64) :
    scene.withOpponentFirst.centered text (Palette.stone color.opponent) x y =
      recolor <$> scene.centered text (Palette.stone color) x y := by
  simp only [centered, map_bind, apply_ite (recolor <$> ·), map_pure, recolor_label]
  rfl

/-- With the other color first the drawing of a move is recolored, and that of any other cell stays
as it is. -/
theorem cell_withOpponentFirst (scene : Scene) (placed : Placed) (x y : Binary64) :
    scene.withOpponentFirst.cell placed x y =
      (if placed.isMove then recolor else id) <$> scene.cell placed x y := by
  unfold cell Placed.isMove
  cases placed.cell.kind with
  | move number =>
    have hstone : scene.withOpponentFirst.plainStone (scene.moveColor number).opponent x y =
        recolor (scene.plainStone (scene.moveColor number) x y) :=
      (recolor_stone x y scene.layout.radius (scene.moveColor number)).symm
    simp only [moveColor_withOpponentFirst, centered_withOpponentFirst, hstone, map_bind, map_pure,
      bind_map_left]
    rfl
  | _ => exact (id_map _).symm

/-! ### Moves alternate -/

/-- The color of a move. -/
def colorOf (scene : Scene) (placed : Placed) : Color :=
  scene.moveColor placed.number

/-- The number that a move shows: the one it is written with, or ten for zero, counted on from the
start. -/
def shownNumber (scene : Scene) (placed : Placed) : ℤ :=
  (if placed.number = 0 then 10 else placed.number : ℕ) + scene.startMove - 1

/-- A stone of a color about a center, outlined in black, and a number on it in the other color. -/
def DrawsMove (scene : Scene) (color : Color) (number : ℤ) (center : Binary64 × Binary64)
    (fragment : Markup) : Prop :=
  ∃ left top size, fragment =
    disc center.1.pixels center.2.pixels scene.layout.radius.pixels Color.black.fill color.fill
        color.className ++
      caption left top color.opponent.fill "markup".toList size (decimal number)

theorem moveColor_eq_firstColor {scene : Scene} {number : ℕ} :
    scene.moveColor number = scene.firstColor ↔ number % 2 = 1 := by
  have hother : scene.firstColor.opponent ≠ scene.firstColor := by
    cases scene.firstColor <;> decide
  unfold moveColor
  split
  case isTrue hodd => exact iff_of_true rfl hodd
  case isFalse heven => exact iff_of_false hother heven

/-- Of two colors one is the first. -/
theorem moveColor_eq_iff {scene : Scene} {m n : ℕ} :
    scene.moveColor m = scene.moveColor n ↔ (m % 2 = 1 ↔ n % 2 = 1) := by
  rw [← @moveColor_eq_firstColor scene m, ← @moveColor_eq_firstColor scene n]
  cases scene.moveColor m <;> cases scene.moveColor n <;> cases scene.firstColor <;> decide

/-- Zero and ten are both even, and the start moves both numbers alike. -/
theorem colorOf_eq_iff {scene : Scene} {p q : Placed} : scene.colorOf p = scene.colorOf q ↔
    scene.shownNumber p % 2 = scene.shownNumber q % 2 := by
  have hten (n : ℕ) : (if n = 0 then 10 else n) % 2 = n % 2 := by
    split <;> omega
  have hp := hten p.number
  have hq := hten q.number
  rw [colorOf, colorOf, moveColor_eq_iff, shownNumber, shownNumber]
  omega

/-- The drawing of a move is its stone with its number. -/
theorem drawsMove_of_cell {scene : Scene} {placed : Placed} {x y : Binary64} {fragment : Markup}
    (hkind : placed.cell.kind = .move placed.number)
    (h : scene.cell placed x y = .ok fragment) :
    scene.DrawsMove (scene.colorOf placed) (scene.shownNumber placed) (x, y) fragment := by
  unfold cell at h
  rw [hkind] at h
  obtain ⟨text, htext, h⟩ := bind_eq_ok.mp h
  obtain ⟨label, hlabel, h⟩ := bind_eq_ok.mp h
  obtain ⟨-, rfl⟩ := Numeral.write_eq_ok.mp htext
  obtain ⟨left, top, size, rfl⟩ := exists_label_of_centered hlabel
  cases h
  refine ⟨left.pixels, top.pixels, size.pixels, ?_⟩
  rw [plainStone, stone_eq_disc, Shape.label_eq, escape_decimal, stone_eq_fill]
  rfl

theorem DrawsMove.recolor {scene : Scene} {color : Color} {number : ℤ}
    {center : Binary64 × Binary64} {fragment : Markup}
    (h : scene.DrawsMove color number center fragment) :
    scene.DrawsMove color.opponent number center (Markup.recolor fragment) := by
  obtain ⟨left, top, size, rfl⟩ := h
  refine ⟨left, top, size, ?_⟩
  rw [recolor_append]
  cases color <;> rfl

/-- The drawing of a cell about its own center. -/
def drawing (scene : Scene) (centers : Centers) (placed : Placed) : Except Fault Markup :=
  scene.cell placed (scene.center centers placed).1 (scene.center centers placed).2

/-- What is drawn for a cell, or nothing if that fails. -/
def fragment (scene : Scene) (centers : Centers) (placed : Placed) : Markup :=
  (scene.drawing centers placed).toOption.getD []

theorem fragment_eq {scene : Scene} {centers : Centers} {placed : Placed} {markup : Markup}
    (h : scene.drawing centers placed = .ok markup) : scene.fragment centers placed = markup := by
  rw [fragment, h]
  rfl

/-- A body is made of what is drawn for the visible cells, and is there if all of that is. -/
theorem body_eq_ok {scene : Scene} {markup : Markup} : scene.body = .ok markup ↔
    ∃ centers, scene.layout.centers = .ok centers ∧
      (∀ placed ∈ scene.grid.visible,
        scene.drawing centers placed = .ok (scene.fragment centers placed)) ∧
      markup = scene.grid.visible.flatMap (scene.fragment centers) := by
  unfold body
  rw [bind_eq_ok]
  refine exists_congr fun centers => and_congr_right fun _ => ?_
  rw [bind_eq_ok]
  constructor
  · rintro ⟨pieces, hpieces, h⟩
    cases h
    have hcells : ∀ placed ∈ scene.grid.visible,
        scene.drawing centers placed = .ok (scene.fragment centers placed) := by
      intro placed hplaced
      obtain ⟨piece, hpiece⟩ := exists_mapM_eq_ok.mp ⟨pieces, hpieces⟩ placed hplaced
      exact hpiece.trans (congrArg Except.ok (fragment_eq hpiece).symm)
    have hsame := hpieces.symm.trans (mapM_eq_ok_map hcells)
    cases hsame
    exact ⟨hcells, List.flatMap_def.symm⟩
  · rintro ⟨hcells, rfl⟩
    exact ⟨_, mapM_eq_ok_map hcells, congrArg Except.ok List.flatMap_def.symm⟩

/-- With the other color first, moves are drawn in the other color, and nothing else changes. -/
theorem body_withOpponentFirst {scene : Scene} {centers : Centers}
    (hcenters : scene.layout.centers = .ok centers)
    (hcells : ∀ placed ∈ scene.grid.visible,
      scene.drawing centers placed = .ok (scene.fragment centers placed)) :
    scene.withOpponentFirst.body = .ok (scene.grid.visible.flatMap fun placed =>
      (if placed.isMove then recolor else id) (scene.fragment centers placed)) := by
  have hswapped : ∀ placed ∈ scene.grid.visible,
      scene.withOpponentFirst.drawing centers placed =
        .ok ((if placed.isMove then recolor else id) (scene.fragment centers placed)) := by
    intro placed hplaced
    have hcell := hcells placed hplaced
    rw [drawing] at hcell
    rw [drawing, cell_withOpponentFirst]
    exact congrArg _ hcell
  have hfragment : ∀ placed ∈ scene.grid.visible,
      scene.withOpponentFirst.fragment centers placed =
        (if placed.isMove then recolor else id) (scene.fragment centers placed) :=
    fun placed hplaced => fragment_eq (hswapped placed hplaced)
  refine body_eq_ok.mpr ⟨centers, hcenters, fun placed hplaced => ?_, ?_⟩
  · rw [hfragment placed hplaced]
    exact hswapped placed hplaced
  · exact (List.flatMap_congr hfragment).symm

/-- The moves of a scene alternate by the numbers that they are written with and by those that they
show, whichever color is first. -/
structure MovesAlternate (scene : Scene) (centers : Centers) (body : Markup) : Prop where
  /-- The body is made of what is drawn for the visible cells, row by row. -/
  drawn : body = scene.grid.visible.flatMap (scene.fragment centers)
  /-- All of that is there, each cell about its own center. -/
  cell : ∀ placed ∈ scene.grid.visible,
    scene.drawing centers placed = .ok (scene.fragment centers placed)
  /-- The moves are the cells whose tokens are made of digits. -/
  isMove : ∀ placed ∈ scene.grid.visible,
    placed.isMove = true ↔ IsNumeral placed.cell.token
  /-- A move has the first color if the number that it is written with is odd. -/
  color : ∀ placed ∈ scene.grid.visible, placed.isMove = true →
    (scene.colorOf placed = scene.firstColor ↔ placed.number % 2 = 1)
  /-- It is drawn as a stone of its color with the number that it shows in the other color. -/
  move : ∀ placed ∈ scene.grid.visible, placed.isMove = true →
    scene.DrawsMove (scene.colorOf placed) (scene.shownNumber placed)
      (scene.center centers placed) (scene.fragment centers placed)
  /-- Two moves have the same color if the numbers that they show are both odd or both even. -/
  alternate : ∀ p ∈ scene.grid.visible, ∀ q ∈ scene.grid.visible,
    p.isMove = true → q.isMove = true →
      (scene.colorOf p = scene.colorOf q ↔
        scene.shownNumber p % 2 = scene.shownNumber q % 2)
  /-- With the other color first, the stones and labels of moves swap their colors, and the cells
  that are no moves stay as they are. -/
  opponent : scene.withOpponentFirst.body = .ok (scene.grid.visible.flatMap fun placed =>
    (if placed.isMove then recolor else id) (scene.fragment centers placed))
  /-- So a move in the other color is the same stone with the same number otherwise. -/
  recolor : ∀ placed ∈ scene.grid.visible, placed.isMove = true →
    scene.DrawsMove (scene.colorOf placed).opponent (scene.shownNumber placed)
      (scene.center centers placed) (recolor (scene.fragment centers placed))
  /-- The areas of links stay as they are, too. -/
  overlay : scene.withOpponentFirst.overlay = scene.overlay

/-- Numbered moves alternate in every body that is drawn. -/
theorem moves_alternate {text : List Char} {scene : Scene} {body : Markup}
    (hgrid : Grid.ofBody text = .ok scene.grid) (hbody : scene.body = .ok body) :
    ∃ centers, scene.layout.centers = .ok centers ∧ scene.MovesAlternate centers body := by
  obtain ⟨centers, hcenters, hcells, hdrawn⟩ := body_eq_ok.mp hbody
  have htoken : ∀ placed ∈ scene.grid.visible,
      Cell.ofToken placed.cell.token = .ok placed.cell :=
    fun placed hplaced => Grid.ofToken_of_cellAt hgrid (Grid.mem_visible.mp hplaced).2
  have hmoves : ∀ placed ∈ scene.grid.visible, placed.isMove = true →
      scene.DrawsMove (scene.colorOf placed) (scene.shownNumber placed)
        (scene.center centers placed) (scene.fragment centers placed) := by
    intro placed hplaced hmove
    have hkind := Placed.kind_of_isMove (htoken placed hplaced) hmove
    exact drawsMove_of_cell hkind (hcells placed hplaced)
  refine ⟨centers, hcenters, ?_⟩
  constructor
  case drawn => exact hdrawn
  case cell => exact hcells
  case isMove => exact fun placed hplaced => Placed.isMove_iff (htoken placed hplaced)
  case color => exact fun placed _ _ => moveColor_eq_firstColor
  case move => exact hmoves
  case alternate => exact fun p _ q _ _ _ => colorOf_eq_iff
  case opponent => exact body_withOpponentFirst hcenters hcells
  case recolor => exact fun placed hplaced hmove => (hmoves placed hplaced hmove).recolor
  case overlay => rfl

/-- A white five, a black fourteen, a white eleven and a black stone without a number, side by
side. -/
def fourStones : List Char :=
  "<circle cx=\"10.5\" cy=\"10.5\" r=\"8.5\" stroke=\"rgb(0, 0, 0)\"".toList ++
    " fill=\"rgb(255, 255, 255)\" class=\"whitestone\" />\n".toList ++
    "<text x=\"6.5\" y=\"15\" fill=\"rgb(0, 0, 0)\" class=\"markup\"".toList ++
    " style=\"font-size:14px\">5</text>\n".toList ++
    "<circle cx=\"27.5\" cy=\"10.5\" r=\"8.5\" stroke=\"rgb(0, 0, 0)\"".toList ++
    " fill=\"rgb(0, 0, 0)\" class=\"blackstone\" />\n".toList ++
    "<text x=\"19.5\" y=\"15\" fill=\"rgb(255, 255, 255)\" class=\"markup\"".toList ++
    " style=\"font-size:14px\">14</text>\n".toList ++
    "<circle cx=\"44.5\" cy=\"10.5\" r=\"8.5\" stroke=\"rgb(0, 0, 0)\"".toList ++
    " fill=\"rgb(255, 255, 255)\" class=\"whitestone\" />\n".toList ++
    "<text x=\"36.5\" y=\"15\" fill=\"rgb(0, 0, 0)\" class=\"markup\"".toList ++
    " style=\"font-size:14px\">11</text>\n".toList ++
    "<circle cx=\"61.5\" cy=\"10.5\" r=\"8.5\" stroke=\"rgb(0, 0, 0)\"".toList ++
    " fill=\"rgb(0, 0, 0)\" class=\"blackstone\" />\n".toList

/-- Moves one, zero and seven beside a stone, with white first and five as the number of the
first move: they show 5, 14 and 11, and only zero is black. -/
theorem moves_alternate_zero : ∃ (scene : Scene) (body : Markup) (centers : Centers),
    Grid.ofBody "1 0 07 X".toList = .ok scene.grid ∧ scene.body = .ok body ∧
    scene.startMove = 5 ∧ scene.firstColor = .white ∧
    (scene.grid.visible.filter Placed.isMove).map
        (fun placed => (placed.number, scene.shownNumber placed, scene.colorOf placed)) =
      [(1, 5, .white), (0, 14, .black), (7, 11, .white)] ∧
    body.write = fourStones ∧ scene.MovesAlternate centers body := by
  have hread : (Grid.ofBody "1 0 07 X".toList).toOption.any (fun grid =>
      (Layout.ofGrid grid .default false).toOption.any fun layout =>
        let scene : Scene :=
          { grid, layout, font := .default, firstColor := .white, startMove := 5 }
        scene.body.toOption.any (fun body => body.write = fourStones) &&
        (scene.grid.visible.filter Placed.isMove).map
            (fun placed => (placed.number, scene.shownNumber placed, scene.colorOf placed)) =
          [(1, 5, .white), (0, 14, .black), (7, 11, .white)]) = true := by
    decide +kernel
  simp only [Option.any_eq_true, Bool.and_eq_true, decide_eq_true_eq, toOption_eq_some] at hread
  obtain ⟨grid, hgrid, layout, -, ⟨body, hbody, hwritten⟩, hmoves⟩ := hread
  let scene : Scene :=
    { grid, layout, font := .default, firstColor := .white, startMove := 5 }
  obtain ⟨centers, -, halternate⟩ := @moves_alternate _ scene _ hgrid hbody
  exact ⟨scene, body, centers, hgrid, hbody, rfl, rfl, hmoves, hwritten, halternate⟩

end Drawing.Scene

end BoardDiagram
