import BoardDiagram.Proofs.Number.HalfPixels
import BoardDiagram.Proofs.Positions

/-! The lines of the board join up.  A point that shows its lines has half of one toward each side
on which there is no edge of the board, and no others.  In half pixels all places are whole numbers,
far below the precision of binary64 arithmetic; so the half-lines of neighbours end at the very same
place, and this place is written with the same text. -/

namespace BoardDiagram

/-- A point whose lines are drawn, with nothing on it, a mark or a letter. -/
def Kind.showsLines (kind : Kind) : Bool :=
  kind.isIntersection || kind = .letter

/-- A side of a square. -/
inductive Side where
  | top
  | bottom
  | left
  | right
  deriving DecidableEq

namespace Side

/-- The sides in the order in which lines are drawn toward them. -/
def all : List Side := [.top, .bottom, .left, .right]

theorem mem_all (side : Side) : side ∈ all := by
  cases side <;> decide

def opposite : Side → Side
  | .top => .bottom
  | .bottom => .top
  | .left => .right
  | .right => .left

/-- How many columns further right the square on a side lies. -/
def dx : Side → ℤ
  | .left => -1
  | .right => 1
  | _ => 0

/-- How many rows further down the square on a side lies. -/
def dy : Side → ℤ
  | .top => -1
  | .bottom => 1
  | _ => 0

theorem dx_opposite (side : Side) : side.opposite.dx = -side.dx := by
  cases side <;> rfl

theorem dy_opposite (side : Side) : side.opposite.dy = -side.dy := by
  cases side <;> rfl

theorem eq_of_dx_of_dy {a b : Side} (hx : a.dx = b.dx) (hy : a.dy = b.dy) : a = b := by
  cases a <;> cases b <;> first | rfl | contradiction

/-- The place next to a place on a side. -/
def beside (side : Side) (place : ℕ × ℕ) : ℤ × ℤ :=
  (place.1 + side.dy, place.2 + side.dx)

theorem beside_opposite {side : Side} {a b : ℕ × ℕ} (h : side.beside a = (↑b.1, ↑b.2)) :
    side.opposite.beside b = (↑a.1, ↑a.2) := by
  obtain ⟨hrow, hcolumn⟩ := Prod.mk.inj h
  rw [beside, dx_opposite, dy_opposite, ← hrow, ← hcolumn, add_neg_cancel_right,
    add_neg_cancel_right]

end Side

/-- The row and column of a cell. -/
def Placed.place (placed : Placed) : ℕ × ℕ :=
  (placed.row, placed.column)

/-- There is an edge of the board next to a place on a side. -/
def Grid.endsAt (grid : Grid) (place : ℕ × ℕ) (side : Side) : Bool :=
  grid.isBorderAt (side.beside place).1 (side.beside place).2

/-- A point with lines is no edge for its neighbours. -/
theorem Grid.endsAt_eq_false {grid : Grid} {a b : ℕ × ℕ} {side : Side} {cell : Cell}
    (hcell : grid.cellAt b.1 b.2 = some cell) (hshows : cell.kind.showsLines = true)
    (h : side.beside a = (↑b.1, ↑b.2)) : grid.endsAt a side = false := by
  rw [endsAt, h, isBorderAt, hcell, Option.any_some, Cell.isBorder, decide_eq_false_iff_not]
  intro hborder
  rw [hborder] at hshows
  contradiction

theorem Grid.edgesAt_eq (grid : Grid) (place : ℕ × ℕ) :
    grid.edgesAt place.1 place.2 = {
      top := grid.endsAt place .top
      bottom := grid.endsAt place .bottom
      left := grid.endsAt place .left
      right := grid.endsAt place .right } := by
  simp only [edgesAt, endsAt, Side.beside, Side.dx, Side.dy, add_zero, Int.sub_eq_add_neg]

/-! ### Places in half pixels -/

namespace Binary64

theorem half_sub_half {a b : ℤ} (h : |a - b| ≤ 2 ^ 53) :
    Binary64.finite (a / 2) - .finite (b / 2) = .finite ((a - b : ℤ) / 2) := by
  have hneg : Binary64.finite (a / 2) - .finite (b / 2) =
      .finite (a / 2) + .finite (-(b / 2)) := rfl
  have hsum : (a / 2 + -(b / 2) : ℚ) = (a - b : ℤ) / 2 := by
    push_cast
    ring
  rw [hneg, finite_add_finite, hsum, round_intCast_half h]

theorem half_add_half {a b : ℤ} (h : |a + b| ≤ 2 ^ 53) :
    Binary64.finite (a / 2) + .finite (b / 2) = .finite ((a + b : ℤ) / 2) := by
  have hsum : (a / 2 + b / 2 : ℚ) = (a + b : ℤ) / 2 := by
    push_cast
    ring
  rw [finite_add_finite, hsum, round_intCast_half h]

end Binary64

namespace Layout

/-- The middle of a column in half pixels. -/
def columnHalves (layout : Layout) (column : ℕ) : ℤ :=
  2 * layout.offsetX + layout.diameter +
    2 * (layout.diameter * ((column : ℤ) - layout.window.firstColumn))

/-- The middle of a row in half pixels. -/
def rowHalves (layout : Layout) (row : ℕ) : ℤ :=
  2 * layout.offsetY + layout.diameter +
    2 * (layout.diameter * ((row : ℤ) - layout.window.firstRow))

/-- Where a half-line ends: in the middle of the side of its square. -/
def lineEnd (layout : Layout) (place : ℕ × ℕ) (side : Side) : ℚ × ℚ :=
  (layout.columnCenter place.2 + side.dx * (layout.diameter / 2),
    layout.rowCenter place.1 + side.dy * (layout.diameter / 2))

/-- A point of the image lies on the board: inside the margins, and at the right and at the bottom
two pixels away from the edge of the image. -/
def OnBoard (layout : Layout) (point : ℚ × ℚ) : Prop :=
  layout.offsetX ≤ point.1 ∧ point.1 ≤ layout.width - 2 ∧
    layout.offsetY ≤ point.2 ∧ point.2 ≤ layout.height - 2

variable (layout : Layout)

theorem columnCenter_eq (column : ℕ) :
    layout.columnCenter column = layout.columnHalves column / 2 := by
  rw [columnCenter, columnHalves]
  push_cast
  ring

theorem rowCenter_eq (row : ℕ) : layout.rowCenter row = layout.rowHalves row / 2 := by
  rw [rowCenter, rowHalves]
  push_cast
  ring

/-- Where a half-line ends, in half pixels. -/
def endHalves (place : ℕ × ℕ) (side : Side) : ℤ × ℤ :=
  (layout.columnHalves place.2 + side.dx * layout.diameter,
    layout.rowHalves place.1 + side.dy * layout.diameter)

theorem lineEnd_eq (place : ℕ × ℕ) (side : Side) : layout.lineEnd place side =
    (((layout.endHalves place side).1 : ℚ) / 2, ((layout.endHalves place side).2 : ℚ) / 2) := by
  rw [lineEnd, columnCenter_eq, rowCenter_eq, endHalves]
  push_cast
  ring_nf

/-- Neighbours have the middle of one side in common. -/
theorem endHalves_beside {a b : ℕ × ℕ} {side : Side} (h : side.beside a = (↑b.1, ↑b.2)) :
    layout.endHalves a side = layout.endHalves b side.opposite := by
  obtain ⟨hrow, hcolumn⟩ := Prod.mk.inj h
  rw [endHalves, endHalves, columnHalves, columnHalves, rowHalves, rowHalves, ← hrow, ← hcolumn,
    Side.dx_opposite, Side.dy_opposite]
  ring_nf

theorem onBoard_of_halves {x y : ℤ} (hx : 2 * layout.offsetX ≤ x ∧ x + 4 ≤ 2 * layout.width)
    (hy : 2 * layout.offsetY ≤ y ∧ y + 4 ≤ 2 * layout.height) :
    layout.OnBoard ((x : ℚ) / 2, (y : ℚ) / 2) := by
  obtain ⟨hleft, hright⟩ := hx
  obtain ⟨htop, hbottom⟩ := hy
  have hleft : (2 * layout.offsetX : ℚ) ≤ x := by exact_mod_cast hleft
  have hright : (x + 4 : ℚ) ≤ 2 * layout.width := by exact_mod_cast hright
  have htop : (2 * layout.offsetY : ℚ) ≤ y := by exact_mod_cast htop
  have hbottom : (y + 4 : ℚ) ≤ 2 * layout.height := by exact_mod_cast hbottom
  refine ⟨?_, ?_, ?_, ?_⟩
  all_goals
    dsimp only
    linarith

section OfGrid

variable {grid : Grid} {font : Font} {requested : Bool} {layout : Layout}
  (hlayout : ofGrid grid font requested = .ok layout) {place : ℕ × ℕ}
  (hplace : layout.window.Contains place.1 place.2)
include hlayout hplace

/-- The squares of the window lie on the board. -/
theorem halves_bounds :
    2 * layout.offsetX + layout.diameter ≤ layout.columnHalves place.2 ∧
    layout.columnHalves place.2 + layout.diameter + 4 ≤ 2 * layout.width ∧
    2 * layout.offsetY + layout.diameter ≤ layout.rowHalves place.1 ∧
    layout.rowHalves place.1 + layout.diameter + 4 ≤ 2 * layout.height := by
  obtain ⟨hrow, hcolumn⟩ := hplace.sub_lt
  have hwide := Nat.mul_le_mul_left layout.diameter (Nat.succ_le_of_lt hcolumn)
  have hhigh := Nat.mul_le_mul_left layout.diameter (Nat.succ_le_of_lt hrow)
  have hx : (layout.diameter * ((place.2 : ℤ) - layout.window.firstColumn)) =
      (layout.diameter * (place.2 - layout.window.firstColumn) : ℕ) := by
    rw [Nat.cast_mul, Nat.cast_sub hplace.2.2.1]
  have hy : (layout.diameter * ((place.1 : ℤ) - layout.window.firstRow)) =
      (layout.diameter * (place.1 - layout.window.firstRow) : ℕ) := by
    rw [Nat.cast_mul, Nat.cast_sub hplace.1]
  rw [columnHalves, rowHalves, hx, hy]
  rw [Nat.mul_succ] at hwide hhigh
  obtain ⟨diameter, radius, -, -, rfl⟩ := ofGrid_eq_ok.mp hlayout
  dsimp only at hwide hhigh ⊢
  omega

theorem endHalves_bounds (side : Side) :
    (2 * layout.offsetX ≤ (layout.endHalves place side).1 ∧
      (layout.endHalves place side).1 + 4 ≤ 2 * layout.width) ∧
    2 * layout.offsetY ≤ (layout.endHalves place side).2 ∧
      (layout.endHalves place side).2 + 4 ≤ 2 * layout.height := by
  obtain ⟨hleft, hright, htop, hbottom⟩ := halves_bounds hlayout hplace
  have hdiameter : (0 : ℤ) ≤ layout.diameter := Int.natCast_nonneg _
  cases side with
  | _ =>
    simp only [endHalves, Side.dx, Side.dy]
    omega

theorem onBoard_lineEnd (side : Side) : layout.OnBoard (layout.lineEnd place side) := by
  obtain ⟨hx, hy⟩ := endHalves_bounds hlayout hplace side
  rw [lineEnd_eq]
  exact layout.onBoard_of_halves hx hy

theorem onBoard_center :
    layout.OnBoard (layout.columnCenter place.2, layout.rowCenter place.1) := by
  obtain ⟨hleft, hright, htop, hbottom⟩ := halves_bounds hlayout hplace
  rw [columnCenter_eq, rowCenter_eq]
  exact layout.onBoard_of_halves (by omega) (by omega)

section Sizes

variable (hheight : font.height ≤ 2 ^ 24) (hwidth : font.width ≤ 2 ^ 24)
  (hwide : layout.width < 2 ^ 50) (hhigh : layout.height < 2 ^ 50)
include hwide hhigh

theorem abs_endHalves_lt (side : Side) :
    |(layout.endHalves place side).1| < 2 ^ 53 ∧ |(layout.endHalves place side).2| < 2 ^ 53 := by
  obtain ⟨hx, hy⟩ := endHalves_bounds hlayout hplace side
  rw [abs_of_nonneg (by omega), abs_of_nonneg (by omega)]
  omega

include hheight hwidth

omit hplace hwide hhigh in
theorem diameter_pos : 0 < layout.diameter := by
  obtain ⟨diameter, radius, hdiameter, -, rfl⟩ := ofGrid_eq_ok.mp hlayout
  exact font.height_pos.trans_le (Font.diameter_bounds hheight hwidth hdiameter).1

/-- A radius from the center, half-lines end exactly in the middles of the sides. -/
theorem center_radius :
    .finite (layout.columnCenter place.2) - layout.radius =
      .finite (layout.lineEnd place .left).1 ∧
    .finite (layout.columnCenter place.2) + layout.radius =
      .finite (layout.lineEnd place .right).1 ∧
    .finite (layout.rowCenter place.1) - layout.radius =
      .finite (layout.lineEnd place .top).2 ∧
    .finite (layout.rowCenter place.1) + layout.radius =
      .finite (layout.lineEnd place .bottom).2 := by
  have hradius : layout.radius = .finite ((layout.diameter : ℤ) / 2) :=
    radius_of_ofGrid hheight hwidth hlayout
  have hleft := (abs_endHalves_lt hlayout hplace hwide hhigh .left).1
  have hright := (abs_endHalves_lt hlayout hplace hwide hhigh .right).1
  have htop := (abs_endHalves_lt hlayout hplace hwide hhigh .top).2
  have hbottom := (abs_endHalves_lt hlayout hplace hwide hhigh .bottom).2
  simp only [endHalves, Side.dx, Side.dy, neg_mul, one_mul, ← sub_eq_add_neg]
    at hleft hright htop hbottom
  simp only [hradius, columnCenter_eq, rowCenter_eq, lineEnd_eq, endHalves, Side.dx, Side.dy,
    neg_mul, one_mul, ← sub_eq_add_neg]
  exact ⟨Binary64.half_sub_half hleft.le, Binary64.half_add_half hright.le,
    Binary64.half_sub_half htop.le, Binary64.half_add_half hbottom.le⟩

end Sizes

end OfGrid

end Layout

/-! ### Half-lines -/

namespace Drawing

open Markup Shape

/-- A line in the color of the board's lines. -/
def isBoardLine : Piece → Bool
  | .void name attributes =>
    name = "line".toList && attributes.contains (attr "stroke" Palette.black)
  | _ => false

def boardLines (markup : Markup) : Markup :=
  markup.filter isBoardLine

theorem boardLines_append (a b : Markup) : boardLines (a ++ b) = boardLines a ++ boardLines b :=
  List.filter_append a b

theorem boardLines_leaf {name : String} (h : name.toList ≠ "line".toList)
    (attributes : List Attribute) : boardLines (leaf name attributes) = [] := by
  have hname : decide (name.toList = "line".toList) = false := decide_eq_false h
  simp only [boardLines, leaf, isBoardLine, newline, List.filter_cons, hname, Bool.false_and]
  rfl

theorem boardLines_segment {color : List Char} (h : color ≠ Palette.black)
    (x1 y1 x2 y2 : Binary64) : boardLines (segment x1 y1 x2 y2 color) = [] := by
  have hstroke : ∀ name : String, name.toList ≠ "stroke".toList → ∀ value : List Char,
      attr "stroke" Palette.black ≠ attr name value := by
    intro name hname value heq
    exact hname (congrArg Attribute.name heq).symm
  have hcolor : attr "stroke" Palette.black ≠ attr "stroke" color := by
    intro heq
    exact h (congrArg Attribute.value heq).symm
  simp [boardLines, Shape.segment, leaf, isBoardLine, newline, pixelAttr, hcolor,
    hstroke "x1" (by decide), hstroke "y1" (by decide), hstroke "x2" (by decide),
    hstroke "y2" (by decide)]

/-- Marks are in another color, but for the dot of a star point. -/
theorem boardLines_mark {color : List Char} {mark : Mark} (h : color ≠ Palette.black ∨ mark = .hoshi)
    (x y radius : Binary64) : boardLines (Shape.mark x y radius color mark) = [] := by
  cases mark with
  | hoshi => exact boardLines_leaf (by decide) _
  | circle =>
    rw [Shape.mark, circleMark, boardLines_append, boardLines_leaf (by decide),
      boardLines_leaf (by decide), List.append_nil]
  | square => exact boardLines_leaf (by decide) _
  | triangle => exact boardLines_leaf (by decide) _
  | cross =>
    have hcolor : color ≠ Palette.black := h.resolve_right nofun
    rw [Shape.mark, crossMark, boardLines_append, boardLines_segment hcolor,
      boardLines_segment hcolor, List.append_nil]

namespace Scene

variable {scene : Scene} {x y : Binary64} {markup : Markup}

theorem boardLines_centered {text color : List Char}
    (h : scene.centered text color x y = .ok markup) : boardLines markup = [] := by
  obtain ⟨left, top, size, rfl⟩ := exists_label_of_centered h
  rfl

theorem boardLines_plainStone (scene : Scene) (color : Color) (x y : Binary64) :
    boardLines (scene.plainStone color x y) = [] :=
  boardLines_leaf (by decide) _

theorem boardLines_letter {token : List Char} (h : scene.letter token x y = .ok markup) :
    boardLines markup = [] := by
  obtain ⟨text, htext, h⟩ := bind_eq_ok.mp h
  cases h
  rw [boardLines_append, boardLines_centered htext, stone, boardLines_leaf (by decide),
    List.append_nil]

/-- The lines that the drawing of a cell adds to the board are those of its point. -/
theorem boardLines_cell {placed : Placed} (h : scene.cell placed x y = .ok markup) :
    boardLines markup = if placed.cell.kind.showsLines then
      boardLines (scene.point placed.row placed.column x y) else [] := by
  unfold cell at h
  split at h
  case h_1 color mark hkind =>
    cases h
    rw [hkind, boardLines_append, boardLines_plainStone]
    cases mark with
    | none => rfl
    | some mark => exact boardLines_mark (.inl (by decide)) _ _ _
  case h_2 star hkind =>
    have hshow : (Kind.empty star).showsLines = true := rfl
    cases h
    rw [hkind, boardLines_append, if_pos hshow]
    cases star with
    | false => exact List.append_nil _
    | true =>
      rw [if_pos rfl, boardLines_mark (.inr rfl), List.append_nil]
  case h_3 mark hkind =>
    have hshow : (Kind.markup mark).showsLines = true := rfl
    cases h
    rw [hkind, boardLines_append, if_pos hshow, boardLines_mark (.inl (by decide)),
      List.append_nil]
  case h_4 number hkind =>
    obtain ⟨label, -, h⟩ := bind_eq_ok.mp h
    obtain ⟨text, htext, h⟩ := bind_eq_ok.mp h
    cases h
    rw [hkind, boardLines_append, boardLines_plainStone, boardLines_centered htext]
    rfl
  case h_5 hkind =>
    have hshow : Kind.letter.showsLines = true := rfl
    obtain ⟨letter, hletter, h⟩ := bind_eq_ok.mp h
    cases h
    rw [hkind, boardLines_append, if_pos hshow, boardLines_letter hletter, List.append_nil]
  all_goals
    rename_i hkind
    cases h
    rw [hkind]
    rfl

/-- A place is drawn, whatever a cell that shows lines holds. -/
theorem exists_cell_of_showsLines (scene : Scene) (hheight : scene.font.height ≤ 2 ^ 24)
    (hwidth : scene.font.width ≤ 2 ^ 24) {placed : Placed}
    (h : placed.cell.kind.showsLines = true) (x y : Binary64) :
    ∃ markup, scene.cell placed x y = .ok markup := by
  apply (scene.exists_cell hheight hwidth placed x y).mpr
  intro number hnumber
  rw [hnumber] at h
  contradiction

/-- The texts of the place where a half-line ends. -/
def endTexts (scene : Scene) (place : ℕ × ℕ) (side : Side) : List Char × List Char :=
  ((Binary64.finite (scene.layout.lineEnd place side).1).pixels,
    (Binary64.finite (scene.layout.lineEnd place side).2).pixels)

/-- Half a line, from the middle of a side of a square to its center. -/
def halfLine (scene : Scene) (place : ℕ × ℕ) (side : Side) : Piece :=
  .void "line".toList [
    attr "x1" (scene.endTexts place side).1,
    attr "y1" (scene.endTexts place side).2,
    pixelAttr "x2" (.finite (scene.layout.columnCenter place.2)),
    pixelAttr "y2" (.finite (scene.layout.rowCenter place.1)),
    attr "stroke" Palette.black]

/-- The half-lines of a place: one toward each side without an edge of the board. -/
def linesAt (scene : Scene) (place : ℕ × ℕ) : Markup :=
  (Side.all.filter fun side => !scene.grid.endsAt place side).map (scene.halfLine place)

theorem boardLines_flatMap (scene : Scene) (place : ℕ × ℕ) (sides : List Side) :
    boardLines (sides.flatMap fun side =>
      if scene.grid.endsAt place side then [] else [scene.halfLine place side, newline]) =
        (sides.filter fun side => !scene.grid.endsAt place side).map (scene.halfLine place) := by
  induction sides with
  | nil => rfl
  | cons side sides ih =>
    have hline : boardLines [scene.halfLine place side, newline] =
        [scene.halfLine place side] := by
      simp [boardLines, halfLine, isBoardLine, newline]
    rw [List.flatMap_cons, boardLines_append, ih]
    cases hside : scene.grid.endsAt place side with
    | true => rw [List.filter_cons_of_neg (by simp [hside])]; rfl
    | false =>
      rw [List.filter_cons_of_pos (by simp [hside]), List.map_cons, if_neg Bool.false_ne_true,
        hline, List.singleton_append]

/-- A place of the grid shows the lines of its point. -/
def showsLinesAt (scene : Scene) (place : ℕ × ℕ) : Bool :=
  (scene.grid.cellAt place.1 place.2).any (·.kind.showsLines)

/-- What a place adds to the lines of the board. -/
def linesShown (scene : Scene) (place : ℕ × ℕ) : Markup :=
  if scene.showsLinesAt place then scene.linesAt place else []

theorem mem_linesShown {place : ℕ × ℕ} {piece : Piece} : piece ∈ scene.linesShown place ↔
    scene.showsLinesAt place = true ∧
      ∃ side, scene.grid.endsAt place side = false ∧ scene.halfLine place side = piece := by
  rw [linesShown]
  split
  · rename_i hshows
    simp only [linesAt, List.mem_map, List.mem_filter, Side.mem_all, Bool.not_eq_true', hshows,
      true_and]
  · rename_i hhides
    simp only [List.not_mem_nil, hhides, Bool.false_eq_true, false_and]

section Places

variable {requested : Bool}
  (hlayout : Layout.ofGrid scene.grid scene.font requested = .ok scene.layout)
  (hheight : scene.font.height ≤ 2 ^ 24) (hwidth : scene.font.width ≤ 2 ^ 24)
  (hwide : scene.layout.width < 2 ^ 50) (hhigh : scene.layout.height < 2 ^ 50)
include hlayout hwide hhigh

section Place

variable {place : ℕ × ℕ} (hplace : scene.layout.window.Contains place.1 place.2)
include hplace

/-- Places are written as the numbers of half pixels that they are. -/
theorem endTexts_eq (side : Side) : scene.endTexts place side =
    (Binary64.halfText (scene.layout.endHalves place side).1,
      Binary64.halfText (scene.layout.endHalves place side).2) := by
  obtain ⟨hx, hy⟩ := Layout.abs_endHalves_lt hlayout hplace hwide hhigh side
  rw [endTexts, Layout.lineEnd_eq, Binary64.pixels_half hx, Binary64.pixels_half hy]

theorem pixels_center :
    (Binary64.finite (scene.layout.columnCenter place.2)).pixels =
      Binary64.halfText (scene.layout.columnHalves place.2) ∧
    (Binary64.finite (scene.layout.rowCenter place.1)).pixels =
      Binary64.halfText (scene.layout.rowHalves place.1) := by
  obtain ⟨hleft, hright, htop, hbottom⟩ := Layout.halves_bounds hlayout hplace
  rw [Layout.columnCenter_eq, Layout.rowCenter_eq]
  constructor
  · apply Binary64.pixels_half
    rw [abs_of_nonneg (by omega)]
    omega
  · apply Binary64.pixels_half
    rw [abs_of_nonneg (by omega)]
    omega

include hheight hwidth

/-- A point is drawn as half-lines toward the sides that are open. -/
theorem point_eq : scene.point place.1 place.2 (.finite (scene.layout.columnCenter place.2))
    (.finite (scene.layout.rowCenter place.1)) = Side.all.flatMap fun side =>
      if scene.grid.endsAt place side then [] else [scene.halfLine place side, newline] := by
  obtain ⟨hleft, hright, htop, hbottom⟩ :=
    Layout.center_radius hlayout hplace hheight hwidth hwide hhigh
  have hx : (scene.layout.lineEnd place .top).1 = scene.layout.columnCenter place.2 ∧
      (scene.layout.lineEnd place .bottom).1 = scene.layout.columnCenter place.2 := by
    simp only [Layout.lineEnd, Side.dx, Int.cast_zero, zero_mul, add_zero, and_self]
  have hy : (scene.layout.lineEnd place .left).2 = scene.layout.rowCenter place.1 ∧
      (scene.layout.lineEnd place .right).2 = scene.layout.rowCenter place.1 := by
    simp only [Layout.lineEnd, Side.dy, Int.cast_zero, zero_mul, add_zero, and_self]
  simp only [Side.all, List.flatMap_cons, List.flatMap_nil, List.append_nil, halfLine, endTexts,
    hx, hy, ← hleft, ← hright, ← htop, ← hbottom]
  rw [point, Grid.edgesAt_eq, intersection, List.append_assoc, List.append_assoc]
  rfl

theorem boardLines_pieceAt {fragment : Markup} (h : scene.pieceAt place = .ok fragment) :
    boardLines fragment = scene.linesShown place := by
  rw [pieceAt] at h
  rw [linesShown, showsLinesAt]
  cases hcell : scene.grid.cellAt place.1 place.2 with
  | none =>
    rw [hcell] at h
    cases h
    rfl
  | some cell =>
    rw [hcell, Option.elim_some] at h
    rw [boardLines_cell h, point_eq hlayout hheight hwidth hwide hhigh hplace,
      boardLines_flatMap, Option.any_some]
    rfl

end Place

/-- A half-line tells its place and its side. -/
theorem halfLine_inj (hdiameter : 0 < scene.layout.diameter) {a b : ℕ × ℕ}
    (ha : scene.layout.window.Contains a.1 a.2) (hb : scene.layout.window.Contains b.1 b.2)
    {side side' : Side} (h : scene.halfLine a side = scene.halfLine b side') :
    a = b ∧ side = side' := by
  obtain ⟨hxa, hya⟩ := pixels_center hlayout hwide hhigh ha
  obtain ⟨hxb, hyb⟩ := pixels_center hlayout hwide hhigh hb
  simp only [halfLine, pixelAttr, attr, hxa, hya, hxb, hyb, endTexts_eq hlayout hwide hhigh ha,
    endTexts_eq hlayout hwide hhigh hb, Piece.void.injEq, List.cons.injEq, Attribute.mk.injEq,
    true_and, and_true, Binary64.halfText_injective.eq_iff] at h
  obtain ⟨hendX, hendY, hcolumn, hrow⟩ := h
  have hpos : (0 : ℤ) < scene.layout.diameter := Int.natCast_pos.mpr hdiameter
  rw [Layout.endHalves, Layout.endHalves, hcolumn, add_right_inj] at hendX
  rw [Layout.endHalves, Layout.endHalves, hrow, add_right_inj] at hendY
  refine ⟨Prod.ext ?_ ?_, Side.eq_of_dx_of_dy ?_ ?_⟩
  · rw [Layout.rowHalves, Layout.rowHalves, add_right_inj] at hrow
    have := mul_left_cancel₀ hpos.ne' (mul_left_cancel₀ two_ne_zero hrow)
    omega
  · rw [Layout.columnHalves, Layout.columnHalves, add_right_inj] at hcolumn
    have := mul_left_cancel₀ hpos.ne' (mul_left_cancel₀ two_ne_zero hcolumn)
    omega
  · exact mul_right_cancel₀ hpos.ne' hendX
  · exact mul_right_cancel₀ hpos.ne' hendY

include hheight hwidth

/-- The lines of a board are the half-lines of its places, row by row. -/
theorem boardLines_body {markup : Markup} (h : scene.body = .ok markup) :
    boardLines markup = scene.grid.window.places.flatMap scene.linesShown := by
  rw [body_eq_places hlayout hheight hwidth hwide hhigh] at h
  obtain ⟨pieces, hpieces, rfl⟩ := map_eq_ok.mp h
  rw [boardLines, List.filter_flatten, ← List.flatMap_def]
  apply flatMap_of_mapM hpieces
  intro place hplace fragment hfragment
  rw [Window.mem_places, ← Layout.window_of_ofGrid hlayout] at hplace
  exact boardLines_pieceAt hlayout hheight hwidth hwide hhigh hplace hfragment

/-- In the whole body a half-line is found where it is drawn, and no other is taken for it. -/
theorem halfLine_mem_body {markup : Markup} (h : scene.body = .ok markup) {place : ℕ × ℕ}
    (hplace : scene.layout.window.Contains place.1 place.2) (side : Side) :
    scene.halfLine place side ∈ markup ↔ scene.showsLinesAt place = true ∧
      scene.grid.endsAt place side = false := by
  have hwindow := Layout.window_of_ofGrid hlayout
  have hdiameter := Layout.diameter_pos hlayout hheight hwidth
  have hline : isBoardLine (scene.halfLine place side) = true := by
    simp [halfLine, isBoardLine]
  have hmem : scene.halfLine place side ∈ markup ↔ ∃ other ∈ scene.grid.window.places,
      scene.halfLine place side ∈ scene.linesShown other := by
    rw [← List.mem_flatMap, ← boardLines_body hlayout hheight hwidth hwide hhigh h, boardLines,
      List.mem_filter, hline, eq_self_iff_true, and_true]
  rw [hmem]
  constructor
  · rintro ⟨other, hother, hdrawn⟩
    obtain ⟨hshows, side', hopen, heq⟩ := mem_linesShown.mp hdrawn
    rw [Window.mem_places, ← hwindow] at hother
    obtain ⟨rfl, rfl⟩ := halfLine_inj hlayout hwide hhigh hdiameter hother hplace heq
    exact ⟨hshows, hopen⟩
  · rintro ⟨hshows, hopen⟩
    rw [hwindow] at hplace
    exact ⟨place, Window.mem_places.mpr hplace, mem_linesShown.mpr ⟨hshows, side, hopen, rfl⟩⟩

end Places

/-- The lines of the board join up. -/
structure LinesJoin (scene : Scene) : Prop where
  /-- A point that shows its lines is drawn, with a half-line toward each side on which there is no
  edge of the board, and no other line. -/
  drawn : ∀ placed ∈ scene.grid.visible, placed.cell.kind.showsLines = true →
    ∃ fragment, scene.pieceAt placed.place = .ok fragment ∧
      boardLines fragment = (Side.all.filter fun side => !scene.grid.endsAt placed.place side).map
        (scene.halfLine placed.place)
  /-- So it is in the whole body, which has no lines of the board but these. -/
  body : ∀ markup, scene.body = .ok markup →
    boardLines markup = scene.grid.window.places.flatMap scene.linesShown ∧
    ∀ placed ∈ scene.grid.visible, placed.cell.kind.showsLines = true → ∀ side,
      scene.halfLine placed.place side ∈ markup ↔ scene.grid.endsAt placed.place side = false
  /-- Between two points side by side both half-lines are drawn, and end at the same place, which
  is written with the same text. -/
  joined : ∀ a ∈ scene.grid.visible, ∀ b ∈ scene.grid.visible,
    a.cell.kind.showsLines = true → b.cell.kind.showsLines = true →
    ∀ side : Side, side.beside a.place = (↑b.row, ↑b.column) →
      scene.halfLine a.place side ∈ scene.linesShown a.place ∧
      scene.halfLine b.place side.opposite ∈ scene.linesShown b.place ∧
      scene.layout.lineEnd a.place side = scene.layout.lineEnd b.place side.opposite ∧
      scene.endTexts a.place side = scene.endTexts b.place side.opposite
  /-- Half-lines do not leave the board. -/
  inside : ∀ placed ∈ scene.grid.visible, ∀ side,
    scene.layout.OnBoard
      (scene.layout.columnCenter placed.column, scene.layout.rowCenter placed.row) ∧
    scene.layout.OnBoard (scene.layout.lineEnd placed.place side)

/-- The lines of the board join up in every image of ordinary size, with or without coordinates. -/
theorem lines_join {font : Font} (hheight : font.height ≤ 2 ^ 24) (hwidth : font.width ≤ 2 ^ 24)
    (grid : Grid) (requested : Bool) :
    ∃ layout, Layout.ofGrid grid font requested = .ok layout ∧
      (layout.width < 2 ^ 50 → layout.height < 2 ^ 50 → ∀ scene : Scene, scene.grid = grid →
        scene.font = font → scene.layout = layout → scene.LinesJoin) := by
  obtain ⟨layout, hlayout⟩ := Layout.exists_ofGrid hheight hwidth grid requested
  refine ⟨layout, hlayout, ?_⟩
  rintro hwide hhigh scene rfl rfl rfl
  have hcell : ∀ placed ∈ scene.grid.visible,
      scene.grid.cellAt placed.place.1 placed.place.2 = some placed.cell :=
    fun placed hplaced => (Grid.mem_visible.mp hplaced).2
  have hplace : ∀ placed ∈ scene.grid.visible,
      scene.layout.window.Contains placed.place.1 placed.place.2 := by
    intro placed hplaced
    rw [Layout.window_of_ofGrid hlayout]
    exact (Grid.mem_visible.mp hplaced).1
  have hshown : ∀ placed ∈ scene.grid.visible, placed.cell.kind.showsLines = true →
      scene.showsLinesAt placed.place = true := by
    intro placed hplaced hshows
    rw [showsLinesAt, hcell placed hplaced, Option.any_some, hshows]
  constructor
  case drawn =>
    intro placed hplaced hshows
    obtain ⟨fragment, hfragment⟩ := scene.exists_cell_of_showsLines hheight hwidth hshows
      (.finite (scene.layout.columnCenter placed.column))
      (.finite (scene.layout.rowCenter placed.row))
    have hpiece : scene.pieceAt placed.place = .ok fragment := by
      rw [pieceAt, hcell placed hplaced, Option.elim_some]
      exact hfragment
    refine ⟨fragment, hpiece, ?_⟩
    rw [boardLines_pieceAt hlayout hheight hwidth hwide hhigh (hplace placed hplaced) hpiece,
      linesShown, if_pos (hshown placed hplaced hshows), linesAt]
  case body =>
    intro markup hmarkup
    refine ⟨boardLines_body hlayout hheight hwidth hwide hhigh hmarkup, ?_⟩
    intro placed hplaced hshows side
    rw [halfLine_mem_body hlayout hheight hwidth hwide hhigh hmarkup (hplace placed hplaced) side]
    exact and_iff_right (hshown placed hplaced hshows)
  case joined =>
    intro a ha b hb hshowsA hshowsB side hbeside
    have hback := Side.beside_opposite (b := b.place) hbeside
    have hopenA := Grid.endsAt_eq_false (b := b.place) (hcell b hb) hshowsB hbeside
    have hopenB := Grid.endsAt_eq_false (b := a.place) (hcell a ha) hshowsA hback
    have hend : scene.layout.lineEnd a.place side =
        scene.layout.lineEnd b.place side.opposite := by
      rw [Layout.lineEnd_eq, Layout.lineEnd_eq,
        scene.layout.endHalves_beside (b := b.place) hbeside]
    refine ⟨mem_linesShown.mpr ⟨hshown a ha hshowsA, side, hopenA, rfl⟩,
      mem_linesShown.mpr ⟨hshown b hb hshowsB, side.opposite, hopenB, rfl⟩, hend, ?_⟩
    rw [endTexts, endTexts, hend]
  case inside =>
    intro placed hplaced side
    have hcenter := Layout.onBoard_center hlayout (hplace placed hplaced)
    have hend := Layout.onBoard_lineEnd hlayout (hplace placed hplaced) side
    exact ⟨hcenter, hend⟩

/-- A corner with coordinates: a letter to the right of an empty point, and a stone below that. -/
theorem lines_join_corner : Font.default.height ≤ 2 ^ 24 ∧ Font.default.width ≤ 2 ^ 24 ∧
    ∃ scene : Scene, ∃ markup, Grid.ofBody "+--\n|.a\n|X".toList = .ok scene.grid ∧
      Layout.ofGrid scene.grid .default true = .ok scene.layout ∧ scene.layout.width = 58 ∧
      scene.body = .ok markup ∧
      scene.halfLine (1, 1) .top ∉ markup ∧ scene.halfLine (1, 1) .bottom ∈ markup ∧
      scene.halfLine (1, 1) .left ∉ markup ∧ scene.halfLine (1, 1) .right ∈ markup ∧
      scene.endTexts (1, 1) .right = scene.endTexts (1, 2) .left ∧
      scene.layout.OnBoard (scene.layout.lineEnd (1, 1) .right) := by
  have hheight : Font.default.height ≤ 2 ^ 24 := by decide
  have hwidth : Font.default.width ≤ 2 ^ 24 := by decide
  have hread : (Grid.ofBody "+--\n|.a\n|X".toList).toOption.any (fun grid =>
      (Layout.ofGrid grid .default true).toOption.any fun layout =>
        let scene : Scene := { grid, layout, font := .default }
        layout.width = 58 && layout.height = 56 && scene.body.toOption.isSome &&
        grid.visible = [⟨1, 1, ⟨['.'], .empty false⟩⟩, ⟨1, 2, ⟨['a'], .letter⟩⟩,
          ⟨2, 1, ⟨['X'], .stone .black none⟩⟩] &&
        Side.all.map (grid.endsAt (1, 1)) = [true, false, true, false]) = true := by
    decide +kernel
  simp only [Option.any_eq_true, Bool.and_eq_true, decide_eq_true_eq, toOption_eq_some,
    Option.isSome_iff_exists] at hread
  obtain ⟨grid, hgrid, layout, hlayout,
    ⟨⟨⟨hwide, hhigh⟩, markup, hmarkup⟩, hvisible⟩, hends⟩ := hread
  simp only [Side.all, List.map_cons, List.map_nil, List.cons.injEq, and_true] at hends
  obtain ⟨htop, hbottom, hleft, hright⟩ := hends
  obtain ⟨layout', hlayout', hjoin⟩ := lines_join hheight hwidth grid true
  obtain rfl : layout = layout' := Except.ok.inj (hlayout.symm.trans hlayout')
  let scene : Scene := { grid, layout, font := .default }
  have hjoined : scene.LinesJoin := hjoin (by omega) (by omega) scene rfl rfl rfl
  have hdot : ⟨1, 1, ⟨['.'], .empty false⟩⟩ ∈ scene.grid.visible := by
    rw [show scene.grid.visible = _ from hvisible]
    exact List.mem_cons_self
  have hletter : ⟨1, 2, ⟨['a'], .letter⟩⟩ ∈ scene.grid.visible := by
    rw [show scene.grid.visible = _ from hvisible]
    exact List.mem_cons_of_mem _ List.mem_cons_self
  have hlines := (hjoined.body markup hmarkup).2 _ hdot rfl
  obtain ⟨-, -, -, htexts⟩ := hjoined.joined _ hdot _ hletter rfl rfl .right rfl
  refine ⟨hheight, hwidth, scene, markup, hgrid, hlayout, hwide, hmarkup,
    mt (hlines .top).mp (ne_false_of_eq_true htop), (hlines .bottom).mpr hbottom,
    mt (hlines .left).mp (ne_false_of_eq_true hleft), (hlines .right).mpr hright, htexts,
    (hjoined.inside _ hdot .right).2⟩

end Scene

end Drawing

end BoardDiagram
