import BoardDiagram.Proofs.Coordinates
import Mathlib.Order.SuccPred.IntervalSucc
import Mathlib.Topology.Instances.Real.Lemmas
import Mathlib.Topology.Order.DenselyOrdered

/-! The layout of a diagram as a tiling.  Image size, margins, radius and centers are computed apart
from each other; `ofGrid_tiles` says that they fit: the squares about the centers cover the board
without a gap or an overlap, the board keeps two pixels from the right and lower edge of the image,
and coordinates move it by the same amount by which they make the image larger. -/

namespace BoardDiagram

open Set

/-! ### Intervals side by side -/

/-- Intervals between the members of an ascending sequence leave no gap. -/
theorem biUnion_Icc_succ {f : ℕ → ℝ} (hf : Monotone f) {count : ℕ} (hcount : 0 < count) :
    ⋃ k < count, Icc (f k) (f (k + 1)) = Icc (f 0) (f count) := by
  induction count, hcount using Nat.le_induction with
  | base => simp
  | succ count _ ih =>
    rw [biUnion_lt_succ, ih, Icc_union_Icc_eq_Icc (hf (Nat.zero_le _)) (hf (Nat.le_succ _))]

/-- Lines at equal distances. -/
def gridLine (start side k : ℕ) : ℝ :=
  start + side * k

theorem monotone_gridLine (start side : ℕ) : Monotone (gridLine start side) := by
  intro a b hab
  have hcast : (a : ℝ) ≤ b := Nat.cast_le.mpr hab
  unfold gridLine
  gcongr

theorem Ioo_gridLine_inter (start side : ℕ) {a b : ℕ} (h : a ≠ b) :
    Ioo (gridLine start side a) (gridLine start side (a + 1)) ∩
      Ioo (gridLine start side b) (gridLine start side (b + 1)) = ∅ :=
  ((monotone_gridLine start side).pairwise_disjoint_on_Ioo_succ h).inter_eq

/-! ### Figures in the plane -/

/-- The points of a square about its center. -/
def square (center : ℚ × ℚ) (side : ℚ) : Set (ℝ × ℝ) :=
  Icc (center.1 - side / 2 : ℝ) (center.1 + side / 2) ×ˢ
    Icc (center.2 - side / 2 : ℝ) (center.2 + side / 2)

/-- The points of a disc about its center. -/
def disc (center : ℚ × ℚ) (radius : ℚ) : Set (ℝ × ℝ) :=
  {point | (point.1 - center.1) ^ 2 + (point.2 - center.2) ^ 2 ≤ (radius : ℝ) ^ 2}

theorem disc_subset_square (center : ℚ × ℚ) {side : ℚ} (hside : 0 ≤ side) :
    disc center (side / 2) ⊆ square center side := by
  rintro ⟨x, y⟩ hpoint
  have hradius : (0 : ℝ) ≤ side / 2 := by positivity
  simp only [disc, mem_ofPred_eq, Rat.cast_div, Rat.cast_ofNat] at hpoint
  have hx := abs_le.mp (abs_le_of_sq_le_sq (a := x - center.1) (by nlinarith) hradius)
  have hy := abs_le.mp (abs_le_of_sq_le_sq (a := y - center.2) (by nlinarith) hradius)
  exact ⟨⟨by linarith, by linarith⟩, ⟨by linarith, by linarith⟩⟩

/-- The area of a link as the square that it is drawn as, by its upper left corner and its side. -/
def linkSquare (center : ℚ × ℚ) (side : ℚ) (url : List Char) : Markup :=
  Markup.block "a" [Markup.attr "href" (escape url)] (Markup.leaf "rect" [
    Shape.pixelAttr "x" (.finite (center.1 - side / 2)),
    Shape.pixelAttr "y" (.finite (center.2 - side / 2)),
    Shape.pixelAttr "width" (.finite side), Shape.pixelAttr "height" (.finite side),
    Markup.attr "stroke" Palette.board, Markup.attr "fill" Palette.link,
    Markup.attr "fill-opacity" "0.4".toList, Markup.attr "class" Palette.linkClass])

namespace Layout

/-- The centers of the squares, row by row. -/
def squareCenters (layout : Layout) : List (ℚ × ℚ) :=
  layout.rowMiddles.flatMap fun y => layout.columnMiddles.map fun x => (x, y)

/-- The points of the board: what the margins leave of the image. -/
def boardArea (layout : Layout) : Set (ℝ × ℝ) :=
  Icc (layout.offsetX : ℝ) (layout.width - 2) ×ˢ Icc (layout.offsetY : ℝ) (layout.height - 2)

/-- The points of the image. -/
def imageArea (layout : Layout) : Set (ℝ × ℝ) :=
  Icc (0 : ℝ) layout.width ×ˢ Icc (0 : ℝ) layout.height

theorem boardArea_subset_imageArea (layout : Layout) : layout.boardArea ⊆ layout.imageArea := by
  apply prod_mono
  · exact Icc_subset_Icc (Nat.cast_nonneg _) (by linarith)
  · exact Icc_subset_Icc (Nat.cast_nonneg _) (by linarith)

/-- The squares about the centers tile the board, and what is drawn in them stays inside the
image.  All centers are whole numbers of half pixels. -/
structure IsTiled (layout : Layout) : Prop where
  rows : layout.rowCenters = .ok (layout.rowMiddles.map .finite)
  columns : layout.columnCenters = .ok (layout.columnMiddles.map .finite)
  radius : layout.radius = .finite (layout.diameter / 2)
  halves : ∀ center ∈ layout.squareCenters, ∃ x y : ℤ, center = ((x / 2 : ℚ), (y / 2 : ℚ))
  disjoint : layout.squareCenters.Pairwise fun a b =>
    interior (square a layout.diameter) ∩ interior (square b layout.diameter) = ∅
  covers : ⋃ center ∈ layout.squareCenters, square center layout.diameter = layout.boardArea
  stones : ∀ center ∈ layout.squareCenters, disc center (layout.diameter / 2) ⊆ layout.imageArea
  links : ∀ center ∈ layout.squareCenters, square center layout.diameter ⊆ layout.imageArea ∧
    ∀ url, Shape.linkArea (.finite center.1) (.finite center.2) layout.radius url =
      linkSquare center layout.diameter url

/-! ### Squares at their places -/

theorem squareCenters_eq (layout : Layout) : layout.squareCenters =
    layout.window.places.map fun place =>
      (layout.columnCenter place.2, layout.rowCenter place.1) := by
  rw [squareCenters, rowMiddles, columnMiddles, Window.places, Window.rows, Window.columns,
    List.range'_eq_map_range, List.range'_eq_map_range, List.flatMap_map, List.flatMap_map,
    List.map_flatMap]
  simp only [List.map_map]
  rfl

theorem mem_squareCenters {layout : Layout} {center : ℚ × ℚ} : center ∈ layout.squareCenters ↔
    ∃ row column, layout.window.Contains row column ∧
      center = (layout.columnCenter column, layout.rowCenter row) := by
  rw [squareCenters_eq, List.mem_map]
  constructor
  · rintro ⟨place, hplace, rfl⟩
    exact ⟨place.1, place.2, Window.mem_places.mp hplace, rfl⟩
  · rintro ⟨row, column, hplace, rfl⟩
    exact ⟨(row, column), Window.mem_places.mpr hplace, rfl⟩

section Squares

variable {layout : Layout} {row column : ℕ} (hplace : layout.window.Contains row column)
include hplace

/-- A square lies between two lines next to each other in both directions. -/
theorem square_eq :
    square (layout.columnCenter column, layout.rowCenter row) layout.diameter =
      Icc (gridLine layout.offsetX layout.diameter (column - layout.window.firstColumn))
          (gridLine layout.offsetX layout.diameter (column - layout.window.firstColumn + 1)) ×ˢ
        Icc (gridLine layout.offsetY layout.diameter (row - layout.window.firstRow))
          (gridLine layout.offsetY layout.diameter (row - layout.window.firstRow + 1)) := by
  simp only [square, gridLine, columnCenter, rowCenter, Nat.cast_add, Nat.cast_one,
    Nat.cast_sub hplace.1, Nat.cast_sub hplace.2.2.1]
  push_cast
  congr 2 <;> ring

theorem interior_square_eq :
    interior (square (layout.columnCenter column, layout.rowCenter row) layout.diameter) =
      Ioo (gridLine layout.offsetX layout.diameter (column - layout.window.firstColumn))
          (gridLine layout.offsetX layout.diameter (column - layout.window.firstColumn + 1)) ×ˢ
        Ioo (gridLine layout.offsetY layout.diameter (row - layout.window.firstRow))
          (gridLine layout.offsetY layout.diameter (row - layout.window.firstRow + 1)) := by
  rw [square_eq hplace, interior_prod_eq, interior_Icc, interior_Icc]

theorem interior_square_inter {row' column' : ℕ}
    (hplace' : layout.window.Contains row' column') (hne : row ≠ row' ∨ column ≠ column') :
    interior (square (layout.columnCenter column, layout.rowCenter row) layout.diameter) ∩
      interior (square (layout.columnCenter column', layout.rowCenter row') layout.diameter) =
        ∅ := by
  have hrow := hplace.1
  have hcolumn := hplace.2.2.1
  have hrow' := hplace'.1
  have hcolumn' := hplace'.2.2.1
  rw [interior_square_eq hplace, interior_square_eq hplace', prod_inter_prod, prod_eq_empty_iff]
  rcases hne with hne | hne
  · exact .inr (Ioo_gridLine_inter _ _ (by omega))
  · exact .inl (Ioo_gridLine_inter _ _ (by omega))

end Squares

theorem pairwise_interior_square (layout : Layout) : layout.squareCenters.Pairwise fun a b =>
    interior (square a layout.diameter) ∩ interior (square b layout.diameter) = ∅ := by
  rw [squareCenters_eq, List.pairwise_map]
  refine (Window.pairwise_places layout.window).imp_of_mem fun {a b} ha hb hab => ?_
  refine interior_square_inter (Window.mem_places.mp ha) (Window.mem_places.mp hb) ?_
  rcases hab with hlt | ⟨-, hlt⟩
  · exact .inl hlt.ne
  · exact .inr hlt.ne

section OfGrid

variable {grid : Grid} {font : Font} {requested : Bool} {layout : Layout}
  (hlayout : ofGrid grid font requested = .ok layout)
include hlayout

/-- The image ends two pixels behind the last column and the last row. -/
theorem size_eq : layout.width = layout.offsetX + layout.diameter * layout.window.columnCount + 2 ∧
    layout.height = layout.offsetY + layout.diameter * layout.window.rowCount + 2 := by
  obtain ⟨diameter, radius, -, -, rfl⟩ := ofGrid_eq_ok.mp hlayout
  dsimp only
  omega

theorem biUnion_square (hrows : 0 < layout.window.rowCount)
    (hcolumns : 0 < layout.window.columnCount) :
    ⋃ center ∈ layout.squareCenters, square center layout.diameter = layout.boardArea := by
  have hx := biUnion_Icc_succ (monotone_gridLine layout.offsetX layout.diameter) hcolumns
  have hy := biUnion_Icc_succ (monotone_gridLine layout.offsetY layout.diameter) hrows
  have hboard : layout.boardArea =
      Icc (gridLine layout.offsetX layout.diameter 0)
          (gridLine layout.offsetX layout.diameter layout.window.columnCount) ×ˢ
        Icc (gridLine layout.offsetY layout.diameter 0)
          (gridLine layout.offsetY layout.diameter layout.window.rowCount) := by
    obtain ⟨hwidth, hheight⟩ := size_eq hlayout
    simp only [boardArea, gridLine, hwidth, hheight, Nat.cast_add, Nat.cast_mul, Nat.cast_ofNat,
      Nat.cast_zero, mul_zero, add_zero, add_sub_cancel_right]
  rw [hboard, ← hx, ← hy]
  ext ⟨x, y⟩
  simp only [mem_iUnion, mem_prod, exists_prop]
  constructor
  · rintro ⟨center, hcenter, hpoint⟩
    obtain ⟨row, column, hplace, rfl⟩ := mem_squareCenters.mp hcenter
    rw [square_eq hplace] at hpoint
    obtain ⟨hrow, hcolumn⟩ := hplace.sub_lt
    exact ⟨⟨_, hcolumn, hpoint.1⟩, ⟨_, hrow, hpoint.2⟩⟩
  · rintro ⟨⟨j, hj, hpointX⟩, ⟨i, hi, hpointY⟩⟩
    have hplace := contains_of_lt hi hj
    refine ⟨_, mem_squareCenters.mpr ⟨_, _, hplace, rfl⟩, ?_⟩
    rw [square_eq hplace, Nat.add_sub_cancel_left, Nat.add_sub_cancel_left]
    exact ⟨hpointX, hpointY⟩

end OfGrid

/-- A link is drawn over the whole square of its place. -/
theorem linkArea_eq {grid : Grid} {font : Font} {requested : Bool} {layout : Layout}
    (h : layout.IsOrdinary grid font requested) {row column : ℕ}
    (hplace : layout.window.Contains row column) (url : List Char) :
    Shape.linkArea (.finite (layout.columnCenter column)) (.finite (layout.rowCenter row))
        layout.radius url =
      linkSquare (layout.columnCenter column, layout.rowCenter row) layout.diameter url := by
  obtain ⟨hleft, -, htop, -⟩ :=
    @center_radius _ _ _ _ h.ofGrid (row, column) hplace h.height_le h.width_le h.wide h.high
  obtain ⟨hdiameter, -, -⟩ := offset_bounds h.height_le h.width_le h.ofGrid
  have hside : layout.radius * .finite 2 = .finite layout.diameter := by
    rw [radius_of_ofGrid h.height_le h.width_le h.ofGrid, Binary64.finite_mul_finite,
      div_mul_cancel₀ _ two_ne_zero, Binary64.round_natCast (by omega)]
  have hx : (layout.lineEnd (row, column) .left).1 =
      layout.columnCenter column - layout.diameter / 2 := by
    simp [lineEnd, Side.dx, sub_eq_add_neg]
  have hy : (layout.lineEnd (row, column) .top).2 =
      layout.rowCenter row - layout.diameter / 2 := by
    simp [lineEnd, Side.dy, sub_eq_add_neg]
  dsimp only at hleft htop
  rw [Shape.linkArea, linkSquare, hleft, htop, hside, hx, hy]

theorem isTiled_of_isOrdinary {grid : Grid} {font : Font} {requested : Bool} {layout : Layout}
    (h : layout.IsOrdinary grid font requested) : layout.IsTiled := by
  have hcovers := biUnion_square h.ofGrid h.rowCount_pos h.columnCount_pos
  have hinside : ∀ center ∈ layout.squareCenters,
      square center layout.diameter ⊆ layout.imageArea := by
    intro center hcenter
    refine subset_trans ?_ layout.boardArea_subset_imageArea
    rw [← hcovers]
    exact fun point hpoint => mem_iUnion₂.mpr ⟨center, hcenter, hpoint⟩
  exact {
    rows := h.centers_eq_middles.1
    columns := h.centers_eq_middles.2
    radius := radius_of_ofGrid h.height_le h.width_le h.ofGrid
    halves := fun center hcenter => by
      obtain ⟨row, column, -, rfl⟩ := mem_squareCenters.mp hcenter
      exact ⟨layout.columnHalves column, layout.rowHalves row,
        by rw [layout.columnCenter_eq, layout.rowCenter_eq]⟩
    disjoint := layout.pairwise_interior_square
    covers := hcovers
    stones := fun center hcenter =>
      (disc_subset_square center (Nat.cast_nonneg _)).trans (hinside center hcenter)
    links := fun center hcenter => by
      refine ⟨hinside center hcenter, fun url => ?_⟩
      obtain ⟨row, column, hplace, rfl⟩ := mem_squareCenters.mp hcenter
      exact linkArea_eq h hplace url }

/-! ### Coordinates -/

/-- The layout of a grid without coordinates, and with room for them where they are drawn. -/
theorem ofGrid_eq_with {grid : Grid} {font : Font} {requested : Bool} {plain : Layout}
    (h : ofGrid grid font false = .ok plain) : ofGrid grid font requested = .ok
      (if drawsCoordinates grid requested then { plain with
        width := plain.width + (2 * font.width + 4)
        height := plain.height + (font.height + 2)
        offsetX := plain.offsetX + (2 * font.width + 4)
        offsetY := plain.offsetY + (font.height + 2)
        coordinates := true } else plain) := by
  obtain ⟨diameter, radius, hdiameter, hradius, rfl⟩ := ofGrid_eq_ok.mp h
  refine ofGrid_eq_ok.mpr ⟨diameter, radius, hdiameter, hradius, ?_⟩
  cases hdrawn : drawsCoordinates grid requested with
  | false => rfl
  | true => rfl

theorem drawsCoordinates_iff {grid : Grid} {requested : Bool} :
    drawsCoordinates grid requested = true ↔ requested = true ∧
      (grid.borders.top = true ∨ grid.borders.bottom = true) ∧
      (grid.borders.left = true ∨ grid.borders.right = true) := by
  simp only [drawsCoordinates, Sides.hasHorizontal, Sides.hasVertical, Bool.and_eq_true,
    Bool.or_eq_true, and_assoc]

/-- Every grid has a layout that tiles its board, in a font and an image of ordinary size.
Coordinates are drawn when they are asked for and the grid shows an edge in both directions.  Then
the board is moved by what they take at the left and top, the image is larger by as much, and all
else is as without coordinates. -/
theorem ofGrid_tiles {body : List Char} {grid : Grid} {font : Font}
    (hgrid : Grid.ofBody body = .ok grid) (hheight : font.height ≤ 2 ^ 24)
    (hwidth : font.width ≤ 2 ^ 24) (requested : Bool) :
    ∃ layout plain, ofGrid grid font requested = .ok layout ∧
      ofGrid grid font false = .ok plain ∧ plain.coordinates = false ∧
      (layout.coordinates = true ↔ requested = true ∧
        (grid.borders.top = true ∨ grid.borders.bottom = true) ∧
        (grid.borders.left = true ∨ grid.borders.right = true)) ∧
      (layout.coordinates = true → layout = { plain with
        width := plain.width + (2 * font.width + 4)
        height := plain.height + (font.height + 2)
        offsetX := plain.offsetX + (2 * font.width + 4)
        offsetY := plain.offsetY + (font.height + 2)
        coordinates := true }) ∧
      (layout.coordinates = false → layout = plain) ∧
      (2 ≤ layout.offsetX ∧ 2 ≤ layout.offsetY) ∧
      (layout.width < 2 ^ 50 → layout.height < 2 ^ 50 → layout.IsTiled) := by
  obtain ⟨plain, hplain⟩ := exists_ofGrid hheight hwidth grid false
  obtain ⟨diameter, radius, -, -, hfields⟩ := ofGrid_eq_ok.mp hplain
  have hcoordinates : plain.coordinates = false := congrArg coordinates hfields
  have hoffsets : plain.offsetX = 2 ∧ plain.offsetY = 2 :=
    ⟨congrArg offsetX hfields, congrArg offsetY hfields⟩
  have hframe := Grid.isFrame_of_frame (Grid.ofBody_eq_ok.mp hgrid).1
  have htiled (layout : Layout) (hlayout : ofGrid grid font requested = .ok layout)
      (hwide : layout.width < 2 ^ 50) (hhigh : layout.height < 2 ^ 50) : layout.IsTiled := by
    have hwindow := window_of_ofGrid hlayout
    exact isTiled_of_isOrdinary ⟨hlayout, hheight, hwidth, hwide, hhigh,
      hwindow ▸ hframe.rows_le, hwindow ▸ hframe.columns_le⟩
  have hlayout := @ofGrid_eq_with _ _ requested _ hplain
  simp only [← drawsCoordinates_iff]
  cases hdrawn : drawsCoordinates grid requested with
  | false =>
    rw [hdrawn, if_neg Bool.false_ne_true] at hlayout
    exact ⟨plain, plain, hlayout, hplain, hcoordinates, by rw [hcoordinates],
      fun h => absurd (hcoordinates.symm.trans h) Bool.false_ne_true, fun _ => rfl,
      ⟨by omega, by omega⟩, htiled plain hlayout⟩
  | true =>
    rw [hdrawn, if_pos rfl] at hlayout
    exact ⟨_, plain, hlayout, hplain, hcoordinates, Iff.rfl, fun _ => rfl, nofun,
      ⟨by dsimp only; omega, by dsimp only; omega⟩, htiled _ hlayout⟩

/-- The top left corner of a board with two points in it. -/
theorem ofGrid_tiles_corner :
    Font.default.height ≤ 2 ^ 24 ∧ Font.default.width ≤ 2 ^ 24 ∧
    ∃ grid layout plain, Grid.ofBody "+--\n|.X".toList = .ok grid ∧
      ofGrid grid .default true = .ok layout ∧ ofGrid grid .default false = .ok plain ∧
      layout.coordinates = true ∧ plain.width = 38 ∧ plain.height = 21 ∧
      layout.width = 58 ∧ layout.height = 39 ∧ layout.offsetX = 22 ∧ layout.offsetY = 20 ∧
      layout.IsTiled := by
  have hheight : Font.default.height ≤ 2 ^ 24 := by decide
  have hwidth : Font.default.width ≤ 2 ^ 24 := by decide
  have hread : (Grid.ofBody "+--\n|.X".toList).toOption.any (fun grid =>
      grid.borders.top && grid.borders.left && (ofGrid grid .default false).toOption.any fun plain =>
        plain.width = 38 && plain.height = 21 && plain.offsetX = 2 && plain.offsetY = 2) = true := by
    decide +kernel
  simp only [Option.any_eq_true, Bool.and_eq_true, decide_eq_true_eq, toOption_eq_some] at hread
  obtain ⟨grid, hgrid, ⟨htop, hleft⟩, plain, hplain, ⟨⟨hwide, hhigh⟩, hx⟩, hy⟩ := hread
  obtain ⟨layout, found, hlayout, hfound, -, hdrawn, hwith, -, -, htiled⟩ :=
    ofGrid_tiles hgrid hheight hwidth true
  obtain rfl : found = plain := Except.ok.inj (hfound.symm.trans hplain)
  have hcoordinates := hdrawn.mpr ⟨rfl, .inl htop, .inl hleft⟩
  have hfields := hwith hcoordinates
  have hsize : layout.width = 58 ∧ layout.height = 39 ∧ layout.offsetX = 22 ∧
      layout.offsetY = 20 := by
    rw [hfields]
    simp only [hwide, hhigh, hx, hy]
    decide
  obtain ⟨hwidth', hheight', hx', hy'⟩ := hsize
  exact ⟨hheight, hwidth, grid, layout, found, hgrid, hlayout, hplain, hcoordinates, hwide, hhigh,
    hwidth', hheight', hx', hy', htiled (by omega) (by omega)⟩

end Layout

end BoardDiagram
