import BoardDiagram.Proofs.Markup.Elements
import BoardDiagram.Proofs.Outcomes
import BoardDiagram.Proofs.Tokens
import BoardDiagram.Proofs.Windows

/-! Where the visible cells are drawn.  For a font of ordinary size the centers of rows and columns
are exact: all of them are whole numbers of half pixels, far below the precision of binary64
arithmetic.  So every place of the window is drawn once, row by row, at its own center, and the
areas of links lie at the same centers. -/

namespace BoardDiagram

/-! ### Exact centers -/

namespace Binary64

/-- The center of a square is exact: squares have whole sides. -/
theorem center_eq {offset diameter first index : ℕ} (hoffset : offset ≤ 2 ^ 26)
    (hdiameter : diameter ≤ 2 ^ 25) (hfirst : first ≤ index)
    (hproduct : diameter * (index - first) ≤ 2 ^ 50) :
    Binary64.finite (offset + diameter / 2) + .finite diameter * .finite (index - first : ℕ) =
      .finite (offset + diameter / 2 + diameter * ((index : ℚ) - first)) := by
  have hround :=
    round_half (n := 2 * offset + diameter + 2 * (diameter * (index - first))) (by omega)
  have hsum : ((2 * offset + diameter + 2 * (diameter * (index - first)) : ℕ) : ℚ) / 2 =
      offset + diameter / 2 + (diameter * (index - first) : ℕ) := by
    push_cast
    ring
  rw [hsum] at hround
  rw [finite_mul_finite, ← Nat.cast_mul, round_natCast (by omega), finite_add_finite, hround,
    Nat.cast_mul, Nat.cast_sub hfirst]

end Binary64

/-! ### Places -/

namespace Window

/-- The places of the window, row by row. -/
def places (window : Window) : List (ℕ × ℕ) :=
  window.rows.flatMap fun row => window.columns.map fun column => (row, column)

theorem mem_places {window : Window} {place : ℕ × ℕ} :
    place ∈ window.places ↔ window.Contains place.1 place.2 := by
  rw [places, List.mem_flatMap, Contains]
  constructor
  · rintro ⟨row, hrow, hplace⟩
    obtain ⟨column, hcolumn, rfl⟩ := List.mem_map.mp hplace
    exact ⟨(mem_rows.mp hrow).1, (mem_rows.mp hrow).2, mem_columns.mp hcolumn⟩
  · rintro ⟨hfirst, hlast, hcolumn⟩
    exact ⟨place.1, mem_rows.mpr ⟨hfirst, hlast⟩,
      List.mem_map.mpr ⟨place.2, mem_columns.mpr hcolumn, rfl⟩⟩

/-- One place comes before another when rows are read from the top, each from the left. -/
def Precedes (a b : ℕ × ℕ) : Prop :=
  a.1 < b.1 ∨ a.1 = b.1 ∧ a.2 < b.2

theorem pairwise_places (window : Window) : window.places.Pairwise Precedes := by
  refine List.pairwise_flatMap.mpr ⟨fun row _ => ?_, ?_⟩
  · refine List.pairwise_map.mpr ((List.pairwise_lt_range' 1).imp fun {a b} hlt => ?_)
    exact .inr ⟨rfl, hlt⟩
  · refine (List.pairwise_lt_range' 1).imp fun {row row'} hlt a ha b hb => ?_
    obtain ⟨-, -, rfl⟩ := List.mem_map.mp ha
    obtain ⟨-, -, rfl⟩ := List.mem_map.mp hb
    exact .inl hlt

end Window

theorem Grid.visible_eq (grid : Grid) : grid.visible = grid.window.places.filterMap fun place =>
    (grid.cellAt place.1 place.2).map fun cell => ⟨place.1, place.2, cell⟩ := by
  rw [visible, Window.places, List.filterMap_flatMap]
  simp only [List.filterMap_map]
  rfl

namespace Layout

/-- The middle of a column of the grid in the image. -/
def columnCenter (layout : Layout) (column : ℕ) : ℚ :=
  layout.offsetX + layout.diameter / 2 +
    layout.diameter * ((column : ℚ) - layout.window.firstColumn)

/-- The middle of a row of the grid in the image. -/
def rowCenter (layout : Layout) (row : ℕ) : ℚ :=
  layout.offsetY + layout.diameter / 2 + layout.diameter * ((row : ℚ) - layout.window.firstRow)

section Centers

variable {grid : Grid} {font : Font} {requested : Bool} {layout : Layout}
  (hlayout : ofGrid grid font requested = .ok layout)
  (hheight : font.height ≤ 2 ^ 24) (hwidth : font.width ≤ 2 ^ 24)

include hlayout

/-- The squares of a window lie in the image. -/
theorem mul_le_size {row column : ℕ} (hplace : layout.window.Contains row column) :
    layout.diameter * (column - layout.window.firstColumn) ≤ layout.width ∧
      layout.diameter * (row - layout.window.firstRow) ≤ layout.height := by
  obtain ⟨hrow, hcolumn⟩ := hplace.sub_lt
  have hwide := Nat.mul_le_mul_left layout.diameter hcolumn.le
  have hhigh := Nat.mul_le_mul_left layout.diameter hrow.le
  obtain ⟨diameter, radius, -, -, rfl⟩ := ofGrid_eq_ok.mp hlayout
  dsimp only at hwide hhigh ⊢
  omega

variable (hwide : layout.width < 2 ^ 50) (hhigh : layout.height < 2 ^ 50)
include hheight hwidth hwide hhigh

/-- The centers of a place in the window are the middles of its column and its row. -/
theorem centers_of_contains {centers : Centers} (hcenters : layout.centers = .ok centers)
    {row column : ℕ} (hplace : layout.window.Contains row column) :
    centers.x (column - layout.window.firstColumn) = .finite (layout.columnCenter column) ∧
      centers.y (row - layout.window.firstRow) = .finite (layout.rowCenter row) := by
  obtain ⟨hdiameter, hleft, htop⟩ := offset_bounds hheight hwidth hlayout
  obtain ⟨hcolumn, hrow⟩ := mul_le_size hlayout hplace
  rw [centers_of_ofGrid hheight hwidth hlayout, Except.ok.injEq] at hcenters
  rw [← hcenters]
  exact ⟨Binary64.center_eq hleft hdiameter hplace.2.2.1 (by omega),
    Binary64.center_eq htop hdiameter hplace.1 (by omega)⟩

end Centers

end Layout

/-- A cell of a grid is what its token stands for. -/
theorem Grid.ofToken_of_cellAt {body : List Char} {grid : Grid} (h : ofBody body = .ok grid)
    {row column : ℕ} {cell : Cell} (hcell : grid.cellAt row column = some cell) :
    Cell.ofToken cell.token = .ok cell := by
  have htoken := cellAt_ofBody h row column
  rw [hcell, Option.map_some, eq_comm, Option.map_eq_some_iff] at htoken
  obtain ⟨token, -, htoken⟩ := htoken
  obtain ⟨kind, hkind, rfl⟩ := map_eq_ok.mp htoken
  exact htoken

/-! ### Cells at their places -/

namespace Drawing.Scene

/-- What is drawn at a place of the grid: its cell about the center of the place, or nothing past
the end of a row. -/
def pieceAt (scene : Scene) (place : ℕ × ℕ) : Except Fault Markup :=
  (scene.grid.cellAt place.1 place.2).elim (.ok []) fun cell =>
    scene.cell ⟨place.1, place.2, cell⟩ (.finite (scene.layout.columnCenter place.2))
      (.finite (scene.layout.rowCenter place.1))

/-- The address of the link whose anchor a place of the grid shows. -/
def addressAt (scene : Scene) (place : ℕ × ℕ) : Option (List Char) :=
  (scene.grid.cellAt place.1 place.2).bind fun cell => scene.links.get? cell.token

/-- The area of a link about the center of a place, if the place shows its anchor: a square that
leads to the address. -/
def areaAt (scene : Scene) (place : ℕ × ℕ) : Markup :=
  (scene.addressAt place).elim [] fun url =>
    Markup.anchored (.finite (scene.layout.columnCenter place.2) - scene.layout.radius).pixels
      (.finite (scene.layout.rowCenter place.1) - scene.layout.radius).pixels
      (scene.layout.radius * .finite 2).pixels (escape url)

section Places

variable {scene : Scene} {requested : Bool}
  (hlayout : Layout.ofGrid scene.grid scene.font requested = .ok scene.layout)
  (hheight : scene.font.height ≤ 2 ^ 24) (hwidth : scene.font.width ≤ 2 ^ 24)
  (hwide : scene.layout.width < 2 ^ 50) (hhigh : scene.layout.height < 2 ^ 50)

include hlayout hheight hwidth hwide hhigh

theorem center_of_mem_places {centers : Centers} (hcenters : scene.layout.centers = .ok centers)
    {place : ℕ × ℕ} (hplace : place ∈ scene.grid.window.places) (cell : Cell) :
    scene.center centers ⟨place.1, place.2, cell⟩ =
      (.finite (scene.layout.columnCenter place.2), .finite (scene.layout.rowCenter place.1)) := by
  rw [Window.mem_places, ← Layout.window_of_ofGrid hlayout] at hplace
  obtain ⟨hx, hy⟩ :=
    Layout.centers_of_contains hlayout hheight hwidth hwide hhigh hcenters hplace
  rw [center, hx, hy]

/-- The body is made of what is drawn at the places of the window, row by row. -/
theorem body_eq_places :
    scene.body = (scene.grid.window.places.mapM scene.pieceAt).map List.flatten := by
  obtain ⟨centers, hcenters⟩ := Layout.exists_centers hheight hwidth hlayout
  have hbody : scene.body = (scene.grid.visible.mapM fun placed => scene.cell placed
      (scene.center centers placed).1 (scene.center centers placed).2).map List.flatten := by
    have hmap (pieces : Except Fault (List Markup)) :
        (do let found ← pieces; pure found.flatten) = pieces.map List.flatten := by
      cases pieces <;> rfl
    rw [body, hcenters]
    exact hmap _
  rw [hbody, Grid.visible_eq, flatten_mapM_filterMap]
  refine congrArg _ (mapM_congr fun place hplace => ?_)
  rw [pieceAt]
  cases scene.grid.cellAt place.1 place.2 with
  | none => rfl
  | some cell =>
    have hcenter :=
      center_of_mem_places hlayout hheight hwidth hwide hhigh hcenters hplace cell
    rw [Option.map_some, Option.elim_some, Option.elim_some, hcenter]

theorem overlay_eq_places : scene.overlay = .ok (scene.grid.window.places.flatMap scene.areaAt) := by
  obtain ⟨centers, hcenters⟩ := Layout.exists_centers hheight hwidth hlayout
  rw [overlay, hcenters]
  refine congrArg Except.ok ?_
  rw [Grid.visible_eq, List.filterMap_eq_flatMap_toList, List.flatMap_assoc]
  refine List.flatMap_congr fun place hplace => ?_
  rw [areaAt, addressAt]
  cases scene.grid.cellAt place.1 place.2 with
  | none => rfl
  | some cell =>
    rw [Option.map_some, Option.toList_some, List.flatMap_singleton, Option.bind_some,
      center_of_mem_places hlayout hheight hwidth hwide hhigh hcenters hplace cell]
    unfold linked
    cases scene.links.get? cell.token with
    | none => rfl
    | some url => exact Shape.linkArea_eq _ _ _ url

end Places

end Drawing.Scene

end BoardDiagram
