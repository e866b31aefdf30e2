import BoardDiagram.Layout
import BoardDiagram.Proofs.Number.Diagonal
import BoardDiagram.Proofs.Results

/-! The layout of a grid for a font of ordinary size.  The side of a square is the root of the sum
of squares of the font, rounded down.  So no square is smaller than a character cell, every grid has
a layout, and no image is too small. -/

namespace BoardDiagram

namespace Binary64

/-- The middle of a square is exact. -/
theorem add_half {offset diameter : ℕ} (h : 2 * offset + diameter ≤ 2 ^ 53) :
    Binary64.finite offset + .finite (diameter / 2) = .finite (offset + diameter / 2) := by
  have hround := round_half h
  have hsum : ((2 * offset + diameter : ℕ) : ℚ) / 2 = offset + diameter / 2 := by
    push_cast
    ring
  rw [hsum] at hround
  rw [finite_add_finite, hround]

theorem double_half {diameter : ℕ} (h : diameter ≤ 2 ^ 53) :
    (Binary64.finite (diameter / 2)).double = .finite diameter := by
  rw [double, finite_mul_finite, mul_div_cancel₀ _ two_ne_zero, round_natCast h]

end Binary64

namespace Font

variable {font : Font} (hheight : font.height ≤ 2 ^ 24) (hwidth : font.width ≤ 2 ^ 24)

include hheight hwidth

theorem diameter_eq :
    font.diameter = .ok (Nat.sqrt (font.height * font.height + font.width * font.width)) := by
  obtain ⟨q, hq, hfloor⟩ :=
    Binary64.exists_diagonal font.height_pos font.width_pos hheight hwidth
  unfold diameter
  rw [bind_eq_ok]
  refine ⟨_, hq, bind_eq_ok.mpr ⟨_, rfl, ?_⟩⟩
  rw [hfloor, Int.toNat_natCast]
  rfl

theorem diameter_bounds {d : ℕ} (h : font.diameter = .ok d) :
    font.height ≤ d ∧ font.width ≤ d ∧ d ≤ 2 ^ 25 := by
  rw [diameter_eq hheight hwidth] at h
  cases h
  refine ⟨?_, ?_, ?_⟩
  · exact Nat.le_sqrt.mpr (Nat.le_add_right _ _)
  · exact Nat.le_sqrt.mpr (Nat.le_add_left _ _)
  · refine Nat.lt_succ_iff.mp (Nat.sqrt_lt.mpr ?_)
    nlinarith

end Font

/-! ### The frame of a grid -/

namespace Grid

/-- The window of a grid has a row and a column at least. -/
theorem window_of_frame {rows : List (List (List Char))} {window : Window} {borders : Sides}
    (h : frame rows = .ok (window, borders)) : 1 ≤ window.rowCount ∧ 1 ≤ window.columnCount := by
  unfold frame at h
  dsimp only at h
  split at h
  · cases h
  split at h
  · cases h
  split at h
  · cases h
  cases h
  unfold Window.rowCount Window.columnCount
  dsimp only
  omega

end Grid

namespace Layout

variable {grid : Grid} {font : Font} {requested : Bool} {layout : Layout}

theorem ofGrid_eq_ok : ofGrid grid font requested = .ok layout ↔
    ∃ diameter radius, font.diameter = .ok diameter ∧ Binary64.halfOf diameter = .ok radius ∧
      layout = {
        window := grid.window
        diameter
        radius
        width := diameter * grid.window.columnCount + 4 +
          (if drawsCoordinates grid requested then font.leftMargin else 0)
        height := diameter * grid.window.rowCount + 4 +
          (if drawsCoordinates grid requested then font.topMargin else 0)
        offsetX := 2 + (if drawsCoordinates grid requested then font.leftMargin else 0)
        offsetY := 2 + (if drawsCoordinates grid requested then font.topMargin else 0)
        coordinates := drawsCoordinates grid requested } := by
  unfold ofGrid
  simp only [bind_eq_ok]
  constructor
  · rintro ⟨diameter, hdiameter, radius, hradius, h⟩
    cases h
    exact ⟨diameter, radius, hdiameter, hradius, rfl⟩
  · rintro ⟨diameter, radius, hdiameter, hradius, rfl⟩
    exact ⟨diameter, hdiameter, radius, hradius, rfl⟩

theorem window_of_ofGrid (h : ofGrid grid font requested = .ok layout) :
    layout.window = grid.window := by
  obtain ⟨diameter, radius, -, -, rfl⟩ := ofGrid_eq_ok.mp h
  rfl

section Ordinary

variable (hheight : font.height ≤ 2 ^ 24) (hwidth : font.width ≤ 2 ^ 24)

include hheight hwidth

theorem exists_ofGrid (grid : Grid) (requested : Bool) :
    ∃ layout, ofGrid grid font requested = .ok layout := by
  have hdiameter := Font.diameter_eq hheight hwidth
  obtain ⟨-, -, hsmall⟩ := Font.diameter_bounds hheight hwidth hdiameter
  exact ⟨_, ofGrid_eq_ok.mpr ⟨_, _, hdiameter, Binary64.halfOf_natCast (by omega), rfl⟩⟩

/-- An image with a row and a column has room for a character cell. -/
theorem checkSize_ofGrid (hrow : 1 ≤ grid.window.rowCount)
    (hcolumn : 1 ≤ grid.window.columnCount) (h : ofGrid grid font requested = .ok layout) :
    layout.checkSize font = .ok () := by
  obtain ⟨diameter, radius, hdiameter, -, rfl⟩ := ofGrid_eq_ok.mp h
  obtain ⟨hhigh, hwide, -⟩ := Font.diameter_bounds hheight hwidth hdiameter
  have hcolumns := Nat.le_mul_of_pos_right diameter hcolumn
  have hrows := Nat.le_mul_of_pos_right diameter hrow
  unfold checkSize
  dsimp only
  rw [if_neg]
  simp only [Bool.or_eq_true, decide_eq_true_eq]
  omega

theorem offset_bounds (h : ofGrid grid font requested = .ok layout) :
    layout.diameter ≤ 2 ^ 25 ∧ layout.offsetX ≤ 2 ^ 26 ∧ layout.offsetY ≤ 2 ^ 26 := by
  obtain ⟨diameter, radius, hdiameter, -, rfl⟩ := ofGrid_eq_ok.mp h
  refine ⟨(Font.diameter_bounds hheight hwidth hdiameter).2.2, ?_, ?_⟩
  · dsimp only [Font.leftMargin]
    split <;> omega
  · dsimp only [Font.topMargin]
    split <;> omega

theorem radius_of_ofGrid (h : ofGrid grid font requested = .ok layout) :
    layout.radius = .finite (layout.diameter / 2) := by
  obtain ⟨hdiameter, -, -⟩ := offset_bounds hheight hwidth h
  obtain ⟨diameter, radius, -, hhalf, rfl⟩ := ofGrid_eq_ok.mp h
  dsimp only at hdiameter
  rw [Binary64.halfOf_natCast (by omega)] at hhalf
  exact (Except.ok.inj hhalf).symm

theorem centers_of_ofGrid (h : ofGrid grid font requested = .ok layout) : layout.centers = .ok {
    firstX := .finite (layout.offsetX + layout.diameter / 2)
    firstY := .finite (layout.offsetY + layout.diameter / 2)
    step := .finite layout.diameter } := by
  obtain ⟨hdiameter, hleft, htop⟩ := offset_bounds hheight hwidth h
  rw [centers, Binary64.ofInt_natCast (by omega), Binary64.ofInt_natCast (by omega),
    radius_of_ofGrid hheight hwidth h]
  dsimp only [bind, Except.bind]
  rw [Binary64.add_half (by omega), Binary64.add_half (by omega), Binary64.double_half (by omega)]
  rfl

theorem exists_centers (h : ofGrid grid font requested = .ok layout) :
    ∃ centers, layout.centers = .ok centers :=
  ⟨_, centers_of_ofGrid hheight hwidth h⟩

end Ordinary

end Layout

end BoardDiagram
