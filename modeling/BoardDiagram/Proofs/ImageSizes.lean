import BoardDiagram.Proofs.LinkLines
import BoardDiagram.Proofs.Outcomes
import Mathlib.Analysis.Real.Sqrt

/-! Why no diagram fails for the size of its image.  The side of a square is the diagonal of a
character cell, rounded down, and no other way of rounding the diagonal to a value of the format
gives another side: the values of the format are so close together that none but the whole number
itself is nearest to a root just below a whole number.  So a square has room for a character cell,
an image with a square has room too, and only the first line and the rows can make a text no
diagram. -/

namespace BoardDiagram

/-! ### The root, rounded once -/

namespace Binary64

/-- A finite value of the format: a whole multiple of a power of two, with 53 bits. -/
def IsValue (q : ℚ) : Prop :=
  ∃ m e : ℤ, |m| < 2 ^ 53 ∧ -1074 ≤ e ∧ e ≤ 971 ∧ q = m * 2 ^ e

/-- A value of the format that is nearest to the square root of `n`. -/
structure IsNearestRoot (n : ℕ) (v : ℚ) : Prop where
  isValue : IsValue v
  nearest : ∀ u, IsValue u → |√(n : ℝ) - v| ≤ |√(n : ℝ) - u|

theorem isValue_natCast {n : ℕ} (h : n < 2 ^ 53) : IsValue n :=
  ⟨n, 0, by rw [Nat.abs_cast]; exact_mod_cast h, by norm_num, by norm_num, by simp⟩

/-- The value of the format that lies a little below a whole number of at most 26 bits. -/
theorem isValue_below {n : ℕ} (hn : 1 ≤ n) (h : n ≤ 2 ^ 26) : IsValue (n - 1 / 2 ^ 26) := by
  refine ⟨2 ^ 26 * n - 1, -26, ?_, by norm_num, by norm_num, ?_⟩
  · rw [abs_of_nonneg (by omega)]
    omega
  · push_cast
    rw [zpow_neg]
    norm_num
    ring

/-- A nearest value to a root lies between the same whole numbers as the root itself. -/
theorem floor_of_isNearestRoot {n : ℕ} {v : ℚ} (hn : n ≤ 2 ^ 49) (h : IsNearestRoot n v) :
    v.floor = (Nat.sqrt n : ℤ) := by
  have hsmall : Nat.sqrt n < 2 ^ 25 := Nat.sqrt_lt.mpr (by omega)
  have hlow : (Nat.sqrt n : ℝ) ≤ √(n : ℝ) := Real.nat_sqrt_le_real_sqrt
  have hhigh : √(n : ℝ) < Nat.sqrt n + 1 := Real.real_sqrt_lt_nat_sqrt_succ
  have hsquare : √(n : ℝ) * √(n : ℝ) = n := Real.mul_self_sqrt (Nat.cast_nonneg n)
  have hgap : (n : ℝ) + 1 ≤ (Nat.sqrt n + 1) * (Nat.sqrt n + 1) := by
    exact_mod_cast Nat.lt_succ_sqrt n
  have hsize : (Nat.sqrt n : ℝ) + 1 ≤ 2 ^ 25 := by exact_mod_cast hsmall
  have hwhole := h.nearest _ (isValue_natCast (n := Nat.sqrt n) (by omega))
  have hbelow := h.nearest _ (isValue_below (n := Nat.sqrt n + 1) (by omega) (by omega))
  push_cast at hwhole hbelow
  have habove : (Nat.sqrt n : ℝ) ≤ v := by
    rw [abs_of_nonneg (sub_nonneg.mpr hlow)] at hwhole
    linarith [le_abs_self (√(n : ℝ) - v)]
  have hunder : (v : ℝ) < Nat.sqrt n + 1 := by
    generalize (Nat.sqrt n : ℝ) = s at *
    generalize √(n : ℝ) = r at *
    by_contra hover
    -- the root is more than `2 ^ (-26)` below `s + 1`, for their squares differ by one at least
    have hdistance : 1 / 2 ^ 26 < s + 1 - r := by
      rw [div_lt_iff₀ (by norm_num)]
      nlinarith
    have hnearer : |r - (s + 1 - 1 / 2 ^ 26)| < s + 1 - r :=
      abs_lt.mpr ⟨by linarith, by linarith⟩
    linarith [neg_le_abs (r - v)]
  refine le_antisymm (Int.lt_add_one_iff.mp (Rat.floor_lt_iff.mpr ?_)) (Rat.le_floor_iff.mpr ?_)
  · exact_mod_cast hunder
  · exact_mod_cast habove

/-- A whole number is its own nearest value. -/
theorem isNearestRoot_square {k : ℕ} (hk : k < 2 ^ 53) : IsNearestRoot (k * k) k where
  isValue := isValue_natCast hk
  nearest u _ := by
    rw [Nat.cast_mul, Real.sqrt_mul_self (Nat.cast_nonneg k), Rat.cast_natCast, sub_self, abs_zero]
    exact abs_nonneg _

theorem finite_values : {q | IsValue q}.Finite := by
  have hgrid := (Set.finite_Icc (-2 ^ 53 : ℤ) (2 ^ 53)).prod (Set.finite_Icc (-1074 : ℤ) 971)
  refine (hgrid.image fun pair => (pair.1 : ℚ) * 2 ^ pair.2).subset ?_
  rintro q ⟨m, e, hm, hlow, hhigh, rfl⟩
  obtain ⟨hneg, hpos⟩ := abs_lt.mp hm
  exact ⟨(m, e), ⟨⟨hneg.le, hpos.le⟩, hlow, hhigh⟩, rfl⟩

/-- Every root has a nearest value. -/
theorem exists_isNearestRoot (n : ℕ) : ∃ v, IsNearestRoot n v := by
  obtain ⟨v, hv, hnearest⟩ := Set.exists_min_image {q | IsValue q}
    (fun v : ℚ => |√(n : ℝ) - v|) finite_values ⟨0, isValue_natCast (n := 0) (by norm_num)⟩
  exact ⟨v, hv, hnearest⟩

end Binary64

/-! ### Texts with a board -/

namespace Diagram

open Text

/-- The first line of a text that is not blank starts a diagram, and the rows of the lines behind it
have a grid. -/
def HasBoard (text : List Char) : Prop :=
  ∃ blanks line rest, lines text = blanks ++ line :: rest ∧
    (∀ blank ∈ blanks, isBlankText blank = true) ∧ isBlankText line = false ∧
    (∃ header, Header.ofLine line = .ok header) ∧
    ∃ grid, Grid.ofBody (Directive.scan rest).body = .ok grid

theorem dropBlankLines_blanks {blanks : List (List Char)} {line : List Char}
    (hblanks : ∀ blank ∈ blanks, isBlankText blank = true) (hline : isBlankText line = false)
    (rest : List (List Char)) : dropBlankLines (blanks ++ line :: rest) = line :: rest := by
  induction blanks with
  | nil => exact dropBlankLines_of_solid hline rest
  | cons blank blanks ih =>
    obtain ⟨hblank, hblanks⟩ := List.forall_mem_cons.mp hblanks
    rw [List.cons_append, dropBlankLines_cons hblank (by simp), ih hblanks]

/-- A text has a board if its first line and its directives say so. -/
theorem hasBoard_iff {text : List Char} : HasBoard text ↔
    (∃ header, Header.ofLine (firstLine text) = .ok header) ∧
      ∃ grid, Grid.ofBody (content text).body = .ok grid := by
  constructor
  · rintro ⟨blanks, line, rest, hlines, hblanks, hline, hheader, hgrid⟩
    rw [firstLine, content, hlines, dropBlankLines_blanks hblanks hline]
    exact ⟨hheader, hgrid⟩
  · rintro ⟨⟨header, hheader⟩, hgrid⟩
    obtain ⟨blanks, line, rest, hlines, hdrop, hblanks, -⟩ :=
      dropBlankLines_spec (List.splitOn_ne_nil '\n' text)
    rw [firstLine, lines, hdrop] at hheader
    rw [content, lines, hdrop] at hgrid
    exact ⟨blanks, line, rest, hlines, hblanks, isBlankText_of_header hheader, ⟨header, hheader⟩,
      hgrid⟩

section Font

variable {font : Font} (hheight : font.height ≤ 2 ^ 24) (hwidth : font.width ≤ 2 ^ 24)
include hheight hwidth

theorem isValid_iff_hasBoard {text : List Char} {diagram : Diagram}
    (h : ofText text font = .ok diagram) : diagram.isValid = true ↔ HasBoard text := by
  rw [hasBoard_iff]
  constructor
  · intro hvalid
    obtain ⟨board, hboard⟩ := Option.isSome_iff_exists.mp hvalid
    obtain ⟨-, hheader, hfound⟩ := ofBody_of_ofText h hboard
    exact ⟨⟨_, hheader⟩, board.grid, (Board.ofBody_eq_ok.mp hfound).1⟩
  · rintro ⟨⟨header, hheader⟩, grid, hgrid⟩
    obtain ⟨cause, hcause, -⟩ | ⟨found, outcome, -, houtcome, rfl⟩ := ofText_eq_ok.mp h
    · rw [hheader] at hcause
      cases hcause
    obtain ⟨board, -, rfl⟩ | ⟨cause, hcause, -⟩ := attempt_eq_ok.mp houtcome
    · rfl
    · -- a cause that is not in the rows would lie in the size of the image
      rw [Board.ofBody_eq_error hheight hwidth, hgrid] at hcause
      cases hcause

/-- The side of a square is the root of the sum of squares, rounded down, and so is every nearest
value to that root: no square is smaller than a character cell.  Hence no image is too small, and a
text is a diagram exactly if it has a board. -/
theorem image_never_too_small : ∃ diameter, font.diameter = .ok diameter ∧
    diameter ^ 2 ≤ font.height ^ 2 + font.width ^ 2 ∧
    font.height ^ 2 + font.width ^ 2 < (diameter + 1) ^ 2 ∧
    max font.height font.width ≤ diameter ∧
    (∃ v, Binary64.IsNearestRoot (font.height ^ 2 + font.width ^ 2) v) ∧
    (∀ v, Binary64.IsNearestRoot (font.height ^ 2 + font.width ^ 2) v →
      v.floor = (diameter : ℤ)) ∧
    (∀ body grid requested, Grid.ofBody body = .ok grid →
      ∃ layout, Layout.ofGrid grid font requested = .ok layout ∧ layout.diameter = diameter ∧
        layout.checkSize font = .ok ()) ∧
    ∀ text diagram, ofText text font = .ok diagram →
      (diagram.isValid = true ↔ HasBoard text) := by
  have hdiameter := Font.diameter_eq hheight hwidth
  obtain ⟨hhigh, hwide, -⟩ := Font.diameter_bounds hheight hwidth hdiameter
  have hsmall : font.height * font.height + font.width * font.width ≤ 2 ^ 49 := by
    have hh := Nat.mul_le_mul hheight hheight
    have hw := Nat.mul_le_mul hwidth hwidth
    omega
  simp only [pow_two]
  refine ⟨_, hdiameter, Nat.sqrt_le _, Nat.lt_succ_sqrt _, max_le hhigh hwide,
    Binary64.exists_isNearestRoot _, fun v hv => Binary64.floor_of_isNearestRoot hsmall hv,
    fun body grid requested hgrid => ?_, fun text diagram h => isValid_iff_hasBoard hheight hwidth h⟩
  obtain ⟨hrow, hcolumn⟩ := Grid.window_of_frame (Grid.ofBody_eq_ok.mp hgrid).1
  obtain ⟨layout, hlayout⟩ := Layout.exists_ofGrid hheight hwidth grid requested
  obtain ⟨found, radius, hfound, -, hfields⟩ := Layout.ofGrid_eq_ok.mp hlayout
  have hside := Except.ok.inj (hfound.symm.trans hdiameter)
  exact ⟨layout, hlayout, (congrArg Layout.diameter hfields).trans hside,
    Layout.checkSize_ofGrid hheight hwidth hrow hcolumn hlayout⟩

end Font

/-- Characters of twelve by five pixels, whose diagonal is a whole number. -/
theorem image_never_too_small_diagonal :
    let font : Font := ⟨12, 5, by decide, by decide⟩
    font.height ≤ 2 ^ 24 ∧ font.width ≤ 2 ^ 24 ∧ font.diameter = .ok 13 ∧
      Binary64.IsNearestRoot (font.height ^ 2 + font.width ^ 2) 13 ∧ (13 : ℚ).floor = 13 ∧
      ∃ diagram, ofText "\n$$\n$$ .X".toList font = .ok diagram ∧ diagram.isValid = true ∧
        HasBoard "\n$$\n$$ .X".toList := by
  intro font
  have hheight : font.height ≤ 2 ^ 24 := by decide
  have hwidth : font.width ≤ 2 ^ 24 := by decide
  obtain ⟨diameter, hdiameter, -, -, -, -, hnearest, -, hvalid⟩ :=
    image_never_too_small hheight hwidth
  have hsquare : font.height ^ 2 + font.width ^ 2 = 13 * 13 := by decide
  have hroot : Binary64.IsNearestRoot (font.height ^ 2 + font.width ^ 2) 13 := by
    rw [hsquare]
    exact_mod_cast Binary64.isNearestRoot_square (k := 13) (by norm_num)
  have hfloor : (13 : ℚ).floor = 13 := Rat.floor_intCast 13
  obtain rfl : diameter = 13 := Int.ofNat_inj.mp ((hnearest 13 hroot).symm.trans hfloor)
  have hread : (ofText "\n$$\n$$ .X".toList font).toOption.any (·.isValid) = true := by
    decide +kernel
  simp only [Option.any_eq_true, toOption_eq_some] at hread
  obtain ⟨diagram, hdiagram, hshown⟩ := hread
  exact ⟨hheight, hwidth, hdiameter, hroot, hfloor, diagram, hdiagram, hshown,
    (hvalid _ diagram hdiagram).mp hshown⟩

end Diagram

end BoardDiagram
