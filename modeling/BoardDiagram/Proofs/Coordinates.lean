import BoardDiagram.Proofs.BoardLines

/-! Coordinates name the rows and columns of the board that a diagram shows, and stand beside their
middles.  Like all places they are whole numbers of half pixels in a font of ordinary size, so
nothing is rounded; and as an image of ordinary size has less than `2 ^ 50` rows, counting down from
a word of 64 bits does not wrap around. -/

namespace BoardDiagram

/-- What belongs to the elements of a list that is no longer than a range, one by one. -/
theorem zip_map_range {α β : Type} {as : List α} {n : ℕ} (h : as.length ≤ n) (f : ℕ → β) :
    as.zip ((List.range n).map f) = as.zipIdx.map fun pair => (pair.1, f pair.2) := by
  apply List.ext_getElem
  · simp [h]
  · intro i hi _
    simp

namespace Binary64

/-- A whole number of steps from a place in half pixels is exact. -/
theorem half_add_mul {a : ℤ} {step count : ℕ} (hproduct : step * count ≤ 2 ^ 53)
    (h : |a + 2 * (step * count : ℕ)| ≤ 2 ^ 53) :
    Binary64.finite (a / 2) + .finite step * .finite count =
      .finite ((a + 2 * (step * count : ℕ) : ℤ) / 2) := by
  have hwhole : ((step * count : ℕ) : ℚ) = ((2 * (step * count : ℕ) : ℤ) : ℚ) / 2 := by
    push_cast
    ring
  rw [finite_mul_finite, ← Nat.cast_mul, round_natCast hproduct, hwhole, half_add_half h]

end Binary64

namespace Layout

/-- The middles of the rows of the window, from the top. -/
def rowMiddles (layout : Layout) : List ℚ :=
  (List.range layout.window.rowCount).map fun k => layout.rowCenter (layout.window.firstRow + k)

/-- The middles of the columns of the window, from the left. -/
def columnMiddles (layout : Layout) : List ℚ :=
  (List.range layout.window.columnCount).map fun k =>
    layout.columnCenter (layout.window.firstColumn + k)

theorem contains_of_lt {layout : Layout} {i j : ℕ} (hi : i < layout.window.rowCount)
    (hj : j < layout.window.columnCount) :
    layout.window.Contains (layout.window.firstRow + i) (layout.window.firstColumn + j) := by
  unfold Window.rowCount at hi
  unfold Window.columnCount at hj
  unfold Window.Contains
  omega

/-- The layout of a grid in a font and an image of ordinary size. -/
structure IsOrdinary (layout : Layout) (grid : Grid) (font : Font) (requested : Bool) : Prop where
  ofGrid : Layout.ofGrid grid font requested = .ok layout
  height_le : font.height ≤ 2 ^ 24
  width_le : font.width ≤ 2 ^ 24
  wide : layout.width < 2 ^ 50
  high : layout.height < 2 ^ 50
  rows_le : layout.window.firstRow ≤ layout.window.lastRow
  columns_le : layout.window.firstColumn ≤ layout.window.lastColumn

namespace IsOrdinary

variable {layout : Layout} {grid : Grid} {font : Font} {requested : Bool}
  (h : layout.IsOrdinary grid font requested)
include h

theorem rowCount_pos : 0 < layout.window.rowCount := by
  have hle := h.rows_le
  unfold Window.rowCount
  omega

theorem columnCount_pos : 0 < layout.window.columnCount := by
  have hle := h.columns_le
  unfold Window.columnCount
  omega

theorem rowCount_lt : layout.window.rowCount < 2 ^ 50 := by
  have hhigh := h.high
  have hdiameter := diameter_pos h.ofGrid h.height_le h.width_le
  have hle := Nat.le_mul_of_pos_left layout.window.rowCount hdiameter
  obtain ⟨diameter, radius, -, -, hfields⟩ := ofGrid_eq_ok.mp h.ofGrid
  have hsize : layout.diameter * layout.window.rowCount ≤ layout.height := by
    rw [hfields]
    dsimp only
    omega
  omega

/-- Coordinates are drawn for edges in both directions, and take room at the left and top. -/
theorem of_coordinates (hdrawn : layout.coordinates = true) :
    grid.borders.hasHorizontal = true ∧ grid.borders.hasVertical = true ∧
      layout.offsetX = 2 * font.width + 6 ∧ layout.offsetY = font.height + 4 := by
  obtain ⟨diameter, radius, -, -, rfl⟩ := ofGrid_eq_ok.mp h.ofGrid
  dsimp only at hdrawn ⊢
  rw [if_pos hdrawn, if_pos hdrawn, Font.leftMargin, Font.topMargin]
  simp only [drawsCoordinates, Bool.and_eq_true] at hdrawn
  exact ⟨hdrawn.1.2, hdrawn.2, by omega, by omega⟩

theorem center_of_lt {centers : Centers} (hcenters : layout.centers = .ok centers) :
    (∀ k < layout.window.columnCount, centers.x k =
      .finite (layout.columnCenter (layout.window.firstColumn + k))) ∧
    ∀ k < layout.window.rowCount, centers.y k =
      .finite (layout.rowCenter (layout.window.firstRow + k)) := by
  constructor
  · intro k hk
    have hcenter := (centers_of_contains h.ofGrid h.height_le h.width_le h.wide h.high hcenters
      (contains_of_lt h.rowCount_pos hk)).1
    rwa [Nat.add_sub_cancel_left] at hcenter
  · intro k hk
    have hcenter := (centers_of_contains h.ofGrid h.height_le h.width_le h.wide h.high hcenters
      (contains_of_lt hk h.columnCount_pos)).2
    rwa [Nat.add_sub_cancel_left] at hcenter

theorem centers_eq_middles : layout.rowCenters = .ok (layout.rowMiddles.map .finite) ∧
    layout.columnCenters = .ok (layout.columnMiddles.map .finite) := by
  obtain ⟨centers, hcenters⟩ := exists_centers h.height_le h.width_le h.ofGrid
  obtain ⟨hx, hy⟩ := h.center_of_lt hcenters
  rw [rowCenters, columnCenters, hcenters, rowMiddles, columnMiddles, List.map_map, List.map_map]
  constructor
  · apply congrArg Except.ok
    exact List.map_congr_left fun k hk => hy k (List.mem_range.mp hk)
  · apply congrArg Except.ok
    exact List.map_congr_left fun k hk => hx k (List.mem_range.mp hk)

end IsOrdinary

end Layout

namespace Drawing

open Markup

/-! ### Names -/

/-- So many characters from one on. -/
def charactersFrom (first : Char) (count : ℕ) : List Char :=
  (List.range count).map fun i => Char.ofNat (first.toNat + i)

/-- The names of columns: letters but for the letter I, large before small, and then digits. -/
def alphabet : List Char :=
  (charactersFrom 'A' 26).filter (· ≠ 'I') ++ (charactersFrom 'a' 26).filter (· ≠ 'i') ++
    charactersFrom '1' 9

theorem columnLabels_eq : columnLabels = alphabet := by decide

theorem length_alphabet : alphabet.length = 59 := by decide

/-- Numbers of rows, from the top: they count down to one at the bottom edge of the board, or else
from the size of the board at its top edge. -/
structure NumbersRows (borders : Sides) (boardSize rows : ℕ) (numbers : List ℤ) : Prop where
  length : numbers.length = rows
  descending : ∀ k a b, numbers[k]? = some a → numbers[k + 1]? = some b → b = a - 1
  last : borders.bottom = true → numbers.getLast? = some 1
  first : borders.bottom = false → numbers.head? = some (boardSize : ℤ)

/-- Names of columns, from the left: a stretch of the alphabet from an index on, as far as it goes.
It starts the alphabet at the left edge of the board.  Else the columns are the last of the board,
or its first ones when it has fewer, and the last of them has its own name if all columns of the
board have names. -/
structure NamesColumns (borders : Sides) (boardSize columns first : ℕ) (names : List Char) :
    Prop where
  length : names.length = min columns (59 - first)
  name : ∀ k < names.length, names[k]? = alphabet[first + k]?
  left : borders.left = true → first = 0
  right : borders.left = false → first = boardSize - columns
  last : borders.left = false → columns ≤ boardSize → boardSize ≤ 59 →
    names.length = columns ∧ names.getLast? = alphabet[boardSize - 1]?

/-- Numbers that count down from a first one. -/
def countDown (first : ℤ) (rows : ℕ) : List ℤ :=
  (List.range rows).map fun (k : ℕ) => first - k

theorem length_countDown (first : ℤ) (rows : ℕ) : (countDown first rows).length = rows := by
  rw [countDown, List.length_map, List.length_range]

theorem numbersRows_countDown {borders : Sides} {boardSize rows : ℕ} (hrows : 0 < rows)
    (hhorizontal : borders.hasHorizontal = true) : NumbersRows borders boardSize rows
      (countDown (firstRowNumber borders boardSize rows) rows) where
  length := length_countDown _ _
  descending k a b ha hb := by
    simp only [countDown, List.getElem?_map, Option.map_eq_some_iff] at ha hb
    obtain ⟨i, hi, rfl⟩ := ha
    obtain ⟨j, hj, rfl⟩ := hb
    have hi := (List.getElem?_eq_some_iff.mp hi).2
    have hj := (List.getElem?_eq_some_iff.mp hj).2
    simp only [List.getElem_range] at hi hj
    omega
  last hbottom := by
    rw [List.getLast?_eq_getElem?, length_countDown, countDown, List.getElem?_map,
      List.getElem?_range (by omega), firstRowNumber, if_pos hbottom]
    simp only [Option.map_some, Option.some.injEq]
    omega
  first hbottom := by
    have htop : borders.top = true := by
      rw [Sides.hasHorizontal, hbottom, Bool.or_false] at hhorizontal
      exact hhorizontal
    rw [List.head?_eq_getElem?, countDown, List.getElem?_map, List.getElem?_range hrows,
      firstRowNumber, if_neg (by simp [hbottom]), if_pos htop]
    simp

theorem firstColumnIndex_of_left_eq_false {borders : Sides} {boardSize columns : ℕ}
    (hleft : borders.left = false) (hvertical : borders.hasVertical = true) :
    firstColumnIndex borders boardSize columns = boardSize - columns := by
  have hright : borders.right = true := by
    rw [Sides.hasVertical, hleft, Bool.false_or] at hvertical
    exact hvertical
  rw [firstColumnIndex, if_neg (by simp [hleft]), if_pos hright]
  omega

theorem namesColumns_take {borders : Sides} {boardSize columns : ℕ} (hcolumns : 0 < columns)
    (hvertical : borders.hasVertical = true) : NamesColumns borders boardSize columns
      (firstColumnIndex borders boardSize columns)
      ((alphabet.drop (firstColumnIndex borders boardSize columns)).take columns) where
  length := by rw [List.length_take, List.length_drop, length_alphabet]
  name k hk := by
    rw [List.length_take] at hk
    rw [List.getElem?_take_of_lt (by omega), List.getElem?_drop]
  left hleft := by rw [firstColumnIndex, if_pos hleft]
  right hleft := firstColumnIndex_of_left_eq_false hleft hvertical
  last hleft hle hsize := by
    have hlength : ((alphabet.drop (boardSize - columns)).take columns).length = columns := by
      rw [List.length_take, List.length_drop, length_alphabet]
      omega
    rw [firstColumnIndex_of_left_eq_false hleft hvertical]
    refine ⟨hlength, ?_⟩
    rw [List.getLast?_eq_getElem?, hlength, List.getElem?_take_of_lt (by omega),
      List.getElem?_drop]
    congr 1
    omega

/-! ### Labels at their places -/

/-- A coordinate that starts at a place, in black and in half the size of the font. -/
def coordinate (font : Font) (x y : ℚ) (text : List Char) : Markup :=
  Markup.caption (Binary64.finite x).pixels (Binary64.finite y).pixels "rgb(0, 0, 0)".toList
    "coordClass".toList (Binary64.finite (font.height / 2)).pixels (escape text)

/-- A row's number beside the middle of the row. -/
def rowLabel (font : Font) (number : ℤ) (middle : ℚ) : Markup :=
  coordinate font (if 10 ≤ number then 6 else 6 + font.width / 2)
    (middle + 10 - font.height / 2) (decimal number)

/-- A column's name above the middle of the column. -/
def columnLabel (font : Font) (name : Char) (middle : ℚ) : Markup :=
  coordinate font (middle - font.width / 2) 18 [name]

namespace Margin

section Font

variable {margin : Margin}

theorem labelSize_eq (hheight : margin.font.height ≤ 2 ^ 24) :
    margin.labelSize = .ok (.finite (margin.font.height / 2)) := by
  have hhalf : (Binary64.finite margin.font.height).half =
      .finite (margin.font.height / 2) := by
    rw [Binary64.half, Binary64.finite_mul_finite, mul_one_div, Binary64.round_half (by omega)]
  rw [labelSize, Binary64.ofInt_natCast (by omega)]
  exact congrArg Except.ok hhalf

theorem numberX_eq (hwidth : margin.font.width ≤ 2 ^ 24) (number : ℤ) : margin.numberX number =
    .ok (.finite (if 10 ≤ number then 6 else 6 + margin.font.width / 2)) := by
  unfold numberX
  split
  · exact Binary64.ofInt_natCast (n := 6) (by norm_num)
  · have hleft := Binary64.ofInt_natCast (n := 6 + margin.font.width) (by omega)
    have hsub := Binary64.half_sub_half (a := 2 * (6 + margin.font.width))
      (b := margin.font.width) (by rw [abs_of_nonneg (by omega)]; omega)
    have ha : ((2 * (6 + margin.font.width) : ℤ) : ℚ) / 2 = (6 + margin.font.width : ℕ) := by
      push_cast
      ring
    have hdifference : ((2 * (6 + margin.font.width) - margin.font.width : ℤ) : ℚ) / 2 =
        6 + margin.font.width / 2 := by
      push_cast
      ring
    rw [ha, hdifference, Int.cast_natCast] at hsub
    rw [Nat.cast_add, Nat.cast_ofNat] at hleft
    rw [Binary64.halfOf_natCast (by omega), hleft]
    exact congrArg Except.ok hsub

end Font

section Places

variable {margin : Margin} {grid : Grid} {requested : Bool}
  (h : margin.layout.IsOrdinary grid margin.font requested)
include h

theorem firstBaseline_eq : margin.firstBaseline =
    .ok (.finite ((28 + margin.font.height + margin.layout.diameter : ℤ) / 2)) := by
  have hheight := h.height_le
  obtain ⟨hdiameter, -, -⟩ := Layout.offset_bounds hheight h.width_le h.ofGrid
  have hbase := Binary64.ofInt_natCast (n := 14 + margin.font.height) (by omega)
  rw [Nat.cast_add, Nat.cast_ofNat] at hbase
  have hwhole : ((14 + margin.font.height : ℕ) : ℚ) =
      ((28 + 2 * margin.font.height : ℤ) : ℚ) / 2 := by
    push_cast
    ring
  have hadd := Binary64.half_add_half (a := 28 + 2 * margin.font.height)
    (b := margin.layout.diameter) (by rw [abs_of_nonneg (by omega)]; omega)
  have hsub := Binary64.half_sub_half
    (a := 28 + 2 * margin.font.height + margin.layout.diameter) (b := margin.font.height)
    (by rw [abs_of_nonneg (by omega)]; omega)
  have hsum : (28 + 2 * margin.font.height + margin.layout.diameter - margin.font.height : ℤ) =
      28 + margin.font.height + margin.layout.diameter := by ring
  rw [Int.cast_natCast] at hadd hsub
  rw [hsum] at hsub
  rw [firstBaseline, hbase, Binary64.halfOf_natCast (by omega), hwhole,
    Layout.radius_of_ofGrid hheight h.width_le h.ofGrid]
  apply congrArg Except.ok
  rw [hadd, hsub]

/-- A row's number stands as far from the first one as the middles of their rows lie apart. -/
theorem baseline_eq (hdrawn : margin.layout.coordinates = true) {k : ℕ}
    (hk : k < margin.layout.window.rowCount) :
    Binary64.finite ((28 + margin.font.height + margin.layout.diameter : ℤ) / 2) +
        margin.layout.radius.double * .finite k =
      .finite (margin.layout.rowCenter (margin.layout.window.firstRow + k) + 10 -
        margin.font.height / 2) := by
  have hheight := h.height_le
  have hhigh := h.high
  obtain ⟨-, -, -, hoffset⟩ := h.of_coordinates hdrawn
  obtain ⟨hdiameter, -, -⟩ := Layout.offset_bounds hheight h.width_le h.ofGrid
  have hsize := (Layout.mul_le_size h.ofGrid (Layout.contains_of_lt hk h.columnCount_pos)).2
  rw [Nat.add_sub_cancel_left] at hsize
  rw [Layout.radius_of_ofGrid hheight h.width_le h.ofGrid, Binary64.double_half (by omega),
    Binary64.half_add_mul (by omega) (by rw [abs_of_nonneg (by omega)]; omega), Layout.rowCenter,
    hoffset]
  apply congrArg Binary64.finite
  push_cast
  ring

theorem nameX_eq {centers : Centers} (hcenters : margin.layout.centers = .ok centers) {k : ℕ}
    (hk : k < margin.layout.window.columnCount) :
    centers.x k - .finite (margin.font.width / 2) =
      .finite (margin.layout.columnCenter (margin.layout.window.firstColumn + k) -
        margin.font.width / 2) := by
  have hwidth := h.width_le
  have hwide := h.wide
  let place := (margin.layout.window.firstRow + 0, margin.layout.window.firstColumn + k)
  have hplace : margin.layout.window.Contains place.1 place.2 :=
    Layout.contains_of_lt h.rowCount_pos hk
  obtain ⟨hleft, hright, -, -⟩ := Layout.halves_bounds h.ofGrid hplace
  dsimp only [place] at hleft hright
  have hsub := Binary64.half_sub_half
    (a := margin.layout.columnHalves (margin.layout.window.firstColumn + k))
    (b := margin.font.width) (by rw [abs_le]; omega)
  rw [Int.cast_natCast] at hsub
  rw [(h.center_of_lt hcenters).1 k hk, Layout.columnCenter_eq, hsub]
  apply congrArg Binary64.finite
  push_cast
  ring

variable {size : ℕ} (hboard : margin.boardSize = size) (hsize : size < 2 ^ 63)
include hboard hsize

theorem rowNumbers_eq : margin.rowNumbers = .ok (countDown
    (firstRowNumber margin.borders size margin.layout.window.rowCount)
    margin.layout.window.rowCount) := by
  have hrows := h.rowCount_lt
  have hbounds : 0 ≤ firstRowNumber margin.borders size margin.layout.window.rowCount ∧
      firstRowNumber margin.borders size margin.layout.window.rowCount < 2 ^ 63 := by
    unfold firstRowNumber
    split
    · omega
    · split <;> omega
  have hpower : Int.pow 2 63 = 2 ^ 63 := by decide
  have hword : Nat.pow 2 64 = 2 ^ 64 := by decide
  unfold rowNumbers
  dsimp only
  rw [hboard, hpower, hword, if_neg (by simp only [Bool.or_eq_true, decide_eq_true_eq]; omega)]
  apply congrArg Except.ok
  apply List.map_congr_left
  intro k hk
  have hk := List.mem_range.mp hk
  -- less than `2 ^ 50` steps down from a number that is not negative
  apply Int.bmod_eq_of_le <;> omega

/-- The numbers of the rows are drawn beside the middles of the rows. -/
theorem rows_eq (hdrawn : margin.layout.coordinates = true) : margin.rows = .ok
    (((countDown (firstRowNumber margin.borders size margin.layout.window.rowCount)
      margin.layout.window.rowCount).zip margin.layout.rowMiddles).flatMap fun pair =>
        rowLabel margin.font pair.1 pair.2) := by
  have hlength := length_countDown (firstRowNumber margin.borders size
    margin.layout.window.rowCount) margin.layout.window.rowCount
  unfold rows
  simp only [bind_eq_ok]
  refine ⟨_, labelSize_eq h.height_le, _, rowNumbers_eq h hboard hsize, _, firstBaseline_eq h, _,
    mapM_eq_ok_map (g := fun pair => rowLabel margin.font pair.1
      (margin.layout.rowCenter (margin.layout.window.firstRow + pair.2))) ?_, ?_⟩
  · rintro ⟨number, k⟩ hmem
    have hk : k < margin.layout.window.rowCount := hlength ▸ List.snd_lt_of_mem_zipIdx hmem
    dsimp only
    rw [numberX_eq h.width_le, baseline_eq h hdrawn hk]
    rfl
  · rw [Layout.rowMiddles, zip_map_range hlength.le, List.flatMap_map]
    exact congrArg Except.ok (List.flatMap_def ..).symm

/-- The names of the columns are drawn above the middles of the columns. -/
theorem columns_eq : margin.columns = .ok
    ((((alphabet.drop (firstColumnIndex margin.borders size
      margin.layout.window.columnCount)).take margin.layout.window.columnCount).zip
        margin.layout.columnMiddles).flatMap fun pair =>
          columnLabel margin.font pair.1 pair.2) := by
  obtain ⟨centers, hcenters⟩ := Layout.exists_centers h.height_le h.width_le h.ofGrid
  have hwidth := h.width_le
  have hbound : size < Numeral.bound :=
    Numeral.lt_bound 19 (hsize.trans (by decide)) (by decide)
  have hlength : margin.columnNames.length ≤ margin.layout.window.columnCount := by
    rw [columnNames, List.length_take]
    exact min_le_left _ _
  have hshown : (margin.columnNames.zipIdx.flatMap fun pair =>
      Shape.label (centers.x pair.2 - .finite (margin.font.width / 2)) (.finite 18) [pair.1]
        Palette.black Palette.coordinateClass (.finite (margin.font.height / 2))) =
      (margin.columnNames.zip margin.layout.columnMiddles).flatMap fun pair =>
        columnLabel margin.font pair.1 pair.2 := by
    rw [Layout.columnMiddles, zip_map_range hlength, List.flatMap_map]
    apply List.flatMap_congr
    rintro ⟨name, k⟩ hmem
    have hk := (List.snd_lt_of_mem_zipIdx hmem).trans_le hlength
    dsimp only
    rw [nameX_eq h hcenters hk]
    rfl
  rw [← columnLabels_eq, ← hboard]
  unfold columns
  simp only [bind_eq_ok]
  refine ⟨_, labelSize_eq h.height_le, centers, hcenters, _, Binary64.halfOf_natCast (by omega), _,
    Binary64.ofInt_natCast (n := 18) (by norm_num), ?_⟩
  cases hindex : margin.unlabelled? with
  | none => exact congrArg Except.ok hshown
  | some index =>
    refine bind_eq_ok.mpr ⟨(), ?_, congrArg Except.ok hshown⟩
    exact Numeral.checkWritable_eq_ok.mpr (unlabelled?_lt hbound hboard hindex)

end Places

end Margin

theorem coordinates_eq_append {margin : Margin} {rows columns : Markup}
    (hdrawn : margin.layout.coordinates = true) (hrows : margin.rows = .ok rows)
    (hcolumns : margin.columns = .ok columns) : coordinates margin = .ok (rows ++ columns) := by
  rw [coordinates, if_pos hdrawn, hrows, hcolumns]
  rfl

/-! ### The rest of a document -/

/-- The tag that starts a coordinate. -/
def isCoordinate : Piece → Bool
  | .start name attributes =>
    name = "text".toList && attributes.contains (attr "class" Palette.coordinateClass)
  | _ => false

/-- There is no coordinate in a stretch of a document. -/
def Unnumbered (markup : Markup) : Prop :=
  ∀ piece ∈ markup, isCoordinate piece = false

theorem Unnumbered.append {a b : Markup} (ha : Unnumbered a) (hb : Unnumbered b) :
    Unnumbered (a ++ b) := by
  intro piece hpiece
  obtain hpiece | hpiece := List.mem_append.mp hpiece
  · exact ha piece hpiece
  · exact hb piece hpiece

theorem Unnumbered.flatten {parts : List Markup} (h : ∀ part ∈ parts, Unnumbered part) :
    Unnumbered parts.flatten := by
  intro piece hpiece
  obtain ⟨part, hpart, hpiece⟩ := List.mem_flatten.mp hpiece
  exact h part hpart piece hpiece

theorem unnumbered_nil : Unnumbered [] := nofun

theorem unnumbered_data (text : List Char) : Unnumbered [.data text] := by
  intro piece hpiece
  rw [List.mem_singleton.mp hpiece]
  rfl

theorem Unnumbered.line {name : String} {attributes : List Attribute} {content : Markup}
    (htag : isCoordinate (.start name.toList attributes) = false) (h : Unnumbered content) :
    Unnumbered (Markup.line name attributes content) := by
  intro piece hpiece
  simp only [Markup.line, Markup.inline, List.mem_append, List.mem_cons, List.not_mem_nil,
    or_false] at hpiece
  obtain ((rfl | hpiece) | rfl) | rfl := hpiece
  · exact htag
  · exact h piece hpiece
  · rfl
  · rfl

theorem unnumbered_leaf (name : String) (attributes : List Attribute) :
    Unnumbered (leaf name attributes) := by
  intro piece hpiece
  simp only [leaf, List.mem_cons, List.not_mem_nil, or_false] at hpiece
  obtain rfl | rfl := hpiece <;> rfl

theorem unnumbered_mark (x y radius : Binary64) (color : List Char) (mark : Mark) :
    Unnumbered (Shape.mark x y radius color mark) := by
  cases mark with
  | circle => exact (unnumbered_leaf _ _).append (unnumbered_leaf _ _)
  | cross => exact (unnumbered_leaf _ _).append (unnumbered_leaf _ _)
  | _ => exact unnumbered_leaf _ _

theorem unnumbered_intersection (x y radius : Binary64) (color : List Char) (closed : Sides) :
    Unnumbered (Shape.intersection x y radius color closed) := by
  have hside (side : Bool) (x1 y1 x2 y2 : Binary64) :
      Unnumbered (if side then [] else Shape.segment x1 y1 x2 y2 color) := by
    split
    · exact unnumbered_nil
    · exact unnumbered_leaf _ _
  exact (((hside _ _ _ _ _).append (hside _ _ _ _ _)).append (hside _ _ _ _ _)).append
    (hside _ _ _ _ _)

theorem unnumbered_label (x y : Binary64) (text color : List Char) (size : Binary64) :
    Unnumbered (Shape.label x y text color Palette.markClass size) :=
  .line rfl (unnumbered_data _)

namespace Scene

variable {scene : Scene} {x y : Binary64} {markup : Markup}

theorem unnumbered_centered {text color : List Char}
    (h : scene.centered text color x y = .ok markup) : Unnumbered markup := by
  obtain ⟨left, top, size, rfl⟩ := exists_label_of_centered h
  exact unnumbered_label left top text color size

theorem unnumbered_cell {placed : Placed} (h : scene.cell placed x y = .ok markup) :
    Unnumbered markup := by
  have hstone (color : Color) : Unnumbered (scene.plainStone color x y) := unnumbered_leaf _ _
  have hpoint : Unnumbered (scene.point placed.row placed.column x y) :=
    unnumbered_intersection _ _ _ _ _
  unfold cell at h
  split at h
  case h_1 color mark _ =>
    cases h
    apply (hstone color).append
    cases mark with
    | none => exact unnumbered_nil
    | some mark => exact unnumbered_mark _ _ _ _ _
  case h_2 star _ =>
    cases h
    apply hpoint.append
    split
    · exact unnumbered_mark _ _ _ _ _
    · exact unnumbered_nil
  case h_3 mark _ =>
    cases h
    exact hpoint.append (unnumbered_mark _ _ _ _ _)
  case h_4 number _ =>
    obtain ⟨label, -, h⟩ := bind_eq_ok.mp h
    obtain ⟨text, htext, h⟩ := bind_eq_ok.mp h
    cases h
    exact (hstone _).append (unnumbered_centered htext)
  case h_5 _ =>
    obtain ⟨letter, hletter, h⟩ := bind_eq_ok.mp h
    obtain ⟨text, htext, hletter⟩ := bind_eq_ok.mp hletter
    cases h
    cases hletter
    exact hpoint.append ((unnumbered_leaf _ _).append (unnumbered_centered htext))
  all_goals
    cases h
    exact unnumbered_nil

theorem unnumbered_body (h : scene.body = .ok markup) : Unnumbered markup := by
  obtain ⟨centers, -, h⟩ := bind_eq_ok.mp h
  obtain ⟨pieces, hpieces, h⟩ := bind_eq_ok.mp h
  cases h
  apply Unnumbered.flatten
  exact forall_mem_mapM hpieces fun placed _ piece hpiece => unnumbered_cell hpiece

theorem unnumbered_overlay (h : scene.overlay = .ok markup) : Unnumbered markup := by
  obtain ⟨centers, -, h⟩ := bind_eq_ok.mp h
  cases h
  apply Unnumbered.flatten
  intro part hpart
  obtain ⟨placed, -, rfl⟩ := List.mem_map.mp hpart
  dsimp only
  unfold linked
  split
  · exact .line rfl ((unnumbered_data _).append (unnumbered_leaf _ _))
  · exact unnumbered_nil

end Scene

theorem unnumbered_background {layout : Layout} {markup : Markup}
    (h : background layout = .ok markup) : Unnumbered markup := by
  obtain ⟨zero, -, h⟩ := bind_eq_ok.mp h
  obtain ⟨width, -, h⟩ := bind_eq_ok.mp h
  obtain ⟨height, -, h⟩ := bind_eq_ok.mp h
  cases h
  exact unnumbered_leaf _ _

theorem unnumbered_openDocument {width height : ℤ} {title : List Char} {markup : Markup}
    (h : Shape.openDocument width height title = .ok markup) : Unnumbered markup := by
  obtain ⟨-, rfl⟩ := Shape.openDocument_eq_ok.mp h
  intro piece hpiece
  obtain rfl | rfl | hpiece := by simpa only [List.mem_cons] using hpiece
  · rfl
  · rfl
  · unfold heading at hpiece
    split at hpiece
    · exact unnumbered_nil piece hpiece
    · exact Unnumbered.line rfl (unnumbered_data _) piece hpiece

end Drawing

namespace Diagram

open Drawing

variable {text : List Char} {font : Font} {diagram : Diagram} {board : Board}

theorem isOrdinary_of_ofText (h : ofText text font = .ok diagram)
    (hboard : diagram.board? = some board) (hheight : font.height ≤ 2 ^ 24)
    (hwidth : font.width ≤ 2 ^ 24) (hwide : board.layout.width < 2 ^ 50)
    (hhigh : board.layout.height < 2 ^ 50) :
    board.layout.IsOrdinary board.grid diagram.font diagram.header.coordinates := by
  obtain ⟨rfl, -, hfound⟩ := ofBody_of_ofText h hboard
  obtain ⟨hgrid, hlayout, -⟩ := Board.ofBody_eq_ok.mp hfound
  have hframe := Grid.isFrame_of_frame (Grid.ofBody_eq_ok.mp hgrid).1
  have hwindow := Layout.window_of_ofGrid hlayout
  exact ⟨hlayout, hheight, hwidth, hwide, hhigh, hwindow ▸ hframe.rows_le,
    hwindow ▸ hframe.columns_le⟩

section Picture

variable {requested : Bool} {labels : Markup}
  (h : board.layout.IsOrdinary board.grid diagram.font requested)
  (hboard : diagram.board? = some board)
  (hlabels : coordinates ⟨board.layout, board.grid.borders, diagram.header.boardSize,
    diagram.font⟩ = .ok labels)
include hboard hlabels

theorem picture_eq_append {picture : Picture} (hpicture : diagram.picture = .ok picture) :
    ∃ before, Unnumbered before ∧ picture.markup = before ++ labels ++ Shape.closeDocument := by
  unfold Diagram.picture at hpicture
  rw [toOption_eq_some.mp hboard] at hpicture
  obtain ⟨background, hbackground, hpicture⟩ := bind_eq_ok.mp hpicture
  obtain ⟨-, -, hpicture⟩ := bind_eq_ok.mp hpicture
  obtain ⟨links, hlinks, hpicture⟩ := bind_eq_ok.mp hpicture
  obtain ⟨body, hbody, hpicture⟩ := bind_eq_ok.mp hpicture
  obtain ⟨found, hfound, hpicture⟩ := bind_eq_ok.mp hpicture
  obtain ⟨opening, hopening, hpicture⟩ := bind_eq_ok.mp hpicture
  obtain rfl : found = labels := Except.ok.inj (hfound.symm.trans hlabels)
  cases hpicture
  refine ⟨opening ++ (background ++ links ++ body), ?_, by simp [Sections.assemble]⟩
  exact (unnumbered_openDocument hopening).append (((unnumbered_background hbackground).append
    (Scene.unnumbered_overlay hlinks)).append (Scene.unnumbered_body hbody))

include h

theorem exists_picture_of_body {body : Markup} (hbody : (diagram.scene board).body = .ok body) :
    ∃ picture, diagram.picture = .ok picture := by
  have hwide : board.layout.width < Binary64.tooLarge :=
    Binary64.lt_tooLarge (h.wide.le.trans (by norm_num))
  have hhigh : board.layout.height < Binary64.tooLarge :=
    Binary64.lt_tooLarge (h.high.le.trans (by norm_num))
  obtain ⟨background, hbackground⟩ := exists_background.mpr ⟨hwide, hhigh⟩
  obtain ⟨size, hlabel, -⟩ := (diagram.scene board).exists_labelSize h.height_le
  have hlinks := @Scene.overlay_eq_places (diagram.scene board) requested h.ofGrid h.height_le
    h.width_le h.wide h.high
  unfold Diagram.picture
  rw [toOption_eq_some.mp hboard]
  unfold Drawing.picture
  simp only [exists_bind_eq_ok]
  exact ⟨background, hbackground, _, hlabel, _, hlinks, body, hbody, labels, hlabels, _,
    Shape.openDocument_eq_ok.mpr ⟨⟨lt_bound_of_lt_tooLarge hwide,
      lt_bound_of_lt_tooLarge hhigh⟩, rfl⟩, _, rfl⟩

end Picture

/-- Coordinates name the rows and columns of the board that are shown, one for each as far as there
are names, and each label stands beside or above the middle of its own row or column.  A document
has these coordinates, at its end, and no others. -/
theorem coordinates_line_up (h : ofText text font = .ok diagram)
    (hboard : diagram.board? = some board) (hdrawn : board.layout.coordinates = true)
    (hsize : diagram.header.boardSize < 2 ^ 63) (hheight : font.height ≤ 2 ^ 24)
    (hwidth : font.width ≤ 2 ^ 24) (hwide : board.layout.width < 2 ^ 50)
    (hhigh : board.layout.height < 2 ^ 50) :
    ∃ numbers names first ys xs labels,
      NumbersRows board.grid.borders diagram.header.boardSize board.layout.window.rowCount
        numbers ∧
      NamesColumns board.grid.borders diagram.header.boardSize board.layout.window.columnCount
        first names ∧
      (board.layout.rowCenters = .ok (ys.map .finite) ∧
        ys.length = board.layout.window.rowCount) ∧
      (board.layout.columnCenters = .ok (xs.map .finite) ∧
        xs.length = board.layout.window.columnCount) ∧
      labels = ((numbers.zip ys).flatMap fun pair => rowLabel font pair.1 pair.2) ++
        ((names.zip xs).flatMap fun pair => columnLabel font pair.1 pair.2) ∧
      coordinates ⟨board.layout, board.grid.borders, diagram.header.boardSize, font⟩ =
        .ok labels ∧
      (∀ body, (diagram.scene board).body = .ok body →
        ∃ picture, diagram.picture = .ok picture) ∧
      ∀ picture, diagram.picture = .ok picture →
        ∃ before, Unnumbered before ∧
          picture.markup = before ++ labels ++ Shape.closeDocument := by
  obtain ⟨rfl, -, -⟩ := ofBody_of_ofText h hboard
  have hordinary := isOrdinary_of_ofText h hboard hheight hwidth hwide hhigh
  obtain ⟨hhorizontal, hvertical, -, -⟩ := hordinary.of_coordinates hdrawn
  obtain ⟨hys, hxs⟩ := hordinary.centers_eq_middles
  let margin : Margin :=
    ⟨board.layout, board.grid.borders, diagram.header.boardSize, diagram.font⟩
  have hrows := @Margin.rows_eq margin board.grid _ hordinary _ rfl hsize hdrawn
  have hcolumns := @Margin.columns_eq margin board.grid _ hordinary _ rfl hsize
  have hlabels := coordinates_eq_append hdrawn hrows hcolumns
  exact ⟨_, _, _, board.layout.rowMiddles, board.layout.columnMiddles, _,
    numbersRows_countDown hordinary.rowCount_pos hhorizontal,
    namesColumns_take hordinary.columnCount_pos hvertical, ⟨hys, by simp [Layout.rowMiddles]⟩,
    ⟨hxs, by simp [Layout.columnMiddles]⟩, rfl, hlabels,
    fun _ hbody => exists_picture_of_body hordinary hboard hlabels hbody,
    fun _ hpicture => picture_eq_append hboard hlabels hpicture⟩

/-- The bottom right corner of a board of five rows and columns: its rows are the last two, and its
columns have the fourth and fifth name. -/
theorem coordinates_line_up_corner :
    let corner := "$$c5\n$$ ..|\n$$ .X|\n$$ --+".toList
    Font.default.height ≤ 2 ^ 24 ∧ Font.default.width ≤ 2 ^ 24 ∧
    ∃ diagram board picture, ofText corner .default = .ok diagram ∧
      diagram.board? = some board ∧ board.layout.coordinates = true ∧
      diagram.header.boardSize < 2 ^ 63 ∧ board.layout.width < 2 ^ 50 ∧
      board.layout.height < 2 ^ 50 ∧ diagram.picture = .ok picture ∧
      ∃ before upper lower left right,
        board.layout.rowCenters = .ok [.finite upper, .finite lower] ∧
        board.layout.columnCenters = .ok [.finite left, .finite right] ∧ Unnumbered before ∧
        picture.markup = before ++
          (rowLabel .default 2 upper ++ rowLabel .default 1 lower ++
            (columnLabel .default 'D' left ++ columnLabel .default 'E' right)) ++
          Shape.closeDocument := by
  intro corner
  have hheight : Font.default.height ≤ 2 ^ 24 := by decide
  have hwidth : Font.default.width ≤ 2 ^ 24 := by decide
  have hread : (ofText corner .default).toOption.any (fun diagram =>
      diagram.picture.toOption.isSome && diagram.header.boardSize = 5 &&
      diagram.board?.any fun board => board.layout.coordinates && !board.grid.borders.left &&
        board.grid.borders.bottom && board.layout.window.rowCount = 2 &&
        board.layout.window.columnCount = 2 && board.layout.width < 100 &&
        board.layout.height < 100) = true := by
    decide +kernel
  simp only [Option.any_eq_true, Bool.and_eq_true, Bool.not_eq_true', decide_eq_true_eq,
    toOption_eq_some, Option.isSome_iff_exists] at hread
  obtain ⟨diagram, hdiagram, ⟨⟨picture, hpicture⟩, hsize⟩, board, hboard,
    ⟨⟨⟨⟨⟨hdrawn, hleft⟩, hbottom⟩, hrows⟩, hcolumns⟩, hwide⟩, hhigh⟩ := hread
  obtain ⟨numbers, names, first, ys, xs, labels, hnumbers, hnames, ⟨hys, hrowLength⟩,
    ⟨hxs, hcolumnLength⟩, rfl, -, -, hshown⟩ := coordinates_line_up hdiagram hboard hdrawn
      (by omega) hheight hwidth (by omega) (by omega)
  rw [hrows] at hnumbers hrowLength
  rw [hcolumns, hsize] at hnames
  rw [hcolumns] at hcolumnLength
  obtain ⟨upper, lower, rfl⟩ := List.length_eq_two.mp hrowLength
  obtain ⟨left, right, rfl⟩ := List.length_eq_two.mp hcolumnLength
  obtain ⟨a, b, rfl⟩ := List.length_eq_two.mp hnumbers.length
  obtain rfl : b = 1 := Option.some.inj (hnumbers.last hbottom)
  have ha := hnumbers.descending 0 a 1 rfl rfl
  obtain rfl : a = 2 := by omega
  obtain ⟨c, d, rfl⟩ := List.length_eq_two.mp (hnames.last hleft (by omega) (by omega)).1
  have hname := hnames.name
  rw [hnames.right hleft] at hname
  obtain rfl : c = 'D' := Option.some.inj (hname 0 (by simp))
  obtain rfl : d = 'E' := Option.some.inj (hname 1 (by simp))
  obtain ⟨before, hbefore, hmarkup⟩ := hshown picture hpicture
  refine ⟨hheight, hwidth, diagram, board, picture, hdiagram, hboard, hdrawn, by omega, by omega,
    by omega, hpicture, before, upper, lower, left, right, hys, hxs, hbefore, ?_⟩
  simpa using hmarkup

end Diagram

end BoardDiagram
