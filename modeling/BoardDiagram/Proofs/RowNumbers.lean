import BoardDiagram.Proofs.Coordinates
import Mathlib.Data.List.Forall2

/-! Which numbers the rows of a diagram get.  A diagram that shows the bottom edge of the board
counts down from its own height to one.  One that shows the top edge alone counts down from the size
of the board, for as many rows as it has, and does not stop at one: a row past the last row of the
board gets zero.  That is the only way for a row to get a number that no row can have. -/

namespace BoardDiagram

theorem forall₂_of_mapM {ε α β : Type} {f : α → Except ε β} {R : α → β → Prop} {as : List α}
    {bs : List β} (h : as.mapM f = .ok bs) (hf : ∀ a ∈ as, ∀ b, f a = .ok b → R a b) :
    List.Forall₂ R as bs := by
  induction as generalizing bs with
  | nil =>
    cases h
    exact .nil
  | cons a as ih =>
    rw [List.mapM_cons] at h
    obtain ⟨b, hb, h⟩ := bind_eq_ok.mp h
    obtain ⟨rest, hrest, h⟩ := bind_eq_ok.mp h
    cases h
    refine .cons (hf a List.mem_cons_self b hb) (ih hrest ?_)
    exact fun x hx => hf x (List.mem_cons_of_mem a hx)

namespace Drawing

open Markup

/-- The number of a row of the board, or of a row of the diagram if that has more of them. -/
def IsRowNumber (boardSize rows : ℕ) (number : ℤ) : Prop :=
  1 ≤ number ∧ number ≤ max boardSize rows

/-- A coordinate that shows a number. -/
def IsNumberLabel (number : ℤ) (label : Markup) : Prop :=
  ∃ x y size, label =
    caption x y "rgb(0, 0, 0)".toList "coordClass".toList size (decimal number)

/-- Coordinates that show numbers, one each, in their order. -/
def ShowNumbers (numbers : List ℤ) (labels : Markup) : Prop :=
  ∃ parts, labels = parts.flatten ∧ List.Forall₂ IsNumberLabel numbers parts

namespace Margin

variable {margin : Margin} {numbers : List ℤ}

theorem showNumbers_rows {labels : Markup} (h : margin.rows = .ok labels) :
    ∃ numbers, margin.rowNumbers = .ok numbers ∧ ShowNumbers numbers labels := by
  obtain ⟨size, -, h⟩ := bind_eq_ok.mp h
  obtain ⟨numbers, hnumbers, h⟩ := bind_eq_ok.mp h
  obtain ⟨first, -, h⟩ := bind_eq_ok.mp h
  obtain ⟨parts, hparts, h⟩ := bind_eq_ok.mp h
  cases h
  have hlabels : List.Forall₂ (fun pair => IsNumberLabel pair.1) numbers.zipIdx parts := by
    refine forall₂_of_mapM hparts ?_
    rintro ⟨number, k⟩ - part hpart
    obtain ⟨x, -, hpart⟩ := bind_eq_ok.mp hpart
    cases hpart
    refine ⟨x.pixels, (first + margin.layout.radius.double * .finite k).pixels, size.pixels, ?_⟩
    rw [Shape.label_eq, escape_decimal]
    rfl
  refine ⟨numbers, hnumbers, parts, rfl, ?_⟩
  rwa [← List.forall₂_map_left_iff (f := Prod.fst), List.zipIdx_map_fst] at hlabels

theorem rowNumbers_eq_ok : margin.rowNumbers = .ok numbers ↔
    (-2 ^ 63 ≤ firstRowNumber margin.borders margin.boardSize margin.layout.window.rowCount ∧
      firstRowNumber margin.borders margin.boardSize margin.layout.window.rowCount < 2 ^ 63) ∧
    numbers = (List.range margin.layout.window.rowCount).map fun (k : ℕ) =>
      (firstRowNumber margin.borders margin.boardSize margin.layout.window.rowCount - k).bmod
        (2 ^ 64) := by
  have hpower : Int.pow 2 63 = 2 ^ 63 := by decide
  have hword : Nat.pow 2 64 = 2 ^ 64 := by decide
  unfold rowNumbers
  dsimp only
  rw [hpower, hword]
  split_ifs with hrange
  · simp only [Bool.or_eq_true, decide_eq_true_eq] at hrange
    exact iff_of_false nofun fun h => by omega
  · simp only [Bool.or_eq_true, decide_eq_true_eq] at hrange
    rw [Except.ok.injEq, eq_comm]
    exact ⟨fun h => ⟨by omega, h⟩, And.right⟩

theorem length_rowNumbers (h : margin.rowNumbers = .ok numbers) :
    numbers.length = margin.layout.window.rowCount := by
  obtain ⟨-, rfl⟩ := rowNumbers_eq_ok.mp h
  rw [List.length_map, List.length_range]

/-- Rows that are not counted from the bottom edge are counted from the size of the board. -/
theorem firstRowNumber_of_bottom_eq_false {borders : Sides}
    (hhorizontal : borders.hasHorizontal = true) (hbottom : borders.bottom = false)
    (boardSize : ℤ) (rows : ℕ) : firstRowNumber borders boardSize rows = boardSize := by
  have htop : borders.top = true := by
    simpa [Sides.hasHorizontal, hbottom] using hhorizontal
  simp [firstRowNumber, hbottom, htop]

section Size

variable {size : ℕ} (hboard : margin.boardSize = size)
  (hhorizontal : margin.borders.hasHorizontal = true) (h : margin.rowNumbers = .ok numbers)
include hboard hhorizontal h

/-- The row past the last row of the board gets zero. -/
theorem rowNumbers_past_board (hbottom : margin.borders.bottom = false)
    (hmany : size < margin.layout.window.rowCount) : numbers[size]? = some 0 := by
  obtain ⟨-, rfl⟩ := rowNumbers_eq_ok.mp h
  rw [firstRowNumber_of_bottom_eq_false hhorizontal hbottom, hboard, List.getElem?_map,
    List.getElem?_range hmany, Option.map_some, sub_self]
  rfl

/-- Rows get numbers that rows can have when they are counted from the bottom edge, or when the
board has as many rows. -/
theorem isRowNumber_of_mem_rowNumbers
    (hrows : margin.borders.bottom = true ∨ margin.layout.window.rowCount ≤ size) :
    ∀ number ∈ numbers, IsRowNumber size margin.layout.window.rowCount number := by
  obtain ⟨⟨-, hhigh⟩, rfl⟩ := rowNumbers_eq_ok.mp h
  -- the first number leaves one at least for each row
  have hfirst : (margin.layout.window.rowCount : ℤ) ≤
        firstRowNumber margin.borders margin.boardSize margin.layout.window.rowCount ∧
      firstRowNumber margin.borders margin.boardSize margin.layout.window.rowCount ≤
        max size margin.layout.window.rowCount := by
    cases hbottom : margin.borders.bottom with
    | true =>
      rw [firstRowNumber, if_pos hbottom]
      omega
    | false =>
      have hle := hrows.resolve_left (ne_true_of_eq_false hbottom)
      rw [firstRowNumber_of_bottom_eq_false hhorizontal hbottom, hboard]
      omega
  intro number hnumber
  obtain ⟨k, hk, rfl⟩ := List.mem_map.mp hnumber
  have hk := List.mem_range.mp hk
  rw [Int.bmod_eq_of_le (by omega) (by omega), IsRowNumber]
  omega

theorem forall_isRowNumber_iff :
    (∀ number ∈ numbers, IsRowNumber size margin.layout.window.rowCount number) ↔
      margin.borders.bottom = true ∨ margin.layout.window.rowCount ≤ size := by
  refine ⟨fun hreal => ?_, isRowNumber_of_mem_rowNumbers hboard hhorizontal h⟩
  by_contra hrows
  simp only [not_or, Bool.not_eq_true, not_le] at hrows
  have hzero := rowNumbers_past_board hboard hhorizontal h hrows.1 hrows.2
  have hone := (hreal 0 (List.mem_of_getElem? hzero)).1
  omega

end Size

end Margin

end Drawing

namespace Diagram

open Drawing

variable {text : List Char} {font : Font} {diagram : Diagram} {board : Board}

/-- What the drawing of a diagram's coordinates depends on. -/
def margin (diagram : Diagram) (board : Board) : Margin :=
  ⟨board.layout, board.grid.borders, diagram.header.boardSize, diagram.font⟩

/-- A document has its coordinates at its end: first the numbers of the rows, and then the names of
the columns. -/
theorem exists_rows_of_picture {picture : Picture} (hboard : diagram.board? = some board)
    (hdrawn : board.layout.coordinates = true) (hpicture : diagram.picture = .ok picture) :
    ∃ before rows columns, (diagram.margin board).rows = .ok rows ∧
      (diagram.margin board).columns = .ok columns ∧ Unnumbered before ∧
      picture.markup = before ++ rows ++ columns ++ Shape.closeDocument := by
  have hlabels : ∃ labels, coordinates (diagram.margin board) = .ok labels := by
    unfold Diagram.picture at hpicture
    rw [toOption_eq_some.mp hboard] at hpicture
    obtain ⟨background, -, hpicture⟩ := bind_eq_ok.mp hpicture
    obtain ⟨-, -, hpicture⟩ := bind_eq_ok.mp hpicture
    obtain ⟨links, -, hpicture⟩ := bind_eq_ok.mp hpicture
    obtain ⟨body, -, hpicture⟩ := bind_eq_ok.mp hpicture
    obtain ⟨labels, hlabels, -⟩ := bind_eq_ok.mp hpicture
    exact ⟨labels, hlabels⟩
  obtain ⟨labels, hlabels⟩ := hlabels
  obtain ⟨before, hbefore, hmarkup⟩ := picture_eq_append hboard hlabels hpicture
  have hlayout : (diagram.margin board).layout.coordinates = true := hdrawn
  unfold coordinates at hlabels
  rw [if_pos hlayout] at hlabels
  obtain ⟨rows, hrows, hlabels⟩ := bind_eq_ok.mp hlabels
  obtain ⟨columns, hcolumns, hlabels⟩ := bind_eq_ok.mp hlabels
  cases hlabels
  exact ⟨before, rows, columns, hrows, hcolumns, hbefore, by rw [hmarkup, ← List.append_assoc]⟩

theorem hasHorizontal_of_ofText (h : ofText text font = .ok diagram)
    (hboard : diagram.board? = some board) (hdrawn : board.layout.coordinates = true) :
    board.grid.borders.hasHorizontal = true := by
  obtain ⟨-, -, hfound⟩ := ofBody_of_ofText h hboard
  obtain ⟨-, hlayout, -⟩ := Board.ofBody_eq_ok.mp hfound
  obtain ⟨diameter, radius, -, -, hfields⟩ := Layout.ofGrid_eq_ok.mp hlayout
  rw [hfields] at hdrawn
  simp only [Layout.drawsCoordinates, Bool.and_eq_true] at hdrawn
  exact hdrawn.1.2

/-- The numbers that a document shows beside its rows, one for each, are all numbers of rows exactly
when the bottom edge of the board is shown or the board has as many rows as the diagram.  Else the
row past the last row of the board is numbered zero. -/
theorem numbers_real_iff {picture : Picture} (h : ofText text font = .ok diagram)
    (hboard : diagram.board? = some board) (hdrawn : board.layout.coordinates = true)
    (hpicture : diagram.picture = .ok picture) :
    ∃ before numbers rows columns,
      picture.markup = before ++ rows ++ columns ++ Shape.closeDocument ∧ Unnumbered before ∧
      (diagram.margin board).columns = .ok columns ∧ ShowNumbers numbers rows ∧
      numbers.length = board.layout.window.rowCount ∧
      ((∀ number ∈ numbers,
          IsRowNumber diagram.header.boardSize board.layout.window.rowCount number) ↔
        board.grid.borders.bottom = true ∨
          board.layout.window.rowCount ≤ diagram.header.boardSize) ∧
      (board.grid.borders.bottom = false →
        diagram.header.boardSize < board.layout.window.rowCount →
        numbers[diagram.header.boardSize]? = some 0) := by
  obtain ⟨before, rows, columns, hrows, hcolumns, hbefore, hmarkup⟩ :=
    exists_rows_of_picture hboard hdrawn hpicture
  obtain ⟨numbers, hnumbers, hshown⟩ := Margin.showNumbers_rows hrows
  have hhorizontal := hasHorizontal_of_ofText h hboard hdrawn
  exact ⟨before, numbers, rows, columns, hmarkup, hbefore, hcolumns, hshown,
    Margin.length_rowNumbers hnumbers,
    Margin.forall_isRowNumber_iff rfl hhorizontal hnumbers,
    Margin.rowNumbers_past_board rfl hhorizontal hnumbers⟩

/-- The top right corner of a board of five rows. -/
theorem numbers_real_iff_corner :
    let corner := "$$c5\n$$ --+\n$$ ..|\n$$ .X|".toList
    ∃ diagram board picture, ofText corner .default = .ok diagram ∧
      diagram.board? = some board ∧ board.layout.coordinates = true ∧
      diagram.picture = .ok picture ∧ board.grid.borders.bottom = false ∧
      ∃ before numbers rows columns,
        picture.markup = before ++ rows ++ columns ++ Shape.closeDocument ∧
        ShowNumbers numbers rows ∧ numbers.length = 2 ∧
        ∀ number ∈ numbers, 1 ≤ number ∧ number ≤ 5 := by
  intro corner
  have hread : (ofText corner .default).toOption.any (fun diagram =>
      diagram.picture.toOption.isSome && diagram.header.boardSize = 5 &&
      diagram.board?.any fun board => board.layout.coordinates && !board.grid.borders.bottom &&
        board.layout.window.rowCount = 2) = true := by
    decide +kernel
  simp only [Option.any_eq_true, Bool.and_eq_true, Bool.not_eq_true', decide_eq_true_eq,
    toOption_eq_some, Option.isSome_iff_exists] at hread
  obtain ⟨diagram, hdiagram, ⟨⟨picture, hpicture⟩, hsize⟩, board, hboard,
    ⟨hdrawn, hbottom⟩, hrows⟩ := hread
  obtain ⟨before, numbers, rows, columns, hmarkup, -, -, hshown, hlength, hreal, -⟩ :=
    numbers_real_iff hdiagram hboard hdrawn hpicture
  refine ⟨diagram, board, picture, hdiagram, hboard, hdrawn, hpicture, hbottom, before, numbers,
    rows, columns, hmarkup, hshown, hlength.trans hrows, ?_⟩
  have hnumbers := hreal.mpr (.inr (by omega))
  rw [hsize, hrows] at hnumbers
  exact hnumbers

/-- The top left corner of a board of a single row, with two rows in it. -/
def crowdedCorner : List Char :=
  "$$c1\n$$ +--\n$$ |..\n$$ |..".toList

/-- The second row of this diagram is labelled as row zero. -/
theorem not_isRowNumber_zero :
    ∃ diagram board picture, ofText crowdedCorner .default = .ok diagram ∧
      diagram.board? = some board ∧ board.layout.coordinates = true ∧
      diagram.header.boardSize = 1 ∧ board.layout.window.rowCount = 2 ∧
      diagram.picture = .ok picture ∧
      (∃ before rows columns, picture.markup = before ++ rows ++ columns ++ Shape.closeDocument ∧
        (diagram.margin board).rows = .ok rows ∧ ShowNumbers [1, 0] rows) ∧
      ¬ ∀ number ∈ ([1, 0] : List ℤ), IsRowNumber 1 2 number := by
  have hread : (ofText crowdedCorner .default).toOption.any (fun diagram =>
      diagram.picture.toOption.isSome && diagram.header.boardSize = 1 &&
      diagram.board?.any fun board => board.layout.coordinates &&
        board.layout.window.rowCount = 2 &&
        (diagram.margin board).rowNumbers.toOption = some [1, 0]) = true := by
    decide +kernel
  simp only [Option.any_eq_true, Bool.and_eq_true, decide_eq_true_eq, toOption_eq_some,
    Option.isSome_iff_exists] at hread
  obtain ⟨diagram, hdiagram, ⟨⟨picture, hpicture⟩, hsize⟩, board, hboard,
    ⟨hdrawn, hcount⟩, hnumbers⟩ := hread
  obtain ⟨before, rows, columns, hrows, -, -, hmarkup⟩ :=
    exists_rows_of_picture hboard hdrawn hpicture
  obtain ⟨numbers, hfound, hshown⟩ := Margin.showNumbers_rows hrows
  obtain rfl : numbers = [1, 0] := Except.ok.inj (hfound.symm.trans hnumbers)
  refine ⟨diagram, board, picture, hdiagram, hboard, hdrawn, hsize, hcount, hpicture,
    ⟨before, rows, columns, hmarkup, hrows, hshown⟩, fun hreal => ?_⟩
  have hzero := (hreal 0 (by simp)).1
  omega

end Diagram

end BoardDiagram
