import BoardDiagram.Proofs.Windows

/-! When a body has a grid, and what its window is then.  A row that is taken for an edge counts once
at the top and once at the bottom even if it is the same row, so a body may have rows and yet no
grid: `IsDegenerate` says when, without the indices that the search computes. -/

namespace BoardDiagram.Grid

/-! ### Rows and columns that are left -/

/-- The second token of the first row is of the edge. -/
def startsWithEdge (rows : List (List (List Char))) : Bool :=
  showsBorder (rows.head?.getD []) 1

/-- The second token of the last row is of the edge. -/
def endsWithEdge (rows : List (List (List Char))) : Bool :=
  showsBorder (rows.getLast?.getD []) 1

/-- A row without the edge at its start, and then without the one at its end. -/
def inner (row : List (List Char)) : List (List Char) :=
  let row := if row.head? = some Row.borderToken then row.tail else row
  if row.getLast? = some Row.borderToken then row.dropLast else row

/-- Nothing lies inside the edges: there are no rows, or none but edges, or the first of the others
has no token but edges. -/
def IsDegenerate (rows : List (List (List Char))) : Prop :=
  rows = [] ∨ rows.length ≤ (startsWithEdge rows).toNat + (endsWithEdge rows).toNat ∨
    ∃ row, rows[(startsWithEdge rows).toNat]? = some row ∧ inner row = []

theorem length_inner (row : List (List Char)) :
    (inner row).length + (showsBorder row 0).toNat +
      (decide (1 < row.length) && showsBorder row (row.length - 1)).toNat = row.length := by
  have hfirst : showsBorder row 0 = decide (row.head? = some Row.borderToken) := by
    rw [showsBorder, List.head?_eq_getElem?]
  have hlast : showsBorder row (row.length - 1) =
      decide (row.getLast? = some Row.borderToken) := by
    rw [showsBorder, List.getLast?_eq_getElem?]
  rw [hfirst, hlast, inner]
  cases row with
  | nil => rfl
  | cons t rest =>
    cases rest with
    | nil => by_cases ht : t = Row.borderToken <;> simp [ht]
    | cons u rest =>
      have hsame : (t :: u :: rest).getLast? = (u :: rest).getLast? := List.getLast?_cons_cons
      by_cases ht : t = Row.borderToken <;>
        by_cases hu : (u :: rest).getLast? = some Row.borderToken <;>
        simp [ht, hu, hsame]

theorem rowSpan_eq_edges (rows : List (List (List Char))) :
    rowSpan rows = (((startsWithEdge rows).toNat : Int),
      rows.length - 1 - ((endsWithEdge rows).toNat : Int), startsWithEdge rows,
      endsWithEdge rows) :=
  rowSpan_eq rows

theorem exists_frame_eq_error (rows : List (List (List Char))) :
    (∃ cause, frame rows = .error cause) ↔ IsDegenerate rows := by
  unfold frame IsDegenerate
  simp only [rowSpan_eq_edges, columnSpan_eq, Int.toNat_natCast]
  split
  · rename_i hempty
    exact iff_of_true ⟨_, rfl⟩ (.inl (List.isEmpty_iff.mp hempty))
  rename_i hempty
  rw [List.isEmpty_iff] at hempty
  have hpos := List.length_pos_iff.mpr hempty
  split
  · exact iff_of_true ⟨_, rfl⟩ (.inr (.inl (by omega)))
  rename_i hrows
  have hlt : (startsWithEdge rows).toNat < rows.length := by omega
  rw [List.getElem?_eq_getElem hlt, Option.getD_some]
  have hlength := length_inner rows[(startsWithEdge rows).toNat]
  split
  · refine iff_of_true ⟨_, rfl⟩ (.inr (.inr ⟨_, rfl, List.length_eq_zero_iff.mp ?_⟩))
    omega
  · -- what the search leaves of the row is as long as the row without its edges
    refine iff_of_false (fun ⟨_, hcause⟩ => nomatch hcause) ?_
    rintro (hnil | hle | ⟨row, hrow, hinner⟩)
    · exact hempty hnil
    · omega
    · rw [← Option.some.inj hrow] at hinner
      rw [hinner, List.length_nil] at hlength
      omega

/-! ### Rows that are looked at -/

/-- The rows that the search for edges looks at are there: the first and the last, and the first
inside the edges at the top and bottom when there is one. -/
structure FindsRows (rows : List (List (List Char))) : Prop where
  first : ∃ row, rows.head? = some row
  last : ∃ row, rows.getLast? = some row
  inside : (rowSpan rows).1 ≤ (rowSpan rows).2.1 →
    0 ≤ (rowSpan rows).1 ∧ ∃ row, rows[(rowSpan rows).1.toNat]? = some row

theorem findsRows {rows : List (List (List Char))} (h : rows ≠ []) : FindsRows rows where
  first := ⟨rows.head h, List.head?_eq_some_head h⟩
  last := ⟨rows.getLast h, List.getLast?_eq_some_getLast h⟩
  inside hle := by
    rw [rowSpan_eq_edges] at hle ⊢
    dsimp only at hle
    have hlt : (startsWithEdge rows).toNat < rows.length := by omega
    exact ⟨Int.natCast_nonneg _, _, List.getElem?_eq_getElem hlt⟩

/-! ### The window of a grid -/

/-- The cells of the first row inside the edges. -/
def firstCells (grid : Grid) : List Cell :=
  grid.rows[grid.window.firstRow]?.getD []

/-- The window lies within the grid, and leaves out just the edges that were found.  All of its
first row is there. -/
structure IsFramed (grid : Grid) : Prop where
  rows_le : grid.window.firstRow ≤ grid.window.lastRow
  lastRow_lt : grid.window.lastRow < grid.rows.length
  columns_le : grid.window.firstColumn ≤ grid.window.lastColumn
  lastColumn_lt : grid.window.lastColumn < grid.firstCells.length
  row_ne_nil : ∀ cells ∈ grid.rows, cells ≠ []
  exists_cell : ∀ column : Nat, grid.window.firstColumn ≤ column →
    column ≤ grid.window.lastColumn → ∃ cell, grid.cellAt grid.window.firstRow column = some cell
  visible_ne_nil : grid.visible ≠ []
  top : grid.borders.top = grid.isBorderAt 0 1
  bottom : grid.borders.bottom = grid.isBorderAt (grid.rows.length - 1 : Nat) 1
  left : grid.borders.left = grid.isBorderAt grid.window.firstRow 0
  right : grid.borders.right = (decide (1 < grid.firstCells.length) &&
    grid.isBorderAt grid.window.firstRow (grid.firstCells.length - 1 : Nat))
  firstRow : grid.window.firstRow = grid.borders.top.toNat
  firstColumn : grid.window.firstColumn = grid.borders.left.toNat
  lastRow : grid.window.lastRow + grid.borders.bottom.toNat + 1 = grid.rows.length
  lastColumn : grid.window.lastColumn + grid.borders.right.toNat + 1 = grid.firstCells.length

section Cells

variable {body : List Char} {grid : Grid} (h : ofBody body = .ok grid)
include h

/-- A row has as many cells as tokens. -/
theorem length_row (row : Nat) :
    (grid.rows[row]?).map List.length = ((Row.normalize body)[row]?).map List.length := by
  have hrow := congrArg (·[row]?) (ofBody_eq_ok.mp h).2
  simp only [List.getElem?_map] at hrow
  cases hcells : grid.rows[row]? with
  | none =>
    rw [hcells, Option.map_none, Option.map_eq_none_iff] at hrow
    rw [hrow]
    rfl
  | some cells =>
    rw [hcells, Option.map_some, Option.map_eq_some_iff] at hrow
    obtain ⟨tokens, htokens, hcell⟩ := hrow
    have hlength := congrArg List.length (mapM_eq_ok.mp hcell)
    rw [List.length_map, List.length_map] at hlength
    rw [htokens, Option.map_some, Option.map_some, hlength]

theorem length_firstCells :
    grid.firstCells.length = (probeRow (Row.normalize body) grid.window).length := by
  have hrow := length_row h grid.window.firstRow
  rw [firstCells, probeRow]
  cases hcells : grid.rows[grid.window.firstRow]? with
  | none =>
    rw [hcells, Option.map_none, eq_comm, Option.map_eq_none_iff] at hrow
    rw [hrow]
    rfl
  | some cells =>
    rw [hcells, Option.map_some, eq_comm, Option.map_eq_some_iff] at hrow
    obtain ⟨tokens, htokens, hlength⟩ := hrow
    rw [htokens]
    exact hlength.symm

theorem ne_nil_of_mem_rows {cells : List Cell} (hcells : cells ∈ grid.rows) : cells ≠ [] := by
  obtain ⟨row, hrow⟩ := List.mem_iff_getElem?.mp hcells
  have hlength := length_row h row
  rw [hrow, Option.map_some, eq_comm, Option.map_eq_some_iff] at hlength
  obtain ⟨tokens, htokens, hlength⟩ := hlength
  have hmem := List.mem_of_getElem? htokens
  rw [Row.normalize, List.mem_filter] at hmem
  rintro rfl
  rw [List.length_nil, List.length_eq_zero_iff] at hlength
  rw [hlength] at hmem
  exact Bool.false_ne_true hmem.2

omit h in
theorem exists_cell_of_lt {column : Nat} (hcolumn : column < grid.firstCells.length) :
    ∃ cell, grid.cellAt grid.window.firstRow column = some cell := by
  rw [firstCells] at hcolumn
  rw [cellAt_ofNat]
  cases hcells : grid.rows[grid.window.firstRow]? with
  | none =>
    rw [hcells] at hcolumn
    contradiction
  | some cells =>
    rw [hcells] at hcolumn
    exact ⟨cells[column], List.getElem?_eq_getElem hcolumn⟩

theorem isFramed_of_ofBody : grid.IsFramed := by
  have hframe := isFrame_of_frame (ofBody_eq_ok.mp h).1
  have hrows := length_rows h
  have hcolumns := length_firstCells h
  have hlastRow := hframe.lastRow
  have hlastColumn := hframe.lastColumn
  rw [← hrows] at hlastRow
  rw [← hcolumns] at hlastColumn
  have hcell : ∀ column : Nat, column ≤ grid.window.lastColumn →
      ∃ cell, grid.cellAt grid.window.firstRow column = some cell := fun column hle =>
    exists_cell_of_lt (by omega)
  obtain ⟨cell, hfirst⟩ := hcell grid.window.firstColumn hframe.columns_le
  have hvisible : ⟨grid.window.firstRow, grid.window.firstColumn, cell⟩ ∈ grid.visible :=
    mem_visible.mpr ⟨⟨Nat.le_refl _, hframe.rows_le, Nat.le_refl _, hframe.columns_le⟩, hfirst⟩
  constructor
  case rows_le => exact hframe.rows_le
  case lastRow_lt => omega
  case columns_le => exact hframe.columns_le
  case lastColumn_lt => omega
  case row_ne_nil => exact fun cells hcells => ne_nil_of_mem_rows h hcells
  case exists_cell => exact fun column _ hle => hcell column hle
  case visible_ne_nil => exact List.ne_nil_of_mem hvisible
  case top => exact top_eq_isBorderAt h
  case bottom => exact bottom_eq_isBorderAt h
  case left => exact left_eq_isBorderAt h
  case right => exact right_eq_isBorderAt h hcolumns.symm
  case firstRow => exact hframe.firstRow
  case firstColumn => exact hframe.firstColumn
  case lastRow => omega
  case lastColumn => omega

end Cells

theorem exists_parse_iff_isDegenerate (body : List Char) :
    (∃ cause, ofBody body = .error (.parse cause)) ↔ IsDegenerate (Row.normalize body) := by
  simp only [ofBody_eq_parse, exists_frame_eq_error]

/-- A body whose numbers are not too long has a grid or is degenerate, and its rows are looked at
only where there are some.  The window of a grid lies within it. -/
theorem ofBody_framed {body : List Char}
    (hdigits : ∀ tokens ∈ Row.normalize body, ∀ token ∈ tokens,
      token.all Char.isDigit = true → token.length ≤ digitLimit) :
    ((∃ grid, ofBody body = .ok grid) ∨ ∃ cause, ofBody body = .error (.parse cause)) ∧
    (Row.normalize body ≠ [] → FindsRows (Row.normalize body)) ∧
    (∀ grid, ofBody body = .ok grid → grid.IsFramed) ∧
    ((∃ cause, ofBody body = .error (.parse cause)) ↔ IsDegenerate (Row.normalize body)) := by
  refine ⟨?_, findsRows, fun _ => isFramed_of_ofBody, exists_parse_iff_isDegenerate body⟩
  cases hframe : frame (Row.normalize body) with
  | error cause => exact .inr ⟨cause, ofBody_eq_parse.mpr hframe⟩
  | ok found => exact .inl ((exists_ofBody hframe).mpr hdigits)

/-- The edge right of a single row's first token stands both above and below everything. -/
theorem ofBody_framed_corner :
    let corner := "+--\n|X.\n|.12".toList
    let lone := "X-.".toList
    (∀ body ∈ [corner, lone], ∀ tokens ∈ Row.normalize body, ∀ token ∈ tokens,
      token.all Char.isDigit = true → token.length ≤ digitLimit) ∧
    (Row.normalize corner ≠ [] ∧ FindsRows (Row.normalize corner)) ∧
    (∃ grid, ofBody corner = .ok grid ∧ grid.IsFramed ∧ grid.window = ⟨1, 2, 1, 2⟩) ∧
    ¬ IsDegenerate (Row.normalize corner) ∧ IsDegenerate (Row.normalize lone) ∧
    ∃ cause, ofBody lone = .error (.parse cause) := by
  intro corner lone
  have hdigits : ∀ body ∈ [corner, lone], ∀ tokens ∈ Row.normalize body, ∀ token ∈ tokens,
      token.all Char.isDigit = true → token.length ≤ digitLimit := by decide +kernel
  have hrows : Row.normalize corner ≠ [] := by decide +kernel
  have hread : (ofBody corner).toOption.any (fun grid => grid.window = ⟨1, 2, 1, 2⟩) = true := by
    decide +kernel
  simp only [Option.any_eq_true, decide_eq_true_eq, toOption_eq_some] at hread
  obtain ⟨grid, hgrid, hwindow⟩ := hread
  obtain ⟨-, hfinds, hframed, hrefused⟩ := ofBody_framed (hdigits corner (by simp))
  have hlone : IsDegenerate (Row.normalize lone) := .inr (.inl (by decide +kernel))
  refine ⟨hdigits, ⟨hrows, hfinds hrows⟩, ⟨grid, hgrid, hframed grid hgrid, hwindow⟩, ?_, hlone,
    (ofBody_framed (hdigits lone (by simp))).2.2.2.mpr hlone⟩
  intro hdegenerate
  obtain ⟨cause, hcause⟩ := hrefused.mpr hdegenerate
  rw [hgrid] at hcause
  cases hcause

end BoardDiagram.Grid
