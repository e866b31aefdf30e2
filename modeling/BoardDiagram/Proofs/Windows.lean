import BoardDiagram.Proofs.Reading

/-! The window of a grid: what it is, which cells are visible in it, and which cells it leaves out.
The edges of the board are looked for at four places only, and where one is found a whole row or
column is taken for the edge.  `contains_iff_not_onEdge` says that this is all that is left out. -/

namespace BoardDiagram

namespace Window

/-- A row and column lie in the window. -/
def Contains (window : Window) (row column : Nat) : Prop :=
  window.firstRow ≤ row ∧ row ≤ window.lastRow ∧
    window.firstColumn ≤ column ∧ column ≤ window.lastColumn

instance (window : Window) (row column : Nat) : Decidable (window.Contains row column) :=
  inferInstanceAs (Decidable (_ ∧ _))

theorem Contains.sub_lt {window : Window} {row column : Nat} (h : window.Contains row column) :
    row - window.firstRow < window.rowCount ∧ column - window.firstColumn < window.columnCount := by
  unfold Contains at h
  unfold rowCount columnCount
  omega

theorem mem_rows {window : Window} {row : Nat} :
    row ∈ window.rows ↔ window.firstRow ≤ row ∧ row ≤ window.lastRow := by
  rw [rows, List.mem_range'_1, rowCount]
  omega

theorem mem_columns {window : Window} {column : Nat} :
    column ∈ window.columns ↔ window.firstColumn ≤ column ∧ column ≤ window.lastColumn := by
  rw [columns, List.mem_range'_1, columnCount]
  omega

end Window

namespace Grid

/-- The visible cells are the cells at the places of the window. -/
theorem mem_visible {grid : Grid} {placed : Placed} :
    placed ∈ grid.visible ↔ grid.window.Contains placed.row placed.column ∧
      grid.cellAt placed.row placed.column = some placed.cell := by
  simp only [visible, List.mem_flatMap, List.mem_filterMap, Option.map_eq_some_iff,
    Window.mem_rows, Window.mem_columns]
  constructor
  · rintro ⟨row, hrow, column, hcolumn, cell, hcell, rfl⟩
    exact ⟨⟨hrow.1, hrow.2, hcolumn⟩, hcell⟩
  · rintro ⟨⟨hfirst, hlast, hcolumn⟩, hcell⟩
    exact ⟨placed.row, ⟨hfirst, hlast⟩, placed.column, hcolumn, placed.cell, hcell, rfl⟩

/-! ### How the window is found -/

/-- The first row inside the window, whose ends tell of the edges at the left and right. -/
def probeRow (rows : List (List (List Char))) (window : Window) : List (List Char) :=
  rows[window.firstRow]?.getD []

/-- A window and its edges as they are found in rows of tokens: an edge is where its token stands
at the one place that is looked at, and it takes a row or column away. -/
structure IsFrame (rows : List (List (List Char))) (window : Window) (borders : Sides) : Prop where
  top : borders.top = showsBorder (rows.head?.getD []) 1
  bottom : borders.bottom = showsBorder (rows.getLast?.getD []) 1
  left : borders.left = showsBorder (probeRow rows window) 0
  right : borders.right = (decide (1 < (probeRow rows window).length) &&
    showsBorder (probeRow rows window) ((probeRow rows window).length - 1))
  firstRow : window.firstRow = borders.top.toNat
  lastRow : window.lastRow + 1 + borders.bottom.toNat = rows.length
  firstColumn : window.firstColumn = borders.left.toNat
  lastColumn : window.lastColumn + 1 + borders.right.toNat = (probeRow rows window).length
  rows_le : window.firstRow ≤ window.lastRow
  columns_le : window.firstColumn ≤ window.lastColumn

theorem rowSpan_eq (rows : List (List (List Char))) :
    rowSpan rows = (((showsBorder (rows.head?.getD []) 1).toNat : Int),
      rows.length - 1 - ((showsBorder (rows.getLast?.getD []) 1).toNat : Int),
      showsBorder (rows.head?.getD []) 1, showsBorder (rows.getLast?.getD []) 1) := by
  unfold rowSpan
  cases showsBorder (rows.head?.getD []) 1 <;> cases showsBorder (rows.getLast?.getD []) 1 <;> rfl

theorem columnSpan_eq (tokens : List (List Char)) :
    columnSpan tokens = (((showsBorder tokens 0).toNat : Int),
      tokens.length - 1 - ((decide (1 < tokens.length) &&
        showsBorder tokens (tokens.length - 1)).toNat : Int),
      showsBorder tokens 0,
      decide (1 < tokens.length) && showsBorder tokens (tokens.length - 1)) := by
  unfold columnSpan
  dsimp only
  generalize (decide (1 < tokens.length) && showsBorder tokens (tokens.length - 1)) = right
  cases showsBorder tokens 0 <;> cases right <;> rfl

theorem isFrame_of_frame {rows : List (List (List Char))} {window : Window} {borders : Sides}
    (h : frame rows = .ok (window, borders)) : IsFrame rows window borders := by
  unfold frame at h
  simp only [rowSpan_eq, columnSpan_eq, Int.toNat_natCast] at h
  split at h
  · cases h
  split at h
  · cases h
  rename_i hempty hrows
  split at h
  · cases h
  rename_i hcolumns
  simp only [Except.ok.injEq, Prod.mk.injEq] at h
  obtain ⟨rfl, rfl⟩ := h
  refine ⟨rfl, rfl, rfl, rfl, rfl, ?_, rfl, ?_, ?_, ?_⟩
  all_goals
    dsimp only [probeRow]
    omega

/-! ### What the window leaves out -/

/-- A place lies on a line that is taken for an edge of the board: on the first or last row if the
second cell of that row is of the edge, or on the first or last of the columns if the cell of that
column in the first row of the window is. -/
def OnEdge (grid : Grid) (columns row column : Nat) : Prop :=
  (row = 0 ∧ grid.isBorderAt row 1 = true) ∨
    (row + 1 = grid.rows.length ∧ grid.isBorderAt row 1 = true) ∨
    (column = 0 ∧ grid.isBorderAt grid.window.firstRow column = true) ∨
    (column + 1 = columns ∧ grid.isBorderAt grid.window.firstRow column = true)

instance (grid : Grid) (columns row column : Nat) : Decidable (grid.OnEdge columns row column) :=
  inferInstanceAs (Decidable (_ ∨ _))

/-- A flag at the start leaves out the first index. -/
theorem toNat_le_iff {flag : Bool} {i : Nat} : flag.toNat ≤ i ↔ ¬ (i = 0 ∧ flag = true) := by
  cases flag
  · simp
  · simp [Nat.one_le_iff_ne_zero]

/-- A flag at the end leaves out the last index. -/
theorem le_last_iff {flag : Bool} {i last count : Nat} (hcount : last + 1 + flag.toNat = count)
    (hi : i < count) : i ≤ last ↔ ¬ (i + 1 = count ∧ flag = true) := by
  cases flag
  · simp at hcount ⊢
    omega
  · simp at hcount ⊢
    omega

section Cells

variable {body : List Char} {grid : Grid} (h : ofBody body = .ok grid)
include h

theorem length_rows : grid.rows.length = (Row.normalize body).length := by
  have hlength := congrArg List.length (ofBody_eq_ok.mp h).2
  rwa [List.length_map, List.length_map, eq_comm] at hlength

theorem showsBorder_eq_isBorderAt (row column : Nat) :
    showsBorder ((Row.normalize body)[row]?.getD []) column = grid.isBorderAt row column := by
  rw [isBorderAt_ofBody h, tokenAt, showsBorder]
  cases (Row.normalize body)[row]? <;> simp

theorem exists_row_of_cellAt {row column : Nat} {cell : Cell}
    (hcell : grid.cellAt row column = some cell) :
    ∃ tokens, (Row.normalize body)[row]? = some tokens ∧ column < tokens.length := by
  have htoken := cellAt_ofBody h row column
  rw [hcell, Option.map_some, eq_comm, Option.map_eq_some_iff] at htoken
  obtain ⟨token, htoken, -⟩ := htoken
  obtain ⟨tokens, htokens, hcolumn⟩ := Option.bind_eq_some_iff.mp htoken
  exact ⟨tokens, htokens, (List.getElem?_eq_some_iff.mp hcolumn).1⟩

theorem top_eq_isBorderAt : grid.borders.top = grid.isBorderAt 0 1 := by
  rw [(isFrame_of_frame (ofBody_eq_ok.mp h).1).top, List.head?_eq_getElem?]
  exact showsBorder_eq_isBorderAt h 0 1

theorem bottom_eq_isBorderAt :
    grid.borders.bottom = grid.isBorderAt (grid.rows.length - 1 : Nat) 1 := by
  rw [(isFrame_of_frame (ofBody_eq_ok.mp h).1).bottom, List.getLast?_eq_getElem?, length_rows h]
  exact showsBorder_eq_isBorderAt h _ 1

theorem left_eq_isBorderAt : grid.borders.left = grid.isBorderAt grid.window.firstRow 0 :=
  (isFrame_of_frame (ofBody_eq_ok.mp h).1).left.trans (showsBorder_eq_isBorderAt h _ 0)

theorem right_eq_isBorderAt {columns : Nat}
    (hcolumns : (probeRow (Row.normalize body) grid.window).length = columns) :
    grid.borders.right =
      (decide (1 < columns) && grid.isBorderAt grid.window.firstRow (columns - 1 : Nat)) := by
  rw [(isFrame_of_frame (ofBody_eq_ok.mp h).1).right, hcolumns]
  exact congrArg (decide (1 < columns) && ·) (showsBorder_eq_isBorderAt h _ _)

/-- A cell of a grid whose rows have one length is visible unless it lies on an edge. -/
theorem contains_iff_of_ofBody {columns : Nat}
    (hcolumns : ∀ tokens ∈ Row.normalize body, tokens.length = columns) {row column : Nat}
    {cell : Cell} (hcell : grid.cellAt row column = some cell) :
    grid.window.Contains row column ↔ ¬ grid.OnEdge columns row column := by
  have hframe := isFrame_of_frame (ofBody_eq_ok.mp h).1
  have hlastRow := hframe.lastRow
  have hlastColumn := hframe.lastColumn
  obtain ⟨tokens, htokens, hcolumn⟩ := exists_row_of_cellAt h hcell
  have hrow := (List.getElem?_eq_some_iff.mp htokens).1
  rw [hcolumns tokens (List.mem_of_getElem? htokens)] at hcolumn
  have hprobe : (probeRow (Row.normalize body) grid.window).length = columns := by
    have hlt : grid.window.firstRow < (Row.normalize body).length := by
      have := hframe.rows_le
      omega
    rw [probeRow, List.getElem?_eq_getElem hlt, Option.getD_some]
    exact hcolumns _ (List.getElem_mem hlt)
  have hright := right_eq_isBorderAt h hprobe
  rw [← length_rows h] at hlastRow hrow
  rw [hprobe] at hlastColumn
  -- each side of the window leaves out its line just when the edge is there
  have habove : grid.window.firstRow ≤ row ↔ ¬ (row = 0 ∧ grid.isBorderAt row 1 = true) := by
    rw [hframe.firstRow, toNat_le_iff, top_eq_isBorderAt h]
    refine not_congr (and_congr_right ?_)
    rintro rfl
    exact Iff.rfl
  have hbelow : row ≤ grid.window.lastRow ↔
      ¬ (row + 1 = grid.rows.length ∧ grid.isBorderAt row 1 = true) := by
    rw [le_last_iff hlastRow hrow, bottom_eq_isBorderAt h]
    refine not_congr (and_congr_right fun hlast => ?_)
    rw [← hlast, Nat.add_sub_cancel]
  have hbefore : grid.window.firstColumn ≤ column ↔
      ¬ (column = 0 ∧ grid.isBorderAt grid.window.firstRow column = true) := by
    rw [hframe.firstColumn, toNat_le_iff, left_eq_isBorderAt h]
    refine not_congr (and_congr_right ?_)
    rintro rfl
    exact Iff.rfl
  have hbehind : column ≤ grid.window.lastColumn ↔
      ¬ (column + 1 = columns ∧ grid.isBorderAt grid.window.firstRow column = true) := by
    rw [le_last_iff hlastColumn hcolumn, hright]
    refine not_congr (and_congr_right fun hlast => ?_)
    rw [← hlast, Nat.add_sub_cancel, Bool.and_eq_true, decide_eq_true_eq]
    refine and_iff_right_of_imp fun hborder => ?_
    -- a single column cannot be an edge, since nothing would be left of it
    rcases Nat.eq_zero_or_pos column with rfl | hpos
    · have hfirst := hframe.firstColumn
      have hle := hframe.columns_le
      rw [(left_eq_isBorderAt h).trans hborder, Bool.toNat_true] at hfirst
      omega
    · omega
  rw [Window.Contains, OnEdge, habove, hbelow, hbefore, hbehind]
  simp only [not_or]

/-- Where the lines that are taken for edges show nothing else, every other cell is visible. -/
theorem contains_of_solid_edges {columns : Nat}
    (hcolumns : ∀ tokens ∈ Row.normalize body, tokens.length = columns)
    (hsolid : ∀ row column : Nat, ∀ cell, grid.cellAt row column = some cell →
      grid.OnEdge columns row column → cell.isBorder = true)
    {row column : Nat} {cell : Cell} (hcell : grid.cellAt row column = some cell)
    (hplayable : cell.isBorder = false) : grid.window.Contains row column := by
  refine (contains_iff_of_ofBody h hcolumns hcell).mpr fun hedge => ?_
  rw [hsolid row column cell hcell hedge] at hplayable
  cases hplayable

end Cells

end Grid

namespace Diagram

/-- Of a diagram whose rows have one length a cell is visible unless it lies on a line that is taken
for an edge of the board, whatever it shows. -/
theorem contains_iff_not_onEdge {text : List Char} {font : Font} {diagram : Diagram} {board : Board}
    {columns : Nat} (h : ofText text font = .ok diagram) (hboard : diagram.board? = some board)
    (hcolumns : ∀ tokens ∈ Row.normalize (content text).body, tokens.length = columns)
    {row column : Nat} {cell : Cell} (hcell : board.grid.cellAt row column = some cell) :
    board.grid.window.Contains row column ↔ ¬ board.grid.OnEdge columns row column := by
  obtain ⟨-, -, hfound⟩ := ofBody_of_ofText h hboard
  exact Grid.contains_iff_of_ofBody (Board.ofBody_eq_ok.mp hfound).1 hcolumns hcell

/-- The upper left corner of a board, with a stone and a letter. -/
def corner : List Char :=
  "$$\n$$ +--\n$$ |X.\n$$ |.a".toList

theorem contains_iff_not_onEdge_corner :
    ∃ diagram board, ofText corner .default = .ok diagram ∧ diagram.board? = some board ∧
      (∀ tokens ∈ Row.normalize (content corner).body, tokens.length = 3) ∧
      board.grid.cellAt 1 1 = some ⟨['X'], .stone .black none⟩ ∧ board.grid.window.Contains 1 1 ∧
      board.grid.cellAt 2 0 = some ⟨['%'], .border⟩ ∧ ¬ board.grid.window.Contains 2 0 := by
  have hread : (ofText corner .default).toOption.any (fun diagram =>
      diagram.board?.any fun board =>
        board.grid.cellAt 1 1 = some ⟨['X'], .stone .black none⟩ &&
        board.grid.cellAt 2 0 = some ⟨['%'], .border⟩ &&
        !decide (board.grid.OnEdge 3 1 1) && decide (board.grid.OnEdge 3 2 0)) = true := by
    decide +kernel
  simp only [Option.any_eq_true, Bool.and_eq_true, Bool.not_eq_true', decide_eq_true_eq,
    decide_eq_false_iff_not, toOption_eq_some] at hread
  obtain ⟨diagram, hdiagram, board, hboard, ⟨⟨hstone, hborder⟩, hinside⟩, hedge⟩ := hread
  have hrows : ∀ tokens ∈ Row.normalize (content corner).body, tokens.length = 3 := by
    decide +kernel
  exact ⟨diagram, board, hdiagram, hboard, hrows, hstone,
    (contains_iff_not_onEdge hdiagram hboard hrows hstone).mpr hinside, hborder,
    fun hvisible => (contains_iff_not_onEdge hdiagram hboard hrows hborder).mp hvisible hedge⟩

/-- A board whose first row shows the edge right of a stone. -/
def stoneByEdge : List Char :=
  "$$\n$$ X-.\n$$ ...".toList

/-- The edge right of a stone takes the whole row away, and the stone with it. -/
theorem not_contains_stone :
    ∃ diagram board, ofText stoneByEdge .default = .ok diagram ∧ diagram.isValid = true ∧
      diagram.board? = some board ∧
      (∀ tokens ∈ Row.normalize (content stoneByEdge).body, tokens.length = 3) ∧
      board.grid.cellAt 0 0 = some ⟨['X'], .stone .black none⟩ ∧
      ¬ board.grid.window.Contains 0 0 := by
  have hread : (ofText stoneByEdge .default).toOption.any (fun diagram =>
      diagram.isValid && diagram.board?.any fun board =>
        board.grid.cellAt 0 0 = some ⟨['X'], .stone .black none⟩ &&
        !decide (board.grid.window.Contains 0 0)) = true := by
    decide +kernel
  simp only [Option.any_eq_true, Bool.and_eq_true, Bool.not_eq_true', decide_eq_true_eq,
    decide_eq_false_iff_not, toOption_eq_some] at hread
  obtain ⟨diagram, hdiagram, hvalid, board, hboard, hstone, hhidden⟩ := hread
  exact ⟨diagram, board, hdiagram, hvalid, hboard, by decide +kernel, hstone, hhidden⟩

end Diagram

end BoardDiagram
