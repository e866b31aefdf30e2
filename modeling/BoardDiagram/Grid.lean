import BoardDiagram.Cell
import BoardDiagram.Row

/-! The grid of a diagram: its cells, which edges of the board it shows, and the window of cells
inside those edges. -/

namespace BoardDiagram

/-- The sides on which something lies. -/
structure Sides where
  top : Bool := false
  bottom : Bool := false
  left : Bool := false
  right : Bool := false
  deriving DecidableEq

namespace Sides

def hasHorizontal (sides : Sides) : Bool :=
  sides.top || sides.bottom

def hasVertical (sides : Sides) : Bool :=
  sides.left || sides.right

end Sides

/-- The rows and columns of a grid that are drawn, by their first and last index. -/
structure Window where
  firstRow : Nat
  lastRow : Nat
  firstColumn : Nat
  lastColumn : Nat
  deriving DecidableEq

namespace Window

def rowCount (window : Window) : Nat :=
  window.lastRow + 1 - window.firstRow

def columnCount (window : Window) : Nat :=
  window.lastColumn + 1 - window.firstColumn

/-- The indices of the rows, from the top. -/
def rows (window : Window) : List Nat :=
  List.range' window.firstRow window.rowCount

/-- The indices of the columns, from the left. -/
def columns (window : Window) : List Nat :=
  List.range' window.firstColumn window.columnCount

end Window

/-- A diagram as cells.  Rows may differ in length. -/
structure Grid where
  rows : List (List Cell)
  window : Window
  /-- The edges of the board that the diagram shows. -/
  borders : Sides
  deriving DecidableEq

/-- A cell with its place in the grid. -/
structure Placed where
  row : Nat
  column : Nat
  cell : Cell
  deriving DecidableEq

namespace Grid

/-- The cell in a row and column, if the grid has one there. -/
def cellAt (grid : Grid) : Int → Int → Option Cell
  | .ofNat row, .ofNat column => grid.rows[row]?.bind (·[column]?)
  | _, _ => none

/-- The edge of the board is drawn in a row and column. -/
def isBorderAt (grid : Grid) (row column : Int) : Bool :=
  (grid.cellAt row column).any Cell.isBorder

/-- The sides on which a place borders on the edge of the board. -/
def edgesAt (grid : Grid) (row column : Int) : Sides where
  top := grid.isBorderAt (row - 1) column
  bottom := grid.isBorderAt (row + 1) column
  left := grid.isBorderAt row (column - 1)
  right := grid.isBorderAt row (column + 1)

/-- The cells of the window, row by row.  A short row has fewer than others. -/
def visible (grid : Grid) : List Placed :=
  grid.window.rows.flatMap fun (row : Nat) =>
    grid.window.columns.filterMap fun (column : Nat) =>
      (grid.cellAt row column).map fun cell => ⟨row, column, cell⟩

/-- A row of tokens has the edge of the board at an index. -/
def showsBorder (tokens : List (List Char)) (index : Nat) : Bool :=
  tokens[index]? = some Row.borderToken

/-- The rows inside the edges at the top and bottom, by first and last index, and whether there
are such edges.  The second token of the first and of the last row tells. -/
def rowSpan (rows : List (List (List Char))) : Int × Int × Bool × Bool :=
  let top := showsBorder (rows.head?.getD []) 1
  let bottom := showsBorder (rows.getLast?.getD []) 1
  (if top then 1 else 0, rows.length - 1 - (if bottom then 1 else 0), top, bottom)

/-- The columns inside the edges at the left and right, by first and last index, and whether there
are such edges.  The first and the last token of the first row inside tell; a single token is not
looked at twice. -/
def columnSpan (tokens : List (List Char)) : Int × Int × Bool × Bool :=
  let left := showsBorder tokens 0
  let right := 1 < tokens.length && showsBorder tokens (tokens.length - 1)
  (if left then 1 else 0, tokens.length - 1 - (if right then 1 else 0), left, right)

/-- The window inside the edges of the board, and these edges. -/
def frame (rows : List (List (List Char))) : Except ParseError (Window × Sides) :=
  if rows.isEmpty then .error .noRows
  else
    let (firstRow, lastRow, top, bottom) := rowSpan rows
    if lastRow < firstRow then .error (.emptyRowSpan firstRow lastRow)
    else
      let (firstColumn, lastColumn, left, right) :=
        columnSpan ((rows[firstRow.toNat]?).getD [])
      if lastColumn < firstColumn then .error (.emptyColumnSpan firstColumn lastColumn)
      else .ok (⟨firstRow.toNat, lastRow.toNat, firstColumn.toNat, lastColumn.toNat⟩,
        ⟨top, bottom, left, right⟩)

/-- The grid of a diagram body. -/
def ofBody (body : List Char) : Except Fault Grid := do
  let tokens := Row.normalize body
  match frame tokens with
  | .error cause => .error (.parse cause)
  | .ok (window, borders) =>
    let rows ← tokens.mapM fun row => row.mapM Cell.ofToken
    return { rows, window, borders }

end Grid

end BoardDiagram
