import BoardDiagram.Font
import BoardDiagram.Grid
import BoardDiagram.Number.Diagonal

/-! Where the cells of a diagram lie in its image.  The cells are squares as wide as the diagonal
of a character cell; a margin surrounds them, and coordinates take more room at the top and
left. -/

namespace BoardDiagram

/-- The side of a square: the diagonal of a character cell, rounded down. -/
def Font.diameter (font : Font) : Except Fault Nat := do
  let diagonal ← Binary64.diagonal font.height font.width
  let whole ← diagonal.floor
  return whole.toNat

/-- The room that coordinates take at the left. -/
def Font.leftMargin (font : Font) : Nat :=
  2 * font.width + 4

/-- The room that coordinates take at the top. -/
def Font.topMargin (font : Font) : Nat :=
  font.height + 2

/-- The measures of an image in pixels. -/
structure Layout where
  window : Window
  diameter : Nat
  radius : Binary64
  width : Nat
  height : Nat
  /-- The left side of the first column. -/
  offsetX : Nat
  /-- The top of the first row. -/
  offsetY : Nat
  coordinates : Bool
  deriving DecidableEq

/-- The centers of rows and columns, which lie at equal distances. -/
structure Centers where
  firstX : Binary64
  firstY : Binary64
  step : Binary64
  deriving DecidableEq

namespace Centers

/-- The center of a column, counted from the first. -/
def x (centers : Centers) (column : Nat) : Binary64 :=
  centers.firstX + centers.step * .finite column

/-- The center of a row, counted from the first. -/
def y (centers : Centers) (row : Nat) : Binary64 :=
  centers.firstY + centers.step * .finite row

end Centers

namespace Layout

/-- Coordinates are drawn when they are asked for and the diagram shows in both directions which
part of the board it is. -/
def drawsCoordinates (grid : Grid) (requested : Bool) : Bool :=
  requested && grid.borders.hasHorizontal && grid.borders.hasVertical

def ofGrid (grid : Grid) (font : Font) (requested : Bool) : Except Fault Layout := do
  let diameter ← font.diameter
  let radius ← Binary64.halfOf diameter
  let coordinates := drawsCoordinates grid requested
  let left := if coordinates then font.leftMargin else 0
  let top := if coordinates then font.topMargin else 0
  return {
    window := grid.window
    diameter
    radius
    width := diameter * grid.window.columnCount + 4 + left
    height := diameter * grid.window.rowCount + 4 + top
    offsetX := 2 + left
    offsetY := 2 + top
    coordinates }

def centers (layout : Layout) : Except Fault Centers := do
  let top ← Binary64.ofInt layout.offsetY
  let left ← Binary64.ofInt layout.offsetX
  return {
    firstX := left + layout.radius
    firstY := top + layout.radius
    step := layout.radius.double }

/-- The centers of the columns, from the left. -/
def columnCenters (layout : Layout) : Except Fault (List Binary64) := do
  let centers ← layout.centers
  return (List.range layout.window.columnCount).map centers.x

/-- The centers of the rows, from the top. -/
def rowCenters (layout : Layout) : Except Fault (List Binary64) := do
  let centers ← layout.centers
  return (List.range layout.window.rowCount).map centers.y

/-- Refuses an image that is smaller than one character cell. -/
def checkSize (layout : Layout) (font : Font) : Except Fault Unit :=
  if layout.width < font.width || layout.height < font.height then do
    Numeral.checkWritable layout.width
    Numeral.checkWritable layout.height
    Numeral.checkWritable font.width
    Numeral.checkWritable font.height
    .error (.parse (.imageTooSmall layout.width layout.height font.width font.height))
  else .ok ()

end Layout

end BoardDiagram
