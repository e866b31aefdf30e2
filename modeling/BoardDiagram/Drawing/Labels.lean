import BoardDiagram.Drawing.Shape
import BoardDiagram.Layout

/-! Coordinates: numbers at the left of the rows, counted from the bottom of the board, and letters
above the columns. -/

namespace BoardDiagram.Drawing

open Shape

/-- The labels of columns, which leave out the letter I in both cases. -/
def columnLabels : List Char :=
  "ABCDEFGHJKLMNOPQRSTUVWXYZabcdefghjklmnopqrstuvwxyz123456789".toList

/-- The index of the label of the leftmost column.  A diagram that shows the right edge of the board
alone shows its last columns, as far as the board has so many. -/
def firstColumnIndex (borders : Sides) (boardSize columns : Int) : Nat :=
  if borders.left then 0
  else if borders.right then (boardSize - columns).toNat
  else 0

/-- The number of the topmost row.  A diagram that shows the bottom edge of the board counts from
there, and one that shows the top edge alone from the size of the board. -/
def firstRowNumber (borders : Sides) (boardSize rows : Int) : Int :=
  if borders.bottom then rows
  else if borders.top then boardSize
  else 0

/-- What the drawing of coordinates depends on. -/
structure Margin where
  layout : Layout
  borders : Sides
  boardSize : Int
  font : Font

namespace Margin

/-- The size of coordinates: half the character cell. -/
def labelSize (margin : Margin) : Except Fault Binary64 := do
  let height ← Binary64.ofInt margin.font.height
  return height.half

/-- The numbers of the rows, from the top.  They are words of 64 bits: the first has to be one, and
counting down wraps around. -/
def rowNumbers (margin : Margin) : Except Fault (List Int) :=
  let rows := margin.layout.window.rowCount
  let first := firstRowNumber margin.borders margin.boardSize rows
  if first < -Int.pow 2 63 || Int.pow 2 63 ≤ first then .error .outOfRange
  else .ok ((List.range rows).map fun (i : Nat) => (first - i).bmod (Nat.pow 2 64))

/-- Where the first number of a row stands, before the distance to the others is added. -/
def firstBaseline (margin : Margin) : Except Fault Binary64 := do
  let base ← Binary64.ofInt (14 + margin.font.height)
  let half ← Binary64.halfOf margin.font.height
  return base + margin.layout.radius - half

/-- Where a number starts: one of two digits or more a whole character before the others end. -/
def numberX (margin : Margin) (number : Int) : Except Fault Binary64 := do
  if 10 ≤ number then Binary64.ofInt 6
  else
    let half ← Binary64.halfOf margin.font.width
    let left ← Binary64.ofInt (6 + margin.font.width)
    return left - half

/-- The numbers of the rows as shapes. -/
def rows (margin : Margin) : Except Fault Markup := do
  let size ← margin.labelSize
  let numbers ← margin.rowNumbers
  let first ← margin.firstBaseline
  let step := margin.layout.radius.double
  let pieces ← numbers.zipIdx.mapM fun ((number, i) : Int × Nat) => do
    let x ← margin.numberX number
    return label x (first + step * .finite i) (decimal number) Palette.black
      Palette.coordinateClass size
  return pieces.flatten

/-- The index of the first column that has no label, if there is one. -/
def unlabelled? (margin : Margin) : Option Nat :=
  let columns := margin.layout.window.columnCount
  let first := firstColumnIndex margin.borders margin.boardSize columns
  let index := max first columnLabels.length
  if index < first + columns then some index else none

/-- The labels of the columns, from the left, up to the first column that has none. -/
def columnNames (margin : Margin) : List Char :=
  let columns := margin.layout.window.columnCount
  let first := firstColumnIndex margin.borders margin.boardSize columns
  (columnLabels.drop first).take columns

/-- The labels of the columns as shapes.  The index of a column without one is reported, and so has
to be a number that can be written. -/
def columns (margin : Margin) : Except Fault Markup := do
  let size ← margin.labelSize
  let centers ← margin.layout.centers
  let half ← Binary64.halfOf margin.font.width
  let top ← Binary64.ofInt 18
  match margin.unlabelled? with
  | some index => Numeral.checkWritable index
  | none => .ok ()
  return margin.columnNames.zipIdx.flatMap fun ((name, i) : Char × Nat) =>
    label (centers.x i - half) top [name] Palette.black Palette.coordinateClass size

end Margin

end BoardDiagram.Drawing
