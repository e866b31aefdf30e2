import BoardDiagram.Drawing.Shape
import BoardDiagram.Layout
import BoardDiagram.Links

/-! The cells of a diagram as shapes: stones, points with their lines, numbers and letters, and the
areas of links. -/

namespace BoardDiagram.Drawing

open Shape

/-- What the drawing of cells depends on. -/
structure Scene where
  grid : Grid
  layout : Layout
  font : Font
  /-- The color of the moves with odd numbers. -/
  firstColor : Color := .black
  /-- The number that is shown for move one. -/
  startMove : Int := 1
  links : Links := {}

namespace Scene

/-- The size of numbers and letters: nine tenths of the character cell, rounded down. -/
def labelSize (scene : Scene) : Except Fault Int := do
  let height ← Binary64.ofInt scene.font.height
  (height * constant (9 / 10)).floor

/-- The color of a move by the parity of its number as it is written. -/
def moveColor (scene : Scene) (number : Nat) : Color :=
  if number % 2 = 1 then scene.firstColor else scene.firstColor.opponent

/-- The number that is shown for a move.  Zero as it is written is move ten. -/
def moveLabel (scene : Scene) (number : Nat) : Except Fault (List Char) :=
  Numeral.write ((if number = 0 then 10 else number : Nat) + scene.startMove - 1)

/-- A number or letter in the middle of a cell.  One of a single character starts half a character
to the left. -/
def centered (scene : Scene) (text color : List Char) (x y : Binary64) :
    Except Fault Markup := do
  let size ← scene.labelSize
  let left ← if 2 ≤ text.length then Binary64.ofInt scene.font.width
    else Binary64.halfOf scene.font.width
  let half ← Binary64.halfOf scene.font.height
  let size ← Binary64.ofInt size
  return label (x - left) (y - (half - .finite (25 / 2))) text color Palette.markClass size

/-- A stone without what is on it. -/
def plainStone (scene : Scene) (color : Color) (x y : Binary64) : Markup :=
  stone x y scene.layout.radius Palette.black (Palette.stone color)
    (some (Palette.stoneClass color))

def marked (scene : Scene) (mark : Option Mark) (color : List Char) (x y : Binary64) : Markup :=
  match mark with
  | some m => Shape.mark x y scene.layout.radius color m
  | none => []

/-- The lines of a point, which end at the edges of the board. -/
def point (scene : Scene) (row column : Nat) (x y : Binary64) : Markup :=
  intersection x y scene.layout.radius Palette.black (scene.grid.edgesAt row column)

/-- A letter on a disc that hides the lines of its point, in the color of links if the letter is the
anchor of one. -/
def letter (scene : Scene) (token : List Char) (x y : Binary64) : Except Fault Markup := do
  let fill := if scene.links.contains token then Palette.link else Palette.board
  let text ← scene.centered token Palette.black x y
  return stone x y scene.layout.radius Palette.board fill none ++ text

def cell (scene : Scene) (placed : Placed) (x y : Binary64) : Except Fault Markup :=
  match placed.cell.kind with
  | .stone color mark =>
    .ok (scene.plainStone color x y ++ scene.marked mark Palette.red x y)
  | .empty star =>
    .ok (scene.point placed.row placed.column x y ++
      if star then Shape.mark x y scene.layout.radius Palette.black .hoshi else [])
  | .markup mark =>
    .ok (scene.point placed.row placed.column x y ++
      Shape.mark x y scene.layout.radius Palette.red mark)
  | .move number => do
    let color := scene.moveColor number
    let text ← scene.moveLabel number
    let text ← scene.centered text (Palette.stone color.opponent) x y
    return scene.plainStone color x y ++ text
  | .letter => do
    let letter ← scene.letter placed.cell.token x y
    return scene.point placed.row placed.column x y ++ letter
  | .border | .space | .unknown => .ok []

/-- The area of the link whose anchor a cell shows, if it shows one. -/
def linked (scene : Scene) (cell : Cell) (x y : Binary64) : Markup :=
  match scene.links.get? cell.token with
  | some url => linkArea x y scene.layout.radius url
  | none => []

/-- The center of a place in the image. -/
def center (scene : Scene) (centers : Centers) (placed : Placed) : Binary64 × Binary64 :=
  (centers.x (placed.column - scene.layout.window.firstColumn),
    centers.y (placed.row - scene.layout.window.firstRow))

def body (scene : Scene) : Except Fault Markup := do
  let centers ← scene.layout.centers
  let pieces ← scene.grid.visible.mapM fun placed =>
    let (x, y) := scene.center centers placed
    scene.cell placed x y
  return pieces.flatten

/-- The areas of links over the visible cells, row by row. -/
def overlay (scene : Scene) : Except Fault Markup := do
  let centers ← scene.layout.centers
  return scene.grid.visible.flatMap fun placed =>
    let (x, y) := scene.center centers placed
    scene.linked placed.cell x y

end Scene

end BoardDiagram.Drawing
