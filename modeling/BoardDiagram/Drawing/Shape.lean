import BoardDiagram.Drawing.Palette
import BoardDiagram.Grid
import BoardDiagram.Markup
import BoardDiagram.Number.Written

/-! The shapes that a diagram is drawn with.  Places are given in pixels by the center of a cell.
Colors and classes are written as they are given; labels, titles and addresses are escaped. -/

namespace BoardDiagram.Shape

open Markup

/-- The constant nearest to a decimal fraction. -/
def constant (q : Rat) : Binary64 :=
  .round q

def pixelAttr (name : String) (value : Binary64) : Attribute :=
  attr name value.pixels

def classAttr (name : Option (List Char)) : List Attribute :=
  match name with
  | some (c :: rest) => [attr "class" (c :: rest)]
  | _ => []

/-- The start of a document, with its title if that is not empty. -/
def openDocument (width height : Int) (title : List Char) : Except Fault Markup := do
  let w ← Numeral.write width
  let h ← Numeral.write height
  let heading := if title.isEmpty then [] else line "title" [] [.data (escape title)]
  return .start "svg".toList [
    attr "xmlns" "http://www.w3.org/2000/svg".toList,
    attr "width" w,
    attr "height" h,
    attr "viewBox" ("0 0 ".toList ++ w ++ ' ' :: h)] :: newline :: heading

def closeDocument : Markup :=
  [.stop "svg".toList, newline]

def rect (x y width height : Binary64) (fill : List Char) (className : Option (List Char)) :
    Markup :=
  leaf "rect" ([pixelAttr "x" x, pixelAttr "y" y, pixelAttr "width" width,
    pixelAttr "height" height, attr "fill" fill] ++ classAttr className)

def circle (x y radius : Binary64) (stroke fill : List Char) : List Attribute :=
  [pixelAttr "cx" x, pixelAttr "cy" y, pixelAttr "r" radius, attr "stroke" stroke,
    attr "fill" fill]

/-- A disc with an outline. -/
def stone (x y radius : Binary64) (ring fill : List Char) (className : Option (List Char)) :
    Markup :=
  leaf "circle" (circle x y radius ring fill ++ classAttr className)

/-- Two rings so close that they read as a thick one. -/
def circleMark (x y radius : Binary64) (color : List Char) : Markup :=
  leaf "circle" (circle x y (radius - .finite 3) color "none".toList) ++
    leaf "circle" (circle x y (radius - .finite 2) color "none".toList)

def squareMark (x y radius : Binary64) (color : List Char) : Markup :=
  let side := radius - .finite (3 / 2)
  leaf "rect" [pixelAttr "x" (x - side.half), pixelAttr "y" (y - side.half),
    pixelAttr "width" side, pixelAttr "height" side, attr "stroke" color,
    attr "fill" "none".toList]

def corner (x y : Binary64) : List Char :=
  x.pixels ++ ',' :: y.pixels

/-- A triangle with three equal sides about the center. -/
def triangleMark (x y radius : Binary64) (color : List Char) : Markup :=
  let r := radius * constant (6 / 10)
  let base := r * constant (866 / 1000)
  leaf "polygon" [
    attr "points" (corner x (y - r) ++ ' ' :: corner (x - base) (y + r.half) ++ ' ' ::
      corner (x + base) (y + r.half)),
    attr "stroke" color,
    attr "fill" "none".toList]

def segment (x1 y1 x2 y2 : Binary64) (color : List Char) : Markup :=
  leaf "line" [pixelAttr "x1" x1, pixelAttr "y1" y1, pixelAttr "x2" x2, pixelAttr "y2" y2,
    attr "stroke" color]

def crossMark (x y radius : Binary64) (color : List Char) : Markup :=
  let d := radius * constant (45 / 100)
  segment (x - d) (y - d) (x + d) (y + d) color ++ segment (x - d) (y + d) (x + d) (y - d) color

/-- The dot of a star point, which has the same size in every image. -/
def hoshiMark (x y : Binary64) (color : List Char) : Markup :=
  leaf "circle" [pixelAttr "cx" x, pixelAttr "cy" y, attr "r" ['3'], attr "stroke" color,
    attr "fill" color]

def mark (x y radius : Binary64) (color : List Char) : Mark → Markup
  | .hoshi => hoshiMark x y color
  | .circle => circleMark x y radius color
  | .square => squareMark x y radius color
  | .triangle => triangleMark x y radius color
  | .cross => crossMark x y radius color

/-- The mark that may be on a cell, for a caller who needs one to be there. -/
def requiredMark (x y radius : Binary64) (color : List Char) : Option Mark → Except Fault Markup
  | some m => .ok (mark x y radius color m)
  | none => .error .noMark

/-- The lines of a point: a half-line from the center to each side that is not closed. -/
def intersection (x y radius : Binary64) (color : List Char) (closed : Sides) : Markup :=
  (if closed.top then [] else segment x (y - radius) x y color) ++
    (if closed.bottom then [] else segment x (y + radius) x y color) ++
    (if closed.left then [] else segment (x - radius) y x y color) ++
    (if closed.right then [] else segment (x + radius) y x y color)

def label (x y : Binary64) (text color className : List Char) (size : Binary64) : Markup :=
  line "text" [pixelAttr "x" x, pixelAttr "y" y, attr "fill" color, attr "class" className,
    attr "style" ("font-size:".toList ++ size.pixels ++ "px".toList)] [.data (escape text)]

/-- A square over a cell that leads to an address. -/
def linkArea (x y radius : Binary64) (url : List Char) : Markup :=
  let side := radius * .finite 2
  block "a" [attr "href" (escape url)]
    (leaf "rect" [pixelAttr "x" (x - radius), pixelAttr "y" (y - radius), pixelAttr "width" side,
      pixelAttr "height" side, attr "stroke" Palette.board, attr "fill" Palette.link,
      attr "fill-opacity" "0.4".toList, attr "class" Palette.linkClass])

end BoardDiagram.Shape
