import BoardDiagram.Drawing.Cells
import BoardDiagram.Drawing.Labels
import BoardDiagram.Text.Wrap

/-! Complete documents: a diagram, or the notice that there is none. -/

namespace BoardDiagram.Drawing

open Markup Shape

/-- A document.  The notice that there is no diagram has no width and height. -/
structure Picture where
  markup : Markup
  width : Option Nat
  height : Option Nat
  deriving DecidableEq

namespace Picture

def xml (picture : Picture) : List Char :=
  picture.markup.write

/-- No diagram was drawn. -/
def failed (picture : Picture) : Bool :=
  picture.width.isNone || picture.height.isNone

end Picture

/-- The parts of a diagram, from the lowest to the highest. -/
structure Sections where
  background : Markup := []
  links : Markup := []
  body : Markup := []
  coordinates : Markup := []

def Sections.assemble (sections : Sections) : Markup :=
  sections.background ++ sections.links ++ sections.body ++ sections.coordinates

/-- The board that everything is drawn on. -/
def background (layout : Layout) : Except Fault Markup := do
  let zero ← Binary64.ofInt 0
  let width ← Binary64.ofInt layout.width
  let height ← Binary64.ofInt layout.height
  return rect zero zero width height Palette.board (some Palette.boardClass)

def coordinates (margin : Margin) : Except Fault Markup :=
  if margin.layout.coordinates then do
    let rows ← margin.rows
    let columns ← margin.columns
    return rows ++ columns
  else .ok []

def picture (scene : Scene) (boardSize : Int) (title : List Char) : Except Fault Picture := do
  let layout := scene.layout
  let background ← background layout
  let _ ← scene.labelSize
  let links ← scene.overlay
  let body ← scene.body
  let coordinates ← coordinates ⟨layout, scene.grid.borders, boardSize, scene.font⟩
  let opening ← openDocument layout.width layout.height title
  let sections : Sections := { background, links, body, coordinates }
  return {
    markup := opening ++ sections.assemble ++ closeDocument
    width := some layout.width
    height := some layout.height }

/-- The lines that a notice is shown in: at most sixty characters each, or the message as it is when
there would be none. -/
def noticeLines (message : List Char) : List (List Char) :=
  let lines := Text.Wrap.wrap 60 (by decide) message
  if lines.isEmpty then [message] else lines

/-- A line of a notice.  Lines after the first stand below the one before. -/
def noticeLine (text : List Char) (index : Nat) : Markup :=
  inline "tspan" [attr "x" "30".toList,
    attr "dy" (if index = 0 then ['0'] else "1.2em".toList)] [.data (escape text)]

/-- The document that shows a message in place of a diagram. -/
def notice (message : List Char) : Except Fault Picture := do
  let lines := noticeLines message
  let height := lines.length * 50
  let opening ← openDocument 520 height []
  let frame := leaf "rect" [attr "x" ['0'], attr "y" ['0'], attr "rx" "20".toList,
    attr "ry" "20".toList, attr "width" "520".toList, attr "height" (decimal height),
    attr "fill" "red".toList, attr "stroke" "black".toList]
  let text := line "text" [attr "x" "30".toList, attr "y" "30".toList,
    attr "font-size" "15".toList, attr "fill" "black".toList]
    (lines.zipIdx.flatMap fun (text, i) => noticeLine text i)
  return {
    markup := opening ++ block "g" [attr "class" Palette.errorClass] (frame ++ text) ++
      closeDocument
    width := none
    height := none }

end BoardDiagram.Drawing
