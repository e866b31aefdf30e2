import BoardDiagram.Directive
import BoardDiagram.Drawing.Picture
import BoardDiagram.Header

/-! A diagram from its text to its image.  The text is read once.  A text that is no diagram gives a
failed diagram, whose image is a notice; only faults of another kind leave no diagram at all. -/

namespace BoardDiagram

structure Board where
  grid : Grid
  layout : Layout
  deriving DecidableEq

def Board.ofBody (body : List Char) (font : Font) (coordinates : Bool) : Except Fault Board := do
  let grid ← Grid.ofBody body
  let layout ← Layout.ofGrid grid font coordinates
  layout.checkSize font
  return { grid, layout }

/-- A diagram as far as its text could be read.  After a failure the header is the default one if
the failure lies there, and the links are those of the text if it lies further on. -/
structure Diagram where
  text : List Char
  font : Font
  header : Header := {}
  links : Links := {}
  outcome : Except ParseError Board

namespace Diagram

/-- What is shown in place of a diagram. -/
def failureNotice : List Char :=
  "Parsing of ASCII diagram failed".toList

/-- The lines from the first that is not blank, or from the last if all are. -/
def dropBlankLines : List (List Char) → List (List Char)
  | line :: next :: rest =>
    if Text.isBlankText line then dropBlankLines (next :: rest) else line :: next :: rest
  | lines => lines

/-- The line that starts the diagram. -/
def firstLine (text : List Char) : List Char :=
  (dropBlankLines (Text.lines text)).head?.getD []

/-- The rows and links after the line that starts the diagram. -/
def content (text : List Char) : Directive.Content :=
  Directive.scan (dropBlankLines (Text.lines text)).tail

/-- The cause for which a text is no diagram, apart from other faults. -/
def attempt {α : Type} (result : Except Fault α) : Except Fault (Except ParseError α) :=
  match result with
  | .ok value => .ok (.ok value)
  | .error (.parse cause) => .ok (.error cause)
  | .error fault => .error fault

def ofText (text : List Char) (font : Font) : Except Fault Diagram := do
  match ← attempt (Header.ofLine (firstLine text)) with
  | .error cause => return { text, font, outcome := .error cause }
  | .ok header =>
    let content := content text
    let outcome ← attempt (Board.ofBody content.body font header.coordinates)
    return { text, font, header, links := content.links, outcome }

/-- The board, unless the text is no diagram. -/
def board? (diagram : Diagram) : Option Board :=
  diagram.outcome.toOption

def isValid (diagram : Diagram) : Bool :=
  diagram.board?.isSome

/-- What is shown in place of the diagram; nothing for a diagram that can be shown. -/
def failureMessage (diagram : Diagram) : List Char :=
  match diagram.outcome with
  | .ok _ => []
  | .error _ => failureNotice

def drawsCoordinates (diagram : Diagram) : Bool :=
  diagram.board?.any (·.layout.coordinates)

def width? (diagram : Diagram) : Option Nat :=
  diagram.board?.map (·.layout.width)

def height? (diagram : Diagram) : Option Nat :=
  diagram.board?.map (·.layout.height)

/-- The title as it is written in markup. -/
def title (diagram : Diagram) : List Char :=
  escape diagram.header.title

/-- The diagram with an address for an anchor. -/
def setLink (diagram : Diagram) (anchor url : List Char) : Diagram :=
  { diagram with links := diagram.links.insert anchor url }

def dropLink (diagram : Diagram) (anchor : List Char) : Diagram :=
  { diagram with links := diagram.links.erase anchor }

def cellAt (diagram : Diagram) (row column : Int) : Option Cell :=
  diagram.board?.bind (·.grid.cellAt row column)

/-- The sides on which a place of the grid borders on the edge of the board, unless the text is no
diagram. -/
def edgesAt (diagram : Diagram) (row column : Int) : Option Sides :=
  diagram.board?.map (·.grid.edgesAt row column)

/-- What the drawing of a board's cells depends on. -/
def scene (diagram : Diagram) (board : Board) : Drawing.Scene where
  grid := board.grid
  layout := board.layout
  font := diagram.font
  firstColor := diagram.header.firstColor
  startMove := diagram.header.startMove
  links := diagram.links

def picture (diagram : Diagram) : Except Fault Drawing.Picture :=
  match diagram.outcome with
  | .error _ => Drawing.notice failureNotice
  | .ok board =>
    Drawing.picture (diagram.scene board) diagram.header.boardSize diagram.header.title

/-- A diagram in the format of another program. -/
structure Record where
  format : List Char
  content : List Char
  /-- The format can be written. -/
  implemented : Bool

/-- The diagram as a game record, which cannot be written. -/
def gameRecord (_ : Diagram) : Record :=
  ⟨"sgf".toList, [], false⟩

end Diagram

end BoardDiagram
