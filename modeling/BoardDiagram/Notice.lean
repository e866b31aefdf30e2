import BoardDiagram.Diagram

/-! What happens while a diagram is read and drawn, as it is told to those who want to know. -/

namespace BoardDiagram

inductive Notice where
  /-- The header asks for a board of size zero. -/
  | sizeIgnored
  /-- A link is dropped for the sake of its anchor. -/
  | linkDropped (anchor : List Char)
  /-- The edges of the board are known. -/
  | bordersFound (window : Window) (borders : Sides)
  /-- Coordinates are asked for, but the diagram shows too few edges. -/
  | coordinatesDisabled
  | diagramRead (window : Window) (width height links : Nat)
  | readingFailed (cause : ParseError)
  /-- A cell is not drawn. -/
  | symbolSkipped (placed : Placed)
  /-- A column, and every one after it, has no label. -/
  | columnUnlabelled (index : Nat)
  deriving DecidableEq

namespace Notice

/-- Told even to those who do not ask. -/
def isWarning : Notice → Bool
  | .readingFailed _ => true
  | _ => false

/-- The part of the program that a notice comes from. -/
def source : Notice → List Char
  | .sizeIgnored | .linkDropped _ => "diagram.header_parser".toList
  | .bordersFound _ _ => "diagram.grid".toList
  | .coordinatesDisabled => "renderer.layout".toList
  | .diagramRead _ _ _ _ | .readingFailed _ => "diagram.go_diagram".toList
  | .symbolSkipped _ => "renderer.cell_renderer".toList
  | .columnUnlabelled _ => "renderer.coordinate_renderer".toList

def flag (b : Bool) : List Char :=
  if b then "True".toList else "False".toList

/-- Two indices with a dash between them. -/
def span (first last : Nat) : List Char :=
  decimal first ++ '-' :: decimal last

def text : Notice → List Char
  | .sizeIgnored => "Ignoring board size 0, using 19".toList
  | .linkDropped anchor => "Dropping link with invalid anchor ".toList ++ Text.quoted anchor
  | .bordersFound window borders =>
    "Borders: BorderFlags(top=".toList ++ flag borders.top ++
      ", bottom=".toList ++ flag borders.bottom ++ ", left=".toList ++ flag borders.left ++
      ", right=".toList ++ flag borders.right ++ "), rows ".toList ++
      span window.firstRow window.lastRow ++ ", cols ".toList ++
      span window.firstColumn window.lastColumn
  | .coordinatesDisabled =>
    "Coordinates disabled: missing horizontal or vertical border".toList
  | .diagramRead window width height links =>
    "Parsed diagram: ".toList ++ decimal window.columnCount ++
      'x' :: decimal window.rowCount ++ " cells, image ".toList ++ decimal width ++
      'x' :: decimal height ++ ", ".toList ++ decimal links ++ " links".toList
  | .readingFailed cause => "Parsing of ASCII diagram failed: ".toList ++ cause.message
  | .symbolSkipped placed =>
    "Skipping unknown symbol ".toList ++ Text.quoted placed.cell.token ++ " at row ".toList ++
      decimal placed.row ++ ", col ".toList ++ decimal placed.column
  | .columnUnlabelled index => "No coordinate label for column index ".toList ++ decimal index

/-- A notice with its weight and its source. -/
def line (notice : Notice) : List Char :=
  (if notice.isWarning then "WARNING ".toList else "DEBUG ".toList) ++ notice.source ++
    ": ".toList ++ notice.text

end Notice

def Grid.notices (grid : Grid) (coordinates : Bool) : List Notice :=
  .bordersFound grid.window grid.borders ::
    if coordinates && !Layout.drawsCoordinates grid coordinates then [.coordinatesDisabled] else []

namespace Diagram

/-- The notices of the lines after the first. -/
def contentNotices (text : List Char) : List Notice :=
  ((dropBlankLines (Text.lines text)).tail.filterMap Directive.droppedAnchor?).map .linkDropped

/-- The notices of the rows of a diagram. -/
def bodyNotices (body : List Char) (coordinates : Bool) : List Notice :=
  match Grid.ofBody body with
  | .ok grid => grid.notices coordinates
  | .error _ => []

def readingNotices (diagram : Diagram) : List Notice :=
  let content := content diagram.text
  let start :=
    if (Header.parts? (firstLine diagram.text)).isSome then
      (if Header.ignoresSize (firstLine diagram.text) then [.sizeIgnored] else []) ++
        contentNotices diagram.text ++ bodyNotices content.body diagram.header.coordinates
    else []
  start ++ [match diagram.outcome with
    | .ok board => .diagramRead board.layout.window board.layout.width board.layout.height
      content.links.size
    | .error cause => .readingFailed cause]

def drawingNotices (diagram : Diagram) : List Notice :=
  match diagram.board? with
  | none => []
  | some board =>
    let skipped := board.grid.visible.filter fun placed => placed.cell.kind = .unknown
    let margin : Drawing.Margin :=
      ⟨board.layout, board.grid.borders, diagram.header.boardSize, diagram.font⟩
    let unlabelled := if board.layout.coordinates then margin.unlabelled?.toList else []
    skipped.map .symbolSkipped ++ unlabelled.map .columnUnlabelled

/-- The notices of reading a diagram and of drawing it once. -/
def notices (diagram : Diagram) : List Notice :=
  diagram.readingNotices ++ diagram.drawingNotices

def warnings (diagram : Diagram) : List Notice :=
  diagram.readingNotices.filter Notice.isWarning

end Diagram

end BoardDiagram
