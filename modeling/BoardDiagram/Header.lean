import BoardDiagram.Cell
import BoardDiagram.Text.Blank

/-! The first line of a diagram, which says whose move is first, whether coordinates are shown, how
large the board is, which number the first move has, and what the title is. -/

namespace BoardDiagram

/-- The settings of a diagram. -/
structure Header where
  /-- The color of the moves with odd numbers. -/
  firstColor : Color := .black
  /-- Coordinates are asked for. -/
  coordinates : Bool := false
  boardSize : Nat := 19
  /-- The number that is shown for move one. -/
  startMove : Nat := 1
  title : List Char := []
  deriving DecidableEq

namespace Header

/-- The color that a line starts with, black when there is none, and what follows. -/
def splitColor : List Char → Color × List Char
  | 'W' :: rest => (.white, rest)
  | 'B' :: rest => (.black, rest)
  | rest => (.black, rest)

/-- Whether a line starts with the request for coordinates, and what follows. -/
def splitCoordinates : List Char → Bool × List Char
  | 'c' :: rest => (true, rest)
  | rest => (false, rest)

/-- The digits that a line starts with, and what follows. -/
def splitDigits (s : List Char) : List Char × List Char :=
  (s.takeWhile Char.isDigit, s.dropWhile Char.isDigit)

/-- The digits of the first move's number, which an `m` announces, and what follows. -/
def splitStart (s : List Char) : List Char × List Char :=
  match s with
  | 'm' :: rest =>
    let (digits, after) := splitDigits rest
    if digits.isEmpty then ([], s) else (digits, after)
  | _ => ([], s)

/-- The parts of a line behind the mark that starts it. -/
structure Parts where
  color : Color
  coordinates : Bool
  size : List Char
  start : List Char
  title : List Char
  deriving DecidableEq

def Parts.ofText (s : List Char) : Parts :=
  let (color, s) := splitColor s
  let (coordinates, s) := splitCoordinates s
  let (size, s) := splitDigits s
  let (start, s) := splitStart s
  { color, coordinates, size, start, title := Text.strip s }

/-- The parts of a line that starts a diagram: it starts with two dollar signs, and is one line. -/
def parts? (line : List Char) : Option Parts :=
  match Text.strip line with
  | '$' :: '$' :: rest => if rest.contains '\n' then none else some (Parts.ofText rest)
  | _ => none

/-- The number that digits stand for, and `default` for no digits or zero. -/
def readOr (default : Nat) (digits : List Char) : Except Fault Nat :=
  if digits.isEmpty then .ok default
  else (Numeral.read digits).map fun n => if n = 0 then default else n

/-- The settings of a line that starts a diagram. -/
def ofLine (line : List Char) : Except Fault Header :=
  match parts? line with
  | none => .error (.parse .noHeader)
  | some parts => do
    let boardSize ← readOr 19 parts.size
    let startMove ← readOr 1 parts.start
    return {
      firstColor := parts.color
      coordinates := parts.coordinates
      boardSize
      startMove
      title := parts.title }

/-- A line gives a board size that is ignored. -/
def ignoresSize (line : List Char) : Bool :=
  (parts? line).any fun parts => !parts.size.isEmpty && Numeral.value parts.size = 0

end Header

end BoardDiagram
