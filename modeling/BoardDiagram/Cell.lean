import BoardDiagram.Number.Numeral

/-! What the tokens of a diagram row stand for. -/

namespace BoardDiagram

/-- The color of a stone. -/
inductive Color where
  | black
  | white
  deriving DecidableEq

def Color.opponent : Color → Color
  | .black => .white
  | .white => .black

theorem Color.opponent_opponent (c : Color) : c.opponent.opponent = c := by
  cases c <;> rfl

/-- What is drawn on top of a stone or a point. -/
inductive Mark where
  | hoshi
  | circle
  | square
  | triangle
  | cross
  deriving DecidableEq

/-- The kinds of cells. -/
inductive Kind where
  /-- An empty point, which may be a star point. -/
  | empty (star : Bool)
  /-- The edge of the board. -/
  | border
  /-- A place outside the board. -/
  | space
  | stone (color : Color) (mark : Option Mark)
  /-- A numbered move. -/
  | move (number : Nat)
  /-- An empty point under a letter. -/
  | letter
  /-- An empty point under a mark. -/
  | markup (mark : Mark)
  | unknown
  deriving DecidableEq

/-- A token of a diagram row with what it stands for. -/
structure Cell where
  token : List Char
  kind : Kind
  deriving DecidableEq

namespace Kind

/-- The color, for a stone without a number. -/
def color? : Kind → Option Color
  | .stone color _ => some color
  | _ => none

/-- The mark that is drawn, if any. -/
def mark? : Kind → Option Mark
  | .empty true => some .hoshi
  | .stone _ mark => mark
  | .markup mark => some mark
  | _ => none

/-- The number that a move is written with. -/
def number? : Kind → Option Nat
  | .move number => some number
  | _ => none

/-- The number of a move: zero is short for ten. -/
def moveNumber? (kind : Kind) : Option Nat :=
  kind.number?.map fun n => if n = 0 then 10 else n

/-- A point whose lines are drawn without a stone or a letter on it. -/
def isIntersection : Kind → Bool
  | .empty _ | .markup _ => true
  | _ => false

/-- The kind that a symbol stands for. -/
def ofSymbol? : Char → Option Kind
  | '.' => some (.empty false)
  | ',' => some (.empty true)
  | '%' => some .border
  | '_' => some .space
  | 'X' => some (.stone .black none)
  | 'B' => some (.stone .black (some .circle))
  | '#' => some (.stone .black (some .square))
  | 'Y' => some (.stone .black (some .triangle))
  | 'Z' => some (.stone .black (some .cross))
  | 'O' => some (.stone .white none)
  | 'W' => some (.stone .white (some .circle))
  | '@' => some (.stone .white (some .square))
  | 'Q' => some (.stone .white (some .triangle))
  | 'P' => some (.stone .white (some .cross))
  | 'C' => some (.markup .circle)
  | 'S' => some (.markup .square)
  | 'T' => some (.markup .triangle)
  | 'M' => some (.markup .cross)
  | _ => none

/-- The kind of a token: a symbol, a number, a small letter, or unknown. -/
def ofToken (token : List Char) : Except Fault Kind :=
  match token with
  | [c] =>
    match ofSymbol? c with
    | some kind => .ok kind
    | none =>
      if c.isDigit then (Numeral.read [c]).map .move
      else if c.isLower then .ok .letter
      else .ok .unknown
  | _ =>
    if !token.isEmpty && token.all Char.isDigit then (Numeral.read token).map .move
    else .ok .unknown

end Kind

namespace Cell

/-- The cell that a token stands for.  A number with too many digits is a fault. -/
def ofToken (token : List Char) : Except Fault Cell :=
  (Kind.ofToken token).map (⟨token, ·⟩)

def isBorder (cell : Cell) : Bool :=
  cell.kind = .border

end Cell

end BoardDiagram
