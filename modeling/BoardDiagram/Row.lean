import BoardDiagram.Text.Blank

/-! The rows of a diagram body as tokens.  A row is written compactly, one character a token, or
spaced, with tokens of any length between white space. -/

namespace BoardDiagram.Row

/-- The token of the edge of the board. -/
def borderToken : List Char := ['%']

/-- A glyph that draws the edge of the board. -/
def isBorderGlyph (c : Char) : Bool :=
  c = '-' || c = '|' || c = '+'

/-- A character that is dropped wherever it stands. -/
def isNoise (c : Char) : Bool :=
  c = '\t' || c = '\r' || c = '$'

/-- A row is spaced when a space stands between its tokens and one of them has a digit.  Lines and
arrows, which are written in braces, are never spaced. -/
def isSpaced (line : List Char) : Bool :=
  let text := Text.strip line
  text.contains ' ' && text.any Char.isDigit && !text.contains '\x7b'

/-- The tokens of one line. -/
def split (line : List Char) : List (List Char) :=
  if isSpaced line then Text.words line
  else (line.filter (· ≠ ' ')).map fun c => [c]

/-- A diagram body with one glyph for the edge of the board, and without noise. -/
def clean (body : List Char) : List Char :=
  (body.map fun c => if isBorderGlyph c then '%' else c).filter (!isNoise ·)

/-- The token rows of a diagram body.  A line without tokens is no row. -/
def normalize (body : List Char) : List (List (List Char)) :=
  ((Text.lines (clean body)).map split).filter (!·.isEmpty)

end BoardDiagram.Row
