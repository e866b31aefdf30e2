/-! White space of every script, texts without it at their ends, and the words it separates. -/

namespace BoardDiagram.Text

/-- A character of white space: the controls from tab to carriage return, the four separators of
files, groups, records and units, the space, and the spaces and line ends of other scripts.
Characters of no width are not among them. -/
def isBlank (c : Char) : Bool :=
  let n := c.toNat
  (0x9 ≤ n && n ≤ 0xd) || (0x1c ≤ n && n ≤ 0x20) || n = 0x85 || n = 0xa0 || n = 0x1680 ||
    (0x2000 ≤ n && n ≤ 0x200a) || n = 0x2028 || n = 0x2029 || n = 0x202f || n = 0x205f ||
    n = 0x3000

/-- `s` from its first character that is no white space. -/
def trimStart (s : List Char) : List Char :=
  s.dropWhile isBlank

/-- `s` to its last character that is no white space. -/
def trimEnd (s : List Char) : List Char :=
  (s.reverse.dropWhile isBlank).reverse

/-- `s` without white space at its ends. -/
def strip (s : List Char) : List Char :=
  trimEnd (trimStart s)

/-- `s` holds nothing but white space. -/
def isBlankText (s : List Char) : Bool :=
  s.all isBlank

/-- The longest pieces of `s` that hold no white space, in order. -/
def words (s : List Char) : List (List Char) :=
  (s.splitOnP isBlank).filter (!·.isEmpty)

/-- The lines of `s`.  A line break at the end leaves an empty last line. -/
def lines (s : List Char) : List (List Char) :=
  s.splitOn '\n'

end BoardDiagram.Text
