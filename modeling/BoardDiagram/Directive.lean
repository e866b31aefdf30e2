import BoardDiagram.Links
import BoardDiagram.Text.Blank

/-! The lines after the first of a diagram.  A line that starts with two dollar signs holds a row of
the diagram, or a link in brackets; other lines say nothing. -/

namespace BoardDiagram.Directive

/-- The characters that may be the anchor of a link. -/
def anchorChars : List Char :=
  "abcdefghijklmnopqrstuvwxyz0123456789WB@#CS".toList

/-- What follows two dollar signs and white space. -/
def content? : List Char → Option (List Char)
  | '$' :: '$' :: rest => some (Text.trimStart rest)
  | _ => none

/-- The part of a text before its first line break. -/
def firstLine (s : List Char) : List Char :=
  s.takeWhile (· ≠ '\n')

/-- The row of the diagram that a line holds. -/
def row? (line : List Char) : Option (List Char) :=
  match content? (Text.strip line) with
  | some (c :: rest) => if c = '[' then none else some (c :: firstLine rest)
  | _ => none

/-- What stands before and after the last `c` of a text. -/
def splitLast? (c : Char) (s : List Char) : Option (List Char × List Char) :=
  match s.reverse.dropWhile (· ≠ c) with
  | _ :: before => some (before.reverse, (s.reverse.takeWhile (· ≠ c)).reverse)
  | [] => none

/-- The two sides of the last bar before the last closing bracket, for a line that opens with a
bracket. -/
def bracketed? (line : List Char) : Option (List Char × List Char) :=
  match content? line with
  | some ('[' :: rest) => do
    let (inside, _) ← splitLast? ']' (firstLine rest)
    let (anchor, url) ← splitLast? '|' inside
    return (Text.strip anchor, Text.strip url)
  | _ => none

/-- An anchor is one character of those allowed. -/
def isAnchor (anchor : List Char) : Bool :=
  match anchor with
  | [c] => anchorChars.contains c
  | _ => false

/-- The anchor and the address of the link that a line holds. -/
def link? (line : List Char) : Option (List Char × List Char) :=
  (bracketed? line).filter fun pair => isAnchor pair.1

/-- The anchor for whose sake a line that looks like a link is dropped. -/
def droppedAnchor? (line : List Char) : Option (List Char) :=
  ((bracketed? line).filter fun pair => !isAnchor pair.1).map Prod.fst

/-- The rows and links of a diagram. -/
structure Content where
  /-- The rows, each with a line break at its end. -/
  body : List Char := []
  links : Links := {}
  deriving DecidableEq

/-- The rows and links that lines hold. -/
def scan (lines : List (List Char)) : Content where
  body := (lines.filterMap row?).flatMap (· ++ ['\n'])
  links := Links.ofList (lines.filterMap link?)

end BoardDiagram.Directive
