/-! Markup as a list of tags and character data.  Attribute values and data are held as they are
written; `escape` puts any text into that form. -/

namespace BoardDiagram

/-- An attribute of a tag, with its value as it is written between the quotes. -/
structure Attribute where
  name : List Char
  value : List Char
  deriving DecidableEq

/-- A tag, or character data. -/
inductive Piece where
  /-- The tag that starts an element. -/
  | start (name : List Char) (attributes : List Attribute)
  /-- The tag that ends an element. -/
  | stop (name : List Char)
  /-- An element without content. -/
  | void (name : List Char) (attributes : List Attribute)
  /-- Character data as it is written. -/
  | data (text : List Char)
  deriving DecidableEq

/-- A stretch of a document. -/
abbrev Markup := List Piece

/-- A character as it is written in markup. -/
def escapeChar : Char → List Char
  | '&' => "&amp;".toList
  | '<' => "&lt;".toList
  | '>' => "&gt;".toList
  | '"' => "&quot;".toList
  | '\x27' => "&#x27;".toList
  | c => [c]

/-- A text as it is written in markup. -/
def escape (s : List Char) : List Char :=
  s.flatMap escapeChar

/-- An attribute, with the space before it. -/
def Attribute.write (a : Attribute) : List Char :=
  ' ' :: a.name ++ '=' :: '"' :: a.value ++ ['"']

def Piece.write : Piece → List Char
  | .start name attributes => '<' :: name ++ attributes.flatMap Attribute.write ++ ['>']
  | .stop name => '<' :: '/' :: name ++ ['>']
  | .void name attributes => '<' :: name ++ attributes.flatMap Attribute.write ++ " />".toList
  | .data text => text

namespace Markup

/-- The text of a stretch of a document. -/
def write (markup : Markup) : List Char :=
  markup.flatMap Piece.write

theorem write_append (a b : Markup) : write (a ++ b) = write a ++ write b := by
  simp [write]

/-- A line break. -/
def newline : Piece := .data ['\n']

/-- An attribute of a given name. -/
def attr (name : String) (value : List Char) : Attribute :=
  ⟨name.toList, value⟩

/-- An element without content, on a line of its own. -/
def leaf (name : String) (attributes : List Attribute) : Markup :=
  [.void name.toList attributes, newline]

/-- An element with content on one line, without a line break at its end. -/
def inline (name : String) (attributes : List Attribute) (content : Markup) : Markup :=
  .start name.toList attributes :: content ++ [.stop name.toList]

/-- An element with content on one line. -/
def line (name : String) (attributes : List Attribute) (content : Markup) : Markup :=
  inline name attributes content ++ [newline]

/-- An element with lines of content between the lines of its tags. -/
def block (name : String) (attributes : List Attribute) (content : Markup) : Markup :=
  line name attributes (newline :: content)

end Markup

end BoardDiagram
