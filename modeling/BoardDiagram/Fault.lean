import BoardDiagram.Text.Quoted

/-! What can go wrong, and how it is reported. -/

namespace BoardDiagram

/-- Why a text is no diagram.  Spans are given by their first and last index. -/
inductive ParseError where
  | noHeader
  | noRows
  | emptyRowSpan (first last : Int)
  | emptyColumnSpan (first last : Int)
  | imageTooSmall (width height cellWidth cellHeight : Nat)
  deriving DecidableEq

/-- Why a path leads nowhere, or to something that cannot be written. -/
inductive PathError where
  | nullCharacter
  | tooLong
  | missing
  | notFolder
  | isFolder
  deriving DecidableEq

/-- Why a request has no answer. -/
inductive Fault where
  | parse (cause : ParseError)
  /-- A numeral has too many digits to be read. -/
  | longNumeral (digits : Nat)
  /-- A number has too many digits to be written. -/
  | longNumber
  /-- A number lies outside the range of the arithmetic that it enters. -/
  | outOfRange
  | fontNotPositive (height width : Int)
  /-- A part of a font specification assigns nothing. -/
  | noAssignment (part : List Char)
  | unknownParameter (name : List Char)
  /-- A parameter of a font is given something other than an integer. -/
  | notAnInteger (value : List Char)
  /-- A font is to be read from a specification, and there is none. -/
  | noSpecification
  /-- A mark is to be drawn where there is none. -/
  | noMark
  | notText
  | path (cause : PathError)
  deriving DecidableEq

def digitLimit : Nat := 4300

def decimal (n : Int) : List Char :=
  if n < 0 then '-' :: Nat.toDigits 10 n.natAbs else Nat.toDigits 10 n.natAbs

def ParseError.message : ParseError → List Char
  | .noHeader => "first line is not a diagram header".toList
  | .noRows => "diagram has no rows".toList
  | .emptyRowSpan first last =>
    "empty row span (".toList ++ decimal first ++ " > ".toList ++ decimal last ++ [')']
  | .emptyColumnSpan first last =>
    "empty column span (".toList ++ decimal first ++ " > ".toList ++ decimal last ++ [')']
  | .imageTooSmall width height cellWidth cellHeight =>
    "image ".toList ++ decimal width ++ 'x' :: decimal height ++
      " smaller than font cell ".toList ++ decimal cellWidth ++ 'x' :: decimal cellHeight

def PathError.message : PathError → List Char
  | .nullCharacter => "embedded null byte".toList
  | .tooLong => "name too long".toList
  | .missing => "no such file or folder".toList
  | .notFolder => "not a folder".toList
  | .isFolder => "is a folder".toList

/-- How the reports of long numbers end. -/
def limitAdvice : List Char :=
  "; use sys.set_int_max_str_digits() to increase the limit".toList

/-- The start of the reports of long numbers. -/
def limitExceeded : List Char :=
  "Exceeds the limit (".toList ++ decimal digitLimit ++
    " digits) for integer string conversion".toList

/-- The report of a fault.  Of a value that is no integer at most 200 characters are shown, quotes
included. -/
def Fault.message : Fault → List Char
  | .parse cause => cause.message
  | .longNumeral digits =>
    limitExceeded ++ ": value has ".toList ++ decimal digits ++ " digits".toList ++ limitAdvice
  | .longNumber => limitExceeded ++ limitAdvice
  | .outOfRange => "number out of range".toList
  | .fontNotPositive height width =>
    "Font metrics must be positive, got h=".toList ++ decimal height ++ ", w=".toList ++
      decimal width
  | .noAssignment part =>
    "Invalid parameter format: ".toList ++ part ++ ". Expected PARAM=VALUE".toList
  | .unknownParameter name => "Unknown parameter: ".toList ++ name
  | .notAnInteger value =>
    "invalid literal for int() with base 10: ".toList ++ (Text.quoted value).take 200
  | .noSpecification => "no font specification".toList
  | .noMark => "Unknown mark: None".toList
  | .notText => "not a text in UTF-8".toList
  | .path cause => cause.message

end BoardDiagram
