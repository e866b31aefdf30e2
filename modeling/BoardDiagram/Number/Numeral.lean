import BoardDiagram.Fault
import BoardDiagram.Text.DecimalDigit

/-! Numerals: digits read as numbers and numbers written in digits, both up to a limit on the number
of digits. -/

namespace BoardDiagram.Numeral

/-- The number that digits of any script stand for, the first digit being the highest. -/
def value (digits : List Char) : Nat :=
  digits.foldl (fun high c => 10 * high + (Text.digitValue? c).getD 0) 0

/-- The number that `digits` stand for, if there are not too many of them. -/
def read (digits : List Char) : Except Fault Nat :=
  if digitLimit < digits.length then .error (.longNumeral digits.length)
  else .ok (value digits)

/-- A digit of any script, or an underscore, which may stand between two digits. -/
def isDigitOrMark (c : Char) : Bool :=
  Text.isDecimalDigit c || c = '_'

/-- Reads digits of any script as a number with the given sign.  Too many digits are reported
before anything that follows them. -/
def readUnsigned (negative : Bool) (fault : Fault) (s : List Char) : Except Fault Int :=
  let groups := (s.takeWhile isDigitOrMark).splitOn '_'
  if groups.any List.isEmpty then .error fault
  else do
    let n ← read groups.flatten
    if (s.dropWhile isDigitOrMark).isEmpty then return if negative then -n else n
    else .error fault

/-- Reads an integer: an optional sign, and digits with single underscores between them. -/
def readInteger (s : List Char) : Except Fault Int :=
  match s with
  | '-' :: rest => readUnsigned true (.notAnInteger s) rest
  | '+' :: rest => readUnsigned false (.notAnInteger s) rest
  | _ => readUnsigned false (.notAnInteger s) s

/-- The least number that has too many digits. -/
def bound : Nat := Nat.pow 10 digitLimit

/-- Refuses a number that has too many digits to be written. -/
def checkWritable (n : Int) : Except Fault Unit :=
  if bound ≤ n.natAbs then .error .longNumber else .ok ()

/-- The digits of a number, if there are not too many of them. -/
def write (n : Int) : Except Fault (List Char) := do
  checkWritable n
  return decimal n

end BoardDiagram.Numeral
