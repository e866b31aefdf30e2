import BoardDiagram.Number.Shortest

/-! How binary64 values are written. -/

namespace BoardDiagram.Binary64

/-- The text of a finite value in the fewest digits: with a point from one ten-thousandth to below
ten to the sixteenth, and with an exponent elsewhere. -/
def finiteText (q : Rat) : List Char :=
  if q = 0 then ['0', '.', '0']
  else
    let digits := Digits.shortest (if q < 0 then -q else q)
    let text := if -4 < digits.point && digits.point ≤ 16 then digits.positional
      else digits.scientific
    if q < 0 then '-' :: text else text

/-- The text of a value in the fewest digits. -/
def text : Binary64 → List Char
  | .finite q => finiteText q
  | .infinity true => "-inf".toList
  | .infinity false => "inf".toList
  | .nan => "nan".toList

/-- A value rounded to hundredths, from its exact size and to the even one of two that are equally
near. -/
def hundredths : Binary64 → Binary64
  | .finite q => round (mkRat (roundHalfEven (q * 100)) 100)
  | other => other

/-- The text of a pixel value: rounded to hundredths, whole numbers in all their digits and without
a point. -/
def pixels (a : Binary64) : List Char :=
  match a.hundredths with
  | .finite q => if q.den = 1 then decimal q.num else finiteText q
  | other => other.text

end BoardDiagram.Binary64
