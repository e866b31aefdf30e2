import BoardDiagram.Number.Binary64

/-! The shortest decimal digits that round back to a binary64 value. -/

namespace BoardDiagram

/-- A positive decimal number: the point stands behind the first `point` of `digits`, before them
when `point` is not positive. -/
structure Digits where
  digits : List Char
  point : Int
  deriving DecidableEq

namespace Digits

/-- The exponent of the highest power of ten that is at most `q`, for positive `q`. -/
def decimalExponent (q : Rat) : Int :=
  let e : Int := (Nat.toDigits 10 q.num.natAbs).length - (Nat.toDigits 10 q.den).length
  if (10 : Rat) ^ e ≤ q then e else e - 1

/-- The number of units, if any, that rounds back to `q`: one of the two between which `q` lies.
Where both do, it is the nearer one, and the even one if `q` lies in the middle. -/
def units? (q unit : Rat) : Option Int :=
  let low := (q / unit).floor
  let back (n : Int) : Bool := Binary64.round (n * unit) = .finite q
  if low * unit = q then some low
  else
    match back low, back (low + 1) with
    | true, true => some (roundHalfEven (q / unit))
    | true, false => some low
    | false, true => some (low + 1)
    | false, false => none

/-- The number `n * 10 ^ exponent`, without zeros at the end of its digits. -/
def ofUnits (n : Nat) (exponent : Int) : Digits :=
  let digits := Nat.toDigits 10 n
  ⟨(digits.reverse.dropWhile (· = '0')).reverse, digits.length + exponent⟩

/-- The fewest digits that round back to `q`, a positive value of the format; the nearest to `q`
where there is a choice.  No value needs more than 17. -/
def shortest (q : Rat) : Digits :=
  let first := decimalExponent q
  let found := (List.range 17).findSome? fun (more : Nat) =>
    (units? q ((10 : Rat) ^ (first - more))).map fun n => ofUnits n.natAbs (first - more)
  found.getD ⟨['0'], 1⟩

/-- Written with a point, and with a digit on each side of it. -/
def positional (d : Digits) : List Char :=
  if d.point ≤ 0 then '0' :: '.' :: List.replicate (-d.point).toNat '0' ++ d.digits
  else
    let whole := d.point.toNat
    if d.digits.length ≤ whole then
      d.digits ++ List.replicate (whole - d.digits.length) '0' ++ ['.', '0']
    else d.digits.take whole ++ '.' :: d.digits.drop whole

/-- Written with one digit before the point, if there is one, and an exponent of at least two
digits. -/
def scientific (d : Digits) : List Char :=
  let mantissa := match d.digits with
    | first :: second :: rest => first :: '.' :: second :: rest
    | digits => digits
  let exponent := d.point - 1
  let size := Nat.toDigits 10 exponent.natAbs
  mantissa ++ 'e' :: (if exponent < 0 then '-' else '+') ::
    List.replicate (2 - size.length) '0' ++ size

end Digits

end BoardDiagram
