import BoardDiagram.Fault

/-! Arithmetic in the binary64 format.  A finite value is kept as the rational number that it is,
and an operation is the exact one on rational numbers followed by rounding to the nearest value of
the format.  The sign of zero is not kept: no text shows it. -/

namespace BoardDiagram

/-- The integer nearest to `q`; of two that are equally near, the even one. -/
def roundHalfEven (q : Rat) : Int :=
  let low := q.floor
  let rest := q - low
  if rest < 1 / 2 then low
  else if 1 / 2 < rest then low + 1
  else if low % 2 = 0 then low
  else low + 1

theorem roundHalfEven_intCast (n : Int) : roundHalfEven n = n := by
  unfold roundHalfEven
  have h : (n : Rat) - ((n : Rat).floor : Rat) = 0 := by
    rw [Rat.floor_intCast]
    exact Rat.sub_self
  simp only [h]
  rw [if_pos (by decide +kernel), Rat.floor_intCast]

/-- A value of the binary64 format. -/
inductive Binary64 where
  | finite (value : Rat)
  | infinity (negative : Bool)
  | nan
  deriving DecidableEq

namespace Binary64

/-- The exponent of the highest power of two that is at most the size of `q`, for `q` other than
zero. -/
def binaryExponent (q : Rat) : Int :=
  let n := q.num.natAbs
  let e : Int := n.log2 - q.den.log2
  if (2 : Rat) ^ e * q.den ≤ n then e else e - 1

/-- The distance between the values of the format about `q`: they have 53 significant bits, and
none is finer than the least. -/
def spacing (q : Rat) : Rat :=
  (2 : Rat) ^ max (binaryExponent q - 52) (-1074)

/-- The least power of two beyond the format. -/
def limit : Rat := (2 : Rat) ^ (1024 : Int)

/-- The value nearest to `q` if there were no largest one; of two that are equally near, the one
whose last bit is zero. -/
def nearest (q : Rat) : Rat :=
  roundHalfEven (q / spacing q) * spacing q

/-- The value nearest to `q`, which is infinite from the limit on. -/
def round (q : Rat) : Binary64 :=
  let value := nearest q
  if value ≤ -limit then .infinity true
  else if limit ≤ value then .infinity false
  else .finite value

/-- The value nearest to `q`, which has to be in the range of the format. -/
def ofRat (q : Rat) : Except Fault Binary64 :=
  match round q with
  | .finite value => .ok (.finite value)
  | _ => .error .outOfRange

/-- The value nearest to an integer. -/
def ofInt (n : Int) : Except Fault Binary64 :=
  ofRat n

/-- The value nearest to half an integer. -/
def halfOf (n : Int) : Except Fault Binary64 :=
  ofRat (mkRat n 2)

/-- The largest integer that is not above a value. -/
def floor : Binary64 → Except Fault Int
  | .finite value => .ok value.floor
  | _ => .error .outOfRange

def neg : Binary64 → Binary64
  | .finite value => .finite (-value)
  | .infinity negative => .infinity !negative
  | .nan => .nan

/-- Infinities of opposite signs have no sum. -/
def add : Binary64 → Binary64 → Binary64
  | .finite a, .finite b => round (a + b)
  | .nan, _ | _, .nan => .nan
  | .infinity a, .infinity b => if a = b then .infinity a else .nan
  | .infinity a, .finite _ | .finite _, .infinity a => .infinity a

/-- Zero and an infinity have no product. -/
def mul : Binary64 → Binary64 → Binary64
  | .finite a, .finite b => round (a * b)
  | .nan, _ | _, .nan => .nan
  | .infinity a, .infinity b => .infinity (a != b)
  | .infinity a, .finite b | .finite b, .infinity a =>
    if b = 0 then .nan else .infinity (a != decide (b < 0))

instance : Neg Binary64 := ⟨neg⟩
instance : Add Binary64 := ⟨add⟩
instance : Sub Binary64 := ⟨fun a b => a + -b⟩
instance : Mul Binary64 := ⟨mul⟩

/-- Half a value. -/
def half (a : Binary64) : Binary64 :=
  a * .finite (1 / 2)

/-- Twice a value. -/
def double (a : Binary64) : Binary64 :=
  .finite 2 * a

end Binary64

end BoardDiagram
