import BoardDiagram.Number.Binary64

/-! The diagonal of a rectangle as a binary64 value.  The root of the rounded sum of squares is
improved by one step of Newton's method, in the arithmetic of the format.  `excess_id` says that the
step divides what the square of the root has too much: its formulas differ from that only by
rounding. -/

namespace BoardDiagram

/-- A number that rounds to the same binary64 value as the square root of `n`.  It is the root
itself where that has at most 64 bits after the point, and else lies strictly between the same two
neighbouring numbers of that kind; the values of the format from one on, and the middles between
them, are of that kind. -/
def rootForRounding (n : Nat) : Rat :=
  let scaled : Nat := n * Nat.pow 2 128
  let root : Nat := scaled.sqrt
  if root * root = scaled then mkRat root (Nat.pow 2 64)
  else mkRat (2 * root + 1) (Nat.pow 2 65)

namespace Binary64

/-- The square root of a natural number, rounded once. -/
def root (n : Nat) : Rat :=
  nearest (rootForRounding n)

/-- How much the square of `root` exceeds `a * a + b * b`, for `b` not above `a`.  The formulas
start from the distance of `root` to one of the sides, so that rounding leaves something of a small
excess. -/
def excess (rounded : Rat → Rat) (a b root : Rat) : Rat :=
  if root ≤ 2 * b then
    let d := rounded (root - b)
    rounded (rounded (a * rounded (2 * d - a)) + rounded (rounded (d - 2 * rounded (a - b)) * d))
  else
    let d := rounded (root - a)
    rounded (rounded (2 * d * rounded (a - 2 * b)) +
      rounded (rounded (rounded (4 * d - b) * b) + rounded (d * d)))

theorem excess_id (a b root : Rat) :
    excess id a b root = root * root - (a * a + b * b) := by
  unfold excess
  dsimp only [id]
  split <;> grind

/-- The diagonal of a rectangle with the longer side `a`.  A side that is too short to matter is
added to the other. -/
def hypotenuse (a b : Rat) : Rat :=
  if b * (2 : Rat) ^ (54 : Int) ≤ a then nearest (a + b)
  else
    let h := root (nearest (nearest (a * a) + nearest (b * b))).num.natAbs
    nearest (h - nearest (excess nearest a b h / (2 * h)))

/-- The diagonal of a rectangle, whose sides are first rounded to the format. -/
def diagonal (height width : Nat) : Except Fault Binary64 := do
  match ← ofInt height, ← ofInt width with
  | .finite h, .finite w => return round (if h < w then hypotenuse w h else hypotenuse h w)
  | _, _ => .error .outOfRange

end Binary64

end BoardDiagram
