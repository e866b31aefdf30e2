/-! Sets of characters written as closed intervals of code points. -/

namespace BoardDiagram.Text

/-- Closed intervals of code points, in increasing order. -/
abbrev Ranges := List (Nat × Nat)

/-- `c` lies in one of the intervals. -/
def Ranges.has (ranges : Ranges) (c : Char) : Bool :=
  ranges.any fun range => range.1 ≤ c.toNat && c.toNat ≤ range.2

end BoardDiagram.Text
