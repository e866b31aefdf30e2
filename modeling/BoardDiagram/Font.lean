import BoardDiagram.Number.Numeral
import BoardDiagram.Text.Blank
import BoardDiagram.Text.LowerCase

/-! The size of a character cell of the text font, from which all measures of a diagram follow, and
how it is specified. -/

namespace BoardDiagram

/-- The size of a character cell in pixels. -/
structure Font where
  height : Nat
  width : Nat
  height_pos : 0 < height := by decide
  width_pos : 0 < width := by decide
  deriving DecidableEq

namespace Font

def default : Font := ⟨16, 8, by decide, by decide⟩

instance : Inhabited Font := ⟨default⟩

/-- The font of a height and a width, which have to be positive. -/
def ofSize (height width : Int) : Except Fault Font :=
  if h : 0 < height ∧ 0 < width then
    .ok ⟨height.toNat, width.toNat, Int.pos_iff_toNat_pos.mp h.1, Int.pos_iff_toNat_pos.mp h.2⟩
  else do
    Numeral.checkWritable height
    Numeral.checkWritable width
    .error (.fontNotPositive height width)

/-- A height and a width as they are specified, which need not be positive. -/
structure Size where
  height : Int := 16
  width : Int := 8
  deriving DecidableEq

/-- The size after an assignment such as `h=20`.  Names may be short or long and in any case, and
white space around names and values does not count.  A blank part assigns nothing. -/
def Size.assign (size : Size) (part : List Char) : Except Fault Size :=
  let part := Text.strip part
  if part.isEmpty then .ok size
  else if !part.contains '=' then .error (.noAssignment part)
  else
    let name := Text.lower (Text.strip (part.takeWhile (· ≠ '=')))
    let value := Text.strip ((part.dropWhile (· ≠ '=')).drop 1)
    if name = "h".toList || name = "height".toList then
      (Numeral.readInteger value).map fun height => { size with height }
    else if name = "w".toList || name = "width".toList then
      (Numeral.readInteger value).map fun width => { size with width }
    else .error (.unknownParameter name)

/-- The font of a specification: assignments between commas, of which later ones replace earlier
ones. -/
def ofSpec (spec : List Char) : Except Fault Font := do
  let size ← (spec.splitOn ',').foldlM Size.assign {}
  ofSize size.height size.width

end Font

end BoardDiagram
