import BoardDiagram.Text.Printable

/-! Texts in quotes, as messages show them: characters without a visible form are written as
escapes. -/

namespace BoardDiagram.Text

/-- `n` in hexadecimal, filled up with zeros to `width` digits. -/
def hex (width n : Nat) : List Char :=
  let digits := Nat.toDigits 16 n
  List.replicate (width - digits.length) '0' ++ digits

/-- One character between `quote` marks. -/
def quotedChar (quote c : Char) : List Char :=
  if c = quote || c = '\\' then ['\\', c]
  else if c = '\n' then ['\\', 'n']
  else if c = '\r' then ['\\', 'r']
  else if c = '\t' then ['\\', 't']
  else if isPrintable c then [c]
  else if c.toNat < 0x100 then '\\' :: 'x' :: hex 2 c.toNat
  else if c.toNat < 0x10000 then '\\' :: 'u' :: hex 4 c.toNat
  else '\\' :: 'U' :: hex 8 c.toNat

/-- `s` between single quotes, or between double quotes when it holds a single quote and no double
quote. -/
def quoted (s : List Char) : List Char :=
  let quote := if s.contains '\x27' && !s.contains '"' then '"' else '\x27'
  quote :: s.flatMap (quotedChar quote) ++ [quote]

end BoardDiagram.Text
