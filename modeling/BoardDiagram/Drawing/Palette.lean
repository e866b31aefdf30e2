import BoardDiagram.Cell

/-! The colors of a diagram, and the classes by which a page may give its parts other ones. -/

namespace BoardDiagram.Palette

def black : List Char := "rgb(0, 0, 0)".toList

def white : List Char := "rgb(255, 255, 255)".toList

/-- The color of marks. -/
def red : List Char := "rgb(255, 55, 55)".toList

/-- The color of the board. -/
def board : List Char := "rgb(242, 176, 109)".toList

/-- The color of what leads to another page. -/
def link : List Char := "rgb(202, 106, 69)".toList

def boardClass : List Char := "goban".toList

def linkClass : List Char := "linkClass".toList

def markClass : List Char := "markup".toList

def coordinateClass : List Char := "coordClass".toList

def errorClass : List Char := "errorClass".toList

/-- The color that a stone is filled with. -/
def stone : Color → List Char
  | .black => black
  | .white => white

def stoneClass : Color → List Char
  | .black => "blackstone".toList
  | .white => "whitestone".toList

end BoardDiagram.Palette
