/-!
Colour on a terminal. A coloured text ends by turning all colours off; where the text does so itself,
the colour is turned on again.
-/

namespace RouteTemplate.CommandLine

inductive Style where
  | cyan | boldGreen | yellow | dimmed
  deriving DecidableEq, Repr, Inhabited

/-- What turns a style on. -/
def Style.code : Style → List Char
  | .cyan => "\x1b[36m".toList
  | .boldGreen => "\x1b[1;32m".toList
  | .yellow => "\x1b[33m".toList
  | .dimmed => "\x1b[2m".toList

/-- What turns all styles off. -/
def reset : List Char := "\x1b[0m".toList

/-- Turns a style on again wherever a text turns it off. -/
def restyle (style : Style) : List Char → List Char
  | '\x1b' :: '[' :: '0' :: 'm' :: r => reset ++ style.code ++ restyle style r
  | c :: r => c :: restyle style r
  | [] => []

/-- A text in a style, if there are colours. -/
def paint (coloured : Bool) (style : Style) (text : List Char) : List Char :=
  if coloured then style.code ++ restyle style text ++ reset else text

end RouteTemplate.CommandLine
