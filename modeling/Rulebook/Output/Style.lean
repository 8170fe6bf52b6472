/-!
# Colored text

A style is written before a text, and taken back after it. A style that ends inside of the text starts
again there.
-/

namespace Rulebook

inductive Color where
  | red
  | green
  | yellow
  | blue
  | cyan
  deriving DecidableEq, Repr, Inhabited

def Color.code : Color → String
  | red => "31"
  | green => "32"
  | yellow => "33"
  | blue => "34"
  | cyan => "36"

structure Style where
  color : Color
  bold : Bool := false
  deriving DecidableEq, Repr, Inhabited

namespace Style

/-- The mark that takes every style back. -/
def reset : String := "\x1b[0m"

def opening (s : Style) : String := "\x1b[" ++ (if s.bold then "1;" else "") ++ s.color.code ++ "m"

def paint (s : Style) (text : String) : String :=
  s.opening ++ String.intercalate (reset ++ s.opening) (text.splitOn reset) ++ reset

/-- A text in a style, if there is color at all. -/
def paintIf (s : Style) (color : Bool) (text : String) : String := if color then s.paint text else text

end Style

end Rulebook
