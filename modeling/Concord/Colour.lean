/-
  Coloured text on a terminal.
-/

namespace Concord

/-- The colours in use. -/
inductive Colour where
  | red | green | yellow
  deriving DecidableEq, Repr

/-- The number of a colour on a terminal. -/
def Colour.code : Colour → String
  | red => "31"
  | green => "32"
  | yellow => "33"

/-- A text in a colour, or as it is where colours are switched off. -/
def Colour.paint (enabled : Bool) (colour : Colour) (text : String) : String :=
  if enabled then "\x1b[" ++ colour.code ++ "m" ++ text ++ "\x1b[0m" else text

end Concord
