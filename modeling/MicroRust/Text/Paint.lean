/-! Colour escapes of a terminal. -/

namespace MicroRust.Text

def paint (colored : Bool) (codes text : String) : String :=
  if colored then "\x1b[" ++ codes ++ "m" ++ text ++ "\x1b[0m" else text

end MicroRust.Text
