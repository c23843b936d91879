/-!
Colours and weight of terminal text, as escape sequences around it.
-/

namespace Rota.Text

inductive Color where
  | red | green | yellow | blue | cyan
  deriving DecidableEq, Repr

def Color.code : Color → String
  | .red => "31"
  | .green => "32"
  | .yellow => "33"
  | .blue => "34"
  | .cyan => "36"

def escape (code : String) : String := "\x1b[" ++ code ++ "m"

def colored (color : Color) (text : String) : String := escape color.code ++ text ++ escape "39"

def bold (text : String) : String := escape "1" ++ text ++ escape "0"

def boldColored (color : Color) (text : String) : String :=
  escape (color.code ++ ";1") ++ text ++ escape "0"

end Rota.Text
