import JobScript.Text.Case

/-! # Colours of messages -/

namespace JobScript.Shell

inductive Colour
  | red
  | green
  | yellow
  | blue
  | magenta
  | cyan
deriving DecidableEq, Repr

namespace Colour

def all : List Colour := [.red, .green, .yellow, .blue, .magenta, .cyan]

def name : Colour → String
  | .red => "red"
  | .green => "green"
  | .yellow => "yellow"
  | .blue => "blue"
  | .magenta => "magenta"
  | .cyan => "cyan"

/-- The parameters of the terminal's colour sequence. -/
def code : Colour → String
  | .red => "31;1"
  | .green => "32;1"
  | .yellow => "33;1"
  | .blue => "34;1"
  | .magenta => "35;1"
  | .cyan => "36;1"

/-- Names count in any case; an unknown name is no colour. -/
def ofName? (name : String) : Option Colour :=
  let name := Text.toLower name
  all.find? fun colour => colour.name == name

/-- A text between the sequences that switch the colour on and off. -/
def paint (colour : Colour) (text : String) : String :=
  "\\033[" ++ colour.code ++ "m" ++ text ++ "\\033[0m"

end Colour

end JobScript.Shell
