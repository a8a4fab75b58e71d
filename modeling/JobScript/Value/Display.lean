import JobScript.Value
import JobScript.Number.Integer
import JobScript.Number.Shortest
import JobScript.Text.Quoted

/-! # Values as text

`display` is how a value appears inside another one or in a message, `text` how it stands by itself:
they differ for texts, which lose their quotes, and for dates, which are written in ISO form.
-/

namespace JobScript.Value

open Number Text

mutual

def display : Value → String
  | .null => "None"
  | .bool b => if b then "True" else "False"
  | .int n => displayInt n
  | .float x => x.display
  | .str s => quoted s
  | .bytes b => quotedBytes b
  | .date d => d.display
  | .moment m => m.display
  | .seq items => "[" ++ String.intercalate ", " (displayItems items) ++ "]"
  | .map entries => "\x7b" ++ String.intercalate ", " (displayEntries entries) ++ "\x7d"
  | .set [] => "set()"
  | .set items => "\x7b" ++ String.intercalate ", " (displayItems items) ++ "\x7d"

def displayItems : List Value → List String
  | [] => []
  | item :: rest => item.display :: displayItems rest

def displayEntries : List (Value × Value) → List String
  | [] => []
  | (key, value) :: rest => (key.display ++ ": " ++ value.display) :: displayEntries rest

end

def text : Value → String
  | .str s => s
  | .date d => d.iso
  | .moment m => m.isoWith " "
  | value => value.display

end JobScript.Value
