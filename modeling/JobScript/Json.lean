import JobScript.Text.Quoted

/-! # JSON documents

Nested values print one item a line, two blanks deeper at each level; an empty list or object stays
on its line. The text is plain ASCII: every other character is escaped by its UTF-16 units.
-/

namespace JobScript

inductive Json
  | null
  | bool (b : Bool)
  | text (s : String)
  | list (items : List Json)
  | object (fields : List (String × Json))
deriving Repr, Inhabited

namespace Json

def escapeUnit (n : Nat) : List Char := '\\' :: 'u' :: Text.hex 4 n

/-- A code point beyond the basic plane is a pair of surrogates. -/
def escapeCode (n : Nat) : List Char :=
  if n < 0x10000 then escapeUnit n
  else escapeUnit (0xD800 + (n - 0x10000) / 0x400) ++ escapeUnit (0xDC00 + (n - 0x10000) % 0x400)

def escape (c : Char) : List Char :=
  if c = '"' ∨ c = '\\' then ['\\', c]
  else if c = '\n' then ['\\', 'n']
  else if c = '\r' then ['\\', 'r']
  else if c = '\t' then ['\\', 't']
  else if c = '\x08' then ['\\', 'b']
  else if c = '\x0c' then ['\\', 'f']
  else if ' ' ≤ c ∧ c ≤ '~' then [c]
  else escapeCode (Text.codeOf c)

def quote (s : String) : String := String.ofList ('"' :: s.toList.flatMap escape ++ ['"'])

def margin (depth : Nat) : String := String.ofList (List.replicate (2 * depth) ' ')

/-- Items between brackets, each on a line of its own. -/
def bracketed (opening closing : String) (depth : Nat) (items : List String) : String :=
  if items.isEmpty then opening ++ closing
  else
    let inner := items.map fun item => margin (depth + 1) ++ item
    opening ++ "\n" ++ String.intercalate ",\n" inner ++ "\n" ++ margin depth ++ closing

mutual

def render (depth : Nat) : Json → String
  | .null => "null"
  | .bool b => if b then "true" else "false"
  | .text s => quote s
  | .list items => bracketed "[" "]" depth (renderItems (depth + 1) items)
  | .object fields => bracketed "\x7b" "\x7d" depth (renderFields (depth + 1) fields)

def renderItems (depth : Nat) : List Json → List String
  | [] => []
  | item :: rest => item.render depth :: renderItems depth rest

def renderFields (depth : Nat) : List (String × Json) → List String
  | [] => []
  | (name, value) :: rest =>
    (quote name ++ ": " ++ value.render depth) :: renderFields depth rest

end

def toText (j : Json) : String := j.render 0

def ofOption : Option String → Json
  | some s => .text s
  | none => .null

def ofTexts (items : List String) : Json := .list (items.map .text)

end Json

end JobScript
