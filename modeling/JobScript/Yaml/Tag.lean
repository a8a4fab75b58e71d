import JobScript.Yaml.Timestamp

/-! # Tags

A tag says what kind of value a node stands for. A plain scalar without one is given the tag of the
first kind of value that it is written like.
-/

namespace JobScript.Yaml

inductive Tag
  | null
  | bool
  | int
  | float
  | binary
  | timestamp
  | omap
  | pairs
  | set
  | str
  | seq
  | map
  | merge
  | value
  | unknown (text : String)
deriving DecidableEq, Repr

namespace Tag

def lead : String := "tag:yaml.org,2002:"

def known : List (String × Tag) :=
  [("null", .null), ("bool", .bool), ("int", .int), ("float", .float), ("binary", .binary),
   ("timestamp", .timestamp), ("omap", .omap), ("pairs", .pairs), ("set", .set), ("str", .str),
   ("seq", .seq), ("map", .map), ("merge", .merge), ("value", .value)]

def ofText (text : String) : Tag :=
  ((known.find? fun entry => lead ++ entry.1 == text).map (·.2)).getD (.unknown text)

/-! ## What scalars are written like -/

def dropSign : List Char → List Char
  | '+' :: rest => rest
  | '-' :: rest => rest
  | cs => cs

def isDigit (c : Char) : Bool := c.isDigit

/-- Digits may be grouped by low lines. -/
def isGrouped (c : Char) : Bool := c.isDigit || c == '_'

/-- What follows a whole number, grouped or not; it must start with a digit. -/
def dropWhole : List Char → Option (List Char)
  | c :: rest => if isDigit c then some (rest.dropWhile isGrouped) else none
  | [] => none

/-- What follows groups of minutes or seconds, each of them below sixty after its colon, and whether
there was one. -/
def dropSixties : List Char → Bool × List Char
  | ':' :: a :: b :: rest =>
    if '0' ≤ a && a ≤ '5' && isDigit b then (true, (dropSixties rest).2)
    else if isDigit a then (true, (dropSixties (b :: rest)).2)
    else (false, ':' :: a :: b :: rest)
  | [':', a] => if isDigit a then (true, []) else (false, [':', a])
  | cs => (false, cs)

/-- A power of ten carries its sign. -/
def isPower : List Char → Bool
  | e :: sign :: rest =>
    (e == 'e' || e == 'E') && (sign == '+' || sign == '-') && !rest.isEmpty && rest.all isDigit
  | _ => false

def endsNumber (cs : List Char) : Bool := cs.isEmpty || isPower cs

/-- A decimal has a point. Before it may stand a whole number or one of sixties. -/
def isFloat (cs : List Char) : Bool :=
  let word := String.ofList cs
  let unsigned := dropSign cs
  let afterWhole := match dropWhole unsigned with
    | some ('.' :: rest) => endsNumber (rest.dropWhile isGrouped)
    | some rest => match dropSixties rest with
      | (true, '.' :: rest) => rest.all isGrouped
      | _ => false
    | none => false
  let afterPoint := match cs with
    | '.' :: rest => (dropWhole rest).any endsNumber
    | _ => false
  afterWhole || afterPoint || String.ofList unsigned ∈ [".inf", ".Inf", ".INF"] ||
    word ∈ [".nan", ".NaN", ".NAN"]

def isOctal (c : Char) : Bool := ('0' ≤ c && c ≤ '7') || c == '_'

def isHex (c : Char) : Bool :=
  c.isDigit || ('a' ≤ c && c ≤ 'f') || ('A' ≤ c && c ≤ 'F') || c == '_'

/-- Whole numbers of base two, eight, ten, sixteen and sixty. -/
def isInt (cs : List Char) : Bool :=
  match dropSign cs with
  | ['0'] => true
  | '0' :: 'b' :: rest => !rest.isEmpty && rest.all fun c => c == '0' || c == '1' || c == '_'
  | '0' :: 'x' :: rest => !rest.isEmpty && rest.all isHex
  | '0' :: rest => rest.all isOctal
  | cs => match dropWhole cs with
    | some rest => rest.isEmpty || dropSixties rest == (true, [])
    | none => false

def boolWords : List String :=
  ["yes", "Yes", "YES", "no", "No", "NO", "true", "True", "TRUE", "false", "False", "FALSE", "on",
   "On", "ON", "off", "Off", "OFF"]

def ofWord (cs : List Char) : Tag :=
  let word := String.ofList cs
  if word ∈ boolWords then .bool
  else if isFloat cs then .float
  else if isInt cs then .int
  else if word = "<<" then .merge
  else if word ∈ ["~", "null", "Null", "NULL", ""] then .null
  else if isTimestamp cs then .timestamp
  else if word = "=" then .value
  else if word ∈ ["!", "&", "*"] then .unknown (lead ++ "yaml")
  else .str

/-- A line feed at the end of a word makes no difference. -/
def dropLastBreak (cs : List Char) : List Char :=
  if cs.length ≠ 1 ∧ cs.getLast? = some '\n' then cs.dropLast else cs

/-- The tag of a scalar that is written like this. -/
def resolve (text : String) : Tag := ofWord (dropLastBreak text.toList)

end Tag

end JobScript.Yaml
