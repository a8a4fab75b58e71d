import JobScript.Text.Utf8
import JobScript.Value.Display

/-! # Fields of a record

A value given for a field is read as what the field holds, or refused with the place of the fault.
All faults of a record are collected.
-/

namespace JobScript

open Number Text

inductive Place
  | name (s : String)
  | index (n : Int)
deriving DecidableEq, Repr

inductive Fault
  | noText
  | noUnicode
  | noList
  | noMapping
  | noTruth
  | unknownTruth
  | noRecord
  | refused
deriving DecidableEq, Repr

/-- The tag by which a fault is reported. -/
def Fault.tag : Fault → String
  | .noText => "string_type"
  | .noUnicode => "string_unicode"
  | .noList => "tuple_type"
  | .noMapping => "dict_type"
  | .noTruth => "bool_type"
  | .unknownTruth => "bool_parsing"
  | .noRecord => "model_type"
  | .refused => "value_error"

structure FieldError where
  fault : Fault
  place : List Place
deriving DecidableEq, Repr

abbrev Checked (α : Type) := Except (List FieldError) α

namespace Checked

def faults {α : Type} : Checked α → List FieldError
  | .ok _ => []
  | .error errors => errors

/-- A reading without places, put at a place. -/
def placed {α : Type} (place : List Place) : Except Fault α → Checked α
  | .ok a => .ok a
  | .error fault => .error [⟨fault, place⟩]

def both {α β : Type} : Checked α → Checked β → Checked (α × β)
  | .ok a, .ok b => .ok (a, b)
  | a, b => .error (a.faults ++ b.faults)

end Checked

namespace Value

/-- Texts and bytes in UTF-8 are text; numbers are not. -/
def asText : Value → Except Fault String
  | .str s => .ok s
  | .bytes b => match decodeUtf8? b with
    | some s => .ok s
    | none => .error .noUnicode
  | _ => .error .noText

def asOptionalText : Value → Except Fault (Option String)
  | .null => .ok none
  | v => v.asText.map some

/-- Words for truth and falsehood, in any case of their ASCII letters. -/
def truthOfWord? (word : String) : Option Bool :=
  let word := word.toLower
  if word ∈ ["1", "t", "true", "y", "yes", "on"] then some true
  else if word ∈ ["0", "f", "false", "n", "no", "off"] then some false
  else none

def truthOfInt? : Int → Option Bool
  | 0 => some false
  | 1 => some true
  | _ => none

/-- Whole numbers of 64 bits stay below it. -/
def wordBound : Nat := Nat.pow 2 63

def isWord64 (n : Int) : Bool := decide (-(wordBound : Int) ≤ n) && decide (n < wordBound)

/-- The whole number that a double between the 64-bit ones stands for. -/
def wholeOfDouble? (x : Double) : Option Int :=
  match x.ratio? with
  | some (num, den) =>
    let n := num / den
    if num % den = 0 ∧ -(wordBound : Int) < n ∧ n < wordBound then some n else none
  | none => none

def orUnknown (truth : Option Bool) : Except Fault Bool :=
  match truth with
  | some b => .ok b
  | none => .error .unknownTruth

/-- Truth is given as such, by a word, or as zero or one. -/
def asTruth : Value → Except Fault Bool
  | .bool b => .ok b
  | .str s => if isEncodable s then orUnknown (truthOfWord? s) else .error .noUnicode
  | .bytes b => orUnknown ((decodeUtf8? b).bind truthOfWord?)
  | .int n => if isWord64 n then orUnknown (truthOfInt? n) else .error .noTruth
  | .float x => match wholeOfDouble? x with
    | some n => orUnknown (truthOfInt? n)
    | none => .error .noTruth
  | _ => .error .noTruth

def textsFrom (place : List Place) : Nat → List Value → Checked (List String)
  | _, [] => .ok []
  | n, v :: rest =>
    (Checked.both (Checked.placed (place ++ [.index n]) v.asText) (textsFrom place (n + 1) rest)).map
      fun (text, texts) => text :: texts

/-- Sequences and sets of texts. -/
def asTexts (place : List Place) : Value → Checked (List String)
  | .seq items => textsFrom place 0 items
  | .set items => textsFrom place 0 items
  | _ => .error [⟨.noList, place⟩]

/-- What stands for a number that has no text. -/
def unwritten : String := "<unprintable int object>"

/-- How a key shows up in a place: texts and 64-bit numbers as such, anything else as displayed. -/
def asPlace : Value → Place
  | .str s => .name (replaceHalves s)
  | .bool b => .index (if b then 1 else 0)
  | .int n => if isWord64 n then .index n else .name ((writeInt n).toOption.getD unwritten)
  | v => .name v.display

/-- An entry under a name that is there takes its place. -/
def setText (name text : String) : List (String × String) → List (String × String)
  | [] => [(name, text)]
  | (n, t) :: rest => if n = name then (name, text) :: rest else (n, t) :: setText name text rest

def textEntriesFrom (place : List Place) : List (Value × Value) → Checked (List (String × String))
  | [] => .ok []
  | (key, value) :: rest =>
    let here := place ++ [key.asPlace]
    let entry := Checked.both (Checked.placed (here ++ [.name "[key]"]) key.asText)
      (Checked.placed here value.asText)
    (Checked.both entry (textEntriesFrom place rest)).map fun (entry, entries) => entry :: entries

/-- Mappings from texts to texts. -/
def asTextEntries (place : List Place) : Value → Checked (List (String × String))
  | .map entries => (textEntriesFrom place entries).map fun entries =>
    entries.foldl (fun sofar (name, text) => setText name text sofar) []
  | _ => .error [⟨.noMapping, place⟩]

end Value

end JobScript
