import JobScript.Text.Case.Table

/-! # Upper and lower case

Full Unicode case mapping, independent of language. A capital sigma at the end of a word becomes a
final sigma: a cased letter comes before it and none after it, ignorable characters skipped.
-/

namespace JobScript.Text

open Case

def mapCase (runs : List Run) (expansions : List (Nat × List Nat)) (c : Char) : List Char :=
  match expansions.lookup c.toNat with
  | some codes => codes.map Char.ofNat
  | none => [(runs.findSome? fun run => run.map? c.toNat).getD c]

def lowerChar (c : Char) : List Char :=
  if c.toNat < 0x80 then [c.toLower] else mapCase lowerRuns lowerExpansions c

def upperChar (c : Char) : List Char :=
  if c.toNat < 0x80 then [c.toUpper] else mapCase upperRuns upperExpansions c

/-- The nearest character that is not ignorable has case. -/
def meetsCased (cs : List Char) : Bool :=
  ((cs.dropWhile ignorable.contains).head?.map cased.contains).getD false

/-- `before` holds the characters already passed, the nearest first. -/
def lowerFrom (before : List Char) : List Char → List Char
  | [] => []
  | c :: rest =>
    let mapped :=
      if c = 'Σ' then [if meetsCased before && !meetsCased rest then 'ς' else 'σ'] else lowerChar c
    mapped ++ lowerFrom (c :: before) rest

def toLower (s : String) : String := String.ofList (lowerFrom [] s.toList)

def toUpper (s : String) : String := String.ofList (s.toList.flatMap upperChar)

end JobScript.Text
