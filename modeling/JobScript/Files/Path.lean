/-! # Paths

A path is absolute or starts at the working directory. Empty parts and single points are left out
when it is read, double points stay.
-/

namespace JobScript.Files

/-- `slashes` is how many slashes an absolute path starts with: one, or two where they are exactly two,
which some systems tell apart. A relative path starts with none. -/
structure Path where
  slashes : Nat
  parts : List String
deriving DecidableEq, Repr

namespace Path

/-- The working directory itself. -/
def here : Path := ⟨0, []⟩

/-- The path of an absolute place. -/
def ofPlace (place : List String) : Path := ⟨1, place⟩

def isAbsolute (p : Path) : Bool := p.slashes != 0

def leadingSlashes (cs : List Char) : Nat :=
  let n := (cs.takeWhile (· == '/')).length
  if n ≤ 2 then n else 1

def ofText (text : String) : Path :=
  let parts := (text.toList.splitOn '/').map String.ofList
  ⟨leadingSlashes text.toList, parts.filter fun part => part ≠ "" ∧ part ≠ "."⟩

/-- The working directory is written as a point. -/
def toText (p : Path) : String :=
  let text := String.ofList (List.replicate p.slashes '/') ++ String.intercalate "/" p.parts
  if text = "" then "." else text

/-- The longest name of a file, in bytes. -/
def longestName : Nat := 255

/-- The longest path that is followed, in bytes. -/
def longestPath : Nat := 4095

/-- No name holds the character zero. -/
def holdsZero (p : Path) : Bool := p.parts.any fun part => part.toList.contains '\x00'

/-- A step up takes the last part away, whatever it is; there is nothing above the root. -/
def climb (base : List String) (part : String) : List String :=
  if part = ".." then base.dropLast else base ++ [part]

/-- Where a path starts from. -/
def origin (base : List String) (p : Path) : List String := if p.isAbsolute then [] else base

/-- The absolute place of a path by its words alone. -/
def resolve (base : List String) (p : Path) : List String := p.parts.foldl climb (p.origin base)

/-- Every place on the way along a path, the last one being its end. -/
def stopsFrom (base : List String) : List String → List (List String)
  | [] => [base]
  | part :: rest => base :: stopsFrom (climb base part) rest

def stops (base : List String) (p : Path) : List (List String) := stopsFrom (p.origin base) p.parts

end Path

end JobScript.Files
