import JobScript.Value.Display

/-! # Cache slugs

The key of a dependency cache: its parts joined, the empty ones left out.
-/

namespace JobScript.Slug

def lead : String := "cache"

def separator : String := "--"

def join (parts : List String) : String :=
  String.intercalate separator (parts.filter (· ≠ ""))

def ofTexts (language version : String) (extras : List String) : String :=
  join ([lead, language, version] ++ extras)

/-- What counts as false is no part of a slug. -/
def part (v : Value) : String := if v.truthy then v.text else ""

def ofValues (language : String) (version : Value) (extras : List Value) : String :=
  ofTexts language (part version) (extras.map part)

end JobScript.Slug
