/-! # Tokens of a document -/

namespace JobScript.Yaml

inductive Directive
  | version (major : Nat)
  | tag (handle lead : String)
  | other
deriving DecidableEq, Repr

/-- A tag without a handle stands for itself. -/
structure TagName where
  handle : Option String
  suffix : String
deriving DecidableEq, Repr

inductive Token
  | directive (d : Directive)
  | documentStart
  | documentEnd
  | blockSequenceStart
  | blockMappingStart
  | blockEnd
  | flowSequenceStart
  | flowSequenceEnd
  | flowMappingStart
  | flowMappingEnd
  | flowEntry
  | blockEntry
  | key
  | value
  | alias (name : String)
  | anchor (name : String)
  | tag (name : TagName)
  | scalar (text : String) (plain : Bool)
  | streamEnd
deriving DecidableEq, Repr

end JobScript.Yaml
