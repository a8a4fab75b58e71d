import JobScript.Failure
import JobScript.Files.Tree
import JobScript.Yaml.Error

/-! # Failures that escape

What neither the configuration nor its language explains: no request reports it as its result, and it
ends the program.
-/

namespace JobScript

inductive Escape
  | undecodable
  | unencodable
  | document (e : Yaml.YamlError)
  | script (failure : Failure)
  | file (e : Files.FileError)

/-- Not every failure has words of its own. -/
def Escape.message? : Escape → Option String
  | .undecodable => none
  | .unencodable => none
  | .document e => e.message?
  | .script failure => failure.message?
  | .file e => e.message?

end JobScript
