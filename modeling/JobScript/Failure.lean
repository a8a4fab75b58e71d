import JobScript.Field
import JobScript.Shell.Block
import JobScript.Template
import JobScript.Toolchain.Machine

/-! # Why building a script fails -/

namespace JobScript

inductive Failure
  | builder (e : Shell.BuilderError)
  | options (errors : List FieldError)
  | foreign (value : Value)
  | template (e : Template.TemplateError)
  | machine (e : Toolchain.MachineError)
  | numeral (e : Number.NumeralError)

/-- Faults in options have places rather than words. -/
def Failure.message? : Failure → Option String
  | .builder e => some e.message
  | .options _ => none
  | .foreign value => some ("Not a directive: " ++ value.display)
  | .template (.attribute _) => none
  | .template e => some e.message
  | .machine e => some e.message
  | .numeral e => some e.message

end JobScript
