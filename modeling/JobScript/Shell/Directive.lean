import JobScript.Shell.Options

/-! # Directives

What a build asks of the shell: a command under a policy, an exported variable, a message, or text
of its own.
-/

namespace JobScript.Shell

/-- An export without a name asks for nothing. -/
inductive Directive
  | command (text : String) (options : Options)
  | export (name : Option String) (value : String) (echo : Bool)
  | echo (message : String) (colour : Option String)
  | raw (text : String)
deriving DecidableEq, Repr

namespace Directive

/-- Timed commands carry a number. -/
def isTimed : Directive → Bool
  | .command _ options => options.timing
  | _ => false

def run (text : String) : Directive := .command text Options.standard

def set (name value : String) : Directive := .export (some name) value true

def setQuietly (name value : String) : Directive := .export (some name) value false

def say (message : String) : Directive := .echo message none

def sayIn (colour message : String) : Directive := .echo message (some colour)

end Directive

/-- What is handed in as a directive, before it is known to be one. -/
inductive Item
  | directive (d : Directive)
  | command (text : String) (options : Value)
  | foreign (value : Value)

end JobScript.Shell
