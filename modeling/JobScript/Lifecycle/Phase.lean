/-! # Phases of a build, in the order in which they run -/

namespace JobScript

inductive Phase
  | export
  | setup
  | announce
  | install
  | script
deriving DecidableEq, Repr

namespace Phase

def all : List Phase := [.export, .setup, .announce, .install, .script]

def name : Phase → String
  | .export => "export"
  | .setup => "setup"
  | .announce => "announce"
  | .install => "install"
  | .script => "script"

def ofName? (name : String) : Option Phase := all.find? fun phase => phase.name == name

end Phase

end JobScript
