import JobScript.CommandLine.Run
import Mathlib.Tactic.Lemma

/-! # Words of a command line

The words that ask for a script in one form or another, and what they are read as. A value is the word after its
switch, whatever that word looks like. -/

namespace JobScript.CommandLine

def flagWords (name : String) (given : Bool) : List String := if given then [name] else []

def valueWords (name : String) (value : Option String) : List String := value.toList.flatMap ([name, ·])

def Common.words (c : Common) : List String :=
  flagWords "--verbose" c.verbose ++ (flagWords "--quiet" c.quiet ++
    (flagWords "--debug" c.debug ++ valueWords "--config" c.config))

def Selection.words (s : Selection) : List String :=
  valueWords "--language" s.language ++ valueWords "--version" s.version

/-- An empty name of a configuration file counts as none. -/
def Common.effective (c : Common) : Common := { c with config := c.config.filter (· ≠ "") }

def holdsZero (path : Option String) : Bool := path.any (·.toList.contains '\x00')

def flagGiven (topic : Topic) (given : Bool) : List Given := if given then [(topic, "")] else []

def valueGiven (topic : Topic) (value : Option String) : List Given := value.toList.map ((topic, ·))

section Parse

variable {switches : List Switch} {mixed : Bool} {name : String} {topic : Topic}

end Parse

section Common

def Common.given (c : Common) : List Given :=
  flagGiven .verbose c.verbose ++ (flagGiven .quiet c.quiet ++
    (flagGiven .debug c.debug ++ valueGiven .config c.config))

end Common

section Script

end Script

end JobScript.CommandLine
