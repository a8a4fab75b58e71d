import JobScript.CommandLine.Switch

/-! # Commands

What the words of a command line ask for. The switches for all commands come before the name of the
command, its own ones after it.
-/

namespace JobScript.CommandLine

/-- Switches for all commands. -/
structure Common where
  verbose : Bool
  quiet : Bool
  debug : Bool
  config : Option String
deriving DecidableEq, Repr

inductive CommandName
  | compile
  | slug
  | languages
  | config
deriving DecidableEq, Repr

structure Selection where
  language : Option String
  version : Option String
deriving DecidableEq, Repr

inductive Command
  | compile (selection : Selection) (output : Option String) (json : Bool)
  | slug (selection : Selection) (json : Bool)
  | languages (json : Bool)
  | check (json : Bool)
deriving DecidableEq, Repr

def helpSwitch : Switch := ⟨.help, ["--help"], none, false⟩
def jsonSwitch : Switch := ⟨.json, ["--json-output", "--json"], none, false⟩

def commonSwitches : List Switch :=
  [⟨.version, ["--version"], none, false⟩, ⟨.verbose, ["--verbose"], some 'v', false⟩,
   ⟨.quiet, ["--quiet"], some 'q', false⟩, ⟨.debug, ["--debug"], none, false⟩,
   ⟨.config, ["--config"], some 'c', true⟩, helpSwitch]

def selectionSwitches : List Switch :=
  [⟨.language, ["--language"], some 'l', true⟩, ⟨.version, ["--version"], none, true⟩]

def outputSwitch : Switch := ⟨.output, ["--output"], some 'o', true⟩

def nameOf? (word : String) : Option CommandName :=
  [("compile", .compile), ("slug", .slug), ("languages", .languages), ("config", .config)].lookup word

/-- Help is given before anything else is looked at. -/
def unlessHelp {α : Type} (given : List Given) (k : Except Stop α) : Except Stop α :=
  if Switch.has given .help then .error .help else k

/-- Of help and version the one that is asked for first. -/
def aboutProgram (given : List Given) : Option Stop :=
  given.findSome? fun entry => match entry.1 with
    | .help => some Stop.help
    | .version => some Stop.version
    | _ => none

/-- No path may hold the character zero. -/
def checkPath (path : Option String) : Except Stop Unit :=
  if path.any (·.toList.contains '\x00') then .error .zeroInPath else .ok ()

/-- Words that a double hyphen kept from being switches are taken for switches after all when they
name no command, so that they can still ask about the program. -/
def lateStop (switches : List Switch) (words : List String) : Stop :=
  match Switch.parse switches false words with
  | .ok (given, _) => (aboutProgram given).getD .usage
  | .error reason => reason

/-- The switches for all commands, the command, and the words that are left for it. -/
def Common.parse (args : List String) : Except Stop (Common × CommandName × List String) := do
  let (given, words) ← Switch.parse commonSwitches false args
  if let some stop := aboutProgram given then throw stop
  checkPath (Switch.value? given .config)
  match words with
  | [] => throw .usage
  | name :: rest =>
    match nameOf? name with
    | none => throw (lateStop commonSwitches words)
    | some name =>
      let common : Common := ⟨Switch.has given .verbose, Switch.has given .quiet,
        Switch.has given .debug, (Switch.value? given .config).filter (· ≠ "")⟩
      return (common, name, rest)

/-- The switches of a command that takes no other words. -/
def switchesOnly (switches : List Switch) (args : List String) : Except Stop (List Given) := do
  let (given, words) ← Switch.parse (switches ++ [helpSwitch]) true args
  unlessHelp given (if words.isEmpty then .ok given else .error .usage)

def selectionOf (given : List Given) : Selection :=
  ⟨Switch.value? given .language, Switch.value? given .version⟩

def Command.parse (name : CommandName) (args : List String) : Except Stop Command := do
  match name with
  | .compile =>
    let given ← switchesOnly (selectionSwitches ++ [outputSwitch, jsonSwitch]) args
    checkPath (Switch.value? given .output)
    return .compile (selectionOf given) (Switch.value? given .output) (Switch.has given .json)
  | .slug =>
    let given ← switchesOnly (selectionSwitches ++ [jsonSwitch]) args
    return .slug (selectionOf given) (Switch.has given .json)
  | .languages => return .languages (Switch.has (← switchesOnly [jsonSwitch] args) .json)
  | .config =>
    let (given, words) ← Switch.parse [helpSwitch] false args
    unlessHelp given do
      match words with
      | "check" :: rest => return .check (Switch.has (← switchesOnly [jsonSwitch] rest) .json)
      | words => throw (lateStop [helpSwitch] words)

end JobScript.CommandLine
