import JobScript.CommandLine.Arguments
import JobScript.Log.Setup
import JobScript.Request
import JobScript.Text.ControlSequence

/-! # Running a command

A run turns the arguments, the environment and the files into the texts on both outputs, the files
afterwards and an exit code.
-/

namespace JobScript.CommandLine

open Files Log

structure World where
  tree : FileTree
  environment : List (String × String)
  stamp : Stamp

/-- What a command itself does; the log comes on top of it. -/
structure Effect where
  exitCode : Nat
  stdout : String
  stderr : String
  tree : FileTree
  escape : Option Escape

namespace Effect

def failWith (tree : FileTree) (escape : Escape) : Effect := ⟨1, "", "", tree, some escape⟩

/-- Prints one text after another, up to one that cannot be encoded. None of the outputs is a
terminal. -/
def printAll (tree : FileTree) (exitCode : Nat) (texts : List String) : Effect :=
  let texts := texts.map Text.dropSequences
  let stdout := String.join (texts.takeWhile Text.isEncodable)
  if texts.all Text.isEncodable then ⟨exitCode, stdout, "", tree, none⟩
  else ⟨1, stdout, "", tree, some .unencodable⟩

def print (tree : FileTree) (exitCode : Nat) (text : String) : Effect :=
  printAll tree exitCode [text]

def complain (tree : FileTree) (text : String) : Effect :=
  ⟨1, "", Text.dropSequences text, tree, none⟩

end Effect

def programName : String := "buildscript"
def programVersion : String := "0.1.0"

def usageCode : Nat := 2

def usage : String := s!"Usage: {programName} [SWITCHES] compile|slug|languages|config check [SWITCHES]\n"

def stop (tree : FileTree) : Stop → Effect
  | .usage => ⟨usageCode, "", usage, tree, none⟩
  | .help => .print tree 0 usage
  | .zeroInPath => .failWith tree (.file .zeroInName)
  | .version => .print tree 0 s!"{programName}, version {programVersion}\n"

def setting? (w : World) (name : String) : Option String := w.environment.lookup name

/-- The switches decide on the level before the environment does. -/
def levelName (w : World) (c : Common) : Option String :=
  if c.debug then some "DEBUG"
  else if c.verbose then some "INFO"
  else if c.quiet then some "ERROR"
  else setting? w "BUILDSCRIPT_LOG_LEVEL"

def logSetup (w : World) (c : Common) : Setup :=
  .ofNames (levelName w c) (setting? w "BUILDSCRIPT_LOG_FILE")
    (setting? w "BUILDSCRIPT_LOG_FILE_LEVEL")

/-- Writes to a log file, which is made where it is missing. -/
def appendLog (tree : FileTree) (file : FileSetup) (text : String) : Except FileError FileTree :=
  tree.append (.ofPlace (tree.resolve (.ofText file.path))) text

def openLog (tree : FileTree) (s : Setup) : Except FileError FileTree :=
  match s.file with
  | some file => appendLog tree file ""
  | none => .ok tree

def textOrNull : Option String → Value
  | some s => .str s
  | none => .null

/-- The host for files comes from the environment alone. -/
def overrides (w : World) (s : Selection) : Config.Overrides :=
  let host := (setting? w "BUILDSCRIPT_APP_HOST").filter (· ≠ "")
  [("language", textOrNull s.language), ("version", textOrNull s.version),
   ("app_host", textOrNull host)]

def source (tree : FileTree) (c : Common) (overrides : Config.Overrides) : Request.Source :=
  ⟨tree, c.config.map .ofText, overrides, Registry.standard⟩

/-- A report on standard output; the exit code tells whether the request was refused. -/
def printReport {α : Type} (tree : FileTree) (head : Bool → Request.Report) (f : α → Request.Report)
    (result : Except Request.Refusal α) : Effect :=
  let fine := match result with
    | .ok _ => true
    | .error _ => false
  .print tree (if fine then 0 else 1)
    ((Json.object (head fine ++ Request.report f result)).toText ++ "\n")

def complaint (refusal : Request.Refusal) : String := s!"❌ {refusal.message}\n"

/-- Where no file is asked for, the script itself is the output. A script that cannot be encoded leaves
an empty file. -/
def deliver (tree : FileTree) (c : Common) (output : Option String) (s : Script) : Effect :=
  match output.filter (· ≠ "") with
  | none => .print tree 0 s.text
  | some output =>
    let path := Path.ofText output
    let fine := Text.isEncodable s.text
    match if fine then tree.writeScript path s.text else tree.clear path with
    | .error e => .failWith tree (.file e)
    | .ok tree =>
      if !fine then .failWith tree .unencodable else
      let said := if c.quiet then "" else
        s!"✅ {s.language} script written to {path.toText}\n   Cache: {s.cacheSlug}\n"
      ⟨0, "", Text.dropSequences said, tree, none⟩

/-- The answer to a request for a script, as a report, a script or a complaint. -/
def answer (c : Common) (output : Option String) (json : Bool) (result : Except Request.Refusal Script)
    (tree : FileTree) : Effect :=
  if json then printReport tree (fun _ => []) Request.ofScript result
  else match result with
    | .ok script => deliver tree c output script
    | .error refusal => .complain tree (complaint refusal)

def compile (w : World) (tree : FileTree) (c : Common) (selection : Selection)
    (output : Option String) (json : Bool) : Noted Escape (FileTree → Effect) := do
  return answer c output json (← Request.compile (source tree c (overrides w selection)))

def slug (w : World) (tree : FileTree) (c : Common) (selection : Selection) (json : Bool) :
    Noted Escape (FileTree → Effect) := do
  let result ← Request.resolve (source tree c (overrides w selection))
  return fun tree =>
    if json then printReport tree (fun _ => []) Request.ofResolved result
    else match result with
      | .ok r => .print tree 0 (r.slug ++ "\n")
      | .error refusal => .complain tree (complaint refusal)

/-- The lines of a verdict on a configuration. -/
def verdict : Except Request.Refusal Request.Resolved → List String
  | .ok r =>
    let version := r.config.givenVersion.getD "(pin file or default)"
    ["✅ Configuration is valid\n", s!"   Language: {r.config.language} → {r.adapter.name}\n",
      s!"   Version:  {version}\n", s!"   Cache:    {r.slug}\n"]
  | .error refusal => ["❌ Configuration error:\n", s!"   • {refusal.message}\n"]

def check (tree : FileTree) (c : Common) (json : Bool) : Noted Escape (FileTree → Effect) := do
  let result ← Request.resolve (source tree c [])
  let exitCode := match result with
    | .ok _ => 0
    | .error _ => 1
  return fun tree =>
    if json then printReport tree (fun fine => [("valid", .bool fine)]) Request.ofResolved result
    else .printAll tree exitCode (verdict result)

def languageLine (r : Registry) (a : Adapter) : String :=
  let aliases := r.aliases a.name
  let phases := a.overrides.map Phase.name
  let label := if aliases.isEmpty then "" else " (" ++ String.intercalate ", " aliases ++ ")"
  let overrides := if phases.isEmpty then "(defaults only)" else String.intercalate ", " phases
  s!"   • {a.name}{label}\n     overrides: {overrides}\n"

def languageReport (r : Registry) (a : Adapter) : String × Json :=
  (a.name, .object [("aliases", .ofTexts (r.aliases a.name)),
    ("overrides", .ofTexts (a.overrides.map Phase.name))])

def languages (json : Bool) : Noted Escape (FileTree → Effect) := do
  let (r, records) := Registry.standard
  Noted.noteAll records
  return fun tree => .print tree 0
    (if json then (Json.object (r.adapters.map (languageReport r))).toText ++ "\n"
    else String.join (r.adapters.map (languageLine r)))

/-- What a command comes to is done to the files as the log leaves them. -/
def perform (w : World) (tree : FileTree) (c : Common) : Command → Noted Escape (FileTree → Effect)
  | .compile selection output json => compile w tree c selection output json
  | .slug selection json => slug w tree c selection json
  | .languages json => languages json
  | .check json => check tree c json

/-- A script is never written over a directory. -/
def isRefused (tree : FileTree) : Command → Bool
  | .compile _ (some output) _ => output ≠ "" ∧ tree.isDirectoryAt (.ofText output)
  | _ => false

def parseIn (tree : FileTree) (name : CommandName) (args : List String) : Except Stop Command := do
  let command ← Command.parse name args
  if isRefused tree command then throw .usage
  return command

/-- The records go into the log file as they come, before the command changes any file. -/
def addRecords (tree : FileTree) (s : Setup) (stamp : Stamp) (records : List Record) : FileTree :=
  match s.file with
  | some file => (appendLog tree file (fileText s file stamp records)).toOption.getD tree
  | none => tree

/-- The log goes before what a command itself says. What is said spells out the halves of surrogate pairs. -/
def addLog (s : Setup) (stamp : Stamp) (records : List Record) (e : Effect) : Effect :=
  { e with stderr := Text.spellHalves (consoleText s stamp records ++ e.stderr) }

/-- The log is set up once the command is known, and before its own switches are looked at. -/
def run (w : World) (args : List String) : Effect :=
  match Common.parse args with
  | .error reason => stop w.tree reason
  | .ok (c, name, rest) =>
    let s := logSetup w c
    match openLog w.tree s with
    | .error e => .failWith w.tree (.file e)
    | .ok tree =>
      match parseIn tree name rest with
      | .error reason => stop tree reason
      | .ok command =>
        let (result, records) := (perform w tree c command).execute
        let tree := addRecords tree s w.stamp records
        addLog s w.stamp records (match result with
          | .ok act => act tree
          | .error escape => .failWith tree escape)

end JobScript.CommandLine
