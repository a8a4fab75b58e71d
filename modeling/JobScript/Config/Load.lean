import JobScript.Config
import JobScript.Escape
import JobScript.Files.Tree
import JobScript.Log.Noted
import JobScript.Yaml.Document

/-! # Loading a configuration

The file is the nearest one from the working directory upwards, unless a path is given. What it holds
is taken flat or under the key for the build; overrides go over it.
-/

namespace JobScript.Config

open Files Log

/-- How many directories are looked at. -/
def searchDepth : Nat := 20

def candidate (directory : Location) : Path := .ofPlace (directory ++ [configFileName])

/-- The nearest file of the name in a directory or above it. The search ends with the first candidate that
cannot be looked up. -/
def findFrom (t : FileTree) : Nat → Location → Except FileError (Option Path)
  | 0, _ => .ok none
  | depth + 1, directory =>
    match t.fileAt (candidate directory) with
    | .error e => .error e
    | .ok (some _) => .ok (some (candidate directory))
    | .ok none => if directory.isEmpty then .ok none else findFrom t depth directory.dropLast

/-- A start with the character zero in it has no place. -/
def find (t : FileTree) (start : Path) : Except FileError (Option Path) :=
  if start.holdsZero then .error .zeroInName else findFrom t searchDepth (t.resolve start)

/-- The file that is given, or else the one that a search from the working directory comes to. -/
def locate (t : FileTree) : Option Path → Except FileError (Option Path)
  | some path => .ok (some path)
  | none => find t .here

/-- A carriage return, alone or before a line feed, ends a line as a line feed does. -/
def normaliseBreaks : List Char → List Char
  | [] => []
  | '\r' :: '\n' :: rest => '\n' :: normaliseBreaks rest
  | '\r' :: rest => '\n' :: normaliseBreaks rest
  | c :: rest => c :: normaliseBreaks rest

def decode? (content : List UInt8) : Option String :=
  (Text.decodeUtf8? content).map fun text => String.ofList (normaliseBreaks text.toList)

/-- Either the configuration is at fault or something that it does not explain. -/
inductive LoadError
  | config (e : ConfigError)
  | escape (e : Escape)

def documentError (path : String) : Yaml.YamlError → LoadError
  | .malformed => .config (.malformed path)
  | e => .escape (.document e)

/-- The key under which everything may be wrapped. -/
def wrapper : String := "build"

def unwrap (entries : Value.Entries) : Value.Entries :=
  match entries.get? wrapper with
  | some (.map inner) => inner
  | _ => entries

/-- An empty document is an empty mapping. -/
def entriesOf (path : String) : Value → Except LoadError Value.Entries
  | .null => .ok []
  | .map entries => .ok (unwrap entries)
  | v => .error (.config (.noMapping path v.kind))

def readText (path : String) (content : List UInt8) : Except LoadError Value.Entries :=
  match decode? content with
  | none => .error (.escape .undecodable)
  | some text => match Yaml.read text with
    | .error e => .error (documentError path e)
    | .ok v => entriesOf path v

def readData (t : FileTree) (path : Path) : Noted LoadError Value.Entries := do
  match t.fileAt path with
  | .error e => throw (.escape (.file e))
  | .ok none => throw (.config (.notFound path.toText))
  | .ok (some f) =>
    Noted.note (debug log s!"Loading build config from {path.toText}")
    match readText path.toText f.content with
    | .ok entries => return entries
    | .error e => throw e

def buildNoted (entries : Value.Entries) (overrides : Overrides) : Noted LoadError Config := do
  match build entries overrides with
  | .ok config =>
    Noted.note (loaded config)
    return config
  | .error e => throw (.config e)

/-- An override that says nothing is none. -/
def overrides? (overrides : Overrides) (name : String) : Bool :=
  overrides.any fun (n, v) => n == name && match v with
    | .null => false
    | _ => true

/-- Without a file the language has to be given. -/
def load (t : FileTree) (path : Option Path) (overrides : Overrides) : Noted LoadError Config := do
  match locate t path with
  | .error e => throw (.escape (.file e))
  | .ok (some path) => buildNoted (← readData t path) overrides
  | .ok none =>
    if overrides? overrides "language" then buildNoted [] overrides
    else throw (.config .noFile)

end JobScript.Config
