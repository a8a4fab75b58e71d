import JobScript.Files.Path
import JobScript.Text.Utf8

/-! # File trees

Files and directories by their absolute place, and the working directory. A path is followed step by
step, so every directory on it has to be there.
-/

namespace JobScript.Files

structure File where
  content : List UInt8
  executable : Bool
deriving DecidableEq, Repr

inductive Entry
  | directory
  | file (f : File)
deriving DecidableEq, Repr

inductive FileError
  | notFound
  | notDirectory
  | isDirectory
  | nameTooLong
  | zeroInName
deriving DecidableEq, Repr

def FileError.message? : FileError → Option String
  | .zeroInName => some "embedded null byte"
  | _ => none

abbrev Location := List String

/-- A place after all the directories around it. -/
def upTo (place : Location) : List Location :=
  (List.range place.length).map fun n => place.take (n + 1)

structure FileTree where
  entries : List (Location × Entry)
  workingDirectory : Location
deriving DecidableEq, Repr

namespace FileTree

/-- The root is a directory of every tree. -/
def find? (t : FileTree) (place : Location) : Option Entry :=
  if place = [] then some .directory else t.entries.lookup place

def isDirectory (t : FileTree) (place : Location) : Bool := t.find? place == some .directory

def setEntry (t : FileTree) (place : Location) (e : Entry) : FileTree :=
  { t with entries := t.entries.filter (·.1 ≠ place) ++ [(place, e)] }

/-- Makes a directory and those around it, where they are missing. -/
def makeDirectory (t : FileTree) (place : Location) : FileTree :=
  (upTo place).foldl
    (fun t place => if (t.find? place).isSome then t else t.setEntry place .directory) t

def addFile (t : FileTree) (place : Location) (content : List UInt8) : FileTree :=
  (t.makeDirectory place.dropLast).setEntry place (.file ⟨content, false⟩)

/-- The place at the end of a path; only the last step may lead nowhere. -/
def follow (t : FileTree) (base : Location) : List String → Except FileError Location
  | [] => .ok base
  | part :: rest =>
    match t.find? base with
    | none => .error .notFound
    | some (.file _) => .error .notDirectory
    | some .directory =>
      if Path.longestName < part.utf8ByteSize then .error .nameTooLong
      else t.follow (Path.climb base part) rest

def placeOf (t : FileTree) (p : Path) : Except FileError Location :=
  if p.holdsZero then .error .zeroInName
  else if Path.longestPath < p.toText.utf8ByteSize then .error .nameTooLong
  else t.follow (p.origin t.workingDirectory) p.parts

/-- The file at a path, if there is one. A path that leads nowhere is no error, but one that is too long
is. -/
def fileAt (t : FileTree) (p : Path) : Except FileError (Option File) :=
  match t.placeOf p with
  | .ok place => match t.find? place with
    | some (.file f) => .ok (some f)
    | _ => .ok none
  | .error .nameTooLong => .error .nameTooLong
  | .error _ => .ok none

def isDirectoryAt (t : FileTree) (p : Path) : Bool :=
  match t.placeOf p with
  | .ok place => t.isDirectory place
  | .error _ => false

def resolve (t : FileTree) (p : Path) : Location := p.resolve t.workingDirectory

/-- Changes the file at a path, or an empty one where there is none. -/
def modifyFile (t : FileTree) (p : Path) (f : File → File) : Except FileError FileTree := do
  let place ← t.placeOf p
  match t.find? place with
  | some .directory => .error .isDirectory
  | some (.file old) => .ok (t.setEntry place (.file (f old)))
  | none => .ok (t.setEntry place (.file (f ⟨[], false⟩)))

def writeScript (t : FileTree) (p : Path) (text : String) : Except FileError FileTree :=
  t.modifyFile p fun _ => ⟨Text.encodeUtf8 text, true⟩

/-- Leaves nothing in the file at a path. -/
def clear (t : FileTree) (p : Path) : Except FileError FileTree :=
  t.modifyFile p fun f => { f with content := [] }

def append (t : FileTree) (p : Path) (text : String) : Except FileError FileTree :=
  t.modifyFile p fun f => { f with content := f.content ++ Text.encodeUtf8 text }

/-- The files below a place that are new or have another content than before. -/
def written (before after : FileTree) (place : Location) : List (Location × File) :=
  after.entries.filterMap fun (p, e) =>
    match e with
    | .file f =>
      let old := match before.find? p with
        | some (.file old) => some old
        | _ => none
      if place.isPrefixOf p && old != some f then some (p.drop place.length, f) else none
    | .directory => none

end FileTree

end JobScript.Files
