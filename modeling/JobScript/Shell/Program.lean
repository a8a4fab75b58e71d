import JobScript.Shell.Builder

/-! # Well-bracketed programs

A program nests its blocks properly: an `else` comes right after its `if`, and every block that is
entered is left. Only a failure stops it halfway, and then the blocks around the failure stay open.
-/

namespace JobScript.Shell

/-- What to do first, and the rest. -/
inductive Program
  | nil
  | emit (d : Directive) (rest : Program)
  | note (record : Log.Record) (rest : Program)
  | fail (failure : Failure)
  | branch (test : String) (body rest : Program)
  | choice (test : String) (body alternative rest : Program)
  | fold (name : String) (body rest : Program)

namespace Program

def append : Program → Program → Program
  | .nil, q => q
  | .emit d rest, q => .emit d (rest.append q)
  | .note record rest, q => .note record (rest.append q)
  | .fail failure, _ => .fail failure
  | .branch test body rest, q => .branch test body (rest.append q)
  | .choice test body alternative rest, q => .choice test body alternative (rest.append q)
  | .fold name body rest, q => .fold name body (rest.append q)

instance : Append Program := ⟨append⟩

def directive (d : Directive) : Program := .emit d .nil

def ofDirectives (ds : List Directive) : Program := ds.foldr .emit .nil

def ifThen (test : String) (body : Program) : Program := .branch test body .nil

def ifElse (test : String) (body alternative : Program) : Program :=
  .choice test body alternative .nil

def folded (name : String) (body : Program) : Program := .fold name body .nil

def log (record : Log.Record) : Program := .note record .nil

/-- Nothing, unless the condition holds. -/
def when (condition : Bool) (p : Program) : Program := if condition then p else .nil

def ofExcept : Except Failure Program → Program
  | .ok p => p
  | .error failure => .fail failure

def run : Program → Build Unit
  | .nil => pure ()
  | .emit d rest => do
    Build.emit d
    rest.run
  | .note record rest => do
    Build.note record
    rest.run
  | .fail failure => throw failure
  | .branch test body rest => do
    let scope ← Build.enterIf test
    body.run
    Build.leave scope
    rest.run
  | .choice test body alternative rest => do
    let scope ← Build.enterIf test
    body.run
    Build.leave scope
    let scope ← Build.enterElse
    alternative.run
    Build.leave scope
    rest.run
  | .fold name body rest => do
    let scope ← Build.enterFold name
    body.run
    Build.leave scope
    rest.run

@[simp] theorem append_nil (p : Program) : p ++ Program.nil = p := by
  show p.append .nil = p
  induction p <;> simp_all [append]

end Program

/-- The test that holds if the last command failed. -/
def failedTest : String := "[ \"$" ++ statusVariable ++ "\" -ne 0 ]"

/-- Puts a directory in front of the search path, unless it is on it. -/
def prependPath (path : String) : Program :=
  Program.ifThen
    ("[ -n \"$(printf '%s' \":$PATH:\" | grep -vF \":" ++ path ++ ":\")\" ]")
    (.directive (.set "PATH" (path ++ ":$PATH")))

end JobScript.Shell
