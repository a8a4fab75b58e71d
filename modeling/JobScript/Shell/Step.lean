import JobScript.Shell.Program

/-! # Steps on a builder

A step is one call on a builder, whatever was called before. Blocks go by names: a name stands for
the block that was entered under it last.
-/

namespace JobScript.Shell

/-- What a step hands in counts as a directive only once it has been checked. -/
def Item.check : Item → Except Failure Directive
  | .directive d => .ok d
  | .command text options => match Options.ofValue options with
    | .ok options => .ok (.command text options)
    | .error errors => .error (.options errors)
  | .foreign value => .error (.foreign value)

/-- A block to leave is the innermost of those not left yet, or of those with the name. To abandon a
block is to leave it after its body failed, which undoes nothing; to leave it once more, either way, does
nothing at all. -/
inductive Step
  | emit (item : Item)
  | program (p : Program)
  | enterIf (test : String) (name : Option String)
  | enterElse (name : Option String)
  | enterFold (header : String) (name : Option String)
  | leave (name : Option String)
  | abandon (name : Option String)
  /-- Of what a block can hold, a line alone is appended by hand; a conditional never is. -/
  | append (name line : String)
  | close (name : String)
  | inspect (name : String)
  | failedTest
  | compile

/-- No block answers to a name that none was entered under. -/
inductive Reply
  | nothing
  | text (s : String)
  | block (state : Block)
  | absent
deriving DecidableEq, Repr

/-- A builder in use, with the names of its blocks and the scopes not left yet, the latest first. -/
structure Session where
  builder : Builder
  names : List (String × Nat)
  scopes : List (String × Scope)

abbrev Run (α : Type) := ExceptT Failure (StateM Session) α

namespace Session

def on (builder : Builder) : Session := ⟨builder, [], []⟩

def start : Session := on .start

def find? (session : Session) (name : String) : Option Nat := session.names.lookup name

/-- Without a name of its own a block is numbered by the names given so far. -/
def nameFor (session : Session) (name : Option String) : String :=
  name.getD s!"#{session.names.length}"

/-- A name belongs to one block at a time. -/
def enter (session : Session) (name : String) (scope : Scope) : Session :=
  { session with
    names := (name, scope.block) :: session.names.filter (·.1 ≠ name)
    scopes := (name, scope) :: session.scopes }

/-- Whether a name was given to a block, which may be left by now. -/
def knows (session : Session) (name : Option String) : Bool := (name.bind session.find?).isSome

def isMeant (name : Option String) (entry : String × Scope) : Bool :=
  (name.map (· == entry.1)).getD true

end Session

namespace Run

def build {α : Type} (action : Build α) : Run α := fun session =>
  let (outcome, builder) := action session.builder
  (outcome, { session with builder := builder })

def enter (name : Option String) (action : Build Scope) : Run Reply := do
  let scope ← build action
  let session ← get
  let name := session.nameFor name
  set (session.enter name scope)
  return .text name

def quietly (action : Build Unit) : Run Reply := do
  build action
  return .nothing

/-- Goes on with the scope that is meant, which cannot be meant again. -/
def leaving (name : Option String) (k : Scope → Run Reply) : Run Reply := do
  let session ← get
  match session.scopes.find? (Session.isMeant name) with
  | some (_, scope) =>
    set { session with scopes := session.scopes.eraseP (Session.isMeant name) }
    k scope
  -- A way out is gone through once; behind it there is nothing left to run.
  | none => return if session.knows name then .nothing else .absent

def about (name : String) (k : Nat → Run Reply) : Run Reply := do
  match (← get).find? name with
  | some id => k id
  | none => return .absent

end Run

open Run in
def Step.run : Step → Run Reply
  | .emit item => match item.check with
    | .ok d => quietly (Build.emit d)
    | .error failure => throw failure
  | .program p => quietly p.run
  | .enterIf test name => enter name (Build.enterIf test)
  | .enterElse name => enter name Build.enterElse
  | .enterFold header name => enter name (Build.enterFold header)
  | .leave name => leaving name fun scope => quietly (Build.leave scope)
  | .abandon name => leaving name fun _ => return .nothing
  | .append name line => about name fun id => quietly (Build.extend id [.line line])
  | .close name => about name fun id => quietly (Build.close id)
  | .inspect name => about name fun id => do return .block ((← get).builder.block id)
  | .failedTest => return .text Shell.failedTest
  | .compile => do return .text (← build Build.compile)

/-- Runs steps until one fails. -/
def runSteps (steps : List Step) : Build Unit := fun b =>
  let (outcome, session) := (steps.forM fun step => discard step.run) (Session.on b)
  (outcome, session.builder)

/-- Runs all steps, whatever fails, with what each replied and the builder after it. -/
def trace (session : Session) : List Step → List (Except Failure Reply × Builder)
  | [] => []
  | step :: rest =>
    let (outcome, session) := step.run session
    (outcome, session.builder) :: trace session rest

end JobScript.Shell
