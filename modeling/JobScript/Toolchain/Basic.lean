import JobScript.Shell.Program

/-! # Toolchains

How one tool is installed in some version. The script tries what the machine of the attempt tries:
each further try stands in the branch that is taken if the one before it failed.
-/

namespace JobScript

open Shell Template

/-- The commands are templates over the version. The pin file, if the tool has one, names the version
for a project. -/
structure Toolchain where
  name : String
  install : String
  select : String
  envVariable : String
  standardVersion : String
  pinFile : Option String
deriving DecidableEq, Repr

namespace Toolchain

def log : String := "buildscript.core.bootstrap"

def withVersion (version template : String) : Except Failure String :=
  (format [("version", version)] template).mapError .template

def command (t : Toolchain) (version : String) : State → Except Failure String
  | .installing => withVersion version t.install
  | .fallback => withVersion version t.select
  | state => .error (.machine (.noCommand state))

/-- What is said on entering a state, with the colour. -/
def warnings : State → List (String × Option String)
  | .fallback =>
    [("Failed to install \x7bversion\x7d. Remote repository may not be reachable.", some "red"),
     ("Using locally available version \x7bversion\x7d, if applicable.", none)]
  | .failed => [("Unable to use \x7bversion\x7d", some "red")]
  | _ => []

def warn (version : String) (warning : String × Option String) : Program :=
  .ofExcept do
    let message ← withVersion version warning.1
    return .directive (.echo message warning.2)

def warnAll (version : String) (state : State) : Program :=
  (warnings state).foldr (fun warning rest => warn version warning ++ rest) .nil

/-- The script that tries one state, with what is done where it fails. Only the first try is timed; no
try is fatal but the end of all. -/
def attempt (t : Toolchain) (version : String) (state : State) (onFailure : Program) : Program :=
  .ofExcept do
    let command ← t.command version state
    let options := { Options.standard with assert := false, timing := state = .installing }
    return .directive (.command command options) ++ .ifThen failedTest onFailure

/-- The command that always fails, and with it the build. -/
def giveUp : Program :=
  .directive (.command "false" { Options.standard with echo := false, timing := false })

/-- Goes along the failures of a machine, one try in the branch of the one before, until it is over. -/
def attemptAll (t : Toolchain) (version : String) (m : Machine) : Program :=
  t.attempt version m.state <|
    match _h : m.advance false with
    | .error e => .fail (.machine e)
    | .ok next =>
      warnAll version next.state ++ if next.isOver then giveUp else t.attemptAll version next
termination_by m.state.tries
decreasing_by exact Machine.tries_lt_of_advance _h

def bootstrap (t : Toolchain) (version : String) : Program :=
  .log (Log.debug log s!"Bootstrapping {t.name} {version}") ++ t.attemptAll version .start ++
    .directive (.setQuietly t.envVariable version)

/-- The wanted version, else the pinned one, else the standard one. -/
def installVersion (t : Toolchain) (version : Option String) : Program :=
  match version.filter (· ≠ "") with
  | some version => t.bootstrap version
  | none => match t.pinFile.filter (· ≠ "") with
    | none => t.bootstrap t.standardVersion
    | some pin =>
      .ifElse s!"[ -f {pin} ]"
        (.directive (.sayIn "yellow" s!"Using {t.name} version from {pin}") ++
          t.bootstrap s!"$(cat {pin})")
        (t.bootstrap t.standardVersion)

end Toolchain

end JobScript
