import JobScript.Config
import JobScript.Lifecycle.Phase
import JobScript.Shell.Step
import JobScript.Text.Blank

/-! # Hooks

A hook says what one phase puts into the script of a configuration. Here are the hooks of the phases
for which a language has none of its own.
-/

namespace JobScript

open Shell

structure Hook where
  name : String
  steps : Config → List Step

namespace Hook

def ofProgram (name : String) (program : Config → Program) : Hook :=
  ⟨name, fun config => [.program (program config)]⟩

end Hook

namespace Lifecycle

def log : String := "buildscript.core.lifecycle"

/-- The command that runs the tests of a project about which nothing is known. -/
def genericScript : String := "make test"

/-- Name and value of an entry, cut at the first equals sign. -/
def splitEntry (entry : String) : Option (String × String) :=
  match entry.toList.span (· ≠ '=') with
  | (name, _ :: value) => some (Text.strip (String.ofList name), String.ofList value)
  | (_, []) => none

def exportEntry (entry : String) : Program :=
  match splitEntry entry with
  | some (name, value) => .directive (.set name value)
  | none =>
    .log (Log.debug log s!"Ignoring env entry without '=': {Text.quoted entry}")

def exportAll (config : Config) : Program :=
  config.env.foldl (fun sofar entry => sofar ++ exportEntry entry)
    (.directive (.setQuietly "BUILD_LANGUAGE" config.language))

/-- A lone command has the plain name for its fold, several are numbered. -/
def installFold (count place : Nat) : String :=
  if count = 1 then "install" else s!"install.{place + 1}"

def installCommands (commands : List String) : Program :=
  .ofDirectives (commands.mapIdx fun place command =>
    .command command { Options.standard with fold := some (installFold commands.length place) })

def runScript (config : Config) : Program :=
  let commands := config.script.getD []
  .ofDirectives ((if commands.isEmpty then [genericScript] else commands).map .run)

def defaultHook : Phase → Hook
  | .export => .ofProgram "default_export" exportAll
  | .setup => .ofProgram "default_setup" fun _ => .nil
  | .announce => .ofProgram "default_announce" fun _ => .nil
  | .install => .ofProgram "default_install" fun config =>
    installCommands (config.install.getD [])
  | .script => .ofProgram "default_script" runScript

end Lifecycle

end JobScript
