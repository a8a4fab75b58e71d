import JobScript.Adapter.Basic
import JobScript.Shell.Prelude

/-! # From a configuration to a script

Every phase runs in order on one builder, each under a comment with its name.
-/

namespace JobScript

open Shell

structure Script where
  text : String
  language : String
  version : Option String
  cacheSlug : String
  directories : List String
  phases : List String
deriving DecidableEq, Repr

namespace Lifecycle

/-- Where a hook comes from. -/
inductive Origin
  | standard
  | adapter (hook : Hook)

def Origin.hook (phase : Phase) : Origin → Hook
  | .standard => defaultHook phase
  | .adapter hook => hook

/-- Commands in the configuration, even none at all, go before the hook of the adapter. -/
def hasOwnCommands (config : Config) : Phase → Bool
  | .install => config.install.isSome
  | .script => config.script.isSome
  | _ => false

def resolve (adapter : Adapter) (config : Config) (phase : Phase) : Origin :=
  if hasOwnCommands config phase then .standard
  else match adapter.ownHook? phase with
    | some hook => .adapter hook
    | none => .standard

def hookOf (adapter : Adapter) (config : Config) (phase : Phase) : Hook :=
  (resolve adapter config phase).hook phase

def runHook (adapter : Adapter) (config : Config) (phase : Phase) : Build Unit :=
  runSteps ((hookOf adapter config phase).steps config)

def runPhase (adapter : Adapter) (config : Config) (phase : Phase) : Build Unit := do
  Build.note (Log.debug log s!"Phase {phase.name} → {(hookOf adapter config phase).name}")
  Build.emit (.raw s!"# {phase.name}")
  runHook adapter config phase

def body (adapter : Adapter) (config : Config) : Build String := do
  Phase.all.forM (runPhase adapter config)
  Build.compile

/-- The lines that one phase puts into a script of its own. -/
def phaseBody (adapter : Adapter) (config : Config) (phase : Phase) : Build String := do
  runHook adapter config phase
  Build.compile

def script (adapter : Adapter) (config : Config) (body : String) : Script where
  text := prelude ++ "\n" ++ body
  language := adapter.name
  version := config.version
  cacheSlug := adapter.slug config
  directories := adapter.directories config
  phases := Phase.all.map Phase.name

def compiled (s : Script) : Log.Record :=
  let lines := s.text.toList.count '\n'
  Log.info log s!"Compiled {s.language} script ({lines} lines, cache {s.cacheSlug})"

def compile (adapter : Adapter) (config : Config) : Build Script := do
  let script := script adapter config (← body adapter config)
  Build.note (compiled script)
  return script

end Lifecycle

/-- Runs on a new builder; what was noted comes in order, whatever the outcome. -/
def Shell.Build.execute {α : Type} (action : Build α) : Except Failure α × List Log.Record :=
  let (outcome, builder) := action .start
  (outcome, builder.journal.reverse)

end JobScript
