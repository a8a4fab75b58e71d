import JobScript.Config.Load
import JobScript.Json
import JobScript.Lifecycle.Compile
import JobScript.Registry

/-! # Requests

From a configuration file and overrides to a compiled script, or to the cache slug alone. Faults of
the configuration and unknown languages are reported as a result; anything else escapes.
-/

namespace JobScript.Request

open Files Log

inductive Refusal
  | config (e : ConfigError)
  | language (e : UnknownLanguage)
deriving DecidableEq, Repr

def Refusal.message : Refusal → String
  | .config e => e.message
  | .language e => e.message

/-- A configuration with the adapter of its language. -/
structure Resolved where
  config : Config
  adapter : Adapter

def Resolved.slug (r : Resolved) : String := r.adapter.slug r.config

/-- Where the configuration comes from and what goes over it, and the registry to ask with what making
it notes. -/
structure Source where
  tree : FileTree
  path : Option Path
  overrides : Config.Overrides
  registry : Registry × List Record

/-- Lets a fault of the configuration through as a result. -/
def capture (result : Except Config.LoadError Config) : Except Escape (Except Refusal Config) :=
  match result with
  | .ok config => .ok (.ok config)
  | .error (.config e) => .ok (.error (.config e))
  | .error (.escape e) => .error e

def resolve (s : Source) : Noted Escape (Except Refusal Resolved) := do
  let (result, records) := (Config.load s.tree s.path s.overrides).execute
  match ← Noted.ofResult (capture result) records with
  | .error refusal => return .error refusal
  | .ok config =>
    let language := some config.language
    Noted.noteAll (s.registry.2 ++ s.registry.1.falling language)
    match s.registry.1.get language with
    | .ok adapter => return .ok ⟨config, adapter⟩
    | .error e => return .error (.language e)

def compile (s : Source) : Noted Escape (Except Refusal Script) := do
  match ← resolve s with
  | .error refusal => return .error refusal
  | .ok r =>
    let (result, records) := (Lifecycle.compile r.adapter r.config).execute
    return .ok (← Noted.ofResult (result.mapError .script) records)

/-! ## Results as records -/

abbrev Report := List (String × Json)

def refused (refusal : Refusal) : Report := [("error", .text refusal.message)]

def ofScript (s : Script) : Report :=
  [("adapter", .text s.language), ("language", .text s.language), ("version", .ofOption s.version),
   ("cache_slug", .text s.cacheSlug), ("cache_directories", .ofTexts s.directories),
   ("phases", .ofTexts s.phases), ("script", .text s.text)]

def ofResolved (r : Resolved) : Report :=
  [("adapter", .text r.adapter.name), ("version", .ofOption r.config.version),
   ("cache_slug", .text r.slug)]

def report {α : Type} (f : α → Report) : Except Refusal α → Report
  | .ok a => f a
  | .error refusal => refused refusal

end JobScript.Request
