import JobScript.Lifecycle.Hook
import JobScript.Slug

/-! # Adapters

An adapter is what a language adds to the lifecycle: names, hooks for some of the phases, and what
tells its caches apart.
-/

namespace JobScript

/-- `hooks` has at most one entry a phase. -/
structure Adapter where
  name : String
  aliases : List String
  hooks : List (Phase × Hook)
  standardVersion : Option String
  slugExtras : Config → List String
  directories : Config → List String

namespace Adapter

/-- A later hook of a phase replaces an earlier one in its place. -/
def setHook (phase : Phase) (hook : Hook) : List (Phase × Hook) → List (Phase × Hook)
  | [] => [(phase, hook)]
  | (p, h) :: rest => if p = phase then (p, hook) :: rest else (p, h) :: setHook phase hook rest

def ownHook? (a : Adapter) (phase : Phase) : Option Hook := a.hooks.lookup phase

def overrides (a : Adapter) : List Phase :=
  Phase.all.filter fun phase => (a.ownHook? phase).isSome

/-- The version that was given, else the one the language assumes. -/
def effectiveVersion (a : Adapter) (config : Config) : Option String :=
  config.givenVersion <|> a.standardVersion

def slug (a : Adapter) (config : Config) : String :=
  Slug.ofTexts a.name ((a.effectiveVersion config).getD "") (a.slugExtras config)

/-- Shows the phases in the order in which the hooks were given. -/
def display (a : Adapter) : String :=
  let phases := a.hooks.map fun entry => Text.quoted entry.1.name
  s!"<LanguageAdapter name={Text.quoted a.name} overrides=[" ++ String.intercalate ", " phases ++ "]>"

/-- Hooks, slug and directories are the standard ones throughout. -/
def generic : Adapter := ⟨"generic", ["shell", "minimal"], [], none, fun _ => [], fun _ => []⟩

end Adapter

end JobScript
