import JobScript.Adapter.Node
import JobScript.Text.Case

/-! # Registry of adapters

Maps what a configuration may call its language to the adapter. Names and aliases are looked up in
lower case; where two adapters claim one key, the later registration has it.
-/

namespace JobScript

structure UnknownLanguage where
  language : Option String
deriving DecidableEq, Repr

def UnknownLanguage.message (e : UnknownLanguage) : String :=
  "No adapter for language " ++ (e.language.map Text.quoted).getD "None"

/-- Adapters in the order of their first registration, and which name each key stands for. -/
structure Registry where
  adapters : List Adapter
  names : List (String × String)
  fallback : Option Adapter

namespace Registry

def log : String := "buildscript.adapters.registry"

def empty (fallback : Option Adapter) : Registry := ⟨[], [], fallback⟩

def isListed (r : Registry) (name : String) : Bool := r.adapters.any (·.name == name)

/-- An adapter replaces the one of its name where that stands. -/
def setAdapter (adapter : Adapter) : List Adapter → List Adapter
  | [] => [adapter]
  | a :: rest =>
    if a.name = adapter.name then adapter :: rest else a :: setAdapter adapter rest

def setName (key name : String) (names : List (String × String)) : List (String × String) :=
  (key, name) :: names.filter (·.1 ≠ key)

theorem find?_setAdapter_self (adapter : Adapter) (adapters : List Adapter) :
    (setAdapter adapter adapters).find? (·.name == adapter.name) = some adapter := by
  induction adapters with
  | nil => simp [setAdapter]
  | cons a rest ih => by_cases h : a.name = adapter.name <;> simp [setAdapter, h, ih]

theorem find?_setAdapter_of_ne {adapter : Adapter} {name : String} (h : name ≠ adapter.name)
    (adapters : List Adapter) :
    (setAdapter adapter adapters).find? (·.name == name) = adapters.find? (·.name == name) := by
  induction adapters with
  | nil => simp [setAdapter, Ne.symm h]
  | cons a rest ih =>
    by_cases ha : a.name = adapter.name
    · simp [setAdapter, ha, Ne.symm h]
    · simp [setAdapter, ha, List.find?_cons, ih]

@[simp] theorem lookup_setName_self (key name : String) (names : List (String × String)) :
    (setName key name names).lookup key = some name := by
  simp [setName]

theorem lookup_setName_of_ne {key other : String} (name : String) (h : other ≠ key)
    (names : List (String × String)) :
    (setName key name names).lookup other = names.lookup other := by
  have hb : (other == key) = false := by simpa using h
  rw [setName, List.lookup_cons, hb]
  induction names with
  | nil => rfl
  | cons entry rest ih =>
    obtain ⟨k, v⟩ := entry
    by_cases hk : k = key
    · subst hk
      simpa [List.lookup_cons, hb] using ih
    · by_cases ho : other = k <;> simp_all [List.lookup_cons]

/-- The keys under which an adapter can be asked for. -/
def keys (adapter : Adapter) : List String := (adapter.name :: adapter.aliases).map Text.toLower

def register (r : Registry) (adapter : Adapter) : Registry :=
  { r with
    adapters := setAdapter adapter r.adapters
    names := (keys adapter).foldl (fun names key => setName key adapter.name names) r.names }

def registering (r : Registry) (adapter : Adapter) : List Log.Record :=
  (if r.isListed adapter.name then
    [Log.warning log s!"Overwriting existing adapter: {adapter.name}"] else []) ++
    [Log.debug log s!"Registered adapter: {adapter.name}"]

/-- Takes away the adapter with every key that stands for it. -/
def unregister (r : Registry) (name : String) : Registry :=
  { r with
    adapters := r.adapters.filter (·.name ≠ name)
    names := r.names.filter (·.2 ≠ name) }

def find? (r : Registry) (name : String) : Option Adapter := r.adapters.find? (·.name == name)

/-- The adapter whose name or alias it is. -/
def own? (r : Registry) (language : Option String) : Option Adapter :=
  (r.names.lookup (Text.toLower (language.getD ""))).bind r.find?

def get (r : Registry) (language : Option String) : Except UnknownLanguage Adapter :=
  match r.own? language <|> r.fallback with
  | some adapter => .ok adapter
  | none => .error ⟨language⟩

def falling (r : Registry) (language : Option String) : List Log.Record :=
  match r.own? language, r.fallback with
  | none, some adapter =>
    let shown := (language.map Text.quoted).getD "None"
    [Log.info log s!"No adapter for {shown}, using {adapter.name}"]
  | _, _ => []

def list (r : Registry) : List String := r.adapters.map Adapter.name

/-- The keys of a name, in order, without the name itself. -/
def aliases (r : Registry) (name : String) : List String :=
  ((r.names.filter fun entry => entry.2 == name && entry.1 != name).map Prod.fst).mergeSort
    (fun a b => decide (a ≤ b))

/-- Registers adapters one after another, with what is noted on the way. -/
def registerAll (r : Registry) (adapters : List Adapter) : Registry × List Log.Record :=
  adapters.foldl
    (fun (r, notes) adapter => (r.register adapter, notes ++ r.registering adapter)) (r, [])

def builtIn : List Adapter := [Adapter.generic, Node.adapter]

/-- The registry of all adapters there are. -/
def standard : Registry × List Log.Record := (empty none).registerAll builtIn

end Registry

end JobScript
