import JobScript.Field
import JobScript.Log.Record

/-! # Build configurations

What a build wants: its language and version, caches, environment, and commands of its own. Raw data
is normalised on the way in, so that each field holds one kind of thing.
-/

namespace JobScript

open Number

structure Config where
  language : String
  version : Option String
  cache : List String
  npmArgs : String
  env : List String
  install : Option (List String)
  script : Option (List String)
  hosts : List (String × String)
  appHost : Option String
deriving DecidableEq, Repr

inductive ConfigError
  | notFound (path : String)
  | noFile
  | malformed (path : String)
  | noMapping (path kind : String)
  | invalid (errors : List FieldError)
deriving DecidableEq, Repr

/-- Name of the configuration file of a project. -/
def configFileName : String := ".build.yml"

/-- The wording of a fault inside the file or a field is left open. -/
def ConfigError.message : ConfigError → String
  | .notFound path => s!"Config file not found: {path}"
  | .noFile =>
    s!"No {configFileName} found. Create one, specify --config, or pass --language."
  | .malformed path => s!"Invalid YAML in {path}: ..."
  | .noMapping path kind => s!"Expected a YAML mapping in {path}, got {kind}"
  | .invalid _ => "Invalid build configuration: ..."

namespace Config

/-- A version counts only if it is not empty. -/
def givenVersion (c : Config) : Option String := c.version.filter (· ≠ "")

def caches (c : Config) (name : String) : Bool := c.cache.contains name

/-- Older names for the version, the first one that is given counts. -/
def olderVersionKeys : List String := ["node_js", "nodejs"]

def takeOut (names : List String) (entries : Value.Entries) : Value.Entries :=
  names.foldl (fun entries name => entries.erase name) entries

def givenAt (entries : Value.Entries) (key : String) : Option Value :=
  (entries.get? key).filter Value.isGiven

/-- What has an older name becomes the version, unless there is one. Older names are gone then. -/
def modernised (entries : Value.Entries) : Value.Entries :=
  let rest := takeOut olderVersionKeys entries
  match olderVersionKeys.findSome? (givenAt entries) with
  | some v => if (givenAt rest "version").isNone then rest.put "version" v else rest
  | none => rest

/-- The number one tenth is what is left of version 0.10 once it was read as a number. -/
def versionText : Value → Except Fault (Option String)
  | .bool b => .ok (some (Value.bool b).text)
  | .int n => match writeInt n with
    | .ok text => .ok (some text)
    | .error _ => .error .refused
  | .float x => .ok (some (if x.numEq (.ofRatio false 1 10) then "0.10" else x.display))
  | v => v.asOptionalText

/-- Of a list of versions the first one counts. -/
def firstVersion : Value → Value
  | .seq items => items.headD .null
  | v => v

def versionOf (entries : Value.Entries) : Checked (Option String) :=
  match entries.get? "version" with
  | some v => Checked.placed [.name "version"] (versionText (firstVersion v))
  | none => .ok none

def textOf (name standard : String) (entries : Value.Entries) : Checked String :=
  match entries.get? name with
  | some v => Checked.placed [.name name] v.asText
  | none => .ok standard

def optionalTextOf (name : String) (entries : Value.Entries) : Checked (Option String) :=
  match entries.get? name with
  | some v => Checked.placed [.name name] v.asOptionalText
  | none => .ok none

/-- Names of caches, as one text, a list, or a mapping to whether they are switched on. Truth and
falsehood name none. -/
def cacheOf (entries : Value.Entries) : Checked (List String) :=
  let place := [Place.name "cache"]
  match entries.get? "cache" with
  | none | some .null | some (.bool _) => .ok []
  | some (.str name) => .ok [name]
  | some (.map switches) =>
    Value.textsFrom place 0 ((switches.filter (·.2.truthy)).map Prod.fst)
  | some v => v.asTexts place

/-- One text stands for a list of one. -/
def listed (name : String) : Value → Checked (List String)
  | .str s => .ok [s]
  | v => v.asTexts [.name name]

def envOf (entries : Value.Entries) : Checked (List String) :=
  match entries.get? "env" with
  | some v => listed "env" v
  | none => .ok []

def commandsOf (name : String) (entries : Value.Entries) : Checked (Option (List String)) :=
  match entries.get? name with
  | none | some .null => .ok none
  | some v => (listed name v).map some

def hostsOf (entries : Value.Entries) : Checked (List (String × String)) :=
  match entries.get? "hosts" with
  | some v => v.asTextEntries [.name "hosts"]
  | none => .ok []

/-- Names that mean nothing are ignored; faults come in the order of the fields. -/
def ofFields (entries : Value.Entries) : Checked Config :=
  let language := textOf "language" "generic" entries
  let version := versionOf entries
  let cache := cacheOf entries
  let npmArgs := textOf "npm_args" "" entries
  let env := envOf entries
  let install := commandsOf "install" entries
  let script := commandsOf "script" entries
  let hosts := hostsOf entries
  let appHost := optionalTextOf "app_host" entries
  match language, version, cache, npmArgs, env, install, script, hosts, appHost with
  | .ok language, .ok version, .ok cache, .ok npmArgs, .ok env, .ok install, .ok script, .ok hosts,
      .ok appHost =>
    .ok ⟨language, version, cache, npmArgs, env, install, script, hosts, appHost⟩
  | _, _, _, _, _, _, _, _, _ =>
    .error (language.faults ++ version.faults ++ cache.faults ++ npmArgs.faults ++ env.faults ++
      install.faults ++ script.faults ++ hosts.faults ++ appHost.faults)

def ofEntries (entries : Value.Entries) : Checked Config := ofFields (modernised entries)

def ofValue : Value → Checked Config
  | .map entries => ofEntries entries
  | _ => .error [⟨.noRecord, []⟩]

abbrev Overrides := List (String × Value)

/-- A version that is asked for comes before whatever has an older name in the data. -/
def overrideOne (entries : Value.Entries) (name : String) (v : Value) : Value.Entries :=
  (if name = "version" then takeOut olderVersionKeys entries else entries).put name v

/-- An override without a value leaves the data alone. -/
def override (entries : Value.Entries) : Overrides → Value.Entries
  | [] => entries
  | (_, .null) :: rest => override entries rest
  | (name, v) :: rest => override (overrideOne entries name v) rest

@[simp] theorem override_nil (entries : Value.Entries) : override entries [] = entries := rfl

@[simp] theorem override_null (entries : Value.Entries) (name : String) (rest : Overrides) :
    override entries ((name, .null) :: rest) = override entries rest := rfl

def build (entries : Value.Entries) (overrides : Overrides) : Except ConfigError Config :=
  (ofEntries (override entries overrides)).mapError .invalid

def log : String := "buildscript.core.config.loader"

def loaded (c : Config) : Log.Record :=
  Log.info log
    ("Loaded build config: language=" ++ c.language ++ " version=" ++
      c.givenVersion.getD "(unset)")

end Config

end JobScript
