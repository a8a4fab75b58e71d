import JobScript.Yaml.Graph

/-! # Merging mappings

A mapping is merged in place: what it merges goes before its own entries, so that its own win, and the
entries that asked for it are gone. Whoever else holds the mapping finds it merged. Of several mappings
in a sequence the first one wins.
-/

namespace JobScript.Yaml

/-- Actions on a graph. -/
abbrev Rework (α : Type) := StateT Graph (Except YamlError) α

namespace Rework

def entries (id : Nat) : Rework (List Entry) := do
  match (← get).content? id with
  | some (.mapping entries) => return entries
  | _ => throw .malformed

def setEntries (id : Nat) (entries : List Entry) : Rework Unit :=
  modify (·.setContent id (.mapping entries))

/-- Takes the first entry that merges out of a mapping and gives what it merges. -/
def takeMerge (id : Nat) : Rework (Option Nat) := do
  let entries ← entries id
  let g ← get
  match entries.findIdx? fun entry => g.tagOf entry.1 == .merge with
  | none => return none
  | some n =>
    setEntries id (entries.eraseIdx n)
    return (entries[n]?).map Prod.snd

/-- Takes out the entries that merge one after another; `give` says what they merge. -/
def gather (give : Nat → Rework (List Entry)) (id : Nat) : Nat → Rework (List Entry)
  | 0 => return []
  | count + 1 => do
    match ← takeMerge id with
    | none => return []
    | some source =>
      let part ← give source
      return part ++ (← gather give id count)

/-- As a key, the sign for the value itself is an ordinary text from now on. -/
def plainKey (key : Nat) : Rework Unit := do
  if (← get).tagOf key = .value then modify (·.setTag key .str)

/-- What an entry merges: a mapping, or those of a sequence. -/
def source (merged : Nat → Rework (List Entry)) (id : Nat) : Rework (List Entry) := do
  match (← get).content? id with
  | some (.sequence items) => return (← items.mapM merged).reverse.flatten
  | _ => merged id

/-- The entries of a mapping after it was merged. It may be among those that it merges: it then gives
the entries that it has at that time. -/
def merged : Nat → Nat → Rework (List Entry)
  | 0, _ => throw .tooDeep
  | depth + 1, id => do
    let first ← gather (source (merged depth)) id (← entries id).length
    if !first.isEmpty then setEntries id (first ++ (← entries id))
    let entries ← entries id
    entries.forM fun entry => plainKey entry.1
    return entries

end Rework

end JobScript.Yaml
