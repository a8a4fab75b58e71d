import JobScript.Yaml.Content
import JobScript.Yaml.Graph.Merge
import JobScript.Yaml.Graph.OfTokens
import JobScript.Yaml.Made
import JobScript.Yaml.Token.Scan

/-! # The value of a document

Every node is made into a value once, level by level from the root: what goes wrong at a higher level
is seen first. A mapping is merged when its turn comes, and all nodes after it see it merged.
-/

namespace JobScript.Yaml

/-- The graph as merging has left it, what was made of each node so far, and the collections whose
parts are still to be made, the last one first. -/
structure Making where
  graph : Graph
  made : Makings
  waiting : List Nat

abbrev Make (α : Type) := StateT Making (Except YamlError) α

namespace Make

def made? (id : Nat) : Make (Option Made) := return (← get).made[id]?.join

def put (id : Nat) (m : Made) : Make Unit :=
  modify fun s => { s with made := s.made.setIfInBounds id (some m) }

def rework {α : Type} (action : Rework α) : Make α := do
  let s ← get
  let (a, g) ← action.run s.graph
  set { s with graph := g }
  return a

/-- A mapping has no text that could be a date. -/
def scalarIn (g : Graph) (id : Nat) (tag : Tag) : Except YamlError Made := do
  let text ← g.text id
  if tag = .timestamp ∧ !g.isScalar id then throw .timestampOfMapping
  if tag = .float ∧ spellsNoNumber text then return .noNumber
  return .scalar (← scalarValue tag text)

/-- Scalars are made at once, collections wait for their turn. -/
def begin (id : Nat) : Make Unit := do
  if (← made? id).isNone then
    let g := (← get).graph
    match g.tagOf id with
    | .seq | .map | .omap | .pairs | .set =>
      put id (.sequence [])
      modify fun s => { s with waiting := id :: s.waiting }
    | .merge | .value | .unknown _ => throw .malformed
    | tag => put id (← scalarIn g id tag)

/-- A key has to be a scalar. -/
def beginKey (id : Nat) : Make Unit := do
  begin id
  if !((← made? id).any Made.isScalar) then throw .malformed

def content? (id : Nat) : Make (Option Content) := return (← get).graph.content? id

def items (id : Nat) : Make (List Nat) := do
  match ← content? id with
  | some (.sequence items) => return items
  | _ => throw .malformed

def mappingEntries (id : Nat) : Make (List Entry) := do
  let entries ← rework (Rework.merged followLimit id)
  for (key, value) in entries do
    beginKey key
    begin value
  return entries

/-- An item of an ordered mapping is a mapping with one entry. -/
def pair (id : Nat) : Make Entry := do
  match ← content? id with
  | some (.mapping [(key, value)]) =>
    begin key
    begin value
    return (key, value)
  | _ => throw .malformed

def collection (id : Nat) : Tag → Make Made
  | .map => return .mapping (← mappingEntries id)
  | .set => return .set ((← mappingEntries id).map Prod.fst)
  | .omap | .pairs => return .pairs (← (← items id).mapM pair)
  | _ => do
    let items ← items id
    items.forM begin
    return .sequence items

/-- Makes the collections level by level, each level in the order in which it was met. -/
def levels : Nat → Make Unit
  | 0 => return
  | fuel + 1 => do
    let level := (← get).waiting.reverse
    if !level.isEmpty then
      modify fun s => { s with waiting := [] }
      for id in level do
        put id (← collection id ((← get).graph.tagOf id))
      levels fuel

end Make

def Graph.value (g : Graph) (root : Nat) : Except YamlError Value := do
  let action : Make Unit := do
    Make.begin root
    Make.levels (g.size + 1)
  let (_, s) ← action.run ⟨g, .replicate g.size none, []⟩
  return s.made.value root

/-- The value of the only document in the text; an empty text has none. -/
def read (text : String) : Except YamlError Value := do
  let (tokens, fault) := tokens text
  let (g, root) ← Graph.ofTokens tokens fault
  match root with
  | some root => g.value root
  | none => return .null

end JobScript.Yaml
