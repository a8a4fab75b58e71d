import JobScript.Value
import JobScript.Yaml.Graph

/-! # Values put together

What the nodes have become is put together from the parts up, so that a node that is part of several
collections is put together only once.
-/

namespace JobScript.Yaml

/-- What a node has become, its parts still given by their numbers. What the format spells as no number
is one and the same wherever it stands. -/
inductive Made
  | scalar (v : Value)
  | noNumber
  | sequence (items : List Nat)
  | mapping (entries : List Entry)
  | set (items : List Nat)
  | pairs (entries : List Entry)
deriving Repr, Inhabited

namespace Made

def isScalar : Made → Bool
  | .scalar _ | .noNumber => true
  | _ => false

/-- The nodes that the value is put together from. -/
def parts : Made → List Nat
  | .scalar _ | .noNumber => []
  | .sequence items | .set items => items
  | .mapping entries | .pairs entries => entries.flatMap fun entry => [entry.1, entry.2]

end Made

/-- What has become of every node so far. -/
abbrev Makings := Array (Option Made)

def partsOf (makings : Makings) (id : Nat) : List Nat :=
  (makings[id]?.join.map Made.parts).getD []

/-! ## From the parts up -/

inductive Mark
  | unseen
  | entered
  | left
deriving DecidableEq, Repr

/-- The nodes that were left, in that order, and whether one was met inside of itself. -/
structure Walk where
  marks : Array Mark
  order : Array Nat
  loops : Bool

def Walk.mark (w : Walk) (id : Nat) (m : Mark) : Walk :=
  { w with marks := w.marks.setIfInBounds id m }

/-- Leaves a node after its parts. -/
def walk (makings : Makings) : Nat → Nat → StateM Walk Unit
  | 0, _ => return
  | fuel + 1, id => do
    match (← get).marks[id]? with
    | none | some .left => return
    | some .entered => modify fun w => { w with loops := true }
    | some .unseen =>
      modify (·.mark id .entered)
      (partsOf makings id).forM (walk makings fuel)
      modify fun w => { w.mark id .left with order := w.order.push id }

def walkFrom (makings : Makings) (root : Nat) : Walk :=
  ((walk makings (makings.size + 1) root).run ⟨.replicate makings.size .unseen, #[], false⟩).2

/-! ## Values -/

/-- A key with the number of its node, or one number for all that are spelt as no number. -/
structure Key where
  id : Nat
  value : Value

/-- A key is the same as itself, and as one of the same value. -/
def Key.same (a b : Key) : Bool := a.id == b.id || a.value.sameKey b.value

/-- What a node is worth once its parts are. -/
def valueOf (makings : Makings) (values : Array Value) (id : Nat) : Value :=
  let part (id : Nat) : Value := values.getD id .null
  let key (id : Nat) : Key := match makings[id]?.join with
    | some .noNumber => ⟨makings.size, part id⟩
    | _ => ⟨id, part id⟩
  let entries (given : List Entry) : List (Key × Value) :=
    given.foldl (fun sofar entry =>
      Value.insertBy Key.same (key entry.1) (part entry.2) sofar) []
  match makings[id]?.join with
  | none => .null
  | some (.scalar v) => v
  | some .noNumber => .float .nan
  | some (.sequence items) => .seq (items.map part)
  | some (.mapping given) => .map ((entries given).map fun (key, value) => (key.value, value))
  | some (.set items) => .set ((entries (items.map fun id => (id, id))).map fun entry => entry.1.value)
  | some (.pairs given) => .seq (given.map fun (key, value) => .seq [part key, part value])

/-- A node inside of itself has no finite value; it is spelt out to this depth. -/
def unrolling : Nat := 500

/-- The value of a node. One round from the parts up does for all nodes but those inside of themselves,
which get one level deeper with each round. -/
def Makings.value (makings : Makings) (root : Nat) : Value :=
  let w := walkFrom makings root
  let round (values : Array Value) : Array Value :=
    w.order.foldl (fun values id => values.setIfInBounds id (valueOf makings values id)) values
  let rounds := if w.loops then unrolling else 1
  (Nat.repeat round rounds (.replicate makings.size .null)).getD root .null

end JobScript.Yaml
