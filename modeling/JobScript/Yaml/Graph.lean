import JobScript.Yaml.Error
import JobScript.Yaml.Tag

/-! # The graph of a document

The nodes of a document, by number. A collection names its parts by their numbers, so a node that goes
by an anchor may be part of several collections, and even of itself.
-/

namespace JobScript.Yaml

/-- The numbers of a key and of its value. -/
abbrev Entry := Nat × Nat

inductive Content
  | scalar (text : String)
  | sequence (items : List Nat)
  | mapping (entries : List Entry)
deriving DecidableEq, Repr, Inhabited

structure Node where
  tag : Tag
  content : Content
deriving DecidableEq, Repr

structure Graph where
  nodes : Array Node

/-- How far collections may be nested in one another. -/
def nestingLimit : Nat := 488

/-- How far one node may be followed into another. -/
def followLimit : Nat := 980

namespace Graph

def empty : Graph := ⟨#[]⟩

def size (g : Graph) : Nat := g.nodes.size

def node? (g : Graph) (id : Nat) : Option Node := g.nodes[id]?

def content? (g : Graph) (id : Nat) : Option Content := (g.node? id).map Node.content

def tagOf (g : Graph) (id : Nat) : Tag := ((g.node? id).map Node.tag).getD .null

def add (g : Graph) (n : Node) : Graph := ⟨g.nodes.push n⟩

def modify (g : Graph) (id : Nat) (f : Node → Node) : Graph := ⟨g.nodes.modify id f⟩

def setContent (g : Graph) (id : Nat) (content : Content) : Graph :=
  g.modify id fun n => { n with content := content }

def setTag (g : Graph) (id : Nat) (tag : Tag) : Graph := g.modify id fun n => { n with tag := tag }

/-- The text of a scalar. A mapping may give one under the key that stands for the value itself. -/
def textFrom (g : Graph) : Nat → Nat → Except YamlError String
  | 0, _ => .error .tooDeep
  | depth + 1, id =>
    match g.content? id with
    | some (.scalar text) => .ok text
    | some (.mapping entries) =>
      match entries.find? fun entry => g.tagOf entry.1 == .value with
      | some (_, value) => g.textFrom depth value
      | none => .error .malformed
    | _ => .error .malformed

def text (g : Graph) (id : Nat) : Except YamlError String := g.textFrom followLimit id

def isScalar (g : Graph) (id : Nat) : Bool :=
  match g.content? id with
  | some (.scalar _) => true
  | _ => false

end Graph

end JobScript.Yaml
