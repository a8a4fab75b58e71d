import JobScript.Yaml.Error
import JobScript.Yaml.Graph
import JobScript.Yaml.Token

/-! # From tokens to a graph

One node after another, the parts of a collection inside of it. A node that is left out between two
tokens is an empty plain scalar.
-/

namespace JobScript.Yaml

/-- The tokens still to come and what ends them, the nodes so far, the anchors by name, what the handles
of tags stand for, and how many collections are open. -/
structure Reading where
  tokens : List Token
  fault : Option YamlError
  graph : Graph
  anchors : List (String × Nat)
  handles : List (String × String)
  depth : Nat

abbrev Read (α : Type) := StateT Reading (Except YamlError) α

namespace Read

def standardHandles : List (String × String) := [("!", "!"), ("!!", Tag.lead)]

def start (tokens : List Token) (fault : Option YamlError) : Reading :=
  ⟨tokens, fault, .empty, [], standardHandles, 0⟩

def malformed {α : Type} : Read α := throw .malformed

def peek : Read Token := do
  let s ← get
  match s.tokens with
  | t :: _ => return t
  | [] => throw (s.fault.getD .malformed)

def skip : Read Unit := modify fun s => { s with tokens := s.tokens.tail }

/-- Takes the token if it is the next one. -/
def accept (t : Token) : Read Bool := do
  if (← peek) = t then
    skip
    return true
  else return false

def require (t : Token) : Read Unit := do
  if !(← accept t) then malformed

def isNext (ts : List Token) : Read Bool := return ts.contains (← peek)

/-! ## Nodes -/

/-- An anchor belongs to the node as soon as it begins. -/
def add (anchor : Option String) (tag : Tag) (content : Content) : Read Nat := do
  let s ← get
  let id := s.graph.size
  let anchors := match anchor with
    | some name => (name, id) :: s.anchors
    | none => s.anchors
  set { s with graph := s.graph.add ⟨tag, content⟩, anchors := anchors }
  return id

def fill (id : Nat) (content : Content) : Read Nat := do
  modify fun s => { s with graph := s.graph.setContent id content }
  return id

/-- Reads the parts of a collection. -/
def inside {α : Type} (parts : Read α) : Read α := do
  if nestingLimit ≤ (← get).depth then throw .tooDeep
  modify fun s => { s with depth := s.depth + 1 }
  let a ← parts
  modify fun s => { s with depth := s.depth - 1 }
  return a

def emptyNode : Read Nat := add none (Tag.resolve "") (.scalar "")

/-- The anchor and the tag in front of a node, in either order. -/
structure Properties where
  anchor : Option String
  tag : Option TagName

def properties : Read Properties := do
  match ← peek with
  | .anchor name =>
    skip
    match ← peek with
    | .tag tag =>
      skip
      return ⟨some name, some tag⟩
    | _ => return ⟨some name, none⟩
  | .tag tag =>
    skip
    match ← peek with
    | .anchor name =>
      skip
      return ⟨some name, some tag⟩
    | _ => return ⟨none, some tag⟩
  | _ => return ⟨none, none⟩

def expand (tag : TagName) : Read String := do
  match tag.handle with
  | none => return tag.suffix
  | some handle => match (← get).handles.lookup handle with
    | some lead => return lead ++ tag.suffix
    | none => malformed

/-- Every anchor is given to one node only. -/
def checkAnchor (anchor : Option String) : Read Unit := do
  if let some name := anchor then
    if ((← get).anchors.lookup name).isSome then malformed

/-- The lone exclamation mark asks for the tag that the node would have when plain. -/
def scalarTag (text : String) (plain : Bool) : Option String → Tag
  | none => if plain then Tag.resolve text else .str
  | some tag => if tag = "!" then Tag.resolve text else .ofText tag

def collectionTag (standard : Tag) : Option String → Tag
  | none => standard
  | some tag => if tag = "!" then standard else .ofText tag

mutual

/-- `block` allows block collections, `flush` a block sequence that is not indented. -/
def node (fuel : Nat) (block flush : Bool) : Read Nat :=
  match fuel with
  | 0 => malformed
  | fuel + 1 => do
    if let .alias name ← peek then
      skip
      match (← get).anchors.lookup name with
      | some id => return id
      | none => malformed
    else
      let p ← properties
      let tag ← p.tag.mapM expand
      let t ← peek
      if flush && t == .blockEntry then
        checkAnchor p.anchor
        let id ← add p.anchor (collectionTag .seq tag) (.sequence [])
        fill id (.sequence (← inside (flushEntries fuel)))
      else match t with
        | .scalar text plain =>
          skip
          checkAnchor p.anchor
          add p.anchor (scalarTag text plain tag) (.scalar text)
        | .flowSequenceStart => do
          checkAnchor p.anchor
          skip
          let id ← add p.anchor (collectionTag .seq tag) (.sequence [])
          fill id (.sequence (← inside (flowItems fuel true)))
        | .flowMappingStart => do
          checkAnchor p.anchor
          skip
          let id ← add p.anchor (collectionTag .map tag) (.mapping [])
          fill id (.mapping (← inside (flowEntries fuel true)))
        | t =>
          if block && t == .blockSequenceStart then
            checkAnchor p.anchor
            skip
            let id ← add p.anchor (collectionTag .seq tag) (.sequence [])
            fill id (.sequence (← inside (blockItems fuel)))
          else if block && t == .blockMappingStart then
            checkAnchor p.anchor
            skip
            let id ← add p.anchor (collectionTag .map tag) (.mapping [])
            fill id (.mapping (← inside (blockEntries fuel)))
          else if p.anchor.isSome || p.tag.isSome then
            checkAnchor p.anchor
            add p.anchor (scalarTag "" true tag) (.scalar "")
          else malformed

/-- A node, unless one of the tokens follows that come after it. -/
def nodeBefore (fuel : Nat) (block flush : Bool) (after : List Token) : Read Nat :=
  match fuel with
  | 0 => malformed
  | fuel + 1 => do
    if ← isNext after then emptyNode else node fuel block flush

/-- A value after its colon; without a colon it is left out. -/
def valueBefore (fuel : Nat) (block flush : Bool) (after : List Token) : Read Nat :=
  match fuel with
  | 0 => malformed
  | fuel + 1 => do
    if ← accept .value then nodeBefore fuel block flush after else emptyNode

def blockItems (fuel : Nat) : Read (List Nat) :=
  match fuel with
  | 0 => malformed
  | fuel + 1 => do
    if ← accept .blockEntry then
      let item ← nodeBefore fuel true false [.blockEntry, .blockEnd]
      return item :: (← blockItems fuel)
    else
      require .blockEnd
      return []

/-- A sequence as deep as the mapping around it ends where that goes on. -/
def flushEntries (fuel : Nat) : Read (List Nat) :=
  match fuel with
  | 0 => malformed
  | fuel + 1 => do
    if ← accept .blockEntry then
      let item ← nodeBefore fuel true false [.blockEntry, .key, .value, .blockEnd]
      return item :: (← flushEntries fuel)
    else return []

def blockEntries (fuel : Nat) : Read (List Entry) :=
  match fuel with
  | 0 => malformed
  | fuel + 1 => do
    if ← accept .key then
      let key ← nodeBefore fuel true true [.key, .value, .blockEnd]
      let value ← valueBefore fuel true true [.key, .value, .blockEnd]
      return (key, value) :: (← blockEntries fuel)
    else
      require .blockEnd
      return []

/-- An item with a key is a mapping of its own. -/
def flowItems (fuel : Nat) (first : Bool) : Read (List Nat) :=
  match fuel with
  | 0 => malformed
  | fuel + 1 => do
    if ← accept .flowSequenceEnd then return []
    if !first then require .flowEntry
    if ← accept .flowSequenceEnd then return []
    if ← isNext [.key] then
      let id ← add none .map (.mapping [])
      skip
      let entry ← inside do
        let key ← nodeBefore fuel false false [.value, .flowEntry, .flowSequenceEnd]
        let value ← valueBefore fuel false false [.flowEntry, .flowSequenceEnd]
        return (key, value)
      let item ← fill id (.mapping [entry])
      return item :: (← flowItems fuel false)
    else
      let item ← node fuel false false
      return item :: (← flowItems fuel false)

/-- A key without a mark has no value. -/
def flowEntries (fuel : Nat) (first : Bool) : Read (List Entry) :=
  match fuel with
  | 0 => malformed
  | fuel + 1 => do
    if ← accept .flowMappingEnd then return []
    if !first then require .flowEntry
    if ← accept .flowMappingEnd then return []
    if ← accept .key then
      let key ← nodeBefore fuel false false [.value, .flowEntry, .flowMappingEnd]
      let value ← valueBefore fuel false false [.flowEntry, .flowMappingEnd]
      return (key, value) :: (← flowEntries fuel false)
    else
      let key ← node fuel false false
      let value ← emptyNode
      return (key, value) :: (← flowEntries fuel false)

end

/-! ## Documents -/

/-- Directives before a document: one version at most, and every handle once. -/
def directives : Nat → Option Nat → List (String × String) → Read (List (String × String))
  | 0, _, _ => malformed
  | fuel + 1, version, handles => do
    match ← peek with
    | .directive d =>
      skip
      match d with
      | .version major =>
        if version.isSome || major ≠ 1 then malformed
        directives fuel (some major) handles
      | .tag handle lead =>
        if (handles.lookup handle).isSome then malformed
        directives fuel version ((handle, lead) :: handles)
      | .other => directives fuel version handles
    | _ => return handles

def skipDocumentEnds : Nat → Read Unit
  | 0 => malformed
  | fuel + 1 => do
    if ← accept .documentEnd then skipDocumentEnds fuel

/-- Whether the stream has a further document, which has to announce itself. -/
def nextDocument (fuel : Nat) : Read Bool := do
  skipDocumentEnds fuel
  if ← accept .streamEnd then return false
  let handles ← directives fuel none []
  modify fun s => { s with handles := handles ++ standardHandles }
  require .documentStart
  return true

def isDirective : Token → Bool
  | .directive _ => true
  | _ => false

/-- The first document of a stream may come without announcing itself. -/
def firstDocument (fuel : Nat) : Read (Option Nat) := do
  let t ← peek
  if isDirective t || [.documentStart, .streamEnd].contains t then
    if ← nextDocument fuel then
      let t ← peek
      if isDirective t || [.documentStart, .documentEnd, .streamEnd].contains t then
        return some (← emptyNode)
      else return some (← node fuel true false)
    else return none
  else return some (← node fuel true false)

/-- The root of the only document in the stream, if there is one. -/
def document (fuel : Nat) : Read (Option Nat) := do
  let root ← firstDocument fuel
  if root.isSome then
    if ← nextDocument fuel then malformed
  return root

end Read

/-- The graph of a stream of tokens and its root. -/
def Graph.ofTokens (tokens : List Token) (fault : Option YamlError) :
    Except YamlError (Graph × Option Nat) := do
  let (root, s) ← (Read.document (4 * tokens.length + 16)).run (Read.start tokens fault)
  return (s.graph, root)

end JobScript.Yaml
