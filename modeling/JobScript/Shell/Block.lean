import JobScript.Text.Quoted

/-! # Blocks

A block collects lines and conditionals until it is closed; from then on it takes nothing more.
-/

namespace JobScript.Shell

/-- A finished `if`. Its alternative may be opened once, and has lines once it is finished too. -/
structure Conditional where
  test : String
  body : List String
  alternative : Option (List String)
  alternativeOpened : Bool
deriving DecidableEq, Repr

/-- Two blanks deeper; an empty line stays empty. -/
def indent (lines : List String) : List String :=
  lines.map fun line => if line = "" then line else "  " ++ line

/-- A branch without lines would not be valid: it does nothing instead. -/
def branchLines (lines : List String) : List String :=
  indent (if lines.isEmpty then [":"] else lines)

def Conditional.render (c : Conditional) : List String :=
  ["if " ++ c.test ++ "; then"] ++ branchLines c.body ++
    (match c.alternative with
      | some lines => ["else"] ++ branchLines lines
      | none => []) ++ ["fi"]

inductive Node
  | line (text : String)
  | conditional (c : Conditional)
deriving DecidableEq, Repr

def Node.render : Node → List String
  | .line text => [text]
  | .conditional c => c.render

inductive Kind
  | root
  | branch
  | alternative
  | fold
  | other (word : String)
deriving DecidableEq, Repr

def Kind.word : Kind → String
  | .root => "root"
  | .branch => "if"
  | .alternative => "else"
  | .fold => "fold"
  | .other word => word

/-- What a block is called in messages: its kind, and its test or name. -/
structure Title where
  kind : Kind
  header : String
deriving DecidableEq, Repr

def Title.text (t : Title) : String := t.kind.word ++ " " ++ Text.quoted t.header

inductive BuilderError
  | closed (block : Title)
  | alreadyClosed (block : Title)
  | strayElse
  | namelessFold
  | afterCompile
  | malformedNesting (closing isOpen : Title)
  | unclosed (blocks : List Title)
deriving DecidableEq, Repr

def BuilderError.message : BuilderError → String
  | .closed block =>
    s!"Cannot append to closed {block.kind.word} block {Text.quoted block.header}"
  | .alreadyClosed block => s!"{block.kind.word} block {Text.quoted block.header} is already closed"
  | .strayElse => "else must immediately follow its if at the same depth"
  | .namelessFold => "fold requires a name"
  | .afterCompile => "Cannot open a block after compile()"
  | .malformedNesting closing isOpen =>
    s!"Malformed nesting: closing {closing.text} while {isOpen.text} is open"
  | .unclosed blocks =>
    "Unclosed block(s): " ++ String.intercalate ", " (blocks.map Title.text)

structure Block where
  title : Title
  nodes : List Node
  closed : Bool
deriving DecidableEq, Repr

namespace Block

def start (kind : Kind) (header : String) : Block := ⟨⟨kind, header⟩, [], false⟩

/-- A closed block refuses every node, but there is nothing to refuse where none comes. -/
def extend (block : Block) (nodes : List Node) : Except BuilderError Block :=
  if block.closed && !nodes.isEmpty then .error (.closed block.title)
  else .ok { block with nodes := block.nodes ++ nodes }

def close (block : Block) : Except BuilderError Block :=
  if block.closed then .error (.alreadyClosed block.title) else .ok { block with closed := true }

def lines (block : Block) : List String := block.nodes.flatMap Node.render

@[simp] theorem nodes_start (kind : Kind) (header : String) : (start kind header).nodes = [] := rfl

@[simp] theorem closed_start (kind : Kind) (header : String) :
    (start kind header).closed = false := rfl

@[simp] theorem lines_start (kind : Kind) (header : String) : (start kind header).lines = [] := rfl

@[simp] theorem extend_nil (block : Block) : block.extend [] = .ok block := by
  simp [extend]

theorem extend_of_open {block : Block} (h : block.closed = false) (nodes : List Node) :
    block.extend nodes = .ok { block with nodes := block.nodes ++ nodes } := by
  simp [extend, h]

theorem extend_of_closed {block : Block} (h : block.closed = true) {nodes : List Node}
    (hne : nodes ≠ []) : block.extend nodes = .error (.closed block.title) := by
  simp [extend, h, hne]

theorem close_of_open {block : Block} (h : block.closed = false) :
    block.close = .ok { block with closed := true } := by
  simp [close, h]

theorem close_of_closed {block : Block} (h : block.closed = true) :
    block.close = .error (.alreadyClosed block.title) := by
  simp [close, h]

/-- The conditional that an `else` would belong to now: the last node, if it has none yet. -/
def pending? (block : Block) : Option Conditional :=
  match block.nodes.getLast? with
  | some (.conditional c) => if c.alternativeOpened then none else some c
  | _ => none

/-- Changes the conditional at a place. -/
def modifyConditional (f : Conditional → Conditional) (slot : Nat) (block : Block) : Block :=
  let change : Node → Node
    | .conditional c => .conditional (f c)
    | .line text => .line text
  { block with nodes := block.nodes.modify slot change }

end Block

end JobScript.Shell
