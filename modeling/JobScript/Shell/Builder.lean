import JobScript.Failure
import JobScript.Log.Record
import JobScript.Shell.Render

/-! # The builder of a script

Blocks lie on a stack above the root. What is emitted goes into the innermost one; leaving a block
renders it and hands the result to the block below. An operation that fails may leave its traces, so
every operation has a state afterwards, whether it succeeds or not.
-/

namespace JobScript.Shell

/-- Every block ever opened, the root first; the numbers of the open ones, the innermost first; how
many timed commands there were; and what was noted, the latest first. -/
structure Builder where
  blocks : List Block
  stack : List Nat
  timers : Nat
  journal : List Log.Record
deriving DecidableEq, Repr

namespace Builder

def rootId : Nat := 0

def start : Builder := ⟨[.start .root ""], [], 0, []⟩

/-- A number that belongs to no block stands for an empty one. -/
def block (b : Builder) (id : Nat) : Block := b.blocks[id]?.getD (.start .root "")

def current (b : Builder) : Nat := b.stack.headD rootId

def depth (b : Builder) : Nat := b.stack.length

def update (b : Builder) (id : Nat) (f : Block → Block) : Builder :=
  { b with blocks := b.blocks.modify id f }

def push (b : Builder) (block : Block) : Builder :=
  { b with blocks := b.blocks ++ [block], stack := b.blocks.length :: b.stack }

def pop (b : Builder) : Builder := { b with stack := b.stack.tail }

@[simp] theorem current_push (b : Builder) (block : Block) :
    (b.push block).current = b.blocks.length := rfl

@[simp] theorem depth_push (b : Builder) (block : Block) : (b.push block).depth = b.depth + 1 := rfl

@[simp] theorem pop_push_stack (b : Builder) (block : Block) : (b.push block).pop.stack = b.stack := rfl

@[simp] theorem block_push_self (b : Builder) (block : Block) :
    (b.push block).block b.blocks.length = block := by
  simp [Builder.block, push]

theorem block_push_of_lt {b : Builder} {id : Nat} (block : Block) (h : id < b.blocks.length) :
    (b.push block).block id = b.block id := by
  simp [Builder.block, push, List.getElem?_append_left h]

@[simp] theorem block_update_self {b : Builder} {id : Nat} (f : Block → Block)
    (h : id < b.blocks.length) : (b.update id f).block id = f (b.block id) := by
  simp [Builder.block, update, h]

theorem block_update_of_ne {b : Builder} {id id' : Nat} (f : Block → Block) (h : id ≠ id') :
    (b.update id f).block id' = b.block id' := by
  simp [Builder.block, update, h]

end Builder

abbrev Build (α : Type) := ExceptT Failure (StateM Builder) α

/-- How a block is left: what the block below, or the conditional that waits for it, receives. -/
inductive Exit
  | branch
  | alternative (owner slot : Nat)
  | fold
deriving DecidableEq, Repr

/-- A block that was entered and is to be left. -/
structure Scope where
  block : Nat
  exit : Exit
deriving DecidableEq, Repr

namespace Build

def refuse {α : Type} (e : BuilderError) : Build α := throw (.builder e)

def note (record : Log.Record) : Build Unit :=
  modify fun b => { b with journal := record :: b.journal }

def builderLog : String := "buildscript.core.shell.builder"
def emitterLog : String := "buildscript.core.shell.emitter"

/-- Puts a changed block in the place of the old one, unless the change is refused. -/
def change (id : Nat) (f : Block → Except BuilderError Block) : Build Unit := do
  match f ((← get).block id) with
  | .ok block => modify (·.update id fun _ => block)
  | .error e => refuse e

def extend (id : Nat) (nodes : List Node) : Build Unit := change id (·.extend nodes)

def close (id : Nat) : Build Unit := change id Block.close

/-- A timed command takes the next number, even if its lines are refused. -/
def takeTimer (d : Directive) : Build Nat := do
  if d.isTimed then
    modify fun b => { b with timers := b.timers + 1 }
    return (← get).timers
  else return 0

/-- An export without a name is skipped. -/
def skipped? : Directive → Option String
  | .export name value _ => if (name.filter (· ≠ "")).isNone then some value else none
  | _ => none

def emit (d : Directive) : Build Unit := do
  let timer ← takeTimer d
  if let some value := skipped? d then
    note (Log.debug emitterLog s!"Skipping export with no name (value={Text.quoted value})")
  extend (← get).current ((d.render timer).map .line)

def enter (block : Block) : Build Nat := do
  let b ← get
  if (b.block b.current).closed then refuse .afterCompile
  set (b.push block)
  note (Log.debug builderLog s!"open {block.title.text} at depth {b.depth + 1}")
  return b.blocks.length

def enterIf (test : String) : Build Scope := do
  return ⟨← enter (.start .branch test), .branch⟩

/-- The conditional counts as having its alternative opened even if opening it then fails. -/
def enterElse : Build Scope := do
  let b ← get
  let owner := b.current
  match (b.block owner).pending? with
  | none => refuse .strayElse
  | some c =>
    let slot := (b.block owner).nodes.length - 1
    let opened (c : Conditional) : Conditional := { c with alternativeOpened := true }
    set (b.update owner (·.modifyConditional opened slot))
    return ⟨← enter (.start .alternative c.test), .alternative owner slot⟩

def enterFold (name : String) : Build Scope := do
  if name = "" then refuse .namelessFold
  return ⟨← enter (.start .fold name), .fold⟩

def deliver (scope : Scope) (block : Block) : Build Unit := do
  match scope.exit with
  | .branch =>
    extend (← get).current [.conditional ⟨block.title.header, block.lines, none, false⟩]
  | .alternative owner slot =>
    let filled (c : Conditional) : Conditional := { c with alternative := some block.lines }
    modify (·.update owner (·.modifyConditional filled slot))
  | .fold =>
    let name := block.title.header
    extend (← get).current (([foldBegin name] ++ block.lines ++ [foldEnd name]).map .line)

/-- Only the innermost block can be left. It is closed and gone from the stack before the block below
takes its lines. -/
def leave (scope : Scope) : Build Unit := do
  let b ← get
  let block := b.block scope.block
  if b.current ≠ scope.block then
    refuse (.malformedNesting block.title (b.block b.current).title)
  close scope.block
  modify (·.pop)
  note (Log.debug builderLog s!"close {block.title.text}")
  deliver scope block

/-- Closes the root; with a block still open, or a second time, it fails. -/
def compile : Build String := do
  let b ← get
  if b.stack ≠ [] then
    refuse (.unclosed (b.stack.reverse.map fun id => (b.block id).title))
  close Builder.rootId
  return Text.unlines (b.block Builder.rootId).lines

end Build

end JobScript.Shell
