import JobScript.Shell.Step
import JobScript.Proofs.Shell.Rendering

/-! # Changes

Whatever is called on a builder, in whatever order and whether it fails or not, comes to a few kinds
of changes. Each is labelled with the lines that it brings into the script. -/

namespace JobScript.Shell

def Kind.indents : Kind → Bool
  | .branch => true
  | .alternative => true
  | _ => false

/-- The kind of the blocks that are left this way. -/
def Exit.kind : Exit → Kind
  | .branch => .branch
  | .alternative _ _ => .alternative
  | .fold => .fold

/-- A line that a script has: one that a caller put in, or one that frames a block that was left. -/
structure Entry where
  framing : Bool
  depth : Nat
  text : String
deriving DecidableEq, Repr

def Entry.line (e : Entry) : String := indentedBy e.depth e.text

namespace Builder

/-- How deep the lines of a block stand, with the blocks around it. -/
def indentation (b : Builder) (ids : List Nat) : Nat :=
  ids.countP fun id => (b.block id).title.kind.indents

/-- How deep the lines of a block on the stack stand; those of the root stand in no branch. -/
def indentationAt (b : Builder) (id : Nat) : Nat := b.indentation (b.stack.dropWhile (· != id))

end Builder

/-- What comes around the lines of a block, in the block that it stood in. -/
def Block.frame (block : Block) (depth : Nat) : List Entry :=
  let filler : List Entry := if block.lines = [] then [⟨true, depth + 1, ":"⟩] else []
  match block.title.kind with
  | .branch => ⟨true, depth, "if " ++ block.title.header ++ "; then"⟩ :: ⟨true, depth, "fi"⟩ :: filler
  | .alternative => ⟨true, depth, "else"⟩ :: filler
  | .fold => [⟨true, depth, foldBegin block.title.header⟩, ⟨true, depth, foldEnd block.title.header⟩]
  | _ => []

/-- The lines that come around the innermost block. -/
def Builder.frame (b : Builder) : List Entry :=
  (b.block b.current).frame (b.indentation b.stack.tail)

/-- The lines of a block that was left this way find their place: a conditional takes them at any time,
the block below only while it is open. -/
def Builder.Takes (b : Builder) (exit : Exit) : Prop :=
  (b.block b.current).closed = false ∨ ∃ owner slot, exit = .alternative owner slot

/-- A builder and the scopes that can still be left, the latest first. -/
structure Site where
  builder : Builder
  scopes : List Scope

inductive Change : Site → List Entry → Site → Prop
  | aside (b : Builder) (scopes : List Scope) (timers : Nat) (journal : List Log.Record) :
    Change ⟨b, scopes⟩ [] ⟨b.aside timers journal, scopes⟩
  | put {b : Builder} {scopes : List Scope} {id : Nat} (lines : List String)
    (place : id = Builder.rootId ∨ id ∈ b.stack) (isOpen : (b.block id).closed = false) :
    Change ⟨b, scopes⟩ (lines.map fun line => ⟨false, b.indentationAt id, line⟩)
      ⟨b.put id (lines.map .line), scopes⟩
  | shut {b : Builder} {scopes : List Scope} {id : Nat} (lt : id < b.blocks.length)
    (isOpen : (b.block id).closed = false) : Change ⟨b, scopes⟩ [] ⟨b.shut id, scopes⟩
  | mark {b : Builder} {scopes : List Scope} {c : Conditional}
    (pending : (b.block b.current).pending? = some c) : Change ⟨b, scopes⟩ [] ⟨b.marked, scopes⟩
  | enter {b : Builder} {scopes : List Scope} {exit : Exit} (header : String)
    (plain : ∀ owner slot, exit ≠ .alternative owner slot)
    (isOpen : (b.block b.current).closed = false) :
    Change ⟨b, scopes⟩ []
      ⟨b.push (.start exit.kind header), ⟨b.blocks.length, exit⟩ :: scopes⟩
  | enterElse {b : Builder} {scopes : List Scope} {c : Conditional}
    (pending : (b.block b.current).pending? = some c)
    (isOpen : (b.block b.current).closed = false) :
    Change ⟨b, scopes⟩ []
      ⟨b.marked.push (.start .alternative c.test),
        ⟨b.blocks.length, .alternative b.current (b.block b.current).lastSlot⟩ :: scopes⟩
  | leave {b : Builder} {before after : List Scope} {scope : Scope} (current : b.current = scope.block)
    (isOpen : (b.block b.current).closed = false) (takes : b.quit.Takes scope.exit) :
    Change ⟨b, before ++ scope :: after⟩ b.frame
      ⟨b.quit.receive scope.exit (b.block b.current), before ++ after⟩
  | lose {b : Builder} {before after : List Scope} {scope : Scope} (current : b.current = scope.block)
    (isClosed : (b.quit.block b.quit.current).closed = true) :
    Change ⟨b, before ++ scope :: after⟩ [] ⟨b.quit, before ++ after⟩
  | drop (b : Builder) (before after : List Scope) (scope : Scope) :
    Change ⟨b, before ++ scope :: after⟩ [] ⟨b, before ++ after⟩

/-- Changes one after the other. -/
inductive Changes : Site → List Entry → Site → Prop
  | refl (s : Site) : Changes s [] s
  | step {s s' s'' : Site} {es es' : List Entry} (first : Change s es s') (rest : Changes s' es' s'') :
    Changes s (es ++ es') s''

lemma Change.changes {s s' : Site} {es : List Entry} (h : Change s es s') : Changes s es s' := by
  simpa using Changes.step h (.refl s')

lemma Changes.trans {s s' s'' : Site} {es es' : List Entry} (h : Changes s es s')
    (h' : Changes s' es' s'') : Changes s (es ++ es') s'' := by
  induction h with
  | refl => exact h'
  | step first _ ih => simpa using Changes.step first (ih h')

end JobScript.Shell
