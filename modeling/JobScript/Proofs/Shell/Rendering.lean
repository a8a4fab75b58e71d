import JobScript.Proofs.Shell.Call
import Mathlib.Order.Nat

/-! # The text of a program

A program has its lines by recursion alone: a directive its own, an `if` its branches two blanks
deeper, a fold its body between two markers. Running it on a builder, with its stack of blocks and
its conditionals that are filled in later, comes to the same lines. -/

namespace JobScript.Shell

/-- A line inside so many branches. -/
def indentedBy (depth : Nat) (line : String) : String :=
  if line = "" then "" else String.ofList (List.replicate (2 * depth) ' ') ++ line

namespace Program

/-- How many timed commands a program has, wherever they stand. -/
def timers : Program → Nat
  | .nil => 0
  | .emit d rest => d.timers + rest.timers
  | .note _ rest => rest.timers
  | .fail _ => 0
  | .branch _ body rest => body.timers + rest.timers
  | .choice _ body alternative rest => body.timers + alternative.timers + rest.timers
  | .fold _ body rest => body.timers + rest.timers

/-- No failure stands in the program, and its folds have names. -/
def isSound : Program → Bool
  | .nil => true
  | .emit _ rest => rest.isSound
  | .note _ rest => rest.isSound
  | .fail _ => false
  | .branch _ body rest => body.isSound && rest.isSound
  | .choice _ body alternative rest => body.isSound && alternative.isSound && rest.isSound
  | .fold name body rest => name != "" && body.isSound && rest.isSound

/-- One branch of an `if`. Without lines of its own it does nothing. -/
def branchText (lines : List String) : List String :=
  (if lines = [] then [":"] else lines).map (indentedBy 1)

/-- The lines of a program that so many timed commands come before. -/
def lines (before : Nat) : Program → List String
  | .nil => []
  | .emit d rest => d.render (before + 1) ++ rest.lines (before + d.timers)
  | .note _ rest => rest.lines before
  | .fail _ => []
  | .branch test body rest =>
    ["if " ++ test ++ "; then"] ++ branchText (body.lines before) ++ ["fi"] ++
      rest.lines (before + body.timers)
  | .choice test body alternative rest =>
    ["if " ++ test ++ "; then"] ++ branchText (body.lines before) ++
      ["else"] ++ branchText (alternative.lines (before + body.timers)) ++ ["fi"] ++
      rest.lines (before + body.timers + alternative.timers)
  | .fold name body rest =>
    [foldBegin name] ++ body.lines before ++ [foldEnd name] ++ rest.lines (before + body.timers)

/-- What running a program puts into the innermost block. -/
def nodes (before : Nat) : Program → List Node
  | .nil => []
  | .emit d rest => (d.render (before + 1)).map .line ++ rest.nodes (before + d.timers)
  | .note _ rest => rest.nodes before
  | .fail _ => []
  | .branch test body rest =>
    [.conditional ⟨test, body.lines before, none, false⟩] ++ rest.nodes (before + body.timers)
  | .choice test body alternative rest =>
    [.conditional ⟨test, body.lines before, some (alternative.lines (before + body.timers)), true⟩] ++
      rest.nodes (before + body.timers + alternative.timers)
  | .fold name body rest =>
    ([foldBegin name] ++ body.lines before ++ [foldEnd name]).map .line ++
      rest.nodes (before + body.timers)

end Program

lemma indent_eq_map (lines : List String) : indent lines = lines.map (indentedBy 1) := by
  apply List.map_congr_left
  intro line _
  by_cases h : line = "" <;> simp [indentedBy, h]

lemma branchLines_eq (lines : List String) : branchLines lines = Program.branchText lines := by
  unfold branchLines Program.branchText
  rw [indent_eq_map]
  cases lines <;> rfl

namespace Program

lemma flatMap_render_nodes (p : Program) (before : Nat) :
    (p.nodes before).flatMap Node.render = p.lines before := by
  induction p generalizing before with
  | nil => rfl
  | emit d rest ih => simp only [nodes, lines, List.flatMap_append, flatMap_render_line, ih]
  | note record rest ih => exact ih before
  | fail failure => rfl
  | branch test body rest _ ih =>
    simp [nodes, lines, Node.render, Conditional.render, branchLines_eq, ih]
  | choice test body alternative rest _ _ ih =>
    simp [nodes, lines, Node.render, Conditional.render, branchLines_eq, ih]
  | fold name body rest _ ih =>
    simp only [nodes, lines, List.flatMap_append, flatMap_render_line, ih]

end Program

namespace Block

lemma pending?_add (block : Block) (c : Conditional) :
    (block.add [.conditional c]).pending? = if c.alternativeOpened then none else some c := by
  simp [pending?]

lemma lastSlot_add (block : Block) (node : Node) :
    (block.add [node]).lastSlot = block.nodes.length := by
  simp [lastSlot]

lemma modifyConditional_add (block : Block) (f : Conditional → Conditional) (c : Conditional) :
    (block.add [.conditional c]).modifyConditional f block.nodes.length =
      block.add [.conditional (f c)] := by
  have hl : block.nodes.length < (block.nodes ++ [Node.conditional c]).length := by simp
  simp [modifyConditional, add, List.modify_eq_take_cons_drop hl]

end Block

/-- The innermost block is there and takes what comes. -/
structure Builder.IsReady (b : Builder) : Prop where
  lt : b.current < b.blocks.length
  isOpen : (b.block b.current).closed = false

/-- What properly nested calls come to: the innermost block has more nodes and all blocks around it
are as they were. Blocks that were opened meanwhile are left. -/
structure Builder.Extends (b : Builder) (nodes : List Node) (timers : Nat) (b' : Builder) : Prop where
  stack : b'.stack = b.stack
  timers : b'.timers = b.timers + timers
  length : b.blocks.length ≤ b'.blocks.length
  current : b'.block b.current = (b.block b.current).add nodes
  others : ∀ id < b.blocks.length, id ≠ b.current → b'.block id = b.block id

namespace Builder

variable {b b' b'' : Builder} {nodes nodes' : List Node} {n m : Nat}

lemma Extends.current_eq (h : b.Extends nodes n b') : b'.current = b.current := by
  unfold Builder.current
  rw [h.stack]

lemma Extends.isReady (h : b.Extends nodes n b') (hb : b.IsReady) : b'.IsReady := by
  refine ⟨?_, ?_⟩
  · rw [h.current_eq]
    exact hb.lt.trans_le h.length
  · rw [h.current_eq, h.current]
    exact hb.isOpen

lemma Extends.refl (b : Builder) : b.Extends [] 0 b :=
  ⟨rfl, rfl, le_rfl, (Block.add_nil _).symm, fun _ _ _ => rfl⟩

lemma Extends.aside (h : b.Extends nodes n b') (journal : List Log.Record) :
    b.Extends nodes n (b'.aside b'.timers journal) :=
  ⟨h.stack, h.timers, h.length, h.current, h.others⟩

lemma Extends.of_aside {journal : List Log.Record}
    (h : (b.aside b.timers journal).Extends nodes n b') : b.Extends nodes n b' :=
  ⟨h.stack, h.timers, h.length, h.current, h.others⟩

lemma Extends.trans (h : b.Extends nodes n b') (h' : b'.Extends nodes' m b'') :
    b.Extends (nodes ++ nodes') (n + m) b'' := by
  refine ⟨h'.stack.trans h.stack, ?_, h.length.trans h'.length, ?_, ?_⟩
  · rw [h'.timers, h.timers, Nat.add_assoc]
  · rw [← h.current_eq, h'.current, h.current_eq, h.current]
    simp [Block.add]
  · intro id hid hne
    rw [h'.others id (hid.trans_le h.length) (by rwa [h.current_eq]), h.others id hid hne]

lemma Extends.put (h : b.Extends nodes n b') (hb : b.IsReady) (more : List Node) :
    b.Extends (nodes ++ more) n (b'.put b'.current more) := by
  refine ⟨h.stack, h.timers, ?_, ?_, ?_⟩
  · rw [Builder.put, length_update]
    exact h.length
  · have hlt := (h.isReady hb).lt
    rw [h.current_eq] at hlt ⊢
    rw [Builder.put, block_update_self _ hlt, h.current]
    simp [Block.add]
  · intro id hid hne
    rw [h.current_eq, Builder.put, block_update_of_ne _ hne.symm, h.others id hid hne]

lemma Extends.modify {c : Conditional} (h : b.Extends [.conditional c] n b') (hb : b.IsReady)
    (f : Conditional → Conditional) : b.Extends [.conditional (f c)] n
      (b'.update b.current (·.modifyConditional f (b.block b.current).nodes.length)) := by
  have hlt := (h.isReady hb).lt
  rw [h.current_eq] at hlt
  refine ⟨h.stack, h.timers, ?_, ?_, ?_⟩
  · rw [length_update]
    exact h.length
  · rw [block_update_self _ hlt, h.current, Block.modifyConditional_add]
  · intro id hid hne
    rw [block_update_of_ne _ hne.symm, h.others id hid hne]

lemma Extends.marked {c : Conditional} (h : b.Extends [.conditional c] n b') (hb : b.IsReady) :
    b.Extends [.conditional c.opened] n b'.marked := by
  have hm := h.modify hb Conditional.opened
  unfold Builder.marked
  rw [h.current_eq, h.current, Block.lastSlot_add]
  exact hm

lemma isReady_start : Builder.start.IsReady := ⟨Nat.zero_lt_one, rfl⟩

lemma isReady_push (b : Builder) (kind : Kind) (header : String) :
    (b.push (.start kind header)).IsReady := by
  refine ⟨?_, ?_⟩
  · simp [Builder.push, Builder.current]
  · rw [current_push, block_push_self]
    rfl

/-- What was done inside a block shows nowhere around it until its lines are handed on. -/
lemma Extends.quit {kind : Kind} {header : String} (hb : b.IsReady)
    (h : (b.push (.start kind header)).Extends nodes n b') : b.Extends [] n b'.quit := by
  have hlen : b.blocks.length + 1 ≤ b'.blocks.length := by
    simpa [push] using h.length
  have hcur : b'.current = b.blocks.length := h.current_eq
  have hblock : ∀ id < b.blocks.length, b'.quit.block id = b.block id := by
    intro id hid
    have hq : b'.quit.block id = b'.block id := by
      unfold Builder.quit Builder.shut
      exact block_update_of_ne _ (by omega)
    rw [hq, h.others id (by simp [push]; omega) (by rw [current_push]; omega), block_push_of_lt _ hid]
  refine ⟨?_, h.timers, ?_, ?_, fun id hid _ => hblock id hid⟩
  · show b'.stack.tail = b.stack
    rw [h.stack]
    rfl
  · have hl : b'.quit.blocks.length = b'.blocks.length := length_update ..
    omega
  · rw [hblock _ hb.lt, Block.add_nil]

end Builder

namespace Build

variable {b b' : Builder} {nodes : List Node} {n : Nat}

/-- A block that was worked in properly can be left, and hands its nodes on. -/
lemma leave_of_extends {kind : Kind} {header : String} (hb : b.IsReady)
    (h : (b.push (.start kind header)).Extends nodes n b') (exit : Exit) :
    ∃ b₁, b.Extends [] n b₁ ∧ leave ⟨b.blocks.length, exit⟩ b' =
      (.ok (), b₁.receive exit ((Block.start kind header).add nodes)) := by
  have hready := h.isReady (Builder.isReady_push b kind header)
  have hcur : b'.current = b.blocks.length := h.current_eq
  have hblock : b'.block b'.current = (Block.start kind header).add nodes := by
    rw [h.current_eq, h.current, Builder.current_push, Builder.block_push_self]
  obtain ⟨journal, he⟩ := leave_of_open ⟨b.blocks.length, exit⟩ hcur hready.isOpen
  have hq := (h.quit hb).aside journal
  refine ⟨_, hq, ?_⟩
  rw [he, hblock]
  exact deliver_of_open (hq.isReady hb).isOpen

lemma emit_of_isReady (hb : b.IsReady) (d : Directive) : ∃ b', emit d b = (.ok (), b') ∧
    b.Extends ((d.render (b.timers + 1)).map .line) d.timers b' := by
  obtain ⟨journal, he⟩ := emit_of_open (d := d) hb.isOpen
  have hput := (Builder.Extends.refl b).put hb ((d.render (b.timers + 1)).map .line)
  exact ⟨_, he, hput.stack, rfl, hput.length, hput.current, hput.others⟩

lemma enterElse_of_extends {c : Conditional} (h : b.Extends [.conditional c] n b') (hb : b.IsReady)
    (hc : c.alternativeOpened = false) :
    ∃ journal, enterElse b' =
      (.ok ⟨b'.marked.blocks.length, .alternative b.current (b.block b.current).nodes.length⟩,
        (b'.marked.push (.start .alternative c.test)).aside b'.marked.timers journal) := by
  have hpending : (b'.block b'.current).pending? = some c := by
    rw [h.current_eq, h.current, Block.pending?_add, hc]
    rfl
  obtain ⟨journal, he⟩ := enterElse_of_open hpending (h.isReady hb).isOpen
  refine ⟨journal, ?_⟩
  rw [he, h.current_eq, h.current, Block.lastSlot_add]
  simp [Builder.marked]

/-- A new builder in which nothing is left open compiles to the nodes that were put into it. -/
lemma compile_of_extends (h : Builder.start.Extends nodes n b) :
    compile b = (.ok (Text.unlines (nodes.flatMap Node.render)), b.shut Builder.rootId) := by
  have hroot : b.block Builder.rootId = (Block.start .root "").add nodes := h.current
  have hopen : (b.block Builder.rootId).closed = false := by
    rw [hroot]
    rfl
  rw [compile_of_open h.stack hopen, hroot, Block.lines_add, Block.lines_start, List.nil_append]

end Build

namespace Program

variable {b : Builder}

lemma lines_start_add (kind : Kind) (header : String) (p : Program) (before : Nat) :
    ((Block.start kind header).add (p.nodes before)).lines = p.lines before := by
  rw [Block.lines_add, Block.lines_start, flatMap_render_nodes, List.nil_append]

/-- Running a program in a ready builder succeeds and puts its nodes into the innermost block. -/
def Runs (p : Program) : Prop :=
  ∀ b : Builder, b.IsReady → ∃ b', p.run b = (.ok (), b') ∧ b.Extends (p.nodes b.timers) p.timers b'

/-- Entering a block, running what is to run in it, and leaving it. -/
lemma Runs.inside {body : Program} (h : body.Runs) (hb : b.IsReady) {kind : Kind} {header : String}
    {exit : Exit} {action : Build Scope} {b₀ : Builder} {journal : List Log.Record}
    (henter : action b₀ =
      (.ok ⟨b.blocks.length, exit⟩, (b.push (.start kind header)).aside b.timers journal))
    (k : Unit → Build Unit) :
    ∃ b₁, b.Extends [] body.timers b₁ ∧
      (action >>= fun scope => body.run >>= fun _ => Build.leave scope >>= k) b₀ =
        k () (b₁.receive exit ((Block.start kind header).add (body.nodes b.timers))) := by
  have hready := b.isReady_push kind header
  obtain ⟨b', hrun, hext⟩ :=
    h ((b.push (.start kind header)).aside b.timers journal) ⟨hready.lt, hready.isOpen⟩
  obtain ⟨b₁, h₁, hleave⟩ := Build.leave_of_extends hb hext.of_aside exit
  refine ⟨b₁, h₁, ?_⟩
  rw [bind_of_ok henter, bind_of_ok hrun, bind_of_ok hleave]
  rfl

/-- Running a sound program puts its nodes into the innermost block and does nothing else. -/
theorem runs_of_isSound {p : Program} (hp : p.isSound = true) : p.Runs := by
  induction p with
  | nil => exact fun b _ => ⟨b, rfl, .refl b⟩
  | emit d rest ih =>
    intro b hb
    obtain ⟨b₁, he, h₁⟩ := Build.emit_of_isReady hb d
    obtain ⟨b', hrun, h₂⟩ := ih hp _ (h₁.isReady hb)
    rw [h₁.timers] at h₂
    refine ⟨b', ?_, h₁.trans h₂⟩
    rw [run, bind_of_ok he, hrun]
  | note record rest ih =>
    intro b hb
    have h₁ := (Builder.Extends.refl b).aside (record :: b.journal)
    obtain ⟨b', hrun, h₂⟩ := ih hp _ (h₁.isReady hb)
    refine ⟨b', hrun, ?_⟩
    simpa [nodes, timers] using h₁.trans h₂
  | fail failure => cases hp
  | branch test body rest ihBody ih =>
    intro b hb
    simp only [isSound, Bool.and_eq_true] at hp
    obtain ⟨journal, henter⟩ := Build.enterIf_of_open test hb.isOpen
    obtain ⟨b₁, h₁, hinside⟩ := (ihBody hp.1).inside hb henter fun _ => rest.run
    have h₂ := h₁.put hb [.conditional ⟨test, body.lines b.timers, none, false⟩]
    obtain ⟨b', hrun, h₃⟩ := ih hp.2 _ (h₂.isReady hb)
    rw [h₂.timers] at h₃
    refine ⟨b', ?_, h₂.trans h₃⟩
    rw [run, hinside, Builder.receive, lines_start_add]
    exact hrun
  | choice test body alternative rest ihBody ihAlternative ih =>
    intro b hb
    simp only [isSound, Bool.and_eq_true] at hp
    obtain ⟨journal, henter⟩ := Build.enterIf_of_open test hb.isOpen
    obtain ⟨b₁, h₁, hinside⟩ := (ihBody hp.1.1).inside hb henter fun _ =>
      Build.enterElse >>= fun scope => alternative.run >>= fun _ => Build.leave scope >>= fun _ => rest.run
    -- The conditional goes in without its alternative, which is filled in when that is left.
    let c : Conditional := ⟨test, body.lines b.timers, none, false⟩
    have h₂ := h₁.put hb [.conditional c]
    obtain ⟨journal', henter'⟩ := Build.enterElse_of_extends h₂ hb rfl
    have h₃ := h₂.marked hb
    obtain ⟨b₂, h₄, hinside'⟩ :=
      (ihAlternative hp.1.2).inside (h₃.isReady hb) henter' fun _ => rest.run
    have h₅ := (h₃.trans h₄).modify hb
      (Conditional.filled (alternative.lines (b.timers + body.timers)))
    obtain ⟨b', hrun, h₆⟩ := ih hp.2 _ (h₅.isReady hb)
    rw [Builder.receive, lines_start_add, h₃.timers] at hinside'
    rw [h₅.timers, ← Nat.add_assoc] at h₆
    refine ⟨b', ?_, h₅.trans h₆⟩
    rw [run, hinside, Builder.receive, lines_start_add]
    exact hinside'.trans hrun
  | fold name body rest ihBody ih =>
    intro b hb
    simp only [isSound, Bool.and_eq_true, bne_iff_ne] at hp
    obtain ⟨journal, henter⟩ := Build.enterFold_of_open hp.1.1 hb.isOpen
    obtain ⟨b₁, h₁, hinside⟩ := (ihBody hp.1.2).inside hb henter fun _ => rest.run
    have h₂ := h₁.put hb (([foldBegin name] ++ body.lines b.timers ++ [foldEnd name]).map .line)
    obtain ⟨b', hrun, h₃⟩ := ih hp.2 _ (h₂.isReady hb)
    rw [h₂.timers] at h₃
    refine ⟨b', ?_, h₂.trans h₃⟩
    rw [run, hinside, Builder.receive, lines_start_add]
    exact hrun

/-- A sound program fails nowhere on a new builder, which then compiles to the program's lines. -/
theorem compile_run_of_isSound (p : Program) (hp : p.isSound = true) :
    ∃ b b', p.run Builder.start = (.ok (), b) ∧
      Build.compile b = (.ok ("\n".intercalate (p.lines 0) ++ "\n"), b') := by
  obtain ⟨b, hrun, hext⟩ := runs_of_isSound hp Builder.start Builder.isReady_start
  have hcompile := Build.compile_of_extends hext
  rw [flatMap_render_nodes] at hcompile
  exact ⟨b, _, hrun, hcompile⟩

/-- An alternative with a fold and a blank line in it, after a branch without lines. -/
theorem compile_run_nested :
    let p := ifElse "[ -f a ]" (.directive (.setQuietly "" "1"))
      (.directive (.command "make" ⟨false, false, false, true, none⟩) ++
        folded "deps" (.directive (.raw "x\n\ny")))
    p.isSound = true ∧
    p.lines 0 = ["if [ -f a ]; then", "  :", "else", "  build_time_start 1", "  make",
      "  build_result=$?", "  build_time_finish", "  build_fold begin deps", "  x", "", "  y",
      "  build_fold end deps", "fi"] ∧
    ∃ b b', p.run Builder.start = (.ok (), b) ∧
      Build.compile b = (.ok ("\n".intercalate (p.lines 0) ++ "\n"), b') :=
  ⟨by decide, by decide, compile_run_of_isSound _ (by decide)⟩

end Program

end JobScript.Shell
