import JobScript.Shell.Program
import Mathlib.Tactic.Lemma

/-! # Calls on a builder

What each call does to the blocks, the stack and the timers, whether it succeeds or not. Nothing
hangs on what is noted on the way, so these equations leave it open. -/

namespace JobScript.Shell

section Bind
variable {ε σ α β : Type} {x : ExceptT ε (StateM σ) α} {s s' : σ}

lemma bind_of_ok {f : α → ExceptT ε (StateM σ) β} {a : α} (h : x s = (.ok a, s')) :
    (x >>= f) s = f a s' := by
  show ExceptT.bindCont f (x s).1 (x s).2 = _
  rw [h]
  rfl

lemma bind_of_error {f : α → ExceptT ε (StateM σ) β} {e : ε} (h : x s = (.error e, s')) :
    (x >>= f) s = (.error e, s') := by
  show ExceptT.bindCont f (x s).1 (x s).2 = _
  rw [h]
  rfl

lemma bind_of_fst_ok {f : α → ExceptT ε (StateM σ) β} {a : α} (h : (x s).1 = .ok a) :
    (x >>= f) s = f a (x s).2 := bind_of_ok (Prod.ext h rfl)

lemma bind_of_fst_error {f : α → ExceptT ε (StateM σ) β} {e : ε} (h : (x s).1 = .error e) :
    (x >>= f) s = (.error e, (x s).2) := bind_of_error (Prod.ext h rfl)

lemma bind_get {f : σ → ExceptT ε (StateM σ) β} :
    ((get : ExceptT ε (StateM σ) σ) >>= f) s = f s s := rfl

end Bind

namespace Conditional

def opened (c : Conditional) : Conditional := { c with alternativeOpened := true }

def filled (lines : List String) (c : Conditional) : Conditional := { c with alternative := some lines }

end Conditional

namespace Block

def lastSlot (block : Block) : Nat := block.nodes.length - 1

def add (block : Block) (nodes : List Node) : Block := { block with nodes := block.nodes ++ nodes }

def shut (block : Block) : Block := { block with closed := true }

@[simp] lemma closed_add (block : Block) (nodes : List Node) :
    (block.add nodes).closed = block.closed := rfl

@[simp] lemma nodes_add (block : Block) (nodes : List Node) :
    (block.add nodes).nodes = block.nodes ++ nodes := rfl

@[simp] lemma lines_add (block : Block) (nodes : List Node) :
    (block.add nodes).lines = block.lines ++ nodes.flatMap Node.render := by
  simp [lines]

@[simp] lemma add_nil (block : Block) : block.add [] = block := by simp [add]

end Block

lemma flatMap_render_line (lines : List String) : (lines.map Node.line).flatMap Node.render = lines := by
  induction lines with
  | nil => rfl
  | cons line lines ih => simp [Node.render, ih]

namespace Builder

variable {b : Builder} {id : Nat}

/-- The builder after some timed commands and some notes: no block has changed. -/
def aside (b : Builder) (timers : Nat) (journal : List Log.Record) : Builder :=
  { b with timers := timers, journal := journal }

def put (b : Builder) (id : Nat) (nodes : List Node) : Builder := b.update id (·.add nodes)

def shut (b : Builder) (id : Nat) : Builder := b.update id Block.shut

/-- The conditional at the end of the innermost block counts as having its alternative opened. -/
def marked (b : Builder) : Builder :=
  b.update b.current (·.modifyConditional Conditional.opened (b.block b.current).lastSlot)

/-- The innermost block is closed and off the stack; nothing has taken its lines yet. -/
def quit (b : Builder) : Builder := (b.shut b.current).pop

/-- What becomes of the lines of a block that was left. -/
def receive (b : Builder) (exit : Exit) (block : Block) : Builder :=
  match exit with
  | .branch => b.put b.current [.conditional ⟨block.title.header, block.lines, none, false⟩]
  | .alternative owner slot => b.update owner (·.modifyConditional (Conditional.filled block.lines) slot)
  | .fold => b.put b.current
      (([foldBegin block.title.header] ++ block.lines ++ [foldEnd block.title.header]).map .line)

section Stack
variable {below : List Nat}

lemma current_of_stack (h : b.stack = id :: below) : b.current = id := by
  unfold Builder.current
  rw [h]
  rfl

lemma stack_quit (h : b.stack = id :: below) : b.quit.stack = below := by
  show b.stack.tail = below
  rw [h]
  rfl

end Stack

section Aside
variable (b) (timers : Nat) (journal : List Log.Record)

@[simp] lemma blocks_aside : (b.aside timers journal).blocks = b.blocks := rfl
@[simp] lemma timers_aside : (b.aside timers journal).timers = timers := rfl
@[simp] lemma current_aside : (b.aside timers journal).current = b.current := rfl
@[simp] lemma block_aside (id : Nat) : (b.aside timers journal).block id = b.block id := rfl

lemma receive_aside (exit : Exit) (block : Block) :
    (b.aside timers journal).receive exit block = (b.receive exit block).aside timers journal := by
  cases exit <;> rfl

end Aside

section Update
variable (b) (id : Nat) (f : Block → Block)

@[simp] lemma timers_update : (b.update id f).timers = b.timers := rfl
@[simp] lemma length_update : (b.update id f).blocks.length = b.blocks.length := by simp [update]

end Update

lemma update_const (f : Block → Block) : b.update id (fun _ => f (b.block id)) = b.update id f := by
  unfold update
  congr 1
  apply List.ext_getElem?
  intro n
  rw [List.getElem?_modify, List.getElem?_modify]
  split
  · subst n
    cases h : b.blocks[id]? <;> simp [Builder.block, h]
  · rfl

lemma block_update (f : Block → Block) (id' : Nat) : (b.update id f).block id' =
    if id = id' ∧ id' < b.blocks.length then f (b.block id') else b.block id' := by
  by_cases h : id = id'
  · subst id'
    by_cases hl : id < b.blocks.length
    · rw [block_update_self f hl, if_pos ⟨rfl, hl⟩]
    · rw [if_neg (fun hh => hl hh.2)]
      simp [Builder.block, update, hl]
  · rw [block_update_of_ne f h, if_neg (fun hh => h hh.1)]

/-- What an update keeps in the changed block it keeps in every block. -/
lemma block_update_keeps {γ : Type} (g : Block → γ) (f : Block → Block)
    (hf : ∀ block, g (f block) = g block) (id' : Nat) :
    g ((b.update id f).block id') = g (b.block id') := by
  rw [block_update]
  split
  · exact hf _
  · rfl

@[simp] lemma title_put (id' : Nat) (nodes : List Node) :
    ((b.put id nodes).block id').title = (b.block id').title :=
  block_update_keeps Block.title _ (fun _ => by rfl) id'

@[simp] lemma closed_put (id' : Nat) (nodes : List Node) :
    ((b.put id nodes).block id').closed = (b.block id').closed :=
  block_update_keeps Block.closed _ (fun _ => by rfl) id'

@[simp] lemma title_shut (id' : Nat) : ((b.shut id).block id').title = (b.block id').title :=
  block_update_keeps Block.title _ (fun _ => by rfl) id'

@[simp] lemma nodes_shut (id' : Nat) : ((b.shut id).block id').nodes = (b.block id').nodes :=
  block_update_keeps Block.nodes _ (fun _ => by rfl) id'

@[simp] lemma title_marked (id' : Nat) : (b.marked.block id').title = (b.block id').title :=
  block_update_keeps Block.title _ (fun _ => by rfl) id'

@[simp] lemma closed_marked (id' : Nat) : (b.marked.block id').closed = (b.block id').closed :=
  block_update_keeps Block.closed _ (fun _ => by rfl) id'

lemma update_add_nil : b.update id (·.add []) = b := by
  have h : b.blocks.modify id (·.add []) = b.blocks := by
    simp only [Block.add_nil]
    exact List.modify_id id b.blocks
  simp only [update, h]

end Builder

namespace Directive

def timers (d : Directive) : Nat := if d.isTimed then 1 else 0

/-- Nothing is said or done, and no line comes of it. -/
def isSilent (d : Directive) : Bool := (Build.skipped? d).isSome

lemma render_of_not_isTimed {d : Directive} (h : d.isTimed = false) (t t' : Int) :
    d.render t = d.render t' := by
  cases d with
  | command text options =>
    have ht : options.timing = false := h
    simp [render, renderCommand, guarded, timed, ht]
  | _ => rfl

lemma render_eq_nil_iff {d : Directive} {t : Int} : d.render t = [] ↔ d.isSilent = true := by
  cases d with
  | command text options =>
    have hg : guarded text options t ≠ [] := by
      unfold guarded timed
      split <;> simp
    simp only [render, renderCommand, folded, isSilent, Build.skipped?, Option.isSome_none,
      Bool.false_eq_true, iff_false]
    split <;> simp [hg]
  | «export» name value shown =>
    simp only [render, renderExport, isSilent, Build.skipped?]
    cases name.filter (· ≠ "") with
    | none => simp
    | some name => cases shown <;> simp
  | echo message colour => simp [render, renderEcho, isSilent, Build.skipped?]
  | raw text =>
    simp only [render, linesOr, isSilent, Build.skipped?]
    cases h : Text.lines text <;> simp

end Directive

namespace Build

variable {b : Builder} {id : Nat} {nodes : List Node} {d : Directive}

lemma change_of_ok {f : Block → Except BuilderError Block} {block : Block}
    (h : f (b.block id) = .ok block) :
    change id f b = (.ok (), b.update id fun _ => block) := by
  unfold change
  rw [bind_get, h]
  rfl

lemma change_of_error {f : Block → Except BuilderError Block} {e : BuilderError}
    (h : f (b.block id) = .error e) : change id f b = (.error (.builder e), b) := by
  unfold change
  rw [bind_get, h]
  rfl

lemma extend_of_open (h : (b.block id).closed = false) :
    extend id nodes b = (.ok (), b.put id nodes) := by
  unfold extend
  rw [change_of_ok (Block.extend_of_open h nodes)]
  exact congrArg _ (Builder.update_const (·.add nodes))

lemma extend_of_closed (h : (b.block id).closed = true) (hne : nodes ≠ []) :
    extend id nodes b = (.error (.builder (.closed (b.block id).title)), b) :=
  change_of_error (Block.extend_of_closed h hne)

lemma extend_nil : extend id [] b = (.ok (), b) := by
  have h : (b.block id).extend [] = .ok ((b.block id).add []) := by simp
  unfold extend
  rw [change_of_ok h, Builder.update_const (·.add []), Builder.update_add_nil]

lemma close_of_open (h : (b.block id).closed = false) : close id b = (.ok (), b.shut id) := by
  unfold close
  rw [change_of_ok (Block.close_of_open h)]
  exact congrArg _ (Builder.update_const Block.shut)

lemma close_of_closed (h : (b.block id).closed = true) :
    close id b = (.error (.builder (.alreadyClosed (b.block id).title)), b) :=
  change_of_error (Block.close_of_closed h)

/-- Before its lines a directive may take a number, and leave a note. -/
lemma emit_eq (b : Builder) (d : Directive) : ∃ journal, emit d b =
    extend b.current ((d.render (b.timers + 1)).map .line) (b.aside (b.timers + d.timers) journal) := by
  cases hd : d.isTimed with
  | true =>
    have hs : skipped? d = none := by
      cases d <;> first | rfl | cases hd
    refine ⟨b.journal, ?_⟩
    simp only [emit, takeTimer, hd, hs, Directive.timers, if_true]
    rfl
  | false =>
    rw [Directive.render_of_not_isTimed hd (b.timers + 1) 0]
    cases hs : skipped? d with
    | none =>
      refine ⟨b.journal, ?_⟩
      simp only [emit, takeTimer, hd, hs, Directive.timers]
      rfl
    | some value =>
      refine ⟨Log.debug emitterLog s!"Skipping export with no name (value={Text.quoted value})" ::
        b.journal, ?_⟩
      simp only [emit, takeTimer, hd, hs, Directive.timers]
      rfl

lemma emit_of_open (h : (b.block b.current).closed = false) : ∃ journal, emit d b =
    (.ok (), (b.put b.current ((d.render (b.timers + 1)).map .line)).aside
      (b.timers + d.timers) journal) := by
  obtain ⟨journal, he⟩ := emit_eq b d
  refine ⟨journal, ?_⟩
  rw [he, extend_of_open (by simpa using h)]
  rfl

lemma emit_of_isSilent (h : d.isSilent = true) : ∃ journal, emit d b =
    (.ok (), b.aside (b.timers + d.timers) journal) := by
  obtain ⟨journal, he⟩ := emit_eq b d
  refine ⟨journal, ?_⟩
  rw [he, Directive.render_eq_nil_iff.mpr h]
  exact extend_nil

lemma emit_of_closed (h : (b.block b.current).closed = true) (hd : d.isSilent = false) :
    ∃ journal, emit d b = (.error (.builder (.closed (b.block b.current).title)),
      b.aside (b.timers + d.timers) journal) := by
  obtain ⟨journal, he⟩ := emit_eq b d
  refine ⟨journal, ?_⟩
  have hne : (d.render (b.timers + 1)).map Node.line ≠ [] := by
    rw [Ne, List.map_eq_nil_iff, Directive.render_eq_nil_iff, hd]
    exact Bool.false_ne_true
  rw [he, extend_of_closed (by simpa using h) hne]
  rfl

section Enter
variable (block : Block) (test : String) {name : String}

lemma enter_of_open (h : (b.block b.current).closed = false) : ∃ journal, enter block b =
    (.ok b.blocks.length, (b.push block).aside b.timers journal) := by
  refine ⟨Log.debug builderLog s!"open {block.title.text} at depth {b.depth + 1}" :: b.journal, ?_⟩
  unfold enter
  rw [bind_get, h]
  rfl

lemma enter_of_closed (h : (b.block b.current).closed = true) :
    enter block b = (.error (.builder .afterCompile), b) := by
  unfold enter
  rw [bind_get, h]
  rfl

lemma enterIf_of_open (h : (b.block b.current).closed = false) : ∃ journal, enterIf test b =
    (.ok ⟨b.blocks.length, .branch⟩, (b.push (.start .branch test)).aside b.timers journal) := by
  obtain ⟨journal, he⟩ := enter_of_open (.start .branch test) h
  exact ⟨journal, bind_of_ok he⟩

lemma enterIf_of_closed (h : (b.block b.current).closed = true) :
    enterIf test b = (.error (.builder .afterCompile), b) :=
  bind_of_error (enter_of_closed _ h)

lemma enterFold_of_open (hn : name ≠ "") (h : (b.block b.current).closed = false) :
    ∃ journal, enterFold name b =
      (.ok ⟨b.blocks.length, .fold⟩, (b.push (.start .fold name)).aside b.timers journal) := by
  obtain ⟨journal, he⟩ := enter_of_open (.start .fold name) h
  refine ⟨journal, ?_⟩
  unfold enterFold
  rw [if_neg hn]
  exact bind_of_ok he

lemma enterFold_of_closed (hn : name ≠ "") (h : (b.block b.current).closed = true) :
    enterFold name b = (.error (.builder .afterCompile), b) := by
  unfold enterFold
  rw [if_neg hn]
  exact bind_of_error (enter_of_closed _ h)

lemma enterFold_empty : enterFold "" b = (.error (.builder .namelessFold), b) := rfl

end Enter

section Alternative
variable {c : Conditional}

lemma enterElse_of_open (hc : (b.block b.current).pending? = some c)
    (h : (b.block b.current).closed = false) :
    ∃ journal, enterElse b =
      (.ok ⟨b.blocks.length, .alternative b.current (b.block b.current).lastSlot⟩,
        (b.marked.push (.start .alternative c.test)).aside b.timers journal) := by
  have hm : (b.marked.block b.marked.current).closed = false := by
    rwa [Builder.closed_marked]
  obtain ⟨journal, he⟩ := enter_of_open (.start .alternative c.test) hm
  refine ⟨journal, ?_⟩
  unfold enterElse
  rw [bind_get, hc]
  have hl : b.marked.blocks.length = b.blocks.length := Builder.length_update ..
  rw [hl] at he
  exact bind_of_ok he

/-- The conditional counts as opened although nothing opens. -/
lemma enterElse_of_closed (hc : (b.block b.current).pending? = some c)
    (h : (b.block b.current).closed = true) :
    enterElse b = (.error (.builder .afterCompile), b.marked) := by
  have hm : (b.marked.block b.marked.current).closed = true := by
    rwa [Builder.closed_marked]
  have he := enter_of_closed (.start .alternative c.test) hm
  unfold enterElse
  rw [bind_get, hc]
  exact (bind_of_ok rfl).trans (bind_of_error he)

lemma enterElse_of_none (hc : (b.block b.current).pending? = none) :
    enterElse b = (.error (.builder .strayElse), b) := by
  unfold enterElse
  rw [bind_get, hc]
  rfl

end Alternative

section Leave
variable (scope : Scope)

lemma leave_of_ne (h : b.current ≠ scope.block) : leave scope b =
    (.error (.builder (.malformedNesting (b.block scope.block).title (b.block b.current).title)), b) := by
  unfold leave
  rw [bind_get, if_pos h]
  rfl

lemma leave_of_closed (h : b.current = scope.block) (hc : (b.block b.current).closed = true) :
    leave scope b = (.error (.builder (.alreadyClosed (b.block b.current).title)), b) := by
  have hclose := close_of_closed hc
  rw [h] at hclose ⊢
  unfold leave
  rw [bind_get, if_neg (not_not_intro h)]
  exact bind_of_error hclose

lemma leave_of_open (h : b.current = scope.block) (hc : (b.block b.current).closed = false) :
    ∃ journal, leave scope b =
      deliver scope (b.block b.current) (b.quit.aside b.timers journal) := by
  have hclose := close_of_open hc
  refine ⟨Log.debug builderLog s!"close {(b.block b.current).title.text}" :: b.journal, ?_⟩
  unfold Builder.quit
  rw [h] at hclose ⊢
  unfold leave
  rw [bind_get, if_neg (not_not_intro h)]
  exact bind_of_ok hclose

variable {scope} {block : Block}

lemma deliver_of_open (h : (b.block b.current).closed = false) :
    deliver scope block b = (.ok (), b.receive scope.exit block) := by
  unfold deliver Builder.receive
  cases scope.exit with
  | branch => exact extend_of_open h
  | alternative owner slot => rfl
  | fold => exact extend_of_open h

lemma deliver_alternative {owner slot : Nat} (h : scope.exit = .alternative owner slot) :
    deliver scope block b = (.ok (), b.receive scope.exit block) := by
  unfold deliver Builder.receive
  rw [h]
  rfl

lemma deliver_of_closed (h : (b.block b.current).closed = true)
    (hs : ∀ owner slot, scope.exit ≠ .alternative owner slot) :
    deliver scope block b = (.error (.builder (.closed (b.block b.current).title)), b) := by
  unfold deliver
  cases he : scope.exit with
  | branch => exact extend_of_closed h (List.cons_ne_nil _ _)
  | alternative owner slot => exact absurd he (hs owner slot)
  | fold => exact extend_of_closed h (by simp)

end Leave

section Compile

lemma compile_of_stack (h : b.stack ≠ []) : compile b =
    (.error (.builder (.unclosed (b.stack.reverse.map fun id => (b.block id).title))), b) := by
  unfold compile
  rw [bind_get, if_pos h]
  rfl

lemma compile_of_closed (h : b.stack = []) (hc : (b.block Builder.rootId).closed = true) :
    compile b = (.error (.builder (.alreadyClosed (b.block Builder.rootId).title)), b) := by
  unfold compile
  rw [bind_get, if_neg (not_not_intro h)]
  exact bind_of_error (close_of_closed hc)

lemma compile_of_open (h : b.stack = []) (hc : (b.block Builder.rootId).closed = false) :
    compile b =
      (.ok (Text.unlines (b.block Builder.rootId).lines), b.shut Builder.rootId) := by
  unfold compile
  rw [bind_get, if_neg (not_not_intro h)]
  exact bind_of_ok (close_of_open hc)

end Compile

end Build

end JobScript.Shell
