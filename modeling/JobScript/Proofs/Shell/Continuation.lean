import JobScript.Proofs.Shell.Ledger

/-! # Calls after other calls

What is called on a builder that has content already comes to the same as on a new one. The root has
its earlier nodes in front, the blocks have higher numbers, and that is all that differs, as long as
the last of the earlier nodes is no `if` that an `else` could still belong to. -/

namespace JobScript.Shell

lemma modify_append {α : Type} (before own : List α) (n : Nat) (f : α → α) :
    (before ++ own).modify (before.length + n) f = before ++ own.modify n f := by
  induction before with
  | nil => simp
  | cons a before ih =>
    rw [List.length_cons, Nat.add_right_comm, List.cons_append, List.modify_succ_cons, ih, List.cons_append]

namespace Block

/-- A block with more nodes in front of its own. -/
def behind (block : Block) (nodes : List Node) : Block := { block with nodes := nodes ++ block.nodes }

section Behind
variable (block : Block) (nodes : List Node)

@[simp] lemma title_behind : (block.behind nodes).title = block.title := rfl

@[simp] lemma closed_behind : (block.behind nodes).closed = block.closed := rfl

@[simp] lemma nodes_behind : (block.behind nodes).nodes = nodes ++ block.nodes := rfl

@[simp] lemma behind_nil : block.behind [] = block := rfl

lemma add_behind (more : List Node) : (block.add more).behind nodes = (block.behind nodes).add more := by
  simp [add, behind]

end Behind

lemma modifyConditional_behind (block : Block) (nodes : List Node) (f : Conditional → Conditional)
    (slot : Nat) : (block.behind nodes).modifyConditional f (nodes.length + slot) =
      (block.modifyConditional f slot).behind nodes := by
  simp [modifyConditional, behind, modify_append]

lemma lastSlot_behind {block : Block} {nodes : List Node} {c : Conditional}
    (h : block.pending? = some c) : (block.behind nodes).lastSlot = nodes.length + block.lastSlot := by
  obtain ⟨hslot, -⟩ := pending?_eq_some_iff.mp h
  have hlt : block.lastSlot < block.nodes.length := (List.getElem?_eq_some_iff.mp hslot).1
  simp only [lastSlot, nodes_behind, List.length_append] at hlt ⊢
  omega

end Block

/-- No `else` can belong to the last of these nodes. -/
def Settled (nodes : List Node) : Prop := ∀ c : Conditional, nodes.getLast? ≠ some (.conditional c)

lemma settled_nil : Settled [] := by simp [Settled]

lemma settled_append_line (nodes : List Node) (text : String) : Settled (nodes ++ [.line text]) := by
  simp [Settled]

lemma Block.pending?_behind (block : Block) {nodes : List Node} (h : Settled nodes) :
    (block.behind nodes).pending? = block.pending? := by
  unfold Block.pending?
  rw [Block.nodes_behind]
  cases hnodes : block.nodes with
  | nil =>
    rw [List.append_nil]
    split
    · next c hc => exact absurd hc (h c)
    · rfl
  | cons node rest => rw [List.getLast?_append_of_ne_nil _ (List.cons_ne_nil node rest)]

/-- The number that a block of a new builder has after so many others; the root stays the root. -/
def moved (shift id : Nat) : Nat := if id = Builder.rootId then Builder.rootId else id + shift

/-- What stands in front of the own nodes of a block. -/
def front (before : List Node) (id : Nat) : List Node := if id = Builder.rootId then before else []

section Moved
variable (shift : Nat) (before : List Node)

@[simp] lemma moved_root : moved shift Builder.rootId = Builder.rootId := if_pos rfl

@[simp] lemma front_root : front before Builder.rootId = before := if_pos rfl

variable {shift before} {id id' : Nat}

lemma moved_of_pos (h : 0 < id) : moved shift id = id + shift := if_neg (Nat.ne_of_gt h)

lemma front_of_pos (h : 0 < id) : front before id = [] := if_neg (Nat.ne_of_gt h)

lemma moved_inj : moved shift id = moved shift id' ↔ id = id' := by
  unfold moved Builder.rootId
  split <;> split <;> omega

lemma settled_front (h : Settled before) (id : Nat) : Settled (front before id) := by
  unfold front
  split
  · exact h
  · exact settled_nil

end Moved

def Exit.moved (before : List Node) (shift : Nat) : Exit → Exit
  | .branch => .branch
  | .alternative owner slot =>
    .alternative (Shell.moved shift owner) ((front before owner).length + slot)
  | .fold => .fold

def Scope.moved (before : List Node) (shift : Nat) (scope : Scope) : Scope :=
  ⟨Shell.moved shift scope.block, scope.exit.moved before shift⟩

namespace Builder

/-- A builder is where a new one would be after the same calls. -/
structure Continues (before : List Node) (shift : Nat) (b own : Builder) : Prop where
  stack : b.stack = own.stack.map (moved shift)
  timers : b.timers = own.timers
  length : b.blocks.length = own.blocks.length + shift
  block : ∀ id, b.block (moved shift id) = (own.block id).behind (front before id)
  root : own.block rootId = (Block.start .root "").add (own.block rootId).nodes
  nonempty : 0 < own.blocks.length
  pos : ∀ id ∈ own.stack, 0 < id

namespace Continues

variable {before : List Node} {shift : Nat} {b own : Builder}

lemma current (h : Continues before shift b own) : b.current = moved shift own.current := by
  unfold Builder.current
  rw [h.stack]
  cases own.stack <;> simp

lemma current_block (h : Continues before shift b own) :
    b.block b.current = (own.block own.current).behind (front before own.current) := by
  rw [h.current, h.block]

lemma current_closed (h : Continues before shift b own) :
    (b.block b.current).closed = (own.block own.current).closed := by
  rw [h.current_block, Block.closed_behind]

lemma current_title (h : Continues before shift b own) :
    (b.block b.current).title = (own.block own.current).title := by
  rw [h.current_block, Block.title_behind]

lemma pending? (h : Continues before shift b own) (hbefore : Settled before) :
    (b.block b.current).pending? = (own.block own.current).pending? := by
  rw [h.current_block, Block.pending?_behind _ (settled_front hbefore _)]

lemma moved_lt (h : Continues before shift b own) (id : Nat) :
    moved shift id < b.blocks.length ↔ id < own.blocks.length := by
  have hlength := h.length
  have hpos := h.nonempty
  unfold moved Builder.rootId
  split <;> omega

lemma moved_length (h : Continues before shift b own) :
    moved shift own.blocks.length = b.blocks.length := by
  rw [moved_of_pos h.nonempty, h.length]

lemma aside (h : Continues before shift b own) (timers : Nat) (journal journal' : List Log.Record) :
    Continues before shift (b.aside timers journal) (own.aside timers journal') :=
  ⟨h.stack, rfl, h.length, h.block, h.root, h.nonempty, h.pos⟩

/-- A block changes here as it does in the new builder, apart from what stands in front. The root
stays open. -/
lemma update (h : Continues before shift b own) {id : Nat} {f g : Block → Block}
    (hfg : ∀ block : Block, g (block.behind (front before id)) = (f block).behind (front before id))
    (hroot : id = rootId → ∀ block : Block, (f block).title = block.title ∧ (f block).closed = block.closed) :
    Continues before shift (b.update (moved shift id) g) (own.update id f) := by
  refine ⟨h.stack, h.timers, ?_, fun id' => ?_, ?_, ?_, h.pos⟩
  · rw [length_update, length_update]
    exact h.length
  · rw [block_update, block_update, h.block]
    simp only [moved_inj, h.moved_lt]
    split
    · next hid =>
      rw [← hid.1]
      exact hfg _
    · rfl
  · rw [block_update]
    split
    · next hid =>
      obtain ⟨htitle, hclosed⟩ := hroot hid.1 (own.block rootId)
      rw [h.root] at htitle hclosed
      rw [h.root]
      generalize f _ = block at htitle hclosed
      obtain ⟨title, nodes, closed⟩ := block
      obtain rfl : title = _ := htitle
      obtain rfl : closed = _ := hclosed
      rfl
    · exact h.root
  · rw [length_update]
    exact h.nonempty

lemma put (h : Continues before shift b own) (id : Nat) (nodes : List Node) :
    Continues before shift (b.put (moved shift id) nodes) (own.put id nodes) :=
  h.update (fun block => (block.add_behind _ nodes).symm) fun _ _ => ⟨rfl, rfl⟩

lemma put_current (h : Continues before shift b own) (nodes : List Node) :
    Continues before shift (b.put b.current nodes) (own.put own.current nodes) := by
  rw [h.current]
  exact h.put own.current nodes

lemma shut (h : Continues before shift b own) {id : Nat} (hid : 0 < id) :
    Continues before shift (b.shut (moved shift id)) (own.shut id) :=
  h.update (fun _ => rfl) fun hroot => absurd hroot (Nat.ne_of_gt hid)

lemma modify (h : Continues before shift b own) (id slot : Nat) (f : Conditional → Conditional) :
    Continues before shift
      (b.update (moved shift id) (·.modifyConditional f ((front before id).length + slot)))
      (own.update id (·.modifyConditional f slot)) :=
  h.update (fun block => block.modifyConditional_behind _ f slot) fun _ _ => ⟨rfl, rfl⟩

lemma marked (h : Continues before shift b own) {c : Conditional}
    (hc : (own.block own.current).pending? = some c) : Continues before shift b.marked own.marked := by
  unfold Builder.marked
  rw [h.current_block, Block.lastSlot_behind hc, h.current]
  exact h.modify own.current _ Conditional.opened

lemma push (h : Continues before shift b own) (block : Block) :
    Continues before shift (b.push block) (own.push block) := by
  have hfresh : Builder.rootId ≠ own.blocks.length := Nat.ne_of_lt h.nonempty
  refine ⟨?_, h.timers, ?_, fun id => ?_, ?_, ?_, ?_⟩
  · show b.blocks.length :: b.stack = (own.blocks.length :: own.stack).map (moved shift)
    rw [List.map_cons, h.moved_length, h.stack]
  · have hlength := h.length
    simp only [Builder.push, List.length_append, List.length_cons, List.length_nil]
    omega
  · rw [block_push, block_push, ← h.moved_length, h.block]
    simp only [moved_inj]
    split
    · next hid => rw [hid, front_of_pos h.nonempty, Block.behind_nil]
    · rfl
  · rw [block_push, if_neg hfresh]
    exact h.root
  · simp [Builder.push]
  · intro id hid
    rcases List.mem_cons.mp hid with rfl | hid
    · exact h.nonempty
    · exact h.pos id hid

lemma quit (h : Continues before shift b own) (hcur : 0 < own.current) :
    Continues before shift b.quit own.quit := by
  have hs := h.shut hcur
  unfold Builder.quit
  rw [h.current]
  refine ⟨?_, hs.timers, hs.length, hs.block, hs.root, hs.nonempty,
    fun id hid => hs.pos id (List.mem_of_mem_tail hid)⟩
  show b.stack.tail = own.stack.tail.map (moved shift)
  rw [h.stack, List.map_tail]

lemma receive (h : Continues before shift b own) (exit : Exit) (block : Block) :
    Continues before shift (b.receive (exit.moved before shift) block) (own.receive exit block) := by
  cases exit with
  | branch => exact h.put_current _
  | alternative owner slot => exact h.modify owner slot _
  | fold => exact h.put_current _

end Continues

end Builder

namespace Build

open Builder

variable {before : List Node} {shift : Nat} {b own : Builder}

/-- Two actions have ended alike, and the one builder is where the other one would be. -/
structure EndAlike (before : List Node) (shift : Nat) (r own : Except Failure Unit × Builder) : Prop where
  outcome : r.1 = own.1
  continues : Continues before shift r.2 own.2

/-- Two actions that always end alike. -/
def Alike (before : List Node) (shift : Nat) (action action' : Build Unit) : Prop :=
  ∀ b own, Continues before shift b own → EndAlike before shift (action b) (action' own)

/-- An action that enters the same block on both builders, or fails alike. -/
def EntersAlike (before : List Node) (shift : Nat) (action : Build Scope) : Prop :=
  ∀ b own, Continues before shift b own →
    (∃ scope b' own', action b = (.ok (scope.moved before shift), b') ∧ action own = (.ok scope, own') ∧
      0 < scope.block ∧ Continues before shift b' own') ∨
    ∃ e b' own', action b = (.error e, b') ∧ action own = (.error e, own') ∧
      Continues before shift b' own'

lemma EndAlike.of_eq {action action' : Build Unit} {outcome : Except Failure Unit} {b' own' : Builder}
    (hb : action b = (outcome, b')) (hown : action' own = (outcome, own'))
    (h : Continues before shift b' own') : EndAlike before shift (action b) (action' own) := by
  rw [hb, hown]
  exact ⟨rfl, h⟩

lemma Alike.bind {x x' : Build Unit} {k k' : Unit → Build Unit} (hx : Alike before shift x x')
    (hk : Alike before shift (k ()) (k' ())) : Alike before shift (x >>= k) (x' >>= k') := by
  intro b own h
  obtain ⟨houtcome, hnext⟩ := hx b own h
  cases hrun : x b with
  | mk outcome b' =>
    cases hrun' : x' own with
    | mk outcome' own' =>
      rw [hrun, hrun'] at houtcome hnext
      obtain rfl : outcome = outcome' := houtcome
      cases outcome with
      | error e => exact .of_eq (bind_of_error hrun) (bind_of_error hrun') hnext
      | ok =>
        rw [bind_of_ok hrun, bind_of_ok hrun']
        exact hk b' own' hnext

lemma alike_note (record : Log.Record) : Alike before shift (note record) (note record) := by
  intro b own h
  refine ⟨rfl, ?_⟩
  have haside := h.aside own.timers (record :: b.journal) (record :: own.journal)
  rw [← h.timers] at haside
  exact ⟨haside.stack, h.timers, haside.length, haside.block, haside.root, haside.nonempty, haside.pos⟩

lemma alike_extend {id : Nat} (nodes : List Node) :
    Alike before shift (extend (moved shift id) nodes) (extend id nodes) := by
  intro b own h
  by_cases hnil : nodes = []
  · subst nodes
    exact .of_eq extend_nil extend_nil h
  have hblock := h.block id
  cases hclosed : (own.block id).closed with
  | false =>
    have hopen : (b.block (moved shift id)).closed = false := by rw [hblock, Block.closed_behind, hclosed]
    exact .of_eq (extend_of_open hopen) (extend_of_open hclosed) (h.put id nodes)
  | true =>
    have hshut : (b.block (moved shift id)).closed = true := by rw [hblock, Block.closed_behind, hclosed]
    have herror := extend_of_closed hshut hnil
    rw [hblock, Block.title_behind] at herror
    exact .of_eq herror (extend_of_closed hclosed hnil) h

lemma alike_emit (d : Directive) : Alike before shift (emit d) (emit d) := by
  intro b own h
  obtain ⟨journal, he⟩ := emit_eq b d
  obtain ⟨journal', he'⟩ := emit_eq own d
  have haside := h.aside (own.timers + d.timers) journal journal'
  rw [he, he', h.current, h.timers]
  exact alike_extend ((d.render (own.timers + 1)).map .line) _ _ haside

lemma alike_close {id : Nat} (hid : 0 < id) : Alike before shift (close (moved shift id)) (close id) := by
  intro b own h
  have hblock := h.block id
  cases hclosed : (own.block id).closed with
  | false =>
    have hopen : (b.block (moved shift id)).closed = false := by rw [hblock, Block.closed_behind, hclosed]
    exact .of_eq (close_of_open hopen) (close_of_open hclosed) (h.shut hid)
  | true =>
    have hshut : (b.block (moved shift id)).closed = true := by rw [hblock, Block.closed_behind, hclosed]
    have herror := close_of_closed hshut
    rw [hblock, Block.title_behind] at herror
    exact .of_eq herror (close_of_closed hclosed) h

lemma entersAlike_enterIf (test : String) : EntersAlike before shift (enterIf test) := by
  intro b own h
  cases hclosed : (own.block own.current).closed with
  | false =>
    obtain ⟨journal, he⟩ := enterIf_of_open test (h.current_closed.trans hclosed)
    obtain ⟨journal', he'⟩ := enterIf_of_open test hclosed
    rw [h.timers, ← h.moved_length] at he
    exact .inl ⟨⟨own.blocks.length, .branch⟩, _, _, he, he', h.nonempty, (h.push _).aside _ _ _⟩
  | true =>
    exact .inr ⟨_, _, _, enterIf_of_closed test (h.current_closed.trans hclosed),
      enterIf_of_closed test hclosed, h⟩

lemma entersAlike_enterFold (name : String) : EntersAlike before shift (enterFold name) := by
  intro b own h
  by_cases hname : name = ""
  · subst name
    exact .inr ⟨_, _, _, enterFold_empty, enterFold_empty, h⟩
  cases hclosed : (own.block own.current).closed with
  | false =>
    obtain ⟨journal, he⟩ := enterFold_of_open hname (h.current_closed.trans hclosed)
    obtain ⟨journal', he'⟩ := enterFold_of_open hname hclosed
    rw [h.timers, ← h.moved_length] at he
    exact .inl ⟨⟨own.blocks.length, .fold⟩, _, _, he, he', h.nonempty, (h.push _).aside _ _ _⟩
  | true =>
    exact .inr ⟨_, _, _, enterFold_of_closed hname (h.current_closed.trans hclosed),
      enterFold_of_closed hname hclosed, h⟩

/-- The earlier nodes end in no `if`, so an `else` has the `if` that it has in a new builder. -/
lemma entersAlike_enterElse (hbefore : Settled before) : EntersAlike before shift enterElse := by
  intro b own h
  have hpending := h.pending? hbefore
  cases hc : (own.block own.current).pending? with
  | none => exact .inr ⟨_, _, _, enterElse_of_none (hpending.trans hc), enterElse_of_none hc, h⟩
  | some c =>
    cases hclosed : (own.block own.current).closed with
    | false =>
      obtain ⟨journal, he⟩ := enterElse_of_open (hpending.trans hc) (h.current_closed.trans hclosed)
      obtain ⟨journal', he'⟩ := enterElse_of_open hc hclosed
      rw [h.timers, h.current_block, Block.lastSlot_behind hc, ← h.moved_length, h.current] at he
      exact .inl ⟨⟨own.blocks.length, .alternative own.current (own.block own.current).lastSlot⟩, _, _,
        he, he', h.nonempty, ((h.marked hc).push _).aside _ _ _⟩
    | true =>
      exact .inr ⟨_, _, _, enterElse_of_closed (hpending.trans hc) (h.current_closed.trans hclosed),
        enterElse_of_closed hc hclosed, h.marked hc⟩

lemma alike_deliver (scope : Scope) (block : Block) :
    Alike before shift (deliver (scope.moved before shift) block) (deliver scope block) := by
  intro b own h
  have hreceive := h.receive scope.exit block
  cases hclosed : (own.block own.current).closed with
  | false =>
    exact .of_eq (deliver_of_open (h.current_closed.trans hclosed)) (deliver_of_open hclosed) hreceive
  | true =>
    by_cases halt : ∃ owner slot, scope.exit = .alternative owner slot
    · obtain ⟨owner, slot, he⟩ := halt
      have he' : (scope.moved before shift).exit =
          .alternative (moved shift owner) ((front before owner).length + slot) := by
        rw [Scope.moved, he, Exit.moved]
      exact .of_eq (deliver_alternative he') (deliver_alternative he) hreceive
    · have hs : ∀ owner slot, scope.exit ≠ .alternative owner slot := fun owner slot he =>
        halt ⟨owner, slot, he⟩
      have hs' : ∀ owner slot, (scope.moved before shift).exit ≠ .alternative owner slot := by
        intro owner slot
        rw [Scope.moved]
        cases he : scope.exit with
        | branch => simp [Exit.moved]
        | alternative owner' slot' => exact absurd he (hs owner' slot')
        | fold => simp [Exit.moved]
      have herror : deliver (scope.moved before shift) block b = _ :=
        deliver_of_closed (h.current_closed.trans hclosed) hs'
      rw [h.current_title] at herror
      exact .of_eq herror (deliver_of_closed hclosed hs) h

/-- The lines of a block that is left are the same, whatever came before. -/
lemma alike_leave {scope : Scope} (hscope : 0 < scope.block) :
    Alike before shift (leave (scope.moved before shift)) (leave scope) := by
  intro b own h
  have hblock : b.block (moved shift scope.block) = own.block scope.block := by
    rw [h.block, front_of_pos hscope, Block.behind_nil]
  by_cases hcur : own.current = scope.block
  · have hcur' : b.current = moved shift scope.block := by rw [h.current, hcur]
    have hcurrent : b.block b.current = own.block own.current := by rw [hcur', hcur, hblock]
    cases hclosed : (own.block own.current).closed with
    | false =>
      obtain ⟨journal, he⟩ := leave_of_open (scope.moved before shift) hcur' (by rw [hcurrent, hclosed])
      obtain ⟨journal', he'⟩ := leave_of_open scope hcur hclosed
      rw [hcurrent, h.timers] at he
      rw [he, he']
      have hquit := (h.quit (hcur ▸ hscope)).aside own.timers journal journal'
      exact alike_deliver scope _ _ _ hquit
    | true =>
      have herror := leave_of_closed (scope.moved before shift) hcur' (by rw [hcurrent, hclosed])
      rw [hcurrent] at herror
      exact .of_eq herror (leave_of_closed scope hcur hclosed) h
  · have hcur' : b.current ≠ moved shift scope.block := by rwa [h.current, Ne, moved_inj]
    have herror := leave_of_ne (scope.moved before shift) hcur'
    rw [Scope.moved, hblock, h.current_title] at herror
    exact .of_eq herror (leave_of_ne scope hcur) h

end Build

namespace Program

open Build

variable {before : List Node} {shift : Nat}

lemma alike_inside {enter : Build Scope} {body : Build Unit} {rest : Unit → Build Unit}
    (henter : EntersAlike before shift enter) (hbody : Alike before shift body body)
    (hrest : Alike before shift (rest ()) (rest ())) :
    Alike before shift (enter >>= fun scope => body >>= fun _ => leave scope >>= rest)
      (enter >>= fun scope => body >>= fun _ => leave scope >>= rest) := by
  intro b own h
  rcases henter b own h with ⟨scope, b', own', he, he', hscope, h'⟩ | ⟨e, b', own', he, he', h'⟩
  · rw [bind_of_ok he, bind_of_ok he']
    exact hbody.bind ((alike_leave hscope).bind hrest) b' own' h'
  · exact .of_eq (bind_of_error he) (bind_of_error he') h'

/-- A program runs after earlier nodes as it does in a new builder. -/
theorem alike_run (hbefore : Settled before) (p : Program) : Alike before shift p.run p.run := by
  induction p with
  | nil => exact fun _ _ h => ⟨rfl, h⟩
  | emit d rest ih => exact (alike_emit d).bind ih
  | note record rest ih => exact (alike_note record).bind ih
  | fail failure => exact fun _ _ h => ⟨rfl, h⟩
  | branch test body rest ihBody ih => exact alike_inside (entersAlike_enterIf test) ihBody ih
  | choice test body alternative rest ihBody ihAlternative ih =>
    exact alike_inside (entersAlike_enterIf test) ihBody
      (alike_inside (entersAlike_enterElse hbefore) ihAlternative ih)
  | fold name body rest ihBody ih => exact alike_inside (entersAlike_enterFold name) ihBody ih

end Program

end JobScript.Shell
