import JobScript.Proofs.Shell.Ledger
import Mathlib.Algebra.Order.Group.Multiset
import Mathlib.Tactic.Abel

/-! # No line is lost

As long as a site is intact, the root and the blocks above it hold what the ledger has, no more and
no less. -/

namespace JobScript.Shell

lemma indentedBy_zero : indentedBy 0 = id := by
  funext line
  by_cases h : line = "" <;> simp [indentedBy, h]

lemma indentedBy_indentedBy (m n : Nat) (line : String) :
    indentedBy m (indentedBy n line) = indentedBy (m + n) line := by
  by_cases h : line = ""
  · simp [indentedBy, h]
  · have hne : String.ofList (List.replicate (2 * n) ' ') ++ line ≠ "" := by
      intro heq
      have hlist := congrArg String.toList heq
      simp [h] at hlist
    simp only [indentedBy, h, if_false, hne, ← String.append_assoc]
    congr 1
    rw [← String.ofList_append, List.replicate_append_replicate, ← Nat.mul_add]

namespace Builder

variable {b b' : Builder} {ids : List Nat} {id : Nat}

/-- The lines of the innermost of some blocks, as deep as they stand. -/
def linesAt (b : Builder) (ids : List Nat) : Multiset String :=
  ((b.block (ids.headD rootId)).lines : Multiset String).map (indentedBy (b.indentation ids))

/-- The lines of some blocks above the root, and those of the root. -/
def held (b : Builder) : List Nat → Multiset String
  | [] => b.linesAt []
  | id :: below => b.linesAt (id :: below) + b.held below

lemma indentation_congr (h : ∀ id ∈ ids, (b'.block id).title = (b.block id).title) :
    b'.indentation ids = b.indentation ids := by
  unfold indentation
  apply List.countP_congr
  intro id hid
  rw [h id hid]

lemma linesAt_congr (htitle : ∀ id ∈ ids, (b'.block id).title = (b.block id).title)
    (hlines : (b'.block (ids.headD rootId)).lines = (b.block (ids.headD rootId)).lines) :
    b'.linesAt ids = b.linesAt ids := by
  unfold linesAt
  rw [hlines, indentation_congr htitle]

lemma held_congr (hroot : (b'.block rootId).lines = (b.block rootId).lines)
    (htitle : ∀ id ∈ ids, (b'.block id).title = (b.block id).title)
    (hlines : ∀ id ∈ ids, (b'.block id).lines = (b.block id).lines) : b'.held ids = b.held ids := by
  induction ids with
  | nil => exact linesAt_congr htitle hroot
  | cons id below ih =>
    have hbelow := ih (fun id hid => htitle id (List.mem_cons_of_mem _ hid))
      (fun id hid => hlines id (List.mem_cons_of_mem _ hid))
    unfold held
    rw [hbelow, linesAt_congr htitle (hlines id (List.mem_cons_self ..))]

/-- What one block gains is gained as deep as that block stands. -/
lemma held_gain {new : List String} (htitle : ∀ id', (b'.block id').title = (b.block id').title)
    (hother : ∀ id', id' ≠ id → (b'.block id').lines = (b.block id').lines)
    (hself : ((b'.block id).lines : Multiset String) = (b.block id).lines + new)
    (hnodup : ids.Nodup) (hpos : ∀ id' ∈ ids, 0 < id') (hplace : id = rootId ∨ id ∈ ids) :
    b'.held ids = b.held ids +
      (new.map (indentedBy (b.indentation (ids.dropWhile (· != id)))) : List String) := by
  induction ids with
  | nil =>
    have hid : id = rootId := hplace.resolve_right (List.not_mem_nil)
    subst hid
    have hdepth : b'.indentation [] = b.indentation [] := rfl
    simp only [held, linesAt, List.headD_nil, hself, Multiset.map_add, Multiset.map_coe, hdepth,
      List.dropWhile_nil]
  | cons first below ih =>
    obtain ⟨hnot, hbelow⟩ := List.nodup_cons.mp hnodup
    have hfirst : 0 < first := hpos first (List.mem_cons_self ..)
    unfold held
    by_cases hid : first = id
    · subst hid
      -- No block is on the stack twice, so those below the changed one hold what they held.
      have hrest : b'.held below = b.held below := by
        refine held_congr (hother _ hfirst.ne) (fun id' _ => htitle id') fun id' hid' => hother _ ?_
        rintro rfl
        exact hnot hid'
      have hdrop : (first :: below).dropWhile (· != first) = first :: below := by simp
      rw [hrest, hdrop]
      simp only [linesAt, List.headD_cons, hself, Multiset.map_add, Multiset.map_coe,
        indentation_congr fun id' _ => htitle id']
      abel
    · have hdrop : (first :: below).dropWhile (· != id) = below.dropWhile (· != id) := by simp [hid]
      have hplace' : id = rootId ∨ id ∈ below := by
        rcases hplace with hroot | hmem
        · exact .inl hroot
        · exact .inr ((List.mem_cons.mp hmem).resolve_left (Ne.symm hid))
      have hfirstLines : b'.linesAt (first :: below) = b.linesAt (first :: below) :=
        linesAt_congr (fun id' _ => htitle id') (hother first hid)
      rw [hdrop, hfirstLines,
        ih hbelow (fun id' hid' => hpos id' (List.mem_cons_of_mem _ hid')) hplace', add_assoc]

lemma held_nil (b : Builder) : b.held [] = (b.block rootId).lines := by
  show ((b.block rootId).lines : Multiset String).map (indentedBy 0) = _
  rw [indentedBy_zero, Multiset.map_id]

end Builder

namespace Block

variable {block : Block}

/-- The lines that a block brings to the one below when it is left. -/
def delivered (block : Block) : Exit → List String
  | .branch => ["if " ++ block.title.header ++ "; then"] ++ branchLines block.lines ++ ["fi"]
  | .alternative _ _ => ["else"] ++ branchLines block.lines
  | .fold => [foldBegin block.title.header] ++ block.lines ++ [foldEnd block.title.header]

lemma map_branchLines (lines : List String) (depth : Nat) :
    (branchLines lines).map (indentedBy depth) =
      (if lines = [] then [":"] else lines).map (indentedBy (depth + 1)) := by
  rw [branchLines_eq, Program.branchText, List.map_map]
  exact List.map_congr_left fun line _ => indentedBy_indentedBy depth 1 line

/-- What is delivered are the lines of the block, and the frame around them. -/
lemma delivered_eq {exit : Exit} (hkind : block.title.kind = exit.kind) (depth : Nat) :
    (((block.delivered exit).map (indentedBy depth) : List String) : Multiset String) =
      ((block.frame depth).map Entry.line : List String) +
        (block.lines.map (indentedBy (depth + if block.title.kind.indents then 1 else 0)) : List String) := by
  have hfi : ∀ (line : String) (lines : List String), (lines ++ [line]).Perm (line :: lines) :=
    List.perm_append_singleton
  unfold delivered frame
  rw [hkind]
  cases exit with
  | branch =>
    by_cases hnil : block.lines = []
    · have hswap := hfi (indentedBy depth "fi") [indentedBy (depth + 1) ":"]
      simpa [map_branchLines, hnil, Exit.kind, Kind.indents, Entry.line] using hswap
    · simp [map_branchLines, hnil, Exit.kind, Kind.indents, Entry.line, hfi]
  | alternative owner slot =>
    by_cases hnil : block.lines = [] <;>
      simp [map_branchLines, hnil, Exit.kind, Kind.indents, Entry.line]
  | fold =>
    simp [Exit.kind, Kind.indents, Entry.line, hfi]

lemma lines_modifyConditional {f : Conditional → Conditional} (hf : ∀ c, (f c).render = c.render)
    (slot : Nat) : (block.modifyConditional f slot).lines = block.lines := by
  have hmap : (block.modifyConditional f slot).nodes.map Node.render = block.nodes.map Node.render := by
    apply List.ext_getElem?
    intro n
    simp only [modifyConditional, List.getElem?_map, List.getElem?_modify, Option.map_eq_map,
      Option.map_map]
    congr 1
    funext node
    dsimp only [Function.comp]
    split
    · cases node with
      | line text => rfl
      | conditional c => exact hf c
    · rfl
  unfold lines
  rw [List.flatMap_def, hmap, ← List.flatMap_def]

/-- Changing a conditional changes its own lines and none above or below. -/
lemma exists_lines_around {slot : Nat} {c : Conditional} (hslot : block.nodes[slot]? = some (.conditional c)) :
    ∃ above below : List String, block.lines = above ++ c.render ++ below ∧
      ∀ f, (block.modifyConditional f slot).lines = above ++ (f c).render ++ below := by
  obtain ⟨hlt, hget⟩ := List.getElem?_eq_some_iff.mp hslot
  have hnodes : block.nodes = block.nodes.take slot ++ .conditional c :: block.nodes.drop (slot + 1) := by
    rw [← hget, List.getElem_cons_drop, List.take_append_drop]
  refine ⟨(block.nodes.take slot).flatMap Node.render, (block.nodes.drop (slot + 1)).flatMap Node.render,
    (congrArg (List.flatMap Node.render) hnodes).trans (by simp [Node.render]), fun f => ?_⟩
  have hchanged : (block.modifyConditional f slot).nodes =
      block.nodes.take slot ++ .conditional (f c) :: block.nodes.drop (slot + 1) := by
    unfold modifyConditional
    dsimp only
    rw [List.modify_eq_take_cons_drop hlt, hget]
  rw [Block.lines, hchanged]
  simp [Node.render]

lemma lines_modifyConditional_filled {slot : Nat} {c : Conditional}
    (hslot : block.nodes[slot]? = some (.conditional c)) (hc : c.alternative = none) (lines : List String) :
    ((block.modifyConditional (Conditional.filled lines) slot).lines : Multiset String) =
      block.lines + (["else"] ++ branchLines lines : List String) := by
  obtain ⟨above, below, hlines, hfilled⟩ := exists_lines_around hslot
  have hrender : ((c.filled lines).render : Multiset String) =
      c.render + (["else"] ++ branchLines lines : List String) := by
    simp only [Conditional.render, Conditional.filled, hc, ← Multiset.coe_add, List.append_nil]
    abel
  rw [hlines, hfilled]
  simp only [← Multiset.coe_add, hrender]
  abel

end Block

namespace Builder

variable {b : Builder} {id : Nat}

lemma lines_put_self (hlt : id < b.blocks.length) (nodes : List Node) :
    ((b.put id nodes).block id).lines = (b.block id).lines ++ nodes.flatMap Node.render := by
  rw [put, block_update_self _ hlt, Block.lines_add]

@[simp] lemma lines_shut (id' : Nat) : ((b.shut id).block id').lines = (b.block id').lines :=
  congrArg (List.flatMap Node.render) (nodes_shut id')

@[simp] lemma lines_marked (id' : Nat) : (b.marked.block id').lines = (b.block id').lines :=
  block_update_keeps Block.lines _ (fun _ => Block.lines_modifyConditional (fun _ => by rfl) _) id'

lemma lines_receive {exit : Exit} (block : Block) (hlt : b.current < b.blocks.length)
    (hwaits : ∀ owner slot, exit = .alternative owner slot → owner = b.current ∧ b.Waits owner slot) :
    (((b.receive exit block).block b.current).lines : Multiset String) =
      (b.block b.current).lines + (block.delivered exit : List String) := by
  cases exit with
  | branch =>
    rw [receive, lines_put_self hlt]
    simp [Node.render, Conditional.render, Block.delivered]
  | alternative owner slot =>
    obtain ⟨rfl, c, hslot, hc, -⟩ := hwaits owner slot rfl
    rw [receive, block_update_self _ hlt, Block.lines_modifyConditional_filled hslot hc]
    rfl
  | fold =>
    rw [receive, lines_put_self hlt, flatMap_render_line]
    rfl

lemma block_receive_of_ne {exit : Exit} (block : Block)
    (howner : ∀ owner slot, exit = .alternative owner slot → owner = b.current) (hne : id ≠ b.current) :
    (b.receive exit block).block id = b.block id := by
  cases exit with
  | branch => rw [receive, put, block_update_of_ne _ hne.symm]
  | alternative owner slot =>
    obtain rfl := howner owner slot rfl
    rw [receive, block_update_of_ne _ hne.symm]
  | fold => rw [receive, put, block_update_of_ne _ hne.symm]

end Builder

/-- The lines that are in no block that was left. -/
def Site.held (s : Site) : Multiset String := s.builder.held s.builder.stack

namespace Site

variable {b : Builder} {scopes before after : List Scope} {scope : Scope} {id : Nat}

lemma Sound.held_put (h : Sound ⟨b, scopes⟩) (lines : List String)
    (hplace : id = Builder.rootId ∨ id ∈ b.stack) : held ⟨b.put id (lines.map .line), scopes⟩ =
      held ⟨b, scopes⟩ + (lines.map (indentedBy (b.indentationAt id)) : List String) := by
  have hlt : id < b.blocks.length := by
    rcases hplace with rfl | hmem
    · exact h.root
    · exact h.lt id hmem
  refine Builder.held_gain (fun id' => by simp) (fun id' hne => ?_) ?_ h.nodup h.pos hplace
  · rw [Builder.put, Builder.block_update_of_ne _ hne.symm]
  · rw [Builder.lines_put_self hlt, flatMap_render_line, Multiset.coe_add]

lemma held_eq {b b' : Builder} (hstack : b'.stack = b.stack)
    (htitle : ∀ id, (b'.block id).title = (b.block id).title)
    (hlines : ∀ id, (b'.block id).lines = (b.block id).lines) : held ⟨b', scopes⟩ = held ⟨b, before⟩ := by
  unfold held
  dsimp only
  rw [hstack]
  exact Builder.held_congr (hlines _) (fun id _ => htitle id) fun id _ => hlines id

lemma Sound.held_push (h : Sound ⟨b, scopes⟩) (kind : Kind) (header : String) :
    held ⟨b.push (.start kind header), before⟩ = held ⟨b, scopes⟩ := by
  have hblock : ∀ id, id < b.blocks.length → (b.push (.start kind header)).block id = b.block id :=
    fun id hlt => Builder.block_push_of_lt _ hlt
  have hbelow : (b.push (.start kind header)).held b.stack = b.held b.stack :=
    Builder.held_congr (by rw [hblock Builder.rootId h.root]) (fun id hid => by rw [hblock id (h.lt id hid)])
      (fun id hid => by rw [hblock id (h.lt id hid)])
  show (b.push (.start kind header)).linesAt (b.blocks.length :: b.stack) +
    (b.push (.start kind header)).held b.stack = b.held b.stack
  rw [hbelow, Builder.linesAt, List.headD_cons, Builder.block_push_self]
  exact Multiset.zero_add _

/-- Leaving a block only moves its lines, and puts its frame around them. -/
lemma Sound.held_leave (h : Sound ⟨b, before ++ scope :: after⟩) (hcur : b.current = scope.block) :
    held ⟨b.quit.receive scope.exit (b.block b.current), before ++ after⟩ =
      held ⟨b, before ++ scope :: after⟩ + (b.frame.map Entry.line : List String) := by
  obtain ⟨-, below, hstack, -⟩ := h.before_eq_nil hcur
  have hq := h.quit hcur
  have hquit : b.quit.stack = below := Builder.stack_quit hstack
  have hkind := h.kinds scope (by simp)
  rw [← hcur] at hstack hkind
  have howner : ∀ owner slot, scope.exit = .alternative owner slot →
      owner = b.quit.current ∧ b.quit.Waits owner slot :=
    fun owner slot he => ⟨h.owner_eq hcur he, h.waits_quit he⟩
  have hbelow : b.quit.held below = b.held below := by
    refine Builder.held_congr ?_ (fun id _ => ?_) (fun id _ => ?_)
    · exact Builder.lines_shut _
    · exact Builder.title_shut id
    · exact Builder.lines_shut id
  -- The block below takes the delivered lines where it stands, one level up from the left block.
  have hdeep : b.quit.indentation (below.dropWhile (· != b.quit.current)) = b.indentation below := by
    have hdrop : below.dropWhile (· != b.quit.current) = below := by
      show below.dropWhile (· != b.stack.tail.headD Builder.rootId) = below
      rw [hstack]
      cases below <;> simp
    rw [hdrop]
    exact Builder.indentation_congr fun id _ => Builder.title_shut id
  have hplace : b.quit.current = Builder.rootId ∨ b.quit.current ∈ below := hquit ▸ b.quit.current_place
  have hnodup : below.Nodup := hquit ▸ hq.nodup
  have hpos : ∀ id ∈ below, 0 < id := hquit ▸ hq.pos
  have hgain := @Builder.held_gain b.quit (b.quit.receive scope.exit (b.block b.current)) below
    b.quit.current _
    (fun id' => Builder.title_receive ..)
    (fun id' hne => congrArg Block.lines
      (Builder.block_receive_of_ne _ (fun owner slot he => (howner owner slot he).1) hne))
    ((Builder.lines_receive _ hq.current_lt howner).trans (Multiset.coe_add ..)) hnodup hpos hplace
  have hframe : b.frame = (b.block b.current).frame (b.indentation below) := by
    rw [Builder.frame, hstack, List.tail_cons]
  have hhere : b.linesAt (b.current :: below) = ((b.block b.current).lines.map (indentedBy
      (b.indentation below + if (b.block b.current).title.kind.indents then 1 else 0)) : List String) := by
    rw [Builder.linesAt, List.headD_cons, Multiset.map_coe, Builder.indentation, List.countP_cons]
    rfl
  show (b.quit.receive scope.exit (b.block b.current)).held
    (b.quit.receive scope.exit (b.block b.current)).stack = b.held b.stack + _
  rw [Builder.stack_receive, hquit, hgain, hbelow, hstack, Builder.held, hhere, hframe, hdeep,
    Block.delivered_eq hkind]
  abel

end Site

/-- A change that leaves a site intact has put in what its ledger says. -/
theorem Change.held {s s' : Site} {es : List Entry} (h : Change s es s') (hs : s.Sound)
    (hi : s'.Intact) : s'.held = s.held + (es.map Entry.line : List String) := by
  have hnothing : ∀ lines : Multiset String, lines + (([] : List Entry).map Entry.line : List String) =
    lines := add_zero
  cases h with
  | aside b scopes timers journal =>
    rw [hnothing]
    exact Site.held_eq rfl (fun _ => rfl) fun _ => rfl
  | put lines place isOpen =>
    rw [hs.held_put lines place, List.map_map]
    rfl
  | shut lt isOpen =>
    rw [hnothing]
    exact Site.held_eq rfl (fun _ => Builder.title_shut _) fun _ => Builder.lines_shut _
  | mark pending =>
    rw [hnothing]
    exact Site.held_eq rfl (fun _ => Builder.title_marked _) fun _ => Builder.lines_marked _
  | enter header plain isOpen =>
    rw [hnothing]
    exact hs.held_push _ header
  | @enterElse b scopes c pending isOpen =>
    have hmarked : Site.held ⟨b.marked, scopes⟩ = Site.held ⟨b, scopes⟩ :=
      Site.held_eq rfl (fun _ => Builder.title_marked _) fun _ => Builder.lines_marked _
    rw [hnothing, ← hmarked]
    exact hs.marked.held_push _ c.test
  | leave current isOpen => exact hs.held_leave current
  | lose current isClosed =>
    have hopen := hi.current_isOpen
    rw [isClosed] at hopen
    cases hopen
  | drop b before after scope => exact absurd hi hs.not_intact_drop

theorem Changes.held {s s' : Site} {es : List Entry} (h : Changes s es s') (hs : s.Sound)
    (hi : s'.Intact) : s'.held = s.held + (es.map Entry.line : List String) := by
  induction h with
  | refl => exact (add_zero _).symm
  | step first rest ih =>
    rw [ih (first.sound hs) hi, first.held hs (rest.intact (first.sound hs) hi), List.map_append,
      ← Multiset.coe_add, add_assoc]

end JobScript.Shell
