import JobScript.Proofs.Shell.Change
import Mathlib.Data.List.Nodup

/-! # Sound sites

What holds of a builder and the scopes of its blocks after any changes. Open blocks lie on the stack,
scopes belong to blocks on it, and a conditional that an alternative will fill waits directly below. -/

namespace JobScript.Shell

lemma Block.conditional_of_modifyConditional {block : Block} {f : Conditional → Conditional}
    {slot slot' : Nat} {c : Conditional}
    (h : (block.modifyConditional f slot).nodes[slot']? = some (.conditional c)) :
    ∃ c', block.nodes[slot']? = some (.conditional c') ∧ c = if slot = slot' then f c' else c' := by
  simp only [modifyConditional, List.getElem?_modify, Option.map_eq_map, Option.map_eq_some_iff] at h
  obtain ⟨node, hnode, hc⟩ := h
  cases node with
  | line text => split at hc <;> cases hc
  | conditional c' =>
    refine ⟨c', hnode, ?_⟩
    split at hc <;> cases hc <;> simp_all

lemma Block.pending?_eq_some_iff {block : Block} {c : Conditional} : block.pending? = some c ↔
    block.nodes[block.lastSlot]? = some (.conditional c) ∧ c.alternativeOpened = false := by
  unfold pending? lastSlot
  rw [List.getLast?_eq_getElem?]
  split
  · next c' hc' =>
    rw [hc']
    cases hopened : c'.alternativeOpened <;> simp <;> rintro rfl <;> simp [hopened]
  · next hnone =>
    simp only [reduceCtorEq, false_iff, not_and]
    exact fun hc => absurd hc (hnone c)

lemma Block.getElem?_modifyConditional {block : Block} {slot : Nat} {c : Conditional}
    (h : block.nodes[slot]? = some (.conditional c)) (f : Conditional → Conditional) :
    (block.modifyConditional f slot).nodes[slot]? = some (.conditional (f c)) := by
  simp [modifyConditional, h]

namespace Builder

/-- The conditional at a place has its alternative opened, but not filled. -/
def Waits (b : Builder) (owner slot : Nat) : Prop :=
  ∃ c : Conditional, (b.block owner).nodes[slot]? = some (.conditional c) ∧
    c.alternative = none ∧ c.alternativeOpened = true

/-- A block lies on the stack right above another one, or above the root. -/
def IsAbove (b : Builder) (id owner : Nat) : Prop :=
  ∃ below : List Nat, id :: below <:+ b.stack ∧ owner = below.headD rootId

lemma Waits.lt {b : Builder} {owner slot : Nat} (h : b.Waits owner slot) : owner < b.blocks.length := by
  obtain ⟨c, hc, -⟩ := h
  by_contra hlt
  have hnone : b.blocks[owner]? = none := List.getElem?_eq_none (Nat.le_of_not_lt hlt)
  rw [Builder.block, hnone] at hc
  cases hc

lemma block_push (b : Builder) (block : Block) (id : Nat) :
    (b.push block).block id = if id = b.blocks.length then block else b.block id := by
  split
  · next h => rw [h, block_push_self]
  · next h =>
    by_cases hlt : id < b.blocks.length
    · exact block_push_of_lt block hlt
    · have hold : b.blocks[id]? = none := List.getElem?_eq_none (by omega)
      have hnew : (b.blocks ++ [block])[id]? = none := List.getElem?_eq_none (by simp; omega)
      simp [Builder.block, push, hold, hnew]

end Builder

structure Site.Sound (s : Site) : Prop where
  nodup : s.builder.stack.Nodup
  pos : ∀ id ∈ s.builder.stack, 0 < id
  lt : ∀ id ∈ s.builder.stack, id < s.builder.blocks.length
  root : 0 < s.builder.blocks.length
  popped : ∀ id < s.builder.blocks.length, 0 < id → id ∉ s.builder.stack →
    (s.builder.block id).closed = true
  sublist : (s.scopes.map Scope.block).Sublist s.builder.stack
  kinds : ∀ scope ∈ s.scopes, (s.builder.block scope.block).title.kind = scope.exit.kind
  above : ∀ scope ∈ s.scopes, ∀ owner slot, scope.exit = .alternative owner slot →
    s.builder.IsAbove scope.block owner
  waits : ∀ scope ∈ s.scopes, ∀ owner slot, scope.exit = .alternative owner slot →
    s.builder.Waits owner slot
  unopened : ∀ (id slot : Nat) (c : Conditional), (s.builder.block id).nodes[slot]? = some (.conditional c) →
    c.alternativeOpened = false → c.alternative = none

/-- All is well with a site: every open block can still be left, and takes what comes. -/
structure Site.Intact (s : Site) : Prop where
  root : (s.builder.block Builder.rootId).closed = false
  scopes : s.builder.stack = s.scopes.map Scope.block
  isOpen : ∀ id ∈ s.builder.stack, (s.builder.block id).closed = false

namespace Site

variable {b : Builder} {scopes before after : List Scope} {scope : Scope} {id : Nat}

lemma Sound.start : Sound ⟨.start, []⟩ := by
  have hblock : ∀ id, (Builder.start.block id).nodes = [] := by
    intro id
    cases id <;> rfl
  refine ⟨List.nodup_nil, by simp [Builder.start], by simp [Builder.start], Nat.zero_lt_one, ?_,
    List.nil_sublist _, by simp, by simp, by simp, ?_⟩
  · intro id hid hpos
    have : id < 1 := hid
    omega
  · intro id slot c hc
    rw [hblock] at hc
    cases hc

lemma Sound.aside (h : Sound ⟨b, scopes⟩) (timers : Nat) (journal : List Log.Record) :
    Sound ⟨b.aside timers journal, scopes⟩ :=
  ⟨h.nodup, h.pos, h.lt, h.root, h.popped, h.sublist, h.kinds, h.above, h.waits, h.unopened⟩

/-- No alternative that is still open fills a conditional of the innermost block. -/
lemma Sound.owner_ne_current (h : Sound ⟨b, scopes⟩) (hs : scope ∈ scopes) {owner slot : Nat}
    (he : scope.exit = .alternative owner slot) : owner ≠ b.current := by
  obtain ⟨below, ⟨pre, hstack⟩, howner⟩ := h.above scope hs owner slot he
  have hbelow : owner = 0 ∨ owner ∈ below := by
    cases below with
    | nil => exact .inl howner
    | cons x below => exact .inr (by simp [howner])
  replace hstack : b.stack = pre ++ scope.block :: below := hstack.symm
  have hnodup : b.stack.Nodup := h.nodup
  have hpos : ∀ id ∈ b.stack, 0 < id := h.pos
  -- The owner lies below the block of the scope, and nothing on the stack is there twice.
  rintro rfl
  unfold Builder.current at hbelow
  rw [hstack] at hbelow hnodup hpos
  cases pre with
  | nil =>
    rcases hbelow with hzero | hmem
    · have := hpos scope.block (by simp)
      simp at hzero
      omega
    · simp_all
  | cons t pre =>
    rcases hbelow with hzero | hmem
    · have := hpos t (by simp)
      simp at hzero
      omega
    · simp_all

lemma Sound.current_lt (h : Sound ⟨b, scopes⟩) : b.current < b.blocks.length := by
  unfold Builder.current
  cases hs : b.stack with
  | nil => exact h.root
  | cons t below => exact h.lt t (show t ∈ b.stack by simp [hs])

/-- A block that is still open is still on the stack. -/
lemma Sound.mem_stack (h : Sound ⟨b, scopes⟩) (hpos : 0 < id) (hlt : id < b.blocks.length)
    (hopen : (b.block id).closed = false) : id ∈ b.stack := by
  by_contra hmem
  rw [h.popped id hlt hpos hmem] at hopen
  cases hopen

section Update
variable {f : Block → Block}

/-- A block may change as long as its title stays, it does not open again, and its conditionals
stay as good as they were. -/
lemma Sound.update (h : Sound ⟨b, scopes⟩) (htitle : ∀ block, (f block).title = block.title)
    (hclosed : ∀ block : Block, block.closed = true → (f block).closed = true)
    (hwaits : ∀ scope ∈ scopes, ∀ slot, scope.exit = .alternative id slot → b.Waits id slot →
      (b.update id f).Waits id slot)
    (hunopened : ∀ (slot : Nat) (c : Conditional),
      (f (b.block id)).nodes[slot]? = some (.conditional c) → c.alternativeOpened = false →
        c.alternative = none) : Sound ⟨b.update id f, scopes⟩ := by
  refine ⟨h.nodup, h.pos, ?_, ?_, ?_, h.sublist, ?_, h.above, ?_, ?_⟩
  · intro id' hid'
    rw [Builder.length_update]
    exact h.lt id' hid'
  · rw [Builder.length_update]
    exact h.root
  · intro id' hlt hpos hmem
    rw [Builder.length_update] at hlt
    have hc := h.popped id' hlt hpos hmem
    rw [Builder.block_update]
    split
    · exact hclosed _ hc
    · exact hc
  · intro scope hs
    rw [Builder.block_update_keeps Block.title f htitle]
    exact h.kinds scope hs
  · intro scope hs owner slot he
    have hw := h.waits scope hs owner slot he
    by_cases ho : id = owner
    · subst id
      exact hwaits scope hs slot he hw
    · obtain ⟨c, hc⟩ := hw
      refine ⟨c, ?_⟩
      rwa [Builder.block_update_of_ne f ho]
  · intro id' slot c hc
    rw [Builder.block_update] at hc
    split at hc
    · next hid =>
      rw [← hid.1] at hc
      exact hunopened slot c hc
    · exact h.unopened id' slot c hc

lemma Sound.put (h : Sound ⟨b, scopes⟩) (id : Nat) (nodes : List Node)
    (hnodes : ∀ c : Conditional, .conditional c ∈ nodes → c.alternative = none) :
    Sound ⟨b.put id nodes, scopes⟩ := by
  refine h.update (fun _ => rfl) (fun _ hc => hc) ?_ ?_
  · rintro scope hs slot he ⟨c, hslot, hc⟩
    refine ⟨c, ?_, hc⟩
    rw [Builder.block_update]
    split
    · rw [Block.nodes_add, List.getElem?_append_left (List.getElem?_eq_some_iff.mp hslot).1]
      exact hslot
    · exact hslot
  · intro slot c hslot hc
    rw [Block.nodes_add] at hslot
    by_cases hlt : slot < (b.block id).nodes.length
    · rw [List.getElem?_append_left hlt] at hslot
      exact h.unopened id slot c hslot hc
    · rw [List.getElem?_append_right (by omega)] at hslot
      exact hnodes c (List.mem_of_getElem? hslot)

lemma Sound.shut (h : Sound ⟨b, scopes⟩) (id : Nat) : Sound ⟨b.shut id, scopes⟩ := by
  refine h.update (fun _ => rfl) (fun _ _ => rfl) ?_ (h.unopened id)
  rintro scope hs slot he ⟨c, hslot, hc⟩
  refine ⟨c, ?_, hc⟩
  have hnodes : ((b.shut id).block id).nodes = (b.block id).nodes := Builder.nodes_shut id
  rw [Builder.shut] at hnodes
  rwa [hnodes]

/-- A conditional of the innermost block may change, if it counts as opened then. -/
lemma Sound.modify (h : Sound ⟨b, scopes⟩) {slot : Nat} {f : Conditional → Conditional}
    (hf : ∀ c, (b.block b.current).nodes[slot]? = some (.conditional c) →
      (f c).alternativeOpened = true) :
    Sound ⟨b.update b.current (·.modifyConditional f slot), scopes⟩ := by
  refine h.update (fun _ => rfl) (fun _ hc => hc) ?_ ?_
  · intro scope hs slot' he
    exact absurd rfl (h.owner_ne_current hs he)
  · intro slot' c hslot hc
    obtain ⟨c', hc', rfl⟩ := Block.conditional_of_modifyConditional hslot
    split at hc
    · next hslots =>
      subst hslots
      rw [hf c' hc'] at hc
      cases hc
    · next hslots =>
      rw [if_neg hslots]
      exact h.unopened b.current slot' c' hc' hc

lemma Sound.marked (h : Sound ⟨b, scopes⟩) : Sound ⟨b.marked, scopes⟩ := h.modify fun _ _ => rfl

lemma Sound.waits_marked (h : Sound ⟨b, scopes⟩) {c : Conditional}
    (hc : (b.block b.current).pending? = some c) :
    b.marked.Waits b.current (b.block b.current).lastSlot := by
  obtain ⟨hslot, hopened⟩ := Block.pending?_eq_some_iff.mp hc
  refine ⟨c.opened, ?_, h.unopened _ _ c hslot hopened, rfl⟩
  rw [Builder.marked, Builder.block_update_self _ h.current_lt]
  exact Block.getElem?_modifyConditional hslot _

end Update

lemma Sound.push (h : Sound ⟨b, scopes⟩) (header : String) (exit : Exit)
    (hexit : ∀ owner slot, exit = .alternative owner slot → owner = b.current ∧ b.Waits owner slot) :
    Sound ⟨b.push (.start exit.kind header), ⟨b.blocks.length, exit⟩ :: scopes⟩ := by
  have hfresh : ∀ id ∈ b.stack, id ≠ b.blocks.length := fun id hid => (h.lt id hid).ne
  have hold : ∀ scope ∈ scopes, scope.block ≠ b.blocks.length := fun scope hs =>
    hfresh _ (h.sublist.subset (List.mem_map_of_mem hs))
  have hlength : (b.push (.start exit.kind header)).blocks.length = b.blocks.length + 1 := by
    simp [Builder.push]
  have hwaits : ∀ owner slot, b.Waits owner slot →
      (b.push (.start exit.kind header)).Waits owner slot := by
    intro owner slot hw
    have hlt := hw.lt
    obtain ⟨c, hc⟩ := hw
    refine ⟨c, ?_⟩
    rwa [Builder.block_push_of_lt _ hlt]
  refine ⟨List.nodup_cons.mpr ⟨fun hmem => hfresh _ hmem rfl, h.nodup⟩, ?_, ?_, ?_, ?_,
    h.sublist.cons_cons _, ?_, ?_, ?_, ?_⟩
  · intro id hid
    rcases List.mem_cons.mp hid with rfl | hid
    · exact h.root
    · exact h.pos id hid
  · intro id hid
    rw [hlength]
    rcases List.mem_cons.mp hid with rfl | hid
    · exact Nat.lt_succ_self _
    · exact Nat.lt_succ_of_lt (h.lt id hid)
  · rw [hlength]
    exact Nat.succ_pos _
  · intro id hlt hpos hmem
    rw [hlength] at hlt
    obtain ⟨hne, hmem⟩ := not_or.mp (mt List.mem_cons.mpr hmem)
    have hid : id < b.blocks.length := by omega
    rw [Builder.block_push_of_lt _ hid]
    exact h.popped id hid hpos hmem
  · intro scope hs
    rcases List.mem_cons.mp hs with rfl | hs
    · rw [Builder.block_push_self]
      rfl
    · rw [Builder.block_push, if_neg (hold scope hs)]
      exact h.kinds scope hs
  · intro scope hs owner slot he
    rcases List.mem_cons.mp hs with rfl | hs
    · exact ⟨b.stack, List.suffix_refl _, (hexit owner slot he).1⟩
    · obtain ⟨below, hbelow, howner⟩ := h.above scope hs owner slot he
      exact ⟨below, hbelow.trans (List.suffix_cons _ _), howner⟩
  · intro scope hs owner slot he
    rcases List.mem_cons.mp hs with rfl | hs
    · exact hwaits owner slot (hexit owner slot he).2
    · exact hwaits owner slot (h.waits scope hs owner slot he)
  · intro id slot c hc
    rw [Builder.block_push] at hc
    split at hc
    · cases hc
    · exact h.unopened id slot c hc

lemma Sound.drop (h : Sound ⟨b, before ++ scope :: after⟩) : Sound ⟨b, before ++ after⟩ := by
  have hsub : (before ++ after).Sublist (before ++ scope :: after) :=
    (List.sublist_cons_self _ _).append_left _
  exact ⟨h.nodup, h.pos, h.lt, h.root, h.popped, (hsub.map _).trans h.sublist,
    fun s hs => h.kinds s (hsub.subset hs), fun s hs => h.above s (hsub.subset hs),
    fun s hs => h.waits s (hsub.subset hs), h.unopened⟩

/-- The scope of the innermost block is the latest one. -/
lemma Sound.before_eq_nil (h : Sound ⟨b, before ++ scope :: after⟩) (hcur : b.current = scope.block) :
    before = [] ∧ ∃ below, b.stack = scope.block :: below ∧ (after.map Scope.block).Sublist below := by
  have hsub : (before.map Scope.block ++ scope.block :: after.map Scope.block).Sublist b.stack := by
    simpa using h.sublist
  have hmem : scope.block ∈ b.stack := hsub.subset (by simp)
  obtain ⟨below, hstack⟩ : ∃ below, b.stack = scope.block :: below := by
    cases hs : b.stack with
    | nil => simp [hs] at hmem
    | cons t below =>
      rw [Builder.current, hs] at hcur
      exact ⟨below, by rw [← hcur]; rfl⟩
  have hnodup : (scope.block :: below).Nodup := hstack ▸ h.nodup
  have hnot := (List.nodup_cons.mp hnodup).1
  rw [hstack] at hsub
  cases before with
  | nil => exact ⟨rfl, below, hstack, List.cons_sublist_cons.mp hsub⟩
  | cons first before =>
    rcases List.sublist_cons_iff.mp hsub with hin | ⟨rest, hrest, hin⟩
    · exact absurd (hin.subset (by simp)) hnot
    · obtain ⟨-, rfl⟩ := List.cons.inj hrest
      exact absurd (hin.subset (by simp)) hnot

lemma Sound.quit (h : Sound ⟨b, before ++ scope :: after⟩) (hcur : b.current = scope.block) :
    Sound ⟨b.quit, before ++ after⟩ := by
  obtain ⟨rfl, below, hstack, hafter⟩ := h.before_eq_nil hcur
  have hnodup : (scope.block :: below).Nodup := hstack ▸ h.nodup
  obtain ⟨hnot, hbelow⟩ := List.nodup_cons.mp hnodup
  have hs := h.shut b.current
  have hquit : b.quit.stack = below := Builder.stack_quit hstack
  have hmem : ∀ id ∈ below, id ∈ b.stack := fun id hid => hstack ▸ List.mem_cons_of_mem _ hid
  have hlater : ∀ s ∈ after, s ∈ [] ++ scope :: after := fun s hsa => List.mem_cons_of_mem _ hsa
  refine ⟨hquit ▸ hbelow, ?_, ?_, hs.root, ?_, ?_, fun s hsa => hs.kinds s (hlater s hsa), ?_,
    fun s hsa => hs.waits s (hlater s hsa), hs.unopened⟩
  · rw [hquit]
    exact fun id hid => hs.pos id (hmem id hid)
  · rw [hquit]
    exact fun id hid => hs.lt id (hmem id hid)
  · intro id hlt hpos hid
    rw [hquit] at hid
    by_cases hid' : id = scope.block
    · have hlt' : b.current < b.blocks.length := by
        rw [hcur]
        exact h.lt _ (by simp [hstack])
      show ((b.shut b.current).block id).closed = true
      rw [hid', ← hcur, Builder.shut, Builder.block_update_self _ hlt']
      rfl
    · refine hs.popped id hlt hpos ?_
      show id ∉ b.stack
      rw [hstack]
      simp [hid, hid']
  · rw [hquit]
    exact hafter
  · intro s hsa owner slot he
    obtain ⟨under, hsuffix, howner⟩ := hs.above s (hlater s hsa) owner slot he
    refine ⟨under, ?_, howner⟩
    rw [hquit]
    replace hsuffix : s.block :: under <:+ b.stack := hsuffix
    rw [hstack] at hsuffix
    rcases List.suffix_cons_iff.mp hsuffix with heq | hin
    · obtain ⟨heq, -⟩ := List.cons.inj heq
      have hs_mem : s.block ∈ below := hafter.subset (List.mem_map_of_mem hsa)
      exact absurd (heq ▸ hs_mem) hnot
    · exact hin

/-- The lines of an alternative go to the block that is the innermost once it is left. -/
lemma Sound.owner_eq (h : Sound ⟨b, before ++ scope :: after⟩) (hcur : b.current = scope.block)
    {owner slot : Nat} (he : scope.exit = .alternative owner slot) : owner = b.quit.current := by
  obtain ⟨-, below, hstack, -⟩ := h.before_eq_nil hcur
  have hnodup : (scope.block :: below).Nodup := hstack ▸ h.nodup
  obtain ⟨under, hsuffix, rfl⟩ := h.above scope (by simp) owner slot he
  replace hsuffix : scope.block :: under <:+ b.stack := hsuffix
  rw [hstack] at hsuffix
  show _ = b.stack.tail.headD Builder.rootId
  rw [hstack]
  rcases List.suffix_cons_iff.mp hsuffix with heq | hin
  · rw [(List.cons.inj heq).2]
    rfl
  · exact absurd (hin.subset (by simp)) (List.nodup_cons.mp hnodup).1

lemma Sound.waits_quit (h : Sound ⟨b, before ++ scope :: after⟩) {owner slot : Nat}
    (he : scope.exit = .alternative owner slot) : b.quit.Waits owner slot := by
  obtain ⟨c, hc⟩ := h.waits scope (by simp) owner slot he
  refine ⟨c, ?_⟩
  show (((b.shut b.current).block owner).nodes[slot]? = _) ∧ _
  rwa [Builder.nodes_shut]

lemma Sound.receive (h : Sound ⟨b, before ++ scope :: after⟩) (hcur : b.current = scope.block)
    (block : Block) : Sound ⟨b.quit.receive scope.exit block, before ++ after⟩ := by
  have hq := h.quit hcur
  unfold Builder.receive
  cases he : scope.exit with
  | branch =>
    refine hq.put _ _ ?_
    intro c hc
    cases List.mem_singleton.mp hc
    rfl
  | alternative owner slot =>
    have howner := h.owner_eq hcur he
    obtain ⟨c, hc, -, hopened⟩ := h.waits_quit he
    subst howner
    refine hq.modify ?_
    intro c' hc'
    rw [hc] at hc'
    cases hc'
    exact hopened
  | fold =>
    refine hq.put _ _ ?_
    intro c hc
    simp at hc

end Site

section Closing
variable {b : Builder}

@[simp] lemma Builder.stack_receive (exit : Exit) (block : Block) :
    (b.receive exit block).stack = b.stack := by
  cases exit <;> rfl

@[simp] lemma Builder.title_receive (exit : Exit) (block : Block) (id : Nat) :
    ((b.receive exit block).block id).title = (b.block id).title := by
  cases exit with
  | branch => exact Builder.title_put ..
  | alternative owner slot => exact Builder.block_update_keeps Block.title _ (fun _ => by rfl) id
  | fold => exact Builder.title_put ..

@[simp] lemma Builder.closed_receive (exit : Exit) (block : Block) (id : Nat) :
    ((b.receive exit block).block id).closed = (b.block id).closed := by
  cases exit with
  | branch => exact Builder.closed_put ..
  | alternative owner slot => exact Builder.block_update_keeps Block.closed _ (fun _ => by rfl) id
  | fold => exact Builder.closed_put ..

@[simp] lemma Builder.length_receive (exit : Exit) (block : Block) :
    (b.receive exit block).blocks.length = b.blocks.length := by
  cases exit <;> exact Builder.length_update ..

lemma Builder.isOpen_of_shut {id id' : Nat} (h : ((b.shut id).block id').closed = false) :
    (b.block id').closed = false := by
  rw [Builder.shut, Builder.block_update] at h
  split at h
  · cases h
  · exact h

end Closing

theorem Change.sound {s s' : Site} {es : List Entry} (h : Change s es s') (hs : s.Sound) :
    s'.Sound := by
  cases h with
  | aside b scopes timers journal => exact hs.aside timers journal
  | put lines place isOpen => exact hs.put _ _ (by simp)
  | shut lt isOpen => exact hs.shut _
  | mark pending => exact hs.marked
  | enter header plain isOpen => exact hs.push header _ fun owner slot he => absurd he (plain owner slot)
  | @enterElse b scopes c pending isOpen =>
    have hpush := hs.marked.push c.test (.alternative b.current (b.block b.current).lastSlot) (by
      rintro owner slot ⟨⟩
      exact ⟨rfl, hs.waits_marked pending⟩)
    have hlength : b.marked.blocks.length = b.blocks.length := Builder.length_update ..
    rwa [hlength] at hpush
  | leave current isOpen => exact hs.receive current _
  | lose current isClosed => exact hs.quit current
  | drop b before after scope => exact hs.drop

theorem Changes.sound {s s' : Site} {es : List Entry} (h : Changes s es s') (hs : s.Sound) :
    s'.Sound := by
  induction h with
  | refl => exact hs
  | step first _ ih => exact ih (first.sound hs)

namespace Site

variable {b : Builder} {scopes before after : List Scope} {scope : Scope}

lemma Intact.start : Intact ⟨.start, []⟩ := ⟨rfl, rfl, by simp [Builder.start]⟩

lemma Intact.current_isOpen (h : Intact ⟨b, scopes⟩) : (b.block b.current).closed = false := by
  unfold Builder.current
  cases hs : b.stack with
  | nil => exact h.root
  | cons t below => exact h.isOpen t (show t ∈ b.stack by simp [hs])

lemma Sound.intact_of_push (h : Sound ⟨b, scopes⟩) {block : Block} {exit : Exit}
    (hi : Intact ⟨b.push block, ⟨b.blocks.length, exit⟩ :: scopes⟩) : Intact ⟨b, scopes⟩ := by
  refine ⟨?_, (List.cons.inj hi.scopes).2, fun id hid => ?_⟩
  · have hroot : ((b.push block).block Builder.rootId).closed = false := hi.root
    have hlt : Builder.rootId < b.blocks.length := h.root
    rwa [Builder.block_push_of_lt _ hlt] at hroot
  · have hopen : ((b.push block).block id).closed = false := hi.isOpen id (List.mem_cons_of_mem _ hid)
    rwa [Builder.block_push_of_lt _ (h.lt id hid)] at hopen

lemma intact_of_marked (hi : Intact ⟨b.marked, scopes⟩) : Intact ⟨b, scopes⟩ := by
  refine ⟨?_, hi.scopes, fun id hid => ?_⟩
  · simpa using hi.root
  · simpa using hi.isOpen id hid

/-- An open block without its scope can never be left. -/
lemma Sound.not_intact_drop (h : Sound ⟨b, before ++ scope :: after⟩) :
    ¬ Intact ⟨b, before ++ after⟩ := by
  intro hi
  have hnodup : ((before ++ scope :: after).map Scope.block).Nodup := h.sublist.nodup h.nodup
  have hmem : scope.block ∈ b.stack := h.sublist.subset (by simp)
  have hscopes : b.stack = (before ++ after).map Scope.block := hi.scopes
  rw [hscopes] at hmem
  simp only [List.map_append, List.map_cons] at hnodup hmem
  exact (List.nodup_cons.mp (List.nodup_middle.mp hnodup)).1 hmem

end Site

/-- No change makes a site intact again. -/
theorem Change.intact {s s' : Site} {es : List Entry} (h : Change s es s') (hs : s.Sound)
    (hi : s'.Intact) : s.Intact := by
  cases h with
  | aside b scopes timers journal => exact ⟨hi.root, hi.scopes, hi.isOpen⟩
  | put lines place isOpen =>
    refine ⟨?_, hi.scopes, fun id hid => ?_⟩
    · simpa using hi.root
    · simpa using hi.isOpen id hid
  | shut lt isOpen =>
    exact ⟨Builder.isOpen_of_shut hi.root, hi.scopes,
      fun id hid => Builder.isOpen_of_shut (hi.isOpen id hid)⟩
  | mark pending => exact Site.intact_of_marked hi
  | enter header plain isOpen => exact hs.intact_of_push hi
  | @enterElse b scopes c pending isOpen =>
    rw [← b.length_update b.current] at hi
    exact Site.intact_of_marked (hs.marked.intact_of_push hi)
  | @leave b before after scope current isOpen =>
    obtain ⟨rfl, below, hstack, -⟩ := hs.before_eq_nil current
    have htail : (b.quit.receive scope.exit (b.block b.current)).stack = below := by
      rw [Builder.stack_receive, Builder.stack_quit hstack]
    have hrest : below = after.map Scope.block := htail ▸ hi.scopes
    have hclosed : ∀ id, ((b.quit.receive scope.exit (b.block b.current)).block id).closed = false →
        (b.block id).closed = false := by
      intro id hid
      rw [Builder.closed_receive] at hid
      exact Builder.isOpen_of_shut hid
    refine ⟨hclosed _ hi.root, ?_, fun id hid => ?_⟩
    · show b.stack = scope.block :: after.map Scope.block
      rw [hstack, hrest]
    · replace hid : id ∈ b.stack := hid
      rw [hstack] at hid
      rcases List.mem_cons.mp hid with rfl | hid
      · rwa [current] at isOpen
      · exact hclosed id (hi.isOpen id (htail.symm ▸ hid))
  | lose current isClosed =>
    have hopen := hi.current_isOpen
    rw [isClosed] at hopen
    cases hopen
  | drop b before after scope => exact absurd hi hs.not_intact_drop

theorem Changes.intact {s s' : Site} {es : List Entry} (h : Changes s es s') (hs : s.Sound)
    (hi : s'.Intact) : s.Intact := by
  induction h with
  | refl => exact hi
  | step first _ ih => exact first.intact hs (ih (first.sound hs) hi)

end JobScript.Shell
