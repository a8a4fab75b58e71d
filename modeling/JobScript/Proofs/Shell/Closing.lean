import JobScript.Proofs.Shell.FailStop
import JobScript.Proofs.Shell.Invariant

/-! # Closed blocks

A block that is closed takes nothing more, and what it has stays as it is. There is one exception: a
block that is closed from outside while an `else` is open in it still gets the lines of this `else`. -/

namespace JobScript.Shell

namespace Builder

variable {b : Builder} {id : Nat}

/-- Nothing is put together in a block any more: neither is it on the stack, nor is it the root with
other blocks open above it. -/
def IsDone (b : Builder) (id : Nat) : Prop := id ∉ b.stack ∧ (id = rootId → b.stack = [])

/-- No block is on the stack twice, and one of the blocks is done once it is closed. -/
structure Finishes (b : Builder) (id : Nat) : Prop where
  nodup : b.stack.Nodup
  pos : ∀ i ∈ b.stack, 0 < i
  lt : ∀ i ∈ b.stack, i < b.blocks.length
  root : 0 < b.blocks.length
  done : (b.block id).closed = true → b.IsDone id

lemma lt_of_closed (h : (b.block id).closed = true) : id < b.blocks.length := by
  by_contra hlt
  have hnone : b.blocks[id]? = none := List.getElem?_eq_none (Nat.le_of_not_lt hlt)
  rw [Builder.block, hnone] at h
  cases h

/-- What neither touches the stack nor closes a block. -/
lemma Finishes.of_closed {b' : Builder} (h : b.Finishes id) (hstack : b'.stack = b.stack)
    (hlength : b'.blocks.length = b.blocks.length) (hclosed : (b'.block id).closed = (b.block id).closed) :
    b'.Finishes id := by
  refine ⟨hstack ▸ h.nodup, hstack ▸ h.pos, ?_, hlength ▸ h.root, fun hc => ?_⟩
  · rw [hstack, hlength]
    exact h.lt
  · rw [hclosed] at hc
    unfold IsDone
    rw [hstack]
    exact h.done hc

lemma Finishes.aside (h : b.Finishes id) (timers : Nat) (journal : List Log.Record) :
    (b.aside timers journal).Finishes id := h.of_closed rfl rfl rfl

lemma Finishes.marked (h : b.Finishes id) : b.marked.Finishes id :=
  h.of_closed rfl (length_update ..) (closed_marked id)

/-- A new block is open, and goes above one that is open too. -/
lemma Finishes.push (h : b.Finishes id) (kind : Kind) (header : String)
    (hopen : (b.block b.current).closed = false) : (b.push (.start kind header)).Finishes id := by
  have hfresh : b.blocks.length ∉ b.stack := fun hmem => (h.lt _ hmem).false
  have hlength : (b.push (.start kind header)).blocks.length = b.blocks.length + 1 := by simp [Builder.push]
  refine ⟨List.nodup_cons.mpr ⟨hfresh, h.nodup⟩, ?_, ?_, by omega, fun hc => ?_⟩
  · intro i hi
    rcases List.mem_cons.mp hi with rfl | hi
    · exact h.root
    · exact h.pos i hi
  · intro i hi
    rw [hlength]
    rcases List.mem_cons.mp hi with rfl | hi
    · exact Nat.lt_succ_self _
    · exact Nat.lt_succ_of_lt (h.lt i hi)
  · rw [block_push] at hc
    split at hc
    · cases hc
    · next hne =>
      obtain ⟨hmem, hroot⟩ := h.done hc
      refine ⟨fun hin => (List.mem_cons.mp hin).elim hne hmem, fun hid => ?_⟩
      -- Above a root that is closed nothing is opened.
      have hcurrent : b.current = id := by
        rw [Builder.current, hroot hid, hid]
        rfl
      rw [hcurrent, hc] at hopen
      cases hopen

/-- The block that is left is closed, and off the stack. -/
lemma Finishes.quit (h : b.Finishes id) : b.quit.Finishes id := by
  have hlength : b.quit.blocks.length = b.blocks.length := length_update ..
  have hsub : ∀ i ∈ b.stack.tail, i ∈ b.stack := fun i hi => List.mem_of_mem_tail hi
  refine ⟨h.nodup.sublist (List.tail_sublist _), fun i hi => h.pos i (hsub i hi), ?_, hlength ▸ h.root,
    fun hc => ?_⟩
  · rw [hlength]
    exact fun i hi => h.lt i (hsub i hi)
  · show id ∉ b.stack.tail ∧ (id = rootId → b.stack.tail = [])
    replace hc : ((b.shut b.current).block id).closed = true := hc
    cases hstack : b.stack with
    | nil => simp
    | cons t below =>
      have hcurrent : b.current = t := current_of_stack hstack
      by_cases hid : id = t
      · subst hid
        have hnodup : (id :: below).Nodup := hstack ▸ h.nodup
        have hpos : 0 < id := h.pos id (by simp [hstack])
        exact ⟨(List.nodup_cons.mp hnodup).1, fun hroot => absurd hroot hpos.ne'⟩
      · rw [shut, hcurrent, block_update_of_ne _ (Ne.symm hid)] at hc
        obtain ⟨hmem, hroot⟩ := h.done hc
        rw [hstack] at hmem hroot
        exact ⟨fun hin => hmem (List.mem_cons_of_mem _ hin), fun hr => absurd (hroot hr) (List.cons_ne_nil _ _)⟩

/-- A root without open blocks is done. -/
lemma Finishes.shut_root (h : b.Finishes id) (hstack : b.stack = []) : (b.shut rootId).Finishes id := by
  have hlength : (b.shut rootId).blocks.length = b.blocks.length := length_update ..
  exact ⟨h.nodup, h.pos, hlength ▸ h.lt, hlength ▸ h.root, fun _ => ⟨by simp [shut, update, hstack],
    fun _ => hstack⟩⟩

end Builder

namespace Build

variable (id : Nat)

lemma finishes_extend (i : Nat) (nodes : List Node) : Preserves (Builder.Finishes · id) (extend i nodes) := by
  intro b h
  by_cases hnil : nodes = []
  · rw [hnil, extend_nil]
    exact h
  cases hclosed : (b.block i).closed with
  | false =>
    rw [extend_of_open hclosed]
    exact h.of_closed rfl (Builder.length_update ..) (Builder.closed_put ..)
  | true =>
    rw [extend_of_closed hclosed hnil]
    exact h

lemma finishes_emit (d : Directive) : Preserves (Builder.Finishes · id) (emit d) := by
  intro b h
  obtain ⟨journal, he⟩ := emit_eq b d
  rw [he]
  exact finishes_extend id _ _ _ (h.aside _ journal)

lemma finishes_note (record : Log.Record) : Preserves (Builder.Finishes · id) (note record) :=
  fun b h => h.aside b.timers (record :: b.journal)

lemma finishes_enter (kind : Kind) (header : String) :
    Preserves (Builder.Finishes · id) (enter (.start kind header)) := by
  intro b h
  cases hopen : (b.block b.current).closed with
  | false =>
    obtain ⟨journal, he⟩ := enter_of_open (.start kind header) hopen
    rw [he]
    exact (h.push kind header hopen).aside _ journal
  | true =>
    rw [enter_of_closed _ hopen]
    exact h

lemma finishes_enterIf (test : String) : Preserves (Builder.Finishes · id) (enterIf test) :=
  (finishes_enter id .branch test).bind fun _ => preserves_pure _

lemma finishes_enterFold (name : String) : Preserves (Builder.Finishes · id) (enterFold name) := by
  unfold enterFold
  split
  · exact (preserves_throw _).bind fun _ => (finishes_enter id .fold name).bind fun _ => preserves_pure _
  · exact (finishes_enter id .fold name).bind fun _ => preserves_pure _

lemma finishes_enterElse : Preserves (Builder.Finishes · id) enterElse := by
  intro b h
  cases hpending : (b.block b.current).pending? with
  | none =>
    rw [enterElse_of_none hpending]
    exact h
  | some c =>
    cases hopen : (b.block b.current).closed with
    | false =>
      obtain ⟨journal, he⟩ := enterElse_of_open hpending hopen
      have hmarked : (b.marked.block b.marked.current).closed = false := (Builder.closed_marked _).trans hopen
      rw [he]
      exact (h.marked.push .alternative c.test hmarked).aside _ journal
    | true =>
      rw [enterElse_of_closed hpending hopen]
      exact h.marked

lemma finishes_leave (scope : Scope) : Preserves (Builder.Finishes · id) (leave scope) := by
  intro b h
  rcases leave_cases b scope with ⟨-, -, -, journal, he⟩ | ⟨-, -, e, journal, he⟩ | ⟨e, he⟩
  · have hreceive : (b.quit.receive scope.exit (b.block b.current)).Finishes id :=
      h.quit.of_closed (Builder.stack_receive ..) (Builder.length_receive ..) (Builder.closed_receive ..)
    rw [he]
    exact hreceive.aside _ journal
  · rw [he]
    exact h.quit.aside _ journal
  · rw [he]
    exact h

lemma finishes_compile : Preserves (Builder.Finishes · id) compile := by
  intro b h
  by_cases hstack : b.stack = []
  · cases hopen : (b.block Builder.rootId).closed with
    | false =>
      rw [compile_of_open hstack hopen]
      exact h.shut_root hstack
    | true =>
      rw [compile_of_closed hstack hopen]
      exact h
  · rw [compile_of_stack hstack]
    exact h

/-- Whatever is called but a direct closing, a block that is closed is done. -/
theorem invariant_finishes : Invariant (Builder.Finishes · id) where
  note := finishes_note id
  emit := finishes_emit id
  extend := finishes_extend id
  enterIf := finishes_enterIf id
  enterElse := finishes_enterElse id
  enterFold := finishes_enterFold id
  leave := finishes_leave id
  compile := finishes_compile id

end Build

/-- What the lines of a block go to, once it is left, is a conditional of block `id`. -/
def Scope.Fills (scope : Scope) (id : Nat) : Prop := ∃ slot, scope.exit = .alternative id slot

namespace Site

variable {b : Builder} {scopes : List Scope} {id : Nat}

/-- No `else` is open in a block that is done. -/
lemma Sound.not_fills_of_isDone (h : Sound ⟨b, scopes⟩) (hdone : b.IsDone id) :
    ∀ scope ∈ scopes, ¬ scope.Fills id := by
  rintro scope hs ⟨slot, he⟩
  obtain ⟨below, hsuffix, howner⟩ := h.above scope hs id slot he
  replace hsuffix : scope.block :: below <:+ b.stack := hsuffix
  cases below with
  | nil =>
    rw [hdone.2 howner] at hsuffix
    cases List.suffix_nil.mp hsuffix
  | cons first below =>
    rw [List.headD_cons] at howner
    subst howner
    exact hdone.1 (hsuffix.subset (by simp))

/-- The alternative of a conditional in block `id` was left: its lines are now there, and it is done. -/
structure Fill (s s' : Site) (id : Nat) (scope : Scope) (slot : Nat) : Prop where
  mem : scope ∈ s.scopes
  exit : scope.exit = .alternative id slot
  block : s'.builder.block id =
    (s.builder.block id).modifyConditional (Conditional.filled (s.builder.block scope.block).lines) slot
  current : s'.builder.current = id
  shut : (s'.builder.block scope.block).closed = true
  done : s'.builder.IsDone scope.block
  lines : (s'.builder.block scope.block).lines = (s.builder.block scope.block).lines

lemma Sound.fill {before after : List Scope} {scope : Scope} {slot : Nat}
    (h : Sound ⟨b, before ++ scope :: after⟩) (hcur : b.current = scope.block)
    (he : scope.exit = .alternative id slot) : Fill ⟨b, before ++ scope :: after⟩
      ⟨b.quit.receive scope.exit (b.block b.current), before ++ after⟩ id scope slot := by
  obtain ⟨-, below, hstack, -⟩ := h.before_eq_nil hcur
  have howner : id = b.quit.current := h.owner_eq hcur he
  have hnodup : (scope.block :: below).Nodup := hstack ▸ h.nodup
  have hpos : 0 < scope.block := h.pos scope.block (by simp [hstack])
  have hlt : scope.block < b.blocks.length := h.lt scope.block (by simp [hstack])
  have hne : id ≠ scope.block := by
    rw [← hcur]
    exact h.owner_ne_current (by simp) he
  have hid : id < b.quit.blocks.length := (h.waits_quit he).lt
  have hquit : b.quit.block id = b.block id := by
    rw [← hcur] at hne
    exact Builder.block_update_of_ne _ hne.symm
  have hstack' : (b.quit.receive scope.exit (b.block b.current)).stack = below := by
    rw [Builder.stack_receive, Builder.stack_quit hstack]
  refine ⟨by simp, he, ?_, ?_, ?_, ?_, ?_⟩
  · rw [he, Builder.receive, Builder.block_update_self _ hid, hquit, hcur]
  · show (b.quit.receive scope.exit (b.block b.current)).stack.headD Builder.rootId = id
    rw [Builder.stack_receive]
    exact howner.symm
  · rw [Builder.closed_receive]
    show ((b.shut b.current).block scope.block).closed = true
    rw [hcur, Builder.shut, Builder.block_update_self _ hlt]
    rfl
  · show scope.block ∉ (b.quit.receive scope.exit (b.block b.current)).stack ∧ _
    rw [hstack']
    exact ⟨(List.nodup_cons.mp hnodup).1, fun hroot => absurd hroot hpos.ne'⟩
  · rw [he, Builder.receive, Builder.block_update_of_ne _ hne]
    exact Builder.lines_shut _

end Site

lemma Builder.closed_shut {b : Builder} {id id' : Nat} (h : (b.block id').closed = true) :
    ((b.shut id).block id').closed = true := by
  cases hshut : ((b.shut id).block id').closed with
  | true => rfl
  | false =>
    rw [Builder.isOpen_of_shut hshut] at h
    cases h

section Changes
variable {s s' : Site} {es : List Entry} {id : Nat}

/-- No change opens a block again. -/
lemma Change.closed (h : Change s es s') (hc : (s.builder.block id).closed = true) :
    (s'.builder.block id).closed = true := by
  cases h with
  | aside => exact hc
  | put => exact (Builder.closed_put ..).trans hc
  | shut => exact Builder.closed_shut hc
  | mark => exact (Builder.closed_marked _).trans hc
  | enter =>
    rw [Builder.block_push_of_lt _ (Builder.lt_of_closed hc)]
    exact hc
  | @enterElse b scopes c =>
    replace hc : (b.marked.block id).closed = true := (Builder.closed_marked _).trans hc
    rw [Builder.block_push_of_lt _ (Builder.lt_of_closed hc)]
    exact hc
  | leave =>
    rw [Builder.closed_receive]
    exact Builder.closed_shut hc
  | lose => exact Builder.closed_shut hc
  | drop => exact hc

lemma Changes.closed (h : Changes s es s') (hc : (s.builder.block id).closed = true) :
    (s'.builder.block id).closed = true := by
  induction h with
  | refl => exact hc
  | step first _ ih => exact ih (first.closed hc)

/-- What a change can do to a closed block: nothing, unless it is the innermost one, whose lines stay too;
or fill a conditional. No `else` is opened in it. -/
lemma Change.of_closed (h : Change s es s') (hs : s.Sound) (hc : (s.builder.block id).closed = true) :
    ((s'.builder.block id = s.builder.block id ∨
        id = s.builder.current ∧ (s'.builder.block id).lines = (s.builder.block id).lines) ∧
      ∀ scope ∈ s'.scopes, scope.Fills id → scope ∈ s.scopes) ∨
    ∃ scope slot, Site.Fill s s' id scope slot := by
  have hne : ∀ {id'}, (s.builder.block id').closed = false → id' ≠ id := by
    rintro id' hopen rfl
    rw [hc] at hopen
    cases hopen
  cases h with
  | aside b scopes timers journal => exact .inl ⟨.inl rfl, fun _ hscope _ => hscope⟩
  | put lines place isOpen =>
    exact .inl ⟨.inl (Builder.block_update_of_ne _ (hne isOpen)), fun _ hscope _ => hscope⟩
  | shut lt isOpen =>
    exact .inl ⟨.inl (Builder.block_update_of_ne _ (hne isOpen)), fun _ hscope _ => hscope⟩
  | @mark b scopes c pending =>
    refine .inl ⟨?_, fun _ hscope _ => hscope⟩
    by_cases hid : id = b.current
    · exact .inr ⟨hid, Builder.lines_marked id⟩
    · exact .inl (Builder.block_update_of_ne _ (Ne.symm hid))
  | @enter b scopes exit header plain isOpen =>
    refine .inl ⟨.inl (Builder.block_push_of_lt _ (Builder.lt_of_closed hc)), fun scope hscope hfills => ?_⟩
    rcases List.mem_cons.mp hscope with rfl | hscope
    · obtain ⟨slot, he⟩ := hfills
      exact absurd he (plain id slot)
    · exact hscope
  | @enterElse b scopes c pending isOpen =>
    have hlt : id < b.marked.blocks.length := by
      rw [Builder.marked, Builder.length_update]
      exact Builder.lt_of_closed hc
    have hmarked : b.marked.block id = b.block id := Builder.block_update_of_ne _ (hne isOpen)
    refine .inl ⟨.inl ((Builder.block_push_of_lt _ hlt).trans hmarked), fun scope hscope hfills => ?_⟩
    rcases List.mem_cons.mp hscope with rfl | hscope
    · obtain ⟨slot, he⟩ := hfills
      exact absurd (Exit.alternative.inj he).1 (hne isOpen)
    · exact hscope
  | @leave b before after scope current isOpen takes =>
    by_cases hfills : scope.Fills id
    · obtain ⟨slot, he⟩ := hfills
      exact .inr ⟨scope, slot, hs.fill current he⟩
    · have hquit : b.quit.block id = b.block id := Builder.block_update_of_ne _ (hne isOpen)
      -- The lines of the block that was left go to another block.
      have hother : id ≠ b.quit.current := by
        rintro rfl
        rcases takes with hopen | ⟨owner, slot, he⟩
        · rw [hquit, hc] at hopen
          cases hopen
        · exact hfills ⟨slot, (hs.owner_eq current he) ▸ he⟩
      refine .inl ⟨.inl ?_, fun scope' hscope _ => ?_⟩
      · exact (Builder.block_receive_of_ne _ (fun owner slot he => hs.owner_eq current he) hother).trans hquit
      · rcases List.mem_append.mp hscope with hbefore | hafter
        · exact List.mem_append_left _ hbefore
        · exact List.mem_append_right _ (List.mem_cons_of_mem _ hafter)
  | @lose b before after scope current isClosed =>
    refine .inl ⟨?_, fun scope' hscope _ => ?_⟩
    · by_cases hid : id = b.current
      · exact .inr ⟨hid, Builder.lines_shut id⟩
      · exact .inl (Builder.block_update_of_ne _ (Ne.symm hid))
    · rcases List.mem_append.mp hscope with hbefore | hafter
      · exact List.mem_append_left _ hbefore
      · exact List.mem_append_right _ (List.mem_cons_of_mem _ hafter)
  | drop b before after scope =>
    refine .inl ⟨.inl rfl, fun scope' hscope _ => ?_⟩
    rcases List.mem_append.mp hscope with hbefore | hafter
    · exact List.mem_append_left _ hbefore
    · exact List.mem_append_right _ (List.mem_cons_of_mem _ hafter)

/-- A closed block without an open `else` in it is settled for good. -/
lemma Changes.settled (h : Changes s es s') (hs : s.Sound) (hc : (s.builder.block id).closed = true)
    (hnone : ∀ scope ∈ s.scopes, ¬ scope.Fills id) :
    (s'.builder.block id).lines = (s.builder.block id).lines ∧ ∀ scope ∈ s'.scopes, ¬ scope.Fills id := by
  induction h with
  | refl => exact ⟨rfl, hnone⟩
  | step first _ ih =>
    rcases first.of_closed hs hc with ⟨hblock, hscopes⟩ | ⟨scope, slot, hfill⟩
    · obtain ⟨hlines, hrest⟩ := ih (first.sound hs) (first.closed hc)
        fun scope hscope hfills => hnone scope (hscopes scope hscope hfills) hfills
      refine ⟨hlines.trans ?_, hrest⟩
      rcases hblock with hblock | ⟨-, hlines⟩
      · rw [hblock]
      · exact hlines
    · exact absurd ⟨slot, hfill.exit⟩ (hnone scope hfill.mem)

/-- A closed block keeps its lines, except that an `else` that is open in it may still be left. Then its
lines are filled in, and the block is settled. -/
lemma Changes.of_closed (h : Changes s es s') (hs : s.Sound) (hc : (s.builder.block id).closed = true) :
    (s'.builder.block id).lines = (s.builder.block id).lines ∨
    ∃ scope ∈ s.scopes, ∃ slot, scope.exit = .alternative id slot ∧
      (∀ scope' ∈ s'.scopes, ¬ scope'.Fills id) ∧
      (s'.builder.block id).lines = ((s.builder.block id).modifyConditional
        (Conditional.filled (s'.builder.block scope.block).lines) slot).lines := by
  induction h with
  | refl => exact .inl rfl
  | @step s s₁ s' es es' first rest ih =>
    have hs₁ := first.sound hs
    have hc₁ := first.closed hc
    by_cases hopen : ∃ scope ∈ s.scopes, scope.Fills id
    · rcases first.of_closed hs hc with ⟨hblock, hscopes⟩ | ⟨scope, slot, hfill⟩
      · obtain ⟨scope, hscope, slot, he⟩ := hopen
        -- The open `else` lies above the block, which so is not the innermost one.
        have hsame := hblock.resolve_right fun hcurrent => hs.owner_ne_current hscope he hcurrent.1
        rcases ih hs₁ hc₁ with hlines | ⟨scope, hscope, slot, he, hnone, hlines⟩
        · exact .inl (by rw [hlines, hsame])
        · exact .inr ⟨scope, hscopes scope hscope ⟨slot, he⟩, slot, he, hnone, by rw [hlines, hsame]⟩
      · have hnone : ∀ scope' ∈ s₁.scopes, ¬ scope'.Fills id := fun scope' hscope' ⟨slot', he'⟩ =>
          hs₁.owner_ne_current hscope' he' hfill.current.symm
        obtain ⟨hlines, hnone'⟩ := rest.settled hs₁ hc₁ hnone
        obtain ⟨halternative, -⟩ := rest.settled hs₁ hfill.shut (hs₁.not_fills_of_isDone hfill.done)
        refine .inr ⟨scope, hfill.mem, slot, hfill.exit, hnone', ?_⟩
        rw [hlines, hfill.block, halternative, hfill.lines]
    · have hnone : ∀ scope ∈ s.scopes, ¬ scope.Fills id := fun scope hscope hfills =>
        hopen ⟨scope, hscope, hfills⟩
      exact .inl ((Changes.step first rest).settled hs hc hnone).1

end Changes

/-- The same lines, but for one conditional that has got its alternative. -/
def IsFilled (alternative old new : List String) : Prop :=
  ∃ (above below : List String) (c : Conditional), c.alternative = none ∧
    old = above ++ c.render ++ below ∧ new = above ++ (c.filled alternative).render ++ below

namespace Session

variable {s : Session} {id : Nat}

lemma Sound.finishes (h : s.Sound) (hopen : (s.builder.block id).closed = false) : s.builder.Finishes id := by
  refine ⟨h.site.nodup, h.site.pos, h.site.lt, h.site.root, fun hc => ?_⟩
  rw [hopen] at hc
  cases hc

/-- Whatever is called on a builder, a block that is closed by leaving it or by compiling never changes
its lines again. Nor does one that is closed from outside, unless an `else` is open in it: once this is
left, its lines are there too, and that is the end of it. -/
theorem lines_of_closed (before : List Step) (id : Nat) :
    (∀ (step : Step) (later : List Step), (∀ name, step ≠ .close name) →
      ((start.after before).builder.block id).closed = false →
      ((start.after (before ++ [step])).builder.block id).closed = true →
      ((start.after (before ++ step :: later)).builder.block id).lines =
        ((start.after (before ++ [step])).builder.block id).lines) ∧
    (((start.after before).builder.block id).closed = true → ∀ later : List Step,
      let s := start.after before
      let s' := start.after (before ++ later)
      (s'.builder.block id).closed = true ∧
      ((s'.builder.block id).lines = (s.builder.block id).lines ∨
        ∃ scope ∈ s.site.scopes, scope.Fills id ∧ (∀ scope' ∈ s'.site.scopes, ¬ scope'.Fills id) ∧
          IsFilled (s'.builder.block scope.block).lines (s.builder.block id).lines
            (s'.builder.block id).lines)) := by
  have hsound : (start.after before).Sound := Sound.start.after before
  refine ⟨fun step later hstep hopen hclosed => ?_, fun hclosed later => ?_⟩
  · have hafter : start.after (before ++ [step]) = (step.run (start.after before)).2 := after_append ..
    rw [hafter] at hclosed ⊢
    rw [after_append, after_cons]
    have hfinishes : (step.run (start.after before)).2.builder.Finishes id :=
      (Build.invariant_finishes id).step step hstep _ (hsound.finishes hopen)
    have hnext := hsound.step step
    have hnone := hnext.site.not_fills_of_isDone (hfinishes.done hclosed)
    exact ((hnext.changes later).settled hnext.site hclosed hnone).1
  · have hchanges := hsound.changes later
    dsimp only
    rw [after_append]
    refine ⟨hchanges.closed hclosed, ?_⟩
    rcases hchanges.of_closed hsound.site hclosed with hlines | ⟨scope, hscope, slot, he, hnone, hlines⟩
    · exact .inl hlines
    · obtain ⟨c, hslot, hc, -⟩ := hsound.site.waits scope hscope id slot he
      obtain ⟨above, below, hold, hnew⟩ := Block.exists_lines_around hslot
      refine .inr ⟨scope, hscope, ⟨slot, he⟩, hnone, above, below, c, hc, hold, ?_⟩
      exact hlines.trans (hnew _)

/-- An `else` in block 1, with a line in it, while the block is closed from outside. -/
def closingEarly : List Step :=
  [.enterIf "a" (some "A"), .enterIf "t" none, .leave none, .enterElse none, .emit (.directive (.raw "x")),
    .close "A"]

theorem lines_of_closed_early :
    (((start.after [.enterIf "t" none]).builder.block 1).closed = false ∧
      ((start.after ([.enterIf "t" none] ++ [.leave none])).builder.block 1).closed = true ∧
      ((start.after ([.enterIf "t" none] ++ .leave none :: [.enterElse none, .leave none])).builder.block 1).lines =
        ((start.after ([.enterIf "t" none] ++ [.leave none])).builder.block 1).lines) ∧
    ((start.after closingEarly).builder.block 1).closed = true ∧
    IsFilled ["x"] ((start.after closingEarly).builder.block 1).lines
      ((start.after (closingEarly ++ [.leave none])).builder.block 1).lines := by
  have hopen : ((start.after [.enterIf "t" none]).builder.block 1).closed = false := rfl
  have hleft : ((start.after ([.enterIf "t" none] ++ [.leave none])).builder.block 1).closed = true := rfl
  have hshut : ((start.after closingEarly).builder.block 1).closed = true := rfl
  have hstays := (lines_of_closed [.enterIf "t" none] 1).1 (.leave none) [.enterElse none, .leave none] (by simp)
    hopen hleft
  obtain ⟨-, hfilled⟩ := (lines_of_closed closingEarly 1).2 hshut [.leave none]
  have hchanged : ((start.after (closingEarly ++ [.leave none])).builder.block 1).lines ≠
      ((start.after closingEarly).builder.block 1).lines := by decide
  obtain ⟨scope, hscope, hfills, -, hlines⟩ := hfilled.resolve_left hchanged
  have hscopes : (start.after closingEarly).site.scopes = [⟨3, .alternative 1 0⟩, ⟨1, .branch⟩] := rfl
  obtain rfl : scope = ⟨3, .alternative 1 0⟩ := by
    rw [hscopes] at hscope
    simp only [List.mem_cons, List.not_mem_nil, or_false] at hscope
    rcases hscope with rfl | rfl
    · rfl
    · obtain ⟨slot, he⟩ := hfills
      cases he
  exact ⟨⟨hopen, hleft, hstays⟩, hshut, hlines⟩

/-- Being closed is not being finished. -/
theorem lines_change_after_closing : ¬ ∀ (before later : List Step) (id : Nat),
    ((start.after before).builder.block id).closed = true →
      ((start.after (before ++ later)).builder.block id).lines = ((start.after before).builder.block id).lines := by
  intro h
  have hchanged : ((start.after (closingEarly ++ [.leave none])).builder.block 1).lines ≠
      ((start.after closingEarly).builder.block 1).lines := by decide
  exact hchanged (h closingEarly [.leave none] 1 rfl)

end Session

end JobScript.Shell
