import JobScript.Proofs.Shell.Continuation
import JobScript.Proofs.Shell.Passage

/-! # Drafts

The draft of a builder has the passages that its blocks hold. It is kept up as long as the builder stays
whole, and tells the directives, from the root upwards, in the order of their emission. -/

namespace JobScript.Shell

lemma Directive.timers_of_isSilent {d : Directive} (h : d.isSilent = true) : d.timers = 0 := by
  cases d with
  | command text options => cases h
  | _ => rfl

/-- A directive that has lines. -/
def Input.shown? : Input → Option Directive
  | .directive d => if d.isSilent then none else some d
  | .line _ => none

def shownOf (inputs : List Input) : List Directive := inputs.filterMap Input.shown?

/-- Directives with the numbers they have after so many timed ones. -/
def numbered (before : Nat) : List Directive → List (Directive × Nat)
  | [] => []
  | d :: ds => (d, before + 1) :: numbered (before + d.timers) ds

def timedIn (ds : List Directive) : Nat := ds.countP Directive.isTimed

lemma timedIn_cons (d : Directive) (ds : List Directive) : timedIn (d :: ds) = d.timers + timedIn ds := by
  unfold timedIn Directive.timers
  rw [List.countP_cons, Nat.add_comm]

lemma timedIn_append (ds ds' : List Directive) : timedIn (ds ++ ds') = timedIn ds + timedIn ds' :=
  List.countP_append

lemma numbered_append (before : Nat) (ds ds' : List Directive) :
    numbered before (ds ++ ds') = numbered before ds ++ numbered (before + timedIn ds) ds' := by
  induction ds generalizing before with
  | nil => rfl
  | cons d ds ih =>
    rw [List.cons_append, numbered, ih, timedIn_cons, ← Nat.add_assoc]
    rfl

section Told
variable {draft draft' : Nat → List Part} {ids : List Nat} {ds : List (Directive × Nat)}

/-- The directives in the root and in some blocks above it, the innermost of which comes first here
and last there. -/
def told (draft : Nat → List Part) : List Nat → List (Directive × Nat)
  | [] => directivesIn (draft Builder.rootId)
  | id :: below => told draft below ++ directivesIn (draft id)

lemma told_congr (hroot : directivesIn (draft' Builder.rootId) = directivesIn (draft Builder.rootId))
    (hids : ∀ id ∈ ids, directivesIn (draft' id) = directivesIn (draft id)) :
    told draft' ids = told draft ids := by
  induction ids with
  | nil => exact hroot
  | cons id below ih =>
    rw [told, told, ih fun id hid => hids id (List.mem_cons_of_mem _ hid), hids id (List.mem_cons_self ..)]

/-- What the innermost block gains comes last. -/
lemma told_update {parts : List Part}
    (hparts : directivesIn parts = directivesIn (draft (ids.headD Builder.rootId)) ++ ds)
    (hnodup : ids.Nodup) (hpos : ∀ id ∈ ids, 0 < id) :
    told (Function.update draft (ids.headD Builder.rootId) parts) ids = told draft ids ++ ds := by
  cases ids with
  | nil =>
    rw [List.headD_nil] at hparts ⊢
    rw [told, told, Function.update_self, hparts]
  | cons first below =>
    have hnot := (List.nodup_cons.mp hnodup).1
    have hroot : Builder.rootId ≠ first := (hpos first (List.mem_cons_self ..)).ne
    have hbelow : told (Function.update draft first parts) below = told draft below := by
      refine told_congr ?_ fun id hid => ?_
      · rw [Function.update_of_ne hroot]
      · rw [Function.update_of_ne (ne_of_mem_of_not_mem hid hnot)]
    rw [List.headD_cons] at hparts ⊢
    rw [told, told, hbelow, Function.update_self, hparts, List.append_assoc]

end Told

/-- A conditional at a place waits for its alternative, and no directive came after it. -/
def Waiting (parts : List Part) (slot : Nat) : Prop :=
  ∃ before test body after, parts = before ++ .branch test body none true :: after ∧
    (before.flatMap Part.nodes).length = slot ∧ directivesIn after = []

lemma Waiting.append {parts more : List Part} {slot : Nat} (h : Waiting parts slot)
    (hmore : directivesIn more = []) : Waiting (parts ++ more) slot := by
  obtain ⟨before, test, body, after, rfl, hslot, hafter⟩ := h
  refine ⟨before, test, body, after ++ more, List.append_assoc .., hslot, ?_⟩
  rw [directivesIn_append, hafter, hmore]
  rfl

lemma nodes_modifyConditional {block : Block} {before after : List Part} {test : String} {body : List Passage}
    {alternative alternative' : Option (List Passage)} {opened opened' : Bool} {f : Conditional → Conditional}
    (hnodes : block.nodes = (before ++ .branch test body alternative opened :: after).flatMap Part.nodes)
    (hf : f ⟨test, linesOf body, alternative.map linesOf, opened⟩ =
      ⟨test, linesOf body, alternative'.map linesOf, opened'⟩) :
    (block.modifyConditional f (before.flatMap Part.nodes).length).nodes =
      (before ++ .branch test body alternative' opened' :: after).flatMap Part.nodes := by
  let rest : List Part := .branch test body alternative opened :: after
  have hblock : block =
      ({ block with nodes := rest.flatMap Part.nodes }).behind (before.flatMap Part.nodes) := by
    rw [List.flatMap_append] at hnodes
    rw [Block.behind, ← hnodes]
  have hfirst : (({ block with nodes := rest.flatMap Part.nodes } : Block).modifyConditional f 0).nodes =
      .conditional (f ⟨test, linesOf body, alternative.map linesOf, opened⟩) :: after.flatMap Part.nodes := rfl
  rw [hblock]
  refine (congrArg Block.nodes (Block.modifyConditional_behind _ _ f 0)).trans ?_
  rw [Block.nodes_behind, hfirst, hf, List.flatMap_append, List.flatMap_cons]
  rfl

/-- The draft of a builder has what its blocks hold, from the inputs so far. -/
structure Site.Drafted (s : Site) (inputs : List Input) (draft : Nat → List Part) : Prop where
  nodes : ∀ id, (s.builder.block id).nodes = (draft id).flatMap Part.nodes
  fits : ∀ id, ∀ p ∈ passagesOf (draft id), p.Fits inputs
  tells : told draft s.builder.stack = numbered 0 (shownOf inputs)
  timers : s.builder.timers = timedIn (shownOf inputs)
  waits : ∀ scope ∈ s.scopes, ∀ owner slot, scope.exit = .alternative owner slot →
    Waiting (draft owner) slot

lemma Builder.nodes_put_self {b : Builder} {id : Nat} (hlt : id < b.blocks.length) (nodes : List Node) :
    ((b.put id nodes).block id).nodes = (b.block id).nodes ++ nodes :=
  congrArg Block.nodes (block_update_self _ hlt)

namespace Site

variable {b b' : Builder} {scopes scopes' before after : List Scope} {scope : Scope} {inputs : List Input}
  {draft : Nat → List Part}

lemma Drafted.start : Drafted ⟨.start, []⟩ [] fun _ => [] := by
  refine ⟨fun id => ?_, by simp [passagesOf], rfl, rfl, by simp⟩
  cases id <;> rfl

lemma Drafted.lines (h : Drafted ⟨b, scopes⟩ inputs draft) (id : Nat) :
    (b.block id).lines = linesOf (passagesOf (draft id)) := by
  unfold Block.lines
  rw [h.nodes id]
  exact flatMap_render_parts (h.fits id)

/-- A number that belongs to no block has an empty draft. -/
lemma Drafted.fresh (h : Drafted ⟨b, scopes⟩ inputs draft) : draft b.blocks.length = [] := by
  have hnone : b.blocks[b.blocks.length]? = none := List.getElem?_eq_none (Nat.le_refl _)
  have hnodes := h.nodes b.blocks.length
  rw [Builder.block, hnone] at hnodes
  exact parts_eq_nil (h.fits _) hnodes.symm

lemma Drafted.aside (h : Drafted ⟨b, scopes⟩ inputs draft) (journal : List Log.Record) :
    Drafted ⟨b.aside b.timers journal, scopes⟩ inputs draft := ⟨h.nodes, h.fits, h.tells, h.timers, h.waits⟩

section Update
variable {parts : List Part}

lemma Drafted.nodes_update (h : Drafted ⟨b, scopes⟩ inputs draft) {id : Nat}
    (hself : (b'.block id).nodes = parts.flatMap Part.nodes)
    (hother : ∀ id', id' ≠ id → (b'.block id').nodes = (b.block id').nodes) (id' : Nat) :
    (b'.block id').nodes = (Function.update draft id parts id').flatMap Part.nodes :=
  (Function.forall_update_iff draft fun id' parts => (b'.block id').nodes = parts.flatMap Part.nodes).mpr
    ⟨hself, fun id' hne => (hother id' hne).trans (h.nodes id')⟩ id'

lemma Drafted.fits_update (h : Drafted ⟨b, scopes⟩ inputs draft) {inputs' : List Input} {id : Nat}
    (hsub : inputs ⊆ inputs') (hparts : ∀ p ∈ passagesOf parts, p.Fits inputs') (id' : Nat) :
    ∀ p ∈ passagesOf (Function.update draft id parts id'), p.Fits inputs' :=
  (Function.forall_update_iff draft fun _ parts => ∀ p ∈ passagesOf parts, p.Fits inputs').mpr
    ⟨hparts, fun id' _ p hp => (h.fits id' p hp).mono hsub⟩ id'

lemma Drafted.nodes_put (h : Drafted ⟨b, scopes⟩ inputs draft) {id : Nat} (hlt : id < b.blocks.length)
    (p : Passage) (id' : Nat) : ((b.put id (p.lines.map .line)).block id').nodes =
      (Function.update draft id (draft id ++ [.passage p]) id').flatMap Part.nodes := by
  refine h.nodes_update ?_ (fun id' hne => congrArg Block.nodes (Builder.block_update_of_ne _ hne.symm)) id'
  refine (Builder.nodes_put_self hlt _).trans ?_
  rw [h.nodes, List.flatMap_append, List.flatMap_singleton]
  rfl

lemma Drafted.fits_put (h : Drafted ⟨b, scopes⟩ inputs draft) {input : Input} (id : Nat) {p : Passage}
    (hp : p.Fits (inputs ++ [input])) (id' : Nat) :
    ∀ p' ∈ passagesOf (Function.update draft id (draft id ++ [.passage p]) id'),
      p'.Fits (inputs ++ [input]) := by
  have hsub : inputs ⊆ inputs ++ [input] := List.subset_append_left ..
  refine h.fits_update hsub ?_ id'
  rw [passagesOf_append, List.forall_mem_append]
  exact ⟨fun p' hp' => (h.fits id p' hp').mono hsub, List.forall_mem_singleton.mpr hp⟩

/-- An alternative that is still open fills a conditional of another block than the innermost one. -/
lemma Drafted.waits_update (h : Drafted ⟨b, scopes⟩ inputs draft) (hs : Sound ⟨b', scopes'⟩)
    (hsub : scopes' ⊆ scopes) : ∀ scope ∈ scopes', ∀ owner slot, scope.exit = .alternative owner slot →
      Waiting (Function.update draft b'.current parts owner) slot := by
  intro scope hscope owner slot he
  rw [Function.update_of_ne (hs.owner_ne_current hscope he)]
  exact h.waits scope (hsub hscope) owner slot he

end Update

section Gain
variable {journal : List Log.Record}

lemma Drafted.mono (h : Drafted ⟨b, scopes⟩ inputs draft) {inputs' : List Input} (hsub : inputs ⊆ inputs')
    (hshown : shownOf inputs' = shownOf inputs) : Drafted ⟨b, scopes⟩ inputs' draft :=
  ⟨h.nodes, fun id p hp => (h.fits id p hp).mono hsub, hshown ▸ h.tells, hshown ▸ h.timers, h.waits⟩

lemma Drafted.emit (h : Drafted ⟨b, scopes⟩ inputs draft) (hs : Sound ⟨b, scopes⟩) (d : Directive) :
    ∃ draft', Drafted
      ⟨(b.put b.current ((d.render (b.timers + 1)).map .line)).aside (b.timers + d.timers) journal, scopes⟩
      (inputs ++ [.directive d]) draft' := by
  cases hd : d.isSilent with
  | true =>
    have hshown : shownOf (inputs ++ [.directive d]) = shownOf inputs := by
      simp [shownOf, Input.shown?, hd]
    have hput : b.put b.current ((d.render (b.timers + 1)).map .line) = b := by
      rw [Directive.render_eq_nil_iff.mpr hd]
      exact Builder.update_add_nil
    rw [hput, Directive.timers_of_isSilent hd]
    exact ⟨draft, (h.mono (List.subset_append_left ..) hshown).aside journal⟩
  | false =>
    have hshown : shownOf (inputs ++ [.directive d]) = shownOf inputs ++ [d] := by
      simp [shownOf, Input.shown?, hd]
    let p : Passage := ⟨0, .directive d (b.timers + 1)⟩
    let parts := draft b.current ++ [.passage p]
    have hlines : p.lines = d.render (b.timers + 1) := Passage.lines_directive d (b.timers + 1)
    have hfits : p.Fits (inputs ++ [.directive d]) := by
      refine ⟨?_, List.mem_append_right _ (List.mem_singleton.mpr rfl)⟩
      rw [hlines, Ne, Directive.render_eq_nil_iff, hd]
      exact Bool.false_ne_true
    have hnodes := h.nodes_put hs.current_lt p
    rw [hlines] at hnodes
    refine ⟨Function.update draft b.current parts, hnodes, h.fits_put b.current hfits, ?_, ?_,
      h.waits_update hs (List.Subset.refl _)⟩
    · have hparts : directivesIn parts = directivesIn (draft b.current) ++ [(d, b.timers + 1)] :=
        directivesIn_append ..
      have htold := told_update hparts hs.nodup hs.pos
      rw [h.tells, h.timers] at htold
      rw [hshown, numbered_append, Nat.zero_add]
      exact htold
    · show b.timers + d.timers = _
      rw [hshown, timedIn_append, timedIn_cons, h.timers]
      rfl

/-- A line that is put straight into a block leaves the directives as they are. -/
lemma Drafted.append (h : Drafted ⟨b, scopes⟩ inputs draft) (hs : Sound ⟨b, scopes⟩) (text : String)
    {id : Nat} (hid : id ∈ b.stack) :
    ∃ draft', Drafted ⟨b.put id [.line text], scopes⟩ (inputs ++ [.line text]) draft' := by
  have hshown : shownOf (inputs ++ [.line text]) = shownOf inputs := by
    simp [shownOf, Input.shown?]
  let p : Passage := ⟨0, .line text⟩
  let parts := draft id ++ [.passage p]
  have hlines : p.lines = [text] := Passage.lines_line text
  have hfits : p.Fits (inputs ++ [.line text]) := by
    refine ⟨?_, List.mem_append_right _ (List.mem_singleton.mpr rfl)⟩
    rw [hlines]
    exact List.cons_ne_nil _ _
  have hsame : ∀ id', directivesIn (Function.update draft id parts id') = directivesIn (draft id') := by
    refine (Function.forall_update_iff draft fun id' parts =>
      directivesIn parts = directivesIn (draft id')).mpr ⟨?_, fun _ _ => rfl⟩
    rw [directivesIn_append, directivesIn_line, directivesIn_nil, List.append_nil]
  have hnodes := h.nodes_put (hs.lt id hid) p
  rw [hlines] at hnodes
  refine ⟨Function.update draft id parts, hnodes, h.fits_put id hfits, ?_, ?_, ?_⟩
  · rw [hshown, ← h.tells]
    exact told_congr (hsame _) fun id' _ => hsame id'
  · rw [hshown]
    exact h.timers
  · -- The block may be one that an open alternative will fill: then the line comes after the conditional.
    intro scope hscope owner slot he
    have hwaits := h.waits scope hscope owner slot he
    by_cases howner : owner = id
    · subst howner
      rw [Function.update_self]
      exact hwaits.append (directivesIn_line text [])
    · rw [Function.update_of_ne howner]
      exact hwaits

end Gain

lemma Drafted.push (h : Drafted ⟨b, scopes⟩ inputs draft) (header : String) (exit : Exit)
    (hexit : ∀ owner slot, exit = .alternative owner slot → Waiting (draft owner) slot) :
    Drafted ⟨b.push (.start exit.kind header), ⟨b.blocks.length, exit⟩ :: scopes⟩ inputs draft := by
  refine ⟨fun id => ?_, h.fits, ?_, h.timers, ?_⟩
  · show ((b.push _).block id).nodes = _
    rw [Builder.block_push]
    split
    · next hid =>
      rw [hid, h.fresh]
      rfl
    · exact h.nodes id
  · show told draft b.stack ++ directivesIn (draft b.blocks.length) = _
    rw [h.fresh, directivesIn_nil, List.append_nil]
    exact h.tells
  · intro scope hscope owner slot he
    rcases List.mem_cons.mp hscope with rfl | hscope
    · exact hexit owner slot he
    · exact h.waits scope hscope owner slot he

/-- The conditional that gets an alternative is the last part of its block. -/
lemma Drafted.exists_pending (h : Drafted ⟨b, scopes⟩ inputs draft) (hs : Sound ⟨b, scopes⟩) {id : Nat}
    {c : Conditional} (hc : (b.block id).pending? = some c) :
    ∃ before test body, draft id = before ++ [.branch test body none false] ∧
      (before.flatMap Part.nodes).length = (b.block id).lastSlot := by
  obtain ⟨hslot, hopened⟩ := Block.pending?_eq_some_iff.mp hc
  have hnone := hs.unopened id _ c hslot hopened
  have hlast : ((draft id).flatMap Part.nodes).getLast? = some (.conditional c) := by
    rw [← h.nodes id, List.getLast?_eq_getElem?]
    exact hslot
  obtain ⟨before, test, body, alternative, opened, hparts, rfl⟩ := exists_branch_of_getLast (h.fits id) hlast
  cases hopened
  cases Option.map_eq_none_iff.mp hnone
  refine ⟨before, test, body, hparts, ?_⟩
  unfold Block.lastSlot
  rw [h.nodes id, hparts]
  simp [Part.nodes]

lemma Drafted.marked (h : Drafted ⟨b, scopes⟩ inputs draft) (hs : Sound ⟨b, scopes⟩) {c : Conditional}
    (hc : (b.block b.current).pending? = some c) :
    ∃ draft', Drafted ⟨b.marked, scopes⟩ inputs draft' ∧
      Waiting (draft' b.current) (b.block b.current).lastSlot := by
  obtain ⟨before, test, body, hparts, hslot⟩ := h.exists_pending hs hc
  let parts : List Part := before ++ [.branch test body none true]
  have hnodes := h.nodes b.current
  have hfits := h.fits b.current
  rw [hparts] at hnodes hfits
  have hsame : directivesIn parts = directivesIn (draft b.current) ++ [] := by
    rw [hparts]
    simp [parts]
  refine ⟨Function.update draft b.current parts, ⟨h.nodes_update ?_ ?_,
    h.fits_update (List.Subset.refl _) ?_, ?_, h.timers, h.waits_update hs (List.Subset.refl _)⟩, ?_⟩
  · show ((b.update b.current _).block b.current).nodes = _
    rw [Builder.block_update_self _ hs.current_lt, ← hslot]
    exact nodes_modifyConditional hnodes rfl
  · intro id hne
    exact congrArg Block.nodes (Builder.block_update_of_ne _ hne.symm)
  · rw [passagesOf_append, List.forall_mem_append] at hfits ⊢
    exact hfits
  · have htold := told_update hsame hs.nodup hs.pos
    rw [h.tells, List.append_nil] at htold
    exact htold
  · rw [Function.update_self]
    exact ⟨before, test, body, [], rfl, hslot, rfl⟩

/-- The block below takes the passages of a block that is left, with a frame around them. -/
lemma Drafted.exists_parts (h : Drafted ⟨b, before ++ scope :: after⟩ inputs draft)
    (hs : Sound ⟨b, before ++ scope :: after⟩) (hcur : b.current = scope.block) :
    ∃ parts, ((b.quit.receive scope.exit (b.block b.current)).block b.quit.current).nodes =
        parts.flatMap Part.nodes ∧ (∀ p ∈ passagesOf parts, p.Fits inputs) ∧
      directivesIn parts = directivesIn (draft b.quit.current) ++ directivesIn (draft b.current) := by
  have hlt : b.quit.current < b.quit.blocks.length := (hs.quit hcur).current_lt
  have hold : (b.quit.block b.quit.current).nodes = (draft b.quit.current).flatMap Part.nodes :=
    (Builder.nodes_shut _).trans (h.nodes _)
  have hlines := h.lines b.current
  have hfits := h.fits b.quit.current
  have hbody := h.fits b.current
  let header := (b.block b.current).title.header
  let ps := passagesOf (draft b.current)
  cases he : scope.exit with
  | branch =>
    let part : Part := .branch header ps none false
    refine ⟨draft b.quit.current ++ [part], ?_, ?_, ?_⟩
    · refine (Builder.nodes_put_self hlt _).trans ?_
      rw [hold, hlines, List.flatMap_append]
      rfl
    · rw [passagesOf_append, List.forall_mem_append, passagesOf_cons, List.forall_mem_append,
        Part.fits_branch_iff]
      exact ⟨hfits, ⟨hbody, by simp⟩, by simp [passagesOf]⟩
    · rw [directivesIn_append, directivesIn_branch, directivesIn_nil, Option.getD_none, directivesOf_nil,
        List.append_nil, List.append_nil]
      rfl
  | alternative owner slot =>
    obtain rfl := hs.owner_eq hcur he
    obtain ⟨first, test, body, rest, hparts, hslot, hrest⟩ := h.waits scope (by simp) _ slot he
    rw [hparts] at hold hfits ⊢
    refine ⟨first ++ .branch test body (some ps) true :: rest, ?_, ?_, ?_⟩
    · show ((b.quit.update b.quit.current _).block b.quit.current).nodes = _
      rw [Builder.block_update_self _ hlt, ← hslot, hlines]
      exact nodes_modifyConditional hold rfl
    · rw [passagesOf_append, List.forall_mem_append, passagesOf_cons, List.forall_mem_append,
        Part.fits_branch_iff] at hfits ⊢
      exact ⟨hfits.1, ⟨hfits.2.1.1, hbody⟩, hfits.2.2⟩
    · -- Only lines have come after the conditional, so the directives of the alternative are the last.
      simp only [directivesIn_append, directivesIn_branch, hrest, List.append_nil, Option.getD_none,
        Option.getD_some, directivesOf_nil, List.append_assoc]
      rfl
  | fold =>
    refine ⟨draft b.quit.current ++ foldParts header ps, ?_, ?_, ?_⟩
    · refine (Builder.nodes_put_self hlt _).trans ?_
      rw [hold, hlines, List.flatMap_append, nodes_foldParts]
    · rw [passagesOf_append, List.forall_mem_append, fits_foldParts_iff]
      exact ⟨hfits, hbody⟩
    · rw [directivesIn_append, directivesIn_foldParts]
      rfl

lemma Drafted.leave (h : Drafted ⟨b, before ++ scope :: after⟩ inputs draft)
    (hs : Sound ⟨b, before ++ scope :: after⟩) (hcur : b.current = scope.block) :
    ∃ draft', Drafted ⟨b.quit.receive scope.exit (b.block b.current), before ++ after⟩ inputs draft' := by
  obtain ⟨parts, hself, hfits, hdirectives⟩ := h.exists_parts hs hcur
  obtain ⟨-, below, hstack, -⟩ := hs.before_eq_nil hcur
  have hq := hs.quit hcur
  refine ⟨Function.update draft b.quit.current parts, h.nodes_update hself fun id hne => ?_,
    h.fits_update (List.Subset.refl _) hfits, ?_, ?_, ?_⟩
  · have hblock : (b.quit.receive scope.exit (b.block b.current)).block id = b.quit.block id :=
      Builder.block_receive_of_ne _ (fun owner slot he => hs.owner_eq hcur he) hne
    exact (congrArg Block.nodes hblock).trans (Builder.nodes_shut id)
  · -- What the left block told last is told by the one below it now.
    have htold : told (Function.update draft b.quit.current parts) b.quit.stack =
        told draft b.quit.stack ++ directivesIn (draft b.current) :=
      told_update hdirectives hq.nodup hq.pos
    have hbefore : told draft b.stack = numbered 0 (shownOf inputs) := h.tells
    rw [hstack, ← hcur] at hbefore
    show told _ (b.quit.receive scope.exit (b.block b.current)).stack = _
    rw [Builder.stack_receive, htold, Builder.stack_quit hstack]
    exact hbefore
  · exact (Builder.timers_receive _ _ _).trans h.timers
  · exact h.waits_update hq ((List.sublist_cons_self scope after).append_left before).subset

end Site

/-- An advance keeps the draft up, with what it puts in. -/
theorem Advance.drafted {s s' : Site} {is inputs : List Input} {draft : Nat → List Part}
    (h : Advance s is s') (hs : s.Sound) (hd : s.Drafted inputs draft) : ∃ draft', s'.Drafted (inputs ++ is) draft' := by
  cases h with
  | aside b scopes journal =>
    rw [List.append_nil]
    exact ⟨draft, hd.aside journal⟩
  | emit d journal isOpen => exact hd.emit hs d
  | append text mem isOpen => exact hd.append hs text mem
  | enter header plain isOpen =>
    rw [List.append_nil]
    exact ⟨draft, hd.push header _ fun owner slot he => absurd he (plain owner slot)⟩
  | @enterElse b scopes c pending isOpen =>
    obtain ⟨draft', hmarked, hwaits⟩ := hd.marked hs pending
    have hpush := hmarked.push c.test (.alternative b.current (b.block b.current).lastSlot) (by
      rintro owner slot ⟨⟩
      exact hwaits)
    have hlength : b.marked.blocks.length = b.blocks.length := Builder.length_update ..
    rw [hlength] at hpush
    rw [List.append_nil]
    exact ⟨draft', hpush⟩
  | leave current isOpen =>
    rw [List.append_nil]
    exact hd.leave hs current

theorem Advances.drafted {s s' : Site} {is inputs : List Input} {draft : Nat → List Part}
    (h : Advances s is s') (hs : s.Sound) (hd : s.Drafted inputs draft) : ∃ draft', s'.Drafted (inputs ++ is) draft' := by
  induction h generalizing inputs draft with
  | refl =>
    rw [List.append_nil]
    exact ⟨draft, hd⟩
  | step first _ ih =>
    obtain ⟨draft', hd'⟩ := first.drafted hs hd
    rw [← List.append_assoc]
    exact ih (first.sound hs) hd'

end JobScript.Shell
