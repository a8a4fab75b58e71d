import JobScript.Proofs.Shell.FailStop
import JobScript.Proofs.Shell.Grammar

/-! # What a builder accepts

A builder follows the outline of its calls for as long as none of them fails, and the first call that
the grammar does not have fails, or keeps it from compiling. A call that would leave a block once more
is passed over on both sides. -/

namespace JobScript.Shell

namespace Block

variable {block : Block}

lemma pending?_start (kind : Kind) (header : String) : (start kind header).pending? = none := rfl

lemma pending?_add_lines {lines : List String} (h : lines ≠ []) :
    (block.add (lines.map .line)).pending? = none := by
  have hlast : ∃ line, (block.nodes ++ lines.map Node.line).getLast? = some (.line line) := by
    refine ⟨lines.getLast h, ?_⟩
    rw [List.getLast?_append, List.getLast?_map, List.getLast?_eq_some_getLast h]
    rfl
  obtain ⟨line, hline⟩ := hlast
  simp [pending?, add, hline]

lemma pending?_opened : (block.modifyConditional Conditional.opened block.lastSlot).pending? = none := by
  rw [Option.eq_none_iff_forall_not_mem]
  intro c hc
  obtain ⟨hslot, hopened⟩ := pending?_eq_some_iff.mp hc
  obtain ⟨c', -, hc'⟩ := conditional_of_modifyConditional hslot
  have hlast : (block.modifyConditional Conditional.opened block.lastSlot).lastSlot = block.lastSlot := by
    simp [lastSlot, modifyConditional]
  rw [hlast, if_pos rfl] at hc'
  rw [hc'] at hopened
  cases hopened

lemma pending?_filled (h : block.pending? = none) (slot : Nat) (lines : List String) :
    (block.modifyConditional (Conditional.filled lines) slot).pending? = none := by
  rw [Option.eq_none_iff_forall_not_mem] at h ⊢
  intro c hc
  obtain ⟨hslot, hopened⟩ := pending?_eq_some_iff.mp hc
  obtain ⟨c', hslot', hc'⟩ := conditional_of_modifyConditional hslot
  have hlast : (block.modifyConditional (Conditional.filled lines) slot).lastSlot = block.lastSlot := by
    simp [lastSlot, modifyConditional]
  rw [hlast] at hslot'
  refine h c' (pending?_eq_some_iff.mpr ⟨hslot', ?_⟩)
  rw [hc'] at hopened
  split at hopened <;> exact hopened

end Block

lemma Builder.pending?_shut {b : Builder} {id : Nat} (id' : Nat) :
    ((b.shut id).block id').pending? = (b.block id').pending? := by
  unfold Block.pending?
  rw [nodes_shut]

/-- Of the blocks that are left only an `if` awaits something. -/
lemma Builder.pending?_receive {b : Builder} {exit : Exit} (block : Block)
    (hlt : b.current < b.blocks.length) (hexit : ∀ owner slot, exit = .alternative owner slot →
      owner = b.current ∧ (b.block owner).pending? = none) :
    ((b.receive exit block).block b.current).pending?.isSome = (exit.kind == .branch) := by
  cases exit with
  | branch =>
    rw [receive, put, block_update_self _ hlt, Block.pending?_add]
    rfl
  | alternative owner slot =>
    obtain ⟨rfl, hpending⟩ := hexit owner slot rfl
    rw [receive, block_update_self _ hlt, Block.pending?_filled hpending]
    rfl
  | fold =>
    rw [receive, put, block_update_self _ hlt, Block.pending?_add_lines (by simp)]
    rfl

namespace Site

variable {b b' : Builder} {scopes after : List Scope} {scope : Scope}

lemma Sound.isReady (h : Sound ⟨b, scopes⟩) (hi : Intact ⟨b, scopes⟩) : b.IsReady :=
  ⟨h.current_lt, hi.current_isOpen⟩

lemma Intact.of_extends (hi : Intact ⟨b, scopes⟩) (h : Sound ⟨b, scopes⟩) {nodes : List Node} {n : Nat}
    (hext : b.Extends nodes n b') : Intact ⟨b', scopes⟩ := by
  have hclosed : ∀ id < b.blocks.length, (b'.block id).closed = (b.block id).closed := by
    intro id hlt
    by_cases hid : id = b.current
    · rw [hid, hext.current, Block.closed_add]
    · rw [hext.others id hlt hid]
  refine ⟨?_, hext.stack.trans hi.scopes, fun id hid => ?_⟩
  · exact (hclosed _ h.root).trans hi.root
  · replace hid : id ∈ b'.stack := hid
    rw [hext.stack] at hid
    exact (hclosed id (h.lt id hid)).trans (hi.isOpen id hid)

lemma Intact.marked (hi : Intact ⟨b, scopes⟩) : Intact ⟨b.marked, scopes⟩ := by
  refine ⟨?_, hi.scopes, fun id hid => ?_⟩
  · exact (Builder.closed_marked _).trans hi.root
  · exact (Builder.closed_marked id).trans (hi.isOpen id hid)

lemma Intact.push (hi : Intact ⟨b, scopes⟩) (h : Sound ⟨b, scopes⟩) (kind : Kind) (header : String)
    (exit : Exit) : Intact ⟨b.push (.start kind header), ⟨b.blocks.length, exit⟩ :: scopes⟩ := by
  refine ⟨?_, congrArg _ hi.scopes, fun id hid => ?_⟩
  · have hlt : Builder.rootId < b.blocks.length := h.root
    exact (congrArg Block.closed (Builder.block_push_of_lt _ hlt)).trans hi.root
  · rcases List.mem_cons.mp hid with rfl | hold
    · exact congrArg Block.closed (Builder.block_push_self ..)
    · exact (congrArg Block.closed (Builder.block_push_of_lt _ (h.lt id hold))).trans (hi.isOpen id hold)

lemma Intact.quit (hi : Intact ⟨b, scope :: after⟩) (h : Sound ⟨b, scope :: after⟩) :
    Intact ⟨b.quit, after⟩ := by
  have hstack : b.stack = scope.block :: after.map Scope.block := hi.scopes
  have hnodup : (scope.block :: after.map Scope.block).Nodup := hstack ▸ h.nodup
  have hcur : b.current = scope.block := Builder.current_of_stack hstack
  have hquit : b.quit.stack = after.map Scope.block := Builder.stack_quit hstack
  have hpos : 0 < scope.block := h.pos _ (by rw [hstack]; exact List.mem_cons_self ..)
  have hopen : ∀ id, id ≠ scope.block → (b.quit.block id).closed = (b.block id).closed := by
    intro id hid
    show ((b.shut b.current).block id).closed = _
    rw [Builder.shut, Builder.block_update_of_ne _ (hcur ▸ hid.symm)]
  refine ⟨(hopen _ hpos.ne).trans hi.root, hquit, fun id hid => ?_⟩
  replace hid : id ∈ b.quit.stack := hid
  rw [hquit] at hid
  have hne : id ≠ scope.block := fun heq => (List.nodup_cons.mp hnodup).1 (heq ▸ hid)
  refine (hopen id hne).trans (hi.isOpen id ?_)
  rw [hstack]
  exact List.mem_cons_of_mem _ hid

lemma Intact.receive (hi : Intact ⟨b, scopes⟩) (exit : Exit) (block : Block) :
    Intact ⟨b.receive exit block, scopes⟩ := by
  refine ⟨?_, (Builder.stack_receive exit block).trans hi.scopes, fun id hid => ?_⟩
  · exact (Builder.closed_receive ..).trans hi.root
  · rw [Builder.stack_receive] at hid
    exact (Builder.closed_receive ..).trans (hi.isOpen id hid)

end Site

lemma Build.leave_of_intact {b : Builder} {scope : Scope} {after : List Scope}
    (hs : Site.Sound ⟨b, scope :: after⟩) (hi : Site.Intact ⟨b, scope :: after⟩) :
    ∃ journal, leave scope b =
      (.ok (), (b.quit.receive scope.exit (b.block b.current)).aside b.timers journal) := by
  have hcur : b.current = scope.block := Builder.current_of_stack hi.scopes
  obtain ⟨journal, he⟩ := leave_of_open scope hcur hi.current_isOpen
  refine ⟨journal, ?_⟩
  rw [he, ← Builder.receive_aside]
  exact deliver_of_open (hi.quit hs).current_isOpen

/-- A session that has come as far as an outline says, and whose builder is intact until all is
compiled. -/
structure Follows (s : Session) (o : Outline) : Prop where
  sound : s.Sound
  names : s.names.map Prod.fst = o.names
  frames : s.scopes.map (fun entry => (entry.1, entry.2.exit.kind)) = o.frames
  awaits : (s.builder.block s.builder.current).pending?.isSome = o.awaitsElse
  settled : ∀ scope ∈ s.site.scopes, ∀ owner slot, scope.exit = .alternative owner slot →
    (s.builder.block owner).pending? = none
  running : o.compiled = false → s.site.Intact
  compiled : o.compiled = true → s.site.Finished

namespace Follows

variable {s : Session} {o : Outline} {b' : Builder}

lemma start : Follows .start .start :=
  ⟨.start, rfl, rfl, rfl, by simp [Session.site, Session.start, Session.on], fun _ => .start,
    fun h => absurd h Bool.false_ne_true⟩

/-- What was put into the innermost block decides whether an `else` may come. -/
lemma of_extends (h : Follows s o) (hc : o.compiled = false) {nodes : List Node} {n : Nat}
    (hext : s.builder.Extends nodes n b') (hsound : Session.Sound { s with builder := b' }) :
    Follows { s with builder := b' }
      { o with awaitsElse := ((s.builder.block s.builder.current).add nodes).pending?.isSome } := by
  refine ⟨hsound, h.names, h.frames, ?_, fun scope hscope owner slot he => ?_, fun _ => ?_, fun hcompiled => ?_⟩
  · show (b'.block b'.current).pending?.isSome = _
    rw [hext.current_eq, hext.current]
  · have hne : owner ≠ s.builder.current := h.sound.site.owner_ne_current hscope he
    have hlt := (h.sound.site.waits scope hscope owner slot he).lt
    show (b'.block owner).pending? = none
    rw [hext.others owner hlt hne]
    exact h.settled scope hscope owner slot he
  · exact (h.running hc).of_extends h.sound.site hext
  · rw [show o.compiled = true from hcompiled] at hc
    cases hc

lemma aside (h : Follows s o) (timers : Nat) (journal : List Log.Record) :
    Follows { s with builder := s.builder.aside timers journal } o := by
  refine ⟨⟨h.sound.site.aside timers journal, h.sound.names⟩, h.names, h.frames, h.awaits, h.settled,
    fun hc => ?_, fun hc => ?_⟩
  · obtain ⟨hroot, hscopes, hopen⟩ := h.running hc
    exact ⟨hroot, hscopes, hopen⟩
  · obtain ⟨hstack, hroot⟩ := h.compiled hc
    exact ⟨hstack, hroot⟩

lemma marked (h : Follows s o) (hc : o.compiled = false) :
    Follows { s with builder := s.builder.marked } { o with awaitsElse := false } := by
  refine ⟨⟨h.sound.site.marked, ?_⟩, h.names, h.frames, ?_, fun scope hscope owner slot he => ?_,
    fun _ => (h.running hc).marked, fun hcompiled => ?_⟩
  · intro entry hentry
    rw [Builder.marked, Builder.length_update]
    exact h.sound.names entry hentry
  · show (s.builder.marked.block s.builder.current).pending?.isSome = false
    rw [Builder.marked, Builder.block_update_self _ h.sound.site.current_lt, Block.pending?_opened]
    rfl
  · have hne : owner ≠ s.builder.current := h.sound.site.owner_ne_current hscope he
    show (s.builder.marked.block owner).pending? = none
    rw [Builder.marked, Builder.block_update_of_ne _ hne.symm]
    exact h.settled scope hscope owner slot he
  · rw [show o.compiled = true from hcompiled] at hc
    cases hc

lemma nameFor_eq (h : Follows s o) (name : Option String) :
    s.nameFor name = name.getD s!"#{o.names.length}" := by
  rw [Session.nameFor, ← h.names, List.length_map]

/-- A block was entered. An alternative has settled what its conditional awaits. -/
lemma enter (h : Follows s o) (hc : o.compiled = false) (name : Option String) (header : String)
    (exit : Exit) (hexit : ∀ owner slot, exit = .alternative owner slot →
      (s.builder.block owner).pending? = none) (hb : b' = s.builder.push (.start exit.kind header))
    {timers : Nat} {journal : List Log.Record}
    (hsound : (({ s with builder := b'.aside timers journal } : Session).enter (s.nameFor name)
      ⟨s.builder.blocks.length, exit⟩).Sound) :
    Follows (({ s with builder := b'.aside timers journal } : Session).enter (s.nameFor name)
      ⟨s.builder.blocks.length, exit⟩) (o.enter exit.kind name) := by
  subst hb
  have hnew : ∀ owner, (s.builder.block owner).pending? = none →
      ((s.builder.push (.start exit.kind header)).block owner).pending? = none := by
    intro owner hpending
    rw [Builder.block_push]
    split
    · exact Block.pending?_start ..
    · exact hpending
  refine ⟨hsound, ?_, ?_, ?_, fun scope hscope owner slot he => hnew owner ?_, fun _ => ?_, fun hcompiled => ?_⟩
  · simp only [Session.enter, Outline.enter, h.nameFor_eq, ← h.names, List.map_cons, List.filter_map]
    rfl
  · simp only [Session.enter, Outline.enter, h.nameFor_eq, ← h.frames, List.map_cons]
  · show ((s.builder.push (.start exit.kind header)).block s.builder.blocks.length).pending?.isSome = false
    rw [Builder.block_push_self, Block.pending?_start]
    rfl
  · rcases List.mem_cons.mp hscope with rfl | hold
    · exact hexit owner slot he
    · exact h.settled scope hold owner slot he
  · obtain ⟨hroot, hscopes, hopen⟩ := (h.running hc).push h.sound.site exit.kind header exit
    exact ⟨hroot, hscopes, hopen⟩
  · rw [show o.compiled = true from hcompiled] at hc
    cases hc

lemma leave (h : Follows s o) (hc : o.compiled = false) {name : String} {scope : Scope}
    {rest : List (String × Scope)} (hscopes : s.scopes = (name, scope) :: rest)
    (hb : b' = s.builder.quit.receive scope.exit (s.builder.block s.builder.current))
    {timers : Nat} {journal : List Log.Record}
    (hsound : Session.Sound ⟨b'.aside timers journal, s.names, rest⟩) :
    Follows ⟨b'.aside timers journal, s.names, rest⟩
      { o with frames := o.frames.tail, awaitsElse := scope.exit.kind == .branch } := by
  have hsite : s.site = ⟨s.builder, [] ++ scope :: rest.map Prod.snd⟩ := by
    rw [Session.site, hscopes]
    rfl
  have hs : Site.Sound ⟨s.builder, [] ++ scope :: rest.map Prod.snd⟩ := hsite ▸ h.sound.site
  have hi : Site.Intact ⟨s.builder, scope :: rest.map Prod.snd⟩ := hsite ▸ h.running hc
  have hcur : s.builder.current = scope.block := Builder.current_of_stack hi.scopes
  have hq := hs.quit hcur
  have hsettled : ∀ scope' ∈ scope :: rest.map Prod.snd, ∀ owner slot,
      scope'.exit = .alternative owner slot → (s.builder.quit.block owner).pending? = none := by
    intro scope' hscope' owner slot he
    show ((s.builder.shut s.builder.current).block owner).pending? = none
    rw [Builder.pending?_shut]
    exact h.settled scope' (by rw [hsite]; exact hscope') owner slot he
  have hcurrent : b'.current = s.builder.quit.current := by
    rw [hb, Builder.current, Builder.stack_receive]
    rfl
  refine ⟨hsound, h.names, ?_, ?_, fun scope' hscope' owner slot he => ?_, fun _ => ?_, fun hcompiled => ?_⟩
  · rw [← h.frames, hscopes]
    rfl
  · show (b'.block b'.current).pending?.isSome = _
    rw [hcurrent, hb]
    exact Builder.pending?_receive _ hq.current_lt fun owner slot he =>
      ⟨hs.owner_eq hcur he, hsettled scope (List.mem_cons_self ..) owner slot he⟩
  · have hne : owner ≠ s.builder.quit.current := hq.owner_ne_current hscope' he
    show (b'.block owner).pending? = none
    rw [hb, Builder.block_receive_of_ne _ (fun owner slot he => hs.owner_eq hcur he) hne]
    exact hsettled scope' (List.mem_cons_of_mem _ hscope') owner slot he
  · obtain ⟨hroot, hstack, hopen⟩ := (hi.quit hs).receive scope.exit (s.builder.block s.builder.current)
    rw [hb]
    exact ⟨hroot, hstack, hopen⟩
  · rw [show o.compiled = true from hcompiled] at hc
    cases hc

lemma compile (h : Follows s o) (hframes : o.frames = [])
    (hsound : Session.Sound { s with builder := s.builder.shut Builder.rootId }) (hc : o.compiled = false) :
    Follows { s with builder := s.builder.shut Builder.rootId } { o with compiled := true } := by
  have hscopes : s.scopes = [] := List.map_eq_nil_iff.mp (h.frames.trans hframes)
  have hlt : Builder.rootId < s.builder.blocks.length := h.sound.site.root
  refine ⟨hsound, h.names, h.frames, ?_, fun scope hscope => ?_, fun hcompiled => ?_, fun _ => ⟨?_, ?_⟩⟩
  · exact (congrArg Option.isSome (Builder.pending?_shut _)).trans h.awaits
  · simp [Session.site, hscopes] at hscope
  · cases hcompiled
  · have hstack : s.builder.stack = s.site.scopes.map Scope.block := (h.running hc).scopes
    rw [Session.site, hscopes] at hstack
    exact hstack
  · exact congrArg Block.closed (Builder.block_update_self _ hlt)

lemma scopes_of_frames (h : Follows s o) {name : String} {kind : Kind} {below : List (String × Kind)}
    (hframes : o.frames = (name, kind) :: below) :
    ∃ scope rest, s.scopes = (name, scope) :: rest ∧ scope.exit.kind = kind := by
  have hscopes := h.frames
  rw [hframes] at hscopes
  cases hs : s.scopes with
  | nil =>
    rw [hs] at hscopes
    cases hscopes
  | cons entry rest =>
    rw [hs] at hscopes
    obtain ⟨hentry, -⟩ := List.cons.inj hscopes
    obtain ⟨hname, hkind⟩ := Prod.mk.inj hentry
    exact ⟨entry.2, rest, by rw [← hname], hkind⟩

lemma compiled_of_find? (h : Follows s o) {name : Option String} {entry : String × Scope}
    (hfind : s.scopes.find? (Session.isMeant name) = some entry) : o.compiled = false := by
  cases hc : o.compiled with
  | false => rfl
  | true =>
    have hscopes : s.site.scopes = [] := (h.compiled hc).scopes_eq_nil h.sound.site
    have hnil : s.scopes = [] := List.map_eq_nil_iff.mp hscopes
    rw [hnil] at hfind
    cases hfind

lemma isIdle_iff (h : Follows s o) (name : Option String) :
    o.frames.any (Outline.means name) = (s.scopes.find? (Session.isMeant name)).isSome := by
  rw [← h.frames, List.any_map, List.isSome_find?]
  rfl

/-- To leave a block that has been left succeeds, and does nothing. -/
lemma idle (h : Follows s o) {move : Move} (hi : o.isIdle move = true) :
    (move.step.run s).1.isOk = true ∧ (move.step.run s).2 = s := by
  have hnone : ∀ name, o.frames.any (Outline.means name) = false →
      s.scopes.find? (Session.isMeant name) = none := by
    intro name hany
    rw [h.isIdle_iff] at hany
    exact Option.isNone_iff_eq_none.mp (Option.isSome_eq_false_iff.mp hany)
  cases move with
  | leave name =>
    have hrun : (Move.leave name).step.run s = _ :=
      Run.leaving_of_none (hnone name (Bool.not_eq_true' _ ▸ hi))
    rw [hrun]
    exact ⟨rfl, rfl⟩
  | abandon name =>
    have hrun : (Move.abandon name).step.run s = _ :=
      Run.leaving_of_none (hnone name (Bool.not_eq_true' _ ▸ hi))
    rw [hrun]
    exact ⟨rfl, rfl⟩
  | _ => cases hi

/-- What may come succeeds, and brings the session as far as it brings the outline. -/
theorem step (h : Follows s o) {move : Move} (ha : o.admits move = true) :
    (move.step.run s).1.isOk = true ∧ Follows (move.step.run s).2 (o.next move) := by
  have hsound := h.sound.step move.step
  cases move with
  | emit d =>
    have hrun : (Move.emit d).step.run s = Run.quietly (Build.emit d) s := rfl
    rw [hrun, Run.quietly_apply] at hsound ⊢
    rw [Outline.next]
    cases hd : d.isSilent with
    | true =>
      obtain ⟨journal, he⟩ := Build.emit_of_isSilent (b := s.builder) hd
      rw [he, if_pos rfl]
      exact ⟨rfl, h.aside ..⟩
    | false =>
      have hc : o.compiled = false := by simpa [Outline.admits, hd] using ha
      obtain ⟨b', he, hext⟩ := Build.emit_of_isReady (h.sound.site.isReady (h.running hc)) d
      have hlines : d.render (s.builder.timers + 1) ≠ [] := by
        rw [Ne, Directive.render_eq_nil_iff, hd]
        exact Bool.false_ne_true
      rw [he] at hsound ⊢
      have hfollows := h.of_extends hc hext hsound
      rw [Block.pending?_add_lines hlines] at hfollows
      exact ⟨rfl, hfollows⟩
  | prependPath path =>
    have hc : o.compiled = false := by simpa [Outline.admits] using ha
    have hrun : (Move.prependPath path).step.run s = Run.quietly (Shell.prependPath path).run s := rfl
    have hp : (Shell.prependPath path).isSound = true := rfl
    obtain ⟨b', he, hext⟩ := Program.runs_of_isSound hp _ (h.sound.site.isReady (h.running hc))
    have hpending : ∀ block : Block,
        (block.add ((Shell.prependPath path).nodes s.builder.timers)).pending?.isSome = true := by
      intro block
      exact congrArg Option.isSome (Block.pending?_add block _)
    rw [hrun, Run.quietly_apply, he] at hsound ⊢
    have hfollows := h.of_extends hc hext hsound
    rw [hpending] at hfollows
    exact ⟨rfl, hfollows⟩
  | enterIf test name =>
    have hc : o.compiled = false := by simpa [Outline.admits] using ha
    have hrun : (Move.enterIf test name).step.run s = Run.enter name (Build.enterIf test) s := rfl
    obtain ⟨journal, he⟩ := Build.enterIf_of_open test (h.running hc).current_isOpen
    rw [hrun, Run.enter_of_ok he] at hsound ⊢
    exact ⟨rfl, h.enter hc name test .branch (by simp) rfl hsound⟩
  | enterElse name =>
    simp only [Outline.admits, Bool.and_eq_true, Bool.not_eq_true'] at ha
    obtain ⟨hc, hawaits⟩ := ha
    obtain ⟨c, hpending⟩ := Option.isSome_iff_exists.mp (h.awaits.trans hawaits)
    have hrun : (Move.enterElse name).step.run s = Run.enter name Build.enterElse s := rfl
    obtain ⟨journal, he⟩ := Build.enterElse_of_open hpending (h.running hc).current_isOpen
    have hmarked := h.marked hc
    have hlength : s.builder.marked.blocks.length = s.builder.blocks.length := Builder.length_update ..
    rw [← hlength] at he
    rw [hrun, Run.enter_of_ok he] at hsound ⊢
    refine ⟨rfl, hmarked.enter hc name c.test (.alternative s.builder.current
      (s.builder.block s.builder.current).lastSlot) ?_ rfl hsound⟩
    rintro owner slot ⟨⟩
    exact Option.isNone_iff_eq_none.mp (Option.isSome_eq_false_iff.mp hmarked.awaits)
  | enterFold header name =>
    simp only [Outline.admits, Bool.and_eq_true, Bool.not_eq_true', bne_iff_ne] at ha
    obtain ⟨hc, hheader⟩ := ha
    have hrun : (Move.enterFold header name).step.run s = Run.enter name (Build.enterFold header) s := rfl
    obtain ⟨journal, he⟩ := Build.enterFold_of_open hheader (h.running hc).current_isOpen
    rw [hrun, Run.enter_of_ok he] at hsound ⊢
    exact ⟨rfl, h.enter hc name header .fold (by simp) rfl hsound⟩
  | leave name =>
    simp only [Outline.admits, Bool.and_eq_true, Bool.not_eq_true'] at ha
    obtain ⟨hc, hinnermost⟩ := ha
    have hrun : (Move.leave name).step.run s =
        Run.leaving name (fun scope => Run.quietly (Build.leave scope)) s := rfl
    cases hframes : o.frames with
    | nil => simp [Outline.meansInnermost, hframes] at hinnermost
    | cons frame below =>
      obtain ⟨scope, rest, hscopes, hkind⟩ := h.scopes_of_frames hframes
      have hmeant : Outline.means name frame = true := by
        rw [Outline.meansInnermost, hframes] at hinnermost
        exact hinnermost
      have hfind : s.scopes.find? (Session.isMeant name) = some (frame.1, scope) := by
        rw [hscopes]
        exact List.find?_cons_of_pos hmeant
      have herase : s.scopes.eraseP (Session.isMeant name) = rest := by
        rw [hscopes]
        exact List.eraseP_cons_of_pos hmeant
      have hsite : s.site = ⟨s.builder, scope :: rest.map Prod.snd⟩ := by
        rw [Session.site, hscopes]
        rfl
      obtain ⟨journal, he⟩ := Build.leave_of_intact (hsite ▸ h.sound.site) (hsite ▸ h.running hc)
      rw [hrun, Run.leaving_of_some hfind, Run.quietly_apply, he, herase] at hsound ⊢
      have hfollows := h.leave hc hscopes rfl hsound
      rw [hkind, hframes] at hfollows
      have hnext : o.next (.leave name) = { o with frames := below, awaitsElse := frame.2 == .branch } := by
        rw [Outline.next, hframes, List.find?_cons_of_pos hmeant, List.eraseP_cons_of_pos hmeant]
      rw [hnext]
      exact ⟨rfl, hfollows⟩
  | abandon name => cases ha
  | compile =>
    simp only [Outline.admits, Bool.and_eq_true, Bool.not_eq_true', List.isEmpty_iff] at ha
    obtain ⟨hc, hframes⟩ := ha
    have hscopes : s.scopes = [] := List.map_eq_nil_iff.mp (h.frames.trans hframes)
    have hi := h.running hc
    have hstack : s.builder.stack = (s.scopes.map Prod.snd).map Scope.block := hi.scopes
    rw [hscopes] at hstack
    have hbuild := Run.build_apply Build.compile s
    rw [Build.compile_of_open hstack hi.root] at hbuild
    have hrun : Move.compile.step.run s = (Run.build Build.compile >>= fun text => return .text text) s := rfl
    rw [hrun, bind_of_ok hbuild] at hsound ⊢
    exact ⟨rfl, h.compile hframes hsound hc⟩

lemma isOk_quietly_of_error {action : Build Unit} {e : Failure} (he : action s.builder = (.error e, b')) :
    (Run.quietly action s).1.isOk = false := by
  rw [Run.quietly_apply, he]
  rfl

lemma isOk_enter_of_error {action : Build Scope} {name : Option String} {e : Failure}
    (he : action s.builder = (.error e, b')) : (Run.enter name action s).1.isOk = false := by
  rw [Run.enter_of_error he]
  rfl

lemma leave_of_not_innermost (h : Follows s o) {name : Option String} {entry : String × Scope}
    (hm : o.meansInnermost name = false) (hfind : s.scopes.find? (Session.isMeant name) = some entry) :
    ∃ e, Build.leave entry.2 s.builder = (.error e, s.builder) := by
  cases hs : s.scopes with
  | nil =>
    rw [hs] at hfind
    cases hfind
  | cons first rest =>
    have hc := h.compiled_of_find? hfind
    have hframes := h.frames
    rw [hs] at hframes hfind
    have hnot : ¬ Session.isMeant name first = true := by
      rw [Outline.meansInnermost, ← hframes] at hm
      exact Bool.eq_false_iff.mp hm
    rw [List.find?_cons_of_neg hnot] at hfind
    have hstack : s.builder.stack = (s.scopes.map Prod.snd).map Scope.block := (h.running hc).scopes
    have hnodup : s.builder.stack.Nodup := h.sound.site.nodup
    rw [hstack, hs] at hnodup
    have hmem : entry.2.block ∈ (rest.map Prod.snd).map Scope.block :=
      List.mem_map_of_mem (List.mem_map_of_mem (List.mem_of_find?_eq_some hfind))
    refine ⟨_, Build.leave_of_ne entry.2 ?_⟩
    rw [Builder.current, hstack, hs]
    intro heq
    have hfirst : first.2.block = entry.2.block := heq
    exact (List.nodup_cons.mp hnodup).1 (hfirst ▸ hmem)

/-- A way out that is not idle has a scope to leave. -/
lemma exists_scope (h : Follows s o) {name : Option String} (hi : (!o.frames.any (Outline.means name)) = false) :
    ∃ entry, s.scopes.find? (Session.isMeant name) = some entry := by
  rw [h.isIdle_iff, Bool.not_eq_false'] at hi
  exact Option.isSome_iff_exists.mp hi

/-- What must not come fails, unless it abandons a block. -/
theorem refused (h : Follows s o) {move : Move} (hi : o.isIdle move = false) (ha : o.admits move = false) :
    (move.step.run s).1.isOk = false ∨
      (∃ name, move = .abandon name) ∧ o.compiled = false ∧ ¬ (move.step.run s).2.site.Intact := by
  cases move with
  | emit d =>
    simp only [Outline.admits, Bool.or_eq_false_iff, Bool.not_eq_false'] at ha
    obtain ⟨hc, hd⟩ := ha
    obtain ⟨journal, he⟩ := Build.emit_of_closed (h.compiled hc).current_closed hd
    exact .inl (isOk_quietly_of_error he)
  | prependPath path =>
    have hc : o.compiled = true := by simpa [Outline.admits] using ha
    exact .inl (isOk_quietly_of_error
      (bind_of_error (Build.enterIf_of_closed _ (h.compiled hc).current_closed)))
  | enterIf test name =>
    have hc : o.compiled = true := by simpa [Outline.admits] using ha
    exact .inl (isOk_enter_of_error (Build.enterIf_of_closed test (h.compiled hc).current_closed))
  | enterElse name =>
    refine .inl ?_
    cases hpending : (s.builder.block s.builder.current).pending? with
    | none => exact isOk_enter_of_error (Build.enterElse_of_none hpending)
    | some c =>
      have hawaits : o.awaitsElse = true := by
        rw [← h.awaits, hpending]
        rfl
      have hc : o.compiled = true := by simpa [Outline.admits, hawaits] using ha
      exact isOk_enter_of_error (Build.enterElse_of_closed hpending (h.compiled hc).current_closed)
  | enterFold header name =>
    refine .inl ?_
    by_cases hheader : header = ""
    · subst hheader
      exact isOk_enter_of_error Build.enterFold_empty
    · have hc : o.compiled = true := by simpa [Outline.admits, hheader] using ha
      exact isOk_enter_of_error (Build.enterFold_of_closed hheader (h.compiled hc).current_closed)
  | leave name =>
    refine .inl ?_
    obtain ⟨entry, hfind⟩ := h.exists_scope hi
    have hrun : (Move.leave name).step.run s = _ := Run.leaving_of_some hfind
    have hc := h.compiled_of_find? hfind
    have hm : o.meansInnermost name = false := by simpa [Outline.admits, hc] using ha
    obtain ⟨e, he⟩ := h.leave_of_not_innermost hm hfind
    rw [hrun]
    exact isOk_quietly_of_error he
  | abandon name =>
    obtain ⟨entry, hfind⟩ := h.exists_scope hi
    have hbreaks : (Step.abandon name).breaks s = true := by
      rw [Step.breaks, hfind]
      rfl
    -- The reply is no failure here; it is the compilation that will fail.
    exact .inr ⟨⟨name, rfl⟩, h.compiled_of_find? hfind, Step.not_intact_of_breaks h.sound hbreaks⟩
  | compile =>
    refine .inl ?_
    cases hreply : (Move.compile.step.run s).1 with
    | error e => rfl
    | ok reply =>
      obtain ⟨hstack, hopen, -⟩ := Session.compile_of_ok hreply
      have hc : o.compiled = false := by
        cases hc : o.compiled with
        | false => rfl
        | true =>
          have hroot : (s.builder.block Builder.rootId).closed = true := (h.compiled hc).root
          rw [hopen] at hroot
          cases hroot
      have hscopes : s.builder.stack = (s.scopes.map Prod.snd).map Scope.block := (h.running hc).scopes
      rw [hstack, List.map_map] at hscopes
      have hnil : s.scopes = [] := List.map_eq_nil_iff.mp hscopes.symm
      have hframes : o.frames = [] := by
        rw [← h.frames, hnil]
        rfl
      simp [Outline.admits, hc, hframes] at ha

end Follows

namespace Follows

variable {s : Session} {o : Outline} {name : Option String} {rest : List Move}

/-- The compilation still to come would need an intact builder, and nothing mends a broken one. -/
lemma not_compiles_of_abandon (h : Follows s o) (hmem : .compile ∈ rest)
    (hbroken : ¬ ((Move.abandon name).step.run s).2.site.Intact)
    (hrest : ∀ entry ∈ trace ((Move.abandon name).step.run s).2 (rest.map Move.step), entry.1.isOk = true) :
    False := by
  obtain ⟨before, after, rfl⟩ := List.append_of_mem hmem
  have hsound := h.sound.step (.abandon name)
  have hreply := hrest _ (by
    rw [List.map_append, List.map_cons]
    exact mem_trace _ (before.map Move.step) .compile (after.map Move.step))
  dsimp only at hreply
  cases hrun : (Step.compile.run (((Move.abandon name).step.run s).2.after (before.map Move.step))).1 with
  | error e =>
    rw [hrun] at hreply
    cases hreply
  | ok reply =>
    have hintact := (hsound.after _).intact_of_compile hrun
    exact hbroken ((hsound.changes _).intact hsound.site hintact)

end Follows

/-- A run that compiles succeeds in every step if and only if every call that is not idle may come when it
comes. -/
theorem Follows.succeeds_iff {s : Session} {o : Outline} (h : Follows s o) {moves : List Move}
    (hcompile : o.compiled = true ∨ .compile ∈ moves) :
    (∀ entry ∈ trace s (moves.map Move.step), entry.1.isOk = true) ↔ o.AdmitsAll (o.effective moves) := by
  induction moves generalizing s o with
  | nil => exact ⟨fun _ => o.admitsAll_nil, fun _ _ hmem => absurd hmem List.not_mem_nil⟩
  | cons move rest ih =>
    rw [List.map_cons, trace_cons, List.forall_mem_cons]
    cases hi : o.isIdle move with
    | true =>
      obtain ⟨hok, hsame⟩ := h.idle hi
      have hcompile' : o.compiled = true ∨ .compile ∈ rest := by
        refine hcompile.imp_right fun hmem => (List.mem_cons.mp hmem).resolve_left ?_
        rintro rfl
        cases hi
      rw [hsame, Outline.effective_of_isIdle hi, ih h hcompile']
      exact and_iff_right hok
    | false =>
      rw [Outline.effective_of_not_isIdle hi, Outline.admitsAll_cons]
      cases ha : o.admits move with
      | true =>
        obtain ⟨hok, hfollows⟩ := h.step ha
        have hcompile' : (o.next move).compiled = true ∨ .compile ∈ rest := by
          rw [Outline.compiled_next]
          rcases hcompile with hc | hmem
          · exact .inl (.inl hc)
          · rcases List.mem_cons.mp hmem with heq | hin
            · exact .inl (.inr heq.symm)
            · exact .inr hin
        exact and_congr ⟨fun _ => rfl, fun _ => hok⟩ (ih hfollows hcompile')
      | false =>
        refine ⟨fun ⟨hok, hrest⟩ => ?_, fun ⟨hfalse, _⟩ => absurd hfalse Bool.false_ne_true⟩
        rcases h.refused hi ha with hfail | ⟨⟨name, rfl⟩, hc, hbroken⟩
        · rw [hfail] at hok
          cases hok
        · have hmem : .compile ∈ rest := by simpa [hc] using hcompile
          exact (h.not_compiles_of_abandon hmem hbroken hrest).elim

/-- A builder accepts just what the grammar has, and to leave a block once more that has been left is
nothing to it: of a run of calls on a new one that compiles, none fails if and only if the calls but
those have the bracket structure of a script. -/
theorem accepts_iff_grammatical_effective (moves : List Move) (h : .compile ∈ moves) :
    (∀ entry ∈ trace Session.start (moves.map Move.step), entry.1.isOk = true) ↔
      Grammatical (Outline.start.effective moves) :=
  (Follows.start.succeeds_iff (.inr h)).trans (admitsAll_iff_grammatical _)

/-- An export without a name may stand between an `if` and its `else`, and after the compilation; a block may be
left once more anywhere. -/
theorem accepts_branches :
    let moves : List Move := [.enterIf "t" (some "a"), .emit (.raw "x"), .leave none,
      .emit (.set "" "1"), .enterElse (some "b"), .leave (some "a"), .leave (some "b"), .compile,
      .emit (.set "" "2"), .abandon (some "b")]
    .compile ∈ moves ∧ (∀ entry ∈ trace Session.start (moves.map Move.step), entry.1.isOk = true) ∧
      Grammatical (Outline.start.effective moves) := by
  have hok : ∀ entry ∈ trace Session.start ([.enterIf "t" (some "a"), .emit (.raw "x"), .leave none,
      .emit (.set "" "1"), .enterElse (some "b"), .leave (some "a"), .leave (some "b"), .compile,
      .emit (.set "" "2"), .abandon (some "b")].map Move.step), entry.1.isOk = true := by decide
  exact ⟨by decide, hok, (accepts_iff_grammatical_effective _ (by decide)).mp hok⟩

/-- A block that is left twice is no script's, and yet nothing fails. -/
theorem accepts_leaving_twice :
    let moves : List Move := [.enterIf "t" (some "a"), .leave (some "a"), .leave (some "a"), .compile]
    moves.count .compile = 1 ∧ (∀ entry ∈ trace Session.start (moves.map Move.step), entry.1.isOk = true) ∧
      ¬ Grammatical moves := by
  refine ⟨by decide, by decide, fun h => ?_⟩
  exact absurd (h.innermost [.enterIf "t" (some "a"), .leave (some "a")] (some "a") [.compile] rfl) (by decide)

end JobScript.Shell
