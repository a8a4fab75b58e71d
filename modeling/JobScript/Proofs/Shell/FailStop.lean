import JobScript.Proofs.Shell.Conservation

/-! # Broken runs

A block that is left by a failure, or that fails to be left, makes sure that nothing is compiled any
more. What is compiled has the lines that were accepted, and those that frame the blocks. -/

namespace JobScript.Shell

namespace Program

/-- A failure in a block that was entered, or on the way out of it. -/
def breaksInside (enter : Build Scope) (body : Build Unit) (restBreaks : Builder → Bool) (b : Builder) :
    Bool :=
  match enter b with
  | (.error _, _) => false
  | (.ok scope, b₁) => match body b₁ with
    | (.error _, _) => true
    | (.ok _, b₂) => match Build.leave scope b₂ with
      | (.error _, _) => true
      | (.ok _, b₃) => restBreaks b₃

/-- A program that fails with a block open leaves that block by its failure. -/
def breaks : Program → Builder → Bool
  | .nil, _ => false
  | .emit d rest, b => match Build.emit d b with
    | (.error _, _) => false
    | (.ok _, b₁) => rest.breaks b₁
  | .note record rest, b => rest.breaks (Build.note record b).2
  | .fail _, _ => false
  | .branch test body rest, b => breaksInside (Build.enterIf test) body.run rest.breaks b
  | .choice test body alternative rest, b => breaksInside (Build.enterIf test) body.run
      (breaksInside Build.enterElse alternative.run rest.breaks) b
  | .fold name body rest, b => breaksInside (Build.enterFold name) body.run rest.breaks b

end Program

/-- A block is left by a failure, or fails to be left. -/
def Step.breaks (s : Session) : Step → Bool
  | .program p => p.breaks s.builder
  | .leave name => match s.scopes.find? (Session.isMeant name) with
    | some (_, scope) => !(Build.leave scope s.builder).1.isOk
    | none => false
  | .abandon name => (s.scopes.find? (Session.isMeant name)).isSome
  | _ => false

/-- An action that breaks a builder leaves a block behind that nothing can leave. -/
def Build.Spoils (action : Build Unit) (breaks : Builder → Bool) : Prop :=
  ∀ b scopes, Site.Sound ⟨b, scopes⟩ → breaks b = true → ¬ Site.Intact ⟨(action b).2, scopes⟩

lemma Build.not_intact_of_leave {b b' : Builder} {before after : List Scope} {scope : Scope} {e : Failure}
    (hs : Site.Sound ⟨b, before ++ scope :: after⟩) (h : leave scope b = (.error e, b')) :
    ¬ Site.Intact ⟨b', before ++ after⟩ := by
  intro hi
  rcases leave_cases b scope with ⟨-, -, -, journal, he⟩ | ⟨-, hclosed, e, journal, he⟩ | ⟨e, he⟩
  · rw [h] at he
    cases he
  · rw [h] at he
    cases he
    have hopen := hi.current_isOpen
    rw [Builder.current_aside, Builder.block_aside, hclosed] at hopen
    cases hopen
  · rw [h] at he
    cases he
    exact hs.not_intact_drop hi

namespace Program

open Build

lemma spoils_breaksInside {enter : Build Scope} {body : Build Unit} {rest : Unit → Build Unit}
    {bodyLedger : Builder → List Entry} {restBreaks : Builder → Bool} (henter : enter.Enters)
    (hbody : body.Keeps bodyLedger) (hrest : (rest ()).Spoils restBreaks) :
    (enter >>= fun scope => body >>= fun _ => leave scope >>= rest).Spoils
      (breaksInside enter body restBreaks) := by
  intro b scopes hs hbreaks
  unfold breaksInside at hbreaks
  rcases henter b scopes with ⟨scope, b₁, he, hchanges⟩ | ⟨e, b₁, he, hchanges⟩
  · rw [he] at hbreaks
    dsimp only at hbreaks
    rw [bind_of_ok he]
    have hsound : Site.Sound ⟨(body b₁).2, scope :: scopes⟩ :=
      (hbody b₁ _).sound (hchanges.sound hs)
    cases hrun : body b₁ with
    | mk outcome b₂ =>
      rw [hrun] at hbreaks hsound
      cases outcome with
      | error e =>
        rw [bind_of_error hrun]
        exact @Site.Sound.not_intact_drop b₂ [] scopes scope hsound
      | ok =>
        rw [bind_of_ok hrun]
        cases hdone : leave scope b₂ with
        | mk outcome b₃ =>
          dsimp only at hbreaks
          rw [hdone] at hbreaks
          cases outcome with
          | error e =>
            rw [bind_of_error hdone]
            exact @not_intact_of_leave b₂ b₃ [] scopes scope e hsound hdone
          | ok =>
            rw [bind_of_ok hdone]
            have hleft := (changes_leave b₂ [] scopes scope).sound hsound
            rw [hdone] at hleft
            exact hrest b₃ scopes hleft hbreaks
  · rw [he] at hbreaks
    cases hbreaks

lemma spoils_breaks (p : Program) : p.run.Spoils p.breaks := by
  induction p with
  | nil => exact fun _ _ _ h => absurd h Bool.false_ne_true
  | emit d rest ih =>
    intro b scopes hs hbreaks
    have hsound := (keeps_emit d b scopes).sound hs
    rw [breaks] at hbreaks
    rw [run]
    cases hrun : Build.emit d b with
    | mk outcome b₁ =>
      rw [hrun] at hbreaks hsound
      cases outcome with
      | error e => cases hbreaks
      | ok =>
        rw [bind_of_ok hrun]
        exact ih b₁ scopes hsound hbreaks
  | note record rest ih =>
    intro b scopes hs hbreaks
    exact ih _ scopes ((keeps_note record b scopes).sound hs) hbreaks
  | fail failure => exact fun _ _ _ h => absurd h Bool.false_ne_true
  | branch test body rest ihBody ih =>
    exact spoils_breaksInside (enters_enterIf test) body.keeps_ledger ih
  | choice test body alternative rest ihBody ihAlternative ih =>
    exact spoils_breaksInside (enters_enterIf test) body.keeps_ledger
      (spoils_breaksInside enters_enterElse alternative.keeps_ledger ih)
  | fold name body rest ihBody ih =>
    exact spoils_breaksInside (enters_enterFold name) body.keeps_ledger ih

end Program

theorem Step.not_intact_of_breaks {s : Session} (hs : s.Sound) {step : Step}
    (h : step.breaks s = true) : ¬ (step.run s).2.site.Intact := by
  cases step with
  | program p =>
    rw [Step.run, Run.quietly_apply]
    exact p.spoils_breaks s.builder s.site.scopes hs.site h
  | leave name =>
    simp only [Step.breaks] at h
    cases hfind : s.scopes.find? (Session.isMeant name) with
    | none =>
      rw [hfind] at h
      cases h
    | some entry =>
      obtain ⟨before, after, hscopes, herase⟩ := Session.scopes_of_find? hfind
      rw [hfind] at h
      rw [Step.run, Run.leaving_of_some hfind, Run.quietly_apply]
      have hsound : Site.Sound ⟨s.builder, before ++ entry.2 :: after⟩ := hscopes ▸ hs.site
      cases hrun : Build.leave entry.2 s.builder with
      | mk outcome b =>
        dsimp only at h
        rw [hrun] at h
        cases outcome with
        | error e =>
          have hnot := Build.not_intact_of_leave hsound hrun
          rw [← herase] at hnot
          exact hnot
        | ok => cases h
  | abandon name =>
    obtain ⟨entry, hfind⟩ := Option.isSome_iff_exists.mp h
    obtain ⟨before, after, hscopes, herase⟩ := Session.scopes_of_find? hfind
    have hsound : Site.Sound ⟨s.builder, before ++ entry.2 :: after⟩ := hscopes ▸ hs.site
    have hnot := hsound.not_intact_drop
    rw [← herase] at hnot
    rw [Step.run, Run.leaving_of_some hfind]
    exact hnot
  | _ => cases h

/-- Nothing is open and the root is closed: nothing goes in any more. -/
structure Site.Finished (s : Site) : Prop where
  stack : s.builder.stack = []
  root : (s.builder.block Builder.rootId).closed = true

lemma Site.Finished.current_closed {b : Builder} {scopes : List Scope} (h : Finished ⟨b, scopes⟩) :
    (b.block b.current).closed = true := by
  have hcurrent : b.current = Builder.rootId := by
    rw [Builder.current, h.stack]
    rfl
  rw [hcurrent]
  exact h.root

lemma Site.Finished.scopes_eq_nil {b : Builder} {scopes : List Scope} (h : Finished ⟨b, scopes⟩)
    (hs : Sound ⟨b, scopes⟩) : scopes = [] := by
  have hsub : (scopes.map Scope.block).Sublist b.stack := hs.sublist
  have hstack : b.stack = [] := h.stack
  rw [hstack, List.sublist_nil] at hsub
  exact List.map_eq_nil_iff.mp hsub

theorem Change.finished {s s' : Site} {es : List Entry} (h : Change s es s') (hs : s.Sound)
    (hf : s.Finished) : es = [] ∧ s'.Finished := by
  cases h with
  | aside b scopes timers journal => exact ⟨rfl, hf.stack, hf.root⟩
  | @put b scopes id lines place isOpen =>
    have hid : id = Builder.rootId := place.resolve_right fun hmem => by
      rw [hf.stack] at hmem
      cases hmem
    rw [hid, hf.root] at isOpen
    cases isOpen
  | @shut b scopes id lt isOpen =>
    refine ⟨rfl, hf.stack, ?_⟩
    by_cases hid : id = Builder.rootId
    · rw [hid, hf.root] at isOpen
      cases isOpen
    · rw [Builder.shut, Builder.block_update_of_ne _ hid]
      exact hf.root
  | mark pending => exact ⟨rfl, hf.stack, (Builder.closed_marked _).trans hf.root⟩
  | enter header plain isOpen =>
    rw [hf.current_closed] at isOpen
    cases isOpen
  | enterElse pending isOpen =>
    rw [hf.current_closed] at isOpen
    cases isOpen
  | leave current isOpen =>
    rw [hf.current_closed] at isOpen
    cases isOpen
  | lose current isClosed =>
    have hnil := hf.scopes_eq_nil hs
    simp at hnil
  | drop b before after scope => exact ⟨rfl, hf.stack, hf.root⟩

theorem Changes.finished {s s' : Site} {es : List Entry} (h : Changes s es s') (hs : s.Sound)
    (hf : s.Finished) : es = [] ∧ s'.Finished := by
  induction h with
  | refl => exact ⟨rfl, hf⟩
  | step first _ ih =>
    obtain ⟨rfl, hf'⟩ := first.finished hs hf
    exact ih (first.sound hs) hf'

/-- A line that no caller put in: it opens, divides or closes a branch or a fold. -/
def IsStructural (line : String) : Prop :=
  (∃ test, line = "if " ++ test ++ "; then") ∨ line = "else" ∨ line = "fi" ∨ line = ":" ∨
    ∃ name, line = foldBegin name ∨ line = foldEnd name

lemma Block.frame_isStructural {block : Block} {depth : Nat} {e : Entry} (h : e ∈ block.frame depth) :
    IsStructural e.text := by
  have hfiller : ∀ e' ∈ (if block.lines = [] then [⟨true, depth + 1, ":"⟩] else [] : List Entry),
      IsStructural e'.text := by
    intro e' he'
    split at he'
    · cases List.mem_singleton.mp he'
      exact .inr (.inr (.inr (.inl rfl)))
    · cases he'
  unfold frame at h
  dsimp only at h
  split at h
  · rcases List.mem_cons.mp h with rfl | h
    · exact .inl ⟨_, rfl⟩
    rcases List.mem_cons.mp h with rfl | h
    · exact .inr (.inr (.inl rfl))
    · exact hfiller e h
  · rcases List.mem_cons.mp h with rfl | h
    · exact .inr (.inl rfl)
    · exact hfiller e h
  · rcases List.mem_cons.mp h with rfl | h
    · exact .inr (.inr (.inr (.inr ⟨_, .inl rfl⟩)))
    · cases List.mem_singleton.mp h
      exact .inr (.inr (.inr (.inr ⟨_, .inr rfl⟩)))
  · cases h

lemma Change.framing {s s' : Site} {es : List Entry} (h : Change s es s') {e : Entry} (he : e ∈ es)
    (hframing : e.framing = true) : IsStructural e.text := by
  cases h with
  | put lines place isOpen =>
    obtain ⟨line, -, rfl⟩ := List.mem_map.mp he
    cases hframing
  | leave current isOpen => exact Block.frame_isStructural he
  | _ => cases he

lemma Changes.framing {s s' : Site} {es : List Entry} (h : Changes s es s') {e : Entry} (he : e ∈ es)
    (hframing : e.framing = true) : IsStructural e.text := by
  induction h with
  | refl => cases he
  | step first _ ih =>
    rcases List.mem_append.mp he with hfirst | hrest
    · exact first.framing hfirst hframing
    · exact ih hrest

namespace Session

variable {s : Session}

/-- Only a builder without open blocks is compiled, and only once. -/
lemma compile_of_ok {reply : Reply} (h : (Step.compile.run s).1 = .ok reply) :
    s.builder.stack = [] ∧ (s.builder.block Builder.rootId).closed = false ∧
      reply = .text (Text.unlines (s.builder.block Builder.rootId).lines) ∧
      (Step.compile.run s).2.builder = s.builder.shut Builder.rootId := by
  have hfail : ∀ {e b}, Build.compile s.builder = (.error e, b) → False := by
    intro e b he
    have hbuild : Run.build Build.compile s = (.error e, { s with builder := b }) := by
      rw [Run.build_apply, he]
    rw [Step.run, bind_of_error hbuild] at h
    cases h
  by_cases hstack : s.builder.stack = []
  · cases hopen : (s.builder.block Builder.rootId).closed with
    | false =>
      have hbuild := Run.build_apply Build.compile s
      rw [Build.compile_of_open hstack hopen] at hbuild
      rw [Step.run, bind_of_ok hbuild] at h
      rw [Step.run, bind_of_ok hbuild]
      cases h
      exact ⟨hstack, rfl, rfl, rfl⟩
    | true => exact (hfail (Build.compile_of_closed hstack hopen)).elim
  · exact (hfail (Build.compile_of_stack hstack)).elim

lemma Sound.intact_of_compile (h : s.Sound) {reply : Reply} (hok : (Step.compile.run s).1 = .ok reply) :
    s.site.Intact := by
  obtain ⟨hstack, hroot, -⟩ := compile_of_ok hok
  have hscopes : s.site.scopes.map Scope.block = [] := by
    have hsub : (s.site.scopes.map Scope.block).Sublist s.builder.stack := h.site.sublist
    rwa [hstack, List.sublist_nil] at hsub
  refine ⟨hroot, hstack.trans hscopes.symm, fun id hid => ?_⟩
  have hmem : id ∈ s.builder.stack := hid
  rw [hstack] at hmem
  cases hmem

/-- The lines that a run of steps puts in without a failure. -/
def accepted (s : Session) (steps : List Step) : List Entry := (s.ledger steps).filter (!·.framing)

/-- The lines that frame the blocks that a run of steps leaves. -/
def framing (s : Session) (steps : List Step) : List Entry := (s.ledger steps).filter (·.framing)

lemma Sound.isStructural_of_framing (h : s.Sound) {steps : List Step} {e : Entry}
    (he : e ∈ s.framing steps) : IsStructural e.text :=
  (h.changes steps).framing (List.mem_of_mem_filter he) (List.mem_filter.mp he).2

lemma ledger_eq_accepted_add_framing (s : Session) (steps : List Step) :
    (((s.ledger steps).map Entry.line : List String) : Multiset String) =
      ((s.accepted steps).map Entry.line : List String) + ((s.framing steps).map Entry.line : List String) := by
  have hsplit := List.filter_append_perm (·.framing) (s.ledger steps)
  rw [Multiset.coe_add, ← List.map_append]
  refine Multiset.coe_eq_coe.mpr ((hsplit.symm.trans List.perm_append_comm).map Entry.line)

lemma Sound.ledger_compile (h : s.Sound) {reply : Reply} (hok : (Step.compile.run s).1 = .ok reply)
    (before : List Step) (after : List Step) {s₀ : Session} (hs : s₀.after before = s) :
    s₀.ledger (before ++ .compile :: after) = s₀.ledger before := by
  obtain ⟨hstack, hroot, -, hb⟩ := compile_of_ok hok
  have hcompile := h.step .compile
  have hlt : Builder.rootId < s.builder.blocks.length := h.site.root
  have hfinished : (Step.compile.run s).2.site.Finished := by
    refine ⟨?_, ?_⟩
    · show (Step.compile.run s).2.builder.stack = []
      rw [hb]
      exact hstack
    · show ((Step.compile.run s).2.builder.block Builder.rootId).closed = true
      rw [hb, Builder.shut, Builder.block_update_self _ hlt]
      rfl
  have hafter := ((hcompile.changes after).finished hcompile.site hfinished).1
  rw [ledger_append, hs]
  show s₀.ledger before ++ ([] ++ (Step.compile.run s).2.ledger after) = _
  rw [hafter, List.append_nil, List.append_nil]

/-- Whatever is called on a builder: once a block is left by a failure, or fails to be left, nothing
is compiled any more; and what is compiled has just the lines that the whole run put in without a
failure, each as deep as it stands, and those that frame the blocks that were left. -/
theorem compile_failStop_and_lossless (before : List Step) :
    (∀ (step : Step) (later : List Step), step.breaks (start.after before) = true →
      ∃ e, (Step.compile.run (start.after (before ++ step :: later))).1 = .error e) ∧
    ∀ (after : List Step) (reply : Reply), (Step.compile.run (start.after before)).1 = .ok reply →
      reply = .text ("\n".intercalate ((start.after before).builder.block Builder.rootId).lines ++ "\n") ∧
      (((start.after before).builder.block Builder.rootId).lines : Multiset String) =
        ((start.accepted (before ++ .compile :: after)).map Entry.line : List String) +
          ((start.framing (before ++ .compile :: after)).map Entry.line : List String) ∧
      ∀ e ∈ start.framing (before ++ .compile :: after), IsStructural e.text := by
  have hsound : (start.after before).Sound := Sound.start.after before
  refine ⟨fun step later hbreaks => ?_, fun after reply hok => ?_⟩
  · have hbroken := Step.not_intact_of_breaks hsound hbreaks
    have hstep := hsound.step step
    rw [after_append, after_cons]
    cases hrun : (Step.compile.run (((step.run (start.after before)).2).after later)).1 with
    | error e => exact ⟨e, rfl⟩
    | ok reply =>
      have hintact := (hstep.after later).intact_of_compile hrun
      exact absurd ((hstep.changes later).intact hstep.site hintact) hbroken
  · obtain ⟨hstack, -, hreply, -⟩ := compile_of_ok hok
    refine ⟨hreply, ?_, fun e he => Sound.start.isStructural_of_framing he⟩
    have hheld := (Sound.start.changes before).held Sound.start.site (hsound.intact_of_compile hok)
    have hlines : (start.after before).site.held =
        ((start.after before).builder.block Builder.rootId).lines := by
      show (start.after before).builder.held (start.after before).builder.stack = _
      rw [hstack, Builder.held_nil]
    rw [← hlines, hheld, ← ledger_eq_accepted_add_framing, hsound.ledger_compile hok before after rfl]
    exact Multiset.zero_add _

/-- An abandoned `if` stops all compiling; an `if` that is left has its line two blanks deeper. -/
theorem compile_of_branch :
    (∃ e, (Step.compile.run (start.after [.enterIf "t" (some "a"), .abandon none])).1 = .error e) ∧
    (Step.compile.run (start.after [.enterIf "t" (some "a"), .emit (.directive (.raw "x")), .leave none])).1 =
      .ok (.text ("\n".intercalate ["if t; then", "  x", "fi"] ++ "\n")) ∧
    ((["if t; then", "  x", "fi"] : List String) : Multiset String) =
      (["  x"] : List String) + (["if t; then", "fi"] : List String) := by
  have hbreaks : (Step.abandon none).breaks (start.after [.enterIf "t" (some "a")]) = true := by decide
  have hok : (Step.compile.run
      (start.after [.enterIf "t" (some "a"), .emit (.directive (.raw "x")), .leave none])).1 =
        .ok (.text ("\n".intercalate ["if t; then", "  x", "fi"] ++ "\n")) := rfl
  obtain ⟨-, hlines, -⟩ := (compile_failStop_and_lossless
    [.enterIf "t" (some "a"), .emit (.directive (.raw "x")), .leave none]).2 [.compile] _ hok
  exact ⟨(compile_failStop_and_lossless [.enterIf "t" (some "a")]).1 _ [] hbreaks, hok, hlines⟩

end Session

end JobScript.Shell
