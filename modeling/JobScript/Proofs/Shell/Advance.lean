import JobScript.Proofs.Shell.FailStop

/-! # Whole runs

As long as a builder can still be compiled, nothing that went in has gone astray. So a run that leaves
it whole comes to fewer kinds of changes, and each says what a caller put in by it. -/

namespace JobScript.Shell

/-- What a caller puts into a builder: a directive, or a line straight into a block. -/
inductive Input
  | directive (d : Directive)
  | line (text : String)
deriving DecidableEq, Repr

/-- A change of a builder that stays whole, with what it puts in. -/
inductive Advance : Site → List Input → Site → Prop
  | aside (b : Builder) (scopes : List Scope) (journal : List Log.Record) :
    Advance ⟨b, scopes⟩ [] ⟨b.aside b.timers journal, scopes⟩
  | emit {b : Builder} {scopes : List Scope} (d : Directive) (journal : List Log.Record)
    (isOpen : (b.block b.current).closed = false) :
    Advance ⟨b, scopes⟩ [.directive d]
      ⟨(b.put b.current ((d.render (b.timers + 1)).map .line)).aside (b.timers + d.timers) journal, scopes⟩
  | append {b : Builder} {scopes : List Scope} {id : Nat} (text : String) (mem : id ∈ b.stack)
    (isOpen : (b.block id).closed = false) :
    Advance ⟨b, scopes⟩ [.line text] ⟨b.put id [.line text], scopes⟩
  | enter {b : Builder} {scopes : List Scope} {exit : Exit} (header : String)
    (plain : ∀ owner slot, exit ≠ .alternative owner slot)
    (isOpen : (b.block b.current).closed = false) :
    Advance ⟨b, scopes⟩ []
      ⟨b.push (.start exit.kind header), ⟨b.blocks.length, exit⟩ :: scopes⟩
  | enterElse {b : Builder} {scopes : List Scope} {c : Conditional}
    (pending : (b.block b.current).pending? = some c)
    (isOpen : (b.block b.current).closed = false) :
    Advance ⟨b, scopes⟩ []
      ⟨b.marked.push (.start .alternative c.test),
        ⟨b.blocks.length, .alternative b.current (b.block b.current).lastSlot⟩ :: scopes⟩
  | leave {b : Builder} {before after : List Scope} {scope : Scope} (current : b.current = scope.block)
    (isOpen : (b.block b.current).closed = false) (takes : b.quit.Takes scope.exit) :
    Advance ⟨b, before ++ scope :: after⟩ []
      ⟨b.quit.receive scope.exit (b.block b.current), before ++ after⟩

/-- Advances one after the other. -/
inductive Advances : Site → List Input → Site → Prop
  | refl (s : Site) : Advances s [] s
  | step {s s' s'' : Site} {is is' : List Input} (first : Advance s is s') (rest : Advances s' is' s'') :
    Advances s (is ++ is') s''

section Advances
variable {s s' s'' : Site} {is is' : List Input}

lemma Advance.advances (h : Advance s is s') : Advances s is s' := by
  simpa using Advances.step h (.refl s')

lemma Advances.trans (h : Advances s is s') (h' : Advances s' is' s'') : Advances s (is ++ is') s'' := by
  induction h with
  | refl => exact h'
  | step first _ ih => simpa using Advances.step first (ih h')

lemma Advance.changes (h : Advance s is s') : ∃ es, Changes s es s' := by
  cases h with
  | aside b scopes journal => exact ⟨_, (Change.aside b scopes b.timers journal).changes⟩
  | @emit b scopes d journal isOpen =>
    have hput : Change ⟨b, scopes⟩ _ ⟨b.put b.current ((d.render (b.timers + 1)).map .line), scopes⟩ :=
      .put _ b.current_place isOpen
    exact ⟨_, hput.changes.trans (Change.aside _ scopes (b.timers + d.timers) journal).changes⟩
  | append text mem isOpen => exact ⟨_, (Change.put [text] (.inr mem) isOpen).changes⟩
  | enter header plain isOpen => exact ⟨_, (Change.enter header plain isOpen).changes⟩
  | enterElse pending isOpen => exact ⟨_, (Change.enterElse pending isOpen).changes⟩
  | leave current isOpen takes => exact ⟨_, (Change.leave current isOpen takes).changes⟩

lemma Advance.sound (h : Advance s is s') (hs : s.Sound) : s'.Sound := by
  obtain ⟨es, hchanges⟩ := h.changes
  exact hchanges.sound hs

lemma Advances.sound (h : Advances s is s') (hs : s.Sound) : s'.Sound := by
  induction h with
  | refl => exact hs
  | step first _ ih => exact ih (first.sound hs)

end Advances

/-- What an action and what follows it put in, unless the action fails. -/
def Build.inputsOf {α : Type} (action : Build α) (k : α → Builder → List Input) (b : Builder) :
    List Input :=
  match action b with
  | (.ok a, b') => k a b'
  | (.error _, _) => []

namespace Program

/-- A block, what runs in it, and what comes after it. -/
def inputsInside (enter : Build Scope) (body : Build Unit) (bodyInputs restInputs : Builder → List Input) :
    Builder → List Input :=
  enter.inputsOf fun scope b => bodyInputs b ++
    body.inputsOf (fun _ b => (Build.leave scope).inputsOf (fun _ b' => restInputs b') b) b

/-- What a program puts in before it ends or fails. -/
def inputs : Program → Builder → List Input
  | .nil, _ => []
  | .emit d rest, b => (Build.emit d).inputsOf (fun _ b' => .directive d :: rest.inputs b') b
  | .note record rest, b => (Build.note record).inputsOf (fun _ b' => rest.inputs b') b
  | .fail _, _ => []
  | .branch test body rest, b =>
    inputsInside (Build.enterIf test) body.run body.inputs rest.inputs b
  | .choice test body alternative rest, b =>
    inputsInside (Build.enterIf test) body.run body.inputs
      (inputsInside Build.enterElse alternative.run alternative.inputs rest.inputs) b
  | .fold name body rest, b =>
    inputsInside (Build.enterFold name) body.run body.inputs rest.inputs b

end Program

/-- What a step puts in without a failure. -/
def Step.inputs (s : Session) : Step → List Input
  | .emit item => match item.check with
    | .ok d => (Build.emit d).inputsOf (fun _ _ => [.directive d]) s.builder
    | .error _ => []
  | .program p => p.inputs s.builder
  | .append name line => match s.find? name with
    | some id => (Build.extend id [.line line]).inputsOf (fun _ _ => [.line line]) s.builder
    | none => []
  | _ => []

/-- What a run of steps puts in without a failure, in the order of the steps. -/
def Session.inputs (s : Session) : List Step → List Input
  | [] => []
  | step :: rest => step.inputs s ++ (step.run s).2.inputs rest

/-- Where an action leaves a builder whole, it has advanced it as its inputs say. -/
structure Build.Performs (action : Build Unit) (inputs : Builder → List Input) : Prop where
  keeps : ∃ ledger, action.Keeps ledger
  advances : ∀ b scopes, Site.Sound ⟨b, scopes⟩ → Site.Intact ⟨(action b).2, scopes⟩ →
    Advances ⟨b, scopes⟩ (inputs b) ⟨(action b).2, scopes⟩

/-- An action that brings a new scope. Where it fails instead, it changes nothing or breaks the builder. -/
def Build.Opens (action : Build Scope) : Prop :=
  ∀ b scopes, (∃ scope b', action b = (.ok scope, b') ∧ Advances ⟨b, scopes⟩ [] ⟨b', scope :: scopes⟩) ∨
    ∃ e b', action b = (.error e, b') ∧
      (Site.Intact ⟨b', scopes⟩ → Advances ⟨b, scopes⟩ [] ⟨b', scopes⟩)

@[simp] lemma Builder.timers_receive (b : Builder) (exit : Exit) (block : Block) :
    (b.receive exit block).timers = b.timers := by
  cases exit <;> rfl

lemma Site.Intact.not_closed {b : Builder} {scopes : List Scope} (h : Intact ⟨b, scopes⟩)
    (hclosed : (b.block b.current).closed = true) : False := by
  have hopen := h.current_isOpen
  rw [hclosed] at hopen
  cases hopen

namespace Build

section Inputs
variable {α : Type} {action : Build α} {k : α → Builder → List Input} {b b' : Builder}

lemma inputsOf_of_ok {a : α} (h : action b = (.ok a, b')) : action.inputsOf k b = k a b' := by
  unfold inputsOf
  rw [h]

lemma inputsOf_of_error {e : Failure} (h : action b = (.error e, b')) : action.inputsOf k b = [] := by
  unfold inputsOf
  rw [h]

end Inputs

lemma performs_emit (d : Directive) :
    (emit d).Performs fun b => (emit d).inputsOf (fun _ _ => [.directive d]) b := by
  refine ⟨⟨_, keeps_emit d⟩, fun b scopes _ hi => ?_⟩
  cases hopen : (b.block b.current).closed with
  | false =>
    obtain ⟨journal, he⟩ := emit_of_open (d := d) hopen
    rw [inputsOf_of_ok he, he]
    exact (Advance.emit d journal hopen).advances
  | true =>
    -- A number may be taken, but nothing that is closed is whole.
    have haside : ∃ outcome timers journal, emit d b = (outcome, b.aside timers journal) := by
      cases hd : d.isSilent with
      | true =>
        obtain ⟨journal, he⟩ := emit_of_isSilent (b := b) hd
        exact ⟨_, _, journal, he⟩
      | false =>
        obtain ⟨journal, he⟩ := emit_of_closed hopen hd
        exact ⟨_, _, journal, he⟩
    obtain ⟨outcome, timers, journal, he⟩ := haside
    rw [he] at hi
    exact (hi.not_closed (by simpa using hopen)).elim

lemma opens_enterIf (test : String) : (enterIf test).Opens := by
  intro b scopes
  cases hopen : (b.block b.current).closed with
  | false =>
    obtain ⟨journal, he⟩ := enterIf_of_open test hopen
    refine .inl ⟨_, _, he, ?_⟩
    have henter : Advance ⟨b, scopes⟩ []
        ⟨b.push (.start .branch test), ⟨b.blocks.length, .branch⟩ :: scopes⟩ :=
      @Advance.enter b scopes .branch test (by simp) hopen
    exact henter.advances.trans (Advance.aside _ _ journal).advances
  | true => exact .inr ⟨_, _, enterIf_of_closed test hopen, fun _ => .refl _⟩

lemma opens_enterFold (name : String) : (enterFold name).Opens := by
  intro b scopes
  by_cases hname : name = ""
  · subst hname
    exact .inr ⟨_, _, enterFold_empty, fun _ => .refl _⟩
  cases hopen : (b.block b.current).closed with
  | false =>
    obtain ⟨journal, he⟩ := enterFold_of_open hname hopen
    refine .inl ⟨_, _, he, ?_⟩
    have henter : Advance ⟨b, scopes⟩ []
        ⟨b.push (.start .fold name), ⟨b.blocks.length, .fold⟩ :: scopes⟩ :=
      @Advance.enter b scopes .fold name (by simp) hopen
    exact henter.advances.trans (Advance.aside _ _ journal).advances
  | true => exact .inr ⟨_, _, enterFold_of_closed hname hopen, fun _ => .refl _⟩

lemma opens_enterElse : enterElse.Opens := by
  intro b scopes
  cases hpending : (b.block b.current).pending? with
  | none => exact .inr ⟨_, _, enterElse_of_none hpending, fun _ => .refl _⟩
  | some c =>
    cases hopen : (b.block b.current).closed with
    | false =>
      obtain ⟨journal, he⟩ := enterElse_of_open hpending hopen
      refine .inl ⟨_, _, he, ?_⟩
      exact (Advance.enterElse hpending hopen).advances.trans (Advance.aside _ _ journal).advances
    | true =>
      have hmarked : (b.marked.block b.marked.current).closed = true := (Builder.closed_marked _).trans hopen
      exact .inr ⟨_, _, enterElse_of_closed hpending hopen, fun hi => (hi.not_closed hmarked).elim⟩

/-- A block whose leaving keeps the builder whole has been left. -/
lemma advances_leave {b : Builder} {before after : List Scope} {scope : Scope}
    (hs : Site.Sound ⟨b, before ++ scope :: after⟩)
    (hi : Site.Intact ⟨(leave scope b).2, before ++ after⟩) :
    Advances ⟨b, before ++ scope :: after⟩ [] ⟨(leave scope b).2, before ++ after⟩ := by
  rcases leave_cases b scope with
    ⟨hcur, hopen, htakes, journal, he⟩ | ⟨-, hclosed, e, journal, he⟩ | ⟨e, he⟩
  · have hleave : Advance ⟨b, before ++ scope :: after⟩ [] _ := .leave hcur hopen htakes
    have haside := Advance.aside (b.quit.receive scope.exit (b.block b.current)) (before ++ after) journal
    rw [Builder.timers_receive] at haside
    rw [he]
    exact hleave.advances.trans haside.advances
  · rw [he] at hi
    exact (hi.not_closed hclosed).elim
  · rw [he] at hi
    exact absurd hi hs.not_intact_drop

end Build

namespace Program

open Build

lemma performs_inputsInside {enter : Build Scope} {body : Build Unit} {rest : Unit → Build Unit}
    {bodyInputs restInputs : Builder → List Input} (hkeeps : enter.Enters) (henter : enter.Opens)
    (hbody : body.Performs bodyInputs) (hrest : (rest ()).Performs restInputs) :
    (enter >>= fun scope => body >>= fun _ => leave scope >>= rest).Performs
      (inputsInside enter body bodyInputs restInputs) := by
  obtain ⟨bodyLedger, hbodyKeeps⟩ := hbody.keeps
  obtain ⟨restLedger, hrestKeeps⟩ := hrest.keeps
  refine ⟨⟨_, keeps_ledgerInside hkeeps hbodyKeeps hrestKeeps⟩, fun b scopes hs hi => ?_⟩
  unfold inputsInside
  rcases henter b scopes with ⟨scope, b₁, he, hadvances⟩ | ⟨e, b₁, he, hadvances⟩
  · rw [bind_of_ok he] at hi ⊢
    rw [inputsOf_of_ok he]
    have hs₁ := hadvances.sound hs
    have hbodyChanges := hbodyKeeps b₁ (scope :: scopes)
    have hs₂ := hbodyChanges.sound hs₁
    refine hadvances.trans ?_
    cases hrun : body b₁ with
    | mk outcome b₂ =>
      rw [hrun] at hs₂ hbodyChanges
      cases outcome with
      | error e =>
        rw [bind_of_error hrun] at hi
        exact absurd hi (@Site.Sound.not_intact_drop b₂ [] scopes scope hs₂)
      | ok =>
        rw [bind_of_ok hrun] at hi ⊢
        rw [inputsOf_of_ok hrun]
        have hleaveChanges := changes_leave b₂ [] scopes scope
        have hs₃ := hleaveChanges.sound hs₂
        cases hdone : leave scope b₂ with
        | mk outcome b₃ =>
          rw [hdone] at hs₃ hleaveChanges
          cases outcome with
          | error e =>
            rw [bind_of_error hdone] at hi
            exact absurd hi (@not_intact_of_leave b₂ b₃ [] scopes scope e hs₂ hdone)
          | ok =>
            rw [bind_of_ok hdone] at hi ⊢
            rw [inputsOf_of_ok hdone]
            -- What is whole at the end was whole before the rest, before the leaving, and after the body.
            have hi₃ := (hrestKeeps b₃ scopes).intact hs₃ hi
            have hi₂ := hleaveChanges.intact hs₂ hi₃
            have hbodyAdvances := hbody.advances b₁ (scope :: scopes) hs₁ (by rw [hrun]; exact hi₂)
            have hleaveAdvances := @advances_leave b₂ [] scopes scope hs₂ (by rw [hdone]; exact hi₃)
            rw [hrun] at hbodyAdvances
            rw [hdone] at hleaveAdvances
            exact hbodyAdvances.trans (hleaveAdvances.trans (hrest.advances b₃ scopes hs₃ hi))
  · rw [bind_of_error he] at hi ⊢
    rw [inputsOf_of_error he]
    exact hadvances hi

lemma performs_inputs (p : Program) : p.run.Performs p.inputs := by
  induction p with
  | nil => exact ⟨⟨_, keeps_ledger .nil⟩, fun _ _ _ _ => .refl _⟩
  | emit d rest ih =>
    refine ⟨⟨_, keeps_ledger (.emit d rest)⟩, fun b scopes hs hi => ?_⟩
    have hs₁ := (keeps_emit d b scopes).sound hs
    have hemit := (performs_emit d).advances b scopes hs
    rw [run] at hi ⊢
    rw [inputs]
    cases hrun : Build.emit d b with
    | mk outcome b₁ =>
      rw [hrun] at hs₁ hemit
      cases outcome with
      | error e =>
        rw [bind_of_error hrun] at hi ⊢
        rw [inputsOf_of_error hrun] at hemit ⊢
        exact hemit hi
      | ok =>
        rw [bind_of_ok hrun] at hi ⊢
        rw [inputsOf_of_ok hrun] at hemit ⊢
        have hi₁ := (rest.keeps_ledger b₁ scopes).intact hs₁ hi
        exact (hemit hi₁).trans (ih.advances b₁ scopes hs₁ hi)
  | note record rest ih =>
    refine ⟨⟨_, keeps_ledger (.note record rest)⟩, fun b scopes hs hi => ?_⟩
    have hnote := Advance.aside b scopes (record :: b.journal)
    exact hnote.advances.trans (ih.advances _ scopes (hnote.sound hs) hi)
  | fail failure => exact ⟨⟨_, keeps_ledger (.fail failure)⟩, fun _ _ _ _ => .refl _⟩
  | branch test body rest ihBody ih =>
    exact performs_inputsInside (enters_enterIf test) (opens_enterIf test) ihBody ih
  | choice test body alternative rest ihBody ihAlternative ih =>
    exact performs_inputsInside (enters_enterIf test) (opens_enterIf test) ihBody
      (performs_inputsInside enters_enterElse opens_enterElse ihAlternative ih)
  | fold name body rest ihBody ih =>
    exact performs_inputsInside (enters_enterFold name) (opens_enterFold name) ihBody ih

end Program

lemma Run.advances_enter {action : Build Scope} (h : action.Opens) (name : Option String) (s : Session)
    (hi : (enter name action s).2.site.Intact) : Advances s.site [] (enter name action s).2.site := by
  rcases h s.builder s.site.scopes with ⟨scope, b, he, hadvances⟩ | ⟨e, b, he, hadvances⟩
  · rw [enter_of_ok he]
    exact hadvances
  · rw [enter_of_error he] at hi ⊢
    exact hadvances hi

lemma Site.not_intact_shut {b : Builder} {scopes : List Scope} {id : Nat} (hlt : id < b.blocks.length)
    (hplace : id = Builder.rootId ∨ id ∈ b.stack) : ¬ Intact ⟨b.shut id, scopes⟩ := by
  intro hi
  have hopen : ((b.shut id).block id).closed = false := by
    rcases hplace with rfl | hmem
    · exact hi.root
    · exact hi.isOpen id hmem
  rw [Builder.shut, Builder.block_update_self _ hlt] at hopen
  cases hopen

lemma Build.advances_extend {b : Builder} {scopes : List Scope} (hs : Site.Sound ⟨b, scopes⟩) {id : Nat}
    (hpos : 0 < id) (hlt : id < b.blocks.length) (line : String) :
    Advances ⟨b, scopes⟩ ((extend id [.line line]).inputsOf (fun _ _ => [.line line]) b)
      ⟨(extend id [.line line] b).2, scopes⟩ := by
  cases hopen : (b.block id).closed with
  | false =>
    have he : extend id [.line line] b = (.ok (), b.put id [.line line]) := extend_of_open hopen
    rw [inputsOf_of_ok he, he]
    exact (Advance.append line (hs.mem_stack hpos hlt hopen) hopen).advances
  | true =>
    have he := extend_of_closed hopen (List.cons_ne_nil (Node.line line) [])
    rw [inputsOf_of_error he, he]
    exact .refl _

/-- Only a closing that fails leaves a builder whole. -/
lemma Build.advances_close {b : Builder} {scopes : List Scope} (hs : Site.Sound ⟨b, scopes⟩) {id : Nat}
    (hpos : 0 < id) (hlt : id < b.blocks.length) (hi : Site.Intact ⟨(close id b).2, scopes⟩) :
    Advances ⟨b, scopes⟩ [] ⟨(close id b).2, scopes⟩ := by
  cases hopen : (b.block id).closed with
  | false =>
    rw [close_of_open hopen] at hi
    exact absurd hi (Site.not_intact_shut hlt (.inr (hs.mem_stack hpos hlt hopen)))
  | true =>
    rw [close_of_closed hopen]
    exact .refl _

/-- A step that leaves a session whole has advanced it, with what it put in. -/
theorem Step.advances {s : Session} (hs : s.Sound) (step : Step) (hi : (step.run s).2.site.Intact) :
    Advances s.site (step.inputs s) (step.run s).2.site := by
  cases step with
  | emit item =>
    simp only [Step.inputs, Step.run] at hi ⊢
    cases hitem : item.check with
    | ok d =>
      rw [hitem] at hi
      dsimp only at hi ⊢
      rw [Run.quietly_apply] at hi ⊢
      exact (Build.performs_emit d).advances s.builder s.site.scopes hs.site hi
    | error failure => exact .refl _
  | program p =>
    simp only [Step.inputs, Step.run] at hi ⊢
    rw [Run.quietly_apply] at hi ⊢
    exact p.performs_inputs.advances s.builder s.site.scopes hs.site hi
  | enterIf test name => exact Run.advances_enter (Build.opens_enterIf test) name s hi
  | enterElse name => exact Run.advances_enter Build.opens_enterElse name s hi
  | enterFold header name => exact Run.advances_enter (Build.opens_enterFold header) name s hi
  | leave name =>
    simp only [Step.inputs, Step.run] at hi ⊢
    cases hfind : s.scopes.find? (Session.isMeant name) with
    | none =>
      rw [Run.leaving_of_none hfind]
      exact .refl _
    | some entry =>
      obtain ⟨before, after, hscopes, herase⟩ := Session.scopes_of_find? hfind
      rw [Run.leaving_of_some hfind, Run.quietly_apply] at hi ⊢
      have hsound : Site.Sound ⟨s.builder, before ++ entry.2 :: after⟩ := hscopes ▸ hs.site
      have hwhole : Site.Intact ⟨(Build.leave entry.2 s.builder).2, before ++ after⟩ := by
        rw [← herase]
        exact hi
      have hleave := Build.advances_leave hsound hwhole
      rw [← hscopes, ← herase] at hleave
      exact hleave
  | abandon name =>
    simp only [Step.inputs, Step.run] at hi ⊢
    cases hfind : s.scopes.find? (Session.isMeant name) with
    | none =>
      rw [Run.leaving_of_none hfind]
      exact .refl _
    | some entry =>
      have hbreaks : (Step.abandon name).breaks s = true := by
        rw [Step.breaks, hfind]
        rfl
      exact absurd hi (Step.not_intact_of_breaks hs hbreaks)
  | append name line =>
    simp only [Step.inputs, Step.run] at hi ⊢
    cases hfind : s.find? name with
    | none =>
      rw [Run.about_of_none hfind]
      exact .refl _
    | some id =>
      rw [Run.about_of_some hfind, Run.quietly_apply]
      obtain ⟨hpos, hlt⟩ := hs.find? hfind
      exact Build.advances_extend hs.site hpos hlt line
  | close name =>
    simp only [Step.inputs, Step.run] at hi ⊢
    cases hfind : s.find? name with
    | none =>
      rw [Run.about_of_none hfind]
      exact .refl _
    | some id =>
      rw [Run.about_of_some hfind, Run.quietly_apply] at hi ⊢
      obtain ⟨hpos, hlt⟩ := hs.find? hfind
      exact Build.advances_close hs.site hpos hlt hi
  | inspect name =>
    simp only [Step.inputs, Step.run]
    cases hfind : s.find? name with
    | none =>
      rw [Run.about_of_none hfind]
      exact .refl _
    | some id =>
      rw [Run.about_of_some hfind]
      exact .refl _
  | failedTest => exact .refl _
  | compile =>
    have hbuild := Run.build_apply Build.compile s
    simp only [Step.inputs, Step.run] at hi ⊢
    by_cases hstack : s.builder.stack = []
    · cases hopen : (s.builder.block Builder.rootId).closed with
      | false =>
        rw [Build.compile_of_open hstack hopen] at hbuild
        rw [bind_of_ok hbuild] at hi
        exact absurd hi (Site.not_intact_shut hs.site.root (.inl rfl))
      | true =>
        rw [Build.compile_of_closed hstack hopen] at hbuild
        rw [bind_of_error hbuild]
        exact .refl _
    · rw [Build.compile_of_stack hstack] at hbuild
      rw [bind_of_error hbuild]
      exact .refl _

namespace Session

variable {s : Session}

/-- A run of steps that leaves a session whole has advanced it, with what it put in. -/
theorem Sound.advances (h : s.Sound) (steps : List Step) (hi : (s.after steps).site.Intact) :
    Advances s.site (s.inputs steps) (s.after steps).site := by
  induction steps generalizing s with
  | nil => exact .refl _
  | cons step rest ih =>
    have hstep := h.step step
    have hwhole := (hstep.changes rest).intact hstep.site hi
    exact (step.advances h hwhole).trans (ih hstep hi)

end Session

end JobScript.Shell
