import JobScript.Proofs.Shell.Session
import JobScript.Proofs.Shell.Soundness

/-! # The ledger of a run

Every line that a run of steps puts into a builder stands in its ledger, as deep as it will stand in
the script, together with the lines that come around the blocks that were left. -/

namespace JobScript.Shell

/-- What the ledger has for an action, unless that fails. -/
def Build.ledgerOf {α : Type} (action : Build α) (k : α → Builder → List Entry) (b : Builder) :
    List Entry :=
  match action b with
  | (.ok a, b') => k a b'
  | (.error _, _) => []

/-- The lines of a directive that goes into the innermost block. -/
def Directive.entries (d : Directive) (b : Builder) : List Entry :=
  (d.render (b.timers + 1)).map fun line => ⟨false, b.indentationAt b.current, line⟩

namespace Program

/-- A block, what runs in it, and what comes after it. -/
def ledgerInside (enter : Build Scope) (body : Build Unit) (bodyLedger restLedger : Builder → List Entry) :
    Builder → List Entry :=
  enter.ledgerOf fun scope b => bodyLedger b ++
    body.ledgerOf (fun _ b => (Build.leave scope).ledgerOf (fun _ b' => b.frame ++ restLedger b') b) b

/-- What a program puts in before it ends or fails. -/
def ledger : Program → Builder → List Entry
  | .nil, _ => []
  | .emit d rest, b => (Build.emit d).ledgerOf (fun _ b' => d.entries b ++ rest.ledger b') b
  | .note record rest, b => (Build.note record).ledgerOf (fun _ b' => rest.ledger b') b
  | .fail _, _ => []
  | .branch test body rest, b =>
    ledgerInside (Build.enterIf test) body.run body.ledger rest.ledger b
  | .choice test body alternative rest, b =>
    ledgerInside (Build.enterIf test) body.run body.ledger
      (ledgerInside Build.enterElse alternative.run alternative.ledger rest.ledger) b
  | .fold name body rest, b =>
    ledgerInside (Build.enterFold name) body.run body.ledger rest.ledger b

end Program

def Step.ledger (s : Session) : Step → List Entry
  | .emit item => match item.check with
    | .ok d => (Build.emit d).ledgerOf (fun _ _ => d.entries s.builder) s.builder
    | .error _ => []
  | .program p => p.ledger s.builder
  | .leave name => match s.scopes.find? (Session.isMeant name) with
    | some (_, scope) => (Build.leave scope).ledgerOf (fun _ _ => s.builder.frame) s.builder
    | none => []
  | .append name line => match s.find? name with
    | some id => (Build.extend id [.line line]).ledgerOf
        (fun _ _ => [⟨false, s.builder.indentationAt id, line⟩]) s.builder
    | none => []
  | _ => []

def Session.ledger (s : Session) : List Step → List Entry
  | [] => []
  | step :: rest => step.ledger s ++ (step.run s).2.ledger rest

/-- An action that changes a builder as a ledger says, and leaves no scope behind. -/
def Build.Keeps {α : Type} (action : Build α) (ledger : Builder → List Entry) : Prop :=
  ∀ b scopes, Changes ⟨b, scopes⟩ (ledger b) ⟨(action b).2, scopes⟩

/-- An action that brings a new scope, unless it fails. -/
def Build.Enters (action : Build Scope) : Prop :=
  ∀ b scopes, (∃ scope b', action b = (.ok scope, b') ∧ Changes ⟨b, scopes⟩ [] ⟨b', scope :: scopes⟩) ∨
    ∃ e b', action b = (.error e, b') ∧ Changes ⟨b, scopes⟩ [] ⟨b', scopes⟩

lemma Builder.current_place (b : Builder) : b.current = rootId ∨ b.current ∈ b.stack := by
  unfold Builder.current
  cases b.stack with
  | nil => exact .inl rfl
  | cons t below => exact .inr (List.mem_cons_self ..)

namespace Build

lemma ledgerOf_of_ok {α : Type} {action : Build α} {k : α → Builder → List Entry} {b b' : Builder}
    {a : α} (h : action b = (.ok a, b')) : action.ledgerOf k b = k a b' := by
  unfold ledgerOf
  rw [h]

lemma ledgerOf_of_error {α : Type} {action : Build α} {k : α → Builder → List Entry} {b b' : Builder}
    {e : Failure} (h : action b = (.error e, b')) : action.ledgerOf k b = [] := by
  unfold ledgerOf
  rw [h]

lemma keeps_emit (d : Directive) : (emit d).Keeps fun b => (emit d).ledgerOf (fun _ _ => d.entries b) b := by
  intro b scopes
  dsimp only
  cases hopen : (b.block b.current).closed with
  | false =>
    obtain ⟨journal, he⟩ := emit_of_open (d := d) hopen
    rw [ledgerOf_of_ok he, he]
    have hput : Change ⟨b, scopes⟩ (d.entries b)
        ⟨b.put b.current ((d.render (b.timers + 1)).map .line), scopes⟩ :=
      .put _ b.current_place hopen
    simpa using hput.changes.trans (Change.aside _ scopes (b.timers + d.timers) journal).changes
  | true =>
    cases hd : d.isSilent with
    | true =>
      obtain ⟨journal, he⟩ := emit_of_isSilent (b := b) hd
      have hnil : d.entries b = [] := by
        rw [Directive.entries, Directive.render_eq_nil_iff.mpr hd]
        rfl
      rw [ledgerOf_of_ok he, he, hnil]
      exact (Change.aside b scopes _ journal).changes
    | false =>
      obtain ⟨journal, he⟩ := emit_of_closed hopen hd
      rw [ledgerOf_of_error he, he]
      exact (Change.aside b scopes _ journal).changes

lemma keeps_note (record : Log.Record) : (note record).Keeps fun _ => [] :=
  fun b scopes => (Change.aside b scopes b.timers (record :: b.journal)).changes

lemma enters_enterIf (test : String) : (enterIf test).Enters := by
  intro b scopes
  cases hopen : (b.block b.current).closed with
  | false =>
    obtain ⟨journal, he⟩ := enterIf_of_open test hopen
    refine .inl ⟨_, _, he, ?_⟩
    have henter : Change ⟨b, scopes⟩ [] ⟨b.push (.start .branch test), ⟨b.blocks.length, .branch⟩ :: scopes⟩ :=
      @Change.enter b scopes .branch test (by simp) hopen
    exact henter.changes.trans (Change.aside _ _ b.timers journal).changes
  | true => exact .inr ⟨_, _, enterIf_of_closed test hopen, .refl _⟩

lemma enters_enterFold (name : String) : (enterFold name).Enters := by
  intro b scopes
  by_cases hname : name = ""
  · subst hname
    exact .inr ⟨_, _, enterFold_empty, .refl _⟩
  cases hopen : (b.block b.current).closed with
  | false =>
    obtain ⟨journal, he⟩ := enterFold_of_open hname hopen
    refine .inl ⟨_, _, he, ?_⟩
    have henter : Change ⟨b, scopes⟩ [] ⟨b.push (.start .fold name), ⟨b.blocks.length, .fold⟩ :: scopes⟩ :=
      @Change.enter b scopes .fold name (by simp) hopen
    exact henter.changes.trans (Change.aside _ _ b.timers journal).changes
  | true => exact .inr ⟨_, _, enterFold_of_closed hname hopen, .refl _⟩

lemma enters_enterElse : enterElse.Enters := by
  intro b scopes
  cases hpending : (b.block b.current).pending? with
  | none => exact .inr ⟨_, _, enterElse_of_none hpending, .refl _⟩
  | some c =>
    cases hopen : (b.block b.current).closed with
    | false =>
      obtain ⟨journal, he⟩ := enterElse_of_open hpending hopen
      refine .inl ⟨_, _, he, ?_⟩
      exact (Change.enterElse hpending hopen).changes.trans (Change.aside _ _ b.timers journal).changes
    | true => exact .inr ⟨_, _, enterElse_of_closed hpending hopen, (Change.mark hpending).changes⟩

/-- Once a block is off the stack, its lines are taken or lost. -/
lemma deliver_cases (b : Builder) (scope : Scope) (block : Block) :
    (b.Takes scope.exit ∧ deliver scope block b = (.ok (), b.receive scope.exit block)) ∨
      (b.block b.current).closed = true ∧ ∃ e, deliver scope block b = (.error e, b) := by
  cases hopen : (b.block b.current).closed with
  | false => exact .inl ⟨.inl hopen, deliver_of_open hopen⟩
  | true =>
    by_cases halt : ∃ owner slot, scope.exit = .alternative owner slot
    · obtain ⟨owner, slot, he⟩ := halt
      exact .inl ⟨.inr ⟨owner, slot, he⟩, deliver_alternative he⟩
    · refine .inr ⟨rfl, _, deliver_of_closed hopen ?_⟩
      exact fun owner slot he => halt ⟨owner, slot, he⟩

/-- A leaving succeeds, or loses the lines of the block, or does nothing at all. -/
lemma leave_cases (b : Builder) (scope : Scope) :
    (b.current = scope.block ∧ (b.block b.current).closed = false ∧ b.quit.Takes scope.exit ∧
      ∃ journal, leave scope b =
        (.ok (), (b.quit.receive scope.exit (b.block b.current)).aside b.timers journal)) ∨
    (b.current = scope.block ∧ (b.quit.block b.quit.current).closed = true ∧
      ∃ e journal, leave scope b = (.error e, b.quit.aside b.timers journal)) ∨
    ∃ e, leave scope b = (.error e, b) := by
  by_cases hcur : b.current = scope.block
  · cases hopen : (b.block b.current).closed with
    | false =>
      obtain ⟨journal, he⟩ := leave_of_open scope hcur hopen
      rcases deliver_cases (b.quit.aside b.timers journal) scope (b.block b.current) with
        ⟨htakes, hd⟩ | ⟨hclosed, e, hd⟩
      · rw [Builder.receive_aside] at hd
        exact .inl ⟨hcur, rfl, htakes, journal, he.trans hd⟩
      · exact .inr (.inl ⟨hcur, hclosed, e, journal, he.trans hd⟩)
    | true => exact .inr (.inr ⟨_, leave_of_closed scope hcur hopen⟩)
  · exact .inr (.inr ⟨_, leave_of_ne scope hcur⟩)

/-- However a leaving ends, the scope is gone. -/
lemma changes_leave (b : Builder) (before after : List Scope) (scope : Scope) :
    Changes ⟨b, before ++ scope :: after⟩ ((leave scope).ledgerOf (fun _ _ => b.frame) b)
      ⟨(leave scope b).2, before ++ after⟩ := by
  rcases leave_cases b scope with
    ⟨hcur, hopen, htakes, journal, he⟩ | ⟨hcur, hclosed, e, journal, he⟩ | ⟨e, he⟩
  · rw [ledgerOf_of_ok he, he]
    simpa using (Change.leave hcur hopen htakes).changes.trans (Change.aside _ _ b.timers journal).changes
  · rw [ledgerOf_of_error he, he]
    exact (Change.lose hcur hclosed).changes.trans (Change.aside _ _ b.timers journal).changes
  · rw [ledgerOf_of_error he, he]
    exact (Change.drop ..).changes

end Build

namespace Program

open Build

lemma keeps_ledgerInside {enter : Build Scope} {body : Build Unit} {rest : Unit → Build Unit}
    {bodyLedger restLedger : Builder → List Entry} (henter : enter.Enters)
    (hbody : body.Keeps bodyLedger) (hrest : (rest ()).Keeps restLedger) :
    (enter >>= fun scope => body >>= fun _ => leave scope >>= rest).Keeps
      (ledgerInside enter body bodyLedger restLedger) := by
  intro b scopes
  unfold ledgerInside
  rcases henter b scopes with ⟨scope, b₁, he, hchanges⟩ | ⟨e, b₁, he, hchanges⟩
  · rw [ledgerOf_of_ok he, bind_of_ok he]
    refine hchanges.trans ((hbody b₁ (scope :: scopes)).trans ?_)
    cases hrun : body b₁ with
    | mk outcome b₂ =>
      cases outcome with
      | error e =>
        rw [ledgerOf_of_error hrun, bind_of_error hrun]
        -- The failure leaves the block open, and its scope is gone.
        exact (Change.drop b₂ [] scopes scope).changes
      | ok =>
        rw [ledgerOf_of_ok hrun, bind_of_ok hrun]
        have hleave := changes_leave b₂ [] scopes scope
        cases hdone : leave scope b₂ with
        | mk outcome b₃ =>
          cases outcome with
          | error e =>
            rw [ledgerOf_of_error hdone, hdone] at hleave
            rw [ledgerOf_of_error hdone, bind_of_error hdone]
            exact hleave
          | ok =>
            rw [ledgerOf_of_ok hdone, hdone] at hleave
            rw [ledgerOf_of_ok hdone, bind_of_ok hdone]
            exact hleave.trans (hrest b₃ scopes)
  · rw [ledgerOf_of_error he, bind_of_error he]
    exact hchanges

lemma keeps_ledger (p : Program) : p.run.Keeps p.ledger := by
  induction p with
  | nil => exact fun b scopes => .refl _
  | emit d rest ih =>
    intro b scopes
    have hemit := keeps_emit d b scopes
    rw [run, ledger]
    cases hrun : Build.emit d b with
    | mk outcome b₁ =>
      dsimp only at hemit
      cases outcome with
      | error e =>
        rw [ledgerOf_of_error hrun, hrun] at hemit
        rw [ledgerOf_of_error hrun, bind_of_error hrun]
        exact hemit
      | ok =>
        rw [ledgerOf_of_ok hrun, hrun] at hemit
        rw [ledgerOf_of_ok hrun, bind_of_ok hrun]
        exact hemit.trans (ih b₁ scopes)
  | note record rest ih =>
    intro b scopes
    exact (keeps_note record b scopes).trans (ih _ scopes)
  | fail failure => exact fun b scopes => .refl _
  | branch test body rest ihBody ih =>
    exact keeps_ledgerInside (enters_enterIf test) ihBody ih
  | choice test body alternative rest ihBody ihAlternative ih =>
    exact keeps_ledgerInside (enters_enterIf test) ihBody
      (keeps_ledgerInside enters_enterElse ihAlternative ih)
  | fold name body rest ihBody ih =>
    exact keeps_ledgerInside (enters_enterFold name) ihBody ih

end Program

namespace Session

variable {s : Session}

def site (s : Session) : Site := ⟨s.builder, s.scopes.map Prod.snd⟩

structure Sound (s : Session) : Prop where
  site : s.site.Sound
  names : ∀ entry ∈ s.names, 0 < entry.2 ∧ entry.2 < s.builder.blocks.length

lemma Sound.start : Session.start.Sound := ⟨Site.Sound.start, by simp [Session.start, Session.on]⟩

lemma Sound.find? (h : s.Sound) {name : String} {id : Nat} (hid : s.find? name = some id) :
    0 < id ∧ id < s.builder.blocks.length := by
  obtain ⟨before, after, hnames, -⟩ := List.lookup_eq_some_iff.mp hid
  exact h.names (name, id) (by simp [hnames])

lemma scopes_of_find? {name : Option String} {entry : String × Scope}
    (h : s.scopes.find? (isMeant name) = some entry) : ∃ before after,
      s.site.scopes = before ++ entry.2 :: after ∧
      (s.scopes.eraseP (isMeant name)).map Prod.snd = before ++ after := by
  obtain ⟨hmeant, before, after, hscopes, hbefore⟩ := List.find?_eq_some_iff_append.mp h
  refine ⟨before.map Prod.snd, after.map Prod.snd, by simp [site, hscopes], ?_⟩
  have hnot : ∀ e ∈ before, ¬ isMeant name e = true := by simpa using hbefore
  rw [hscopes, List.eraseP_append_right _ hnot, List.eraseP_cons_of_pos hmeant, List.map_append]

end Session

lemma Run.changes_enter {action : Build Scope} (h : action.Enters) (name : Option String)
    (s : Session) : Changes s.site [] (enter name action s).2.site := by
  rcases h s.builder s.site.scopes with ⟨scope, b, he, hchanges⟩ | ⟨e, b, he, hchanges⟩
  · rw [enter_of_ok he]
    exact hchanges
  · rw [enter_of_error he]
    exact hchanges

lemma Build.changes_extend {b : Builder} {scopes : List Scope} (hs : Site.Sound ⟨b, scopes⟩) {id : Nat}
    (hpos : 0 < id) (hlt : id < b.blocks.length) (line : String) :
    Changes ⟨b, scopes⟩ ((extend id [.line line]).ledgerOf
      (fun _ _ => [⟨false, b.indentationAt id, line⟩]) b) ⟨(extend id [.line line] b).2, scopes⟩ := by
  cases hopen : (b.block id).closed with
  | false =>
    have he : extend id [.line line] b = (.ok (), b.put id [.line line]) := extend_of_open hopen
    rw [ledgerOf_of_ok he, he]
    exact (Change.put [line] (.inr (hs.mem_stack hpos hlt hopen)) hopen).changes
  | true =>
    have he := extend_of_closed hopen (List.cons_ne_nil (Node.line line) [])
    rw [ledgerOf_of_error he, he]
    exact .refl _

lemma Build.changes_close {b : Builder} {id : Nat} (hlt : id < b.blocks.length) (scopes : List Scope) :
    Changes ⟨b, scopes⟩ [] ⟨(close id b).2, scopes⟩ := by
  cases hopen : (b.block id).closed with
  | false =>
    rw [close_of_open hopen]
    exact (Change.shut hlt hopen).changes
  | true =>
    rw [close_of_closed hopen]
    exact .refl _

lemma Build.changes_compile {b : Builder} {scopes : List Scope} (hs : Site.Sound ⟨b, scopes⟩) :
    Changes ⟨b, scopes⟩ [] ⟨(compile b).2, scopes⟩ := by
  by_cases hstack : b.stack = []
  · cases hopen : (b.block Builder.rootId).closed with
    | false =>
      rw [compile_of_open hstack hopen]
      exact (Change.shut hs.root hopen).changes
    | true =>
      rw [compile_of_closed hstack hopen]
      exact .refl _
  · rw [compile_of_stack hstack]
    exact .refl _

/-- What a step does to a session is a run of changes, with the lines that the ledger has. -/
theorem Step.changes {s : Session} (hs : s.Sound) (step : Step) :
    Changes s.site (step.ledger s) (step.run s).2.site := by
  cases step with
  | emit item =>
    simp only [Step.ledger, Step.run]
    cases item.check with
    | ok d =>
      dsimp only
      rw [Run.quietly_apply]
      exact Build.keeps_emit d s.builder s.site.scopes
    | error failure => exact .refl _
  | program p =>
    simp only [Step.ledger, Step.run]
    rw [Run.quietly_apply]
    exact p.keeps_ledger s.builder s.site.scopes
  | enterIf test name => exact Run.changes_enter (Build.enters_enterIf test) name s
  | enterElse name => exact Run.changes_enter Build.enters_enterElse name s
  | enterFold header name => exact Run.changes_enter (Build.enters_enterFold header) name s
  | leave name =>
    simp only [Step.ledger, Step.run]
    cases hfind : s.scopes.find? (Session.isMeant name) with
    | none =>
      rw [Run.leaving_of_none hfind]
      exact .refl _
    | some entry =>
      obtain ⟨before, after, hscopes, herase⟩ := Session.scopes_of_find? hfind
      rw [Run.leaving_of_some hfind, Run.quietly_apply]
      have hleave := Build.changes_leave s.builder before after entry.2
      rw [← hscopes, ← herase] at hleave
      exact hleave
  | abandon name =>
    simp only [Step.ledger, Step.run]
    cases hfind : s.scopes.find? (Session.isMeant name) with
    | none =>
      rw [Run.leaving_of_none hfind]
      exact .refl _
    | some entry =>
      obtain ⟨before, after, hscopes, herase⟩ := Session.scopes_of_find? hfind
      rw [Run.leaving_of_some hfind]
      have hdrop := (Change.drop s.builder before after entry.2).changes
      rw [← hscopes, ← herase] at hdrop
      exact hdrop
  | append name line =>
    simp only [Step.ledger, Step.run]
    cases hfind : s.find? name with
    | none =>
      rw [Run.about_of_none hfind]
      exact .refl _
    | some id =>
      rw [Run.about_of_some hfind, Run.quietly_apply]
      obtain ⟨hpos, hlt⟩ := hs.find? hfind
      exact Build.changes_extend hs.site hpos hlt line
  | close name =>
    simp only [Step.ledger, Step.run]
    cases hfind : s.find? name with
    | none =>
      rw [Run.about_of_none hfind]
      exact .refl _
    | some id =>
      rw [Run.about_of_some hfind, Run.quietly_apply]
      exact Build.changes_close (hs.find? hfind).2 s.site.scopes
  | inspect name =>
    simp only [Step.ledger, Step.run]
    cases hfind : s.find? name with
    | none =>
      rw [Run.about_of_none hfind]
      exact .refl _
    | some id =>
      rw [Run.about_of_some hfind]
      exact .refl _
  | failedTest => exact .refl _
  | compile =>
    have hcompile := Build.changes_compile hs.site
    simp only [Step.ledger, Step.run]
    cases hrun : Build.compile s.builder with
    | mk outcome b =>
      rw [hrun] at hcompile
      have hbuild : Run.build Build.compile s = (outcome, { s with builder := b }) := by
        rw [Run.build_apply, hrun]
      cases outcome with
      | error e =>
        rw [bind_of_error hbuild]
        exact hcompile
      | ok text =>
        rw [bind_of_ok hbuild]
        exact hcompile

lemma Change.length_le {s s' : Site} {es : List Entry} (h : Change s es s') :
    s.builder.blocks.length ≤ s'.builder.blocks.length := by
  cases h with
  | leave =>
    rw [Builder.length_receive]
    exact (Builder.length_update ..).ge
  | _ => simp [Builder.put, Builder.shut, Builder.marked, Builder.push, Builder.quit, Builder.pop]

lemma Changes.length_le {s s' : Site} {es : List Entry} (h : Changes s es s') :
    s.builder.blocks.length ≤ s'.builder.blocks.length := by
  induction h with
  | refl => exact le_rfl
  | step first _ ih => exact first.length_le.trans ih

namespace Session

variable {s : Session}

lemma names_enter {action : Build Scope} {name : Option String} {entry : String × Nat}
    (h : entry ∈ (Run.enter name action s).2.names) :
    entry ∈ s.names ∨ entry.2 ∈ (Run.enter name action s).2.site.scopes.map Scope.block := by
  cases hrun : action s.builder with
  | mk outcome b =>
    cases outcome with
    | error e =>
      rw [Run.enter_of_error hrun] at h
      exact .inl h
    | ok scope =>
      rw [Run.enter_of_ok hrun] at h ⊢
      rcases List.mem_cons.mp h with rfl | hold
      · exact .inr (List.mem_cons_self ..)
      · exact .inl (List.mem_of_mem_filter hold)

lemma names_run (step : Step) {entry : String × Nat} (h : entry ∈ (step.run s).2.names) :
    entry ∈ s.names ∨ entry.2 ∈ (step.run s).2.site.scopes.map Scope.block := by
  cases step with
  | enterIf test name => exact names_enter h
  | enterElse name => exact names_enter h
  | enterFold header name => exact names_enter h
  | emit item =>
    rw [Step.run] at h
    cases hitem : item.check with
    | ok d =>
      rw [hitem] at h
      exact .inl (keepsNames_quietly _ s ▸ h)
    | error failure =>
      rw [hitem] at h
      exact .inl h
  | program p => exact .inl (keepsNames_quietly _ s ▸ h)
  | leave name =>
    exact .inl (keepsNames_leaving (fun _ => keepsNames_quietly _) s ▸ h)
  | abandon name =>
    exact .inl (keepsNames_leaving (fun _ => keepsNames_pure _) s ▸ h)
  | append name line =>
    exact .inl (keepsNames_about (fun _ => keepsNames_quietly _) s ▸ h)
  | close name =>
    exact .inl (keepsNames_about (fun _ => keepsNames_quietly _) s ▸ h)
  | inspect name =>
    have hstep : KeepsNames (Step.inspect name).run := keepsNames_about fun _ _ => rfl
    exact .inl (hstep s ▸ h)
  | failedTest => exact .inl h
  | compile => exact .inl ((keepsNames_build _).bind (fun _ => keepsNames_pure _) s ▸ h)

theorem Sound.step (h : s.Sound) (step : Step) : (step.run s).2.Sound := by
  have hchanges := step.changes h
  have hsite := hchanges.sound h.site
  refine ⟨hsite, fun entry hentry => ?_⟩
  rcases names_run step hentry with hold | hnew
  · obtain ⟨hpos, hlt⟩ := h.names entry hold
    exact ⟨hpos, hlt.trans_le hchanges.length_le⟩
  · have hmem := hsite.sublist.subset hnew
    exact ⟨hsite.pos _ hmem, hsite.lt _ hmem⟩

theorem Sound.after (h : s.Sound) (steps : List Step) : (s.after steps).Sound := by
  induction steps generalizing s with
  | nil => exact h
  | cons step rest ih => exact ih (h.step step)

/-- A run of steps is a run of changes, with the lines of its ledger. -/
theorem Sound.changes (h : s.Sound) (steps : List Step) :
    Changes s.site (s.ledger steps) (s.after steps).site := by
  induction steps generalizing s with
  | nil => exact .refl _
  | cons step rest ih => exact (step.changes h).trans (ih (h.step step))

lemma ledger_append (s : Session) (steps rest : List Step) :
    s.ledger (steps ++ rest) = s.ledger steps ++ (s.after steps).ledger rest := by
  induction steps generalizing s with
  | nil => rfl
  | cons step steps ih => simp [ledger, ih]

end Session

end JobScript.Shell
