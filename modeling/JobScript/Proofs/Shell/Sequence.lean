import JobScript.Proofs.Shell.Continuation

/-! # Sequences of steps

Steps that run until one fails. On a builder that has content already they come to what they come to
on a new one, and they take as many numbers as they have timed commands. -/

namespace JobScript.Shell

namespace Session

/-- A session is where one on a new builder would be after the same steps. -/
structure Continues (before : List Node) (shift : Nat) (s own : Session) : Prop where
  builder : s.builder.Continues before shift own.builder
  names : s.names = own.names.map fun entry => (entry.1, moved shift entry.2)
  scopes : s.scopes = own.scopes.map fun entry => (entry.1, entry.2.moved before shift)
  names_pos : ∀ entry ∈ own.names, 0 < entry.2
  scopes_pos : ∀ entry ∈ own.scopes, 0 < entry.2.block

/-- Two steps have ended alike, and the one session is where the other one would be. -/
structure EndAlike {α : Type} (before : List Node) (shift : Nat) (r own : Except Failure α × Session) :
    Prop where
  outcome : r.1 = own.1
  continues : Continues before shift r.2 own.2

variable {before : List Node} {shift : Nat} {s own : Session}

namespace Continues

lemma on {b own : Builder} (h : b.Continues before shift own) :
    Continues before shift (on b) (Session.on own) :=
  ⟨h, rfl, rfl, by simp [Session.on], by simp [Session.on]⟩

lemma with_builder (h : Continues before shift s own) {b own' : Builder}
    (hb : b.Continues before shift own') :
    Continues before shift { s with builder := b } { own with builder := own' } :=
  ⟨hb, h.names, h.scopes, h.names_pos, h.scopes_pos⟩

lemma find? (h : Continues before shift s own) (name : String) :
    s.find? name = (own.find? name).map (moved shift) := by
  unfold Session.find?
  rw [h.names]
  induction own.names with
  | nil => rfl
  | cons entry rest ih =>
    rw [List.map_cons, List.lookup_cons, List.lookup_cons]
    split
    · rfl
    · exact ih

lemma pos_of_find? (h : Continues before shift s own) {name : String} {id : Nat}
    (hid : own.find? name = some id) : 0 < id := by
  obtain ⟨first, rest, hnames, -⟩ := List.lookup_eq_some_iff.mp hid
  exact h.names_pos (name, id) (by simp [hnames])

lemma nameFor (h : Continues before shift s own) (name : Option String) :
    s.nameFor name = own.nameFor name := by
  unfold Session.nameFor
  rw [h.names, List.length_map]

lemma find?_scopes (h : Continues before shift s own) (name : Option String) :
    s.scopes.find? (isMeant name) =
      (own.scopes.find? (isMeant name)).map fun entry => (entry.1, entry.2.moved before shift) := by
  rw [h.scopes, List.find?_map]
  rfl

lemma enter (h : Continues before shift s own) (name : String) {scope : Scope}
    (hscope : 0 < scope.block) :
    Continues before shift (s.enter name (scope.moved before shift)) (own.enter name scope) := by
  refine ⟨h.builder, ?_, ?_, ?_, ?_⟩
  · show (name, moved shift scope.block) :: s.names.filter (·.1 ≠ name) = _
    rw [h.names, List.filter_map]
    rfl
  · show (name, scope.moved before shift) :: s.scopes = _
    rw [h.scopes]
    rfl
  · intro entry hentry
    rcases List.mem_cons.mp hentry with rfl | hentry
    · exact hscope
    · exact h.names_pos entry (List.mem_of_mem_filter hentry)
  · intro entry hentry
    rcases List.mem_cons.mp hentry with rfl | hentry
    · exact hscope
    · exact h.scopes_pos entry hentry

lemma eraseP (h : Continues before shift s own) (name : Option String) :
    Continues before shift { s with scopes := s.scopes.eraseP (isMeant name) }
      { own with scopes := own.scopes.eraseP (isMeant name) } := by
  refine ⟨h.builder, h.names, ?_, h.names_pos, fun entry hentry => ?_⟩
  · show s.scopes.eraseP (isMeant name) = _
    rw [h.scopes, List.eraseP_map]
    rfl
  · exact h.scopes_pos entry (List.mem_of_mem_eraseP hentry)

end Continues

end Session

namespace Run

open Session

variable {before : List Node} {shift : Nat} {s own : Session}

lemma endAlike_of_eq {α : Type} {x x' : Run α} {outcome : Except Failure α} {s' own' : Session}
    (hs : x s = (outcome, s')) (hown : x' own = (outcome, own')) (h : s'.Continues before shift own') :
    EndAlike before shift (x s) (x' own) := by
  rw [hs, hown]
  exact ⟨rfl, h⟩

lemma endAlike_quietly {action action' : Build Unit} (ha : Build.Alike before shift action action')
    (h : s.Continues before shift own) :
    EndAlike before shift (quietly action s) (quietly action' own) := by
  obtain ⟨houtcome, hnext⟩ := ha _ _ h.builder
  rw [quietly_apply, quietly_apply]
  exact ⟨congrArg (Except.map fun _ => Reply.nothing) houtcome, h.with_builder hnext⟩

lemma endAlike_enter {action : Build Scope} (ha : Build.EntersAlike before shift action)
    (name : Option String) (h : s.Continues before shift own) :
    EndAlike before shift (enter name action s) (enter name action own) := by
  rcases ha _ _ h.builder with ⟨scope, b', own', he, he', hscope, h'⟩ | ⟨e, b', own', he, he', h'⟩
  · have hs : enter name action s = _ := enter_of_ok he
    rw [h.nameFor] at hs
    exact endAlike_of_eq hs (enter_of_ok he') ((h.with_builder h').enter _ hscope)
  · exact endAlike_of_eq (enter_of_error he) (enter_of_error he') (h.with_builder h')

lemma knows (h : s.Continues before shift own) (name : Option String) : s.knows name = own.knows name := by
  cases name with
  | none => rfl
  | some name => exact (congrArg Option.isSome (h.find? name)).trans Option.isSome_map

/-- What a scope is left for happens alike, if there is one to leave. -/
lemma endAlike_leaving {k : Scope → Run Reply} (name : Option String)
    (hk : ∀ scope s own, 0 < scope.block → s.Continues before shift own →
      EndAlike before shift (k (scope.moved before shift) s) (k scope own))
    (h : s.Continues before shift own) :
    EndAlike before shift (leaving name k s) (leaving name k own) := by
  have hfind := h.find?_scopes name
  cases hown : own.scopes.find? (isMeant name) with
  | none =>
    rw [hown] at hfind
    rw [leaving_of_none hfind, leaving_of_none hown, knows h]
    exact ⟨rfl, h⟩
  | some entry =>
    rw [hown] at hfind
    rw [leaving_of_some hfind, leaving_of_some hown]
    exact hk entry.2 _ _ (h.scopes_pos entry (List.mem_of_find?_eq_some hown)) (h.eraseP name)

/-- What the block of a name is needed for happens alike, if there is one. -/
lemma endAlike_about {k : Nat → Run Reply} (name : String)
    (hk : ∀ id, 0 < id → EndAlike before shift (k (moved shift id) s) (k id own))
    (h : s.Continues before shift own) :
    EndAlike before shift (about name k s) (about name k own) := by
  have hfind := h.find? name
  cases hown : own.find? name with
  | none =>
    rw [hown] at hfind
    exact endAlike_of_eq (about_of_none hfind) (about_of_none hown) h
  | some id =>
    rw [hown] at hfind
    rw [about_of_some hfind, about_of_some hown]
    exact hk id (h.pos_of_find? hown)

end Run

open Run in
/-- Every step but the compilation ends as it would on a new builder. -/
theorem Step.endAlike {before : List Node} {shift : Nat} (hbefore : Settled before) {step : Step}
    (hstep : step ≠ .compile) {s own : Session} (h : s.Continues before shift own) :
    Session.EndAlike before shift (step.run s) (step.run own) := by
  cases step with
  | emit item =>
    simp only [Step.run]
    cases item.check with
    | ok d => exact endAlike_quietly (Build.alike_emit d) h
    | error failure => exact ⟨rfl, h⟩
  | program p => exact endAlike_quietly (p.alike_run hbefore) h
  | enterIf test name => exact endAlike_enter (Build.entersAlike_enterIf test) name h
  | enterElse name => exact endAlike_enter (Build.entersAlike_enterElse hbefore) name h
  | enterFold header name => exact endAlike_enter (Build.entersAlike_enterFold header) name h
  | leave name =>
    exact endAlike_leaving name (fun _ _ _ hscope h' => endAlike_quietly (Build.alike_leave hscope) h') h
  | abandon name => exact endAlike_leaving name (fun _ _ _ _ h' => ⟨rfl, h'⟩) h
  | append name line => exact endAlike_about name (fun _ _ => endAlike_quietly (Build.alike_extend _) h) h
  | close name =>
    exact endAlike_about name (fun _ hid => endAlike_quietly (Build.alike_close hid) h) h
  | inspect name =>
    refine endAlike_about name (fun id hid => ⟨?_, h⟩) h
    show Except.ok (Reply.block (s.builder.block (moved shift id))) = .ok (.block (own.builder.block id))
    rw [h.builder.block, front_of_pos hid, Block.behind_nil]
  | failedTest => exact ⟨rfl, h⟩
  | compile => exact absurd rfl hstep

lemma Run.discard_apply (x : Run Reply) (s : Session) :
    (discard x : Run Unit) s = ((x s).1.map fun _ => (), (x s).2) := by
  show (Functor.map (Function.const _ ()) x : Run Unit) s = _
  rw [← bind_pure_comp]
  cases hrun : x s with
  | mk outcome s' =>
    cases outcome with
    | error e => exact bind_of_error hrun
    | ok reply => exact bind_of_ok hrun

/-- Steps in a row, up to the first that fails. -/
def Run.steps (steps : List Step) : Run Unit := steps.forM fun step => discard step.run

namespace Run

lemma steps_cons (step : Step) (rest : List Step) :
    Run.steps (step :: rest) = discard step.run >>= fun _ => Run.steps rest := rfl

lemma endAlike_steps {before : List Node} {shift : Nat} (hbefore : Settled before) {l : List Step}
    (hl : .compile ∉ l) {s own : Session} (h : s.Continues before shift own) :
    Session.EndAlike before shift (Run.steps l s) (Run.steps l own) := by
  induction l generalizing s own with
  | nil => exact ⟨rfl, h⟩
  | cons step rest ih =>
    obtain ⟨hstep, hrest⟩ := not_or.mp (mt List.mem_cons.mpr hl)
    obtain ⟨houtcome, hnext⟩ := step.endAlike hbefore (Ne.symm hstep) h
    have hs := discard_apply step.run s
    have hown := discard_apply step.run own
    rw [houtcome] at hs
    rw [steps_cons]
    cases hrun : (step.run own).1 with
    | error e =>
      rw [hrun] at hs hown
      exact endAlike_of_eq (bind_of_error hs) (bind_of_error hown) hnext
    | ok reply =>
      rw [hrun] at hs hown
      rw [bind_of_ok hs, bind_of_ok hown]
      exact ih hrest hnext

end Run

lemma runSteps_eq (steps : List Step) (b : Builder) :
    runSteps steps b = ((Run.steps steps (Session.on b)).1, (Run.steps steps (Session.on b)).2.builder) :=
  rfl

/-- A step that runs a program does what the program does. -/
lemma runSteps_program (p : Program) (b : Builder) : runSteps [.program p] b = p.run b := by
  have hstep : (Step.program p).run (Session.on b) =
      ((p.run b).1.map fun _ => .nothing, Session.on (p.run b).2) := Run.quietly_apply ..
  have hdiscard := Run.discard_apply (Step.program p).run (Session.on b)
  rw [runSteps_eq, Run.steps_cons]
  rw [hstep] at hdiscard
  cases hrun : p.run b with
  | mk outcome b' =>
    rw [hrun] at hdiscard
    cases outcome with
    | error e =>
      rw [bind_of_error hdiscard]
      rfl
    | ok =>
      rw [bind_of_ok hdiscard]
      rfl

/-- Steps that do not compile come to the same after earlier nodes as in a new builder. -/
theorem alike_runSteps {before : List Node} {shift : Nat} (hbefore : Settled before) {steps : List Step}
    (hsteps : .compile ∉ steps) : Build.Alike before shift (runSteps steps) (runSteps steps) := by
  intro b own h
  obtain ⟨houtcome, hnext⟩ := Run.endAlike_steps hbefore hsteps (Session.Continues.on h)
  exact ⟨houtcome, hnext.builder⟩

section Count

/-- An action that takes so many numbers, unless it fails. -/
def Counts {σ α : Type} (timers : σ → Nat) (action : ExceptT Failure (StateM σ) α) (n : Nat) : Prop :=
  ∀ s a s', action s = (.ok a, s') → timers s' = timers s + n

variable {σ α β : Type} {timers : σ → Nat}

lemma Counts.bind {x : ExceptT Failure (StateM σ) α} {f : α → ExceptT Failure (StateM σ) β} {n m : Nat}
    (hx : Counts timers x n) (hf : ∀ a, Counts timers (f a) m) : Counts timers (x >>= f) (n + m) := by
  intro s b s'' h
  cases hrun : x s with
  | mk outcome s' =>
    cases outcome with
    | error e =>
      rw [bind_of_error hrun] at h
      cases h
    | ok a =>
      rw [bind_of_ok hrun] at h
      rw [hf a s' b s'' h, hx s a s' hrun, Nat.add_assoc]

lemma Counts.of_snd {x : ExceptT Failure (StateM σ) α} {n : Nat}
    (h : ∀ s, timers (x s).2 = timers s + n) : Counts timers x n := by
  intro s a s' hrun
  rw [← h s, hrun]

lemma counts_pure (a : α) : Counts timers (pure a) 0 := .of_snd fun _ => rfl

lemma counts_throw (e : Failure) (n : Nat) :
    Counts timers (throw e : ExceptT Failure (StateM σ) α) n := fun _ _ _ h => by cases h

end Count

namespace Build

lemma timers_extend (id : Nat) (nodes : List Node) (b : Builder) :
    (extend id nodes b).2.timers = b.timers := by
  by_cases hnil : nodes = []
  · subst nodes
    rw [extend_nil]
  cases hclosed : (b.block id).closed with
  | false =>
    rw [extend_of_open hclosed]
    rfl
  | true => rw [extend_of_closed hclosed hnil]

lemma counts_extend (id : Nat) (nodes : List Node) : Counts Builder.timers (extend id nodes) 0 :=
  .of_snd fun b => timers_extend id nodes b

lemma counts_emit (d : Directive) : Counts Builder.timers (emit d) d.timers := by
  refine .of_snd fun b => ?_
  obtain ⟨journal, he⟩ := emit_eq b d
  rw [he, timers_extend]
  rfl

lemma counts_note (record : Log.Record) : Counts Builder.timers (note record) 0 := .of_snd fun _ => rfl

lemma counts_enter (block : Block) : Counts Builder.timers (enter block) 0 := by
  refine .of_snd fun b => ?_
  cases hclosed : (b.block b.current).closed with
  | false =>
    obtain ⟨journal, he⟩ := enter_of_open block hclosed
    rw [he]
    rfl
  | true => rw [enter_of_closed block hclosed, Nat.add_zero]

lemma counts_enterIf (test : String) : Counts Builder.timers (enterIf test) 0 :=
  (counts_enter _).bind fun _ => counts_pure _

lemma counts_enterFold (name : String) : Counts Builder.timers (enterFold name) 0 := by
  unfold enterFold
  split
  · exact (counts_throw _ 0).bind fun _ => (counts_enter _).bind fun _ => counts_pure _
  · exact (counts_enter _).bind fun _ => counts_pure _

lemma counts_enterElse : Counts Builder.timers enterElse 0 := by
  refine .of_snd fun b => ?_
  cases hc : (b.block b.current).pending? with
  | none => rw [enterElse_of_none hc, Nat.add_zero]
  | some c =>
    cases hclosed : (b.block b.current).closed with
    | false =>
      obtain ⟨journal, he⟩ := enterElse_of_open hc hclosed
      rw [he]
      rfl
    | true =>
      rw [enterElse_of_closed hc hclosed]
      rfl

lemma counts_leave (scope : Scope) : Counts Builder.timers (leave scope) 0 := by
  refine .of_snd fun b => ?_
  rcases leave_cases b scope with ⟨-, -, -, journal, he⟩ | ⟨-, -, e, journal, he⟩ | ⟨e, he⟩
  · rw [he]
    rfl
  · rw [he]
    rfl
  · rw [he, Nat.add_zero]

lemma counts_close (id : Nat) : Counts Builder.timers (close id) 0 := by
  refine .of_snd fun b => ?_
  cases hclosed : (b.block id).closed with
  | false =>
    rw [close_of_open hclosed]
    rfl
  | true => rw [close_of_closed hclosed, Nat.add_zero]

lemma counts_compile : Counts Builder.timers compile 0 := by
  refine .of_snd fun b => ?_
  by_cases hstack : b.stack = []
  · cases hclosed : (b.block Builder.rootId).closed with
    | false =>
      rw [compile_of_open hstack hclosed]
      rfl
    | true => rw [compile_of_closed hstack hclosed, Nat.add_zero]
  · rw [compile_of_stack hstack, Nat.add_zero]

end Build

namespace Program

open Build

/-- A program takes a number for each of its timed commands. -/
lemma counts_run (p : Program) : Counts Builder.timers p.run p.timers := by
  induction p with
  | nil => exact counts_pure ()
  | emit d rest ih => exact (counts_emit d).bind fun _ => ih
  | note record rest ih =>
    have h := (counts_note record).bind fun _ => ih
    rwa [Nat.zero_add] at h
  | fail failure => exact counts_throw failure _
  | branch test body rest ihBody ih =>
    have h := (counts_enterIf test).bind fun scope =>
      ihBody.bind fun _ => (counts_leave scope).bind fun _ => ih
    rwa [Nat.zero_add, Nat.zero_add] at h
  | choice test body alternative rest ihBody ihAlternative ih =>
    have h := (counts_enterIf test).bind fun scope =>
      ihBody.bind fun _ => (counts_leave scope).bind fun _ => counts_enterElse.bind fun scope =>
        ihAlternative.bind fun _ => (counts_leave scope).bind fun _ => ih
    rw [Nat.zero_add, Nat.zero_add, Nat.zero_add, Nat.zero_add, ← Nat.add_assoc] at h
    exact h
  | fold name body rest ihBody ih =>
    have h := (counts_enterFold name).bind fun scope =>
      ihBody.bind fun _ => (counts_leave scope).bind fun _ => ih
    rwa [Nat.zero_add, Nat.zero_add] at h

end Program

/-- How many timed commands a step has. -/
def Step.timers : Step → Nat
  | .emit item => match item.check with
    | .ok d => d.timers
    | .error _ => 0
  | .program p => p.timers
  | _ => 0

def stepTimers : List Step → Nat
  | [] => 0
  | step :: rest => step.timers + stepTimers rest

namespace Run

open Session

def timers (s : Session) : Nat := s.builder.timers

lemma counts_build {α : Type} {action : Build α} {n : Nat} (h : Counts Builder.timers action n) :
    Counts timers (build action) n := by
  intro s a s' hrun
  rw [build_apply] at hrun
  obtain ⟨hok, rfl⟩ := Prod.mk.inj hrun
  exact h s.builder a _ (Prod.ext hok rfl)

lemma counts_quietly {action : Build Unit} {n : Nat} (h : Counts Builder.timers action n) :
    Counts timers (quietly action) n :=
  (counts_build h).bind fun _ => counts_pure _

lemma counts_enter {action : Build Scope} (name : Option String) (h : Counts Builder.timers action 0) :
    Counts timers (enter name action) 0 :=
  (counts_build h).bind (m := 0) fun _ => .of_snd fun _ => rfl

lemma counts_leaving {k : Scope → Run Reply} (name : Option String) (hk : ∀ scope, Counts timers (k scope) 0) :
    Counts timers (leaving name k) 0 := by
  intro s a s' hrun
  cases hfind : s.scopes.find? (isMeant name) with
  | none =>
    rw [leaving_of_none hfind] at hrun
    obtain ⟨-, rfl⟩ := Prod.mk.inj hrun
    rfl
  | some entry =>
    rw [leaving_of_some hfind] at hrun
    have hcount := hk entry.2 _ a s' hrun
    exact hcount

lemma counts_about {k : Nat → Run Reply} (name : String) (hk : ∀ id, Counts timers (k id) 0) :
    Counts timers (about name k) 0 := by
  intro s a s' hrun
  cases hfind : s.find? name with
  | none =>
    rw [about_of_none hfind] at hrun
    obtain ⟨-, rfl⟩ := Prod.mk.inj hrun
    rfl
  | some id =>
    rw [about_of_some hfind] at hrun
    exact hk id s a s' hrun

lemma counts_step (step : Step) : Counts timers step.run step.timers := by
  cases step with
  | emit item =>
    simp only [Step.run, Step.timers]
    cases item.check with
    | ok d => exact counts_quietly (Build.counts_emit d)
    | error failure => exact counts_throw failure _
  | program p => exact counts_quietly p.counts_run
  | enterIf test name => exact counts_enter name (Build.counts_enterIf test)
  | enterElse name => exact counts_enter name Build.counts_enterElse
  | enterFold header name => exact counts_enter name (Build.counts_enterFold header)
  | leave name => exact counts_leaving name fun scope => counts_quietly (Build.counts_leave scope)
  | abandon name => exact counts_leaving name fun _ => counts_pure _
  | append name line => exact counts_about name fun id => counts_quietly (Build.counts_extend id _)
  | close name => exact counts_about name fun id => counts_quietly (Build.counts_close id)
  | inspect name => exact counts_about name fun _ => .of_snd fun _ => rfl
  | failedTest => exact counts_pure _
  | compile => exact (counts_build Build.counts_compile).bind fun _ => counts_pure _

lemma counts_steps (steps : List Step) : Counts timers (Run.steps steps) (stepTimers steps) := by
  induction steps with
  | nil => exact counts_pure ()
  | cons step rest ih =>
    have hstep : Counts timers (discard step.run : Run Unit) step.timers := by
      intro s a s' hrun
      rw [discard_apply] at hrun
      obtain ⟨hok, rfl⟩ := Prod.mk.inj hrun
      cases hreply : (step.run s).1 with
      | error e =>
        rw [hreply] at hok
        cases hok
      | ok reply => exact counts_step step s reply _ (Prod.ext hreply rfl)
    exact hstep.bind fun _ => ih

end Run

/-- Steps that do not fail take a number for each of their timed commands. -/
theorem counts_runSteps (steps : List Step) : Counts Builder.timers (runSteps steps) (stepTimers steps) := by
  intro b a b' hrun
  rw [runSteps_eq] at hrun
  obtain ⟨hok, rfl⟩ := Prod.mk.inj hrun
  exact Run.counts_steps steps (Session.on b) a _ (Prod.ext hok rfl)

end JobScript.Shell
