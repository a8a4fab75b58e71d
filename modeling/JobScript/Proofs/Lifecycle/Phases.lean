import JobScript.Lifecycle.Compile
import JobScript.Proofs.Shell.Sequence
import JobScript.Proofs.Shell.FailStop

/-! # Phases of a script

Each phase puts into the script what its hook puts into a script of its own, under a line with the
name of the phase. No hook can tell what came before it, but for the number of timed commands. -/

namespace JobScript

open Shell

namespace Shell

namespace Builder

/-- A new builder of a script that so many timed commands come before. -/
def startAfter (timers : Nat) : Builder := { start with timers := timers }

lemma isReady_startAfter (timers : Nat) : (startAfter timers).IsReady := ⟨Nat.zero_lt_one, rfl⟩

/-- No block is open but the root, and that has these nodes. -/
structure Holds (b : Builder) (nodes : List Node) (timers : Nat) : Prop where
  stack : b.stack = []
  timers : b.timers = timers
  nonempty : 0 < b.blocks.length
  root : b.block rootId = (Block.start .root "").add nodes

namespace Holds

variable {b own : Builder} {nodes : List Node} {timers shift : Nat}

lemma start : Builder.start.Holds [] 0 := ⟨rfl, rfl, Nat.zero_lt_one, rfl⟩

lemma current (h : b.Holds nodes timers) : b.current = rootId := by
  rw [Builder.current, h.stack]
  rfl

lemma isOpen (h : b.Holds nodes timers) : (b.block b.current).closed = false := by
  rw [h.current, h.root]
  rfl

lemma aside (h : b.Holds nodes timers) (journal : List Log.Record) :
    (b.aside b.timers journal).Holds nodes timers := ⟨h.stack, h.timers, h.nonempty, h.root⟩

lemma put (h : b.Holds nodes timers) (more : List Node) :
    (b.put b.current more).Holds (nodes ++ more) timers := by
  refine ⟨h.stack, h.timers, ?_, ?_⟩
  · rw [Builder.put, length_update]
    exact h.nonempty
  · have hlt : rootId < b.blocks.length := h.nonempty
    rw [h.current, Builder.put, block_update_self _ hlt, h.root]
    simp [Block.add]

/-- A hook finds what a new builder has, after the nodes that are there. -/
lemma continues (h : b.Holds nodes timers) :
    b.Continues nodes (b.blocks.length - 1) (startAfter timers) := by
  have hnonempty := h.nonempty
  have hroot : (startAfter timers).block rootId = Block.start .root "" := rfl
  refine ⟨h.stack, h.timers, ?_, fun id => ?_, ?_, Nat.zero_lt_one, by simp [startAfter, Builder.start]⟩
  · show b.blocks.length = 1 + (b.blocks.length - 1)
    omega
  · by_cases hid : id = rootId
    · subst id
      rw [moved_root, front_root, h.root, hroot]
      simp [Block.add, Block.behind]
    · have hpos : 0 < id := Nat.pos_of_ne_zero hid
      have hnone : b.blocks[id + (b.blocks.length - 1)]? = none := List.getElem?_eq_none (by omega)
      have hnone' : (startAfter timers).blocks[id]? = none :=
        List.getElem?_eq_none (show 1 ≤ id from hpos)
      rw [moved_of_pos hpos, front_of_pos hpos, Block.behind_nil, Builder.block, Builder.block, hnone, hnone']
  · rw [hroot]
    rfl

lemma of_continues (h : b.Continues nodes shift own) (hstack : own.stack = []) :
    b.Holds (nodes ++ (own.block rootId).nodes) own.timers := by
  refine ⟨?_, h.timers, ?_, ?_⟩
  · rw [h.stack, hstack]
    rfl
  · have hlength := h.length
    have hnonempty := h.nonempty
    omega
  · have hblock := h.block rootId
    rw [moved_root, front_root, h.root] at hblock
    rw [hblock]
    simp [Block.add, Block.behind]

end Holds

end Builder

lemma Session.Sound.changes_steps {s : Session} (hs : s.Sound) (steps : List Step) :
    ∃ es, Changes s.site es (Run.steps steps s).2.site := by
  induction steps generalizing s with
  | nil => exact ⟨[], .refl _⟩
  | cons step rest ih =>
    have hdiscard := Run.discard_apply step.run s
    rw [Run.steps_cons]
    cases hrun : (step.run s).1 with
    | error e =>
      rw [hrun] at hdiscard
      rw [bind_of_error hdiscard]
      exact ⟨_, step.changes hs⟩
    | ok reply =>
      rw [hrun] at hdiscard
      rw [bind_of_ok hdiscard]
      obtain ⟨es, hrest⟩ := ih (hs.step step)
      exact ⟨_, (step.changes hs).trans hrest⟩

lemma changes_drop_all (b : Builder) (scopes : List Scope) : Changes ⟨b, scopes⟩ [] ⟨b, []⟩ := by
  induction scopes with
  | nil => exact .refl _
  | cons scope rest ih => exact (Change.drop b [] rest scope).changes.trans ih

/-- An action that comes to changes; the scopes of the blocks that it leaves open are gone. -/
def Build.ComesToChanges (action : Build Unit) : Prop :=
  ∀ b, Site.Sound ⟨b, []⟩ → ∃ es, Changes ⟨b, []⟩ es ⟨(action b).2, []⟩

namespace Build

lemma ComesToChanges.bind {x : Build Unit} {k : Unit → Build Unit} (hx : ComesToChanges x)
    (hk : ComesToChanges (k ())) : ComesToChanges (x >>= k) := by
  intro b hs
  obtain ⟨es, hchanges⟩ := hx b hs
  cases hrun : x b with
  | mk outcome b' =>
    rw [hrun] at hchanges
    cases outcome with
    | error e =>
      rw [bind_of_error hrun]
      exact ⟨es, hchanges⟩
    | ok =>
      rw [bind_of_ok hrun]
      obtain ⟨es', hchanges'⟩ := hk b' (hchanges.sound hs)
      exact ⟨_, hchanges.trans hchanges'⟩

lemma comesToChanges_runSteps (steps : List Step) : ComesToChanges (runSteps steps) := by
  intro b hb
  have hs : (Session.on b).Sound := ⟨hb, by simp [Session.on]⟩
  obtain ⟨es, hsteps⟩ := hs.changes_steps steps
  exact ⟨_, hsteps.trans (changes_drop_all _ _)⟩

end Build

end Shell

namespace Lifecycle

variable (adapter : Adapter) (config : Config)

def stepsOf (phase : Phase) : List Step := (hookOf adapter config phase).steps config

/-- How many timed commands some phases have. -/
def timersOf (phases : List Phase) : Nat :=
  (phases.map fun phase => stepTimers (stepsOf adapter config phase)).sum

/-- How many timed commands come before a phase. -/
def timersBefore (phase : Phase) : Nat := timersOf adapter config (Phase.all.takeWhile (· ≠ phase))

/-- What the hook of a phase comes to in a script of its own. -/
def alone (phase : Phase) : Except Failure Unit × Builder :=
  runHook adapter config phase (.startAfter (timersBefore adapter config phase))

/-- In a script of its own, the hook of a phase neither fails nor leaves a block open. -/
structure IsProper (phase : Phase) : Prop where
  outcome : (alone adapter config phase).1 = .ok ()
  stack : (alone adapter config phase).2.stack = []

def nodesOf (phase : Phase) : List Node :=
  .line ("# " ++ phase.name) :: ((alone adapter config phase).2.block Builder.rootId).nodes

/-- The name of a phase, and the lines of its hook in a script of its own. -/
def linesOf (phase : Phase) : List String :=
  ("# " ++ phase.name) :: ((alone adapter config phase).2.block Builder.rootId).lines

/-- Every hook leaves the compilation to the lifecycle. -/
def LeavesCompilation : Prop := ∀ phase, .compile ∉ stepsOf adapter config phase

variable {adapter config} {before after : List Phase} {phase : Phase} {b : Builder} {nodes : List Node}

lemma timersOf_snoc (before : List Phase) (phase : Phase) : timersOf adapter config (before ++ [phase]) =
    timersOf adapter config before + stepTimers (stepsOf adapter config phase) := by
  simp [timersOf]

lemma timersBefore_eq (h : before ++ phase :: after = Phase.all) :
    timersBefore adapter config phase = timersOf adapter config before := by
  have hnodup : (before ++ phase :: after).Nodup := by
    rw [h]
    decide
  have hnot : ∀ p ∈ before, decide (p ≠ phase) = true := by
    intro p hp
    have hne := (List.nodup_append.mp hnodup).2.2 p hp phase (List.mem_cons_self ..)
    simpa using hne
  rw [timersBefore, ← h, List.takeWhile_append_of_pos hnot, List.takeWhile_cons_of_neg (by simp),
    List.append_nil]

lemma render_heading (phase : Phase) (timer : Int) :
    (Directive.raw s!"# {phase.name}").render timer = ["# " ++ phase.name] := by
  cases phase <;> rfl

/-- A phase runs its hook after its heading. -/
lemma runPhase_of_holds {timers : Nat} (phase : Phase) (hb : b.Holds nodes timers) :
    ∃ b', runPhase adapter config phase b = runHook adapter config phase b' ∧
      b'.Holds (nodes ++ [.line ("# " ++ phase.name)]) timers := by
  obtain ⟨b₁, hnote, hb₁⟩ : ∃ b₁, Build.note (Log.debug log
      s!"Phase {phase.name} → {(hookOf adapter config phase).name}") b = (.ok (), b₁) ∧
      b₁.Holds nodes timers := ⟨_, rfl, hb.aside _⟩
  obtain ⟨journal, hemit⟩ := Build.emit_of_open (d := .raw s!"# {phase.name}") hb₁.isOpen
  rw [render_heading] at hemit
  have hb₂ := (hb₁.put [.line ("# " ++ phase.name)]).aside journal
  refine ⟨_, ?_, hb₂⟩
  rw [runPhase, bind_of_ok hnote, bind_of_ok hemit]
  rfl

/-- A phase ends as its hook alone does, with what it puts in after all that is there. -/
lemma endAlike_runPhase (hcompile : LeavesCompilation adapter config)
    (hb : b.Holds nodes (timersBefore adapter config phase)) : ∃ shift,
    Build.EndAlike (nodes ++ [.line ("# " ++ phase.name)]) shift (runPhase adapter config phase b)
      (alone adapter config phase) := by
  obtain ⟨b', hrun, hb'⟩ := runPhase_of_holds phase hb
  rw [hrun]
  exact ⟨_, alike_runSteps (settled_append_line nodes _) (hcompile phase) _ _ hb'.continues⟩

lemma timers_alone (h : IsProper adapter config phase) : (alone adapter config phase).2.timers =
    timersBefore adapter config phase + stepTimers (stepsOf adapter config phase) :=
  counts_runSteps _ _ () _ (Prod.ext h.outcome rfl)

lemma holds_runPhase (hcompile : LeavesCompilation adapter config) (hproper : IsProper adapter config phase)
    (hb : b.Holds nodes (timersBefore adapter config phase)) :
    ∃ b', runPhase adapter config phase b = (.ok (), b') ∧
      b'.Holds (nodes ++ nodesOf adapter config phase)
        (timersBefore adapter config phase + stepTimers (stepsOf adapter config phase)) := by
  obtain ⟨shift, houtcome, hcontinues⟩ := endAlike_runPhase hcompile hb
  refine ⟨_, Prod.ext (houtcome.trans hproper.outcome) rfl, ?_⟩
  have hholds := Builder.Holds.of_continues hcontinues hproper.stack
  rw [timers_alone hproper, List.append_assoc] at hholds
  exact hholds

/-- Proper phases run one after the other, and put their nodes in one after the other. -/
theorem holds_phases (hcompile : LeavesCompilation adapter config) {phases : List Phase}
    (h : before ++ (phases ++ after) = Phase.all) (hproper : ∀ phase ∈ phases, IsProper adapter config phase)
    (hb : b.Holds nodes (timersOf adapter config before)) :
    ∃ b', phases.forM (runPhase adapter config) b = (.ok (), b') ∧
      b'.Holds (nodes ++ phases.flatMap (nodesOf adapter config))
        (timersOf adapter config (before ++ phases)) := by
  induction phases generalizing before b nodes with
  | nil =>
    refine ⟨b, rfl, ?_⟩
    simpa using hb
  | cons phase rest ih =>
    obtain ⟨hphase, hrest⟩ := List.forall_mem_cons.mp hproper
    rw [← timersBefore_eq h] at hb
    obtain ⟨b₁, hrun, hb₁⟩ := holds_runPhase hcompile hphase hb
    rw [timersBefore_eq h, ← timersOf_snoc] at hb₁
    obtain ⟨b', hrun', hb'⟩ := ih (by simpa using h) hrest hb₁
    refine ⟨b', (bind_of_ok hrun).trans hrun', ?_⟩
    simpa using hb'

/-- A phase whose hook fails alone fails in the script, with the same failure. -/
lemma forM_of_error (hcompile : LeavesCompilation adapter config) (h : before ++ phase :: after = Phase.all)
    (hproper : ∀ phase ∈ before, IsProper adapter config phase) {e : Failure}
    (herror : (alone adapter config phase).1 = .error e) :
    (Phase.all.forM (runPhase adapter config) .start).1 = .error e := by
  have hall : [] ++ (before ++ phase :: after) = Phase.all := h
  obtain ⟨b, hrun, hb⟩ := holds_phases hcompile hall hproper .start
  rw [List.nil_append, List.nil_append, ← timersBefore_eq h] at hb
  obtain ⟨shift, houtcome, -⟩ := endAlike_runPhase hcompile hb
  have hsplit : Phase.all.forM (runPhase adapter config) =
      (do before.forM (runPhase adapter config); (phase :: after).forM (runPhase adapter config)) := by
    rw [← h]
    exact List.forM_append
  rw [hsplit, bind_of_ok hrun]
  exact congrArg Prod.fst (bind_of_fst_error (houtcome.trans herror))

lemma comesToChanges_runPhase (phase : Phase) : Build.ComesToChanges (runPhase adapter config phase) := by
  have hnote : Build.ComesToChanges (Build.note
      (Log.debug log s!"Phase {phase.name} → {(hookOf adapter config phase).name}")) :=
    fun b _ => ⟨_, Build.keeps_note _ b []⟩
  have hemit : Build.ComesToChanges (Build.emit (.raw s!"# {phase.name}")) :=
    fun b _ => ⟨_, Build.keeps_emit _ b []⟩
  exact hnote.bind (hemit.bind (Build.comesToChanges_runSteps _))

lemma comesToChanges_phases (phases : List Phase) :
    Build.ComesToChanges (phases.forM (runPhase adapter config)) := by
  induction phases with
  | nil => exact fun b _ => ⟨[], .refl _⟩
  | cons phase rest ih => exact (comesToChanges_runPhase phase).bind ih

/-- If nothing is open in the end, no hook left anything open: a later one cannot leave its blocks. -/
theorem isProper_of_intact (hcompile : LeavesCompilation adapter config) {phases : List Phase}
    (h : before ++ phases = Phase.all) (hb : b.Holds nodes (timersOf adapter config before))
    (hs : Site.Sound ⟨b, []⟩) {b' : Builder}
    (hrun : phases.forM (runPhase adapter config) b = (.ok (), b')) (hi : Site.Intact ⟨b', []⟩) :
    ∀ phase ∈ phases, IsProper adapter config phase := by
  induction phases generalizing before b nodes with
  | nil => simp
  | cons phase rest ih =>
    rw [← timersBefore_eq h] at hb
    obtain ⟨shift, houtcome, hcontinues⟩ := endAlike_runPhase hcompile hb
    obtain ⟨es, hchanges⟩ := @comesToChanges_runPhase adapter config phase b hs
    cases hfirst : runPhase adapter config phase b with
    | mk outcome b₁ =>
      rw [hfirst] at houtcome hcontinues hchanges
      cases outcome with
      | error e =>
        have hfail := (bind_of_error hfirst).symm.trans hrun
        cases hfail
      | ok =>
        have hrest : rest.forM (runPhase adapter config) b₁ = (.ok (), b') :=
          (bind_of_ok hfirst).symm.trans hrun
        have hsound := hchanges.sound hs
        obtain ⟨es', hlater⟩ := comesToChanges_phases rest b₁ hsound
        rw [hrest] at hlater
        have hnone : b₁.stack = [] := (hlater.intact hsound hi).scopes
        have hstack : (alone adapter config phase).2.stack = [] := by
          have hmoved := hcontinues.stack.symm.trans hnone
          exact List.map_eq_nil_iff.mp hmoved
        have hproper : IsProper adapter config phase := ⟨houtcome.symm, hstack⟩
        have hb₁ := Builder.Holds.of_continues hcontinues hstack
        rw [timers_alone hproper, timersBefore_eq h, ← timersOf_snoc] at hb₁
        exact List.forall_mem_cons.mpr ⟨hproper, ih (by simpa using h) hb₁ hsound hrest⟩

lemma lines_nodes (phases : List Phase) :
    ((phases.flatMap (nodesOf adapter config)).flatMap Node.render) =
      phases.flatMap (linesOf adapter config) := by
  rw [List.flatMap_assoc]
  rfl

lemma mem_all (phase : Phase) : phase ∈ Phase.all := by
  cases phase <;> decide

/-- The text of a script whose phases are all proper. -/
lemma body_of_isProper (hcompile : LeavesCompilation adapter config)
    (hproper : ∀ phase, IsProper adapter config phase) : (body adapter config .start).1 =
      .ok (Text.unlines (Phase.all.flatMap (linesOf adapter config))) := by
  have hall : [] ++ (Phase.all ++ []) = Phase.all := by simp
  obtain ⟨b, hrun, hb⟩ := holds_phases hcompile hall (fun phase _ => hproper phase) .start
  have hroot : (b.block Builder.rootId).closed = false := by
    rw [hb.root]
    rfl
  have hlines : (b.block Builder.rootId).lines = Phase.all.flatMap (linesOf adapter config) := by
    rw [hb.root, Block.lines_add, Block.lines_start, List.nil_append, List.nil_append, lines_nodes]
  rw [body, bind_of_ok hrun, Build.compile_of_open hb.stack hroot, hlines]

lemma isProper_of_body (hcompile : LeavesCompilation adapter config) {text : String}
    (hbody : (body adapter config .start).1 = .ok text) (phase : Phase) : IsProper adapter config phase := by
  cases hrun : Phase.all.forM (runPhase adapter config) .start with
  | mk outcome b =>
    cases outcome with
    | error e =>
      rw [body, bind_of_error hrun] at hbody
      cases hbody
    | ok =>
      rw [body, bind_of_ok hrun] at hbody
      have hstack : b.stack = [] := by
        by_contra hne
        rw [Build.compile_of_stack hne] at hbody
        cases hbody
      have hroot : (b.block Builder.rootId).closed = false := by
        by_contra hclosed
        rw [Build.compile_of_closed hstack (by simpa using hclosed)] at hbody
        cases hbody
      have hi : Site.Intact ⟨b, []⟩ := ⟨hroot, hstack, by simp [hstack]⟩
      have hall : [] ++ Phase.all = Phase.all := rfl
      exact isProper_of_intact hcompile hall .start Site.Sound.start hrun hi phase (mem_all phase)

lemma compile_of_body {text : String} (h : (body adapter config .start).1 = .ok text) :
    (compile adapter config).execute.1 = .ok (script adapter config text) := by
  show (compile adapter config .start).1 = _
  rw [compile, bind_of_fst_ok h]
  rfl

lemma compile_of_body_error {e : Failure} (h : (body adapter config .start).1 = .error e) :
    (compile adapter config).execute.1 = .error e := by
  show (compile adapter config .start).1 = _
  rw [compile, bind_of_fst_error h]

/-- A script is compiled just in case every hook is proper alone. -/
theorem isProper_iff_isOk (hcompile : LeavesCompilation adapter config) :
    (∀ phase, IsProper adapter config phase) ↔ (compile adapter config).execute.1.isOk = true := by
  constructor
  · intro hproper
    rw [compile_of_body (body_of_isProper hcompile hproper)]
    rfl
  · intro hok phase
    cases hbody : (body adapter config .start).1 with
    | error e =>
      rw [compile_of_body_error hbody] at hok
      cases hok
    | ok text => exact isProper_of_body hcompile hbody phase

section Resolution

lemma hookOf_of_hasOwnCommands (h : hasOwnCommands config phase = true) :
    hookOf adapter config phase = defaultHook phase := by
  rw [hookOf, resolve, if_pos h]
  rfl

lemma hookOf_of_not_hasOwnCommands (h : hasOwnCommands config phase = false) :
    hookOf adapter config phase = (adapter.ownHook? phase).getD (defaultHook phase) := by
  rw [hookOf, resolve, h]
  cases adapter.ownHook? phase <;> rfl

lemma compile_notMem_defaultHook (phase : Phase) : .compile ∉ (defaultHook phase).steps config := by
  cases phase <;> simp [defaultHook, Hook.ofProgram]

/-- The standard hooks leave the compilation to the lifecycle, so it is enough that those of the adapter do. -/
lemma leavesCompilation_of_hooks (h : ∀ entry ∈ adapter.hooks, .compile ∉ entry.2.steps config) :
    LeavesCompilation adapter config := by
  intro phase
  rw [stepsOf]
  cases hown : hasOwnCommands config phase with
  | true =>
    rw [hookOf_of_hasOwnCommands hown]
    exact compile_notMem_defaultHook phase
  | false =>
    rw [hookOf_of_not_hasOwnCommands hown]
    cases hhook : adapter.ownHook? phase with
    | none => exact compile_notMem_defaultHook phase
    | some hook =>
      obtain ⟨before, after, hhooks, -⟩ := List.lookup_eq_some_iff.mp hhook
      exact h (phase, hook) (by simp [hhooks])

/-- Only the hooks that are resolved count. -/
lemma compile_congr {hooks : List (Phase × Hook)}
    (h : ∀ phase, hookOf { adapter with hooks := hooks } config phase = hookOf adapter config phase) :
    compile { adapter with hooks := hooks } config = compile adapter config := by
  have hphase : runPhase { adapter with hooks := hooks } config = runPhase adapter config := by
    funext phase
    rw [runPhase, runPhase, runHook, runHook, h phase]
  rw [compile, compile, body, body, hphase]
  rfl

end Resolution

/-- A script is made of what each hook makes of a script of its own, under the names of the phases.
Commands of the configuration, even none at all, stand for the hook of the adapter. -/
theorem compile_eq_phases (adapter : Adapter) (config : Config)
    (hcompile : LeavesCompilation adapter config) :
    ((∀ phase, IsProper adapter config phase) ↔ (compile adapter config).execute.1.isOk = true) ∧
    ((∀ phase, IsProper adapter config phase) → ∃ s, (compile adapter config).execute.1 = .ok s ∧
      s.text = prelude ++ "\n" ++ ("\n".intercalate (Phase.all.flatMap (linesOf adapter config)) ++ "\n")) ∧
    (config.install.isSome = true → hookOf adapter config .install = defaultHook .install) ∧
    (config.script.isSome = true → hookOf adapter config .script = defaultHook .script) ∧
    (∀ phase, hasOwnCommands config phase = true → ∀ hooks : List (Phase × Hook),
      (∀ p ≠ phase, hooks.lookup p = adapter.ownHook? p) →
        compile { adapter with hooks := hooks } config = compile adapter config) ∧
    ∀ phase, hasOwnCommands config phase = false →
      hookOf adapter config phase = (adapter.ownHook? phase).getD (defaultHook phase) := by
  refine ⟨isProper_iff_isOk hcompile, fun hproper => ?_,
    fun h => hookOf_of_hasOwnCommands h, fun h => hookOf_of_hasOwnCommands h,
    fun phase hown hooks hsame => compile_congr fun p => ?_, fun phase => hookOf_of_not_hasOwnCommands⟩
  · exact ⟨_, compile_of_body (body_of_isProper hcompile hproper), rfl⟩
  · by_cases hp : p = phase
    · subst p
      rw [hookOf_of_hasOwnCommands hown, hookOf_of_hasOwnCommands hown]
    · cases hcommands : hasOwnCommands config p with
      | true => rw [hookOf_of_hasOwnCommands hcommands, hookOf_of_hasOwnCommands hcommands]
      | false =>
        rw [hookOf_of_not_hasOwnCommands hcommands, hookOf_of_not_hasOwnCommands hcommands, ← hsame p hp]
        rfl

/-- An adapter whose setup branches, with a timed command in its `if`. -/
def branching : Adapter :=
  { Adapter.generic with
    hooks := [(.setup, ⟨"setup", fun _ =>
      [.enterIf "t" none, .emit (.directive (.command "a" ⟨false, false, false, true, none⟩)), .leave none,
        .enterElse none, .emit (.directive (.raw "b")), .leave none]⟩)] }

def plain : Config := ⟨"generic", none, [], "", [], none, none, [], none⟩

/-- The branches of a setup are closed before the script, whose command has the number after theirs. -/
theorem compile_eq_phases_branches :
    LeavesCompilation branching plain ∧ (∀ phase, IsProper branching plain phase) ∧
    ∃ s, (compile branching plain).execute.1 = .ok s ∧ s.text = prelude ++ "\n" ++ ("\n".intercalate
      (["# export", "export BUILD_LANGUAGE=generic", "# setup", "if t; then", "  build_time_start 1", "  a",
        "  build_result=$?", "  build_time_finish", "else", "  b", "fi", "# announce", "# install", "# script"] ++
        renderCommand "make test" Options.standard 2) ++ "\n") := by
  have hcompile : LeavesCompilation branching plain := by
    refine leavesCompilation_of_hooks ?_
    simp [branching]
  have hok : (compile branching plain).execute.1.isOk = true := by decide +kernel
  have hlines : Phase.all.flatMap (linesOf branching plain) =
      ["# export", "export BUILD_LANGUAGE=generic", "# setup", "if t; then", "  build_time_start 1", "  a",
        "  build_result=$?", "  build_time_finish", "else", "  b", "fi", "# announce", "# install", "# script"] ++
        renderCommand "make test" Options.standard 2 := by decide +kernel
  obtain ⟨hiff, htext, -⟩ := compile_eq_phases branching plain hcompile
  have hproper := hiff.mpr hok
  obtain ⟨s, hs, htext⟩ := htext hproper
  rw [hlines] at htext
  exact ⟨hcompile, hproper, s, hs, htext⟩

end Lifecycle

end JobScript
