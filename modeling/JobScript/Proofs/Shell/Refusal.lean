import JobScript.Proofs.Shell.Acceptance
import JobScript.Proofs.Shell.Closing

/-! # Refused calls

A call that is refused leaves all that a script is made of as it was. What it may leave behind are a
number and a mark, and these only where everything is compiled already. So a run compiles as if the
refused calls had never been made. -/

namespace JobScript.Shell

/-- What a script shows of a node. That an alternative was opened shows only in its lines. -/
def Node.unmarked : Node → Node
  | .line text => .line text
  | .conditional c => .conditional { c with alternativeOpened := false }

def Block.unmarked (block : Block) : Block := { block with nodes := block.nodes.map Node.unmarked }

/-- The same blocks are open, and every block has the same nodes, down to the lines of the alternatives,
and is as closed as it was. -/
structure Builder.SameScript (b b' : Builder) : Prop where
  stack : b'.stack = b.stack
  blocks : b'.blocks.map Block.unmarked = b.blocks.map Block.unmarked

/-- What a refused call may leave behind: nothing, or, once all is compiled, a number that was taken or
an alternative that counts as opened. -/
inductive Builder.Refused (b : Builder) : Builder → Prop
  | same : Refused b b
  | number (closed : (b.block rootId).closed = true) (timers : Nat) (journal : List Log.Record) :
    Refused b (b.aside timers journal)
  | mark (closed : (b.block rootId).closed = true) : Refused b b.marked

/-- A single call on a builder. Of the programs only the one that puts a directory in front of the search
path is one. -/
def Step.IsCall : Step → Prop
  | .program p => ∃ path, p = prependPath path
  | _ => True

/-- The ways out of a block. -/
def Step.isExit : Step → Bool
  | .leave _ => true
  | .abandon _ => true
  | _ => false

/-- The same steps without some that are refused, ways out of a block apart. -/
inductive Session.LeavesOut : Session → List Step → List Step → Prop
  | nil (s : Session) : LeavesOut s [] []
  | keep {s : Session} {step : Step} {rest kept : List Step} (later : LeavesOut (step.run s).2 rest kept) :
    LeavesOut s (step :: rest) (step :: kept)
  | skip {s : Session} {step : Step} {rest kept : List Step} {e : Failure} (call : step.IsCall)
    (stays : step.isExit = false) (refused : (step.run s).1 = .error e)
    (later : LeavesOut (step.run s).2 rest kept) : LeavesOut s (step :: rest) kept

/-- What a step compiles to. -/
def Step.script? (s : Session) (step : Step) : Option String :=
  match step, (step.run s).1 with
  | .compile, .ok (.text script) => some script
  | _, _ => none

/-- All that a run of steps compiles to, whatever fails on the way. -/
def Session.scripts (s : Session) : List Step → List String
  | [] => []
  | step :: rest => (step.script? s).toList ++ (step.run s).2.scripts rest

section Unmarked

lemma map_modify_of_keeps {α β : Type} {g : α → β} {f : α → α} (h : ∀ a, g (f a) = g a) (l : List α)
    (n : Nat) : (l.modify n f).map g = l.map g := by
  apply List.ext_getElem?
  intro i
  rw [List.getElem?_map, List.getElem?_map, List.getElem?_modify]
  split
  · cases l[i]? <;> simp [h]
  · simp

lemma Block.unmarked_opened (block : Block) (slot : Nat) :
    (block.modifyConditional Conditional.opened slot).unmarked = block.unmarked := by
  unfold unmarked modifyConditional
  congr 1
  exact map_modify_of_keeps (fun node => by cases node <;> rfl) _ _

end Unmarked

namespace Builder

variable {b b' : Builder}

lemma SameScript.refl (b : Builder) : b.SameScript b := ⟨rfl, rfl⟩

lemma sameScript_marked (b : Builder) : b.SameScript b.marked :=
  ⟨rfl, map_modify_of_keeps (fun block => block.unmarked_opened _) _ _⟩

lemma Refused.sameScript (h : b.Refused b') : b.SameScript b' := by
  cases h with
  | same => exact .refl b
  | number => exact ⟨rfl, rfl⟩
  | mark => exact b.sameScript_marked

/-- Before the compilation nothing at all is left behind. -/
lemma Refused.eq (h : b.Refused b') (hopen : (b.block rootId).closed = false) : b' = b := by
  cases h with
  | same => rfl
  | number closed => simp [closed] at hopen
  | mark closed => simp [closed] at hopen

/-- Every block is done once it is closed. So all on the stack are open, and so is the root, unless
nothing is open any more. -/
def IsTidy (b : Builder) : Prop := ∀ id, b.Finishes id

namespace IsTidy

lemma start : Builder.start.IsTidy := by
  intro id
  have hopen : (Builder.start.block id).closed = false := by cases id <;> rfl
  exact Session.Sound.start.finishes hopen

lemma isOpen (h : b.IsTidy) {id : Nat} (hid : id ∈ b.stack) : (b.block id).closed = false := by
  cases hclosed : (b.block id).closed with
  | false => rfl
  | true => exact absurd hid ((h id).done hclosed).1

lemma stack_eq_nil (h : b.IsTidy) (hclosed : (b.block rootId).closed = true) : b.stack = [] :=
  ((h rootId).done hclosed).2 rfl

lemma root_isOpen (h : b.IsTidy) (hstack : b.stack ≠ []) : (b.block rootId).closed = false := by
  cases hclosed : (b.block rootId).closed with
  | false => rfl
  | true => exact absurd (h.stack_eq_nil hclosed) hstack

/-- The only closed block that anything can be put into is the root. -/
lemma root_closed (h : b.IsTidy) (hclosed : (b.block b.current).closed = true) :
    (b.block rootId).closed = true := by
  rcases b.current_place with hroot | hmem
  · rwa [hroot] at hclosed
  · rw [h.isOpen hmem] at hclosed
    cases hclosed

/-- The block below one that is left takes its lines. -/
lemma quit_isOpen (h : b.IsTidy) (hstack : b.stack ≠ []) :
    (b.quit.block b.quit.current).closed = false := by
  have hquit : b.quit.IsTidy := fun id => (h id).quit
  cases hclosed : (b.quit.block b.quit.current).closed with
  | false => rfl
  | true =>
    have hroot := hquit.root_closed hclosed
    obtain ⟨id, below, hid⟩ := List.exists_cons_of_ne_nil hstack
    have hcurrent : b.current = id := current_of_stack hid
    have hpos : 0 < id := (h 0).pos id (by simp [hid])
    replace hroot : ((b.shut b.current).block rootId).closed = true := hroot
    rw [shut, block_update_of_ne _ (by rw [hcurrent]; exact hpos.ne'), h.root_isOpen hstack] at hroot
    cases hroot

end IsTidy

end Builder

namespace Build

variable {α : Type} {b b' : Builder} {e : Failure}

/-- An action that leaves next to nothing behind where it is refused. -/
def RefusesCleanly (action : Build α) : Prop :=
  ∀ b, b.IsTidy → ∀ e b', action b = (.error e, b') → b.Refused b'

lemma emit_refusesCleanly (d : Directive) : (emit d).RefusesCleanly := by
  intro b htidy e b' h
  cases hclosed : (b.block b.current).closed with
  | false =>
    obtain ⟨journal, he⟩ := emit_of_open (d := d) hclosed
    rw [he] at h
    cases h
  | true =>
    obtain ⟨journal, he⟩ := emit_eq b d
    have hne : (d.render (b.timers + 1)).map Node.line ≠ [] := by
      intro hnil
      rw [he, hnil, extend_nil] at h
      cases h
    rw [he, extend_of_closed (by simpa using hclosed) hne] at h
    cases h
    exact .number (htidy.root_closed hclosed) _ journal

lemma extend_refusesCleanly (id : Nat) (nodes : List Node) : (extend id nodes).RefusesCleanly := by
  intro b _ e b' h
  cases hclosed : (b.block id).closed with
  | false =>
    rw [extend_of_open hclosed] at h
    cases h
  | true =>
    have hne : nodes ≠ [] := by
      rintro rfl
      rw [extend_nil] at h
      cases h
    rw [extend_of_closed hclosed hne] at h
    cases h
    exact .same

lemma close_refusesCleanly (id : Nat) : (close id).RefusesCleanly := by
  intro b _ e b' h
  cases hclosed : (b.block id).closed with
  | false =>
    rw [close_of_open hclosed] at h
    cases h
  | true =>
    rw [close_of_closed hclosed] at h
    cases h
    exact .same

lemma enterIf_refusesCleanly (test : String) : (enterIf test).RefusesCleanly := by
  intro b _ e b' h
  cases hclosed : (b.block b.current).closed with
  | false =>
    obtain ⟨journal, he⟩ := enterIf_of_open test hclosed
    rw [he] at h
    cases h
  | true =>
    rw [enterIf_of_closed test hclosed] at h
    cases h
    exact .same

lemma enterFold_refusesCleanly (name : String) : (enterFold name).RefusesCleanly := by
  intro b _ e b' h
  by_cases hname : name = ""
  · subst hname
    rw [enterFold_empty] at h
    cases h
    exact .same
  cases hclosed : (b.block b.current).closed with
  | false =>
    obtain ⟨journal, he⟩ := enterFold_of_open hname hclosed
    rw [he] at h
    cases h
  | true =>
    rw [enterFold_of_closed hname hclosed] at h
    cases h
    exact .same

lemma enterElse_refusesCleanly : enterElse.RefusesCleanly := by
  intro b htidy e b' h
  cases hpending : (b.block b.current).pending? with
  | none =>
    rw [enterElse_of_none hpending] at h
    cases h
    exact .same
  | some c =>
    cases hclosed : (b.block b.current).closed with
    | false =>
      obtain ⟨journal, he⟩ := enterElse_of_open hpending hclosed
      rw [he] at h
      cases h
    | true =>
      rw [enterElse_of_closed hpending hclosed] at h
      cases h
      exact .mark (htidy.root_closed hclosed)

lemma compile_refusesCleanly : compile.RefusesCleanly := by
  intro b _ e b' h
  by_cases hstack : b.stack = []
  · cases hclosed : (b.block Builder.rootId).closed with
    | false =>
      rw [compile_of_open hstack hclosed] at h
      cases h
    | true =>
      rw [compile_of_closed hstack hclosed] at h
      cases h
      exact .same
  · rw [compile_of_stack hstack] at h
    cases h
    exact .same

/-- The lines of a block on the stack are not lost: the block below is open. -/
lemma refused_of_leave (htidy : b.IsTidy) {scope : Scope} (hmem : scope.block ∈ b.stack)
    (h : leave scope b = (.error e, b')) : b.Refused b' := by
  rcases leave_cases b scope with ⟨-, -, -, journal, he⟩ | ⟨-, hclosed, -⟩ | ⟨e', he⟩
  · rw [he] at h
    cases h
  · rw [htidy.quit_isOpen (List.ne_nil_of_mem hmem)] at hclosed
    cases hclosed
  · rw [he] at h
    cases h
    exact .same

/-- It is refused where its `if` is, and nowhere else. -/
lemma refused_of_prependPath (hlt : b.current < b.blocks.length) {path : String}
    (h : (prependPath path).run b = (.error e, b')) : b.Refused b' := by
  cases hclosed : (b.block b.current).closed with
  | false =>
    obtain ⟨b₁, hrun, -⟩ := Program.runs_of_isSound (p := prependPath path) rfl b ⟨hlt, hclosed⟩
    rw [hrun] at h
    cases h
  | true =>
    have hrun : (prependPath path).run b = (.error (.builder .afterCompile), b) :=
      bind_of_error (enterIf_of_closed _ hclosed)
    rw [hrun] at h
    cases h
    exact .same

end Build

namespace Run

variable {s s' : Session} {e : Failure}

lemma refused_of_quietly {action : Build Unit} (h : quietly action s = (.error e, s'))
    (haction : ∀ b', action s.builder = (.error e, b') → s.builder.Refused b') :
    ∃ b', s' = { s with builder := b' } ∧ s.builder.Refused b' := by
  rw [quietly_apply] at h
  cases hrun : action s.builder with
  | mk outcome b =>
    rw [hrun] at h
    cases outcome with
    | ok => cases h
    | error e' =>
      cases h
      exact ⟨b, rfl, haction b hrun⟩

lemma refused_of_enter {action : Build Scope} (haction : action.RefusesCleanly) (htidy : s.builder.IsTidy)
    {name : Option String} (h : enter name action s = (.error e, s')) :
    ∃ b', s' = { s with builder := b' } ∧ s.builder.Refused b' := by
  cases hrun : action s.builder with
  | mk outcome b =>
    cases outcome with
    | ok scope =>
      rw [enter_of_ok hrun] at h
      cases h
    | error e' =>
      rw [enter_of_error hrun] at h
      cases h
      exact ⟨b, rfl, haction _ htidy _ b hrun⟩

/-- A name that is not known fails nothing; one that is known says which block to go on with. -/
lemma refused_of_about {name : String} {k : Nat → Run Reply} (h : about name k s = (.error e, s'))
    (hk : ∀ id, k id s = (.error e, s') → ∃ b', s' = { s with builder := b' } ∧ s.builder.Refused b') :
    ∃ b', s' = { s with builder := b' } ∧ s.builder.Refused b' := by
  cases hfind : s.find? name with
  | none =>
    rw [about_of_none hfind] at h
    cases h
  | some id =>
    rw [about_of_some hfind] at h
    exact hk id h

end Run

namespace Step

variable {s s' : Session} {step : Step} {e : Failure}

/-- A refused call has changed nothing but what it may leave behind. Ways out of a block are used up. -/
lemma refused_of_error (hs : s.Sound) (htidy : s.builder.IsTidy) (hcall : step.IsCall)
    (h : step.run s = (.error e, s')) :
    s.builder.Refused s'.builder ∧ (step.isExit = false → ∃ b', s' = { s with builder := b' }) := by
  have hsame : (∃ b', s' = { s with builder := b' } ∧ s.builder.Refused b') →
      s.builder.Refused s'.builder ∧ (step.isExit = false → ∃ b', s' = { s with builder := b' }) := by
    rintro ⟨b', rfl, hrefused⟩
    exact ⟨hrefused, fun _ => ⟨b', rfl⟩⟩
  cases step with
  | emit item =>
    refine hsame ?_
    simp only [Step.run] at h
    cases hitem : item.check with
    | ok d =>
      rw [hitem] at h
      exact Run.refused_of_quietly h fun b' => Build.emit_refusesCleanly d _ htidy _ b'
    | error failure =>
      rw [hitem] at h
      cases h
      exact ⟨s.builder, rfl, .same⟩
  | program p =>
    obtain ⟨path, rfl⟩ := hcall
    exact hsame (Run.refused_of_quietly h fun b' => Build.refused_of_prependPath hs.site.current_lt)
  | enterIf test name => exact hsame (Run.refused_of_enter (Build.enterIf_refusesCleanly test) htidy h)
  | enterElse name => exact hsame (Run.refused_of_enter Build.enterElse_refusesCleanly htidy h)
  | enterFold header name =>
    exact hsame (Run.refused_of_enter (Build.enterFold_refusesCleanly header) htidy h)
  | leave name =>
    refine ⟨?_, fun hstays => by cases hstays⟩
    rw [Step.run] at h
    cases hfind : s.scopes.find? (Session.isMeant name) with
    | none =>
      rw [Run.leaving_of_none hfind] at h
      cases h
    | some entry =>
      have hmem : entry.2.block ∈ s.builder.stack :=
        hs.site.sublist.subset (List.mem_map_of_mem (List.mem_map_of_mem (List.mem_of_find?_eq_some hfind)))
      rw [Run.leaving_of_some hfind] at h
      obtain ⟨b', rfl, hrefused⟩ := Run.refused_of_quietly h fun b' => Build.refused_of_leave htidy hmem
      exact hrefused
  | abandon name =>
    refine ⟨?_, fun hstays => by cases hstays⟩
    rw [Step.run] at h
    cases hfind : s.scopes.find? (Session.isMeant name) with
    | none =>
      rw [Run.leaving_of_none hfind] at h
      cases h
    | some entry =>
      rw [Run.leaving_of_some hfind] at h
      cases h
  | append name line =>
    refine hsame (Run.refused_of_about h fun id h => ?_)
    exact Run.refused_of_quietly h fun b' => Build.extend_refusesCleanly id _ _ htidy _ b'
  | close name =>
    refine hsame (Run.refused_of_about h fun id h => ?_)
    exact Run.refused_of_quietly h fun b' => Build.close_refusesCleanly id _ htidy _ b'
  | inspect name => exact hsame (Run.refused_of_about h fun id h => by cases h)
  | failedTest => cases h
  | compile =>
    refine hsame ?_
    rw [Step.run] at h
    cases hrun : Build.compile s.builder with
    | mk outcome b =>
      have hbuild : Run.build Build.compile s = (outcome, { s with builder := b }) := by
        rw [Run.build_apply, hrun]
      cases outcome with
      | ok text =>
        rw [bind_of_ok hbuild] at h
        cases h
      | error e' =>
        rw [bind_of_error hbuild] at h
        cases h
        exact ⟨b, rfl, Build.compile_refusesCleanly _ htidy _ b hrun⟩

end Step

namespace Session

variable {s : Session} {steps kept : List Step}

lemma isTidy_step (h : s.builder.IsTidy) {step : Step} (hstep : ∀ name, step ≠ .close name) :
    (step.run s).2.builder.IsTidy :=
  fun id => (Build.invariant_finishes id).step step hstep s (h id)

lemma isTidy_after (h : s.builder.IsTidy) (hsteps : ∀ name, .close name ∉ steps) :
    (s.after steps).builder.IsTidy := by
  induction steps generalizing s with
  | nil => exact h
  | cons step rest ih =>
    have hstep := isTidy_step h fun name heq => hsteps name (heq ▸ List.mem_cons_self ..)
    exact ih hstep fun name hmem => hsteps name (List.mem_cons_of_mem _ hmem)

lemma script?_of_error {step : Step} {e : Failure} (h : (step.run s).1 = .error e) : step.script? s = none := by
  unfold Step.script?
  rw [h]
  split
  · next hok => cases hok
  · rfl

/-- After the compilation nothing more is compiled. -/
lemma scripts_of_finished (hs : s.Sound) (hf : s.site.Finished) (steps : List Step) : s.scripts steps = [] := by
  induction steps generalizing s with
  | nil => rfl
  | cons step rest ih =>
    have hnone : step.script? s = none := by
      unfold Step.script?
      split
      · next script hrun =>
        have hroot : (s.builder.block Builder.rootId).closed = true := hf.root
        rw [(compile_of_ok hrun).2.1] at hroot
        cases hroot
      · rfl
    rw [scripts, hnone, ih (hs.step step) ((step.changes hs).finished hs.site hf).2]
    rfl

lemma scripts_of_leavesOut (h : s.LeavesOut steps kept) (hs : s.Sound) (htidy : s.builder.IsTidy)
    (hsteps : ∀ name, .close name ∉ steps) : s.scripts kept = s.scripts steps := by
  induction h with
  | nil s => rfl
  | @keep s step rest kept later ih =>
    have hstep := isTidy_step htidy fun name heq => hsteps name (heq ▸ List.mem_cons_self ..)
    rw [scripts, scripts, ih (hs.step step) hstep fun name hmem => hsteps name (List.mem_cons_of_mem _ hmem)]
  | @skip s step rest kept e call stays refused later ih =>
    have hstep := isTidy_step htidy fun name heq => hsteps name (heq ▸ List.mem_cons_self ..)
    have hrest := ih (hs.step step) hstep fun name hmem => hsteps name (List.mem_cons_of_mem _ hmem)
    obtain ⟨hrefused, hsession⟩ := Step.refused_of_error hs htidy call (Prod.ext refused rfl)
    cases hroot : (s.builder.block Builder.rootId).closed with
    | false =>
      obtain ⟨b', heq⟩ := hsession stays
      have hb : b' = s.builder := by
        rw [heq] at hrefused
        exact hrefused.eq hroot
      have hunchanged : (step.run s).2 = s := by
        subst hb
        exact heq
      rw [scripts, script?_of_error refused, hunchanged]
      rw [hunchanged] at hrest
      exact hrest
    | true =>
      -- Whatever comes now, neither run compiles again.
      have hf : s.site.Finished := ⟨htidy.stack_eq_nil hroot, hroot⟩
      rw [scripts_of_finished hs hf, scripts_of_finished hs hf]

/-- Whatever was called on a builder, except for closing a block from outside: a call that is refused
leaves all blocks and all their nodes as they were, and before the compilation the numbers and the marks
too. And whatever a run compiles to, it compiles to the same without any of the calls that are refused
on the way, ways out of a block apart. -/
theorem scripts_without_refused :
    (∀ (before : List Step) (step : Step) (e : Failure) (s' : Session), (∀ name, .close name ∉ before) →
      step.IsCall → step.run (start.after before) = (.error e, s') →
      (start.after before).builder.SameScript s'.builder ∧
      (((start.after before).builder.block Builder.rootId).closed = false →
        s'.builder = (start.after before).builder)) ∧
    ∀ steps kept : List Step, (∀ name, .close name ∉ steps) → start.LeavesOut steps kept →
      start.scripts kept = start.scripts steps := by
  refine ⟨fun before step e s' hbefore hcall h => ?_, fun steps kept hsteps h => ?_⟩
  · have hsound : (start.after before).Sound := Sound.start.after before
    have htidy : (start.after before).builder.IsTidy := isTidy_after (s := start) .start hbefore
    obtain ⟨hrefused, -⟩ := Step.refused_of_error hsound htidy hcall h
    exact ⟨hrefused.sameScript, hrefused.eq⟩
  · exact scripts_of_leavesOut h Sound.start Builder.IsTidy.start hsteps

/-- A fold without a name, an `else` without an `if`, something that is no directive; and, once all is
compiled, an `else` that marks its `if`, and a command that takes a number. -/
def misuse : List Step :=
  [.enterFold "" none, .enterIf "t" (some "a"), .enterElse none, .emit (.foreign .null),
    .emit (.directive (.raw "x")), .leave none, .compile, .enterElse none, .emit (.directive (.run "make")),
    .compile]

theorem scripts_without_refused_misuse :
    (∃ s', (Step.enterElse none).run (start.after (misuse.take 2)) = (.error (.builder .strayElse), s') ∧
      s'.builder = (start.after (misuse.take 2)).builder) ∧
    (∃ s', (Step.enterElse none).run (start.after (misuse.take 7)) = (.error (.builder .afterCompile), s') ∧
      s'.builder ≠ (start.after (misuse.take 7)).builder ∧
      (start.after (misuse.take 7)).builder.SameScript s'.builder) ∧
    start.scripts [.enterIf "t" (some "a"), .emit (.directive (.raw "x")), .leave none, .compile] =
      start.scripts misuse ∧
    start.scripts misuse = [Text.unlines ["if t; then", "  x", "fi"]] := by
  have hclose : ∀ n name, .close name ∉ misuse.take n := fun n name hmem => by
    simpa [misuse] using List.mem_of_mem_take hmem
  have hstray : (Step.enterElse none).run (start.after (misuse.take 2)) =
      (.error (.builder .strayElse), start.after (misuse.take 2)) := rfl
  have hlate : ((Step.enterElse none).run (start.after (misuse.take 7))).1 =
      .error (.builder .afterCompile) := rfl
  have hleaves : start.LeavesOut misuse
      [.enterIf "t" (some "a"), .emit (.directive (.raw "x")), .leave none, .compile] := by
    refine .skip trivial rfl rfl (.keep (.skip trivial rfl rfl (.skip trivial rfl rfl ?_)))
    exact .keep (.keep (.keep (.skip trivial rfl rfl (.skip trivial rfl rfl (.skip trivial rfl rfl (.nil _))))))
  obtain ⟨hstate, hscripts⟩ := scripts_without_refused
  refine ⟨⟨_, hstray, ?_⟩, ⟨_, Prod.ext hlate rfl, by decide, ?_⟩, ?_, rfl⟩
  · exact (hstate _ (.enterElse none) _ _ (hclose 2) trivial hstray).2 rfl
  · exact (hstate _ (.enterElse none) _ _ (hclose 7) trivial (Prod.ext hlate rfl)).1
  · exact hscripts misuse _ (fun name => by simp [misuse]) hleaves

end Session

end JobScript.Shell
