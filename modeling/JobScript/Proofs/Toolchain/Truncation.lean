import JobScript.Proofs.Shell.Guarded
import JobScript.Proofs.Toolchain.Bootstrap

/-! # Installations that fail

A template that cannot be filled in makes the script of a tool fail, maybe after some of its lines
were put in. No script is made of these: only the command that is tried first stands outside all
blocks, and a failure in a block keeps the builder from compiling. -/

namespace JobScript

open Shell

/-- All blocks and timers are as they were. -/
structure Shell.Builder.Untouched (b b' : Builder) : Prop where
  blocks : b'.blocks = b.blocks
  stack : b'.stack = b.stack
  timers : b'.timers = b.timers

namespace Toolchain

variable {t : Toolchain} {version c : String} {s : State} {onFailure : Program} {e : Failure}

lemma attempt_of_error (h : t.command version s = .error e) :
    t.attempt version s onFailure = .fail e := by
  unfold attempt
  rw [h]
  rfl

lemma isGuarded_attempt (h : t.command version s = .ok c) :
    (t.attempt version s onFailure).isGuarded = true := by
  rw [attempt_eq h, Program.isGuarded_append]
  rfl

/-- Nothing is put in before the first command is there, and what may fail after it stands in a block. -/
lemma bootstrap_cases (t : Toolchain) (version : String) :
    (t.bootstrap version).isGuarded = true ∨
      ∃ record e, t.bootstrap version = .note record (.fail e) := by
  rw [bootstrap, attemptAll_start]
  cases hcommand : t.command version .installing with
  | ok c =>
    rw [Program.isGuarded_append, Program.isGuarded_append, isGuarded_attempt hcommand]
    exact .inl rfl
  | error e =>
    rw [attempt_of_error hcommand]
    exact .inr ⟨_, e, rfl⟩

lemma installVersion_cases (t : Toolchain) (version : Option String) :
    (t.installVersion version).isGuarded = true ∨
      ∃ record e, t.installVersion version = .note record (.fail e) := by
  unfold installVersion
  cases version.filter (· ≠ "") with
  | some version => exact t.bootstrap_cases version
  | none =>
    cases t.pinFile.filter (· ≠ "") with
    | none => exact t.bootstrap_cases t.standardVersion
    | some pin => exact .inl rfl

/-- Whatever was done with a builder, an installation that fails there leaves all blocks and timers as
they were, or else nothing is compiled any more, whatever is done later. -/
theorem compile_of_failed_installation (t : Toolchain) (p : Program)
    (hp : (∃ version, p = t.bootstrap version) ∨ ∃ version, p = t.installVersion version)
    (before : List Step) {after : Session}
    (h : (Step.program p).run (Session.start.after before) = (.error e, after)) :
    (Session.start.after before).builder.Untouched after.builder ∨
      ∀ later, ∃ e', (Step.compile.run (after.after later)).1 = .error e' := by
  have hcases : p.isGuarded = true ∨ ∃ record e, p = .note record (.fail e) := by
    rcases hp with ⟨version, rfl⟩ | ⟨version, rfl⟩
    · exact t.bootstrap_cases version
    · exact t.installVersion_cases version
  have hsound : (Session.start.after before).Sound := Session.Sound.start.after before
  have hafter := hsound.step (.program p)
  rw [h] at hafter
  rw [Step.run, Run.quietly_apply, Prod.mk.injEq] at h
  obtain ⟨herror, rfl⟩ := h
  rcases hcases with hguarded | ⟨record, e', rfl⟩
  · refine .inr fun later => hafter.compile_of_not_intact (fun hi => ?_) later
    have hok := Program.run_of_intact hguarded hsound.site hi
    rw [hok] at herror
    cases herror
  · exact .inl ⟨rfl, rfl, rfl⟩

/-- With a pin file the first try stands in a branch, after the line that tells of the file. The field
of its command has no name. -/
def unnamed : Toolchain := ⟨"tool", "get \x7b\x7d", "use \x7bversion\x7d", "V", "1.0", some "pin"⟩

lemma bootstrap_unnamed (version : String) : unnamed.bootstrap version =
    .note (Log.debug log s!"Bootstrapping tool {version}") (.fail (.template (.noPosition 0))) := by
  have hcommand : unnamed.command version .installing = .error (.template (.noPosition 0)) := rfl
  rw [bootstrap, attemptAll_start, attempt_of_error hcommand]
  rfl

theorem compile_of_failed_installation_unnamed :
    ∃ after, (Step.program (unnamed.installVersion none)).run
        (Session.start.after [.emit (.directive (.raw "x"))]) = (.error (.template (.noPosition 0)), after) ∧
      after.builder.stack = [1] ∧
      ∀ later, ∃ e', (Step.compile.run (after.after later)).1 = .error e' := by
  have hprogram : unnamed.installVersion none = .ifElse "[ -f pin ]"
      (.directive (.sayIn "yellow" "Using tool version from pin") ++ unnamed.bootstrap "$(cat pin)")
      (unnamed.bootstrap "1.0") := rfl
  rw [bootstrap_unnamed, bootstrap_unnamed] at hprogram
  have herror : ((Step.program (unnamed.installVersion none)).run
      (Session.start.after [.emit (.directive (.raw "x"))])).1 = .error (.template (.noPosition 0)) := by
    rw [hprogram]
    rfl
  have hstack : ((Step.program (unnamed.installVersion none)).run
      (Session.start.after [.emit (.directive (.raw "x"))])).2.builder.stack = [1] := by
    rw [hprogram]
    rfl
  cases hrun : (Step.program (unnamed.installVersion none)).run
      (Session.start.after [.emit (.directive (.raw "x"))]) with
  | mk outcome after =>
    rw [hrun] at herror hstack
    subst herror
    refine ⟨after, rfl, hstack, ?_⟩
    refine (compile_of_failed_installation unnamed _ (.inr ⟨none, rfl⟩) _ hrun).resolve_left fun h => ?_
    rw [h.stack] at hstack
    cases hstack

end Toolchain

end JobScript
