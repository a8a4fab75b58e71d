import JobScript.Adapter.Node
import JobScript.Proofs.Lifecycle.Phases
import JobScript.Proofs.Number.Integer
import JobScript.Proofs.Toolchain.Bootstrap

/-! # Scripts of the built-in adapters

Every configuration has a script in the generic adapter. In the adapter of Node.js it has one unless
its version starts with digits that are not the numeral of a number. -/

namespace JobScript

open Shell

namespace Shell.Program

@[simp] lemma isSound_directive (d : Directive) : (directive d).isSound = true := rfl

@[simp] lemma isSound_ifThen (test : String) (body : Program) :
    (ifThen test body).isSound = body.isSound := Bool.and_true _

@[simp] lemma isSound_ifElse (test : String) (body alternative : Program) :
    (ifElse test body alternative).isSound = (body.isSound && alternative.isSound) := Bool.and_true _

@[simp] lemma isSound_folded (name : String) (body : Program) :
    (folded name body).isSound = (name != "" && body.isSound) := Bool.and_true _

@[simp] lemma isSound_when (condition : Bool) (p : Program) :
    (when condition p).isSound = (!condition || p.isSound) := by
  cases condition <;> rfl

@[simp] lemma isSound_foldl {α : Type} (f : α → Program) (l : List α) (p : Program) :
    (l.foldl (fun sofar a => sofar ++ f a) p).isSound = (p.isSound && l.all fun a => (f a).isSound) := by
  induction l generalizing p with
  | nil => simp
  | cons a rest ih => rw [List.foldl_cons, ih, isSound_append, List.all_cons, Bool.and_assoc]

end Shell.Program

/-- For a configuration, the hook is one sound program. -/
def Hook.IsSound (config : Config) (hook : Hook) : Prop :=
  ∃ p : Program, hook.steps config = [.program p] ∧ p.isSound = true

namespace Lifecycle

variable {adapter : Adapter} {config : Config} {phase : Phase}

lemma isSound_exportAll (config : Config) : (exportAll config).isSound = true := by
  have hentry : ∀ entry, (exportEntry entry).isSound = true := by
    intro entry
    unfold exportEntry
    split <;> rfl
  rw [exportAll, Program.isSound_foldl]
  simp [hentry]

lemma isSound_defaultHook (config : Config) (phase : Phase) : (defaultHook phase).IsSound config := by
  cases phase with
  | «export» => exact ⟨_, rfl, isSound_exportAll config⟩
  | setup => exact ⟨_, rfl, rfl⟩
  | announce => exact ⟨_, rfl, rfl⟩
  | install => exact ⟨_, rfl, Toolchain.isSound_ofDirectives _⟩
  | script => exact ⟨_, rfl, Toolchain.isSound_ofDirectives _⟩

lemma isProper_of_isSound (h : (hookOf adapter config phase).IsSound config) :
    IsProper adapter config phase := by
  obtain ⟨p, hsteps, hp⟩ := h
  have halone : alone adapter config phase = p.run (.startAfter (timersBefore adapter config phase)) := by
    rw [alone, runHook, hsteps, runSteps_program]
  obtain ⟨b, hrun, hext⟩ := Program.runs_of_isSound hp _ (Builder.isReady_startAfter _)
  rw [hrun] at halone
  refine ⟨?_, ?_⟩
  · rw [halone]
  · rw [halone]
    exact hext.stack

/-- The generic adapter has a script for every configuration. -/
lemma isOk_compile_generic (config : Config) : (compile Adapter.generic config).execute.1.isOk = true := by
  have hcompile : LeavesCompilation Adapter.generic config := leavesCompilation_of_hooks (by simp [Adapter.generic])
  have hhook : ∀ phase, hookOf Adapter.generic config phase = defaultHook phase := by
    intro phase
    cases hown : hasOwnCommands config phase with
    | true => exact hookOf_of_hasOwnCommands hown
    | false => exact hookOf_of_not_hasOwnCommands hown
  refine (isProper_iff_isOk hcompile).mp fun phase => isProper_of_isSound ?_
  rw [hhook]
  exact isSound_defaultHook config phase

end Lifecycle

namespace Node

open Lifecycle

/-- What stands before the first point of the version. -/
def majorText (config : Config) : String := (versionParts config).headD ""

lemma isSound_sequence (ps : List Program) : (sequence ps).isSound = ps.all Program.isSound := by
  induction ps with
  | nil => rfl
  | cons p rest ih =>
    show (p ++ sequence rest).isSound = _
    rw [Program.isSound_append, ih, List.all_cons]

lemma isSound_exportVersion (config : Config) : (exportVersion config).isSound = true := by
  rw [exportVersion, Program.isSound_append, isSound_exportAll]
  cases config.givenVersion <;> rfl

lemma isSound_updateNvm (config : Config) : (updateNvm config).isSound = true := by
  unfold updateNvm
  split
  · rfl
  · rw [Program.isSound_ifThen, isSound_sequence]
    rfl

lemma isSound_installVersion (version : Option String) : (nvm.installVersion version).isSound = true := by
  have hinstall : Template.segments [] nvm.install.toList =
      [.text "nvm install ".toList, .placeholder "version".toList none [], .text "".toList] := by decide
  have hselect : Template.segments [] nvm.select.toList =
      [.text "nvm use ".toList, .placeholder "version".toList none [], .text "".toList] := by decide
  refine Toolchain.isSound_installVersion fun v _ s hs => ?_
  cases s with
  | installing =>
    rw [Toolchain.command, Toolchain.withVersion, Template.format_version hinstall]
    rfl
  | fallback =>
    rw [Toolchain.command, Toolchain.withVersion, Template.format_version hselect]
    rfl
  | failed => cases hs
  | resolved => cases hs

lemma isSound_setup (config : Config) : (setup config).isSound = true := by
  have hproxy : (proxyNpm config).isSound = true := by
    unfold proxyNpm
    split <;> rfl
  simp [setup, isSound_sequence, isSound_updateNvm, isSound_installVersion, hproxy, prependPath,
    dropNpmHome, runQuietly, run, relaxSsl, say, Program.isSound_append]

lemma isSound_install (config : Config) : (install config).isSound = true := by
  simp [install, yarnInstall, installYarn, isSound_sequence, npmInstall, runInstall, run, say,
    Program.isSound_append]

lemma isSound_announce {m : Option Int} (h : major config = .ok m) : (announce config).isSound = true := by
  simp [announce, h, probeCompiler, isSound_sequence, runHidden, run, say]

/-- Every hook but the announcement is sound, whatever the configuration. -/
lemma isSound_hookOf (config : Config) {phase : Phase} (hphase : phase ≠ .announce) :
    (hookOf adapter config phase).IsSound config := by
  cases hown : hasOwnCommands config phase with
  | true =>
    rw [hookOf_of_hasOwnCommands hown]
    exact isSound_defaultHook config phase
  | false =>
    rw [hookOf_of_not_hasOwnCommands hown]
    cases phase with
    | «export» => exact ⟨_, rfl, isSound_exportVersion config⟩
    | setup => exact ⟨_, rfl, isSound_setup config⟩
    | announce => exact absurd rfl hphase
    | install => exact ⟨_, rfl, isSound_install config⟩
    | script => exact ⟨_, rfl, rfl⟩

lemma leavesCompilation (config : Config) : LeavesCompilation adapter config :=
  leavesCompilation_of_hooks (by simp [adapter, Hook.ofProgram])

lemma steps_announce (config : Config) :
    stepsOf adapter config .announce = [.program (announce config)] := rfl

/-- With a major number, or none at all, the adapter has a script. -/
lemma isOk_compile {m : Option Int} (h : major config = .ok m) :
    (compile adapter config).execute.1.isOk = true := by
  refine (isProper_iff_isOk (leavesCompilation config)).mp fun phase => isProper_of_isSound ?_
  by_cases hphase : phase = .announce
  · subst phase
    exact ⟨_, steps_announce config, isSound_announce h⟩
  · exact isSound_hookOf config hphase

/-- Without one, the announcement fails, and the compilation with it. -/
lemma compile_of_major_error {e : Number.NumeralError} (h : major config = .error e) :
    (compile adapter config).execute.1 = .error (.numeral e) := by
  have hall : [.export, .setup] ++ .announce :: [.install, .script] = Phase.all := rfl
  have hbefore : ∀ phase ∈ [Phase.export, .setup], IsProper adapter config phase := by
    intro phase hphase
    refine isProper_of_isSound (isSound_hookOf config ?_)
    rintro rfl
    simp at hphase
  have halone : (alone adapter config .announce).1 = .error (.numeral e) := by
    have hprogram : announce config = .fail (.numeral e) := by
      rw [announce, h]
    show (runSteps (stepsOf adapter config .announce) _).1 = _
    rw [steps_announce, runSteps_program, hprogram]
    rfl
  have hphases := forM_of_error (leavesCompilation config) hall hbefore halone
  refine compile_of_body_error ?_
  rw [body, bind_of_fst_error hphases]

end Node

section Failure

open Lifecycle Number Text

/-- Where a configuration has no script, it is the digits in front of its version that are at fault:
not all of them have a place in a numeral, or there are too many. -/
theorem compile_builtIn (config : Config) :
    (compile Adapter.generic config).execute.1.isOk = true ∧
    ((compile Node.adapter config).execute.1.isOk = true ↔
      (isDigits (Node.majorText config) = true →
        (∀ c ∈ (Node.majorText config).toList, isDecimal c = true) ∧
          (Node.majorText config).toList.length ≤ maxDigits)) ∧
    ∀ failure, (compile Node.adapter config).execute.1 = .error failure →
      ∃ e, failure = .numeral e ∧ readInt 10 (Node.majorText config) = .error e := by
  have hmajor : Node.major config = if isDigits (Node.majorText config) then
    (readInt 10 (Node.majorText config)).map some else .ok none := rfl
  refine ⟨isOk_compile_generic config, ?_⟩
  by_cases hdigits : isDigits (Node.majorText config) = true
  · rw [if_pos hdigits] at hmajor
    rw [← readInt_isOk_iff hdigits]
    cases hread : readInt 10 (Node.majorText config) with
    | error e =>
      rw [hread] at hmajor
      rw [Node.compile_of_major_error hmajor]
      refine ⟨?_, fun failure h => ⟨e, (Except.error.inj h).symm, rfl⟩⟩
      simp [hdigits, Except.isOk, Except.toBool]
    | ok m =>
      rw [hread] at hmajor
      have hok := Node.isOk_compile hmajor
      refine ⟨⟨fun _ _ => rfl, fun _ => hok⟩, fun failure h => ?_⟩
      rw [h] at hok
      cases hok
  · rw [if_neg hdigits] at hmajor
    have hok := Node.isOk_compile hmajor
    refine ⟨⟨fun _ h => absurd h hdigits, fun _ => hok⟩, fun failure h => ?_⟩
    rw [h] at hok
    cases hok

/-- A number may be written in the digits of any script. -/
theorem compile_builtIn_fullwidth : ∃ config, Config.build [(.str "version", .str "４.2")] [] = .ok config ∧
    Node.majorText config = "４" ∧ isDigits "４" = true ∧
    (compile Node.adapter config).execute.1.isOk = true := by
  refine ⟨_, rfl, by decide, by decide, (compile_builtIn _).2.1.mpr fun _ => ⟨?_, by decide⟩⟩
  exact List.all_eq_true.mp (by decide)

/-- A superscript looks like a digit, yet no number can be read from it. -/
theorem compile_superscript : ∃ config, Config.build [(.str "version", .str "²")] [] = .ok config ∧
    (compile Node.adapter config).execute.1 = .error (.numeral (.malformed 10 "²")) := by
  refine ⟨_, rfl, Node.compile_of_major_error ?_⟩
  decide

end Failure

end JobScript
