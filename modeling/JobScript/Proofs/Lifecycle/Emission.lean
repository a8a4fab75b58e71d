import JobScript.Proofs.Lifecycle.BuiltIn

/-! # What a hook emits

The lines that a hook puts into the innermost block, on whatever builder it runs. They hang on what came
before only by the number of the timed commands. -/

namespace JobScript

open Shell

namespace Shell.Program

variable {p q : Program}

lemma timers_append (h : p.isSound = true) : (p ++ q).timers = p.timers + q.timers := by
  show (p.append q).timers = _
  induction p with
  | nil => exact (Nat.zero_add _).symm
  | fail failure => cases h
  | _ => simp_all [append, isSound, timers, Nat.add_assoc]

lemma lines_append (h : p.isSound = true) (before : Nat) :
    (p ++ q).lines before = p.lines before ++ q.lines (before + p.timers) := by
  show (p.append q).lines before = _
  induction p generalizing before with
  | nil => rfl
  | fail failure => cases h
  | _ => simp_all [append, isSound, lines, timers, Nat.add_assoc]

lemma isSound_append_of (hp : p.isSound = true) (hq : q.isSound = true) : (p ++ q).isSound = true := by
  rw [isSound_append, hp, hq, Bool.and_self]

section Untimed

variable {α : Type} {f : α → Program}

lemma timers_foldl (hsound : ∀ a, (f a).isSound = true) (htimers : ∀ a, (f a).timers = 0) (items : List α)
    (h : p.isSound = true) : (items.foldl (fun sofar a => sofar ++ f a) p).timers = p.timers := by
  induction items generalizing p with
  | nil => rfl
  | cons a rest ih =>
    rw [List.foldl_cons, ih (isSound_append_of h (hsound a)), timers_append h, htimers a, Nat.add_zero]

/-- Programs without timed commands all find the same number of those before them. -/
lemma lines_foldl (hsound : ∀ a, (f a).isSound = true) (htimers : ∀ a, (f a).timers = 0) (items : List α)
    (h : p.isSound = true) (before : Nat) : (items.foldl (fun sofar a => sofar ++ f a) p).lines before =
      p.lines before ++ items.flatMap fun a => (f a).lines (before + p.timers) := by
  induction items generalizing p with
  | nil => simp
  | cons a rest ih =>
    rw [List.foldl_cons, ih (isSound_append_of h (hsound a)), lines_append h, timers_append h, htimers a,
      Nat.add_zero, List.flatMap_cons, List.append_assoc]

end Untimed

section Timed

variable {ds : List Directive}

lemma timers_ofDirectives (h : ∀ d ∈ ds, d.isTimed = true) : (ofDirectives ds).timers = ds.length := by
  induction ds with
  | nil => rfl
  | cons d ds ih =>
    obtain ⟨hd, hds⟩ := List.forall_mem_cons.mp h
    show d.timers + (ofDirectives ds).timers = _
    rw [ih hds, Directive.timers, if_pos hd, List.length_cons, Nat.add_comm]

/-- Timed commands in a row take one number after the other. -/
lemma lines_ofDirectives (h : ∀ d ∈ ds, d.isTimed = true) (before : Nat) : (ofDirectives ds).lines before =
    (ds.mapIdx fun place d => d.render (before + 1 + place : Nat)).flatten := by
  induction ds generalizing before with
  | nil => rfl
  | cons d ds ih =>
    obtain ⟨hd, hds⟩ := List.forall_mem_cons.mp h
    have hnext : ∀ place : Nat, before + 1 + 1 + place = before + 1 + (place + 1) := by omega
    show d.render (before + 1) ++ (ofDirectives ds).lines (before + d.timers) = _
    rw [Directive.timers, if_pos hd, ih hds, List.mapIdx_cons, List.flatten_cons]
    simp only [hnext, Nat.add_zero]
    rfl

end Timed

end Shell.Program

namespace Hook

/-- On every builder whose innermost block takes lines, the hook puts its own lines into that block and does
nothing else. It has so many timed commands, and is told how many came before. -/
def Emits (hook : Hook) (config : Config) (lines : Nat → List String) (timers : Nat) : Prop :=
  ∀ b : Builder, b.IsReady → ∃ nodes b', runSteps (hook.steps config) b = (.ok (), b') ∧
    b.Extends nodes timers b' ∧ nodes.flatMap Node.render = lines b.timers

lemma emits_of_program {hook : Hook} {config : Config} {p : Program} (hsteps : hook.steps config = [.program p])
    (hp : p.isSound = true) : hook.Emits config p.lines p.timers := by
  intro b hb
  obtain ⟨b', hrun, hext⟩ := Program.runs_of_isSound hp b hb
  refine ⟨p.nodes b.timers, b', ?_, hext, p.flatMap_render_nodes b.timers⟩
  rw [hsteps, runSteps_program, hrun]

end Hook

end JobScript
