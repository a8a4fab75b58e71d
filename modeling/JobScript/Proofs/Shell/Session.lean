import JobScript.Proofs.Shell.Call
import JobScript.Shell.Step

/-! # Steps of a session

What a step does, in terms of the calls on the builder. -/

namespace JobScript.Shell

namespace Run

variable {α : Type} {s : Session}

lemma build_apply (action : Build α) (s : Session) :
    build action s = ((action s.builder).1, { s with builder := (action s.builder).2 }) := rfl

lemma quietly_apply (action : Build Unit) (s : Session) :
    quietly action s = ((action s.builder).1.map fun _ => .nothing,
      { s with builder := (action s.builder).2 }) := by
  unfold quietly
  cases hrun : action s.builder with
  | mk outcome b =>
    have hbuild : build action s = (outcome, { s with builder := b }) := by
      rw [build_apply, hrun]
    cases outcome with
    | error e => exact bind_of_error hbuild
    | ok => exact bind_of_ok hbuild

lemma enter_of_ok {action : Build Scope} {name : Option String} {scope : Scope} {b : Builder}
    (h : action s.builder = (.ok scope, b)) : enter name action s =
      (.ok (.text (s.nameFor name)), ({ s with builder := b }).enter (s.nameFor name) scope) := by
  have hbuild : build action s = (.ok scope, { s with builder := b }) := by
    rw [build_apply, h]
  unfold enter
  exact bind_of_ok hbuild

lemma enter_of_error {action : Build Scope} {name : Option String} {e : Failure} {b : Builder}
    (h : action s.builder = (.error e, b)) :
    enter name action s = (.error e, { s with builder := b }) := by
  have hbuild : build action s = (.error e, { s with builder := b }) := by
    rw [build_apply, h]
  unfold enter
  exact bind_of_error hbuild

section Naming

variable {name? : Option String} {name : String} {entry : String × Scope} {id : Nat}
variable {k : Scope → Run Reply} {f : Nat → Run Reply}

/-- A block that has been left is let be. -/
lemma leaving_of_none (h : s.scopes.find? (Session.isMeant name?) = none) :
    leaving name? k s = (.ok (if s.knows name? then .nothing else .absent), s) := by
  unfold leaving
  rw [bind_get, h]
  rfl

lemma leaving_of_some (h : s.scopes.find? (Session.isMeant name?) = some entry) :
    leaving name? k s =
      k entry.2 { s with scopes := s.scopes.eraseP (Session.isMeant name?) } := by
  unfold leaving
  rw [bind_get, h]
  rfl

lemma about_of_some (h : s.find? name = some id) : about name f s = f id s := by
  unfold about
  rw [bind_get, h]

lemma about_of_none (h : s.find? name = none) : about name f s = (.ok .absent, s) := by
  unfold about
  rw [bind_get, h]
  rfl

end Naming

end Run

namespace Session

/-- Where a run of steps leads, whatever fails on the way. -/
def after (s : Session) (steps : List Step) : Session :=
  steps.foldl (fun s step => (step.run s).2) s

@[simp] lemma after_nil (s : Session) : s.after [] = s := rfl

@[simp] lemma after_cons (s : Session) (step : Step) (rest : List Step) :
    s.after (step :: rest) = (step.run s).2.after rest := rfl

lemma after_append (s : Session) (steps rest : List Step) :
    s.after (steps ++ rest) = (s.after steps).after rest := List.foldl_append ..

/-- An action that gives no names. -/
def KeepsNames {α : Type} (action : Run α) : Prop := ∀ s : Session, (action s).2.names = s.names

lemma KeepsNames.bind {α β : Type} {x : Run α} {f : α → Run β} (hx : KeepsNames x)
    (hf : ∀ a, KeepsNames (f a)) : KeepsNames (x >>= f) := by
  intro s
  have hfirst := hx s
  cases hrun : x s with
  | mk outcome s' =>
    rw [hrun] at hfirst
    cases outcome with
    | error e =>
      rw [bind_of_error hrun]
      exact hfirst
    | ok a =>
      rw [bind_of_ok hrun]
      exact (hf a s').trans hfirst

lemma keepsNames_pure {α : Type} (a : α) : KeepsNames (pure a) := fun _ => rfl

lemma keepsNames_build {α : Type} (action : Build α) : KeepsNames (Run.build action) := fun _ => rfl

lemma keepsNames_quietly (action : Build Unit) : KeepsNames (Run.quietly action) :=
  (keepsNames_build action).bind fun _ => keepsNames_pure _

lemma keepsNames_leaving {name : Option String} {k : Scope → Run Reply} (hk : ∀ scope, KeepsNames (k scope)) :
    KeepsNames (Run.leaving name k) := by
  intro s
  cases hfind : s.scopes.find? (isMeant name) with
  | none => rw [Run.leaving_of_none hfind]
  | some entry =>
    rw [Run.leaving_of_some hfind]
    exact hk entry.2 _

lemma keepsNames_about {name : String} {k : Nat → Run Reply} (hk : ∀ id, KeepsNames (k id)) :
    KeepsNames (Run.about name k) := by
  intro s
  cases hfind : s.find? name with
  | none => rw [Run.about_of_none hfind]
  | some id =>
    rw [Run.about_of_some hfind]
    exact hk id s

end Session

lemma trace_cons (s : Session) (step : Step) (rest : List Step) : trace s (step :: rest) =
    ((step.run s).1, (step.run s).2.builder) :: trace (step.run s).2 rest := rfl

lemma mem_trace (s : Session) (before : List Step) (step : Step) (after : List Step) :
    ((step.run (s.after before)).1, (step.run (s.after before)).2.builder) ∈
      trace s (before ++ step :: after) := by
  induction before generalizing s with
  | nil => exact List.mem_cons_self ..
  | cons first before ih => exact List.mem_cons_of_mem _ (ih _)

end JobScript.Shell
