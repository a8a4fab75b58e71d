import JobScript.Proofs.Shell.Session

/-! # Invariants of builders

A property that each call on a builder keeps, whether it succeeds or fails, is kept by all programs and by
all steps. -/

namespace JobScript.Shell

section Preserves
variable {σ α β : Type} {P : σ → Prop}

/-- An action that keeps a property of the state, whether it succeeds or not. -/
def Preserves (P : σ → Prop) (action : ExceptT Failure (StateM σ) α) : Prop := ∀ s, P s → P (action s).2

lemma preserves_pure (a : α) : Preserves P (pure a : ExceptT Failure (StateM σ) α) := fun _ h => h

lemma preserves_throw (e : Failure) : Preserves P (throw e : ExceptT Failure (StateM σ) α) := fun _ h => h

lemma Preserves.bind {x : ExceptT Failure (StateM σ) α} {f : α → ExceptT Failure (StateM σ) β}
    (hx : Preserves P x) (hf : ∀ a, Preserves P (f a)) : Preserves P (x >>= f) := by
  intro s h
  have hnext := hx s h
  cases hrun : x s with
  | mk outcome s' =>
    rw [hrun] at hnext
    cases outcome with
    | error e =>
      rw [bind_of_error hrun]
      exact hnext
    | ok a =>
      rw [bind_of_ok hrun]
      exact hf a s' hnext

end Preserves

/-- A property of builders that every call keeps, except for closing a block from outside. -/
structure Build.Invariant (P : Builder → Prop) : Prop where
  note : ∀ record, Preserves P (Build.note record)
  emit : ∀ d, Preserves P (Build.emit d)
  extend : ∀ id nodes, Preserves P (Build.extend id nodes)
  enterIf : ∀ test, Preserves P (Build.enterIf test)
  enterElse : Preserves P Build.enterElse
  enterFold : ∀ name, Preserves P (Build.enterFold name)
  leave : ∀ scope, Preserves P (Build.leave scope)
  compile : Preserves P Build.compile

section Runs
variable {P : Builder → Prop}

lemma Build.Invariant.program (h : Invariant P) (p : Program) : Preserves P p.run := by
  induction p with
  | nil => exact preserves_pure ()
  | emit d rest ih => exact (h.emit d).bind fun _ => ih
  | note record rest ih => exact (h.note record).bind fun _ => ih
  | fail failure => exact preserves_throw failure
  | branch test body rest ihBody ih =>
    exact (h.enterIf test).bind fun scope => ihBody.bind fun _ => (h.leave scope).bind fun _ => ih
  | choice test body alternative rest ihBody ihAlternative ih =>
    have hrest : Preserves P (Build.enterElse >>= fun scope => alternative.run >>= fun _ =>
        Build.leave scope >>= fun _ => rest.run) :=
      h.enterElse.bind fun scope => ihAlternative.bind fun _ => (h.leave scope).bind fun _ => ih
    exact (h.enterIf test).bind fun scope => ihBody.bind fun _ => (h.leave scope).bind fun _ => hrest
  | fold name body rest ihBody ih =>
    exact (h.enterFold name).bind fun scope => ihBody.bind fun _ => (h.leave scope).bind fun _ => ih

/-- What holds of the builder of a session. -/
def Session.Holds (P : Builder → Prop) (s : Session) : Prop := P s.builder

namespace Run

lemma preserves_build {α : Type} {action : Build α} (h : Preserves P action) :
    Preserves (Session.Holds P) (build action) := fun s hs => h s.builder hs

lemma preserves_quietly {action : Build Unit} (h : Preserves P action) :
    Preserves (Session.Holds P) (quietly action) :=
  (preserves_build h).bind fun _ => preserves_pure _

lemma preserves_enter {action : Build Scope} (h : Preserves P action) (name : Option String) :
    Preserves (Session.Holds P) (enter name action) :=
  (preserves_build h).bind fun _ _ hs => hs

lemma preserves_leaving {k : Scope → Run Reply} (name : Option String)
    (hk : ∀ scope, Preserves (Session.Holds P) (k scope)) : Preserves (Session.Holds P) (leaving name k) := by
  intro s h
  cases hfind : s.scopes.find? (Session.isMeant name) with
  | none =>
    rw [leaving_of_none hfind]
    exact h
  | some entry =>
    rw [leaving_of_some hfind]
    exact hk entry.2 _ h

lemma preserves_about {k : Nat → Run Reply} (name : String)
    (hk : ∀ id, Preserves (Session.Holds P) (k id)) : Preserves (Session.Holds P) (about name k) := by
  intro s h
  cases hfind : s.find? name with
  | none =>
    rw [about_of_none hfind]
    exact h
  | some id =>
    rw [about_of_some hfind]
    exact hk id s h

end Run

theorem Build.Invariant.step (h : Invariant P) (step : Step) (hstep : ∀ name, step ≠ .close name) :
    Preserves (Session.Holds P) step.run := by
  cases step with
  | emit item =>
    simp only [Step.run]
    cases item.check with
    | ok d => exact Run.preserves_quietly (h.emit d)
    | error failure => exact preserves_throw failure
  | program p => exact Run.preserves_quietly (h.program p)
  | enterIf test name => exact Run.preserves_enter (h.enterIf test) name
  | enterElse name => exact Run.preserves_enter h.enterElse name
  | enterFold header name => exact Run.preserves_enter (h.enterFold header) name
  | leave name => exact Run.preserves_leaving name fun scope => Run.preserves_quietly (h.leave scope)
  | abandon name => exact Run.preserves_leaving name fun _ => preserves_pure _
  | append name line => exact Run.preserves_about name fun id => Run.preserves_quietly (h.extend id _)
  | close name => exact absurd rfl (hstep name)
  | inspect name => exact Run.preserves_about name fun _ _ hs => hs
  | failedTest => exact preserves_pure _
  | compile => exact (Run.preserves_build h.compile).bind fun _ => preserves_pure _

end Runs

end JobScript.Shell
