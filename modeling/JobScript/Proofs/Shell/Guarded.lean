import JobScript.Proofs.Shell.Acceptance

/-! # Failures inside blocks

A program that has no failure outside its blocks can fail only in a block that it has entered. Such a
block stays open, so that nothing is compiled any more; and where something still is compiled, the
program has not failed. -/

namespace JobScript.Shell

variable {b b₂ b₃ : Builder} {scopes : List Scope} {scope : Scope}

namespace Program

/-- No failure stands outside the blocks of a program, and all of these can be entered. -/
def isGuarded : Program → Bool
  | .nil => true
  | .emit _ rest => rest.isGuarded
  | .note _ rest => rest.isGuarded
  | .fail _ => false
  | .branch _ _ rest => rest.isGuarded
  | .choice _ _ _ rest => rest.isGuarded
  | .fold name _ rest => name != "" && rest.isGuarded

lemma isGuarded_append (p q : Program) : (p ++ q).isGuarded = (p.isGuarded && q.isGuarded) := by
  show (p.append q).isGuarded = _
  induction p <;> simp_all [append, isGuarded, Bool.and_assoc]

end Program

namespace Build

/-- A block that is entered where all is well afterwards was worked in and left without a failure. -/
lemma inside_of_intact {enter : Build Scope} {body : Build Unit} (rest : Unit → Build Unit)
    {bodyLedger restLedger : Builder → List Entry} (henter : enter.Enters)
    (hbody : body.Keeps bodyLedger) (hrest : (rest ()).Keeps restLedger)
    (hs : Site.Sound ⟨b, scopes⟩)
    (hok : Site.Intact ⟨b, scopes⟩ → ∃ scope b₁, enter b = (.ok scope, b₁))
    (hi : Site.Intact
      ⟨((enter >>= fun scope => body >>= fun _ => leave scope >>= rest) b).2, scopes⟩) :
    ∃ scope b₁ b₂ b₃, enter b = (.ok scope, b₁) ∧ leave scope b₂ = (.ok (), b₃) ∧
      Site.Sound ⟨b₂, scope :: scopes⟩ ∧ Site.Sound ⟨b₃, scopes⟩ ∧
      (enter >>= fun scope => body >>= fun _ => leave scope >>= rest) b = rest () b₃ := by
  have hbefore := (Program.keeps_ledgerInside henter hbody hrest b scopes).intact hs hi
  rcases henter b scopes with ⟨scope, b₁, he, hchanges⟩ | ⟨e, b₁, he, -⟩
  · rw [bind_of_ok he] at hi ⊢
    have hsound := (hbody b₁ (scope :: scopes)).sound (hchanges.sound hs)
    cases hrun : body b₁ with
    | mk outcome b₂ =>
      rw [hrun] at hsound
      cases outcome with
      | error e =>
        rw [bind_of_error hrun] at hi
        exact absurd hi (@Site.Sound.not_intact_drop b₂ [] scopes scope hsound)
      | ok =>
        rw [bind_of_ok hrun] at hi ⊢
        cases hdone : leave scope b₂ with
        | mk outcome b₃ =>
          cases outcome with
          | error e =>
            rw [bind_of_error hdone] at hi
            exact absurd hi (@not_intact_of_leave b₂ b₃ [] scopes scope e hsound hdone)
          | ok =>
            have hleft := (changes_leave b₂ [] scopes scope).sound hsound
            rw [hdone] at hleft
            exact ⟨scope, b₁, b₂, b₃, he, hdone, hsound, hleft, bind_of_ok hdone⟩
  · obtain ⟨scope, b', hok⟩ := hok hbefore
    rw [he] at hok
    cases hok

lemma exit_of_enterIf {test : String} {b₁ : Builder} (h : enterIf test b = (.ok scope, b₁)) :
    scope.exit = .branch := by
  cases hopen : (b.block b.current).closed with
  | false =>
    obtain ⟨journal, he⟩ := enterIf_of_open test hopen
    rw [h] at he
    cases he
    rfl
  | true =>
    rw [enterIf_of_closed test hopen] at h
    cases h

/-- An `if` that was just left awaits its `else`. -/
lemma pending?_of_leave (hs : Site.Sound ⟨b₂, scope :: scopes⟩) (hexit : scope.exit = .branch)
    (h : leave scope b₂ = (.ok (), b₃)) : ∃ c, (b₃.block b₃.current).pending? = some c := by
  rcases leave_cases b₂ scope with ⟨hcur, -, -, journal, he⟩ | ⟨-, -, e, journal, he⟩ | ⟨e, he⟩
  · rw [h] at he
    cases he
    have hquit : Site.Sound ⟨b₂.quit, scopes⟩ := @Site.Sound.quit b₂ [] scopes scope hs hcur
    have hpending : ((b₂.quit.receive .branch (b₂.block b₂.current)).block b₂.quit.current).pending?.isSome =
        true := Builder.pending?_receive _ hquit.current_lt nofun
    have hcurrent : (b₂.quit.receive scope.exit (b₂.block b₂.current)).current = b₂.quit.current := by
      unfold Builder.current
      rw [Builder.stack_receive]
    rw [Builder.current_aside, Builder.block_aside, hcurrent, hexit]
    exact Option.isSome_iff_exists.mp hpending
  · rw [h] at he
    cases he
  · rw [h] at he
    cases he

end Build

open Build Site in
/-- A program without failures outside its blocks has not failed where all is well afterwards. -/
theorem Program.run_of_intact {p : Program} (hp : p.isGuarded = true) (hs : Sound ⟨b, scopes⟩)
    (hi : Intact ⟨(p.run b).2, scopes⟩) : (p.run b).1 = .ok () := by
  induction p generalizing b with
  | nil => rfl
  | emit d rest ih =>
    have hbefore := ((Program.emit d rest).keeps_ledger b scopes).intact hs hi
    obtain ⟨journal, he⟩ := emit_of_open (d := d) hbefore.current_isOpen
    have hsound := (keeps_emit d b scopes).sound hs
    rw [run, bind_of_ok he] at hi ⊢
    rw [he] at hsound
    exact ih hp hsound hi
  | note record rest ih => exact ih hp ((keeps_note record b scopes).sound hs) hi
  | fail failure => cases hp
  | branch test body rest _ ih =>
    obtain ⟨scope, b₁, b₂, b₃, -, -, -, hleft, hrun⟩ := inside_of_intact (fun _ => rest.run)
      (enters_enterIf test) body.keeps_ledger rest.keeps_ledger hs
      (fun h => ⟨_, _, (enterIf_of_open test h.current_isOpen).choose_spec⟩) hi
    rw [run, hrun] at hi ⊢
    exact ih hp hleft hi
  | choice test body alternative rest _ _ ih =>
    have honward : Build.Keeps (enterElse >>= fun scope =>
        alternative.run >>= fun _ => leave scope >>= fun _ => rest.run) _ :=
      keeps_ledgerInside enters_enterElse alternative.keeps_ledger rest.keeps_ledger
    obtain ⟨scope, b₁, b₂, b₃, henter, hleave, hsound, hleft, hrun⟩ := inside_of_intact (fun _ => _)
      (enters_enterIf test) body.keeps_ledger honward hs
      (fun h => ⟨_, _, (enterIf_of_open test h.current_isOpen).choose_spec⟩) hi
    rw [run, hrun] at hi ⊢
    obtain ⟨c, hpending⟩ := pending?_of_leave hsound (exit_of_enterIf henter) hleave
    obtain ⟨scope', b₄, b₅, b₆, -, -, -, hleft', hrun'⟩ := inside_of_intact (fun _ => rest.run)
      enters_enterElse alternative.keeps_ledger rest.keeps_ledger hleft
      (fun h => ⟨_, _, (enterElse_of_open hpending h.current_isOpen).choose_spec⟩) hi
    rw [hrun'] at hi ⊢
    exact ih hp hleft' hi
  | fold name body rest _ ih =>
    simp only [isGuarded, Bool.and_eq_true, bne_iff_ne] at hp
    obtain ⟨scope, b₁, b₂, b₃, -, -, -, hleft, hrun⟩ := inside_of_intact (fun _ => rest.run)
      (enters_enterFold name) body.keeps_ledger rest.keeps_ledger hs
      (fun h => ⟨_, _, (enterFold_of_open hp.1 h.current_isOpen).choose_spec⟩) hi
    rw [run, hrun] at hi ⊢
    exact ih hp.2 hleft hi

/-- Once something is wrong with a session, nothing is compiled any more, whatever is called. -/
lemma Session.Sound.compile_of_not_intact {s : Session} (h : s.Sound) (hi : ¬ s.site.Intact)
    (later : List Step) : ∃ e, (Step.compile.run (s.after later)).1 = .error e := by
  cases hrun : (Step.compile.run (s.after later)).1 with
  | error e => exact ⟨e, rfl⟩
  | ok reply =>
    have hlater := (h.after later).intact_of_compile hrun
    exact absurd ((h.changes later).intact h.site hlater) hi

end JobScript.Shell
