import JobScript.Proofs.Shell.Trail
import JobScript.Toolchain.Basic

/-! # Scripts and attempts

A script that installs a tool does what the machine of the attempt does with the same outcomes: it
tries the same states, warns on the same ones, and stops if the machine ends without the tool. -/

namespace JobScript

open Shell

namespace Template

/-- A template that only has a version in it takes any text there, braces and all. -/
lemma format_version {template before after : String}
    (h : segments [] template.toList =
      [.text before.toList, .placeholder "version".toList none [], .text after.toList])
    (version : String) :
    format [("version", version)] template = .ok (before ++ version ++ after) := by
  have hlook : lookUp [("version", version)] "version".toList = .ok version.toList := rfl
  have hfill : fill [("version", version)] maxDepth template.toList =
      .ok (before ++ version ++ after).toList := by
    rw [maxDepth, fill, h]
    simp only [List.mapM_cons, List.mapM_nil, hlook]
    show Except.ok [before.toList, version.toList, after.toList].flatten = _
    simp
  rw [format, hfill]
  exact congrArg Except.ok String.ofList_toList

end Template

namespace Toolchain

/-- What is said on entering a state, with the version as it is. -/
def State.said (version : String) : State → List (String × Option String)
  | .fallback =>
    [("Failed to install " ++ version ++ ". Remote repository may not be reachable.", some "red"),
     ("Using locally available version " ++ version ++ ", if applicable.", none)]
  | .failed => [("Unable to use " ++ version, some "red")]
  | _ => []

def State.tried (command : State → String) (s : State) : List Event :=
  if s.isTerminal then [] else [.command (command s)]

/-- What a script does in a state: it says what is to be said, and tries what can be tried. -/
def State.events (version : String) (command : State → String) (s : State) : List Event :=
  (s.said version).map (fun m => .message m.1 m.2) ++ s.tried command

/-- The versions that a script is written for; with a pin file there are two. -/
def versions (t : Toolchain) (version : Option String) : List String :=
  match version.filter (· ≠ "") with
  | some version => [version]
  | none => match t.pinFile.filter (· ≠ "") with
    | none => [t.standardVersion]
    | some pin => [s!"$(cat {pin})", t.standardVersion]

/-- The version that a script installs where the tests hold as given. -/
def wanted (t : Toolchain) (version : Option String) (holds : String → Bool) : String :=
  match version.filter (· ≠ "") with
  | some version => version
  | none => match t.pinFile.filter (· ≠ "") with
    | none => t.standardVersion
    | some pin => if holds s!"[ -f {pin} ]" then s!"$(cat {pin})" else t.standardVersion

/-- Where a pin file is used the script says so first. -/
def notice (t : Toolchain) (version : Option String) (holds : String → Bool) : List Event :=
  match version.filter (· ≠ ""), t.pinFile.filter (· ≠ "") with
  | none, some pin =>
    if holds s!"[ -f {pin} ]" then [.message s!"Using {t.name} version from {pin}" (some "yellow")]
    else []
  | _, _ => []

/-- Only an attempt that has failed stops the script. -/
def State.ending (s : State) : Ending := if s = .failed then .stopped else .finished

variable {t : Toolchain} {version : String} {s : State} {m next : Machine} {c : String} {onFailure p : Program}

lemma wanted_mem_versions (t : Toolchain) (version : Option String) (holds : String → Bool) :
    t.wanted version holds ∈ t.versions version := by
  unfold wanted versions
  split
  · simp
  · split
    · simp
    · split <;> simp

lemma warn_eq {template before after : String}
    (h : Template.segments [] template.toList =
      [.text before.toList, .placeholder "version".toList none [], .text after.toList])
    (colour : Option String) :
    warn version (template, colour) = .directive (.echo (before ++ version ++ after) colour) := by
  have hformat : withVersion version template = .ok (before ++ version ++ after) :=
    congrArg (Except.mapError Failure.template) (Template.format_version h version)
  unfold warn
  rw [hformat]
  rfl

/-- The warnings of a state, with nothing but the version filled in. -/
lemma warnAll_eq (version : String) (s : State) :
    warnAll version s = .ofDirectives ((s.said version).map fun m => .echo m.1 m.2) := by
  cases s with
  | installing => rfl
  | resolved => rfl
  | fallback =>
    have hinstall := @warn_eq version "Failed to install \x7bversion\x7d. Remote repository may not be reachable."
      "Failed to install " ". Remote repository may not be reachable." (by decide) (some "red")
    have hselect := @warn_eq version "Using locally available version \x7bversion\x7d, if applicable."
      "Using locally available version " ", if applicable." (by decide) none
    rw [warnAll, warnings, List.foldr_cons, List.foldr_cons, hinstall, hselect]
    rfl
  | failed =>
    have hfailed := @warn_eq version "Unable to use \x7bversion\x7d" "Unable to use " "" (by decide) (some "red")
    rw [String.append_empty] at hfailed
    rw [warnAll, warnings, List.foldr_cons, hfailed]
    rfl

lemma attempt_eq (h : t.command version s = .ok c) :
    t.attempt version s onFailure =
      .directive (.command c { Options.standard with assert := false, timing := s = .installing }) ++
        .ifThen failedTest onFailure := by
  unfold attempt
  rw [h]
  rfl

/-- One try, and what is done where it fails. -/
lemma attemptAll_eq (h : m.advance false = .ok next) : t.attemptAll version m =
    t.attempt version m.state
      (warnAll version next.state ++ if next.isOver then giveUp else t.attemptAll version next) := by
  rw [attemptAll]
  split
  · next e herror =>
    rw [h] at herror
    cases herror
  · next other hother =>
    rw [h] at hother
    cases hother
    rfl

/-- The machine of an installation that fails throughout. -/
lemma attemptAll_start (t : Toolchain) (version : String) : t.attemptAll version .start =
    t.attempt version .installing
      (warnAll version .fallback ++ t.attempt version .fallback (warnAll version .failed ++ giveUp)) := by
  have hfirst : Machine.start.advance false = .ok ⟨.fallback, [.installing, .fallback]⟩ := rfl
  have hsecond : Machine.advance ⟨.fallback, [.installing, .fallback]⟩ false =
    .ok ⟨.failed, [.installing, .fallback, .failed]⟩ := rfl
  rw [attemptAll_eq hfirst, attemptAll_eq hsecond]
  rfl

lemma walk_attempt (holds : String → Bool) (h : t.command version s = .ok c) (succeeded : Bool)
    (rest : List Bool) (failed : Bool) (es : List Event) :
    (t.attempt version s onFailure).walk holds ⟨succeeded :: rest, failed, es⟩ =
      if succeeded then (.finished, ⟨rest, false, es ++ [.command c]⟩)
      else onFailure.walk holds ⟨rest, true, es ++ [.command c]⟩ := by
  have hcommand : Directive.walk ⟨succeeded :: rest, failed, es⟩
      (.command c { Options.standard with assert := false, timing := s = .installing }) =
        (.finished, ⟨rest, !succeeded, es ++ [.command c]⟩) := rfl
  rw [attempt_eq h, Program.walk_append, Program.walk_directive, hcommand, andThen,
    Program.walk_ifThen, Walk.takes, if_pos rfl]
  cases succeeded <;> rfl

lemma walk_warnAll (holds : String → Bool) (s : State) (w : Walk) :
    (warnAll version s ++ p).walk holds w =
      p.walk holds (w.add ((s.said version).map fun m => .message m.1 m.2)) := by
  rw [Program.walk_append, warnAll_eq, Program.walk_messages]
  rfl

/-- A program that goes on from where a machine stands as the machine does. -/
def GoesOn (version : String) (command : State → String) (holds : String → Bool) (p : Program)
    (m : Machine) : Prop :=
  ∀ (outcomes : List Bool) (failed : Bool) (es : List Event),
    m.state.tries ≤ outcomes.length → ∃ (later : List State) (w : Walk),
      (m.replay outcomes).history = m.history ++ later ∧
      p.walk holds ⟨outcomes, failed, es⟩ = ((m.replay outcomes).state.ending, w) ∧
      w.events = es ++ (m.state.tried command ++ later.flatMap (State.events version command))

variable {command : State → String} {holds : String → Bool}

lemma goesOn_giveUp (h : m.state = .failed) : GoesOn version command holds giveUp m := by
  intro outcomes failed es _
  have hover : m.replay outcomes = m := Machine.replay_of_isOver (by rw [Machine.isOver, h]; rfl) outcomes
  rw [hover, h]
  exact ⟨[], ⟨outcomes, true, es⟩, (List.append_nil _).symm, rfl, (List.append_nil _).symm⟩

/-- If the script goes on as the machine does after a failure, then so it does before. -/
lemma goesOn_attempt (h : t.command version m.state = .ok (command m.state)) (hnext : m.advance false = .ok next)
    (hp : GoesOn version command holds p next) :
    GoesOn version command holds (t.attempt version m.state (warnAll version next.state ++ p)) m := by
  intro outcomes failed es hlength
  have htries := Machine.tries_lt_of_advance hnext
  obtain ⟨hover, rfl⟩ := Machine.advance_eq_ok_iff.mp hnext
  obtain ⟨succeeded, rest, rfl⟩ : ∃ succeeded rest, outcomes = succeeded :: rest := by
    cases outcomes with
    | nil => exact absurd hlength (by simpa using Nat.ne_zero_of_lt htries)
    | cons succeeded rest => exact ⟨succeeded, rest, rfl⟩
  have hreplay : m.replay (succeeded :: rest) =
      Machine.replay ⟨m.state.next succeeded, m.history ++ [m.state.next succeeded]⟩ rest := by
    rw [Machine.replay, Machine.advance_of_not_isOver hover]
  have htried : m.state.tried command = [.command (command m.state)] := if_neg (Bool.eq_false_iff.mp hover)
  rw [walk_attempt holds h, hreplay, htried]
  cases succeeded with
  | true =>
    have hresolved : m.state.next true = .resolved := State.next_true hover
    rw [hresolved, Machine.replay_of_isOver rfl rest]
    exact ⟨[.resolved], _, rfl, rfl, rfl⟩
  | false =>
    have hrest : (m.state.next false).tries ≤ rest.length :=
      Nat.le_of_lt_succ (htries.trans_le hlength)
    -- The branch of the failure first says what the machine says on entering the next state.
    obtain ⟨later, w, hhistory, hwalk, hevents⟩ := hp rest true
      (es ++ [.command (command m.state)] ++ ((m.state.next false).said version).map fun m => .message m.1 m.2)
      hrest
    refine ⟨m.state.next false :: later, w, ?_, ?_, ?_⟩
    · rw [hhistory, List.append_assoc]
      rfl
    · rw [if_neg Bool.false_ne_true, walk_warnAll]
      exact hwalk
    · rw [hevents, List.flatMap_cons, State.events]
      simp only [List.append_assoc]

/-- The induction is on the tries that are left to the machine. -/
lemma goesOn_attemptAll (hcommand : ∀ s : State, s.isTerminal = false → t.command version s = .ok (command s))
    (hover : m.isOver = false) : GoesOn version command holds (t.attemptAll version m) m := by
  induction htries : m.state.tries using Nat.strong_induction_on generalizing m with
  | _ tries ih =>
    have hnext := Machine.advance_of_not_isOver hover false
    have hlt := Machine.tries_lt_of_advance hnext
    rw [attemptAll_eq hnext]
    refine goesOn_attempt (hcommand m.state hover) hnext ?_
    split
    · next hlast => exact goesOn_giveUp (State.next_false hover hlast)
    · next hgoes => exact ih _ (htries ▸ hlt) (Bool.eq_false_iff.mpr hgoes) rfl

/-- The whole script of one version. Only a script that has the tool exports its version. -/
lemma walk_bootstrap (hcommand : ∀ s : State, s.isTerminal = false → t.command version s = .ok (command s))
    (henv : t.envVariable ≠ "") {outcomes : List Bool} (houtcomes : 2 ≤ outcomes.length)
    (failed : Bool) (es : List Event) :
    ∃ w, (t.bootstrap version).walk holds ⟨outcomes, failed, es⟩ =
        ((Machine.simulate outcomes).state.ending, w) ∧
      w.events = es ++ ((Machine.simulate outcomes).history.flatMap (State.events version command) ++
        if (Machine.simulate outcomes).state = .failed then [] else [.export t.envVariable version]) := by
  have hgoes : GoesOn version command holds (t.attemptAll version .start) .start :=
    goesOn_attemptAll hcommand rfl
  obtain ⟨later, w, hhistory, hwalk, hevents⟩ := hgoes outcomes failed es houtcomes
  have hsimulate : Machine.start.replay outcomes = Machine.simulate outcomes := rfl
  rw [hsimulate] at hhistory hwalk
  have hall : w.events =
      es ++ (Machine.simulate outcomes).history.flatMap (State.events version command) := by
    rw [hevents, hhistory, List.flatMap_append]
    rfl
  have hlog : (t.bootstrap version).walk holds ⟨outcomes, failed, es⟩ =
      andThen ((Program.directive (.setQuietly t.envVariable version)).walk holds)
        ((Machine.simulate outcomes).state.ending, w) := by
    rw [bootstrap, Program.walk_append, Program.walk_append, ← hwalk]
    rfl
  rw [hlog, State.ending]
  split
  · exact ⟨w, rfl, by rw [hall, List.append_nil]⟩
  · have hname : (some t.envVariable).filter (· ≠ "") = some t.envVariable := by simp [henv]
    refine ⟨w.add [.export t.envVariable version], ?_, ?_⟩
    · rw [andThen, Program.walk_directive, Directive.setQuietly, Directive.walk, hname]
    · rw [Walk.add, hall, List.append_assoc]

lemma pinTest_ne_failedTest (pin : String) : s!"[ -f {pin} ]" ≠ failedTest := by
  show "[ -f " ++ pin ++ " ]" ≠ failedTest
  intro h
  have hthird := congrArg (fun text : String => text.toList[2]?) h
  simp [failedTest, statusVariable] at hthird

/-- The tests choose the version, and nothing else. -/
lemma walk_wanted (t : Toolchain) (version : Option String) (holds : String → Bool) (w : Walk) :
    (t.installVersion version).walk holds w =
      (t.bootstrap (t.wanted version holds)).walk holds (w.add (t.notice version holds)) := by
  unfold installVersion wanted notice
  cases version.filter (· ≠ "") with
  | some version => simp
  | none =>
    cases t.pinFile.filter (· ≠ "") with
    | none => simp
    | some pin =>
      dsimp only
      rw [Program.walk_ifElse, Walk.takes, if_neg (pinTest_ne_failedTest pin)]
      cases holds s!"[ -f {pin} ]" with
      | true =>
        rw [if_pos rfl, if_pos rfl, if_pos rfl, Program.walk_append, Program.walk_directive]
        rfl
      | false =>
        rw [if_neg Bool.false_ne_true, if_neg Bool.false_ne_true, if_neg Bool.false_ne_true, Walk.add_nil]

section Emission

lemma isSound_ofDirectives (ds : List Directive) : (Program.ofDirectives ds).isSound = true := by
  induction ds with
  | nil => rfl
  | cons d ds ih => exact ih

lemma isSound_attempt (h : (t.command version s).isOk = true) :
    (t.attempt version s onFailure).isSound = onFailure.isSound := by
  cases hc : t.command version s with
  | error e =>
    rw [hc] at h
    cases h
  | ok c =>
    rw [attempt_eq hc, Program.isSound_append]
    exact Bool.and_true _

lemma isSound_warnAll (version : String) (s : State) (p : Program) :
    (warnAll version s ++ p).isSound = p.isSound := by
  rw [Program.isSound_append, warnAll_eq, isSound_ofDirectives, Bool.true_and]

lemma isSound_attemptAll (h : ∀ s : State, s.isTerminal = false → (t.command version s).isOk = true)
    (hover : m.isOver = false) : (t.attemptAll version m).isSound = true := by
  induction htries : m.state.tries using Nat.strong_induction_on generalizing m with
  | _ tries ih =>
    have hnext := Machine.advance_of_not_isOver hover false
    have hlt := Machine.tries_lt_of_advance hnext
    rw [attemptAll_eq hnext, isSound_attempt (h m.state hover), isSound_warnAll]
    split
    · rfl
    · next hgoes => exact ih _ (htries ▸ hlt) (Bool.eq_false_iff.mpr hgoes) rfl

lemma isSound_installVersion {version : Option String}
    (h : ∀ v ∈ t.versions version, ∀ s : State, s.isTerminal = false → (t.command v s).isOk = true) :
    (t.installVersion version).isSound = true := by
  have hbootstrap : ∀ v ∈ t.versions version, (t.bootstrap v).isSound = true := by
    intro v hv
    rw [bootstrap, Program.isSound_append, Program.isSound_append, isSound_attemptAll (h v hv) rfl]
    rfl
  unfold versions at hbootstrap
  unfold installVersion
  cases hversion : version.filter (· ≠ "") with
  | some version =>
    rw [hversion] at hbootstrap
    exact hbootstrap version (by simp)
  | none =>
    rw [hversion] at hbootstrap
    cases hpin : t.pinFile.filter (· ≠ "") with
    | none =>
      rw [hpin] at hbootstrap
      exact hbootstrap t.standardVersion (by simp)
    | some pin =>
      rw [hpin] at hbootstrap
      simp only [Program.ifElse, Program.isSound, Program.isSound_append, Program.directive, Bool.true_and,
        Bool.and_true]
      rw [hbootstrap _ (by simp), hbootstrap _ (by simp)]
      rfl

/-- To walk along the lines that the script of a tool leaves in a new builder is to walk through the script. -/
theorem walkAlong_installVersion (t : Toolchain) (version : Option String)
    (hformat : ∀ v ∈ t.versions version, ∀ s : State, s.isTerminal = false → (t.command v s).isOk = true) :
    ∃ b, (t.installVersion version).run Builder.start = (.ok (), b) ∧
      (b.block Builder.rootId).lines = ((t.installVersion version).stretches 0 0).flatMap Stretch.lines ∧
      ∀ (holds : String → Bool) (w : Walk), walkAlong holds 0 (((t.installVersion version).stretches 0 0).map
        Stretch.mark) w = (t.installVersion version).walk holds w :=
  Program.walkAlong_run_of_isSound _ (isSound_installVersion hformat)

end Emission

/-- The script of a tool and the machine of an attempt never disagree. For any outcomes of its
commands the script tries the states that the machine goes through, warns on entering them, stops if
the machine fails, and else exports the version that was wanted. -/
theorem walk_installVersion (t : Toolchain) (version : Option String) (holds : String → Bool)
    (outcomes : List Bool) (henv : t.envVariable ≠ "")
    (hformat : ∀ v ∈ t.versions version, ∀ s : State, s.isTerminal = false → (t.command v s).isOk = true)
    (houtcomes : 2 ≤ outcomes.length) :
    (∃ b, (t.installVersion version).run Builder.start = (.ok (), b) ∧
      (b.block Builder.rootId).nodes = (t.installVersion version).nodes 0) ∧
    ∃ (command : State → String) (w : Walk),
      (∀ s : State, s.isTerminal = false → t.command (t.wanted version holds) s = .ok (command s)) ∧
      (t.installVersion version).walk holds ⟨outcomes, false, []⟩ =
        (if (Machine.simulate outcomes).state = .failed then .stopped else .finished, w) ∧
      w.events = t.notice version holds ++
        ((Machine.simulate outcomes).history.flatMap (State.events (t.wanted version holds) command) ++
          if (Machine.simulate outcomes).state = .failed then []
          else [.export t.envVariable (t.wanted version holds)]) := by
  have hready : Builder.start.IsReady := ⟨Nat.zero_lt_one, rfl⟩
  obtain ⟨b, hrun, hext⟩ := Program.runs_of_isSound (isSound_installVersion hformat) Builder.start hready
  have hcommands : ∀ s : State, ∃ c, s.isTerminal = false → t.command (t.wanted version holds) s = .ok c := by
    intro s
    cases hc : t.command (t.wanted version holds) s with
    | ok c => exact ⟨c, fun _ => rfl⟩
    | error e =>
      refine ⟨"", fun hs => ?_⟩
      have hok := hformat _ (t.wanted_mem_versions version holds) s hs
      rw [hc] at hok
      cases hok
  obtain ⟨command, hcommand⟩ := Classical.skolem.mp hcommands
  obtain ⟨w, hwalk, hevents⟩ := walk_bootstrap hcommand henv houtcomes false (t.notice version holds)
  refine ⟨⟨b, hrun, congrArg Block.nodes hext.current⟩, command, w, hcommand, ?_, hevents⟩
  rw [walk_wanted]
  exact hwalk

/-- Braces in a version are text. Where both tries fail nothing is exported. -/
theorem walk_installVersion_braces :
    let t : Toolchain := ⟨"tool", "get \x7bversion\x7d", "use \x7bversion\x7d", "V", "1.0", some "pin"⟩
    t.envVariable ≠ "" ∧
    (∀ v ∈ t.versions (some "\x7b0\x7d"), ∀ s : State, s.isTerminal = false → (t.command v s).isOk = true) ∧
    2 ≤ [false, false].length ∧
    ∃ w, (t.installVersion (some "\x7b0\x7d")).walk (fun _ => true) ⟨[false, false], false, []⟩ =
        (.stopped, w) ∧
      w.events = [.command "get \x7b0\x7d",
        .message "Failed to install \x7b0\x7d. Remote repository may not be reachable." (some "red"),
        .message "Using locally available version \x7b0\x7d, if applicable." none,
        .command "use \x7b0\x7d", .message "Unable to use \x7b0\x7d" (some "red")] := by
  intro t
  have henv : t.envVariable ≠ "" := by decide
  have hget : withVersion "\x7b0\x7d" "get \x7bversion\x7d" = .ok "get \x7b0\x7d" := by rfl
  have huse : withVersion "\x7b0\x7d" "use \x7bversion\x7d" = .ok "use \x7b0\x7d" := by rfl
  have hformat : ∀ v ∈ t.versions (some "\x7b0\x7d"), ∀ s : State, s.isTerminal = false →
      (t.command v s).isOk = true := by
    intro v hv s hs
    cases List.mem_singleton.mp hv
    cases s with
    | installing => exact congrArg Except.isOk hget
    | fallback => exact congrArg Except.isOk huse
    | failed => cases hs
    | resolved => cases hs
  obtain ⟨-, command, w, hcommand, hwalk, hevents⟩ := walk_installVersion t (some "\x7b0\x7d")
    (fun _ => true) [false, false] henv hformat (by decide)
  have hinstalling : "get \x7b0\x7d" = command .installing :=
    Except.ok.inj (hget.symm.trans (hcommand .installing rfl))
  have hfallback : "use \x7b0\x7d" = command .fallback :=
    Except.ok.inj (huse.symm.trans (hcommand .fallback rfl))
  refine ⟨henv, hformat, by decide, w, hwalk, ?_⟩
  rw [hevents, hinstalling, hfallback]
  rfl

end Toolchain

end JobScript
