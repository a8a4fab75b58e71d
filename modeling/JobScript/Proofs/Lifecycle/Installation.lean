import JobScript.Proofs.Lifecycle.Emission
import Mathlib

/-! # Commands that install

Each command of the configuration has a fold of its own, with all that concerns this command and nothing
else. No two folds have the same name, and their timers go by numbers in a row. -/

namespace JobScript.Lifecycle

open Shell

/-- The name of the fold at a place among so many. -/
def foldName (count place : Nat) : String :=
  if count = 1 then "install" else "install." ++ toString (place + 1)

/-- A command in a fold of its own: it is shown, timed with its status taken, and asserted. -/
def foldLines (name command : String) (timer : Nat) : List String :=
  ["build_fold begin " ++ name, prompt command, "build_time_start " ++ toString timer] ++
    linesOr ":" command ++
    ["build_result=$?", "build_time_finish", "build_assert " ++ Word.quote command, "build_fold end " ++ name]

/-- The folds of some commands, one after the other. -/
def installLines (commands : List String) (before : Nat) : List String :=
  (commands.mapIdx fun place command =>
    foldLines (foldName commands.length place) command (before + 1 + place)).flatten

section Name

variable {count place other : Nat}

lemma isSafe_of_isDigit {c : Char} (h : c.isDigit = true) : Word.isSafe c = true := by
  simp only [Char.isDigit, Bool.and_eq_true, decide_eq_true_eq] at h
  have hlow : '0' ≤ c := h.1
  have hhigh : c ≤ '9' := h.2
  simp [Word.isSafe, hlow, hhigh]

/-- The names need no quotes. -/
lemma quote_foldName (count place : Nat) : Word.quote (foldName count place) = foldName count place := by
  unfold foldName
  split
  · decide
  · have hword : "install.".toList.all Word.isSafe = true := by decide
    have hsafe : ∀ c ∈ ("install." ++ toString (place + 1)).toList, Word.isSafe c = true := by
      intro c hc
      rw [String.toList_append, List.mem_append] at hc
      rcases hc with hc | hc
      · exact List.all_eq_true.mp hword c hc
      · exact isSafe_of_isDigit (Nat.isDigit_of_mem_toDigits (by decide) (by decide) (Nat.toList_repr ▸ hc))
    rw [Word.quote, Word.encode_of_isSafe (by simp) hsafe, String.ofList_toList]

lemma foldName_inj (hplace : place < count) (hother : other < count)
    (h : foldName count place = foldName count other) : place = other := by
  unfold foldName at h
  split at h
  · omega
  · have hnumeral : (place + 1).repr = (other + 1).repr := (String.append_right_inj _).mp h
    have hnumber := Nat.repr_injective hnumeral
    omega

lemma nodup_foldNames (count : Nat) : ((List.range count).map (foldName count)).Nodup := by
  refine List.Nodup.map_on (fun place hplace other hother h => ?_) List.nodup_range
  exact foldName_inj (List.mem_range.mp hplace) (List.mem_range.mp hother) h

end Name

lemma installFold_eq (count place : Nat) : installFold count place = foldName count place := rfl

lemma foldName_ne_empty (count place : Nat) : foldName count place ≠ "" := by
  unfold foldName
  split
  · decide
  · simp

lemma render_installCommand (command : String) (count place timer : Nat) :
    (Directive.command command { Options.standard with fold := some (installFold count place) }).render timer =
      foldLines (foldName count place) command timer := by
  have hname : (some (foldName count place)).filter (· ≠ "") = some (foldName count place) := by
    simp [foldName_ne_empty]
  have hbegin : foldBegin (foldName count place) = "build_fold begin " ++ foldName count place := by
    show "build_fold begin " ++ Word.quote (foldName count place) = _
    rw [quote_foldName]
  have hend : foldEnd (foldName count place) = "build_fold end " ++ foldName count place := by
    show "build_fold end " ++ Word.quote (foldName count place) = _
    rw [quote_foldName]
  have hstatus : statusVariable ++ "=$?" = "build_result=$?" := rfl
  have htimer : toString (timer : Int) = toString timer := rfl
  rw [installFold_eq, Directive.render, renderCommand, folded, Options.foldName, hname]
  simp [foldLines, hbegin, hend, guarded, timed, attempt, assertion, Options.standard, hstatus, htimer]

lemma isTimed_of_mem {commands : List String} {d : Directive} (h : d ∈ commands.mapIdx fun place command =>
    .command command { Options.standard with fold := some (installFold commands.length place) }) :
    d.isTimed = true := by
  obtain ⟨place, hlt, rfl⟩ := List.mem_mapIdx.mp h
  rfl

lemma lines_installCommands (commands : List String) :
    (installCommands commands).lines = installLines commands := by
  funext before
  rw [installCommands, Program.lines_ofDirectives fun d => isTimed_of_mem, List.mapIdx_mapIdx]
  simp only [Function.comp_def, render_installCommand]
  rfl

lemma timers_installCommands (commands : List String) :
    (installCommands commands).timers = commands.length := by
  rw [installCommands, Program.timers_ofDirectives fun d => isTimed_of_mem, List.length_mapIdx]

/-- The commands of a configuration stand in the script in their order, each in a fold of its own with the
next timer. The folds have different names, and without commands there is nothing. -/
theorem emits_install (config : Config) :
    let commands := config.install.getD []
    (defaultHook .install).Emits config (fun before => (commands.mapIdx fun place command =>
      foldLines (foldName commands.length place) command (before + 1 + place)).flatten) commands.length ∧
    ((List.range commands.length).map (foldName commands.length)).Nodup ∧
    (config.install = none ∨ config.install = some [] →
      (defaultHook .install).Emits config (fun _ => []) 0) := by
  intro commands
  have hemits : (defaultHook .install).Emits config (installCommands commands).lines
      (installCommands commands).timers := Hook.emits_of_program rfl (Toolchain.isSound_ofDirectives _)
  rw [lines_installCommands, timers_installCommands] at hemits
  refine ⟨hemits, nodup_foldNames _, fun hnone => ?_⟩
  have hempty : commands = [] := by
    show config.install.getD [] = []
    rcases hnone with hnone | hnone <;> rw [hnone] <;> rfl
  rw [hempty] at hemits
  exact hemits

/-- A command that comes twice and an empty one have folds of their own. -/
theorem emits_install_repeated :
    let config : Config := ⟨"generic", none, [], "", [], some ["npm ci", "", "npm ci"], none, [], none⟩
    ∃ nodes b, runSteps ((defaultHook .install).steps config) .start = (.ok (), b) ∧
      Builder.start.Extends nodes 3 b ∧ nodes.flatMap Node.render =
        foldLines "install.1" "npm ci" 1 ++ foldLines "install.2" "" 2 ++ foldLines "install.3" "npm ci" 3 := by
  intro config
  obtain ⟨hemits, -⟩ := emits_install config
  obtain ⟨nodes, b, hrun, hext, hlines⟩ := hemits .start Builder.isReady_start
  refine ⟨nodes, b, hrun, hext, hlines.trans ?_⟩
  decide

end JobScript.Lifecycle
