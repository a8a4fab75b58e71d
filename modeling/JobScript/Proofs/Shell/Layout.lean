import JobScript.Shell.Render
import Mathlib.Data.List.Basic
import Mathlib.Tactic.Lemma

/-! # The layout of a command

Each line of a command has one role, and the roles come in one order: the fold around everything, the
prompt, the timing around the command and its status, and then the assertion. What a policy adds hangs on
this policy alone, so that switching it off takes just its own lines away. -/

namespace JobScript.Shell

/-- What a line of a command is there for. -/
inductive Role
  | foldBegin
  | prompt
  | timeStart
  | own
  | status
  | timeFinish
  | assertion
  | foldEnd
deriving DecidableEq, Repr

/-- The policies that a command can do without. -/
inductive Policy
  | echo
  | timing
  | assert
  | fold
deriving DecidableEq, Repr

structure Line where
  role : Role
  text : String
deriving DecidableEq, Repr

def Options.without (options : Options) : Policy → Options
  | .echo => { options with echo := false }
  | .timing => { options with timing := false }
  | .assert => { options with assert := false }
  | .fold => { options with fold := none }

namespace Role

/-- From the first line of a command to the last one. -/
def order : List Role :=
  [.foldBegin, .prompt, .timeStart, .own, .status, .timeFinish, .assertion, .foldEnd]

/-- The policy that brings the lines of a role. The command and its status are always there. -/
def policy? : Role → Option Policy
  | .foldBegin => some .fold
  | .prompt => some .echo
  | .timeStart => some .timing
  | .own => none
  | .status => none
  | .timeFinish => some .timing
  | .assertion => some .assert
  | .foldEnd => some .fold

def lines (command : String) (options : Options) (timer : Int) : Role → List String
  | .foldBegin => options.foldName.toList.map Shell.foldBegin
  | .prompt => if options.echo then [Shell.prompt command] else []
  | .timeStart => if options.timing then ["build_time_start " ++ toString timer] else []
  | .own => if options.retry then ["build_retry " ++ Word.quote command] else linesOr ":" command
  | .status => [statusVariable ++ "=$?"]
  | .timeFinish => if options.timing then ["build_time_finish"] else []
  | .assertion => if options.assert then ["build_assert " ++ Word.quote command] else []
  | .foldEnd => options.foldName.toList.map Shell.foldEnd

end Role

/-- The lines of some roles, one role after the other. -/
def laid (command : String) (options : Options) (timer : Int) (roles : List Role) : List Line :=
  roles.flatMap fun role => (role.lines command options timer).map (⟨role, ·⟩)

def layout (command : String) (options : Options) (timer : Int) : List Line :=
  laid command options timer Role.order

variable (command : String) (options : Options) (timer : Int)

lemma text_laid (roles : List Role) : (laid command options timer roles).map Line.text =
    roles.flatMap (Role.lines command options timer) := by
  unfold laid
  rw [List.map_flatMap]
  refine List.flatMap_congr fun role _ => ?_
  rw [List.map_map]
  exact List.map_id _

lemma laid_cons (role : Role) (roles : List Role) : laid command options timer (role :: roles) =
    (role.lines command options timer).map (⟨role, ·⟩) ++ laid command options timer roles :=
  List.flatMap_cons

lemma laid_append (roles more : List Role) : laid command options timer (roles ++ more) =
    laid command options timer roles ++ laid command options timer more := List.flatMap_append

lemma role_of_mem_laid {roles : List Role} {line : Line} (h : line ∈ laid command options timer roles) :
    line.role ∈ roles := by
  obtain ⟨role, hrole, hline⟩ := List.mem_flatMap.mp h
  obtain ⟨text, -, rfl⟩ := List.mem_map.mp hline
  exact hrole

/-- The nesting of the policies comes to the roles in their order. -/
lemma text_layout :
    (layout command options timer).map Line.text = renderCommand command options timer := by
  have hfold : ∀ lines, folded options lines = Role.lines command options timer .foldBegin ++ lines ++
      Role.lines command options timer .foldEnd := by
    intro lines
    unfold folded
    cases h : options.foldName <;> simp [Role.lines, h]
  have htimed : ∀ lines, timed timer options lines = Role.lines command options timer .timeStart ++ lines ++
      Role.lines command options timer .timeFinish := by
    intro lines
    unfold timed
    cases h : options.timing <;> simp [Role.lines, h]
  unfold layout renderCommand guarded
  rw [text_laid, hfold, htimed]
  simp [Role.order, Role.lines, attempt, assertion]

/-- Without the prompt it is what the policies alone make of a command. -/
lemma text_layout_without_echo :
    (layout command (options.without .echo) timer).map Line.text = wrap command options timer := by
  rw [text_layout]
  rfl

lemma lines_without (policy : Policy) (role : Role) : role.lines command (options.without policy) timer =
    if role.policy? = some policy then [] else role.lines command options timer := by
  cases policy <;> cases role <;> rfl

/-- Whoever asks a line for its role asks for some of the roles. -/
lemma filter_laid (keep : Role → Bool) (roles : List Role) :
    (laid command options timer roles).filter (keep ·.role) =
      laid command options timer (roles.filter keep) := by
  induction roles with
  | nil => rfl
  | cons role roles ih =>
    rw [laid_cons, List.filter_append, ih, List.filter_map]
    by_cases h : keep role = true
    · rw [List.filter_cons_of_pos h, laid_cons]
      simp [Function.comp_def, h]
    · rw [List.filter_cons_of_neg h]
      simp [Function.comp_def, h]

lemma laid_without (policy : Policy) (roles : List Role) :
    laid command (options.without policy) timer roles =
      laid command options timer (roles.filter (·.policy? ≠ some policy)) := by
  induction roles with
  | nil => rfl
  | cons role roles ih =>
    rw [laid_cons, ih, lines_without]
    by_cases h : role.policy? = some policy
    · rw [List.filter_cons_of_neg (by simpa using h), if_pos h]
      rfl
    · rw [List.filter_cons_of_pos (by simpa using h), if_neg h, laid_cons]

lemma layout_without (policy : Policy) : layout command (options.without policy) timer =
    (layout command options timer).filter (·.role.policy? ≠ some policy) := by
  unfold layout
  rw [filter_laid command options timer (·.policy? ≠ some policy)]
  exact laid_without ..

lemma laid_own : laid command options timer [.own] =
    (if options.retry then ["build_retry " ++ Word.quote command] else linesOr ":" command).map (⟨.own, ·⟩) :=
  List.append_nil _

/-- Only the command's own lines hang on whether it is tried again. -/
lemma laid_retry {roles : List Role} (h : .own ∉ roles) (retry : Bool) :
    laid command { options with retry := retry } timer roles = laid command options timer roles := by
  refine List.flatMap_congr fun role hrole => ?_
  cases role with
  | own => exact absurd hrole h
  | _ => rfl

/-- The lines of a command are those of its policies in their order. A policy that is switched off takes
its own lines away, and no others; trying again changes nothing but the command's own lines; and the
status is taken right after these, before the timing ends and the assertion comes, with the fold around
it all and the prompt at its head. -/
theorem renderCommand_layout :
    (layout command options timer).map Line.text = renderCommand command options timer ∧
    (∀ policy, layout command (options.without policy) timer =
      (layout command options timer).filter (·.role.policy? ≠ some policy)) ∧
    layout command { options with fold := some "" } timer = layout command (options.without .fold) timer ∧
    (∃ above below : List Line, (∀ line ∈ above ++ below, line.role ≠ .own) ∧
      ∀ retry, layout command { options with retry := retry } timer = above ++
        (if retry then ["build_retry " ++ Word.quote command] else linesOr ":" command).map (⟨.own, ·⟩) ++
          below) ∧
    layout command options timer =
      options.foldName.toList.map (⟨.foldBegin, foldBegin ·⟩) ++
        (if options.echo then [⟨.prompt, prompt command⟩] else []) ++
        (if options.timing then [⟨.timeStart, "build_time_start " ++ toString timer⟩] else []) ++
        ((if options.retry then ["build_retry " ++ Word.quote command] else linesOr ":" command).map
          (⟨.own, ·⟩)) ++
        [⟨.status, statusVariable ++ "=$?"⟩] ++
        (if options.timing then [⟨.timeFinish, "build_time_finish"⟩] else []) ++
        (if options.assert then [⟨.assertion, "build_assert " ++ Word.quote command⟩] else []) ++
        options.foldName.toList.map (⟨.foldEnd, foldEnd ·⟩) := by
  refine ⟨text_layout .., layout_without _ _ _, rfl, ?_, ?_⟩
  · let earlier : List Role := [.foldBegin, .prompt, .timeStart]
    let later : List Role := [.status, .timeFinish, .assertion, .foldEnd]
    refine ⟨laid command options timer earlier, laid command options timer later, fun line hline => ?_,
      fun retry => ?_⟩
    · rw [← laid_append] at hline
      have hrole := role_of_mem_laid _ _ _ hline
      intro heq
      rw [heq] at hrole
      revert hrole
      decide
    · have horder : Role.order = earlier ++ [.own] ++ later := rfl
      unfold layout
      rw [horder, laid_append, laid_append, laid_own, laid_retry _ _ _ (by decide),
        laid_retry _ _ _ (by decide)]
      rfl
  · simp only [layout, laid, Role.order, Role.lines, List.flatMap_cons, List.flatMap_nil, List.append_nil,
      List.append_assoc, List.map_map, Function.comp_def, apply_ite (List.map _), List.map_cons, List.map_nil]

end JobScript.Shell
