import JobScript.Proofs.Shell.Conservation
import JobScript.Proofs.Shell.Layout
import JobScript.Proofs.Text.Line

/-! # The branches of a script

A branch without lines gets one that does nothing. Whether it has lines is asked of their number alone, so
a branch that has nothing but blank lines is left with these. -/

namespace JobScript.Shell

open Text (isBlankLine isBlankLine_append isBlankLine_append_of_seen)

lemma isBlankLine_indentedBy (depth : Nat) (line : String) :
    isBlankLine (indentedBy depth line) = isBlankLine line := by
  have hmargin : isBlankLine (String.ofList (List.replicate (2 * depth) ' ')) = true := by
    rw [isBlankLine, String.toList_ofList, List.all_replicate]
    split
    · rfl
    · rfl
  unfold indentedBy
  split
  · next h => rw [h]
  · rw [isBlankLine_append, hmargin, Bool.true_and]

lemma all_isBlankLine_indentedBy (depth : Nat) (lines : List String) :
    (lines.map (indentedBy depth)).all isBlankLine = lines.all isBlankLine := by
  rw [List.all_map]
  simp only [Function.comp_def, isBlankLine_indentedBy]

namespace Directive

/-- Nothing of it can be seen in the script. -/
def isBlank : Directive → Bool
  | .raw text => isBlankLine text
  | d => d.isSilent

lemma all_isBlankLine_render (d : Directive) (timer : Int) : (d.render timer).all isBlankLine = d.isBlank := by
  cases d with
  | command text options =>
    have hstatus : statusVariable ++ "=$?" ∈ renderCommand text options timer := by
      rw [← text_layout, layout, text_laid]
      exact List.mem_flatMap.mpr ⟨.status, by decide, List.mem_singleton_self _⟩
    exact List.all_eq_false.mpr ⟨_, hstatus, by decide⟩
  | «export» name value shown =>
    have hexport : ∀ rest, isBlankLine ("export " ++ rest) = false :=
      isBlankLine_append_of_seen (by decide)
    simp only [render, renderExport, isBlank, isSilent, Build.skipped?]
    cases name.filter (· ≠ "") with
    | none => rfl
    | some name => cases shown <;> simp [String.append_assoc, hexport]
  | echo message colour =>
    have hprintf : ∀ rest, isBlankLine ("printf '" ++ rest) = false :=
      isBlankLine_append_of_seen (by decide)
    simp [render, renderEcho, isBlank, isSilent, Build.skipped?, String.append_assoc, hprintf]
  | raw text =>
    simp only [render, linesOr, isBlank]
    rw [← Text.all_isBlankLine_lines text]
    cases Text.lines text <;> rfl

end Directive

namespace Program

/-- Directives are all that a program has, and each of them is as asked for. -/
def onlyEmits (ask : Directive → Bool) : Program → Bool
  | .nil => true
  | .emit d rest => ask d && rest.onlyEmits ask
  | .note _ rest => rest.onlyEmits ask
  | .fail _ => true
  | .branch .. | .choice .. | .fold .. => false

lemma lines_eq_nil_iff (p : Program) (before : Nat) :
    p.lines before = [] ↔ p.onlyEmits Directive.isSilent = true := by
  induction p generalizing before with
  | nil => exact iff_of_true rfl rfl
  | emit d rest ih =>
    rw [lines, onlyEmits, List.append_eq_nil_iff, Directive.render_eq_nil_iff, ih, Bool.and_eq_true]
  | note record rest ih => exact ih before
  | fail failure => exact iff_of_true rfl rfl
  | branch => simp [lines, onlyEmits]
  | choice => simp [lines, onlyEmits]
  | fold => simp [lines, onlyEmits]

lemma all_isBlankLine_lines (p : Program) (before : Nat) :
    (p.lines before).all isBlankLine = p.onlyEmits Directive.isBlank := by
  have hif : ∀ rest, isBlankLine ("if " ++ rest) = false := isBlankLine_append_of_seen (by decide)
  have hfold : ∀ name, isBlankLine (foldBegin name) = false := fun name =>
    isBlankLine_append_of_seen (by decide) (Word.quote name)
  induction p generalizing before with
  | nil => rfl
  | emit d rest ih => rw [lines, onlyEmits, List.all_append, Directive.all_isBlankLine_render, ih]
  | note record rest ih => exact ih before
  | fail failure => rfl
  | branch => simp [lines, onlyEmits, String.append_assoc, hif]
  | choice => simp [lines, onlyEmits, String.append_assoc, hif]
  | fold => simp [lines, onlyEmits, hfold]

end Program

/-- One branch of an `if`, with the lines that open and close it. It stands in so many branches, after so
many timed commands. -/
structure Branch where
  depth : Nat
  before : Nat
  opening : String
  closing : String
  body : Program

namespace Branch

def lines (branch : Branch) : List String :=
  (Program.branchText (branch.body.lines branch.before)).map (indentedBy branch.depth)

def framed (branch : Branch) : List String :=
  [indentedBy branch.depth branch.opening] ++ branch.lines ++ [indentedBy branch.depth branch.closing]

lemma all_isBlankLine_lines (branch : Branch) : branch.lines.all isBlankLine =
    (branch.body.onlyEmits Directive.isBlank && !branch.body.onlyEmits Directive.isSilent) := by
  rw [lines, all_isBlankLine_indentedBy, Program.branchText, all_isBlankLine_indentedBy,
    ← Program.all_isBlankLine_lines _ branch.before]
  split
  · next h =>
    rw [(Program.lines_eq_nil_iff _ _).mp h, h]
    rfl
  · next h =>
    rw [Program.lines_eq_nil_iff, Bool.not_eq_true] at h
    rw [h]
    simp

end Branch

namespace Program

/-- The branches of a program, from the outside to the inside and from the first to the last. -/
def branches (depth before : Nat) : Program → List Branch
  | .nil => []
  | .emit d rest => rest.branches depth (before + d.timers)
  | .note _ rest => rest.branches depth before
  | .fail _ => []
  | .branch test body rest =>
    ⟨depth, before, "if " ++ test ++ "; then", "fi", body⟩ :: body.branches (depth + 1) before ++
      rest.branches depth (before + body.timers)
  | .choice test body alternative rest =>
    ⟨depth, before, "if " ++ test ++ "; then", "else", body⟩ :: body.branches (depth + 1) before ++
      ⟨depth, before + body.timers, "else", "fi", alternative⟩ ::
        alternative.branches (depth + 1) (before + body.timers) ++
      rest.branches depth (before + body.timers + alternative.timers)
  | .fold _ body rest => body.branches depth before ++ rest.branches depth (before + body.timers)

lemma infix_branchText {depth : Nat} {sub lines : List String} (hne : sub ≠ [])
    (h : sub <:+: lines.map (indentedBy (depth + 1))) :
    sub <:+: (branchText lines).map (indentedBy depth) := by
  have hlines : lines ≠ [] := by
    rintro rfl
    exact hne (List.infix_nil.mp h)
  rwa [← branchLines_eq, Block.map_branchLines, if_neg hlines]

/-- A branch stands with its frame among the lines of the program. -/
lemma framed_infix {p : Program} {depth before : Nat} {branch : Branch}
    (h : branch ∈ p.branches depth before) : branch.framed <:+: (p.lines before).map (indentedBy depth) := by
  have hne : branch.framed ≠ [] := by simp [Branch.framed]
  induction p generalizing depth before with
  | nil => cases h
  | emit d rest ih =>
    rw [lines, List.map_append]
    exact List.infix_append_of_infix_right (ih h)
  | note record rest ih => exact ih h
  | fail failure => cases h
  | branch test body rest ihBody ih =>
    simp only [lines, List.map_append]
    rcases List.mem_append.mp h with h | h
    · refine List.infix_append_of_infix_left ?_
      rcases List.mem_cons.mp h with rfl | h
      · exact List.infix_refl _
      · exact List.infix_append_of_infix_left
          (List.infix_append_of_infix_right (infix_branchText hne (ihBody h)))
    · exact List.infix_append_of_infix_right (ih h)
  | choice test body alternative rest ihBody ihAlternative ih =>
    simp only [lines, List.map_append]
    rcases List.mem_append.mp h with h | h
    · refine List.infix_append_of_infix_left ?_
      rcases List.mem_append.mp h with h | h
      · refine List.infix_append_of_infix_left (List.infix_append_of_infix_left ?_)
        rcases List.mem_cons.mp h with rfl | h
        · exact List.infix_refl _
        · exact List.infix_append_of_infix_left
            (List.infix_append_of_infix_right (infix_branchText hne (ihBody h)))
      · rcases List.mem_cons.mp h with rfl | h
        · simp only [List.append_assoc]
          refine List.infix_append_of_infix_right (List.infix_append_of_infix_right ?_)
          rw [← List.append_assoc]
          exact List.infix_refl _
        · exact List.infix_append_of_infix_left
            (List.infix_append_of_infix_right (infix_branchText hne (ihAlternative h)))
    · exact List.infix_append_of_infix_right (ih h)
  | fold name body rest ihBody ih =>
    simp only [lines, List.map_append]
    rcases List.mem_append.mp h with h | h
    · exact List.infix_append_of_infix_left
        (List.infix_append_of_infix_left (List.infix_append_of_infix_right (ihBody h)))
    · exact List.infix_append_of_infix_right (ih h)

/-- A sound program compiles to its lines, among which each of its branches stands with its frame. A branch
shows something unless all that it does is to emit blank directives, some of which have lines. A branch
without any lines does show something, as it gets a line that does nothing. -/
theorem seen_branches (p : Program) (hp : p.isSound = true) :
    ∃ b b', p.run Builder.start = (.ok (), b) ∧
      Build.compile b = (.ok (Text.unlines (p.lines 0)), b') ∧
      ∀ branch ∈ p.branches 0 0, branch.framed <:+: p.lines 0 ∧
        ((∃ line ∈ branch.lines, isBlankLine line = false) ↔
          (branch.body.onlyEmits Directive.isBlank = true →
            branch.body.onlyEmits Directive.isSilent = true)) := by
  obtain ⟨b, hrun, hext⟩ := runs_of_isSound hp Builder.start Builder.isReady_start
  have hcompile := Build.compile_of_extends hext
  rw [flatMap_render_nodes] at hcompile
  refine ⟨b, _, hrun, hcompile, fun branch hbranch => ⟨?_, ?_⟩⟩
  · have hframed := framed_infix hbranch
    rwa [indentedBy_zero, List.map_id] at hframed
  · have hblank := branch.all_isBlankLine_lines
    rw [Bool.eq_iff_iff] at hblank
    have hseen : (∃ line ∈ branch.lines, isBlankLine line = false) ↔ ¬ branch.lines.all isBlankLine = true := by
      simp
    rw [hseen, hblank]
    simp

/-- In a fold in a branch: two branches that emit nothing but an export without a name, and an alternative
with a blank line after its command. -/
theorem seen_branches_nested :
    let blank := Directive.raw "\n"
    let silent := Directive.setQuietly "" "1"
    let p := ifThen "t" (folded "f" (ifThen "u" (.directive silent) ++
      ifElse "v" (.directive silent) (ofDirectives [.run "make", blank])))
    p.isSound = true ∧ (p.branches 0 0).length = 4 ∧
    ∀ branch ∈ p.branches 0 0, branch.framed <:+: p.lines 0 ∧
      ∃ line ∈ branch.lines, isBlankLine line = false := by
  intro blank silent p
  have hbodies : ∀ branch ∈ p.branches 0 0, branch.body.onlyEmits Directive.isBlank = true →
      branch.body.onlyEmits Directive.isSilent = true := by decide
  obtain ⟨-, -, -, -, hall⟩ := seen_branches p rfl
  refine ⟨rfl, rfl, fun branch hbranch => ?_⟩
  obtain ⟨hframed, hseen⟩ := hall branch hbranch
  exact ⟨hframed, hseen.mpr (hbodies branch hbranch)⟩

/-- A blank line is all that there is between `then` and `fi`, where a raw text without characters is all
that the branch emits. -/
theorem seen_branches_blank :
    let p := ifThen "t" (.directive (.raw ""))
    p.isSound = true ∧
    (∃ b b', p.run Builder.start = (.ok (), b) ∧ Build.compile b = (.ok "if t; then\n\nfi\n", b')) ∧
    ∃ branch ∈ p.branches 0 0, branch.lines = [""] ∧ ¬ ∃ line ∈ branch.lines, isBlankLine line = false := by
  refine ⟨rfl, ⟨_, _, rfl, rfl⟩, _, List.mem_singleton_self _, rfl, ?_⟩
  decide

end Program

end JobScript.Shell
