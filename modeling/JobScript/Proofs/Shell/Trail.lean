import JobScript.Proofs.Shell.Conservation
import JobScript.Proofs.Shell.Walk

/-! # Walks along the lines of a script

A block holds whatever stands in branches as lines, with the frame of each branch around them. The walk along
these lines passes over a branch that is not taken, up to the line that ends it. It is the walk through the
program that the lines come from. -/

namespace JobScript.Shell

/-- What some lines in a row are. A frame is nothing to the walk. -/
inductive Mark
  | directive (d : Directive) (timer : Nat)
  | opening (test : String)
  | alternative
  | closing
  | frame (line : String)
deriving DecidableEq, Repr

def Mark.text : Mark → List String
  | .directive d timer => d.render timer
  | .opening test => ["if " ++ test ++ "; then"]
  | .alternative => ["else"]
  | .closing => ["fi"]
  | .frame line => [line]

/-- Some lines in a row, in so many branches. -/
structure Stretch where
  depth : Nat
  mark : Mark
deriving DecidableEq, Repr

def Stretch.lines (s : Stretch) : List String := s.mark.text.map (indentedBy s.depth)

/-- Passes over lines as long as a branch around them is not taken; `skipped` counts that one and all that are
open in it. -/
def walkAlong (holds : String → Bool) : Nat → List Mark → Walk → Ending × Walk
  | _, [], w => (.finished, w)
  | 0, .directive d _ :: rest, w => andThen (walkAlong holds 0 rest) (d.walk w)
  | 0, .opening test :: rest, w => walkAlong holds (if w.takes holds test then 0 else 1) rest w
  | 0, .alternative :: rest, w => walkAlong holds 1 rest w
  | 0, .closing :: rest, w => walkAlong holds 0 rest w
  | 0, .frame _ :: rest, w => walkAlong holds 0 rest w
  | skipped + 1, .directive _ _ :: rest, w => walkAlong holds (skipped + 1) rest w
  | skipped + 1, .opening _ :: rest, w => walkAlong holds (skipped + 2) rest w
  | skipped + 1, .alternative :: rest, w =>
    walkAlong holds (if skipped = 0 then 0 else skipped + 1) rest w
  | skipped + 1, .closing :: rest, w => walkAlong holds skipped rest w
  | skipped + 1, .frame _ :: rest, w => walkAlong holds (skipped + 1) rest w

namespace Program

/-- A branch without lines has one that does nothing. -/
def filler (depth : Nat) (lines : List String) : List Stretch :=
  if lines = [] then [⟨depth + 1, .frame ":"⟩] else []

/-- The lines of a program that stands in so many branches, after so many timed commands. -/
def stretches (depth before : Nat) : Program → List Stretch
  | .nil => []
  | .emit d rest => [⟨depth, .directive d (before + 1)⟩] ++ rest.stretches depth (before + d.timers)
  | .note _ rest => rest.stretches depth before
  | .fail _ => []
  | .branch test body rest =>
    [⟨depth, .opening test⟩] ++ filler depth (body.lines before) ++ body.stretches (depth + 1) before ++
      [⟨depth, .closing⟩] ++ rest.stretches depth (before + body.timers)
  | .choice test body alternative rest =>
    [⟨depth, .opening test⟩] ++ filler depth (body.lines before) ++ body.stretches (depth + 1) before ++
      [⟨depth, .alternative⟩] ++ filler depth (alternative.lines (before + body.timers)) ++
      alternative.stretches (depth + 1) (before + body.timers) ++
      [⟨depth, .closing⟩] ++ rest.stretches depth (before + body.timers + alternative.timers)
  | .fold name body rest =>
    [⟨depth, .frame (foldBegin name)⟩] ++ body.stretches depth before ++
      [⟨depth, .frame (foldEnd name)⟩] ++ rest.stretches depth (before + body.timers)

section Text

lemma lines_filler {depth : Nat} {lines : List String} {inner : List Stretch}
    (h : inner.flatMap Stretch.lines = lines.map (indentedBy (depth + 1))) :
    (filler depth lines).flatMap Stretch.lines ++ inner.flatMap Stretch.lines =
      (branchText lines).map (indentedBy depth) := by
  rw [h, ← branchLines_eq, Block.map_branchLines, filler]
  split
  · next hlines =>
    rw [hlines]
    rfl
  · rfl

/-- The stretches of a program are its lines, as deep as it stands. -/
theorem lines_stretches (p : Program) (depth before : Nat) :
    (p.stretches depth before).flatMap Stretch.lines = (p.lines before).map (indentedBy depth) := by
  induction p generalizing depth before with
  | nil => rfl
  | emit d rest ih =>
    simp [stretches, lines, Stretch.lines, Mark.text, ih]
  | note record rest ih => exact ih depth before
  | fail failure => rfl
  | branch test body rest ihBody ih =>
    have hbody := lines_filler (ihBody (depth + 1) before)
    simp only [stretches, lines, List.flatMap_append, List.map_append, ← hbody, ih, List.append_assoc]
    rfl
  | choice test body alternative rest ihBody ihAlternative ih =>
    have hbody := lines_filler (ihBody (depth + 1) before)
    have halternative := lines_filler (ihAlternative (depth + 1) (before + body.timers))
    simp only [stretches, lines, List.flatMap_append, List.map_append, ← hbody, ← halternative, ih,
      List.append_assoc]
    rfl
  | fold name body rest ihBody ih =>
    simp only [stretches, lines, List.flatMap_append, List.map_append, ihBody, ih]
    rfl

end Text

section Marks

variable (depth before : Nat) (test name : String) (body alternative rest : Program) (later : List Mark)

/-- The marks of a program that stands in so many branches, after so many timed commands. -/
def marks (p : Program) : List Mark := (p.stretches depth before).map Stretch.mark

def fillerMarks (p : Program) : List Mark := (filler depth (p.lines before)).map Stretch.mark

lemma marks_branch : (branch test body rest).marks depth before ++ later =
    .opening test :: (body.fillerMarks depth before ++ (body.marks (depth + 1) before ++
      .closing :: (rest.marks depth (before + body.timers) ++ later))) := by
  simp [marks, fillerMarks, stretches]

lemma marks_choice : (choice test body alternative rest).marks depth before ++ later =
    .opening test :: (body.fillerMarks depth before ++ (body.marks (depth + 1) before ++
      .alternative :: (alternative.fillerMarks depth (before + body.timers) ++
        (alternative.marks (depth + 1) (before + body.timers) ++
          .closing :: (rest.marks depth (before + body.timers + alternative.timers) ++ later))))) := by
  simp [marks, fillerMarks, stretches]

lemma marks_fold : (fold name body rest).marks depth before ++ later =
    .frame (foldBegin name) :: (body.marks depth before ++
      .frame (foldEnd name) :: (rest.marks depth (before + body.timers) ++ later)) := by
  simp [marks, stretches]

end Marks

variable {holds : String → Bool}

lemma walkAlong_filler (p : Program) (skipped depth before : Nat) (later : List Mark) (w : Walk) :
    walkAlong holds skipped (p.fillerMarks depth before ++ later) w = walkAlong holds skipped later w := by
  unfold fillerMarks filler
  split
  · cases skipped <;> rfl
  · rfl

/-- What is passed over brings the walk nowhere: all branches that it opens it closes. -/
lemma walkAlong_skipped (p : Program) (depth before skipped : Nat) (later : List Mark) (w : Walk) :
    walkAlong holds (skipped + 1) (p.marks depth before ++ later) w =
      walkAlong holds (skipped + 1) later w := by
  induction p generalizing depth before skipped later with
  | nil => rfl
  | emit d rest ih => exact ih depth (before + d.timers) skipped later
  | note record rest ih => exact ih depth before skipped later
  | fail failure => rfl
  | branch test body rest ihBody ih =>
    rw [marks_branch, walkAlong, walkAlong_filler, ihBody, walkAlong, ih]
  | choice test body alternative rest ihBody ihAlternative ih =>
    rw [marks_choice, walkAlong, walkAlong_filler, ihBody, walkAlong, if_neg (Nat.succ_ne_zero skipped),
      walkAlong_filler, ihAlternative, walkAlong, ih]
  | fold name body rest ihBody ih => rw [marks_fold, walkAlong, ihBody, walkAlong, ih]

/-- Along the lines of a program one walks as through the program itself. -/
theorem walkAlong_marks {p : Program} (hp : p.isSound = true) (depth before : Nat) (later : List Mark) (w : Walk) :
    walkAlong holds 0 (p.marks depth before ++ later) w =
      andThen (walkAlong holds 0 later) (p.walk holds w) := by
  induction p generalizing depth before later w with
  | nil => rfl
  | emit d rest ih =>
    rw [walk, andThen_andThen]
    exact congrArg (andThen · _) (funext (ih hp depth (before + d.timers) later))
  | note record rest ih => exact ih hp depth before later w
  | fail failure => cases hp
  | branch test body rest ihBody ih =>
    obtain ⟨hbody, hrest⟩ := Bool.and_eq_true_iff.mp hp
    have hgoes := ih hrest depth (before + body.timers) later
    rw [marks_branch, walkAlong, walk]
    cases w.takes holds test with
    | true =>
      rw [if_pos rfl, if_pos rfl, walkAlong_filler, ihBody hbody, andThen_andThen]
      exact congrArg (andThen · _) (funext hgoes)
    | false =>
      rw [if_neg Bool.false_ne_true, if_neg Bool.false_ne_true, walkAlong_filler, walkAlong_skipped]
      exact hgoes w
  | choice test body alternative rest ihBody ihAlternative ih =>
    obtain ⟨hboth, hrest⟩ := Bool.and_eq_true_iff.mp hp
    obtain ⟨hbody, halternative⟩ := Bool.and_eq_true_iff.mp hboth
    have hgoes := ih hrest depth (before + body.timers + alternative.timers) later
    rw [marks_choice, walkAlong, walk]
    cases w.takes holds test with
    | true =>
      rw [if_pos rfl, if_pos rfl, walkAlong_filler, ihBody hbody, andThen_andThen]
      refine congrArg (andThen · _) (funext fun w => ?_)
      -- The alternative is passed over once the branch before it was taken.
      rw [walkAlong, walkAlong_filler, walkAlong_skipped]
      exact hgoes w
    | false =>
      rw [if_neg Bool.false_ne_true, if_neg Bool.false_ne_true, walkAlong_filler, walkAlong_skipped, walkAlong,
        if_pos rfl, walkAlong_filler, ihAlternative halternative, andThen_andThen]
      exact congrArg (andThen · _) (funext hgoes)
  | fold name body rest ihBody ih =>
    obtain ⟨hnamed, hrest⟩ := Bool.and_eq_true_iff.mp hp
    obtain ⟨-, hbody⟩ := Bool.and_eq_true_iff.mp hnamed
    rw [marks_fold, walkAlong, ihBody hbody, walk, andThen_andThen]
    exact congrArg (andThen · _) (funext (ih hrest depth (before + body.timers) later))

/-- The lines that a sound program leaves in a new builder come in stretches, and along these one walks as
through the program. -/
theorem walkAlong_run_of_isSound (p : Program) (hp : p.isSound = true) :
    ∃ b, p.run Builder.start = (.ok (), b) ∧
      (b.block Builder.rootId).lines = (p.stretches 0 0).flatMap Stretch.lines ∧
      ∀ (holds : String → Bool) (w : Walk),
        walkAlong holds 0 ((p.stretches 0 0).map Stretch.mark) w = p.walk holds w := by
  obtain ⟨b, hrun, hext⟩ := runs_of_isSound hp Builder.start Builder.isReady_start
  refine ⟨b, hrun, ?_, fun holds w => ?_⟩
  · have hroot : b.block Builder.rootId = (Block.start .root "").add (p.nodes 0) := hext.current
    rw [hroot, Block.lines_add, Block.lines_start, List.nil_append, flatMap_render_nodes, lines_stretches,
      indentedBy_zero, List.map_id]
  · have hwalk : walkAlong holds 0 (p.marks 0 0 ++ []) w = _ := walkAlong_marks hp 0 0 [] w
    rw [List.append_nil] at hwalk
    exact hwalk.trans (andThen_finished _)

end Program

end JobScript.Shell
