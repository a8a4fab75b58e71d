import JobScript.Proofs.Shell.Session

/-! # The grammar of a builder

The bracket structure of a run of calls can be told from the calls alone. The outline of a history has
the blocks that are open, and whether an `else` may come now. To leave a block a second time is no
part of the structure. -/

namespace JobScript.Shell

/-- A call that a script consists of. -/
inductive Move
  | emit (d : Directive)
  | prependPath (path : String)
  | enterIf (test : String) (name : Option String)
  | enterElse (name : Option String)
  | enterFold (header : String) (name : Option String)
  | leave (name : Option String)
  | abandon (name : Option String)
  | compile
deriving DecidableEq

def Move.step : Move → Step
  | .emit d => .emit (.directive d)
  | .prependPath path => .program (Shell.prependPath path)
  | .enterIf test name => .enterIf test name
  | .enterElse name => .enterElse name
  | .enterFold header name => .enterFold header name
  | .leave name => .leave name
  | .abandon name => .abandon name
  | .compile => .compile

/-- The names given so far; the names and kinds of the blocks not left yet, the latest first; whether the
last thing put into the innermost one is an `if` without an `else`; and whether all is compiled. -/
structure Outline where
  names : List String
  frames : List (String × Kind)
  awaitsElse : Bool
  compiled : Bool

namespace Outline

def start : Outline := ⟨[], [], false, false⟩

/-- A block comes with its name, or with a number instead. -/
def enter (o : Outline) (kind : Kind) (name : Option String) : Outline :=
  let name := name.getD s!"#{o.names.length}"
  ⟨name :: o.names.filter (· ≠ name), (name, kind) :: o.frames, false, o.compiled⟩

/-- A name means the latest block of that name that is not left yet, and no name at all the latest one. -/
def means (name : Option String) (frame : String × Kind) : Bool := (name.map (· == frame.1)).getD true

def next (o : Outline) : Move → Outline
  | .emit d => if d.isSilent then o else { o with awaitsElse := false }
  | .prependPath _ => { o with awaitsElse := true }
  | .enterIf _ name => o.enter .branch name
  | .enterElse name => o.enter .alternative name
  | .enterFold _ name => o.enter .fold name
  | .leave name => match o.frames.find? (means name) with
    | some (_, kind) => { o with frames := o.frames.eraseP (means name), awaitsElse := kind == .branch }
    | none => o
  | .abandon name => { o with frames := o.frames.eraseP (means name) }
  | .compile => { o with compiled := true }

def after (o : Outline) (moves : List Move) : Outline := moves.foldl next o

@[simp] lemma after_nil (o : Outline) : o.after [] = o := rfl

@[simp] lemma after_cons (o : Outline) (move : Move) (rest : List Move) :
    o.after (move :: rest) = (o.next move).after rest := rfl

def meansInnermost (o : Outline) (name : Option String) : Bool :=
  match o.frames with
  | innermost :: _ => means name innermost
  | [] => false

/-- No block is meant that is still to be left. -/
def isIdle (o : Outline) : Move → Bool
  | .leave name => !o.frames.any (means name)
  | .abandon name => !o.frames.any (means name)
  | _ => false

/-- The calls but those that leave a block once more, normally or by a failure. -/
def effective (o : Outline) : List Move → List Move
  | [] => []
  | move :: rest =>
    if o.isIdle move then o.effective rest else move :: (o.next move).effective rest

/-- Whether a call may come now. -/
def admits (o : Outline) : Move → Bool
  | .emit d => !o.compiled || d.isSilent
  | .prependPath _ => !o.compiled
  | .enterIf _ _ => !o.compiled
  | .enterElse _ => !o.compiled && o.awaitsElse
  | .enterFold header _ => !o.compiled && header != ""
  | .leave name => !o.compiled && o.meansInnermost name
  | .abandon _ => false
  | .compile => !o.compiled && o.frames.isEmpty

end Outline

/-- The bracket structure of the scripts that are accepted. -/
structure Grammatical (moves : List Move) : Prop where
  /-- Every leaving is of the innermost open block. -/
  innermost : ∀ before name after, moves = before ++ .leave name :: after →
    (Outline.start.after before).meansInnermost name = true
  /-- All blocks are left before the compilation. -/
  closed : ∀ before after, moves = before ++ .compile :: after →
    (Outline.start.after before).frames = []
  unbroken : ∀ name, .abandon name ∉ moves
  named : ∀ name, .enterFold "" name ∉ moves
  /-- Only directives without lines stand between an `else` and its `if`. -/
  awaited : ∀ before name after, moves = before ++ .enterElse name :: after →
    (Outline.start.after before).awaitsElse = true
  /-- Only directives without lines come after the compilation. -/
  silent : ∀ before after, moves = before ++ .compile :: after →
    ∀ move ∈ after, ∃ d, move = .emit d ∧ d.isSilent = true

namespace Outline

variable {o : Outline} {move : Move} {rest : List Move}

lemma effective_of_isIdle (h : o.isIdle move = true) : o.effective (move :: rest) = o.effective rest := by
  rw [effective, if_pos h]

lemma effective_of_not_isIdle (h : o.isIdle move = false) :
    o.effective (move :: rest) = move :: (o.next move).effective rest := by
  rw [effective, if_neg (Bool.eq_false_iff.mp h)]

/-- Every call of a history may come when it comes. -/
def AdmitsAll (o : Outline) (moves : List Move) : Prop :=
  ∀ before move after, moves = before ++ move :: after → (o.after before).admits move = true

lemma admitsAll_nil (o : Outline) : o.AdmitsAll [] := by
  intro before move after h
  simp at h

lemma admitsAll_cons :
    o.AdmitsAll (move :: rest) ↔ o.admits move = true ∧ (o.next move).AdmitsAll rest := by
  constructor
  · exact fun h => ⟨h [] move rest rfl, fun before m after heq => h (move :: before) m after (by rw [heq]; rfl)⟩
  · rintro ⟨hfirst, hrest⟩ before m after heq
    cases before with
    | nil =>
      obtain ⟨rfl, rfl⟩ := List.cons.inj heq
      exact hfirst
    | cons first before =>
      obtain ⟨rfl, htail⟩ := List.cons.inj heq
      exact hrest before m after htail

lemma compiled_next (o : Outline) (move : Move) :
    (o.next move).compiled = true ↔ o.compiled = true ∨ move = .compile := by
  cases move with
  | emit d =>
    rw [next]
    split <;> simp
  | leave name =>
    rw [next]
    split <;> simp
  | _ => simp [next, enter]

lemma compiled_after (o : Outline) (moves : List Move) :
    (o.after moves).compiled = true ↔ o.compiled = true ∨ .compile ∈ moves := by
  induction moves generalizing o with
  | nil => simp
  | cons move rest ih => rw [after_cons, ih, compiled_next, List.mem_cons, or_assoc, @eq_comm _ move]

end Outline

lemma admitsAll_iff_grammatical (moves : List Move) :
    Outline.start.AdmitsAll moves ↔ Grammatical moves := by
  constructor
  · intro h
    refine ⟨fun before name after heq => ?_, fun before after heq => ?_, fun name hmem => ?_,
      fun name hmem => ?_, fun before name after heq => ?_, fun before after heq move hmem => ?_⟩
    · have ha := h before _ after heq
      exact (Bool.and_eq_true_iff.mp ha).2
    · have ha := h before _ after heq
      exact List.isEmpty_iff.mp (Bool.and_eq_true_iff.mp ha).2
    · obtain ⟨before, after, heq⟩ := List.append_of_mem hmem
      exact Bool.false_ne_true (h before _ after heq)
    · obtain ⟨before, after, heq⟩ := List.append_of_mem hmem
      have ha := h before _ after heq
      exact absurd (Bool.and_eq_true_iff.mp ha).2 (by decide)
    · have ha := h before _ after heq
      exact (Bool.and_eq_true_iff.mp ha).2
    · obtain ⟨between, rest, rfl⟩ := List.append_of_mem hmem
      have ha := h (before ++ .compile :: between) move rest (by simpa using heq)
      have hc : (Outline.start.after (before ++ .compile :: between)).compiled = true :=
        (Outline.compiled_after ..).mpr (.inr (by simp))
      cases move with
      | emit d => exact ⟨d, rfl, by simpa [Outline.admits, hc] using ha⟩
      | _ => simp [Outline.admits, hc] at ha
  · intro hg before move after heq
    have hlate : (Outline.start.after before).compiled = true →
        ∃ d, move = .emit d ∧ d.isSilent = true := by
      intro hc
      obtain ⟨first, between, rfl⟩ :=
        List.append_of_mem (((Outline.compiled_after ..).mp hc).resolve_left Bool.false_ne_true)
      exact hg.silent first (between ++ move :: after) (by simpa using heq) move (by simp)
    cases hc : (Outline.start.after before).compiled with
    | true =>
      obtain ⟨d, rfl, hd⟩ := hlate hc
      simp [Outline.admits, hd]
    | false =>
      cases move with
      | emit d => simp [Outline.admits, hc]
      | prependPath path => simp [Outline.admits, hc]
      | enterIf test name => simp [Outline.admits, hc]
      | enterElse name => simp [Outline.admits, hc, hg.awaited before name after heq]
      | enterFold header name =>
        have hheader : header ≠ "" := by
          rintro rfl
          exact hg.named name (by simp [heq])
        simp [Outline.admits, hc, hheader]
      | leave name => simp [Outline.admits, hc, hg.innermost before name after heq]
      | abandon name => exact absurd (by simp [heq]) (hg.unbroken name)
      | compile => simp [Outline.admits, hc, hg.closed before after heq]

end JobScript.Shell
