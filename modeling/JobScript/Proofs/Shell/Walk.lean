import JobScript.Proofs.Shell.Rendering

/-! # Walks through a program

What a script does when it runs, as far as it can be told from its program: its commands succeed or
fail as given, the test of the last status is decided by them, and all other tests as given. -/

namespace JobScript.Shell

inductive Event
  | command (text : String)
  | message (text : String) (colour : Option String)
  | export (name value : String)
deriving DecidableEq, Repr

/-- A walk may also run out of outcomes for its commands. -/
inductive Ending
  | finished
  | stopped
  | starved
deriving DecidableEq, Repr

/-- The outcomes of the commands to come, whether the last command failed, and what happened. -/
structure Walk where
  outcomes : List Bool
  failed : Bool
  events : List Event
deriving DecidableEq, Repr

namespace Walk

def add (w : Walk) (events : List Event) : Walk := { w with events := w.events ++ events }

@[simp] lemma add_nil (w : Walk) : w.add [] = w := by simp [add]

@[simp] lemma add_add (w : Walk) (es es' : List Event) : (w.add es).add es' = w.add (es ++ es') := by
  simp [add]

/-- Whether the branch under a test is taken. -/
def takes (w : Walk) (holds : String → Bool) (test : String) : Bool :=
  if test = failedTest then w.failed else holds test

end Walk

/-- Goes on after a walk that has finished. -/
def andThen (k : Walk → Ending × Walk) : Ending × Walk → Ending × Walk
  | (.finished, w) => k w
  | (.stopped, w) => (.stopped, w)
  | (.starved, w) => (.starved, w)

lemma andThen_andThen (k k' : Walk → Ending × Walk) (r : Ending × Walk) :
    andThen k' (andThen k r) = andThen (fun w => andThen k' (k w)) r := by
  obtain ⟨ending, w⟩ := r
  cases ending <;> rfl

lemma andThen_finished (r : Ending × Walk) : andThen (fun w => (.finished, w)) r = r := by
  obtain ⟨ending, w⟩ := r
  cases ending <;> rfl

/-- A command takes the next outcome, but an asserted `false` always fails. A failure stops the walk
only if it is asserted. -/
def Directive.walk (w : Walk) : Directive → Ending × Walk
  | .command text options =>
    if options.assert && text == "false" then (.stopped, { w with failed := true })
    else match w.outcomes with
      | [] => (.starved, w)
      | succeeded :: rest =>
        (if options.assert && !succeeded then .stopped else .finished,
          ⟨rest, !succeeded, w.events ++ [.command text]⟩)
  | .export name value _ => (.finished, match name.filter (· ≠ "") with
    | some name => w.add [.export name value]
    | none => w)
  | .echo message colour => (.finished, w.add [.message message colour])
  | .raw _ => (.finished, w)

namespace Program

def walk (holds : String → Bool) : Program → Walk → Ending × Walk
  | .nil, w => (.finished, w)
  | .emit d rest, w => andThen (rest.walk holds) (d.walk w)
  | .note _ rest, w => rest.walk holds w
  | .fail _, w => (.stopped, w)
  | .branch test body rest, w =>
    andThen (rest.walk holds) (if w.takes holds test then body.walk holds w else (.finished, w))
  | .choice test body alternative rest, w =>
    andThen (rest.walk holds)
      (if w.takes holds test then body.walk holds w else alternative.walk holds w)
  | .fold _ body rest, w => andThen (rest.walk holds) (body.walk holds w)

variable (holds : String → Bool)

lemma walk_append (p q : Program) (w : Walk) :
    (p ++ q).walk holds w = andThen (q.walk holds) (p.walk holds w) := by
  show (p.append q).walk holds w = _
  induction p generalizing w with
  | nil => rfl
  | fail failure => rfl
  | note record rest ih => exact ih w
  | emit d rest ih =>
    simp only [append, walk, andThen_andThen]
    exact congrArg (andThen · _) (funext ih)
  | branch test body rest _ ih =>
    simp only [append, walk, andThen_andThen]
    exact congrArg (andThen · _) (funext ih)
  | choice test body alternative rest _ _ ih =>
    simp only [append, walk, andThen_andThen]
    exact congrArg (andThen · _) (funext ih)
  | fold name body rest _ ih =>
    simp only [append, walk, andThen_andThen]
    exact congrArg (andThen · _) (funext ih)

@[simp] lemma walk_directive (d : Directive) (w : Walk) : (directive d).walk holds w = d.walk w :=
  andThen_finished _

@[simp] lemma walk_ifThen (test : String) (body : Program) (w : Walk) :
    (ifThen test body).walk holds w =
      if w.takes holds test then body.walk holds w else (.finished, w) :=
  andThen_finished _

@[simp] lemma walk_ifElse (test : String) (body alternative : Program) (w : Walk) :
    (ifElse test body alternative).walk holds w =
      if w.takes holds test then body.walk holds w else alternative.walk holds w :=
  andThen_finished _

lemma walk_messages (messages : List (String × Option String)) (w : Walk) :
    (ofDirectives (messages.map fun m => .echo m.1 m.2)).walk holds w =
      (.finished, w.add (messages.map fun m => .message m.1 m.2)) := by
  induction messages generalizing w with
  | nil => exact congrArg (Prod.mk Ending.finished) w.add_nil.symm
  | cons m messages ih =>
    show (ofDirectives (messages.map fun m => .echo m.1 m.2)).walk holds (w.add [.message m.1 m.2]) = _
    rw [ih, Walk.add_add]
    rfl

lemma isSound_append (p q : Program) : (p ++ q).isSound = (p.isSound && q.isSound) := by
  show (p.append q).isSound = _
  induction p <;> simp_all [append, isSound, Bool.and_assoc]

end Program

end JobScript.Shell
