import JobScript.Proofs.Shell.Draft

/-! # The numbers of timers

A run of steps that compiles has numbered its timed commands as they stand in the text. Between the
start of a timer and its finish there are only lines of the same directive. -/

namespace JobScript.Shell

def Piece.isTimer : Piece → Bool
  | .start _ => true
  | .finish => true
  | _ => false

/-- A timer that starts and finishes. -/
def timerPair (timer : Nat) : List Piece := [.start timer, .finish]

lemma filter_isTimer_plain (lines : List String) : (lines.map Piece.plain).filter Piece.isTimer = [] := by
  simp [Piece.isTimer]

/-- Only a timed command starts a timer, and finishes it right away. -/
lemma Directive.timers_pieces (timer : Nat) (d : Directive) :
    (d.pieces timer).filter Piece.isTimer = if d.isTimed then timerPair timer else [] := by
  cases d with
  | command text options =>
    have hprompt : (promptPieces text options).filter Piece.isTimer = [] := by
      unfold promptPieces
      split <;> rfl
    have hassertion : (assertionPieces text options).filter Piece.isTimer = [] := by
      unfold assertionPieces
      split <;> rfl
    have hattempt : (attemptPieces text options ++ [Piece.plain (statusVariable ++ "=$?")]).filter
        Piece.isTimer = [] := by
      unfold attemptPieces
      split
      · rfl
      · rw [List.filter_append, filter_isTimer_plain]
        rfl
    have htimed : (timedPieces options timer
        (attemptPieces text options ++ [.plain (statusVariable ++ "=$?")])).filter Piece.isTimer =
          if options.timing then timerPair timer else [] := by
      unfold timedPieces
      split
      · rw [List.filter_append, List.filter_append, hattempt]
        rfl
      · exact hattempt
    have hinside : (promptPieces text options ++ (timedPieces options timer
        (attemptPieces text options ++ [.plain (statusVariable ++ "=$?")]) ++
          assertionPieces text options)).filter Piece.isTimer =
            if options.timing then timerPair timer else [] := by
      rw [List.filter_append, List.filter_append, hprompt, htimed, hassertion, List.append_nil]
      rfl
    simp only [pieces, commandPieces, foldedPieces, isTimed]
    cases options.foldName with
    | none => exact hinside
    | some name =>
      dsimp only
      rw [List.filter_append, List.filter_append, hinside]
      exact List.append_nil _
  | «export» name value shown =>
    simp only [pieces, exportPieces]
    cases name.filter (· ≠ "") with
    | none => rfl
    | some name => cases shown <;> rfl
  | echo message colour => exact filter_isTimer_plain _
  | raw text => exact filter_isTimer_plain _

/-- The timers of directives with their numbers. -/
def timerPiecesOf (entries : List (Directive × Nat)) : List Piece :=
  entries.flatMap fun (d, timer) => if d.isTimed then timerPair timer else []

namespace Passage

/-- Where a passage starts and finishes timers. -/
def timerPieces (p : Passage) : List Piece := p.source.pieces.filter Piece.isTimer

lemma timerPieces_eq (p : Passage) : p.timerPieces = timerPiecesOf p.directive?.toList := by
  unfold timerPieces directive?
  cases p.source with
  | directive d timer => exact (d.timers_pieces timer).trans (List.append_nil _).symm
  | line text => rfl
  | frame text => rfl

lemma timerPieces_eq_nil_or (p : Passage) :
    p.timerPieces = [] ∨ ∃ timer, p.timerPieces = timerPair timer := by
  rw [timerPieces_eq]
  cases p.directive? with
  | none => exact .inl rfl
  | some entry =>
    obtain ⟨d, timer⟩ := entry
    cases hd : d.isTimed with
    | true => exact .inr ⟨timer, by simp [timerPiecesOf, hd]⟩
    | false => exact .inl (by simp [timerPiecesOf, hd])

end Passage

lemma flatMap_timerPieces (ps : List Passage) :
    ps.flatMap Passage.timerPieces = timerPiecesOf (directivesOf ps) := by
  induction ps with
  | nil => rfl
  | cons p rest ih =>
    have hcons : directivesOf (p :: rest) = p.directive?.toList ++ directivesOf rest := by
      unfold directivesOf
      rw [List.filterMap_cons]
      cases p.directive? <;> rfl
    rw [List.flatMap_cons, p.timerPieces_eq, ih, hcons]
    exact List.flatMap_append.symm

lemma timerPiecesOf_numbered (before : Nat) (ds : List Directive) :
    timerPiecesOf (numbered before ds) = (List.range' (before + 1) (timedIn ds)).flatMap timerPair := by
  induction ds generalizing before with
  | nil => rfl
  | cons d ds ih =>
    have hcons : timerPiecesOf (numbered before (d :: ds)) =
        (if d.isTimed then timerPair (before + 1) else []) ++
          timerPiecesOf (numbered (before + d.timers) ds) :=
      List.flatMap_cons
    rw [hcons, ih, timedIn_cons]
    unfold Directive.timers
    cases d.isTimed with
    | true => rw [if_pos rfl, if_pos rfl, Nat.add_comm 1, List.range'_succ, List.flatMap_cons]
    | false => simp

namespace Session

/-- What is compiled falls into the lines of each directive under its number, lines put straight into
a block, and the frames of blocks. The directives stand in the order of their emission; the timers go by
the numbers 1, 2, ... of the timed ones, and each that starts among the lines of a directive finishes
there too. -/
theorem compile_numbers (steps : List Step) (reply : Reply)
    (hok : (Step.compile.run (start.after steps)).1 = .ok reply) :
    ∃ passages : List Passage, reply = .text ("\n".intercalate (linesOf passages) ++ "\n") ∧
      (∀ p ∈ passages, p.source.IsFrom (start.inputs steps)) ∧
      directivesOf passages = numbered 0 (shownOf (start.inputs steps)) ∧
      passages.flatMap Passage.timerPieces =
        (List.range' 1 (timedIn (shownOf (start.inputs steps)))).flatMap timerPair ∧
      (∀ p ∈ passages, p.timerPieces = [] ∨ ∃ timer, p.timerPieces = timerPair timer) ∧
      (start.after steps).builder.timers = timedIn (shownOf (start.inputs steps)) := by
  have hsound : (start.after steps).Sound := Sound.start.after steps
  obtain ⟨hstack, -, hreply, -⟩ := compile_of_ok hok
  obtain ⟨draft, hdraft⟩ := (Sound.start.advances steps (hsound.intact_of_compile hok)).drafted
    Sound.start.site Site.Drafted.start
  have htells : told draft (start.after steps).builder.stack = numbered 0 (shownOf (start.inputs steps)) :=
    hdraft.tells
  rw [hstack] at htells
  refine ⟨passagesOf (draft Builder.rootId), ?_, fun p hp => (hdraft.fits _ p hp).isFrom, htells, ?_,
    fun p _ => p.timerPieces_eq_nil_or, hdraft.timers⟩
  · rw [hreply]
    exact congrArg (fun lines => Reply.text (Text.unlines lines)) (hdraft.lines Builder.rootId)
  · rw [flatMap_timerPieces]
    exact (congrArg timerPiecesOf htells).trans (timerPiecesOf_numbered 0 _)

/-- A command, an `if` with a line put into it, an `else` that comes once too often, something that is no
directive, and another command. -/
theorem compile_numbers_branches :
    let steps : List Step := [.emit (.directive (.run "a")), .enterIf "t" (some "x"), .append "x" "y",
      .emit (.directive (.set "p" "q")), .leave none, .enterElse none, .enterElse none,
      .emit (.foreign .null), .emit (.directive (.run "b")), .leave none]
    start.inputs steps =
      [.directive (.run "a"), .line "y", .directive (.set "p" "q"), .directive (.run "b")] ∧
    ∃ reply, (Step.compile.run (start.after steps)).1 = .ok reply ∧
      ∃ passages, reply = .text ("\n".intercalate (linesOf passages) ++ "\n") ∧
        directivesOf passages = [(.run "a", 1), (.set "p" "q", 2), (.run "b", 2)] ∧
        passages.flatMap Passage.timerPieces = timerPair 1 ++ timerPair 2 := by
  intro steps
  have hinputs : start.inputs steps =
      [.directive (.run "a"), .line "y", .directive (.set "p" "q"), .directive (.run "b")] := rfl
  obtain ⟨reply, hok⟩ : ∃ reply, (Step.compile.run (start.after steps)).1 = .ok reply := ⟨_, rfl⟩
  obtain ⟨passages, hreply, -, hdirectives, htimers, -⟩ := compile_numbers steps reply hok
  rw [hinputs] at hdirectives htimers
  exact ⟨hinputs, reply, hok, passages, hreply, hdirectives, htimers⟩

end Session

end JobScript.Shell
