import JobScript.Proofs.Shell.Call

/-! # Lines by their purpose

What each line of a directive is there for: to start or to finish a timer, to hand on a text as one
quoted word, or as it stands. -/

namespace JobScript.Shell

/-- Something said to the shell with a text as its last word. -/
structure Quotation where
  lead : String
  word : String
deriving DecidableEq, Repr

namespace Quotation

def retry (command : String) : Quotation := ⟨"build_retry ", command⟩

def assert (command : String) : Quotation := ⟨"build_assert ", command⟩

def prompt (command : String) : Quotation :=
  ⟨"printf '" ++ Colour.yellow.paint "$" ++ " %s\\n' ", command⟩

def foldBegin (name : String) : Quotation := ⟨"build_fold begin ", name⟩

def foldEnd (name : String) : Quotation := ⟨"build_fold end ", name⟩

def text (q : Quotation) : String := q.lead ++ Word.quote q.word

end Quotation

inductive Piece
  | plain (text : String)
  | quoted (q : Quotation)
  | start (timer : Nat)
  | finish
deriving DecidableEq, Repr

namespace Piece

def text : Piece → String
  | .plain text => text
  | .quoted q => q.text
  | .start timer => "build_time_start " ++ toString timer
  | .finish => "build_time_finish"

def quotation? : Piece → Option Quotation
  | .quoted q => some q
  | _ => none

end Piece

lemma map_text_plain (lines : List String) : (lines.map Piece.plain).map Piece.text = lines := by
  rw [List.map_map]
  exact List.map_id lines

lemma filterMap_quotation_plain (lines : List String) :
    (lines.map Piece.plain).filterMap Piece.quotation? = [] := by
  simp [List.filterMap_eq_nil_iff, Piece.quotation?]

section Command
variable (command : String) (options : Options) (timer : Nat) (pieces : List Piece)

def attemptPieces : List Piece :=
  if options.retry then [.quoted (.retry command)] else (linesOr ":" command).map .plain

def timedPieces : List Piece :=
  if options.timing then [.start timer] ++ pieces ++ [.finish] else pieces

def assertionPieces : List Piece := if options.assert then [.quoted (.assert command)] else []

def foldedPieces : List Piece :=
  match options.foldName with
  | some name => [.quoted (.foldBegin name)] ++ pieces ++ [.quoted (.foldEnd name)]
  | none => pieces

def promptPieces : List Piece := if options.echo then [.quoted (.prompt command)] else []

def commandPieces : List Piece :=
  foldedPieces options (promptPieces command options ++
    (timedPieces options timer (attemptPieces command options ++ [.plain (statusVariable ++ "=$?")]) ++
      assertionPieces command options))

end Command

def exportPieces (name : Option String) (value : String) (echo : Bool) : List Piece :=
  match name.filter (· ≠ "") with
  | none => []
  | some name =>
    let line := "export " ++ name ++ "=" ++ value
    if echo then [.quoted (.prompt line), .plain line] else [.plain line]

/-- The lines of a directive under the number of its timer, if it has one. -/
def Directive.pieces (timer : Nat) : Directive → List Piece
  | .command text options => commandPieces text options timer
  | .export name value shown => exportPieces name value shown
  | .echo message colour => (renderEcho message colour).map .plain
  | .raw text => (linesOr "" text).map .plain

section Command
variable (command : String) (options : Options) (timer : Nat) (pieces : List Piece)

lemma text_attemptPieces : (attemptPieces command options).map Piece.text = attempt command options := by
  unfold attemptPieces attempt
  split
  · rfl
  · exact map_text_plain _

lemma text_timedPieces :
    (timedPieces options timer pieces).map Piece.text = timed timer options (pieces.map Piece.text) := by
  unfold timedPieces timed
  split
  · rw [List.map_append, List.map_append]
    rfl
  · rfl

lemma text_assertionPieces :
    (assertionPieces command options).map Piece.text = assertion command options := by
  unfold assertionPieces assertion
  split <;> rfl

lemma text_foldedPieces :
    (foldedPieces options pieces).map Piece.text = folded options (pieces.map Piece.text) := by
  unfold foldedPieces folded
  cases options.foldName with
  | none => rfl
  | some name =>
    dsimp only
    rw [List.map_append, List.map_append]
    rfl

lemma text_commandPieces : (commandPieces command options timer).map Piece.text =
    renderCommand command options timer := by
  have hprompt : (promptPieces command options).map Piece.text =
      if options.echo then [prompt command] else [] := by
    unfold promptPieces
    split <;> rfl
  unfold commandPieces renderCommand guarded
  rw [text_foldedPieces, List.map_append, List.map_append, hprompt, text_timedPieces, List.map_append,
    text_attemptPieces, text_assertionPieces]
  rfl

end Command

/-- The pieces of a directive are its lines. -/
theorem Directive.text_pieces (timer : Nat) (d : Directive) :
    (d.pieces timer).map Piece.text = d.render timer := by
  cases d with
  | command text options => exact text_commandPieces text options timer
  | «export» name value shown =>
    simp only [pieces, exportPieces, render, renderExport]
    cases name.filter (· ≠ "") with
    | none => rfl
    | some name => cases shown <;> rfl
  | echo message colour => exact map_text_plain _
  | raw text => exact map_text_plain _

/-- The texts that a directive hands on as quoted words, in the order of its lines. -/
def Directive.quotations : Directive → List Quotation
  | .command text options =>
    options.foldName.toList.map .foldBegin ++ (if options.echo then [.prompt text] else []) ++
      (if options.retry then [.retry text] else []) ++ (if options.assert then [.assert text] else []) ++
      options.foldName.toList.map .foldEnd
  | .export name value shown =>
    if shown then (name.filter (· ≠ "")).toList.map fun name => .prompt ("export " ++ name ++ "=" ++ value)
    else []
  | _ => []

lemma Directive.quotations_pieces (timer : Nat) (d : Directive) :
    (d.pieces timer).filterMap Piece.quotation? = d.quotations := by
  cases d with
  | command text options =>
    have hattempt : (attemptPieces text options).filterMap Piece.quotation? =
        if options.retry then [.retry text] else [] := by
      unfold attemptPieces
      split
      · rfl
      · exact filterMap_quotation_plain _
    have htimed : (timedPieces options timer
        (attemptPieces text options ++ [.plain (statusVariable ++ "=$?")])).filterMap Piece.quotation? =
          if options.retry then [.retry text] else [] := by
      unfold timedPieces
      split <;> simp [List.filterMap_cons, Piece.quotation?, hattempt]
    have hprompt : (promptPieces text options).filterMap Piece.quotation? =
        if options.echo then [.prompt text] else [] := by
      unfold promptPieces
      split <;> rfl
    have hassertion : (assertionPieces text options).filterMap Piece.quotation? =
        if options.assert then [.assert text] else [] := by
      unfold assertionPieces
      split <;> rfl
    simp only [pieces, commandPieces, foldedPieces, quotations]
    cases options.foldName with
    | none => simp [hprompt, htimed, hassertion]
    | some name => simp [Piece.quotation?, hprompt, htimed, hassertion]
  | «export» name value shown =>
    simp only [pieces, exportPieces, quotations]
    cases name.filter (· ≠ "") with
    | none => cases shown <;> rfl
    | some name => cases shown <;> rfl
  | echo message colour => exact filterMap_quotation_plain _
  | raw text => exact filterMap_quotation_plain _

end JobScript.Shell
