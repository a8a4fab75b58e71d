import JobScript.Proofs.Shell.Conservation
import JobScript.Proofs.Shell.Piece
import JobScript.Proofs.Shell.Word

/-! # Quoted texts at any depth

However deep in branches and folds a directive stands, a text that it hands on as a word is read back
from the compiled script as it was, line boundaries and quotes included, and its line ends there. -/

namespace JobScript.Shell

/-- A piece in so many branches. -/
structure Placed where
  depth : Nat
  piece : Piece
deriving DecidableEq, Repr

namespace Placed

def line (p : Placed) : String := indentedBy p.depth p.piece.text

def quotation? (p : Placed) : Option (Nat × Quotation) := p.piece.quotation?.map (p.depth, ·)

/-- The text of some lines, each with its end. -/
def textOf (ps : List Placed) : List Char := ps.flatMap fun p => p.line.toList ++ ['\n']

@[simp] lemma textOf_nil : textOf [] = [] := rfl

@[simp] lemma textOf_append (ps qs : List Placed) : textOf (ps ++ qs) = textOf ps ++ textOf qs :=
  List.flatMap_append

@[simp] lemma textOf_cons (p : Placed) (ps : List Placed) :
    textOf (p :: ps) = p.line.toList ++ '\n' :: textOf ps := by
  simp [textOf]

end Placed

namespace Program

/-- The lines of an `if` branch; one without any does nothing. -/
def branchPieces (depth : Nat) (ps : List Placed) : List Placed :=
  if ps = [] then [⟨depth + 1, .plain ":"⟩] else ps

/-- The lines of a program that stands in so many branches, after so many timed commands. -/
def pieces (depth before : Nat) : Program → List Placed
  | .nil => []
  | .emit d rest =>
    (d.pieces (before + 1)).map (⟨depth, ·⟩) ++ rest.pieces depth (before + d.timers)
  | .note _ rest => rest.pieces depth before
  | .fail _ => []
  | .branch test body rest =>
    [⟨depth, .plain ("if " ++ test ++ "; then")⟩] ++ branchPieces depth (body.pieces (depth + 1) before) ++
      [⟨depth, .plain "fi"⟩] ++ rest.pieces depth (before + body.timers)
  | .choice test body alternative rest =>
    [⟨depth, .plain ("if " ++ test ++ "; then")⟩] ++ branchPieces depth (body.pieces (depth + 1) before) ++
      [⟨depth, .plain "else"⟩] ++
      branchPieces depth (alternative.pieces (depth + 1) (before + body.timers)) ++
      [⟨depth, .plain "fi"⟩] ++ rest.pieces depth (before + body.timers + alternative.timers)
  | .fold name body rest =>
    [⟨depth, .quoted (.foldBegin name)⟩] ++ body.pieces depth before ++
      [⟨depth, .quoted (.foldEnd name)⟩] ++ rest.pieces depth (before + body.timers)

/-- The texts that a program hands on as words, with the number of branches that each stands in. -/
def quotations (depth : Nat) : Program → List (Nat × Quotation)
  | .nil => []
  | .emit d rest => d.quotations.map (depth, ·) ++ rest.quotations depth
  | .note _ rest => rest.quotations depth
  | .fail _ => []
  | .branch _ body rest => body.quotations (depth + 1) ++ rest.quotations depth
  | .choice _ body alternative rest =>
    body.quotations (depth + 1) ++ alternative.quotations (depth + 1) ++ rest.quotations depth
  | .fold name body rest =>
    [(depth, .foldBegin name)] ++ body.quotations depth ++ [(depth, .foldEnd name)] ++
      rest.quotations depth

lemma map_line_emit (depth before : Nat) (d : Directive) :
    ((d.pieces (before + 1)).map (⟨depth, ·⟩)).map Placed.line =
      (d.render (before + 1)).map (indentedBy depth) := by
  have htext := d.text_pieces (before + 1)
  rw [Nat.cast_succ] at htext
  rw [← htext, List.map_map, List.map_map]
  rfl

lemma map_line_branchPieces {depth : Nat} {ps : List Placed} {lines : List String}
    (h : ps.map Placed.line = lines.map (indentedBy (depth + 1))) :
    (branchPieces depth ps).map Placed.line = (branchText lines).map (indentedBy depth) := by
  have hnil : ps = [] ↔ lines = [] := by
    rw [← List.map_eq_nil_iff (f := Placed.line), h, List.map_eq_nil_iff]
  rw [← branchLines_eq, Block.map_branchLines]
  unfold branchPieces
  split
  · next hps =>
    rw [if_pos (hnil.mp hps)]
    rfl
  · next hps => rw [if_neg (fun hlines => hps (hnil.mpr hlines)), h]

/-- The pieces of a program are its lines, as deep as it stands. -/
theorem map_line_pieces (p : Program) (depth before : Nat) :
    (p.pieces depth before).map Placed.line = (p.lines before).map (indentedBy depth) := by
  induction p generalizing depth before with
  | nil => rfl
  | emit d rest ih =>
    simp only [pieces, lines, List.map_append, map_line_emit, ih]
  | note record rest ih => exact ih depth before
  | fail failure => rfl
  | branch test body rest ihBody ih =>
    simp only [pieces, lines, List.map_append, map_line_branchPieces (ihBody (depth + 1) before), ih]
    rfl
  | choice test body alternative rest ihBody ihAlternative ih =>
    simp only [pieces, lines, List.map_append, map_line_branchPieces (ihBody (depth + 1) before),
      map_line_branchPieces (ihAlternative (depth + 1) (before + body.timers)), ih]
    rfl
  | fold name body rest ihBody ih =>
    simp only [pieces, lines, List.map_append, ihBody, ih]
    rfl

lemma quotation_branchPieces (depth : Nat) (ps : List Placed) :
    (branchPieces depth ps).filterMap Placed.quotation? = ps.filterMap Placed.quotation? := by
  unfold branchPieces
  split
  · next h =>
    rw [h]
    rfl
  · rfl

lemma quotations_pieces (p : Program) (depth before : Nat) :
    (p.pieces depth before).filterMap Placed.quotation? = p.quotations depth := by
  have hplain : ∀ text, Placed.quotation? ⟨depth, .plain text⟩ = none := fun _ => rfl
  induction p generalizing depth before with
  | nil => rfl
  | emit d rest ih =>
    have hd : ((d.pieces (before + 1)).map (⟨depth, ·⟩)).filterMap Placed.quotation? =
        d.quotations.map (depth, ·) := by
      rw [← d.quotations_pieces (before + 1), List.filterMap_map, List.map_filterMap]
      rfl
    rw [pieces, quotations, List.filterMap_append, hd, ih depth _ fun _ => rfl]
  | note record rest ih => exact ih depth before hplain
  | fail failure => rfl
  | branch test body rest ihBody ih =>
    have hbody := ihBody (depth + 1) before fun _ => rfl
    have hrest := ih depth (before + body.timers) hplain
    simp [pieces, quotations, hplain, quotation_branchPieces, hbody, hrest]
  | choice test body alternative rest ihBody ihAlternative ih =>
    have hbody := ihBody (depth + 1) before fun _ => rfl
    have halternative := ihAlternative (depth + 1) (before + body.timers) fun _ => rfl
    have hrest := ih depth (before + body.timers + alternative.timers) hplain
    simp [pieces, quotations, hplain, quotation_branchPieces, hbody, halternative, hrest]
  | fold name body rest ihBody ih =>
    have hquoted : ∀ q, Placed.quotation? ⟨depth, .quoted q⟩ = some (depth, q) := fun _ => rfl
    have hbody := ihBody depth before hplain
    have hrest := ih depth (before + body.timers) hplain
    simp [pieces, quotations, hquoted, hbody, hrest]

end Program

namespace Placed

lemma toList_unlines {ps : List Placed} (h : ps ≠ []) :
    (Text.unlines (ps.map line)).toList = textOf ps := by
  unfold Text.unlines
  induction ps with
  | nil => exact absurd rfl h
  | cons p rest ih =>
    cases rest with
    | nil => simp
    | cons q rest =>
      have hrest : ("\n".intercalate (q.line :: rest.map line) ++ "\n").toList = textOf (q :: rest) :=
        ih (List.cons_ne_nil _ _)
      show ("\n".intercalate (p.line :: q.line :: rest.map line) ++ "\n").toList = _
      rw [String.intercalate_cons_cons, String.append_assoc, String.toList_append, hrest,
        String.toList_append, textOf_cons p, List.append_assoc]
      rfl

lemma toList_line_quoted (depth : Nat) (q : Quotation) : (line ⟨depth, .quoted q⟩).toList =
    List.replicate (2 * depth) ' ' ++ q.lead.toList ++ Word.encode q.word.toList := by
  have hne : q.text ≠ "" := by
    intro h
    have hlist := congrArg String.toList h
    rw [Quotation.text, String.toList_append, Word.quote, String.toList_ofList] at hlist
    exact Word.encode_ne_nil _ (List.append_eq_nil_iff.mp hlist).2
  show (indentedBy depth q.text).toList = _
  rw [indentedBy, if_neg hne, Quotation.text, Word.quote]
  simp

/-- Wherever a quoted word stands in a text, it is read back, and the reading stops at the end of its
line. -/
lemma read_quoted (earlier later : List Placed) (depth : Nat) (q : Quotation) :
    ∃ argument, textOf (earlier ++ ⟨depth, .quoted q⟩ :: later) =
        textOf earlier ++ List.replicate (2 * depth) ' ' ++ q.lead.toList ++ argument ∧
      Word.read argument = some (q.word.toList, '\n' :: textOf later) := by
  refine ⟨Word.encode q.word.toList ++ '\n' :: textOf later, ?_, Word.read_encode _ rfl _⟩
  rw [textOf_append, textOf_cons, toList_line_quoted]
  simp only [List.append_assoc]

end Placed

/-- A sound program compiles to its pieces. Each text that it hands on as a word is read back from its
place in the script as exactly one word, with which the line ends. -/
theorem Program.read_quotations (p : Program) (hp : p.isSound = true) :
    ∃ b b' text, p.run Builder.start = (.ok (), b) ∧ Build.compile b = (.ok text, b') ∧
      text = Text.unlines ((p.pieces 0 0).map Placed.line) ∧
      (p.pieces 0 0).filterMap Placed.quotation? = p.quotations 0 ∧
      ∀ earlier depth q later, p.pieces 0 0 = earlier ++ ⟨depth, .quoted q⟩ :: later →
        ∃ argument, text.toList = Placed.textOf earlier ++ List.replicate (2 * depth) ' ' ++
            q.lead.toList ++ argument ∧
          Word.read argument = some (q.word.toList, '\n' :: Placed.textOf later) := by
  obtain ⟨b, hrun, hext⟩ := runs_of_isSound hp Builder.start Builder.isReady_start
  have htext : (p.pieces 0 0).map Placed.line = p.lines Builder.start.timers := by
    show _ = p.lines 0
    rw [map_line_pieces, indentedBy_zero, List.map_id]
  have hcompile := Build.compile_of_extends hext
  rw [flatMap_render_nodes, ← htext] at hcompile
  refine ⟨b, _, _, hrun, hcompile, rfl, quotations_pieces p 0 0, fun earlier depth q later hsplit => ?_⟩
  have hne : p.pieces 0 0 ≠ [] := by
    rw [hsplit]
    simp
  rw [Placed.toList_unlines hne, hsplit]
  exact Placed.read_quoted earlier later depth q

/-- A command with a quote and a line boundary in it, in a fold with a quote in its name, in the
alternative of an `if` in a branch. -/
theorem Program.read_quotations_nested :
    let command := "echo 'a\n  b' $x"
    let p := ifThen "t" (ifElse "u" nil
      (folded "it's" (.directive (.command command ⟨true, true, true, false, none⟩))))
    p.isSound = true ∧
    p.quotations 0 = [(2, .foldBegin "it's"), (2, .prompt command), (2, .retry command),
      (2, .assert command), (2, .foldEnd "it's")] ∧
    ∃ b b' text, p.run Builder.start = (.ok (), b) ∧ Build.compile b = (.ok text, b') ∧
      ∃ before argument, text.toList = before ++ "    build_retry ".toList ++ argument ∧
        ∃ rest, Word.read argument = some (command.toList, '\n' :: rest) := by
  intro command p
  obtain ⟨b, b', text, hrun, hcompile, -, -, hread⟩ := read_quotations p rfl
  let earlier : List Placed :=
    [⟨0, .plain "if t; then"⟩, ⟨1, .plain "if u; then"⟩, ⟨2, .plain ":"⟩, ⟨1, .plain "else"⟩,
      ⟨2, .quoted (.foldBegin "it's")⟩, ⟨2, .quoted (.prompt command)⟩]
  let later : List Placed :=
    [⟨2, .plain "build_result=$?"⟩, ⟨2, .quoted (.assert command)⟩, ⟨2, .quoted (.foldEnd "it's")⟩,
      ⟨1, .plain "fi"⟩, ⟨0, .plain "fi"⟩]
  obtain ⟨argument, htext, hword⟩ := hread earlier 2 (.retry command) later rfl
  refine ⟨rfl, rfl, b, b', text, hrun, hcompile, Placed.textOf earlier, argument, ?_,
    Placed.textOf later, hword⟩
  have hlead : List.replicate (2 * 2) ' ' ++ (Quotation.retry command).lead.toList =
      "    build_retry ".toList := by decide
  rw [htext, List.append_assoc (Placed.textOf earlier), hlead]

end JobScript.Shell
