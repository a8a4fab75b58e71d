import JobScript.Proofs.Shell.Layout
import JobScript.Proofs.Shell.Word
import JobScript.Proofs.Text.Line

/-! # Texts as they are

What a script says in place of a raw text, or of a command that is tried once, are the lines of that text.
They say the same as the text where its lines end with line feeds. A command that is tried again is handed
on whole instead, whatever its lines end with. -/

namespace JobScript.Shell

open Text (EqUpToNewline IsLineFed unified)

/-- The lines that stand for the command itself, among those that the policies make of it. -/
def ownLines (command : String) (options : Options) (timer : Int) : List String :=
  ((layout command (options.without .echo) timer).filter (·.role = .own)).map Line.text

lemma ownLines_eq (command : String) (options : Options) (timer : Int) :
    ownLines command options timer =
      if options.retry then ["build_retry " ++ Word.quote command] else linesOr ":" command := by
  unfold ownLines layout
  rw [filter_laid command (options.without .echo) timer (· = .own)]
  show (laid command (options.without .echo) timer [.own]).map Line.text = _
  rw [laid_own, List.map_map]
  exact List.map_id _

lemma linesOr_of_ne {text : String} (hne : text ≠ "") (filler : String) :
    linesOr filler text = Text.lines text := by
  unfold linesOr
  have hlines : Text.lines text ≠ [] := by
    simpa [Text.lines, Text.splitLines_eq_nil_iff] using hne
  rw [if_neg (by simpa using hlines)]

/-- A text that is not empty goes into a script with a line feed for each of its line boundaries, but
perhaps for the last one; so it stands there as it is exactly where it has no other boundaries. This is the
same for a raw text and for the lines that stand for a command that is tried once. One that is tried again
is one word instead, from which it is read back in any case. -/
theorem joined_lines (text : String) (hne : text ≠ "") (options : Options) (timer : Int) :
    let joined := "\n".intercalate ((Directive.raw text).render timer)
    (joined = unified text ∨ joined ++ "\n" = unified text) ∧
    (EqUpToNewline joined text ↔ IsLineFed text) ∧
    (layout text (options.without .echo) timer).map Line.text = wrap text options timer ∧
    (options.retry = false → ownLines text options timer = (Directive.raw text).render timer) ∧
    (options.retry = true → ∃ word, ownLines text options timer = ["build_retry " ++ word] ∧
      ∀ rest, Word.read (word.toList ++ '\n' :: rest) = some (text.toList, '\n' :: rest)) := by
  have hraw : (Directive.raw text).render timer = Text.lines text := linesOr_of_ne hne ""
  dsimp only
  rw [hraw]
  refine ⟨Text.intercalate_lines hne, Text.eqUpToNewline_intercalate_lines hne,
    text_layout_without_echo .., fun honce => ?_, fun hagain => ?_⟩
  · rw [ownLines_eq, honce, linesOr_of_ne hne]
    rfl
  · refine ⟨Word.quote text, ?_, fun rest => ?_⟩
    · rw [ownLines_eq, hagain]
      rfl
    · rw [Word.quote, String.toList_ofList]
      exact Word.read_encode _ rfl rest

/-- An `if` over several lines comes back, and goes into the script with a line for each of its own. -/
theorem joined_lines_if :
    let text := "if t\n  then u\nfi\n"
    let options := { Options.standard with fold := some "f" }
    text ≠ "" ∧ EqUpToNewline ("\n".intercalate ((Directive.raw text).render 0)) text ∧
    ownLines text options 0 = ["if t", "  then u", "fi"] ∧
    ∃ word, ownLines text { options with retry := true } 0 = ["build_retry " ++ word] ∧
      Word.read (word.toList ++ ['\n']) = some (text.toList, ['\n']) := by
  intro text options
  have hne : text ≠ "" := by decide
  have hfed : IsLineFed text := by decide
  obtain ⟨-, hback, -, honce, -⟩ := joined_lines text hne options 0
  obtain ⟨-, -, -, -, hagain⟩ := joined_lines text hne { options with retry := true } 0
  obtain ⟨word, hword, hread⟩ := hagain rfl
  exact ⟨hne, hback.mpr hfed, (honce rfl).trans (by decide), word, hword, hread []⟩

/-- A carriage return between quotes becomes a line feed in the lines of a text, whether raw or a command's,
while the command is handed on with it where it is tried again. -/
theorem joined_lines_carriage_return :
    let text := "printf 'a\rb'"
    let options := Options.standard
    text ≠ "" ∧ (Directive.raw text).render 0 = ["printf 'a", "b'"] ∧
    ¬ EqUpToNewline ("\n".intercalate ((Directive.raw text).render 0)) text ∧
    ownLines text options 0 = ["printf 'a", "b'"] ∧
    ¬ EqUpToNewline ("\n".intercalate (ownLines text options 0)) text ∧
    ownLines text { options with retry := true } 0 = ["build_retry " ++ Word.quote text] ∧
    Word.read ((Word.quote text).toList ++ ['\n']) = some (text.toList, ['\n']) := by
  decide

end JobScript.Shell
