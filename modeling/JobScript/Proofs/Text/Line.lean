import JobScript.Text.Blank
import JobScript.Text.Line
import Mathlib.Data.List.Basic
import Mathlib.Tactic.Lemma

/-! # Cutting into lines and joining again

The cut forgets which boundary stood between two lines, and whether there was one at the end. Nothing
else is lost: a text comes back, up to its end, where all of its boundaries are line feeds, and its lines
show something where it does. -/

namespace JobScript.Text

/-- A text with a line feed in place of each of its boundaries. -/
def unifyBreaks : List Char → List Char
  | [] => []
  | '\r' :: '\n' :: rest => '\n' :: unifyBreaks rest
  | c :: rest => (if isLineBreak c then '\n' else c) :: unifyBreaks rest

def unified (text : String) : String := String.ofList (unifyBreaks text.toList)

/-- The same but for one line feed that ends one of the two. -/
def EqUpToNewline (s t : String) : Prop := s = t ∨ s ++ "\n" = t ∨ s = t ++ "\n"

instance (s t : String) : Decidable (EqUpToNewline s t) :=
  inferInstanceAs (Decidable (s = t ∨ s ++ "\n" = t ∨ s = t ++ "\n"))

/-- Its lines are ended by line feeds alone. -/
def IsLineFed (text : String) : Prop := ∀ c ∈ text.toList, isLineBreak c = true → c = '\n'

instance (text : String) : Decidable (IsLineFed text) :=
  List.decidableBAll (fun c => isLineBreak c = true → c = '\n') text.toList

lemma IsLineFed.of_eqUpToNewline {s t : String} (h : IsLineFed s) (heq : EqUpToNewline s t) : IsLineFed t := by
  intro c hc hbreak
  rcases heq with rfl | rfl | rfl
  · exact h c hc hbreak
  · rcases List.mem_append.mp (String.toList_append ▸ hc) with hc | hc
    · exact h c hc hbreak
    · exact List.mem_singleton.mp hc
  · exact h c (by rw [String.toList_append]; exact List.mem_append_left _ hc) hbreak

lemma splitLines_eq_nil_iff {cs : List Char} : splitLines cs = [] ↔ cs = [] := by
  fun_cases splitLines cs <;> simp_all

/-- Only boundaries are taken away. -/
lemma flatten_splitLines (cs : List Char) : (splitLines cs).flatten = cs.filter (!isLineBreak ·) := by
  fun_induction splitLines cs with
  | case1 => rfl
  | case2 rest ih => simpa [show isLineBreak '\r' = true from rfl, show isLineBreak '\n' = true from rfl]
  | case3 c rest _ hc ih => simpa [hc] using ih
  | case4 c rest _ hc hnil ih => simp [hc, ← ih, hnil]
  | case5 c rest _ hc first lines hcons ih => simp [hc, ← ih, hcons]

/-- Nothing can be seen of it. -/
def isBlankLine (line : String) : Bool := line.toList.all isBlank

lemma isBlankLine_append (s t : String) : isBlankLine (s ++ t) = (isBlankLine s && isBlankLine t) := by
  rw [isBlankLine, String.toList_append, List.all_append]
  rfl

lemma isBlankLine_append_of_seen {s : String} (h : isBlankLine s = false) (t : String) :
    isBlankLine (s ++ t) = false := by
  rw [isBlankLine_append, h, Bool.false_and]

lemma isBlank_of_isLineBreak {c : Char} (h : isLineBreak c = true) : isBlank c = true := by
  simp only [isLineBreak, List.mem_cons, List.not_mem_nil, or_false, decide_eq_true_eq] at h
  rcases h with rfl | rfl | rfl | rfl | rfl | rfl | rfl | rfl | rfl | rfl <;> rfl

/-- Boundaries are blank themselves, so the cut takes nothing away that can be seen. -/
lemma all_isBlankLine_lines (text : String) : (lines text).all isBlankLine = isBlankLine text := by
  have hblank : ∀ line : List Char, isBlankLine (String.ofList line) = line.all isBlank := by
    intro line
    rw [isBlankLine, String.toList_ofList]
  unfold lines
  rw [List.all_map]
  simp only [Function.comp_def, hblank]
  rw [← List.all_flatten, flatten_splitLines, List.all_filter, isBlankLine]
  refine congrArg (text.toList.all ·) (funext fun c => ?_)
  cases hc : isLineBreak c with
  | false => rfl
  | true => simp [isBlank_of_isLineBreak hc]

/-- Each line with a line feed after it: the boundaries become line feeds, and the last line gets one if
it had none. -/
lemma flatMap_splitLines (cs : List Char) :
    (splitLines cs).flatMap (· ++ ['\n']) = unifyBreaks cs ∨
      (splitLines cs).flatMap (· ++ ['\n']) = unifyBreaks cs ++ ['\n'] := by
  fun_induction splitLines cs with
  | case1 => exact .inl rfl
  | case2 rest ih => simpa [unifyBreaks] using ih
  | case3 c rest hcrlf hc ih => simpa [unifyBreaks, hc] using ih
  | case4 c rest hcrlf hc hnil ih =>
    obtain rfl := splitLines_eq_nil_iff.mp hnil
    exact .inr (by simp [unifyBreaks, hc])
  | case5 c rest hcrlf hc first lines hcons ih =>
    rw [hcons] at ih
    simpa [unifyBreaks, hc] using ih

lemma unifyBreaks_eq_self {cs : List Char} (h : ∀ c ∈ cs, isLineBreak c = true → c = '\n') :
    unifyBreaks cs = cs := by
  fun_induction unifyBreaks cs with
  | case1 => rfl
  | case2 rest ih => exact absurd (h '\r' (List.mem_cons_self ..) rfl) (by decide)
  | case3 c rest hcrlf ih =>
    rw [ih fun d hd => h d (List.mem_cons_of_mem _ hd)]
    split
    · next hc => rw [h c (List.mem_cons_self ..) hc]
    · rfl

lemma unified_eq_self {text : String} (h : IsLineFed text) : unified text = text := by
  rw [unified, unifyBreaks_eq_self h, String.ofList_toList]

lemma intercalate_append_newline {css : List (List Char)} (h : css ≠ []) :
    ['\n'].intercalate css ++ ['\n'] = css.flatMap (· ++ ['\n']) := by
  induction css with
  | nil => exact absurd rfl h
  | cons cs css ih =>
    cases css with
    | nil => simp
    | cons ds css =>
      rw [List.intercalate_cons_cons, List.append_assoc, List.append_assoc, ih (List.cons_ne_nil _ _)]
      simp

lemma toList_intercalate_lines (text : String) :
    ("\n".intercalate (lines text)).toList = ['\n'].intercalate (splitLines text.toList) := by
  rw [String.toList_intercalate, lines, List.map_map]
  simp [Function.comp_def]

/-- Joined again, the lines of a text are the text with its boundaries unified, up to its end. -/
lemma intercalate_lines {text : String} (hne : text ≠ "") :
    "\n".intercalate (lines text) = unified text ∨ "\n".intercalate (lines text) ++ "\n" = unified text := by
  have hlines : splitLines text.toList ≠ [] := by simpa [splitLines_eq_nil_iff] using hne
  simp only [← String.toList_inj, String.toList_append, toList_intercalate_lines, unified,
    String.toList_ofList]
  have hended := intercalate_append_newline hlines
  rcases flatMap_splitLines text.toList with hcut | hcut
  · exact .inr (hended.trans hcut)
  · exact .inl (List.append_cancel_right (hended.trans hcut))

/-- What is joined from lines has line feeds for boundaries, so this much is needed for a text to come
back. -/
lemma isLineFed_intercalate_lines (text : String) : IsLineFed ("\n".intercalate (lines text)) := by
  intro c hc hbreak
  rw [toList_intercalate_lines] at hc
  by_cases hnil : splitLines text.toList = []
  · simp [hnil] at hc
  · have hmem : c ∈ ['\n'].intercalate (splitLines text.toList) ++ ['\n'] := List.mem_append_left _ hc
    rw [intercalate_append_newline hnil, List.mem_flatMap] at hmem
    obtain ⟨line, hline, hmem⟩ := hmem
    rcases List.mem_append.mp hmem with hown | hend
    · rw [isLineBreak_of_mem_splitLines hline hown] at hbreak
      cases hbreak
    · exact List.mem_singleton.mp hend

/-- The texts that come back from their lines are those that have line feeds for boundaries. -/
lemma eqUpToNewline_intercalate_lines {text : String} (hne : text ≠ "") :
    EqUpToNewline ("\n".intercalate (lines text)) text ↔ IsLineFed text := by
  constructor
  · exact (isLineFed_intercalate_lines text).of_eqUpToNewline
  · intro hfed
    have hjoined := intercalate_lines hne
    rw [unified_eq_self hfed] at hjoined
    exact hjoined.imp_right .inl

end JobScript.Text
