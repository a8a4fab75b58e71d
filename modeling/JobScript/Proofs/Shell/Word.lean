import JobScript.Shell.Word
import Mathlib.Tactic.Lemma

/-! # Reading words

How a shell reads one word that nothing is expanded in: safe characters stand for themselves, single
quotes take everything up to the next one, double quotes all that has no meaning between them. A text
is read back from its word, and the reading stops right behind it. -/

namespace JobScript.Shell.Word

/-- Where in a word a reader is. -/
inductive Mode
  | bare
  | single
  | double
deriving DecidableEq, Repr

/-- Blanks end a word, and so does the end of the line. -/
def isEnd (c : Char) : Bool := c ∈ [' ', '\t', '\n']

/-- Between double quotes these keep a meaning of their own. -/
def isExpanding (c : Char) : Bool := c ∈ ['$', '\x60', '\\']

/-- Puts a text in front of a word that is read. -/
def prepend (text : List Char) (read : Option (List Char × List Char)) : Option (List Char × List Char) :=
  read.map fun (word, rest) => (text ++ word, rest)

/-- What is left of a word, without its quotes, and what comes after it. There is no such word where a
quote stays open, or where a character would be expanded or would be an operator. -/
def readFrom : Mode → List Char → Option (List Char × List Char)
  | .bare, [] => some ([], [])
  | .bare, c :: rest =>
    if c = '\x27' then readFrom .single rest
    else if c = '"' then readFrom .double rest
    else if isEnd c then some ([], c :: rest)
    else if isSafe c then prepend [c] (readFrom .bare rest)
    else none
  | .single, [] => none
  | .single, c :: rest => if c = '\x27' then readFrom .bare rest else prepend [c] (readFrom .single rest)
  | .double, [] => none
  | .double, c :: rest =>
    if c = '"' then readFrom .bare rest
    else if isExpanding c then none
    else prepend [c] (readFrom .double rest)

/-- The word at the start of a text, which has to begin right there. -/
def read : List Char → Option (List Char × List Char)
  | [] => none
  | c :: rest => if isEnd c then none else readFrom .bare (c :: rest)

@[simp] lemma prepend_nil (read : Option (List Char × List Char)) : prepend [] read = read := by
  cases read <;> rfl

lemma prepend_prepend (c : Char) (text : List Char) (read : Option (List Char × List Char)) :
    prepend [c] (prepend text read) = prepend (c :: text) read := by
  cases read <;> rfl

lemma isSafe_ne {c : Char} (h : isSafe c = true) : c ≠ '\x27' ∧ c ≠ '"' ∧ isEnd c = false := by
  refine ⟨?_, ?_, ?_⟩
  · rintro rfl
    revert h
    decide
  · rintro rfl
    revert h
    decide
  · rw [Bool.eq_false_iff]
    intro hend
    simp only [isEnd, List.mem_cons, List.not_mem_nil, or_false, decide_eq_true_eq] at hend
    rcases hend with rfl | rfl | rfl <;> revert h <;> decide

/-- Safe characters are read as they are. -/
lemma readFrom_bare_append {cs : List Char} (h : ∀ c ∈ cs, isSafe c = true) (rest : List Char) :
    readFrom .bare (cs ++ rest) = prepend cs (readFrom .bare rest) := by
  induction cs with
  | nil => simp
  | cons c cs ih =>
    have hc := h c (List.mem_cons_self ..)
    obtain ⟨hsingle, hdouble, hend⟩ := isSafe_ne hc
    rw [List.cons_append, readFrom, if_neg hsingle, if_neg hdouble, if_neg (by simp [hend]), if_pos hc,
      ih fun d hd => h d (List.mem_cons_of_mem _ hd), prepend_prepend]

/-- Between single quotes, a single quote is written by leaving them for double ones and coming back. -/
lemma readFrom_single_escape (cs rest : List Char) :
    readFrom .single (cs.flatMap escape ++ '\x27' :: rest) = prepend cs (readFrom .bare rest) := by
  induction cs with
  | nil => simp [readFrom]
  | cons c cs ih =>
    rw [List.flatMap_cons, List.append_assoc, ← prepend_prepend, ← ih]
    by_cases hc : c = '\x27'
    · subst hc
      simp [escape, readFrom, isExpanding]
    · simp [escape, readFrom, hc]

lemma readFrom_end {c : Char} (hc : isEnd c = true) (rest : List Char) :
    readFrom .bare (c :: rest) = some ([], c :: rest) := by
  have hsingle : c ≠ '\x27' := by
    rintro rfl
    revert hc
    decide
  have hdouble : c ≠ '"' := by
    rintro rfl
    revert hc
    decide
  rw [readFrom, if_neg hsingle, if_neg hdouble, if_pos hc]

lemma readFrom_encode (cs rest : List Char) :
    readFrom .bare (encode cs ++ rest) = prepend cs (readFrom .bare rest) := by
  unfold encode
  split
  · next hsafe =>
    rw [Bool.and_eq_true] at hsafe
    exact readFrom_bare_append (List.all_eq_true.mp hsafe.2) rest
  · rw [List.append_assoc, List.cons_append, List.singleton_append, readFrom, if_pos rfl]
    exact readFrom_single_escape cs rest

lemma isEnd_head_encode {cs : List Char} {c : Char} (h : (encode cs).head? = some c) : isEnd c = false := by
  unfold encode at h
  split at h
  · next hsafe =>
    rw [Bool.and_eq_true] at hsafe
    exact (isSafe_ne (List.all_eq_true.mp hsafe.2 c (List.mem_of_mem_head? h))).2.2
  · cases h
    rfl

/-- A text is read back from its word, however the text looks, and the reading ends right after it. -/
theorem read_encode (cs : List Char) {c : Char} (hc : isEnd c = true) (rest : List Char) :
    read (encode cs ++ c :: rest) = some (cs, c :: rest) := by
  have hread : readFrom .bare (encode cs ++ c :: rest) = some (cs, c :: rest) := by
    rw [readFrom_encode, readFrom_end hc]
    simp [prepend]
  cases hencode : encode cs with
  | nil => exact absurd hencode (encode_ne_nil cs)
  | cons first more =>
    have hfirst : isEnd first = false := isEnd_head_encode (by rw [hencode]; rfl)
    rw [hencode, List.cons_append] at hread
    rw [List.cons_append, read, if_neg (by simp [hfirst]), hread]

end JobScript.Shell.Word
