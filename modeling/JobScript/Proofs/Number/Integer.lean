import JobScript.Number.Integer
import Mathlib.Data.List.TakeWhile
import Mathlib.Tactic.Lemma

/-! # Reading whole numbers from digits

A text of digits is the numeral of a number unless it is too long or one of its digits has no place in
a positional number. -/

namespace JobScript

namespace Text

lemma Ranges.not_contains_of_disjoint {table other : Ranges}
    (h : ∀ range ∈ table, ∀ range' ∈ other, range.2 < range'.1 ∨ range'.2 < range.1) {c : Char}
    (hc : table.contains c = true) : other.contains c = false := by
  obtain ⟨range, hrange, hlow, hhigh⟩ := contains_iff.mp hc
  rw [Bool.eq_false_iff]
  intro hother
  obtain ⟨range', hrange', hlow', hhigh'⟩ := contains_iff.mp hother
  have hapart := h range hrange range' hrange'
  omega

/-- The decimal digits of all scripts. -/
def decimalDigits : Ranges := decimalZeros.map fun start => (start, start + 9)

lemma isDecimal_eq (c : Char) : isDecimal c = decimalDigits.contains c := by
  rw [isDecimal, decimalValue?, Option.isSome_map, Bool.eq_iff_iff, List.find?_isSome, Ranges.contains,
    decimalDigits, List.any_map, List.any_eq_true]
  refine exists_congr fun start => and_congr_right fun _ => ?_
  simp [Nat.lt_succ_iff]

lemma decimalValue?_lt {c : Char} {value : Nat} (h : decimalValue? c = some value) : value < 10 := by
  obtain ⟨start, hstart, hvalue⟩ := Option.map_eq_some_iff.mp h
  have hbounds := List.find?_some hstart
  simp only [Bool.and_eq_true, decide_eq_true_eq] at hbounds
  omega

lemma isBlank_of_isDigit {c : Char} (h : isDigit c = true) : isBlank c = false := by
  rw [isDigit, Bool.or_eq_true, isDecimal_eq] at h
  rcases h with h | h
  · exact Ranges.not_contains_of_disjoint (by decide) h
  · exact Ranges.not_contains_of_disjoint (by decide) h

end Text

namespace Number

open Text

lemma isBlank_of_isAround {c : Char} (h : isAround c = true) : isBlank c = true := by
  simp only [isAround, Bool.or_eq_true, Bool.and_eq_true, beq_iff_eq, decide_eq_true_eq] at h
  rcases h with (rfl | ⟨hlow, hhigh⟩) | ⟨-, hblank⟩
  · decide
  · exact Ranges.contains_iff.mpr ⟨(0x09, 0x0D), by decide, hlow, hhigh⟩
  · exact hblank

lemma isAround_of_isDigit {c : Char} (h : isDigit c = true) : isAround c = false := by
  have hblank := isBlank_of_isDigit h
  rw [Bool.eq_false_iff] at hblank ⊢
  exact fun haround => hblank (isBlank_of_isAround haround)

/-- Only decimal digits are digits of a decimal numeral, of letters none. -/
lemma digitBelow?_isSome (c : Char) : (digitBelow? 10 c).isSome = isDecimal c := by
  unfold digitBelow? digitValue? isDecimal
  cases hvalue : decimalValue? c with
  | some value => simp [decimalValue?_lt hvalue]
  | none =>
    dsimp only
    split
    · simp
    · split <;> simp

lemma spanDigits_ten (cs : List Char) : (spanDigits 10 cs).1.length = (cs.takeWhile isDecimal).length ∧
    (spanDigits 10 cs).2 = cs.dropWhile isDecimal := by
  induction cs with
  | nil => exact ⟨rfl, rfl⟩
  | cons c rest ih =>
    obtain ⟨hlength, hrest⟩ := ih
    have hdecimal := digitBelow?_isSome c
    unfold spanDigits
    cases hdigit : digitBelow? 10 c with
    | some value =>
      rw [hdigit] at hdecimal
      rw [List.takeWhile_cons_of_pos hdecimal.symm, List.dropWhile_cons_of_pos hdecimal.symm]
      exact ⟨congrArg (· + 1) hlength, hrest⟩
    | none =>
      rw [hdigit] at hdecimal
      have hneg : ¬isDecimal c = true := by simp [← hdecimal]
      rw [List.takeWhile_cons_of_neg hneg, List.dropWhile_cons_of_neg hneg]
      exact ⟨rfl, rfl⟩

lemma dropMark_ten (cs : List Char) : dropMark 10 cs = cs := by
  unfold dropMark
  split
  · rw [if_neg (by simp [baseMark?])]
  · rfl

lemma takeSign_of_isDigit {c : Char} (h : isDigit c = true) (rest : List Char) :
    takeSign (c :: rest) = (false, c :: rest) := by
  unfold takeSign
  split
  · rename_i heq
    cases heq
    exact absurd h (by decide)
  · rename_i heq
    cases heq
    exact absurd h (by decide)
  · rfl

/-- Digits are read up to the first without a place in a numeral, and nothing may follow them. -/
lemma readInt_of_isDigits {s : String} (h : isDigits s = true) : readInt 10 s =
    if maxDigits < (s.toList.takeWhile isDecimal).length then
      .error (.tooLong (s.toList.takeWhile isDecimal).length)
    else if s.toList.dropWhile isDecimal = [] then .ok (ofDigits 10 (spanDigits 10 s.toList).1 : Int)
    else .error (.malformed 10 s) := by
  obtain ⟨hne, hdigits⟩ : s.toList ≠ [] ∧ ∀ c ∈ s.toList, isDigit c = true := by
    simpa [isDigits] using h
  obtain ⟨c, rest, hcs⟩ := List.exists_cons_of_ne_nil hne
  have hc : isDigit c = true := hdigits c (by simp [hcs])
  have hbody : takeSign (s.toList.dropWhile isAround) = (false, s.toList) := by
    rw [hcs, List.dropWhile_cons_of_neg (by simp [isAround_of_isDigit hc]), takeSign_of_isDigit hc]
  obtain ⟨hlength, hafter⟩ := spanDigits_ten s.toList
  have hempty : (spanDigits 10 s.toList).1.isEmpty = true → s.toList.dropWhile isDecimal ≠ [] := by
    intro hnone
    rw [List.isEmpty_iff.mp hnone] at hlength
    have htake : s.toList.takeWhile isDecimal = [] := List.eq_nil_of_length_eq_zero hlength.symm
    have hsplit := List.takeWhile_append_dropWhile (p := isDecimal) (l := s.toList)
    rw [htake, List.nil_append] at hsplit
    rwa [hsplit]
  have hall : ((spanDigits 10 s.toList).2.all isAround) = true ↔ s.toList.dropWhile isDecimal = [] := by
    rw [hafter]
    constructor
    · intro hall
      rw [List.eq_nil_iff_forall_not_mem]
      intro d hd
      have haround := List.all_eq_true.mp hall d hd
      rw [isAround_of_isDigit (hdigits d ((List.dropWhile_sublist _).mem hd))] at haround
      cases haround
    · rintro hnil
      rw [hnil]
      rfl
  have hfault : ((spanDigits 10 s.toList).1.isEmpty || !(spanDigits 10 s.toList).2.all isAround) = true ↔
      s.toList.dropWhile isDecimal ≠ [] := by
    rw [Bool.or_eq_true, Bool.not_eq_true', Bool.eq_false_iff, ne_eq, hall]
    exact ⟨fun h => h.elim hempty id, .inr⟩
  unfold readInt
  simp only [hbody, dropMark_ten, hfault, hlength, true_and]
  split
  · rfl
  · rw [← ite_not]
    simp

/-- Digits make a numeral if every one has a place in it and there are not too many. -/
theorem readInt_isOk_iff {s : String} (h : isDigits s = true) :
    (readInt 10 s).isOk = true ↔ (∀ c ∈ s.toList, isDecimal c = true) ∧ s.toList.length ≤ maxDigits := by
  rw [readInt_of_isDigits h]
  by_cases hall : ∀ c ∈ s.toList, isDecimal c = true
  · rw [List.takeWhile_eq_self_iff.mpr hall, if_pos (List.dropWhile_eq_nil_iff.mpr hall)]
    by_cases hlong : maxDigits < s.toList.length
    · rw [if_pos hlong]
      refine ⟨fun hok => ?_, fun hfits => absurd hfits.2 (Nat.not_le_of_gt hlong)⟩
      cases hok
    · rw [if_neg hlong]
      exact ⟨fun _ => ⟨hall, Nat.le_of_not_lt hlong⟩, fun _ => rfl⟩
  · rw [if_neg (mt List.dropWhile_eq_nil_iff.mp hall)]
    refine ⟨fun hok => ?_, fun hfits => absurd hfits.1 hall⟩
    split at hok <;> cases hok

end Number

end JobScript
