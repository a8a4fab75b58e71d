import JobScript.Text.Case
import Mathlib.Tactic.Lemma

/-! # Lower case is final

A text in lower case stays as it is when it is put into lower case once more. This is not a matter of
course, as single characters are mapped by a table: nothing that the table maps to may be mapped by it
again. -/

namespace JobScript.Text

open Case

namespace Case

/-- The least code point that a run maps to. -/
def Run.low (run : Run) : Nat := (run.first + run.shift).toNat

/-- The greatest code point that a run maps to. -/
def Run.high (run : Run) : Nat := (run.last + run.shift).toNat

/-- What a run maps to are code points of characters. -/
def Run.isSound (run : Run) : Bool :=
  decide (0 ≤ run.first + run.shift) &&
    (decide (run.high < 0xD800) || (decide (0xE000 ≤ run.low) && decide (run.high < 0x110000)))

/-- Nothing that a run maps to is mapped by another one: that one lies above it or below it, or has every
second code point and the run maps to those in between. -/
def Run.misses (run other : Run) : Bool :=
  run.high.blt other.first || other.last.blt run.low ||
    ((run.first == run.last || run.step == 2) && other.step == 2 && (run.low + other.first) % 2 == 1)

variable {run other : Run} {n : Nat} {c : Char}

lemma Run.map?_eq_some_iff : run.map? n = some c ↔
    (run.first ≤ n ∧ n ≤ run.last ∧ (n - run.first) % run.step = 0) ∧ Char.ofNat (n + run.shift).toNat = c := by
  unfold Run.map?
  split <;> simp_all

lemma Run.map?_eq_none_iff : run.map? n = none ↔
    ¬(run.first ≤ n ∧ n ≤ run.last ∧ (n - run.first) % run.step = 0) := by
  unfold Run.map?
  split <;> simp_all

lemma Run.isSound_iff : run.isSound = true ↔
    0 ≤ run.first + run.shift ∧ (run.high < 0xD800 ∨ 0xE000 ≤ run.low ∧ run.high < 0x110000) := by
  simp only [Run.isSound, Bool.and_eq_true, Bool.or_eq_true, decide_eq_true_eq]

lemma Run.misses_iff : run.misses other = true ↔
    (run.high < other.first ∨ other.last < run.low) ∨
      ((run.first = run.last ∨ run.step = 2) ∧ other.step = 2) ∧ (run.low + other.first) % 2 = 1 := by
  simp only [Run.misses, Bool.and_eq_true, Bool.or_eq_true, Nat.blt_eq, beq_iff_eq]

lemma Run.toNat_of_map? (hsound : run.isSound = true) (h : run.map? n = some c) :
    (c.toNat : Int) = n + run.shift := by
  obtain ⟨⟨hfirst, hlast, -⟩, rfl⟩ := Run.map?_eq_some_iff.mp h
  rw [Run.isSound_iff, Run.low, Run.high] at hsound
  have hvalid : (n + run.shift).toNat.isValidChar := by
    unfold Nat.isValidChar
    omega
  rw [Char.ofNat, dif_pos hvalid]
  show ((n + run.shift).toNat : Int) = _
  omega

lemma Run.map?_of_misses (hsound : run.isSound = true) (hmisses : run.misses other = true)
    (h : run.map? n = some c) : other.map? c.toNat = none := by
  have hc := Run.toNat_of_map? hsound h
  obtain ⟨⟨hfirst, hlast, hstep⟩, -⟩ := Run.map?_eq_some_iff.mp h
  have hlow := (Run.isSound_iff.mp hsound).1
  rw [Run.misses_iff, Run.low, Run.high] at hmisses
  rw [Run.map?_eq_none_iff]
  rintro ⟨hfirst', hlast', hstep'⟩
  rcases hmisses with (hbelow | habove) | ⟨⟨hrun, hother⟩, hodd⟩
  · omega
  · omega
  · rw [hother] at hstep'
    rcases hrun with hsingle | htwo
    · omega
    · rw [htwo] at hstep
      omega

/-- All that the table for lower case maps, the characters that become several ones included. -/
def lowerDomain : List Run := lowerRuns ++ lowerExpansions.map fun entry => ⟨entry.1, entry.1, 1, 0⟩

lemma all_isSound_lowerRuns : lowerRuns.all Run.isSound = true := by decide +kernel

lemma all_misses_lowerRuns : lowerRuns.all (fun run => lowerDomain.all run.misses) = true := by
  decide +kernel

/-- What the table for lower case maps to is not mapped by it again. -/
lemma map?_of_mem_lowerRuns (hrun : run ∈ lowerRuns) (h : run.map? n = some c) :
    ∀ other ∈ lowerDomain, other.map? c.toNat = none := by
  intro other hother
  have hsound := List.all_eq_true.mp all_isSound_lowerRuns run hrun
  have hmisses := List.all_eq_true.mp (List.all_eq_true.mp all_misses_lowerRuns run hrun) other hother
  exact Run.map?_of_misses hsound hmisses h

end Case

section Characters

variable {c d : Char}

/-- The table maps the letters of ASCII, too. -/
lemma lowerChar_eq_mapCase (c : Char) : lowerChar c = mapCase lowerRuns lowerExpansions c := by
  have hascii : ∀ n < 0x80, mapCase lowerRuns lowerExpansions (Char.ofNat n) = [(Char.ofNat n).toLower] := by
    decide +kernel
  unfold lowerChar
  split
  · next h => rw [← Char.ofNat_toNat c, hascii _ h]
  · rfl

/-- Characters that lower case leaves as they are; the capital sigma is none, whatever comes around it. -/
structure IsLowered (c : Char) : Prop where
  ne_sigma : c ≠ 'Σ'
  lowerChar_eq : lowerChar c = [c]

lemma isLowered_of_map? (h : ∀ run ∈ lowerDomain, run.map? c.toNat = none) : IsLowered c := by
  refine ⟨?_, ?_⟩
  · rintro rfl
    have hsigma : (⟨0x3A3, 0x3AB, 1, 32⟩ : Run) ∈ lowerDomain := by decide +kernel
    exact absurd (h _ hsigma) (by decide)
  · have hexpansions : lowerExpansions.lookup c.toNat = none := by
      rw [List.lookup_eq_none_iff]
      intro entry hentry
      have hnone := h ⟨entry.1, entry.1, 1, 0⟩ (List.mem_append_right _ (List.mem_map_of_mem hentry))
      rw [bne_iff_ne]
      intro heq
      rw [Run.map?_eq_none_iff, heq] at hnone
      exact hnone ⟨Nat.le_refl _, Nat.le_refl _, Nat.mod_one _⟩
    have hruns : lowerRuns.findSome? (fun run => run.map? c.toNat) = none :=
      List.findSome?_eq_none_iff.mpr fun run hrun => h run (List.mem_append_left _ hrun)
    rw [lowerChar_eq_mapCase, mapCase, hexpansions, hruns]
    rfl

/-- What no run of the table maps, as it is checked for the few characters that are named one by one. -/
def isUnmapped (c : Char) : Bool := lowerDomain.all fun run => (run.map? c.toNat).isNone

lemma isLowered_of_isUnmapped (h : isUnmapped c = true) : IsLowered c :=
  isLowered_of_map? fun run hrun => Option.isNone_iff_eq_none.mp (List.all_eq_true.mp h run hrun)

lemma isLowered_of_mem_lowerChar (hc : c ≠ 'Σ') (h : d ∈ lowerChar c) : IsLowered d := by
  have hmap := lowerChar_eq_mapCase c
  unfold mapCase at hmap
  split at hmap
  · next codes hcodes =>
    have hall : lowerExpansions.all (fun entry => (entry.2.map Char.ofNat).all isUnmapped) = true := by
      decide +kernel
    obtain ⟨before, after, hentries, -⟩ := List.lookup_eq_some_iff.mp hcodes
    have hmem : (c.toNat, codes) ∈ lowerExpansions := by simp [hentries]
    exact isLowered_of_isUnmapped (List.all_eq_true.mp (List.all_eq_true.mp hall _ hmem) d (hmap ▸ h))
  · next hexpansions =>
    cases hrun : lowerRuns.findSome? (fun run => run.map? c.toNat) with
    | some mapped =>
      rw [hrun] at hmap
      rw [hmap, Option.getD_some, List.mem_singleton] at h
      subst h
      obtain ⟨run, hmem, hsome⟩ := List.exists_of_findSome?_eq_some hrun
      exact isLowered_of_map? (map?_of_mem_lowerRuns hmem hsome)
    | none =>
      rw [hrun] at hmap
      rw [hmap, Option.getD_none, List.mem_singleton] at h
      subst h
      exact ⟨hc, hmap⟩

end Characters

/-- In whatever surroundings, lower case consists of characters that it leaves as they are. -/
lemma isLowered_of_mem_lowerFrom {before cs : List Char} : ∀ c ∈ lowerFrom before cs, IsLowered c := by
  induction cs generalizing before with
  | nil => simp [lowerFrom]
  | cons first rest ih =>
    intro c hc
    rw [lowerFrom, List.mem_append] at hc
    rcases hc with hfirst | hrest
    · split at hfirst
      · have hsmall : ['ς', 'σ'].all isUnmapped = true := by decide +kernel
        refine isLowered_of_isUnmapped (List.all_eq_true.mp hsmall c ?_)
        rw [List.mem_singleton] at hfirst
        split at hfirst <;> simp [hfirst]
      · next hne => exact isLowered_of_mem_lowerChar hne hfirst
    · exact ih c hrest

lemma lowerFrom_eq_self {before cs : List Char} (h : ∀ c ∈ cs, IsLowered c) : lowerFrom before cs = cs := by
  induction cs generalizing before with
  | nil => rfl
  | cons c rest ih =>
    obtain ⟨hc, hrest⟩ := List.forall_mem_cons.mp h
    rw [lowerFrom, ih hrest, if_neg hc.ne_sigma, hc.lowerChar_eq]
    rfl

/-- Lower case is the same once more. -/
theorem toLower_toLower (s : String) : toLower (toLower s) = toLower s := by
  unfold toLower
  rw [String.toList_ofList, lowerFrom_eq_self isLowered_of_mem_lowerFrom]

end JobScript.Text
