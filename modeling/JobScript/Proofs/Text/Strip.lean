import JobScript.Proofs.Text.Line
import Mathlib.Data.List.DropRight

/-! # Texts without the blanks around them

What is left of a text once the blanks around it are gone: no other characters are lost, and it neither
starts nor ends with a blank. These two say which text it is. -/

namespace JobScript.Text

/-- Neither the first character nor the last one is blank. -/
structure IsBare (text : String) : Prop where
  head : text.toList.head?.any isBlank = false
  last : text.toList.getLast?.any isBlank = false

/-- The core is all of the text but blanks before and after it. -/
inductive IsCore : String → String → Prop
  | intro {left core right : String} (hleft : isBlankLine left = true) (hright : isBlankLine right = true)
      (hbare : IsBare core) : IsCore (left ++ core ++ right) core

variable {text core : String}

lemma IsBare.isCore (h : IsBare core) : IsCore core core := by
  have hcore : IsCore ("" ++ core ++ "") core := .intro rfl rfl h
  rwa [String.empty_append, String.append_empty] at hcore

lemma toList_strip (text : String) :
    (strip text).toList = (text.toList.dropWhile isBlank).rdropWhile isBlank := by
  simp [strip, stripRight, List.rdropWhile]

lemma IsBare.dropWhile_append (h : IsBare core) (hne : core ≠ "") (cs : List Char) :
    (core.toList ++ cs).dropWhile isBlank = core.toList ++ cs := by
  have hhead := h.head
  cases hcore : core.toList with
  | nil => exact absurd (String.toList_eq_nil_iff.mp hcore) hne
  | cons c rest =>
    rw [hcore, List.head?_cons, Option.any_some] at hhead
    rw [List.cons_append, List.dropWhile_cons_of_neg (by simp [hhead])]

lemma IsBare.rdropWhile_eq_self (h : IsBare core) : core.toList.rdropWhile isBlank = core.toList := by
  rw [List.rdropWhile_eq_self_iff]
  intro hne
  have hlast := h.last
  rw [List.getLast?_eq_some_getLast hne, Option.any_some] at hlast
  simp [hlast]

lemma rdropWhile_append_of_pos {cs blanks : List Char} (h : ∀ c ∈ blanks, isBlank c = true) :
    (cs ++ blanks).rdropWhile isBlank = cs.rdropWhile isBlank := by
  unfold List.rdropWhile
  rw [List.reverse_append, List.dropWhile_append_of_pos fun c hc => h c (List.mem_reverse.mp hc)]

lemma IsCore.strip_eq (h : IsCore text core) : strip text = core := by
  obtain ⟨hleft, hright, hbare⟩ := h
  rename_i left right
  rw [isBlankLine, List.all_eq_true] at hleft hright
  rw [← String.toList_inj, toList_strip, String.toList_append, String.toList_append, List.append_assoc,
    List.dropWhile_append_of_pos hleft]
  by_cases hne : core = ""
  · subst hne
    have hnone : right.toList.dropWhile isBlank = [] := List.dropWhile_eq_nil_iff.mpr hright
    simp [hnone]
  · rw [hbare.dropWhile_append hne, rdropWhile_append_of_pos hright, hbare.rdropWhile_eq_self]

lemma isBare_strip (text : String) : IsBare (strip text) := by
  constructor
  · rw [toList_strip]
    obtain ⟨right, hright⟩ := List.rdropWhile_prefix isBlank (l := text.toList.dropWhile isBlank)
    have hnot := List.head?_dropWhile_not isBlank text.toList
    cases hstripped : (text.toList.dropWhile isBlank).rdropWhile isBlank with
    | nil => rfl
    | cons c rest =>
      rw [hstripped, List.cons_append] at hright
      rw [← hright] at hnot
      exact hnot
  · rw [toList_strip]
    cases hlast : ((text.toList.dropWhile isBlank).rdropWhile isBlank).getLast? with
    | none => rfl
    | some c =>
      obtain ⟨hne, rfl⟩ := List.mem_getLast?_eq_getLast hlast
      simpa using List.rdropWhile_last_not isBlank _ hne

lemma isCore_strip (text : String) : IsCore text (strip text) := by
  have hleft : isBlankLine (String.ofList (text.toList.takeWhile isBlank)) = true := by
    rw [isBlankLine, String.toList_ofList, List.all_eq_true]
    exact fun c hc => List.mem_takeWhile_imp hc
  have hright : isBlankLine (String.ofList ((text.toList.dropWhile isBlank).rtakeWhile isBlank)) = true := by
    rw [isBlankLine, String.toList_ofList, List.all_eq_true]
    exact fun c hc => List.mem_rtakeWhile_imp hc
  have hparts : String.ofList (text.toList.takeWhile isBlank) ++ strip text ++
      String.ofList ((text.toList.dropWhile isBlank).rtakeWhile isBlank) = text := by
    rw [← String.toList_inj, String.toList_append, String.toList_append, String.toList_ofList,
      String.toList_ofList, toList_strip, List.append_assoc, List.rdropWhile_append_rtakeWhile,
      List.takeWhile_append_dropWhile]
  have hcore := IsCore.intro hleft hright (isBare_strip text)
  rwa [hparts] at hcore

/-- A text of blanks alone has nothing left. -/
lemma strip_eq_empty_iff : strip text = "" ↔ isBlankLine text = true := by
  constructor
  · intro h
    have hcore := isCore_strip text
    rw [h] at hcore
    obtain ⟨hleft, hright, -⟩ := hcore
    rw [isBlankLine_append, isBlankLine_append, hleft, hright]
    rfl
  · intro h
    have hcore : IsCore (text ++ "" ++ "") "" := .intro h rfl ⟨rfl, rfl⟩
    simpa using hcore.strip_eq

end JobScript.Text
