import JobScript.Slug
import Mathlib.Tactic.Lemma

/-! # The parts of a cache slug

A slug is joined from its parts as they are, and an empty part leaves no trace. Since it begins with a
part that is never empty, each of the others adds a text of its own behind it, so that no part can be
changed alone without the slug changing. -/

namespace JobScript.Slug

/-- What parts add to a slug that has begun. -/
def tail : List String → String
  | [] => ""
  | part :: rest => if part = "" then tail rest else separator ++ part ++ tail rest

lemma tail_empty (rest : List String) : tail ("" :: rest) = tail rest := if_pos rfl

lemma tail_of_ne {part : String} (h : part ≠ "") (rest : List String) :
    tail (part :: rest) = separator ++ part ++ tail rest := if_neg h

lemma intercalate_cons (first : String) (parts : List String) :
    separator.intercalate (first :: parts.filter (· ≠ "")) = first ++ tail parts := by
  induction parts generalizing first with
  | nil => simp [tail]
  | cons part rest ih =>
    by_cases h : part = ""
    · subst h
      rw [tail_empty, ← ih]
      simp
    · rw [List.filter_cons_of_pos (by simpa using h), String.intercalate_cons_cons, ih, tail_of_ne h]
      simp only [String.append_assoc]

lemma join_cons {first : String} (h : first ≠ "") (parts : List String) :
    join (first :: parts) = first ++ tail parts := by
  rw [join, List.filter_cons_of_pos (by simpa using h), intercalate_cons]

lemma ofTexts_eq {language : String} (h : language ≠ "") (version : String) (extras : List String) :
    ofTexts language version extras = "cache--" ++ (language ++ tail (version :: extras)) := by
  have hlead : lead ≠ "" := by decide
  show join (lead :: language :: version :: extras) = _
  rw [join_cons hlead, tail_of_ne h, ← String.append_assoc, ← String.append_assoc, String.append_assoc]
  rfl

section Change

variable {text text' : String}

lemma tail_append (before after : List String) : tail (before ++ after) = tail before ++ tail after := by
  induction before with
  | nil => simp [tail]
  | cons part rest ih =>
    by_cases h : part = ""
    · subst h
      rw [List.cons_append, tail_empty, tail_empty, ih]
    · rw [List.cons_append, tail_of_ne h, tail_of_ne h, ih]
      simp only [String.append_assoc]

/-- What a single part adds tells the part, also where it is empty. -/
lemma tail_singleton_inj : tail [text] = tail [text'] ↔ text = text' := by
  by_cases h : text = "" <;> by_cases h' : text' = ""
  · simp [h, h']
  · simp [h, tail, separator, h', Ne.symm h']
  · simp [h', tail, separator, h]
  · simp [tail, h, h', separator]

/-- Whatever stands before a part and after it, dashes included, the part can be told. -/
lemma tail_replace (before after : List String) :
    tail (before ++ text :: after) = tail (before ++ text' :: after) ↔ text = text' := by
  have hsplit : ∀ part, tail (before ++ part :: after) = tail before ++ (tail [part] ++ tail after) := by
    intro part
    rw [tail_append, ← tail_append [part] after]
    rfl
  rw [hsplit, hsplit, String.append_right_inj, String.append_left_inj, tail_singleton_inj]

/-- A part that counts as false adds nothing. -/
lemma tail_map_part_filter (extras : List Value) :
    tail ((extras.filter Value.truthy).map part) = tail (extras.map part) := by
  induction extras with
  | nil => rfl
  | cons v rest ih =>
    by_cases h : v.truthy = true
    · rw [List.filter_cons_of_pos h, List.map_cons, List.map_cons, ← List.singleton_append, tail_append, ih,
        ← tail_append]
      rfl
    · have hempty : part v = "" := if_neg h
      rw [List.filter_cons_of_neg h, List.map_cons, hempty, tail_empty, ih]

lemma part_str (text : String) : part (.str text) = text := by
  unfold part Value.truthy
  by_cases h : text = "" <;> simp [h, Value.text]

lemma ofValues_eq (language : String) (version : Value) (extras : List Value) :
    ofValues language version extras = lead ++ tail (language :: part version :: extras.map part) := by
  have hlead : lead ≠ "" := by decide
  exact join_cons hlead (language :: part version :: extras.map part)

end Change

/-- A slug reacts to each of its parts: the language, the version, where none counts as empty, and the
text at any place among the extras can be told from it as long as the other parts stay as they are. What
counts as false among the extras makes no difference, wherever it stands. -/
theorem ofValues_reacts (language : String) (version : Value) (extras : List Value) :
    (∀ language', ofValues language version extras = ofValues language' version extras ↔
      language = language') ∧
    ofValues language .null extras = ofValues language (.str "") extras ∧
    (∀ text text', ofValues language (.str text) extras = ofValues language (.str text') extras ↔
      text = text') ∧
    (∀ before text text' after, ofValues language version (before ++ .str text :: after) =
      ofValues language version (before ++ .str text' :: after) ↔ text = text') ∧
    ∀ extras', extras.filter Value.truthy = extras'.filter Value.truthy →
      ofValues language version extras = ofValues language version extras' := by
  refine ⟨fun language' => ?_, ?_, fun text text' => ?_, fun before text text' after => ?_, fun extras' h => ?_⟩
  · rw [ofValues_eq, ofValues_eq, String.append_right_inj]
    exact tail_replace [] _
  · rw [ofValues_eq, ofValues_eq, part_str]
    rfl
  · rw [ofValues_eq, ofValues_eq, String.append_right_inj, part_str, part_str]
    exact tail_replace [language] _
  · rw [ofValues_eq, ofValues_eq, String.append_right_inj, List.map_append, List.map_append, List.map_cons,
      List.map_cons, part_str, part_str]
    exact tail_replace (language :: part version :: before.map part) _
  · have hsame : tail (extras.map part) = tail (extras'.map part) := by
      rw [← tail_map_part_filter, h, tail_map_part_filter]
    have hsplit : ∀ parts, tail (language :: part version :: parts) =
        tail [language, part version] ++ tail parts := tail_append [language, part version]
    rw [ofValues_eq, ofValues_eq, hsplit, hsame, ← hsplit]

/-- Dashes inside a version and as an extra do not hide a change, nor does a part that becomes empty; nothing,
zero and the empty text among the extras do not show. -/
theorem ofValues_reacts_dashes :
    let extras : List Value := [.str "yarn", .str "--"]
    let padded : List Value := [.null, .str "yarn", .int 0, .str "", .str "--"]
    extras.filter Value.truthy = padded.filter Value.truthy ∧
    ofValues "node_js" (.str "6--") extras = ofValues "node_js" (.str "6--") padded ∧
    ofValues "node_js" (.str "6") extras ≠ ofValues "node_js" (.str "6--") extras ∧
    ofValues "" (.str "6") extras ≠ ofValues "--" (.str "6") extras ∧
    ofValues "node_js" (.str "6") ([.str "yarn"] ++ [.str ""]) ≠
      ofValues "node_js" (.str "6") ([.str "yarn"] ++ [.str "--"]) := by
  intro extras padded
  have hfilter : extras.filter Value.truthy = padded.filter Value.truthy := rfl
  obtain ⟨-, -, -, -, hpadded⟩ := ofValues_reacts "node_js" (.str "6--") extras
  obtain ⟨-, -, hversion, -, -⟩ := ofValues_reacts "node_js" .null extras
  obtain ⟨hlanguage, -, -, -, -⟩ := ofValues_reacts "" (.str "6") extras
  obtain ⟨-, -, -, hextra, -⟩ := ofValues_reacts "node_js" (.str "6") []
  refine ⟨hfilter, hpadded _ hfilter, mt (hversion _ _).mp ?_, mt (hlanguage _).mp ?_,
    mt (hextra [.str "yarn"] _ _ []).mp ?_⟩ <;> decide

end JobScript.Slug
