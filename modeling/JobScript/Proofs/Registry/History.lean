import JobScript.Registry
import Mathlib.Data.List.Induction
import Mathlib.Tactic.Lemma

/-! # The history of a registry

What a registry answers follows from what was registered and unregistered, whatever the order. -/

namespace JobScript.Registry

inductive Edit
  | register (adapter : Adapter)
  | unregister (name : String)

def edit (r : Registry) : Edit → Registry
  | .register adapter => r.register adapter
  | .unregister name => r.unregister name

def after (r : Registry) (history : List Edit) : Registry := history.foldl edit r

def Edit.removes (name : String) : Edit → Bool
  | .register _ => false
  | .unregister n => n == name

/-- The last registration that meets a condition, and the edits after it. -/
structure IsLast (p : Adapter → Prop) (history : List Edit) (adapter : Adapter) (later : List Edit) :
    Prop where
  split : ∃ before, history = before ++ .register adapter :: later
  holds : p adapter
  last : ∀ a, .register a ∈ later → ¬p a

def last? (p : Adapter → Bool) : List Edit → Option (Adapter × List Edit)
  | [] => none
  | .register a :: rest => last? p rest <|> if p a then some (a, rest) else none
  | .unregister _ :: rest => last? p rest

/-- The adapter of the last registration that meets a condition, unless it was unregistered since. -/
def standing? (p : Adapter → Bool) (history : List Edit) : Option Adapter :=
  ((last? p history).filter fun entry => !entry.2.any (Edit.removes entry.1.name)).map Prod.fst

section Reading

variable {p : Adapter → Bool} {history later : List Edit} {a : Adapter}

lemma last?_eq_none_iff : last? p history = none ↔ ∀ a, .register a ∈ history → p a = false := by
  induction history with
  | nil => simp [last?]
  | cons e rest ih =>
    cases e with
    | register b => simp [last?, ih, and_comm]
    | unregister n => simp [last?, ih]

lemma IsLast.cons {p : Adapter → Prop} (h : IsLast p history a later) (e : Edit) :
    IsLast p (e :: history) a later := by
  obtain ⟨before, rfl⟩ := h.split
  exact ⟨⟨e :: before, rfl⟩, h.holds, h.last⟩

lemma isLast_of_last? (h : last? p history = some (a, later)) : IsLast (p · = true) history a later := by
  induction history with
  | nil => cases h
  | cons e rest ih =>
    cases e with
    | unregister n => exact (ih h).cons _
    | register b =>
      cases hrest : last? p rest with
      | some found =>
        rw [last?, hrest] at h
        exact (ih (hrest.trans h)).cons _
      | none =>
        rw [last?, hrest] at h
        replace h : (if p b then some (b, rest) else none) = some (a, later) := h
        cases hb : p b with
        | false =>
          rw [hb] at h
          cases h
        | true =>
          rw [hb] at h
          cases h
          have hlast := last?_eq_none_iff.mp hrest
          exact ⟨⟨[], rfl⟩, hb, fun c hc => by simp [hlast c hc]⟩

lemma last?_of_isLast (h : IsLast (p · = true) history a later) : last? p history = some (a, later) := by
  obtain ⟨⟨before, rfl⟩, hholds, hlast⟩ := h
  have hnone : last? p later = none := last?_eq_none_iff.mpr fun b hb => by simpa using hlast b hb
  induction before with
  | nil => simp [last?, hnone, hholds]
  | cons e rest ih =>
    cases e with
    | register b => simp [last?, ih]
    | unregister n => exact ih

lemma isLast_iff {q : Adapter → Prop} [DecidablePred q] :
    IsLast q history a later ↔ last? (fun a => decide (q a)) history = some (a, later) := by
  have hq : (fun a => decide (q a) = true) = q := by simp
  constructor
  · intro h
    exact last?_of_isLast (hq.symm ▸ h)
  · intro h
    exact hq ▸ isLast_of_last? h

lemma last?_append_register (a : Adapter) : last? p (history ++ [.register a]) =
    if p a then some (a, []) else (last? p history).map fun entry => (entry.1, entry.2 ++ [.register a]) := by
  induction history with
  | nil => cases h : p a <;> simp [last?, h]
  | cons e rest ih =>
    cases e with
    | register b =>
      rw [List.cons_append, last?, last?, ih]
      cases p a <;> cases last? p rest <;> cases p b <;> rfl
    | unregister n => exact ih

lemma last?_append_unregister (n : String) : last? p (history ++ [.unregister n]) =
    (last? p history).map fun entry => (entry.1, entry.2 ++ [.unregister n]) := by
  induction history with
  | nil => rfl
  | cons e rest ih =>
    cases e with
    | register b =>
      rw [List.cons_append, last?, last?, ih]
      cases last? p rest <;> cases p b <;> rfl
    | unregister m => exact ih

lemma standing?_append_register (a : Adapter) : standing? p (history ++ [.register a]) =
    if p a then some a else standing? p history := by
  rw [standing?, standing?, last?_append_register]
  cases p a with
  | true => rfl
  | false =>
    rw [if_neg Bool.false_ne_true, if_neg Bool.false_ne_true]
    cases last? p history <;> simp [Edit.removes, Option.filter]

lemma standing?_append_unregister (n : String) : standing? p (history ++ [.unregister n]) =
    (standing? p history).filter (·.name ≠ n) := by
  rw [standing?, standing?, last?_append_unregister]
  cases last? p history with
  | none => rfl
  | some entry =>
    obtain ⟨b, later⟩ := entry
    have hsingle : [Edit.unregister n].any (Edit.removes b.name) = (n == b.name) := Bool.or_false _
    rw [Option.map_some, Option.filter_some, Option.filter_some, List.any_append, hsingle]
    cases later.any (Edit.removes b.name) with
    | true => rfl
    | false =>
      by_cases hn : n = b.name
      · simp [hn, Option.filter]
      · simp [hn, Ne.symm hn, Option.filter]

lemma any_removes_iff {name : String} : later.any (Edit.removes name) = true ↔ .unregister name ∈ later := by
  rw [List.any_eq_true]
  constructor
  · rintro ⟨e, he, hremoves⟩
    cases e with
    | register b => cases hremoves
    | unregister n =>
      rw [← show n = name by simpa [Edit.removes] using hremoves]
      exact he
  · exact fun h => ⟨_, h, beq_self_eq_true name⟩

lemma standing?_eq_some_iff : standing? p history = some a ↔
    ∃ later, last? p history = some (a, later) ∧ .unregister a.name ∉ later := by
  rw [standing?, Option.map_eq_some_iff]
  constructor
  · rintro ⟨⟨b, later⟩, hfilter, rfl⟩
    obtain ⟨hlast, hany⟩ := Option.filter_eq_some_iff.mp hfilter
    exact ⟨later, hlast, by simpa [← any_removes_iff] using hany⟩
  · rintro ⟨later, hlast, hnot⟩
    refine ⟨(a, later), Option.filter_eq_some_iff.mpr ⟨hlast, ?_⟩, rfl⟩
    simpa [← any_removes_iff] using hnot

lemma holds_of_standing? (h : standing? p history = some a) : p a = true := by
  obtain ⟨later, hlast, -⟩ := standing?_eq_some_iff.mp h
  exact (isLast_of_last? hlast).holds

end Reading

section Tables

variable {fallback : Option Adapter} {history : List Edit}

lemma after_append (r : Registry) (history : List Edit) (e : Edit) :
    r.after (history ++ [e]) = (r.after history).edit e := by
  simp [after]

lemma fallback_after (history : List Edit) : ((empty fallback).after history).fallback = fallback := by
  induction history using List.reverseRecOn with
  | nil => rfl
  | append_singleton history e ih =>
    rw [after_append]
    cases e <;> exact ih

lemma find?_filter_name (adapters : List Adapter) (n name : String) :
    (adapters.filter (·.name ≠ n)).find? (·.name == name) =
      (adapters.find? (·.name == name)).filter (·.name ≠ n) := by
  induction adapters with
  | nil => rfl
  | cons a rest ih =>
    by_cases hn : a.name = n
    · rw [List.filter_cons_of_neg (by simp [hn]), ih, List.find?_cons]
      split
      · rename_i hname
        have hfound : ∀ b, rest.find? (·.name == name) = some b → b.name = n := by
          intro b hb
          rw [← hn, eq_of_beq hname]
          simpa using List.find?_some hb
        cases hrest : rest.find? (·.name == name) with
        | none => simp [Option.filter, hn]
        | some b => simp [Option.filter, hn, hfound b hrest]
      · rfl
    · rw [List.filter_cons_of_pos (by simp [hn]), List.find?_cons, List.find?_cons]
      split
      · simp [Option.filter, hn]
      · exact ih

/-- The adapter under a name is the one that was last registered with it. -/
lemma find?_after (history : List Edit) (name : String) :
    ((empty fallback).after history).find? name = standing? (·.name == name) history := by
  induction history using List.reverseRecOn with
  | nil => rfl
  | append_singleton history e ih =>
    rw [after_append]
    cases e with
    | register a =>
      rw [standing?_append_register, ← ih]
      by_cases hname : a.name = name
      · subst name
        rw [if_pos (beq_self_eq_true _)]
        exact find?_setAdapter_self ..
      · rw [if_neg (by simpa using hname)]
        exact find?_setAdapter_of_ne (Ne.symm hname) _
    | unregister n =>
      rw [standing?_append_unregister, ← ih]
      exact find?_filter_name ..

lemma lookup_foldl_setName (keys : List String) (name : String) (names : List (String × String))
    (key : String) : (keys.foldl (fun names key => setName key name names) names).lookup key =
      if key ∈ keys then some name else names.lookup key := by
  induction keys generalizing names with
  | nil => rfl
  | cons k rest ih =>
    rw [List.foldl_cons, ih]
    by_cases hrest : key ∈ rest
    · simp [hrest]
    · by_cases hk : key = k
      · simp [hk]
      · rw [lookup_setName_of_ne name hk]
        simp [hrest, hk]

lemma nodup_setName {names : List (String × String)} (h : (names.map Prod.fst).Nodup) (key name : String) :
    ((setName key name names).map Prod.fst).Nodup := by
  rw [setName, List.map_cons, List.nodup_cons]
  refine ⟨by simp, h.sublist ?_⟩
  exact List.filter_sublist.map _

lemma nodup_foldl_setName {names : List (String × String)} (h : (names.map Prod.fst).Nodup)
    (keys : List String) (name : String) :
    ((keys.foldl (fun names key => setName key name names) names).map Prod.fst).Nodup := by
  induction keys generalizing names with
  | nil => exact h
  | cons key rest ih => exact ih (nodup_setName h key name)

/-- No key stands for two names. -/
lemma nodup_after (history : List Edit) :
    (((empty fallback).after history).names.map Prod.fst).Nodup := by
  induction history using List.reverseRecOn with
  | nil => exact List.nodup_nil
  | append_singleton history e ih =>
    rw [after_append]
    cases e with
    | register a =>
      exact nodup_foldl_setName ih (keys a) a.name
    | unregister n => exact ih.sublist (List.filter_sublist.map _)

lemma lookup_filter {names : List (String × String)} (h : (names.map Prod.fst).Nodup) (name key : String) :
    (names.filter (·.2 ≠ name)).lookup key = (names.lookup key).filter (· ≠ name) := by
  induction names with
  | nil => rfl
  | cons entry rest ih =>
    obtain ⟨k, n⟩ := entry
    obtain ⟨hk, hrest⟩ := List.nodup_cons.mp h
    by_cases hn : n = name
    · rw [List.filter_cons_of_neg (by simp [hn]), ih hrest, List.lookup_cons]
      split
      · rename_i hkey
        have hnone : rest.lookup key = none := by
          rw [List.lookup_eq_none_iff]
          intro entry hentry
          rw [bne_iff_ne, eq_of_beq hkey]
          rintro rfl
          exact hk (List.mem_map.mpr ⟨entry, hentry, rfl⟩)
        simp [hnone, Option.filter, hn]
      · rfl
    · rw [List.filter_cons_of_pos (by simp [hn]), List.lookup_cons, List.lookup_cons]
      split
      · simp [Option.filter, hn]
      · exact ih hrest

/-- A key stands for the name of the adapter that last claimed it. -/
lemma lookup_after (history : List Edit) (key : String) :
    ((empty fallback).after history).names.lookup key =
      (standing? (fun a => decide (key ∈ keys a)) history).map Adapter.name := by
  induction history using List.reverseRecOn with
  | nil => rfl
  | append_singleton history e ih =>
    rw [after_append]
    cases e with
    | register a =>
      rw [standing?_append_register]
      refine (lookup_foldl_setName ..).trans ?_
      rw [ih]
      by_cases hkey : key ∈ keys a <;> simp [hkey]
    | unregister n =>
      rw [standing?_append_unregister]
      refine (lookup_filter (nodup_after history) n key).trans ?_
      rw [ih]
      cases standing? (fun a => decide (key ∈ keys a)) history with
      | none => rfl
      | some a => by_cases hn : a.name = n <;> simp [Option.filter, hn]

/-- A name that a key stands for is the name of an adapter. -/
lemma exists_standing? {p : Adapter → Bool} {a : Adapter} (h : standing? p history = some a) :
    ∃ b, standing? (·.name == a.name) history = some b := by
  induction history using List.reverseRecOn generalizing a with
  | nil => cases h
  | append_singleton history e ih =>
    cases e with
    | register b =>
      rw [standing?_append_register] at h ⊢
      by_cases hname : b.name = a.name
      · exact ⟨b, if_pos (beq_iff_eq.mpr hname)⟩
      · rw [if_neg (by simpa using hname)]
        split at h
        · cases h
          exact absurd rfl hname
        · exact ih h
    | unregister n =>
      rw [standing?_append_unregister] at h ⊢
      obtain ⟨ha, hn⟩ := Option.filter_eq_some_iff.mp h
      obtain ⟨b, hb⟩ := ih ha
      have hname : b.name = a.name := by simpa using holds_of_standing? hb
      refine ⟨b, Option.filter_eq_some_iff.mpr ⟨hb, ?_⟩⟩
      rw [hname]
      exact hn

/-- A name that a key stands for is never without its adapter, the last one registered with it. -/
lemma exists_find?_after {p : Adapter → Bool} {a : Adapter} (h : standing? p history = some a) :
    ∃ b later, IsLast (·.name = a.name) history b later ∧
      ((empty fallback).after history).find? a.name = some b := by
  obtain ⟨b, hb⟩ := exists_standing? h
  obtain ⟨later, hlast, -⟩ := standing?_eq_some_iff.mp hb
  have hisLast := isLast_of_last? hlast
  simp only [beq_iff_eq] at hisLast
  exact ⟨b, later, hisLast, (find?_after history a.name).trans hb⟩

lemma own?_after (history : List Edit) (language : Option String) :
    ((empty fallback).after history).own? language =
      (standing? (fun a => decide (Text.toLower (language.getD "") ∈ keys a)) history).bind
        fun a => ((empty fallback).after history).find? a.name := by
  rw [own?, lookup_after, Option.bind_map]
  rfl

end Tables

/-- What a registry has for a language is told by its history: the last adapter that has the key, if
its name was not unregistered since, has made the key stand for that name, and it is the last adapter
of this name that is found. Otherwise only the fallback is left. -/
theorem get_after_history (fallback : Option Adapter) (history : List Edit) (language : Option String) :
    let r := (empty fallback).after history
    let key := Text.toLower (language.getD "")
    (∀ a later, IsLast (key ∈ keys ·) history a later → .unregister a.name ∉ later →
      ∃ b later', IsLast (·.name = a.name) history b later' ∧ r.get language = .ok b) ∧
    ((∀ a later, IsLast (key ∈ keys ·) history a later → .unregister a.name ∈ later) →
      r.get language = match fallback with
        | some adapter => .ok adapter
        | none => .error ⟨language⟩) ∧
    ∀ key name, r.names.lookup key = some name → ∃ adapter, r.find? name = some adapter := by
  intro r key
  have hown : r.own? language = (standing? (fun a => decide (key ∈ keys a)) history).bind
      fun a => r.find? a.name := own?_after history language
  refine ⟨fun a later hlater hnot => ?_, fun hall => ?_, fun key' name hname => ?_⟩
  · have hstanding := standing?_eq_some_iff.mpr ⟨later, isLast_iff.mp hlater, hnot⟩
    obtain ⟨b, later', hlater', hfind⟩ := exists_find?_after hstanding
    rw [hstanding, Option.bind_some, hfind] at hown
    refine ⟨b, later', hlater', ?_⟩
    rw [get, hown]
    rfl
  · have hnone : standing? (fun a => decide (key ∈ keys a)) history = none := by
      rw [Option.eq_none_iff_forall_not_mem]
      intro a ha
      obtain ⟨later, hlater, hnot⟩ := standing?_eq_some_iff.mp ha
      exact hnot (hall a later (isLast_iff.mpr hlater))
    rw [hnone, Option.bind_none] at hown
    rw [get, hown, show r.fallback = fallback from fallback_after history]
    cases fallback <;> rfl
  · rw [lookup_after] at hname
    obtain ⟨a, ha, rfl⟩ := Option.map_eq_some_iff.mp hname
    obtain ⟨b, -, -, hfind⟩ := exists_find?_after ha
    exact ⟨b, hfind⟩

/-- An adapter without hooks. -/
def bare (name : String) (aliases : List String) : Adapter :=
  { Adapter.generic with name := name, aliases := aliases }

/-- A key goes on standing for a name that is registered again without it. A key that another adapter
has taken over is gone with that adapter. -/
theorem get_after_history_collisions :
    let old := bare "A" ["x"]
    let new := bare "A" ["y"]
    let renewed : List Edit := [.unregister "B", .register new]
    let taken : List Edit := [.register old, .register (bare "B" ["X"]), .unregister "B"]
    (IsLast ("x" ∈ keys ·) (.register old :: renewed) old renewed ∧ .unregister old.name ∉ renewed ∧
      ((empty none).after (.register old :: renewed)).get (some "X") = .ok new) ∧
    (∀ a later, IsLast ("x" ∈ keys ·) taken a later → .unregister a.name ∈ later) ∧
    ((empty none).after taken).get (some "X") = .error ⟨some "X"⟩ := by
  intro old new renewed taken
  have hold : "x" ∈ keys old := by decide
  have hnew : "x" ∉ keys new := by decide
  have hlast : IsLast ("x" ∈ keys ·) (.register old :: renewed) old renewed :=
    ⟨⟨[], rfl⟩, hold, by simp [renewed, hnew]⟩
  have hnot : .unregister old.name ∉ renewed := by simp [renewed, old, bare]
  have hgone : ∀ a later, IsLast ("x" ∈ keys ·) taken a later → .unregister a.name ∈ later := by
    intro a later h
    have hother : last? (fun a => decide ("x" ∈ keys a)) taken =
        some (bare "B" ["X"], [.unregister "B"]) := rfl
    cases (isLast_iff.mp h).symm.trans hother
    simp [bare]
  obtain ⟨b, later, hb, hget⟩ := (get_after_history none (.register old :: renewed) (some "X")).1 old renewed
    hlast hnot
  have hrenewed : last? (fun a => decide (a.name = old.name)) (.register old :: renewed) = some (new, []) := rfl
  cases (isLast_iff.mp hb).symm.trans hrenewed
  exact ⟨⟨hlast, hnot, hget⟩, hgone, (get_after_history none taken (some "X")).2.1 hgone⟩

end JobScript.Registry
