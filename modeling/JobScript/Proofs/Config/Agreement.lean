import JobScript.Proofs.Config.Lookup
import Mathlib.Data.List.Nodup

/-! # What a configuration does not depend on

Data that have the same under the names that mean something make the same configuration, or have the same
faults in the same order, however they are ordered and whatever else they hold. Nor does the order of
overrides matter, as long as none has the name of another. -/

namespace JobScript.Config

variable {entries entries' entries'' : Value.Entries} {overrides overrides' : Overrides}

/-- The names that mean something: those of the fields and the older ones of the version. -/
def knownNames : List String := fieldNames ++ olderVersionKeys

/-- Data that cannot be told apart by a configuration. Their older names matter only as long as the
version is not given under its own name: an override under an older name may come before that of the
version, which takes it out, or after it. -/
structure Agree (entries entries' : Value.Entries) : Prop where
  fields : ∀ name ∈ fieldNames, entries.get? name = entries'.get? name
  older : givenAt entries "version" = none → ∀ name ∈ olderVersionKeys, entries.get? name = entries'.get? name

section Agree

lemma version_mem_fieldNames : "version" ∈ fieldNames := by decide

lemma notMem_olderVersionKeys : ∀ name ∈ fieldNames, name ∉ olderVersionKeys := by decide

lemma Agree.of_knownNames (h : ∀ name ∈ knownNames, entries.get? name = entries'.get? name) :
    Agree entries entries' where
  fields name hname := h name (List.mem_append_left _ hname)
  older _ name hname := h name (List.mem_append_right _ hname)

lemma Agree.givenAt_version (h : Agree entries entries') :
    givenAt entries "version" = givenAt entries' "version" := by
  unfold givenAt
  rw [h.fields _ version_mem_fieldNames]

lemma Agree.refl (entries : Value.Entries) : Agree entries entries := ⟨fun _ _ => rfl, fun _ _ _ => rfl⟩

lemma Agree.trans (h : Agree entries entries') (h' : Agree entries' entries'') : Agree entries entries'' where
  fields name hname := (h.fields name hname).trans (h'.fields name hname)
  older hnone name hname := (h.older hnone name hname).trans (h'.older (h.givenAt_version ▸ hnone) name hname)

/-- What is looked at once the older names are gone is the same. -/
lemma Agree.modernised (h : Agree entries entries') {name : String} (hname : name ∈ fieldNames) :
    (modernised entries).get? name = (modernised entries').get? name := by
  by_cases hversion : name = "version"
  · subst hversion
    have hgiven : versionKeys.findSome? (givenAt entries) = versionKeys.findSome? (givenAt entries') := by
      rw [findSome?_versionKeys, findSome?_versionKeys, ← h.givenAt_version]
      cases hnone : givenAt entries "version" with
      | some v => rfl
      | none =>
        have holder : ∀ key ∈ olderVersionKeys, givenAt entries key = givenAt entries' key := by
          intro key hkey
          unfold givenAt
          rw [h.older hnone key hkey]
        simp only [olderVersionKeys, List.forall_mem_cons] at holder
        simp only [olderVersionKeys, List.findSome?_cons, List.findSome?_nil, holder.1, holder.2.1]
    rw [get?_modernised_version, get?_modernised_version, hgiven, h.fields _ hname]
  · have hnot := notMem_versionKeys name hname hversion
    rw [get?_modernised_of_notMem hnot, get?_modernised_of_notMem hnot, h.fields _ hname]

/-- Data that agree are read alike, faults and their order included. -/
lemma Agree.ofEntries (h : Agree entries entries') : ofEntries entries = ofEntries entries' :=
  ofFields_congr fun _ hname => h.modernised hname

end Agree

section Overrides

variable {v w : Value} {name other : String}

lemma get?_overrideOne_of_field (hname : name ∈ fieldNames) (entries : Value.Entries) (other : String)
    (v : Value) :
    (overrideOne entries other v).get? name = if other = name then some v else entries.get? name := by
  have hnot : ¬(other = "version" ∧ name ∈ olderVersionKeys) := fun h => notMem_olderVersionKeys name hname h.2
  rw [get?_overrideOne, if_neg hnot]

lemma get?_overrideOne_of_ne_version (hother : other ≠ "version") (entries : Value.Entries) (v : Value)
    (name : String) :
    (overrideOne entries other v).get? name = if other = name then some v else entries.get? name := by
  have hnot : ¬(other = "version" ∧ name ∈ olderVersionKeys) := fun h => hother h.1
  rw [get?_overrideOne, if_neg hnot]

lemma givenAt_overrideOne_version (entries : Value.Entries) (other : String) (hv : v ≠ .null) :
    givenAt (overrideOne entries other v) "version" =
      if other = "version" then some v else givenAt entries "version" := by
  unfold givenAt
  rw [get?_overrideOne_of_field version_mem_fieldNames]
  split
  · exact Option.filter_eq_some_iff.mpr ⟨rfl, Value.isGiven_iff.mpr hv⟩
  · rfl

lemma Agree.overrideOne (h : Agree entries entries') (other : String) (hv : v ≠ .null) :
    Agree (overrideOne entries other v) (overrideOne entries' other v) where
  fields name hname := by
    rw [get?_overrideOne_of_field hname, get?_overrideOne_of_field hname, h.fields name hname]
  older hnone name hname := by
    rw [givenAt_overrideOne_version _ _ hv] at hnone
    split at hnone
    · cases hnone
    · next hother =>
      rw [get?_overrideOne_of_ne_version hother, get?_overrideOne_of_ne_version hother, h.older hnone name hname]

/-- Two overrides of different names may change places. -/
lemma agree_overrideOne_comm (entries : Value.Entries) (hne : name ≠ other) (hv : v ≠ .null) (hw : w ≠ .null) :
    Agree (overrideOne (overrideOne entries name v) other w) (overrideOne (overrideOne entries other w) name v) where
  fields key hkey := by
    simp only [get?_overrideOne_of_field hkey]
    by_cases hname : name = key
    · subst hname
      rw [if_pos rfl, if_neg hne.symm, if_pos rfl]
    · rw [if_neg hname, if_neg hname]
  older hnone key _ := by
    rw [givenAt_overrideOne_version _ _ hw, givenAt_overrideOne_version _ _ hv] at hnone
    -- The version is not given in the end, so neither of the two is an override of the version.
    split at hnone
    · cases hnone
    · next hother =>
      split at hnone
      · cases hnone
      · next hname =>
        simp only [get?_overrideOne_of_ne_version hother, get?_overrideOne_of_ne_version hname]
        by_cases hkey : name = key
        · subst hkey
          rw [if_pos rfl, if_neg hne.symm, if_pos rfl]
        · rw [if_neg hkey, if_neg hkey]

lemma Agree.override (h : Agree entries entries') (overrides : Overrides) :
    Agree (override entries overrides) (override entries' overrides) := by
  induction overrides generalizing entries entries' with
  | nil => exact h
  | cons first rest ih =>
    obtain ⟨other, v⟩ := first
    by_cases hv : v = .null
    · subst hv
      exact ih h
    · rw [override_cons _ _ hv, override_cons _ _ hv]
      exact ih (h.overrideOne other hv)

lemma agree_override_swap (entries : Value.Entries) (hne : name ≠ other) (rest : Overrides) :
    Agree (override entries ((name, v) :: (other, w) :: rest)) (override entries ((other, w) :: (name, v) :: rest)) := by
  by_cases hv : v = .null
  · subst hv
    by_cases hw : w = .null
    · subst hw
      exact .refl _
    · rw [override_cons _ _ hw, override_null, override_null, override_cons _ _ hw]
      exact .refl _
  · by_cases hw : w = .null
    · subst hw
      rw [override_cons _ _ hv, override_null, override_null, override_cons _ _ hv]
      exact .refl _
    · rw [override_cons _ _ hv, override_cons _ _ hw, override_cons _ _ hw, override_cons _ _ hv]
      exact (agree_overrideOne_comm entries hne hv hw).override rest

/-- The order of overrides does not matter. -/
lemma agree_override_perm (entries : Value.Entries) (hperm : overrides.Perm overrides')
    (hnodup : (overrides.map Prod.fst).Nodup) :
    Agree (override entries overrides) (override entries overrides') := by
  induction hperm generalizing entries with
  | nil => exact .refl entries
  | cons first _ ih =>
    obtain ⟨other, v⟩ := first
    have hrest := (List.nodup_cons.mp hnodup).2
    by_cases hv : v = .null
    · subst hv
      exact ih entries hrest
    · rw [override_cons _ _ hv, override_cons _ _ hv]
      exact ih _ hrest
  | swap first second rest =>
    have hne : second.1 ≠ first.1 := fun h => (List.nodup_cons.mp hnodup).1 (h ▸ List.mem_cons_self ..)
    exact agree_override_swap entries hne rest
  | trans hfirst _ ihfirst ihsecond =>
    exact (ihfirst entries hnodup).trans (ihsecond entries ((hfirst.map Prod.fst).nodup_iff.mp hnodup))

end Overrides

/-- Only the names of the fields and the older ones of the version count, in any order: data that have the
same there, with the same overrides in any order, make the same configuration or have the same faults at
the same places, in the same order. -/
theorem build_of_knownNames (hknown : ∀ name ∈ knownNames, entries.get? name = entries'.get? name)
    (hperm : overrides.Perm overrides') (hnodup : (overrides.map Prod.fst).Nodup) :
    (∃ c, build entries overrides = .ok c ∧ build entries' overrides' = .ok c) ∨
      ∃ errors, build entries overrides = .error (.invalid errors) ∧
        build entries' overrides' = .error (.invalid errors) := by
  have hdata := (Agree.of_knownNames hknown).override overrides
  have hread := (hdata.trans (agree_override_perm entries' hperm hnodup)).ofEntries
  unfold build
  rw [← hread]
  cases ofEntries (override entries overrides) with
  | ok c => exact .inl ⟨c, rfl, rfl⟩
  | error errors => exact .inr ⟨errors, rfl, rfl⟩

/-- A language and an environment. -/
def plain (env : Value) : Value.Entries := [(.str "language", .str "node"), (.str "env", env)]

/-- The same the other way round, with foreign names of several kinds in front, between and behind. -/
def overgrown (env : Value) : Value.Entries :=
  [(.int 1, .str "x"), (.str "env", env), (.str "matrix", .seq []), (.str "language", .str "node"),
    (.bytes [0x65], .null)]

/-- An override under an older name comes before that of the version or after it, once with a configuration
and once with two faults. -/
theorem build_of_knownNames_overgrown :
    let overrides : Overrides := [("node_js", .str "4"), ("version", .str "6"), ("cache", .null)]
    let faulty : Overrides := [("cache", .int 3), ("version", .str "6")]
    let c : Config := ⟨"node", some "6", [], "", ["A=1"], none, none, [], none⟩
    let errors : List FieldError := [⟨.noList, [.name "cache"]⟩, ⟨.noText, [.name "env", .index 0]⟩]
    (∀ env, ∀ name ∈ knownNames, (plain env).get? name = (overgrown env).get? name) ∧
    (overrides.Perm overrides.reverse ∧ (overrides.map Prod.fst).Nodup) ∧
    (faulty.Perm faulty.reverse ∧ (faulty.map Prod.fst).Nodup) ∧
    build (overgrown (.str "A=1")) overrides.reverse = .ok c ∧
    build (overgrown (.seq [.null])) faulty.reverse = .error (.invalid errors) := by
  intro overrides faulty c errors
  have hknown : ∀ env, ∀ name ∈ knownNames, (plain env).get? name = (overgrown env).get? name := by
    intro env
    simp only [knownNames, fieldNames, olderVersionKeys, List.cons_append, List.nil_append,
      List.forall_mem_cons]
    exact ⟨rfl, rfl, rfl, rfl, rfl, rfl, rfl, rfl, rfl, rfl, rfl, by simp⟩
  have hoverrides : overrides.Perm overrides.reverse ∧ (overrides.map Prod.fst).Nodup :=
    ⟨(List.reverse_perm _).symm, by decide⟩
  have hfaulty : faulty.Perm faulty.reverse ∧ (faulty.map Prod.fst).Nodup :=
    ⟨(List.reverse_perm _).symm, by decide⟩
  have hc : build (plain (.str "A=1")) overrides = .ok c := rfl
  have herrors : build (plain (.seq [.null])) faulty = .error (.invalid errors) := rfl
  refine ⟨hknown, hoverrides, hfaulty, ?_, ?_⟩
  · obtain ⟨c', hleft, hright⟩ | ⟨errors', hleft, -⟩ := build_of_knownNames (hknown _) hoverrides.1 hoverrides.2
    · cases hc.symm.trans hleft
      exact hright
    · cases hc.symm.trans hleft
  · obtain ⟨c', hleft, -⟩ | ⟨errors', hleft, hright⟩ := build_of_knownNames (hknown _) hfaulty.1 hfaulty.2
    · cases herrors.symm.trans hleft
    · cases herrors.symm.trans hleft
      exact hright

end JobScript.Config
