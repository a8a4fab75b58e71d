import JobScript.Config
import Mathlib.Tactic.Lemma

/-! # What is looked up in the data of a configuration

A configuration depends on its data only by what stands under its own fields, the version counting
under its older names too. What stands there once the overrides are in and the older names are gone
is said name by name. -/

namespace JobScript.Config

variable {entries entries' : Value.Entries} {overrides : Overrides} {c : Config} {name : String}

/-- The fields, in the order in which their faults are told. -/
def fieldNames : List String :=
  ["language", "version", "cache", "npm_args", "env", "install", "script", "hosts", "app_host"]

/-- Each field is what its own part of the data is read as. -/
structure Reads (entries : Value.Entries) (c : Config) : Prop where
  language : textOf "language" "generic" entries = .ok c.language
  version : versionOf entries = .ok c.version
  cache : cacheOf entries = .ok c.cache
  npmArgs : textOf "npm_args" "" entries = .ok c.npmArgs
  env : envOf entries = .ok c.env
  install : commandsOf "install" entries = .ok c.install
  script : commandsOf "script" entries = .ok c.script
  hosts : hostsOf entries = .ok c.hosts
  appHost : optionalTextOf "app_host" entries = .ok c.appHost

lemma ofFields_eq_ok_iff : ofFields entries = .ok c ↔ Reads entries c := by
  constructor
  · intro h
    unfold ofFields at h
    dsimp only at h
    split at h
    · next hlanguage hversion hcache hnpmArgs henv hinstall hscript hhosts happHost =>
      cases h
      exact ⟨hlanguage, hversion, hcache, hnpmArgs, henv, hinstall, hscript, hhosts, happHost⟩
    · cases h
  · rintro ⟨hlanguage, hversion, hcache, hnpmArgs, henv, hinstall, hscript, hhosts, happHost⟩
    unfold ofFields
    rw [hlanguage, hversion, hcache, hnpmArgs, henv, hinstall, hscript, hhosts, happHost]

/-- Nothing but the fields is looked at. -/
lemma ofFields_congr (h : ∀ name ∈ fieldNames, entries.get? name = entries'.get? name) :
    ofFields entries = ofFields entries' := by
  simp only [fieldNames, List.forall_mem_cons] at h
  obtain ⟨hlanguage, hversion, hcache, hnpmArgs, henv, hinstall, hscript, hhosts, happHost, -⟩ := h
  unfold ofFields textOf versionOf cacheOf envOf commandsOf hostsOf optionalTextOf
  rw [hlanguage, hversion, hcache, hnpmArgs, henv, hinstall, hscript, hhosts, happHost]

lemma ofEntries_of_build (h : build entries overrides = .ok c) :
    ofEntries (override entries overrides) = .ok c := by
  unfold build at h
  cases hread : ofEntries (override entries overrides) with
  | error faults =>
    rw [hread] at h
    cases h
  | ok read =>
    rw [hread] at h
    exact congrArg Except.ok (Except.ok.inj h)

lemma build_eq_ok_iff :
    build entries overrides = .ok c ↔ Reads (modernised (override entries overrides)) c := by
  rw [← ofFields_eq_ok_iff]
  refine ⟨ofEntries_of_build, fun h => ?_⟩
  unfold build ofEntries
  rw [h]
  rfl

lemma build_congr {overrides' : Overrides}
    (h : ∀ name ∈ fieldNames, (modernised (override entries overrides)).get? name =
      (modernised (override entries' overrides')).get? name) :
    build entries overrides = build entries' overrides' := by
  unfold build ofEntries
  rw [ofFields_congr h]

section Overrides

/-- What is asked for under a name, the last time that it is asked for. -/
def asked (name : String) : Overrides → Option Value
  | [] => none
  | (_, .null) :: rest => asked name rest
  | (other, v) :: rest => (asked name rest).or (if other = name then some v else none)

lemma asked_cons (name other : String) {v : Value} (hv : v ≠ .null) (rest : Overrides) :
    asked name ((other, v) :: rest) = (asked name rest).or (if other = name then some v else none) := by
  cases v <;> first | exact absurd rfl hv | rfl

lemma override_cons (entries : Value.Entries) (other : String) {v : Value} (hv : v ≠ .null)
    (rest : Overrides) :
    override entries ((other, v) :: rest) = override (overrideOne entries other v) rest := by
  cases v <;> first | exact absurd rfl hv | rfl

lemma ne_null_of_asked {v : Value} (h : asked name overrides = some v) : v ≠ .null := by
  induction overrides with
  | nil => cases h
  | cons first rest ih =>
    obtain ⟨other, w⟩ := first
    by_cases hw : w = .null
    · subst hw
      exact ih h
    · rw [asked_cons name other hw, Option.or_eq_some_iff] at h
      rcases h with hrest | ⟨-, hfirst⟩
      · exact ih hrest
      · split at hfirst
        · cases hfirst
          exact hw
        · cases hfirst

lemma override_filter_isGiven (entries : Value.Entries) (overrides : Overrides) :
    override entries (overrides.filter fun o => o.2.isGiven) = override entries overrides := by
  induction overrides generalizing entries with
  | nil => rfl
  | cons first rest ih =>
    obtain ⟨other, v⟩ := first
    by_cases hv : v = .null
    · subst hv
      exact ih entries
    · have hkeep : ((other, v) :: rest).filter (fun o => o.2.isGiven) =
          (other, v) :: rest.filter fun o => o.2.isGiven :=
        List.filter_cons_of_pos (Value.isGiven_iff.mpr hv)
      rw [hkeep, override_cons _ _ hv, override_cons _ _ hv, ih]

lemma get?_takeOut_older (entries : Value.Entries) (name : String) :
    (takeOut olderVersionKeys entries).get? name =
      if name ∈ olderVersionKeys then none else entries.get? name := by
  show ((entries.erase "node_js").erase "nodejs").get? name = _
  rw [Value.Entries.get?_erase, Value.Entries.get?_erase]
  by_cases hfirst : name = "node_js"
  · subst hfirst
    rfl
  · by_cases hsecond : name = "nodejs"
    · subst hsecond
      rfl
    · simp [olderVersionKeys, hfirst, hsecond]

/-- An override is in force under its name; that of the version takes the older names out. -/
lemma get?_overrideOne (entries : Value.Entries) (other : String) (v : Value) (name : String) :
    (overrideOne entries other v).get? name =
      if other = name then some v
      else if other = "version" ∧ name ∈ olderVersionKeys then none else entries.get? name := by
  unfold overrideOne
  by_cases hname : other = name
  · subst hname
    rw [Value.Entries.get?_put_self, if_pos rfl]
  · rw [Value.Entries.get?_put_of_ne _ _ (Ne.symm hname), if_neg hname]
    by_cases hversion : other = "version"
    · rw [if_pos hversion, get?_takeOut_older]
      simp only [hversion, true_and]
    · rw [if_neg hversion, if_neg (fun h => hversion h.1)]

/-- What is asked for under a name of today comes before what the data have. -/
lemma get?_override (hname : name ∉ olderVersionKeys) (entries : Value.Entries) :
    (override entries overrides).get? name = (asked name overrides).or (entries.get? name) := by
  induction overrides generalizing entries with
  | nil => rfl
  | cons first rest ih =>
    obtain ⟨other, v⟩ := first
    by_cases hv : v = .null
    · subst hv
      exact ih entries
    · rw [override_cons _ _ hv, asked_cons _ _ hv, ih, get?_overrideOne, Option.or_assoc]
      by_cases hother : other = name
      · rw [if_pos hother, if_pos hother]
        rfl
      · rw [if_neg hother, if_neg hother, if_neg (fun h => hname h.2)]
        rfl

/-- As long as no override has an older name, that of the version decides whether they stay. -/
lemma get?_override_older (h : ∀ other ∈ overrides.map Prod.fst, other ∉ olderVersionKeys)
    (hname : name ∈ olderVersionKeys) (entries : Value.Entries) :
    (override entries overrides).get? name =
      if (asked "version" overrides).isSome then none else entries.get? name := by
  induction overrides generalizing entries with
  | nil => rfl
  | cons first rest ih =>
    obtain ⟨other, v⟩ := first
    obtain ⟨hother, hrest⟩ := List.forall_mem_cons.mp h
    have hne : other ≠ name := fun heq => hother (heq ▸ hname)
    by_cases hv : v = .null
    · subst hv
      exact ih hrest entries
    · rw [override_cons _ _ hv, asked_cons _ _ hv, ih hrest, get?_overrideOne, if_neg hne]
      by_cases hversion : other = "version" <;> simp [hversion, hname]

end Overrides

section Older

/-- The names for the version, the one that counts most first. -/
def versionKeys : List String := "version" :: olderVersionKeys

lemma findSome?_versionKeys (f : String → Option Value) :
    versionKeys.findSome? f = (f "version").or (olderVersionKeys.findSome? f) := by
  unfold versionKeys
  rw [List.findSome?_cons]
  cases f "version" <;> rfl

lemma notMem_versionKeys : ∀ name ∈ fieldNames, name ≠ "version" → name ∉ versionKeys := by decide

lemma get?_modernised_of_notMem (h : name ∉ versionKeys) (entries : Value.Entries) :
    (modernised entries).get? name = entries.get? name := by
  obtain ⟨hversion, holder⟩ := not_or.mp (mt List.mem_cons.mpr h)
  have hrest : (takeOut olderVersionKeys entries).get? name = entries.get? name := by
    rw [get?_takeOut_older, if_neg holder]
  unfold modernised
  dsimp only
  split
  · split
    · rw [Value.Entries.get?_put_of_ne _ _ hversion, hrest]
    · exact hrest
  · exact hrest

lemma givenAt_eq_some_iff {v : Value} :
    givenAt entries name = some v ↔ entries.get? name = some v ∧ v ≠ .null := by
  unfold givenAt
  rw [Option.filter_eq_some_iff, Value.isGiven_iff]

/-- The version is the first that is given under its names; where none is, it may still stand there
without a value. -/
lemma get?_modernised_version (entries : Value.Entries) :
    (modernised entries).get? "version" =
      (versionKeys.findSome? (givenAt entries)).or (entries.get? "version") := by
  have hrest : (takeOut olderVersionKeys entries).get? "version" = entries.get? "version" := by
    rw [get?_takeOut_older, if_neg (by decide)]
  have hgiven : givenAt (takeOut olderVersionKeys entries) "version" = givenAt entries "version" := by
    unfold givenAt
    rw [hrest]
  rw [findSome?_versionKeys]
  unfold modernised
  dsimp only
  rw [hgiven]
  cases hversion : givenAt entries "version" with
  | some v =>
    have hv := (givenAt_eq_some_iff.mp hversion).1
    cases olderVersionKeys.findSome? (givenAt entries) <;> exact hrest.trans hv
  | none =>
    cases olderVersionKeys.findSome? (givenAt entries) with
    | some v => exact Value.Entries.get?_put_self _ _ _
    | none => exact hrest

end Older

end JobScript.Config
