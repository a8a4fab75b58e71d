import JobScript.Proofs.Config.Lookup

/-! # The version that is in force

A version may be asked for, and be given under its own name and two older ones. The first of them
that has a value counts, those after it do not matter, and it is written as text. -/

namespace JobScript.Config

open Number Text

variable {entries : Value.Entries} {overrides : Overrides} {v : Value} {text text' : Option String}

section Spelling

/-- What a single version is written as. One tenth is what is left of version 0.10 once it was read
as a number. -/
inductive Spells : Value → Option String → Prop
  | null : Spells .null none
  | str (s : String) : Spells (.str s) (some s)
  | bytes {b : List UInt8} {s : String} (h : decodeUtf8? b = some s) : Spells (.bytes b) (some s)
  | bool (b : Bool) : Spells (.bool b) (some (Value.bool b).text)
  | int (n : Int) : Spells (.int n) (some (Value.int n).text)
  | tenth {x : Double} (h : x.numEq (.ofRatio false 1 10) = true) : Spells (.float x) (some "0.10")
  | float {x : Double} (h : x.numEq (.ofRatio false 1 10) = false) :
    Spells (.float x) (some (Value.float x).text)

/-- Of several versions the first is named, and of none nothing. -/
inductive NamesVersion : Value → Option String → Prop
  | single {v : Value} {text : Option String} (h : Spells v text) : NamesVersion v text
  | empty : NamesVersion (.seq []) none
  | first {v : Value} {rest : List Value} {text : Option String} (h : Spells v text) :
    NamesVersion (.seq (v :: rest)) text

lemma Spells.unique (h : Spells v text) (h' : Spells v text') : text = text' := by
  cases h with
  | null => cases h'; rfl
  | str s => cases h'; rfl
  | bytes h =>
    cases h' with
    | bytes h' => rw [← h, h']
  | bool b => cases h'; rfl
  | int n => cases h'; rfl
  | tenth h =>
    cases h' with
    | tenth h' => rfl
    | float h' => exact absurd (h.symm.trans h') nofun
  | float h =>
    cases h' with
    | tenth h' => exact absurd (h'.symm.trans h) nofun
    | float h' => rfl

lemma NamesVersion.unique (h : NamesVersion v text) (h' : NamesVersion v text') : text = text' := by
  cases h with
  | single h =>
    cases h' with
    | single h' => exact h.unique h'
    | empty => cases h
    | first => cases h
  | empty =>
    cases h' with
    | single h' => cases h'
    | empty => rfl
  | first h =>
    cases h' with
    | single h' => cases h'
    | first h' => exact h.unique h'

lemma writeInt_of_versionText {n : Int} (h : versionText (.int n) = .ok text) :
    ∃ s, writeInt n = .ok s ∧ text = some s := by
  unfold versionText at h
  dsimp only at h
  generalize writeInt n = written at h ⊢
  cases written with
  | error e => cases h
  | ok s =>
    cases h
    exact ⟨s, rfl, rfl⟩

lemma spells_of_versionText (h : versionText v = .ok text) : Spells v text := by
  cases v with
  | null =>
    cases h
    exact .null
  | bool b =>
    cases h
    exact .bool b
  | int n =>
    obtain ⟨s, hs, rfl⟩ := writeInt_of_versionText h
    rw [displayInt_of_writeInt hs]
    exact .int n
  | float x =>
    unfold versionText at h
    dsimp only at h
    split at h
    · next htenth =>
      cases h
      exact .tenth htenth
    · next htenth =>
      cases h
      exact .float (Bool.eq_false_iff.mpr htenth)
  | str s =>
    cases h
    exact .str s
  | bytes b =>
    change (Value.bytes b).asOptionalText = _ at h
    unfold Value.asOptionalText Value.asText at h
    dsimp only at h
    cases hb : decodeUtf8? b with
    | none =>
      rw [hb] at h
      cases h
    | some s =>
      rw [hb] at h
      cases h
      exact .bytes hb
  | _ => cases h

lemma namesVersion_of_versionText (h : versionText (firstVersion v) = .ok text) :
    NamesVersion v text := by
  cases v with
  | seq items =>
    cases items with
    | nil =>
      cases h
      exact .empty
    | cons first rest => exact .first (spells_of_versionText h)
  | _ => exact .single (spells_of_versionText h)

end Spelling

section Precedence

/-- The first version that has a value, of what is asked for and what the data have. -/
def chosenVersion (entries : Value.Entries) (overrides : Overrides) : Option Value :=
  (asked "version" overrides).or (versionKeys.findSome? (givenAt entries))

/-- The keys after that of the version that is chosen. -/
def outranked (entries : Value.Entries) (overrides : Overrides) : List String :=
  if (asked "version" overrides).isSome then versionKeys
  else (versionKeys.dropWhile fun key => (givenAt entries key).isNone).tail

lemma tail_dropWhile_subset {α : Type} (p : α → Bool) (a : α) (l : List α) :
    ((a :: l).dropWhile p).tail ⊆ l := by
  rw [List.dropWhile_cons]
  split
  · exact ((List.tail_sublist _).trans (List.dropWhile_sublist p)).subset
  · exact List.Subset.refl l

/-- What comes after the first hit does not matter to it. -/
lemma findSome?_congr_upto {α β : Type} {f g : α → Option β} {l : List α} (hl : l.Nodup)
    (h : ∀ a ∈ l, a ∉ (l.dropWhile fun a => (f a).isNone).tail → g a = f a) :
    l.findSome? g = l.findSome? f := by
  induction l with
  | nil => rfl
  | cons a l ih =>
    obtain ⟨ha, hl⟩ := List.nodup_cons.mp hl
    have hfirst : g a = f a :=
      h a (List.mem_cons_self ..) fun hmem => ha (tail_dropWhile_subset _ a l hmem)
    rw [List.findSome?_cons, List.findSome?_cons, hfirst]
    cases hf : f a with
    | some b => rfl
    | none =>
      refine ih hl fun b hb hnot => h b (List.mem_cons_of_mem a hb) ?_
      rwa [List.dropWhile_cons_of_pos (by simp [hf])]

/-- Where no version has a value, it stands under its own name without one at most. -/
lemma getD_null_of_chosenVersion (h : chosenVersion entries overrides = none) :
    (entries.get? "version").getD .null = .null := by
  have hnone := (Option.or_eq_none_iff.mp h).2
  have hversion := List.findSome?_eq_none_iff.mp hnone "version" (List.mem_cons_self ..)
  cases hget : entries.get? "version" with
  | none => rfl
  | some v =>
    by_cases hv : v = .null
    · exact hv
    · rw [givenAt_eq_some_iff.mpr ⟨hget, hv⟩] at hversion
      cases hversion

lemma givenAt_override (h : ∀ name ∈ overrides.map Prod.fst, name ∉ olderVersionKeys)
    (hasked : asked "version" overrides = none) {key : String} (hkey : key ∈ versionKeys) :
    givenAt (override entries overrides) key = givenAt entries key := by
  have hget : (override entries overrides).get? key = entries.get? key := by
    rcases List.mem_cons.mp hkey with rfl | holder
    · rw [get?_override (by decide), hasked]
      rfl
    · rw [get?_override_older h holder, hasked]
      rfl
  unfold givenAt
  rw [hget]

/-- With the overrides in and the older names gone, what stands under the version is what is chosen. -/
lemma get?_version (h : ∀ name ∈ overrides.map Prod.fst, name ∉ olderVersionKeys)
    (entries : Value.Entries) :
    (modernised (override entries overrides)).get? "version" =
      (chosenVersion entries overrides).or (entries.get? "version") := by
  rw [get?_modernised_version, get?_override (by decide)]
  unfold chosenVersion
  cases hasked : asked "version" overrides with
  | some v =>
    have hget : (override entries overrides).get? "version" = some v := by
      rw [get?_override (by decide), hasked]
      rfl
    rw [findSome?_versionKeys, givenAt_eq_some_iff.mpr ⟨hget, ne_null_of_asked hasked⟩]
    rfl
  | none =>
    have hgiven : ∀ key ∈ versionKeys, givenAt (override entries overrides) key = givenAt entries key :=
      fun key hkey => givenAt_override h hasked hkey
    rw [findSome?_congr_upto (by decide) fun key hkey _ => hgiven key hkey]
    rfl

/-- The version is read from what is chosen, or from nothing. -/
lemma versionOf_chosen (h : ∀ name ∈ overrides.map Prod.fst, name ∉ olderVersionKeys)
    (entries : Value.Entries) :
    versionOf (modernised (override entries overrides)) =
      Checked.placed [.name "version"]
        (versionText (firstVersion ((chosenVersion entries overrides).getD .null))) := by
  unfold versionOf
  rw [get?_version h]
  cases hchosen : chosenVersion entries overrides with
  | some v => rfl
  | none =>
    have hnull := getD_null_of_chosenVersion hchosen
    cases hget : entries.get? "version" with
    | none => rfl
    | some v =>
      rw [hget] at hnull
      cases hnull
      rfl

lemma chosenVersion_congr {other : Value.Entries}
    (h : ∀ name, name ∉ outranked entries overrides → other.get? name = entries.get? name) :
    chosenVersion other overrides = chosenVersion entries overrides := by
  unfold chosenVersion
  cases hasked : asked "version" overrides with
  | some v => rfl
  | none =>
    refine congrArg (Option.or none) (findSome?_congr_upto (by decide) fun key _ hkey => ?_)
    have hget := h key (by rwa [outranked, hasked])
    unfold givenAt
    rw [hget]

lemma outranked_subset (entries : Value.Entries) (overrides : Overrides) :
    outranked entries overrides ⊆ versionKeys := by
  unfold outranked
  split
  · exact List.Subset.refl _
  · exact List.Subset.trans (tail_dropWhile_subset _ _ _) (List.subset_cons_self _ _)

lemma version_notMem_outranked (h : asked "version" overrides = none) :
    "version" ∉ outranked entries overrides := by
  intro hmem
  rw [outranked, h] at hmem
  exact absurd (tail_dropWhile_subset _ _ _ hmem) (by decide)

/-- The version is the first that has a value, of what is asked for and of what stands in the data
under its own name and the older ones, and is written as text. What stands under the keys that come
after does not matter to any field, and neither does an override without a value. -/
theorem build_version (h : ∀ name ∈ overrides.map Prod.fst, name ∉ olderVersionKeys) :
    (∀ c, build entries overrides = .ok c →
      ∀ text, NamesVersion ((chosenVersion entries overrides).getD .null) text ↔ text = c.version) ∧
    (∀ other : Value.Entries,
      (∀ name, name ∉ outranked entries overrides → other.get? name = entries.get? name) →
      build other overrides = build entries overrides) ∧
    build entries (overrides.filter fun o => o.2.isGiven) = build entries overrides := by
  refine ⟨fun c hbuild text => ?_, fun other hother => build_congr fun name hname => ?_, ?_⟩
  · have hversion := (build_eq_ok_iff.mp hbuild).version
    rw [versionOf_chosen h] at hversion
    cases htext : versionText (firstVersion ((chosenVersion entries overrides).getD .null)) with
    | error fault =>
      rw [htext] at hversion
      cases hversion
    | ok written =>
      rw [htext] at hversion
      cases hversion
      have hnames := namesVersion_of_versionText htext
      exact ⟨fun htext => htext.unique hnames, fun heq => heq ▸ hnames⟩
  · by_cases hversion : name = "version"
    · subst hversion
      rw [get?_version h, get?_version h, chosenVersion_congr hother]
      cases hchosen : chosenVersion entries overrides with
      | some v => rfl
      | none =>
        have hasked := (Option.or_eq_none_iff.mp hchosen).1
        rw [hother _ (version_notMem_outranked hasked)]
    · have hkey := notMem_versionKeys name hname hversion
      have hsame := hother name fun hmem => hkey (outranked_subset _ _ hmem)
      have holder : name ∉ olderVersionKeys := fun hmem => hkey (List.mem_cons_of_mem _ hmem)
      rw [get?_modernised_of_notMem hkey, get?_modernised_of_notMem hkey, get?_override holder,
        get?_override holder, hsame]
  · unfold build
    rw [override_filter_isGiven]

/-- A version without a value, and versions under both older names. -/
def ranked : Value.Entries :=
  [(.str "nodejs", .map []), (.str "version", .null), (.str "cache", .str "npm"),
    (.str "node_js", .seq [.float (.ofRatio false 1 10), .int 6])]

/-- The same but for the version that counts least. -/
def reranked : Value.Entries :=
  [(.str "node_js", .seq [.float (.ofRatio false 1 10), .int 6]), (.str "nodejs", .str "9"),
    (.str "cache", .str "npm"), (.int 7, .bool true), (.str "version", .null)]

theorem build_version_ranked :
    let overrides : Overrides := [("version", .null), ("language", .str "node")]
    let c : Config := ⟨"node", some "0.10", ["npm"], "", [], none, none, [], none⟩
    (∀ name ∈ overrides.map Prod.fst, name ∉ olderVersionKeys) ∧
    (build ranked overrides = .ok c ∧
      ∀ text, NamesVersion ((chosenVersion ranked overrides).getD .null) text ↔ text = c.version) ∧
    ((∀ name, name ∉ outranked ranked overrides → reranked.get? name = ranked.get? name) ∧
      build reranked overrides = build ranked overrides) ∧
    build ranked [("language", .str "node")] = build ranked overrides := by
  intro overrides c
  have hnames : ∀ name ∈ overrides.map Prod.fst, name ∉ olderVersionKeys := by decide
  have hbuild : build ranked overrides = .ok c := rfl
  have hsame : ∀ name, name ∉ outranked ranked overrides → reranked.get? name = ranked.get? name := by
    intro name hname
    have hne : name ≠ "nodejs" := fun heq => hname (heq ▸ List.mem_singleton.mpr rfl)
    by_cases hfirst : name = "node_js"
    · subst hfirst
      rfl
    · by_cases hcache : name = "cache"
      · subst hcache
        rfl
      · simp [reranked, ranked, Value.Entries.get?, Value.sameKey, Value.whole?, Ne.symm hne,
          Ne.symm hfirst, Ne.symm hcache]
  obtain ⟨hversion, hlower, habsent⟩ := @build_version ranked overrides hnames
  exact ⟨hnames, ⟨hbuild, hversion c hbuild⟩, ⟨hsame, hlower reranked hsame⟩, habsent⟩

end Precedence

end JobScript.Config
