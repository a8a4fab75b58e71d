import JobScript.Proofs.Config.Lookup
import Mathlib.Data.List.Nodup

/-! # Normal data

A configuration written out as data, field by field, is read back as it was. So whatever spelling a
configuration comes from, its own data is a normal form of it. -/

namespace JobScript

namespace Value

def ofOptionalText : Option String → Value
  | none => .null
  | some s => .str s

def ofTexts (texts : List String) : Value := .seq (texts.map .str)

def ofOptionalTexts : Option (List String) → Value
  | none => .null
  | some texts => ofTexts texts

def ofTextEntries (entries : List (String × String)) : Value :=
  .map (entries.map fun (name, text) => (.str name, .str text))

@[simp] lemma asOptionalText_ofOptionalText (text : Option String) :
    (ofOptionalText text).asOptionalText = .ok text := by
  cases text <;> rfl

@[simp] lemma textsFrom_str (place : List Place) (n : Nat) (texts : List String) :
    textsFrom place n (texts.map .str) = .ok texts := by
  induction texts generalizing n with
  | nil => rfl
  | cons text texts ih =>
    rw [List.map_cons, textsFrom, ih]
    rfl

@[simp] lemma asTexts_ofTexts (place : List Place) (texts : List String) :
    (ofTexts texts).asTexts place = .ok texts := textsFrom_str place 0 texts

lemma textEntriesFrom_str (place : List Place) (entries : List (String × String)) :
    textEntriesFrom place (entries.map fun (name, text) => (.str name, .str text)) = .ok entries := by
  induction entries with
  | nil => rfl
  | cons entry entries ih =>
    rw [List.map_cons, textEntriesFrom, ih]
    rfl

section Entries
variable {entries : List (String × String)} {name text : String}

lemma mem_names_setText {other : String} (h : other ∈ (setText name text entries).map Prod.fst) :
    other = name ∨ other ∈ entries.map Prod.fst := by
  induction entries with
  | nil => simpa [setText] using h
  | cons entry rest ih =>
    unfold setText at h
    split at h
    · next hname =>
      subst hname
      exact .inr h
    · rcases List.mem_cons.mp h with hfirst | hrest
      · exact .inr (List.mem_cons.mpr (.inl hfirst))
      · exact (ih hrest).imp_right (List.mem_cons_of_mem _)

/-- No name is set twice. -/
lemma nodup_setText (h : (entries.map Prod.fst).Nodup) (name text : String) :
    ((setText name text entries).map Prod.fst).Nodup := by
  induction entries with
  | nil => simp [setText]
  | cons entry rest ih =>
    obtain ⟨hnot, hrest⟩ := List.nodup_cons.mp h
    unfold setText
    split
    · next hname =>
      subst hname
      exact h
    · next hname =>
      refine List.nodup_cons.mpr ⟨fun hmem => ?_, ih hrest⟩
      exact (mem_names_setText hmem).elim hname hnot

lemma nodup_foldl_setText (h : (entries.map Prod.fst).Nodup) (more : List (String × String)) :
    ((more.foldl (fun sofar (name, text) => setText name text sofar) entries).map Prod.fst).Nodup := by
  induction more generalizing entries with
  | nil => exact h
  | cons entry rest ih => exact ih (nodup_setText h entry.1 entry.2)

lemma setText_of_notMem (h : name ∉ entries.map Prod.fst) :
    setText name text entries = entries ++ [(name, text)] := by
  induction entries with
  | nil => rfl
  | cons entry rest ih =>
    obtain ⟨hname, hrest⟩ := not_or.mp (mt List.mem_cons.mpr h)
    rw [setText, if_neg (Ne.symm hname), ih hrest]
    rfl

/-- Names that are all different are set one after the other. -/
lemma foldl_setText_of_nodup {more : List (String × String)}
    (h : ((entries ++ more).map Prod.fst).Nodup) :
    more.foldl (fun sofar (name, text) => setText name text sofar) entries = entries ++ more := by
  induction more generalizing entries with
  | nil => simp
  | cons entry rest ih =>
    have hnew : entry.1 ∉ entries.map Prod.fst := by
      rw [List.map_append, List.map_cons] at h
      intro hmem
      exact (List.nodup_append.mp h).2.2 _ hmem _ (List.mem_cons_self ..) rfl
    have hentries : entries ++ entry :: rest = (entries ++ [entry]) ++ rest := by simp
    rw [hentries] at h ⊢
    show rest.foldl _ (setText entry.1 entry.2 entries) = _
    rw [setText_of_notMem hnew]
    exact ih h

end Entries

lemma asTextEntries_ofTextEntries (place : List Place) {entries : List (String × String)}
    (h : (entries.map Prod.fst).Nodup) : (ofTextEntries entries).asTextEntries place = .ok entries := by
  unfold ofTextEntries asTextEntries
  dsimp only
  rw [textEntriesFrom_str]
  exact congrArg Except.ok (@foldl_setText_of_nodup [] _ h)

lemma nodup_of_asTextEntries {place : List Place} {v : Value} {entries : List (String × String)}
    (h : v.asTextEntries place = .ok entries) : (entries.map Prod.fst).Nodup := by
  unfold asTextEntries at h
  split at h
  · next raw =>
    cases hraw : textEntriesFrom place raw with
    | error faults =>
      rw [hraw] at h
      cases h
    | ok read =>
      rw [hraw] at h
      cases h
      exact @nodup_foldl_setText [] List.nodup_nil read
  · cases h

end Value

namespace Config

variable {c : Config} {entries : Value.Entries} {overrides : Overrides}

/-- A configuration as data, with a list for several texts and nothing for what is not given. -/
def fields (c : Config) : Value.Entries :=
  [(.str "language", .str c.language),
    (.str "version", .ofOptionalText c.version),
    (.str "cache", .ofTexts c.cache),
    (.str "npm_args", .str c.npmArgs),
    (.str "env", .ofTexts c.env),
    (.str "install", .ofOptionalTexts c.install),
    (.str "script", .ofOptionalTexts c.script),
    (.str "hosts", .ofTextEntries c.hosts),
    (.str "app_host", .ofOptionalText c.appHost)]

/-- There are no older names in it. -/
lemma modernised_fields (c : Config) : modernised c.fields = c.fields := by
  have hrest : takeOut olderVersionKeys c.fields = c.fields := rfl
  have hnone : olderVersionKeys.findSome? (givenAt c.fields) = none := rfl
  unfold modernised
  rw [hnone]
  exact hrest

/-- A version that is a text, or not given, is the version. -/
lemma versionOf_fields (c : Config) : versionOf c.fields = .ok c.version := by
  have hversion : c.fields.get? "version" = some (.ofOptionalText c.version) := rfl
  unfold versionOf
  rw [hversion]
  cases c.version <;> rfl

lemma cacheOf_fields (c : Config) : cacheOf c.fields = .ok c.cache :=
  Value.asTexts_ofTexts [.name "cache"] c.cache

lemma envOf_fields (c : Config) : envOf c.fields = .ok c.env :=
  Value.asTexts_ofTexts [.name "env"] c.env

lemma commandsOf_ofOptionalTexts {name : String} {texts : Option (List String)}
    (h : entries.get? name = some (.ofOptionalTexts texts)) : commandsOf name entries = .ok texts := by
  unfold commandsOf
  rw [h]
  cases texts with
  | none => rfl
  | some texts =>
    have htexts : listed name (.ofTexts texts) = .ok texts := Value.asTexts_ofTexts [.name name] texts
    show (listed name (.ofTexts texts)).map some = _
    rw [htexts]
    rfl

lemma optionalTextOf_ofOptionalText {name : String} {text : Option String}
    (h : entries.get? name = some (.ofOptionalText text)) : optionalTextOf name entries = .ok text := by
  unfold optionalTextOf
  rw [h]
  dsimp only
  rw [Value.asOptionalText_ofOptionalText]
  rfl

/-- The data of a configuration whose hosts have different names is read as that configuration. -/
lemma ofEntries_fields (h : (c.hosts.map Prod.fst).Nodup) : ofEntries c.fields = .ok c := by
  rw [ofEntries, modernised_fields]
  refine ofFields_eq_ok_iff.mpr ⟨rfl, versionOf_fields c, cacheOf_fields c, rfl, envOf_fields c, ?_, ?_, ?_, ?_⟩
  · exact commandsOf_ofOptionalTexts rfl
  · exact commandsOf_ofOptionalTexts rfl
  · exact Value.asTextEntries_ofTextEntries [.name "hosts"] h
  · exact optionalTextOf_ofOptionalText rfl

/-- However it is read, no host of a configuration is named twice. -/
lemma nodup_hosts_of_ofEntries (h : ofEntries entries = .ok c) : (c.hosts.map Prod.fst).Nodup := by
  have hhosts := (ofFields_eq_ok_iff.mp h).hosts
  unfold hostsOf at hhosts
  split at hhosts
  · exact Value.nodup_of_asTextEntries hhosts
  · rw [← Except.ok.inj hhosts]
    exact List.nodup_nil

/-- Normalising is done once and for all: the data of a configuration that was read from any spelling
is read as the same configuration. -/
theorem build_fields_of_build (h : build entries overrides = .ok c) : build c.fields [] = .ok c := by
  have hhosts := nodup_hosts_of_ofEntries (ofEntries_of_build h)
  unfold build
  rw [override_nil, ofEntries_fields hhosts]
  rfl

/-- A version as a number in a list under an old key, caches that are switched on and off, one text for
several, and one host named as text and as bytes. -/
def spellings : Value.Entries :=
  [(.str "node_js", .seq [.float (.ofRatio false 1 10), .int 6]),
    (.str "cache", .map [(.str "npm", .bool true), (.str "yarn", .int 0)]),
    (.str "env", .seq [.bytes [0x41], .str "B=1"]),
    (.str "script", .str "make"),
    (.str "hosts", .map [(.str "n", .str "old"), (.bytes [0x6e], .str "x")]),
    (.int 1, .null)]

theorem build_fields_spellings :
    let c : Config := ⟨"node", some "0.10", ["npm"], "", ["A", "B=1"], none, some ["make"], [("n", "x")], none⟩
    build spellings [("language", .str "node"), ("version", .null)] = .ok c ∧ build c.fields [] = .ok c := by
  have h : build spellings [("language", .str "node"), ("version", .null)] =
      .ok ⟨"node", some "0.10", ["npm"], "", ["A", "B=1"], none, some ["make"], [("n", "x")], none⟩ := rfl
  exact ⟨h, build_fields_of_build h⟩

end Config

end JobScript
