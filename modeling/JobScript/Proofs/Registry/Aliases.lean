import JobScript.Proofs.Registry.Listing
import JobScript.Proofs.Text.Case

/-! # Aliases and what they lead to

The aliases of an adapter are read off the table in which languages are looked up, by the name that is
found there. So the two views agree: an alias leads to the adapter that has it, and what leads to an
adapter is its name or one of its aliases, in lower case. -/

namespace JobScript.Registry

variable {fallback : Option Adapter} {history : List Edit} {language : Option String}
  {names : List (String × String)} {name key : String}

/-- Where no key stands twice, every entry is found under its key. -/
lemma mem_iff_lookup (h : (names.map Prod.fst).Nodup) :
    (key, name) ∈ names ↔ names.lookup key = some name := by
  induction names with
  | nil => simp
  | cons entry rest ih =>
    obtain ⟨k, n⟩ := entry
    obtain ⟨hk, hrest⟩ := List.nodup_cons.mp h
    rw [List.mem_cons, List.lookup_cons, ih hrest]
    by_cases hkey : key = k
    · subst hkey
      have hnone : rest.lookup key ≠ some name := fun hfound =>
        hk (List.mem_map.mpr ⟨_, (ih hrest).mpr hfound, rfl⟩)
      simp [hnone, eq_comm]
    · have hb : (key == k) = false := beq_false_of_ne hkey
      simp [hb, hkey]

section Table

variable (r : Registry)

lemma sorted_aliases (name : String) : (r.aliases name).Pairwise (· ≤ ·) := by
  unfold aliases
  refine (List.pairwise_mergeSort ?_ ?_ _).imp of_decide_eq_true
  · intro a b c hab hbc
    exact decide_eq_true (String.le_trans (of_decide_eq_true hab) (of_decide_eq_true hbc))
  · intro a b
    simpa using String.le_total a b

variable {r}

lemma nodup_aliases (h : (r.names.map Prod.fst).Nodup) (name : String) : (r.aliases name).Nodup := by
  unfold aliases
  rw [(List.mergeSort_perm _ _).nodup_iff]
  exact h.sublist (List.filter_sublist.map _)

/-- The aliases of a name are the keys that stand for it, but for the name itself. -/
lemma mem_aliases_iff (h : (r.names.map Prod.fst).Nodup) :
    key ∈ r.aliases name ↔ r.names.lookup key = some name ∧ key ≠ name := by
  unfold aliases
  rw [List.mem_mergeSort, ← mem_iff_lookup h]
  simp

lemma own?_eq_some_iff {a : Adapter} : r.own? language = some a ↔
    r.names.lookup (Text.toLower (language.getD "")) = some a.name ∧ r.find? a.name = some a := by
  unfold own?
  rw [Option.bind_eq_some_iff]
  constructor
  · rintro ⟨name, hname, hfind⟩
    have : a.name = name := by simpa using List.find?_some hfind
    subst this
    exact ⟨hname, hfind⟩
  · exact fun ⟨hname, hfind⟩ => ⟨a.name, hname, hfind⟩

end Table

/-- A key is in lower case, as it came from a name or an alias by being put into it. -/
lemma toLower_of_lookup (h : ((empty fallback).after history).names.lookup key = some name) :
    Text.toLower key = key := by
  rw [lookup_after] at h
  obtain ⟨a, ha, -⟩ := Option.map_eq_some_iff.mp h
  have hmem : key ∈ keys a := by simpa using holds_of_standing? ha
  obtain ⟨word, -, rfl⟩ := List.mem_map.mp hmem
  exact Text.toLower_toLower word

/-- A key leads to an adapter of the name that it stands for. -/
lemma exists_own?_of_lookup (h : ((empty fallback).after history).names.lookup key = some name) :
    ∃ a, ((empty fallback).after history).own? (some key) = some a ∧ a.name = name := by
  have hkey := toLower_of_lookup h
  rw [lookup_after] at h
  obtain ⟨b, hb, rfl⟩ := Option.map_eq_some_iff.mp h
  obtain ⟨a, later, hlast, hfind⟩ := @exists_find?_after fallback _ _ _ hb
  refine ⟨a, own?_eq_some_iff.mpr ⟨?_, ?_⟩, hlast.holds⟩
  · rw [Option.getD_some, hkey, lookup_after, hb, hlast.holds]
    rfl
  · rw [hlast.holds]
    exact hfind

/-- What is found without the fallback is found by a key. -/
lemma own?_of_get {r : Registry} {a : Adapter} (hown : r.own? language ≠ none) (h : r.get language = .ok a) :
    r.own? language = some a := by
  obtain ⟨b, hb⟩ := Option.ne_none_iff_exists'.mp hown
  rw [get_of_own? hb] at h
  rw [hb, Except.ok.inj h]

/-- Listing the aliases of an adapter and looking languages up tell the same: each alias leads to the
adapter that it is listed for, and what leads to its record, but for the fallback, is listed or is the
name itself. -/
theorem aliases_of_mem_list (fallback : Option Adapter) (history : List Edit) (name : String) :
    let r := (empty fallback).after history
    name ∈ r.list →
      (r.aliases name).Pairwise (· ≤ ·) ∧ (r.aliases name).Nodup ∧
      (∀ key ∈ r.aliases name, ∃ a, r.get (some key) = .ok a ∧ a.name = name) ∧
      (∀ other ∈ r.list, other ≠ name → ∀ key ∈ r.aliases name, key ∉ r.aliases other) ∧
      ∃ record, r.find? name = some record ∧ ∀ language, r.own? language ≠ none →
        r.get language = .ok record →
        Text.toLower (language.getD "") = name ∨ Text.toLower (language.getD "") ∈ r.aliases name := by
  intro r hlisted
  have hnodup : (r.names.map Prod.fst).Nodup := nodup_after history
  obtain ⟨record, later, hlast, -, hfind⟩ := exists_isLast_of_mem_list hlisted
  refine ⟨sorted_aliases r name, nodup_aliases hnodup name, ?_, ?_, record, hfind, ?_⟩
  · intro key hkey
    obtain ⟨a, ha, hname⟩ := exists_own?_of_lookup ((mem_aliases_iff hnodup).mp hkey).1
    exact ⟨a, get_of_own? ha, hname⟩
  · intro other _ hother key hkey hkey'
    have hsame := ((mem_aliases_iff hnodup).mp hkey).1.symm.trans ((mem_aliases_iff hnodup).mp hkey').1
    exact hother (Option.some.inj hsame).symm
  · intro language hown hget
    have hlookup := (own?_eq_some_iff.mp (own?_of_get hown hget)).1
    rw [hlast.holds] at hlookup
    by_cases hkey : Text.toLower (language.getD "") = name
    · exact .inl hkey
    · exact .inr ((mem_aliases_iff hnodup).mpr ⟨hlookup, hkey⟩)

/-- A name with a capital letter, an alias that ends in a sigma, and one that the next adapter takes over. -/
def mixed : List Edit :=
  [.register (bare "Node" ["ΟΔΟΣ", "NODEJS"]), .register (bare "iojs" ["NodeJS", "IO"])]

theorem aliases_of_mem_list_mixed :
    let r := (empty none).after mixed
    "Node" ∈ r.list ∧ (r.aliases "Node").Pairwise (· ≤ ·) ∧ (r.aliases "Node").Nodup ∧
    ("οδος" ∈ r.aliases "Node" ∧ ∃ a, r.get (some "οδος") = .ok a ∧ a.name = "Node") ∧
    ("iojs" ∈ r.list ∧ "nodejs" ∈ r.aliases "iojs" ∧ "nodejs" ∉ r.aliases "Node") ∧
    (r.own? (some "οδΟΣ") ≠ none ∧ r.get (some "οδΟΣ") = .ok (bare "Node" ["ΟΔΟΣ", "NODEJS"])) ∧
    (Text.toLower "οδΟΣ" = "Node" ∨ Text.toLower "οδΟΣ" ∈ r.aliases "Node") := by
  intro r
  have hnodup : (r.names.map Prod.fst).Nodup := nodup_after mixed
  have hnode : "Node" ∈ r.list := by decide
  have hiojs : "iojs" ∈ r.list := by decide
  have hgreek : "οδος" ∈ r.aliases "Node" := (mem_aliases_iff hnodup).mpr ⟨by decide +kernel, by decide⟩
  have htaken : "nodejs" ∈ r.aliases "iojs" := (mem_aliases_iff hnodup).mpr ⟨by decide +kernel, by decide⟩
  have hown : r.own? (some "οδΟΣ") = some (bare "Node" ["ΟΔΟΣ", "NODEJS"]) :=
    own?_eq_some_iff.mpr ⟨by decide +kernel, rfl⟩
  have hne : r.own? (some "οδΟΣ") ≠ none := hown ▸ Option.some_ne_none _
  obtain ⟨hsorted, hnodup', hleads, -, record, hfind, hback⟩ := aliases_of_mem_list none mixed "Node" hnode
  obtain ⟨-, -, -, hdisjoint, -⟩ := aliases_of_mem_list none mixed "iojs" hiojs
  cases hfind.symm.trans (show r.find? "Node" = some (bare "Node" ["ΟΔΟΣ", "NODEJS"]) from rfl)
  have hback' := hback _ hne (get_of_own? hown)
  rw [Option.getD_some] at hback'
  exact ⟨hnode, hsorted, hnodup', ⟨hgreek, hleads _ hgreek⟩,
    ⟨hiojs, htaken, hdisjoint "Node" hnode (by decide) _ htaken⟩, ⟨hne, get_of_own? hown⟩, hback'⟩

end JobScript.Registry
