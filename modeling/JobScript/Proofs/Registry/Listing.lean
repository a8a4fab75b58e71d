import JobScript.Proofs.Registry.History

/-! # Listed adapters

A registry lists its adapters by their names, but looks them up by keys that adapters share. So the name
of a listed adapter leads to it only as long as nothing that was registered later claims the same key. -/

namespace JobScript.Registry

section Lookup

variable {fallback : Option Adapter} {history later : List Edit} {a : Adapter} {language : Option String}

lemma IsLast.append {p : Adapter → Prop} (h : IsLast p history a later) (before : List Edit) :
    IsLast p (before ++ history) a later := by
  induction before with
  | nil => exact h
  | cons e before ih => exact ih.cons e

lemma IsLast.unique {p : Adapter → Prop} [DecidablePred p] {b : Adapter} {later' : List Edit}
    (h : IsLast p history a later) (h' : IsLast p history b later') : a = b ∧ later = later' := by
  have hfound := (isLast_iff.mp h).symm.trans (isLast_iff.mp h')
  exact Prod.mk.inj (Option.some.inj hfound)

lemma get_of_own? {r : Registry} (h : r.own? language = some a) : r.get language = .ok a := by
  unfold get
  rw [h]
  rfl

lemma get_of_own?_eq_none {r : Registry} (h : r.own? language = none) : r.get language =
    match r.fallback with
    | some adapter => .ok adapter
    | none => .error ⟨language⟩ := by
  unfold get
  rw [h]
  cases r.fallback <;> rfl

/-- A key leads to the adapter last registered with the name of its last claimant, while that name is not
unregistered. -/
lemma own?_of_isLast (fallback : Option Adapter) (language : Option String)
    (h : IsLast (Text.toLower (language.getD "") ∈ keys ·) history a later) (hnot : .unregister a.name ∉ later) :
    ∃ b later', IsLast (·.name = a.name) history b later' ∧
      ((empty fallback).after history).own? language = some b := by
  have hstanding := standing?_eq_some_iff.mpr ⟨later, isLast_iff.mp h, hnot⟩
  obtain ⟨b, later', hlast, hfind⟩ := @exists_find?_after fallback _ _ _ hstanding
  refine ⟨b, later', hlast, ?_⟩
  rw [own?_after, hstanding, Option.bind_some]
  exact hfind

/-- Once the name of its last claimant is unregistered, a key leads nowhere. -/
lemma own?_of_isLast_of_mem (fallback : Option Adapter) (language : Option String)
    (h : IsLast (Text.toLower (language.getD "") ∈ keys ·) history a later) (hmem : .unregister a.name ∈ later) :
    ((empty fallback).after history).own? language = none := by
  have hnone : standing? (fun a => decide (Text.toLower (language.getD "") ∈ keys a)) history = none := by
    rw [Option.eq_none_iff_forall_not_mem]
    intro b hb
    obtain ⟨later', hlast, hnot⟩ := standing?_eq_some_iff.mp hb
    obtain ⟨rfl, rfl⟩ := h.unique (isLast_iff.mpr hlast)
    exact hnot hmem
  rw [own?_after, hnone, Option.bind_none]

/-- An adapter is listed by the name under which it was registered last. -/
lemma exists_isLast_of_mem_list {name : String} (h : name ∈ ((empty fallback).after history).list) :
    ∃ a later, IsLast (·.name = name) history a later ∧ .unregister name ∉ later ∧
      ((empty fallback).after history).find? name = some a := by
  obtain ⟨b, hb, hname⟩ := List.mem_map.mp h
  have hsome : (((empty fallback).after history).find? name).isSome = true :=
    List.find?_isSome.mpr ⟨b, hb, beq_iff_eq.mpr hname⟩
  obtain ⟨a, ha⟩ := Option.isSome_iff_exists.mp hsome
  have hstanding := (@find?_after fallback history name).symm.trans ha
  obtain ⟨later, hlast, hnot⟩ := standing?_eq_some_iff.mp hstanding
  have hlast' := isLast_of_last? hlast
  simp only [beq_iff_eq] at hlast'
  exact ⟨a, later, hlast', hlast'.holds ▸ hnot, ha⟩

end Lookup

/-- Where the name of a listed adapter leads. It finds the adapter that was registered last under it,
unless its key was claimed since. Then it finds the adapter of another name, that of the last claimant; and
once this name is unregistered it finds nothing of its own, although it is still listed. -/
theorem get_of_mem_list (fallback : Option Adapter) (history : List Edit) (name : String) :
    let r := (empty fallback).after history
    let key := Text.toLower name
    name ∈ r.list → ∃ a later, IsLast (·.name = name) history a later ∧ r.find? name = some a ∧
      ((∀ b, .register b ∈ later → key ∉ keys b) → r.get (some name) = .ok a) ∧
      ∀ b after, IsLast (key ∈ keys ·) later b after →
        b.name ≠ name ∧
        (.unregister b.name ∉ after → ∃ c later', IsLast (·.name = b.name) history c later' ∧
          r.get (some name) = .ok c) ∧
        (.unregister b.name ∈ after → r.get (some name) = match fallback with
          | some adapter => .ok adapter
          | none => .error ⟨some name⟩) := by
  intro r key h
  obtain ⟨a, later, hlast, hnot, hfind⟩ := exists_isLast_of_mem_list h
  obtain ⟨before, hsplit⟩ := hlast.split
  have hsince : ∀ {b after}, IsLast (key ∈ keys ·) later b after → IsLast (key ∈ keys ·) history b after := by
    intro b after hclaims
    have hhistory : history = (before ++ [.register a]) ++ later := by simp [hsplit]
    rw [hhistory]
    exact hclaims.append _
  refine ⟨a, later, hlast, hfind, fun hfree => ?_, fun b after hclaims => ⟨?_, fun hstands => ?_, fun hgone => ?_⟩⟩
  · obtain rfl : a.name = name := hlast.holds
    have hown : key ∈ keys a := List.mem_map_of_mem (List.mem_cons_self ..)
    have hclaims : IsLast (key ∈ keys ·) history a later := ⟨⟨before, hsplit⟩, hown, hfree⟩
    obtain ⟨c, later', hc, hfound⟩ := own?_of_isLast fallback (some a.name) hclaims hnot
    obtain ⟨rfl, -⟩ := hlast.unique hc
    exact get_of_own? hfound
  · obtain ⟨between, hbetween⟩ := hclaims.split
    exact hlast.last b (by simp [hbetween])
  · obtain ⟨c, later', hc, hfound⟩ := own?_of_isLast fallback (some name) (hsince hclaims) hstands
    exact ⟨c, later', hc, get_of_own? hfound⟩
  · have hnone := own?_of_isLast_of_mem fallback (some name) (hsince hclaims) hgone
    rw [get_of_own?_eq_none hnone, fallback_after]

/-- Two adapters whose names differ in case alone share one key. -/
def alike : List Edit := [.register (bare "Node" []), .register (bare "node" [])]

theorem get_of_mem_list_alike :
    ("node" ∈ ((empty none).after alike).list ∧
      ((empty none).after alike).get (some "node") = .ok (bare "node" [])) ∧
    ("Node" ∈ ((empty none).after alike).list ∧
      ((empty none).after alike).get (some "Node") = .ok (bare "node" [])) ∧
    "Node" ∈ ((empty none).after (alike ++ [.unregister "node"])).list ∧
    ((empty none).after (alike ++ [.unregister "node"])).get (some "Node") = .error ⟨some "Node"⟩ := by
  have hnode : "node" ∈ ((empty none).after alike).list := by decide
  have hNode : "Node" ∈ ((empty none).after alike).list := by decide
  have hstill : "Node" ∈ ((empty none).after (alike ++ [.unregister "node"])).list := by decide
  have hclaims : ∀ after, IsLast (Text.toLower "Node" ∈ keys ·) (.register (bare "node" []) :: after)
      (bare "node" []) after ↔ ∀ a, .register a ∈ after → Text.toLower "Node" ∉ keys a := fun after =>
    ⟨fun h => h.last, fun h => ⟨⟨[], rfl⟩, by decide, h⟩⟩
  refine ⟨⟨hnode, ?_⟩, ⟨hNode, ?_⟩, hstill, ?_⟩
  · obtain ⟨a, later, hlast, -, hfree, -⟩ := get_of_mem_list none alike "node" hnode
    have hlast' : last? (fun a => decide (a.name = "node")) alike = some (bare "node" [], []) := rfl
    cases (isLast_iff.mp hlast).symm.trans hlast'
    exact hfree (by simp)
  · obtain ⟨a, later, hlast, -, -, htaken⟩ := get_of_mem_list none alike "Node" hNode
    have hlast' : last? (fun a => decide (a.name = "Node")) alike =
        some (bare "Node" [], [.register (bare "node" [])]) := rfl
    cases (isLast_iff.mp hlast).symm.trans hlast'
    obtain ⟨-, hstands, -⟩ := htaken _ _ ((hclaims []).mpr (by simp))
    obtain ⟨c, later', hc, hget⟩ := hstands (by simp)
    have hc' : last? (fun a => decide (a.name = "node")) alike = some (bare "node" [], []) := rfl
    cases (isLast_iff.mp hc).symm.trans hc'
    exact hget
  · obtain ⟨a, later, hlast, -, -, htaken⟩ :=
      get_of_mem_list none (alike ++ [.unregister "node"]) "Node" hstill
    have hlast' : last? (fun a => decide (a.name = "Node")) (alike ++ [.unregister "node"]) =
        some (bare "Node" [], [.register (bare "node" []), .unregister "node"]) := rfl
    cases (isLast_iff.mp hlast).symm.trans hlast'
    obtain ⟨-, -, hgone⟩ := htaken _ _ ((hclaims [.unregister "node"]).mpr (by simp))
    exact hgone (by simp [bare])

/-- A listed name may lead to the adapter of another name. -/
theorem get_other_of_mem_list : ¬ ∀ (fallback : Option Adapter) (history : List Edit) (name : String),
    name ∈ ((empty fallback).after history).list →
      ∃ a later, IsLast (·.name = name) history a later ∧
        ((empty fallback).after history).get (some name) = .ok a := by
  intro h
  obtain ⟨a, later, hlast, hget⟩ := h none alike "Node" (by decide)
  have hother : ((empty none).after alike).get (some "Node") = .ok (bare "node" []) := rfl
  have hname : a.name = "node" := congrArg Adapter.name (Except.ok.inj (hget.symm.trans hother))
  exact absurd (hlast.holds.symm.trans hname) (by decide)

end JobScript.Registry
