import JobScript.Proofs.Slug.Parts
import JobScript.Registry

/-! # What a cache slug tells

The slug of a build tells its adapter, its version and whether yarn is cached, but for one case: the
parts of a slug are joined as they are, so a version may end like the mark of a yarn cache. -/

namespace JobScript

namespace Adapter

variable {c c₁ c₂ : Config}

lemma ne_empty_of_givenVersion {version : String} (h : c.givenVersion = some version) : version ≠ "" := by
  simpa using (Option.filter_eq_some_iff.mp h).2

lemma effectiveVersion_generic (c : Config) : generic.effectiveVersion c = c.givenVersion := by
  unfold effectiveVersion
  cases c.givenVersion <;> rfl

/-- Node.js always has a version. -/
lemma effectiveVersion_node (c : Config) : ∃ version, version ≠ "" ∧
    Node.adapter.effectiveVersion c = some version := by
  unfold effectiveVersion
  cases h : c.givenVersion with
  | none => exact ⟨Node.standardVersion, by decide, rfl⟩
  | some version => exact ⟨version, ne_empty_of_givenVersion h, rfl⟩

/-- What the slug of Node.js says about the cache of yarn. -/
def yarnMark (c : Config) : String := if c.caches "yarn" then "--yarn" else ""

lemma slug_generic (c : Config) :
    generic.slug c = "cache--" ++ ("generic" ++ Slug.tail [c.givenVersion.getD ""]) := by
  unfold slug
  rw [effectiveVersion_generic]
  exact Slug.ofTexts_eq (by decide) _ _

lemma slug_node {version : String} (hne : version ≠ "")
    (h : Node.adapter.effectiveVersion c = some version) :
    Node.adapter.slug c = "cache--" ++ ("node_js" ++ ("--" ++ (version ++ yarnMark c))) := by
  have hextras : Slug.tail (Node.adapter.slugExtras c) = yarnMark c := by
    unfold Node.adapter yarnMark
    dsimp only
    split <;> rfl
  unfold slug
  rw [h, Option.getD_some]
  have hlanguage : Node.adapter.name ≠ "" := by decide
  rw [Slug.ofTexts_eq hlanguage, Slug.tail_of_ne hne, hextras, String.append_assoc]
  rfl

lemma slug_generic_ne_slug_node (c₁ c₂ : Config) : generic.slug c₁ ≠ Node.adapter.slug c₂ := by
  obtain ⟨version, hne, h⟩ := effectiveVersion_node c₂
  intro heq
  rw [slug_generic, slug_node hne h, String.append_right_inj] at heq
  -- The names of the two adapters differ in their first letters.
  have hchars := congrArg String.toList heq
  simp at hchars

lemma slug_generic_eq_iff : generic.slug c₁ = generic.slug c₂ ↔ c₁.givenVersion = c₂.givenVersion := by
  rw [slug_generic, slug_generic, String.append_right_inj, String.append_right_inj]
  cases h₁ : c₁.givenVersion with
  | none =>
    cases h₂ : c₂.givenVersion with
    | none => simp
    | some v₂ => simp [Slug.tail, Slug.separator, ne_empty_of_givenVersion h₂]
  | some v₁ =>
    cases h₂ : c₂.givenVersion with
    | none => simp [Slug.tail, Slug.separator, ne_empty_of_givenVersion h₁]
    | some v₂ =>
      simp [Slug.tail, Slug.separator, ne_empty_of_givenVersion h₁, ne_empty_of_givenVersion h₂]

/-- The version of a build without a yarn cache ends like the slug of another build with one. -/
def Shadows (c₁ c₂ : Config) : Prop :=
  c₁.caches "yarn" = false ∧ c₂.caches "yarn" = true ∧
    Node.adapter.effectiveVersion c₁ = (Node.adapter.effectiveVersion c₂).map (· ++ "--yarn")

lemma slug_node_eq_iff : Node.adapter.slug c₁ = Node.adapter.slug c₂ ↔
    (Node.adapter.effectiveVersion c₁ = Node.adapter.effectiveVersion c₂ ∧
      c₁.caches "yarn" = c₂.caches "yarn") ∨ Shadows c₁ c₂ ∨ Shadows c₂ c₁ := by
  obtain ⟨v₁, hne₁, h₁⟩ := effectiveVersion_node c₁
  obtain ⟨v₂, hne₂, h₂⟩ := effectiveVersion_node c₂
  unfold Shadows
  rw [slug_node hne₁ h₁, slug_node hne₂ h₂, String.append_right_inj, String.append_right_inj,
    String.append_right_inj, h₁, h₂]
  unfold yarnMark
  cases c₁.caches "yarn" <;> cases c₂.caches "yarn" <;> simp [eq_comm]

/-- Two builds with one slug have the same adapter, version and choice of a yarn cache, unless they are
builds of Node.js of which one has a yarn cache, and the other one's version is that of the first with
the mark of such a cache. -/
theorem slug_eq_slug_iff {a₁ a₂ : Adapter} (h₁ : a₁ ∈ Registry.builtIn) (h₂ : a₂ ∈ Registry.builtIn)
    (c₁ c₂ : Config) : a₁.slug c₁ = a₂.slug c₂ ↔ a₁ = a₂ ∧
      ((a₁.effectiveVersion c₁ = a₂.effectiveVersion c₂ ∧
        (a₁ = Node.adapter → c₁.caches "yarn" = c₂.caches "yarn")) ∨
      (a₁ = Node.adapter ∧ (Shadows c₁ c₂ ∨ Shadows c₂ c₁))) := by
  have hne : generic ≠ Node.adapter := fun h => by
    have hname := congrArg Adapter.name h
    revert hname
    decide
  have hmem : ∀ a ∈ Registry.builtIn, a = generic ∨ a = Node.adapter := by
    simp [Registry.builtIn]
  rcases hmem a₁ h₁ with rfl | rfl
  · rcases hmem a₂ h₂ with rfl | rfl
    · rw [slug_generic_eq_iff, effectiveVersion_generic, effectiveVersion_generic]
      simp [hne]
    · simp [slug_generic_ne_slug_node c₁ c₂, hne]
  · rcases hmem a₂ h₂ with rfl | rfl
    · simp [(slug_generic_ne_slug_node c₂ c₁).symm, hne.symm]
    · rw [slug_node_eq_iff]
      simp

/-- The version that is assumed for Node.js has the slug of the same version given; the names keep the
slugs of the two adapters apart. -/
theorem slug_eq_slug_standard : Node.adapter ∈ Registry.builtIn ∧ generic ∈ Registry.builtIn ∧
    ∃ c₁ c₂, Config.build [] [] = .ok c₁ ∧
      Config.build [(.str "version", .float (.ofRatio false 1 10)), (.str "cache", .str "npm")] [] = .ok c₂ ∧
      Node.adapter.slug c₁ = Node.adapter.slug c₂ ∧ generic.slug c₂ ≠ Node.adapter.slug c₂ := by
  have hnode : Node.adapter ∈ Registry.builtIn := by simp [Registry.builtIn]
  have hgeneric : generic ∈ Registry.builtIn := by simp [Registry.builtIn]
  refine ⟨hnode, hgeneric, _, _, rfl, rfl, ?_, fun h => ?_⟩
  · exact (slug_eq_slug_iff hnode hnode _ _).mpr ⟨rfl, .inl ⟨by decide, fun _ => by decide⟩⟩
  · have hname := congrArg Adapter.name ((slug_eq_slug_iff hgeneric hnode _ _).mp h).1
    revert hname
    decide

/-- Version `6--yarn` without caches and version `6` with that of yarn share a slug. -/
theorem slug_shared_by_versions : ∃ c₁ c₂, Config.build [(.str "version", .str "6--yarn")] [] = .ok c₁ ∧
    Config.build [(.str "version", .str "6"), (.str "cache", .str "yarn")] [] = .ok c₂ ∧
    Node.adapter.slug c₁ = "cache--node_js--6--yarn" ∧ Node.adapter.slug c₂ = "cache--node_js--6--yarn" ∧
    Node.adapter.effectiveVersion c₁ ≠ Node.adapter.effectiveVersion c₂ ∧
    c₁.caches "yarn" = false ∧ c₂.caches "yarn" = true :=
  ⟨_, _, rfl, rfl, by decide, by decide, by decide, by decide, by decide⟩

end Adapter

end JobScript
