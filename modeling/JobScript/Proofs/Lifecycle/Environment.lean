import JobScript.Proofs.Lifecycle.Emission
import JobScript.Proofs.Text.Strip

/-! # The environment of a build

Every entry of the environment that names a variable is exported under its name, and all the others are left
out. An entry is read by itself, so no entry hangs on those around it. -/

namespace JobScript.Lifecycle

open Shell Text

/-- The entry has an equals sign and, before the first one, a name with nothing around it but blanks. All
that comes after this sign is the value. -/
inductive Declares : String → String → String → Prop
  | intro {before name value : String} (hfirst : '=' ∉ before.toList) (hcore : IsCore before name)
      (hne : name ≠ "") : Declares (before ++ "=" ++ value) name value

/-- There is no equals sign, or nothing but blanks before the first one. -/
inductive IsNameless : String → Prop
  | unmarked {entry : String} (h : '=' ∉ entry.toList) : IsNameless entry
  | blank {before value : String} (h : isBlankLine before = true) : IsNameless (before ++ "=" ++ value)

def assignment (name value : String) : String := "export " ++ name ++ "=" ++ value

/-- What is exported for one entry. -/
def entryLines (entry : String) : List String :=
  match splitEntry entry with
  | some (name, value) => renderExport (some name) value true
  | none => []

def environmentLines (env : List String) : List String := env.flatMap entryLines

variable {entry before name value : String}

section Entry

lemma forall_ne_of_notMem (h : '=' ∉ before.toList) : ∀ c ∈ before.toList, decide (c ≠ '=') = true :=
  fun _ hc => decide_eq_true (ne_of_mem_of_not_mem hc h)

lemma splitEntry_of_notMem (h : '=' ∉ entry.toList) : splitEntry entry = none := by
  have hdrop : entry.toList.dropWhile (fun c => decide (c ≠ '=')) = [] :=
    List.dropWhile_eq_nil_iff.mpr (forall_ne_of_notMem h)
  rw [splitEntry, List.span_eq_takeWhile_dropWhile, hdrop]

lemma splitEntry_append (h : '=' ∉ before.toList) (value : String) :
    splitEntry (before ++ "=" ++ value) = some (strip before, value) := by
  have hentry : (before ++ "=" ++ value).toList = before.toList ++ '=' :: value.toList := by simp
  rw [splitEntry, hentry, List.span_eq_takeWhile_dropWhile, List.takeWhile_append_of_pos (forall_ne_of_notMem h),
    List.dropWhile_append_of_pos (forall_ne_of_notMem h)]
  simp

lemma exists_append_of_mem (h : '=' ∈ entry.toList) :
    ∃ before value : String, '=' ∉ before.toList ∧ entry = before ++ "=" ++ value := by
  obtain ⟨left, right, hentry, hleft⟩ := List.eq_append_cons_of_mem h
  refine ⟨String.ofList left, String.ofList right, by simpa using hleft, ?_⟩
  rw [← String.toList_inj, hentry]
  simp

lemma notMem_of_isBlankLine (h : isBlankLine before = true) : '=' ∉ before.toList := by
  intro hmem
  have hblank := List.all_eq_true.mp h '=' hmem
  exact absurd hblank (by decide)

/-- An entry is of one of the two kinds. -/
lemma isNameless_or_declares (entry : String) : IsNameless entry ∨ ∃ name value, Declares entry name value := by
  by_cases hmem : '=' ∈ entry.toList
  · obtain ⟨before, value, hfirst, rfl⟩ := exists_append_of_mem hmem
    by_cases hblank : isBlankLine before = true
    · exact .inl (.blank hblank)
    · exact .inr ⟨strip before, value, hfirst, isCore_strip before, mt strip_eq_empty_iff.mp hblank⟩
  · exact .inl (.unmarked hmem)

lemma renderExport_of_ne (hne : name ≠ "") (value : String) :
    renderExport (some name) value true = [prompt (assignment name value), assignment name value] := by
  have hname : (some name).filter (· ≠ "") = some name := by simp [hne]
  rw [renderExport, hname]
  rfl

lemma entryLines_of_declares (h : Declares entry name value) :
    entryLines entry = [prompt (assignment name value), assignment name value] := by
  obtain ⟨hfirst, hcore, hne⟩ := h
  rw [entryLines, splitEntry_append hfirst, hcore.strip_eq]
  exact renderExport_of_ne hne _

lemma entryLines_of_isNameless (h : IsNameless entry) : entryLines entry = [] := by
  cases h with
  | unmarked h => rw [entryLines, splitEntry_of_notMem h]
  | blank h =>
    rw [entryLines, splitEntry_append (notMem_of_isBlankLine h), strip_eq_empty_iff.mpr h]
    rfl

end Entry

lemma isSound_exportEntry (entry : String) : (exportEntry entry).isSound = true := by
  unfold exportEntry
  split <;> rfl

lemma timers_exportEntry (entry : String) : (exportEntry entry).timers = 0 := by
  unfold exportEntry
  split <;> rfl

/-- What is noted of an entry without a name is no line. -/
lemma lines_exportEntry (entry : String) (before : Nat) :
    (exportEntry entry).lines before = entryLines entry := by
  unfold exportEntry entryLines
  cases splitEntry entry with
  | none => rfl
  | some cut => exact List.append_nil _

lemma lines_exportAll (config : Config) : (exportAll config).lines = fun _ =>
    ("export BUILD_LANGUAGE=" ++ config.language) :: environmentLines config.env := by
  funext before
  rw [exportAll, Program.lines_foldl isSound_exportEntry timers_exportEntry _ rfl]
  simp only [lines_exportEntry]
  rfl

lemma timers_exportAll (config : Config) : (exportAll config).timers = 0 := by
  rw [exportAll, Program.timers_foldl isSound_exportEntry timers_exportEntry _ rfl]
  rfl

/-- The language is exported, and then the environment: each entry with a name is shown and exported, in
order, and an entry without one puts in nothing. What is exported for two environments, one after the other,
is what is exported for each. -/
theorem emits_export :
    (∀ config, (defaultHook .export).Emits config
      (fun _ => ("export BUILD_LANGUAGE=" ++ config.language) :: environmentLines config.env) 0) ∧
    (∀ env more, environmentLines (env ++ more) = environmentLines env ++ environmentLines more) ∧
    (∀ entry name value, Declares entry name value → environmentLines [entry] =
      [prompt ("export " ++ name ++ "=" ++ value), "export " ++ name ++ "=" ++ value]) ∧
    (∀ entry, IsNameless entry → environmentLines [entry] = []) ∧
    ∀ entry, IsNameless entry ∨ ∃ name value, Declares entry name value := by
  have hsingle : ∀ entry, environmentLines [entry] = entryLines entry := fun entry => List.flatMap_singleton ..
  refine ⟨fun config => ?_, fun env more => List.flatMap_append, fun entry name value hdeclares => ?_,
    fun entry hnameless => ?_, isNameless_or_declares⟩
  · have hemits : (defaultHook .export).Emits config _ _ :=
      Hook.emits_of_program rfl (isSound_exportAll config)
    rwa [lines_exportAll, timers_exportAll] at hemits
  · rw [hsingle]
    exact entryLines_of_declares hdeclares
  · rw [hsingle]
    exact entryLines_of_isNameless hnameless

/-- A value with an equals sign of its own, no sign at all, a name of blanks alone, and blanks around a name. -/
theorem emits_export_blanks :
    let config : Config := ⟨"c", none, [], "", ["a=1=2", "b", "\u2003=x", " d\u00a0= y "], none, none, [], none⟩
    Declares "a=1=2" "a" "1=2" ∧ IsNameless "b" ∧ IsNameless "\u2003=x" ∧ Declares " d\u00a0= y " "d" " y " ∧
    ∃ nodes b, runSteps ((defaultHook .export).steps config) .start = (.ok (), b) ∧
      Builder.start.Extends nodes 0 b ∧ nodes.flatMap Node.render =
        ["export BUILD_LANGUAGE=c", prompt "export a=1=2", "export a=1=2", prompt "export d= y ",
          "export d= y "] := by
  intro config
  obtain ⟨hemits, happend, hdeclares, hnameless, -⟩ := emits_export
  have ha : Declares "a=1=2" "a" "1=2" := by
    show Declares ("a" ++ "=" ++ "1=2") "a" "1=2"
    exact .intro (by decide) (IsBare.isCore ⟨rfl, rfl⟩) (by decide)
  have hd : Declares " d\u00a0= y " "d" " y " := by
    show Declares (" " ++ "d" ++ "\u00a0" ++ "=" ++ " y ") "d" " y "
    exact .intro (by decide) (.intro (by decide) (by decide) ⟨rfl, rfl⟩) (by decide)
  have hb : IsNameless "b" := .unmarked (by decide)
  have hx : IsNameless "\u2003=x" := by
    show IsNameless ("\u2003" ++ "=" ++ "x")
    exact .blank (by decide)
  refine ⟨ha, hb, hx, hd, ?_⟩
  obtain ⟨nodes, b, hrun, hext, hlines⟩ := hemits config .start Builder.isReady_start
  have henv : environmentLines config.env = environmentLines (["a=1=2"] ++ (["b"] ++ (["\u2003=x"] ++
      [" d\u00a0= y "]))) := rfl
  rw [happend, happend, happend, hdeclares _ _ _ ha, hnameless _ hb, hnameless _ hx, hdeclares _ _ _ hd] at henv
  refine ⟨nodes, b, hrun, hext, hlines.trans ?_⟩
  dsimp only
  rw [henv]
  rfl

end JobScript.Lifecycle
