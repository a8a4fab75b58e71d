import JobScript.Proofs.Shell.Call
import JobScript.Request

/-! # Failures of loading

A configuration that cannot be loaded is reported as the result of the request. Three faults of its
file are not: a path that is too long, bytes that are no text, and a scalar or a depth that makes the
reading of the document fail other than by its form. Nor is a search for the file that fails. -/

namespace JobScript

open Files Log Shell

namespace Config

/-- What a file makes escape. -/
inductive Escapes (t : FileTree) (path : Path) : Escape → Prop
  | file {e : FileError} (h : t.fileAt path = .error e) : Escapes t path (.file e)
  | undecodable {f : File} (h : t.fileAt path = .ok (some f)) (htext : decode? f.content = none) :
    Escapes t path .undecodable
  | document {f : File} {text : String} {e : Yaml.YamlError} (h : t.fileAt path = .ok (some f))
    (htext : decode? f.content = some text) (hread : Yaml.read text = .error e) (hform : e ≠ .malformed) :
    Escapes t path (.document e)

variable {t : FileTree} {path : Path} {path? : Option Path} {overrides : Overrides}

/-- What reading the data of a file comes to, but for what is noted. -/
def dataAt (t : FileTree) (path : Path) : Except LoadError Value.Entries :=
  match t.fileAt path with
  | .error e => .error (.escape (.file e))
  | .ok none => .error (.config (.notFound path.toText))
  | .ok (some f) => readText path.toText f.content

lemma readData_fst (t : FileTree) (path : Path) (records : List Record) :
    (readData t path records).1 = dataAt t path := by
  unfold readData dataAt
  cases t.fileAt path with
  | error e => rfl
  | ok found =>
    cases found with
    | none => rfl
    | some f =>
      dsimp only
      cases readText path.toText f.content <;> rfl

lemma buildNoted_fst (entries : Value.Entries) (overrides : Overrides) (records : List Record) :
    (buildNoted entries overrides records).1 = (build entries overrides).mapError .config := by
  unfold buildNoted
  cases build entries overrides <;> rfl

/-- The data of the file that is taken goes into the configuration. -/
lemma load_of_path {p : Path} (h : locate t path? = .ok (some p)) :
    (load t path? overrides).execute.1 =
      dataAt t p >>= fun entries => (build entries overrides).mapError .config := by
  show (load t path? overrides []).1 = _
  have hdata := readData_fst t p []
  unfold load
  rw [h]
  dsimp only
  cases hread : readData t p [] with
  | mk outcome records =>
    rw [hread] at hdata
    rw [← hdata]
    cases outcome with
    | error e =>
      rw [bind_of_error hread]
      rfl
    | ok entries =>
      rw [bind_of_ok hread]
      exact buildNoted_fst ..

lemma load_of_none (h : locate t path? = .ok none) :
    (load t path? overrides).execute.1 =
      if overrides? overrides "language" then (build [] overrides).mapError .config
      else .error (.config .noFile) := by
  show (load t path? overrides []).1 = _
  unfold load
  rw [h]
  dsimp only
  split
  · exact buildNoted_fst ..
  · rfl

/-- A search that fails ends the loading. -/
lemma load_of_fault {fault : FileError} (h : locate t path? = .error fault) :
    (load t path? overrides).execute.1 = .error (.escape (.file fault)) := by
  show (load t path? overrides []).1 = _
  unfold load
  rw [h]
  rfl

lemma mapError_config_ne_escape {α : Type} (x : Except ConfigError α) (e : Escape) :
    x.mapError LoadError.config ≠ .error (.escape e) := by
  cases x <;> exact fun h => by cases h

lemma entriesOf_ne_escape (path : String) (v : Value) (e : Escape) :
    entriesOf path v ≠ .error (.escape e) := by
  unfold entriesOf
  split <;> simp

/-- Of the faults of a document only that of its form is explained. -/
lemma documentError_eq_escape_iff {path : String} {fault : Yaml.YamlError} {e : Escape} :
    documentError path fault = .escape e ↔ fault ≠ .malformed ∧ e = .document fault := by
  cases fault <;> simp [documentError, eq_comm]

lemma readText_eq_escape_iff {path : String} {content : List UInt8} {e : Escape} :
    readText path content = .error (.escape e) ↔
      (decode? content = none ∧ e = .undecodable) ∨
      ∃ text fault, decode? content = some text ∧ Yaml.read text = .error fault ∧ fault ≠ .malformed ∧
        e = .document fault := by
  unfold readText
  cases htext : decode? content with
  | none => simp [eq_comm]
  | some text =>
    cases hread : Yaml.read text with
    | error fault => simp [hread, documentError_eq_escape_iff]
    | ok v => simp [hread, entriesOf_ne_escape]

lemma dataAt_eq_escape_iff {e : Escape} : dataAt t path = .error (.escape e) ↔ Escapes t path e := by
  unfold dataAt
  constructor
  · intro h
    cases hfile : t.fileAt path with
    | error fault =>
      rw [hfile] at h
      cases h
      exact .file hfile
    | ok found =>
      cases found with
      | none =>
        rw [hfile] at h
        cases h
      | some f =>
        rw [hfile] at h
        rcases readText_eq_escape_iff.mp h with ⟨htext, rfl⟩ | ⟨text, fault, htext, hread, hform, rfl⟩
        · exact .undecodable hfile htext
        · exact .document hfile htext hread hform
  · rintro (hfile | ⟨hfile, htext⟩ | ⟨hfile, htext, hread, hform⟩)
    · rw [hfile]
    · rw [hfile]
      exact readText_eq_escape_iff.mpr (.inl ⟨htext, rfl⟩)
    · rw [hfile]
      exact readText_eq_escape_iff.mpr (.inr ⟨_, _, htext, hread, hform, rfl⟩)

lemma load_of_path_eq_escape_iff {e : Escape} (h : locate t path? = .ok (some path)) :
    (load t path? overrides).execute.1 = .error (.escape e) ↔ Escapes t path e := by
  rw [load_of_path h, ← dataAt_eq_escape_iff]
  cases hdata : dataAt t path with
  | error fault => exact ⟨fun h => by cases h; rfl, fun h => by cases h; rfl⟩
  | ok entries => exact iff_of_false (mapError_config_ne_escape _ e) (by simp)

lemma load_eq_escape_iff {e : Escape} : (load t path? overrides).execute.1 = .error (.escape e) ↔
    (∃ path, locate t path? = .ok (some path) ∧ Escapes t path e) ∨
      ∃ fault, locate t path? = .error fault ∧ e = .file fault := by
  cases hlocate : locate t path? with
  | error fault =>
    rw [load_of_fault hlocate]
    simp [eq_comm]
  | ok found =>
    cases found with
    | none =>
      rw [load_of_none hlocate]
      refine iff_of_false (fun h => ?_) (by simp)
      split at h
      · exact mapError_config_ne_escape _ e h
      · cases h
    | some path =>
      rw [load_of_path_eq_escape_iff hlocate]
      simp

end Config

lemma Log.Noted.ofResult_apply {ε α : Type} (result : Except ε α) (records noted : List Record) :
    Noted.ofResult result records noted = (result, noted ++ records) := by
  cases result <;> rfl

namespace Request

variable {s : Source}

/-- What is reported of the loading is the result; else the registry is asked. -/
lemma resolve_fst (s : Source) : (resolve s).execute.1 =
    (capture (Config.load s.tree s.path s.overrides).execute.1).map fun
      | .error refusal => .error refusal
      | .ok config => ((s.registry.1.get (some config.language)).map (Resolved.mk config)).mapError
          Refusal.language := by
  have hresult := Noted.ofResult_apply (capture (Config.load s.tree s.path s.overrides).execute.1)
    (Config.load s.tree s.path s.overrides).execute.2 []
  show (resolve s []).1 = _
  unfold resolve
  dsimp only
  cases hcapture : capture (Config.load s.tree s.path s.overrides).execute.1 with
  | error e =>
    rw [hcapture] at hresult
    rw [bind_of_error hresult]
    rfl
  | ok loaded =>
    rw [hcapture] at hresult
    rw [bind_of_ok hresult]
    cases loaded with
    | error refusal => rfl
    | ok config =>
      rw [Except.map]
      dsimp only
      cases s.registry.1.get (some config.language) <;> rfl

lemma compile_of_refused {refusal : Refusal} (h : (resolve s).execute.1 = .ok (.error refusal)) :
    (compile s).execute.1 = .ok (.error refusal) := by
  replace h : (resolve s []).1 = .ok (.error refusal) := h
  show (compile s []).1 = _
  rw [compile, bind_of_fst_ok h]
  rfl

lemma compile_of_escape {e : Escape} (h : (resolve s).execute.1 = .error e) :
    (compile s).execute.1 = .error e := by
  replace h : (resolve s []).1 = .error e := h
  show (compile s []).1 = _
  rw [compile, bind_of_fst_error h]

end Request

namespace Config

/-- Loading fails with a fault of the configuration, which a request then has for its result, or with
one of the three that its file makes escape, or, where no path is given, with that of the search for it;
these leave the request without a result. -/
theorem load_reported_unless_escapes (t : FileTree) (path? : Option Path) (overrides : Overrides)
    (registry : Registry × List Record) :
    (∀ e, (load t path? overrides).execute.1 = .error (.escape e) ↔
      (∃ path, locate t path? = .ok (some path) ∧ Escapes t path e) ∨
        ∃ fault, locate t path? = .error fault ∧ e = .file fault) ∧
    (∀ e, (load t path? overrides).execute.1 = .error (.config e) →
      (Request.resolve ⟨t, path?, overrides, registry⟩).execute.1 = .ok (.error (.config e)) ∧
      (Request.compile ⟨t, path?, overrides, registry⟩).execute.1 = .ok (.error (.config e))) ∧
    ∀ e, (load t path? overrides).execute.1 = .error (.escape e) →
      (Request.resolve ⟨t, path?, overrides, registry⟩).execute.1 = .error e ∧
      (Request.compile ⟨t, path?, overrides, registry⟩).execute.1 = .error e := by
  have hresolve := Request.resolve_fst ⟨t, path?, overrides, registry⟩
  refine ⟨fun e => load_eq_escape_iff, fun e h => ?_, fun e h => ?_⟩
  · rw [h] at hresolve
    exact ⟨hresolve, Request.compile_of_refused hresolve⟩
  · rw [h] at hresolve
    exact ⟨hresolve, Request.compile_of_escape hresolve⟩

/-- A file that is missing is a fault of the configuration. -/
theorem load_reported_missing :
    let t : FileTree := ⟨[], []⟩
    (load t (some ⟨0, ["a"]⟩) []).execute.1 = .error (.config (.notFound "a")) ∧
    (Request.compile ⟨t, some ⟨0, ["a"]⟩, [], Registry.standard⟩).execute.1 =
      .ok (.error (.config (.notFound "a"))) := by
  intro t
  have hload : (load t (some ⟨0, ["a"]⟩) []).execute.1 = .error (.config (.notFound "a")) := rfl
  obtain ⟨-, hconfig, -⟩ := load_reported_unless_escapes t (some ⟨0, ["a"]⟩) [] Registry.standard
  exact ⟨hload, (hconfig _ hload).2⟩

def faultOf {ε α : Type} : Except ε α → Option ε
  | .error e => some e
  | .ok _ => none

lemma eq_error_of_faultOf {ε α : Type} {x : Except ε α} {e : ε} (h : faultOf x = some e) : x = .error e := by
  cases x with
  | error e' =>
    cases h
    rfl
  | ok a => cases h

/-- The directory holds a configuration file and nothing else. -/
def holding (content : List UInt8) : FileTree := ⟨[([configFileName], .file ⟨content, false⟩)], []⟩

/-- A month that does not exist is no fault of the configuration, nor is a byte that opens no character. -/
theorem load_escapes_month_and_byte :
    (load (holding (Text.encodeUtf8 "a: 2020-13-01")) (some ⟨0, [configFileName]⟩) []).execute.1 =
      .error (.escape (.document (.calendar .month))) ∧
    (load (holding [0xff]) (some ⟨0, [configFileName]⟩) []).execute.1 = .error (.escape .undecodable) := by
  have hread : Yaml.read "a: 2020-13-01" = .error (.calendar .month) :=
    eq_error_of_faultOf (by decide +kernel)
  have htext : decode? (Text.encodeUtf8 "a: 2020-13-01") = some "a: 2020-13-01" := by decide +kernel
  exact ⟨load_eq_escape_iff.mpr (.inl ⟨_, rfl, .document rfl htext hread (by simp)⟩), rfl⟩

end Config

end JobScript
