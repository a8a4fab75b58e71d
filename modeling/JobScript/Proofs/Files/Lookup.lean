import JobScript.Proofs.Files.Writing
import Mathlib.Tactic.Ring

/-! # Looking files up

A path is looked up through the directories on its way. Where one of them is missing there is no file; the
lookup itself fails only for what is too long, the path as a whole or a name where there is a directory to
look for it. -/

namespace JobScript.Files

namespace FileTree

variable {t : FileTree} {p : Path} {base place : Location} {part : String} {before rest : List String}

/-- The way to a name that is too long goes through directories alone. -/
def MeetsLongName (t : FileTree) (base : Location) (parts : List String) : Prop :=
  ∃ before name after, parts = before ++ name :: after ∧ Path.longestName < name.utf8ByteSize ∧
    ∀ stop ∈ Path.stopsFrom base before, t.isDirectory stop = true

/-- The path is longer than any that is followed, or a name on it is longer than any in a directory. -/
structure IsTooLong (t : FileTree) (p : Path) : Prop where
  named : p.holdsZero = false
  long : Path.longestPath < p.toText.utf8ByteSize ∨
    t.MeetsLongName (p.origin t.workingDirectory) p.parts

lemma not_meetsLongName_nil : ¬ t.MeetsLongName base [] := by
  rintro ⟨before, name, after, hparts, -⟩
  cases before <;> cases hparts

lemma meetsLongName_cons : t.MeetsLongName base (part :: rest) ↔ t.isDirectory base = true ∧
    (Path.longestName < part.utf8ByteSize ∨ t.MeetsLongName (Path.climb base part) rest) := by
  constructor
  · rintro ⟨before, name, after, hparts, hname, hway⟩
    cases before with
    | nil =>
      cases hparts
      exact ⟨hway base (List.mem_singleton_self base), .inl hname⟩
    | cons first before =>
      cases hparts
      rw [Path.stopsFrom, List.forall_mem_cons] at hway
      exact ⟨hway.1, .inr ⟨before, name, after, rfl, hname, hway.2⟩⟩
  · rintro ⟨hbase, hpart | ⟨before, name, after, rfl, hname, hway⟩⟩
    · exact ⟨[], part, rest, rfl, hpart, by simpa [Path.stopsFrom] using hbase⟩
    · refine ⟨part :: before, name, after, rfl, hname, ?_⟩
      rw [Path.stopsFrom, List.forall_mem_cons]
      exact ⟨hbase, hway⟩

lemma follow_eq_nameTooLong_iff {parts : List String} :
    t.follow base parts = .error .nameTooLong ↔ t.MeetsLongName base parts := by
  induction parts generalizing base with
  | nil => exact iff_of_false (by simp [follow]) not_meetsLongName_nil
  | cons part rest ih =>
    rw [meetsLongName_cons, ← ih, isDirectory_iff, follow]
    cases t.find? base with
    | none => simp
    | some e =>
      cases e with
      | file f => simp
      | directory =>
        by_cases hpart : Path.longestName < part.utf8ByteSize <;> simp [hpart]

lemma placeOf_eq_nameTooLong_iff : t.placeOf p = .error .nameTooLong ↔ t.IsTooLong p := by
  unfold placeOf
  cases hzero : p.holdsZero with
  | true => exact iff_of_false (by simp) fun h => absurd (hzero.symm.trans h.named) (by decide)
  | false =>
    rw [if_neg Bool.false_ne_true]
    split
    · next hlong => exact iff_of_true rfl ⟨hzero, .inl hlong⟩
    · next hshort =>
      rw [follow_eq_nameTooLong_iff]
      exact ⟨fun h => ⟨hzero, .inr h⟩, fun h => h.long.resolve_left hshort⟩

/-- Of all faults of a path only its length is more than that there is no file. -/
theorem fileAt_eq_error_iff {e : FileError} :
    t.fileAt p = .error e ↔ e = .nameTooLong ∧ t.IsTooLong p := by
  rw [← placeOf_eq_nameTooLong_iff, fileAt]
  cases t.placeOf p with
  | ok place =>
    dsimp only
    split <;> simp
  | error fault => cases fault <;> simp [eq_comm]

theorem fileAt_eq_some_iff {f : File} :
    t.fileAt p = .ok (some f) ↔ ∃ place, t.placeOf p = .ok place ∧ t.find? place = some (.file f) := by
  rw [fileAt]
  cases t.placeOf p with
  | ok place =>
    dsimp only
    split
    · next found hfound => simp [hfound]
    · next hno => simpa using hno f
  | error fault => cases fault <;> simp

end FileTree

namespace Path

variable {place : Location}

lemma foldl_climb (h : ".." ∉ place) (base : Location) : place.foldl climb base = base ++ place := by
  induction place generalizing base with
  | nil => exact (List.append_nil base).symm
  | cons part rest ih =>
    obtain ⟨hpart, hrest⟩ := not_or.mp (mt List.mem_cons.mpr h)
    rw [List.foldl_cons, ih hrest, climb, if_neg (Ne.symm hpart), List.append_assoc, List.singleton_append]

/-- The words of a place lead to it where no step goes up. -/
lemma resolve_ofPlace (h : ".." ∉ place) (base : Location) : (ofPlace place).resolve base = place :=
  (foldl_climb h []).trans (List.nil_append place)

/-- The bytes of some parts, without those that go between them. -/
def bytes : List String → Nat
  | [] => 0
  | part :: rest => part.utf8ByteSize + bytes rest

lemma bytes_replicate_append (n : Nat) (part : String) (rest : List String) :
    bytes (List.replicate n part ++ rest) = n * part.utf8ByteSize + bytes rest := by
  induction n with
  | zero => simp
  | succ n ih =>
    rw [List.replicate_succ, List.cons_append, bytes, ih]
    ring

lemma bytes_le_intercalate (parts : List String) :
    bytes parts ≤ (String.intercalate "/" parts).utf8ByteSize := by
  induction parts with
  | nil => exact Nat.zero_le _
  | cons part rest ih =>
    cases rest with
    | nil => simp [bytes]
    | cons next rest =>
      rw [String.intercalate_cons_cons, String.utf8ByteSize_append, String.utf8ByteSize_append, bytes]
      omega

/-- A path is as long as its parts at least. -/
lemma bytes_le_toText (p : Path) : bytes p.parts ≤ p.toText.utf8ByteSize := by
  have hparts := bytes_le_intercalate p.parts
  rw [toText]
  split
  · next hempty =>
    have hsize := congrArg String.utf8ByteSize hempty
    rw [String.utf8ByteSize_append, String.utf8ByteSize_empty] at hsize
    omega
  · rw [String.utf8ByteSize_append]
    omega

end Path

end JobScript.Files
