import JobScript.Config.Load
import JobScript.Proofs.Files.Lookup
import Mathlib.Data.List.Basic
import Mathlib.Data.List.Infix

/-! # The nearest configuration file

The search goes up from a directory, so many directories at most, and looks into the root before it stops
there. What it finds is the file of the nearest directory that has one; it finds nothing just where none of
the directories within reach has one. A candidate whose path is too long to be looked up ends the search,
and makes it fail. -/

namespace JobScript.Config

open Files

/-- A directory of the same name is no file. -/
def HasFile (t : FileTree) (directory : Location) : Prop := ∃ f, t.fileAt (candidate directory) = .ok (some f)

/-- The candidate is looked up, and it is no file. -/
structure IsPassed (t : FileTree) (directory : Location) : Prop where
  noFile : ¬ HasFile t directory
  noFault : ¬ t.IsTooLong (candidate directory)

/-- The directory is the start itself or lies around it, fewer steps up than the depth. -/
structure IsWithin (depth : Nat) (start directory : Location) : Prop where
  around : directory <+: start
  near : start.length < directory.length + depth

/-- Of the directories within reach this is the first that the search does not pass. -/
structure IsNearest (t : FileTree) (depth : Nat) (start directory : Location) : Prop where
  within : IsWithin depth start directory
  holds : ¬ IsPassed t directory
  first : ∀ nearer, nearer <+: start → directory.length < nearer.length → IsPassed t nearer

variable {t : FileTree} {depth : Nat} {start directory other : Location} {path : Path}
variable {outcome outcome' : Except FileError (Option Path)}

section Lookup

lemma fileAt_of_isPassed (h : IsPassed t directory) : t.fileAt (candidate directory) = .ok none := by
  cases hlook : t.fileAt (candidate directory) with
  | error e => exact absurd (FileTree.fileAt_eq_error_iff.mp hlook).2 h.noFault
  | ok found =>
    cases found with
    | none => rfl
    | some f => exact absurd ⟨f, hlook⟩ h.noFile

lemma not_isPassed_of_isTooLong (h : t.IsTooLong (candidate directory)) : ¬ IsPassed t directory :=
  fun hpassed => hpassed.noFault h

lemma not_hasFile_of_isTooLong (h : t.IsTooLong (candidate directory)) : ¬ HasFile t directory := by
  rintro ⟨f, hfile⟩
  rw [FileTree.fileAt_eq_error_iff.mpr ⟨rfl, h⟩] at hfile
  cases hfile

/-- What is not passed ends the search, one way or the other. -/
lemma hasFile_or_isTooLong (h : ¬ IsPassed t directory) :
    HasFile t directory ∨ t.IsTooLong (candidate directory) := by
  by_contra hneither
  obtain ⟨hfile, hfault⟩ := not_or.mp hneither
  exact h ⟨hfile, hfault⟩

end Lookup

section Step

lemma findFrom_of_hasFile (h : HasFile t start) :
    findFrom t (depth + 1) start = .ok (some (candidate start)) := by
  obtain ⟨f, hfile⟩ := h
  rw [findFrom, hfile]

lemma findFrom_of_isTooLong (h : t.IsTooLong (candidate start)) :
    findFrom t (depth + 1) start = .error .nameTooLong := by
  rw [findFrom, FileTree.fileAt_eq_error_iff.mpr ⟨rfl, h⟩]

lemma findFrom_root (h : IsPassed t []) : findFrom t (depth + 1) [] = .ok none := by
  rw [findFrom, fileAt_of_isPassed h]
  rfl

lemma findFrom_above (h : IsPassed t start) (hne : start ≠ []) :
    findFrom t (depth + 1) start = findFrom t depth start.dropLast := by
  rw [findFrom, fileAt_of_isPassed h]
  exact if_neg (by simpa using hne)

end Step

section Within

lemma prefix_dropLast (h : other <+: start) (hne : other ≠ start) : other <+: start.dropLast := by
  obtain ⟨below, rfl⟩ := h
  have hbelow : below ≠ [] := by
    rintro rfl
    exact hne (List.append_nil other).symm
  rw [List.dropLast_append_of_ne_nil hbelow]
  exact List.prefix_append _ _

lemma IsWithin.self : IsWithin (depth + 1) start start := ⟨List.prefix_refl _, by omega⟩

lemma IsWithin.of_above (hne : start ≠ []) (h : IsWithin depth start.dropLast directory) :
    IsWithin (depth + 1) start directory := by
  have hpos := List.length_pos_of_ne_nil hne
  have hnear := h.near
  rw [List.length_dropLast] at hnear
  exact ⟨h.around.trans (List.dropLast_prefix _), by omega⟩

/-- One directory is the start, and all others are those within reach of the one above. -/
lemma IsWithin.above (h : IsWithin (depth + 1) start directory) (hne : directory ≠ start) :
    start ≠ [] ∧ IsWithin depth start.dropLast directory := by
  have hstart : start ≠ [] := by
    rintro rfl
    exact hne (List.prefix_nil.mp h.around)
  have hpos := List.length_pos_of_ne_nil hstart
  have hnear := h.near
  refine ⟨hstart, prefix_dropLast h.around hne, ?_⟩
  rw [List.length_dropLast]
  omega

lemma IsNearest.self (h : ¬ IsPassed t start) : IsNearest t (depth + 1) start start := by
  refine ⟨.self, h, fun nearer hnearer hlonger => ?_⟩
  exact absurd hnearer.length_le (not_le.mpr hlonger)

lemma IsNearest.of_above (h : IsNearest t depth start.dropLast directory) (hpassed : IsPassed t start)
    (hne : start ≠ []) : IsNearest t (depth + 1) start directory := by
  refine ⟨h.within.of_above hne, h.holds, fun nearer hnearer hlonger => ?_⟩
  by_cases heq : nearer = start
  · rw [heq]
    exact hpassed
  · exact h.first nearer (prefix_dropLast hnearer heq) hlonger

lemma IsNearest.length_le (h : IsNearest t depth start directory) (h' : IsNearest t depth start other) :
    other.length ≤ directory.length :=
  not_lt.mp fun hlt => h'.holds (h.first other h'.within.around hlt)

lemma IsNearest.unique (h : IsNearest t depth start directory) (h' : IsNearest t depth start other) :
    directory = other :=
  (List.prefix_of_prefix_length_le h.within.around h'.within.around (h'.length_le h)).eq_of_length
    (Nat.le_antisymm (h'.length_le h) (h.length_le h'))

end Within

/-- What a search comes to: the directory where it ends has a file or cannot be looked into, or there is none
where it ends. -/
inductive ComesTo (t : FileTree) (depth : Nat) (start : Location) : Except FileError (Option Path) → Prop
  | file {directory : Location} (h : IsNearest t depth start directory) (hfile : HasFile t directory) :
    ComesTo t depth start (.ok (some (candidate directory)))
  | nothing (h : ∀ directory, IsWithin depth start directory → IsPassed t directory) :
    ComesTo t depth start (.ok none)
  | fault {directory : Location} (h : IsNearest t depth start directory)
    (hfault : t.IsTooLong (candidate directory)) : ComesTo t depth start (.error .nameTooLong)

lemma ComesTo.of_above (h : ComesTo t depth start.dropLast outcome) (hpassed : IsPassed t start)
    (hne : start ≠ []) : ComesTo t (depth + 1) start outcome := by
  cases h with
  | file h hfile => exact .file (h.of_above hpassed hne) hfile
  | nothing h =>
    refine .nothing fun directory hwithin => ?_
    by_cases heq : directory = start
    · rw [heq]
      exact hpassed
    · exact h directory (hwithin.above heq).2
  | fault h hfault => exact .fault (h.of_above hpassed hne) hfault

/-- The induction is on the steps that are left, with one directory less to go up at each. -/
lemma comesTo_findFrom : ComesTo t depth start (findFrom t depth start) := by
  induction depth generalizing start with
  | zero =>
    refine .nothing fun directory hwithin => ?_
    exact absurd hwithin.around.length_le (not_le.mpr hwithin.near)
  | succ depth ih =>
    by_cases hpassed : IsPassed t start
    · by_cases hroot : start = []
      · subst hroot
        rw [findFrom_root hpassed]
        refine .nothing fun directory hwithin => ?_
        rw [List.prefix_nil.mp hwithin.around]
        exact hpassed
      · rw [findFrom_above hpassed hroot]
        exact ih.of_above hpassed hroot
    · rcases hasFile_or_isTooLong hpassed with hfile | hfault
      · rw [findFrom_of_hasFile hfile]
        exact .file (.self hpassed) hfile
      · rw [findFrom_of_isTooLong hfault]
        exact .fault (.self hpassed) hfault

lemma ComesTo.unique (h : ComesTo t depth start outcome) (h' : ComesTo t depth start outcome') :
    outcome = outcome' := by
  cases h with
  | file h hfile =>
    cases h' with
    | file h' _ => rw [h.unique h']
    | nothing hall => exact absurd (hall _ h.within) h.holds
    | fault h' hfault => exact absurd (h.unique h' ▸ hfile) (not_hasFile_of_isTooLong hfault)
  | nothing hall =>
    cases h' with
    | file h' _ => exact absurd (hall _ h'.within) h'.holds
    | nothing => rfl
    | fault h' _ => exact absurd (hall _ h'.within) h'.holds
  | fault h hfault =>
    cases h' with
    | file h' hfile => exact absurd (h'.unique h ▸ hfile) (not_hasFile_of_isTooLong hfault)
    | nothing hall => exact absurd (hall _ h.within) h.holds
    | fault => rfl

lemma findFrom_eq_iff : findFrom t depth start = outcome ↔ ComesTo t depth start outcome :=
  ⟨fun h => h ▸ comesTo_findFrom, fun h => comesTo_findFrom.unique h⟩

lemma find_eq_iff {start : Path} : find t start = outcome ↔
    (start.holdsZero = true ∧ outcome = .error .zeroInName) ∨
      (start.holdsZero = false ∧ ComesTo t searchDepth (t.resolve start) outcome) := by
  unfold find
  cases start.holdsZero with
  | true => simp [eq_comm]
  | false => simp [findFrom_eq_iff]

/-- The file that is found is that of the nearest directory that has one, among the start and the nineteen
directories around it, or as many as there are up to the root. Nothing is found just where none of these
has one. The search fails just where the path of a candidate is too long, and no directory nearer than that
one has a file, or where the start itself has no place. -/
theorem find_nearest (t : FileTree) (start : Path) :
    (∀ path, find t start = .ok (some path) ↔ start.holdsZero = false ∧ ∃ directory,
      IsNearest t 20 (t.resolve start) directory ∧ HasFile t directory ∧
        path = .ofPlace (directory ++ [".build.yml"])) ∧
    (find t start = .ok none ↔ start.holdsZero = false ∧
      ∀ directory, IsWithin 20 (t.resolve start) directory → IsPassed t directory) ∧
    ∀ e, find t start = .error e ↔ (start.holdsZero = true ∧ e = .zeroInName) ∨
      (start.holdsZero = false ∧ e = .nameTooLong ∧ ∃ directory,
        IsNearest t 20 (t.resolve start) directory ∧
          t.IsTooLong (.ofPlace (directory ++ [".build.yml"]))) := by
  refine ⟨fun path => ?_, ?_, fun e => ?_⟩
  · rw [find_eq_iff]
    constructor
    · rintro (⟨-, hwrong⟩ | ⟨hzero, hfound⟩)
      · cases hwrong
      · cases hfound with
        | file h hfile => exact ⟨hzero, _, h, hfile, rfl⟩
    · rintro ⟨hzero, directory, h, hfile, rfl⟩
      exact .inr ⟨hzero, .file h hfile⟩
  · rw [find_eq_iff]
    constructor
    · rintro (⟨-, hwrong⟩ | ⟨hzero, hnothing⟩)
      · cases hwrong
      · cases hnothing with
        | nothing h => exact ⟨hzero, h⟩
    · rintro ⟨hzero, h⟩
      exact .inr ⟨hzero, .nothing h⟩
  · rw [find_eq_iff]
    constructor
    · rintro (⟨hzero, hwrong⟩ | ⟨hzero, hfault⟩)
      · cases hwrong
        exact .inl ⟨hzero, rfl⟩
      · cases hfault with
        | fault h hfault => exact .inr ⟨hzero, rfl, _, h, hfault⟩
    · rintro (⟨hzero, rfl⟩ | ⟨hzero, rfl, directory, h, hfault⟩)
      · exact .inl ⟨hzero, rfl⟩
      · exact .inr ⟨hzero, .fault h hfault⟩

section Deep

def deepName : String := String.ofList (List.replicate 250 'd')

/-- All its names may be given to directories, but together they are more than a path can hold. -/
def deepPlace : Location := List.replicate 17 deepName

/-- Directories one in another, and no file. -/
def deepTree : FileTree := ⟨(upTo deepPlace).map fun place => (place, .directory), []⟩

lemma isDirectory_deepPlace : deepTree.isDirectory deepPlace = true := by
  have hmem : deepPlace ∈ upTo deepPlace := List.mem_map.mpr ⟨16, by decide, List.take_of_length_le (by decide)⟩
  have hfind : deepTree.find? deepPlace = some .directory := by
    rw [FileTree.find?, if_neg (by decide)]
    exact List.lookup_graph _ hmem
  exact FileTree.isDirectory_iff.mpr hfind

lemma not_hasFile_deepTree (directory : Location) : ¬ HasFile deepTree directory := by
  rintro ⟨f, hfile⟩
  obtain ⟨place, -, hplace⟩ := FileTree.fileAt_eq_some_iff.mp hfile
  rw [FileTree.find?] at hplace
  split at hplace
  · cases hplace
  · obtain ⟨_, _, hentries, -⟩ := List.lookup_eq_some_iff.mp hplace
    have hmem : (place, Entry.file f) ∈ deepTree.entries := by simp [hentries]
    obtain ⟨_, -, hentry⟩ := List.mem_map.mp hmem
    cases hentry

lemma utf8ByteSize_replicate (n : Nat) : (String.ofList (List.replicate n 'd')).utf8ByteSize = n := by
  induction n with
  | zero => rfl
  | succ n ih =>
    rw [List.replicate_succ, String.ofList_cons, String.utf8ByteSize_append, ih, Nat.add_comm]
    rfl

lemma not_mem_replicate (n : Nat) : '\x00' ∉ (String.ofList (List.replicate n 'd')).toList := by
  rw [String.toList_ofList]
  exact fun hmem => absurd (List.eq_of_mem_replicate hmem) (by decide)

lemma utf8ByteSize_deepName : deepName.utf8ByteSize = 250 := utf8ByteSize_replicate 250

lemma holdsZero_deepPlace : (Path.ofPlace deepPlace).holdsZero = false := by
  refine List.any_eq_false.mpr fun part hpart hzero => ?_
  have hmem := List.contains_iff_mem.mp hzero
  rw [List.eq_of_mem_replicate hpart] at hmem
  exact not_mem_replicate 250 hmem

lemma isTooLong_deepPlace : deepTree.IsTooLong (candidate deepPlace) := by
  have hzero : (candidate deepPlace).holdsZero = false := by
    change (deepPlace ++ [configFileName]).any _ = false
    rw [List.any_append]
    exact Bool.or_eq_false_iff.mpr ⟨holdsZero_deepPlace, by decide⟩
  have hbytes : Path.bytes (candidate deepPlace).parts = 17 * 250 + 10 := by
    rw [candidate, Path.ofPlace, deepPlace, Path.bytes_replicate_append, utf8ByteSize_deepName]
    rfl
  refine ⟨hzero, .inl (lt_of_lt_of_le ?_ (candidate deepPlace).bytes_le_toText)⟩
  rw [hbytes]
  decide

end Deep

/-- A directory may lie so deep that no candidate in it can be looked up: nothing is found then, nor is there
nothing to be found. -/
theorem find_fails_deep : deepTree.isDirectory deepPlace = true ∧
    (∀ directory, IsWithin 20 deepPlace directory → ¬ HasFile deepTree directory) ∧
    find deepTree (.ofPlace deepPlace) = .error .nameTooLong := by
  have hup : ".." ∉ deepPlace := fun hmem => by
    have hsize := congrArg String.utf8ByteSize (List.eq_of_mem_replicate hmem)
    rw [utf8ByteSize_deepName] at hsize
    cases hsize
  have hresolve : deepTree.resolve (.ofPlace deepPlace) = deepPlace := Path.resolve_ofPlace hup _
  have hnearest : IsNearest deepTree searchDepth deepPlace deepPlace :=
    .self (not_isPassed_of_isTooLong isTooLong_deepPlace)
  refine ⟨isDirectory_deepPlace, fun directory _ => not_hasFile_deepTree directory, ?_⟩
  refine find_eq_iff.mpr (.inr ⟨holdsZero_deepPlace, ?_⟩)
  rw [hresolve]
  exact .fault hnearest isTooLong_deepPlace

/-- The root is looked at from nineteen directories below it, and no more from twenty; a directory with the
name of the file is passed over. -/
example :
    let t : FileTree :=
      ⟨[(["a"], .directory), (["a", configFileName], .directory), ([configFileName], .file ⟨[], false⟩)], []⟩
    find t ⟨1, List.replicate 19 "a"⟩ = .ok (some (.ofPlace [configFileName])) ∧
    find t ⟨1, List.replicate 20 "a"⟩ = .ok none := by
  exact ⟨rfl, rfl⟩

end JobScript.Config
