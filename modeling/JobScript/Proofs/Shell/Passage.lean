import JobScript.Proofs.Shell.Advance
import JobScript.Proofs.Shell.Piece
import Mathlib.Logic.Function.Basic

/-! # Where the lines of a script come from

What a whole builder holds falls into passages: the lines of one directive under its number, a line
that was put straight into a block, or one that frames a block. -/

namespace JobScript.Shell

inductive Source
  | directive (d : Directive) (timer : Nat)
  | line (text : String)
  | frame (text : String)
deriving DecidableEq, Repr

def Source.pieces : Source → List Piece
  | .directive d timer => d.pieces timer
  | .line text => [.plain text]
  | .frame text => [.plain text]

/-- A source is one of the inputs, or the frame of a block. -/
def Source.IsFrom (inputs : List Input) : Source → Prop
  | .directive d _ => .directive d ∈ inputs
  | .line text => .line text ∈ inputs
  | .frame text => IsStructural text

/-- The lines of one source, which follow each other in one block, inside so many branches. No branch
begins or ends between them. -/
structure Passage where
  depth : Nat
  source : Source
deriving DecidableEq, Repr

namespace Passage

def lines (p : Passage) : List String := (p.source.pieces.map Piece.text).map (indentedBy p.depth)

def directive? (p : Passage) : Option (Directive × Nat) :=
  match p.source with
  | .directive d timer => some (d, timer)
  | _ => none

def deeper (p : Passage) : Passage := { p with depth := p.depth + 1 }

def frame (text : String) : Passage := ⟨0, .frame text⟩

/-- A passage has lines, and it is clear where from. -/
structure Fits (inputs : List Input) (p : Passage) : Prop where
  ne : p.lines ≠ []
  isFrom : p.source.IsFrom inputs

lemma lines_directive (d : Directive) (timer : Nat) :
    lines ⟨0, .directive d timer⟩ = d.render timer := by
  show ((d.pieces timer).map Piece.text).map (indentedBy 0) = _
  rw [d.text_pieces, indentedBy_zero, List.map_id]

lemma lines_line (text : String) : lines ⟨0, .line text⟩ = [text] := by
  show [indentedBy 0 text] = _
  rw [indentedBy_zero]
  rfl

@[simp] lemma lines_frame (text : String) : (frame text).lines = [text] := lines_line text

lemma lines_deeper (p : Passage) : p.deeper.lines = p.lines.map (indentedBy 1) := by
  have hdepth : ∀ line, indentedBy (p.depth + 1) line = indentedBy 1 (indentedBy p.depth line) := by
    intro line
    rw [indentedBy_indentedBy, Nat.add_comm]
  show (p.source.pieces.map Piece.text).map (indentedBy (p.depth + 1)) =
    ((p.source.pieces.map Piece.text).map (indentedBy p.depth)).map (indentedBy 1)
  generalize p.source.pieces.map Piece.text = texts
  rw [List.map_map]
  exact List.map_congr_left fun line _ => hdepth line

variable {inputs inputs' : List Input} {p : Passage}

@[simp] lemma fits_deeper_iff : p.deeper.Fits inputs ↔ p.Fits inputs := by
  have hne : p.deeper.lines ≠ [] ↔ p.lines ≠ [] := by
    rw [lines_deeper, Ne, List.map_eq_nil_iff]
  exact ⟨fun h => ⟨hne.mp h.ne, h.isFrom⟩, fun h => ⟨hne.mpr h.ne, h.isFrom⟩⟩

lemma Fits.mono (h : p.Fits inputs) (hsub : inputs ⊆ inputs') : p.Fits inputs' := by
  refine ⟨h.ne, ?_⟩
  have hfrom := h.isFrom
  cases hsource : p.source with
  | directive d timer =>
    rw [hsource] at hfrom
    exact hsub hfrom
  | line text =>
    rw [hsource] at hfrom
    exact hsub hfrom
  | frame text =>
    rw [hsource] at hfrom
    exact hfrom

lemma fits_frame {text : String} (h : IsStructural text) : (frame text).Fits inputs :=
  ⟨by rw [lines_frame]; exact List.cons_ne_nil _ _, h⟩

lemma fits_if (test : String) : (frame ("if " ++ test ++ "; then")).Fits inputs :=
  fits_frame (.inl ⟨test, rfl⟩)

lemma fits_else : (frame "else").Fits inputs := fits_frame (.inr (.inl rfl))

lemma fits_fi : (frame "fi").Fits inputs := fits_frame (.inr (.inr (.inl rfl)))

lemma fits_filler : (frame ":").Fits inputs := fits_frame (.inr (.inr (.inr (.inl rfl))))

end Passage

def linesOf (ps : List Passage) : List String := ps.flatMap Passage.lines

@[simp] lemma linesOf_nil : linesOf [] = [] := rfl

@[simp] lemma linesOf_cons (p : Passage) (ps : List Passage) :
    linesOf (p :: ps) = p.lines ++ linesOf ps := List.flatMap_cons

@[simp] lemma linesOf_append (ps qs : List Passage) : linesOf (ps ++ qs) = linesOf ps ++ linesOf qs :=
  List.flatMap_append

def directivesOf (ps : List Passage) : List (Directive × Nat) := ps.filterMap Passage.directive?

@[simp] lemma directivesOf_nil : directivesOf [] = [] := rfl

@[simp] lemma directivesOf_frame (text : String) (ps : List Passage) :
    directivesOf (.frame text :: ps) = directivesOf ps := rfl

@[simp] lemma directivesOf_append (ps qs : List Passage) :
    directivesOf (ps ++ qs) = directivesOf ps ++ directivesOf qs := List.filterMap_append

/-- The passages of a branch. Without any it does nothing. -/
def branchPassages (ps : List Passage) : List Passage :=
  if ps = [] then [(Passage.frame ":").deeper] else ps.map Passage.deeper

section Branch
variable {inputs : List Input} {ps : List Passage}

lemma linesOf_branchPassages (h : ∀ p ∈ ps, p.Fits inputs) :
    linesOf (branchPassages ps) = branchLines (linesOf ps) := by
  rw [branchLines_eq, Program.branchText]
  unfold branchPassages
  cases ps with
  | nil => rfl
  | cons p rest =>
    have hne : linesOf (p :: rest) ≠ [] := by
      rw [linesOf_cons]
      exact fun hnil => (h p (List.mem_cons_self ..)).ne (List.append_eq_nil_iff.mp hnil).1
    rw [if_neg (List.cons_ne_nil _ _), if_neg hne, linesOf, List.flatMap_map, linesOf, List.map_flatMap]
    exact List.flatMap_congr fun p _ => p.lines_deeper

@[simp] lemma directivesOf_branchPassages (ps : List Passage) :
    directivesOf (branchPassages ps) = directivesOf ps := by
  unfold branchPassages
  split
  · next h =>
    rw [h]
    rfl
  · rw [directivesOf, List.filterMap_map]
    rfl

lemma fits_branchPassages_iff :
    (∀ p ∈ branchPassages ps, p.Fits inputs) ↔ ∀ p ∈ ps, p.Fits inputs := by
  unfold branchPassages
  split
  · next h =>
    rw [h]
    simp [Passage.fits_filler]
  · simp

end Branch

/-- What stands for some nodes of a block: the lines of a passage, or one conditional. -/
inductive Part
  | passage (p : Passage)
  | branch (test : String) (body : List Passage) (alternative : Option (List Passage)) (opened : Bool)

namespace Part

def alternativePassages : Option (List Passage) → List Passage
  | some ps => [.frame "else"] ++ branchPassages ps
  | none => []

def passages : Part → List Passage
  | .passage p => [p]
  | .branch test body alternative _ =>
    [.frame ("if " ++ test ++ "; then")] ++ branchPassages body ++ alternativePassages alternative ++
      [.frame "fi"]

def nodes : Part → List Node
  | .passage p => p.lines.map .line
  | .branch test body alternative opened =>
    [.conditional ⟨test, linesOf body, alternative.map linesOf, opened⟩]

variable {inputs : List Input} {part : Part}

lemma fits_branch_iff {test : String} {body : List Passage} {alternative : Option (List Passage)}
    {opened : Bool} : (∀ p ∈ (branch test body alternative opened).passages, p.Fits inputs) ↔
      (∀ p ∈ body, p.Fits inputs) ∧ ∀ p ∈ alternative.getD [], p.Fits inputs := by
  have halternative : (∀ p ∈ alternativePassages alternative, p.Fits inputs) ↔
      ∀ p ∈ alternative.getD [], p.Fits inputs := by
    cases alternative with
    | none => rfl
    | some ps =>
      simp only [alternativePassages, List.forall_mem_append, List.forall_mem_singleton,
        fits_branchPassages_iff, Passage.fits_else, true_and, Option.getD_some]
  simp only [passages, List.forall_mem_append, List.forall_mem_singleton, fits_branchPassages_iff,
    halternative, Passage.fits_if, Passage.fits_fi, true_and, and_true]

/-- A part comes out as the lines of its passages. -/
lemma flatMap_render_nodes (h : ∀ p ∈ part.passages, p.Fits inputs) :
    part.nodes.flatMap Node.render = linesOf part.passages := by
  cases part with
  | passage p => simp [nodes, passages, flatMap_render_line]
  | branch test body alternative opened =>
    obtain ⟨hbody, halternative⟩ := fits_branch_iff.mp h
    cases alternative with
    | none =>
      simp [nodes, passages, alternativePassages, Node.render, Conditional.render,
        linesOf_branchPassages hbody]
    | some ps =>
      simp [nodes, passages, alternativePassages, Node.render, Conditional.render,
        linesOf_branchPassages hbody, @linesOf_branchPassages inputs ps halternative]

lemma nodes_ne_nil (h : ∀ p ∈ part.passages, p.Fits inputs) : part.nodes ≠ [] := by
  cases part with
  | passage p => simpa [nodes] using (h p (List.mem_singleton.mpr rfl)).ne
  | branch test body alternative opened => exact List.cons_ne_nil _ _

end Part

section Parts
variable {inputs : List Input} {parts : List Part}

def passagesOf (parts : List Part) : List Passage := parts.flatMap Part.passages

def directivesIn (parts : List Part) : List (Directive × Nat) := directivesOf (passagesOf parts)

@[simp] lemma passagesOf_append (parts parts' : List Part) :
    passagesOf (parts ++ parts') = passagesOf parts ++ passagesOf parts' := List.flatMap_append

@[simp] lemma passagesOf_cons (part : Part) (parts : List Part) :
    passagesOf (part :: parts) = part.passages ++ passagesOf parts := List.flatMap_cons

@[simp] lemma directivesIn_nil : directivesIn [] = [] := rfl

@[simp] lemma directivesIn_append (parts parts' : List Part) :
    directivesIn (parts ++ parts') = directivesIn parts ++ directivesIn parts' := by
  simp [directivesIn]

@[simp] lemma directivesIn_line (text : String) (parts : List Part) :
    directivesIn (.passage ⟨0, .line text⟩ :: parts) = directivesIn parts := rfl

@[simp] lemma directivesIn_branch (test : String) (body : List Passage)
    (alternative : Option (List Passage)) (opened : Bool) (parts : List Part) :
    directivesIn (.branch test body alternative opened :: parts) =
      directivesOf body ++ directivesOf (alternative.getD []) ++ directivesIn parts := by
  cases alternative <;> simp [directivesIn, Part.passages, Part.alternativePassages]

/-- Passages that stand for themselves. -/
lemma passagesOf_map_passage (ps : List Passage) : passagesOf (ps.map .passage) = ps := by
  induction ps with
  | nil => rfl
  | cons p rest ih => exact congrArg (p :: ·) ih

lemma nodes_map_passage (ps : List Passage) :
    (ps.map Part.passage).flatMap Part.nodes = (linesOf ps).map .line := by
  rw [List.flatMap_map, linesOf, List.map_flatMap]
  rfl

/-- The passages of a block that is left as a fold, between its markers. -/
def foldParts (name : String) (ps : List Passage) : List Part :=
  .passage (.frame (foldBegin name)) :: ps.map .passage ++ [.passage (.frame (foldEnd name))]

lemma nodes_foldParts (name : String) (ps : List Passage) : (foldParts name ps).flatMap Part.nodes =
    ([foldBegin name] ++ linesOf ps ++ [foldEnd name]).map .line := by
  simp [foldParts, nodes_map_passage, Part.nodes]

lemma passagesOf_foldParts (name : String) (ps : List Passage) : passagesOf (foldParts name ps) =
    .frame (foldBegin name) :: ps ++ [.frame (foldEnd name)] := by
  rw [foldParts, passagesOf_append, passagesOf_cons, passagesOf_map_passage]
  rfl

lemma directivesIn_foldParts (name : String) (ps : List Passage) :
    directivesIn (foldParts name ps) = directivesOf ps := by
  rw [directivesIn, passagesOf_foldParts, directivesOf_append, directivesOf_frame, directivesOf_frame,
    directivesOf_nil, List.append_nil]

lemma fits_foldParts_iff {name : String} {ps : List Passage} :
    (∀ p ∈ passagesOf (foldParts name ps), p.Fits inputs) ↔ ∀ p ∈ ps, p.Fits inputs := by
  have hbegin : (Passage.frame (foldBegin name)).Fits inputs :=
    Passage.fits_frame (.inr (.inr (.inr (.inr ⟨name, .inl rfl⟩))))
  have hend : (Passage.frame (foldEnd name)).Fits inputs :=
    Passage.fits_frame (.inr (.inr (.inr (.inr ⟨name, .inr rfl⟩))))
  rw [passagesOf_foldParts, List.forall_mem_append, List.forall_mem_cons, List.forall_mem_singleton]
  exact ⟨fun h => h.1.2, fun h => ⟨⟨hbegin, h⟩, hend⟩⟩

lemma flatMap_render_parts (h : ∀ p ∈ passagesOf parts, p.Fits inputs) :
    (parts.flatMap Part.nodes).flatMap Node.render = linesOf (passagesOf parts) := by
  rw [List.flatMap_assoc, passagesOf, linesOf, List.flatMap_assoc]
  exact List.flatMap_congr fun part hpart => Part.flatMap_render_nodes fun p hp =>
    h p (List.mem_flatMap.mpr ⟨part, hpart, hp⟩)

lemma parts_eq_nil (h : ∀ p ∈ passagesOf parts, p.Fits inputs) (hnil : parts.flatMap Part.nodes = []) :
    parts = [] := by
  cases parts with
  | nil => rfl
  | cons part rest =>
    have hne : part.nodes ≠ [] := Part.nodes_ne_nil fun p hp =>
      h p (List.mem_flatMap.mpr ⟨part, List.mem_cons_self .., hp⟩)
    exact absurd (List.flatMap_eq_nil_iff.mp hnil part (List.mem_cons_self ..)) hne

/-- A conditional at the end of some nodes is the last of their parts. -/
lemma exists_branch_of_getLast {c : Conditional} (h : ∀ p ∈ passagesOf parts, p.Fits inputs)
    (hlast : (parts.flatMap Part.nodes).getLast? = some (.conditional c)) :
    ∃ before test body alternative opened, parts = before ++ [.branch test body alternative opened] ∧
      c = ⟨test, linesOf body, alternative.map linesOf, opened⟩ := by
  rcases List.eq_nil_or_concat' parts with rfl | ⟨before, part, rfl⟩
  · cases hlast
  · rw [List.flatMap_append, List.flatMap_singleton] at hlast
    have hne : part.nodes ≠ [] := Part.nodes_ne_nil fun p hp => h p (by simp [hp])
    rw [List.getLast?_append_of_ne_nil _ hne] at hlast
    cases part with
    | passage p =>
      obtain ⟨line, -, hline⟩ := List.mem_map.mp (List.mem_of_getLast? hlast)
      cases hline
    | branch test body alternative opened =>
      refine ⟨before, test, body, alternative, opened, rfl, ?_⟩
      cases hlast
      rfl

end Parts

end JobScript.Shell
