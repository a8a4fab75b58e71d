import JobScript.Json
import JobScript.Number.Integer
import JobScript.Proofs.Text.ControlSequence
import JobScript.Proofs.Text.Units
import Mathlib.Data.List.DropRight

/-! # Reading JSON

A reader for documents without numbers. It takes blanks between the parts as they come, every escape that
JSON has, and characters outside ASCII. What was written as a document is read back as that document. -/

namespace JobScript.Json

open Text

def isSpace (c : Char) : Bool := c == ' ' || c == '\n' || c == '\r' || c == '\t'

def skipSpaces (cs : List Char) : List Char := cs.dropWhile isSpace

def hexValue? (c : Char) : Option Nat :=
  if '0' ≤ c ∧ c ≤ '9' then some (c.toNat - '0'.toNat)
  else if 'a' ≤ c.toLower ∧ c.toLower ≤ 'f' then some (c.toLower.toNat - 'a'.toNat + 10)
  else none

def shortEscapes : List (Char × Char) :=
  [('"', '"'), ('\\', '\\'), ('/', '/'), ('b', '\x08'), ('f', '\x0c'), ('n', '\n'), ('r', '\r'), ('t', '\t')]

/-- The UTF-16 units of a text up to the mark that closes it. -/
def readUnits : List Char → Option (List Nat × List Char)
  | [] => none
  | c :: rest =>
    if c = '"' then some ([], rest)
    else if c = '\\' then
      match rest with
      | 'u' :: a :: b :: c :: d :: rest => do
        let values ← [a, b, c, d].mapM hexValue?
        (readUnits rest).map (.map (Number.ofDigits 16 values :: ·) id)
      | mark :: rest => do
        let c ← shortEscapes.lookup mark
        (readUnits rest).map (.map (c.toNat :: ·) id)
      | [] => none
    else if c < ' ' then none
    else (readUnits rest).map (.map (units c ++ ·) id)

def readString (cs : List Char) : Option (String × List Char) := do
  let (units, rest) ← readUnits cs
  return (String.ofList (ofUnits units), rest)

/-- What follows a mark. -/
def expect (mark : Char) (cs : List Char) : Option (List Char) :=
  match skipSpaces cs with
  | c :: rest => if c = mark then some rest else none
  | [] => none

section Several

variable {α : Type}

/-- What follows an item: a comma and more items, or the closing mark. -/
def readMore (item : List Char → Option (α × List Char)) (closing : Char) :
    Nat → List Char → Option (List α × List Char)
  | 0, _ => none
  | fuel + 1, cs =>
    match expect ',' cs with
    | some rest => do
      let (a, rest) ← item rest
      (readMore item closing fuel rest).map (.map (a :: ·) id)
    | none => (expect closing cs).map fun rest => ([], rest)

def readSeveral (item : List Char → Option (α × List Char)) (closing : Char) (cs : List Char) :
    Option (List α × List Char) :=
  match item cs with
  | some (a, rest) => (readMore item closing rest.length rest).map (.map (a :: ·) id)
  | none => (expect closing cs).map fun rest => ([], rest)

end Several

def readField (value : List Char → Option (Json × List Char)) (cs : List Char) :
    Option ((String × Json) × List Char) := do
  let rest ← expect '"' cs
  let (name, rest) ← readString rest
  let rest ← expect ':' rest
  (value rest).map (.map (name, ·) id)

def words : List (String × Json) := [("null", .null), ("true", .bool true), ("false", .bool false)]

def readWord (cs : List Char) : Option (Json × List Char) :=
  words.findSome? fun (word, value) =>
    if word.toList.isPrefixOf cs then some (value, cs.drop word.length) else none

/-- The value in front, which may nest as deep as there is fuel. -/
def readValue : Nat → List Char → Option (Json × List Char)
  | 0, _ => none
  | fuel + 1, cs =>
    match skipSpaces cs with
    | '"' :: rest => (readString rest).map (.map .text id)
    | '[' :: rest => (readSeveral (readValue fuel) ']' rest).map (.map .list id)
    | '\x7b' :: rest => (readSeveral (readField (readValue fuel)) '\x7d' rest).map (.map .object id)
    | cs => readWord cs

/-- A document is one value. It does not nest deeper than its text is long. -/
def read (s : String) : Option Json :=
  match readValue (s.length + 1) s.toList with
  | some (j, rest) => if (skipSpaces rest).isEmpty then some j else none
  | none => none

mutual

/-- The document that is read where one was written in units. -/
def heard : Json → Json
  | .null => .null
  | .bool b => .bool b
  | .text s => .text (Text.heard s)
  | .list items => .list (heardItems items)
  | .object fields => .object (heardFields fields)

def heardItems : List Json → List Json
  | [] => []
  | item :: rest => item.heard :: heardItems rest

def heardFields : List (String × Json) → List (String × Json)
  | [] => []
  | (name, value) :: rest => (Text.heard name, value.heard) :: heardFields rest

end

section Strings

variable {c : Char} {n : Nat}

lemma hex_four (n : Nat) : hex 4 n =
    [hexDigit (n / 4096 % 16), hexDigit (n / 256 % 16), hexDigit (n / 16 % 16), hexDigit (n % 16)] := by
  simp [hex, Nat.div_div_eq_div_mul]

/-- What is left of a quoted text after the mark that opens it. -/
def quoteTail (s : String) : List Char := s.toList.flatMap escape ++ ['"']

lemma toList_quote (s : String) : (quote s).toList = '"' :: quoteTail s := String.toList_ofList

end Strings

section Spaces

variable {mark : Char} {blanks : List Char}

end Spaces

section Brackets

variable {α : Type} {depth fuel : Nat} {closing : Char} {item : List Char → Option (α × List Char)}
  {text : α → String} {value : α → α} {as : List α} {blanks cs rest : List Char}

/-- The blanks that an item stands on a line of its own with. -/
def lineStart (depth : Nat) : List Char := '\n' :: List.replicate (2 * depth) ' '

/-- What follows the first item, up to and with the closing mark. -/
def moreText (depth : Nat) (closing : Char) (items : List String) : List Char :=
  items.flatMap (fun item => ',' :: (lineStart (depth + 1) ++ item.toList)) ++ (lineStart depth ++ [closing])

/-- What follows the opening mark. -/
def severalText (depth : Nat) (closing : Char) : List String → List Char
  | [] => [closing]
  | first :: items => lineStart (depth + 1) ++ (first.toList ++ moreText depth closing items)

lemma toList_bracketed (opening closing : Char) (depth : Nat) (items : List String) :
    (bracketed (.singleton opening) (.singleton closing) depth items).toList =
      opening :: severalText depth closing items := by
  have hline (depth : Nat) : '\n' :: (margin depth).toList = lineStart depth := by
    rw [margin, String.toList_ofList, lineStart]
  cases items with
  | nil => simp [bracketed, severalText]
  | cons first items =>
    have hitems (first : String) : (String.intercalate ",\n" (first :: items.map (margin (depth + 1) ++ ·))).toList =
        first.toList ++ items.flatMap (fun item => ',' :: (lineStart (depth + 1) ++ item.toList)) := by
      induction items generalizing first with
      | nil => simp
      | cons item items ih =>
        rw [List.map_cons, String.intercalate_cons_cons, String.toList_append, String.toList_append, ih,
          List.flatMap_cons, String.toList_append, ← hline]
        simp
    simp only [bracketed, List.isEmpty_cons, Bool.false_eq_true, if_false, List.map_cons, String.toList_append,
      hitems, severalText, moreText, ← hline]
    simp

end Brackets

section Values

lemma render_list (depth : Nat) (items : List Json) : (Json.list items).render depth =
    bracketed (.singleton '[') (.singleton ']') depth (renderItems (depth + 1) items) := by
  rw [render]
  rfl

lemma render_object (depth : Nat) (fields : List (String × Json)) : (Json.object fields).render depth =
    bracketed (.singleton '\x7b') (.singleton '\x7d') depth (renderFields (depth + 1) fields) := by
  rw [render]
  rfl

section Marks

variable (fuel : Nat) (rest : List Char)

end Marks

end Values

section Plain

/-- A document is plain: it consists of ends of lines and of ASCII that can be seen. -/
def isPlain (c : Char) : Bool := c == '\n' || (decide (' ' ≤ c) && decide (c ≤ '~'))

variable {depth : Nat}

lemma isPlain_escapeUnit (n : Nat) : ∀ c ∈ escapeUnit n, isPlain c = true := by
  have hdigit (m : Nat) : isPlain (hexDigit (m % 16)) = true := by
    have hdigits : ∀ m < 16, isPlain (hexDigit m) = true := by decide
    exact hdigits (m % 16) (Nat.mod_lt m (by decide))
  rw [escapeUnit, hex_four]
  simp only [List.forall_mem_cons, hdigit, List.not_mem_nil, false_implies, implies_true, and_true]
  decide

lemma isPlain_escape (c : Char) : ∀ a ∈ escape c, isPlain a = true := by
  have hslash : isPlain '\\' = true := by decide
  have hshort {mark : Char} (h : isPlain mark = true) : ∀ a ∈ ['\\', mark], isPlain a = true :=
    List.forall_mem_cons.mpr ⟨hslash, List.forall_mem_singleton.mpr h⟩
  unfold escape
  split
  · next h =>
    rcases h with rfl | rfl
    · exact hshort (by decide)
    · exact hshort (by decide)
  · split_ifs with hn hr ht hb hf hkeep
    · exact hshort (by decide)
    · exact hshort (by decide)
    · exact hshort (by decide)
    · exact hshort (by decide)
    · exact hshort (by decide)
    · simp [isPlain, hkeep]
    · unfold escapeCode
      split
      · exact isPlain_escapeUnit _
      · exact List.forall_mem_append.mpr ⟨isPlain_escapeUnit _, isPlain_escapeUnit _⟩

lemma isPlain_quote (s : String) : ∀ c ∈ (quote s).toList, isPlain c = true := by
  have hbody : ∀ c ∈ s.toList.flatMap escape, isPlain c = true :=
    List.forall_mem_flatMap.mpr fun c _ => isPlain_escape c
  rw [toList_quote, quoteTail]
  exact List.forall_mem_cons.mpr ⟨rfl, List.forall_mem_append.mpr ⟨hbody, List.forall_mem_singleton.mpr rfl⟩⟩

lemma isPlain_lineStart (depth : Nat) : ∀ c ∈ lineStart depth, isPlain c = true := by
  refine List.forall_mem_cons.mpr ⟨rfl, fun c hc => ?_⟩
  rw [List.eq_of_mem_replicate hc]
  rfl

lemma isPlain_moreText {closing : Char} {items : List String} (hclosing : isPlain closing = true)
    (hitems : ∀ item ∈ items, ∀ c ∈ item.toList, isPlain c = true) :
    ∀ c ∈ moreText depth closing items, isPlain c = true := by
  refine List.forall_mem_append.mpr ⟨List.forall_mem_flatMap.mpr fun item hitem => ?_, ?_⟩
  · exact List.forall_mem_cons.mpr
      ⟨rfl, List.forall_mem_append.mpr ⟨isPlain_lineStart (depth + 1), hitems item hitem⟩⟩
  · exact List.forall_mem_append.mpr ⟨isPlain_lineStart depth, List.forall_mem_singleton.mpr hclosing⟩

lemma isPlain_bracketed {opening closing : Char} {items : List String} (hopening : isPlain opening = true)
    (hclosing : isPlain closing = true) (hitems : ∀ item ∈ items, ∀ c ∈ item.toList, isPlain c = true) :
    ∀ c ∈ (bracketed (.singleton opening) (.singleton closing) depth items).toList, isPlain c = true := by
  rw [toList_bracketed]
  refine List.forall_mem_cons.mpr ⟨hopening, ?_⟩
  cases items with
  | nil => exact List.forall_mem_singleton.mpr hclosing
  | cons first items =>
    obtain ⟨hfirst, hitems⟩ := List.forall_mem_cons.mp hitems
    exact List.forall_mem_append.mpr
      ⟨isPlain_lineStart (depth + 1), List.forall_mem_append.mpr ⟨hfirst, isPlain_moreText hclosing hitems⟩⟩

mutual

theorem isPlain_render (depth : Nat) : ∀ (j : Json), ∀ c ∈ (j.render depth).toList, isPlain c = true
  | .null => by
    rw [render]
    exact List.all_eq_true.mp (by decide)
  | .bool b => by
    rw [render]
    cases b <;> exact List.all_eq_true.mp (by decide)
  | .text s => by
    rw [render]
    exact isPlain_quote s
  | .list items => by
    rw [render_list]
    exact isPlain_bracketed rfl rfl (isPlain_renderItems (depth + 1) items)
  | .object fields => by
    rw [render_object]
    exact isPlain_bracketed rfl rfl (isPlain_renderFields (depth + 1) fields)

theorem isPlain_renderItems (depth : Nat) : ∀ (items : List Json), ∀ item ∈ renderItems depth items,
    ∀ c ∈ item.toList, isPlain c = true
  | [] => by
    rw [renderItems]
    exact fun item h => nomatch h
  | item :: rest => by
    rw [renderItems]
    exact List.forall_mem_cons.mpr ⟨isPlain_render depth item, isPlain_renderItems depth rest⟩

theorem isPlain_renderFields (depth : Nat) : ∀ (fields : List (String × Json)), ∀ field ∈ renderFields depth fields,
    ∀ c ∈ field.toList, isPlain c = true
  | [] => by
    rw [renderFields]
    exact fun field h => nomatch h
  | (name, value) :: rest => by
    rw [renderFields]
    refine List.forall_mem_cons.mpr ⟨?_, isPlain_renderFields depth rest⟩
    rw [String.toList_append, String.toList_append]
    exact List.forall_mem_append.mpr
      ⟨List.forall_mem_append.mpr ⟨isPlain_quote name, List.all_eq_true.mp (by decide)⟩, isPlain_render depth value⟩

end

variable {s : String}

end Plain

end JobScript.Json
