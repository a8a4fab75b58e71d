import JobScript.Yaml.Scalar

/-! # From text to tokens

Indentation turns into tokens that open and close collections. Whether a word is a key shows only at
the colon after it: a candidate is kept until then, and the tokens of a key are put in front of it.
-/

namespace JobScript.Yaml

/-- A word that a colon may still turn into a key. -/
structure Candidate where
  level : Nat
  token : Nat
  required : Bool
  index : Nat
  line : Nat
  column : Nat
deriving DecidableEq, Repr

/-- `tokens` holds `count` tokens, the last one first, and `indents` the indentation of the open block
collections around the innermost one; a flow collection has a level of its own, and every level at most
one candidate. -/
structure Scan where
  cursor : Cursor
  tokens : List Token
  count : Nat
  level : Nat
  indent : Int
  indents : List Int
  keyAllowed : Bool
  candidates : List Candidate
  finished : Bool

namespace Scan

/-- Longest distance from a key to its colon. -/
def keyReach : Nat := 1024

def start (text : List Char) : Scan := ⟨.start text, [], 0, 0, -1, [], true, [], false⟩

def inFlow (s : Scan) : Bool := s.level != 0

def push (s : Scan) (t : Token) : Scan :=
  { s with tokens := t :: s.tokens, count := s.count + 1 }

/-- Puts a token behind the first `place` ones. -/
def insert (s : Scan) (place : Nat) (t : Token) : Scan :=
  { s with tokens := s.tokens.insertIdx (s.count - place) t, count := s.count + 1 }

def allowKey (s : Scan) (allowed : Bool) : Scan := { s with keyAllowed := allowed }

def forward (s : Scan) (n : Nat) : Scan := { s with cursor := s.cursor.forward n }

/-! ## Candidates -/

def isStale (s : Scan) (k : Candidate) : Bool :=
  k.line != s.cursor.line || decide (keyReach < s.cursor.index - k.index)

/-- A candidate does not outlive its line. -/
def purge (s : Scan) : Except YamlError Scan := do
  let (stale, fresh) := s.candidates.partition s.isStale
  expect (!stale.any (·.required))
  return { s with candidates := fresh }

def candidate? (s : Scan) : Option Candidate := s.candidates.find? (·.level == s.level)

def withoutCandidate (s : Scan) : Scan :=
  { s with candidates := s.candidates.filter (·.level != s.level) }

/-- Where a key has to stand, no candidate may be dropped. -/
def drop (s : Scan) : Except YamlError Scan := do
  expect (!(s.candidate?.any (·.required)))
  return s.withoutCandidate

def saveCandidate (s : Scan) : Except YamlError Scan := do
  if !s.keyAllowed then return s
  let c := s.cursor
  let required := !s.inFlow && s.indent == c.column
  let k : Candidate := ⟨s.level, s.count, required, c.index, c.line, c.column⟩
  let s ← s.drop
  return { s with candidates := k :: s.candidates }

/-- The tokens that nothing later can change: those before the first candidate. -/
def settled (s : Scan) : List Token :=
  s.tokens.reverse.take ((s.candidates.map (·.token)).foldl min s.count)

/-! ## Indentation -/

def unwindFrom (column : Int) : List Int → Scan → Scan
  | [], s => s
  | outer :: rest, s =>
    if column < s.indent then
      unwindFrom column rest { s.push .blockEnd with indent := outer, indents := rest }
    else s

/-- Closes the block collections that are indented more than the column. -/
def unwind (column : Int) (s : Scan) : Scan :=
  if s.inFlow then s else unwindFrom column s.indents s

/-- Opens a block collection at the column, unless one is open there. -/
def openBlock (t : Token) (place : Nat) (column : Nat) (s : Scan) : Scan :=
  if !s.inFlow && decide (s.indent < column) then
    { s.insert place t with indent := column, indents := s.indent :: s.indents }
  else s

/-! ## One token -/

def skipGapsFrom : Nat → Scan → Scan
  | 0, s => s
  | fuel + 1, s =>
    let c := s.cursor.skipSpaces.skipComment
    if isBreak c.peek then
      skipGapsFrom fuel { s with cursor := c.takeBreak.2, keyAllowed := s.keyAllowed || !s.inFlow }
    else { s with cursor := c }

/-- A byte order mark counts as a gap at the very start. -/
def skipGaps (s : Scan) : Scan :=
  let s := if s.cursor.index = 0 ∧ s.cursor.peek = '\uFEFF' then s.forward 1 else s
  skipGapsFrom s.cursor.fuel s

/-- Ends every collection, as the end of a document does. -/
def endBlocks (s : Scan) : Except YamlError Scan :=
  return (← (s.unwind (-1)).drop).allowKey false

def finish (s : Scan) : Except YamlError Scan := do
  let s ← s.endBlocks
  return { s.push .streamEnd with candidates := [], finished := true }

def takeDirective (s : Scan) : Except YamlError Scan := do
  let s ← s.endBlocks
  let (d, c) ← directive s.cursor
  return { s.push (.directive d) with cursor := c }

def takeMarker (t : Token) (s : Scan) : Except YamlError Scan := do
  let s ← s.endBlocks
  return (s.push t).forward 3

def openFlow (t : Token) (s : Scan) : Except YamlError Scan := do
  let s ← s.saveCandidate
  return ({ s.push t with level := s.level + 1, keyAllowed := true }).forward 1

def closeFlow (t : Token) (s : Scan) : Except YamlError Scan := do
  let s ← s.drop
  return ({ s.push t with level := s.level - 1, keyAllowed := false }).forward 1

def takeFlowEntry (s : Scan) : Except YamlError Scan := do
  let s ← (s.allowKey true).drop
  return (s.push .flowEntry).forward 1

def takeBlockEntry (s : Scan) : Except YamlError Scan := do
  expect (s.inFlow || s.keyAllowed)
  let s := s.openBlock .blockSequenceStart s.count s.cursor.column
  let s ← (s.allowKey true).drop
  return (s.push .blockEntry).forward 1

def takeKey (s : Scan) : Except YamlError Scan := do
  expect (s.inFlow || s.keyAllowed)
  let s := s.openBlock .blockMappingStart s.count s.cursor.column
  let s ← (s.allowKey (!s.inFlow)).drop
  return (s.push .key).forward 1

/-- The colon after a candidate makes a key of it; without one it belongs to a key that was marked. -/
def takeValue (s : Scan) : Except YamlError Scan := do
  let s ← match s.candidate? with
    | some k =>
      let s := (s.withoutCandidate.insert k.token .key).openBlock .blockMappingStart k.token k.column
      pure (s.allowKey false)
    | none =>
      expect (s.inFlow || s.keyAllowed)
      let s := s.openBlock .blockMappingStart s.count s.cursor.column
      (s.allowKey (!s.inFlow)).drop
  return (s.push .value).forward 1

/-- A word that may be a key, or stand before one. -/
def takeWord {α : Type} (word : Cursor → Except YamlError (α × Cursor)) (token : α → Token) (s : Scan) :
    Except YamlError Scan := do
  let s ← s.saveCandidate
  let (a, c) ← word s.cursor
  return { (s.allowKey false).push (token a) with cursor := c }

def takeBlockScalar (folded : Bool) (s : Scan) : Except YamlError Scan := do
  let s ← (s.allowKey true).drop
  let (text, c) ← blockScalar folded s.indent s.cursor
  return { s.push (.scalar text false) with cursor := c }

/-- A plain scalar that ends with its line may be followed by a key. -/
def takePlain (s : Scan) : Except YamlError Scan := do
  let s ← s.saveCandidate
  let (text, newline, c) := plain s.inFlow s.indent s.cursor
  return { (s.allowKey newline).push (.scalar text true) with cursor := c }

/-- Marks have no meaning of their own inside of words. -/
def isIndicator (c : Char) : Bool := "-?:,[]\x7b\x7d#&*!|>'\"%@\x60".toList.contains c

def startsPlain (s : Scan) : Bool :=
  let ch := s.cursor.peek
  (!isGap ch && !isIndicator ch) ||
    (!isGap (s.cursor.peekAt 1) && (ch == '-' || (!s.inFlow && (ch == '?' || ch == ':'))))

/-- The next token, by its first character. -/
def take (s : Scan) : Except YamlError Scan :=
  let c := s.cursor
  let gapAfter := isGap (c.peekAt 1)
  let atMarker (mark : Char) := c.column == 0 && c.atMarker mark
  match c.peek with
  | '\x00' => s.finish
  | '%' => if c.column = 0 then s.takeDirective else .error .malformed
  | '[' => s.openFlow .flowSequenceStart
  | '\x7b' => s.openFlow .flowMappingStart
  | ']' => s.closeFlow .flowSequenceEnd
  | '\x7d' => s.closeFlow .flowMappingEnd
  | ',' => s.takeFlowEntry
  | '*' => s.takeWord anchorName .alias
  | '&' => s.takeWord anchorName .anchor
  | '!' => s.takeWord tag .tag
  | '\x27' => s.takeWord quotedScalar (.scalar · false)
  | '"' => s.takeWord quotedScalar (.scalar · false)
  | ch =>
    if atMarker '-' then s.takeMarker .documentStart
    else if atMarker '.' then s.takeMarker .documentEnd
    else if ch = '-' ∧ gapAfter then s.takeBlockEntry
    else if ch = '?' ∧ (s.inFlow || gapAfter) then s.takeKey
    else if ch = ':' ∧ (s.inFlow || gapAfter) then s.takeValue
    else if ch = '|' ∧ !s.inFlow then s.takeBlockScalar false
    else if ch = '>' ∧ !s.inFlow then s.takeBlockScalar true
    else if s.startsPlain then s.takePlain
    else .error .malformed

def step (s : Scan) : Except YamlError Scan := do
  let s ← s.skipGaps.purge
  (s.unwind s.cursor.column).take

/-- The tokens that are certain, and the fault after them, if one ends the text early. -/
def run : Nat → Scan → List Token × Option YamlError
  | 0, s => (s.settled, some .malformed)
  | fuel + 1, s =>
    if s.finished then (s.tokens.reverse, none)
    else match s.purge with
      | .error e => (s.settled, some e)
      | .ok s => match s.step with
        | .error e => (s.settled, some e)
        | .ok s => run fuel s

end Scan

/-- Control characters other than tabs and line breaks, and what is no character, may not appear. -/
def isAllowed (c : Char) : Bool :=
  let n := c.toNat
  n == 9 || n == 10 || n == 13 || (0x20 ≤ n && n ≤ 0x7E) || n == 0x85 || (0xA0 ≤ n && n ≤ 0xD7FF) ||
    (0xE000 ≤ n && n ≤ 0xFFFD) || 0x10000 ≤ n

def tokens (text : String) : List Token × Option YamlError :=
  if text.toList.all isAllowed then Scan.run (text.length + 2) (.start text.toList)
  else ([], some .malformed)

end JobScript.Yaml
