import JobScript.Yaml.Property

/-! # Scalars

The texts of a document, plain, quoted, or as a block. Line breaks inside a text fold: a single one
becomes a blank, several lose one of them.
-/

namespace JobScript.Yaml

open Number

/-- A line break and the breaks after it, folded. -/
def fold (first later : List Char) : List Char :=
  (if first ≠ ['\n'] then first else if later.isEmpty then [' '] else []) ++ later

/-! ## Plain scalars -/

def isFlowMark (c : Char) : Bool := ",?[]\x7b\x7d".toList.contains c

/-- In a flow collection a colon also ends a text before one of the marks. -/
def endsAfterColon (flow : Bool) (c : Char) : Bool :=
  isGap c || (flow && ",[]\x7b\x7d".toList.contains c)

/-- How many characters stand together before a gap or a mark. -/
def plainLength (flow : Bool) : List Char → Nat
  | [] => 0
  | c :: rest =>
    if isGap c || (c == ':' && endsAfterColon flow (rest.headD '\x00')) || (flow && isFlowMark c) then 0
    else plainLength flow rest + 1

/-- The breaks at the start of the next lines; a document separator hides them. -/
def plainBreaks : Nat → Cursor → Option (List Char) × Cursor
  | 0, c => (some [], c)
  | fuel + 1, c =>
    if c.peek = ' ' then plainBreaks fuel c.next
    else if isBreak c.peek then
      let (first, c) := c.takeBreak
      if c.atSeparator then (none, c)
      else
        let (later, c) := plainBreaks fuel c
        (later.map (first ++ ·), c)
    else (some [], c)

/-- What may come between two parts of a plain scalar, and whether a line ended in it. -/
def plainGap (c : Cursor) : List Char × Bool × Cursor :=
  let (spaces, c) := c.takeWhile (· == ' ')
  if isBreak c.peek then
    let (first, c) := c.takeBreak
    if c.atSeparator then ([], true, c)
    else
      let (later, c) := plainBreaks c.fuel c
      ((later.map (fold first)).getD [], true, c)
  else (spaces, false, c)

/-- `gap` is put in front of the next part, if there is one. -/
def plainFrom (flow : Bool) (indent : Int) : Nat → List Char → Bool → Cursor →
    List Char × Bool × Cursor
  | 0, _, newline, c => ([], newline, c)
  | fuel + 1, gap, newline, c =>
    let n := plainLength flow c.rest
    if c.peek = '#' ∨ n = 0 then ([], newline, c)
    else
      let part := gap ++ c.rest.take n
      let (gap, newline, c) := plainGap (c.forward n)
      if gap.isEmpty || (!flow && decide ((c.column : Int) < indent)) then (part, newline, c)
      else
        let (rest, newline, c) := plainFrom flow indent fuel gap newline c
        (part ++ rest, newline, c)

/-- The text, whether it ends at the start of a line, and what follows. -/
def plain (flow : Bool) (indent : Int) (c : Cursor) : String × Bool × Cursor :=
  let (cs, newline, c) := plainFrom flow (indent + 1) c.fuel [] false c
  (String.ofList cs, newline, c)

/-! ## Quoted scalars -/

def escapes : List (Char × Char) :=
  [('0', '\x00'), ('a', '\x07'), ('b', '\x08'), ('t', '\t'), ('\t', '\t'), ('n', '\n'), ('v', '\x0b'),
   ('f', '\x0c'), ('r', '\r'), ('e', '\x1b'), (' ', ' '), ('"', '"'), ('\\', '\\'), ('/', '/'),
   ('N', '\x85'), ('_', '\xa0'), ('L', '\u2028'), ('P', '\u2029')]

/-- How many digits a numeric escape has. -/
def escapeWidth? : Char → Option Nat
  | 'x' => some 2
  | 'u' => some 4
  | 'U' => some 8
  | _ => none

/-- An escape may also name half of a surrogate pair; two halves do not become one character. -/
def escapedChar (width : Nat) (c : Cursor) : Except YamlError (List Char × Cursor) := do
  let digits := (c.rest.take width).filterMap hexDigit?
  expect (digits.length == width)
  let code := ofDigits 16 digits
  if 0x80000000 ≤ code then throw .farCodePoint
  if 0x110000 ≤ code then throw .noCodePoint
  return ([Text.charOf code], c.forward width)

/-- Breaks at the start of the next lines; no document separator may stand there. -/
def quotedBreaks : Nat → Cursor → Except YamlError (List Char × Cursor)
  | 0, c => .ok ([], c)
  | fuel + 1, c => do
    expect (!c.atSeparator)
    let c := c.skipWhile fun ch => ch == ' ' || ch == '\t'
    if isBreak c.peek then
      let (first, c) := c.takeBreak
      let (later, c) ← quotedBreaks fuel c
      return (first ++ later, c)
    else return ([], c)

def escapeSequence (c : Cursor) : Except YamlError (List Char × Cursor) := do
  if let some char := escapes.lookup c.peek then return ([char], c.next)
  if let some width := escapeWidth? c.peek then return (← escapedChar width c.next)
  expect (isBreak c.peek)
  quotedBreaks c.fuel c.takeBreak.2

def quotedGap (c : Cursor) : Except YamlError (List Char × Cursor) := do
  let (spaces, c) := c.takeWhile fun ch => ch == ' ' || ch == '\t'
  expect (!isEnd c.peek)
  if isBreak c.peek then
    let (first, c) := c.takeBreak
    let (later, c) ← quotedBreaks c.fuel c
    return (fold first later, c)
  else return (spaces, c)

/-- Up to the closing quote. Between single quotes only the quote itself is written in another way,
twice; between double quotes the backslash starts an escape. -/
def quotedFrom (quote : Char) : Nat → Cursor → Except YamlError (List Char × Cursor)
  | 0, _ => .error .malformed
  | fuel + 1, c => do
    let ch := c.peek
    let (part, next) ←
      if ch = quote then
        if quote = '\x27' ∧ c.peekAt 1 = '\x27' then pure (['\x27'], c.forward 2)
        else return ([], c.next)
      else if ch = '\\' ∧ quote = '"' then escapeSequence c.next
      else if isGap ch then quotedGap c
      else pure ([ch], c.next)
    let (rest, next) ← quotedFrom quote fuel next
    return (part ++ rest, next)

def quotedScalar (c : Cursor) : Except YamlError (String × Cursor) := do
  let (cs, next) ← quotedFrom c.peek c.fuel c.next
  return (String.ofList cs, next)

/-! ## Block scalars -/

/-- What becomes of the line breaks at the end: one stays unless they are chopped or all kept. -/
inductive Chomping
  | clip
  | strip
  | keep
deriving DecidableEq, Repr

def chomping? : Char → Option Chomping
  | '+' => some .keep
  | '-' => some .strip
  | _ => none

/-- One digit, not zero, says by how much the block is indented. -/
def increment (c : Cursor) : Except YamlError (Option Nat × Cursor) := do
  let ch := c.peek
  if '0' ≤ ch ∧ ch ≤ '9' then
    expect (ch != '0')
    return (some (ch.toNat - '0'.toNat), c.next)
  else return (none, c)

/-- The marks for the end and the indentation may come in either order. -/
def blockHeader (c : Cursor) : Except YamlError (Chomping × Option Nat × Cursor) := do
  match chomping? c.peek with
  | some chomping =>
    let (n, c) ← increment c.next
    return (chomping, n, c)
  | none =>
    let (n, c) ← increment c
    match n, chomping? c.peek with
    | some n, some chomping => return (chomping, some n, c.next)
    | n, _ => return (.clip, n, c)

/-- Leading empty lines, with the deepest column reached by blanks. -/
def leadingBreaks : Nat → Nat → Cursor → List Char × Nat × Cursor
  | 0, deepest, c => ([], deepest, c)
  | fuel + 1, deepest, c =>
    if c.peek = ' ' then leadingBreaks fuel (max deepest c.next.column) c.next
    else if isBreak c.peek then
      let (first, c) := c.takeBreak
      let (later, deepest, c) := leadingBreaks fuel deepest c
      (first ++ later, deepest, c)
    else ([], deepest, c)

def blockBreaksFrom (indent : Nat) : Nat → Cursor → List Char × Cursor
  | 0, c => ([], c)
  | fuel + 1, c =>
    if isBreak c.peek then
      let (first, c) := c.takeBreak
      let (later, c) := blockBreaksFrom indent fuel (c.skipSpacesTo indent)
      (first ++ later, c)
    else ([], c)

/-- Empty lines between the lines of a block. -/
def blockBreaks (indent : Nat) (c : Cursor) : List Char × Cursor :=
  blockBreaksFrom indent c.fuel (c.skipSpacesTo indent)

def isSpace (c : Char) : Bool := c == ' ' || c == '\t'

/-- The break after a line and the breaks of the empty lines after it, joined to the next line. Folding
leaves alone the breaks next to an indented line. -/
def joinLines (folded : Bool) (leading next : Char) (first later : List Char) : List Char :=
  if folded && first == ['\n'] && !isSpace leading && !isSpace next then fold first later
  else first ++ later

/-- The lines at the indentation, and the breaks after the last one, the first of them apart. -/
def blockLines (folded : Bool) (indent : Nat) : Nat → Cursor → List Char × List Char × List Char × Cursor
  | 0, c => ([], [], [], c)
  | fuel + 1, c =>
    let leading := c.peek
    let (text, c) := c.takeWhile (!endsLine ·)
    let (first, c) := c.takeBreak
    let (later, c) := blockBreaks indent c
    if c.column = indent ∧ c.peek ≠ '\x00' then
      let (rest, last, tail, next) := blockLines folded indent fuel c
      (text ++ joinLines folded leading c.peek first later ++ rest, last, tail, next)
    else (text, first, later, c)

def chomp (chomping : Chomping) (last tail : List Char) : List Char :=
  match chomping with
  | .strip => []
  | .clip => last
  | .keep => last ++ tail

def blockScalar (folded : Bool) (parent : Int) (c : Cursor) : Except YamlError (String × Cursor) := do
  let (chomping, increment, c) ← blockHeader c.next
  expect (endsWord c.peek)
  let c ← restOfLine c
  let least := max 1 (parent + 1).toNat
  let (leading, indent, c) := match increment with
    | none =>
      let (breaks, deepest, c) := leadingBreaks c.fuel 0 c
      (breaks, max least deepest, c)
    | some n =>
      let indent := least + n - 1
      let (breaks, c) := blockBreaks indent c
      (breaks, indent, c)
  if c.column = indent ∧ c.peek ≠ '\x00' then
    let (text, last, tail, c) := blockLines folded indent c.fuel c
    return (String.ofList (leading ++ text ++ chomp chomping last tail), c)
  else return (String.ofList (chomp chomping [] leading), c)

end JobScript.Yaml
