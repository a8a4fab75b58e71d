/-! # A place in a document

The text from a place on, with the line and the column of the place and the length of the whole text.
Past the end of the text stands the character zero, which no document holds.
-/

namespace JobScript.Yaml

structure Cursor where
  rest : List Char
  length : Nat
  index : Nat
  line : Nat
  column : Nat
deriving DecidableEq, Repr

/-- What ends a line. -/
def isBreak (c : Char) : Bool := c ∈ ['\n', '\r', '\x85', '\u2028', '\u2029']

def isEnd (c : Char) : Bool := c == '\x00'

def endsLine (c : Char) : Bool := isEnd c || isBreak c

/-- What separates tokens, without the tab. -/
def endsWord (c : Char) : Bool := endsLine c || c == ' '

/-- What separates tokens. -/
def isGap (c : Char) : Bool := endsWord c || c == '\t'

/-- Letters and digits of ASCII, the hyphen and the low line. -/
def isNameChar (c : Char) : Bool := c.isAlphanum || c == '-' || c == '_'

namespace Cursor

def start (text : List Char) : Cursor := ⟨text, text.length, 0, 0, 0⟩

def peek (c : Cursor) : Char := c.rest.headD '\x00'

def peekAt (c : Cursor) (n : Nat) : Char := c.rest.getD n '\x00'

/-- A line feed after a carriage return belongs to one line break. A byte order mark has no width. -/
def next (c : Cursor) : Cursor :=
  match c.rest with
  | [] => c
  | ch :: rest =>
    if isBreak ch && !(ch == '\r' && rest.head? == some '\n') then
      ⟨rest, c.length, c.index + 1, c.line + 1, 0⟩
    else ⟨rest, c.length, c.index + 1, c.line, if ch = '\uFEFF' then c.column else c.column + 1⟩

def forward (c : Cursor) : Nat → Cursor
  | 0 => c
  | n + 1 => c.next.forward n

def takeWhile (p : Char → Bool) (c : Cursor) : List Char × Cursor :=
  let cs := c.rest.takeWhile p
  (cs, c.forward cs.length)

def skipWhile (p : Char → Bool) (c : Cursor) : Cursor := (c.takeWhile p).2

def skipSpaces (c : Cursor) : Cursor := c.skipWhile (· == ' ')

/-- Blanks up to a column. -/
def skipSpacesTo (column : Nat) (c : Cursor) : Cursor :=
  c.forward (min (c.rest.takeWhile (· == ' ')).length (column - c.column))

def skipComment (c : Cursor) : Cursor :=
  if c.peek = '#' then c.skipWhile (!endsLine ·) else c

/-- The break at the cursor, if it stands at one. All breaks but the separators of lines and
paragraphs read as a line feed. -/
def takeBreak (c : Cursor) : List Char × Cursor :=
  match c.rest with
  | '\r' :: '\n' :: _ => (['\n'], c.forward 2)
  | ch :: _ =>
    if ch == '\u2028' || ch == '\u2029' then ([ch], c.next)
    else if isBreak ch then (['\n'], c.next)
    else ([], c)
  | [] => ([], c)

/-- The marker between documents, made of one character three times. -/
def atMarker (mark : Char) (c : Cursor) : Bool :=
  c.rest.take 3 == [mark, mark, mark] && isGap (c.peekAt 3)

def atSeparator (c : Cursor) : Bool := c.atMarker '-' || c.atMarker '.'

/-- Enough for any walk that moves on at each step. -/
def fuel (c : Cursor) : Nat := c.length + 1

end Cursor

end JobScript.Yaml
