import JobScript.Text.Utf8
import JobScript.Yaml.Cursor
import JobScript.Yaml.Error
import JobScript.Yaml.Token

/-! # Anchors, tags and directives

The small words of a document, each read from a cursor.
-/

namespace JobScript.Yaml

open Number

def expect (condition : Bool) : Except YamlError Unit :=
  if condition then .ok () else .error .malformed

def name (c : Cursor) : Except YamlError (String × Cursor) := do
  let (cs, c) := c.takeWhile isNameChar
  expect (!cs.isEmpty)
  return (String.ofList cs, c)

/-- What may follow the name of an anchor. -/
def endsAnchor (c : Char) : Bool := isGap c || "?:,]\x7d%@\x60".toList.contains c

/-- The name after the mark of an anchor or an alias. -/
def anchorName (c : Cursor) : Except YamlError (String × Cursor) := do
  let (text, c) ← name c.next
  expect (endsAnchor c.peek)
  return (text, c)

def isTagChar (c : Char) : Bool := c.isAlphanum || "-;/?:@&=+$,_.!~*'()[]%".toList.contains c

def hexDigit? (c : Char) : Option Nat :=
  if c.toNat < 0x80 then digitBelow? 16 c else none

/-- Escaped bytes in a row, as they follow each other. -/
def escapedBytes : List Char → Option (List UInt8)
  | '%' :: a :: b :: rest => do
    let byte := UInt8.ofNat ((← hexDigit? a) * 16 + (← hexDigit? b))
    return byte :: (← escapedBytes rest)
  | '%' :: _ => none
  | _ => some []

/-- Escaped bytes stand for characters in UTF-8. The text of the tag comes back with its length. -/
def tagText : Nat → List Char → Option (List Char × Nat)
  | 0, _ => some ([], 0)
  | fuel + 1, c :: rest =>
    if c = '%' then do
      let bytes ← escapedBytes (c :: rest)
      let length := 3 * bytes.length
      let text ← Text.decodeUtf8? bytes
      let (cs, n) ← tagText fuel (rest.drop (length - 1))
      return (text.toList ++ cs, length + n)
    else if isTagChar c then do
      let (cs, n) ← tagText fuel rest
      return (c :: cs, n + 1)
    else some ([], 0)
  | _ + 1, [] => some ([], 0)

def tagUri (c : Cursor) : Except YamlError (String × Cursor) := do
  match tagText c.fuel c.rest with
  | some (cs, length) =>
    expect (length ≠ 0)
    return (String.ofList cs, c.forward length)
  | none => throw .malformed

/-- One exclamation mark, or a word between two. -/
def tagHandle (c : Cursor) : Except YamlError (String × Cursor) := do
  expect (c.peek == '!')
  if c.peekAt 1 = ' ' then return ("!", c.next)
  let (word, c) := c.next.takeWhile isNameChar
  expect (c.peek == '!')
  return (String.ofList ('!' :: word ++ ['!']), c.next)

def tagName (c : Cursor) : Except YamlError (TagName × Cursor) := do
  if c.peekAt 1 = '<' then
    let (uri, c) ← tagUri (c.forward 2)
    expect (c.peek == '>')
    return (⟨none, uri⟩, c.next)
  else if isGap (c.peekAt 1) then return (⟨none, "!"⟩, c.next)
  else
    let word := (c.rest.drop 1).takeWhile (!endsWord ·)
    let (handle, c) ← if '!' ∈ word then tagHandle c else pure ("!", c.next)
    let (suffix, c) ← tagUri c
    return (⟨some handle, suffix⟩, c)

def tag (c : Cursor) : Except YamlError (TagName × Cursor) := do
  let (tag, c) ← tagName c
  expect (endsWord c.peek)
  return (tag, c)

def number (c : Cursor) : Except YamlError (Nat × Cursor) := do
  let (cs, c) := c.takeWhile Char.isDigit
  expect (!cs.isEmpty)
  match readInt 10 (String.ofList cs) with
  | .ok n => return (n.toNat, c)
  | .error e => throw (.numeral e)

def versionDirective (c : Cursor) : Except YamlError (Directive × Cursor) := do
  let (major, c) ← number c.skipSpaces
  expect (c.peek == '.')
  let (_, c) ← number c.next
  expect (endsWord c.peek)
  return (.version major, c)

def tagDirective (c : Cursor) : Except YamlError (Directive × Cursor) := do
  let (handle, c) ← tagHandle c.skipSpaces
  expect (c.peek == ' ')
  let (lead, c) ← tagUri c.skipSpaces
  expect (endsWord c.peek)
  return (.tag handle lead, c)

/-- Nothing but a comment up to the end of the line, which is taken too. -/
def restOfLine (c : Cursor) : Except YamlError Cursor := do
  let c := c.skipSpaces.skipComment
  expect (endsLine c.peek)
  return c.takeBreak.2

def directive (c : Cursor) : Except YamlError (Directive × Cursor) := do
  let (word, c) ← name c.next
  expect (endsWord c.peek)
  let (directive, c) ←
    if word = "YAML" then versionDirective c
    else if word = "TAG" then tagDirective c
    else pure (.other, c.skipWhile (!endsLine ·))
  return (directive, ← restOfLine c)

end JobScript.Yaml
