import JobScript.Text.Printable
import JobScript.Text.Surrogate

/-! # Quoted text

A text is shown between single quotes; double quotes are used only for a text that holds a single
quote and no double one. Inside, the quote in use, the backslash and everything unprintable is
escaped.
-/

namespace JobScript.Text

def hexDigit (n : Nat) : Char := ("0123456789abcdef".toList).getD n '0'

/-- The last `width` hexadecimal digits of `n`. -/
def hex : (width n : Nat) → List Char
  | 0, _ => []
  | width + 1, n => hex width (n / 16) ++ [hexDigit (n % 16)]

/-- The shortest of the three forms of escape that can hold the code point. -/
def escapeCode (n : Nat) : List Char :=
  if n < 0x100 then '\\' :: 'x' :: hex 2 n
  else if n < 0x10000 then '\\' :: 'u' :: hex 4 n
  else '\\' :: 'U' :: hex 8 n

/-- The mark for a text: single quotes unless that would cost an escape. -/
def quoteMark (cs : List Char) : Char :=
  if '\x27' ∈ cs ∧ '"' ∉ cs then '"' else '\x27'

/-- `keep` says which characters may stand as they are. -/
def escape (keep : Char → Bool) (mark c : Char) : List Char :=
  if c = mark ∨ c = '\\' then ['\\', c]
  else if c = '\n' then ['\\', 'n']
  else if c = '\r' then ['\\', 'r']
  else if c = '\t' then ['\\', 't']
  else if keep c then [c]
  else escapeCode (codeOf c)

def quoteWith (keep : Char → Bool) (s : String) : String :=
  let mark := quoteMark s.toList
  String.ofList (mark :: s.toList.flatMap (escape keep mark) ++ [mark])

def quoted (s : String) : String := quoteWith isPrintable s

/-- Quoted with every character outside ASCII escaped. -/
def quotedAscii (s : String) : String := quoteWith (fun c => isPrintable c && c.toNat < 0x80) s

/-- Bytes are shown like a text of Latin letters, with a `b` in front. -/
def quotedBytes (bytes : List UInt8) : String :=
  "b" ++ quotedAscii (String.ofList (bytes.map fun b => Char.ofNat b.toNat))

/-- The text with an escape for every half of a surrogate pair. -/
def spellHalves (s : String) : String :=
  String.ofList (s.toList.flatMap fun c => if isHalf c then escapeCode (codeOf c) else [c])

end JobScript.Text
