import JobScript.Text.Ranges

/-! # Blank characters

The Unicode spaces, the line and paragraph separators and the control characters that separate
words, lines and records. The zero-width space and the byte order mark are not among them.
-/

namespace JobScript.Text

def blanks : Ranges :=
  [(0x09, 0x0D), (0x1C, 0x20), (0x85, 0x85), (0xA0, 0xA0), (0x1680, 0x1680), (0x2000, 0x200A),
   (0x2028, 0x2029), (0x202F, 0x202F), (0x205F, 0x205F), (0x3000, 0x3000)]

def isBlank (c : Char) : Bool := blanks.contains c

/-- The text without its trailing blanks. -/
def stripRight (s : String) : String :=
  String.ofList (s.toList.reverse.dropWhile isBlank).reverse

/-- The text without its leading and trailing blanks. -/
def strip (s : String) : String :=
  stripRight (String.ofList (s.toList.dropWhile isBlank))

end JobScript.Text
