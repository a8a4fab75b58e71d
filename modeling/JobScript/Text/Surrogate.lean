/-! # Halves of surrogate pairs

An escape may name one half of a surrogate pair, and no character stands for that. A text holds such a
half as a code point of plane 14 that is assigned to nothing, and gives it back where it is written.
A text with a half in it has no UTF-8 form.
-/

namespace JobScript.Text

def isSurrogate (n : Nat) : Bool := decide (0xD800 ≤ n) && decide (n < 0xE000)

/-- How far a half lies before the code point that holds it. -/
def surrogateShift : Nat := 0xD3000

/-- The character of a code point, or the one that holds it. -/
def charOf (n : Nat) : Char := Char.ofNat (if isSurrogate n then n + surrogateShift else n)

/-- Whether a character holds half of a surrogate pair. -/
def isHalf (c : Char) : Bool := isSurrogate (c.toNat - surrogateShift)

/-- The code point that a character stands for. -/
def codeOf (c : Char) : Nat := if isHalf c then c.toNat - surrogateShift else c.toNat

def isEncodable (s : String) : Bool := s.toList.all (!isHalf ·)

/-- Where only characters can be shown, the three bytes that a half would take become as many
replacement characters. -/
def replaceHalves (s : String) : String :=
  String.ofList (s.toList.flatMap fun c => if isHalf c then List.replicate 3 '\uFFFD' else [c])

end JobScript.Text
