import JobScript.Text.Surrogate
import Mathlib.Tactic.Lemma

/-! # UTF-16 units

A character of the basic plane is one unit, any other is two, the halves of a surrogate pair. Units give back
the text that they come from, unless that text has halves of its own that come to stand side by side. -/

namespace JobScript.Text

def isHigh (n : Nat) : Bool := decide (0xD800 ≤ n) && decide (n < 0xDC00)
def isLow (n : Nat) : Bool := decide (0xDC00 ≤ n) && decide (n < 0xE000)

def units (c : Char) : List Nat :=
  let n := codeOf c
  if n < 0x10000 then [n] else [0xD800 + (n - 0x10000) / 0x400, 0xDC00 + (n - 0x10000) % 0x400]

def joined (high low : Nat) : Nat := 0x10000 + (high - 0xD800) * 0x400 + (low - 0xDC00)

/-- A high half and the low half behind it are one character. -/
def ofUnits : List Nat → List Char
  | [] => []
  | [n] => [charOf n]
  | high :: low :: rest =>
    if isHigh high && isLow low then Char.ofNat (joined high low) :: ofUnits rest
    else charOf high :: ofUnits (low :: rest)

/-- The text that is read where a text was written in units. -/
def heard (s : String) : String := String.ofList (ofUnits (s.toList.flatMap units))

variable {c : Char} {n high low : Nat} {cs : List Char} {rest : List Nat}

end JobScript.Text
