import JobScript.Text.Blank
import JobScript.Text.Digit
import JobScript.Text.Quoted

/-! # Whole numbers in text

A numeral may stand between blanks and carry a sign; numerals of base 2, 8 and 16 may carry the mark
of their base. Digits of every script count. A decimal numeral may not be longer than
`maxDigits`.
-/

namespace JobScript.Number

open JobScript.Text

inductive NumeralError
  | malformed (base : Nat) (text : String)
  | tooLong (digits : Nat)
  | tooLarge
deriving DecidableEq, Repr

/-- Longest decimal numeral that is read or written. -/
def maxDigits : Nat := 4300

def NumeralError.message : NumeralError → String
  | .malformed base text =>
    s!"invalid literal for int() with base {base}: " ++
      String.ofList ((quoted text).toList.take 200)
  | .tooLong digits =>
    s!"Exceeds the limit ({maxDigits} digits) for integer string conversion: value has {digits} " ++
      "digits; use sys.set_int_max_str_digits() to increase the limit"
  | .tooLarge =>
    s!"Exceeds the limit ({maxDigits} digits) for integer string conversion; " ++
      "use sys.set_int_max_str_digits() to increase the limit"

def digitValue? (c : Char) : Option Nat :=
  match decimalValue? c with
  | some value => some value
  | none =>
    if 'a' ≤ c ∧ c ≤ 'z' then some (c.toNat - 'a'.toNat + 10)
    else if 'A' ≤ c ∧ c ≤ 'Z' then some (c.toNat - 'A'.toNat + 10)
    else none

def digitBelow? (base : Nat) (c : Char) : Option Nat :=
  (digitValue? c).filter (· < base)

/-- The values of the digits in front, and what follows them. -/
def spanDigits (base : Nat) : List Char → List Nat × List Char
  | [] => ([], [])
  | c :: rest =>
    match digitBelow? base c with
    | some value => let (values, rest) := spanDigits base rest; (value :: values, rest)
    | none => ([], c :: rest)

def ofDigits (base : Nat) (values : List Nat) : Nat :=
  values.foldl (fun total value => total * base + value) 0

/-- What may stand around a numeral: blanks, but of ASCII only the space and those from the tab to the
carriage return. -/
def isAround (c : Char) : Bool :=
  c == ' ' || (decide ('\t' ≤ c) && decide (c ≤ '\r')) || (decide (0x80 ≤ c.toNat) && isBlank c)

def baseMark? : Nat → Option Char
  | 2 => some 'b'
  | 8 => some 'o'
  | 16 => some 'x'
  | _ => none

def dropMark (base : Nat) : List Char → List Char
  | '0' :: c :: rest => if baseMark? base = some c.toLower then rest else '0' :: c :: rest
  | cs => cs

def takeSign : List Char → Bool × List Char
  | '-' :: rest => (true, rest)
  | '+' :: rest => (false, rest)
  | cs => (false, cs)

def readInt (base : Nat) (text : String) : Except NumeralError Int :=
  let (negative, body) := takeSign (text.toList.dropWhile isAround)
  let (values, rest) := spanDigits base (dropMark base body)
  if base = 10 ∧ maxDigits < values.length then .error (.tooLong values.length)
  else if values.isEmpty || !rest.all isAround then .error (.malformed base text)
  else .ok (if negative then -(ofDigits base values : Int) else ofDigits base values)

def displayInt (n : Int) : String := toString n

/-- A number beyond the longest numeral has no text. -/
def writeInt (n : Int) : Except NumeralError String :=
  if Nat.pow 10 maxDigits ≤ n.natAbs then .error .tooLarge else .ok (displayInt n)

theorem displayInt_of_writeInt {n : Int} {text : String} (h : writeInt n = .ok text) :
    text = displayInt n := by
  unfold writeInt at h
  -- The bound is a large number that must not be computed.
  generalize Nat.pow 10 maxDigits = bound at h
  split at h
  · cases h
  · cases h
    rfl

end JobScript.Number
