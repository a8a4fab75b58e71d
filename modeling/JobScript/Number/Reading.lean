import JobScript.Number.Integer
import JobScript.Number.Shortest
import JobScript.Text.Case

/-! # Decimal text read as a double

A decimal is read as the double nearest to it. The words for infinity and not-a-number may be in any
case.
-/

namespace JobScript.Number

open JobScript.Text

/-- Whole digits, digits after the point, and the power of ten. -/
structure DecimalText where
  whole : List Nat
  fraction : List Nat
  power : Int
deriving DecidableEq, Repr

/-- Powers beyond this reach infinity or zero whatever the digits, unless there are as many. -/
def farPower (digits : Nat) : Nat := 400 + digits

def DecimalText.toDouble (d : DecimalText) (negative : Bool) : Double :=
  let digits := d.whole ++ d.fraction
  let num := ofDigits 10 digits
  let power := d.power - d.fraction.length
  if num = 0 then .zero negative
  else if (farPower digits.length : Int) < power then .infinite negative
  else if power < -(farPower digits.length : Int) then .zero negative
  else if power < 0 then .ofRatio negative num (Nat.pow 10 power.natAbs)
  else .ofRatio negative (num * Nat.pow 10 power.natAbs) 1

def readPower : List Char → Option (Int × List Char)
  | c :: rest =>
    if c = 'e' ∨ c = 'E' then
      let (negative, rest) := takeSign rest
      let (values, rest) := spanDigits 10 rest
      if values.isEmpty then none
      else some (if negative then -(ofDigits 10 values : Int) else ofDigits 10 values, rest)
    else some (0, c :: rest)
  | [] => some (0, [])

def readDecimal (cs : List Char) : Option (DecimalText × List Char) :=
  let (whole, rest) := spanDigits 10 cs
  let (fraction, rest) := match rest with
    | '.' :: rest => spanDigits 10 rest
    | rest => ([], rest)
  if whole.isEmpty && fraction.isEmpty then none
  else (readPower rest).map fun (power, rest) => (⟨whole, fraction, power⟩, rest)

def readUnsigned (negative : Bool) (cs : List Char) : Option (Double × List Char) :=
  let word := (toLower (String.ofList cs)).toList
  if "infinity".toList.isPrefixOf word then some (.infinite negative, cs.drop 8)
  else if "inf".toList.isPrefixOf word then some (.infinite negative, cs.drop 3)
  else if "nan".toList.isPrefixOf word then some (.nan, cs.drop 3)
  else (readDecimal cs).map fun (d, rest) => (d.toDouble negative, rest)

def Double.read? (text : String) : Option Double :=
  let (negative, body) := takeSign (text.toList.dropWhile isAround)
  match readUnsigned negative body with
  | some (x, rest) => if rest.all isAround then some x else none
  | none => none

end JobScript.Number
