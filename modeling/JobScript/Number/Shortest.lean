import JobScript.Number.Double

/-! # The shortest decimal text of a double

Of all decimals that read back as the same double, the one with the fewest digits is written, and of
several such the nearest. Numbers from `1e-4` up to `1e16` are written out, others with an exponent
of at least two digits.
-/

namespace JobScript.Number

/-- `digits * 10 ^ exponent`. -/
structure Decimal where
  digits : Nat
  exponent : Int
deriving DecidableEq, Repr

/-- The greatest `p` with `10 ^ p ≤ num / den`. -/
def floorLog10 (num den : Nat) : Int :=
  if den ≤ num then ((Nat.toDigits 10 (num / den)).length : Int) - 1
  else
    let width := (Nat.toDigits 10 (den / num)).length
    if den ≤ num * Nat.pow 10 (width - 1) then -((width : Int) - 1) else -(width : Int)

/-- Numbers between `low` and `high`, all over `den`, round to the double; the ends do so if
`closed`. -/
structure Neighbourhood where
  value : Nat
  low : Nat
  high : Nat
  den : Nat
  closed : Bool

/-- A power of two is half as far from the double below it as from the one above. -/
def neighbourhood (mantissa : Nat) (exponent : Int) : Neighbourhood :=
  let (unit, den) := Double.scaled 1 1 (2 - exponent)
  let below := if mantissa = Nat.pow 2 52 ∧ exponent ≠ Double.leastExponent then 1 else 2
  { value := 4 * mantissa * unit, low := (4 * mantissa - below) * unit
    high := (4 * mantissa + 2) * unit, den, closed := mantissa % 2 == 0 }

/-- `digits * 10 ^ exponent` over `den`, as numerator and denominator. -/
def Decimal.over (d : Decimal) (den : Nat) : Nat × Nat :=
  if d.exponent < 0 then (d.digits * den, Nat.pow 10 d.exponent.natAbs)
  else (d.digits * Nat.pow 10 d.exponent.natAbs * den, 1)

def Neighbourhood.holds (around : Neighbourhood) (d : Decimal) : Bool :=
  let (num, den) := d.over around.den
  if around.closed then decide (around.low * den ≤ num) && decide (num ≤ around.high * den)
  else decide (around.low * den < num) && decide (num < around.high * den)

/-- The decimal of the grid `10 ^ exponent` that stands for the double, if one does. -/
def onGrid? (around : Neighbourhood) (exponent : Int) : Option Decimal :=
  let floor :=
    if exponent < 0 then around.value * Nat.pow 10 exponent.natAbs / around.den
    else around.value / (around.den * Nat.pow 10 exponent.natAbs)
  let below : Decimal := ⟨floor, exponent⟩
  let above : Decimal := ⟨floor + 1, exponent⟩
  match around.holds below, around.holds above with
  | true, false => some below
  | false, true => some above
  | false, false => none
  | true, true =>
    let (num, den) := below.over around.den
    let (num', _) := above.over around.den
    let gap := around.value * den - num
    let gap' := num' - around.value * den
    some (if gap < gap' ∨ (gap = gap' ∧ floor % 2 = 0) then below else above)

/-- Seventeen digits are always enough. -/
def shortest (mantissa : Nat) (exponent : Int) : Decimal :=
  let around := neighbourhood mantissa exponent
  let top := floorLog10 around.value around.den
  ((List.range 17).findSome? fun (n : Nat) => onGrid? around (top - n)).getD
    ⟨around.value / around.den, 0⟩

/-- The digits without trailing zeros, and how many stand before the decimal point. -/
def Decimal.places (d : Decimal) : List Char × Int :=
  let digits := Nat.toDigits 10 d.digits
  ((digits.reverse.dropWhile (· == '0')).reverse, d.exponent + digits.length)

def zeros (n : Nat) : List Char := List.replicate n '0'

def positional (digits : List Char) (point : Int) : List Char :=
  if point ≤ 0 then '0' :: '.' :: zeros point.natAbs ++ digits
  else
    let whole := point.natAbs
    let fraction := digits.drop whole
    digits.take whole ++ zeros (whole - digits.length) ++ '.' ::
      (if fraction.isEmpty then ['0'] else fraction)

def scientific (digits : List Char) (exponent : Int) : List Char :=
  let fraction := digits.drop 1
  let power := Nat.toDigits 10 exponent.natAbs
  digits.take 1 ++ (if fraction.isEmpty then [] else '.' :: fraction) ++
    'e' :: (if exponent < 0 then '-' else '+') :: zeros (2 - power.length) ++ power

def Double.display : Double → String
  | .nan => "nan"
  | .infinite negative => if negative then "-inf" else "inf"
  | .finite negative mantissa exponent =>
    let sign := if negative then "-" else ""
    if mantissa = 0 then sign ++ "0.0"
    else
      let (digits, point) := (shortest mantissa exponent).places
      sign ++ String.ofList
        (if -4 < point ∧ point ≤ 16 then positional digits point
          else scientific digits (point - 1))

end JobScript.Number
