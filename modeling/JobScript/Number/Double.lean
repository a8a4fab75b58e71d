/-! # Binary floating-point numbers of double precision

A finite number is `mantissa * 2 ^ exponent`. The mantissa has 53 bits, fewer only at the least
exponent, so every number has one form, apart from the sign of zero.
-/

namespace JobScript.Number

inductive Double
  | nan
  | infinite (negative : Bool)
  | finite (negative : Bool) (mantissa : Nat) (exponent : Int)
deriving DecidableEq, Repr

namespace Double

def leastExponent : Int := -1074
def greatestExponent : Int := 971

def zero (negative : Bool) : Double := .finite negative 0 leastExponent

/-- `num / (den * 2 ^ exponent)` as numerator and denominator. -/
def scaled (num den : Nat) (exponent : Int) : Nat × Nat :=
  if exponent < 0 then (num * Nat.pow 2 exponent.natAbs, den)
  else (num, den * Nat.pow 2 exponent.natAbs)

/-- The nearest whole number; halfway goes to the even neighbour. -/
def roundHalfEven (num den : Nat) : Nat :=
  let whole := num / den
  let rest := 2 * (num % den)
  if rest < den ∨ (rest = den ∧ whole % 2 = 0) then whole else whole + 1

/-- The exponent at which `num / den` has a mantissa of 53 bits, or the least exponent. -/
def exponentOf (num den : Nat) : Int :=
  let guess : Int := (num.log2 : Int) - den.log2 - 52
  let (n, d) := scaled num den guess
  max leastExponent (if n / d < Nat.pow 2 52 then guess - 1 else guess)

/-- The double nearest to `num / den`. -/
def ofRatio (negative : Bool) (num den : Nat) : Double :=
  if num = 0 then zero negative
  else
    let exponent := exponentOf num den
    let (n, d) := scaled num den exponent
    let mantissa := roundHalfEven n d
    let (mantissa, exponent) :=
      if mantissa = Nat.pow 2 53 then (Nat.pow 2 52, exponent + 1) else (mantissa, exponent)
    if greatestExponent < exponent then .infinite negative else .finite negative mantissa exponent

def ofInt (n : Int) : Double := ofRatio (n < 0) n.natAbs 1

/-- The exact value of a finite number, as numerator and denominator. -/
def ratio? : Double → Option (Int × Nat)
  | .finite negative mantissa exponent =>
    let (num, den) := scaled mantissa 1 (-exponent)
    some (if negative then -(num : Int) else num, den)
  | _ => none

def neg : Double → Double
  | .nan => .nan
  | .infinite negative => .infinite !negative
  | .finite negative mantissa exponent => .finite (!negative) mantissa exponent

def isNegative : Double → Bool
  | .nan => false
  | .infinite negative => negative
  | .finite negative _ _ => negative

def isZero : Double → Bool
  | .finite _ mantissa _ => mantissa == 0
  | _ => false

/-- Numeric equality: nothing equals NaN, and the two zeros are equal. -/
def numEq (x y : Double) : Bool :=
  x != .nan && ((x.isZero && y.isZero) || x == y)

def eqInt (x : Double) (n : Int) : Bool :=
  match x.ratio? with
  | some (num, den) => num == n * den
  | none => false

def mul (x y : Double) : Double :=
  let negative := x.isNegative != y.isNegative
  match x.ratio?, y.ratio? with
  | some (n, d), some (n', d') => ofRatio negative (n * n').natAbs (d * d')
  | _, _ =>
    if x == .nan || y == .nan || x.isZero || y.isZero then .nan else .infinite negative

def add (x y : Double) : Double :=
  match x.ratio?, y.ratio? with
  | some (n, d), some (n', d') =>
    let num := n * d' + n' * d
    ofRatio (if num = 0 then x.isNegative && y.isNegative else num < 0) num.natAbs (d * d')
  | none, some _ => x
  | some _, none => y
  | none, none => if x == y then x else .nan

end Double

end JobScript.Number
