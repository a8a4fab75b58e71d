import JobScript.Yaml.Error

/-! # Written dates and moments

A date has a year of four digits; a moment has a time after it, which may have a fraction of seconds
and an offset from universal time.
-/

namespace JobScript.Yaml

open Calendar Number

def digitsOf (cs : List Char) : Nat := ofDigits 10 (cs.map fun c => c.toNat - '0'.toNat)

/-- Exactly so many digits. -/
def takeDigits (count : Nat) (cs : List Char) : Option (Nat × List Char) :=
  let digits := cs.take count
  if digits.length = count ∧ digits.all Char.isDigit then some (digitsOf digits, cs.drop count)
  else none

/-- One digit, or two where there are two. -/
def takeShort (cs : List Char) : Option (Nat × List Char) :=
  takeDigits 2 cs <|> takeDigits 1 cs

def takeMark (mark : Char) : List Char → Option (List Char)
  | c :: rest => if c = mark then some rest else none
  | [] => none

structure Clock where
  hour : Nat
  minute : Nat
  second : Nat
  microsecond : Nat
  offset : Option Int
deriving DecidableEq, Repr

structure Stamp where
  date : Date
  clock : Option Clock
deriving DecidableEq, Repr

def isTab (c : Char) : Bool := c == ' ' || c == '\t'

/-- The first six digits count. -/
def microseconds (digits : List Char) : Nat :=
  digitsOf ((digits ++ List.replicate 6 '0').take 6)

def takeFraction : List Char → Nat × List Char
  | '.' :: rest => (microseconds (rest.takeWhile Char.isDigit), rest.dropWhile Char.isDigit)
  | cs => (0, cs)

/-- Hours, and maybe minutes, ahead of universal time or behind it. -/
def takeOffset (cs : List Char) : Option (Option Int) :=
  match cs.dropWhile isTab with
  | [] => if cs.isEmpty then some none else none
  | ['Z'] => some (some 0)
  | sign :: rest => do
    let direction : Int ← if sign = '+' then some 1 else if sign = '-' then some (-1) else none
    let (hours, rest) ← takeShort rest
    let minutes ← match rest with
      | [] => some 0
      | rest => do
        let (minutes, rest) ← takeDigits 2 (← takeMark ':' rest)
        if rest.isEmpty then some minutes else none
    return some (direction * (hours * 60 + minutes))

/-- A T or blanks stand between date and time. -/
def takeDivider : List Char → Option (List Char)
  | 'T' :: rest => some rest
  | 't' :: rest => some rest
  | c :: rest => if isTab c then some (rest.dropWhile isTab) else none
  | [] => none

def takeClock (cs : List Char) : Option Clock := do
  let (hour, cs) ← takeShort (← takeDivider cs)
  let (minute, cs) ← takeDigits 2 (← takeMark ':' cs)
  let (second, cs) ← takeDigits 2 (← takeMark ':' cs)
  let (microsecond, cs) := takeFraction cs
  return ⟨hour, minute, second, microsecond, ← takeOffset cs⟩

def takeDate (cs : List Char) : Option (Date × List Char) := do
  let (year, cs) ← takeDigits 4 cs
  let (month, cs) ← takeShort (← takeMark '-' cs)
  let (day, cs) ← takeShort (← takeMark '-' cs)
  return (⟨year, month, day⟩, cs)

def Stamp.ofChars? (cs : List Char) : Option Stamp := do
  let (date, cs) ← takeDate cs
  if cs.isEmpty then return ⟨date, none⟩
  return ⟨date, some (← takeClock cs)⟩

/-- A date by itself is taken for one only if month and day have two digits. -/
def isTimestamp (cs : List Char) : Bool :=
  (Stamp.ofChars? cs).any fun stamp => stamp.clock.isSome || cs.length == 10

end JobScript.Yaml
