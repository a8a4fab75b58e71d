import JobScript.Number.Reading
import JobScript.Text.Base64
import JobScript.Value
import JobScript.Yaml.Tag

/-! # Values of scalars

What the text of a scalar says as a value of the kind that its tag asks for.
-/

namespace JobScript.Yaml

open Number

def dropLowLines (text : String) : List Char := text.toList.filter (· ≠ '_')

/-- Whether a sign makes the number negative, and the text after the sign. There has to be a text. -/
def splitSign (cs : List Char) : Except YamlError (Bool × List Char) :=
  match cs with
  | [] => .error .noDigits
  | '-' :: rest => .ok (true, rest)
  | '+' :: rest => .ok (false, rest)
  | cs => .ok (false, cs)

def readWhole (base : Nat) (cs : List Char) : Except YamlError Int :=
  (readInt base (String.ofList cs)).mapError .numeral

/-- Parts between colons, each sixty times the next one. -/
def readSixties (cs : List Char) : Except YamlError Int := do
  let parts ← (cs.splitOn ':').mapM (readWhole 10)
  return parts.foldl (fun total part => total * 60 + part) 0

def readUnsignedInt : List Char → Except YamlError Int
  | [] => .error .noDigits
  | ['0'] => .ok 0
  | '0' :: 'b' :: rest => readWhole 2 rest
  | '0' :: 'x' :: rest => readWhole 16 rest
  | '0' :: rest => readWhole 8 ('0' :: rest)
  | cs => if ':' ∈ cs then readSixties cs else readWhole 10 cs

def intOf (text : String) : Except YamlError Int := do
  let (negative, cs) ← splitSign (dropLowLines text)
  let n ← readUnsignedInt cs
  return if negative then -n else n

def readDecimalText (cs : List Char) : Except YamlError Double :=
  let text := String.ofList cs
  match Double.read? text with
  | some x => .ok x
  | none => .error (.noDecimal text)

/-- A power of sixty too large for a double has none. -/
def sixtyPower (place : Nat) : Except YamlError Double :=
  match Double.ofInt (Nat.pow 60 place) with
  | .infinite _ => .error .farDecimal
  | x => .ok x

/-- The least part is added first. -/
def sumSixties (total : Double) (place : Nat) : List Double → Except YamlError Double
  | [] => .ok total
  | part :: rest => do
    sumSixties (total.add (part.mul (← sixtyPower place))) (place + 1) rest

def noNumberWord : String := ".nan"

def readUnsignedFloat (cs : List Char) : Except YamlError Double := do
  let word := String.ofList cs
  if word = ".inf" then return .infinite false
  else if word = noNumberWord then return .nan
  else if ':' ∈ cs then
    let parts ← (cs.splitOn ':').mapM readDecimalText
    sumSixties (.zero false) 0 parts.reverse
  else readDecimalText cs

/-- The sign of a decimal and its word, in lower case. -/
def floatWord (text : String) : Except YamlError (Bool × List Char) :=
  splitSign (Text.toLower (String.ofList (dropLowLines text))).toList

/-- Whether a decimal is spelt as no number in the way of the format. -/
def spellsNoNumber (text : String) : Bool :=
  match floatWord text with
  | .ok (_, cs) => String.ofList cs = noNumberWord
  | .error _ => false

def floatOf (text : String) : Except YamlError Double := do
  let (negative, cs) ← floatWord text
  let x ← readUnsignedFloat cs
  return if negative then x.neg else x

def boolOf (text : String) : Except YamlError Bool :=
  let word := Text.toLower text
  if word ∈ ["yes", "true", "on"] then .ok true
  else if word ∈ ["no", "false", "off"] then .ok false
  else .error (.unknownTruth word)

/-- Only ASCII text can stand for bytes. -/
def binaryOf (text : String) : Except YamlError (List UInt8) :=
  if text.toList.all (·.toNat < 0x80) then
    match Text.decodeBase64? text.toList with
    | some bytes => .ok bytes
    | none => .error .malformed
  else .error .malformed

def timestampOf (text : String) : Except YamlError Value :=
  match Stamp.ofChars? (Tag.dropLastBreak text.toList) with
  | none => .error .noTimestamp
  | some ⟨date, none⟩ => (date.check.mapError .calendar).map .date
  | some ⟨date, some clock⟩ =>
    let moment : Calendar.Moment :=
      ⟨date, clock.hour, clock.minute, clock.second, clock.microsecond, clock.offset⟩
    (moment.check.mapError .calendar).map .moment

/-- The value of a text under a tag for scalars. -/
def scalarValue (tag : Tag) (text : String) : Except YamlError Value :=
  match tag with
  | .null => .ok .null
  | .bool => (boolOf text).map .bool
  | .int => (intOf text).map .int
  | .float => (floatOf text).map .float
  | .binary => (binaryOf text).map .bytes
  | .timestamp => timestampOf text
  | .str => .ok (.str text)
  | _ => .error .malformed

end JobScript.Yaml
