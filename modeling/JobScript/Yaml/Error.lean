import JobScript.Calendar
import JobScript.Number.Integer

/-! # Why a document has no value -/

namespace JobScript.Yaml

open Number

/-- A document that breaks the rules of the format is malformed; one whose nodes go too far into one
another is too deep. All other cases are scalars whose text does not fit the kind of value that was
asked for. -/
inductive YamlError
  | malformed
  | tooDeep
  | noCodePoint
  | farCodePoint
  | numeral (e : NumeralError)
  | noDecimal (text : String)
  | noDigits
  | farDecimal
  | unknownTruth (word : String)
  | calendar (e : Calendar.CalendarError)
  | noTimestamp
  | timestampOfMapping
deriving DecidableEq, Repr

def YamlError.message? : YamlError → Option String
  | .malformed => none
  | .tooDeep => none
  | .noCodePoint => some "chr() arg not in range(0x110000)"
  | .numeral e => some e.message
  | .noDecimal text => some ("could not convert string to float: " ++ Text.quoted text)
  | .noDigits => some "string index out of range"
  | .farDecimal => none
  | .farCodePoint => none
  | .unknownTruth word => some (Text.quoted word)
  | .calendar e => some e.message
  | .noTimestamp => none
  | .timestampOfMapping => some "expected string or bytes-like object, got 'list'"

end JobScript.Yaml
