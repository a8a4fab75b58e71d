/-! # Classes of characters, given as ranges of code points -/

namespace JobScript.Text

/-- First and last code point of each range, both included. -/
abbrev Ranges := List (Nat × Nat)

def Ranges.contains (table : Ranges) (c : Char) : Bool :=
  table.any fun range => decide (range.1 ≤ c.toNat) && decide (c.toNat ≤ range.2)

theorem Ranges.contains_iff {table : Ranges} {c : Char} :
    table.contains c = true ↔ ∃ range ∈ table, range.1 ≤ c.toNat ∧ c.toNat ≤ range.2 := by
  simp [Ranges.contains]

end JobScript.Text
