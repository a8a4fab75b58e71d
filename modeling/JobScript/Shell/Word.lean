/-! # Words of the shell

A text becomes one word of a command line: bare if every character is safe, else between single
quotes, where a single quote itself stands between double quotes.
-/

namespace JobScript.Shell.Word

/-- ASCII letters, digits and the marks without a meaning of their own. -/
def isSafe (c : Char) : Bool :=
  ('a' ≤ c && c ≤ 'z') || ('A' ≤ c && c ≤ 'Z') || ('0' ≤ c && c ≤ '9') ||
    c ∈ ['_', '@', '%', '+', '=', ':', ',', '.', '/', '-']

/-- Closes the quotes, writes the single quote between double ones, and opens them again. -/
def escape (c : Char) : List Char :=
  if c = '\x27' then ['\x27', '"', '\x27', '"', '\x27'] else [c]

def encode (cs : List Char) : List Char :=
  if !cs.isEmpty && cs.all isSafe then cs else '\x27' :: cs.flatMap escape ++ ['\x27']

@[simp] theorem encode_nil : encode [] = ['\x27', '\x27'] := rfl

/-- Safe words stand as they are. -/
theorem encode_of_isSafe {cs : List Char} (hne : cs ≠ []) (h : ∀ c ∈ cs, isSafe c = true) :
    encode cs = cs := by
  have hs : cs.all isSafe = true := List.all_eq_true.2 h
  simp [encode, hne, hs]

theorem encode_ne_nil (cs : List Char) : encode cs ≠ [] := by
  unfold encode
  split
  · rename_i h
    rintro rfl
    simp at h
  · simp

def quote (s : String) : String := String.ofList (encode s.toList)

end JobScript.Shell.Word
