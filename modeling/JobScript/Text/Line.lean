/-! # Lines

A text is cut at every line boundary that Unicode and the old control characters know. The cut
takes the boundary away, and a boundary at the very end opens no further line.
-/

namespace JobScript.Text

/-- Line feed, vertical tab, form feed, carriage return, the file, group and record separators,
next line, and the line and paragraph separators. -/
def isLineBreak (c : Char) : Bool :=
  c ∈ ['\n', '\x0b', '\x0c', '\r', '\x1c', '\x1d', '\x1e', '\x85', '\u2028', '\u2029']

/-- A carriage return takes a line feed right after it along. -/
def splitLines : List Char → List (List Char)
  | [] => []
  | '\r' :: '\n' :: rest => [] :: splitLines rest
  | c :: rest =>
    if isLineBreak c then [] :: splitLines rest
    else match splitLines rest with
      | [] => [[c]]
      | line :: lines => (c :: line) :: lines

@[simp] theorem splitLines_nil : splitLines [] = [] := rfl

/-- No line holds a line boundary. -/
theorem isLineBreak_of_mem_splitLines {cs line : List Char} {c : Char} (hl : line ∈ splitLines cs)
    (hc : c ∈ line) : isLineBreak c = false := by
  fun_induction splitLines cs generalizing line with
  | case1 => simp at hl
  | case2 rest ih =>
    rcases List.mem_cons.1 hl with rfl | hl
    · simp at hc
    · exact ih hl hc
  | case3 d rest _ hd ih =>
    rcases List.mem_cons.1 hl with rfl | hl
    · simp at hc
    · exact ih hl hc
  | case4 d rest _ hd he ih =>
    obtain rfl := List.mem_singleton.1 hl
    obtain rfl := List.mem_singleton.1 hc
    simpa using hd
  | case5 d rest _ hd first lines he ih =>
    rcases List.mem_cons.1 hl with rfl | hl
    · rcases List.mem_cons.1 hc with rfl | hc
      · simpa using hd
      · exact ih (he ▸ List.mem_cons_self ..) hc
    · exact ih (he ▸ List.mem_cons_of_mem _ hl) hc

def lines (s : String) : List String :=
  (splitLines s.toList).map String.ofList

/-- The lines of a block of text, each ended by a line feed. -/
def unlines (lines : List String) : String :=
  String.intercalate "\n" lines ++ "\n"

end JobScript.Text
