/-! # Control sequences

A terminal is told about colours by an escape character, an opening bracket, parameters, further bytes in
between and a closing character. Where there is no terminal such sequences are left out.
-/

namespace JobScript.Text

/-- Digits and the separators among them: a colour may be given as `38;5;1` or as `38:5:1`. -/
def isParameter (c : Char) : Bool := '0' ≤ c && c ≤ '?'

/-- The blank and the punctuation that may stand before the closing character. -/
def isIntermediate (c : Char) : Bool := ' ' ≤ c && c ≤ '/'

/-- The character that closes a sequence and says what it does. -/
def isFinal (c : Char) : Bool := '@' ≤ c && c ≤ '~'

/-- How long the control sequence in front is, nothing where there is none. No character is of two of the
three classes, so the longest run of each is the only way to read one. -/
def sequenceLength : List Char → Nat
  | '\x1b' :: '[' :: rest =>
    let parameters := (rest.takeWhile isParameter).length
    let middle := ((rest.drop parameters).takeWhile isIntermediate).length
    let n := parameters + middle
    if (rest.drop n).head?.any isFinal then n + 3 else 0
  | _ => 0

/-- What is left after `skip` characters when all control sequences are dropped. -/
def dropSequencesFrom : Nat → List Char → List Char
  | _, [] => []
  | skip + 1, _ :: rest => dropSequencesFrom skip rest
  | 0, c :: rest =>
    match sequenceLength (c :: rest) with
    | 0 => c :: dropSequencesFrom 0 rest
    | n + 1 => dropSequencesFrom n rest

def dropSequences (s : String) : String := String.ofList (dropSequencesFrom 0 s.toList)

end JobScript.Text
