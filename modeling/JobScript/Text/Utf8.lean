/-! # Text in UTF-8

One to four bytes stand for a character. Only the shortest form of a character is read, and the code
points of surrogates are none.
-/

namespace JobScript.Text

/-- The payload of a byte that continues a character. -/
def continuation? (b : UInt8) : Option Nat :=
  if 0x80 ≤ b.toNat ∧ b.toNat < 0xC0 then some (b.toNat - 0x80) else none

/-- How many bytes continue the character that a byte opens, the payload of that byte, and the least
code point that needs so many bytes. -/
def opening? (b : UInt8) : Option (Nat × Nat × Nat) :=
  let n := b.toNat
  if n < 0x80 then some (0, n, 0)
  else if 0xC0 ≤ n ∧ n < 0xE0 then some (1, n - 0xC0, 0x80)
  else if 0xE0 ≤ n ∧ n < 0xF0 then some (2, n - 0xE0, 0x800)
  else if 0xF0 ≤ n ∧ n < 0xF8 then some (3, n - 0xF0, 0x10000)
  else none

def scalar? (least n : Nat) : Option Char :=
  if h : n.isValidChar then (if least ≤ n then some (Char.ofNatAux n h) else none) else none

/-- `pending` continuation bytes are still to come for a character whose payload so far is `sofar`. -/
def decodeFrom (pending sofar least : Nat) : List UInt8 → Option (List Char)
  | [] => if pending = 0 then some [] else none
  | b :: rest =>
    match pending with
    | 0 => do
      let (pending, sofar, least) ← opening? b
      if pending = 0 then return (← scalar? least sofar) :: (← decodeFrom 0 0 0 rest)
      decodeFrom pending sofar least rest
    | pending + 1 => do
      let sofar := sofar * 0x40 + (← continuation? b)
      if pending = 0 then return (← scalar? least sofar) :: (← decodeFrom 0 0 0 rest)
      decodeFrom pending sofar least rest

def decodeUtf8? (bytes : List UInt8) : Option String :=
  (decodeFrom 0 0 0 bytes).map String.ofList

def encodeUtf8 (s : String) : List UInt8 := s.toList.flatMap String.utf8EncodeChar

end JobScript.Text
