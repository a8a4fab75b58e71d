/-! # Base64

Four characters stand for three bytes. Characters outside the alphabet are skipped; padding ends the
text once it completes a group of four.
-/

namespace JobScript.Text

def sextet? (c : Char) : Option Nat :=
  if 'A' ≤ c ∧ c ≤ 'Z' then some (c.toNat - 'A'.toNat)
  else if 'a' ≤ c ∧ c ≤ 'z' then some (c.toNat - 'a'.toNat + 26)
  else if '0' ≤ c ∧ c ≤ '9' then some (c.toNat - '0'.toNat + 52)
  else if c = '+' then some 62
  else if c = '/' then some 63
  else none

/-- `held` sextets of the group were read, `sofar` is what they hold beyond whole bytes, and `pads`
counts the padding since. -/
def decodeBase64From (held sofar pads : Nat) : List Char → Option (List UInt8)
  | [] => if held = 0 then some [] else none
  | c :: rest =>
    if c = '=' then
      if 2 ≤ held then
        if 4 ≤ held + pads + 1 then some [] else decodeBase64From held sofar (pads + 1) rest
      else decodeBase64From held sofar pads rest
    else match sextet? c with
      | none => decodeBase64From held sofar pads rest
      | some six =>
        let total := sofar * 64 + six
        match held with
        | 0 => decodeBase64From 1 total 0 rest
        | 1 => (UInt8.ofNat (total / 16) :: ·) <$> decodeBase64From 2 (total % 16) 0 rest
        | 2 => (UInt8.ofNat (total / 4) :: ·) <$> decodeBase64From 3 (total % 4) 0 rest
        | _ => (UInt8.ofNat total :: ·) <$> decodeBase64From 0 0 0 rest

def decodeBase64? (text : List Char) : Option (List UInt8) := decodeBase64From 0 0 0 text

end JobScript.Text
