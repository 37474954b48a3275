/-
Base64 with its padding.

A text is accepted only in its canonical form: whole groups of four characters of the
standard alphabet, at most two padding signs and only at the end, and no set bits
beneath the padding.
-/

namespace ClusterDiscovery.Text

def base64Digit? (c : Char) : Option Nat :=
  if 'A' ≤ c ∧ c ≤ 'Z' then some (c.toNat - 'A'.toNat)
  else if 'a' ≤ c ∧ c ≤ 'z' then some (c.toNat - 'a'.toNat + 26)
  else if '0' ≤ c ∧ c ≤ '9' then some (c.toNat - '0'.toNat + 52)
  else if c = '+' then some 62
  else if c = '/' then some 63
  else none

def base64Decode? : List Char → Option (List UInt8)
  | [] => some []
  | [a, b, '=', '='] => do
      let x ← base64Digit? a
      let y ← base64Digit? b
      if y % 16 = 0 then some [UInt8.ofNat (x * 4 + y / 16)] else none
  | [a, b, c, '='] => do
      let x ← base64Digit? a
      let y ← base64Digit? b
      let z ← base64Digit? c
      if z % 4 = 0 then
        some [UInt8.ofNat (x * 4 + y / 16), UInt8.ofNat (y % 16 * 16 + z / 4)]
      else none
  | a :: b :: c :: d :: rest => do
      let x ← base64Digit? a
      let y ← base64Digit? b
      let z ← base64Digit? c
      let w ← base64Digit? d
      let others ← base64Decode? rest
      some (UInt8.ofNat (x * 4 + y / 16) :: UInt8.ofNat (y % 16 * 16 + z / 4) ::
        UInt8.ofNat (z % 4 * 64 + w) :: others)
  | _ => none

end ClusterDiscovery.Text
