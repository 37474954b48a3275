/-
Form encoding of key and value pairs.

A space is written as a plus sign, the unreserved characters stand for themselves,
and every other byte of the UTF-8 form is a percent sign with two upper-case digits.
The encoding is injective on each component and a component never contains the
separators `&` and `=`.
-/

import ClusterDiscovery.Text.Utf8

namespace ClusterDiscovery.Text

/-- Bytes that stand for themselves in a form. -/
def isUnreserved (b : UInt8) : Bool :=
  (0x30 ≤ b && b ≤ 0x39) || (0x41 ≤ b && b ≤ 0x5A) || (0x61 ≤ b && b ≤ 0x7A) ||
    b == 0x2A || b == 0x2D || b == 0x2E || b == 0x5F

def upperHexDigit (n : Nat) : Char :=
  if n < 10 then Char.ofNat (0x30 + n) else Char.ofNat (0x41 + n - 10)

def formByte (b : UInt8) : List Char :=
  if b = 0x20 then ['+']
  else if isUnreserved b then [Char.ofNat b.toNat]
  else ['%', upperHexDigit (b.toNat / 16), upperHexDigit (b.toNat % 16)]

def formComponent (text : String) : String :=
  String.ofList ((Utf8.encode text).flatMap formByte)

def formEncode (pairs : List (String × String)) : String :=
  "&".intercalate (pairs.map fun pair => formComponent pair.1 ++ "=" ++ formComponent pair.2)

end ClusterDiscovery.Text
