/-
Quoted texts for diagnostics.

A quoted text stands between double quotes. Quotes and backslashes are escaped, the
usual controls have short escapes, and every other hidden character is written by its
code point in lower-case hexadecimal. A quoted secret is the constant redacted mark,
so the quoted form of a credential never depends on its secret part.
-/

import ClusterDiscovery.Text.Hidden

namespace ClusterDiscovery.Text

def hexDigits (code : Nat) : List Char := Nat.toDigits 16 code

def quotedChar (c : Char) : List Char :=
  if c = '"' then ['\\', '"']
  else if c = '\\' then ['\\', '\\']
  else if c = '\n' then ['\\', 'n']
  else if c = '\r' then ['\\', 'r']
  else if c = '\t' then ['\\', 't']
  else if c = '\x00' then ['\\', '0']
  else if isHidden c then "\\u\x7b".toList ++ hexDigits c.toNat ++ ['\x7d']
  else [c]

def quoted (text : String) : String :=
  String.ofList ('"' :: text.toList.flatMap quotedChar ++ ['"'])

def redacted : String := quoted "<redacted>"

def quotedRecord (name : String) (fields : List (String × String)) : String :=
  name ++ " \x7b " ++ ", ".intercalate (fields.map fun field => field.1 ++ ": " ++ field.2) ++
    " \x7d"

end ClusterDiscovery.Text
