/-
The block form of JSON values.

Every member and every item starts a line. The members of an object under a name are
indented by two blanks, the items of an array stand at the level of their name, and each
starts with a dash. A text stands without quotes unless it could be taken for something
else.
-/

import ClusterDiscovery.Json.Printer

namespace ClusterDiscovery.Json

def reservedWords : List String :=
  ["", "~", "null", "Null", "NULL", "true", "True", "TRUE", "false", "False", "FALSE",
   ".nan", ".NaN", ".NAN", ".inf", ".Inf", ".INF"]

def indicators : List Char :=
  ['-', '?', ':', ',', '[', ']', '\x7b', '\x7d', '#', '&', '*', '!', '|', '>', '\x27', '"', '%',
   '@', '\x60', ' ']

/-- A text may stand without quotes: it is no word of its own and no number, nothing in it
starts something else, and no colon or number sign divides it. -/
def isPlain (text : String) : Bool :=
  let chars := text.toList
  !reservedWords.contains text &&
    !(chars.head?.any fun c => indicators.contains c || c.isDigit || c == '+') &&
    chars.all (fun c => 0x20 ≤ c.toNat && c.toNat != 0x7F) &&
    !(chars.zip (chars.drop 1)).any (fun pair => pair == (':', ' ') || pair == (' ', '#')) &&
    !(chars.getLast?.any fun c => c == ':' || c == ' ')

def blockText (text : Option String) : String :=
  match text.filter isPlain with
  | some plain => plain
  | none =>
      match text with
      | some "" => "''"
      | _ => String.ofList (spellText text)

def bulleted : List String → List String
  | [] => []
  | first :: rest => ("- " ++ first) :: rest.map ("  " ++ ·)

def headed (name : String) : List String → List String
  | [] => []
  | first :: rest => (name ++ ": " ++ first) :: rest

mutual

def Value.blockLines : Value → List String
  | .null => ["null"]
  | .bool value => [if value then "true" else "false"]
  | .number value => [String.ofList value.spell]
  | .text value => [blockText value]
  | .array [] => ["[]"]
  | .array items => itemLines items
  | .object [] => ["\x7b\x7d"]
  | .object members => memberLines members

def itemLines : List Value → List String
  | [] => []
  | item :: rest => bulleted item.blockLines ++ itemLines rest

def memberLines : List (Option String × Value) → List String
  | [] => []
  | (name, .array (item :: items)) :: rest =>
      (blockText name ++ ":") :: itemLines (item :: items) ++ memberLines rest
  | (name, .object (member :: members)) :: rest =>
      (blockText name ++ ":") :: (memberLines (member :: members)).map ("  " ++ ·) ++
        memberLines rest
  | (name, value) :: rest => headed (blockText name) value.blockLines ++ memberLines rest

end

def Value.toBlock (value : Value) : String :=
  String.join (value.blockLines.map (· ++ "\n"))

end ClusterDiscovery.Json
