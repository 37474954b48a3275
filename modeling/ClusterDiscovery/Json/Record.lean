/-
Reading records out of JSON values.

A record is read from an object, whose members may stand in any order, or from an array
that gives its fields in their declared order. Unknown members are ignored whatever they
hold, and a field that occurs twice is refused. Four rules say what an absent field and
a null one mean; every record states the rule of each of its fields.
-/

import ClusterDiscovery.Json.Value
import ClusterDiscovery.Keyed

namespace ClusterDiscovery.Json

universe u

abbrev Reader (α : Type u) := Value → Option α

def namedMembers? (members : List (Option String × Value)) : Option (List (String × Value)) :=
  members.mapM fun entry => entry.1.map fun name => (name, entry.2)

def occursOnce (members : List (String × Value)) (name : String) : Bool :=
  (members.filter fun entry => entry.1 == name).length ≤ 1

/-- The values of the given fields, `none` for an absent one. -/
def fields? (names : List String) : Value → Option (List (Option Value))
  | .object members => do
      let members ← namedMembers? members
      if names.all (occursOnce members) then some (names.map fun name => members.lookup name)
      else none
  | .array items =>
      if items.length ≤ names.length then
        some (items.map some ++ List.replicate (names.length - items.length) none)
      else none
  | _ => none

/-- An absent field has a default and null is refused. -/
def orAbsent {α : Type u} (default : α) (read : Reader α) : Option Value → Option α
  | none => some default
  | some value => read value

/-- An absent field and null have the same default. -/
def orNull {α : Type u} (default : α) (read : Reader α) : Option Value → Option α
  | none => some default
  | some .null => some default
  | some value => read value

/-- An absent field and null are both nothing. -/
def optional {α : Type u} (read : Reader α) : Option Value → Option (Option α)
  | none => some none
  | some .null => some none
  | some value => (read value).map some

def required {α : Type u} (read : Reader α) : Option Value → Option α
  | none => none
  | some value => read value

def readText : Reader String
  | .text value => value
  | _ => none

/-- A word of a list of words, alone or as the name of the only member of an object that
holds nothing else. -/
def readWord : Reader String
  | .text value => value
  | .object [(some word, .null)] => some word
  | _ => none

def readBool : Reader Bool
  | .bool value => some value
  | _ => none

def readInteger (low high : Int) : Reader Int
  | .number (.integer value) => if low ≤ value ∧ value ≤ high then some value else none
  | _ => none

def readSigned : Reader Int := readInteger (-9223372036854775808) 9223372036854775807

def readNatural (bits : Nat) : Reader Nat := fun value =>
  (readInteger 0 (Nat.pow 2 bits - 1) value).map Int.toNat

def readList {α : Type} (read : Reader α) : Reader (List α)
  | .array items => items.mapM read
  | _ => none

/-- An object as a map; the last of several values of one name counts, and all of them are
read. -/
def readTable {α : Type} (read : Reader α) : Reader (Keyed α)
  | .object members => do
      let members ← namedMembers? members
      let entries ← members.mapM fun entry => (read entry.2).map fun value => (entry.1, value)
      some (Keyed.ofList entries)
  | _ => none

def readMembers : Reader (List (String × Value))
  | .object members => namedMembers? members
  | _ => none

/-- The last value of a member, all of whose values are read; nothing if it is absent or
null. -/
def lastMember? {α : Type} (read : Reader α) (members : List (String × Value))
    (name : String) : Option (Option α) := do
  let values ← (members.filter fun entry => entry.1 == name).mapM fun entry =>
    optional read (some entry.2)
  some (values.getLast?.getD none)

def Value.member? (value : Value) (name : String) : Option Value :=
  match value with
  | .object members => members.lookup (some name)
  | _ => none

def tableValue {α : Type} (write : α → Value) (table : Keyed α) : Value :=
  .record (table.entries.map fun entry => (entry.1, write entry.2))

def presentMembers (members : List (String × Option Value)) : Value :=
  .record (members.filterMap fun entry => entry.2.map fun value => (entry.1, value))

end ClusterDiscovery.Json
