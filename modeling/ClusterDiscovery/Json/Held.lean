/-
Values that are held whole.

Some parts of a document have no type of their own and are kept as they are. Such a value
must be legible to its last text, its numbers must be whole numbers of 64 bits or finite
binary ones, and it may not nest deeper than the room that is left where it stands. Of
several members of one name it keeps the last.
-/

import ClusterDiscovery.Json.Record

namespace ClusterDiscovery.Json

def depthLimit : Nat := 127

def Number.toBinary : Number → Binary64
  | .integer value => .ofDigits (value < 0) value.natAbs 0
  | .decimal negative coefficient exponent => .ofDigits negative coefficient exponent
  | .binary value => value

def Number.ofBinary? : Binary64 → Option Number
  | .finite negative mantissa exponent => some (.binary (.finite negative mantissa exponent))
  | _ => none

/-- A number as it is held. A whole number of 64 bits is held exactly and every other number
as a binary one. -/
def Number.held? (number : Number) : Option Number :=
  match number with
  | .integer value =>
      if -9223372036854775808 ≤ value ∧ value < UInt64.size then some number
      else Number.ofBinary? number.toBinary
  | _ => Number.ofBinary? number.toBinary

mutual

/-- A value as it is held where it may nest so deep. -/
def Value.held? : Nat → Value → Option Value
  | _, .null => some .null
  | _, .bool value => some (.bool value)
  | _, .number value => value.held?.map .number
  | _, .text value => value.map .string
  | 0, .array _ => none
  | 0, .object _ => none
  | room + 1, .array items => (itemsHeld? room items).map .array
  | room + 1, .object members =>
      (membersHeld? room members).map fun entries => .record (Keyed.ofList entries).entries

def itemsHeld? : Nat → List Value → Option (List Value)
  | _, [] => some []
  | room, item :: rest => do
      let item ← Value.held? room item
      some (item :: (← itemsHeld? room rest))

def membersHeld? : Nat → List (Option String × Value) → Option (List (String × Value))
  | _, [] => some []
  | room, (name, value) :: rest => do
      let name ← name
      let value ← Value.held? room value
      some ((name, value) :: (← membersHeld? room rest))

end

/-- A value that can be held where it may nest so deep. -/
def Value.isLegible (room : Nat) (value : Value) : Bool := (value.held? room).isSome

end ClusterDiscovery.Json
