/-
Natural numbers in decimal digits.

A number may start with a plus sign and holds at least one digit. It is read digit by
digit, so of two faults the one further to the left is reported: a character that is no
digit, or the digit at which the number passes its greatest value.
-/

namespace ClusterDiscovery.Text

inductive NumberFault where
  | empty
  | invalidDigit
  | tooLarge
  deriving DecidableEq, Repr

def NumberFault.message : NumberFault → String
  | .empty => "cannot parse integer from empty string"
  | .invalidDigit => "invalid digit found in string"
  | .tooLarge => "number too large to fit in target type"

def digit? (c : Char) : Option Nat := if c.isDigit then some (c.toNat - '0'.toNat) else none

/-- Append digits to a number that stays at most `limit`. -/
def readDigits (limit : Nat) : Nat → List Char → Except NumberFault Nat
  | value, [] => .ok value
  | value, c :: rest =>
      match digit? c with
      | none => .error .invalidDigit
      | some digit =>
          let longer := value * 10 + digit
          if longer ≤ limit then readDigits limit longer rest else .error .tooLarge

def readNumber (limit : Nat) (text : String) : Except NumberFault Nat :=
  match text.toList with
  | [] => .error .empty
  | ['+'] => .error .invalidDigit
  | '+' :: rest => readDigits limit 0 rest
  | chars => readDigits limit 0 chars

end ClusterDiscovery.Text
