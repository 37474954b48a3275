/-
JSON values.

Members of an object keep their order and their repetitions, so a reader of a record
can refuse a repeated member. A text that is well formed but spells no characters, such
as half of a surrogate pair, is present and has no content: a reader that ignores the
value never notices.
-/

import ClusterDiscovery.Binary64
import ClusterDiscovery.Text.Utf8

namespace ClusterDiscovery.Json

/-- A number: a whole one, a coefficient times a power of ten, or one that is held in binary. -/
inductive Number where
  | integer (value : Int)
  | decimal (negative : Bool) (coefficient : Nat) (exponent : Int)
  | binary (value : Binary64)
  deriving DecidableEq, Inhabited

inductive Value where
  | null
  | bool (value : Bool)
  | number (value : Number)
  | text (value : Option String)
  | array (items : List Value)
  | object (members : List (Option String × Value))
  deriving Inhabited

namespace Value

def string (value : String) : Value := .text (some value)

def int (value : Int) : Value := .number (.integer value)

def nat (value : Nat) : Value := int value

def record (members : List (String × Value)) : Value :=
  .object (members.map fun entry => (some entry.1, entry.2))

def strings (values : List String) : Value := .array (values.map string)

def isNull : Value → Bool
  | .null => true
  | _ => false

end Value

def feed {σ α : Type} (step : σ → α → Option σ) : σ → List α → Option σ
  | state, [] => some state
  | state, item :: rest =>
      match step state item with
      | none => none
      | some next => feed step next rest

theorem feed_append {σ α : Type} (step : σ → α → Option σ) (state : σ) (xs ys : List α) :
    feed step state (xs ++ ys) = (feed step state xs).bind fun next => feed step next ys := by
  induction xs generalizing state with
  | nil => rfl
  | cons x xs ih =>
      simp only [List.cons_append, feed]
      cases step state x with
      | none => rfl
      | some next => exact ih next

end ClusterDiscovery.Json
