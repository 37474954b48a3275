/-
Schemas of the operator's resources.

A schema describes one field: what it is for, the value it has when it is left out, and
the form of its values. A record has named fields, some of them required.
-/

import ClusterDiscovery.Json.Value

namespace ClusterDiscovery

open Json

inductive Shape where
  | text
  | flag
  | integer
  | time
  | texts
  | record (fields : List (String × Value)) (required : List String)

/-- The members of a schema that say what form the values have. -/
def Shape.members : Shape → List (String × Value)
  | .text => [("type", .string "string")]
  | .flag => [("type", .string "boolean")]
  | .integer => [("type", .string "integer"), ("format", .string "int64")]
  | .time =>
      [("type", .string "string"), ("format", .string "date-time"), ("nullable", .bool true)]
  | .texts =>
      [("type", .string "array"), ("items", .record [("type", .string "string")])]
  | .record fields required =>
      [("type", .string "object")] ++
        (if fields.isEmpty then [] else [("properties", .record fields)]) ++
        (if required.isEmpty then [] else [("required", .strings required)])

def schema (description : String) (shape : Shape) : Value :=
  .record (("description", .string description) :: shape.members)

def schemaOr (default : Value) (description : String) (shape : Shape) : Value :=
  .record (("default", default) :: ("description", .string description) :: shape.members)

def textSchema (description : String) : Value := schemaOr (.string "") description .text

end ClusterDiscovery
