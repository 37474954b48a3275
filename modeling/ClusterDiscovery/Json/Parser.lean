/-
From tokens to a value.

The parser keeps the arrays and objects that are open in a list, innermost first, so
values nest as deep as they like. Each token is allowed or refused by what may come next.
-/

import ClusterDiscovery.Json.Token

namespace ClusterDiscovery.Json

/-- An open array or object; what it holds so far, last first. -/
inductive Frame where
  | array (items : List Value)
  | object (members : List (Option String × Value)) (name : Option String)

inductive Expecting where
  | value
  | firstItem
  | firstName
  | name
  | colon
  | separator
  | done (value : Value)

structure Parser where
  frames : List Frame
  expecting : Expecting

namespace Parser

def put (frames : List Frame) (value : Value) : Parser :=
  match frames with
  | [] => ⟨[], .done value⟩
  | .array items :: outer => ⟨.array (value :: items) :: outer, .separator⟩
  | .object members name :: outer =>
      ⟨.object ((name, value) :: members) name :: outer, .separator⟩

def startValue (frames : List Frame) : Token → Option Parser
  | .mark .openArray => some ⟨.array [] :: frames, .firstItem⟩
  | .mark .openObject => some ⟨.object [] none :: frames, .firstName⟩
  | .mark _ => none
  | .null => some (put frames .null)
  | .bool value => some (put frames (.bool value))
  | .number value => some (put frames (.number value))
  | .text value => some (put frames (.text value))

def startMember (frames : List Frame) : Token → Option Parser
  | .text name =>
      match frames with
      | .object members _ :: outer => some ⟨.object members name :: outer, .colon⟩
      | _ => none
  | _ => none

def close (frames : List Frame) : Token → Option Parser
  | .mark .closeArray =>
      match frames with
      | .array items :: outer => some (put outer (.array items.reverse))
      | _ => none
  | .mark .closeObject =>
      match frames with
      | .object members _ :: outer => some (put outer (.object members.reverse))
      | _ => none
  | _ => none

def afterComma : List Frame → Option Parser
  | .array items :: outer => some ⟨.array items :: outer, .value⟩
  | .object members name :: outer => some ⟨.object members name :: outer, .name⟩
  | [] => none

def step (parser : Parser) (token : Token) : Option Parser :=
  let frames := parser.frames
  match parser.expecting with
  | .value => startValue frames token
  | .firstItem =>
      if token = .mark .closeArray then close frames token else startValue frames token
  | .firstName =>
      if token = .mark .closeObject then close frames token else startMember frames token
  | .name => startMember frames token
  | .colon => if token = .mark .colon then some ⟨frames, .value⟩ else none
  | .separator => if token = .mark .comma then afterComma frames else close frames token
  | .done _ => none

end Parser

def ofTokens? (tokens : List Token) : Option Value :=
  match feed Parser.step ⟨[], .value⟩ tokens with
  | some ⟨_, .done value⟩ => some value
  | _ => none

def parse? (bytes : List UInt8) : Option Value := (tokens? bytes).bind ofTokens?

end ClusterDiscovery.Json
