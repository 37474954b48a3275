/-
Texts that end too early.

A text is unfinished if nothing in it is malformed and only its end is missing. What it
spells so far is the value in which all that is open is closed. A member that has no value
yet is left out, and so is a word or a text that is cut off.
-/

import ClusterDiscovery.Json.Parser

namespace ClusterDiscovery.Json

inductive Cut where
  | nothing
  | word
  | text
  deriving DecidableEq, Repr

/-- More bytes can make a word a literal or a number. -/
def isWordStart (word : List UInt8) : Bool :=
  ["null", "true", "false"].any (fun literal => word.isPrefixOf literal.toUTF8.toList) ||
    (wordToken? (word ++ [0x30])).isSome

/-- The tokens when the bytes have ended too early. A text that has lost its content already
counts as a whole one. -/
def Lexer.finishEarly? (lexer : Lexer) : Option (List Token × Cut) :=
  match lexer.reading with
  | .gap => some (lexer.tokens.reverse, .nothing)
  | .word bytes =>
      match wordToken? bytes.reverse with
      | some token => some ((token :: lexer.tokens).reverse, .nothing)
      | none => if isWordStart bytes.reverse then some (lexer.tokens.reverse, .word) else none
  | .text opened =>
      if opened.broken then some ((.text none :: lexer.tokens).reverse, .nothing)
      else some (lexer.tokens.reverse, .text)

def Expecting.admits : Expecting → Cut → Bool
  | .value, _ => true
  | .firstItem, _ => true
  | .firstName, cut => cut != .word
  | .name, cut => cut != .word
  | .colon, cut => cut == .nothing
  | .separator, cut => cut == .nothing
  | .done _, _ => false

def unfinished? (bytes : List UInt8) : Option Parser := do
  let lexer ← feed Lexer.step ⟨[], .gap⟩ bytes
  let (tokens, cut) ← lexer.finishEarly?
  let parser ← feed Parser.step ⟨[], .value⟩ tokens
  if parser.expecting.admits cut then some parser else none

/-- Close frames around a value that is complete, if there is one. -/
def closeFrames : Option Value → List Frame → Option Value
  | value, [] => value
  | value, .array items :: outer =>
      closeFrames (some (.array (value.toList ++ items).reverse)) outer
  | value, .object members name :: outer =>
      let members := value.toList.map (fun value => (name, value)) ++ members
      closeFrames (some (.object members.reverse)) outer

/-- What is spelled so far, if anything has begun. -/
def Parser.soFar? (parser : Parser) : Option Value := closeFrames none parser.frames

def Parser.pendingName? (parser : Parser) : Option String :=
  match parser.frames, parser.expecting with
  | [.object _ name], .colon => name
  | [.object _ name], .value => name
  | _, _ => none

def Parser.awaitsItem (parser : Parser) : Bool :=
  match parser.frames, parser.expecting with
  | [.array _], .value => true
  | _, _ => false

end ClusterDiscovery.Json
