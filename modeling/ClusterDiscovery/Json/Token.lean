/-
Tokens of a JSON text.

The bytes of a text are read once, from left to right. Outside of quotes a byte is a
blank, a mark, or part of a word; a word ends where a blank, a mark or a quote begins
and must then be a literal or a number. Inside quotes the bytes are collected, escapes
resolved, and their UTF-8 form is read at the closing quote. Control characters inside
quotes and unknown escapes are refused; half of a surrogate pair and bytes that spell
nothing only leave the token without content.
-/

import ClusterDiscovery.Json.Value

namespace ClusterDiscovery.Json

inductive Mark where
  | openArray | closeArray | openObject | closeObject | comma | colon
  deriving DecidableEq

inductive Token where
  | mark (mark : Mark)
  | null
  | bool (value : Bool)
  | number (value : Number)
  | text (value : Option String)
  deriving DecidableEq

def mark? (b : UInt8) : Option Mark :=
  if b = 0x5B then some .openArray
  else if b = 0x5D then some .closeArray
  else if b = 0x7B then some .openObject
  else if b = 0x7D then some .closeObject
  else if b = 0x2C then some .comma
  else if b = 0x3A then some .colon
  else none

def isGap (b : UInt8) : Bool := b == 0x20 || b == 0x0A || b == 0x0D || b == 0x09

def isDigitByte (b : UInt8) : Bool := 0x30 ≤ b && b ≤ 0x39

def digitsNat (digits : List UInt8) : Nat :=
  digits.foldl (fun value b => value * 10 + (b.toNat - 0x30)) 0

/-- Whole digits without a superfluous zero, and the rest of the word. -/
def wholeDigits? (word : List UInt8) : Option (List UInt8 × List UInt8) :=
  let digits := word.takeWhile isDigitByte
  let rest := word.dropWhile isDigitByte
  match digits with
  | [] => none
  | [_] => some (digits, rest)
  | first :: _ => if first = 0x30 then none else some (digits, rest)

def fractionDigits? : List UInt8 → Option (List UInt8 × List UInt8)
  | 0x2E :: rest =>
      match rest.takeWhile isDigitByte with
      | [] => none
      | digits => some (digits, rest.dropWhile isDigitByte)
  | rest => some ([], rest)

def exponentDigits? : List UInt8 → Option Nat
  | [] => none
  | digits => if digits.all isDigitByte then some (digitsNat digits) else none

def exponent? : List UInt8 → Option (Option Int)
  | [] => some none
  | e :: rest =>
      if e = 0x65 ∨ e = 0x45 then
        match rest with
        | 0x2D :: digits => (exponentDigits? digits).map fun n => some (-(n : Int))
        | 0x2B :: digits => (exponentDigits? digits).map fun n => some (n : Int)
        | digits => (exponentDigits? digits).map fun n => some (n : Int)
      else none

/-- The number that a word without its sign spells. A whole number keeps its digits;
minus zero is a fraction. -/
def unsignedNumber? (negative : Bool) (word : List UInt8) : Option Number := do
  let (whole, rest) ← wholeDigits? word
  let (fraction, rest) ← fractionDigits? rest
  let exponent ← exponent? rest
  let coefficient := digitsNat (whole ++ fraction)
  if fraction.isEmpty && exponent.isNone && !(negative && coefficient == 0) then
    some (.integer (if negative then -(coefficient : Int) else coefficient))
  else
    some (.decimal negative coefficient (exponent.getD 0 - fraction.length))

def wordToken? (word : List UInt8) : Option Token :=
  if word = "null".toUTF8.toList then some .null
  else if word = "true".toUTF8.toList then some (.bool true)
  else if word = "false".toUTF8.toList then some (.bool false)
  else match word with
  | 0x2D :: rest => (unsignedNumber? true rest).map .number
  | rest => (unsignedNumber? false rest).map .number

def hexValue? (b : UInt8) : Option Nat :=
  if isDigitByte b then some (b.toNat - 0x30)
  else if 0x61 ≤ b && b ≤ 0x66 then some (b.toNat - 0x57)
  else if 0x41 ≤ b && b ≤ 0x46 then some (b.toNat - 0x37)
  else none

inductive EscapeState where
  | none
  | started
  | hex (missing : Nat) (value : Nat)
  deriving DecidableEq

/-- A text in progress: its bytes, last first; whether it has lost its content; the first
half of a surrogate pair that waits for the second; the escape in progress. -/
structure OpenText where
  bytes : List UInt8
  broken : Bool
  half : Option Nat
  escape : EscapeState
  deriving DecidableEq

namespace OpenText

def start : OpenText := ⟨[], false, none, .none⟩

/-- A waiting half that is not completed leaves the text without content. -/
def settle (t : OpenText) : OpenText := ⟨t.bytes, t.broken || t.half.isSome, none, .none⟩

def push (t : OpenText) (b : UInt8) : OpenText :=
  let settled := t.settle
  ⟨b :: settled.bytes, settled.broken, none, .none⟩

def pushChar (t : OpenText) (c : Char) : OpenText :=
  ⟨(String.utf8EncodeChar c).reverse ++ t.bytes, t.broken, none, .none⟩

def pushUnit (t : OpenText) (unit : Nat) : OpenText :=
  if 0xDC00 ≤ unit ∧ unit ≤ 0xDFFF then
    match t.half with
    | some high =>
        t.pushChar (Char.ofNat (0x10000 + (high - 0xD800) * 0x400 + (unit - 0xDC00)))
    | none => ⟨t.bytes, true, none, .none⟩
  else
    let settled := t.settle
    if 0xD800 ≤ unit ∧ unit ≤ 0xDBFF then
      ⟨settled.bytes, settled.broken, some unit, .none⟩
    else settled.pushChar (Char.ofNat unit)

def finish (t : OpenText) : Option String :=
  let settled := t.settle
  if settled.broken then none else Text.Utf8.decode? settled.bytes.reverse

def shortEscape? (b : UInt8) : Option UInt8 :=
  if b = 0x22 ∨ b = 0x5C ∨ b = 0x2F then some b
  else if b = 0x62 then some 0x08
  else if b = 0x66 then some 0x0C
  else if b = 0x6E then some 0x0A
  else if b = 0x72 then some 0x0D
  else if b = 0x74 then some 0x09
  else none

def step (t : OpenText) (b : UInt8) : Option OpenText :=
  match t.escape with
  | .none =>
      if b = 0x5C then some ⟨t.bytes, t.broken, t.half, .started⟩
      else if b < 0x20 then none
      else some (t.push b)
  | .started =>
      if b = 0x75 then some ⟨t.bytes, t.broken, t.half, .hex 4 0⟩
      else (shortEscape? b).map t.push
  | .hex missing value =>
      match hexValue? b with
      | none => none
      | some digit =>
          let value := value * 16 + digit
          if missing ≤ 1 then some (t.pushUnit value)
          else some ⟨t.bytes, t.broken, t.half, .hex (missing - 1) value⟩

end OpenText

inductive Reading where
  | gap
  | word (bytes : List UInt8)
  | text (text : OpenText)

structure Lexer where
  tokens : List Token
  reading : Reading

namespace Lexer

def start (tokens : List Token) (b : UInt8) : Lexer :=
  if isGap b then ⟨tokens, .gap⟩
  else if b = 0x22 then ⟨tokens, .text .start⟩
  else match mark? b with
  | some mark => ⟨.mark mark :: tokens, .gap⟩
  | none => ⟨tokens, .word [b]⟩

def endsWord (b : UInt8) : Bool := isGap b || b == 0x22 || (mark? b).isSome

def step (lexer : Lexer) (b : UInt8) : Option Lexer :=
  match lexer.reading with
  | .gap => some (start lexer.tokens b)
  | .word bytes =>
      if endsWord b then
        (wordToken? bytes.reverse).map fun token => start (token :: lexer.tokens) b
      else some ⟨lexer.tokens, .word (b :: bytes)⟩
  | .text opened =>
      if b = 0x22 ∧ opened.escape = .none then
        some ⟨.text opened.finish :: lexer.tokens, .gap⟩
      else (opened.step b).map fun next => ⟨lexer.tokens, .text next⟩

def finish (lexer : Lexer) : Option (List Token) :=
  match lexer.reading with
  | .gap => some lexer.tokens.reverse
  | .word bytes => (wordToken? bytes.reverse).map fun token => (token :: lexer.tokens).reverse
  | .text _ => none

end Lexer

def tokens? (bytes : List UInt8) : Option (List Token) :=
  (feed Lexer.step ⟨[], .gap⟩ bytes).bind Lexer.finish

end ClusterDiscovery.Json
