/-
The written form of JSON values.

A value is a list of tokens and each token has one spelling, without blanks between
them. Inside quotes only the quote, the backslash and control characters are escaped, by one
letter where there is a letter for it. A number that is held in binary is written in the
fewest digits that read back as it.
A value is what its tokens parse to.
-/

import ClusterDiscovery.Binary64.Shortest
import ClusterDiscovery.Json.Parser
import ClusterDiscovery.Text.Quoted

namespace ClusterDiscovery.Json

open Text (hexDigits)

mutual

def Value.tokens : Value → List Token
  | .null => [.null]
  | .bool value => [.bool value]
  | .number value => [.number value]
  | .text value => [.text value]
  | .array items => .mark .openArray :: itemTokens items
  | .object members => .mark .openObject :: memberTokens members

def itemTokens : List Value → List Token
  | [] => [.mark .closeArray]
  | item :: rest => item.tokens ++ moreItems rest

def moreItems : List Value → List Token
  | [] => [.mark .closeArray]
  | item :: rest => .mark .comma :: item.tokens ++ moreItems rest

def memberTokens : List (Option String × Value) → List Token
  | [] => [.mark .closeObject]
  | (name, value) :: rest => .text name :: .mark .colon :: value.tokens ++ moreMembers rest

def moreMembers : List (Option String × Value) → List Token
  | [] => [.mark .closeObject]
  | (name, value) :: rest =>
      .mark .comma :: .text name :: .mark .colon :: value.tokens ++ moreMembers rest

end

def Mark.char : Mark → Char
  | .openArray => '['
  | .closeArray => ']'
  | .openObject => '\x7b'
  | .closeObject => '\x7d'
  | .comma => ','
  | .colon => ':'

def spellInteger (value : Int) : List Char :=
  (if value < 0 then ['-'] else []) ++ Nat.toDigits 10 value.natAbs

/-- The spelling of a decimal that is not negative. Its point is written where it stands
within 16 digits or not far in front of them; else there is one digit before the point, and
an exponent. -/
def spellDecimal (decimal : Binary64.Decimal) : List Char :=
  let digits := Nat.toDigits 10 decimal.digits
  let point := (digits.length : Int) + decimal.power
  let zeros (count : Int) : List Char := List.replicate count.toNat '0'
  if 0 ≤ decimal.power ∧ point ≤ 16 then digits ++ zeros decimal.power ++ ['.', '0']
  else if 0 < point ∧ point ≤ 16 then
    digits.take point.toNat ++ '.' :: digits.drop point.toNat
  else if -5 < point ∧ point ≤ 0 then '0' :: '.' :: zeros (-point) ++ digits
  else
    digits.take 1 ++ (if digits.length = 1 then [] else '.' :: digits.drop 1) ++ 'e' ::
      spellInteger (point - 1)

def Number.spell : Number → List Char
  | .integer value => spellInteger value
  | .decimal negative coefficient exponent =>
      (if negative then ['-'] else []) ++ Nat.toDigits 10 coefficient ++ 'e' ::
        spellInteger exponent
  | .binary (.finite negative mantissa exponent) =>
      (if negative then ['-'] else []) ++ spellDecimal (Binary64.shortest mantissa exponent)
  | .binary _ => "null".toList

def shortEscapes : List (Char × Char) :=
  [('"', '"'), ('\\', '\\'), ('\x08', 'b'), ('\t', 't'), ('\n', 'n'), ('\x0c', 'f'),
   ('\r', 'r')]

def escapedChar (c : Char) : List Char :=
  match shortEscapes.lookup c with
  | some letter => ['\\', letter]
  | none =>
      if c.toNat < 0x10 then ['\\', 'u', '0', '0', '0'] ++ hexDigits c.toNat
      else if c.toNat < 0x20 then ['\\', 'u', '0', '0'] ++ hexDigits c.toNat
      else [c]

/-- The spelling of a text; one without content is half of a surrogate pair. -/
def spellText : Option String → List Char
  | some text => '"' :: text.toList.flatMap escapedChar ++ ['"']
  | none => "\"\\ud800\"".toList

def Token.spell : Token → List Char
  | .mark found => [found.char]
  | .null => "null".toList
  | .bool true => "true".toList
  | .bool false => "false".toList
  | .number value => value.spell
  | .text value => spellText value

def Value.toText (value : Value) : String :=
  String.ofList (value.tokens.flatMap Token.spell)

mutual

private theorem feed_value (value : Value) (frames : List Frame) (rest : List Token) :
    feed Parser.step ⟨frames, .value⟩ (value.tokens ++ rest) =
      feed Parser.step (Parser.put frames value) rest := by
  cases value with
  | null => rfl
  | bool value => rfl
  | number value => rfl
  | text value => rfl
  | array items =>
      simp only [Value.tokens, List.cons_append, feed, Parser.step, Parser.startValue]
      exact feed_items items frames rest
  | object members =>
      simp only [Value.tokens, List.cons_append, feed, Parser.step, Parser.startValue]
      exact feed_members members frames rest

private theorem feed_items (items : List Value) (frames : List Frame) (rest : List Token) :
    feed Parser.step ⟨.array [] :: frames, .firstItem⟩ (itemTokens items ++ rest) =
      feed Parser.step (Parser.put frames (.array items)) rest := by
  cases items with
  | nil => rfl
  | cons item items =>
      have hFirst := feed_value item (.array [] :: frames) (moreItems items ++ rest)
      have hMore := feed_moreItems items [item] frames rest
      rw [itemTokens, List.append_assoc]
      rw [Parser.put] at hFirst
      simp only [List.reverse_singleton, List.singleton_append] at hMore
      rw [hMore] at hFirst
      rw [← hFirst]
      exact feed_firstItem item (.array [] :: frames) (moreItems items ++ rest)

private theorem feed_firstItem (item : Value) (frames : List Frame) (rest : List Token) :
    feed Parser.step ⟨frames, .firstItem⟩ (item.tokens ++ rest) =
      feed Parser.step ⟨frames, .value⟩ (item.tokens ++ rest) := by
  cases item <;> rfl

private theorem feed_moreItems (items found : List Value) (frames : List Frame)
    (rest : List Token) :
    feed Parser.step ⟨.array found :: frames, .separator⟩ (moreItems items ++ rest) =
      feed Parser.step (Parser.put frames (.array (found.reverse ++ items))) rest := by
  cases items with
  | nil =>
      rw [List.append_nil]
      rfl
  | cons item items =>
      have hFirst := feed_value item (.array found :: frames) (moreItems items ++ rest)
      have hMore := feed_moreItems items (item :: found) frames rest
      rw [Parser.put] at hFirst
      rw [hMore] at hFirst
      rw [List.reverse_cons, List.append_assoc, List.singleton_append] at hFirst
      simp only [moreItems, List.cons_append, List.append_assoc]
      exact hFirst

private theorem feed_members (members : List (Option String × Value)) (frames : List Frame)
    (rest : List Token) :
    feed Parser.step ⟨.object [] none :: frames, .firstName⟩ (memberTokens members ++ rest) =
      feed Parser.step (Parser.put frames (.object members)) rest := by
  cases members with
  | nil => rfl
  | cons member members =>
      obtain ⟨name, value⟩ := member
      have hFirst := feed_value value (.object [] name :: frames) (moreMembers members ++ rest)
      have hMore := feed_moreMembers members [(name, value)] name frames rest
      rw [Parser.put] at hFirst
      rw [hMore] at hFirst
      rw [List.reverse_singleton, List.singleton_append] at hFirst
      simp only [memberTokens, List.cons_append, List.append_assoc]
      exact hFirst

private theorem feed_moreMembers (members found : List (Option String × Value))
    (last : Option String) (frames : List Frame) (rest : List Token) :
    feed Parser.step ⟨.object found last :: frames, .separator⟩
        (moreMembers members ++ rest) =
      feed Parser.step (Parser.put frames (.object (found.reverse ++ members))) rest := by
  cases members with
  | nil =>
      rw [List.append_nil]
      rfl
  | cons member members =>
      obtain ⟨name, value⟩ := member
      have hFirst := feed_value value (.object found name :: frames)
        (moreMembers members ++ rest)
      have hMore := feed_moreMembers members ((name, value) :: found) name frames rest
      rw [Parser.put] at hFirst
      rw [hMore] at hFirst
      rw [List.reverse_cons, List.append_assoc, List.singleton_append] at hFirst
      simp only [moreMembers, List.cons_append, List.append_assoc]
      exact hFirst

end

/-- A value is what its tokens spell. -/
theorem ofTokens?_tokens (value : Value) : ofTokens? value.tokens = some value := by
  have h := feed_value value [] []
  rw [List.append_nil] at h
  rw [ofTokens?, h]
  rfl

end ClusterDiscovery.Json
