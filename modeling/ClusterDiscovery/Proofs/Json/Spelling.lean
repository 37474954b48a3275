/-
Values that are written and read again.

A mark or a text may stand anywhere and leaves no word open. A word may stand where no other
word is open. In the tokens of a value a mark parts every two words, so the bytes of a value
fall apart into its tokens again, and these are parsed as the value.
-/

import ClusterDiscovery.Proofs.Json.Numeral
import ClusterDiscovery.Proofs.Text.Utf8
import Mathlib.Tactic.IntervalCases

namespace ClusterDiscovery.Json

open String (utf8EncodeChar)

def spelling (tokens : List Token) : List UInt8 :=
  (tokens.flatMap Token.spell).flatMap utf8EncodeChar

theorem spelling_append (first later : List Token) :
    spelling (first ++ later) = spelling first ++ spelling later := by
  unfold spelling
  rw [List.flatMap_append, List.flatMap_append]

theorem spelling_cons (token : Token) (later : List Token) :
    spelling (token :: later) = token.spell.flatMap utf8EncodeChar ++ spelling later := by
  unfold spelling
  rw [List.flatMap_cons, List.flatMap_append]

def IsPlainByte (b : UInt8) : Prop := 0x20 ≤ b ∧ b ≠ 0x22 ∧ b ≠ 0x5C

theorem isPlainByte_of_mem_utf8EncodeChar {c : Char} (printable : 0x20 ≤ c.toNat)
    (noQuote : c ≠ '"') (noEscape : c ≠ '\\') {b : UInt8} (member : b ∈ utf8EncodeChar c) :
    IsPlainByte b := by
  have quote : c.toNat ≠ 0x22 := fun same => noQuote (Char.toNat_inj.mp same)
  have escape : c.toNat ≠ 0x5C := fun same => noEscape (Char.toNat_inj.mp same)
  have number : 0x20 ≤ b.toNat ∧ b.toNat ≠ 0x22 ∧ b.toNat ≠ 0x5C := by
    by_cases ascii : c.toNat < 0x80
    · rw [Text.Utf8.utf8EncodeChar_of_lt ascii, List.mem_singleton] at member
      rw [member, UInt8.toNat_ofNat_of_lt' (Nat.lt_trans ascii (by decide))]
      exact ⟨printable, quote, escape⟩
    · have marked := Text.Utf8.le_of_mem_utf8EncodeChar (Nat.le_of_not_lt ascii) member
      omega
  refine ⟨UInt8.le_iff_toNat_le.mpr number.1, ?_, ?_⟩
  · rintro rfl
    exact number.2.1 rfl
  · rintro rfl
    exact number.2.2 rfl

namespace Lexer

def inText (found : List Token) (read : List UInt8) : Lexer :=
  ⟨found, .text ⟨read, false, none, .none⟩⟩

theorem feed_plain {bytes : List UInt8} (plain : ∀ b ∈ bytes, IsPlainByte b)
    (found : List Token) (read : List UInt8) :
    feed step (inText found read) bytes = some (inText found (bytes.reverse ++ read)) := by
  induction bytes generalizing read with
  | nil => rfl
  | cons b bytes ih =>
      obtain ⟨printable, noQuote, noEscape⟩ := plain b List.mem_cons_self
      have noControl : ¬ b < 0x20 := UInt8.not_lt.mpr printable
      have first : step (inText found read) b = some (inText found (b :: read)) := by
        simp only [step, inText, OpenText.step, noQuote, noEscape, noControl, false_and, if_false]
        rfl
      have later := ih (fun b member => plain b (List.mem_cons_of_mem _ member)) (b :: read)
      simp only [feed, first, later, List.reverse_cons, List.append_assoc, List.singleton_append]

/-- A character inside quotes is read as its own bytes, escaped or not. -/
theorem feed_escapedChar (c : Char) (found : List Token) (read : List UInt8) :
    feed step (inText found read) ((escapedChar c).flatMap utf8EncodeChar) =
      some (inText found ((utf8EncodeChar c).reverse ++ read)) := by
  by_cases quote : c = '"'
  · subst quote
    rfl
  by_cases escape : c = '\\'
  · subst escape
    rfl
  by_cases printable : 0x20 ≤ c.toNat
  · have letters : ∀ entry ∈ shortEscapes,
        entry.1 = '"' ∨ entry.1 = '\\' ∨ entry.1.toNat < 0x20 := by decide
    have letterless : shortEscapes.lookup c = none := by
      apply List.lookup_eq_none_iff.mpr
      intro entry member
      apply bne_iff_ne.mpr
      rintro rfl
      rcases letters entry member with same | same | control
      · exact quote same
      · exact escape same
      · exact Nat.not_le_of_lt control printable
    have itself : escapedChar c = [c] := by
      simp only [escapedChar, letterless]
      rw [if_neg (by omega), if_neg (by omega)]
    rw [itself, List.flatMap_singleton]
    exact feed_plain
      (fun b member => isPlainByte_of_mem_utf8EncodeChar printable quote escape member) found read
  · have control : c.toNat < 0x20 := Nat.lt_of_not_le printable
    have same : c = Char.ofNat c.toNat := (Char.ofNat_toNat c).symm
    generalize c.toNat = n at control same
    subst same
    interval_cases n <;> rfl

theorem feed_escapedChars (cs : List Char) (found : List Token) (read : List UInt8) :
    feed step (inText found read) ((cs.flatMap escapedChar).flatMap utf8EncodeChar) =
      some (inText found ((cs.flatMap utf8EncodeChar).reverse ++ read)) := by
  induction cs generalizing read with
  | nil => rfl
  | cons c cs ih =>
      rw [List.flatMap_cons, List.flatMap_append, feed_append, feed_escapedChar, Option.bind_some,
        ih, List.flatMap_cons, List.reverse_append, List.append_assoc]

theorem feed_quote (found : List Token) {read : List UInt8} {content : Option String}
    (finished : OpenText.finish ⟨read, false, none, .none⟩ = content) :
    feed step (inText found read) [0x22] = some ⟨.text content :: found, .gap⟩ := by
  subst finished
  rfl

inductive Holds : Lexer → List Token → Prop where
  | gap (found : List Token) : Holds ⟨found, .gap⟩ found
  | word {found : List Token} {bytes : List UInt8} {token : Token}
      (known : wordToken? bytes.reverse = some token) : Holds ⟨found, .word bytes⟩ (token :: found)

variable {lexer : Lexer} {found : List Token}

theorem Holds.finish_eq (holds : lexer.Holds found) : lexer.finish = some found.reverse := by
  cases holds with
  | gap => rfl
  | word known => simp only [finish, known, Option.map_some]

/-- A byte that ends words is read the same whether a word is open or not. -/
theorem Holds.step_eq (holds : lexer.Holds found) {b : UInt8} (ends : endsWord b = true) :
    lexer.step b = some (start found b) := by
  cases holds with
  | gap => rfl
  | word known => simp only [step, ends, known, if_true, Option.map_some]

theorem Holds.feed_mark (holds : lexer.Holds found) (mark : Mark) :
    feed step lexer ((Token.mark mark).spell.flatMap utf8EncodeChar) =
      some ⟨.mark mark :: found, .gap⟩ := by
  have byte : ∃ b, (Token.mark mark).spell.flatMap utf8EncodeChar = [b] ∧ endsWord b = true ∧
      start found b = ⟨.mark mark :: found, .gap⟩ := by
    cases mark <;> exact ⟨_, rfl, by decide, rfl⟩
  obtain ⟨b, bytes, ends, marked⟩ := byte
  rw [bytes, feed, holds.step_eq ends, marked]
  rfl

theorem Holds.feed_text (holds : lexer.Holds found) (text : Option String) :
    feed step lexer ((Token.text text).spell.flatMap utf8EncodeChar) =
      some ⟨.text text :: found, .gap⟩ := by
  have opened (later : List UInt8) :
      feed step lexer (0x22 :: later) = feed step (inText found []) later := by
    have quote := holds.step_eq (show endsWord 0x22 = true by decide)
    simp only [feed, quote]
    rfl
  cases text with
  | none => exact opened _
  | some text =>
      have bytes : (Token.text (some text)).spell.flatMap utf8EncodeChar =
          0x22 :: ((text.toList.flatMap escapedChar).flatMap utf8EncodeChar ++ [0x22]) := by
        have quote : utf8EncodeChar '"' = [0x22] := rfl
        change ('"' :: text.toList.flatMap escapedChar ++ ['"']).flatMap utf8EncodeChar = _
        rw [List.flatMap_append, List.flatMap_cons, List.flatMap_singleton, quote]
        rfl
      have content : OpenText.finish ⟨(text.toList.flatMap utf8EncodeChar).reverse, false, none,
          .none⟩ = some text := by
        have spelled := Text.Utf8.decode?_encode text
        simpa [OpenText.finish, OpenText.settle, Text.Utf8.encode] using spelled
      rw [bytes, opened, feed_append, feed_escapedChars, List.append_nil, Option.bind_some,
        feed_quote found content]

/-- A word whose bytes do not end it is open after them. -/
theorem feed_word {bytes : List UInt8} {token : Token} (found : List Token)
    (stays : ∀ b ∈ bytes, endsWord b = false) (known : wordToken? bytes = some token) :
    ∃ next, feed step ⟨found, .gap⟩ bytes = some next ∧ next.Holds (token :: found) := by
  have grown (later read : List UInt8) (more : ∀ b ∈ later, endsWord b = false) :
      feed step ⟨found, .word read⟩ later = some ⟨found, .word (later.reverse ++ read)⟩ := by
    induction later generalizing read with
    | nil => rfl
    | cons b later ih =>
        have first := more b List.mem_cons_self
        have rest := ih (b :: read) fun b member => more b (List.mem_cons_of_mem _ member)
        simp [feed, step, first, rest]
  have nonempty : bytes ≠ [] := by
    have noWord : wordToken? [] = none := by decide +kernel
    rintro rfl
    rw [noWord] at known
    cases known
  obtain ⟨b, later, rfl⟩ := List.exists_cons_of_ne_nil nonempty
  have first := stays b List.mem_cons_self
  have begun : step ⟨found, .gap⟩ b = some ⟨found, .word [b]⟩ := by
    simp only [endsWord, Bool.or_eq_false_iff, Option.isSome_eq_false_iff,
      Option.isNone_iff_eq_none, beq_eq_false_iff_ne] at first
    simp [step, start, first]
  have held : wordToken? (later.reverse ++ [b]).reverse = some token := by
    simpa using known
  refine ⟨_, ?_, Holds.word held⟩
  simp only [feed, begun]
  exact grown later [b] fun b member => stays b (List.mem_cons_of_mem _ member)

theorem endsWord_eq_false {b : UInt8} (ofNumber : IsNumberByte b) : endsWord b = false := by
  rcases ofNumber with digit | rfl | rfl
  · simp only [isDigitByte, Bool.and_eq_true, decide_eq_true_eq, UInt8.le_iff_toNat_le,
      UInt8.reduceToNat] at digit
    obtain ⟨low, high⟩ := digit
    rw [← UInt8.ofNat_toNat (x := b)]
    generalize b.toNat = n at low high ⊢
    interval_cases n <;> rfl
  · rfl
  · rfl

end Lexer

/-- A lexer reads the bytes of these tokens, and has found them after those it had. -/
def Lexer.Takes (tokens : List Token) (lexer : Lexer) (found : List Token) : Prop :=
  ∃ next, feed Lexer.step lexer (spelling tokens) = some next ∧
    next.Holds (tokens.reverse ++ found)

/-- Tokens that are found where no word is open. -/
def LexesApart (tokens : List Token) : Prop :=
  ∀ found, Lexer.Takes tokens ⟨found, .gap⟩ found

/-- Tokens that are found also where a word is open. -/
def LexesAnywhere (tokens : List Token) : Prop :=
  ∀ lexer found, Lexer.Holds lexer found → Lexer.Takes tokens lexer found

theorem LexesAnywhere.apart {tokens : List Token} (anywhere : LexesAnywhere tokens) :
    LexesApart tokens :=
  fun found => anywhere _ found (.gap found)

theorem lexesApart_nil : LexesApart [] := fun found => ⟨_, rfl, .gap found⟩

theorem Lexer.Takes.append {xs ys : List Token} {lexer : Lexer} {found : List Token}
    (first : Lexer.Takes xs lexer found) (later : LexesAnywhere ys) :
    Lexer.Takes (xs ++ ys) lexer found := by
  obtain ⟨middle, fed, holds⟩ := first
  obtain ⟨last, rest, all⟩ := later middle _ holds
  refine ⟨last, ?_, ?_⟩
  · rw [spelling_append, feed_append, fed]
    exact rest
  · rw [List.reverse_append, List.append_assoc]
    exact all

theorem LexesApart.append {xs ys : List Token} (first : LexesApart xs) (later : LexesAnywhere ys) :
    LexesApart (xs ++ ys) :=
  fun found => (first found).append later

theorem lexesAnywhere_cons {token : Token} {later : List Token}
    (parts : ∀ lexer found, Lexer.Holds lexer found →
      feed Lexer.step lexer (token.spell.flatMap utf8EncodeChar) = some ⟨token :: found, .gap⟩)
    (apart : LexesApart later) : LexesAnywhere (token :: later) := by
  intro lexer found holds
  obtain ⟨next, fed, all⟩ := apart (token :: found)
  refine ⟨next, ?_, ?_⟩
  · rw [spelling_cons, feed_append, parts lexer found holds]
    exact fed
  · rw [List.reverse_cons, List.append_assoc]
    exact all

theorem lexesAnywhere_mark (mark : Mark) {later : List Token} (apart : LexesApart later) :
    LexesAnywhere (.mark mark :: later) :=
  lexesAnywhere_cons (fun _ _ holds => holds.feed_mark mark) apart

theorem lexesAnywhere_text (text : Option String) {later : List Token} (apart : LexesApart later) :
    LexesAnywhere (.text text :: later) :=
  lexesAnywhere_cons (fun _ _ holds => holds.feed_text text) apart

theorem lexesApart_word {token : Token} (bytes : List UInt8)
    (spelled : token.spell.flatMap utf8EncodeChar = bytes)
    (stays : ∀ b ∈ bytes, Lexer.endsWord b = false) (known : wordToken? bytes = some token) :
    LexesApart [token] := by
  subst spelled
  intro found
  unfold Lexer.Takes
  have single : spelling [token] = token.spell.flatMap utf8EncodeChar := by
    rw [spelling_cons]
    exact List.append_nil _
  rw [single]
  exact Lexer.feed_word found stays known

theorem lexesApart_number {number : Number} (written : number.IsWritten) :
    LexesApart [.number number] :=
  lexesApart_word _ rfl
    (fun _ member => Lexer.endsWord_eq_false (isNumberByte_of_mem_spell written member))
    (wordToken?_spell written)

theorem lexesApart_null : LexesApart [.null] :=
  lexesApart_word [0x6E, 0x75, 0x6C, 0x6C] rfl (by decide +kernel) (by decide +kernel)

theorem lexesApart_bool (value : Bool) : LexesApart [.bool value] := by
  cases value with
  | true =>
      exact lexesApart_word [0x74, 0x72, 0x75, 0x65] rfl (by decide +kernel) (by decide +kernel)
  | false =>
      have known : wordToken? [0x66, 0x61, 0x6C, 0x73, 0x65] = some (.bool false) := by
        decide +kernel
      exact lexesApart_word _ rfl (by decide +kernel) known

inductive Value.IsWritten : Value → Prop where
  | null : IsWritten .null
  | bool (value : Bool) : IsWritten (.bool value)
  | number {number : Number} (written : number.IsWritten) : IsWritten (.number number)
  | text (text : Option String) : IsWritten (.text text)
  | array {items : List Value} (written : ∀ item ∈ items, IsWritten item) :
      IsWritten (.array items)
  | object {members : List (Option String × Value)}
      (written : ∀ member ∈ members, IsWritten member.2) : IsWritten (.object members)

theorem Value.isWritten_record {members : List (String × Value)}
    (written : ∀ member ∈ members, member.2.IsWritten) : (Value.record members).IsWritten := by
  apply Value.IsWritten.object
  intro member named
  obtain ⟨entry, known, rfl⟩ := List.mem_map.mp named
  exact written entry known

mutual

theorem lexesApart_tokens (value : Value) (written : value.IsWritten) :
    LexesApart value.tokens := by
  cases written with
  | null => exact lexesApart_null
  | bool value => exact lexesApart_bool value
  | number written => exact lexesApart_number written
  | text text => exact (lexesAnywhere_text text lexesApart_nil).apart
  | array written => exact (lexesAnywhere_mark _ (lexesApart_itemTokens _ written)).apart
  | object written => exact (lexesAnywhere_mark _ (lexesApart_memberTokens _ written)).apart

theorem lexesApart_itemTokens (items : List Value) (written : ∀ item ∈ items, item.IsWritten) :
    LexesApart (itemTokens items) := by
  cases items with
  | nil => exact (lexesAnywhere_mark _ lexesApart_nil).apart
  | cons item items =>
      rw [List.forall_mem_cons] at written
      rw [itemTokens]
      exact (lexesApart_tokens item written.1).append (lexesAnywhere_moreItems items written.2)

theorem lexesAnywhere_moreItems (items : List Value) (written : ∀ item ∈ items, item.IsWritten) :
    LexesAnywhere (moreItems items) := by
  cases items with
  | nil => exact lexesAnywhere_mark _ lexesApart_nil
  | cons item items =>
      rw [List.forall_mem_cons] at written
      rw [moreItems]
      exact lexesAnywhere_mark _
        ((lexesApart_tokens item written.1).append (lexesAnywhere_moreItems items written.2))

theorem lexesApart_memberTokens (members : List (Option String × Value))
    (written : ∀ member ∈ members, member.2.IsWritten) : LexesApart (memberTokens members) := by
  cases members with
  | nil => exact (lexesAnywhere_mark _ lexesApart_nil).apart
  | cons member members =>
      obtain ⟨name, value⟩ := member
      rw [List.forall_mem_cons] at written
      rw [memberTokens]
      have later := (lexesApart_tokens value written.1).append
        (lexesAnywhere_moreMembers members written.2)
      exact (lexesAnywhere_text name (lexesAnywhere_mark .colon later).apart).apart

theorem lexesAnywhere_moreMembers (members : List (Option String × Value))
    (written : ∀ member ∈ members, member.2.IsWritten) : LexesAnywhere (moreMembers members) := by
  cases members with
  | nil => exact lexesAnywhere_mark _ lexesApart_nil
  | cons member members =>
      obtain ⟨name, value⟩ := member
      rw [List.forall_mem_cons] at written
      rw [moreMembers]
      have later := (lexesApart_tokens value written.1).append
        (lexesAnywhere_moreMembers members written.2)
      exact lexesAnywhere_mark .comma
        (lexesAnywhere_text name (lexesAnywhere_mark .colon later).apart).apart

end

/-- A value is read from what it is written as, unless a number in it is held in binary. -/
theorem parse?_encode_toText {value : Value} (written : value.IsWritten) :
    parse? (Text.Utf8.encode value.toText) = some value := by
  obtain ⟨last, fed, holds⟩ := lexesApart_tokens value written []
  have bytes : Text.Utf8.encode value.toText = spelling value.tokens := by
    unfold Text.Utf8.encode Value.toText spelling
    rw [String.toList_ofList]
  have found : tokens? (spelling value.tokens) = some value.tokens := by
    unfold tokens?
    rw [fed, Option.bind_some, holds.finish_eq, List.append_nil, List.reverse_reverse]
  unfold parse?
  rw [bytes, found]
  exact ofTokens?_tokens value

end ClusterDiscovery.Json
