/-
Numbers that are written and read again.

A number that is not held in binary is written as the word that it is read from. Its digits
are counted off from the front of the word, and what is left of the word is nothing or an
exponent.
-/

import ClusterDiscovery.Json.Printer

namespace ClusterDiscovery.Json

open String (utf8EncodeChar)

def numeral (n : Nat) : List UInt8 := (Nat.toDigits 10 n).flatMap utf8EncodeChar

theorem numeral_of_lt {n : Nat} (small : n < 10) : numeral n = [UInt8.ofNat (0x30 + n)] := by
  have code : n.digitChar.toNat = 0x30 + n := Nat.toNat_digitChar_of_lt_ten small
  have ascii : n.digitChar.val.toNat ≤ 0x7F := by
    change n.digitChar.toNat ≤ 0x7F
    omega
  unfold numeral
  rw [Nat.toDigits_of_lt_base small, List.flatMap_singleton]
  unfold utf8EncodeChar
  rw [if_pos ascii, ← code]
  rfl

theorem numeral_append_digit {n d : Nat} (positive : 0 < n) (small : d < 10) :
    numeral (10 * n + d) = numeral n ++ [UInt8.ofNat (0x30 + d)] := by
  rw [← numeral_of_lt small]
  unfold numeral
  rw [← List.flatMap_append, Nat.toDigits_append_toDigits (by decide) positive small]

private theorem toNat_digit {d : Nat} (small : d < 10) :
    (UInt8.ofNat (0x30 + d)).toNat = 0x30 + d :=
  UInt8.toNat_ofNat_of_lt' (Nat.lt_of_lt_of_le (Nat.add_lt_add_left small 0x30) (by decide))

theorem isDigitByte_digit {d : Nat} (small : d < 10) :
    isDigitByte (UInt8.ofNat (0x30 + d)) = true := by
  simp only [isDigitByte, UInt8.le_iff_toNat_le, toNat_digit small, UInt8.reduceToNat,
    Bool.and_eq_true, decide_eq_true_eq]
  omega

theorem isDigitByte_of_mem_numeral {n : Nat} {b : UInt8} (member : b ∈ numeral n) :
    isDigitByte b = true := by
  induction n using Nat.base_induction 10 (by decide) with
  | single d small =>
      rw [numeral_of_lt small, List.mem_singleton] at member
      rw [member]
      exact isDigitByte_digit small
  | digit n d small positive ih =>
      rw [numeral_append_digit positive small, List.mem_append, List.mem_singleton] at member
      rcases member with earlier | last
      · exact ih earlier
      · rw [last]
        exact isDigitByte_digit small

theorem digitsNat_numeral (n : Nat) : digitsNat (numeral n) = n := by
  induction n using Nat.base_induction 10 (by decide) with
  | single d small =>
      rw [numeral_of_lt small]
      simp only [digitsNat, List.foldl_cons, List.foldl_nil, toNat_digit small]
      omega
  | digit n d small positive ih =>
      unfold digitsNat at ih
      rw [numeral_append_digit positive small]
      simp only [digitsNat, List.foldl_append, List.foldl_cons, List.foldl_nil, ih,
        toNat_digit small]
      omega

/-- A number of several digits does not start with zero. -/
theorem exists_numeral_eq_cons (n : Nat) :
    ∃ first digits, numeral n = first :: digits ∧ isDigitByte first = true ∧
      (digits = [] ∨ first ≠ 0x30) := by
  suffices ∃ first digits, numeral n = first :: digits ∧ (digits = [] ∨ first ≠ 0x30) ∧
      (0 < n → first ≠ 0x30) by
    obtain ⟨first, digits, written, short, _⟩ := this
    have member : first ∈ numeral n := by
      rw [written]
      exact List.mem_cons_self
    exact ⟨first, digits, written, isDigitByte_of_mem_numeral member, short⟩
  induction n using Nat.base_induction 10 (by decide) with
  | single d small =>
      refine ⟨_, [], numeral_of_lt small, Or.inl rfl, fun positive zero => ?_⟩
      have code := toNat_digit small
      rw [zero] at code
      simp only [UInt8.reduceToNat] at code
      omega
  | digit n d small positive ih =>
      obtain ⟨first, digits, written, _, nonzero⟩ := ih
      have leading := nonzero positive
      refine ⟨first, digits ++ [UInt8.ofNat (0x30 + d)], ?_, Or.inr leading, fun _ => leading⟩
      rw [numeral_append_digit positive small, written, List.cons_append]

theorem wholeDigits?_numeral_append (n : Nat) (rest : List UInt8)
    (ends : ∀ b ∈ rest.head?, isDigitByte b = false) :
    wholeDigits? (numeral n ++ rest) = some (numeral n, rest) := by
  have digits : ∀ b ∈ numeral n, isDigitByte b = true :=
    fun b member => isDigitByte_of_mem_numeral member
  have stops : rest.takeWhile isDigitByte = [] ∧ rest.dropWhile isDigitByte = rest := by
    cases rest with
    | nil => exact ⟨rfl, rfl⟩
    | cons b rest =>
        have noDigit := ends b rfl
        simp [noDigit]
  unfold wholeDigits?
  rw [List.takeWhile_append_of_pos digits, List.dropWhile_append_of_pos digits, stops.1, stops.2,
    List.append_nil]
  obtain ⟨first, later, written, _, short⟩ := exists_numeral_eq_cons n
  rw [written]
  cases later with
  | nil => rfl
  | cons second later =>
      rcases short with impossible | leading
      · cases impossible
      · exact if_neg leading

theorem exponentDigits?_numeral (n : Nat) : exponentDigits? (numeral n) = some n := by
  have digits : (numeral n).all isDigitByte = true :=
    List.all_eq_true.mpr fun b member => isDigitByte_of_mem_numeral member
  obtain ⟨first, later, written, _, _⟩ := exists_numeral_eq_cons n
  have value := digitsNat_numeral n
  rw [written] at digits value ⊢
  simp only [exponentDigits?, digits, value, if_true]

def signBytes (negative : Bool) : List UInt8 := if negative then [0x2D] else []

theorem flatMap_spellInteger (value : Int) :
    (spellInteger value).flatMap utf8EncodeChar =
      signBytes (value < 0) ++ numeral value.natAbs := by
  unfold spellInteger numeral signBytes
  rw [List.flatMap_append]
  by_cases negative : value < 0
  · simp only [negative, if_true, decide_true]
    rfl
  · simp only [negative, if_false, decide_false]
    rfl

theorem exponent?_spellInteger (value : Int) :
    exponent? (0x65 :: (spellInteger value).flatMap utf8EncodeChar) = some (some value) := by
  rw [flatMap_spellInteger]
  by_cases negative : value < 0
  · have opposite : -(value.natAbs : Int) = value := by omega
    generalize value.natAbs = n at opposite ⊢
    simp [exponent?, signBytes, negative, exponentDigits?_numeral, opposite]
  · have same : (value.natAbs : Int) = value := by omega
    obtain ⟨first, later, written, digit, _⟩ := exists_numeral_eq_cons value.natAbs
    have whole := exponentDigits?_numeral value.natAbs
    generalize value.natAbs = n at same written whole ⊢
    rw [written] at whole
    have noMinus : first ≠ 0x2D := by
      rintro rfl
      cases digit
    have noPlus : first ≠ 0x2B := by
      rintro rfl
      cases digit
    simp [exponent?, signBytes, negative, written, whole, same, noMinus, noPlus]

/-- A word that starts with a sign or a digit is a number or nothing. -/
theorem wordToken?_signed (negative : Bool) (n : Nat) (rest : List UInt8) :
    wordToken? (signBytes negative ++ (numeral n ++ rest)) =
      (unsignedNumber? negative (numeral n ++ rest)).map .number := by
  have null : "null".toUTF8.toList = [0x6E, 0x75, 0x6C, 0x6C] := by decide +kernel
  have yes : "true".toUTF8.toList = [0x74, 0x72, 0x75, 0x65] := by decide +kernel
  have no : "false".toUTF8.toList = [0x66, 0x61, 0x6C, 0x73, 0x65] := by decide +kernel
  unfold wordToken?
  rw [null, yes, no]
  cases negative with
  | true => simp [signBytes]
  | false =>
      obtain ⟨first, later, written, digit, _⟩ := exists_numeral_eq_cons n
      have others : first ≠ 0x6E ∧ first ≠ 0x74 ∧ first ≠ 0x66 ∧ first ≠ 0x2D := by
        refine ⟨?_, ?_, ?_, ?_⟩ <;> (rintro rfl; cases digit)
      simp [signBytes, written, others]

def Number.IsWritten : Number → Prop
  | .binary _ => False
  | _ => True

theorem flatMap_spell_decimal (negative : Bool) (coefficient : Nat) (power : Int) :
    (Number.decimal negative coefficient power).spell.flatMap utf8EncodeChar =
      signBytes negative ++ (numeral coefficient ++
        0x65 :: (spellInteger power).flatMap utf8EncodeChar) := by
  have exponent : utf8EncodeChar 'e' = [0x65] := rfl
  unfold Number.spell numeral
  rw [List.flatMap_append, List.flatMap_append, List.flatMap_cons, exponent, List.append_assoc]
  cases negative <;> rfl

/-- A number that is not held in binary is read from the word that it is written as. -/
theorem wordToken?_spell {number : Number} (written : number.IsWritten) :
    wordToken? (number.spell.flatMap utf8EncodeChar) = some (.number number) := by
  cases number with
  | integer value =>
      have whole := wholeDigits?_numeral_append value.natAbs [] (by simp)
      have read := wordToken?_signed (value < 0) value.natAbs []
      rw [List.append_nil] at whole read
      have signed : (if value < 0 then -(value.natAbs : Int) else value.natAbs) = value := by
        split <;> omega
      have nonzero : value < 0 → value.natAbs ≠ 0 := by omega
      simp only [Number.spell, flatMap_spellInteger, read]
      generalize value.natAbs = n at whole signed nonzero ⊢
      simp [unsignedNumber?, whole, fractionDigits?, exponent?, digitsNat_numeral, signed]
      exact nonzero
  | decimal negative coefficient power =>
      have whole := wholeDigits?_numeral_append coefficient
        (0x65 :: (spellInteger power).flatMap utf8EncodeChar) (by simp; decide)
      rw [flatMap_spell_decimal, wordToken?_signed]
      simp [unsignedNumber?, whole, fractionDigits?, exponent?_spellInteger, digitsNat_numeral]
  | binary value => cases written

def IsNumberByte (b : UInt8) : Prop := isDigitByte b = true ∨ b = 0x2D ∨ b = 0x65

theorem isNumberByte_of_mem_spellInteger {value : Int} {b : UInt8}
    (member : b ∈ (spellInteger value).flatMap utf8EncodeChar) : IsNumberByte b := by
  rw [flatMap_spellInteger, List.mem_append] at member
  rcases member with sign | digit
  · unfold signBytes at sign
    split at sign
    · exact Or.inr (Or.inl (List.mem_singleton.mp sign))
    · cases sign
  · exact Or.inl (isDigitByte_of_mem_numeral digit)

theorem isNumberByte_of_mem_spell {number : Number} (written : number.IsWritten) {b : UInt8}
    (member : b ∈ number.spell.flatMap utf8EncodeChar) : IsNumberByte b := by
  cases number with
  | integer value => exact isNumberByte_of_mem_spellInteger member
  | decimal negative coefficient power =>
      rw [flatMap_spell_decimal, List.mem_append, List.mem_append, List.mem_cons] at member
      rcases member with sign | digit | exponent | power
      · cases negative with
        | true => exact Or.inr (Or.inl (List.mem_singleton.mp sign))
        | false => cases sign
      · exact Or.inl (isDigitByte_of_mem_numeral digit)
      · exact Or.inr (Or.inr exponent)
      · exact isNumberByte_of_mem_spellInteger power
  | binary value => cases written

end ClusterDiscovery.Json
