/-
Texts and their bytes.

The bytes of a character after the first are digits of its code point, and the first tells how
many there are. So the order of texts by code points is the order of their bytes, and the bytes
of a text spell it.
-/

import ClusterDiscovery.Text.Utf8
import Mathlib.Data.List.Basic
import Mathlib.Tactic.SplitIfs

namespace ClusterDiscovery.Text.Utf8

private theorem cons_lt_cons {n m : Nat} {xs ys : List UInt8} (small : m < 256) (le : n ≤ m)
    (later : n = m → xs < ys) : UInt8.ofNat n :: xs < UInt8.ofNat m :: ys := by
  apply List.cons_lt_cons_iff.mpr
  by_cases same : n = m
  · subst same
    exact Or.inr ⟨rfl, later rfl⟩
  · apply Or.inl
    rw [UInt8.lt_iff_toNat_lt, UInt8.toNat_ofNat_of_lt' small, UInt8.toNat_ofNat_of_lt']
    · omega
    · exact Nat.lt_of_le_of_lt le small

theorem utf8EncodeChar_append_lt {c d : Char} (smaller : c < d) (xs ys : List UInt8) :
    String.utf8EncodeChar c ++ xs < String.utf8EncodeChar d ++ ys := by
  have less : c.val.toNat < d.val.toNat := smaller
  have top : d.val.toNat < 0x110000 := by
    rcases d.valid with low | high <;> omega
  unfold String.utf8EncodeChar
  generalize c.val.toNat = v at *
  generalize d.val.toNat = w at *
  have third (n : Nat) : n / 4096 = n / 64 / 64 := (Nat.div_div_eq_div_mul n 64 64).symm
  have fourth (n : Nat) : n / 262144 = n / 64 / 64 / 64 := by
    rw [Nat.div_div_eq_div_mul, Nat.div_div_eq_div_mul]
  simp only [third, fourth]
  split_ifs
  all_goals simp only [List.cons_append, List.nil_append]
  all_goals first
    | omega
    | (repeat' refine cons_lt_cons (by omega) (by omega) fun _ => ?_
       omega)

private theorem append_lt_append_left (xs : List UInt8) {ys zs : List UInt8} (less : ys < zs) :
    xs ++ ys < xs ++ zs := by
  induction xs with
  | nil => exact less
  | cons x xs ih => exact List.cons_lt_cons_iff.mpr (Or.inr ⟨rfl, ih⟩)

/-- The order of texts is the order of their bytes. -/
theorem encode_lt_encode {first second : String} (less : first < second) :
    encode first < encode second := by
  unfold encode
  rw [String.lt_iff] at less
  generalize first.toList = cs at *
  generalize second.toList = ds at *
  induction cs generalizing ds with
  | nil =>
      cases ds with
      | nil => exact absurd less (List.lt_irrefl [])
      | cons d ds =>
          have nonempty : String.utf8EncodeChar d ≠ [] := String.utf8EncodeChar_ne_nil
          obtain ⟨b, bytes, same⟩ := List.exists_cons_of_ne_nil nonempty
          rw [List.flatMap_cons, same]
          exact List.nil_lt_cons _ _
  | cons c cs ih =>
      cases ds with
      | nil => exact absurd less (List.not_lt_nil _)
      | cons d ds =>
          rw [List.flatMap_cons, List.flatMap_cons]
          rcases List.cons_lt_cons_iff.mp less with smaller | ⟨rfl, later⟩
          · exact utf8EncodeChar_append_lt smaller _ _
          · exact append_lt_append_left _ (ih ds later)

theorem utf8EncodeChar_of_lt {c : Char} (ascii : c.toNat < 0x80) :
    String.utf8EncodeChar c = [UInt8.ofNat c.toNat] :=
  if_pos (Nat.le_of_lt_succ ascii)

/-- Every byte of a longer form is marked as a part of one. -/
theorem le_of_mem_utf8EncodeChar {c : Char} (long : 0x80 ≤ c.toNat) {b : UInt8}
    (member : b ∈ String.utf8EncodeChar c) : 0x80 ≤ b.toNat := by
  have notOne : ¬ c.val.toNat ≤ 0x7F := Nat.not_le.mpr long
  have marked (n count mark : Nat) (positive : 0 < count) (low : 0x80 ≤ mark)
      (fits : count + mark ≤ 256) : 0x80 ≤ (UInt8.ofNat (n % count + mark)).toNat := by
    have small := Nat.mod_lt n positive
    rw [UInt8.toNat_ofNat_of_lt' (Nat.lt_of_lt_of_le (Nat.add_lt_add_right small mark) fits)]
    omega
  unfold String.utf8EncodeChar at member
  simp only [notOne, if_false] at member
  split_ifs at member
  all_goals
    simp only [List.mem_cons, List.not_mem_nil, or_false] at member
    rcases member with rfl | rfl | rfl | rfl
    all_goals exact marked _ _ _ (by decide) (by decide) (by decide)

private theorem lead_ofNat {n : Nat} (small : n < 256) :
    lead (UInt8.ofNat n) =
      if n < 0x80 then .whole (Char.ofNat n)
      else if n < 0xC2 then .stray
      else if n < 0xE0 then .started ⟨1, 0x80, 0xBF, n % 32⟩
      else if n = 0xE0 then .started ⟨2, 0xA0, 0xBF, 0⟩
      else if n = 0xED then .started ⟨2, 0x80, 0x9F, 13⟩
      else if n < 0xF0 then .started ⟨2, 0x80, 0xBF, n % 16⟩
      else if n = 0xF0 then .started ⟨3, 0x90, 0xBF, 0⟩
      else if n < 0xF4 then .started ⟨3, 0x80, 0xBF, n % 8⟩
      else if n = 0xF4 then .started ⟨3, 0x80, 0x8F, 4⟩
      else .stray := by
  have number : (UInt8.ofNat n).toNat = n := UInt8.toNat_ofNat_of_lt' small
  unfold lead
  simp only [UInt8.lt_iff_toNat_lt, ← UInt8.toNat_inj, number]
  rfl

private theorem step_started {found : List (Option Char)} {s : Started} {n : Nat}
    (low : s.low.toNat ≤ n) (high : n ≤ s.high.toNat) :
    Scan.step ⟨found, some s⟩ (UInt8.ofNat n) =
      if s.missing ≤ 1 then ⟨some (Char.ofNat (s.bits * 64 + n % 64)) :: found, none⟩
      else ⟨found, some ⟨s.missing - 1, 0x80, 0xBF, s.bits * 64 + n % 64⟩⟩ := by
  have small : n < 256 := Nat.lt_of_le_of_lt high s.high.toNat_lt
  have number : (UInt8.ofNat n).toNat = n := UInt8.toNat_ofNat_of_lt' small
  have inside : (s.low ≤ UInt8.ofNat n && UInt8.ofNat n ≤ s.high) = true := by
    simp only [UInt8.le_iff_toNat_le, number, low, high, decide_true, Bool.and_self]
  unfold Scan.step
  simp only [inside, if_true, number]

/-- The first of three bytes. The least code points and those before the surrogates leave less
room for the second. -/
private theorem lead_three {v : Nat} (long : 0x7FF < v) (short : v ≤ 0xFFFF)
    (valid : v < 0xD800 ∨ 0xDFFF < v) :
    ∃ low high : UInt8,
      lead (UInt8.ofNat (v / 4096 % 16 + 224)) = .started ⟨2, low, high, v / 4096⟩ ∧
        low.toNat ≤ v / 64 % 64 + 128 ∧ v / 64 % 64 + 128 ≤ high.toNat := by
  rw [lead_ofNat (by omega), if_neg (by omega), if_neg (by omega), if_neg (by omega)]
  by_cases least : v / 4096 = 0
  · refine ⟨0xA0, 0xBF, ?_, ?_, ?_⟩
    · rw [if_pos (by omega), least]
    · simp only [UInt8.reduceToNat]
      omega
    · simp only [UInt8.reduceToNat]
      omega
  · rw [if_neg (by omega)]
    by_cases surrogate : v / 4096 = 13
    · refine ⟨0x80, 0x9F, ?_, ?_, ?_⟩
      · rw [if_pos (by omega), surrogate]
      · simp only [UInt8.reduceToNat]
        omega
      · simp only [UInt8.reduceToNat]
        omega
    · have digit : (v / 4096 % 16 + 224) % 16 = v / 4096 := by omega
      refine ⟨0x80, 0xBF, ?_, ?_, ?_⟩
      · rw [if_neg (by omega), if_pos (by omega), digit]
      · simp only [UInt8.reduceToNat]
        omega
      · simp only [UInt8.reduceToNat]
        omega

/-- The first of four bytes. The least and the greatest code points leave less room for the
second. -/
private theorem lead_four {v : Nat} (long : 0xFFFF < v) (valid : v < 0x110000) :
    ∃ low high : UInt8,
      lead (UInt8.ofNat (v / 262144 % 8 + 240)) = .started ⟨3, low, high, v / 262144⟩ ∧
        low.toNat ≤ v / 4096 % 64 + 128 ∧ v / 4096 % 64 + 128 ≤ high.toNat := by
  rw [lead_ofNat (by omega), if_neg (by omega), if_neg (by omega), if_neg (by omega),
    if_neg (by omega), if_neg (by omega), if_neg (by omega)]
  by_cases least : v / 262144 = 0
  · refine ⟨0x90, 0xBF, ?_, ?_, ?_⟩
    · rw [if_pos (by omega), least]
    · simp only [UInt8.reduceToNat]
      omega
    · simp only [UInt8.reduceToNat]
      omega
  · rw [if_neg (by omega)]
    by_cases greatest : v / 262144 = 4
    · refine ⟨0x80, 0x8F, ?_, ?_, ?_⟩
      · rw [if_neg (by omega), if_pos (by omega), greatest]
      · simp only [UInt8.reduceToNat]
        omega
      · simp only [UInt8.reduceToNat]
        omega
    · have digit : (v / 262144 % 8 + 240) % 8 = v / 262144 := by omega
      refine ⟨0x80, 0xBF, ?_, ?_, ?_⟩
      · rw [if_pos (by omega), digit]
      · simp only [UInt8.reduceToNat]
        omega
      · simp only [UInt8.reduceToNat]
        omega

private theorem step_last {found : List (Option Char)} {low high : UInt8} {bits n : Nat}
    (least : low.toNat ≤ n) (greatest : n ≤ high.toNat) :
    Scan.step ⟨found, some ⟨1, low, high, bits⟩⟩ (UInt8.ofNat n) =
      ⟨some (Char.ofNat (bits * 64 + n % 64)) :: found, none⟩ :=
  step_started (s := ⟨1, low, high, bits⟩) least greatest

private theorem step_further {found : List (Option Char)} {low high : UInt8}
    {missing bits n : Nat} (least : low.toNat ≤ n) (greatest : n ≤ high.toNat) :
    Scan.step ⟨found, some ⟨missing + 2, low, high, bits⟩⟩ (UInt8.ofNat n) =
      ⟨found, some ⟨missing + 1, 0x80, 0xBF, bits * 64 + n % 64⟩⟩ :=
  step_started (s := ⟨missing + 2, low, high, bits⟩) least greatest

theorem foldl_step_utf8EncodeChar (c : Char) (found : List (Option Char)) :
    (String.utf8EncodeChar c).foldl Scan.step ⟨found, none⟩ = ⟨some c :: found, none⟩ := by
  have valid : c.val.toNat < 0xD800 ∨ 0xDFFF < c.val.toNat ∧ c.val.toNat < 0x110000 := c.valid
  have same : Char.ofNat c.val.toNat = c := Char.ofNat_toNat c
  unfold String.utf8EncodeChar
  generalize c.val.toNat = v at *
  have begun (n : Nat) :
      Scan.step ⟨found, none⟩ (UInt8.ofNat n) = Scan.start found (UInt8.ofNat n) := rfl
  have digit (n : Nat) : (0x80 : UInt8).toNat ≤ n % 64 + 128 ∧
      n % 64 + 128 ≤ (0xBF : UInt8).toNat := by
    simp only [UInt8.reduceToNat]
    omega
  simp only
  split_ifs with one two three
  · simp only [List.foldl_cons, List.foldl_nil, begun, Scan.start,
      lead_ofNat (show v < 256 by omega), if_pos (show v < 0x80 by omega), same]
  · have first : lead (UInt8.ofNat (v / 64 % 32 + 192)) = .started ⟨1, 0x80, 0xBF, v / 64⟩ := by
      rw [lead_ofNat (by omega), if_neg (by omega), if_neg (by omega), if_pos (by omega)]
      congr 2
      omega
    have whole : v / 64 * 64 + (v % 64 + 128) % 64 = v := by omega
    simp only [List.foldl_cons, List.foldl_nil, begun, Scan.start, first]
    rw [step_last (digit v).1 (digit v).2, whole, same]
  · obtain ⟨low, high, first, least, greatest⟩ :=
      lead_three (Nat.lt_of_not_le two) three (by omega)
    have whole : (v / 4096 * 64 + (v / 64 % 64 + 128) % 64) * 64 + (v % 64 + 128) % 64 = v := by
      omega
    simp only [List.foldl_cons, List.foldl_nil, begun, Scan.start, first]
    rw [step_further least greatest, step_last (digit v).1 (digit v).2, whole, same]
  · obtain ⟨low, high, first, least, greatest⟩ :=
      lead_four (Nat.lt_of_not_le three) (by omega)
    have whole : ((v / 262144 * 64 + (v / 4096 % 64 + 128) % 64) * 64 +
        (v / 64 % 64 + 128) % 64) * 64 + (v % 64 + 128) % 64 = v := by
      omega
    simp only [List.foldl_cons, List.foldl_nil, begun, Scan.start, first]
    rw [step_further least greatest, step_further (digit (v / 64)).1 (digit (v / 64)).2,
      step_last (digit v).1 (digit v).2, whole, same]

theorem decode?_encode (text : String) : decode? (encode text) = some text := by
  have scanned (cs : List Char) (found : List (Option Char)) :
      (cs.flatMap String.utf8EncodeChar).foldl Scan.step ⟨found, none⟩ =
        ⟨(cs.map some).reverse ++ found, none⟩ := by
    induction cs generalizing found with
    | nil => rfl
    | cons c cs ih =>
        rw [List.flatMap_cons, List.foldl_append, foldl_step_utf8EncodeChar, ih]
        simp
  have characters (cs : List Char) : (cs.map some).mapM id = some cs := by
    induction cs with
    | nil => rfl
    | cons c cs ih =>
        rw [List.map_cons, List.mapM_cons, ih]
        rfl
  unfold decode? entries encode
  rw [scanned]
  simp only [List.append_nil, List.reverse_reverse, characters, Option.map_some,
    String.ofList_toList]

end ClusterDiscovery.Text.Utf8
