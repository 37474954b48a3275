/-
Trimmed texts.

Trimming cuts a text into three parts and keeps the middle one. In front of it stand blanks and
behind it characters of some kind, and the middle part neither starts nor ends with a character
that could have been cut off. There is one such cut, so a trimmed text can be told by it.
-/

import ClusterDiscovery.Text.Blank
import Mathlib.Data.List.DropRight

namespace ClusterDiscovery.Text

variable {test : Char → Bool} {front back chars left : List Char}

theorem dropTrailing_append (dropped : ∀ c ∈ back, test c = true) :
    dropTrailing test (front ++ back) = dropTrailing test front := by
  unfold dropTrailing
  rw [List.reverse_append, List.dropWhile_append_of_pos]
  intro c member
  exact dropped c (List.mem_reverse.mp member)

theorem dropTrailing_eq_front (kept : ∀ c ∈ front.getLast?, test c = false)
    (dropped : ∀ c ∈ back, test c = true) : dropTrailing test (front ++ back) = front := by
  rw [dropTrailing_append dropped, dropTrailing_eq_self kept]

theorem exists_dropped (test : Char → Bool) (chars : List Char) :
    ∃ back, chars = dropTrailing test chars ++ back ∧ ∀ c ∈ back, test c = true :=
  ⟨chars.rtakeWhile test, List.rdropWhile_append_rtakeWhile.symm, fun _ => List.mem_rtakeWhile_imp⟩

theorem head?_dropWhile_blank {c : Char} (first : c ∈ (chars.dropWhile isBlank).head?) :
    isBlank c = false := by
  have stops := List.head?_dropWhile_not isBlank chars
  rw [Option.mem_def] at first
  rw [first] at stops
  exact stops

theorem getLast?_of_dropWhile {c : Char} (last : c ∈ (chars.dropWhile test).getLast?) :
    c ∈ chars.getLast? := by
  rw [Option.mem_def] at last ⊢
  rw [← List.takeWhile_append_dropWhile (p := test) (l := chars), List.getLast?_append, last,
    Option.some_or]

/-- What is left of a text when blanks are dropped in front of it, and characters that satisfy a
test behind it. -/
structure Remains (test : Char → Bool) (chars left : List Char) : Prop where
  parted : ∃ before after, chars = before ++ left ++ after ∧
    (∀ c ∈ before, isBlank c = true) ∧ ∀ c ∈ after, test c = true
  starts : ∀ c ∈ left.head?, isBlank c = false
  ends : ∀ c ∈ left.getLast?, test c = false

theorem remains_dropTrailing (test : Char → Bool) (chars : List Char) :
    Remains test chars (dropTrailing test (chars.dropWhile isBlank)) := by
  obtain ⟨after, parted, dropped⟩ := exists_dropped test (chars.dropWhile isBlank)
  constructor
  · refine ⟨chars.takeWhile isBlank, after, ?_, fun c => List.mem_takeWhile_imp, dropped⟩
    rw [List.append_assoc, ← parted, List.takeWhile_append_dropWhile]
  · intro c first
    have alsoFirst : c ∈ (chars.dropWhile isBlank).head? := by
      rw [Option.mem_def] at first ⊢
      rw [parted, List.head?_append, first, Option.some_or]
    exact head?_dropWhile_blank alsoFirst
  · exact getLast?_dropTrailing

theorem Remains.eq_dropTrailing (remains : Remains test chars left) :
    left = dropTrailing test (chars.dropWhile isBlank) := by
  obtain ⟨⟨before, after, rfl, blank, dropped⟩, starts, ends⟩ := remains
  rw [List.append_assoc, List.dropWhile_append_of_pos blank]
  cases left with
  | nil =>
      symm
      rw [List.nil_append, dropTrailing_eq_nil_iff]
      intro c member
      exact dropped c ((List.dropWhile_suffix isBlank).subset member)
  | cons first rest =>
      have kept : ¬ isBlank first = true := Bool.eq_false_iff.mp (starts first rfl)
      rw [List.cons_append, List.dropWhile_cons_of_neg kept, ← List.cons_append,
        dropTrailing_eq_front ends dropped]

theorem trimChars_eq_iff : trimChars chars = left ↔ Remains isBlank chars left := by
  constructor
  · rintro rfl
    exact remains_dropTrailing isBlank chars
  · intro remains
    exact remains.eq_dropTrailing.symm

def isLoose (c : Char) : Bool := isBlank c || c == '/'

def strip (text : String) : String :=
  String.ofList (dropTrailing isLoose (text.toList.dropWhile isBlank))

theorem isLoose_eq_false_iff {c : Char} : isLoose c = false ↔ isBlank c = false ∧ c ≠ '/' := by
  unfold isLoose
  rw [Bool.or_eq_false_iff, beq_eq_false_iff_ne]

theorem toList_strip_eq_iff {text : String} :
    (strip text).toList = left ↔ Remains isLoose text.toList left := by
  unfold strip
  rw [String.toList_ofList]
  constructor
  · rintro rfl
    exact remains_dropTrailing isLoose text.toList
  · intro remains
    exact remains.eq_dropTrailing.symm

end ClusterDiscovery.Text
