/-
The grammar of filters.

A version entry names a major and a minor version, which is said here by a regular expression
over characters. The test of an entry looks for the first point and scans what stands on either
side of it. It accepts the words of the expression and no others, so a filter is refused for a
negative bound, or else for the first of its entries that is no word.
-/

import ClusterDiscovery.Proofs.Inventory.Version
import Mathlib.Computability.RegularExpressions
import Mathlib.Tactic.IntervalCases

namespace ClusterDiscovery.Filter

open RegularExpression (char matches'_add matches'_char matches'_mul matches'_star)

def oneOf : List Char → RegularExpression Char
  | [] => 0
  | c :: rest => char c + oneOf rest

def leadingDigits : List Char := ['1', '2', '3', '4', '5', '6', '7', '8', '9']

def digits : List Char := '0' :: leadingDigits

def component : RegularExpression Char :=
  char '0' + oneOf leadingDigits * (oneOf digits).star

def majorMinor : RegularExpression Char := component * (char '.' * component)

/-- The whole entry is a word of the grammar. -/
def Conforms (version : String) : Prop := version.toList ∈ majorMinor.matches'

variable {c : Char} {chars part word : List Char}

theorem mem_oneOf_iff : word ∈ (oneOf chars).matches' ↔ ∃ c ∈ chars, word = [c] := by
  induction chars with
  | nil =>
      unfold oneOf
      simp [Language.notMem_zero]
  | cons first rest ih =>
      unfold oneOf
      rw [matches'_add, Language.mem_add, matches'_char, ih, List.exists_mem_cons_iff]
      exact or_congr Set.mem_singleton_iff Iff.rfl

theorem mem_star_oneOf_iff : word ∈ (oneOf chars).star.matches' ↔ ∀ c ∈ word, c ∈ chars := by
  rw [matches'_star, Language.mem_kstar]
  constructor
  · intro ⟨words, joined, single⟩ c member
    rw [joined] at member
    obtain ⟨letter, listed, inside⟩ := List.mem_flatten.mp member
    obtain ⟨d, allowed, same⟩ := mem_oneOf_iff.mp (single letter listed)
    rw [same] at inside
    rw [List.mem_singleton.mp inside]
    exact allowed
  · intro allowed
    refine ⟨word.map fun c => [c], ?_, ?_⟩
    · rw [← List.flatMap_def, List.flatMap_singleton']
    · intro letter listed
      obtain ⟨c, member, same⟩ := List.mem_map.mp listed
      exact mem_oneOf_iff.mpr ⟨c, allowed c member, same.symm⟩

theorem isDigit_iff_mem_digits : c.isDigit = true ↔ c ∈ digits := by
  constructor
  · intro digit
    obtain ⟨low, high⟩ : 48 ≤ c.toNat ∧ c.toNat ≤ 57 := Char.isDigit_iff_toNat.mp digit
    rw [← Char.ofNat_toNat c]
    generalize c.toNat = n at low high
    interval_cases n <;> decide
  · intro member
    have all : digits.all Char.isDigit = true := by rfl
    exact List.all_eq_true.mp all c member

theorem mem_component_iff : part ∈ component.matches' ↔ part = ['0'] ∨
    ∃ first ∈ leadingDigits, ∃ rest, (∀ c ∈ rest, c ∈ digits) ∧ part = first :: rest := by
  unfold component
  rw [matches'_add, Language.mem_add, matches'_char, matches'_mul, Language.mem_mul]
  apply or_congr Set.mem_singleton_iff
  constructor
  · intro ⟨front, isFront, rest, isRest, joined⟩
    obtain ⟨first, listed, rfl⟩ := mem_oneOf_iff.mp isFront
    exact ⟨first, listed, rest, mem_star_oneOf_iff.mp isRest, joined.symm⟩
  · intro ⟨first, listed, rest, allDigits, same⟩
    exact ⟨[first], mem_oneOf_iff.mpr ⟨first, listed, rfl⟩, rest,
      mem_star_oneOf_iff.mpr allDigits, same.symm⟩

theorem isComponent_iff : isComponent part = true ↔ part ∈ component.matches' := by
  rw [mem_component_iff]
  unfold isComponent
  cases part with
  | nil => simp
  | cons first rest =>
      simp only [List.isEmpty_cons, Bool.not_false, Bool.true_and, Bool.and_eq_true,
        List.all_eq_true, isDigit_iff_mem_digits, Bool.or_eq_true, beq_iff_eq, List.head?_cons,
        bne_iff_ne, ne_eq, Option.some.injEq, List.cons.injEq]
      constructor
      · intro ⟨allDigits, zero⟩
        by_cases same : first = '0'
        · exact Or.inl (zero.resolve_right fun other => other same)
        · have isDigit := allDigits first List.mem_cons_self
          refine Or.inr ⟨first, (List.mem_cons.mp isDigit).resolve_left same, rest, ?_, rfl, rfl⟩
          intro c member
          exact allDigits c (List.mem_cons_of_mem _ member)
      · intro holds
        rcases holds with ⟨rfl, rfl⟩ | ⟨_, listed, _, allDigits, rfl, rfl⟩
        · exact ⟨List.forall_mem_singleton.mpr List.mem_cons_self, Or.inl ⟨rfl, rfl⟩⟩
        · constructor
          · intro c member
            rcases List.mem_cons.mp member with rfl | later
            · exact List.mem_cons_of_mem _ listed
            · exact allDigits c later
          · right
            rintro rfl
            exact absurd listed (by decide)

theorem isMajorMinor_iff {version : String} :
    isMajorMinor version.toList = true ↔ Conforms version := by
  unfold Conforms majorMinor
  rw [isMajorMinor_eq_true_iff, matches'_mul, Language.mem_mul]
  simp only [matches'_mul, Language.mem_mul, matches'_char]
  constructor
  · intro ⟨major, minor, joined, isMajor, isMinor⟩
    exact ⟨major, isComponent_iff.mp isMajor, '.' :: minor,
      ⟨['.'], rfl, minor, isComponent_iff.mp isMinor, rfl⟩, joined.symm⟩
  · intro ⟨major, isMajor, _, ⟨_, rfl, minor, isMinor, rfl⟩, joined⟩
    exact ⟨major, minor, joined.symm, isComponent_iff.mpr isMajor, isComponent_iff.mpr isMinor⟩

theorem firstBadVersion?_eq_some_iff {filter : Filter} {version : String} :
    filter.firstBadVersion? = some version ↔
      ∃ front rest, filter.versions = front ++ version :: rest ∧ ¬ Conforms version ∧
        ∀ earlier ∈ front, Conforms earlier := by
  unfold firstBadVersion?
  simp only [List.find?_eq_some_iff_append, Bool.not_eq_true', Bool.eq_false_iff, ne_eq,
    isMajorMinor_iff, Bool.not_not]
  constructor
  · intro ⟨bad, front, rest, same, good⟩
    exact ⟨front, rest, same, bad, good⟩
  · intro ⟨front, rest, same, bad, good⟩
    exact ⟨bad, front, rest, same, good⟩

/-- A filter is valid exactly if its bound is not negative and all its entries conform to the
grammar. Otherwise it is refused for its bound, if that is negative, and else for the first entry
that does not conform. -/
theorem problem?_follows_grammar (filter : Filter) :
    (filter.problem? = none ↔
      0 ≤ filter.lastActive ∧ ∀ version ∈ filter.versions, Conforms version) ∧
    ∀ failure, filter.problem? = some failure ↔
      (filter.lastActive < 0 ∧
        failure = .validation s!"lastActive must not be negative, got {filter.lastActive}") ∨
      (0 ≤ filter.lastActive ∧ ∃ front version rest,
        filter.versions = front ++ version :: rest ∧ ¬ Conforms version ∧
          (∀ earlier ∈ front, Conforms earlier) ∧
          failure = .validation
            s!"openShiftVersions entry '{version}' must be of the form major.minor") := by
  constructor
  · rw [problem?_eq_none_iff]
    unfold firstBadVersion?
    rw [List.find?_eq_none]
    simp only [Bool.not_eq_true', Bool.not_eq_false, isMajorMinor_iff]
  · intro failure
    unfold problem?
    by_cases negative : filter.lastActive < 0
    · have notPositive : ¬ 0 ≤ filter.lastActive := Int.not_le.mpr negative
      rw [if_pos negative, Option.some_inj, eq_comm]
      simp only [negative, true_and, notPositive, false_and, or_false]
    · have positive : 0 ≤ filter.lastActive := Int.not_lt.mp negative
      rw [if_neg negative, Option.map_eq_some_iff]
      simp only [negative, false_and, false_or, positive, true_and, firstBadVersion?_eq_some_iff]
      constructor
      · intro ⟨version, ⟨front, rest, same, bad, good⟩, shown⟩
        exact ⟨front, version, rest, same, bad, good, shown.symm⟩
      · intro ⟨front, version, rest, same, bad, good, shown⟩
        exact ⟨version, ⟨front, rest, same, bad, good⟩, shown.symm⟩

end ClusterDiscovery.Filter
