/-
Timestamps that were written and are read again.

A number is written in digits and read up to the first character that is none, so each part
of a timestamp is read back from the front of what was written. Together the parts are those
of the instant, and an instant is known by its parts.
-/

import Mathlib.Algebra.Group.Nat.Defs
import ClusterDiscovery.Proofs.Time.Calendar
import ClusterDiscovery.Time.Timestamp

namespace ClusterDiscovery.Time

theorem Date.day_le {date : Date} (valid : date.Valid) : date.day ≤ 31 := by
  have longest := valid.2.2.2
  unfold daysInMonth at longest
  split at longest
  · split at longest <;> omega
  · split at longest <;> omega

namespace Timestamp

open Text (isBlank)

theorem digitsValue_eq (digits : List Char) :
    digitsValue digits = Nat.ofDigitChars 10 digits 0 := by
  unfold digitsValue
  rw [Nat.ofDigitChars_eq_foldl]
  congr 1
  funext value c
  rw [Nat.mul_comm]

theorem digitsValue_padded (width n : Nat) : digitsValue (padded width n) = n := by
  unfold padded
  rw [digitsValue_eq, Nat.ofDigitChars_append, Nat.ofDigitChars_replicate_zero,
    Nat.mul_zero, Nat.ofDigitChars_ten_toDigits]

theorem isDigit_of_mem_padded {width n : Nat} {c : Char} (member : c ∈ padded width n) :
    c.isDigit = true := by
  rcases List.mem_append.mp member with isZero | isDigit
  · rw [(List.mem_replicate.mp isZero).2]
    rfl
  · exact Nat.isDigit_of_mem_toDigits (by decide : 0 < 10) (Nat.le_refl 10) isDigit

theorem padded_ne_nil (width n : Nat) : padded width n ≠ [] := by
  unfold padded
  simp

theorem length_padded {width n : Nat} (positive : 0 < width) (fits : n < 10 ^ width) :
    (padded width n).length = width := by
  have few : (Nat.toDigits 10 n).length ≤ width :=
    (Nat.length_toDigits_le_iff (by decide) positive).mpr fits
  unfold padded
  simp only [List.length_append, List.length_replicate]
  omega

theorem isBlank_of_isDigit {c : Char} (digit : c.isDigit = true) : isBlank c = false := by
  have bounds : 48 ≤ c.toNat ∧ c.toNat ≤ 57 := by
    simpa [Char.isDigit, UInt32.le_iff_toNat_le] using digit
  unfold isBlank Text.inRanges Text.blankRanges
  simp only [List.any_cons, List.any_nil, Bool.or_false, Bool.or_eq_false_iff,
    Bool.and_eq_false_iff, decide_eq_false_iff_not]
  omega

theorem digitRun_append {limit : Nat} {digits rest : List Char}
    (areDigits : ∀ c ∈ digits, c.isDigit = true) (fits : digits.length ≤ limit)
    (ends : digits.length = limit ∨ ∀ c ∈ rest.head?, c.isDigit = false) :
    digitRun limit (digits ++ rest) = (digits, rest) := by
  induction digits generalizing limit with
  | nil =>
      cases limit with
      | zero => rfl
      | succ limit =>
          cases rest with
          | nil => rfl
          | cons c rest =>
              have noDigit : c.isDigit = false := by
                rcases ends with full | ends
                · cases full
                · exact ends c rfl
              simp [digitRun, noDigit]
  | cons c digits ih =>
      cases limit with
      | zero => cases fits
      | succ limit =>
          have isDigit := areDigits c List.mem_cons_self
          have later := @ih limit
            (fun d member => areDigits d (List.mem_cons_of_mem _ member)) (by simpa using fits)
            (by simpa using ends)
          simp [digitRun, isDigit, later]

theorem number?_append {limit : Nat} {digits rest : List Char} (nonempty : digits ≠ [])
    (areDigits : ∀ c ∈ digits, c.isDigit = true) (fits : digits.length ≤ limit)
    (ends : digits.length = limit ∨ ∀ c ∈ rest.head?, c.isDigit = false) :
    number? limit (digits ++ rest) = some (digitsValue digits, rest) := by
  unfold number?
  rw [digitRun_append areDigits fits ends]
  cases digits with
  | nil => exact absurd rfl nonempty
  | cons c digits => rfl

theorem number?_padded {width n : Nat} (positive : 0 < width) (fits : n < 10 ^ width)
    (rest : List Char) : number? width (padded width n ++ rest) = some (n, rest) := by
  have full := length_padded positive fits
  rw [number?_append (padded_ne_nil width n) (fun _ member => isDigit_of_mem_padded member)
    (Nat.le_of_eq full) (Or.inl full), digitsValue_padded]

theorem exists_padded_eq_cons (width n : Nat) :
    ∃ c digits, padded width n = c :: digits ∧ c.isDigit = true := by
  obtain ⟨c, digits, same⟩ := List.exists_cons_of_ne_nil (padded_ne_nil width n)
  have member : c ∈ padded width n := by
    rw [same]
    exact List.mem_cons_self
  exact ⟨c, digits, same, isDigit_of_mem_padded member⟩

theorem dropWhile_isBlank_padded (width n : Nat) (rest : List Char) :
    (padded width n ++ rest).dropWhile isBlank = padded width n ++ rest := by
  obtain ⟨c, digits, same, digit⟩ := exists_padded_eq_cons width n
  rw [same, List.cons_append, List.dropWhile_cons_of_neg]
  rw [isBlank_of_isDigit digit]
  exact Bool.false_ne_true

theorem pair?_padded {n : Nat} (fits : n < 100) (rest : List Char) :
    pair? (padded 2 n ++ rest) = some (n, rest) := by
  unfold pair?
  rw [dropWhile_isBlank_padded]
  exact number?_padded (by decide) fits rest

theorem separator?_cons {c : Char} (visible : isBlank c = false) (rest : List Char) :
    separator? c (c :: rest) = some rest := by
  unfold separator?
  rw [List.dropWhile_cons_of_neg (by rw [visible]; exact Bool.false_ne_true)]
  simp

theorem year?_writtenYear (year : Int) (rest : List Char) :
    year? (writtenYear year ++ '-' :: rest) = some (year, '-' :: rest) := by
  have digits (n : Nat) : number? (padded 4 n ++ '-' :: rest).length (padded 4 n ++ '-' :: rest) =
      some (n, '-' :: rest) := by
    rw [number?_append (padded_ne_nil 4 n) (fun _ member => isDigit_of_mem_padded member),
      digitsValue_padded]
    · simp
    · exact Or.inr (by simp)
  unfold writtenYear
  split
  · rename_i plain
    have fits : year.toNat < 10 ^ 4 := by omega
    have whole : ((year.toNat : Nat) : Int) = year := by omega
    obtain ⟨c, digits, same, digit⟩ := exists_padded_eq_cons 4 year.toNat
    unfold year?
    rw [dropWhile_isBlank_padded]
    split
    · rename_i signed
      rw [same] at signed
      cases signed
      cases digit
    · rename_i signed
      rw [same] at signed
      cases signed
      cases digit
    · rw [number?_padded (by decide) fits, Option.map_some, whole]
  · split
    · rename_i negative
      have whole : -((year.natAbs : Nat) : Int) = year := by omega
      unfold year?
      rw [List.cons_append, List.dropWhile_cons_of_neg (by decide)]
      simp only [digits, Option.map_some, whole]
    · have whole : ((year.natAbs : Nat) : Int) = year := by omega
      unfold year?
      rw [List.cons_append, List.dropWhile_cons_of_neg (by decide)]
      simp only [digits, Option.map_some, whole]

theorem fraction?_padded {width n : Nat} (positive : 0 < width) (short : width ≤ 9)
    (fits : n < 10 ^ width) :
    fraction? ('.' :: padded width n ++ ['Z']) = some (n * 10 ^ (9 - width), ['Z']) := by
  have full := length_padded positive fits
  have run : digitRun (padded width n ++ ['Z']).length (padded width n ++ ['Z']) =
      (padded width n, ['Z']) :=
    digitRun_append (fun _ member => isDigit_of_mem_padded member) (by simp) (Or.inr (by simp))
  have nanos : fractionNanos (padded width n) = n * 10 ^ (9 - width) := by
    have whole : (padded width n).take 9 = padded width n := List.take_of_length_le (by omega)
    unfold fractionNanos
    simp only [whole, digitsValue_padded, full]
    rfl
  obtain ⟨c, digits, same, _digit⟩ := exists_padded_eq_cons width n
  rw [List.cons_append]
  unfold fraction?
  simp only [run]
  rw [← nanos, same]

theorem fraction?_writtenFraction {nano : Nat} (fits : nano < nanosPerSecond) :
    fraction? (writtenFraction nano ++ ['Z']) = some (nano, ['Z']) := by
  unfold nanosPerSecond at fits
  unfold writtenFraction
  split
  · rename_i none
    rw [none]
    rfl
  · split
    · rw [fraction?_padded (by decide) (by decide) (by omega)]
      congr 2
      omega
    · split
      · rw [fraction?_padded (by decide) (by decide) (by omega)]
        congr 2
        omega
      · rw [fraction?_padded (by decide) (by decide) (by omega)]
        congr 2
        omega

/-- The parts of an instant make it up again. -/
theorem assemble?_parts (t : Instant) :
    assemble? t.date (t.secondOfDay.toNat / 3600) (t.secondOfDay.toNat / 60 % 60)
        (t.secondOfDay.toNat % 60 + if t.isLeap then 1 else 0) (t.nano % nanosPerSecond) 0 =
      some t := by
  have valid : t.date.Valid := Date.valid_ofNumber t.day
  have number : t.date.number = t.day := Date.number_ofNumber t.day
  have inRange : InRange t.day := t.inRange
  have ofDay : 0 ≤ t.secondOfDay ∧ t.secondOfDay < 86400 := by
    unfold Instant.secondOfDay secondsPerDay
    omega
  have parted : t.day * secondsPerDay + t.secondOfDay = t.second := by
    unfold Instant.day Instant.secondOfDay
    rw [Int.mul_comm]
    exact Int.mul_ediv_add_emod _ _
  have ofMinute : t.secondOfDay % 60 = t.second % 60 := by
    unfold Instant.secondOfDay secondsPerDay
    omega
  obtain ⟨small, ends⟩ := t.nanosFit
  unfold nanosPerSecond at small ends
  unfold assemble?
  rw [number]
  cases leap : t.isLeap with
  | true =>
      have long : 1000000000 ≤ t.nano := of_decide_eq_true leap
      have last := ends long
      have sixty : t.secondOfDay.toNat % 60 + 1 = 60 := by omega
      have nanos : nanosPerSecond + t.nano % nanosPerSecond = t.nano := by
        unfold nanosPerSecond
        omega
      have whole : t.day * secondsPerDay + ((t.secondOfDay.toNat / 3600 : Nat) * 3600 +
          (t.secondOfDay.toNat / 60 % 60 : Nat) * 60 + (59 : Nat)) - 0 = t.second := by
        omega
      simp only [if_true, sixty, nanos, whole, Instant.ofParts?_self]
      exact if_pos ⟨valid, inRange, by omega, by omega, by omega, by decide, by decide⟩
  | false =>
      have short : t.nano < 1000000000 := Nat.lt_of_not_le (of_decide_eq_false leap)
      have below : t.secondOfDay.toNat % 60 ≠ 60 := by omega
      have nanos : t.nano % nanosPerSecond = t.nano := Nat.mod_eq_of_lt short
      have whole : t.day * secondsPerDay + ((t.secondOfDay.toNat / 3600 : Nat) * 3600 +
          (t.secondOfDay.toNat / 60 % 60 : Nat) * 60 +
            (t.secondOfDay.toNat % 60 : Nat)) - 0 = t.second := by
        omega
      simp only [Bool.false_eq_true, if_false, Nat.add_zero, below, nanos, whole,
        Instant.ofParts?_self]
      exact if_pos ⟨valid, inRange, by omega, by omega, by omega, by decide, by decide⟩

/-- A timestamp that was written is read as its instant. -/
theorem read?_write (t : Instant) : read? (write t) = some t := by
  have valid : t.date.Valid := Date.valid_ofNumber t.day
  have month : t.date.month.toNat < 100 ∧ (t.date.month.toNat : Int) = t.date.month := by
    have bounds : 1 ≤ t.date.month ∧ t.date.month ≤ 12 := ⟨valid.1, valid.2.1⟩
    omega
  have day : t.date.day.toNat < 100 ∧ (t.date.day.toNat : Int) = t.date.day := by
    have bounds : 1 ≤ t.date.day ∧ t.date.day ≤ 31 := ⟨valid.2.2.1, Date.day_le valid⟩
    omega
  have ofDay : t.secondOfDay.toNat < 86400 := by
    unfold Instant.secondOfDay secondsPerDay
    omega
  have seconds : t.secondOfDay.toNat % 60 + (if t.isLeap then 1 else 0) < 100 := by
    split <;> omega
  have nanos : t.nano % nanosPerSecond < nanosPerSecond := Nat.mod_lt _ (by decide)
  have dash : isBlank '-' = false := by decide
  have colon : isBlank ':' = false := by decide
  have zone : offset? (['Z'].dropWhile isBlank) = some (0, []) := by decide
  unfold write writtenSecond writtenDate writtenClock read?
  simp only [List.append_assoc, List.cons_append, Option.bind_eq_bind, Option.bind_some,
    year?_writtenYear, separator?_cons dash, pair?_padded month.1, pair?_padded day.1, dateEnd?,
    pair?_padded (show t.secondOfDay.toNat / 3600 < 100 by omega), separator?_cons colon,
    pair?_padded (show t.secondOfDay.toNat / 60 % 60 < 100 by omega), pair?_padded seconds,
    fraction?_writtenFraction nanos, zone, List.all_nil, if_true, month.2, day.2]
  exact assemble?_parts t

end Timestamp

end ClusterDiscovery.Time
