/-
Bytes that spell a text.

A byte that begins a character fixes the range of those that may follow it, so bytes that all fit
are the bytes of one character. A scan that has found no stray byte has therefore read the bytes
of the characters it has found, and those of the character in progress. So only the bytes of a
text are read as one, and they are read as that text.
-/

import ClusterDiscovery.Proofs.Text.Utf8
import Mathlib.Data.List.Induction

namespace ClusterDiscovery.Text.Utf8

variable {bytes read : List UInt8} {found : List (Option Char)} {b low high : UInt8} {s : Started}
  {scan : Scan} {bits : Nat} {text : String}

private theorem eq_of_toNat {n : Nat} (same : n = b.toNat) : UInt8.ofNat n = b := by
  rw [same, UInt8.ofNat_toNat]

private theorem toNat_val_ofNat {v : Nat} (valid : v < 0xD800 ∨ 0xDFFF < v ∧ v < 0x110000) :
    (Char.ofNat v).val.toNat = v := by
  unfold Char.ofNat
  rw [dif_pos (show v.isValidChar from valid)]
  rfl

/-- Behind the bytes that were read so many more are due after the next one, which is within a
range. Whatever bytes follow that fit, all of them are those of one character. -/
def Completes : Nat → UInt8 → UInt8 → Nat → List UInt8 → Prop
  | 0, low, high, bits, read => ∀ b : UInt8, low.toNat ≤ b.toNat → b.toNat ≤ high.toNat →
      String.utf8EncodeChar (Char.ofNat (bits * 64 + b.toNat % 64)) = read ++ [b]
  | due + 1, low, high, bits, read => ∀ b : UInt8, low.toNat ≤ b.toNat → b.toNat ≤ high.toNat →
      Completes due 0x80 0xBF (bits * 64 + b.toNat % 64) (read ++ [b])

private theorem completes_two (begins : b.toNat = bits + 192) (long : 2 ≤ bits)
    (short : bits < 32) : Completes 0 0x80 0xBF bits [b] := by
  intro c least greatest
  simp only [UInt8.reduceToNat] at least greatest
  unfold String.utf8EncodeChar
  simp only
  rw [toNat_val_ofNat (by omega), if_neg (by omega), if_pos (by omega),
    eq_of_toNat (b := b) (by omega), eq_of_toNat (b := c) (by omega)]
  rfl

/-- The range of the second byte keeps out shorter forms and surrogates. -/
private theorem completes_three (begins : b.toNat = bits + 224) (short : bits < 16)
    (least : 0x80 ≤ low.toNat) (greatest : high.toNat ≤ 0xBF)
    (long : 32 + 0x80 ≤ bits * 64 + low.toNat)
    (valid : bits * 64 + high.toNat < 864 + 0x80 ∨ 896 + 0x80 ≤ bits * 64 + low.toNat) :
    Completes 1 low high bits [b] := by
  intro c leastSecond greatestSecond d leastThird greatestThird
  simp only [UInt8.reduceToNat] at leastThird greatestThird
  unfold String.utf8EncodeChar
  simp only
  rw [toNat_val_ofNat (by omega), if_neg (by omega), if_neg (by omega), if_pos (by omega),
    eq_of_toNat (b := b) (by omega), eq_of_toNat (b := c) (by omega),
    eq_of_toNat (b := d) (by omega)]
  rfl

/-- The range of the second byte keeps out shorter forms and what is no code point. -/
private theorem completes_four (begins : b.toNat = bits + 240) (least : 0x80 ≤ low.toNat)
    (greatest : high.toNat ≤ 0xBF) (long : 16 + 0x80 ≤ bits * 64 + low.toNat)
    (valid : bits * 64 + high.toNat < 272 + 0x80) : Completes 2 low high bits [b] := by
  intro c leastSecond greatestSecond d leastThird greatestThird e leastLast greatestLast
  simp only [UInt8.reduceToNat] at leastThird greatestThird leastLast greatestLast
  unfold String.utf8EncodeChar
  simp only
  rw [toNat_val_ofNat (by omega), if_neg (by omega), if_neg (by omega), if_neg (by omega),
    eq_of_toNat (b := b) (by omega), eq_of_toNat (b := c) (by omega),
    eq_of_toNat (b := d) (by omega), eq_of_toNat (b := e) (by omega)]
  rfl

def Begun (s : Started) (read : List UInt8) : Prop :=
  ∃ due, s.missing = due + 1 ∧ Completes due s.low s.high s.bits read

theorem utf8EncodeChar_of_lead {c : Char} (announced : lead b = .whole c) :
    String.utf8EncodeChar c = [b] := by
  unfold lead at announced
  simp only [UInt8.lt_iff_toNat_lt, UInt8.reduceToNat] at announced
  split_ifs at announced with ascii
  cases announced
  unfold String.utf8EncodeChar
  simp only
  rw [toNat_val_ofNat (by omega), if_pos (by omega), UInt8.ofNat_toNat]

theorem begun_of_lead (announced : lead b = .started s) : Begun s [b] := by
  unfold lead at announced
  simp only [UInt8.lt_iff_toNat_lt, ← UInt8.toNat_inj, UInt8.reduceToNat] at announced
  split_ifs at announced
  all_goals cases announced
  · refine ⟨0, rfl, completes_two ?_ ?_ ?_⟩
    all_goals simp only
    all_goals omega
  iterate 3
    · refine ⟨1, rfl, completes_three ?_ ?_ ?_ ?_ ?_ ?_⟩
      all_goals simp only [UInt8.reduceToNat]
      all_goals omega
  iterate 3
    · refine ⟨2, rfl, completes_four ?_ ?_ ?_ ?_ ?_⟩
      all_goals simp only [UInt8.reduceToNat]
      all_goals omega

/-- A scan has found the characters whose bytes it has read, and has read the bytes of the one in
progress besides. -/
structure Spelled (bytes : List UInt8) (scan : Scan) (chars : List Char) (read : List UInt8) :
    Prop where
  found : scan.entries = (chars.map some).reverse
  bytes : bytes = chars.flatMap String.utf8EncodeChar ++ read
  idle : scan.progress = none → read = []
  begun : ∀ s, scan.progress = some s → Begun s read

/-- A scan has met a stray byte, or it has read the bytes of what it has found. -/
def Sound (bytes : List UInt8) (scan : Scan) : Prop :=
  none ∈ scan.entries ∨ ∃ chars read, Spelled bytes scan chars read

theorem sound_of_stray (stray : none ∈ found) : Sound bytes (Scan.start found b) := by
  left
  unfold Scan.start
  split
  · exact List.mem_cons_of_mem _ stray
  · exact stray
  · exact List.mem_cons_of_mem _ stray

theorem Spelled.start {chars : List Char} (spelled : Spelled bytes ⟨found, none⟩ chars read) :
    Sound (bytes ++ [b]) (Scan.start found b) := by
  have nothing : read = [] := spelled.idle rfl
  have whole := spelled.bytes
  rw [nothing, List.append_nil] at whole
  have sameFound : found = (chars.map some).reverse := spelled.found
  unfold Scan.start
  cases announced : lead b with
  | stray => exact Or.inl List.mem_cons_self
  | whole c =>
      refine Or.inr ⟨chars ++ [c], [], ?_, ?_, fun _ => rfl, nofun⟩
      · simp [sameFound]
      · simp [whole, utf8EncodeChar_of_lead announced]
  | started s =>
      refine Or.inr ⟨chars, [b], sameFound, ?_, nofun, ?_⟩
      · rw [whole]
      · intro other same
        cases same
        exact begun_of_lead announced

theorem Sound.step (sound : Sound bytes scan) (b : UInt8) :
    Sound (bytes ++ [b]) (scan.step b) := by
  obtain ⟨found, progress⟩ := scan
  cases progress with
  | none =>
      rcases sound with stray | ⟨chars, read, spelled⟩
      · exact sound_of_stray stray
      · exact spelled.start
  | some s =>
      unfold Scan.step
      simp only
      by_cases fits : (s.low ≤ b && b ≤ s.high) = true
      · rw [if_pos fits]
        rcases sound with stray | ⟨chars, read, spelled⟩
        · left
          split
          · exact List.mem_cons_of_mem _ stray
          · exact stray
        · obtain ⟨low, high⟩ := (Bool.and_eq_true _ _).mp fits
          have least := UInt8.le_iff_toNat_le.mp (of_decide_eq_true low)
          have greatest := UInt8.le_iff_toNat_le.mp (of_decide_eq_true high)
          have sameFound : found = (chars.map some).reverse := spelled.found
          obtain ⟨due, missing, completes⟩ := spelled.begun s rfl
          right
          cases due with
          | zero =>
              rw [if_pos (Nat.le_of_eq missing)]
              refine ⟨chars ++ [Char.ofNat (s.bits * 64 + b.toNat % 64)], [], ?_, ?_,
                fun _ => rfl, nofun⟩
              · simp [sameFound]
              · simp [spelled.bytes, completes b least greatest]
          | succ due =>
              rw [if_neg (by omega)]
              refine ⟨chars, read ++ [b], sameFound, ?_, nofun, ?_⟩
              · rw [spelled.bytes, List.append_assoc]
              · intro other same
                cases same
                exact ⟨due, by simp only [missing]; omega, completes b least greatest⟩
      · rw [if_neg fits]
        exact sound_of_stray List.mem_cons_self

theorem sound_scan (bytes : List UInt8) : Sound bytes (bytes.foldl Scan.step ⟨[], none⟩) := by
  induction bytes using List.reverseRecOn with
  | nil => exact Or.inr ⟨[], [], rfl, rfl, fun _ => rfl, nofun⟩
  | append_singleton front last ih =>
      rw [List.foldl_append]
      exact ih.step last

private theorem eq_map_some_of_mapM {entries : List (Option Char)} {chars : List Char}
    (all : entries.mapM id = some chars) : entries = chars.map some := by
  induction entries generalizing chars with
  | nil =>
      cases all
      rfl
  | cons entry rest ih =>
      rw [List.mapM_cons] at all
      obtain ⟨c, first, later⟩ := Option.bind_eq_some_iff.mp all
      obtain ⟨others, allOthers, same⟩ := Option.bind_eq_some_iff.mp later
      cases same
      rw [ih allOthers, show entry = some c from first]
      rfl

/-- Bytes are read as a text exactly if they are the bytes of that text. -/
theorem decode?_eq_some_iff : decode? bytes = some text ↔ encode text = bytes := by
  constructor
  · intro decoded
    obtain ⟨chars, all, rfl⟩ := Option.map_eq_some_iff.mp decoded
    have whole := eq_map_some_of_mapM all
    have noStray : none ∉ entries bytes := by
      rw [whole]
      simp
    unfold entries at whole noStray
    generalize same : bytes.foldl Scan.step ⟨[], none⟩ = scan at whole noStray
    have sound := sound_scan bytes
    rw [same] at sound
    obtain ⟨found, progress⟩ := scan
    cases progress with
    | some s =>
        simp at noStray
    | none =>
        rcases sound with stray | ⟨spelt, read, spelled⟩
        · exact absurd (List.mem_reverse.mpr stray) noStray
        · have sameChars : found.reverse = spelt.map some := by
            rw [show found = (spelt.map some).reverse from spelled.found, List.reverse_reverse]
          have sameText : spelt = chars :=
            (List.map_inj_right fun _ _ => Option.some.inj).mp (sameChars.symm.trans whole)
          unfold encode
          rw [String.toList_ofList, ← sameText, spelled.bytes, spelled.idle rfl, List.append_nil]
  · rintro rfl
    exact decode?_encode text

theorem isSome_decode?_iff : (decode? bytes).isSome = true ↔ bytes.toByteArray.IsValidUTF8 := by
  rw [Option.isSome_iff_exists]
  constructor
  · intro ⟨text, decoded⟩
    rw [decode?_eq_some_iff] at decoded
    exact ⟨text.toList, congrArg List.toByteArray decoded.symm⟩
  · intro ⟨chars, same⟩
    refine ⟨String.ofList chars, decode?_eq_some_iff.mpr ?_⟩
    unfold encode
    rw [String.toList_ofList]
    have sameBytes := congrArg (fun array => array.data.toList) same
    simpa [List.utf8Encode] using sameBytes.symm

end ClusterDiscovery.Text.Utf8
