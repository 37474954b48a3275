/-
Blank characters and trimming.

The blank characters are those with the White_Space property. A text read from a
secret, an annotation or a manifest is trimmed of them before it is used, so a
credential pasted with a trailing newline is the credential itself. Trimming is
stated on lists of characters; the functions on texts are the same functions seen
through `String.toList`.
-/

namespace ClusterDiscovery.Text

def blankRanges : List (Nat × Nat) :=
  [(0x09, 0x0D), (0x20, 0x20), (0x85, 0x85), (0xA0, 0xA0), (0x1680, 0x1680),
   (0x2000, 0x200A), (0x2028, 0x2029), (0x202F, 0x202F), (0x205F, 0x205F),
   (0x3000, 0x3000)]

def inRanges (ranges : List (Nat × Nat)) (code : Nat) : Bool :=
  ranges.any fun range => range.1 ≤ code && code ≤ range.2

/-- A character with the White_Space property. -/
def isBlank (c : Char) : Bool := inRanges blankRanges c.toNat

def dropTrailing (test : Char → Bool) (chars : List Char) : List Char :=
  (chars.reverse.dropWhile test).reverse

def trimChars (chars : List Char) : List Char :=
  dropTrailing isBlank (chars.dropWhile isBlank)

def trim (text : String) : String := String.ofList (trimChars text.toList)

def trimSlashes (text : String) : String :=
  String.ofList (dropTrailing (· == '/') text.toList)

theorem dropWhile_eq_nil_iff {test : Char → Bool} {chars : List Char} :
    chars.dropWhile test = [] ↔ ∀ c ∈ chars, test c = true := by
  induction chars with
  | nil => simp
  | cons c rest ih =>
      cases hTest : test c with
      | true => simp [hTest, ih]
      | false => simp [hTest]

theorem dropTrailing_eq_nil_iff {test : Char → Bool} {chars : List Char} :
    dropTrailing test chars = [] ↔ ∀ c ∈ chars, test c = true := by
  simp only [dropTrailing, List.reverse_eq_nil_iff, dropWhile_eq_nil_iff, List.mem_reverse]

theorem dropTrailing_eq_self {test : Char → Bool} {chars : List Char}
    (h : ∀ c ∈ chars.getLast?, test c = false) : dropTrailing test chars = chars := by
  rcases List.eq_nil_or_concat chars with rfl | ⟨front, last, rfl⟩
  · rfl
  · simp only [List.concat_eq_append, List.getLast?_append, List.getLast?_singleton,
      Option.some_or, Option.mem_def, Option.some.injEq, forall_eq'] at h
    simp [dropTrailing, h]

theorem getLast?_dropTrailing {test : Char → Bool} {chars : List Char} :
    ∀ c ∈ (dropTrailing test chars).getLast?, test c = false := by
  intro c h
  rw [dropTrailing, List.getLast?_reverse] at h
  have hHead := List.head?_dropWhile_not test chars.reverse
  rw [Option.mem_def] at h
  rw [h] at hHead
  simpa using hHead

end ClusterDiscovery.Text
