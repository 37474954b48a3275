/-
UTF-8 read byte by byte.

A scan over the bytes yields one entry for each character and one empty entry for
each longest prefix that no character starts with. Reading strictly accepts a run of
bytes only if no entry is empty; reading leniently puts U+FFFD in the place of each
empty one. Both are the same scan, so they agree on every byte sequence that the
strict reader accepts.
-/

namespace ClusterDiscovery.Text.Utf8

/-- A character that has begun: bytes still missing, the range of the next one, the
bits read so far. -/
structure Started where
  missing : Nat
  low : UInt8
  high : UInt8
  bits : Nat

inductive Lead where
  | whole (c : Char)
  | started (s : Started)
  | stray

/-- The ranges exclude overlong forms, surrogates and code points above U+10FFFF. -/
def lead (b : UInt8) : Lead :=
  if b < 0x80 then .whole (Char.ofNat b.toNat)
  else if b < 0xC2 then .stray
  else if b < 0xE0 then .started ⟨1, 0x80, 0xBF, b.toNat % 32⟩
  else if b = 0xE0 then .started ⟨2, 0xA0, 0xBF, 0⟩
  else if b = 0xED then .started ⟨2, 0x80, 0x9F, 13⟩
  else if b < 0xF0 then .started ⟨2, 0x80, 0xBF, b.toNat % 16⟩
  else if b = 0xF0 then .started ⟨3, 0x90, 0xBF, 0⟩
  else if b < 0xF4 then .started ⟨3, 0x80, 0xBF, b.toNat % 8⟩
  else if b = 0xF4 then .started ⟨3, 0x80, 0x8F, 4⟩
  else .stray

structure Scan where
  entries : List (Option Char)
  progress : Option Started

def Scan.start (entries : List (Option Char)) (b : UInt8) : Scan :=
  match lead b with
  | .whole c => ⟨some c :: entries, none⟩
  | .started s => ⟨entries, some s⟩
  | .stray => ⟨none :: entries, none⟩

/-- One byte more. A byte that cannot continue the character in progress ends it as an
empty entry and is read again as a first byte. -/
def Scan.step (scan : Scan) (b : UInt8) : Scan :=
  match scan.progress with
  | none => Scan.start scan.entries b
  | some s =>
      if s.low ≤ b && b ≤ s.high then
        let bits := s.bits * 64 + b.toNat % 64
        if s.missing ≤ 1 then ⟨some (Char.ofNat bits) :: scan.entries, none⟩
        else ⟨scan.entries, some ⟨s.missing - 1, 0x80, 0xBF, bits⟩⟩
      else Scan.start (none :: scan.entries) b

/-- All entries in order; a character cut off at the end is an empty entry. -/
def entries (bytes : List UInt8) : List (Option Char) :=
  let scan := bytes.foldl Scan.step ⟨[], none⟩
  match scan.progress with
  | none => scan.entries.reverse
  | some _ => (none :: scan.entries).reverse

def decode? (bytes : List UInt8) : Option String :=
  ((entries bytes).mapM id).map String.ofList

/-- The text with U+FFFD for each part that spells nothing. -/
def decodeLossy (bytes : List UInt8) : String :=
  String.ofList ((entries bytes).map fun entry => entry.getD '\uFFFD')

def encode (text : String) : List UInt8 := text.toList.flatMap String.utf8EncodeChar

end ClusterDiscovery.Text.Utf8
