/-
Timestamps as texts.

Reading is lenient: blanks may stand before each number and each separator, the letter
between date and time may be a blank, and the offset may be spelled in several ways.
Writing has one form: universal time, a fraction of zero, three, six or nine digits,
and a leap second as second sixty. What is written is read back as the same instant.
-/

import ClusterDiscovery.Text.Blank
import ClusterDiscovery.Time.Instant

namespace ClusterDiscovery.Time

open Text (isBlank)

namespace Timestamp

def digitsValue (digits : List Char) : Nat :=
  digits.foldl (fun value c => value * 10 + (c.toNat - '0'.toNat)) 0

def digitRun : Nat → List Char → List Char × List Char
  | 0, chars => ([], chars)
  | _ + 1, [] => ([], [])
  | limit + 1, c :: rest =>
      if c.isDigit then
        let run := digitRun limit rest
        (c :: run.1, run.2)
      else ([], c :: rest)

def number? (limit : Nat) (chars : List Char) : Option (Nat × List Char) :=
  match digitRun limit chars with
  | ([], _) => none
  | (digits, rest) => some (digitsValue digits, rest)

/-- A number of one or two digits, blanks before it. -/
def pair? (chars : List Char) : Option (Nat × List Char) :=
  number? 2 (chars.dropWhile isBlank)

def separator? (c : Char) (chars : List Char) : Option (List Char) :=
  match chars.dropWhile isBlank with
  | [] => none
  | d :: rest => if d = c then some rest else none

/-- A year: a sign and any number of digits, or at most four digits. -/
def year? (chars : List Char) : Option (Int × List Char) :=
  match chars.dropWhile isBlank with
  | '-' :: rest => (number? rest.length rest).map fun found => (-(found.1 : Int), found.2)
  | '+' :: rest => (number? rest.length rest).map fun found => ((found.1 : Int), found.2)
  | rest => (number? 4 rest).map fun found => ((found.1 : Int), found.2)

/-- Nanoseconds that the digits after the point stand for; those past the ninth are
dropped. -/
def fractionNanos (digits : List Char) : Nat :=
  let kept := digits.take 9
  digitsValue kept * Nat.pow 10 (9 - kept.length)

def fraction? : List Char → Option (Nat × List Char)
  | '.' :: rest =>
      match digitRun rest.length rest with
      | ([], _) => none
      | (digits, rest) => some (fractionNanos digits, rest)
  | chars => some (0, chars)

def isUtcName (a b c : Char) : Bool :=
  a.toUpper == 'U' && b.toUpper == 'T' && c.toUpper == 'C'

def hoursMinutes? : List Char → Option (Int × List Char)
  | h₁ :: h₂ :: rest =>
      if h₁.isDigit && h₂.isDigit then
        match rest.dropWhile fun c => c == ':' || isBlank c with
        | m₁ :: m₂ :: rest =>
            if m₁.isDigit && m₂.isDigit && m₁ < '6' then
              some ((digitsValue [h₁, h₂] : Int) * 3600 + digitsValue [m₁, m₂] * 60, rest)
            else none
        | _ => none
      else none
  | _ => none

/-- An offset from universal time in seconds, without its blanks. -/
def offset? (chars : List Char) : Option (Int × List Char) :=
  match chars with
  | 'Z' :: rest => some (0, rest)
  | 'z' :: rest => some (0, rest)
  | '+' :: rest => hoursMinutes? rest
  | '-' :: rest => (hoursMinutes? rest).map fun found => (-found.1, found.2)
  | '\u2212' :: rest => (hoursMinutes? rest).map fun found => (-found.1, found.2)
  | a :: b :: c :: rest => if isUtcName a b c then some (0, rest) else none
  | _ => none

/-- A date and a time of day at an offset, as an instant. Second sixty is the leap second
that follows second fifty-nine. -/
def assemble? (date : Date) (hour minute second nano : Nat) (offset : Int) :
    Option Instant :=
  if date.Valid ∧ InRange date.number ∧ hour < 24 ∧ minute < 60 ∧ second ≤ 60 ∧
      -secondsPerDay < offset ∧ offset < secondsPerDay then
    let leap := second = 60
    let whole : Int := hour * 3600 + minute * 60 + (if leap then 59 else second)
    Instant.ofParts? (date.number * secondsPerDay + whole - offset)
      (if leap then nanosPerSecond + nano else nano)
  else none

def dateEnd? : List Char → Option (List Char)
  | 'T' :: rest => some rest
  | 't' :: rest => some rest
  | ' ' :: rest => some rest
  | _ => none

def read? (chars : List Char) : Option Instant := do
  let (year, chars) ← year? chars
  let chars ← separator? '-' chars
  let (month, chars) ← pair? chars
  let chars ← separator? '-' chars
  let (day, chars) ← pair? chars
  let chars ← dateEnd? chars
  let (hour, chars) ← pair? chars
  let chars ← separator? ':' chars
  let (minute, chars) ← pair? chars
  let chars ← separator? ':' chars
  let (second, chars) ← pair? chars
  let (nano, chars) ← fraction? chars
  let (offset, chars) ← offset? (chars.dropWhile isBlank)
  if chars.all isBlank then assemble? ⟨year, month, day⟩ hour minute second nano offset
  else none

def padded (width n : Nat) : List Char :=
  let digits := Nat.toDigits 10 n
  List.replicate (width - digits.length) '0' ++ digits

/-- A year: four digits, and a sign outside the years zero to 9999. -/
def writtenYear (year : Int) : List Char :=
  if 0 ≤ year ∧ year ≤ 9999 then padded 4 year.toNat
  else (if year < 0 then '-' else '+') :: padded 4 year.natAbs

def writtenDate (date : Date) : List Char :=
  writtenYear date.year ++ '-' :: padded 2 date.month.toNat ++ '-' :: padded 2 date.day.toNat

def writtenClock (secondOfDay : Nat) (leap : Bool) : List Char :=
  padded 2 (secondOfDay / 3600) ++ ':' :: padded 2 (secondOfDay / 60 % 60) ++ ':' ::
    padded 2 (secondOfDay % 60 + if leap then 1 else 0)

/-- The shortest exact fraction of three, six or nine digits. -/
def writtenFraction (nano : Nat) : List Char :=
  if nano = 0 then []
  else if nano % 1000000 = 0 then '.' :: padded 3 (nano / 1000000)
  else if nano % 1000 = 0 then '.' :: padded 6 (nano / 1000)
  else '.' :: padded 9 nano

def writtenSecond (t : Instant) : List Char :=
  writtenDate t.date ++ 'T' :: writtenClock t.secondOfDay.toNat t.isLeap

def write (t : Instant) : List Char :=
  writtenSecond t ++ writtenFraction (t.nano % nanosPerSecond) ++ ['Z']

end Timestamp

def Instant.ofText? (text : String) : Option Instant := Timestamp.read? text.toList

def Instant.toText (t : Instant) : String := String.ofList (Timestamp.write t)

def Instant.toWholeText (t : Instant) : String :=
  String.ofList (Timestamp.writtenSecond t ++ ['Z'])

def Instant.toLocalText (t : Instant) : String := String.ofList (Timestamp.writtenSecond t)

end ClusterDiscovery.Time
