/-
Patterns that a matcher can be built from.

A pattern is read from left to right. Groups and classes must be closed, a repetition must
have something to repeat, a counted one is never complete, and an escape must have a
meaning. A matcher never looks around and knows no word boundaries but those of ASCII, so
patterns that ask for more are no patterns here. Flags hold up to the end of the group
in which they are set.
-/

import ClusterDiscovery.Text.Letter

namespace ClusterDiscovery.Text.Pattern

structure Flags where
  spaced : Bool
  /-- Classes are about all characters and not just the first 128. -/
  wide : Bool
  deriving DecidableEq

def Flags.initial : Flags := ⟨false, true⟩

/-- What stands for itself, for a set of characters or for a place between them. -/
inductive Part where
  | character (code : Nat)
  | set
  | place
  deriving DecidableEq

def digitValue? (c : Char) : Option Nat :=
  if c.isDigit then some (c.toNat - 0x30)
  else if 'a' ≤ c ∧ c ≤ 'f' then some (c.toNat - 0x57)
  else if 'A' ≤ c ∧ c ≤ 'F' then some (c.toNat - 0x37)
  else none

def skipGaps (flags : Flags) (inRemark : Bool) : List Char → List Char
  | [] => []
  | c :: rest =>
      if !flags.spaced then c :: rest
      else if inRemark then skipGaps flags (c != '\n') rest
      else if isBlank c then skipGaps flags false rest
      else if c = '#' then skipGaps flags true rest
      else c :: rest

def hexCode? (flags : Flags) : Nat → Nat → List Char → Option (Nat × List Char)
  | 0, value, rest => some (value, rest)
  | missing + 1, value, rest =>
      match skipGaps flags false rest with
      | [] => none
      | c :: rest => (digitValue? c).bind fun digit =>
          hexCode? flags missing (value * 16 + digit) rest

def hexPart? (flags : Flags) (digits : Nat) (rest : List Char) : Option (Part × List Char) :=
  (hexCode? flags digits 0 rest).bind fun (code, rest) =>
    if !(Nat.isValidChar code) then none
    else if !flags.wide && digits == 2 && 0x7F < code then none
    else some (.character code, rest)

def escaped? (flags : Flags) : List Char → Option (Part × List Char)
  | [] => none
  | 'x' :: rest => hexPart? flags 2 rest
  | 'u' :: rest => hexPart? flags 4 rest
  | 'U' :: rest => hexPart? flags 8 rest
  | c :: rest =>
      if c = 'p' ∨ c = 'P' then
        match skipGaps flags false rest with
        | [] => none
        | name :: rest =>
            if flags.wide && "clmnpsz".contains name.toLower then some (.set, rest) else none
      else if "dsw".contains c then some (.set, rest)
      else if "DSW".contains c then if flags.wide then some (.set, rest) else none
      else if "bB<>".contains c then if flags.wide then none else some (.place, rest)
      else if c = 'A' ∨ c = 'z' then some (.place, rest)
      else if "aftnrv".contains c then
        let code := ["a\x07", "f\x0c", "t\t", "n\n", "r\x0d", "v\x0b"].findSome? fun pair =>
          if pair.toList.head? == some c then pair.toList.getLast?.map Char.toNat else none
        some (.character (code.getD 0), rest)
      else if 0x7F < c.toNat || c.isAlphanum then none
      else some (.character c.toNat, rest)

def classPart? (flags : Flags) : List Char → Option (Part × List Char)
  | [] => none
  | '\\' :: rest => escaped? flags rest
  | c :: rest => some (.character c.toNat, rest)

/-- A part of a class or a range of characters, and the rest. A dash before the end of the
class or before another dash makes no range. -/
def classRange? (flags : Flags) (chars : List Char) : Option (List Char) := do
  let (first, rest) ← classPart? flags chars
  if first = .place then none
  else
    match skipGaps flags false rest with
    | [] => none
    | '-' :: following =>
        match skipGaps flags false following with
        | [] => none
        | ']' :: _ => some rest
        | '-' :: _ => some rest
        | second => do
            match first, ← classPart? flags second with
            | .character low, (.character high, rest) =>
                if low ≤ high then some rest else none
            | _, _ => none
    | _ => some rest

def asciiClasses : List String :=
  ["alnum", "alpha", "ascii", "blank", "cntrl", "digit", "graph", "lower", "print", "punct",
   "space", "upper", "word", "xdigit"]

def afterAsciiClass? (chars : List Char) : Option (List Char) :=
  match chars with
  | ':' :: rest =>
      let rest := if rest.head? = some '^' then rest.drop 1 else rest
      let name := rest.takeWhile (· != ':')
      match rest.drop name.length with
      | ':' :: ']' :: rest =>
          if asciiClasses.contains (String.ofList name) then some rest else none
      | _ => none
  | _ => none

/-- What follows the opening of a class: a caret negates it, and then dashes, or else a
closing bracket, stand for themselves. -/
def afterOpening? (flags : Flags) (chars : List Char) : Option (List Char) :=
  let chars := skipGaps flags false chars
  let isNegated := chars.head? == some '^'
  let chars := if isNegated then skipGaps flags false (chars.drop 1) else chars
  let inner := skipDashes chars
  if isNegated && !flags.wide then none
  else if inner.length < chars.length then some inner
  else if chars.head? = some ']' then some (chars.drop 1)
  else some chars
where
  skipDashes : List Char → List Char
    | [] => []
    | c :: rest =>
        if c = '-' then skipDashes rest
        else if flags.spaced && isBlank c then skipDashes rest
        else c :: rest

/-- The flags after some letters; those behind a dash are cleared. -/
def Flags.apply (flags : Flags) (letters : List Char) : Flags :=
  let given (letter : Char) (old : Bool) : Bool :=
    if letters.contains letter then !((letters.dropWhile (· != '-')).contains letter) else old
  ⟨given 'x' flags.spaced, given 'u' flags.wide⟩

/-- Letters of flags: none twice, and none missing behind the dash. -/
def areFlags (letters : List Char) : Bool :=
  letters.all (fun c => "imsUuRx-".contains c) && letters.eraseDups.length == letters.length &&
    letters.getLast? != some '-'

def isGroupName (name : List Char) : Bool :=
  match name with
  | [] => false
  | first :: rest =>
      (first == '_' || isLetter first) && rest.all fun c => "_.[]".contains c || isWordLike c

structure State where
  flags : Flags
  groups : List Flags
  /-- How many classes are open. -/
  classes : Nat
  repeatable : Bool
  names : List (List Char)
  /-- Characters that have been looked at already. -/
  ahead : Nat

namespace State

def initial : State := ⟨.initial, [], 0, false, [], 0⟩

def goOn (state : State) (left later : List Char) (repeatable : Bool) : State :=
  { state with ahead := left.length - later.length, repeatable := repeatable }

def openGroup (state : State) (rest : List Char) : Option State :=
  let opened (flags : Flags) (later : List Char) : State :=
    { (state.goOn rest later false) with flags := flags, groups := state.flags :: state.groups }
  let named (following : List Char) : Option State :=
    let name := following.takeWhile (· != '>')
    if isGroupName name && name.length < following.length && !state.names.contains name then
      some { (opened state.flags (following.drop (name.length + 1))) with
        names := name :: state.names }
    else none
  match skipGaps state.flags false rest with
  | '?' :: '=' :: _ => none
  | '?' :: '!' :: _ => none
  | '?' :: '<' :: '=' :: _ => none
  | '?' :: '<' :: '!' :: _ => none
  | '?' :: 'P' :: '<' :: following => named following
  | '?' :: '<' :: following => named following
  | '?' :: following =>
      let letters := following.takeWhile fun c => c != ':' && c != ')'
      let flags := state.flags.apply letters
      if !areFlags letters then none
      else match following.drop letters.length with
      | ':' :: later => some (opened flags later)
      | ')' :: later =>
          if letters.isEmpty then none
          else some { (state.goOn rest later false) with flags := flags }
      | _ => none
  | later => some (opened state.flags later)

def stepInClass (state : State) (c : Char) (rest : List Char) : Option State :=
  let doubled (sign : Char) : Bool := c == sign && rest.head? == some sign
  if c = '[' then
    match afterAsciiClass? rest with
    | some later => some (state.goOn rest later true)
    | none => (afterOpening? state.flags rest).map fun later =>
        { (state.goOn rest later true) with classes := state.classes + 1 }
  else if c = ']' then some { state with classes := state.classes - 1 }
  else if doubled '&' || doubled '-' || doubled '~' then some { state with ahead := 1 }
  else (classRange? state.flags (c :: rest)).map fun later => state.goOn rest later true

def stepOutside (state : State) (c : Char) (rest : List Char) : Option State :=
  if c = '(' then state.openGroup rest
  else if c = ')' then
    match state.groups with
    | [] => none
    | outer :: groups => some { state with flags := outer, groups := groups, repeatable := true }
  else if c = '|' then some { state with repeatable := false }
  else if c = '[' then
    (afterOpening? state.flags rest).map fun later =>
      { (state.goOn rest later true) with classes := 1 }
  else if "*+?".contains c then if state.repeatable then some state else none
  else if c = '\x7b' then none
  else if c = '\\' then
    (escaped? state.flags rest).map fun (_, later) => state.goOn rest later true
  else if c = '.' then
    if state.flags.wide then some { state with repeatable := true } else none
  else some { state with repeatable := true }

def step (state : State) (c : Char) (rest : List Char) : Option State :=
  let later := skipGaps state.flags false (c :: rest)
  if later.length ≤ rest.length then
    some { state with ahead := rest.length - later.length }
  else if 0 < state.classes then state.stepInClass c rest
  else state.stepOutside c rest

def run (state : State) : List Char → Option State
  | [] => some state
  | c :: rest =>
      match state.ahead with
      | ahead + 1 => run { state with ahead := ahead } rest
      | 0 =>
          match state.step c rest with
          | none => none
          | some next => run next rest

def isClosed (state : State) : Bool := state.groups.isEmpty && state.classes == 0

end State

def isPattern (text : List Char) : Bool := (State.initial.run text).any State.isClosed

end ClusterDiscovery.Text.Pattern
