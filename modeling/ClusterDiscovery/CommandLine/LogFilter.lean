/-
Filters of the log.

A filter is a list of directives between commas. A directive is a level, or a target with
or without a level; a part in brackets limits it to a span or to lines that have a field.
Of the directives that match a line, the one with the longest target decides, then one
with a field, and of equal ones the last. A filter without directives lets only errors
through, and a filter that cannot be read is replaced by the standard one.

A directive is taken apart by the places of its marks, which are counted in bytes from the
first character that is no blank, while its parts are cut from the text with its blanks.
-/

import ClusterDiscovery.Text.Decimal
import ClusterDiscovery.Text.Pattern

namespace ClusterDiscovery.CommandLine

inductive LogLevel where
  | off
  | error
  | warn
  | info
  | debug
  | trace
  deriving DecidableEq, Repr

namespace LogLevel

def words : List (String × LogLevel) :=
  [("off", .off), ("error", .error), ("warn", .warn), ("info", .info), ("debug", .debug),
   ("trace", .trace)]

def rank : LogLevel → Nat
  | .off => 0
  | .error => 1
  | .warn => 2
  | .info => 3
  | .debug => 4
  | .trace => 5

def admits (level other : LogLevel) : Bool := other.rank ≤ level.rank

def ofText? (text : String) : Option LogLevel :=
  let named := words.lookup (String.ofList (text.toList.map Char.toLower))
  match Text.readNumber (UInt64.size - 1) text with
  | .error _ => if text = "" then some .error else named
  | .ok number => (words.find? fun entry => entry.2.rank == number).map Prod.snd

end LogLevel

/-- A field that a directive asks for; with a value, it is about spans alone. -/
structure LogField where
  name : String
  hasValue : Bool
  deriving DecidableEq, Repr

structure LogDirective where
  target : Option String
  span : Option String
  field : Option LogField
  level : LogLevel
  deriving DecidableEq, Repr

inductive LogFault where
  | malformed
  | misplaced
  deriving DecidableEq, Repr

def dropBytes? : Nat → List Char → Except LogFault (List Char)
  | 0, chars => .ok chars
  | _, [] => .error .misplaced
  | count, c :: rest =>
      if count < c.utf8Size then .error .misplaced else dropBytes? (count - c.utf8Size) rest

def takeBytes? : Nat → List Char → Except LogFault (List Char)
  | 0, _ => .ok []
  | _, [] => .error .misplaced
  | count, c :: rest =>
      if count < c.utf8Size then .error .misplaced
      else (takeBytes? (count - c.utf8Size) rest).map (c :: ·)

def withPlaces (place : Nat) : List Char → List (Nat × Char)
  | [] => []
  | c :: rest => (place, c) :: withPlaces (place + c.utf8Size) rest

/-- A number behind a plus sign: digits with or without a point and an exponent, or a word
for no finite number. -/
def isPlusNumber : List Char → Bool
  | '+' :: rest =>
      let word := String.ofList (rest.map Char.toLower)
      let whole := rest.takeWhile Char.isDigit
      let afterWhole := rest.dropWhile Char.isDigit
      let hasPoint := afterWhole.head? == some '.'
      let fraction := if hasPoint then (afterWhole.drop 1).takeWhile Char.isDigit else []
      let rest := if hasPoint then (afterWhole.drop 1).dropWhile Char.isDigit else afterWhole
      let isExponent := match rest with
        | [] => true
        | e :: digits =>
            let digits := match digits with
              | sign :: unsigned => if sign = '+' ∨ sign = '-' then unsigned else digits
              | [] => []
            e.toLower == 'e' && !digits.isEmpty && digits.all Char.isDigit
      ["inf", "infinity", "nan"].contains word ||
        (!(whole ++ fraction).isEmpty && isExponent)
  | _ => false

def LogField.ofChars? (chars : List Char) : Except LogFault LogField :=
  let name := chars.takeWhile (· != '=')
  match chars.drop name.length with
  | _ :: following =>
      let value := following.takeWhile (· != '=')
      if isPlusNumber value || Text.Pattern.isPattern value then
        .ok ⟨String.ofList name, true⟩
      else .error .malformed
  | [] => if name.isEmpty then .error .malformed else .ok ⟨String.ofList name, false⟩

/-- The part of a directive that is being read, with the place at which it starts. -/
inductive LogPart where
  | nothing
  | word (start : Nat)
  | span (start : Nat)
  | field (start : Nat)
  | afterField
  | afterBrackets
  | level (start : Nat)
  deriving DecidableEq, Repr

namespace LogDirective

def all : LogDirective := ⟨none, none, none, .trace⟩

def levelOf? (chars : List Char) : Except LogFault LogLevel :=
  if chars.isEmpty then .ok .trace
  else match LogLevel.ofText? (String.ofList chars) with
    | some level => .ok level
    | none => .error .malformed

def cut? (written : List Char) (start stop : Nat) : Except LogFault (List Char) :=
  (dropBytes? start written).bind (takeBytes? (stop - start))

def mayStart (c : Char) : Bool := "-:_".contains c || Text.isWordLike c

def step (written : List Char) :
    LogDirective × LogPart → Nat × Char → Except LogFault (LogDirective × LogPart)
  | (found, part), (place, c) => do
      let cutText (start : Nat) : Except LogFault String :=
        (cut? written start place).map String.ofList
      match part with
      | .nothing =>
          if c = '[' then .ok (found, .span (place + 1))
          else if mayStart c then .ok (found, .word place)
          else .error .malformed
      | .word start =>
          if c = '=' then
            .ok ({ found with target := some (← cutText start) }, .level (place + 1))
          else if c = '[' then
            .ok ({ found with target := some (← cutText start) }, .span (place + 1))
          else .ok (found, part)
      | .span start =>
          if c = ']' then
            .ok ({ found with span := some (← cutText start) }, .afterBrackets)
          else if c = '\x7b' then do
            let name ← cutText start
            .ok ({ found with span := if name = "" then none else some name },
              .field (place + 1))
          else .ok (found, part)
      | .field start =>
          if c = '\x7d' then do
            let field ← LogField.ofChars? (← cut? written start place)
            .ok ({ found with field := some field }, .afterField)
          else .ok (found, part)
      | .afterField => if c = ']' then .ok (found, .afterBrackets) else .error .malformed
      | .afterBrackets =>
          if c = '=' then .ok (found, .level (place + 1)) else .error .malformed
      | .level _ => .ok (found, part)

def finish (written : List Char) : LogDirective × LogPart → Except LogFault LogDirective
  | (found, .word start) => do
      let word := String.ofList (← dropBytes? start written)
      match LogLevel.ofText? word with
      | some level => .ok { found with level := level }
      | none => .ok { found with target := some word }
  | (found, .level start) => do
      .ok { found with level := ← levelOf? (← dropBytes? start written) }
  | (found, .afterBrackets) => .ok found
  | _ => .error .malformed

def ofText? (text : String) : Except LogFault LogDirective :=
  let written := text.toList
  ((withPlaces 0 (Text.trimChars written)).foldlM (step written) (all, .nothing)).bind
    (finish written)

def needsSpan (directive : LogDirective) : Bool :=
  directive.span.isSome || directive.field.any LogField.hasValue

end LogDirective

structure LogLine where
  target : String
  fields : List String
  level : LogLevel
  deriving DecidableEq, Repr

namespace LogDirective

def isAbout (directive : LogDirective) (line : LogLine) : Bool :=
  !directive.needsSpan && (directive.target.getD "").toList.isPrefixOf line.target.toList &&
    directive.field.all fun field => line.fields.contains field.name

def weight (directive : LogDirective) : Nat :=
  match directive.target with
  | none => 0
  | some target => target.utf8ByteSize + 1

def fieldAtMost : Option LogField → Option LogField → Bool
  | none, _ => true
  | some _, none => false
  | some first, some second => first.name ≤ second.name

/-- Another directive decides before this one if both are about a line. -/
def yieldsTo (directive other : LogDirective) : Bool :=
  directive.weight < other.weight ||
    (directive.weight == other.weight && fieldAtMost directive.field other.field)

end LogDirective

abbrev LogFilter := List LogDirective

namespace LogFilter

def ofText? (text : String) : Except LogFault LogFilter := do
  let parts := (text.splitOn ",").filter fun part => part != ""
  let directives ← parts.mapM LogDirective.ofText?
  .ok (if directives.isEmpty then [⟨none, none, none, .error⟩] else directives)

/-- The filter when none is given: the program's own lines are let through up to debugging,
and all others up to information or warnings. -/
def standard : LogFilter :=
  [⟨none, none, none, .info⟩, ⟨some "discovery_operator", none, none, .debug⟩,
   ⟨some "kube", none, none, .info⟩, ⟨some "tower", none, none, .warn⟩,
   ⟨some "hyper", none, none, .warn⟩]

/-- The filter that a text asks for, unless reading it has to be given up. -/
def ofSetting? : Option String → Option LogFilter
  | none => some standard
  | some text =>
      match ofText? text with
      | .ok filter => some filter
      | .error .malformed => some standard
      | .error .misplaced => none

def decisive? (filter : LogFilter) (line : LogLine) : Option LogDirective :=
  let about := filter.filter fun directive => directive.isAbout line
  about.foldl (fun best directive =>
    match best with
    | none => some directive
    | some found => if found.yieldsTo directive then some directive else best) none

def admits (filter : LogFilter) (line : LogLine) : Bool :=
  match filter.decisive? line with
  | none => false
  | some directive => directive.level.admits line.level

end LogFilter

end ClusterDiscovery.CommandLine
