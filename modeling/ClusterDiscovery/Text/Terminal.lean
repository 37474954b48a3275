/-
Texts without the control sequences of terminals.

Messages are written where nothing may move the cursor or change colours, so control
characters are dropped, and with them all that they introduce: a sequence ends at its
final letter, a title at a bell, and a device string at the terminator that the byte
0x9C is, alone or within the UTF-8 form of a character. A blank control character is
kept, and inside a sequence it ends the sequence.
-/

import ClusterDiscovery.Text.Utf8

namespace ClusterDiscovery.Text.Terminal

/-- What a control sequence is in the middle of. -/
inductive Mode where
  | shown
  | escape
  | escapeTail
  | control
  | parameters
  | controlTail
  | controlJunk
  | device
  | deviceParameters
  | deviceTail
  | string
  | title
  deriving DecidableEq, Repr

def isFrom (low high : Char) (c : Char) : Bool := low ≤ c && c ≤ high

def isIntermediate (c : Char) : Bool := isFrom ' ' '/' c

def isFinal (c : Char) : Bool := isFrom '@' '~' c

def afterEscape (c : Char) : Mode :=
  if c = '[' then .control
  else if c = ']' then .title
  else if c = 'P' then .device
  else if c = 'X' ∨ c = '^' ∨ c = '_' then .string
  else if isIntermediate c then .escapeTail
  else if isFrom '0' '~' c then .shown
  else .escape

def inControl (mode : Mode) (c : Char) : Mode :=
  if isFinal c then .shown
  else if mode = .controlJunk then .controlJunk
  else if isIntermediate c then .controlTail
  else if isFrom '0' ';' c then
    if mode = .controlTail then .controlJunk else .parameters
  else if isFrom '<' '?' c then
    if mode = .control then .parameters else .controlJunk
  else mode

def inDevice (mode : Mode) (c : Char) : Mode :=
  if isFinal c then .string
  else if isIntermediate c then .deviceTail
  else if isFrom '0' ';' c then
    if mode = .deviceTail then .string else .deviceParameters
  else if isFrom '<' '?' c then
    if mode = .device then .deviceParameters else .string
  else mode

def endsStrings (c : Char) : Bool := (String.utf8EncodeChar c).contains 0x9C

/-- The mode after a character. An escape character starts anew wherever it stands, and two
other controls end any sequence. -/
def Mode.after (mode : Mode) (c : Char) : Mode :=
  if c = '\x1b' then .escape
  else if c = '\x18' ∨ c = '\x1a' then .shown
  else match mode with
  | .shown => .shown
  | .escape => afterEscape c
  | .escapeTail => if isFrom '0' '~' c then .shown else .escapeTail
  | .control => inControl .control c
  | .parameters => inControl .parameters c
  | .controlTail => inControl .controlTail c
  | .controlJunk => inControl .controlJunk c
  | .device => inDevice .device c
  | .deviceParameters => inDevice .deviceParameters c
  | .deviceTail => inDevice .deviceTail c
  | .string => if endsStrings c then .shown else .string
  | .title => if c = '\x07' then .shown else .title

def isBlankControl (c : Char) : Bool := c == '\t' || c == '\n' || c == '\x0c' || c == '\r'

/-- Modes in which a blank control character is carried out at once. -/
def Mode.carriesOut : Mode → Bool
  | .shown | .escape | .escapeTail | .control | .parameters | .controlTail | .controlJunk => true
  | .device | .deviceParameters | .deviceTail | .string | .title => false

/-- A character is shown outside of sequences, unless it is a control of ASCII. -/
def Mode.shows (mode : Mode) (c : Char) : Bool :=
  if isBlankControl c then mode.carriesOut
  else mode == .shown && (isFrom ' ' '~' c || 0x7F < c.toNat)

def shown (mode : Mode) : List Char → List Char
  | [] => []
  | c :: rest =>
      if mode.shows c then c :: shown .shown rest else shown (mode.after c) rest

def plain (text : String) : String := String.ofList (shown .shown text.toList)

end ClusterDiscovery.Text.Terminal
