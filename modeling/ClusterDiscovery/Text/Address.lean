/-
Addresses of endpoints.

An address is a path, or an authority that may follow a scheme and, if it does, may be
followed by a path. The authority is plain ASCII: it has at most one colon after its user
and its bracketed host, at most one pair of brackets, and percent signs only in its user
or between its brackets.
-/

import ClusterDiscovery.Text.RequestTarget

namespace ClusterDiscovery.Text

def isSchemeChar (c : Char) : Bool := c.isAlphanum || "+-.~".contains c

def isAuthorityChar (c : Char) : Bool := c.isAlphanum || "!$&'()*+,-.:;=@[]_~%".contains c

def endsAuthority (c : Char) : Bool := c == '/' || c == '?' || c == '#'

structure AuthorityScan where
  colons : Nat
  opened : Bool
  closed : Bool
  percent : Bool

namespace AuthorityScan

def start : AuthorityScan := ⟨0, false, false, false⟩

def colonLimit : Nat := 8

/-- Read one more character; a closed host or user takes its colons and percent signs with
it. -/
def step? (scan : AuthorityScan) (c : Char) : Option AuthorityScan :=
  if !isAuthorityChar c then none
  else match c with
    | ':' =>
        if scan.colons < colonLimit then some { scan with colons := scan.colons + 1 }
        else none
    | '[' => if scan.percent || scan.opened then none else some { scan with opened := true }
    | ']' => if !scan.opened || scan.closed then none else some ⟨0, true, true, false⟩
    | '@' => some { scan with colons := 0, percent := false }
    | '%' => some { scan with percent := true }
    | _ => some scan

def isDone (scan : AuthorityScan) : Bool :=
  scan.opened == scan.closed && scan.colons ≤ 1 && !scan.percent

end AuthorityScan

/-- An authority, which may be empty but has a host if it has a user. -/
def isAuthority (chars : List Char) : Bool :=
  match chars.foldlM AuthorityScan.step? AuthorityScan.start with
  | none => false
  | some scan => scan.isDone && chars.getLast? != some '@'

def schemeLimit : Nat := 64

def schemeLength? (chars : List Char) : Option Nat :=
  let scheme := chars.takeWhile isSchemeChar
  match chars.drop scheme.length with
  | ':' :: '/' :: '/' :: _ => some scheme.length
  | _ => none

def isAddress (text : String) : Bool :=
  let chars := text.toList
  if targetLimit < text.utf8ByteSize then false
  else match chars with
    | [] => false
    | '/' :: _ => (requestTarget? text).isSome
    | _ =>
        match schemeLength? chars with
        | none => isAuthority chars
        | some length =>
            let rest := chars.drop (length + 3)
            let authority := rest.takeWhile fun c => !endsAuthority c
            let target := rest.drop authority.length
            length ≤ schemeLimit && !authority.isEmpty && isAuthority authority &&
              (requestTarget? (String.ofList target)).isSome

end ClusterDiscovery.Text
