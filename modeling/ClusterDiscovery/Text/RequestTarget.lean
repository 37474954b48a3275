/-
Targets of HTTP requests.

A target is a path and an optional query. Some characters may stand in neither, a few
more only in the query, and all that is not ASCII may stand in both. Whatever follows a
number sign is no part of the target.
-/

import ClusterDiscovery.Text.Blank

namespace ClusterDiscovery.Text

def pathRanges : List (Nat × Nat) :=
  [(0x21, 0x22), (0x24, 0x3B), (0x3D, 0x3D), (0x40, 0x5F), (0x61, 0x7E)]

def queryRanges : List (Nat × Nat) := [(0x21, 0x21), (0x24, 0x3B), (0x3D, 0x3D), (0x3F, 0x7E)]

def allowedIn (ranges : List (Nat × Nat)) (c : Char) : Bool :=
  0x80 ≤ c.toNat || inRanges ranges c.toNat

def targetLimit : Nat := 65534

def requestTarget? (text : String) : Option String :=
  let chars := text.toList
  let path := chars.takeWhile fun c => c != '?' && c != '#'
  let rest := chars.dropWhile fun c => c != '?' && c != '#'
  let query := rest.takeWhile (· != '#')
  if text.utf8ByteSize ≤ targetLimit && path.all (allowedIn pathRanges) &&
      query.all (allowedIn queryRanges) then
    some (String.ofList (path ++ query))
  else none

end ClusterDiscovery.Text
