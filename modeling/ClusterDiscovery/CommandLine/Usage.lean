/-
Faults in the use of the command line.

A fault is reported in one line, unless what was given has several. Parameters are named
with their option and what stands for its value, whether the faulty value comes from the
command line or the environment. Colours, if there are any, set off what is wrong from what
is known.
-/

import ClusterDiscovery.CommandLine.Parameter
import ClusterDiscovery.Text.Terminal

namespace ClusterDiscovery.CommandLine

open Text

inductive UsageError where
  | unexpectedArgument (argument : String)
  | unknownCommand (argument : String)
  | missingValue (parameter : Parameter)
  | invalidValue (parameter : Parameter) (text : String) (fault : Text.NumberFault)
  | repeated (display : String)
  | unneededValue (option value : String)
  deriving DecidableEq, Repr

inductive Emphasis where
  | heading
  | fault
  | known
  deriving DecidableEq, Repr

namespace Emphasis

/-- Numbers that switch a terminal: 1 to bold, 31 to red, and 33 to yellow. -/
def switches : Emphasis → List Nat
  | .heading => [1, 31]
  | .fault => [33]
  | .known => [1]

/-- A part of a message between switches, or without colours, the part without all that
would control a terminal. -/
def mark (coloured : Bool) (emphasis : Emphasis) (text : String) : String :=
  if coloured then
    String.join (emphasis.switches.map fun number => s!"\x1b[{number}m") ++ text ++ "\x1b[0m"
  else Terminal.plain text

end Emphasis

def UsageError.message (coloured : Bool) (error : UsageError) : String :=
  let faulty := Emphasis.fault.mark coloured
  let known (parameter : Parameter) : String := Emphasis.known.mark coloured parameter.display
  let rest := match error with
    | .unexpectedArgument argument => s!"unexpected argument '{faulty argument}' found"
    | .unknownCommand argument => s!"unrecognized subcommand '{faulty argument}'"
    | .missingValue parameter =>
        s!"a value is required for '{faulty parameter.display}' but none was supplied"
    | .invalidValue parameter text fault =>
        s!"invalid value '{faulty text}' for '{known parameter}': {fault.message}"
    | .repeated display => s!"the argument '{faulty display}' cannot be used multiple times"
    | .unneededValue option value =>
        s!"unexpected value '{faulty value}' for '{Emphasis.known.mark coloured option}' found; " ++
          "no more were expected"
  Emphasis.heading.mark coloured "error:" ++ " " ++ rest

end ClusterDiscovery.CommandLine
