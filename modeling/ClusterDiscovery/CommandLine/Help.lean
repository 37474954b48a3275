/-
The text of the help.

Help about the program lists its commands and options; help about the controller lists its
parameters, each with its variable and the value that it has if nothing is given.
-/

import ClusterDiscovery.CommandLine.Arguments

namespace ClusterDiscovery.CommandLine

def programName : String := "discovery-operator"

def versionText : String := programName ++ " 0.1.0"

/-- The text of a base URL or a number that a parameter has if nothing is given. -/
def Parameter.standardText (parameter : Parameter) : String :=
  match parameter.number? Settings.standard with
  | some number => toString number
  | none =>
      match parameter with
      | .authUrl => Settings.standard.authUrl
      | _ => Settings.standard.inventoryUrl

def Parameter.helpLines (parameter : Parameter) : List String :=
  ["      " ++ parameter.display,
   s!"          {parameter.summary} [env: {parameter.variableName}] [default: {parameter.standardText}]"]

def Topic.lines : Topic → List String
  | .program => [
      "Discovery operator - keeps DiscoveredCluster resources in sync with OCM", "",
      s!"Usage: {programName} [OPTIONS] [COMMAND]", "",
      "Commands:",
      "  controller  Run as controller (default mode)",
      "  help        Print this message or the help of the given subcommand(s)", "",
      "Options:",
      "      --crd      Print CRD manifests and exit",
      "  -h, --help     Print help",
      "  -V, --version  Print version"]
  | .controller => [
      "Run as controller (default mode)", "",
      s!"Usage: {programName} controller [OPTIONS]", "",
      "Options:"] ++ Parameter.all.flatMap Parameter.helpLines ++ [
      "  -h, --help",
      "          Print help"]
  | .help => [
      "Print this message or the help of the given subcommand(s)", "",
      s!"Usage: {programName} help [COMMAND]"]

end ClusterDiscovery.CommandLine
