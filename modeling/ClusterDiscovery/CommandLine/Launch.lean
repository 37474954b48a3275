/-
What a launch of the program comes to.

The arguments and the environment decide all of it up to the first look at the cluster.
Faults of use come first, then an exporter that cannot be set up, then a filter of the log
that cannot even be taken apart, then a parameter that is zero. What is left is an operator
with its settings, which announces itself in its log if the filter of the log lets it. An
exporter that dies on the way leaves an empty line in front of any later report.
-/

import ClusterDiscovery.CommandLine.Exporter
import ClusterDiscovery.CommandLine.LogFilter

namespace ClusterDiscovery.CommandLine

def filterVariable : String := "RUST_LOG"

def announcementLine : LogLine :=
  ⟨"discovery_operator", ["message", "ocm_base_url", "auth_base_url", "page_size"], .info⟩

/-- The variable that forces colours if it is not empty, and the one that forbids them. -/
def colourVariables : String × String := ("CLICOLOR_FORCE", "NO_COLOR")

def knownVariables : List String :=
  Parameter.all.map Parameter.variableName ++ exporterVariables ++
    [filterVariable, colourVariables.1, colourVariables.2]

def Environment.isColoured (environment : Environment) : Bool :=
  let isSet (name : String) : Bool := (environment.get? name).any fun text => text != ""
  isSet colourVariables.1 && !isSet colourVariables.2

inductive LaunchFailure where
  | usage (error : UsageError)
  | exporter (signal : Signal)
  | collapse
  | zero (parameter : Parameter)
  | noCluster
  deriving DecidableEq, Repr

namespace LaunchFailure

/-- The message about a failure; details that the surroundings give are left out. -/
def message (coloured : Bool) : LaunchFailure → String
  | .usage error => error.message coloured
  | .exporter signal => s!"Error: failed to initialize {signal.exporterName}:"
  | .collapse => ""
  | .zero parameter => s!"Error: {parameter.option} must be at least 1"
  | .noCluster => "Error: Failed to create Kubernetes client:"

def isLate : LaunchFailure → Bool
  | .zero _ => true
  | .noCluster => true
  | _ => false

def report (environment : Environment) (failure : LaunchFailure) : String :=
  (if failure.isLate && environment.losesExporter then "\n" else "") ++
    failure.message environment.isColoured

def code : LaunchFailure → Nat
  | .usage _ => 2
  | .collapse => 101
  | _ => 1

end LaunchFailure

def firstLine (text : String) : String :=
  match text.splitOn "\n" with
  | line :: _ :: _ =>
      let chars := line.toList
      String.ofList (if chars.getLast? = some '\r' then chars.dropLast else chars)
  | _ => text

/-- What keeps the exporters from being set up. -/
def exportFailure? (environment : Environment) : Option LaunchFailure :=
  match environment.collector? with
  | none => none
  | some shared =>
      match Signal.all.find? fun signal => !environment.canExport shared signal with
      | some signal => some (.exporter signal)
      | none => if environment.canTrace then none else some .collapse

inductive Launch where
  | help (topic : Topic)
  | version
  | definitions
  | failed (failure : LaunchFailure)
  | ready (settings : Settings) (announced : Bool)
  deriving DecidableEq, Repr

def control (environment : Environment) (settings : Settings) : Launch :=
  match exportFailure? environment with
  | some failure => .failed failure
  | none =>
      match LogFilter.ofSetting? (environment.get? filterVariable) with
      | none => .failed .collapse
      | some filter =>
          match Parameter.firstZero? settings with
          | some parameter => .failed (.zero parameter)
          | none => .ready settings (filter.admits announcementLine)

def launch (environment : Environment) (given : List String) : Launch :=
  match Command.ofArguments environment given with
  | .error error => .failed (.usage error)
  | .ok (.help topic) => .help topic
  | .ok .version => .version
  | .ok .definitions => .definitions
  | .ok (.control settings) => control environment settings

end ClusterDiscovery.CommandLine
