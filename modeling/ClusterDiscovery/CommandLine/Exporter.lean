/-
Exporters of what the program measures and traces.

If the environment names a collector, metrics and traces are exported to it, unless an
exporter is asked to compress or the address of its collector is none. Traces are sampled
and wait in a queue, and some ways to sample and some sizes of the queue are beyond the
program. Each exporter has a timer, and one whose timer has no period dies later on.
-/

import ClusterDiscovery.CommandLine.Arguments
import ClusterDiscovery.Text.Address

namespace ClusterDiscovery.CommandLine

inductive Signal where
  | metrics
  | traces
  deriving DecidableEq, Repr

namespace Signal

def all : List Signal := [.metrics, .traces]

/-- The variable with the address of the collector of this signal, which wins over the one
for all signals. -/
def variableName : Signal → String
  | .metrics => "OTEL_EXPORTER_OTLP_METRICS_ENDPOINT"
  | .traces => "OTEL_EXPORTER_OTLP_TRACES_ENDPOINT"

/-- The variables that ask for compression of this signal, which no exporter can do. -/
def compressionVariables : Signal → List String
  | .metrics => ["OTEL_EXPORTER_OTLP_METRICS_COMPRESSION", "OTEL_EXPORTER_OTLP_COMPRESSION"]
  | .traces => ["OTEL_EXPORTER_OTLP_TRACES_COMPRESSION", "OTEL_EXPORTER_OTLP_COMPRESSION"]

def timerVariable : Signal → String
  | .metrics => "OTEL_METRIC_EXPORT_INTERVAL"
  | .traces => "OTEL_BSP_SCHEDULE_DELAY"

def exporterName : Signal → String
  | .metrics => "metrics exporter"
  | .traces => "tracer"

end Signal

def collectorVariable : String := "OTEL_EXPORTER_OTLP_ENDPOINT"

def samplerVariable : String := "OTEL_TRACES_SAMPLER"

/-- Ways to sample traces that have a name and nothing more. -/
def missingSamplers : List String := ["parentbased_jaeger_remote", "jaeger_remote", "xray"]

def queueVariable : String := "OTEL_BSP_MAX_QUEUE_SIZE"

def queueLimit : Nat := 2305843009213693951

def exporterVariables : List String :=
  [collectorVariable, samplerVariable, queueVariable] ++ Signal.all.flatMap fun signal =>
    [signal.variableName, signal.timerVariable] ++ signal.compressionVariables

namespace Environment

def number? (environment : Environment) (name : String) : Option Nat :=
  (environment.get? name).bind fun text => (Text.readNumber (UInt64.size - 1) text).toOption

def collector? (environment : Environment) : Option String :=
  (environment.get? collectorVariable).filter fun text => Text.trim text != ""

/-- The exporter of a signal can be set up: nothing asks for compression, and the address of
the collector is one. -/
def canExport (environment : Environment) (shared : String) (signal : Signal) : Bool :=
  !(signal.compressionVariables.any fun name => (environment.get? name).isSome) &&
    Text.isAddress ((environment.get? signal.variableName).getD shared)

def canTrace (environment : Environment) : Bool :=
  !(environment.get? samplerVariable).any (fun name => missingSamplers.contains name) &&
    (environment.number? queueVariable).all fun size => 0 < size && size ≤ queueLimit

/-- An exporter that is set up dies, as its timer has no period. -/
def losesExporter (environment : Environment) : Bool :=
  environment.collector?.isSome && Signal.all.any fun signal =>
    environment.number? signal.timerVariable == some 0

end Environment

end ClusterDiscovery.CommandLine
