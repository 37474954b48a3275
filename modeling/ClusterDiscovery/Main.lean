/-
The program.

It looks up its variables, works out what its launch comes to and shows that. Clusters are
out of its reach, so an operator that is ready announces itself and ends there.
-/

import ClusterDiscovery.CommandLine.Help
import ClusterDiscovery.CommandLine.Launch
import ClusterDiscovery.Definition.Basic
import ClusterDiscovery.Json.Block

namespace ClusterDiscovery

open CommandLine Json

def readEnvironment : IO Environment := do
  let entries ← knownVariables.filterMapM fun name => do
    return (← IO.getEnv name).map fun text => (name, text)
  return .ofList entries

def announcement (settings : Settings) : Value :=
  .record [
    ("level", .string "INFO"),
    ("fields", .record [
      ("message", .string "Discovery operator starting"),
      ("ocm_base_url", .string settings.inventoryUrl),
      ("auth_base_url", .string settings.authUrl),
      ("page_size", .nat settings.pageSize)]),
    ("target", .string announcementLine.target)]

def fail (environment : Environment) (failure : LaunchFailure) : IO UInt32 := do
  IO.eprintln (failure.report environment)
  return UInt32.ofNat failure.code

def showLaunch (environment : Environment) : Launch → IO UInt32
  | .help topic => do
      topic.lines.forM fun line => IO.println line
      return 0
  | .version => do
      IO.println versionText
      return 0
  | .definitions => do
      Definition.all.forM fun definition => IO.println ("---\n" ++ definition.value.toBlock)
      return 0
  | .failed failure => fail environment failure
  | .ready settings announced => do
      if announced then IO.println (announcement settings).toText
      fail environment .noCluster

end ClusterDiscovery

open ClusterDiscovery in
def main (given : List String) : IO UInt32 := do
  let environment ← readEnvironment
  showLaunch environment (CommandLine.launch environment given)
