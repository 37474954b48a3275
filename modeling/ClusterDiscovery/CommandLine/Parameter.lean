/-
Parameters of the controller.

Each setting is a parameter: an option on the command line, a variable of the
environment, and a value that it has if neither is given. The option wins over the
variable. Base URLs are taken as they are, without slashes at their end; all else are
numbers of 64 bits, none of which may be zero.
-/

import ClusterDiscovery.Settings
import ClusterDiscovery.Text.Decimal

namespace ClusterDiscovery.CommandLine

inductive Parameter where
  | inventoryUrl
  | authUrl
  | pageSize
  | refreshSecs
  | transientRetrySecs
  | errorRetrySecs
  | overlayResyncSecs
  | httpTimeoutSecs
  deriving DecidableEq, Repr

namespace Parameter

def all : List Parameter :=
  [.inventoryUrl, .authUrl, .pageSize, .refreshSecs, .transientRetrySecs, .errorRetrySecs,
   .overlayResyncSecs, .httpTimeoutSecs]

def name : Parameter → String
  | .inventoryUrl => "ocm-base-url"
  | .authUrl => "auth-base-url"
  | .pageSize => "page-size"
  | .refreshSecs => "refresh-interval-secs"
  | .transientRetrySecs => "transient-retry-secs"
  | .errorRetrySecs => "error-retry-secs"
  | .overlayResyncSecs => "overlay-resync-secs"
  | .httpTimeoutSecs => "http-timeout-secs"

def placeholder : Parameter → String
  | .inventoryUrl => "OCM_BASE_URL"
  | .authUrl => "AUTH_BASE_URL"
  | .pageSize => "PAGE_SIZE"
  | .refreshSecs => "REFRESH_INTERVAL_SECS"
  | .transientRetrySecs => "TRANSIENT_RETRY_SECS"
  | .errorRetrySecs => "ERROR_RETRY_SECS"
  | .overlayResyncSecs => "OVERLAY_RESYNC_SECS"
  | .httpTimeoutSecs => "HTTP_TIMEOUT_SECS"

def variableName : Parameter → String
  | .inventoryUrl => "OCM_BASE_URL"
  | .authUrl => "AUTH_BASE_URL"
  | parameter => "DISCOVERY_" ++ parameter.placeholder

def summary : Parameter → String
  | .inventoryUrl => "Inventory base URL used when a DiscoveryConfig has no override"
  | .authUrl => "Token endpoint base URL used when a DiscoveryConfig has no override"
  | .pageSize => "Subscriptions requested per inventory page"
  | .refreshSecs => "Seconds between discovery passes"
  | .transientRetrySecs => "Seconds before retrying after a transient OCM failure"
  | .errorRetrySecs => "Seconds before retrying after a Kubernetes error"
  | .overlayResyncSecs => "Seconds between managed overlay resyncs"
  | .httpTimeoutSecs => "Per-request HTTP timeout in seconds for OCM calls"

def option (parameter : Parameter) : String := "--" ++ parameter.name

def display (parameter : Parameter) : String := s!"{parameter.option} <{parameter.placeholder}>"

def ofName? (name : String) : Option Parameter := all.find? fun parameter => parameter.name == name

def greatest : Nat := UInt64.size - 1

def assign (parameter : Parameter) (text : String) (settings : Settings) :
    Except Text.NumberFault Settings :=
  let number := Text.readNumber greatest text
  match parameter with
  | .inventoryUrl => .ok { settings with inventoryUrl := Text.trimSlashes text }
  | .authUrl => .ok { settings with authUrl := Text.trimSlashes text }
  | .pageSize => number.map fun value => { settings with pageSize := value }
  | .refreshSecs => number.map fun value => { settings with refreshSecs := value }
  | .transientRetrySecs => number.map fun value => { settings with transientRetrySecs := value }
  | .errorRetrySecs => number.map fun value => { settings with errorRetrySecs := value }
  | .overlayResyncSecs => number.map fun value => { settings with overlayResyncSecs := value }
  | .httpTimeoutSecs => number.map fun value => { settings with httpTimeoutSecs := value }

def number? (settings : Settings) : Parameter → Option Nat
  | .inventoryUrl => none
  | .authUrl => none
  | .pageSize => some settings.pageSize
  | .refreshSecs => some settings.refreshSecs
  | .transientRetrySecs => some settings.transientRetrySecs
  | .errorRetrySecs => some settings.errorRetrySecs
  | .overlayResyncSecs => some settings.overlayResyncSecs
  | .httpTimeoutSecs => some settings.httpTimeoutSecs

def firstZero? (settings : Settings) : Option Parameter :=
  all.find? fun parameter => parameter.number? settings == some 0

end Parameter

end ClusterDiscovery.CommandLine
