/-
Settings of the operator.

Base URLs, the page size and the intervals of the loops. An annotation of a configuration
overrides a base URL unless it is blank, and no base URL ends in a slash.
-/

import ClusterDiscovery.Config.Basic
import ClusterDiscovery.Text.Blank

namespace ClusterDiscovery

/-- Settings that every part of the operator shares. Intervals are in seconds. -/
structure Settings where
  inventoryUrl : String
  authUrl : String
  pageSize : Nat
  refreshSecs : Nat
  transientRetrySecs : Nat
  errorRetrySecs : Nat
  overlayResyncSecs : Nat
  httpTimeoutSecs : Nat
  deriving DecidableEq, Repr

namespace Settings

def standard : Settings where
  inventoryUrl := "https://api.openshift.com"
  authUrl := "https://sso.redhat.com"
  pageSize := 1000
  refreshSecs := 1800
  transientRetrySecs := 300
  errorRetrySecs := 30
  overlayResyncSecs := 300
  httpTimeoutSecs := 30

def inventoryAnnotation : String := "ocmBaseURL"

def authAnnotation : String := "authBaseURL"

/-- The trimmed value of an annotation unless it is blank, else the fallback, without
slashes at its end. -/
def annotationOr (config : Config) (key fallback : String) : String :=
  let override := (config.metadata.annotation? key).map Text.trim
  Text.trimSlashes ((override.filter fun text => text != "").getD fallback)

def inventoryUrlFor (settings : Settings) (config : Config) : String :=
  annotationOr config inventoryAnnotation settings.inventoryUrl

def authUrlFor (settings : Settings) (config : Config) : String :=
  annotationOr config authAnnotation settings.authUrl

end Settings

end ClusterDiscovery
