/-
Definitions of the operator's three resources.

The operator installs a definition for each resource before it starts, so the schemas in
the cluster are those of the running operator. The defaults in the schemas are the values
that reading gives an absent field.
-/

import ClusterDiscovery.Cluster.Codec
import ClusterDiscovery.Config.Codec
import ClusterDiscovery.Definition.Schema

namespace ClusterDiscovery

open Json

structure Column where
  name : String
  columnType : String
  path : String

structure Definition where
  kind : String
  singular : String
  plural : String
  shortNames : List String
  columns : List Column
  spec : Value

namespace Definition

def group : String := "discovery.open-cluster-management.io"

def version : String := "v1"

def fullName (definition : Definition) : String := definition.plural ++ "." ++ group

def filterSchema : Value :=
  schemaOr Filter.unrestricted.value "Restrictions on which clusters to discover" (.record [
    ("lastActive", schemaOr (.int 0)
      "Maximum age in days of the last inventory update (0 = unbounded)" .integer),
    ("openShiftVersions", schema "OpenShift `major.minor` versions to keep" .texts),
    ("clusterTypes",
      schema "Cluster types (plan ids such as OCP, ROSA, ARO) to keep" .texts),
    ("infrastructureProviders",
      schema "Cloud providers (aws, gcp, azure, ...) to keep" .texts),
    ("regions", schema "Cloud regions to keep" .texts)] [])

def configs : Definition where
  kind := Config.kind
  singular := "discoveryconfig"
  plural := "discoveryconfigs"
  shortNames := ["dc"]
  columns := [
    ⟨"Credential", "string", ".spec.credential"⟩,
    ⟨"Age", "date", ".metadata.creationTimestamp"⟩]
  spec := schema "Specification for a DiscoveryConfig" (.record [
    ("credential",
      textSchema "Name of the Secret (same namespace) holding OCM credentials"),
    ("filters", filterSchema)] [])

def credentialSchema : Value :=
  schemaOr (CredentialRef.value ⟨"", ""⟩) "Secret the cluster was discovered with" (.record [
    ("name", schema "Secret name" .text),
    ("namespace", schema "Secret namespace" .text)] ["name", "namespace"])

def clusters : Definition where
  kind := Cluster.kind
  singular := "discoveredcluster"
  plural := "discoveredclusters"
  shortNames := []
  columns := [
    ⟨"Display Name", "string", ".spec.displayName"⟩,
    ⟨"Type", "string", ".spec.type"⟩,
    ⟨"Version", "string", ".spec.openshiftVersion"⟩,
    ⟨"Status", "string", ".spec.status"⟩,
    ⟨"Managed", "boolean", ".spec.isManagedCluster"⟩]
  spec := schema "Specification for a DiscoveredCluster" (.record [
    ("name", schema "External cluster id" .text),
    ("displayName", textSchema "Human-friendly name"),
    ("console", textSchema "Web console URL"),
    ("apiUrl", textSchema "API server URL derived from the console URL"),
    ("creationTimestamp", schema "When the cluster was registered with OCM" .time),
    ("activityTimestamp", schema "Last telemetry report" .time),
    ("type", textSchema "Platform type (OCP, ROSA, ARO, OSD, ...)"),
    ("openshiftVersion", textSchema "OpenShift version reported by the cluster"),
    ("cloudProvider", textSchema "Cloud provider id"),
    ("region", textSchema "Cloud region id"),
    ("status",
      textSchema "Subscription lifecycle status (Active, Disconnected, Stale, ...)"),
    ("ocpClusterId", textSchema "OpenShift cluster id, same as `name`"),
    ("rhocmClusterId",
      textSchema "OCM's internal cluster id, when the cluster is OCM-provisioned"),
    ("credential", credentialSchema),
    ("isManagedCluster", schemaOr (.bool false)
      "Set by the managed overlay when a ManagedCluster carries this id" .flag)] ["name"])

def refreshes : Definition where
  kind := "DiscoveredClusterRefresh"
  singular := "discoveredclusterrefresh"
  plural := "discoveredclusterrefreshes"
  shortNames := []
  columns := []
  spec := schema "Specification for a DiscoveredClusterRefresh (intentionally empty)"
    (.record [] [])

def all : List Definition := [configs, clusters, refreshes]

def ofKind? (kind : String) : Option Definition :=
  all.find? fun definition => definition.kind == kind

def columnValue (column : Column) : Value :=
  .record [
    ("jsonPath", .string column.path),
    ("name", .string column.name),
    ("type", .string column.columnType)]

def rootSchema (definition : Definition) : Value :=
  .record [
    ("description", .string
      s!"Auto-generated derived type for {definition.kind}Spec via `CustomResource`"),
    ("properties", .record [("spec", definition.spec)]),
    ("required", .strings ["spec"]),
    ("title", .string definition.kind),
    ("type", .string "object")]

def versionValue (definition : Definition) : Value :=
  .record [
    ("additionalPrinterColumns", .array (definition.columns.map columnValue)),
    ("name", .string version),
    ("schema", .record [("openAPIV3Schema", definition.rootSchema)]),
    ("served", .bool true),
    ("storage", .bool true),
    ("subresources", .record [])]

def value (definition : Definition) : Value :=
  .record [
    ("apiVersion", .string "apiextensions.k8s.io/v1"),
    ("kind", .string "CustomResourceDefinition"),
    ("metadata", .record [("name", .string definition.fullName)]),
    ("spec", .record [
      ("group", .string group),
      ("names", .record [
        ("categories", .array []),
        ("kind", .string definition.kind),
        ("plural", .string definition.plural),
        ("shortNames", .strings definition.shortNames),
        ("singular", .string definition.singular)]),
      ("scope", .string "Namespaced"),
      ("versions", .array [definition.versionValue])])]

end Definition

end ClusterDiscovery
