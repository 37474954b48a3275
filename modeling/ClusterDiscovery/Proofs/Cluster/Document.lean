/-
Records and the documents that they are read from.

A document of a record has two parts, its metadata and its specification, and each part is read
name by name. Where two parts differ only in what stands under some names, what is read of them
differs only there.
-/

import ClusterDiscovery.Hub.Request
import ClusterDiscovery.Proofs.Json.Merge
import ClusterDiscovery.Proofs.Registry.Basic

namespace ClusterDiscovery

open Json

section Reading

variable {α β : Type} {first second : Option α} {next other : α → Option β} {result changed : β}

/-- A reading that begins as another one and goes on as the other goes on. -/
private theorem follows (same : second = first)
    (later : ∀ found, next found = some result → other found = some changed)
    (read : first.bind next = some result) : second.bind other = some changed := by
  obtain ⟨found, begun, rest⟩ := Option.bind_eq_some_iff.mp read
  rw [same, begun]
  exact later found rest

/-- A reading that begins otherwise than another one and goes on as the other goes on. -/
private theorem departs {found : α} (begun : second = some found)
    (later : ∀ before, next before = some result → other found = some changed)
    (read : first.bind next = some result) : second.bind other = some changed := by
  obtain ⟨before, _begun, rest⟩ := Option.bind_eq_some_iff.mp read
  rw [begun]
  exact later before rest

end Reading

variable {room : Nat} {before after : Value}

theorem Metadata.readWithin_relabelled (isTable : before.IsTable) (alsoTable : after.IsTable)
    (others : ∀ name, name ≠ "labels" → name ≠ "resourceVersion" →
      after.member? name = before.member? name)
    {metadata : Metadata} (read : Metadata.readWithin room before = some metadata)
    {labels : Option (Keyed String)} {version : Option String}
    (readLabels : optional (readTable readText) (after.member? "labels") = some labels)
    (readVersion : optional readText (after.member? "resourceVersion") = some version) :
    Metadata.readWithin room after =
      some { metadata with labels := labels, resourceVersion := version } := by
  obtain ⟨old, readOld, lastOld⟩ := readMembers_of_isTable isTable
  obtain ⟨new, readNew, lastNew⟩ := readMembers_of_isTable alsoTable
  have same {α : Type} {reader : Reader α} {name : String} (notLabels : name ≠ "labels")
      (notVersion : name ≠ "resourceVersion") :
      lastMember? reader new name = lastMember? reader old name := by
    rw [lastNew, lastOld, others name notLabels notVersion]
  unfold Metadata.readWithin at read ⊢
  rw [readOld, Option.bind_eq_bind, Option.bind_some] at read
  rw [readNew, Option.bind_eq_bind, Option.bind_some]
  -- the fields are read in their order; the fifth is the version, the eleventh the labels
  iterate 4 refine follows (same (by decide) (by decide)) (fun _ read => ?_) read
  refine departs ((lastNew _ _).trans readVersion) (fun _ read => ?_) read
  iterate 5 refine follows (same (by decide) (by decide)) (fun _ read => ?_) read
  refine departs ((lastNew _ _).trans readLabels) (fun _ read => ?_) read
  iterate 4 refine follows (same (by decide) (by decide)) (fun _ read => ?_) read
  cases read
  rfl

theorem ClusterSpec.read_flagged (isTable : before.IsTable) (alsoTable : after.IsTable)
    (others : ∀ name, name ≠ "isManagedCluster" → after.member? name = before.member? name)
    {spec : ClusterSpec} (read : ClusterSpec.read before = some spec) {managed : Bool}
    (flag : after.member? "isManagedCluster" = some (.bool managed)) :
    ClusterSpec.read after = some { spec with isManaged := managed } := by
  have same {α : Type} {reader : Option Value → Option α} {name : String}
      (notFlag : name ≠ "isManagedCluster") :
      reader (after.member? name) = reader (before.member? name) := by
    rw [others name notFlag]
  have readFlag : orAbsent false readBool (after.member? "isManagedCluster") = some managed := by
    rw [flag]
    rfl
  unfold ClusterSpec.read at read ⊢
  rw [fields?_of_isTable isTable, Option.bind_eq_bind, Option.bind_some] at read
  rw [fields?_of_isTable alsoTable, Option.bind_eq_bind, Option.bind_some]
  iterate 14 refine follows (same (by decide)) (fun _ read => ?_) read
  refine departs readFlag (fun _ read => ?_) read
  cases read
  rfl

theorem Metadata.labels_of_readWithin (isTable : before.IsTable) {metadata : Metadata}
    (read : Metadata.readWithin room before = some metadata) :
    optional (readTable readText) (before.member? "labels") = some metadata.labels := by
  obtain ⟨members, readMembers, last⟩ := readMembers_of_isTable isTable
  unfold Metadata.readWithin at read
  rw [readMembers, Option.bind_eq_bind, Option.bind_some] at read
  iterate 10 obtain ⟨_, _, read⟩ := Option.bind_eq_some_iff.mp read
  obtain ⟨labels, readLabels, read⟩ := Option.bind_eq_some_iff.mp read
  iterate 4 obtain ⟨_, _, read⟩ := Option.bind_eq_some_iff.mp read
  cases read
  exact (last _ _).symm.trans readLabels

theorem Json.required_eq_some_iff {α : Type} {read : Reader α} {field : Option Value}
    {result : α} :
    required read field = some result ↔ ∃ value, field = some value ∧ read value = some result := by
  cases field <;> simp [required]

theorem Cluster.readWithin_eq_some_iff (isTable : before.IsTable) {cluster : Cluster} :
    Cluster.readWithin room before = some cluster ↔
      ∃ metadata spec, before.member? "metadata" = some metadata ∧
        before.member? "spec" = some spec ∧
          Metadata.readWithin (room - 1) metadata = some cluster.metadata ∧
            ClusterSpec.read spec = some cluster.spec := by
  have opened : Cluster.readWithin room before =
      (required (Metadata.readWithin (room - 1)) (before.member? "metadata")).bind fun metadata =>
        (required ClusterSpec.read (before.member? "spec")).bind fun spec =>
          some ⟨metadata, spec⟩ := by
    unfold Cluster.readWithin readManifest
    rw [fields?_of_isTable isTable, Option.bind_eq_bind, Option.bind_some]
    change Option.map _ (Option.bind _ fun _ => Option.bind _ _) = _
    rw [Option.map_bind]
    congr 1
    funext metadata
    exact Option.map_bind
  rw [opened]
  simp only [Option.bind_eq_some_iff, required_eq_some_iff]
  constructor
  · rintro ⟨_, ⟨metadata, metadataPart, readMetadata⟩, _, ⟨spec, specPart, readSpec⟩, same⟩
    cases same
    exact ⟨metadata, spec, metadataPart, specPart, readMetadata, readSpec⟩
  · rintro ⟨metadata, spec, metadataPart, specPart, readMetadata, readSpec⟩
    exact ⟨_, ⟨metadata, metadataPart, readMetadata⟩, _, ⟨spec, specPart, readSpec⟩, rfl⟩

namespace Cluster

/-- A document as a server keeps it: its parts and its labels are tables. -/
structure Tidy (document : Value) : Prop where
  isTable : document.IsTable
  metadata : ∀ value, document.member? "metadata" = some value → value.IsTable
  spec : ∀ value, document.member? "spec" = some value → value.IsTable
  labels : ∀ metadata labels, document.member? "metadata" = some metadata →
    metadata.member? "labels" = some labels → labels = .null ∨ labels.IsTable

def labelled (cluster : Cluster) : Cluster :=
  { cluster with metadata :=
      { cluster.metadata with labels := some (cluster.metadata.labels.getD .empty) } }

theorem label?_labelled (cluster : Cluster) (key : String) :
    cluster.labelled.metadata.label? key = cluster.metadata.label? key := by
  unfold labelled Metadata.label?
  cases cluster.metadata.labels <;> rfl

theorem sameButManaged_labelled (cluster : Cluster) (managed : Bool) (version : Option String) :
    SameButManaged cluster ((cluster.labelled.setManaged managed).withVersion version) := by
  obtain ⟨⟨labels, written, metadata⟩, others, spec⟩ :=
    cluster.labelled.sameButManaged_setManaged managed version
  refine ⟨⟨labels, written, metadata⟩, ?_, spec⟩
  intro key different
  rw [others key different, label?_labelled]

end Cluster

namespace Metadata

def marked (labels : Keyed String) (managed : Bool) : Keyed String :=
  if managed then labels.insert Cluster.managedLabel "true" else labels.erase Cluster.managedLabel

def labelPatch (managed : Bool) : Value :=
  .record [(Cluster.managedLabel, if managed then .string "true" else .null)]

variable {written : Option Value} {labels : Option (Keyed String)}

theorem member?_merge_labelPatch {target : Value} {texts : Keyed String}
    (shown : ∀ name, target.member? name = (texts.get? name).map Value.string) (managed : Bool)
    (name : String) :
    (target.merge (labelPatch managed)).member? name =
      ((marked texts managed).get? name).map Value.string := by
  have distinct : ([(Cluster.managedLabel, if managed then Value.string "true" else .null)].map
      Prod.fst).Nodup := List.nodup_singleton _
  unfold labelPatch
  rw [Value.member?_merge target _ distinct]
  by_cases own : name = Cluster.managedLabel
  · rw [own, List.lookup_cons_self]
    cases managed with
    | true =>
        exact (congrArg (Option.map Value.string)
          (Keyed.get?_insert_self texts Cluster.managedLabel "true")).symm
    | false =>
        exact (congrArg (Option.map Value.string)
          (Keyed.get?_erase_self texts Cluster.managedLabel)).symm
  · have other : (name == Cluster.managedLabel) = false := beq_eq_false_iff_ne.mpr own
    rw [List.lookup_cons, other]
    refine (shown name).trans (congrArg _ ?_)
    cases managed with
    | true => exact (Keyed.get?_insert_of_ne texts own _).symm
    | false => exact (Keyed.get?_erase_of_ne texts own).symm

/-- The labels of a document after a patch are those before it with the managed label set or
cleared, even where there were none. -/
theorem readLabels_merge (read : optional (readTable readText) written = some labels)
    (tidy : ∀ value, written = some value → value = .null ∨ value.IsTable) (managed : Bool) :
    ((written.getD .null).merge (labelPatch managed)).IsTable ∧
      readTable readText ((written.getD .null).merge (labelPatch managed)) =
        some (marked (labels.getD .empty) managed) := by
  obtain ⟨merges, shown⟩ := texts_of_optional read tidy
  have isTable : ((written.getD .null).merge (labelPatch managed)).IsTable := merges _
  exact ⟨isTable, (readTable_readText_eq_some_iff isTable).mpr
    (member?_merge_labelPatch shown managed)⟩

def pairChanges (version : Option String) (managed : Bool) : List (String × Value) :=
  [("resourceVersion", (version.map Value.string).getD .null), ("labels", labelPatch managed)]

theorem readWithin_merge_pairChanges (isTable : before.IsTable)
    (tidy : ∀ value, before.member? "labels" = some value → value = .null ∨ value.IsTable)
    {metadata : Metadata} (read : readWithin room before = some metadata)
    {version : Option String} {managed : Bool}
    (merged : after = before.merge (.record (pairChanges version managed))) :
    (∀ value, after.member? "labels" = some value → value.IsTable) ∧
      readWithin room after = some { metadata with
        labels := some (marked (metadata.labels.getD .empty) managed)
        resourceVersion := version } := by
  have distinct : ((pairChanges version managed).map Prod.fst).Nodup :=
    show ["resourceVersion", "labels"].Nodup by decide
  have atLabels : after.member? "labels" =
      some (((before.member? "labels").getD .null).merge (labelPatch managed)) := by
    rw [merged, Value.member?_merge before _ distinct]
    rfl
  have atVersion : after.member? "resourceVersion" = version.map Value.string := by
    rw [merged, Value.member?_merge before _ distinct]
    cases version <;> rfl
  have elsewhere (name : String) (notLabels : name ≠ "labels")
      (notVersion : name ≠ "resourceVersion") : after.member? name = before.member? name := by
    rw [merged]
    refine before.member?_merge_of_not_mem _ distinct ?_
    simp [pairChanges, notLabels, notVersion]
  obtain ⟨labelsTable, readLabels⟩ :=
    readLabels_merge (labels_of_readWithin isTable read) tidy managed
  have mergedTable : after.IsTable := merged ▸ isTable.merge _
  refine ⟨?_, readWithin_relabelled isTable mergedTable elsewhere read ?_ ?_⟩
  · intro value same
    rw [atLabels] at same
    cases same
    exact labelsTable
  · rw [atLabels, optional_of_isTable labelsTable, readLabels]
    rfl
  · rw [atVersion]
    cases version <;> rfl

/-- A version takes the place of the one that stands there. -/
theorem readWithin_merge_version (isTable : before.IsTable) {metadata : Metadata}
    (read : readWithin room before = some metadata) {version : String}
    (merged : after = before.merge (.record [("resourceVersion", .string version)])) :
    after.member? "labels" = before.member? "labels" ∧
      readWithin room after = some { metadata with resourceVersion := some version } := by
  have distinct : [("resourceVersion", Value.string version)].map Prod.fst |>.Nodup :=
    List.nodup_singleton _
  have elsewhere (name : String) (notVersion : name ≠ "resourceVersion") :
      after.member? name = before.member? name := by
    rw [merged]
    refine before.member?_merge_of_not_mem _ distinct ?_
    simpa using notVersion
  have atVersion : after.member? "resourceVersion" = some (.string version) := by
    rw [merged, Value.member?_merge before _ distinct]
    rfl
  have mergedTable : after.IsTable := merged ▸ isTable.merge _
  have sameLabels := elsewhere "labels" (by decide)
  refine ⟨sameLabels, readWithin_relabelled isTable mergedTable ?_ read ?_ ?_⟩
  · intro name _notLabels notVersion
    exact elsewhere name notVersion
  · rw [sameLabels]
    exact labels_of_readWithin isTable read
  · rw [atVersion]
    rfl

end Metadata

theorem ClusterSpec.read_merge (isTable : before.IsTable) {spec : ClusterSpec}
    (read : ClusterSpec.read before = some spec) (managed : Bool) :
    ClusterSpec.read (before.merge (.record [("isManagedCluster", .bool managed)])) =
      some { spec with isManaged := managed } := by
  have distinct : [("isManagedCluster", Value.bool managed)].map Prod.fst |>.Nodup :=
    List.nodup_singleton _
  refine read_flagged isTable (isTable.merge _) ?_ read ?_
  · intro name notFlag
    refine before.member?_merge_of_not_mem _ distinct ?_
    simpa using notFlag
  · rw [Value.member?_merge before _ distinct]
    rfl

namespace Cluster

variable {document : Value} {read : Cluster}

theorem tidy_of_parts {metadata spec : Value} (isTable : document.IsTable)
    (metadataPart : document.member? "metadata" = some metadata) (metadataTable : metadata.IsTable)
    (specPart : document.member? "spec" = some spec) (specTable : spec.IsTable)
    (labels : ∀ value, metadata.member? "labels" = some value → value = .null ∨ value.IsTable) :
    Tidy document := by
  refine ⟨isTable, ?_, ?_, ?_⟩
  · rw [metadataPart]
    rintro _ ⟨⟩
    exact metadataTable
  · rw [specPart]
    rintro _ ⟨⟩
    exact specTable
  · rw [metadataPart]
    rintro _ value ⟨⟩ found
    exact labels value found

/-- A patch of a managed pair sets the pair in the record that is read of a document, and takes
over the version of the record that was patched; nothing else becomes another. -/
theorem readWithin_merge_managedPatch (tidy : Tidy document)
    (reads : Cluster.readWithin room document = some read) (cluster : Cluster) (managed : Bool) :
    Tidy (document.merge (Hub.managedPatch cluster managed)) ∧
      Cluster.readWithin room (document.merge (Hub.managedPatch cluster managed)) =
        some ((read.labelled.setManaged managed).withVersion cluster.version?) := by
  obtain ⟨metadata, spec, metadataPart, specPart, readMetadata, readSpec⟩ :=
    (Cluster.readWithin_eq_some_iff tidy.isTable).mp reads
  have metadataTable := tidy.metadata metadata metadataPart
  have specTable := tidy.spec spec specPart
  have isTable : (document.merge (Hub.managedPatch cluster managed)).IsTable :=
    tidy.isTable.merge _
  have merged (name : String) :
      (document.merge (Hub.managedPatch cluster managed)).member? name = _ :=
    document.member?_merge [
      ("metadata", .record (Metadata.pairChanges cluster.version? managed)),
      ("spec", .record [("isManagedCluster", .bool managed)])]
      (show ["metadata", "spec"].Nodup by decide) name
  have atMetadata := merged "metadata"
  have atSpec := merged "spec"
  rw [metadataPart] at atMetadata
  rw [specPart] at atSpec
  change _ = some (metadata.merge (.record (Metadata.pairChanges cluster.version? managed)))
    at atMetadata
  change _ = some (spec.merge (.record [("isManagedCluster", .bool managed)])) at atSpec
  obtain ⟨labelsTable, readPair⟩ := Metadata.readWithin_merge_pairChanges metadataTable
    (tidy.labels metadata · metadataPart) readMetadata rfl
  constructor
  · refine tidy_of_parts isTable atMetadata (metadataTable.merge _) atSpec (specTable.merge _) ?_
    intro value found
    exact Or.inr (labelsTable value found)
  · rw [Cluster.readWithin_eq_some_iff isTable]
    refine ⟨_, _, atMetadata, atSpec, readPair.trans ?_,
      ClusterSpec.read_merge specTable readSpec _⟩
    cases managed <;> rfl

def stamp (version : String) : Value :=
  .record [("metadata", .record [("resourceVersion", .string version)])]

theorem readWithin_merge_stamp (tidy : Tidy document)
    (reads : Cluster.readWithin room document = some read) (version : String) :
    Tidy (document.merge (stamp version)) ∧
      Cluster.readWithin room (document.merge (stamp version)) =
        some (read.withVersion (some version)) := by
  obtain ⟨metadata, spec, metadataPart, specPart, readMetadata, readSpec⟩ :=
    (Cluster.readWithin_eq_some_iff tidy.isTable).mp reads
  have metadataTable := tidy.metadata metadata metadataPart
  have isTable : (document.merge (stamp version)).IsTable := tidy.isTable.merge _
  have distinct : [("metadata", Value.record [("resourceVersion", .string version)])].map
      Prod.fst |>.Nodup := List.nodup_singleton _
  have atMetadata : (document.merge (stamp version)).member? "metadata" =
      some (metadata.merge (.record [("resourceVersion", .string version)])) := by
    refine (document.member?_merge _ distinct "metadata").trans ?_
    rw [metadataPart]
    rfl
  have atSpec : (document.merge (stamp version)).member? "spec" = some spec := by
    refine (document.member?_merge_of_not_mem _ distinct ?_).trans specPart
    exact show "spec" ∉ ["metadata"] by decide
  obtain ⟨sameLabels, readVersion⟩ :=
    Metadata.readWithin_merge_version metadataTable readMetadata rfl
  constructor
  · refine tidy_of_parts isTable atMetadata (metadataTable.merge _) atSpec
      (tidy.spec spec specPart) ?_
    intro value found
    exact tidy.labels metadata value metadataPart (sameLabels.symm.trans found)
  · rw [Cluster.readWithin_eq_some_iff isTable]
    exact ⟨_, _, atMetadata, atSpec, readVersion, readSpec⟩

end Cluster

end ClusterDiscovery
