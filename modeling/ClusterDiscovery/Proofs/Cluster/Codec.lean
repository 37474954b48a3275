/-
Specifications and filters that are written and read again.

A record is written member by member, and each field is read by the rule that it was written
by: a text as itself, a time to its last digit, and an absent member as what it stands for.
-/

import ClusterDiscovery.Cluster.Codec
import ClusterDiscovery.Config.Codec
import ClusterDiscovery.Proofs.Cluster.Listing
import ClusterDiscovery.Proofs.Json.Spelling
import ClusterDiscovery.Proofs.Json.Table
import ClusterDiscovery.Proofs.Time.Timestamp

namespace ClusterDiscovery

open Json
open Time (Instant)

namespace Json

theorem readInstant_toText (t : Instant) : readInstant (.string t.toText) = some t := by
  have read := Time.Timestamp.read?_write t
  simpa [readInstant, readText, Value.string, Instant.ofText?, Instant.toText] using read

theorem optional_readInstant (t : Option Instant) :
    Json.optional readInstant (t.map fun t => Value.string t.toText) = some t := by
  cases t with
  | none => rfl
  | some t =>
      have read := readInstant_toText t
      exact congrArg (Option.map some) read

theorem readList_strings (values : List String) :
    readList readText (.strings values) = some values := by
  have items : List.Forall₂ (fun item result => readText item = some result)
      (values.map Value.string) values := by
    induction values with
    | nil => exact .nil
    | cons value rest ih => exact .cons rfl ih
  exact readList_eq_some_iff.mpr ⟨_, rfl, items⟩

theorem Value.isWritten_string (text : String) : (Value.string text).IsWritten := .text _

theorem Value.isWritten_strings (texts : List String) : (Value.strings texts).IsWritten := by
  apply Value.IsWritten.array
  intro item member
  obtain ⟨text, _, rfl⟩ := List.mem_map.mp member
  exact isWritten_string text

theorem isWritten_presentMembers {members : List (String × Option Value)}
    (written : ∀ entry ∈ members, ∀ value ∈ entry.2, value.IsWritten) :
    (presentMembers members).IsWritten := by
  apply Value.IsWritten.object
  intro member present
  obtain ⟨named, kept, rfl⟩ := List.mem_map.mp present
  obtain ⟨entry, known, same⟩ := List.mem_filterMap.mp kept
  obtain ⟨value, held, rfl⟩ := Option.map_eq_some_iff.mp same
  exact written entry known value held

end Json

namespace CredentialRef

theorem read_value (credential : CredentialRef) : read credential.value = some credential := by
  have table : credential.value.IsTable := by
    apply Value.isTable_record
    change ["name", "namespace"].Nodup
    decide
  unfold read
  rw [fields?_of_isTable table]
  rfl

end CredentialRef

namespace ClusterSpec

theorem read_value (spec : ClusterSpec) : read spec.value = some spec := by
  have distinct : (spec.members.map Prod.fst).Nodup := show fieldNames.Nodup by decide
  have fields : fields? fieldNames spec.value = some (spec.members.map Prod.snd) :=
    fields?_presentMembers distinct
  unfold read
  rw [fields, Option.bind_eq_bind, Option.bind_some]
  iterate 4 refine Option.bind_eq_some_iff.mpr ⟨_, rfl, ?_⟩
  iterate 2 refine Option.bind_eq_some_iff.mpr ⟨_, optional_readInstant _, ?_⟩
  iterate 7 refine Option.bind_eq_some_iff.mpr ⟨_, rfl, ?_⟩
  refine Option.bind_eq_some_iff.mpr ⟨_, CredentialRef.read_value spec.credential, ?_⟩
  rfl

theorem isWritten_value (spec : ClusterSpec) : spec.value.IsWritten := by
  have credential : spec.credential.value.IsWritten := by
    apply Value.IsWritten.object
    simp [Value.isWritten_string]
  have time (t : Option Instant) :
      ∀ value ∈ t.map fun t => Value.string t.toText, value.IsWritten := by
    intro value member
    obtain ⟨t, _, rfl⟩ := Option.map_eq_some_iff.mp member
    exact Value.isWritten_string _
  apply isWritten_presentMembers
  simp only [members, List.forall_mem_cons, Option.mem_def, Option.some.injEq, forall_eq',
    Value.isWritten_string, true_and, List.not_mem_nil, false_imp_iff, implies_true, and_true]
  exact ⟨time _, time _, credential, .bool _⟩

end ClusterSpec

namespace Filter

def lists (filter : Filter) : List (String × List String) :=
  [("openShiftVersions", filter.versions), ("clusterTypes", filter.clusterTypes),
   ("infrastructureProviders", filter.providers), ("regions", filter.regions)]

theorem nodup_members (filter : Filter) : (filter.members.map Prod.fst).Nodup :=
  show fieldNames.Nodup by decide

theorem orAbsent_listMember (values : List String) :
    orAbsent [] (readList readText) (listMember values) = some values := by
  cases values with
  | nil => rfl
  | cons value rest => exact readList_strings (value :: rest)

theorem read_value {filter : Filter} (low : -9223372036854775808 ≤ filter.lastActive)
    (high : filter.lastActive ≤ 9223372036854775807) : read filter.value = some filter := by
  have fields : fields? fieldNames filter.value = some (filter.members.map Prod.snd) :=
    fields?_presentMembers filter.nodup_members
  unfold read
  rw [fields, Option.bind_eq_bind, Option.bind_some]
  refine Option.bind_eq_some_iff.mpr ⟨_, if_pos ⟨low, high⟩, ?_⟩
  iterate 4 refine Option.bind_eq_some_iff.mpr ⟨_, orAbsent_listMember _, ?_⟩
  rfl

theorem isWritten_value (filter : Filter) : filter.value.IsWritten := by
  have list (values : List String) : ∀ value ∈ listMember values, value.IsWritten := by
    intro value member
    unfold listMember at member
    split at member
    · cases member
    · cases member
      exact Value.isWritten_strings values
  apply isWritten_presentMembers
  simp only [members, List.forall_mem_cons, Option.mem_def, Option.some.injEq, forall_eq',
    List.not_mem_nil, false_imp_iff, implies_true, and_true]
  exact ⟨.number trivial, list _, list _, list _, list _⟩

theorem member?_value (filter : Filter) {entry : String × List String}
    (member : entry ∈ filter.lists) :
    filter.value.member? entry.1 = if entry.2 = [] then none else some (.strings entry.2) := by
  have written : (entry.1, listMember entry.2) ∈ filter.members := by
    unfold lists at member
    simp only [List.mem_cons, List.not_mem_nil, or_false] at member
    rcases member with rfl | rfl | rfl | rfl <;> simp [members]
  unfold value
  rw [member?_presentMembers filter.nodup_members written]
  cases entry.2 <;> rfl

end Filter

/-- What is written is read back unchanged. -/
theorem read_parse_encode :
    (∀ spec : ClusterSpec, ∃ found,
      (parse? (Text.Utf8.encode spec.value.toText)).bind ClusterSpec.read = some found ∧
        found = spec ∧ found.sameAs spec = true ∧ spec.sameAs found = true) ∧
    ∀ filter : Filter, -9223372036854775808 ≤ filter.lastActive →
      filter.lastActive ≤ 9223372036854775807 → ∃ written,
        parse? (Text.Utf8.encode filter.value.toText) = some written ∧
        Filter.read written = some filter ∧
        ∀ entry ∈ filter.lists,
          written.member? entry.1 = if entry.2 = [] then none else some (.strings entry.2) := by
  constructor
  · intro spec
    refine ⟨spec, ?_, rfl, ClusterSpec.sameAs_refl spec, ClusterSpec.sameAs_refl spec⟩
    rw [parse?_encode_toText spec.isWritten_value]
    exact spec.read_value
  · intro filter low high
    refine ⟨filter.value, parse?_encode_toText filter.isWritten_value,
      Filter.read_value low high, ?_⟩
    exact fun entry member => filter.member?_value member

namespace Sample

def unusual : ClusterSpec where
  name := "\"quoted\" \\ \x01\n"
  displayName := "größer 🚢"
  console := ""
  apiUrl := ""
  creationTimestamp := some ⟨1483228799, 1500000000, by decide, by decide⟩
  activityTimestamp := some ⟨-62198755200, 120, by decide, by decide⟩
  clusterType := "OCP"
  version := "4.16.3"
  cloudProvider := "aws"
  region := ""
  status := "Active"
  clusterId := "\"quoted\" \\ \x01\n"
  managerId := ""
  credential := ⟨"secret", "team"⟩
  isManaged := true

def regional : Filter := { Filter.unrestricted with lastActive := 7, regions := ["eu-west-1"] }

end Sample

theorem read_parse_encode_sample :
    (∃ found, (parse? (Text.Utf8.encode Sample.unusual.value.toText)).bind ClusterSpec.read =
        some found ∧ found = Sample.unusual) ∧
      ∃ written, parse? (Text.Utf8.encode Sample.regional.value.toText) = some written ∧
        Filter.read written = some Sample.regional ∧
        written.member? "regions" = some (.strings ["eu-west-1"]) ∧
        written.member? "clusterTypes" = none := by
  obtain ⟨found, read, same, _, _⟩ := read_parse_encode.1 Sample.unusual
  obtain ⟨written, parsed, readFilter, lists⟩ :=
    read_parse_encode.2 Sample.regional (by decide) (by decide)
  refine ⟨⟨found, read, same⟩, written, parsed, readFilter, ?_, ?_⟩
  · exact lists ("regions", ["eu-west-1"]) (by decide)
  · exact lists ("clusterTypes", []) (by decide)

end ClusterDiscovery
