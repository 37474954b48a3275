/-
Versions component by component.

What stands between the points of a version are its components, and an entry of a valid filter
has two of them. A version is admitted by the entry that its first two components make, and by
no other one: digits that are merely shared do not count.
-/

import ClusterDiscovery.Proofs.Inventory.Canonical

namespace ClusterDiscovery

namespace Version

/-- What stands between the points of a version. -/
def components (version : String) : List String :=
  (version.toList.splitOn '.').map String.ofList

theorem components_eq_iff {version : String} {parts : List String} :
    components version = parts ↔ version.toList.splitOn '.' = parts.map String.toList := by
  unfold components
  constructor
  · rintro rfl
    simp
  · intro split
    rw [split]
    simp

end Version

namespace Filter

theorem not_mem_of_isComponent {part : List Char} (component : isComponent part = true) :
    '.' ∉ part := by
  intro point
  unfold isComponent at component
  rw [Bool.and_eq_true, Bool.and_eq_true, List.all_eq_true] at component
  exact absurd (component.1.2 '.' point) (by decide)

theorem isMajorMinor_eq_true_iff {version : List Char} : isMajorMinor version = true ↔
    ∃ major minor, version = major ++ '.' :: minor ∧ isComponent major = true ∧
      isComponent minor = true := by
  unfold isMajorMinor
  constructor
  · intro accepted
    split at accepted
    · cases accepted
    · rename_i first minor behind
      rw [Bool.and_eq_true] at accepted
      have point : first = '.' := by
        have stops := List.head?_dropWhile_not (· != '.') version
        rw [behind] at stops
        simpa using stops
      refine ⟨version.takeWhile (· != '.'), minor, ?_, accepted.1, accepted.2⟩
      calc version = version.takeWhile (· != '.') ++ version.dropWhile (· != '.') :=
            List.takeWhile_append_dropWhile.symm
        _ = version.takeWhile (· != '.') ++ '.' :: minor := by rw [behind, point]
  · intro ⟨major, minor, joined, isMajor, isMinor⟩
    have pointless : ∀ c ∈ major, (c != '.') = true := by
      intro c member
      rw [bne_iff_ne]
      rintro rfl
      exact not_mem_of_isComponent isMajor member
    have behind : version.dropWhile (· != '.') = '.' :: minor := by
      rw [joined, List.dropWhile_append_of_pos pointless]
      rfl
    have front : version.takeWhile (· != '.') = major := by
      rw [joined, List.takeWhile_append_of_pos pointless]
      simp
    rw [behind, front]
    exact (Bool.and_eq_true _ _).mpr ⟨isMajor, isMinor⟩

/-- An entry of the form major.minor has a point between its components and no other one. -/
theorem exists_of_isMajorMinor {version : List Char} (wellFormed : isMajorMinor version = true) :
    ∃ major minor, version = major ++ '.' :: minor ∧ '.' ∉ major ∧ '.' ∉ minor := by
  obtain ⟨major, minor, joined, isMajor, isMinor⟩ := isMajorMinor_eq_true_iff.mp wellFormed
  exact ⟨major, minor, joined, not_mem_of_isComponent isMajor, not_mem_of_isComponent isMinor⟩

theorem isMajorMinor_of_mem {filter : Filter} (valid : filter.problem? = none) {entry : String}
    (listed : entry ∈ filter.versions) : isMajorMinor entry.toList = true := by
  have noneBad := (problem?_eq_none_iff.mp valid).2
  unfold firstBadVersion? at noneBad
  simpa using List.find?_eq_none.mp noneBad entry listed

end Filter

namespace Subscription

open Version (components)

/-- A version is admitted by what its first two components make. -/
theorem versionAdmits_of_components {version major minor : String} {rest : List String}
    (parts : components version = major :: minor :: rest) :
    versionAdmits version.toList (major ++ "." ++ minor).toList = true := by
  have joined : version.toList =
      ['.'].intercalate ((major :: minor :: rest).map String.toList) := by
    rw [← Version.components_eq_iff.mp parts, List.intercalate_splitOn]
  rw [versionAdmits_iff]
  cases rest with
  | nil =>
      left
      rw [← String.toList_inj, joined]
      simp [List.intercalate]
  | cons next others =>
      right
      refine ⟨String.ofList (['.'].intercalate ((next :: others).map String.toList)), ?_⟩
      rw [← String.toList_inj, joined]
      simp [List.intercalate]

/-- An entry of the form major.minor admits the versions that begin with its components. -/
theorem versionAdmits_iff_components {entry : String}
    (wellFormed : Filter.isMajorMinor entry.toList = true) :
    ∃ major minor, entry = major ++ "." ++ minor ∧ components entry = [major, minor] ∧
      ∀ version : String, versionAdmits version.toList entry.toList = true ↔
        ∃ rest, components version = major :: minor :: rest := by
  obtain ⟨major, minor, parted, plainMajor, plainMinor⟩ := Filter.exists_of_isMajorMinor wellFormed
  have joined : entry = String.ofList major ++ "." ++ String.ofList minor := by
    rw [← String.toList_inj, parted]
    simp
  have own : components entry = [String.ofList major, String.ofList minor] := by
    rw [Version.components_eq_iff, parted, List.splitOn_append_cons_self_of_not_mem plainMajor,
      List.splitOn_eq_singleton plainMinor]
    simp
  refine ⟨_, _, joined, own, fun version => ?_⟩
  constructor
  · intro admits
    rcases versionAdmits_iff.mp admits with rfl | ⟨rest, rfl⟩
    · exact ⟨[], own⟩
    · refine ⟨components rest, Version.components_eq_iff.mpr ?_⟩
      have continued : (entry ++ "." ++ rest).toList =
          major ++ '.' :: (minor ++ '.' :: rest.toList) := by
        simp [parted]
      rw [continued, List.splitOn_append_cons_self_of_not_mem plainMajor,
        List.splitOn_append_cons_self_of_not_mem plainMinor, List.map_cons, List.map_cons,
        ← Version.components_eq_iff.mp rfl, String.toList_ofList, String.toList_ofList]
  · rintro ⟨rest, parts⟩
    rw [joined]
    exact versionAdmits_of_components parts

/-- A restricted filter admits the versions whose first two components make one of its entries.
No version is admitted by two entries, and no entry admits a major or minor version other than
its own, however many digits they share. -/
theorem version_matches_whole_components {filter : Filter} (valid : filter.problem? = none)
    (restricted : filter.versions ≠ []) :
    (∀ subscription : Subscription, subscription.admitsVersion filter.versions = true ↔
      ∃ report, subscription.telemetry.head? = some report ∧
        ∃ major minor rest, components report.version = major :: minor :: rest ∧
          major ++ "." ++ minor ∈ filter.versions) ∧
    (∀ version : String, ∀ entry ∈ filter.versions, ∀ other ∈ filter.versions,
      versionAdmits version.toList entry.toList = true →
        versionAdmits version.toList other.toList = true → entry = other) ∧
    ∀ entry ∈ filter.versions, ∃ ownMajor ownMinor,
      components entry = [ownMajor, ownMinor] ∧
        ∀ version major minor rest, components version = major :: minor :: rest →
          major ≠ ownMajor ∨ minor ≠ ownMinor →
            versionAdmits version.toList entry.toList = false := by
  refine ⟨fun subscription => ?_, ?_, ?_⟩
  · have nonempty : filter.versions.isEmpty = false := by simpa using restricted
    unfold admitsVersion
    rw [nonempty, Bool.false_or]
    cases subscription.telemetry.head? with
    | none => simp
    | some report =>
        simp only [List.any_eq_true, Option.some.injEq, exists_eq_left']
        constructor
        · rintro ⟨entry, listed, admits⟩
          obtain ⟨major, minor, rfl, _own, admitsExactly⟩ :=
            versionAdmits_iff_components (Filter.isMajorMinor_of_mem valid listed)
          obtain ⟨rest, parts⟩ := (admitsExactly _).mp admits
          exact ⟨major, minor, rest, parts, listed⟩
        · rintro ⟨major, minor, rest, parts, listed⟩
          exact ⟨_, listed, versionAdmits_of_components parts⟩
  · intro version entry listed other alsoListed admits alsoAdmits
    obtain ⟨major, minor, rfl, _own, admitsExactly⟩ :=
      versionAdmits_iff_components (Filter.isMajorMinor_of_mem valid listed)
    obtain ⟨otherMajor, otherMinor, rfl, _otherOwn, otherExactly⟩ :=
      versionAdmits_iff_components (Filter.isMajorMinor_of_mem valid alsoListed)
    obtain ⟨rest, parts⟩ := (admitsExactly version).mp admits
    obtain ⟨otherRest, otherParts⟩ := (otherExactly version).mp alsoAdmits
    rw [parts] at otherParts
    cases otherParts
    rfl
  · intro entry listed
    obtain ⟨ownMajor, ownMinor, _joined, own, admitsExactly⟩ :=
      versionAdmits_iff_components (Filter.isMajorMinor_of_mem valid listed)
    refine ⟨ownMajor, ownMinor, own, ?_⟩
    intro version major minor rest parts different
    rw [← Bool.not_eq_true, admitsExactly]
    rintro ⟨otherRest, otherParts⟩
    rw [parts] at otherParts
    cases otherParts
    exact different.elim (absurd rfl) (absurd rfl)

end Subscription

namespace Sample

def pinned : Filter := { Filter.unrestricted with versions := ["4.9", "4.10"] }

def reporting (version : String) : Subscription :=
  { entry "Active" "" noon with telemetry := [⟨version⟩] }

end Sample

namespace Subscription

/-- A patch of version 4.10 is admitted, and a patch of version 4.100 is not. -/
theorem version_matches_whole_components_sample :
    Sample.pinned.problem? = none ∧ Sample.pinned.versions ≠ [] ∧
      (Sample.reporting "4.10.3").admitsVersion Sample.pinned.versions = true ∧
      versionAdmits "4.100.2".toList "4.10".toList = false := by
  have valid : Sample.pinned.problem? = none := by decide +kernel
  have restricted : Sample.pinned.versions ≠ [] := by decide
  obtain ⟨passes, _once, whole⟩ := version_matches_whole_components valid restricted
  obtain ⟨ownMajor, ownMinor, own, others⟩ := whole "4.10" (by decide)
  have parts : Version.components "4.10" = ["4", "10"] := by decide +kernel
  rw [parts] at own
  cases own
  refine ⟨valid, restricted, ?_, ?_⟩
  · exact (passes _).mpr ⟨⟨"4.10.3"⟩, rfl, "4", "10", ["3"], by decide +kernel, by decide⟩
  · exact others "4.100.2" "4" "100" ["2"] (by decide +kernel) (Or.inr (by decide))

end Subscription

end ClusterDiscovery
