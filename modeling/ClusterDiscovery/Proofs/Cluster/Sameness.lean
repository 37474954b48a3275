/-
Sameness of specifications.

What discovery knows of a cluster is its specification without the managed flag and without the
fractions of its times. Two specifications are the same for the comparison exactly if they agree
in that, so sameness is an equivalence. The fields of a specification are listed here, each with
the values it can have: every field is read apart from the others, and all of them together make
the specification. A change of one field is noticed exactly if it changes what discovery knows of
that field.
-/

import ClusterDiscovery.Proofs.Cluster.Listing
import Mathlib.Order.Bounds.Defs

namespace ClusterDiscovery

open Time (Instant)

namespace Time.Instant

/-- The last whole second that is not after an instant. -/
def wholeSecond (t : Instant) : Instant where
  second := t.second
  nano := 0
  inRange := t.inRange
  nanosFit := ⟨by decide, fun leap => absurd leap (by decide)⟩

theorem wholeSecond_eq_iff {s t : Instant} :
    s.wholeSecond = t.wholeSecond ↔ s.second = t.second := by
  constructor
  · intro same
    exact (congrArg second same : s.wholeSecond.second = t.wholeSecond.second)
  · intro same
    cases s
    cases t
    cases same
    rfl

/-- An instant is rounded down, before 1970 and in a leap second too. -/
theorem isGreatest_wholeSecond (t : Instant) :
    IsGreatest {s | s.nano = 0 ∧ s ≤ t} t.wholeSecond := by
  constructor
  · exact ⟨rfl, Or.inr ⟨rfl, Nat.zero_le _⟩⟩
  · intro s ⟨whole, notAfter⟩
    rcases notAfter with earlier | ⟨same, _⟩
    · exact Or.inl earlier
    · exact Or.inr ⟨same, Nat.le_of_eq whole⟩

end Time.Instant

theorem sameSecond_iff {one other : Option Instant} :
    sameSecond one other = true ↔
      one.map Instant.wholeSecond = other.map Instant.wholeSecond := by
  unfold sameSecond
  rw [beq_iff_eq]
  cases one <;> cases other <;> simp [Instant.wholeSecond_eq_iff]

namespace ClusterSpec

def discovered (spec : ClusterSpec) : ClusterSpec :=
  { spec with
    isManaged := false
    creationTimestamp := spec.creationTimestamp.map Instant.wholeSecond
    activityTimestamp := spec.activityTimestamp.map Instant.wholeSecond }

variable {a b c d : ClusterSpec}

theorem sameAs_iff : a.sameAs b = true ↔ a.discovered = b.discovered := by
  unfold sameAs discovered
  simp only [Bool.and_eq_true, beq_iff_eq, sameSecond_iff, mk.injEq, and_true, and_assoc]

theorem discovered_discovered (spec : ClusterSpec) :
    spec.discovered.discovered = spec.discovered := by
  have twice (time : Option Instant) :
      (time.map Instant.wholeSecond).map Instant.wholeSecond =
        time.map Instant.wholeSecond := by
    cases time <;> rfl
  unfold discovered
  simp only [twice]

theorem sameAs_congr (first : a.discovered = b.discovered) (second : c.discovered = d.discovered) :
    a.sameAs c = b.sameAs d := by
  rw [Bool.eq_iff_iff, sameAs_iff, sameAs_iff, first, second]

theorem equivalence_sameAs : Equivalence fun a b : ClusterSpec => a.sameAs b = true where
  refl := sameAs_refl
  symm := fun same => sameAs_iff.mpr (sameAs_iff.mp same).symm
  trans := fun first second =>
    sameAs_iff.mpr ((sameAs_iff.mp first).trans (sameAs_iff.mp second))

inductive Field where
  | name
  | displayName
  | console
  | apiUrl
  | creationTimestamp
  | activityTimestamp
  | clusterType
  | version
  | cloudProvider
  | region
  | status
  | clusterId
  | managerId
  | credentialName
  | credentialSpace
  | isManaged

namespace Field

def Value : Field → Type
  | .creationTimestamp => Option Instant
  | .activityTimestamp => Option Instant
  | .isManaged => Bool
  | _ => String

def read (spec : ClusterSpec) : (field : Field) → field.Value
  | .name => spec.name
  | .displayName => spec.displayName
  | .console => spec.console
  | .apiUrl => spec.apiUrl
  | .creationTimestamp => spec.creationTimestamp
  | .activityTimestamp => spec.activityTimestamp
  | .clusterType => spec.clusterType
  | .version => spec.version
  | .cloudProvider => spec.cloudProvider
  | .region => spec.region
  | .status => spec.status
  | .clusterId => spec.clusterId
  | .managerId => spec.managerId
  | .credentialName => spec.credential.name
  | .credentialSpace => spec.credential.space
  | .isManaged => spec.isManaged

def write (spec : ClusterSpec) : (field : Field) → field.Value → ClusterSpec
  | .name, value => { spec with name := value }
  | .displayName, value => { spec with displayName := value }
  | .console, value => { spec with console := value }
  | .apiUrl, value => { spec with apiUrl := value }
  | .creationTimestamp, value => { spec with creationTimestamp := value }
  | .activityTimestamp, value => { spec with activityTimestamp := value }
  | .clusterType, value => { spec with clusterType := value }
  | .version, value => { spec with version := value }
  | .cloudProvider, value => { spec with cloudProvider := value }
  | .region, value => { spec with region := value }
  | .status, value => { spec with status := value }
  | .clusterId, value => { spec with clusterId := value }
  | .managerId, value => { spec with managerId := value }
  | .credentialName, value => { spec with credential := { spec.credential with name := value } }
  | .credentialSpace, value => { spec with credential := { spec.credential with space := value } }
  | .isManaged, value => { spec with isManaged := value }

/-- What discovery knows of a value: nothing of the flag, the whole second of a time, and all of
anything else. -/
def known : (field : Field) → field.Value → field.Value
  | .isManaged, _ => false
  | .creationTimestamp, time => Option.map Instant.wholeSecond time
  | .activityTimestamp, time => Option.map Instant.wholeSecond time
  | _, value => value

theorem read_write_self (spec : ClusterSpec) (field : Field) (value : field.Value) :
    read (write spec field value) field = value := by
  cases field <;> rfl

theorem read_write_of_ne (spec : ClusterSpec) {field other : Field} (different : other ≠ field)
    (value : field.Value) : read (write spec field value) other = read spec other := by
  cases field <;> cases other <;> first | rfl | exact absurd rfl different

theorem read_discovered (spec : ClusterSpec) (field : Field) :
    read spec.discovered field = known field (read spec field) := by
  cases field <;> rfl

end Field

/-- No field is left out of the list. -/
theorem eq_of_read (agree : ∀ field, Field.read a field = Field.read b field) : a = b := by
  cases a with
  | mk _ _ _ _ _ _ _ _ _ _ _ _ _ credential _ =>
    cases b with
    | mk _ _ _ _ _ _ _ _ _ _ _ _ _ other _ =>
      have sameCredential : credential = other := by
        cases credential
        cases other
        rw [CredentialRef.mk.injEq]
        exact ⟨agree .credentialName, agree .credentialSpace⟩
      rw [mk.injEq]
      exact ⟨agree .name, agree .displayName, agree .console, agree .apiUrl,
        agree .creationTimestamp, agree .activityTimestamp, agree .clusterType, agree .version,
        agree .cloudProvider, agree .region, agree .status, agree .clusterId, agree .managerId,
        sameCredential, agree .isManaged⟩

theorem sameAs_iff_known : a.sameAs b = true ↔
    ∀ field, Field.known field (Field.read a field) = Field.known field (Field.read b field) := by
  rw [sameAs_iff]
  simp only [← Field.read_discovered]
  constructor
  · intro same field
    rw [same]
  · exact eq_of_read

theorem sameAs_write_iff (spec : ClusterSpec) (field : Field) (value : field.Value) :
    spec.sameAs (Field.write spec field value) = true ↔
      Field.known field (Field.read spec field) = Field.known field value := by
  rw [sameAs_iff_known]
  constructor
  · intro agree
    have here := agree field
    rw [Field.read_write_self] at here
    exact here
  · intro same other
    by_cases own : other = field
    · subst own
      rw [Field.read_write_self]
      exact same
    · rw [Field.read_write_of_ne spec own]

end ClusterSpec

end ClusterDiscovery
