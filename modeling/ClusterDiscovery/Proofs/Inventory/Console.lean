/-
Hosts in console URLs.

A standard console URL is a fixed beginning, a host, and perhaps a port. The host ends at the last
colon behind the beginning, or else with the URL, and all that stands before that colon is taken
for the host. For a standard URL this is the host indeed, with or without a port. Any other URL
with that beginning, such as one that ends with a slash, gives a host that is none unless nothing
is left of it.
-/

import ClusterDiscovery.Proofs.Inventory.Canonical
import ClusterDiscovery.Proofs.Text.Trim

namespace ClusterDiscovery.Subscription

/-- A part of a URL without a slash or a colon. -/
def IsPlain (part : String) : Prop := '/' ∉ part.toList ∧ ':' ∉ part.toList

instance (part : String) : Decidable (IsPlain part) := inferInstanceAs (Decidable (_ ∧ _))

structure IsHost (host : String) : Prop where
  nonempty : host ≠ ""
  plain : IsPlain host

def consoleUrlOf (host : String) : Option String → String
  | none => consolePrefix ++ host
  | some port => consolePrefix ++ host ++ ":" ++ port

/-- A URL is the standard console URL of a host. -/
def IsConsoleOf (host url : String) : Prop :=
  IsHost host ∧ ∃ port, (∀ text ∈ port, IsPlain text) ∧ url = consoleUrlOf host port

def IsStandard (url : String) : Prop := ∃ host, IsConsoleOf host url

structure Cuts (url host : String) (port : Option String) : Prop where
  nonempty : host ≠ ""
  joined : url = consoleUrlOf host port
  last : ':' ∉ (port.getD host).toList

variable {url host : String} {port : Option String} {subscription : Subscription}
  {credential : CredentialRef} {spec : ClusterSpec}

theorem consoleHost?_ne_nil {url : String} {host : List Char}
    (found : consoleHost? url = some host) : host ≠ [] := by
  intro empty
  subst empty
  unfold consoleHost? at found
  split at found
  · split at found
    · cases found
    · rename_i different
      exact different (Option.some.inj found)
  · cases found

theorem shownName_ne {subscription : Subscription} (identified : subscription.externalId ≠ "") :
    subscription.shownName (consoleHost? subscription.consoleUrl) ≠ "" := by
  unfold shownName
  by_cases named : subscription.displayName ≠ "" ∧
      subscription.displayName ≠ subscription.externalId
  · rw [if_pos named]
    exact named.1
  · rw [if_neg named]
    cases found : consoleHost? subscription.consoleUrl with
    | none => exact identified
    | some host =>
        intro empty
        have noText := String.ofList_eq_empty_iff.mp empty
        exact consoleHost?_ne_nil found (List.map_eq_nil_iff.mp noText)

theorem bareHost_of_not_mem {chars : List Char} (absent : ':' ∉ chars) :
    bareHost chars = chars := by
  have nothing : Text.dropTrailing (· != ':') chars = [] := by
    rw [Text.dropTrailing_eq_nil_iff]
    intro c member
    rw [bne_iff_ne]
    intro same
    subst same
    exact absent member
  unfold bareHost
  rw [nothing]

theorem bareHost_append {chars port : List Char} (absent : ':' ∉ port) :
    bareHost (chars ++ ':' :: port) = chars := by
  have upToColon : Text.dropTrailing (· != ':') (chars ++ ':' :: port) = chars ++ [':'] := by
    rw [← List.singleton_append, ← List.append_assoc]
    apply Text.dropTrailing_eq_front
    · simp
    · intro c member
      rw [bne_iff_ne]
      rintro rfl
      exact absent member
  unfold bareHost
  rw [upToColon]
  cases chars with
  | nil => rfl
  | cons c rest => exact List.dropLast_concat

theorem exists_last_colon {chars : List Char} (present : ':' ∈ chars) :
    ∃ host port, chars = host ++ ':' :: port ∧ ':' ∉ port := by
  obtain ⟨after, before, shape, absent⟩ :=
    List.eq_append_cons_of_mem (List.mem_reverse.mpr present)
  refine ⟨before.reverse, after.reverse, ?_, fun member => absent (List.mem_reverse.mp member)⟩
  have reversed := congrArg List.reverse shape
  simpa using reversed

theorem consoleHost?_of_cuts (cuts : Cuts url host port) :
    consoleHost? url = some host.toList := by
  have bare : ∃ rest, url.toList = consolePrefix.toList ++ rest ∧ bareHost rest = host.toList := by
    obtain ⟨_, rfl, last⟩ := cuts
    cases port with
    | none => exact ⟨host.toList, String.toList_append, bareHost_of_not_mem last⟩
    | some port =>
        refine ⟨host.toList ++ ':' :: port.toList, ?_, bareHost_append last⟩
        simp [consoleUrlOf]
  obtain ⟨rest, parted, bare⟩ := bare
  unfold consoleHost?
  rw [parted, if_pos (List.isPrefixOf_iff_prefix.mpr (List.prefix_append _ _)), List.drop_left,
    bare]
  split
  · rename_i empty
    exact absurd (String.toList_eq_nil_iff.mp empty) cuts.nonempty
  · rfl

theorem consoleHost?_eq_some_iff {chars : List Char} :
    consoleHost? url = some chars ↔ ∃ port, Cuts url (String.ofList chars) port := by
  constructor
  · intro found
    have nonempty : String.ofList chars ≠ "" := by
      intro empty
      exact consoleHost?_ne_nil found (String.ofList_eq_empty_iff.mp empty)
    unfold consoleHost? at found
    split at found
    · rename_i begins
      obtain ⟨rest, parted⟩ := List.isPrefixOf_iff_prefix.mp begins
      have bare : bareHost rest = chars := by
        rw [← parted, List.drop_left] at found
        split at found
        · cases found
        · exact Option.some.inj found
      by_cases present : ':' ∈ rest
      · obtain ⟨host, port, rfl, absent⟩ := exists_last_colon present
        rw [bareHost_append absent] at bare
        subst bare
        refine ⟨some (String.ofList port), nonempty, ?_, by simpa using absent⟩
        rw [← String.toList_inj, ← parted]
        simp [consoleUrlOf]
      · rw [bareHost_of_not_mem present] at bare
        subst bare
        refine ⟨none, nonempty, ?_, by simpa using present⟩
        rw [← String.toList_inj, ← parted]
        simp [consoleUrlOf]
    · cases found
  · intro ⟨port, cuts⟩
    rw [consoleHost?_of_cuts cuts, String.toList_ofList]

theorem consoleHost?_eq_none_iff :
    consoleHost? url = none ↔ ∀ host port, ¬ Cuts url host port := by
  constructor
  · intro hostless host port cuts
    rw [consoleHost?_of_cuts cuts] at hostless
    cases hostless
  · intro uncut
    cases found : consoleHost? url with
    | none => rfl
    | some chars =>
        obtain ⟨port, cuts⟩ := consoleHost?_eq_some_iff.mp found
        exact absurd cuts (uncut _ port)

theorem consoleHost?_of_not_isPrefix (other : ¬ consolePrefix.toList <+: url.toList) :
    consoleHost? url = none := by
  unfold consoleHost?
  rw [if_neg fun begins => other (List.isPrefixOf_iff_prefix.mp begins)]

theorem IsConsoleOf.cuts (console : IsConsoleOf host url) : ∃ port, Cuts url host port := by
  obtain ⟨isHost, port, plain, rfl⟩ := console
  refine ⟨port, isHost.nonempty, rfl, ?_⟩
  cases port with
  | none => exact isHost.plain.2
  | some text => exact (plain text rfl).2

theorem IsConsoleOf.consoleHost? (console : IsConsoleOf host url) :
    consoleHost? url = some host.toList := by
  obtain ⟨port, cuts⟩ := console.cuts
  exact consoleHost?_of_cuts cuts

theorem recordSpec?_withConsole (subscription : Subscription) (url : String) :
    { subscription with consoleUrl := url }.recordSpec? credential =
      (subscription.recordSpec? credential).map fun spec =>
        { spec with
          displayName := subscription.shownName (consoleHost? url)
          console := url
          apiUrl := ((consoleHost? url).map apiUrl).getD "" } := by
  unfold recordSpec?
  simp only
  cases subscription.telemetry with
  | nil => rfl
  | cons report rest =>
      by_cases useless : subscription.externalId = "" ∨ subscription.status = "Reserved"
      · simp only [if_pos useless, Option.map_none]
      · simp only [if_neg useless, Option.map_some]
        rfl

theorem identified_of_recordSpec? (made : subscription.recordSpec? credential = some spec) :
    subscription.externalId ≠ "" := by
  intro unidentified
  unfold recordSpec? at made
  split at made
  · cases made
  · rw [if_pos (Or.inl unidentified)] at made
    cases made

theorem apiUrl_of_recordSpec? (made : subscription.recordSpec? credential = some spec) :
    spec.apiUrl = ((consoleHost? subscription.consoleUrl).map apiUrl).getD "" := by
  have same : subscription.recordSpec? credential = _ :=
    recordSpec?_withConsole subscription subscription.consoleUrl
  rw [made] at same
  rw [Option.some.inj same]

theorem apiUrl_injective {first second : String}
    (same : "https://api." ++ first ++ ":6443" = "https://api." ++ second ++ ":6443") :
    first = second := by
  rw [← String.toList_inj] at same ⊢
  simpa using same

theorem apiUrl_ne (host : String) : "https://api." ++ host ++ ":6443" ≠ "" := by
  rw [← String.toList_inj.ne]
  simp

/-- What the API URL of a record should be. -/
def IsApiUrl (url : String) : Prop :=
  url = "" ∨ ∃ host, IsHost host ∧ url = "https://api." ++ host ++ ":6443"

/-- The API URL and the name that a host cut out of the console URL gives. -/
theorem addressed_of_cuts (made : subscription.recordSpec? credential = some spec)
    (cuts : Cuts subscription.consoleUrl host port) :
    spec.apiUrl = "https://api." ++ host ++ ":6443" ∧
      spec.displayName = subscription.shownName (some host.toList) := by
  have found := consoleHost?_of_cuts cuts
  constructor
  · rw [apiUrl_of_recordSpec? made, found]
    change "https://api." ++ String.ofList host.toList ++ ":6443" = _
    rw [String.ofList_toList]
  · rw [(describes_of_recordSpec? made).displayName, found]

theorem addressed_of_hostless (made : subscription.recordSpec? credential = some spec)
    (hostless : consoleHost? subscription.consoleUrl = none) :
    spec.apiUrl = "" ∧ spec.displayName = subscription.shownName none := by
  constructor
  · rw [apiUrl_of_recordSpec? made, hostless]
    rfl
  · rw [(describes_of_recordSpec? made).displayName, hostless]

/-- The API URL of a record is as it should be exactly if a host is cut out of the console URL,
or nothing. It is so, and a console URL that is not standard gives neither a URL nor a name,
exactly if the console URL is standard or nothing can be cut out of it. -/
theorem api_url_is_well_formed_exactly
    (made : subscription.recordSpec? credential = some spec) :
    (∀ host port, Cuts subscription.consoleUrl host port →
      spec.apiUrl = "https://api." ++ host ++ ":6443" ∧
        spec.displayName = subscription.shownName (some host.toList)) ∧
    (IsApiUrl spec.apiUrl ↔ ∀ host port, Cuts subscription.consoleUrl host port → IsPlain host) ∧
    ((IsApiUrl spec.apiUrl ∧ (¬ IsStandard subscription.consoleUrl →
        spec.apiUrl = "" ∧ spec.displayName = subscription.shownName none)) ↔
      IsStandard subscription.consoleUrl ∨
        ∀ host port, ¬ Cuts subscription.consoleUrl host port) := by
  have cut (host : String) (port : Option String)
      (cuts : Cuts subscription.consoleUrl host port) := addressed_of_cuts made cuts
  have uncut (never : ∀ host port, ¬ Cuts subscription.consoleUrl host port) :=
    addressed_of_hostless made (consoleHost?_eq_none_iff.mpr never)
  refine ⟨cut, ⟨?_, ?_⟩, ⟨?_, ?_⟩⟩
  · intro wellFormed host port cuts
    rcases wellFormed with empty | ⟨other, isHost, same⟩
    · exact absurd ((cut host port cuts).1.symm.trans empty) (apiUrl_ne host)
    · rw [apiUrl_injective ((cut host port cuts).1.symm.trans same)]
      exact isHost.plain
  · intro plain
    by_cases some : ∃ host port, Cuts subscription.consoleUrl host port
    · obtain ⟨host, port, cuts⟩ := some
      exact Or.inr ⟨host, ⟨cuts.nonempty, plain host port cuts⟩, (cut host port cuts).1⟩
    · exact Or.inl (uncut fun host port cuts => some ⟨host, port, cuts⟩).1
  · intro ⟨_wellFormed, elsewise⟩
    by_cases standard : IsStandard subscription.consoleUrl
    · exact Or.inl standard
    · right
      intro host port cuts
      exact apiUrl_ne host ((cut host port cuts).1.symm.trans (elsewise standard).1)
  · intro holds
    rcases holds with standard | never
    · have ⟨host, console⟩ := standard
      obtain ⟨port, cuts⟩ := console.cuts
      exact ⟨Or.inr ⟨host, console.1, (cut host port cuts).1⟩, absurd standard⟩
    · exact ⟨Or.inl (uncut never).1, fun _ => uncut never⟩

end ClusterDiscovery.Subscription

namespace ClusterDiscovery

namespace Sample

def seenAt (consoleUrl : String) : Subscription :=
  { entry "Active" "" noon with consoleUrl := consoleUrl }

def access : CredentialRef := ⟨"secret", "ns"⟩

theorem seen (consoleUrl : String) :
    ∃ spec, (seenAt consoleUrl).recordSpec? access = some spec := by
  apply Subscription.isSome_recordSpec?
  · exact List.cons_ne_nil _ _
  · exact show "b" ≠ "" by decide
  · exact show "Active" ≠ "Reserved" by decide

end Sample

namespace Subscription

/-- Of two colons the last one counts, and the first one stays in the API URL. -/
theorem api_url_is_well_formed_exactly_sample :
    ∃ spec, (Sample.seenAt (consolePrefix ++ "c:d" ++ ":" ++ "8443")).recordSpec? Sample.access =
        some spec ∧
      spec.apiUrl = "https://api.c:d:6443" := by
  obtain ⟨spec, made⟩ := Sample.seen (consolePrefix ++ "c:d" ++ ":" ++ "8443")
  obtain ⟨cut, _rest⟩ := api_url_is_well_formed_exactly made
  exact ⟨spec, made, (cut "c:d" (some "8443") ⟨by decide, rfl, by decide⟩).1⟩

/-- A slash at the end of a console URL gets into the API URL and into the name. -/
theorem slash_gets_into_api_url :
    ∃ spec, (Sample.seenAt "https://console-openshift-console.apps.c.example.com/").recordSpec?
        Sample.access = some spec ∧
      ¬ IsApiUrl spec.apiUrl ∧ spec.displayName = "c-example-com/" := by
  obtain ⟨spec, made⟩ :=
    Sample.seen "https://console-openshift-console.apps.c.example.com/"
  have cuts : Cuts "https://console-openshift-console.apps.c.example.com/" "c.example.com/" none :=
    ⟨by decide, by decide +kernel, by decide⟩
  obtain ⟨address, name⟩ := addressed_of_cuts made cuts
  refine ⟨spec, made, ?_, ?_⟩
  · intro wellFormed
    rcases wellFormed with empty | ⟨host, isHost, same⟩
    · exact apiUrl_ne _ (address.symm.trans empty)
    · have slashed := apiUrl_injective (address.symm.trans same)
      subst slashed
      exact isHost.plain.1 (by decide)
  · rw [name]
    decide +kernel

variable {subscription : Subscription} {credential : CredentialRef} {spec : ClusterSpec}

theorem shownName_eq_ite (subscription : Subscription) (host : Option (List Char)) :
    subscription.shownName host =
      if subscription.displayName ≠ "" ∧ subscription.displayName ≠ subscription.externalId then
        subscription.displayName
      else (host.map hostName).getD subscription.externalId := by
  cases host <;> rfl

/-- The standard console URL of a host gives the API URL and, if no better name is known, the
name. The port makes no difference, and without the beginning of a console URL there is no API
URL and the id takes the place of the name. -/
theorem names_follow_console (made : subscription.recordSpec? credential = some spec) :
    (∀ host, IsConsoleOf host subscription.consoleUrl →
      spec.apiUrl = "https://api." ++ host ++ ":6443" ∧
        spec.displayName =
          if subscription.displayName ≠ "" ∧ subscription.displayName ≠ subscription.externalId then
            subscription.displayName
          else String.ofList (host.toList.map fun c => if c = '.' then '-' else c)) ∧
    (¬ consolePrefix.toList <+: subscription.consoleUrl.toList →
      spec.apiUrl = "" ∧
        spec.displayName =
          if subscription.displayName ≠ "" ∧ subscription.displayName ≠ subscription.externalId then
            subscription.displayName
          else subscription.externalId) ∧
    spec.displayName ≠ "" ∧
    ∀ host first second, IsConsoleOf host first → IsConsoleOf host second →
      ∃ shown, { subscription with consoleUrl := first }.recordSpec? credential = some shown ∧
        { subscription with consoleUrl := second }.recordSpec? credential =
          some { shown with console := second } := by
  refine ⟨?_, ?_, ?_, ?_⟩
  · intro host console
    obtain ⟨port, cuts⟩ := console.cuts
    obtain ⟨address, name⟩ := addressed_of_cuts made cuts
    refine ⟨address, ?_⟩
    rw [name, shownName_eq_ite]
    rfl
  · intro elsewhere
    obtain ⟨address, name⟩ :=
      addressed_of_hostless made (consoleHost?_of_not_isPrefix elsewhere)
    refine ⟨address, ?_⟩
    rw [name, shownName_eq_ite]
    rfl
  · rw [(describes_of_recordSpec? made).displayName]
    exact shownName_ne (identified_of_recordSpec? made)
  · intro host first second ofFirst ofSecond
    have sameHost := ofFirst.consoleHost?.trans ofSecond.consoleHost?.symm
    rw [recordSpec?_withConsole subscription first, recordSpec?_withConsole subscription second,
      made, sameHost]
    exact ⟨_, rfl, rfl⟩

/-- A host with a port, and a cluster that is known by its id only. -/
theorem names_follow_console_sample :
    ∃ spec, (Sample.seenAt (consolePrefix ++ "c.example.com" ++ ":" ++ "8443")).recordSpec?
        Sample.access = some spec ∧
      spec.apiUrl = "https://api.c.example.com:6443" ∧ spec.displayName = "c-example-com" := by
  obtain ⟨spec, made⟩ := Sample.seen (consolePrefix ++ "c.example.com" ++ ":" ++ "8443")
  obtain ⟨standard, _rest⟩ := names_follow_console made
  have console : IsConsoleOf "c.example.com"
      (consolePrefix ++ "c.example.com" ++ ":" ++ "8443") := by
    refine ⟨⟨by decide, by decide⟩, some "8443", ?_, rfl⟩
    intro port same
    cases same
    decide
  obtain ⟨address, name⟩ := standard "c.example.com" console
  refine ⟨spec, made, address, ?_⟩
  rw [name]
  decide +kernel

end Subscription

end ClusterDiscovery
