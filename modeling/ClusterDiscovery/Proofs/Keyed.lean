/-
Maps keyed by texts, seen through their entries.

A key has one entry at most, so an entry is found under its key and under no other. What a
list of entries is turned into holds the last entry of each key in the list. Maps with the
same answers are equal.
-/

import ClusterDiscovery.Keyed

namespace ClusterDiscovery.Keyed

universe u v

variable {α : Type u} {β : Type v}

theorem pairwise_keys (table : Keyed α) : table.keys.Pairwise (· < ·) :=
  List.pairwise_map.mpr table.ascending

theorem nodup_keys (table : Keyed α) : table.keys.Nodup := by
  refine List.Pairwise.imp ?_ table.pairwise_keys
  intro first second smaller same
  rw [same] at smaller
  exact String.lt_irrefl _ smaller

theorem lookup_eq_some_iff {key : String} {value : α} {entries : List (String × α)}
    (distinct : (entries.map Prod.fst).Nodup) :
    entries.lookup key = some value ↔ (key, value) ∈ entries := by
  constructor
  · intro found
    obtain ⟨before, after, same, _absent⟩ := List.lookup_eq_some_iff.mp found
    rw [same]
    exact List.mem_append_right _ List.mem_cons_self
  · intro member
    induction entries with
    | nil => cases member
    | cons head rest ih =>
        obtain ⟨absent, distinctRest⟩ := List.nodup_cons.mp distinct
        rcases List.mem_cons.mp member with same | later
        · rw [← same]
          exact List.lookup_cons_self
        · have different : (key == head.1) = false := by
            rw [beq_eq_false_iff_ne]
            rintro rfl
            exact absent (List.mem_map.mpr ⟨(head.1, value), later, rfl⟩)
          rw [List.lookup_cons, different]
          exact ih distinctRest later

theorem get?_eq_some_iff {table : Keyed α} {key : String} {value : α} :
    table.get? key = some value ↔ (key, value) ∈ table.entries :=
  lookup_eq_some_iff table.nodup_keys

theorem lookup_reverse {entries : List (String × α)} (distinct : (entries.map Prod.fst).Nodup)
    (key : String) : entries.reverse.lookup key = entries.lookup key := by
  refine Option.ext fun value => ?_
  have distinctReverse : (entries.reverse.map Prod.fst).Nodup :=
    ((List.reverse_perm entries).map Prod.fst).symm.nodup distinct
  rw [lookup_eq_some_iff distinctReverse, List.mem_reverse, lookup_eq_some_iff distinct]

theorem lookup_reverse_entries (table : Keyed α) (key : String) :
    table.entries.reverse.lookup key = table.get? key :=
  lookup_reverse table.nodup_keys key

theorem get?_isSome_iff {table : Keyed α} {key : String} :
    (table.get? key).isSome = true ↔ key ∈ table.keys := by
  constructor
  · intro present
    obtain ⟨value, found⟩ := Option.isSome_iff_exists.mp present
    exact List.mem_map.mpr ⟨(key, value), get?_eq_some_iff.mp found, rfl⟩
  · intro member
    obtain ⟨entry, memberEntry, same⟩ := List.mem_map.mp member
    subst same
    rw [get?_eq_some_iff.mpr memberEntry]
    rfl

theorem get?_eq_none_iff {table : Keyed α} {key : String} :
    table.get? key = none ↔ key ∉ table.keys := by
  rw [← get?_isSome_iff, Bool.not_eq_true, Option.isSome_eq_false_iff, Option.isNone_iff_eq_none]

theorem get?_erase_self (table : Keyed α) (key : String) : (table.erase key).get? key = none := by
  rw [get?_eq_none_iff]
  intro present
  obtain ⟨entry, member, same⟩ := List.mem_map.mp present
  have kept := (List.mem_filter.mp member).2
  simp [same] at kept

theorem get?_erase_of_ne (table : Keyed α) {key other : String} (different : other ≠ key) :
    (table.erase key).get? other = table.get? other := by
  have same (value : α) :
      (table.erase key).get? other = some value ↔ table.get? other = some value := by
    rw [get?_eq_some_iff, get?_eq_some_iff]
    change (other, value) ∈ table.entries.filter _ ↔ _
    rw [List.mem_filter]
    simp [different]
  exact Option.ext same

theorem get?_of_get?_erase {table : Keyed α} {key other : String} {value : α}
    (left : (table.erase key).get? other = some value) : table.get? other = some value := by
  by_cases same : other = key
  · rw [same, get?_erase_self] at left
    cases left
  · rw [get?_erase_of_ne table same] at left
    exact left

/-- Of the entries that are put into a map the last one of a key counts. -/
theorem get?_insertAll (table : Keyed α) (entries : List (String × α)) (key : String) :
    (table.insertAll entries).get? key = (entries.reverse.lookup key).or (table.get? key) := by
  induction entries generalizing table with
  | nil => rfl
  | cons head rest ih =>
      rw [List.reverse_cons, List.lookup_append, Option.or_assoc]
      refine (ih (table.insert head.1 head.2)).trans ?_
      congr 1
      by_cases own : key = head.1
      · rw [own, get?_insert_self, List.lookup_cons_self]
        rfl
      · have other : (key == head.1) = false := beq_eq_false_iff_ne.mpr own
        rw [get?_insert_of_ne table own, List.lookup_cons, other]
        rfl

theorem get?_ofList (entries : List (String × α)) (key : String) :
    (ofList entries).get? key = entries.reverse.lookup key := by
  unfold ofList
  rw [get?_insertAll, get?_empty, Option.or_none]

theorem ext_get? {first second : Keyed α} (agree : ∀ key, first.get? key = second.get? key) :
    first = second := by
  have included {one other : Keyed α} (same : ∀ key, one.get? key = other.get? key)
      {entry : String × α} (member : entry ∈ one.entries) : entry ∈ other.entries := by
    have found := get?_eq_some_iff.mpr (show (entry.1, entry.2) ∈ one.entries from member)
    rw [same] at found
    exact get?_eq_some_iff.mp found
  have nodup (table : Keyed α) : table.entries.Nodup := by
    refine (List.pairwise_map.mp table.nodup_keys).imp ?_
    intro one other different same
    exact different (congrArg Prod.fst same)
  have rearranged : first.entries.Perm second.entries := by
    rw [List.perm_ext_iff_of_nodup (nodup first) (nodup second)]
    intro entry
    exact ⟨included agree, included fun key => (agree key).symm⟩
  have sameEntries : first.entries = second.entries := by
    refine List.Perm.eq_of_pairwise ?_ first.ascending second.ascending rearranged
    intro one other _one _other smaller greater
    exact absurd greater (String.lt_asymm smaller)
  cases first
  cases second
  cases sameEntries
  rfl

theorem insertAll_insert (table other : Keyed α) (key : String) (value : α) :
    table.insertAll (other.insert key value).entries =
      (table.insertAll other.entries).insert key value := by
  refine ext_get? fun name => ?_
  rw [get?_insertAll, lookup_reverse_entries]
  by_cases own : name = key
  · rw [own, get?_insert_self, get?_insert_self]
    rfl
  · rw [get?_insert_of_ne _ own, get?_insert_of_ne _ own, get?_insertAll, lookup_reverse_entries]

theorem lookup_map_snd (change : α → β) (entries : List (String × α)) (key : String) :
    (entries.map fun entry => (entry.1, change entry.2)).lookup key =
      (entries.lookup key).map change := by
  induction entries with
  | nil => rfl
  | cons head rest ih =>
      rw [List.map_cons, List.lookup_cons, List.lookup_cons, ih]
      cases key == head.1 <;> rfl

theorem get?_map (change : α → β) (table : Keyed α) (key : String) :
    (table.map change).get? key = (table.get? key).map change :=
  lookup_map_snd change table.entries key

theorem map_insert (change : α → β) (table : Keyed α) (key : String) (value : α) :
    (table.insert key value).map change = (table.map change).insert key (change value) := by
  refine ext_get? fun name => ?_
  rw [get?_map]
  by_cases own : name = key
  · rw [own, get?_insert_self, get?_insert_self]
    rfl
  · rw [get?_insert_of_ne _ own, get?_insert_of_ne _ own, get?_map]

theorem map_erase (change : α → β) (table : Keyed α) (key : String) :
    (table.erase key).map change = (table.map change).erase key := by
  refine ext_get? fun name => ?_
  rw [get?_map]
  by_cases own : name = key
  · rw [own, get?_erase_self, get?_erase_self]
    rfl
  · rw [get?_erase_of_ne _ own, get?_erase_of_ne _ own, get?_map]

end ClusterDiscovery.Keyed
