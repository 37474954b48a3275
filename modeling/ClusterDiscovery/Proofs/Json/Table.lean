/-
Tables: objects in which every name is there and occurs once.

What is read of a table depends on what stands under each name and on nothing else, whether it
is read as a record, member by member, or as a map.
-/

import ClusterDiscovery.Proofs.Json.Record
import ClusterDiscovery.Proofs.Keyed
import Mathlib.Data.List.Nodup
import Mathlib.Data.Set.List

namespace ClusterDiscovery.Json

namespace Value

def members : Value → List (Option String × Value)
  | .object members => members
  | _ => []

theorem member?_eq_lookup (value : Value) (name : String) :
    value.member? name = value.members.lookup (some name) := by
  cases value <;> rfl

theorem lookup_named (entries : List (String × Value)) (name : String) :
    (Value.record entries).members.lookup (some name) = entries.lookup name := by
  rw [← member?_eq_lookup, member?_record]

private theorem names_record (entries : List (String × Value)) :
    (Value.record entries).members.map Prod.fst = (entries.map Prod.fst).map some := by
  change (entries.map fun entry => (some entry.1, entry.2)).map Prod.fst = _
  rw [List.map_map, List.map_map]
  rfl

theorem nodup_named {entries : List (String × Value)} (distinct : (entries.map Prod.fst).Nodup) :
    ((Value.record entries).members.map Prod.fst).Nodup := by
  rw [names_record]
  exact List.Nodup.map (fun _ _ same => Option.some.inj same) distinct

theorem none_not_mem_named (entries : List (String × Value)) :
    none ∉ (Value.record entries).members.map Prod.fst := by
  rw [names_record]
  simp

/-- An object whose names are all there, each of them once. -/
structure IsTable (value : Value) : Prop where
  isObject : value = .object value.members
  distinct : (value.members.map Prod.fst).Nodup
  named : none ∉ value.members.map Prod.fst

theorem isTable_record {entries : List (String × Value)}
    (distinct : (entries.map Prod.fst).Nodup) : (Value.record entries).IsTable :=
  ⟨rfl, nodup_named distinct, none_not_mem_named entries⟩

private theorem exists_named {written : List (Option String × Value)}
    (named : none ∉ written.map Prod.fst) :
    ∃ entries : List (String × Value),
      written = entries.map fun entry => (some entry.1, entry.2) := by
  induction written with
  | nil => exact ⟨[], rfl⟩
  | cons head rest ih =>
      rw [List.map_cons, List.mem_cons, not_or] at named
      obtain ⟨entries, rfl⟩ := ih named.2
      rcases head with ⟨name, value⟩
      cases name with
      | none => exact absurd rfl named.1
      | some name => exact ⟨(name, value) :: entries, rfl⟩

theorem IsTable.exists_record {value : Value} (table : value.IsTable) :
    ∃ entries, value = .record entries ∧ (entries.map Prod.fst).Nodup := by
  obtain ⟨entries, same⟩ := exists_named table.named
  have isRecord : value = .record entries := by
    rw [table.isObject, same]
    rfl
  refine ⟨entries, isRecord, ?_⟩
  have distinct := table.distinct
  rw [isRecord, names_record] at distinct
  exact distinct.of_map some

end Value

variable {value : Value}

theorem filter_name {entries : List (String × Value)} (distinct : (entries.map Prod.fst).Nodup)
    (name : String) :
    entries.filter (fun entry => entry.1 == name) =
      ((entries.lookup name).map fun value => (name, value)).toList := by
  induction entries with
  | nil => rfl
  | cons head rest ih =>
      obtain ⟨absent, distinctRest⟩ := List.nodup_cons.mp distinct
      by_cases own : head.1 = name
      · have later : rest.filter (fun entry => entry.1 == name) = [] := by
          rw [List.filter_eq_nil_iff]
          intro entry member same
          apply absent
          rw [own, ← eq_of_beq same]
          exact List.mem_map_of_mem member
        rw [List.filter_cons_of_pos (by simpa using own), later, ← own, List.lookup_cons_self]
        rfl
      · have other : (name == head.1) = false := beq_eq_false_iff_ne.mpr (Ne.symm own)
        rw [List.filter_cons_of_neg (by simpa using own), List.lookup_cons, other]
        exact ih distinctRest

theorem fields?_of_isTable (table : value.IsTable) (names : List String) :
    fields? names value = some (names.map value.member?) := by
  obtain ⟨entries, rfl, distinct⟩ := table.exists_record
  rw [fields?_eq_some_iff]
  refine Or.inl ⟨entries, rfl, ?_, ?_⟩
  · intro name _known
    unfold occursOnce
    rw [filter_name distinct]
    cases entries.lookup name <;> rfl
  · apply List.map_congr_left
    intro name _known
    exact Value.member?_record entries name

section Present

variable {members : List (String × Option Value)}

private theorem names_present (members : List (String × Option Value)) :
    ((members.filterMap fun entry => entry.2.map fun value => (entry.1, value)).map
      Prod.fst).Sublist (members.map Prod.fst) := by
  induction members with
  | nil => exact .slnil
  | cons head rest ih =>
      rcases head with ⟨name, field⟩
      cases field with
      | none => exact ih.cons name
      | some value => exact ih.cons_cons name

theorem isTable_presentMembers (distinct : (members.map Prod.fst).Nodup) :
    (presentMembers members).IsTable :=
  Value.isTable_record (distinct.sublist (names_present members))

/-- What stands under a name is what the member of that name has, if it has anything. -/
theorem member?_presentMembers (distinct : (members.map Prod.fst).Nodup) {name : String}
    {field : Option Value} (member : (name, field) ∈ members) :
    (presentMembers members).member? name = field := by
  unfold presentMembers
  rw [Value.member?_record]
  induction members with
  | nil => cases member
  | cons head rest ih =>
      obtain ⟨absent, distinctRest⟩ := List.nodup_cons.mp distinct
      rcases List.mem_cons.mp member with rfl | later
      · cases field with
        | some value => exact List.lookup_cons_self
        | none =>
            apply List.lookup_eq_none_iff.mpr
            intro entry written
            apply bne_iff_ne.mpr
            rintro rfl
            exact absent ((names_present rest).subset (List.mem_map_of_mem written))
      · have other : name ≠ head.1 := by
          intro same
          apply absent
          rw [← same]
          exact List.mem_map_of_mem later
        rw [List.filterMap_cons]
        rcases head with ⟨headName, headField⟩
        cases headField with
        | none => exact ih distinctRest later
        | some value =>
            simp only [Option.map_some, List.lookup_cons, beq_eq_false_iff_ne.mpr other]
            exact ih distinctRest later

theorem fields?_presentMembers (distinct : (members.map Prod.fst).Nodup) :
    fields? (members.map Prod.fst) (presentMembers members) = some (members.map Prod.snd) := by
  rw [fields?_of_isTable (isTable_presentMembers distinct), List.map_map]
  congr 1
  apply List.map_congr_left
  intro entry member
  exact member?_presentMembers distinct member

end Present

theorem lastMember?_of_nodup {α : Type} {entries : List (String × Value)}
    (distinct : (entries.map Prod.fst).Nodup) (read : Reader α) (name : String) :
    lastMember? read entries name = optional read (entries.lookup name) := by
  unfold lastMember?
  rw [filter_name distinct]
  cases entries.lookup name with
  | none => rfl
  | some found =>
      change ((([(name, found)] : List (String × Value)).mapM fun entry =>
        optional read (some entry.2)).bind _) = _
      rw [List.mapM_cons]
      cases optional read (some found) <;> rfl

/-- The members of a table, each of which stands there once. -/
theorem readMembers_of_isTable (table : value.IsTable) :
    ∃ entries, readMembers value = some entries ∧
      ∀ {α : Type} (read : Reader α) (name : String),
        lastMember? read entries name = optional read (value.member? name) := by
  obtain ⟨entries, rfl, distinct⟩ := table.exists_record
  refine ⟨entries, namedMembers?_named entries, ?_⟩
  intro α read name
  rw [lastMember?_of_nodup distinct, Value.member?_record]

theorem optional_of_isTable {α : Type} (table : value.IsTable) (read : Reader α) :
    optional read (some value) = (read value).map some := by
  obtain ⟨entries, rfl, _distinct⟩ := table.exists_record
  rfl

theorem readText_eq_some_iff {text : String} :
    readText value = some text ↔ value = .string text := by
  cases value <;> simp [readText, Value.string]

private theorem readTable_record {entries : List (String × Value)} {texts : Keyed String} :
    readTable readText (.record entries) = some texts ↔
      ∃ read : List (String × String),
        entries = read.map (fun entry => (entry.1, Value.string entry.2)) ∧
          Keyed.ofList read = texts := by
  have exactly (entry : String × Value) (known : String × String) :
      ((readText entry.2).map fun text => (entry.1, text)) = some known ↔
        entry = (known.1, Value.string known.2) := by
    rcases entry with ⟨name, value⟩
    simp only [Option.map_eq_some_iff, readText_eq_some_iff]
    constructor
    · rintro ⟨text, rfl, rfl⟩
      rfl
    · intro same
      cases same
      exact ⟨_, rfl, rfl⟩
  have opened : readTable readText (.record entries) = (entries.mapM fun entry =>
      (readText entry.2).map fun text => (entry.1, text)).bind fun read =>
        some (Keyed.ofList read) := by
    change (namedMembers? _).bind _ = _
    rw [namedMembers?_named]
    rfl
  rw [opened, Option.bind_eq_some_iff]
  simp only [mapM_eq_some_iff, exactly, Option.some.injEq]
  simp only [← List.forall₂_map_right_iff
    (f := fun entry : String × String => (entry.1, Value.string entry.2)), List.forall₂_eq_eq_eq]

theorem readTable_readText_eq_some_iff (table : value.IsTable) {texts : Keyed String} :
    readTable readText value = some texts ↔
      ∀ name, value.member? name = (texts.get? name).map Value.string := by
  obtain ⟨entries, rfl, distinct⟩ := table.exists_record
  have shown {read : List (String × String)}
      (same : entries = read.map fun entry => (entry.1, Value.string entry.2)) (name : String) :
      (Value.record entries).member? name = ((Keyed.ofList read).get? name).map Value.string := by
    have onceEach : (read.map Prod.fst).Nodup := by
      rw [same, List.map_map] at distinct
      exact distinct
    rw [Value.member?_record, Keyed.get?_ofList, Keyed.lookup_reverse onceEach, same]
    exact Keyed.lookup_map_snd Value.string read name
  rw [readTable_record]
  constructor
  · rintro ⟨read, same, rfl⟩
    exact shown same
  · intro agree
    have texted : entries ∈ Set.range (List.map fun entry : String × String =>
        (entry.1, Value.string entry.2)) := by
      rw [Set.range_list_map]
      intro entry member
      have found := (Keyed.lookup_eq_some_iff distinct).mpr
        (show (entry.1, entry.2) ∈ entries from member)
      rw [← Value.member?_record, agree, Option.map_eq_some_iff] at found
      obtain ⟨text, _known, same⟩ := found
      exact ⟨(entry.1, text), Prod.ext rfl same⟩
    obtain ⟨read, same⟩ := texted
    refine ⟨read, same.symm, Keyed.ext_get? fun name => ?_⟩
    have injective : Function.Injective Value.string := by
      intro first second equal
      cases equal
      rfl
    exact Option.map_injective injective ((shown same.symm name).symm.trans (agree name))

end ClusterDiscovery.Json
