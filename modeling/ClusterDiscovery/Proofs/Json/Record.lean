/-
What a record can have been read from.

A record stands in an object or in an array, and the rule of a field says what may stand in
its place. Each reader is turned round here: what it has read tells what was there.
-/

import ClusterDiscovery.Json.Record
import Mathlib.Algebra.Group.Nat.Defs
import Mathlib.Data.List.Forall2

namespace ClusterDiscovery.Json

universe u

variable {α : Type u}

theorem mapM_eq_some_iff {β γ : Type u} {read : β → Option γ} {xs : List β} {ys : List γ} :
    xs.mapM read = some ys ↔ List.Forall₂ (fun x y => read x = some y) xs ys := by
  induction xs generalizing ys with
  | nil =>
      rw [List.forall₂_nil_left_iff]
      exact ⟨fun same => (Option.some.inj same).symm, fun same => congrArg some same.symm⟩
  | cons x xs ih =>
      rw [List.forall₂_cons_left_iff, List.mapM_cons]
      constructor
      · intro mapped
        obtain ⟨y, first, later⟩ := Option.bind_eq_some_iff.mp mapped
        obtain ⟨rest, others, same⟩ := Option.bind_eq_some_iff.mp later
        exact ⟨y, rest, first, ih.mp others, (Option.some.inj same).symm⟩
      · rintro ⟨y, rest, first, others, rfl⟩
        rw [first, ih.mpr others]
        rfl

theorem namedMembers?_eq_some_iff {members : List (Option String × Value)}
    {named : List (String × Value)} :
    namedMembers? members = some named ↔
      members = named.map fun entry => (some entry.1, entry.2) := by
  unfold namedMembers?
  rw [mapM_eq_some_iff]
  have exactly (entry : Option String × Value) (known : String × Value) :
      (entry.1.map fun name => (name, entry.2)) = some known ↔
        entry = (some known.1, known.2) := by
    rcases entry with ⟨name, value⟩
    cases name with
    | none => simp
    | some name => simp [Prod.ext_iff]
  simp only [exactly]
  rw [← List.forall₂_map_right_iff (f := fun entry : String × Value => (some entry.1, entry.2)),
    List.forall₂_eq_eq_eq]

theorem namedMembers?_named (named : List (String × Value)) :
    namedMembers? (named.map fun entry => (some entry.1, entry.2)) = some named :=
  namedMembers?_eq_some_iff.mpr rfl

theorem Value.member?_record (members : List (String × Value)) (name : String) :
    (Value.record members).member? name = members.lookup name := by
  change (members.map fun entry => (some entry.1, entry.2)).lookup (some name) = _
  induction members with
  | nil => rfl
  | cons head rest ih =>
      rw [List.map_cons, List.lookup_cons, List.lookup_cons, ih]
      rfl

private theorem padded_eq_places {β : Type} (items : List β) {count : Nat}
    (few : items.length ≤ count) :
    items.map some ++ List.replicate (count - items.length) none =
      (List.range count).map fun place => items[place]? := by
  apply List.ext_getElem?
  intro place
  by_cases inside : place < items.length
  · have early : place < (items.map some).length := by simpa using inside
    have counted : place < count := by omega
    rw [List.getElem?_append_left early]
    simp [inside, counted]
  · have late : (items.map some).length ≤ place := by simpa using inside
    have absent : items[place]? = none := List.getElem?_eq_none (Nat.le_of_not_lt inside)
    rw [List.getElem?_append_right late, List.length_map, List.getElem?_map,
      List.getElem?_replicate]
    by_cases counted : place < count
    · have padded : place - items.length < count - items.length := by omega
      simp [padded, counted, absent]
    · have beyond : ¬ place - items.length < count - items.length := by omega
      simp [beyond, counted]

/-- The fields of a record stand in an object whose names are all legible and in which none
of them occurs twice, or in an array of at most so many items. -/
theorem fields?_eq_some_iff {names : List String} {value : Value}
    {found : List (Option Value)} :
    fields? names value = some found ↔
      (∃ members, value = .record members ∧ (∀ name ∈ names, occursOnce members name = true) ∧
        found = names.map fun name => members.lookup name) ∨
      (∃ items, value = .array items ∧ items.length ≤ names.length ∧
        found = (List.range names.length).map fun place => items[place]?) := by
  cases value with
  | object written =>
      constructor
      · intro read
        obtain ⟨members, legible, rest⟩ := Option.bind_eq_some_iff.mp read
        rw [namedMembers?_eq_some_iff] at legible
        simp only [Option.ite_none_right_eq_some, Option.some.injEq, List.all_eq_true] at rest
        exact Or.inl ⟨members, congrArg Value.object legible, rest.1, rest.2.symm⟩
      · rintro (⟨members, same, once, rfl⟩ | ⟨items, impossible, _few, _found⟩)
        · cases same
          have known : names.all (occursOnce members) = true := List.all_eq_true.mpr once
          simp only [fields?, namedMembers?_named, Option.bind_eq_bind, Option.bind_some, known,
            if_true]
        · cases impossible
  | array items =>
      constructor
      · intro read
        simp only [fields?, Option.ite_none_right_eq_some, Option.some.injEq] at read
        obtain ⟨few, same⟩ := read
        rw [padded_eq_places items few] at same
        exact Or.inr ⟨items, rfl, few, same.symm⟩
      · rintro (⟨members, impossible, _once, _found⟩ | ⟨others, same, few, rfl⟩)
        · cases impossible
        · cases same
          simp only [fields?, if_pos few, padded_eq_places items few]
  | _ => simp [fields?, Value.record]

/-- What a record has under each of its names: an object names its fields, none of them twice,
and an array gives them in their declared order. -/
inductive Fielded (names : List String) : Value → (String → Option Value) → Prop where
  | object {members : List (String × Value)}
      (once : ∀ name ∈ names, occursOnce members name = true) :
      Fielded names (.record members) fun name => members.lookup name
  | array {items : List Value} (few : items.length ≤ names.length) :
      Fielded names (.array items) fun name => items[names.idxOf name]?

theorem fields?_eq_some_iff_fielded {names : List String} (distinct : names.Nodup)
    {value : Value} {found : List (Option Value)} :
    fields? names value = some found ↔
      ∃ field, Fielded names value field ∧ found = names.map field := by
  have places (items : List Value) :
      ((List.range names.length).map fun place => items[place]?) =
        names.map fun name => items[names.idxOf name]? := by
    apply List.ext_getElem
    · simp
    · intro place inside alsoInside
      have counted : place < names.length := by simpa using inside
      simp [distinct.idxOf_getElem place counted]
  rw [fields?_eq_some_iff]
  constructor
  · rintro (⟨members, rfl, once, rfl⟩ | ⟨items, rfl, few, rfl⟩)
    · exact ⟨_, .object once, rfl⟩
    · exact ⟨_, .array few, places items⟩
  · rintro ⟨field, fielded, rfl⟩
    cases fielded with
    | object once => exact Or.inl ⟨_, rfl, once, rfl⟩
    | array few => exact Or.inr ⟨_, rfl, few, (places _).symm⟩

theorem orNull_eq_some_iff {default result : α} {read : Reader α} {field : Option Value} :
    orNull default read field = some result ↔
      ((field = none ∨ field = some .null) ∧ result = default) ∨
      (∃ value, field = some value ∧ value ≠ .null ∧ read value = some result) := by
  cases field with
  | none => simp [orNull, eq_comm]
  | some value => cases value <;> simp [orNull, eq_comm]

theorem readNatural_eq_some_iff {bits count : Nat} {value : Value} :
    readNatural bits value = some count ↔ value = .nat count ∧ count < 2 ^ bits := by
  have positive : 0 < 2 ^ bits := Nat.two_pow_pos bits
  have bound : ((Nat.pow 2 bits : Nat) : Int) = ((2 ^ bits : Nat) : Int) := rfl
  unfold readNatural
  cases value with
  | number number =>
      cases number with
      | integer whole =>
          simp only [readInteger, Option.map_eq_some_iff, Option.ite_none_right_eq_some,
            Option.some.injEq, Value.nat, Value.int, Value.number.injEq, Number.integer.injEq]
          constructor
          · rintro ⟨found, ⟨⟨low, high⟩, rfl⟩, rfl⟩
            omega
          · rintro ⟨rfl, fits⟩
            refine ⟨_, ⟨⟨?_, ?_⟩, rfl⟩, ?_⟩ <;> omega
      | _ => simp [readInteger, Value.nat, Value.int]
  | _ => simp [readInteger, Value.nat, Value.int]

theorem readList_eq_some_iff {β : Type} {read : Reader β} {value : Value} {found : List β} :
    readList read value = some found ↔
      ∃ items, value = .array items ∧
        List.Forall₂ (fun item result => read item = some result) items found := by
  cases value with
  | array items => simp [readList, mapM_eq_some_iff]
  | _ => simp [readList]

end ClusterDiscovery.Json
