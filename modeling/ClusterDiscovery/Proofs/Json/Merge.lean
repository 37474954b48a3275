/-
Merging of changes into a value.

A change that is no object takes the place of the value. The members of one that is an object
are merged one after the other into those of the value: a null removes the member of its name,
and any other change is merged into it. What stands under a name afterwards depends on what
stood there before and on the change of that name alone.
-/

import ClusterDiscovery.Proofs.Json.Table

namespace ClusterDiscovery.Json

universe u v

section Members

variable {ν : Type u} {α : Type v} [DecidableEq ν]

def putMember (name : ν) (value : α) : List (ν × α) → List (ν × α)
  | [] => [(name, value)]
  | entry :: rest =>
      if entry.1 = name then (name, value) :: rest else entry :: putMember name value rest

def dropMember (name : ν) (members : List (ν × α)) : List (ν × α) :=
  members.filter fun entry => entry.1 ≠ name

variable [BEq ν] [LawfulBEq ν] {name other : ν} {value : α} {members : List (ν × α)}

theorem lookup_putMember_self : (putMember name value members).lookup name = some value := by
  induction members with
  | nil => exact List.lookup_cons_self
  | cons entry rest ih =>
      unfold putMember
      by_cases same : entry.1 = name
      · rw [if_pos same]
        exact List.lookup_cons_self
      · have different : (name == entry.1) = false := beq_eq_false_iff_ne.mpr (Ne.symm same)
        rw [if_neg same, List.lookup_cons, different]
        exact ih

theorem lookup_putMember_of_ne (different : other ≠ name) :
    (putMember name value members).lookup other = members.lookup other := by
  have apart : (other == name) = false := beq_eq_false_iff_ne.mpr different
  induction members with
  | nil =>
      unfold putMember
      rw [List.lookup_cons, apart]
  | cons entry rest ih =>
      unfold putMember
      by_cases same : entry.1 = name
      · rw [if_pos same, List.lookup_cons, List.lookup_cons, same, apart]
      · rw [if_neg same, List.lookup_cons, List.lookup_cons, ih]

theorem lookup_dropMember_self : (dropMember name members).lookup name = none := by
  rw [List.lookup_eq_none_iff]
  intro entry kept
  have different := of_decide_eq_true (List.mem_filter.mp kept).2
  exact bne_iff_ne.mpr (Ne.symm different)

theorem lookup_dropMember_of_ne (different : other ≠ name) :
    (dropMember name members).lookup other = members.lookup other := by
  unfold dropMember
  induction members with
  | nil => rfl
  | cons entry rest ih =>
      by_cases same : entry.1 = name
      · have apart : (other == entry.1) = false := by
          rw [beq_eq_false_iff_ne, same]
          exact different
        rw [List.filter_cons_of_neg (by simpa using same), List.lookup_cons, apart]
        exact ih
      · rw [List.filter_cons_of_pos (by simpa using same), List.lookup_cons, List.lookup_cons, ih]

omit [BEq ν] [LawfulBEq ν] in
theorem mem_names_putMember
    (member : other ∈ (putMember name value members).map Prod.fst) :
    other = name ∨ other ∈ members.map Prod.fst := by
  induction members with
  | nil => exact Or.inl (List.mem_singleton.mp member)
  | cons entry rest ih =>
      unfold putMember at member
      by_cases same : entry.1 = name
      · rw [if_pos same, List.map_cons] at member
        rcases List.mem_cons.mp member with new | old
        · exact Or.inl new
        · exact Or.inr (List.mem_cons_of_mem _ old)
      · rw [if_neg same, List.map_cons] at member
        rcases List.mem_cons.mp member with first | later
        · exact Or.inr (first ▸ List.mem_cons_self)
        · exact (ih later).imp_right (List.mem_cons_of_mem _)

omit [BEq ν] [LawfulBEq ν] in
theorem nodup_putMember (distinct : (members.map Prod.fst).Nodup) :
    ((putMember name value members).map Prod.fst).Nodup := by
  induction members with
  | nil => exact List.pairwise_singleton _ _
  | cons entry rest ih =>
      obtain ⟨absent, distinctRest⟩ := List.nodup_cons.mp distinct
      unfold putMember
      by_cases same : entry.1 = name
      · rw [if_pos same]
        exact List.nodup_cons.mpr ⟨same ▸ absent, distinctRest⟩
      · rw [if_neg same]
        refine List.nodup_cons.mpr ⟨fun member => ?_, ih distinctRest⟩
        rcases mem_names_putMember member with impossible | old
        · exact same impossible
        · exact absent old

omit [BEq ν] [LawfulBEq ν] in
theorem names_dropMember :
    ((dropMember name members).map Prod.fst).Sublist (members.map Prod.fst) :=
  List.filter_sublist.map _

end Members

namespace Value

mutual

def merge (target : Value) : Value → Value
  | .object changes => .object (mergeMembers target.members changes)
  | change => change

def mergeMembers (members : List (Option String × Value)) :
    List (Option String × Value) → List (Option String × Value)
  | [] => members
  | (name, change) :: rest =>
      mergeMembers
        (if change.isNull then dropMember name members
          else putMember name (merge ((members.lookup name).getD .null) change) members) rest

end

def changed (before : Option Value) : Option Value → Option Value
  | none => before
  | some change => if change.isNull then none else some ((before.getD .null).merge change)

variable {members changes : List (Option String × Value)} {name : Option String}

theorem lookup_mergeMembers (distinct : (changes.map Prod.fst).Nodup) :
    (mergeMembers members changes).lookup name =
      changed (members.lookup name) (changes.lookup name) := by
  induction changes generalizing members with
  | nil => rfl
  | cons entry rest ih =>
      obtain ⟨changing, change⟩ := entry
      obtain ⟨absent, distinctRest⟩ := List.nodup_cons.mp distinct
      rw [mergeMembers, ih distinctRest]
      by_cases own : name = changing
      · have later : rest.lookup name = none := by
          rw [List.lookup_eq_none_iff]
          intro entry member
          rw [bne_iff_ne, own]
          intro same
          exact absent (List.mem_map.mpr ⟨entry, member, same.symm⟩)
        rw [later, own, List.lookup_cons_self]
        change List.lookup changing (if _ then _ else _) = if _ then _ else _
        split
        · exact lookup_dropMember_self
        · exact lookup_putMember_self
      · have apart : (name == changing) = false := beq_eq_false_iff_ne.mpr own
        rw [List.lookup_cons, apart]
        congr 1
        split
        · exact lookup_dropMember_of_ne own
        · exact lookup_putMember_of_ne own

/-- What stands under a name after a merge. -/
theorem member?_merge (target : Value) (changes : List (String × Value))
    (distinct : (changes.map Prod.fst).Nodup) (name : String) :
    (target.merge (.record changes)).member? name =
      changed (target.member? name) (changes.lookup name) := by
  rw [member?_eq_lookup, member?_eq_lookup, ← lookup_named changes]
  exact lookup_mergeMembers (nodup_named distinct)

example : (Value.record [("labels", .record [("a", .string "x"), ("b", .string "y")])]).merge
    (.record [("labels", .record [("a", .null), ("c", .string "z")])]) =
      .record [("labels", .record [("b", .string "y"), ("c", .string "z")])] := rfl

theorem member?_merge_of_not_mem (target : Value) (changes : List (String × Value))
    (distinct : (changes.map Prod.fst).Nodup) {name : String}
    (absent : name ∉ changes.map Prod.fst) :
    (target.merge (.record changes)).member? name = target.member? name := by
  have unnamed : changes.lookup name = none := by
    rw [List.lookup_eq_none_iff]
    intro change member
    rw [bne_iff_ne]
    rintro rfl
    exact absent (List.mem_map_of_mem member)
  rw [member?_merge target changes distinct, unnamed]
  rfl

theorem isTable_mergeMembers (distinct : (members.map Prod.fst).Nodup)
    (named : none ∉ members.map Prod.fst) (changesNamed : none ∉ changes.map Prod.fst) :
    (Value.object (mergeMembers members changes)).IsTable := by
  induction changes generalizing members with
  | nil => exact ⟨rfl, distinct, named⟩
  | cons entry rest ih =>
      obtain ⟨changing, change⟩ := entry
      rw [List.map_cons, List.mem_cons, not_or] at changesNamed
      rw [mergeMembers]
      split
      · refine ih (distinct.sublist names_dropMember) (fun member => ?_) changesNamed.2
        exact named (names_dropMember.subset member)
      · refine ih (nodup_putMember distinct) (fun member => ?_) changesNamed.2
        rcases mem_names_putMember member with impossible | old
        · exact changesNamed.1 impossible
        · exact named old

theorem IsTable.merge {target : Value} (table : target.IsTable)
    (changes : List (String × Value)) : (target.merge (.record changes)).IsTable :=
  isTable_mergeMembers table.distinct table.named (none_not_mem_named changes)

/-- What is merged into nothing is an object of its own. -/
theorem isTable_merge_of_memberless {target : Value} (memberless : target.members = [])
    (changes : List (String × Value)) : (target.merge (.record changes)).IsTable := by
  refine isTable_mergeMembers ?_ ?_ (none_not_mem_named changes) <;> rw [memberless]
  · exact List.nodup_nil
  · exact List.not_mem_nil

end Value

/-- Texts are kept in a table, or nowhere as yet. Whatever is merged into their place makes a
table of it. -/
theorem texts_of_optional {written : Option Value} {texts : Option (Keyed String)}
    (read : optional (readTable readText) written = some texts)
    (tidy : ∀ value, written = some value → value = .null ∨ value.IsTable) :
    (∀ changes, ((written.getD .null).merge (.record changes)).IsTable) ∧
      ∀ name, (written.getD .null).member? name =
        ((texts.getD .empty).get? name).map Value.string := by
  cases written with
  | none =>
      cases read
      exact ⟨fun _ => Value.isTable_merge_of_memberless rfl _, fun _ => rfl⟩
  | some value =>
      rcases tidy value rfl with rfl | table
      · cases read
        exact ⟨fun _ => Value.isTable_merge_of_memberless rfl _, fun _ => rfl⟩
      · rw [optional_of_isTable table, Option.map_eq_some_iff] at read
        obtain ⟨found, readTexts, rfl⟩ := read
        exact ⟨table.merge, (readTable_readText_eq_some_iff table).mp readTexts⟩

end ClusterDiscovery.Json
