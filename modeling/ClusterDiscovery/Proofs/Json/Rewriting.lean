/-
Rewritings of a value.

A reader of a record knows some names and what may stand under each of them. The members of such
an object may be put into another order, and members that are null or have other names may come
and go, here and in every record inside. All this leaves alone what counts: the members under
known names that are not null. So two values of which one is rewritten into the other, and in
which no such object has two members of one name, are read alike if null and absence mean the same.
-/

import ClusterDiscovery.Proofs.Json.Table

namespace ClusterDiscovery.Json

universe u

/-- What a reader knows of a value: nothing, or its items, or the members under some names. -/
inductive Layout where
  | whole
  | list (item : Layout)
  | record (names : List String) (inside : String → Layout)

/-- A value is rewritten, step by step. A name that spells no characters is no name. -/
inductive Rewritten : Layout → Value → Value → Prop where
  | refl {layout : Layout} {value : Value} : Rewritten layout value value
  | symm {layout : Layout} {value other : Value} (rewritten : Rewritten layout value other) :
      Rewritten layout other value
  | trans {layout : Layout} {value middle other : Value} (first : Rewritten layout value middle)
      (second : Rewritten layout middle other) : Rewritten layout value other
  | reordered {names : List String} {inside : String → Layout}
      {members others : List (String × Value)} (perm : members.Perm others) :
      Rewritten (.record names inside) (.record members) (.record others)
  | nulled {names : List String} {inside : String → Layout} {members : List (String × Value)}
      (name : String) :
      Rewritten (.record names inside) (.record members) (.record ((name, .null) :: members))
  | extended {names : List String} {inside : String → Layout} {members : List (String × Value)}
      {name : String} (unknown : name ∉ names) (value : Value) :
      Rewritten (.record names inside) (.record members) (.record ((name, value) :: members))
  | member {names : List String} {inside : String → Layout} {members : List (String × Value)}
      {name : String} {value other : Value} (rewritten : Rewritten (inside name) value other) :
      Rewritten (.record names inside) (.record ((name, value) :: members))
        (.record ((name, other) :: members))
  | item {layout : Layout} {value other : Value} (before after : List Value)
      (rewritten : Rewritten layout value other) :
      Rewritten (.list layout) (.array (before ++ value :: after))
        (.array (before ++ other :: after))

/-- The values under a name that are not null. -/
def held (name : String) (members : List (String × Value)) : List Value :=
  (members.filter fun entry => entry.1 == name && !entry.2.isNull).map Prod.snd

namespace Layout

/-- No object that is read by its members has two of one name. -/
def Tidy : Layout → Value → Prop
  | .record names inside, .object written =>
      (written.map Prod.fst).Nodup ∧
        ∀ name ∈ names, ∀ value, (some name, value) ∈ written → (inside name).Tidy value
  | .list item, .array items => ∀ value ∈ items, item.Tidy value
  | _, _ => True

/-- No object that is read by its members has two that count under one name. -/
def Single : Layout → Value → Prop
  | .record names inside, .object written =>
      ∀ members, namedMembers? written = some members → ∀ name ∈ names,
        (held name members).length ≤ 1 ∧ ∀ value ∈ held name members, (inside name).Single value
  | .list item, .array items => ∀ value ∈ items, item.Single value
  | _, _ => True

/-- What counts of a value, in the order in which it is known. -/
def core : Layout → Value → Value
  | .record names inside, .object written =>
      match namedMembers? written with
      | none => .object written
      | some members =>
          presentMembers (names.map fun name =>
            (name, (held name members).head?.map (inside name).core))
  | .list item, .array items => .array (items.map item.core)
  | _, value => value

/-- What counts of a field. -/
def trim (layout : Layout) (field : Option Value) : Option Value :=
  (field.filter fun value => !value.isNull).map layout.core

end Layout

section Held

variable {name other : String} {value : Value} {members : List (String × Value)}

theorem held_cons : held name ((other, value) :: members) =
    if (other == name && !value.isNull) = true then value :: held name members
    else held name members := by
  unfold held
  rw [List.filter_cons]
  split <;> rfl

theorem mem_held : value ∈ held name members ↔ (name, value) ∈ members ∧ value.isNull = false := by
  simp [held]

theorem held_of_nodup (distinct : (members.map Prod.fst).Nodup) (name : String) :
    held name members =
      ((members.lookup name).filter fun value => !value.isNull).toList := by
  induction members with
  | nil => rfl
  | cons head rest ih =>
      obtain ⟨other, value⟩ := head
      obtain ⟨absent, distinctRest⟩ := List.nodup_cons.mp distinct
      rw [held_cons, List.lookup_cons]
      by_cases own : other = name
      · subst own
        have nothing : held other rest = [] := by
          rw [List.eq_nil_iff_forall_not_mem]
          intro later member
          exact absent (List.mem_map.mpr ⟨_, (mem_held.mp member).1, rfl⟩)
        rw [nothing, beq_self_eq_true, Bool.true_and, Option.filter_some]
        split <;> rfl
      · have apart : (name == other) = false := beq_eq_false_iff_ne.mpr (Ne.symm own)
        rw [beq_eq_false_iff_ne.mpr own, apart]
        exact ih distinctRest

end Held

section Records

variable {names : List String} {inside : String → Layout} {members others : List (String × Value)}

theorem Layout.core_record : (record names inside).core (.record members) =
    presentMembers (names.map fun name =>
      (name, (held name members).head?.map (inside name).core)) := by
  unfold Value.record
  rw [core, namedMembers?_named]

theorem Layout.single_record : (record names inside).Single (.record members) ↔
    ∀ name ∈ names, (held name members).length ≤ 1 ∧
      ∀ value ∈ held name members, (inside name).Single value := by
  change (∀ named, namedMembers? (members.map fun entry => (some entry.1, entry.2)) = some named →
    _) ↔ _
  rw [namedMembers?_named]
  simp only [Option.some.injEq, forall_eq']

end Records

/-- The same counts of two values, unless one has two members where one could count. -/
structure SameCore (layout : Layout) (value other : Value) : Prop where
  null : value.isNull = other.isNull
  single : layout.Single value ↔ layout.Single other
  core : layout.Single value → layout.core value = layout.core other

/-- The same counts of what two objects hold under a name. -/
structure SameHeld (layout : Layout) (values others : List Value) : Prop where
  count : values.length = others.length
  single : (∀ value ∈ values, layout.Single value) ↔ ∀ value ∈ others, layout.Single value
  core : values.length ≤ 1 → (∀ value ∈ values, layout.Single value) →
    values.head?.map layout.core = others.head?.map layout.core

section Same

variable {layout : Layout} {value middle other : Value} {values others : List Value}

theorem SameCore.refl : SameCore layout value value := ⟨rfl, Iff.rfl, fun _ => rfl⟩

theorem SameCore.symm (same : SameCore layout value other) : SameCore layout other value :=
  ⟨same.null.symm, same.single.symm, fun single => (same.core (same.single.mpr single)).symm⟩

theorem SameCore.trans (first : SameCore layout value middle)
    (second : SameCore layout middle other) : SameCore layout value other :=
  ⟨first.null.trans second.null, first.single.trans second.single,
    fun single => (first.core single).trans (second.core (first.single.mp single))⟩

theorem SameHeld.of_perm (perm : values.Perm others) : SameHeld layout values others := by
  refine ⟨perm.length_eq, ?_, ?_⟩
  · simp only [perm.mem_iff]
  · intro few _single
    cases values with
    | nil => rw [perm.nil_eq]
    | cons value rest =>
        obtain rfl : rest = [] := List.eq_nil_of_length_eq_zero (by simpa using few)
        rw [perm.singleton_eq]

theorem SameHeld.cons (same : SameCore layout value other) (values : List Value) :
    SameHeld layout (value :: values) (other :: values) := by
  refine ⟨rfl, ?_, ?_⟩
  · simp only [List.forall_mem_cons, same.single]
  · intro _few single
    exact congrArg some (same.core (single value List.mem_cons_self))

end Same

section Steps

variable {names : List String} {inside : String → Layout} {members others : List (String × Value)}
  {name : String} {value other : Value} {layout : Layout}

theorem sameCore_record
    (same : ∀ name ∈ names, SameHeld (inside name) (held name members) (held name others)) :
    SameCore (.record names inside) (.record members) (.record others) := by
  refine ⟨rfl, ?_, ?_⟩
  · rw [Layout.single_record, Layout.single_record]
    apply forall₂_congr
    intro name known
    rw [(same name known).count, (same name known).single]
  · intro single
    rw [Layout.single_record] at single
    rw [Layout.core_record, Layout.core_record]
    congr 1
    apply List.map_congr_left
    intro name known
    obtain ⟨few, each⟩ := single name known
    rw [(same name known).core few each]

theorem sameCore_reordered (perm : members.Perm others) :
    SameCore (.record names inside) (.record members) (.record others) := by
  apply sameCore_record
  intro name _known
  exact .of_perm ((perm.filter _).map _)

/-- What is null or has another name does not count. -/
theorem sameCore_added (idle : value.isNull = true ∨ name ∉ names) :
    SameCore (.record names inside) (.record members) (.record ((name, value) :: members)) := by
  apply sameCore_record
  intro known isKnown
  have nothing : (name == known && !value.isNull) = false := by
    rw [Bool.and_eq_false_iff, Bool.not_eq_false']
    rcases idle with isNull | unknown
    · exact Or.inr isNull
    · left
      apply beq_eq_false_iff_ne.mpr
      intro same
      subst same
      exact unknown isKnown
  rw [held_cons, nothing]
  exact .of_perm (.refl _)

theorem sameCore_member (same : SameCore (inside name) value other) :
    SameCore (.record names inside) (.record ((name, value) :: members))
      (.record ((name, other) :: members)) := by
  apply sameCore_record
  intro known _isKnown
  rw [held_cons, held_cons, same.null]
  split
  · rename_i counts
    obtain rfl : name = known := eq_of_beq (Bool.and_eq_true_iff.mp counts).1
    exact .cons same _
  · exact .of_perm (.refl _)

theorem sameCore_item (before after : List Value) (same : SameCore layout value other) :
    SameCore (.list layout) (.array (before ++ value :: after))
      (.array (before ++ other :: after)) := by
  refine ⟨rfl, ?_, ?_⟩
  · change (∀ item ∈ before ++ value :: after, layout.Single item) ↔
      ∀ item ∈ before ++ other :: after, layout.Single item
    simp only [List.forall_mem_append, List.forall_mem_cons, same.single]
  · intro single
    have own := same.core (single value (List.mem_append_right _ List.mem_cons_self))
    change Value.array _ = Value.array _
    rw [List.map_append, List.map_append, List.map_cons, List.map_cons, own]

/-- A rewriting leaves alone what counts. -/
theorem Rewritten.sameCore (rewritten : Rewritten layout value other) :
    SameCore layout value other := by
  induction rewritten with
  | refl => exact .refl
  | symm _rewritten ih => exact ih.symm
  | trans _first _second first second => exact first.trans second
  | reordered perm => exact sameCore_reordered perm
  | nulled name => exact sameCore_added (Or.inl rfl)
  | extended unknown value => exact sameCore_added (Or.inr unknown)
  | member _rewritten ih => exact sameCore_member ih
  | item before after _rewritten ih => exact sameCore_item before after ih

end Steps

section Tidy

variable {names : List String} {inside : String → Layout} {members : List (String × Value)}
  {name : String} {value : Value} {layout : Layout}

theorem Layout.tidy_record : (record names inside).Tidy (.record members) ↔
    (members.map Prod.fst).Nodup ∧
      ∀ entry ∈ members, entry.1 ∈ names → (inside entry.1).Tidy entry.2 := by
  have named : (members.map fun entry => (some entry.1, entry.2)).map Prod.fst =
      (members.map Prod.fst).map some := by
    rw [List.map_map, List.map_map]
    rfl
  unfold Value.record
  rw [Tidy, named, List.nodup_map_iff (Option.some_injective _)]
  apply and_congr_right
  intro _distinct
  constructor
  · intro tidy entry written known
    exact tidy entry.1 known entry.2 (List.mem_map.mpr ⟨entry, written, rfl⟩)
  · intro tidy name known value member
    obtain ⟨entry, written, same⟩ := List.mem_map.mp member
    cases same
    exact tidy entry written known

/-- If no name is repeated, no two members count under one. -/
theorem Layout.Tidy.single (tidy : layout.Tidy value) : layout.Single value := by
  induction layout generalizing value with
  | whole => trivial
  | list item ih =>
      cases value with
      | array items => exact fun value member => ih (tidy value member)
      | _ => trivial
  | record names inside ih =>
      cases value with
      | object written =>
          intro members named name known
          obtain rfl := namedMembers?_eq_some_iff.mp named
          obtain ⟨distinct, each⟩ := Layout.tidy_record.mp tidy
          constructor
          · rw [held_of_nodup distinct]
            exact Option.length_toList_le
          · intro value member
            exact ih name (each _ (mem_held.mp member).1 known)
      | _ => trivial

end Tidy

section Reading

variable {α : Type u} {names : List String} {inside : String → Layout} {layout : Layout}
  {members : List (String × Value)} {value : Value} {field : Option Value} {default : α}
  {read : Reader α}

theorem orNull_eq : orNull default read field =
    ((field.filter fun value => !value.isNull).map read).getD (some default) := by
  cases field with
  | none => rfl
  | some value => cases value <;> rfl

theorem optional_eq : optional read field =
    ((field.filter fun value => !value.isNull).map fun value => (read value).map some).getD
      (some none) := by
  cases field with
  | none => rfl
  | some value => cases value <;> rfl

theorem Layout.isNull_core (layout : Layout) (value : Value) :
    (layout.core value).isNull = value.isNull := by
  cases layout with
  | whole => rfl
  | list item => cases value <;> rfl
  | record names inside =>
      cases value with
      | object written =>
          rw [core]
          cases namedMembers? written <;> rfl
      | _ => rfl

theorem Layout.filter_trim (layout : Layout) (field : Option Value) :
    ((layout.trim field).filter fun value => !value.isNull) = layout.trim field := by
  unfold trim
  cases field with
  | none => rfl
  | some value =>
      rw [Option.filter_some]
      split
      · rename_i present
        rw [Option.map_some, Option.filter_some, isNull_core, if_pos present]
      · rfl

/-- A field for which null and absence mean the same is read from what counts of it. -/
theorem orNull_trim
    (heeds : ∀ value, field = some value → read (layout.core value) = read value) :
    orNull default read (layout.trim field) = orNull default read field := by
  rw [orNull_eq, orNull_eq, Layout.filter_trim]
  unfold Layout.trim
  cases field with
  | none => rfl
  | some value =>
      rw [Option.filter_some]
      split
      · exact heeds value rfl
      · rfl

theorem orNull_trim_whole : orNull default read (Layout.whole.trim field) =
    orNull default read field := orNull_trim fun _ _ => rfl

theorem optional_trim_whole : optional read (Layout.whole.trim field) = optional read field := by
  rw [optional_eq, optional_eq, Layout.filter_trim]
  unfold Layout.trim
  cases field with
  | none => rfl
  | some value =>
      rw [Option.filter_some]
      split <;> rfl

private theorem mapM_map_congr {β γ : Type u} {read : β → Option γ} {change : β → β}
    {items : List β} (same : ∀ item ∈ items, read (change item) = read item) :
    (items.map change).mapM read = items.mapM read := by
  induction items with
  | nil => rfl
  | cons item rest ih =>
      rw [List.forall_mem_cons] at same
      rw [List.map_cons, List.mapM_cons, List.mapM_cons, same.1, ih same.2]

theorem readList_core {β : Type} {read : Reader β} {item : Layout}
    (tidy : (Layout.list item).Tidy value)
    (heeds : ∀ value, item.Tidy value → read (item.core value) = read value) :
    readList read ((Layout.list item).core value) = readList read value := by
  cases value with
  | array items => exact mapM_map_congr fun value member => heeds value (tidy value member)
  | _ => rfl

theorem fields?_core (distinct : names.Nodup) (once : (members.map Prod.fst).Nodup) :
    fields? names ((Layout.record names inside).core (.record members)) =
      some (names.map fun name => (inside name).trim ((Value.record members).member? name)) := by
  let counting := names.map fun name => (name, (held name members).head?.map (inside name).core)
  have sameNames : counting.map Prod.fst = names := by
    rw [List.map_map]
    exact List.map_id names
  have written : fields? (counting.map Prod.fst) (presentMembers counting) = _ :=
    fields?_presentMembers (sameNames.symm ▸ distinct)
  rw [sameNames] at written
  rw [Layout.core_record]
  refine written.trans (congrArg some ?_)
  rw [List.map_map]
  apply List.map_congr_left
  intro name _known
  change (held name members).head?.map (inside name).core = _
  rw [held_of_nodup once, Value.member?_record]
  unfold Layout.trim
  cases (members.lookup name).filter fun value => !value.isNull <;> rfl

/-- A record is read from what counts of it if all its fields are. -/
theorem read_core {gather : List (Option Value) → Option α} (distinct : names.Nodup)
    (heeds : ∀ field : String → Option Value,
      (∀ name ∈ names, ∀ value, field name = some value → (inside name).Tidy value) →
        gather (names.map fun name => (inside name).trim (field name)) =
          gather (names.map field))
    (tidy : (Layout.record names inside).Tidy value) :
    (fields? names ((Layout.record names inside).core value)).bind gather =
      (fields? names value).bind gather := by
  cases value with
  | object written =>
      cases named : namedMembers? written with
      | none =>
          rw [Layout.core, named]
      | some members =>
          obtain rfl := namedMembers?_eq_some_iff.mp named
          change (fields? names ((Layout.record names inside).core (.record members))).bind gather =
            (fields? names (.record members)).bind gather
          obtain ⟨once, inner⟩ := Layout.tidy_record.mp tidy
          have table := fields?_of_isTable (Value.isTable_record once) names
          rw [fields?_core distinct once, table, Option.bind_some, Option.bind_some]
          apply heeds
          intro name known value found
          rw [Value.member?_record] at found
          exact inner _ ((Keyed.lookup_eq_some_iff once).mp found) known
  | _ => rfl

/-- A reader that reads a value from what counts of it does not notice a rewriting. -/
theorem Rewritten.read_eq {other : Value} (rewritten : Rewritten layout value other)
    (tidy : layout.Tidy value) (stillTidy : layout.Tidy other)
    (heeds : ∀ value, layout.Tidy value → read (layout.core value) = read value) :
    read other = read value := by
  have same := rewritten.sameCore.core tidy.single
  rw [← heeds other stillTidy, ← same, heeds value tidy]

end Reading

end ClusterDiscovery.Json
