/-
Maps keyed by texts, in ascending order of the keys.

A map is a list of entries whose keys strictly ascend, so two maps with the same
answers are equal. The order of texts is the order of their code points, which is also
the order of their UTF-8 bytes. Inserting a key again replaces its value: a map built
from a list holds the last value of each key.
-/

namespace ClusterDiscovery

universe u v

def insertEntry {α : Type u} (key : String) (value : α) :
    List (String × α) → List (String × α)
  | [] => [(key, value)]
  | entry :: rest =>
      if key < entry.1 then (key, value) :: entry :: rest
      else if key = entry.1 then (key, value) :: rest
      else entry :: insertEntry key value rest

def Ascending {α : Type u} (entries : List (String × α)) : Prop :=
  entries.Pairwise fun a b => a.1 < b.1

theorem mem_insertEntry {α : Type u} {key : String} {value : α} {entry : String × α}
    {entries : List (String × α)} (h : entry ∈ insertEntry key value entries) :
    entry = (key, value) ∨ entry ∈ entries := by
  induction entries with
  | nil => simpa [insertEntry] using h
  | cons head rest ih =>
      simp only [insertEntry] at h
      split at h
      · simpa using h
      · split at h
        · rcases List.mem_cons.1 h with h | h
          · exact Or.inl h
          · exact Or.inr (List.mem_cons_of_mem _ h)
        · rcases List.mem_cons.1 h with h | h
          · exact Or.inr (h ▸ List.mem_cons_self)
          · exact (ih h).imp_right (List.mem_cons_of_mem _)

theorem ascending_insertEntry {α : Type u} {key : String} {value : α}
    {entries : List (String × α)} (h : Ascending entries) :
    Ascending (insertEntry key value entries) := by
  induction entries with
  | nil => simp [insertEntry, Ascending]
  | cons head rest ih =>
      have hRest : Ascending rest := List.Pairwise.of_cons h
      have hHead : ∀ entry ∈ rest, head.1 < entry.1 := (List.pairwise_cons.1 h).1
      simp only [insertEntry]
      split
      · rename_i hLess
        refine List.pairwise_cons.2 ⟨fun entry hMem => ?_, h⟩
        rcases List.mem_cons.1 hMem with rfl | hMem
        · exact hLess
        · exact String.lt_trans hLess (hHead entry hMem)
      · split
        · rename_i hEqual
          exact List.pairwise_cons.2 ⟨fun entry hMem => hEqual ▸ hHead entry hMem, hRest⟩
        · rename_i hNotLess hNotEqual
          refine List.pairwise_cons.2 ⟨fun entry hMem => ?_, ih hRest⟩
          rcases mem_insertEntry hMem with rfl | hMem
          · refine Decidable.byContradiction fun hNotGreater => hNotEqual ?_
            exact String.le_antisymm (String.not_lt.1 hNotGreater) (String.not_lt.1 hNotLess)
          · exact hHead entry hMem

/-- A finite map from texts, listed in ascending order of its keys. -/
structure Keyed (α : Type u) where
  entries : List (String × α)
  ascending : Ascending entries := by exact List.Pairwise.nil

namespace Keyed

variable {α : Type u} {β : Type v}

instance : Inhabited (Keyed α) := ⟨⟨[], List.Pairwise.nil⟩⟩

instance [DecidableEq α] : DecidableEq (Keyed α) := fun a b =>
  if h : a.entries = b.entries then
    isTrue (by cases a; cases b; cases h; rfl)
  else isFalse fun hEqual => h (hEqual ▸ rfl)

def empty : Keyed α := ⟨[], List.Pairwise.nil⟩

def get? (map : Keyed α) (key : String) : Option α := map.entries.lookup key

def insert (map : Keyed α) (key : String) (value : α) : Keyed α :=
  ⟨insertEntry key value map.entries, ascending_insertEntry map.ascending⟩

def erase (map : Keyed α) (key : String) : Keyed α :=
  ⟨map.entries.filter fun entry => entry.1 != key, map.ascending.filter _⟩

/-- Later entries replace earlier ones with the same key. -/
def insertAll (map : Keyed α) (entries : List (String × α)) : Keyed α :=
  entries.foldl (fun map entry => map.insert entry.1 entry.2) map

def ofList (entries : List (String × α)) : Keyed α := insertAll empty entries

def keys (map : Keyed α) : List String := map.entries.map Prod.fst

def values (map : Keyed α) : List α := map.entries.map Prod.snd

def size (map : Keyed α) : Nat := map.entries.length

def map (f : α → β) (table : Keyed α) : Keyed β :=
  ⟨table.entries.map fun entry => (entry.1, f entry.2), by
    exact List.pairwise_map.2 table.ascending⟩

theorem get?_empty (key : String) : (empty : Keyed α).get? key = none := rfl

private theorem lookup_insertEntry_self (key : String) (value : α)
    (entries : List (String × α)) :
    (insertEntry key value entries).lookup key = some value := by
  induction entries with
  | nil => simp [insertEntry]
  | cons head rest ih =>
      simp only [insertEntry]
      split
      · simp
      · split
        · simp
        · rename_i hNotEqual
          rw [List.lookup_cons, beq_eq_false_iff_ne.2 hNotEqual]
          exact ih

private theorem lookup_insertEntry_of_ne {key other : String} (h : other ≠ key) (value : α)
    (entries : List (String × α)) :
    (insertEntry key value entries).lookup other = entries.lookup other := by
  have hFalse : (other == key) = false := beq_eq_false_iff_ne.2 h
  induction entries with
  | nil => simp [insertEntry, List.lookup_cons, hFalse]
  | cons head rest ih =>
      simp only [insertEntry]
      split
      · simp [List.lookup_cons, hFalse]
      · split
        · rename_i hEqual
          rw [List.lookup_cons, List.lookup_cons, hFalse, ← hEqual, hFalse]
        · rw [List.lookup_cons, List.lookup_cons, ih]

theorem get?_insert_self (table : Keyed α) (key : String) (value : α) :
    (table.insert key value).get? key = some value :=
  lookup_insertEntry_self key value table.entries

theorem get?_insert_of_ne (table : Keyed α) {key other : String} (h : other ≠ key)
    (value : α) : (table.insert key value).get? other = table.get? other :=
  lookup_insertEntry_of_ne h value table.entries

end Keyed

end ClusterDiscovery
