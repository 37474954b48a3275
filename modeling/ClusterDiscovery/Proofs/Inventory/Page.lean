/-
What is taken for a page of the inventory.

A reply of success is a page exactly when its body spells one: an object, or an array of
fields, whose counters are numbers and whose items are subscriptions. A field may also be
left out or null, and then a page has no items, so a body that says nothing of items spells
a page too. Every other body is malformed, and kept as it came. One item that is no
subscription spoils a page.
-/

import ClusterDiscovery.Inventory.Page
import ClusterDiscovery.Proofs.Json.Record

namespace ClusterDiscovery.Inventory

open Json

inductive Counts : Option Value → Nat → Prop where
  | absent : Counts none 0
  | null : Counts (some .null) 0
  | number {count : Nat} (fits : count < 2 ^ 64) : Counts (some (.nat count)) count

inductive Lists : Option Value → List Subscription → Prop where
  | absent : Lists none []
  | null : Lists (some .null) []
  | items {values : List Value} {subscriptions : List Subscription}
      (read : List.Forall₂ (fun value subscription => Subscription.read value = some subscription)
        values subscriptions) :
      Lists (some (.array values)) subscriptions

theorem counts_iff {field : Option Value} {count : Nat} :
    orNull 0 (readNatural 64) field = some count ↔ Counts field count := by
  rw [orNull_eq_some_iff]
  constructor
  · rintro (⟨rfl | rfl, rfl⟩ | ⟨value, rfl, _present, read⟩)
    · exact .absent
    · exact .null
    · obtain ⟨rfl, fits⟩ := readNatural_eq_some_iff.mp read
      exact .number fits
  · intro counts
    cases counts with
    | absent => exact Or.inl ⟨Or.inl rfl, rfl⟩
    | null => exact Or.inl ⟨Or.inr rfl, rfl⟩
    | number fits =>
        exact Or.inr ⟨_, rfl, nofun, readNatural_eq_some_iff.mpr ⟨rfl, fits⟩⟩

theorem lists_iff {field : Option Value} {subscriptions : List Subscription} :
    orNull [] (readList Subscription.read) field = some subscriptions ↔
      Lists field subscriptions := by
  rw [orNull_eq_some_iff]
  constructor
  · rintro (⟨rfl | rfl, rfl⟩ | ⟨value, rfl, _present, read⟩)
    · exact .absent
    · exact .null
    · obtain ⟨values, rfl, each⟩ := readList_eq_some_iff.mp read
      exact .items each
  · intro lists
    cases lists with
    | absent => exact Or.inl ⟨Or.inl rfl, rfl⟩
    | null => exact Or.inl ⟨Or.inr rfl, rfl⟩
    | items each => exact Or.inr ⟨_, rfl, nofun, readList_eq_some_iff.mpr ⟨_, rfl, each⟩⟩

namespace Page

variable {value : Value} {page : Page}

def fieldNames : List String := ["page", "size", "total", "items"]

structure Gathered (number size total items : Option Value) (page : Page) : Prop where
  number : Counts number page.page
  size : Counts size page.size
  total : Counts total page.total
  items : Lists items page.items

inductive Spelled : Value → Page → Prop where
  | object {members : List (String × Value)} {page : Page}
      (once : ∀ name ∈ fieldNames, occursOnce members name = true)
      (gathered : Gathered (members.lookup "page") (members.lookup "size")
        (members.lookup "total") (members.lookup "items") page) :
      Spelled (.record members) page
  | array {fields : List Value} {page : Page} (few : fields.length ≤ 4)
      (gathered : Gathered fields[0]? fields[1]? fields[2]? fields[3]? page) :
      Spelled (.array fields) page

private theorem gathered_iff {number size total items : Option Value} :
    (do
      let natural := orNull 0 (readNatural 64)
      some {
        page := ← natural number
        size := ← natural size
        total := ← natural total
        items := ← orNull [] (readList Subscription.read) items }) = some page ↔
      Gathered number size total items page := by
  simp only [Option.bind_eq_bind, Option.bind_eq_some_iff, counts_iff, lists_iff,
    Option.some.injEq]
  constructor
  · rintro ⟨count, ofNumber, length, ofSize, sum, ofTotal, listed, ofItems, rfl⟩
    exact ⟨ofNumber, ofSize, ofTotal, ofItems⟩
  · intro gathered
    exact ⟨_, gathered.number, _, gathered.size, _, gathered.total, _, gathered.items, rfl⟩

theorem read_eq_some_iff : Page.read value = some page ↔ Spelled value page := by
  constructor
  · intro read
    obtain ⟨found, fields, rest⟩ := Option.bind_eq_some_iff.mp read
    rcases fields?_eq_some_iff.mp fields with ⟨members, rfl, once, rfl⟩ | ⟨items, rfl, few, rfl⟩
    · exact .object once (gathered_iff.mp rest)
    · exact .array few (gathered_iff.mp rest)
  · intro spelled
    cases spelled with
    | object once gathered =>
        exact Option.bind_eq_some_iff.mpr ⟨_, fields?_eq_some_iff.mpr
          (Or.inl ⟨_, rfl, once, rfl⟩), gathered_iff.mpr gathered⟩
    | array few gathered =>
        exact Option.bind_eq_some_iff.mpr ⟨_, fields?_eq_some_iff.mpr
          (Or.inr ⟨_, rfl, few, rfl⟩), gathered_iff.mpr gathered⟩

def SpelledBy (body : List UInt8) (page : Page) : Prop :=
  ∃ value, parse? body = some value ∧ Spelled value page

theorem bind_read_eq_some_iff {body : List UInt8} :
    (parse? body).bind Page.read = some page ↔ SpelledBy body page := by
  simp only [Option.bind_eq_some_iff, read_eq_some_iff, SpelledBy]

section Responses

variable {status : Nat} {body : List UInt8}

theorem ofResponse_eq_ok_iff (success : Http.isSuccess status = true) :
    ofResponse status body = .ok page ↔ SpelledBy body page := by
  rw [← bind_read_eq_some_iff]
  unfold ofResponse
  rw [if_pos success]
  cases (parse? body).bind Page.read with
  | none => simp
  | some found => simp

theorem ofResponse_of_not_spelled (success : Http.isSuccess status = true)
    (unspelled : ∀ page, ¬ SpelledBy body page) :
    ofResponse status body =
      .error (.malformedResponse "inventory" "<json error>" (Text.Utf8.decodeLossy body)) := by
  have unread : (parse? body).bind Page.read = none := by
    cases read : (parse? body).bind Page.read with
    | none => rfl
    | some page => exact absurd (bind_read_eq_some_iff.mp read) (unspelled page)
  unfold ofResponse
  rw [if_pos success, unread]
  rfl

theorem ofReply_eq_ok_iff {reply : Http.Reply} :
    ofReply reply = .ok page ↔
      ∃ status body, reply = .received status body ∧ Http.isSuccess status = true ∧
        SpelledBy body page := by
  constructor
  · intro read
    cases reply with
    | unreachable => cases read
    | unread status => cases read
    | received status body =>
        cases success : Http.isSuccess status with
        | false =>
            change ofResponse status body = _ at read
            unfold ofResponse at read
            rw [success] at read
            cases read
        | true => exact ⟨status, body, rfl, success, (ofResponse_eq_ok_iff success).mp read⟩
  · rintro ⟨status, body, rfl, success, spelled⟩
    exact (ofResponse_eq_ok_iff success).mpr spelled

theorem isTransient_of_ofReply {reply : Http.Reply} {failure : Failure}
    (failed : ofReply reply = .error failure) : failure.isTransient = true := by
  cases reply with
  | unreachable => rw [← Except.error.inj failed]; rfl
  | unread status => rw [← Except.error.inj failed]; rfl
  | received status body =>
      change ofResponse status body = _ at failed
      unfold ofResponse at failed
      split at failed
      · split at failed
        · rw [← Except.error.inj failed]
          rfl
        · cases failed
      · rw [← Except.error.inj failed]
        unfold refused malformed
        split
        · rfl
        · split
          · rfl
          · split <;> rfl

end Responses

def itemsField : Value → Option Value
  | .array fields => fields[3]?
  | value => value.member? "items"

theorem lists_of_spelled (spelled : Spelled value page) :
    Lists (itemsField value) page.items := by
  cases spelled with
  | object once gathered =>
      have field := gathered.items
      rw [← Value.member?_record] at field
      exact field
  | array few gathered => exact gathered.items

theorem not_spelledBy_of_spoiled {body : List UInt8} {items : List Value} {item : Value}
    (parsed : parse? body = some value) (listed : itemsField value = some (.array items))
    (member : item ∈ items) (spoiled : Subscription.read item = none) :
    ¬ SpelledBy body page := by
  rintro ⟨other, sameBody, spelled⟩
  rw [parsed] at sameBody
  cases sameBody
  have lists := lists_of_spelled spelled
  rw [listed] at lists
  cases lists with
  | items each =>
      obtain ⟨place, inside, rfl⟩ := List.getElem_of_mem member
      have read := each.get inside (each.length_eq ▸ inside)
      simp only [List.get_eq_getElem] at read
      rw [spoiled] at read
      cases read

/-- An object that names no field of a page spells the page without items. -/
theorem spelled_of_foreign {members : List (String × Value)}
    (foreign : ∀ name ∈ fieldNames, ∀ entry ∈ members, entry.1 ≠ name) :
    Spelled (.record members) ⟨0, 0, 0, []⟩ := by
  have absent (name : String) (known : name ∈ fieldNames) : members.lookup name = none := by
    rw [List.lookup_eq_none_iff]
    intro entry member
    exact bne_iff_ne.mpr (foreign name known entry member).symm
  refine .object ?_ ?_
  · intro name known
    have never : (members.filter fun entry => entry.1 == name) = [] := by
      rw [List.filter_eq_nil_iff]
      intro entry member same
      exact foreign name known entry member (eq_of_beq same)
    simp [occursOnce, never]
  · rw [absent "page" (by decide), absent "size" (by decide), absent "total" (by decide),
      absent "items" (by decide)]
    exact ⟨.absent, .absent, .absent, .absent⟩

theorem ofResponse_of_foreign {status : Nat} {body : List UInt8}
    {members : List (String × Value)} (success : Http.isSuccess status = true)
    (parsed : parse? body = some (.record members))
    (foreign : ∀ name ∈ fieldNames, ∀ entry ∈ members, entry.1 ≠ name) :
    ofResponse status body = .ok ⟨0, 0, 0, []⟩ :=
  (ofResponse_eq_ok_iff success).mpr ⟨_, parsed, spelled_of_foreign foreign⟩

end Page

end ClusterDiscovery.Inventory
