/-
Rewritten replies of the inventory.

A page, its subscriptions, their plan and reports, and a refusal are read by the members they know.
A reply that is rewritten otherwise means what it meant: it gives the same page or the same
failure. A page has one subscription for each of its items, in their order.
-/

import ClusterDiscovery.Proofs.Cluster.Codec
import ClusterDiscovery.Proofs.Inventory.Page
import ClusterDiscovery.Proofs.Json.Rewriting

namespace ClusterDiscovery

open Json

namespace ObjectReference

def layout : Layout := .record ["kind", "id", "href"] fun _ => .whole

theorem read_core {value : Value} (tidy : layout.Tidy value) :
    ObjectReference.read (layout.core value) = ObjectReference.read value := by
  apply Json.read_core (by decide) _ tidy
  intro field _tidy
  simp only [List.map_cons, List.map_nil, orNull_trim_whole]

end ObjectReference

namespace Telemetry

def layout : Layout := .record ["openshift_version"] fun _ => .whole

theorem read_core {value : Value} (tidy : layout.Tidy value) :
    Telemetry.read (layout.core value) = Telemetry.read value := by
  apply Json.read_core (by decide) _ tidy
  intro field _tidy
  simp only [List.map_cons, List.map_nil, orNull_trim_whole]

end Telemetry

namespace Subscription

def inside (name : String) : Layout :=
  if name = "plan" then ObjectReference.layout
  else if name = "metrics" then .list Telemetry.layout
  else .whole

def layout : Layout := .record fieldNames inside

theorem inside_of_ne {name : String} (noPlan : name ≠ "plan") (noMetrics : name ≠ "metrics") :
    inside name = .whole := by
  unfold inside
  rw [if_neg noPlan, if_neg noMetrics]

theorem read_core {value : Value} (tidy : layout.Tidy value) :
    Subscription.read (layout.core value) = Subscription.read value := by
  apply Json.read_core (by decide) _ tidy
  intro field inner
  have plan : orNull .empty ObjectReference.read ((inside "plan").trim (field "plan")) =
      orNull .empty ObjectReference.read (field "plan") := by
    apply orNull_trim
    intro value found
    exact ObjectReference.read_core (inner "plan" (by decide) value found)
  have telemetry : orNull [] (readList Telemetry.read)
      ((inside "metrics").trim (field "metrics")) =
        orNull [] (readList Telemetry.read) (field "metrics") := by
    apply orNull_trim
    intro value found
    exact readList_core (inner "metrics" (by decide) value found) fun _ => Telemetry.read_core
  simp (disch := decide) only [fieldNames, List.map_cons, List.map_nil, plan, telemetry,
    inside_of_ne, orNull_trim_whole, optional_trim_whole]

end Subscription

namespace Inventory

namespace Page

def inside (name : String) : Layout :=
  if name = "items" then .list Subscription.layout else .whole

def layout : Layout := .record fieldNames inside

theorem inside_of_ne {name : String} (noItems : name ≠ "items") : inside name = .whole :=
  if_neg noItems

theorem read_core {value : Value} (tidy : layout.Tidy value) :
    Page.read (layout.core value) = Page.read value := by
  apply Json.read_core (by decide) _ tidy
  intro field inner
  have items : orNull [] (readList Subscription.read) ((inside "items").trim (field "items")) =
      orNull [] (readList Subscription.read) (field "items") := by
    apply orNull_trim
    intro value found
    exact readList_core (inner "items" (by decide) value found) fun _ => Subscription.read_core
  simp (disch := decide) only [fieldNames, List.map_cons, List.map_nil, items, inside_of_ne,
    orNull_trim_whole]

end Page

namespace Refusal

def layout : Layout := .record ["code", "reason"] fun _ => .whole

theorem read_core {value : Value} (tidy : layout.Tidy value) :
    Refusal.read (layout.core value) = Refusal.read value := by
  apply Json.read_core (by decide) _ tidy
  intro field _tidy
  simp only [List.map_cons, List.map_nil, orNull_trim_whole]

end Refusal

def replyLayout (status : Nat) : Layout :=
  if Http.isSuccess status then Page.layout else Refusal.layout

def withoutRaw : Failure → Failure
  | .malformedResponse endpoint message _ => .malformedResponse endpoint message ""
  | failure => failure

section Replies

variable {status : Nat} {body other : List UInt8} {value rewritten : Value}

theorem withoutRaw_refused
    (same : (parse? other).bind Refusal.read = (parse? body).bind Refusal.read) :
    withoutRaw (refused status other) = withoutRaw (refused status body) := by
  unfold refused
  rw [same]
  cases (parse? body).bind Refusal.read with
  | none => rfl
  | some refusal =>
      simp only
      split <;> rfl

theorem Page.ofResponse_of_rewritten (parsed : parse? body = some value)
    (alsoParsed : parse? other = some rewritten)
    (rewriting : Rewritten (replyLayout status) value rewritten)
    (tidy : (replyLayout status).Tidy value) (stillTidy : (replyLayout status).Tidy rewritten) :
    (Page.ofResponse status other).mapError withoutRaw =
      (Page.ofResponse status body).mapError withoutRaw := by
  unfold replyLayout at rewriting tidy stillTidy
  unfold Page.ofResponse
  cases success : Http.isSuccess status with
  | true =>
      rw [success, if_pos rfl] at rewriting tidy stillTidy
      have same := rewriting.read_eq tidy stillTidy fun _ => Page.read_core
      rw [if_pos rfl, if_pos rfl, parsed, alsoParsed, Option.bind_some, Option.bind_some, same]
      cases Page.read value <;> rfl
  | false =>
      rw [success, if_neg Bool.false_ne_true] at rewriting tidy stillTidy
      have same := rewriting.read_eq tidy stillTidy fun _ => Refusal.read_core
      rw [if_neg Bool.false_ne_true, if_neg Bool.false_ne_true]
      apply congrArg Except.error
      apply withoutRaw_refused
      rw [parsed, alsoParsed]
      exact same

theorem Page.lists_of_ofResponse {page : Page} (parsed : parse? body = some value)
    (read : Page.ofResponse status body = .ok page) : Lists (Page.itemsField value) page.items := by
  have success : Http.isSuccess status = true := by
    by_contra unsuccessful
    unfold Page.ofResponse at read
    rw [if_neg unsuccessful] at read
    cases read
  obtain ⟨other, same, spelled⟩ := (Page.ofResponse_eq_ok_iff success).mp read
  rw [parsed] at same
  cases same
  exact Page.lists_of_spelled spelled

/-- A reply whose body is rewritten gives the same page, or the same failure but for the body that
it keeps. A page that is read from a body with items has a subscription for each of them, in their
order, and one item that is none spoils the page. -/
theorem rewritten_reply_means_the_same (parsed : parse? body = some value) :
    (∀ other rewritten, parse? other = some rewritten →
      Rewritten (replyLayout status) value rewritten →
      (replyLayout status).Tidy value → (replyLayout status).Tidy rewritten →
        (Page.ofResponse status other).mapError withoutRaw =
          (Page.ofResponse status body).mapError withoutRaw) ∧
    ∀ items, Page.itemsField value = some (.array items) →
      (∀ page, Page.ofResponse status body = .ok page →
        List.Forall₂ (fun item subscription => Subscription.read item = some subscription)
          items page.items) ∧
      (Http.isSuccess status = true → ∀ item ∈ items, Subscription.read item = none →
        Page.ofResponse status body =
          .error (.malformedResponse "inventory" "<json error>" (Text.Utf8.decodeLossy body))) := by
  refine ⟨?_, ?_⟩
  · intro other rewritten alsoParsed rewriting tidy stillTidy
    exact Page.ofResponse_of_rewritten parsed alsoParsed rewriting tidy stillTidy
  · intro items listed
    constructor
    · intro page read
      have lists := Page.lists_of_ofResponse parsed read
      rw [listed] at lists
      cases lists with
      | items each => exact each
    · intro success item member spoiled
      exact Page.ofResponse_of_not_spelled success fun page =>
        Page.not_spelledBy_of_spoiled parsed listed member spoiled

end Replies

end Inventory

namespace Sample

def bareItem : Value := .record [("external_cluster_id", .string "b")]

def fullItem : Value := .record [("plan", .null), ("external_cluster_id", .string "b")]

def tersePage : Value := .record [("page", .nat 1), ("items", .array [bareItem])]

def wordyPage : Value :=
  .record [("kind", .string "SubscriptionList"), ("items", .array [fullItem]), ("page", .nat 1)]

theorem rewritten_wordyPage : Rewritten Inventory.Page.layout tersePage wordyPage := by
  have swapped : Rewritten Inventory.Page.layout tersePage
      (.record [("items", .array [bareItem]), ("page", .nat 1)]) := .reordered (.swap _ _ _)
  have item : Rewritten (.list Subscription.layout) (.array [bareItem]) (.array [fullItem]) :=
    .item [] [] (.nulled "plan")
  have filled : Rewritten Inventory.Page.layout
      (.record [("items", .array [bareItem]), ("page", .nat 1)])
      (.record [("items", .array [fullItem]), ("page", .nat 1)]) := .member item
  exact (swapped.trans filled).trans (.extended (by decide) _)

theorem isWritten_tersePage : tersePage.IsWritten := by
  have item : bareItem.IsWritten := by
    apply Value.isWritten_record
    simp [Value.isWritten_string]
  have items : (Value.array [bareItem]).IsWritten := .array (by simpa using item)
  have number : (Value.nat 1).IsWritten := .number trivial
  apply Value.isWritten_record
  simp [items, number]

theorem isWritten_wordyPage : wordyPage.IsWritten := by
  have item : fullItem.IsWritten := by
    apply Value.isWritten_record
    simp [Value.isWritten_string, Value.IsWritten.null]
  have items : (Value.array [fullItem]).IsWritten := .array (by simpa using item)
  have number : (Value.nat 1).IsWritten := .number trivial
  apply Value.isWritten_record
  simp [items, number, Value.isWritten_string]

theorem tidy_tersePage : Inventory.Page.layout.Tidy tersePage := by
  have item : Subscription.layout.Tidy bareItem := by
    apply Layout.tidy_record.mpr
    exact ⟨by decide, List.forall_mem_singleton.mpr fun _ => trivial⟩
  apply Layout.tidy_record.mpr
  refine ⟨by decide, List.forall_mem_cons.mpr ⟨fun _ => trivial, ?_⟩⟩
  exact List.forall_mem_singleton.mpr fun _ => List.forall_mem_singleton.mpr item

theorem tidy_wordyPage : Inventory.Page.layout.Tidy wordyPage := by
  have item : Subscription.layout.Tidy fullItem := by
    apply Layout.tidy_record.mpr
    refine ⟨by decide, List.forall_mem_cons.mpr ⟨fun _ => trivial, ?_⟩⟩
    exact List.forall_mem_singleton.mpr fun _ => trivial
  apply Layout.tidy_record.mpr
  refine ⟨by decide, List.forall_mem_cons.mpr ⟨fun _ => trivial, ?_⟩⟩
  refine List.forall_mem_cons.mpr ⟨fun _ => List.forall_mem_singleton.mpr item, ?_⟩
  exact List.forall_mem_singleton.mpr fun _ => trivial

end Sample

namespace Inventory

/-- The page is read from the wordy body as it is read from the terse one. -/
theorem rewritten_reply_means_the_same_sample :
    (Page.ofResponse 200 (Text.Utf8.encode Sample.wordyPage.toText)).mapError withoutRaw =
      (Page.ofResponse 200 (Text.Utf8.encode Sample.tersePage.toText)).mapError withoutRaw := by
  have parsed := parse?_encode_toText Sample.isWritten_tersePage
  have means := @rewritten_reply_means_the_same 200 _ _ parsed
  exact means.1 _ _ (parse?_encode_toText Sample.isWritten_wordyPage)
    Sample.rewritten_wordyPage Sample.tidy_tersePage Sample.tidy_wordyPage

end Inventory

end ClusterDiscovery
