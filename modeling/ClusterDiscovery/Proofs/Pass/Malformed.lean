/-
A page that is none, and a page that is taken for one.

A body of success that spells no page fails the listing wherever it stands, and aborts the
pass. But an object without items spells a page all the same, the one that has none: the
listing ends there, and the pass removes what it did not find.
-/

import ClusterDiscovery.Proofs.Json.Spelling
import ClusterDiscovery.Proofs.Pass.Abort

namespace ClusterDiscovery

variable {σ τ : Type} {handler : Handler σ} {state : σ}

namespace Inventory

private def Sound (events : List Event) : Prop :=
  ∀ event ∈ events, ∀ request reply failure,
    event = ⟨.send request, reply⟩ → Page.ofReply reply ≠ .error failure

theorem fetch_of_failed_page {request : ListingRequest} {number : Nat} {reply : Http.Reply}
    {failure : Failure}
    (member : ⟨.send (request.page number), reply⟩ ∈ (fetch request).trace handler state)
    (failed : Page.ofReply reply = .error failure) :
    ∃ final, (fetch request).execute handler state = (.ok (.error failure), final) := by
  have obeyed : (fetch request).Obeys (.history Sound) (fun events result =>
      ∀ event ∈ events, ∀ asked reply failure, event = ⟨.send asked, reply⟩ →
        Page.ofReply reply = .error failure → result = .error failure) [] := by
    refine fetch_stage Sound ?_ ?_ (fun _ _ _ => trivial) ?_ ?_ ?_ (fun _ sound => sound)
    · intro _empty event impossible
      cases impossible
    · intro _sized event impossible
      cases impossible
    · intro events number reply page sound read
      refine List.forall_mem_append.mpr ⟨sound, List.forall_mem_singleton.mpr ?_⟩
      intro asked _reply failure same
      cases same
      rw [read]
      exact nofun
    · intro events number reply failure sound failed
      refine List.forall_mem_append.mpr ⟨?_, List.forall_mem_singleton.mpr ?_⟩
      · intro event earlier asked reply other same unread
        exact absurd unread (sound event earlier asked reply other same)
      · intro asked _reply other same unread
        cases same
        rw [failed] at unread
        cases unread
        rfl
    · intro events subscriptions sound event earlier asked reply other same unread
      exact absurd unread (sound event earlier asked reply other same)
  rcases ended : (fetch request).execute handler state with ⟨outcome, final⟩
  cases outcome with
  | ok result =>
      obtain rfl := obeyed.of_trace ended _ member _ reply failure rfl failed
      exact ⟨final, rfl⟩
  | error reason =>
      exact absurd failed (obeyed.stops_of_trace ended _ member _ reply failure rfl)

/-- An object that names no field of a page ends the listing wherever it stands, and adds
nothing to it. -/
theorem endsListing_of_foreign {size status : Nat} {body : List UInt8}
    {members : List (String × Json.Value)} (sized : 0 < size)
    (success : Http.isSuccess status = true)
    (parsed : Json.parse? body = some (.record members))
    (foreign : ∀ name ∈ Page.fieldNames, ∀ entry ∈ members, entry.1 ≠ name) :
    EndsListing size (.received status body) ∧ itemsIn (.received status body) = [] := by
  have empty : Page.ofReply (.received status body) = .ok ⟨0, 0, 0, []⟩ :=
    Page.ofResponse_of_foreign success parsed foreign
  constructor
  · intro page read
    rw [empty] at read
    cases read
    exact sized
  · unfold itemsIn
    rw [empty]

end Inventory

open Inventory (Page)

namespace Pass

/-- A body of success that spells no page is malformed and kept as it came. A listing that
meets it is none, and a pass that meets it will come again and has touched nothing. -/
theorem malformed_page_aborts {held : σ → τ} (leaves : handler.Leaves held) (state : σ)
    {status : Nat} {body : List UInt8} (success : Http.isSuccess status = true)
    (unspelled : ∀ page, ¬ Page.SpelledBy body page) :
    Page.ofResponse status body =
        .error (.malformedResponse "inventory" "<json error>" (Text.Utf8.decodeLossy body)) ∧
    (∀ (request : Inventory.ListingRequest) (number : Nat),
      ⟨.send (request.page number), .received status body⟩ ∈
          (Inventory.fetch request).trace handler state →
        ∃ final, (Inventory.fetch request).execute handler state =
          (.ok (.error (.malformedResponse "inventory" "<json error>"
            (Text.Utf8.decodeLossy body))), final)) ∧
    (∀ (settings : Settings) (config : Config) (token : String) (search : Option String)
        (number : Nat),
      ⟨.send ((listingRequest settings config token search).page number),
          .received status body⟩ ∈ (reconcile settings config).trace handler state →
        ∃ final, (reconcile settings config).execute handler state =
            (.ok (.ok (.requeue settings.transientRetrySecs)), final) ∧
          Quiet ((reconcile settings config).trace handler state) ∧
          held final = held state) := by
  have failed := Page.ofResponse_of_not_spelled success unspelled
  refine ⟨failed, ?_, ?_⟩
  · intro request number member
    exact Inventory.fetch_of_failed_page member failed
  · intro settings config token search number member
    cases somewhere : config.metadata.space with
    | none =>
        have asksNothing := isInquiry_of_idle (Or.inr (Or.inr somewhere)) _ member
        cases asksNothing
    | some space =>
        have aborted : Aborted settings config ((reconcile settings config).trace handler state)
            (.ok (.requeue settings.transientRetrySecs)) :=
          .hindered somewhere member (.unfetched failed)
        obtain ⟨⟨final, ended⟩, quiet⟩ := reconcile_of_aborted aborted
        exact ⟨final, ended, quiet, leaves.execute quiet ended⟩

section Sample

private def maintenance : List UInt8 := Text.Utf8.encode "down for maintenance"

private def interrupted (number : Nat) : Http.Reply :=
  if number = 2 then .received 200 maintenance else Inventory.samplePage 1

/-- A full page is followed by a text: the pass will come again, and the record stays. -/
theorem malformed_page_aborts_sample :
    ∃ final, (reconcile pairwise Sample.config).execute
        (World.serving Sample.granted interrupted) (Sample.world [Sample.record "b"]) =
          (.ok (.ok (.requeue 300)), final) ∧
      final.store.records = [Sample.record "b"] := by
  have unspelled : ∀ page, ¬ Page.SpelledBy maintenance page := by
    rintro page ⟨value, parsed, _spelled⟩
    have noValue : (Json.parse? maintenance).isNone = true := by decide +kernel
    rw [parsed] at noValue
    cases noValue
  have met : ((reconcile pairwise Sample.config).trace
      (World.serving Sample.granted interrupted) (Sample.world [Sample.record "b"])).any
        (Event.isReply ((listingRequest pairwise Sample.config "t" none).page 2)
          (.received 200 maintenance)) = true := by
    decide +kernel
  obtain ⟨_failed, _listing, passes⟩ := malformed_page_aborts
    (World.serving_leaves Sample.granted interrupted) (Sample.world [Sample.record "b"])
    (rfl : Http.isSuccess 200 = true) unspelled
  obtain ⟨final, ended, _quiet, kept⟩ := passes _ _ _ _ _ (Event.mem_of_any_isReply met)
  exact ⟨final, ended, kept⟩

private def noticeMembers : List (String × Json.Value) :=
  [("message", .string "down for maintenance")]

private def noticeBody : List UInt8 := Text.Utf8.encode (Json.Value.record noticeMembers).toText

private theorem parse?_noticeBody : Json.parse? noticeBody = some (.record noticeMembers) := by
  apply Json.parse?_encode_toText
  apply Json.Value.isWritten_record
  intro member present
  rw [List.mem_singleton.mp present]
  exact .text _

/-- An object without items is taken for the end of an empty inventory, and the pass removes
the record of the namespace. -/
theorem notice_empties_namespace :
    (∃ value, Json.parse? noticeBody = some value ∧ Page.itemsField value = none) ∧
      Inventory.EndsListing Settings.standard.pageSize (.received 200 noticeBody) ∧
      Inventory.itemsIn (.received 200 noticeBody) = [] ∧
      Inventory.countIn? (.received 200 noticeBody) = some 0 ∧
      ∃ final, (reconcile .standard Sample.config).execute
          (World.answering Sample.granted (.received 200 noticeBody))
          (Sample.world [Sample.record "b"]) = (.ok (.ok (.requeue 1800)), final) ∧
        final.store.records = [] := by
  have foreign : ∀ name ∈ Page.fieldNames, ∀ entry ∈ noticeMembers, entry.1 ≠ name := by
    simp [Page.fieldNames, noticeMembers]
  obtain ⟨ends, empty⟩ := Inventory.endsListing_of_foreign
    (by decide : 0 < Settings.standard.pageSize) (rfl : Http.isSuccess 200 = true)
    parse?_noticeBody foreign
  refine ⟨⟨_, parse?_noticeBody, rfl⟩, ends, empty, by decide +kernel, _, Prod.ext ?_ rfl, ?_⟩
  · decide +kernel
  · refine List.isEmpty_iff.mp ?_
    decide +kernel

end Sample

end Pass

end ClusterDiscovery
