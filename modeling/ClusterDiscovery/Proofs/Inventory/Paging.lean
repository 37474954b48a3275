/-
The whole inventory or nothing.

Pages are asked for one after the other until one ends the listing: it fails, or it has
fewer items than were asked for. What the server says of its pages besides their items has
no part in it. A failed page fails the listing; else the listing is what the pages hold, in
their order, and a server that slices a list by number and size is read to the end of it.
-/

import ClusterDiscovery.Http.Remote
import ClusterDiscovery.Inventory.Listing
import ClusterDiscovery.Proofs.Inventory.Page
import ClusterDiscovery.Proofs.Program.Execution
import ClusterDiscovery.Proofs.World.Keeper

namespace ClusterDiscovery.Inventory

variable {σ : Type}

/-- A reply ends the listing: it is no page, or the page is short. -/
def EndsListing (size : Nat) (reply : Http.Reply) : Prop :=
  ∀ page, Page.ofReply reply = .ok page → page.items.length < size

instance (size : Nat) (reply : Http.Reply) : Decidable (EndsListing size reply) :=
  match read : Page.ofReply reply with
  | .ok page => decidable_of_iff (page.items.length < size) <| by
      simp [EndsListing, read]
  | .error _ => isTrue <| by
      simp [EndsListing, read]

def itemsIn (reply : Http.Reply) : List Subscription :=
  match Page.ofReply reply with
  | .ok page => page.items
  | .error _ => []

section Asking

variable (handler : Handler σ) (request : ListingRequest) (state : σ)

/-- The state after so many pages have been asked for. -/
def stateAfter : Nat → σ
  | 0 => state
  | count + 1 => (handler (.send (request.page (count + 1))) (stateAfter count)).2

/-- The reply to the request for a page, after all pages before it have been asked for. -/
def replyTo (number : Nat) : Http.Reply :=
  (handler (.send (request.page number)) (stateAfter handler request state (number - 1))).1

def asked (number : Nat) : Event :=
  ⟨.send (request.page number), replyTo handler request state number⟩

end Asking

variable {handler : Handler σ} {request : ListingRequest} {state : σ}

section Step

variable {number : Nat} (limit : Nat) {page : Page}

private theorem execute_send :
    (Routine.perform (.send (request.page number))).execute handler state =
      (.ok (.ok (handler (.send (request.page number)) state).1),
        (handler (.send (request.page number)) state).2) :=
  Routine.execute_perform _

theorem fetchFrom_of_failed {failure : Failure}
    (failed : Page.ofReply (handler (.send (request.page number)) state).1 = .error failure) :
    (fetchFrom request (limit + 1) number).execute handler state =
        (.ok (.error failure), (handler (.send (request.page number)) state).2) ∧
      (fetchFrom request (limit + 1) number).trace handler state =
        [⟨.send (request.page number), (handler (.send (request.page number)) state).1⟩] := by
  unfold fetchFrom
  rw [Routine.execute_bind_of_ok execute_send, Routine.trace_bind_of_ok execute_send, failed]
  exact ⟨rfl, rfl⟩

theorem fetchFrom_of_short
    (read : Page.ofReply (handler (.send (request.page number)) state).1 = .ok page)
    (short : page.items.length < request.pageSize) :
    (fetchFrom request (limit + 1) number).execute handler state =
        (.ok (.ok page.items), (handler (.send (request.page number)) state).2) ∧
      (fetchFrom request (limit + 1) number).trace handler state =
        [⟨.send (request.page number), (handler (.send (request.page number)) state).1⟩] := by
  unfold fetchFrom
  rw [Routine.execute_bind_of_ok execute_send, Routine.trace_bind_of_ok execute_send, read,
    Routine.execute_bind_of_ok (Routine.execute_ofExcept _),
    Routine.trace_bind_of_ok (Routine.execute_ofExcept _), if_pos short]
  exact ⟨rfl, rfl⟩

theorem fetchFrom_of_full
    (read : Page.ofReply (handler (.send (request.page number)) state).1 = .ok page)
    (full : ¬ page.items.length < request.pageSize) :
    (fetchFrom request (limit + 1) number).execute handler state =
        (fetchFrom request limit (number + 1) >>= fun rest =>
          pure (page.items ++ rest)).execute handler
            (handler (.send (request.page number)) state).2 ∧
      (fetchFrom request (limit + 1) number).trace handler state =
        ⟨.send (request.page number), (handler (.send (request.page number)) state).1⟩ ::
          (fetchFrom request limit (number + 1)).trace handler
            (handler (.send (request.page number)) state).2 := by
  rw [fetchFrom]
  rw [Routine.execute_bind_of_ok execute_send, Routine.trace_bind_of_ok execute_send, read,
    Routine.execute_bind_of_ok (Routine.execute_ofExcept _),
    Routine.trace_bind_of_ok (Routine.execute_ofExcept _), if_neg full, Routine.trace_bind]
  refine ⟨rfl, ?_⟩
  split <;> simp

end Step

theorem full_of_not_endsListing {size : Nat} {reply : Http.Reply}
    (goesOn : ¬ EndsListing size reply) :
    ∃ page, Page.ofReply reply = .ok page ∧ ¬ page.items.length < size := by
  unfold EndsListing at goesOn
  push Not at goesOn
  obtain ⟨page, read, full⟩ := goesOn
  exact ⟨page, read, by omega⟩

/-- From any page on, the listing goes on to the first page that ends it. -/
theorem fetchFrom_ends (distance spare count : Nat)
    (full : ∀ number, count < number → number ≤ count + distance →
      ¬ EndsListing request.pageSize (replyTo handler request state number))
    (ends : EndsListing request.pageSize
      (replyTo handler request state (count + distance + 1))) :
    (fetchFrom request (spare + distance + 1) (count + 1)).execute handler
        (stateAfter handler request state count) =
      (.ok ((Page.ofReply (replyTo handler request state (count + distance + 1))).map fun _ =>
          (List.range' (count + 1) (distance + 1)).flatMap fun number =>
            itemsIn (replyTo handler request state number)),
        stateAfter handler request state (count + distance + 1)) ∧
    (fetchFrom request (spare + distance + 1) (count + 1)).trace handler
        (stateAfter handler request state count) =
      (List.range' (count + 1) (distance + 1)).map (asked handler request state) := by
  induction distance generalizing count with
  | zero =>
      rw [Nat.add_zero] at ends ⊢
      cases read : Page.ofReply (replyTo handler request state (count + 1)) with
      | error failure => exact fetchFrom_of_failed spare read
      | ok page =>
          have fetched := fetchFrom_of_short spare read (ends page read)
          have here : (List.range' (count + 1) (0 + 1)).flatMap
              (fun number => itemsIn (replyTo handler request state number)) = page.items := by
            simp [itemsIn, read]
          rw [here]
          exact fetched
  | succ distance ih =>
      obtain ⟨page, read, long⟩ := full_of_not_endsListing (full (count + 1) (by omega) (by omega))
      have place : count + 1 + distance + 1 = count + (distance + 1) + 1 := by omega
      have later : EndsListing request.pageSize
          (replyTo handler request state (count + 1 + distance + 1)) := by
        rw [place]
        exact ends
      obtain ⟨ended, seen⟩ :=
        ih (count + 1) (fun number after before => full number (by omega) (by omega)) later
      rw [place] at ended
      have fetched := fetchFrom_of_full (spare + distance + 1) read long
      have here : itemsIn (replyTo handler request state (count + 1)) = page.items := by
        simp [itemsIn, read]
      rw [List.range'_succ, List.flatMap_cons, here]
      constructor
      · refine fetched.1.trans ?_
        cases last : Page.ofReply (replyTo handler request state (count + (distance + 1) + 1)) with
        | error failure =>
            rw [last] at ended
            exact Routine.execute_bind_of_error ended
        | ok final =>
            rw [last] at ended
            exact Routine.execute_bind_of_ok ended
      · refine fetched.2.trans ?_
        exact congrArg (asked handler request state (count + 1) :: ·) seen

/-- If no page ends the listing, the count of pages runs out. -/
theorem fetchFrom_runs_out (limit count : Nat)
    (full : ∀ number, count < number → number ≤ count + limit →
      ¬ EndsListing request.pageSize (replyTo handler request state number)) :
    (fetchFrom request limit (count + 1)).execute handler
        (stateAfter handler request state count) =
      (.error .pageLimit, stateAfter handler request state (count + limit)) ∧
    (fetchFrom request limit (count + 1)).trace handler
        (stateAfter handler request state count) =
      (List.range' (count + 1) limit).map (asked handler request state) := by
  induction limit generalizing count with
  | zero => exact ⟨rfl, rfl⟩
  | succ limit ih =>
      obtain ⟨page, read, long⟩ := full_of_not_endsListing (full (count + 1) (by omega) (by omega))
      have fetched := fetchFrom_of_full limit read long
      obtain ⟨ended, seen⟩ := ih (count + 1) fun number after before =>
        full number (by omega) (by omega)
      have place : count + 1 + limit = count + (limit + 1) := by omega
      rw [place] at ended
      constructor
      · refine fetched.1.trans ?_
        change (fetchFrom request limit (count + 1 + 1) >>= _).execute handler
          (stateAfter handler request state (count + 1)) = _
        rw [Routine.execute_bind, ended]
      · refine fetched.2.trans ?_
        rw [List.range'_succ, List.map_cons]
        exact congrArg (asked handler request state (count + 1) :: ·) seen

theorem flatMap_slice {α : Type} (items : List α) (size count : Nat) :
    (List.range' 1 count).flatMap (fun number => Http.slice items number size) =
      items.take (count * size) := by
  induction count with
  | zero => simp
  | succ count ih =>
      have place : 1 + count - 1 = count := by omega
      rw [List.range'_1_concat, List.flatMap_append, ih, List.flatMap_singleton, Nat.succ_mul,
        List.take_add]
      unfold Http.slice
      rw [place]

/-- The server slices a list by number and size: each page is read as its slice. -/
def Slices (handler : Handler σ) (request : ListingRequest) (state : σ)
    (inventory : List Subscription) : Prop :=
  ∀ number, 0 < number → ∃ page, Page.ofReply (replyTo handler request state number) = .ok page ∧
    page.items = Http.slice inventory number request.pageSize

theorem Slices.endsListing_iff {inventory : List Subscription}
    (slices : Slices handler request state inventory) (sized : 0 < request.pageSize)
    {number : Nat} (positive : 0 < number) :
    EndsListing request.pageSize (replyTo handler request state number) ↔
      inventory.length < number * request.pageSize := by
  obtain ⟨page, read, sliced⟩ := slices number positive
  obtain ⟨before, rfl⟩ : ∃ before, number = before + 1 := ⟨number - 1, by omega⟩
  have length : page.items.length =
      min request.pageSize (inventory.length - before * request.pageSize) := by
    rw [sliced]
    simp [Http.slice]
  have next : (before + 1) * request.pageSize = before * request.pageSize + request.pageSize :=
    Nat.succ_mul _ _
  constructor
  · intro ends
    have short := ends page read
    omega
  · intro beyond other same
    rw [read] at same
    cases same
    omega

/-- How a listing goes whose first page to end it is the given one. -/
structure Listed (handler : Handler σ) (request : ListingRequest) (state : σ) (last : Nat) :
    Prop where
  requests : (fetch request).trace handler state =
    (List.range' 1 last).map (asked handler request state)
  failed : ∀ failure, Page.ofReply (replyTo handler request state last) = .error failure →
    (fetch request).execute handler state =
      (.ok (.error failure), stateAfter handler request state last)
  complete : ∀ page, Page.ofReply (replyTo handler request state last) = .ok page →
    (fetch request).execute handler state =
      (.ok (.ok ((List.range' 1 last).flatMap fun number =>
          itemsIn (replyTo handler request state number))),
        stateAfter handler request state last)

theorem fetch_of_positive (positive : 0 < request.pageSize) :
    fetch request = fetchFrom request pageLimit 1 := by
  unfold fetch
  rw [if_neg (by omega)]

theorem listed_of_ends (positive : 0 < request.pageSize) {last : Nat} (counted : 0 < last)
    (countable : last ≤ pageLimit)
    (full : ∀ number, 0 < number → number < last →
      ¬ EndsListing request.pageSize (replyTo handler request state number))
    (ends : EndsListing request.pageSize (replyTo handler request state last)) :
    Listed handler request state last := by
  obtain ⟨distance, rfl⟩ : ∃ distance, last = distance + 1 := ⟨last - 1, by omega⟩
  obtain ⟨spare, enough⟩ : ∃ spare, pageLimit = spare + distance + 1 :=
    ⟨pageLimit - (distance + 1), by omega⟩
  have place : 0 + distance + 1 = distance + 1 := by omega
  have walk := fetchFrom_ends distance spare 0
    (fun number after before => full number after (by omega)) (by rw [place]; exact ends)
  rw [place] at walk
  obtain ⟨ended, seen⟩ := walk
  refine ⟨?_, ?_, ?_⟩
  · rw [fetch_of_positive positive, enough]
    exact seen
  · intro failure read
    rw [fetch_of_positive positive, enough]
    rw [read] at ended
    exact ended
  · intro page read
    rw [fetch_of_positive positive, enough]
    rw [read] at ended
    exact ended

/-- From a server that slices an inventory comes that inventory: all full slices and one more
page are asked for. -/
theorem fetch_of_slices (positive : 0 < request.pageSize) {inventory : List Subscription}
    (slices : Slices handler request state inventory) {whole : Nat}
    (divided : inventory.length / request.pageSize = whole) (countable : whole < pageLimit) :
    (fetch request).execute handler state =
        (.ok (.ok inventory), stateAfter handler request state (whole + 1)) ∧
      (fetch request).trace handler state =
        (List.range' 1 (whole + 1)).map (asked handler request state) := by
  obtain ⟨enough, below⟩ := (Nat.div_eq_iff positive).mp divided
  have next : (whole + 1) * request.pageSize = whole * request.pageSize + request.pageSize :=
    Nat.succ_mul _ _
  have listed : Listed handler request state (whole + 1) := by
    refine listed_of_ends positive (by omega) (by omega) ?_ ?_
    · intro number counted early
      rw [slices.endsListing_iff positive counted]
      have within : number * request.pageSize ≤ whole * request.pageSize :=
        Nat.mul_le_mul_right _ (by omega)
      omega
    · rw [slices.endsListing_iff positive (by omega)]
      omega
  have held : (List.range' 1 (whole + 1)).flatMap
      (fun number => itemsIn (replyTo handler request state number)) = inventory := by
    have each : ∀ number ∈ List.range' 1 (whole + 1),
        itemsIn (replyTo handler request state number) =
          Http.slice inventory number request.pageSize := by
      intro number member
      have counted := (List.mem_range'_1.mp member).1
      obtain ⟨page, read, sliced⟩ := slices number counted
      simp [itemsIn, read, sliced]
    rw [List.flatMap_congr each, flatMap_slice, List.take_of_length_le (by omega)]
  obtain ⟨final, read, _sliced⟩ := slices (whole + 1) (by omega)
  refine ⟨?_, listed.requests⟩
  rw [listed.complete final read, held]

/-- The whole inventory or nothing. The first page that ends the listing is the last one that
is asked for: if it failed, so did the listing, and else the listing is what the pages hold.
Pages are counted in 64 bits, so a server that never ends is asked for as many as can be
counted. A page is a reply of success whose body spells one, and no body with an item that
is no subscription does. From a server that slices an inventory comes that inventory. -/
theorem fetch_is_whole_or_nothing (positive : 0 < request.pageSize) :
    (∀ last, 0 < last → last ≤ pageLimit →
      (∀ number, 0 < number → number < last →
        ¬ EndsListing request.pageSize (replyTo handler request state number)) →
      EndsListing request.pageSize (replyTo handler request state last) →
      Listed handler request state last) ∧
    ((∀ number, 0 < number → number ≤ pageLimit →
        ¬ EndsListing request.pageSize (replyTo handler request state number)) →
      (fetch request).execute handler state =
          (.error .pageLimit, stateAfter handler request state pageLimit) ∧
        (fetch request).trace handler state =
          (List.range' 1 pageLimit).map (asked handler request state)) ∧
    (∀ reply page, Page.ofReply reply = .ok page ↔
      ∃ status body, reply = .received status body ∧ Http.isSuccess status = true ∧
        Page.SpelledBy body page) ∧
    (∀ body value items item page, Json.parse? body = some value →
      Page.itemsField value = some (.array items) → item ∈ items →
      Subscription.read item = none → ¬ Page.SpelledBy body page) ∧
    (∀ inventory, Slices handler request state inventory →
      inventory.length / request.pageSize < pageLimit →
      (fetch request).execute handler state =
          (.ok (.ok inventory),
            stateAfter handler request state (inventory.length / request.pageSize + 1)) ∧
        (fetch request).trace handler state =
          (List.range' 1 (inventory.length / request.pageSize + 1)).map
            (asked handler request state)) := by
  refine ⟨?_, ?_, ?_, ?_, ?_⟩
  · intro last counted countable full ends
    exact listed_of_ends positive counted countable full ends
  · intro full
    have runs := fetchFrom_runs_out pageLimit 0
      fun number after before => full number after (by omega)
    rw [Nat.zero_add] at runs
    rw [fetch_of_positive positive]
    exact runs
  · intro reply page
    exact Page.ofReply_eq_ok_iff
  · intro body value items item page parsed listed member spoiled
    exact Page.not_spelledBy_of_spoiled parsed listed member spoiled
  · intro inventory slices countable
    exact fetch_of_slices positive slices rfl countable

section Sample

theorem length_requests_stateAfter (token : Http.Reply) (page : Nat → Http.Reply)
    (request : ListingRequest) (world : World) (count : Nat) :
    (stateAfter (World.serving token page) request world count).journal.requests.length =
      world.journal.requests.length + count := by
  induction count with
  | zero => rfl
  | succ count ih => exact congrArg (· + 1) ih

theorem replyTo_serving {token : Http.Reply} {page : Nat → Http.Reply}
    {request : ListingRequest} {world : World} {number : Nat}
    (fresh : world.journal.requests.length = 0) (positive : 0 < number) :
    replyTo (World.serving token page) request world number = page number := by
  have sent := length_requests_stateAfter token page request world (number - 1)
  change page (_ + 1) = _
  rw [sent, fresh]
  congr 1
  omega

def sampleRequest : ListingRequest := ⟨"t", "https://example.com", none, 2⟩

def samplePage : Nat → Http.Reply
  | 1 => Sample.page ["a", "b"]
  | 2 => Sample.page ["c", "d"]
  | _ => Sample.page []

def sampleInventory : List Subscription := itemsIn (samplePage 1) ++ itemsIn (samplePage 2)

def countIn? (reply : Http.Reply) : Option Nat :=
  (Page.ofReply reply).toOption.map fun page => page.items.length

private theorem page_of_countIn? {reply : Http.Reply} {count : Nat}
    (counted : countIn? reply = some count) :
    ∃ page, Page.ofReply reply = .ok page ∧ page.items = itemsIn reply ∧
      (itemsIn reply).length = count := by
  unfold countIn? at counted
  cases answered : Page.ofReply reply with
  | error failure =>
      rw [answered] at counted
      cases counted
  | ok page =>
      rw [answered] at counted
      have here : page.items = itemsIn reply := by simp [itemsIn, answered]
      exact ⟨page, rfl, here, here ▸ Option.some.inj counted⟩

private theorem countIn?_first : countIn? (samplePage 1) = some 2 := by decide +kernel

private theorem countIn?_second : countIn? (samplePage 2) = some 2 := by decide +kernel

private theorem countIn?_empty : countIn? (Sample.page []) = some 0 := by decide +kernel

private theorem length_sampleInventory : sampleInventory.length = 4 := by
  obtain ⟨_page, _read, _held, first⟩ := page_of_countIn? countIn?_first
  obtain ⟨_page, _read, _held, second⟩ := page_of_countIn? countIn?_second
  unfold sampleInventory
  rw [List.length_append, first, second]

theorem samplePage_slices :
    Slices (World.serving Sample.granted samplePage) sampleRequest (Sample.world [])
      sampleInventory := by
  obtain ⟨page, read, held, first⟩ := page_of_countIn? countIn?_first
  obtain ⟨next, readNext, heldNext, second⟩ := page_of_countIn? countIn?_second
  obtain ⟨last, readLast, heldLast, empty⟩ := page_of_countIn? countIn?_empty
  intro number positive
  rw [replyTo_serving rfl positive]
  have cut : Http.slice sampleInventory number sampleRequest.pageSize =
      (sampleInventory.drop ((number - 1) * 2)).take 2 := rfl
  rw [cut]
  match number with
  | 1 =>
      refine ⟨page, read, held.trans ?_⟩
      rw [Nat.sub_self, Nat.zero_mul, List.drop_zero]
      exact (List.take_left' first).symm
  | 2 =>
      refine ⟨next, readNext, heldNext.trans ?_⟩
      unfold sampleInventory
      rw [List.drop_left' first, List.take_of_length_le (Nat.le_of_eq second)]
  | beyond + 3 =>
      refine ⟨last, readLast, heldLast.trans ?_⟩
      have past : sampleInventory.length ≤ (beyond + 3 - 1) * 2 := by
        rw [length_sampleInventory]
        omega
      rw [List.eq_nil_of_length_eq_zero empty, List.drop_eq_nil_of_le past, List.take_nil]

def sampleOutage (number : Nat) : Http.Reply :=
  if number = 2 then .unreachable else samplePage 1

/-- All four clusters come after three requests, whatever the pages claim; and of a full page
and an outage after it there is nothing. -/
theorem fetch_is_whole_or_nothing_sample :
    0 < sampleRequest.pageSize ∧
      (fetch sampleRequest).execute (World.serving Sample.granted samplePage) (Sample.world []) =
        (.ok (.ok sampleInventory),
          stateAfter (World.serving Sample.granted samplePage) sampleRequest (Sample.world [])
            3) ∧
      Listed (World.serving Sample.granted sampleOutage) sampleRequest (Sample.world []) 2 := by
  have sized : 0 < sampleRequest.pageSize := by decide
  obtain ⟨_lists, _endless, _pages, _spoiled, sliced⟩ :=
    @fetch_is_whole_or_nothing World (World.serving Sample.granted samplePage) sampleRequest
      (Sample.world []) sized
  obtain ⟨lists, _rest⟩ :=
    @fetch_is_whole_or_nothing World (World.serving Sample.granted sampleOutage) sampleRequest
      (Sample.world []) sized
  have four : sampleInventory.length / sampleRequest.pageSize = 2 := by
    rw [length_sampleInventory]
    rfl
  have walk := sliced sampleInventory samplePage_slices (by rw [four]; decide)
  rw [four] at walk
  refine ⟨sized, walk.1, lists 2 (by decide) (by decide) ?_ ?_⟩
  · intro number after before
    obtain rfl : number = 1 := by omega
    rw [replyTo_serving rfl after]
    obtain ⟨page, read, held, first⟩ := page_of_countIn? countIn?_first
    intro ends
    have short := ends page read
    rw [held, first] at short
    exact absurd short (by decide)
  · rw [replyTo_serving rfl (by decide)]
    intro page read
    cases read

end Sample

end ClusterDiscovery.Inventory
