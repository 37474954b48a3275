/-
What a reply of the token endpoint tells.

A reply of success grants a token if its body spells a grant that has one. Any other reply
refuses if its body spells a refusal in full, and then tag, description and status decide how
the credential was rejected. A body that spells neither is malformed and kept as it came. So
every failure either condemns the credential or is a hiccup, and never both.
-/

import ClusterDiscovery.Credential.Token
import ClusterDiscovery.Proofs.Json.Record

namespace ClusterDiscovery.Token

open Json

inductive Tells : Option Value → String → Prop where
  | absent : Tells none ""
  | text {content : String} : Tells (some (.string content)) content

inductive Counts : Option Value → Int → Prop where
  | absent : Counts none 0
  | number {count : Int} (fits : -9223372036854775808 ≤ count ∧ count ≤ 9223372036854775807) :
      Counts (some (.int count)) count

theorem tells_iff {field : Option Value} {content : String} :
    orAbsent "" readText field = some content ↔ Tells field content := by
  constructor
  · intro read
    cases field with
    | none =>
        cases read
        exact .absent
    | some value =>
        cases value with
        | text found =>
            cases read
            exact .text
        | _ => cases read
  · intro tells
    cases tells <;> rfl

theorem counts_iff {field : Option Value} {count : Int} :
    orAbsent 0 readSigned field = some count ↔ Counts field count := by
  constructor
  · intro read
    cases field with
    | none =>
        cases read
        exact .absent
    | some value =>
        cases value with
        | number number =>
            cases number with
            | integer found =>
                simp only [orAbsent, readSigned, readInteger, Option.ite_none_right_eq_some,
                  Option.some.injEq] at read
                obtain ⟨bounds, rfl⟩ := read
                exact .number bounds
            | _ => cases read
        | _ => cases read
  · intro counts
    cases counts with
    | absent => rfl
    | number fits => exact if_pos fits

namespace Grant

def fieldNames : List String :=
  ["access_token", "expires_in", "refresh_expires_in", "refresh_token", "token_type",
   "id_token", "not-before-policy", "session_state", "scope"]

structure Gathered (field : String → Option Value) (grant : Grant) : Prop where
  accessToken : Tells (field "access_token") grant.accessToken
  expiresIn : Counts (field "expires_in") grant.expiresIn
  refreshExpiresIn : Counts (field "refresh_expires_in") grant.refreshExpiresIn
  refreshToken : Tells (field "refresh_token") grant.refreshToken
  tokenType : Tells (field "token_type") grant.tokenType
  idToken : Tells (field "id_token") grant.idToken
  notBeforePolicy : Counts (field "not-before-policy") grant.notBeforePolicy
  sessionState : Tells (field "session_state") grant.sessionState
  scope : Tells (field "scope") grant.scope

def SpelledBy (body : List UInt8) (grant : Grant) : Prop :=
  ∃ value field, parse? body = some value ∧ Fielded fieldNames value field ∧
    Gathered field grant

theorem read_eq_some_iff {value : Value} {grant : Grant} :
    Grant.read value = some grant ↔
      ∃ field, Fielded fieldNames value field ∧ Gathered field grant := by
  constructor
  · intro read
    obtain ⟨found, fields, rest⟩ := Option.bind_eq_some_iff.mp read
    obtain ⟨field, fielded, rfl⟩ := (fields?_eq_some_iff_fielded (by decide)).mp fields
    refine ⟨field, fielded, ?_⟩
    simp only [List.map_cons, List.map_nil, Option.bind_eq_bind, Option.bind_eq_some_iff,
      tells_iff, counts_iff, Option.some.injEq] at rest
    obtain ⟨_, accessToken, _, expiresIn, _, refreshExpiresIn, _, refreshToken, _, tokenType, _,
      idToken, _, notBeforePolicy, _, sessionState, _, scope, rfl⟩ := rest
    exact ⟨accessToken, expiresIn, refreshExpiresIn, refreshToken, tokenType, idToken,
      notBeforePolicy, sessionState, scope⟩
  · rintro ⟨field, fielded, gathered⟩
    have fields := (fields?_eq_some_iff_fielded (by decide)).mpr ⟨field, fielded, rfl⟩
    apply Option.bind_eq_some_iff.mpr ⟨_, fields, _⟩
    simp only [fieldNames, List.map_cons, List.map_nil, Option.bind_eq_bind,
      Option.bind_eq_some_iff, tells_iff, counts_iff, Option.some.injEq]
    exact ⟨_, gathered.accessToken, _, gathered.expiresIn, _, gathered.refreshExpiresIn, _,
      gathered.refreshToken, _, gathered.tokenType, _, gathered.idToken, _,
      gathered.notBeforePolicy, _, gathered.sessionState, _, gathered.scope, rfl⟩

theorem bind_read_eq_some_iff {body : List UInt8} {grant : Grant} :
    (parse? body).bind Grant.read = some grant ↔ SpelledBy body grant := by
  simp only [Option.bind_eq_some_iff, read_eq_some_iff, SpelledBy, exists_and_left]

end Grant

namespace Refusal

def fieldNames : List String := ["error", "error_description"]

def SpelledBy (body : List UInt8) (refusal : Refusal) : Prop :=
  ∃ value field, parse? body = some value ∧ Fielded fieldNames value field ∧
    Tells (field "error") refusal.tag ∧ Tells (field "error_description") refusal.description

theorem read_eq_some_iff {value : Value} {refusal : Refusal} :
    Refusal.read value = some refusal ↔
      ∃ field, Fielded fieldNames value field ∧ Tells (field "error") refusal.tag ∧
        Tells (field "error_description") refusal.description := by
  constructor
  · intro read
    obtain ⟨found, fields, rest⟩ := Option.bind_eq_some_iff.mp read
    obtain ⟨field, fielded, rfl⟩ := (fields?_eq_some_iff_fielded (by decide)).mp fields
    simp only [List.map_cons, List.map_nil, Option.bind_eq_bind, Option.bind_eq_some_iff,
      tells_iff, Option.some.injEq] at rest
    obtain ⟨_, tag, _, description, rfl⟩ := rest
    exact ⟨field, fielded, tag, description⟩
  · rintro ⟨field, fielded, tag, description⟩
    have fields := (fields?_eq_some_iff_fielded (by decide)).mpr ⟨field, fielded, rfl⟩
    apply Option.bind_eq_some_iff.mpr ⟨_, fields, _⟩
    simp only [fieldNames, List.map_cons, List.map_nil, Option.bind_eq_bind,
      Option.bind_eq_some_iff, tells_iff, Option.some.injEq]
    exact ⟨_, tag, _, description, rfl⟩

theorem bind_read_eq_some_iff {body : List UInt8} {refusal : Refusal} :
    (parse? body).bind Refusal.read = some refusal ↔ SpelledBy body refusal := by
  simp only [Option.bind_eq_some_iff, read_eq_some_iff, SpelledBy, exists_and_left]

/-- The token or its description tells that the credential itself is dead. -/
def Revokes (refusal : Refusal) : Prop :=
  refusal.description = "Invalid refresh token" ∨ refusal.tag = "invalid_grant"

def BlamesClient (refusal : Refusal) : Prop :=
  refusal.tag = "invalid_client" ∨ refusal.tag = "unauthorized_client"

/-- How a refusal rejects a credential. The status counts only where the refusal itself tells
nothing of the credential. -/
def Rejects (refusal : Refusal) (status : Nat) : AuthClass → Prop
  | .unrecoverable => refusal.Revokes
  | .invalidClient => ¬ refusal.Revokes ∧ refusal.BlamesClient
  | .unauthorized =>
      ¬ refusal.Revokes ∧ ¬ refusal.BlamesClient ∧ (status = 401 ∨ status = 403)
  | .transient =>
      ¬ refusal.Revokes ∧ ¬ refusal.BlamesClient ∧ ¬ (status = 401 ∨ status = 403)

theorem rejection_eq_iff {refusal : Refusal} {status : Nat} {rejection : AuthClass} :
    refusal.rejection status = rejection ↔ refusal.Rejects status rejection := by
  unfold Refusal.rejection
  split
  · rename_i revokes
    have dead : refusal.Revokes := revokes
    cases rejection <;> simp [Rejects, dead]
  · rename_i stands
    have alive : ¬ refusal.Revokes := stands
    split
    · rename_i blames
      have client : refusal.BlamesClient := blames
      cases rejection <;> simp [Rejects, alive, client]
    · rename_i blameless
      have other : ¬ refusal.BlamesClient := blameless
      by_cases denied : status = 401 ∨ status = 403
      · rw [if_pos denied]
        cases rejection <;> simp [Rejects, alive, other, denied]
      · rw [if_neg denied]
        cases rejection <;> simp [Rejects, alive, other, denied]

end Refusal

def Succeeds (status : Nat) : Prop := 200 ≤ status ∧ status < 300

variable {status : Nat} {body : List UInt8}

theorem isSuccess_iff : Http.isSuccess status = true ↔ Succeeds status := by
  simp [Http.isSuccess, Succeeds]

/-- A body tells neither of a token nor why there is none, and what is told of the body. -/
inductive Garbled (status : Nat) (body : List UInt8) : String → Prop where
  | ungranted (success : Succeeds status) (unspelled : ∀ grant, ¬ Grant.SpelledBy body grant) :
      Garbled status body "<json error>"
  | unrefused (unsuccessful : ¬ Succeeds status)
      (unspelled : ∀ refusal, ¬ Refusal.SpelledBy body refusal) :
      Garbled status body s!"HTTP {status}: unparseable error body: <json error>"
  | incomplete {refusal : Refusal} (unsuccessful : ¬ Succeeds status)
      (spelled : Refusal.SpelledBy body refusal)
      (lacks : refusal.tag = "" ∨ refusal.description = "") :
      Garbled status body s!"HTTP {status}: error body lacks error or error_description"

inductive Classified (status : Nat) (body : List UInt8) : Except Failure String → Prop where
  | granted {grant : Grant} (success : Succeeds status) (spelled : Grant.SpelledBy body grant)
      (present : grant.accessToken ≠ "") : Classified status body (.ok grant.accessToken)
  | tokenless {grant : Grant} (success : Succeeds status) (spelled : Grant.SpelledBy body grant)
      (missing : grant.accessToken = "") : Classified status body (.error .missingAccessToken)
  | garbled {message : String} (garbled : Garbled status body message) :
      Classified status body
        (.error (.malformedResponse "token" message (Text.Utf8.decodeLossy body)))
  | refused {refusal : Refusal} {rejection : AuthClass} (unsuccessful : ¬ Succeeds status)
      (spelled : Refusal.SpelledBy body refusal) (tagged : refusal.tag ≠ "")
      (described : refusal.description ≠ "") (rejects : refusal.Rejects status rejection) :
      Classified status body
        (.error (.auth rejection status refusal.tag refusal.description))

section Responses

theorem ofResponse_of_granted {grant : Grant} (success : Succeeds status)
    (spelled : Grant.SpelledBy body grant) :
    ofResponse status body =
      if grant.accessToken = "" then .error .missingAccessToken else .ok grant.accessToken := by
  unfold ofResponse
  rw [if_pos (isSuccess_iff.mpr success), Grant.bind_read_eq_some_iff.mpr spelled]

theorem ofResponse_of_ungranted (success : Succeeds status)
    (unspelled : ∀ grant, ¬ Grant.SpelledBy body grant) :
    ofResponse status body = .error (malformed "<json error>" body) := by
  have unread : (parse? body).bind Grant.read = none := by
    apply Option.eq_none_iff_forall_ne_some.mpr
    intro grant read
    exact unspelled grant (Grant.bind_read_eq_some_iff.mp read)
  unfold ofResponse
  rw [if_pos (isSuccess_iff.mpr success), unread]

theorem ofResponse_of_refused {refusal : Refusal} (unsuccessful : ¬ Succeeds status)
    (spelled : Refusal.SpelledBy body refusal) :
    ofResponse status body = .error
      (if refusal.tag = "" ∨ refusal.description = "" then
        malformed s!"HTTP {status}: error body lacks error or error_description" body
      else .auth (refusal.rejection status) status refusal.tag refusal.description) := by
  unfold ofResponse refused
  rw [if_neg fun success => unsuccessful (isSuccess_iff.mp success),
    Refusal.bind_read_eq_some_iff.mpr spelled]

theorem ofResponse_of_unrefused (unsuccessful : ¬ Succeeds status)
    (unspelled : ∀ refusal, ¬ Refusal.SpelledBy body refusal) :
    ofResponse status body =
      .error (malformed s!"HTTP {status}: unparseable error body: <json error>" body) := by
  have unread : (parse? body).bind Refusal.read = none := by
    apply Option.eq_none_iff_forall_ne_some.mpr
    intro refusal read
    exact unspelled refusal (Refusal.bind_read_eq_some_iff.mp read)
  unfold ofResponse refused
  rw [if_neg fun success => unsuccessful (isSuccess_iff.mp success), unread]

theorem classified_ofResponse : Classified status body (ofResponse status body) := by
  by_cases success : Succeeds status
  · by_cases granted : ∃ grant, Grant.SpelledBy body grant
    · obtain ⟨grant, spelled⟩ := granted
      rw [ofResponse_of_granted success spelled]
      by_cases missing : grant.accessToken = ""
      · rw [if_pos missing]
        exact .tokenless success spelled missing
      · rw [if_neg missing]
        exact .granted success spelled missing
    · have unspelled := not_exists.mp granted
      rw [ofResponse_of_ungranted success unspelled]
      exact .garbled (.ungranted success unspelled)
  · by_cases refused : ∃ refusal, Refusal.SpelledBy body refusal
    · obtain ⟨refusal, spelled⟩ := refused
      rw [ofResponse_of_refused success spelled]
      by_cases lacks : refusal.tag = "" ∨ refusal.description = ""
      · rw [if_pos lacks]
        exact .garbled (.incomplete success spelled lacks)
      · rw [if_neg lacks]
        obtain ⟨tagged, described⟩ := not_or.mp lacks
        exact .refused success spelled tagged described (Refusal.rejection_eq_iff.mp rfl)
    · have unspelled := not_exists.mp refused
      rw [ofResponse_of_unrefused success unspelled]
      exact .garbled (.unrefused success unspelled)

/-- A reply is taken for what its classification states, and for nothing else. -/
theorem ofResponse_eq_iff {result : Except Failure String} :
    ofResponse status body = result ↔ Classified status body result := by
  constructor
  · rintro rfl
    exact classified_ofResponse
  · intro classified
    cases classified with
    | granted success spelled present =>
        rw [ofResponse_of_granted success spelled, if_neg present]
    | tokenless success spelled missing =>
        rw [ofResponse_of_granted success spelled, if_pos missing]
    | garbled garbled =>
        cases garbled with
        | ungranted success unspelled => exact ofResponse_of_ungranted success unspelled
        | unrefused unsuccessful unspelled =>
            exact ofResponse_of_unrefused unsuccessful unspelled
        | incomplete unsuccessful spelled lacks =>
            rw [ofResponse_of_refused unsuccessful spelled, if_pos lacks]
            rfl
    | refused unsuccessful spelled tagged described rejects =>
        rw [ofResponse_of_refused unsuccessful spelled, if_neg (not_or.mpr ⟨tagged, described⟩),
          Refusal.rejection_eq_iff.mpr rejects]

/-- Every failure either asks for cleanup or is transient. -/
theorem isTransient_of_classified {failure : Failure}
    (classified : Classified status body (.error failure)) :
    failure.isTransient = !failure.requiresCleanup := by
  cases classified with
  | tokenless => rfl
  | garbled => rfl
  | @refused _ rejection => cases rejection <;> rfl

/-- Replies are classified in full: which of them grant a token, which of them lack one or are
malformed, and how all others reject the credential. No failure both condemns the credential
and is transient, and none does neither. -/
theorem ofResponse_classifies (status : Nat) (body : List UInt8) :
    (∀ token, ofResponse status body = .ok token ↔
      Succeeds status ∧ token ≠ "" ∧
        ∃ grant, Grant.SpelledBy body grant ∧ grant.accessToken = token) ∧
    (ofResponse status body = .error .missingAccessToken ↔
      Succeeds status ∧ ∃ grant, Grant.SpelledBy body grant ∧ grant.accessToken = "") ∧
    (∀ endpoint message raw,
      ofResponse status body = .error (.malformedResponse endpoint message raw) ↔
        Garbled status body message ∧ endpoint = "token" ∧
          raw = Text.Utf8.decodeLossy body) ∧
    (∀ rejection code tag description,
      ofResponse status body = .error (.auth rejection code tag description) ↔
        ¬ Succeeds status ∧ Refusal.SpelledBy body ⟨tag, description⟩ ∧ tag ≠ "" ∧
          description ≠ "" ∧ code = status ∧
          Refusal.Rejects ⟨tag, description⟩ status rejection) ∧
    ∀ failure, ofResponse status body = .error failure →
      failure.isTransient = !failure.requiresCleanup := by
  simp only [ofResponse_eq_iff]
  refine ⟨fun token => ?_, ?_, fun endpoint message raw => ?_,
    fun rejection code tag description => ?_, fun failure => isTransient_of_classified⟩
  · constructor
    · rintro ⟨success, spelled, present⟩
      exact ⟨success, present, _, spelled, rfl⟩
    · rintro ⟨success, present, grant, spelled, rfl⟩
      exact .granted success spelled present
  · constructor
    · rintro (_ | ⟨success, spelled, missing⟩)
      exact ⟨success, _, spelled, missing⟩
    · rintro ⟨success, grant, spelled, missing⟩
      exact .tokenless success spelled missing
  · constructor
    · rintro (_ | _ | garbled)
      exact ⟨garbled, rfl, rfl⟩
    · rintro ⟨garbled, rfl, rfl⟩
      exact .garbled garbled
  · constructor
    · rintro (_ | _ | _ | ⟨unsuccessful, spelled, tagged, described, rejects⟩)
      exact ⟨unsuccessful, spelled, tagged, described, rfl, rejects⟩
    · rintro ⟨unsuccessful, spelled, tagged, described, rfl, rejects⟩
      exact .refused unsuccessful spelled tagged described rejects

end Responses

end ClusterDiscovery.Token
