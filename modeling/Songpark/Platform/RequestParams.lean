import Songpark.Platform.AppView

/-!
# Credentials in the parameters of a request

A handler gets the body or the query of a request.  Unless the session belongs
to an authenticated user, some credentials of the session are merged into it
first.  A credential of the session replaces what the caller has sent; a key
that the session does not have is left as the caller has sent it.

The main result, `processed_credentials`, gives the value at every credential
key, and says when two requests of one session cannot be told apart by them.
-/

namespace Songpark.Platform

/-! ## Merging into any value -/

namespace Value

/-- The value a map has for a key; nothing else has any. -/
def find? (value key : Value) : Option Value :=
  match value with
  | .map entries => entries.record.lookup key
  | _ => none

/-- `merge` of any value with a map, which always counts as true: `nil` and
`false` are taken for an empty map, a collection gets the map as an item. -/
def mergeMap (data : Value) (added : Record) : Except Thrown Value :=
  match data with
  | .nil | .bool false => .ok (mapValue added)
  | .map entries => .ok (mapValue (entries.record.merge added))
  | .coll kind items => .ok (.coll kind (items.conj kind (mapValue added)))
  | _ => .error .classCast

/-- A map, or nothing to be taken for an empty one. -/
def MapOrNothing (value : Value) : Prop :=
  value.truthy = false ∨ ∃ entries, value = .map entries

end Value

/-! ## Requests -/

namespace Auth

/-- What the functions read of a request: `[:session :identity]`,
`[:parameters :body]` and `[:parameters :query]`. -/
structure Request where
  identity : Option Record
  body : Value
  query : Value

abbrev authUserId : Value := .keyword "auth.user/id"
abbrev teacherId : Value := .keyword "teacher/id"
abbrev studentId : Value := .keyword "student/id"

/-- `auth-user?`; `nil` contains nothing. -/
def authUser (request : Request) : Bool :=
  match request.identity with
  | some identity => (identity.lookup authUserId).isSome
  | none => false

def mergeCredentials (request : Request) (data : Value) (ks : List Value) :
    Except Thrown Value :=
  data.mergeMap (selectKeys (request.identity.getD ∅) ks ∅)

/-- What `process-body` and `process-query` do with their parameters. -/
def processParams (params : Request → Value) (request : Request)
    (credentialKs : List Value) : Except Thrown Value :=
  if authUser request then .ok (params request)
  else mergeCredentials request (params request) credentialKs

def processBody : Request → List Value → Except Thrown Value :=
  processParams Request.body

def processQuery : Request → List Value → Except Thrown Value :=
  processParams Request.query

/-! ## Who decides on a credential -/

/-- The value of the session for a key. -/
def Request.credential (request : Request) (key : Value) : Option Value :=
  request.identity.bind fun identity => identity.lookup key

/-- Every credential key has the value of the session, or none if the session
has none. -/
def Imposed (process : Request → List Value → Except Thrown Value)
    (request : Request) (credentialKs : List Value) : Prop :=
  ∃ processed, process request credentialKs = .ok processed ∧
    ∀ key ∈ credentialKs, processed.find? key = request.credential key

/-- What a request without an authenticated user gets.  Two requests agree when
their values are the same, or when they are equal. -/
structure Processed (process : Request → List Value → Except Thrown Value)
    (params : Request → Value) (request : Request)
    (credentialKs : List Value) : Prop where
  merged : (params request).MapOrNothing →
    ∃ processed, process request credentialKs = .ok processed ∧
      ∀ key, processed.find? key =
        if ∃ listed ∈ credentialKs, listed ≈ key then
          (request.credential key).or ((params request).find? key)
        else (params request).find? key
  otherwise : ¬ (params request).MapOrNothing →
    ∀ processed, process request credentialKs = .ok processed →
      ∀ key, processed.find? key = none
  imposed_iff : (params request).MapOrNothing →
    (Imposed process request credentialKs ↔
      ∀ key ∈ credentialKs, request.credential key = none →
        (params request).find? key = none)
  sameSession : ∀ other, other.identity = request.identity →
    (params request).MapOrNothing → (params other).MapOrNothing →
      ∃ processed processed', process request credentialKs = .ok processed ∧
        process other credentialKs = .ok processed' ∧
        (∀ key ∈ credentialKs, request.credential key ≠ none →
          processed.find? key = processed'.find? key) ∧
        ((∀ key ∈ credentialKs, processed.find? key = processed'.find? key) ↔
          ∀ key ∈ credentialKs, request.credential key = none →
            (params request).find? key = (params other).find? key) ∧
        ((∀ key ∈ credentialKs,
          Option.Rel (· ≈ ·) (processed.find? key) (processed'.find? key)) ↔
          ∀ key ∈ credentialKs, request.credential key = none →
            Option.Rel (· ≈ ·) ((params request).find? key)
              ((params other).find? key))

end Auth

/-! ## Values of merged maps -/

section Merged

variable {data key : Value} {record added : Record}

@[simp]
theorem find?_mapValue (record : Record) (key : Value) :
    (mapValue record).find? key = record.lookup key := by
  rw [mapValue, Value.find?, record_ofList]

/-- What does not count as true is no map. -/
theorem find?_of_not_truthy (hdata : data.truthy = false) :
    data.find? key = none := by
  cases data with
  | map entries => cases hdata
  | _ => rfl

/-- An added entry replaces that of the data. -/
theorem mergeMap_eq_ok (hdata : data.MapOrNothing) (added : Record) :
    ∃ merged, data.mergeMap added = .ok merged ∧
      ∀ key, merged.find? key = (added.lookup key).or (data.find? key) := by
  obtain hnothing | ⟨entries, rfl⟩ := hdata
  · have hempty : data.mergeMap added = .ok (mapValue added) := by
      cases data with
      | nil => rfl
      | bool flag =>
          cases flag with
          | false => rfl
          | true => cases hnothing
      | _ => cases hnothing
    refine ⟨_, hempty, ?_⟩
    intro key
    rw [find?_mapValue, find?_of_not_truthy hnothing, Option.or_none]
  · refine ⟨_, rfl, ?_⟩
    intro key
    rw [find?_mapValue, KeyedMap.lookup_merge, Value.find?]

/-- Merged into anything else, a map is at best an item. -/
theorem find?_mergeMap_of_not {merged : Value} (hdata : ¬ data.MapOrNothing)
    (hmerged : data.mergeMap added = .ok merged) : merged.find? key = none := by
  cases data with
  | nil => exact absurd (.inl rfl) hdata
  | bool flag =>
      cases flag with
      | false => exact absurd (.inl rfl) hdata
      | true => cases hmerged
  | map entries => exact absurd (.inr ⟨entries, rfl⟩) hdata
  | coll kind items =>
      cases hmerged
      rfl
  | _ => cases hmerged

end Merged

/-! ## What the functions return -/

namespace Auth

section Processing

variable {params : Request → Value} {request other : Request}
variable {credentialKs : List Value} {key : Value}

/-- The selected part of the session. -/
theorem lookup_selected :
    (selectKeys (request.identity.getD ∅) credentialKs ∅).lookup key =
      if ∃ listed ∈ credentialKs, listed ≈ key then request.credential key
      else none := by
  rw [lookup_selectKeys, KeyedMap.lookup_empty, Option.or_none,
    Request.credential]
  cases request.identity with
  | some identity => rfl
  | none =>
      simp only [Option.getD_none, KeyedMap.lookup_empty, Option.bind_none]

theorem processParams_of_not_authUser (hsession : authUser request = false) :
    processParams params request credentialKs =
      (params request).mergeMap
        (selectKeys (request.identity.getD ∅) credentialKs ∅) := by
  rw [processParams, hsession, if_neg Bool.false_ne_true, mergeCredentials]

/-- Nothing but the identity says who is authenticated. -/
theorem authUser_congr (hidentity : other.identity = request.identity) :
    authUser other = authUser request := by
  rw [authUser, authUser, hidentity]

theorem credential_congr (hidentity : other.identity = request.identity)
    (key : Value) : other.credential key = request.credential key := by
  rw [Request.credential, Request.credential, hidentity]

theorem listed_self (hkey : key ∈ credentialKs) :
    ∃ listed ∈ credentialKs, listed ≈ key := ⟨key, hkey, Setoid.refl key⟩

variable (credentialKs) in
/-- The value at every key. -/
theorem exists_processed (hsession : authUser request = false)
    (hparams : (params request).MapOrNothing) :
    ∃ processed, processParams params request credentialKs = .ok processed ∧
      ∀ key, processed.find? key =
        if ∃ listed ∈ credentialKs, listed ≈ key then
          (request.credential key).or ((params request).find? key)
        else (params request).find? key := by
  obtain ⟨merged, hmerged, hvalues⟩ := mergeMap_eq_ok hparams
    (selectKeys (request.identity.getD ∅) credentialKs ∅)
  refine ⟨merged, ?_, ?_⟩
  · rw [processParams_of_not_authUser hsession, hmerged]
  · intro key
    rw [hvalues, lookup_selected]
    split_ifs with hkey
    · rfl
    · exact Option.none_or

theorem find?_of_processed {processed : Value}
    (hsession : authUser request = false)
    (hparams : (params request).MapOrNothing)
    (hprocessed : processParams params request credentialKs = .ok processed) :
    processed.find? key =
      if ∃ listed ∈ credentialKs, listed ≈ key then
        (request.credential key).or ((params request).find? key)
      else (params request).find? key := by
  obtain ⟨result, hresult, hvalues⟩ :=
    exists_processed credentialKs hsession hparams
  rw [hprocessed] at hresult
  cases hresult
  exact hvalues key

/-- A value of the caller stands where the session has none. -/
theorem or_eq_left_iff {α : Type*} {session own : Option α} :
    session.or own = session ↔ (session = none → own = none) := by
  cases session with
  | none => simp
  | some value => simp

/-- Where the session has a value, the values of the callers do not matter. -/
theorem or_agree_iff {α : Type*} {agree : Option α → Option α → Prop}
    (hrefl : ∀ found, agree found found) {session own own' : Option α} :
    agree (session.or own) (session.or own') ↔
      (session = none → agree own own') := by
  cases session with
  | none => simp
  | some value => simp [hrefl]

theorem imposed_iff (hsession : authUser request = false)
    (hparams : (params request).MapOrNothing) :
    Imposed (processParams params) request credentialKs ↔
      ∀ key ∈ credentialKs, request.credential key = none →
        (params request).find? key = none := by
  obtain ⟨processed, hprocessed, hvalues⟩ :=
    exists_processed credentialKs hsession hparams
  have hexact : Imposed (processParams params) request credentialKs ↔
      ∀ key ∈ credentialKs, processed.find? key = request.credential key := by
    constructor
    · rintro ⟨result, hresult, himposed⟩
      rw [hprocessed] at hresult
      cases hresult
      exact himposed
    · intro himposed
      exact ⟨processed, hprocessed, himposed⟩
  rw [hexact]
  apply forall₂_congr
  intro key hkey
  rw [hvalues, if_pos (listed_self hkey), or_eq_left_iff]

/-- The caller's own value stays where the session has none. -/
theorem not_imposed_of_own {value : Value}
    (hsession : authUser request = false)
    (hparams : (params request).MapOrNothing) (hkey : key ∈ credentialKs)
    (hnone : request.credential key = none)
    (hown : (params request).find? key = some value) :
    ¬ Imposed (processParams params) request credentialKs := by
  intro himposed
  have habsent :=
    (imposed_iff hsession hparams).mp himposed key hkey hnone
  rw [hown] at habsent
  cases habsent

theorem find?_processed_of_not {processed : Value}
    (hsession : authUser request = false)
    (hparams : ¬ (params request).MapOrNothing)
    (hprocessed : processParams params request credentialKs = .ok processed) :
    processed.find? key = none := by
  rw [processParams_of_not_authUser hsession] at hprocessed
  exact find?_mergeMap_of_not hparams hprocessed

/-- What is no map does not take on the credentials of the session. -/
theorem not_imposed_of_item {value : Value}
    (hsession : authUser request = false)
    (hparams : ¬ (params request).MapOrNothing) (hkey : key ∈ credentialKs)
    (hcredential : request.credential key = some value) :
    ¬ Imposed (processParams params) request credentialKs := by
  rintro ⟨processed, hprocessed, himposed⟩
  have hvalue := himposed key hkey
  rw [find?_processed_of_not hsession hparams hprocessed, hcredential]
    at hvalue
  cases hvalue

end Processing

/-- What either function makes of its parameters. -/
theorem processed_processParams (params : Request → Value) (request : Request)
    (credentialKs : List Value) (hsession : authUser request = false) :
    Processed (processParams params) params request credentialKs where
  merged := exists_processed credentialKs hsession
  otherwise := fun hother _ hprocessed _ =>
    find?_processed_of_not hsession hother hprocessed
  imposed_iff := imposed_iff hsession
  sameSession := by
    intro other hidentity hparams hothers
    have hsession' : authUser other = false :=
      (authUser_congr hidentity).trans hsession
    obtain ⟨processed, hprocessed, hvalues⟩ :=
      exists_processed credentialKs hsession hparams
    obtain ⟨processed', hprocessed', hvalues'⟩ :=
      exists_processed credentialKs hsession' hothers
    have hagree : ∀ agree : Option Value → Option Value → Prop,
        (∀ found, agree found found) → ∀ key ∈ credentialKs,
          (agree (processed.find? key) (processed'.find? key) ↔
            (request.credential key = none →
              agree ((params request).find? key)
                ((params other).find? key))) := by
      intro agree hrefl key hkey
      rw [hvalues, hvalues', if_pos (listed_self hkey),
        if_pos (listed_self hkey), credential_congr hidentity,
        or_agree_iff hrefl]
    have heq := hagree (· = ·) fun _ => rfl
    refine ⟨processed, processed', hprocessed, hprocessed', ?_,
      forall₂_congr heq, forall₂_congr (hagree _ KeyedMap.rel_refl)⟩
    intro key hkey hcredential
    exact (heq key hkey).mpr fun hnone => absurd hnone hcredential

/-- The session decides on the credentials that it has, the caller on the
others. -/
theorem processed_credentials (request : Request) (credentialKs : List Value)
    (hsession : authUser request = false) :
    Processed processBody Request.body request credentialKs ∧
      Processed processQuery Request.query request credentialKs :=
  ⟨processed_processParams Request.body request credentialKs hsession,
    processed_processParams Request.query request credentialKs hsession⟩

/-! ## Callers with credentials of their own -/

/-- Parameters in which the caller claims to be a teacher. -/
def claimedTeacher : Value := .map (.cons teacherId (.number 1) .nil)

/-- A request without a session. -/
def visitor (params : Value) : Request := ⟨none, params, params⟩

def student (params : Value) : Request :=
  ⟨some (.singleton studentId (.number 7)), params, params⟩

theorem find?_claimedTeacher :
    claimedTeacher.find? teacherId = some (.number 1) := rfl

theorem student_credential (params key : Value) :
    (student params).credential key =
      if key = studentId then some (.number 7) else none := by
  rw [Request.credential, student, Option.bind_some,
    KeyedMap.lookup_singleton]
  simp only [keyword_equiv_iff]

theorem student_not_authUser (params : Value) :
    authUser (student params) = false := by
  have hnone := student_credential params authUserId
  rw [if_neg (by decide)] at hnone
  exact congrArg Option.isSome hnone

theorem mapOrNothing_claimedTeacher : claimedTeacher.MapOrNothing :=
  .inr ⟨_, rfl⟩

/-- The claim stands where the session names no teacher. -/
theorem not_imposed_claimedTeacher {params : Request → Value}
    {request : Request} (hsession : authUser request = false)
    (hnone : request.credential teacherId = none)
    (hparams : params request = claimedTeacher) :
    ¬ Imposed (processParams params) request [teacherId] := by
  apply not_imposed_of_own hsession _ List.mem_cons_self hnone
  · rw [hparams]
    exact find?_claimedTeacher
  · rw [hparams]
    exact mapOrNothing_claimedTeacher

theorem not_imposed_vector :
    ¬ Imposed processBody (student (.coll .vector .nil)) [studentId] := by
  have hvector : ¬ (Value.coll .vector .nil).MapOrNothing := by
    rintro (htruthy | ⟨entries, hmap⟩)
    · cases htruthy
    · cases hmap
  have hcredential : (student (.coll .vector .nil)).credential studentId =
      some (.number 7) := by rw [student_credential, if_pos rfl]
  exact not_imposed_of_item (student_not_authUser _) hvector
    List.mem_cons_self hcredential

/-- The identity of a teacher that the session lacks is taken from the caller,
and tells the requests of one session apart; a vector takes the place of the
credentials of the session. -/
theorem claimedTeacher_kept :
    (∀ request ∈ [visitor claimedTeacher, student claimedTeacher],
      authUser request = false ∧
        ¬ Imposed processBody request [teacherId] ∧
        ¬ Imposed processQuery request [teacherId]) ∧
    (∀ processed processed',
      processBody (visitor claimedTeacher) [teacherId] = .ok processed →
      processBody (visitor .nil) [teacherId] = .ok processed' →
        processed.find? teacherId ≠ processed'.find? teacherId) ∧
    ¬ Imposed processBody (student (.coll .vector .nil)) [studentId] := by
  refine ⟨?_, ?_, not_imposed_vector⟩
  · intro request hrequest
    simp only [List.mem_cons, List.not_mem_nil, or_false] at hrequest
    have hteacher : authUser request = false ∧
        request.credential teacherId = none ∧
        request.body = claimedTeacher ∧ request.query = claimedTeacher := by
      obtain rfl | rfl := hrequest
      · exact ⟨rfl, rfl, rfl, rfl⟩
      · exact ⟨student_not_authUser _,
          by rw [student_credential, if_neg (by decide)], rfl, rfl⟩
    obtain ⟨hsession, hnone, hbody, hquery⟩ := hteacher
    exact ⟨hsession, not_imposed_claimedTeacher hsession hnone hbody,
      not_imposed_claimedTeacher hsession hnone hquery⟩
  · intro processed processed' hprocessed hprocessed' hsame
    have hkept : processed.find? teacherId = some (.number 1) := by
      rw [find?_of_processed rfl mapOrNothing_claimedTeacher hprocessed,
        if_pos (listed_self List.mem_cons_self)]
      exact find?_claimedTeacher
    have habsent : processed'.find? teacherId = none := by
      rw [find?_of_processed rfl (.inl rfl) hprocessed',
        if_pos (listed_self List.mem_cons_self)]
      rfl
    rw [hkept, habsent] at hsame
    cases hsame

/-- A student stays a student whatever the body says. -/
theorem processed_credentials_student :
    Processed processBody Request.body (student claimedTeacher)
        [studentId, teacherId] ∧
      Processed processQuery Request.query (student claimedTeacher)
        [studentId, teacherId] :=
  processed_credentials (student claimedTeacher) [studentId, teacherId]
    (student_not_authUser claimedTeacher)

end Auth

end Songpark.Platform
