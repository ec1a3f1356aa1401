import Mathlib.Data.Finset.Lattice.Union
import Mathlib.Data.Finset.Option

/-!
# Authorisation of requests

A route is guarded by a set of roles.  The guard looks at the identity of the
request, a map that carries a flag and a set of credentials, and either calls
the handler or throws.  Which code decides depends on the class that the
language has chosen for the identity map.
-/

namespace Songpark.Platform.Authz

structure Keyword where
  ns : Option String
  name : String
  deriving DecidableEq

/-- `keyword` of a string: the part before the first slash is its namespace. -/
def Keyword.ofString (text : String) : Keyword :=
  match text.toList.span (· ≠ '/') with
  | (before, '/' :: after) =>
      if text = "/" then ⟨none, text⟩
      else ⟨some (String.ofList before), String.ofList after⟩
  | _ => ⟨none, text⟩

/-- The keyword of a role's namespace, if it has one. -/
def Keyword.namespaceKeyword? (role : Keyword) : Option Keyword :=
  role.ns.map Keyword.ofString

inductive MapClass
  | persistentArrayMap
  | persistentHashMap
  deriving DecidableEq

/-- An identity map: what it has under `:authz/super` and
`:authz/credentials`, where `nil` may also be a missing key, and the number of
all its entries.  A map of more than eight entries is a hash map; a smaller one
can be either. -/
structure Identity where
  super : Option Bool
  credentials : Option (Finset Keyword)
  size : ℕ
  mapClass : MapClass
  entries_le : super.toList.length + credentials.toList.length ≤ size
  large : 8 < size → mapClass = .persistentHashMap

/-- The data of the unauthorized exception. -/
structure Payload where
  message : String
  type : Keyword
  roles : Finset Keyword
  credentials : Option (Finset Keyword)
  super : Option Bool

/-- What a handler can throw; `illegalArgument` is the call of a protocol on a
class that it is not extended to. -/
inductive Raised
  | unauthorized (payload : Payload)
  | illegalArgument (mapClass : MapClass)
  | other (message : String)

structure Request (Rest : Type) where
  identity : Option Identity
  rest : Rest

/-- A handler reads and changes the world outside the request. -/
abbrev Handler (World Rest Response : Type) :=
  Request Rest → World → Except Raised Response × World

/-! ## The guard -/

def addNamespaces (roles : Finset Keyword) : Finset Keyword :=
  roles ∪ roles.biUnion fun role => role.namespaceKeyword?.toFinset

def throwException (super : Option Bool)
    (credentials : Option (Finset Keyword)) (roles : Finset Keyword) :
    Except Raised Bool :=
  .error (.unauthorized {
    message := "Credentials not accepted"
    type := ⟨some "auth", "not-authorized"⟩
    roles := roles
    credentials := credentials
    super := super })

/-- `-allow?`; its assertions are what the types of the arguments say. -/
def allowBase (super : Option Bool) (credentials : Option (Finset Keyword))
    (roles : Finset Keyword) : Except Raised Bool :=
  if super = some true then .ok true
  else
    let expandedRoles := addNamespaces roles
    if credentials.getD ∅ ∩ expandedRoles ≠ ∅ then .ok true
    else throwException super credentials roles

/-- The protocol is extended to `PersistentArrayMap` and to `nil`. -/
def allow (user : Option Identity) (roles : Finset Keyword) :
    Except Raised Bool :=
  match user with
  | none => throwException none none roles
  | some user =>
      match user.mapClass with
      | .persistentArrayMap => allowBase user.super user.credentials roles
      | .persistentHashMap => .error (.illegalArgument .persistentHashMap)

def wrapAuthz {World Rest Response : Type}
    (handler : Handler World Rest Response) (roles : Finset Keyword) :
    Handler World Rest Response := fun request world =>
  match allow request.identity roles with
  | .ok _ => handler request world
  | .error raised => (.error raised, world)

/-! ## The decision -/

/-- The identity has the flag, or a credential that is a role or the namespace
of one. -/
def Permitted (identity : Option Identity) (roles : Finset Keyword) : Prop :=
  ∃ user, identity = some user ∧
    (user.super = some true ∨
      ∃ credential ∈ user.credentials.getD ∅, ∃ role ∈ roles,
        credential = role ∨ role.namespaceKeyword? = some credential)

/-- Whatever the handler does, the guard calls it if the identity is permitted;
if not, the unauthorized exception is all that happens. -/
def DecidesAccess (identity : Option Identity) (roles : Finset Keyword) :
    Prop :=
  ∀ (World Rest Response : Type) (handler : Handler World Rest Response)
    (rest : Rest) (world : World),
    (Permitted identity roles →
      wrapAuthz handler roles ⟨identity, rest⟩ world =
        handler ⟨identity, rest⟩ world) ∧
    (¬Permitted identity roles → ∃ payload,
      wrapAuthz handler roles ⟨identity, rest⟩ world =
        (.error (.unauthorized payload), world))

section Decision

variable {roles : Finset Keyword} {user : Identity}

theorem mem_addNamespaces {credential : Keyword} :
    credential ∈ addNamespaces roles ↔
      ∃ role ∈ roles,
        credential = role ∨ role.namespaceKeyword? = some credential := by
  simp only [addNamespaces, Finset.mem_union, Finset.mem_biUnion,
    Option.mem_toFinset, Option.mem_def]
  constructor
  · rintro (hrole | ⟨role, hrole, hkeyword⟩)
    · exact ⟨credential, hrole, .inl rfl⟩
    · exact ⟨role, hrole, .inr hkeyword⟩
  · rintro ⟨role, hrole, rfl | hkeyword⟩
    · exact .inl hrole
    · exact .inr ⟨role, hrole, hkeyword⟩

theorem permitted_some :
    Permitted (some user) roles ↔
      user.super = some true ∨
        user.credentials.getD ∅ ∩ addNamespaces roles ≠ ∅ := by
  simp only [Permitted, ← Finset.nonempty_iff_ne_empty, Finset.Nonempty,
    Finset.mem_inter, mem_addNamespaces, Option.some.injEq]
  constructor
  · rintro ⟨_, rfl, hsuper | ⟨credential, hcredential, hrole⟩⟩
    · exact .inl hsuper
    · exact .inr ⟨credential, hcredential, hrole⟩
  · rintro (hsuper | ⟨credential, hcredential, hrole⟩)
    · exact ⟨user, rfl, .inl hsuper⟩
    · exact ⟨user, rfl, .inr ⟨credential, hcredential, hrole⟩⟩

/-- The base implementation decides as it should. -/
theorem allowBase_eq (roles : Finset Keyword) (user : Identity) :
    (Permitted (some user) roles →
      allowBase user.super user.credentials roles = .ok true) ∧
    (¬Permitted (some user) roles → ∃ payload,
      allowBase user.super user.credentials roles =
        .error (.unauthorized payload)) := by
  rw [permitted_some, not_or]
  constructor
  · rintro (hsuper | hcommon)
    · rw [allowBase, if_pos hsuper]
    · rw [allowBase]
      split
      · rfl
      · exact if_pos hcommon
  · rintro ⟨hsuper, hcommon⟩
    rw [allowBase, if_neg hsuper]
    exact ⟨_, if_neg hcommon⟩

theorem decidesAccess_none (roles : Finset Keyword) :
    DecidesAccess none roles := by
  intro World Rest Response handler rest world
  constructor
  · rintro ⟨user, hidentity, _⟩
    cases hidentity
  · intro _
    exact ⟨_, rfl⟩

theorem decidesAccess_arrayMap
    (hclass : user.mapClass = .persistentArrayMap) :
    DecidesAccess (some user) roles := by
  intro World Rest Response handler rest world
  have hallow : allow (some user) roles =
      allowBase user.super user.credentials roles := by
    simp only [allow, hclass]
  constructor
  · intro hpermitted
    rw [wrapAuthz, hallow, (allowBase_eq roles user).1 hpermitted]
  · intro hdenied
    obtain ⟨payload, hthrown⟩ := (allowBase_eq roles user).2 hdenied
    exact ⟨payload, by rw [wrapAuthz, hallow, hthrown]⟩

/-- On a hash map the guard throws in either case, and throws the wrong
exception. -/
theorem not_decidesAccess_hashMap
    (hclass : user.mapClass = .persistentHashMap) :
    ¬DecidesAccess (some user) roles := by
  intro hdecides
  let handler : Handler Unit Unit Unit := fun _ world => (.ok (), world)
  obtain ⟨hcalls, hthrows⟩ := hdecides Unit Unit Unit handler () ()
  have hresult : wrapAuthz handler roles ⟨some user, ()⟩ () =
      (.error (.illegalArgument .persistentHashMap), ()) := by
    simp only [wrapAuthz, allow, hclass]
  rw [hresult] at hcalls hthrows
  by_cases hpermitted : Permitted (some user) roles
  · have hcalled := hcalls hpermitted
    simp [handler] at hcalled
  · obtain ⟨payload, hthrown⟩ := hthrows hpermitted
    simp at hthrown

/-- No identity with more than eight entries is decided on. -/
theorem not_decidesAccess_large (hlarge : 8 < user.size) :
    ¬DecidesAccess (some user) roles :=
  not_decidesAccess_hashMap (user.large hlarge)

end Decision

/-- The guard decides as documented exactly for `nil` and for array maps. -/
theorem decidesAccess_iff (identity : Option Identity)
    (roles : Finset Keyword) :
    DecidesAccess identity roles ↔
      ∀ user, identity = some user →
        user.mapClass = .persistentArrayMap := by
  constructor
  · rintro hdecides user rfl
    cases hclass : user.mapClass with
    | persistentArrayMap => rfl
    | persistentHashMap =>
        exact absurd hdecides (not_decidesAccess_hashMap hclass)
  · intro harray
    cases identity with
    | none => exact decidesAccess_none roles
    | some user => exact decidesAccess_arrayMap (harray user rfl)

/-- A super user with eight further keys. -/
def largeSuperUser : Identity where
  super := some true
  credentials := none
  size := 9
  mapClass := .persistentHashMap
  entries_le := by decide
  large _ := rfl

theorem largeSuperUser_denied :
    Permitted (some largeSuperUser) {⟨none, "student"⟩} ∧
      ¬DecidesAccess (some largeSuperUser) {⟨none, "student"⟩} :=
  ⟨⟨largeSuperUser, rfl, .inl rfl⟩, not_decidesAccess_hashMap rfl⟩

end Songpark.Platform.Authz
