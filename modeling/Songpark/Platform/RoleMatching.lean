import Songpark.Core.Expansion
import Songpark.Platform.Authz
import Mathlib.Data.List.TakeWhile

/-!
# Matching credentials with roles

The base implementation of the guard expands the roles, not the credentials:
`:staff` covers `:staff/get`, while `:staff/get` covers neither `:staff` nor
`:staff/post`.  The main result, `roleMatching`, says for all sets which calls
are allowed, and what follows for larger sets.
-/

namespace Songpark.Platform.Authz

open Songpark.Expansion

/-- No slash in the namespace, so the namespace is itself the text of a keyword
without one. -/
def Keyword.SlashFree (keyword : Keyword) : Prop :=
  ∀ ns, keyword.ns = some ns → '/' ∉ ns.toList

/-- A credential covers a role that it equals, or whose namespace it names. -/
def Keyword.Covers (credential role : Keyword) : Prop :=
  credential = role ∨ ∃ ns, role.ns = some ns ∧ credential = ⟨none, ns⟩

/-- Some credential covers some role. -/
def Satisfies (credentials : Option (Finset Keyword))
    (roles : Finset Keyword) : Prop :=
  ∃ credential ∈ credentials.getD ∅, ∃ role ∈ roles, credential.Covers role

/-- The call throws that it is not authorised, and says what was asked. -/
def Refused (super : Option Bool) (credentials : Option (Finset Keyword))
    (roles : Finset Keyword) : Prop :=
  ∃ payload, allowBase super credentials roles =
      .error (.unauthorized payload) ∧
    payload.super = super ∧ payload.credentials = credentials ∧
    payload.roles = roles

/-- What a call of the base implementation without the flag comes to. -/
structure RoleMatching (super : Option Bool)
    (credentials : Option (Finset Keyword)) (roles : Finset Keyword) :
    Prop where
  allows_iff : allowBase super credentials roles = .ok true ↔
    Satisfies credentials roles
  throws : ¬ Satisfies credentials roles → Refused super credentials roles
  monotone : ∀ more others, credentials.getD ∅ ⊆ more.getD ∅ →
    roles ⊆ others → allowBase super credentials roles = .ok true →
      allowBase super more others = .ok true
  unmatched : (∀ credential ∈ credentials.getD ∅, credential.ns ≠ none) →
    (∀ role ∈ roles, role.ns = none) → Refused super credentials roles
  idempotent : addNamespaces (addNamespaces roles) = addNamespaces roles
  union : ∀ others, addNamespaces (roles ∪ others) =
    addNamespaces roles ∪ addNamespaces others

/-! ## The keyword of a namespace -/

section Namespaces

variable {role : Keyword} {ns : String}

theorem ofString_of_no_slash (hslash : '/' ∉ ns.toList) :
    Keyword.ofString ns = ⟨none, ns⟩ := by
  have hrest : ns.toList.dropWhile (· ≠ '/') = [] := by
    apply List.dropWhile_eq_nil_iff.mpr
    intro c hc
    have hne : c ≠ '/' := fun heq => hslash (heq ▸ hc)
    simpa using hne
  rw [Keyword.ofString, List.span_eq_takeWhile_dropWhile, hrest]

theorem namespaceKeyword?_eq (hfree : role.SlashFree) :
    role.namespaceKeyword? = role.ns.map fun ns => ⟨none, ns⟩ := by
  cases hns : role.ns with
  | none => rw [Keyword.namespaceKeyword?, hns, Option.map_none, Option.map_none]
  | some ns =>
      rw [Keyword.namespaceKeyword?, hns, Option.map_some, Option.map_some,
        ofString_of_no_slash (hfree ns hns)]

end Namespaces

/-! ## The expanded roles -/

section Expanded

variable {roles others : Finset Keyword} {credential : Keyword}

/-- A role stands for the keyword of its namespace. -/
theorem addNamespaces_eq_expand (roles : Finset Keyword) :
    addNamespaces roles =
      expand (fun role => role.namespaceKeyword?.toFinset) roles := rfl

theorem addNamespaces_union (roles others : Finset Keyword) :
    addNamespaces (roles ∪ others) =
      addNamespaces roles ∪ addNamespaces others := by
  simp only [addNamespaces_eq_expand, expand_union]

theorem addNamespaces_mono (hsubset : roles ⊆ others) :
    addNamespaces roles ⊆ addNamespaces others := by
  simp only [addNamespaces_eq_expand]
  exact expand_mono hsubset

/-- The added keywords have no namespace. -/
theorem addNamespaces_idem (hroles : ∀ role ∈ roles, role.SlashFree) :
    addNamespaces (addNamespaces roles) = addNamespaces roles := by
  simp only [addNamespaces_eq_expand]
  apply expand_idem
  intro role hrole added hadded
  rw [namespaceKeyword?_eq (hroles role hrole), Option.mem_toFinset] at hadded
  obtain ⟨ns, _, rfl⟩ := Option.mem_map.mp hadded
  rfl

theorem mem_addNamespaces_iff_covers
    (hroles : ∀ role ∈ roles, role.SlashFree) :
    credential ∈ addNamespaces roles ↔
      ∃ role ∈ roles, credential.Covers role := by
  rw [mem_addNamespaces]
  apply exists_congr
  intro role
  apply and_congr_right
  intro hrole
  rw [namespaceKeyword?_eq (hroles role hrole), Option.map_eq_some_iff,
    Keyword.Covers]
  simp only [eq_comm]

/-- One pass is not enough for a namespace with a slash. -/
example : addNamespaces (addNamespaces {⟨some "a/b", "c"⟩}) ≠
    addNamespaces {⟨some "a/b", "c"⟩} := by decide +kernel

end Expanded

/-! ## The decision -/

section Matching

variable {super : Option Bool} {credentials more : Option (Finset Keyword)}
variable {roles others : Finset Keyword}

/-- Without the flag a call is allowed when the sets have something in
common. -/
theorem allowBase_of_not_super (hsuper : super ≠ some true) :
    allowBase super credentials roles =
      if credentials.getD ∅ ∩ addNamespaces roles ≠ ∅ then .ok true
      else throwException super credentials roles := by
  rw [allowBase, if_neg hsuper]

theorem allowBase_eq_ok_iff (hsuper : super ≠ some true) :
    allowBase super credentials roles = .ok true ↔
      credentials.getD ∅ ∩ addNamespaces roles ≠ ∅ := by
  rw [allowBase_of_not_super hsuper]
  split_ifs with hcommon
  · exact iff_of_true rfl hcommon
  · exact iff_of_false (fun hok => nomatch hok) hcommon

theorem satisfies_iff (hroles : ∀ role ∈ roles, role.SlashFree) :
    Satisfies credentials roles ↔
      credentials.getD ∅ ∩ addNamespaces roles ≠ ∅ := by
  rw [← Finset.nonempty_iff_ne_empty]
  simp only [Satisfies, Finset.Nonempty, Finset.mem_inter,
    mem_addNamespaces_iff_covers hroles]

theorem allowBase_mono (hsuper : super ≠ some true)
    (hcredentials : credentials.getD ∅ ⊆ more.getD ∅)
    (hroles : roles ⊆ others)
    (hallowed : allowBase super credentials roles = .ok true) :
    allowBase super more others = .ok true := by
  rw [allowBase_eq_ok_iff hsuper, ← Finset.nonempty_iff_ne_empty] at *
  exact hallowed.mono
    (Finset.inter_subset_inter hcredentials (addNamespaces_mono hroles))

/-- Credentials with a namespace cover only themselves. -/
theorem not_satisfies_of_namespaces
    (hcredentials : ∀ credential ∈ credentials.getD ∅, credential.ns ≠ none)
    (hroles : ∀ role ∈ roles, role.ns = none) :
    ¬ Satisfies credentials roles := by
  rintro ⟨credential, hcredential, role, hrole, rfl | ⟨ns, hns, _⟩⟩
  · exact hcredentials credential hcredential (hroles credential hrole)
  · rw [hroles role hrole] at hns
    cases hns

end Matching

/-- The guard without the flag allows exactly what some credential covers. -/
theorem roleMatching (super : Option Bool) (hsuper : super ≠ some true)
    (credentials : Option (Finset Keyword)) (roles : Finset Keyword)
    (hroles : ∀ role ∈ roles, role.SlashFree) :
    RoleMatching super credentials roles := by
  have hallows : allowBase super credentials roles = .ok true ↔
      Satisfies credentials roles := by
    rw [allowBase_eq_ok_iff hsuper, satisfies_iff hroles]
  have hthrows : ¬ Satisfies credentials roles →
      Refused super credentials roles := by
    intro hnone
    rw [satisfies_iff hroles] at hnone
    have hthrown : allowBase super credentials roles =
        throwException super credentials roles := by
      rw [allowBase_of_not_super hsuper, if_neg hnone]
    exact ⟨_, hthrown, rfl, rfl, rfl⟩
  exact {
    allows_iff := hallows
    throws := hthrows
    monotone := fun _ _ => allowBase_mono hsuper
    unmatched := fun hnamed hplain =>
      hthrows (not_satisfies_of_namespaces hnamed hplain)
    idempotent := addNamespaces_idem hroles
    union := addNamespaces_union roles }

theorem slashFree_staff :
    ∀ role ∈ ({⟨some "staff", "get"⟩, ⟨some "staff", "post"⟩} :
      Finset Keyword), role.SlashFree := by
  intro role hrole ns hns
  simp only [Finset.mem_insert, Finset.mem_singleton] at hrole
  obtain rfl | rfl := hrole <;> cases hns <;> decide

/-- A member of the staff may do what any of its members may do. -/
theorem roleMatching_staff :
    RoleMatching none (some {⟨none, "staff"⟩})
      {⟨some "staff", "get"⟩, ⟨some "staff", "post"⟩} :=
  roleMatching none (by decide) _ _ slashFree_staff

end Songpark.Platform.Authz
