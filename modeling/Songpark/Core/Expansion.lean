import Mathlib.Data.Finset.Lattice.Union

/-!
# Sets with what their members stand for

A set is expanded by adding, for every member, the members of another set that
this one stands for.  The expansion goes along with inclusion and with unions.
One pass is enough when what is added stands for nothing itself.
-/

namespace Songpark.Expansion

variable {α : Type*} [DecidableEq α]

/-- A set together with everything its members stand for. -/
def expand (standsFor : α → Finset α) (members : Finset α) : Finset α :=
  members ∪ members.biUnion standsFor

variable {standsFor : α → Finset α} {members others : Finset α}

theorem expand_mono (hsubset : members ⊆ others) :
    expand standsFor members ⊆ expand standsFor others :=
  Finset.union_subset_union hsubset
    (Finset.biUnion_subset_biUnion_of_subset_left standsFor hsubset)

theorem expand_union :
    expand standsFor (members ∪ others) =
      expand standsFor members ∪ expand standsFor others := by
  simp only [expand, Finset.union_biUnion]
  exact Finset.union_union_union_comm _ _ _ _

/-- Members that stand for nothing are all there is. -/
theorem expand_eq_self
    (hnothing : ∀ member ∈ members, standsFor member = ∅) :
    expand standsFor members = members := by
  apply Finset.union_eq_left.mpr
  intro item hitem
  obtain ⟨member, hmember, hstands⟩ := Finset.mem_biUnion.mp hitem
  rw [hnothing member hmember] at hstands
  exact absurd hstands (Finset.notMem_empty item)

/-- A second pass adds nothing to a set whose additions stand for nothing. -/
theorem expand_idem
    (hadded : ∀ member ∈ members, ∀ added ∈ standsFor member,
      standsFor added = ∅) :
    expand standsFor (expand standsFor members) =
      expand standsFor members := by
  have hsecond : expand standsFor (members.biUnion standsFor) =
      members.biUnion standsFor := by
    apply expand_eq_self
    intro added hmem
    obtain ⟨member, hmember, hstands⟩ := Finset.mem_biUnion.mp hmem
    exact hadded member hmember added hstands
  calc expand standsFor (expand standsFor members)
      = expand standsFor members ∪
          expand standsFor (members.biUnion standsFor) := expand_union
    _ = (members ∪ members.biUnion standsFor) ∪
          members.biUnion standsFor := by rw [hsecond, expand]
    _ = expand standsFor members := by
          rw [Finset.union_assoc, Finset.union_self, expand]

end Songpark.Expansion
