import Mathlib.Data.List.Forall2

/-!
# Lists compared item by item or as sets

A relation on items becomes one on lists in two ways: item by item, or without
regard to order and repetition.  Both are equivalences where the relation is one
on the items that occur, which is what an induction over nested lists needs.
-/

namespace Songpark.Matching

variable {Item : Type} {R : Item → Item → Prop} {left middle right : List Item}

/-- Each item of one list is related to an item of the other. -/
def Matched (R : Item → Item → Prop) (left right : List Item) : Prop :=
  (∀ first ∈ left, ∃ second ∈ right, R first second) ∧
    ∀ second ∈ right, ∃ first ∈ left, R first second

theorem matched_refl (hrefl : ∀ item ∈ left, R item item) :
    Matched R left left :=
  ⟨fun item hitem => ⟨item, hitem, hrefl item hitem⟩,
    fun item hitem => ⟨item, hitem, hrefl item hitem⟩⟩

theorem matched_symm (hsymm : ∀ first ∈ left, ∀ second, R first second →
      R second first) (hmatched : Matched R left right) :
    Matched R right left := by
  constructor
  · intro second hsecond
    obtain ⟨first, hfirst, hrelated⟩ := hmatched.2 second hsecond
    exact ⟨first, hfirst, hsymm first hfirst second hrelated⟩
  · intro first hfirst
    obtain ⟨second, hsecond, hrelated⟩ := hmatched.1 first hfirst
    exact ⟨second, hsecond, hsymm first hfirst second hrelated⟩

theorem matched_trans (htrans : ∀ first ∈ left, ∀ second third,
      R first second → R second third → R first third)
    (hleft : Matched R left middle) (hright : Matched R middle right) :
    Matched R left right := by
  constructor
  · intro first hfirst
    obtain ⟨second, hsecond, hrelated⟩ := hleft.1 first hfirst
    obtain ⟨third, hthird, hrelated'⟩ := hright.1 second hsecond
    exact ⟨third, hthird, htrans first hfirst second third hrelated hrelated'⟩
  · intro third hthird
    obtain ⟨second, hsecond, hrelated'⟩ := hright.2 third hthird
    obtain ⟨first, hfirst, hrelated⟩ := hleft.2 second hsecond
    exact ⟨first, hfirst, htrans first hfirst second third hrelated hrelated'⟩

theorem forall₂_symm (hsymm : ∀ first ∈ left, ∀ second, R first second →
      R second first) (hrelated : List.Forall₂ R left right) :
    List.Forall₂ R right left := by
  induction hrelated with
  | nil => exact .nil
  | cons hfirst _ ih =>
      refine .cons (hsymm _ List.mem_cons_self _ hfirst) (ih ?_)
      exact fun item hitem => hsymm item (List.mem_cons_of_mem _ hitem)

theorem forall₂_trans (htrans : ∀ first ∈ left, ∀ second third,
      R first second → R second third → R first third)
    (hleft : List.Forall₂ R left middle)
    (hright : List.Forall₂ R middle right) : List.Forall₂ R left right := by
  induction hleft generalizing right with
  | nil => exact hright
  | cons hfirst _ ih =>
      cases hright with
      | cons hsecond hrest =>
          refine .cons (htrans _ List.mem_cons_self _ _ hfirst hsecond)
            (ih ?_ hrest)
          exact fun item hitem => htrans item (List.mem_cons_of_mem _ hitem)

end Songpark.Matching
