import Mathlib.Data.List.Induction
import Mathlib.Tactic.TypeStar

/-!
# What a list of labels sets last

A variable that every label either sets or leaves alone holds, after a list of
labels, the value that was set last.
-/

namespace Songpark.LastSet

variable {Label Value : Type*}

/-- The value that the last label with an effect sets. -/
def lastSet (sets : Label → Option Value) : List Label → Option Value
  | [] => none
  | label :: labels => (lastSet sets labels).or (sets label)

variable {sets : Label → Option Value} {labels later : List Label}
variable {label : Label}

theorem lastSet_append :
    lastSet sets (labels ++ later) =
      (lastSet sets later).or (lastSet sets labels) := by
  induction labels with
  | nil => simp [lastSet]
  | cons label labels ih =>
      rw [List.cons_append, lastSet, ih, lastSet, Option.or_assoc]

@[simp]
theorem lastSet_concat :
    lastSet sets (labels ++ [label]) =
      (sets label).or (lastSet sets labels) := by
  simp [lastSet_append, lastSet]

theorem lastSet_eq_none :
    lastSet sets labels = none ↔ ∀ label ∈ labels, sets label = none := by
  induction labels with
  | nil => simp [lastSet]
  | cons label labels ih => simp [lastSet, ih, and_comm]

/-- If all labels with an effect set one value and there is such a label, then
that value was set last. -/
theorem lastSet_eq_some {value : Value}
    (hall : ∀ label ∈ labels, sets label = none ∨ sets label = some value)
    (hmem : ∃ label ∈ labels, sets label = some value) :
    lastSet sets labels = some value := by
  induction labels with
  | nil => simp at hmem
  | cons label labels ih =>
      have hrest : ∀ label ∈ labels, sets label = none ∨ sets label = some value :=
        fun label hlabel => hall label (List.mem_cons_of_mem _ hlabel)
      rw [lastSet]
      by_cases hlater : ∃ label ∈ labels, sets label = some value
      · rw [ih hrest hlater]
        rfl
      · have hnone : lastSet sets labels = none :=
          lastSet_eq_none.mpr fun label hlabel =>
            (hrest label hlabel).resolve_right fun hsets =>
              hlater ⟨label, hlabel, hsets⟩
        rw [hnone, Option.none_or]
        obtain ⟨setter, hsetter, hsets⟩ := hmem
        rcases List.mem_cons.mp hsetter with rfl | hin
        · exact hsets
        · exact absurd ⟨setter, hin, hsets⟩ hlater

theorem exists_of_lastSet {value : Value}
    (hlast : lastSet sets labels = some value) :
    ∃ label ∈ labels, sets label = some value := by
  induction labels with
  | nil => cases hlast
  | cons label labels ih =>
      rw [lastSet] at hlast
      rcases Option.or_eq_some_iff.mp hlast with hlater | ⟨_, hset⟩
      · obtain ⟨later, hmem, hset⟩ := ih hlater
        exact ⟨later, List.mem_cons_of_mem _ hmem, hset⟩
      · exact ⟨label, List.mem_cons_self, hset⟩

theorem lastSet_map {Other : Type*} (f : Value → Other) :
    lastSet (fun label => (sets label).map f) labels =
      (lastSet sets labels).map f := by
  induction labels with
  | nil => rfl
  | cons label labels ih => rw [lastSet, lastSet, ih, Option.map_or]

theorem foldl_getD (init : Value) :
    labels.foldl (fun seen label => (sets label).getD seen) init =
      (lastSet sets labels).getD init := by
  induction labels using List.reverseRecOn with
  | nil => rfl
  | append_singleton labels label ih =>
      rw [List.foldl_append, List.foldl_cons, List.foldl_nil, ih, lastSet_concat]
      cases sets label <;> rfl

end Songpark.LastSet
