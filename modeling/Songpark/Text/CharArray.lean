import Songpark.Text.Address

/-!
# Character arrays

An array of characters has a fixed size, and a store outside it has no defined
effect.  `scanf("%s")` stores the characters of a word one by one and a NUL
after them, without being told the size; so a word fits exactly when it is
shorter than the array.
-/

namespace Songpark.Address

open Songpark.Scan

structure CharArray (size : ℕ) where
  cells : List Char
  length_cells : cells.length = size

theorem cString_eq_self {text : Text} (hended : '\x00' ∉ text) :
    cString text = text := by
  rw [cString, List.takeWhile_eq_self_iff]
  intro c hc
  exact decide_eq_true fun heq => hended (heq ▸ hc)

namespace CharArray

variable {size : ℕ}

/-- The text in the array, up to its NUL. -/
def text (array : CharArray size) : Text := cString array.cells

/-- An array with a text at its start. -/
def holding (text : Text) : CharArray size where
  cells := (text ++ List.replicate size '\x00').take size
  length_cells := by simp

def store (array : CharArray size) (index : ℕ) (value : Char) :
    Option (CharArray size) :=
  if index < size then
    some ⟨array.cells.set index value, by
      rw [List.length_set, array.length_cells]⟩
  else none

/-- The stores of a word from an index on, the NUL last. -/
def storeFrom (array : CharArray size) : ℕ → Text → Option (CharArray size)
  | index, [] => array.store index '\x00'
  | index, c :: rest =>
      match array.store index c with
      | some stored => stored.storeFrom (index + 1) rest
      | none => none

/-- `scanf("%s", array)`: the array and the rest of the input; at the end of the
input nothing is stored. -/
def scanInto (array : CharArray size) (input : Text) :
    Option (CharArray size × Text) :=
  match scanWord input with
  | some (word, rest) => (array.storeFrom 0 word).map fun stored => (stored, rest)
  | none => some (array, [])

theorem store_inside (array : CharArray size) {index : ℕ}
    (hindex : index < size) (value : Char) :
    ∃ stored, array.store index value = some stored ∧
      stored.cells = array.cells.set index value := by
  rw [store, if_pos hindex]
  exact ⟨_, rfl, rfl⟩

theorem store_outside (array : CharArray size) {index : ℕ}
    (hindex : ¬ index < size) (value : Char) :
    array.store index value = none := by
  rw [store, if_neg hindex]

/-- A word and its NUL have to end inside the array. -/
theorem storeFrom_eq_none_iff (array : CharArray size) (index : ℕ)
    (word : Text) :
    array.storeFrom index word = none ↔ size ≤ index + word.length := by
  induction word generalizing array index with
  | nil =>
      rw [storeFrom, List.length_nil, Nat.add_zero]
      by_cases hindex : index < size
      · obtain ⟨stored, hstored, _⟩ := array.store_inside hindex '\x00'
        simp only [hstored, reduceCtorEq, false_iff]
        omega
      · simp only [array.store_outside hindex, true_iff]
        omega
  | cons c rest ih =>
      rw [storeFrom, List.length_cons]
      by_cases hindex : index < size
      · obtain ⟨stored, hstored, _⟩ := array.store_inside hindex c
        simp only [hstored, ih]
        omega
      · simp only [array.store_outside hindex, true_iff]
        omega

/-- The cells before the word and after its NUL stay. -/
theorem storeFrom_cells {array stored : CharArray size} {index : ℕ}
    {word : Text} (hstored : array.storeFrom index word = some stored) :
    stored.cells = array.cells.take index ++ word ++
      '\x00' :: array.cells.drop (index + word.length + 1) := by
  induction word generalizing array index with
  | nil =>
      rw [storeFrom, store] at hstored
      split_ifs at hstored with hindex
      cases hstored
      have hlength : index < array.cells.length := by
        rw [array.length_cells]
        exact hindex
      simp only [List.set_eq_take_append_cons_drop, if_pos hlength,
        List.append_nil, List.length_nil, Nat.add_zero]
  | cons c rest ih =>
      rw [storeFrom] at hstored
      by_cases hindex : index < size
      · obtain ⟨first, hfirst, hcells⟩ := array.store_inside hindex c
        simp only [hfirst] at hstored
        have hlength : index < array.cells.length := by
          rw [array.length_cells]
          exact hindex
        have htake : first.cells.take (index + 1) =
            array.cells.take index ++ [c] := by
          rw [hcells, List.set_eq_take_append_cons_drop, if_pos hlength,
            List.take_append, List.length_take, List.take_take]
          simp [Nat.min_eq_left hlength.le]
        have hdrop : first.cells.drop (index + 1 + rest.length + 1) =
            array.cells.drop (index + (rest.length + 1) + 1) := by
          rw [hcells, List.drop_set_of_lt (by omega)]
          congr 1
          omega
        rw [ih hstored, htake, hdrop]
        simp
      · rw [array.store_outside hindex] at hstored
        cases hstored

/-- A stored word is read back, up to a NUL of its own. -/
theorem text_storeFrom {array stored : CharArray size} {word : Text}
    (hstored : array.storeFrom 0 word = some stored) :
    stored.text = cString word := by
  rw [text, cString, storeFrom_cells hstored, List.take_zero, List.nil_append,
    cString, List.takeWhile_append]
  split_ifs with hall
  · rw [List.takeWhile_cons_of_neg (by simp), List.append_nil]
    exact ((List.takeWhile_prefix _).eq_of_length hall).symm
  · rfl

/-- A word that fits is stored and read back. -/
theorem storeFrom_fits (array : CharArray size) {word : Text}
    (hfits : word.length < size) (hended : '\x00' ∉ word) :
    ∃ stored, array.storeFrom 0 word = some stored ∧ stored.text = word := by
  cases hstored : array.storeFrom 0 word with
  | none =>
      have hlong := (storeFrom_eq_none_iff array 0 word).mp hstored
      omega
  | some stored =>
      exact ⟨stored, rfl, by rw [text_storeFrom hstored, cString_eq_self hended]⟩

end CharArray

end Songpark.Address
