import Mathlib.Data.BitVec

/-!
# Fields of a word

Setting, clearing and replacing bits of a word are one operation: the bits under
a mask are taken from a value and all others are kept.
-/

namespace Songpark.BitField

variable {w : ℕ}

/-- The word with the bits under `mask` taken from `value`. -/
def insert (mask value word : BitVec w) : BitVec w :=
  (word &&& ~~~mask) ||| (value &&& mask)

variable {mask value : BitVec w}

theorem getLsbD_insert (word : BitVec w) (bit : ℕ) :
    (insert mask value word).getLsbD bit =
      if mask.getLsbD bit then value.getLsbD bit else word.getLsbD bit := by
  have hbound : word.getLsbD bit = true → bit < w :=
    BitVec.lt_of_getLsbD
  simp only [insert, BitVec.getLsbD_or, BitVec.getLsbD_and, BitVec.getLsbD_not]
  cases hmask : mask.getLsbD bit with
  | true => simp
  | false =>
      cases hword : word.getLsbD bit with
      | false => simp
      | true => simp [hbound hword]

theorem insert_mask (word : BitVec w) : insert mask mask word = word ||| mask := by
  apply BitVec.eq_of_getLsbD_eq
  intro bit hbit
  rw [getLsbD_insert, BitVec.getLsbD_or]
  cases mask.getLsbD bit <;> simp

theorem insert_zero (word : BitVec w) :
    insert mask 0 word = word &&& ~~~mask := by
  rw [insert, show (0 : BitVec w) = 0#w from rfl, BitVec.zero_and,
    BitVec.or_zero]

theorem insert_of_and_eq (hvalue : value &&& mask = value) (word : BitVec w) :
    insert mask value word = (word &&& ~~~mask) ||| value := by
  rw [insert, hvalue]

/-- The bits under the mask are those of the value. -/
theorem insert_and_mask (word : BitVec w) :
    insert mask value word &&& mask = value &&& mask := by
  apply BitVec.eq_of_getLsbD_eq
  intro bit hbit
  rw [BitVec.getLsbD_and, BitVec.getLsbD_and, getLsbD_insert]
  cases mask.getLsbD bit <;> simp

theorem getLsbD_eq_false_of_and {left right : BitVec w}
    (hdisjoint : left &&& right = 0) {bit : ℕ}
    (hbit : left.getLsbD bit = true) : right.getLsbD bit = false := by
  have hand : (left &&& right).getLsbD bit = false := by
    rw [hdisjoint]
    exact BitVec.getLsbD_zero
  rwa [BitVec.getLsbD_and, hbit, Bool.true_and] at hand

/-- The bits under a mask that is disjoint are kept. -/
theorem insert_and_of_disjoint {window : BitVec w}
    (hdisjoint : mask &&& window = 0) (word : BitVec w) :
    insert mask value word &&& window = word &&& window := by
  apply BitVec.eq_of_getLsbD_eq
  intro bit hbit
  rw [BitVec.getLsbD_and, BitVec.getLsbD_and, getLsbD_insert]
  cases hmask : mask.getLsbD bit with
  | false => rfl
  | true => simp [getLsbD_eq_false_of_and hdisjoint hmask]

end Songpark.BitField
