import Mathlib.Data.Nat.Notation
import Mathlib.Tactic.Common

/-!
# Words as rows of lanes

A word can hold several narrow values side by side, each in a lane of its own.
This file says what becomes of the lanes when a value is widened, shifted to its
lane and joined to the word by an `or`: a value without sign stays in its lane,
and a negative one fills all lanes above.
-/

namespace Songpark.Lanes

variable {width size : ℕ}

/-- The lane of a number, counted from the low end of the word. -/
def lane (width : ℕ) (word : BitVec size) (index : ℕ) : BitVec width :=
  (word >>> (width * index)).setWidth width

theorem getLsbD_lane (word : BitVec size) (index : ℕ) {bit : ℕ}
    (hbit : bit < width) :
    (lane width word index).getLsbD bit =
      word.getLsbD (width * index + bit) := by
  simp only [lane, BitVec.getLsbD_setWidth, BitVec.getLsbD_ushiftRight, hbit,
    decide_true, Bool.true_and]

@[simp]
theorem lane_zero (index : ℕ) : lane width (0 : BitVec size) index = 0 := by
  simp [lane]

theorem lane_or (first second : BitVec size) (index : ℕ) :
    lane width (first ||| second) index =
      lane width first index ||| lane width second index := by
  apply BitVec.eq_of_getLsbD_eq
  intro bit hbit
  simp only [BitVec.getLsbD_or, getLsbD_lane _ _ hbit]

section Shifted

variable {value : BitVec width} {index position : ℕ}

/-- A bit of a lane, relative to the lane the value was shifted to. -/
theorem getLsbD_lane_shiftLeft (word : BitVec size) {bit : ℕ}
    (hindex : width * (index + 1) ≤ size) (hbit : bit < width) :
    (lane width (word <<< (width * position)) index).getLsbD bit =
      if index < position then false
      else word.getLsbD (width * (index - position) + bit) := by
  have hlane : width * (index + 1) = width * index + width := Nat.mul_succ _ _
  rw [getLsbD_lane _ _ hbit, BitVec.getLsbD_shiftLeft,
    decide_eq_true (by omega), Bool.true_and]
  by_cases hlt : index < position
  · have hstep : width * (index + 1) ≤ width * position :=
      Nat.mul_le_mul_left width hlt
    rw [if_pos hlt, decide_eq_true (by omega), Bool.not_true, Bool.false_and]
  · have hle : width * position ≤ width * index :=
      Nat.mul_le_mul_left width (Nat.le_of_not_lt hlt)
    rw [if_neg hlt, decide_eq_false (by omega), Bool.not_false, Bool.true_and,
      Nat.mul_sub]
    congr 1
    omega

/-- A value widened by zeros stays in its lane. -/
theorem lane_setWidth_shiftLeft (hindex : width * (index + 1) ≤ size) :
    lane width (value.setWidth size <<< (width * position)) index =
      if index = position then value else 0 := by
  apply BitVec.eq_of_getLsbD_eq
  intro bit hbit
  have hlane : width * (index + 1) = width * index + width := Nat.mul_succ _ _
  rw [getLsbD_lane_shiftLeft _ hindex hbit]
  obtain hlt | heq | hgt := Nat.lt_trichotomy index position
  · rw [if_pos hlt, if_neg (Nat.ne_of_lt hlt), BitVec.ofNat_eq_ofNat,
      BitVec.getLsbD_zero]
  · rw [if_neg (by omega), if_pos heq, heq, Nat.sub_self, Nat.mul_zero,
      Nat.zero_add, BitVec.getLsbD_setWidth, decide_eq_true (by omega),
      Bool.true_and]
  · have habove : width * 1 ≤ width * (index - position) :=
      Nat.mul_le_mul_left width (by omega)
    rw [if_neg (by omega), if_neg (by omega), BitVec.getLsbD_setWidth,
      BitVec.getLsbD_of_ge value _ (by omega), Bool.and_false,
      BitVec.ofNat_eq_ofNat, BitVec.getLsbD_zero]

/-- A value widened by its sign fills the lanes above its own with the sign. -/
theorem lane_signExtend_shiftLeft (hindex : width * (index + 1) ≤ size) :
    lane width (value.signExtend size <<< (width * position)) index =
      if index < position then 0
      else if index = position then value
      else BitVec.fill width value.msb := by
  apply BitVec.eq_of_getLsbD_eq
  intro bit hbit
  have hlane : width * (index + 1) = width * index + width := Nat.mul_succ _ _
  rw [getLsbD_lane_shiftLeft _ hindex hbit]
  obtain hlt | heq | hgt := Nat.lt_trichotomy index position
  · rw [if_pos hlt, if_pos hlt, BitVec.ofNat_eq_ofNat, BitVec.getLsbD_zero]
  · rw [if_neg (by omega), if_neg (by omega), if_pos heq, heq, Nat.sub_self,
      Nat.mul_zero, Nat.zero_add, BitVec.getLsbD_signExtend,
      decide_eq_true (by omega), Bool.true_and, if_pos hbit]
  · have habove : width * 1 ≤ width * (index - position) :=
      Nat.mul_le_mul_left width (by omega)
    have hinside : width * (index - position) ≤ width * index :=
      Nat.mul_le_mul_left width (Nat.sub_le _ _)
    rw [if_neg (by omega), if_neg (by omega), if_neg (by omega),
      BitVec.getLsbD_signExtend, decide_eq_true (by omega), Bool.true_and,
      if_neg (by omega), BitVec.getLsbD_fill, decide_eq_true hbit,
      Bool.and_true]

end Shifted

/-! ## Values that are joined by an `or` -/

theorem or_fill_eq_iff {value : BitVec width} {bit : Bool} :
    value ||| BitVec.fill width bit = value ↔
      (bit = true → value = BitVec.allOnes width) := by
  cases bit with
  | false => simp [BitVec.fill_false]
  | true =>
      rw [BitVec.fill_true, BitVec.or_allOnes]
      simp only [forall_const]
      exact eq_comm

end Songpark.Lanes
