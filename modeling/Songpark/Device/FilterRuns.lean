import Songpark.Core.LastSet
import Songpark.Device.MixerControl

/-!
# Runs of the filter driver

A filter block has fifteen coefficients, two registers for loading them, and an
enable register for each of three filters.  The type of a call may name several
filters at once: it is a union of flags.  The check in front of the bit tests
compares the type with the largest flag, as if it were one of them, and refuses
every union of the low pass with another filter.
-/

namespace Songpark.MixerControl

open Songpark.LastSet Songpark.RegisterFile Songpark.RegIo

/-- A non-empty union of the three flags. -/
structure FilterMask where
  band : Bool
  high : Bool
  low : Bool
  nonempty : band || high || low

def unionOf (band high low : Bool) : Word :=
  (if band then filterBandPass else 0) |||
    (if high then filterHighPass else 0) |||
    (if low then filterLowPass else 0)

/-- The type that names the filters of a mask. -/
def FilterMask.code (mask : FilterMask) : Word :=
  unionOf mask.band mask.high mask.low

inductive FilterCall
  | setCoefficients (coeff : Fin 15 → Word)
  | setFilterType (mask : FilterMask) (enable : Word)

namespace FilterCall

def program (filterBase : Device) : FilterCall → DeviceM Word
  | .setCoefficients coeff => MixerControl.setCoefficients filterBase coeff
  | .setFilterType mask enable =>
      MixerControl.setFilterType filterBase mask.code enable

/-- The value a call is to leave in a register, if it is to change it. -/
def sets (reg : ℕ) : FilterCall → Option Word
  | .setCoefficients coeff =>
      if hreg : reg < 15 then some (coeff ⟨reg, hreg⟩)
      else if reg = 15 then some 0
      else if reg = 16 then some 1
      else none
  | .setFilterType mask enable =>
      if reg = 17 ∧ mask.high ∨ reg = 18 ∧ mask.band ∨ reg = 19 ∧ mask.low then
        some enable
      else none

/-- The types that the check lets through. -/
def Accepted : FilterCall → Prop
  | .setCoefficients _ => True
  | .setFilterType mask _ => mask.code < filterTypeMax

end FilterCall

/-- A sequence of calls and what they return. -/
def runCalls (filterBase : Device) : List FilterCall → DeviceM (List Word)
  | [] => return []
  | call :: calls => do
      let result ← call.program filterBase
      let results ← runCalls filterBase calls
      return result :: results

/-- Every call succeeds, and every register holds what was set last. -/
structure RunCorrect (filterBase : Device) (calls : List FilterCall)
    (board : MixerBoard) : Prop where
  succeeds : ∀ result ∈ (runCalls filterBase calls board).1, result = 0
  registers : ∀ reg,
    (runCalls filterBase calls board).2.content
        ⟨filterBase, filterControlReg reg⟩ =
      (lastSet (FilterCall.sets reg) calls).getD
        (board.content ⟨filterBase, filterControlReg reg⟩)

section Coefficients

variable {filterBase : Device} {board : MixerBoard}

theorem writeEach_content (writes : List (ℕ × Word)) (offset : ℕ) :
    (writeEach filterBase writes board).2.content ⟨filterBase, offset⟩ =
      (lastSet (fun write => if write.1 = offset then some write.2 else none)
        writes).getD (board.content ⟨filterBase, offset⟩) := by
  induction writes generalizing board with
  | nil => rfl
  | cons write writes ih =>
      rw [writeEach, RegisterFile.bind_apply, ih, lastSet, Option.getD_or,
        writeReg_content, Function.update_apply]
      by_cases hoffset : write.1 = offset
      · simp [hoffset]
      · simp [hoffset, Ne.symm hoffset]

/-- The registers are four bytes apart, so each coefficient has its own. -/
theorem lastSet_coefficients (coeff : Fin 15 → Word) (reg : ℕ) :
    lastSet (fun write : ℕ × Word =>
        if write.1 = filterControlReg reg then some write.2 else none)
      ((List.finRange 15).map fun i => (i.val * 4, coeff i)) =
      if hreg : reg < 15 then some (coeff ⟨reg, hreg⟩) else none := by
  split_ifs with hreg
  · apply lastSet_eq_some
    · intro write hwrite
      obtain ⟨index, _, rfl⟩ := List.mem_map.mp hwrite
      by_cases hindex : index.val = reg
      · subst hindex
        simp [Nat.mul_comm]
      · left
        rw [if_neg]
        simp only [filterControlReg]
        omega
    · refine ⟨(reg * 4, coeff ⟨reg, hreg⟩), ?_, by simp [Nat.mul_comm]⟩
      exact List.mem_map.mpr ⟨⟨reg, hreg⟩, List.mem_finRange _, rfl⟩
  · rw [lastSet_eq_none]
    intro write hwrite
    obtain ⟨index, _, rfl⟩ := List.mem_map.mp hwrite
    rw [if_neg]
    simp only [filterControlReg]
    omega

theorem setCoefficients_apply (hbase : board.base filterBase ≠ .null)
    (coeff : Fin 15 → Word) (reg : ℕ) :
    (setCoefficients filterBase coeff board).1 = 0 ∧
      (setCoefficients filterBase coeff board).2.content
          ⟨filterBase, filterControlReg reg⟩ =
        ((FilterCall.setCoefficients coeff).sets reg).getD
          (board.content ⟨filterBase, filterControlReg reg⟩) := by
  have hnull : (board.base filterBase == .null) = false := by
    simpa using hbase
  have hcell : ∀ other, (⟨filterBase, filterControlReg reg⟩ : Register) =
      ⟨filterBase, filterControlReg other⟩ ↔ reg = other := by
    intro other
    simp only [Cell.mk.injEq, true_and, filterControlReg]
    omega
  have hrun : setCoefficients filterBase coeff board =
      (0, (writeReg filterBase (filterControlReg 15) 0
        (writeEach filterBase
          ((List.finRange 15).map fun i => (i.val * 4, coeff i))
          (writeReg filterBase (filterControlReg 16) 1
            (writeReg filterBase (filterControlReg 15) 0
              (writeReg filterBase (filterControlReg 15) 1
                board).2).2).2).2).2) := by
    simp [setCoefficients, hnull]
  rw [hrun]
  refine ⟨rfl, ?_⟩
  simp only [writeReg_content, Function.update_apply, hcell, writeEach_content,
    lastSet_coefficients, FilterCall.sets]
  by_cases hreg : reg < 15
  · have hlast : reg ≠ 15 := by omega
    simp [hreg, hlast]
  · by_cases hlast : reg = 15
    · simp [hlast]
    · by_cases hload : reg = 16
      · simp [hload]
      · simp [hreg, hlast, hload]

end Coefficients

section Types

variable {filterBase : Device} {board : MixerBoard} {mask : FilterMask}

/-- A flag is found in the type exactly when its filter is named. -/
theorem unionOf_flags : ∀ band high low : Bool,
    (unionOf band high low &&& filterHighPass = filterHighPass ↔ high) ∧
      (unionOf band high low &&& filterBandPass = filterBandPass ↔ band) ∧
      (unionOf band high low &&& filterLowPass = filterLowPass ↔ low) := by
  decide

theorem unionOf_ne_zero : ∀ band high low : Bool, band || high || low →
    ¬ unionOf band high low ≤ 0 := by
  decide

theorem setFlag_content (type flag enable : Word) (reg other : ℕ) :
    (setFlag filterBase type flag (filterControlReg other) enable
        board).2.content ⟨filterBase, filterControlReg reg⟩ =
      if reg = other ∧ type &&& flag = flag then enable
      else board.content ⟨filterBase, filterControlReg reg⟩ := by
  have hcell : (⟨filterBase, filterControlReg reg⟩ : Register) =
      ⟨filterBase, filterControlReg other⟩ ↔ reg = other := by
    simp only [Cell.mk.injEq, true_and, filterControlReg]
    omega
  unfold setFlag
  split_ifs with hflag hboth hboth
  · rw [writeReg_content, Function.update_apply, if_pos (hcell.mpr hboth.1)]
  · rw [writeReg_content, Function.update_apply, if_neg]
    exact fun heq => hboth ⟨hcell.mp heq, hflag⟩
  · exact absurd hboth.2 hflag
  · rfl

/-- The check refuses the call and leaves every register as it was. -/
theorem setFilterType_refused (hbase : board.base filterBase ≠ .null)
    {type : Word} (htype : filterTypeMax ≤ type) (enable : Word) :
    setFilterType filterBase type enable board = (-1, board) := by
  have hnull : (board.base filterBase == .null) = false := by
    simpa using hbase
  simp only [setFilterType, RegisterFile.bind_apply, isNull_apply, hnull,
    Bool.false_eq_true, if_false, if_pos (Or.inl htype)]
  rfl

theorem setFilterType_apply (hbase : board.base filterBase ≠ .null)
    (hmask : mask.code < filterTypeMax) (enable : Word) (reg : ℕ) :
    (setFilterType filterBase mask.code enable board).1 = 0 ∧
      (setFilterType filterBase mask.code enable board).2.content
          ⟨filterBase, filterControlReg reg⟩ =
        ((FilterCall.setFilterType mask enable).sets reg).getD
          (board.content ⟨filterBase, filterControlReg reg⟩) := by
  have hnull : (board.base filterBase == .null) = false := by
    simpa using hbase
  have hchecked : ¬ (filterTypeMax ≤ mask.code ∨ mask.code ≤ 0) :=
    not_or_intro (BitVec.not_le.mpr hmask)
      (unionOf_ne_zero _ _ _ mask.nonempty)
  have hrun : setFilterType filterBase mask.code enable board =
      (0, (setFlag filterBase mask.code filterLowPass (filterControlReg 19)
        enable (setFlag filterBase mask.code filterBandPass
          (filterControlReg 18) enable
          (setFlag filterBase mask.code filterHighPass (filterControlReg 17)
            enable board).2).2).2) := by
    simp only [setFilterType, RegisterFile.bind_apply, isNull_apply, hnull,
      Bool.false_eq_true, if_false, if_neg hchecked]
    rfl
  obtain ⟨hhigh, hband, hlow⟩ := unionOf_flags mask.band mask.high mask.low
  rw [hrun]
  refine ⟨rfl, ?_⟩
  simp only [setFlag_content, FilterMask.code, hhigh, hband, hlow,
    FilterCall.sets]
  by_cases hlowReg : reg = 19
  · cases hnamed : mask.low <;> simp [hlowReg]
  · by_cases hbandReg : reg = 18
    · cases hnamed : mask.band <;> simp [hbandReg]
    · by_cases hhighReg : reg = 17
      · cases hnamed : mask.high <;> simp [hhighReg]
      · simp [hlowReg, hbandReg, hhighReg]

end Types

section Runs

variable {filterBase : Device} {board : MixerBoard}
variable {call : FilterCall} {calls : List FilterCall}

theorem program_base (call : FilterCall) (board : MixerBoard) :
    (call.program filterBase board).2.base = board.base := by
  cases call with
  | setCoefficients coeff =>
      have hwithin : Within Set.univ (setCoefficients filterBase coeff) :=
        within_setCoefficients fun _ _ => Set.mem_univ _
      exact hwithin.base_eq board
  | setFilterType mask enable =>
      have hwithin : Within Set.univ
          (setFilterType filterBase mask.code enable) :=
        within_setFilterType (fun _ => Set.mem_univ _)
          (fun _ => Set.mem_univ _) fun _ => Set.mem_univ _
      exact hwithin.base_eq board

/-- One accepted call. -/
theorem program_apply (hbase : board.base filterBase ≠ .null)
    (haccepted : call.Accepted) (reg : ℕ) :
    (call.program filterBase board).1 = 0 ∧
      (call.program filterBase board).2.content
          ⟨filterBase, filterControlReg reg⟩ =
        (call.sets reg).getD
          (board.content ⟨filterBase, filterControlReg reg⟩) := by
  cases call with
  | setCoefficients coeff => exact setCoefficients_apply hbase coeff reg
  | setFilterType mask enable =>
      exact setFilterType_apply hbase haccepted enable reg

/-- A run of accepted calls. -/
theorem runCalls_apply (hbase : board.base filterBase ≠ .null)
    (haccepted : ∀ call ∈ calls, call.Accepted) (reg : ℕ) :
    (∀ result ∈ (runCalls filterBase calls board).1, result = 0) ∧
      (runCalls filterBase calls board).2.content
          ⟨filterBase, filterControlReg reg⟩ =
        (lastSet (FilterCall.sets reg) calls).getD
          (board.content ⟨filterBase, filterControlReg reg⟩) := by
  induction calls generalizing board with
  | nil => exact ⟨fun _ hmem => absurd hmem List.not_mem_nil, rfl⟩
  | cons call calls ih =>
      obtain ⟨hresult, hcontent⟩ := program_apply hbase
        (haccepted call List.mem_cons_self) reg
      obtain ⟨hresults, hcontents⟩ := @ih (call.program filterBase board).2
        (by rw [program_base]; exact hbase)
        fun later hlater => haccepted later (List.mem_cons_of_mem _ hlater)
      constructor
      · exact List.forall_mem_cons.mpr ⟨hresult, hresults⟩
      · rw [lastSet, Option.getD_or, ← hcontent]
        exact hcontents

/-- A refused call is seen in its result. -/
theorem accepted_of_succeeds (hbase : board.base filterBase ≠ .null)
    (hsucceeds : ∀ result ∈ (runCalls filterBase calls board).1, result = 0) :
    ∀ call ∈ calls, call.Accepted := by
  induction calls generalizing board with
  | nil => exact fun _ hmem => absurd hmem List.not_mem_nil
  | cons call calls ih =>
      obtain ⟨hresult, hresults⟩ := List.forall_mem_cons.mp hsucceeds
      have hnext : (call.program filterBase board).2.base filterBase ≠
          .null := by
        rw [program_base]
        exact hbase
      refine List.forall_mem_cons.mpr ⟨?_, ih hnext hresults⟩
      cases call with
      | setCoefficients coeff => trivial
      | setFilterType mask enable =>
          by_contra hrefused
          have hlarge : filterTypeMax ≤ mask.code := BitVec.not_lt.mp hrefused
          rw [FilterCall.program, setFilterType_refused hbase hlarge] at hresult
          have hfailed : (-1 : Word) ≠ 0 := by decide
          exact hfailed hresult

/-- A run does what is asked for exactly when every type of it is below
`FILTER_TYPE_MAX`. -/
theorem filterRun_correct_iff (hbase : board.base filterBase ≠ .null) :
    RunCorrect filterBase calls board ↔ ∀ call ∈ calls, call.Accepted := by
  constructor
  · rintro ⟨hsucceeds, _⟩
    exact accepted_of_succeeds hbase hsucceeds
  · intro haccepted
    exact ⟨(runCalls_apply hbase haccepted 0).1,
      fun reg => (runCalls_apply hbase haccepted reg).2⟩

end Runs

/-- Every union of two or three flags that includes the low pass is refused,
no other. -/
theorem code_lt_iff (mask : FilterMask) :
    mask.code < filterTypeMax ↔
      (mask.low = true → mask.band = false ∧ mask.high = false) := by
  have hall : ∀ band high low : Bool, unionOf band high low < filterTypeMax ↔
      (low = true → band = false ∧ high = false) := by decide
  exact hall mask.band mask.high mask.low

def bandAndLow : FilterMask := ⟨true, false, true, by decide⟩

def bandAndHigh : FilterMask := ⟨true, true, false, by decide⟩

/-- A run with both kinds of calls. -/
theorem filterRun_correct_bandAndHigh :
    RunCorrect .filterControl0
      [.setCoefficients fun _ => 7, .setFilterType bandAndHigh 1] zeroBoard ↔
      ∀ call ∈ [FilterCall.setCoefficients fun _ => 7,
        .setFilterType bandAndHigh 1], call.Accepted :=
  filterRun_correct_iff (by decide)

/-- The band pass and the low pass cannot be switched on together. -/
theorem filterRun_bandAndLow :
    ¬ RunCorrect .filterControl0 [.setFilterType bandAndLow 1] zeroBoard ∧
      setFilterType .filterControl0 bandAndLow.code 1 zeroBoard =
        (-1, zeroBoard) := by
  constructor
  · rintro ⟨hsucceeds, _⟩
    have haccepted := accepted_of_succeeds (by decide) hsucceeds _
      List.mem_cons_self
    have halone := (code_lt_iff bandAndLow).mp haccepted rfl
    exact absurd halone.1 (by decide)
  · exact setFilterType_refused (by decide) (by decide) 1

end Songpark.MixerControl
