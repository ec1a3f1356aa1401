import Songpark.Device.StreamControl
import Mathlib.Algebra.Group.Nat.Defs

/-!
# Delays of the packet time enforcer

Four delay limits are 64 bits wide and kept in two registers each; three
measured delays are read from two registers each.  This file relates what the
getters return to what the setters were given, over runs of all four setters.
-/

namespace Songpark.DelayLimits

open Songpark.LastSet Songpark.RegisterFile Songpark.RegIo
open Songpark.StreamControl

inductive Limit
  | spkt
  | spktLocked
  | accum
  | diff
  deriving DecidableEq

def setLimit : Limit → Device → LongWord → DeviceM Unit
  | .spkt => setSpktToPktDelayLimit
  | .spktLocked => setSpktToPktLockedDelayLimit
  | .accum => setAccumPktToPktDelayLimit
  | .diff => setDiffPktToPktDelayLimit

def getLimit : Limit → Device → DeviceM LongWord
  | .spkt => getPktsDropSpktLimit
  | .spktLocked => getPktsDropSpktLockedLimit
  | .accum => getPktsAdropSpktLimit
  | .diff => getDiffPktToPktDelayLimit

inductive Delay
  | accum
  | spkt
  | diff
  deriving DecidableEq

def getDelay : Delay → Device → DeviceM LongWord
  | .accum => getStreamAccumPktDelay
  | .spkt => getStreamSpktDelay
  | .diff => getDiffPktToPktDelay

/-- The registers a delay is read from, the low half first. -/
def Delay.regs : Delay → ℕ × ℕ
  | .accum => (pktTimeEnforcerReg 12, pktTimeEnforcerReg 13)
  | .spkt => (pktTimeEnforcerReg 14, pktTimeEnforcerReg 15)
  | .diff => (pktTimeEnforcerReg 18, pktTimeEnforcerReg 19)

/-- A call of a setter. -/
structure LimitCall where
  limit : Limit
  data : LongWord

def LimitCall.perform (streamBase : Device) (call : LimitCall) : DeviceM Unit :=
  setLimit call.limit streamBase call.data

/-- The value that was last given to a setter in a run. -/
def lastGiven (limit : Limit) (calls : List LimitCall) : Option LongWord :=
  lastSet (fun call => if call.limit = limit then some call.data else none) calls

/-- Each limit reads as it was last set, and each delay is the number that its
two registers make up. -/
structure Survives (streamBase : Device) (calls : List LimitCall)
    (board : MixerBoard) : Prop where
  limits : ∀ limit data, lastGiven limit calls = some data →
    (getLimit limit streamBase
      (drive (LimitCall.perform streamBase) calls board)).1 = data
  delays : ∀ delay, (getDelay delay streamBase board).1.toNat =
    (board.content ⟨streamBase, delay.regs.2⟩).toNat * 2 ^ 32 +
      (board.content ⟨streamBase, delay.regs.1⟩).toNat

/-! ## Halves -/

/-- A 64-bit value as its low and its high register value. -/
def halves (data : LongWord) : Word × Word :=
  (data.setWidth 32, (data >>> 32).setWidth 32)

theorem join_halves (data : LongWord) :
    ((halves data).2.setWidth 64 <<< 32) ||| (halves data).1.setWidth 64 =
      data := by
  apply BitVec.eq_of_getLsbD_eq
  intro index hindex
  simp only [halves, BitVec.getLsbD_or, BitVec.getLsbD_shiftLeft,
    BitVec.getLsbD_setWidth, BitVec.getLsbD_ushiftRight, hindex]
  by_cases hlow : index < 32
  · simp [hlow]
  · have hhigh : index - 32 < 32 := by omega
    have hsum : 32 + (index - 32) = index := by omega
    have hwide : index - 32 < 64 := by omega
    simp [hlow, hhigh, hsum, hwide]

/-- The low half alone is the value exactly if the high half is empty. -/
theorem low_half_eq_iff (data : LongWord) :
    (halves data).1.setWidth 64 = data ↔ data.toNat < 2 ^ 32 := by
  rw [← BitVec.toNat_inj]
  simp only [halves, BitVec.toNat_setWidth]
  have hdata := data.isLt
  omega

/-! ## Runs -/

section Runs

variable {streamBase : Device} {board : MixerBoard}

/-- The registers a limit is kept in, the low half first. -/
def Limit.regs : Limit → ℕ × ℕ
  | .spkt => (pktTimeEnforcerReg 3, pktTimeEnforcerReg 4)
  | .spktLocked => (pktTimeEnforcerReg 21, pktTimeEnforcerReg 22)
  | .accum => (pktTimeEnforcerReg 5, pktTimeEnforcerReg 6)
  | .diff => (pktTimeEnforcerReg 16, pktTimeEnforcerReg 17)

/-- The values in the registers of a limit. -/
def kept (limit : Limit) (streamBase : Device) (board : MixerBoard) :
    Word × Word :=
  (board.content ⟨streamBase, limit.regs.1⟩,
    board.content ⟨streamBase, limit.regs.2⟩)

theorem setLimit_content (limit : Limit) (data : LongWord) :
    (setLimit limit streamBase data board).2.content =
      Function.update
        (Function.update board.content ⟨streamBase, limit.regs.1⟩
          (halves data).1)
        ⟨streamBase, limit.regs.2⟩ (halves data).2 := by
  cases limit with
  | spkt => exact writeWide_content _ _ _ _ _
  | spktLocked => exact writeWide_content _ _ _ _ _
  | accum => exact writeWide_content _ _ _ _ _
  | diff => exact writeWideShown_content _ _ _ _ _

/-- Setting one limit does not reach the registers of another. -/
theorem kept_setLimit (limit other : Limit) (data : LongWord) :
    kept limit streamBase (setLimit other streamBase data board).2 =
      if other = limit then halves data else kept limit streamBase board := by
  rw [kept, setLimit_content]
  cases limit <;> cases other <;>
    simp [Limit.regs, kept]

/-- After a run the registers of a limit hold what was last given. -/
theorem kept_drive {limit : Limit} {calls : List LimitCall} {data : LongWord}
    (hlast : lastGiven limit calls = some data) :
    kept limit streamBase (drive (LimitCall.perform streamBase) calls board) =
      halves data := by
  let sets : LimitCall → Option (Word × Word) := fun call =>
    (if call.limit = limit then some call.data else none).map halves
  have hstep : ∀ call (current : MixerBoard),
      kept limit streamBase (call.perform streamBase current).2 =
        (sets call).getD (kept limit streamBase current) := by
    intro call current
    rw [LimitCall.perform, kept_setLimit]
    by_cases hsame : call.limit = limit <;> simp [sets, hsame]
  rw [drive_lastSet (kept limit streamBase) sets hstep calls, lastSet_map,
    show lastSet _ calls = some data from hlast]
  rfl

theorem getLimit_value (limit : Limit) :
    (getLimit limit streamBase board).1 =
      if limit = .diff then (kept limit streamBase board).1.setWidth 64
      else ((kept limit streamBase board).2.setWidth 64 <<< 32) |||
        (kept limit streamBase board).1.setWidth 64 := by
  cases limit <;> rfl

theorem getLimit_drive {limit : Limit} {calls : List LimitCall}
    {data : LongWord} (hlast : lastGiven limit calls = some data) :
    (getLimit limit streamBase
      (drive (LimitCall.perform streamBase) calls board)).1 =
      if limit = .diff then (halves data).1.setWidth 64 else data := by
  rw [getLimit_value, kept_drive hlast]
  split
  · rfl
  · exact join_halves data

/-- The high register of a delay is read and dropped. -/
theorem getDelay_value (delay : Delay) :
    (getDelay delay streamBase board).1.toNat =
      (board.content ⟨streamBase, delay.regs.1⟩).toNat := by
  have hlow : (getDelay delay streamBase board).1 =
      (board.content ⟨streamBase, delay.regs.1⟩).setWidth 64 := by
    cases delay <;> rfl
  have hlt := (board.content ⟨streamBase, delay.regs.1⟩).isLt
  rw [hlow, BitVec.toNat_setWidth]
  omega

end Runs

/-- The halves survive exactly if the last diff limit fits into 32 bits and the
high registers of the measured delays are zero. -/
theorem survives_iff (streamBase : Device) (calls : List LimitCall)
    (board : MixerBoard) :
    Survives streamBase calls board ↔
      (∀ data, lastGiven .diff calls = some data → data.toNat < 2 ^ 32) ∧
        ∀ delay : Delay, board.content ⟨streamBase, delay.regs.2⟩ = 0 := by
  constructor
  · intro hsurvives
    constructor
    · intro data hlast
      have hread := hsurvives.limits .diff data hlast
      rw [getLimit_drive hlast, if_pos rfl] at hread
      exact (low_half_eq_iff data).mp hread
    · intro delay
      have hread := hsurvives.delays delay
      rw [getDelay_value] at hread
      have hzero : (board.content ⟨streamBase, delay.regs.2⟩).toNat = 0 := by
        omega
      exact BitVec.eq_of_toNat_eq hzero
  · rintro ⟨hdiff, hhigh⟩
    constructor
    · intro limit data hlast
      rw [getLimit_drive hlast]
      split
      case isTrue hlimit =>
        subst hlimit
        exact (low_half_eq_iff data).mpr (hdiff data hlast)
      case isFalse => rfl
    · intro delay
      rw [getDelay_value, hhigh delay]
      simp

/-- A diff limit of 2^32 reads back as 0. -/
theorem not_survives_diff :
    ¬Survives .packetTimeEnforcer [⟨.diff, 0x100000000⟩] zeroBoard := by
  intro hsurvives
  have hread := hsurvives.limits .diff 0x100000000 rfl
  rw [getLimit_drive rfl] at hread
  exact absurd hread (by decide)

end Songpark.DelayLimits
