import Songpark.Device.RegIo

/-!
# Filter and volume control

The filter blocks are programmed through registers.  The volume function does
nothing in the source: its body is `return 0`, so the only trace of a call is
the call itself.
-/

namespace Songpark.MixerControl

open Songpark.RegisterFile Songpark.RegIo

/-- `FILTER_TYPE`: no member is negative, so the type is unsigned. -/
abbrev filterBandPass : Word := 1
abbrev filterHighPass : Word := 2
abbrev filterLowPass : Word := 4
abbrev filterTypeMax : Word := 5

def writeEach (base : Device) : List (ℕ × Word) → DeviceM Unit
  | [] => pure ()
  | (offset, value) :: rest => do
      writeReg base offset value
      writeEach base rest

/-- The coefficients are accepted between two writes of the reset register. -/
def setCoefficients (filterBase : Device) (coeff : Fin 15 → Word) :
    DeviceM Word := do
  if ← isNull filterBase then
    return -1
  writeReg filterBase (filterControlReg 15) 1
  writeReg filterBase (filterControlReg 15) 0
  writeReg filterBase (filterControlReg 16) 1
  writeEach filterBase ((List.finRange 15).map fun i => (i.val * 4, coeff i))
  writeReg filterBase (filterControlReg 15) 0
  return 0

/-- Write a flag's register when the flag is in the type. -/
def setFlag (filterBase : Device) (type flag : Word) (offset : ℕ)
    (enable : Word) : DeviceM Unit :=
  if type &&& flag = flag then writeReg filterBase offset enable else pure ()

def setFilterType (filterBase : Device) (type enable : Word) :
    DeviceM Word := do
  if ← isNull filterBase then
    return -1
  if filterTypeMax ≤ type ∨ type ≤ 0 then
    return -1
  setFlag filterBase type filterHighPass (filterControlReg 17) enable
  setFlag filterBase type filterBandPass (filterControlReg 18) enable
  setFlag filterBase type filterLowPass (filterControlReg 19) enable
  return 0

/-- One call of `set_volume`. -/
structure VolumeCall where
  volumeBase : Device
  gain : Word
  channel : ChannelId
  deriving DecidableEq

section Footprints

variable {filterBase : Device} {footprint : Set Register}

theorem within_writeEach {writes : List (ℕ × Word)}
    (hmem : ∀ write ∈ writes, (⟨filterBase, write.1⟩ : Register) ∈ footprint) :
    Within footprint (writeEach filterBase writes) := by
  induction writes with
  | nil => exact .pure _
  | cons write writes ih =>
      refine .bind (.writeReg (hmem write List.mem_cons_self)) fun _ => ih ?_
      intro later hlater
      exact hmem later (List.mem_cons_of_mem _ hlater)

/-- Programming a filter touches registers 0 to 16 of its block. -/
theorem within_setCoefficients {coeff : Fin 15 → Word}
    (hmem : ∀ index ≤ 16,
      (⟨filterBase, filterControlReg index⟩ : Register) ∈ footprint) :
    Within footprint (setCoefficients filterBase coeff) := by
  have heach : ∀ write ∈ (List.finRange 15).map fun i => (i.val * 4, coeff i),
      (⟨filterBase, write.1⟩ : Register) ∈ footprint := by
    intro write hwrite
    obtain ⟨index, _, rfl⟩ := List.mem_map.mp hwrite
    have hindex := hmem index.val (by omega)
    rwa [filterControlReg, Nat.mul_comm] at hindex
  refine .bind (.isNull _) fun null => .ite (.pure _) ?_
  exact .bind (.writeReg (hmem 15 (by decide))) fun _ =>
    .bind (.writeReg (hmem 15 (by decide))) fun _ =>
    .bind (.writeReg (hmem 16 (by decide))) fun _ =>
    .bind (within_writeEach heach) fun _ =>
    .bind (.writeReg (hmem 15 (by decide))) fun _ => .pure _

theorem within_setFlag {type flag enable : Word} {offset : ℕ}
    (hmem : type &&& flag = flag →
      (⟨filterBase, offset⟩ : Register) ∈ footprint) :
    Within footprint (setFlag filterBase type flag offset enable) := by
  unfold setFlag
  split
  · exact .writeReg (hmem ‹_›)
  · exact .pure _

/-- Switching a filter touches the register of each flag in the type. -/
theorem within_setFilterType {type enable : Word}
    (hhigh : type &&& filterHighPass = filterHighPass →
      (⟨filterBase, filterControlReg 17⟩ : Register) ∈ footprint)
    (hband : type &&& filterBandPass = filterBandPass →
      (⟨filterBase, filterControlReg 18⟩ : Register) ∈ footprint)
    (hlow : type &&& filterLowPass = filterLowPass →
      (⟨filterBase, filterControlReg 19⟩ : Register) ∈ footprint) :
    Within footprint (setFilterType filterBase type enable) := by
  refine .bind (.isNull _) fun null => .ite (.pure _) (.ite (.pure _) ?_)
  exact .bind (within_setFlag hhigh) fun _ =>
    .bind (within_setFlag hband) fun _ =>
    .bind (within_setFlag hlow) fun _ => .pure _

end Footprints

section Confined

variable {filterBase dev : Device}

theorem avoids_writeEach (writes : List (ℕ × Word)) (hdev : filterBase ≠ dev) :
    Avoids dev (writeEach filterBase writes) := by
  induction writes with
  | nil => exact .pure _
  | cons write writes ih => exact .bind (.writeReg hdev) fun _ => ih

theorem avoids_setCoefficients (coeff : Fin 15 → Word)
    (hdev : filterBase ≠ dev) :
    Avoids dev (setCoefficients filterBase coeff) := by
  refine .bind (.isNull _) fun null => .ite (.pure _) ?_
  exact .bind (.writeReg hdev) fun _ => .bind (.writeReg hdev) fun _ =>
    .bind (.writeReg hdev) fun _ => .bind (avoids_writeEach _ hdev) fun _ =>
    .bind (.writeReg hdev) fun _ => .pure _

theorem avoids_setFlag {type flag enable : Word} {offset : ℕ}
    (hdev : filterBase ≠ dev) :
    Avoids dev (setFlag filterBase type flag offset enable) :=
  .ite (.writeReg hdev) (.pure _)

theorem avoids_setFilterType {type enable : Word} (hdev : filterBase ≠ dev) :
    Avoids dev (setFilterType filterBase type enable) := by
  refine .bind (.isNull _) fun null => .ite (.pure _) (.ite (.pure _) ?_)
  exact .bind (avoids_setFlag hdev) fun _ => .bind (avoids_setFlag hdev)
    fun _ => .bind (avoids_setFlag hdev) fun _ => .pure _

end Confined

end Songpark.MixerControl
