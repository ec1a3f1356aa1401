import Songpark.Ui.Frame

/-!
# Switching the synchronisation off

Two registers carry the synchronisation: one of the audio to ethernet block and
one of the time sync block.  The command that switches it off is tested for
twice; the branch that is reached clears the second register, the branch that
would clear the first is never reached.
-/

namespace Songpark.UiControl

open Songpark.LastSet Songpark.RegisterFile Songpark.RegIo Songpark.Scan
open Songpark.StateProgram Songpark.StreamControl

def syncReg : Register := ⟨.audioToEth, audioToEthReg 6⟩
def timeSyncReg : Register := ⟨.timeSync, audioToEthReg 0⟩

/-- Both registers are zero. -/
def SyncOff (ui : UiState) : Prop :=
  ui.board.content syncReg = 0 ∧ ui.board.content timeSyncReg = 0

/-- What a command writes to the register of the audio to ethernet block. -/
def Command.sync? : Command → Option Word
  | .setsyncon | .tgsync => some 1
  | .strstop => some 0
  | _ => none

/-- The last such value in a run. -/
def lastSync (lines : List Line) : Option Word :=
  lastSet (fun line => line.command.sync?) lines

section Steps

variable {line : Line} {typed : Typed} {ui reached : UiState}

theorem syncReg_not_touched {command : Command} (hsync : command.sync? = none) :
    syncReg ∉ touched command := by
  cases command
  case setsyncon | tgsync | strstop => cases hsync
  all_goals decide

theorem stopTransmit_syncReg (board : MixerBoard) :
    (stopTransmit board).2.content syncReg = 0 := by
  simp [stopTransmit, setSyncOff_content, syncReg]

/-- Three commands decide what the register holds, all others keep it. -/
theorem step_syncReg (hstep : step line ui = .ok reached) :
    reached.board.content syncReg =
      line.command.sync?.getD (ui.board.content syncReg) := by
  obtain ⟨command, typed⟩ := line
  cases hsync : command.sync? with
  | none => exact step_cell hstep (syncReg_not_touched hsync)
  | some value =>
      cases command
      case setsyncon =>
        rw [step_device rfl rfl hstep]
        cases hsync
        simp [syncReg]
      case tgsync =>
        rw [step_device rfl rfl hstep]
        cases hsync
        simp [syncReg]
      case strstop =>
        rw [step_device rfl rfl hstep, stopTransmit_syncReg]
        cases hsync
        rfl
      all_goals cases hsync

theorem run_syncReg {lines : List Line} (hrun : runLines lines ui = .ok reached) :
    reached.board.content syncReg =
      (lastSync lines).getD (ui.board.content syncReg) :=
  run_lastSet (fun _ => True) (fun ui => ui.board.content syncReg)
    (fun line => line.command.sync?) (fun _ _ _ _ _ _ => trivial)
    (fun _ _ _ _ _ hstep => step_syncReg hstep) trivial hrun

theorem step_setsyncoff (hstep : step ⟨.setsyncoff, typed⟩ ui = .ok reached) :
    reached.board.content timeSyncReg = 0 := by
  rw [step_device rfl rfl hstep]
  simp [timeSyncReg]

end Steps

/-- After a run that ends in `setsyncoff` the synchronisation is off exactly if
the last of `setsyncon`, `tgsync` and `strstop` was `strstop`, or if there was
none and the register was zero before the run. -/
theorem syncOff_iff (lines : List Line) (typed : Typed) {ui reached : UiState}
    (hrun : runLines (lines ++ [⟨.setsyncoff, typed⟩]) ui = .ok reached) :
    SyncOff reached ↔ (lastSync lines).getD (ui.board.content syncReg) = 0 := by
  obtain ⟨middle, hbefore, hlast⟩ := run_concat.mp hrun
  have hsync : reached.board.content syncReg = middle.board.content syncReg :=
    step_syncReg hlast
  rw [SyncOff, hsync, run_syncReg hbefore, and_iff_left (step_setsyncoff hlast)]

theorem syncOff_strstop :
    ∃ reached, runLines [⟨.setsyncon, ⟨none, none⟩⟩, ⟨.strstop, ⟨none, none⟩⟩,
        ⟨.setsyncoff, ⟨none, none⟩⟩] (start blankBoard 0) = .ok reached ∧
      SyncOff reached := by
  obtain ⟨reached, hrun⟩ := exists_of_isOk
    (runLines [⟨.setsyncon, ⟨none, none⟩⟩, ⟨.strstop, ⟨none, none⟩⟩,
      ⟨.setsyncoff, ⟨none, none⟩⟩] (start blankBoard 0)) (by decide +kernel)
  have hiff := syncOff_iff
    [⟨.setsyncon, ⟨none, none⟩⟩, ⟨.strstop, ⟨none, none⟩⟩] ⟨none, none⟩ hrun
  exact ⟨reached, hrun, hiff.mpr rfl⟩

/-- Switched on and off again, the synchronisation stays on in the audio to
ethernet block. -/
theorem setsyncoff_leaves_on :
    ∃ reached, runLines [⟨.setsyncon, ⟨none, none⟩⟩,
        ⟨.setsyncoff, ⟨none, none⟩⟩] (start blankBoard 0) = .ok reached ∧
      reached.board.content syncReg = 1 ∧ ¬SyncOff reached := by
  obtain ⟨reached, hrun, hreg⟩ : ∃ reached,
      runLines [⟨.setsyncon, ⟨none, none⟩⟩, ⟨.setsyncoff, ⟨none, none⟩⟩]
        (start blankBoard 0) = .ok reached ∧
      reached.board.content syncReg = 1 := ⟨_, rfl, by decide +kernel⟩
  refine ⟨reached, hrun, hreg, fun hoff => ?_⟩
  rw [hoff.1] at hreg
  exact absurd hreg (by decide)

end Songpark.UiControl
