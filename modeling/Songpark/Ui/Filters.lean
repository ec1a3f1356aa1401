import Songpark.Ui.Frame
import Songpark.Ui.Mixer

/-!
# Filter switches

The state of a filter is recorded three times: in the enable register of its
device, in a field of the parameters and in the settings.  This file follows
all three through runs of arbitrary commands.
-/

namespace Songpark.UiControl

open Songpark.LastSet Songpark.RegisterFile Songpark.RegIo Songpark.Scan
open Songpark.StateProgram Songpark.MixerControl

/-- The three records of a filter. -/
@[ext]
structure FilterRecord where
  register : Word
  field : Byte
  entry : Word

def filterRecord (filter : Filter) (ui : UiState) : FilterRecord where
  register := ui.board.content ⟨filter.base, filter.reg⟩
  field := filter.field ui.params
  entry := ui.setting filter.index

/-- All three records hold 1 or all three hold 0. -/
def FilterRecord.agreed (on : Bool) : FilterRecord :=
  if on then ⟨1, 1, 1⟩ else ⟨0, 0, 0⟩

/-- What a line does to the switch of a filter. -/
def Line.switch? (filter : Filter) (line : Line) : Option Bool :=
  match line.command.switches with
  | some (other, on) => if other = filter then some on else none
  | none => none

/-- The last command of a run for the filter, on or off. -/
def lastFilterSwitch (filter : Filter) (lines : List Line) : Option Bool :=
  lastSet (Line.switch? filter) lines

/-- Both filter devices are mapped. -/
def FiltersMapped (ui : UiState) : Prop :=
  ui.board.base .filterControl0 = .mapped ∧
    ui.board.base .filterControl1 = .mapped

section Effects

variable {filter other : Filter} {ui reached : UiState}

theorem FiltersMapped.base (hmapped : FiltersMapped ui) (filter : Filter) :
    ui.board.base filter.base ≠ .null := by
  obtain ⟨hfirst, hsecond⟩ := hmapped
  cases filter <;> simp [Filter.base, hfirst, hsecond]

/-- The type of a filter has one flag, so one register is written. -/
theorem setFilterType_content {board : MixerBoard} (enable : Word)
    (hbase : board.base filter.base ≠ .null) :
    (setFilterType filter.base filter.type enable board).2.content =
      Function.update board.content ⟨filter.base, filter.reg⟩ enable := by
  have hnull : (board.base filter.base == .null) = false := by simpa using hbase
  cases filter <;>
    simp only [setFilterType, RegisterFile.bind_apply, isNull_apply, hnull] <;>
    rfl

theorem setFilter_apply (filterBase : Device) (type : Word) (enable : Byte)
    (store : Byte → UiParameters → UiParameters) (index : Fin 29)
    (ui : UiState) :
    setFilter filterBase type enable store index ui = .ok ((),
      { ui with
        board := (setFilterType filterBase type (enable.setWidth 32)
          ui.board).2
        params := store enable ui.params
        setting :=
          Function.update ui.setting index (enable.setWidth 32) }) := rfl

theorem reg_inj :
    (⟨filter.base, filter.reg⟩ : Register) = ⟨other.base, other.reg⟩ ↔
      filter = other := by
  cases filter <;> cases other <;> decide

/-- Switching a filter sets its own three records and no other. -/
theorem filterRecord_setFilter {on : Bool} (hmapped : FiltersMapped ui)
    (hrun : setFilter other.base other.type (if on then 1 else 0) other.store
      other.index ui = .ok ((), reached)) :
    filterRecord filter reached =
      if other = filter then .agreed on else filterRecord filter ui := by
  rw [setFilter_apply] at hrun
  cases hrun
  simp only [filterRecord, setFilterType_content _ (hmapped.base other),
    Filter.field_store, Function.update_apply, reg_inj, Filter.index_inj]
  by_cases hsame : other = filter
  · subst hsame
    cases on <;> simp [FilterRecord.agreed]
  · simp [hsame, Ne.symm hsame]

end Effects

section Steps

variable {line : Line} {filter : Filter} {ui reached : UiState}

theorem switches_argument {switched : Filter × Bool} {command : Command}
    (hswitches : command.switches = some switched) :
    command.argument = .nothing := by
  cases command <;> first | rfl | cases hswitches

/-- No other command may write the enable register of a filter. -/
theorem reg_not_touched {command : Command} (hfilter : command.switches = none)
    (filter : Filter) :
    (⟨filter.base, filter.reg⟩ : Register) ∉ touched command := by
  cases command
  case lfhe | lfhd | nfhe | nfhd | lfbe | lfbd | nfbe | nfbd | lfle | lfld
      | nfle | nfld => cases hfilter
  all_goals cases filter <;> decide

/-- The volume commands store gains and their own settings only. -/
theorem perform_gain_filter {command : Command}
    (hgain : command.argument = .gain) (filter : Filter) :
    Keeps (fun ui => (filter.field ui.params, ui.setting filter.index))
      (perform command) := by
  intro ui value reached hrun
  cases command
  case vgg | vll | vlr | vnl | vnr =>
    cases hrun
    cases filter <;> rfl
  all_goals cases hgain

theorem execute_filter {command : Command} (typed : Typed)
    (hfilter : command.switches = none) (filter : Filter) :
    Keeps (fun ui => (filter.field ui.params, ui.setting filter.index))
      (execute command typed) := by
  have hvars : ∀ ui reached, mixerVars reached = mixerVars ui →
      (filter.field reached.params, reached.setting filter.index) =
        (filter.field ui.params, ui.setting filter.index) := by
    intro ui reached hsame
    have hparams : reached.params = ui.params :=
      congrArg MixerVars.params hsame
    have hsetting : reached.setting = ui.setting :=
      congrArg MixerVars.setting hsame
    rw [hparams, hsetting]
  refine .bind (.factor hvars (keeps_mixer_scanArgument typed _)) fun _ => ?_
  by_cases hgain : command.argument = .gain
  · exact perform_gain_filter hgain filter
  · exact .factor hvars (perform_mixer hgain hfilter)

/-- One line sets the three records of the filter it switches; every other line
keeps them. -/
theorem step_filterRecord (hmapped : FiltersMapped ui)
    (hstep : step line ui = .ok reached) :
    filterRecord filter reached =
      ((line.switch? filter).map .agreed).getD (filterRecord filter ui) := by
  obtain ⟨hrun, _⟩ := step_eq_ok.mp hstep
  cases hswitches : line.command.switches with
  | none =>
      have hvars := execute_filter line.typed hswitches filter _ _ _ hrun
      have hcell := step_cell hstep (reg_not_touched hswitches filter)
      simp only [Line.switch?, hswitches, Option.map_none, Option.getD_none]
      obtain ⟨hfield, hentry⟩ := Prod.mk.inj hvars
      exact FilterRecord.ext hcell hfield hentry
  | some switched =>
      obtain ⟨other, on⟩ := switched
      rw [execute_nothing (switches_argument hswitches),
        perform_switches hswitches] at hrun
      have hclear : FiltersMapped (clearLog ui) := hmapped
      have hrecord : filterRecord filter reached =
          if other = filter then .agreed on
          else filterRecord filter (clearLog ui) :=
        filterRecord_setFilter hclear hrun
      rw [hrecord]
      simp only [Line.switch?, hswitches]
      split <;> rfl

end Steps

/-- After any run each filter that was switched at least once has its three
records agree, with the last switch of the run. -/
theorem filterRecord_agreed {lines : List Line} {ui reached : UiState}
    {filter : Filter} {on : Bool} (hmapped : FiltersMapped ui)
    (hrun : runLines lines ui = .ok reached)
    (hlast : lastFilterSwitch filter lines = some on) :
    filterRecord filter reached = .agreed on := by
  have hkeeps : ∀ line ∈ lines, ∀ state next, FiltersMapped state →
      step line state = .ok next → FiltersMapped next := by
    intro line _ state next hstate hstep
    rw [FiltersMapped, step_base hstep]
    exact hstate
  have hfinal := run_lastSet FiltersMapped (filterRecord filter)
    (fun line => (line.switch? filter).map .agreed) hkeeps
    (fun line _ state next hstate hstep => step_filterRecord hstate hstep)
    hmapped hrun
  rw [hfinal, lastSet_map, show lastSet _ lines = some on from hlast]
  rfl

/-- Switching the high pass on and the band pass off, with a volume command in
between. -/
theorem filterRecord_agreed_lfh :
    ∃ reached, runLines [⟨.lfhe, ⟨none, none⟩⟩, ⟨.vgg, ⟨some 3, none⟩⟩,
        ⟨.lfbd, ⟨none, none⟩⟩] (start blankBoard 0) = .ok reached ∧
      filterRecord .lfh reached = .agreed true := by
  obtain ⟨reached, hrun⟩ := exists_of_isOk (runLines [⟨.lfhe, ⟨none, none⟩⟩,
    ⟨.vgg, ⟨some 3, none⟩⟩, ⟨.lfbd, ⟨none, none⟩⟩] (start blankBoard 0))
    (by decide +kernel)
  exact ⟨reached, hrun, filterRecord_agreed ⟨rfl, rfl⟩ hrun rfl⟩

end Songpark.UiControl
