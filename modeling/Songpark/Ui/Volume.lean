import Songpark.Ui.Init
import Songpark.Ui.Mixer

/-!
# Volumes

A channel is heard with the product of the global gain and its own.  The
product is not stored: each volume command passes it to `set_volume` again, and
so does the initialisation.  The first part of the file is this bookkeeping on
its own; then the command loop is shown to follow it.
-/

namespace Songpark.UiControl

open Songpark.RegisterFile Songpark.RegIo Songpark.Scan Songpark.StateProgram
open Songpark.MixerControl

/-- The channels of the mixer, named by their gains. -/
inductive MixChannel
  | vlLpbk
  | vrLpbk
  | vlNet
  | vrNet
  deriving DecidableEq

namespace MixChannel

/-- The command that sets the gain of the channel. -/
def command : MixChannel → Command
  | .vlLpbk => .vll
  | .vrLpbk => .vlr
  | .vlNet => .vnl
  | .vrNet => .vnr

def volumeBase : MixChannel → Device
  | .vlLpbk | .vrLpbk => .volumeControl0
  | .vlNet | .vrNet => .volumeControl1

def id : MixChannel → ChannelId
  | .vlLpbk | .vlNet => .left
  | .vrLpbk | .vrNet => .right

def gain (params : UiParameters) : MixChannel → Word
  | .vlLpbk => params.vlLpbk
  | .vrLpbk => params.vrLpbk
  | .vlNet => params.vlNet
  | .vrNet => params.vrNet

end MixChannel

/-! ## The bookkeeping -/

/-- The gain last sent to each channel, the stored gains of the channels, and
the two copies of the global gain. -/
@[ext]
structure Volumes where
  sent : MixChannel → Option Word
  gains : MixChannel → Word
  vGlobal : Word
  globalVol : Word

namespace Volumes

/-- The channel was last sent the product of its two gains. -/
def InStep (volumes : Volumes) (channel : MixChannel) : Prop :=
  volumes.sent channel = some (volumes.vGlobal * volumes.gains channel)

def setGlobal (volumes : Volumes) (gain : Word) : Volumes where
  sent channel := some (volumes.gains channel * gain)
  gains := volumes.gains
  vGlobal := gain
  globalVol := gain

def setGain (volumes : Volumes) (channel : MixChannel) (gain : Word) :
    Volumes :=
  { volumes with
    sent := Function.update volumes.sent channel (some (volumes.vGlobal * gain))
    gains := Function.update volumes.gains channel gain }

/-- A command with the number typed after it. -/
def after (volumes : Volumes) (command : Command) (number : Word) : Volumes :=
  match command with
  | .vgg => volumes.setGlobal number
  | .vll => volumes.setGain .vlLpbk number
  | .vlr => volumes.setGain .vrLpbk number
  | .vnl => volumes.setGain .vlNet number
  | .vnr => volumes.setGain .vrNet number
  | _ => volumes

variable {volumes : Volumes} {command : Command} {channel : MixChannel}
variable {number : Word}

theorem after_vgg : (volumes.after .vgg number).InStep channel := by
  rw [InStep, after, setGlobal, BitVec.mul_comm]

theorem after_command : (volumes.after channel.command number).InStep channel := by
  cases channel <;> simp [InStep, after, setGain, MixChannel.command]

/-- Only the global command and the channel's own reach the channel. -/
theorem after_other (hglobal : command ≠ .vgg) (hown : command ≠ channel.command) :
    (volumes.after command number).sent channel = volumes.sent channel ∧
      (volumes.after command number).gains channel = volumes.gains channel := by
  cases command <;> cases channel <;>
    simp_all [after, setGain, MixChannel.command]

theorem after_vGlobal (hglobal : command ≠ .vgg) :
    (volumes.after command number).vGlobal = volumes.vGlobal := by
  cases command <;> first | exact absurd rfl hglobal | rfl

theorem after_globalVol_other (hglobal : command ≠ .vgg) :
    (volumes.after command number).globalVol = volumes.globalVol := by
  cases command <;> first | exact absurd rfl hglobal | rfl

theorem inStep_after_other (hglobal : command ≠ .vgg)
    (hown : command ≠ channel.command) :
    (volumes.after command number).InStep channel ↔
      volumes.InStep channel := by
  obtain ⟨hsent, hgain⟩ := after_other hglobal hown
  rw [InStep, InStep, hsent, hgain, after_vGlobal hglobal]

theorem after_globalVol (hcopies : volumes.globalVol = volumes.vGlobal) :
    (volumes.after command number).globalVol =
      (volumes.after command number).vGlobal := by
  cases command <;> first | exact hcopies | rfl

def afterLine (line : Line) (volumes : Volumes) : Volumes :=
  volumes.after line.command (line.typed.number.getD 0)

/-- The bookkeeping of a whole run. -/
def afterAll (volumes : Volumes) (lines : List Line) : Volumes :=
  lines.foldl (fun volumes line => afterLine line volumes) volumes

theorem afterAll_globalVol (hcopies : volumes.globalVol = volumes.vGlobal)
    (lines : List Line) :
    (volumes.afterAll lines).globalVol = (volumes.afterAll lines).vGlobal := by
  induction lines generalizing volumes with
  | nil => exact hcopies
  | cons line lines ih => exact ih (after_globalVol hcopies)

/-- A channel that starts out of step comes into step with the first command
that sends to it. -/
theorem inStep_afterAll_iff (hinit : ¬ volumes.InStep channel)
    (lines : List Line) :
    (volumes.afterAll lines).InStep channel ↔
      ∃ line ∈ lines, line.command = .vgg ∨ line.command = channel.command := by
  induction lines using List.reverseRecOn with
  | nil => simpa [afterAll] using hinit
  | append_singleton lines line ih =>
      have hlast : volumes.afterAll (lines ++ [line]) =
          (volumes.afterAll lines).after line.command
            (line.typed.number.getD 0) := by
        simp [afterAll, afterLine]
      rw [hlast]
      by_cases hsends :
          line.command = .vgg ∨ line.command = channel.command
      · have hinStep : ((volumes.afterAll lines).after line.command
            (line.typed.number.getD 0)).InStep channel := by
          rcases hsends with hglobal | hown
          · rw [hglobal]
            exact after_vgg
          · rw [hown]
            exact after_command
        exact iff_of_true hinStep ⟨line, by simp, hsends⟩
      · rw [not_or] at hsends
        rw [inStep_after_other hsends.1 hsends.2, ih]
        simp [hsends]

end Volumes

/-! ## The command loop keeps the books -/

/-- The gain of the last call of `set_volume` for the channel. -/
def lastSent (ui : UiState) (channel : MixChannel) : Option Word :=
  (ui.volumeCalls.find? fun call =>
    call.volumeBase = channel.volumeBase ∧ call.channel = channel.id).map
      VolumeCall.gain

def volumes (ui : UiState) : Volumes where
  sent := lastSent ui
  gains := MixChannel.gain ui.params
  vGlobal := ui.params.vGlobal
  globalVol := ui.globalVol

section Keeps

/-- The books are kept in the variables of the mixer. -/
theorem volumes_eq (ui reached : UiState)
    (hvars : mixerVars reached = mixerVars ui) :
    volumes reached = volumes ui := by
  have hcalls : reached.volumeCalls = ui.volumeCalls :=
    congrArg MixerVars.volumeCalls hvars
  have hparams : reached.params = ui.params :=
    congrArg MixerVars.params hvars
  have hglobal : reached.globalVol = ui.globalVol :=
    congrArg MixerVars.globalVol hvars
  have hsent : lastSent reached = lastSent ui := by
    funext channel
    rw [lastSent, lastSent, hcalls]
  rw [volumes, volumes, hsent, hparams, hglobal]

theorem keeps_volumes_setFilter (filter : Filter) (enable : Byte) :
    Keeps volumes (setFilter filter.base filter.type enable filter.store
      filter.index) := by
  refine .bind (.factor volumes_eq (keeps_mixer_device _)) fun _ =>
    .bind (.change fun ui => ?_) fun _ => .change fun _ => rfl
  cases filter <;> rfl

/-- Only the volume commands touch the books. -/
theorem perform_volumes {command : Command}
    (hcommand : command.argument ≠ .gain) :
    Keeps volumes (perform command) := by
  cases hfilter : command.switches with
  | none => exact .factor volumes_eq (perform_mixer hcommand hfilter)
  | some switched =>
      rw [perform_switches hfilter]
      exact keeps_volumes_setFilter _ _

end Keeps

section Steps

variable {ui reached : UiState} {number : Word}

/-- A recorded call is the last one for its own channel only. -/
theorem lastSent_cons {gain : Word} {sender : MixChannel}
    (hcalls : reached.volumeCalls =
      ⟨sender.volumeBase, gain, sender.id⟩ :: ui.volumeCalls) :
    lastSent reached = Function.update (lastSent ui) sender (some gain) := by
  funext channel
  rw [lastSent, hcalls]
  cases sender <;> cases channel <;>
    simp [lastSent, MixChannel.volumeBase, MixChannel.id]

theorem setAllVolumes_volumes {gain : Word}
    (hrun : setAllVolumes gain ui = .ok ((), reached)) :
    volumes reached =
      { volumes ui with
        sent := fun channel => some ((volumes ui).gains channel * gain) } := by
  cases hrun
  ext channel
  · cases channel <;> rfl
  · rfl
  · rfl
  · rfl

theorem setChannel_volumes (channel : MixChannel)
    {store : Word → UiParameters → UiParameters} {index : Fin 29}
    (hrun : setChannel channel.volumeBase channel.id store index ui =
      .ok ((), reached))
    (hstore : ∀ gain params, (store gain params).vGlobal = params.vGlobal ∧
      MixChannel.gain (store gain params) =
        Function.update (MixChannel.gain params) channel gain) :
    volumes reached = (volumes ui).setGain channel ui.gain := by
  cases hrun
  apply Volumes.ext
  · exact lastSent_cons rfl
  · exact (hstore _ _).2
  · exact (hstore _ _).1
  · rfl

/-- The gain commands as the bookkeeping has them. -/
theorem perform_gain_volumes {command : Command}
    (hcommand : command.argument = .gain)
    (hrun : perform command ui = .ok ((), reached)) :
    volumes reached = (volumes ui).after command ui.gain := by
  cases command
  case vgg =>
    have hset : setAllVolumes ui.gain
        { ui with
          params := { ui.params with vGlobal := ui.gain }
          globalVol := ui.gain } = .ok ((), reached) := hrun
    exact setAllVolumes_volumes hset
  case vll =>
    rw [perform] at hrun
    refine setChannel_volumes .vlLpbk hrun fun gain params => ⟨rfl, ?_⟩
    funext channel
    cases channel <;> rfl
  case vlr =>
    rw [perform] at hrun
    refine setChannel_volumes .vrLpbk hrun fun gain params => ⟨rfl, ?_⟩
    funext channel
    cases channel <;> rfl
  case vnl =>
    rw [perform] at hrun
    refine setChannel_volumes .vlNet hrun fun gain params => ⟨rfl, ?_⟩
    funext channel
    cases channel <;> rfl
  case vnr =>
    rw [perform] at hrun
    refine setChannel_volumes .vrNet hrun fun gain params => ⟨rfl, ?_⟩
    funext channel
    cases channel <;> rfl
  all_goals exact absurd hcommand (by decide)

theorem after_of_not_gain {command : Command} (hcommand : command.argument ≠ .gain)
    (volumes : Volumes) : volumes.after command number = volumes := by
  cases command <;> first | rfl | exact absurd rfl hcommand

/-- Every command is a step of the bookkeeping; without a number the gain
variable keeps the last one. -/
theorem step_after {line : Line} (hstep : step line ui = .ok reached) :
    volumes reached =
      (volumes ui).after line.command (line.typed.number.getD ui.gain) := by
  obtain ⟨hrun, _⟩ := step_eq_ok.mp hstep
  by_cases hgain : line.command.argument = .gain
  · rw [execute_gain hgain] at hrun
    exact perform_gain_volumes hgain hrun
  · have hkeeps : Keeps volumes (execute line.command line.typed) :=
      .bind (.factor volumes_eq (keeps_mixer_scanArgument _ _)) fun _ =>
        perform_volumes hgain
    rw [after_of_not_gain hgain]
    have hvolumes := hkeeps _ _ _ hrun
    exact hvolumes

theorem step_volumes {line : Line} (hnumber : line.command.numeric →
      line.typed.number.isSome)
    (hstep : step line ui = .ok reached) :
    volumes reached = Volumes.afterLine line (volumes ui) := by
  rw [step_after hstep, Volumes.afterLine]
  by_cases hgain : line.command.argument = .gain
  · obtain ⟨number, htyped⟩ := Option.isSome_iff_exists.mp
      (hnumber (by simp [Command.numeric, hgain]))
    rw [htyped, Option.getD_some, Option.getD_some]
  · rw [after_of_not_gain hgain, after_of_not_gain hgain]

end Steps

/-- The initialisation sends 30 to every channel and stores the gains 4 and
30. -/
theorem initialise_volumes {env : Environment} {args : Arguments}
    {ui ready : UiState} (hinit : initialise env args ui = .ok (0, ready)) :
    volumes ready = ⟨fun _ => some 30, fun _ => 30, 4, 4⟩ := by
  obtain ⟨_, _, _, configured, _, _, hdefaults⟩ := initialise_eq_zero hinit
  cases hdefaults
  ext channel
  · cases channel <;> rfl
  · cases channel <;> rfl
  · rfl
  · rfl

/-! ## The invariant -/

/-- Every channel was last sent the product of its gains, and the two copies of
the global gain agree. -/
structure VolumesInStep (ui : UiState) : Prop where
  sent : ∀ channel, lastSent ui channel =
    some (ui.params.vGlobal * channel.gain ui.params)
  copies : ui.globalVol = ui.params.vGlobal

section Runs

variable {env : Environment} {args : Arguments} {ui ready reached : UiState}
variable {lines : List Line}

/-- After the initialisation the volumes are in step exactly when the global
gain or the gains of all four channels have been set since. -/
theorem volumes_inStep_iff (hinit : initialise env args ui = .ok (0, ready))
    (hnumber : ∀ line ∈ lines, line.command.numeric →
      line.typed.number.isSome)
    (hrun : runLines lines ready = .ok reached) :
    VolumesInStep reached ↔
      ∀ channel : MixChannel, ∃ line ∈ lines,
        line.command = .vgg ∨ line.command = channel.command := by
  have hbooks : volumes reached = (volumes ready).afterAll lines :=
    run_simulates volumes Volumes.afterLine
      (fun line hline _ _ hstep => step_volumes (hnumber line hline) hstep) hrun
  have hready := initialise_volumes hinit
  have hinStep : ∀ channel, (volumes reached).InStep channel ↔
      ∃ line ∈ lines, line.command = .vgg ∨ line.command = channel.command := by
    intro channel
    rw [hbooks]
    apply Volumes.inStep_afterAll_iff
    rw [hready, Volumes.InStep]
    have hne : (30 : Word) ≠ 4 * 30 := by decide
    exact fun hsent => hne (Option.some.inj hsent)
  have hcopies : (volumes reached).globalVol = (volumes reached).vGlobal := by
    rw [hbooks]
    exact Volumes.afterAll_globalVol (by rw [hready]) lines
  constructor
  · intro hall channel
    exact (hinStep channel).mp (hall.sent channel)
  · intro hsends
    exact ⟨fun channel => (hinStep channel).mpr (hsends channel), hcopies⟩

/-- A new global gain brings all channels into step. -/
theorem global_gain_inStep :
    ∃ ready reached, initialise answeringSystem sampleArguments
        (start blankBoard 0) = .ok (0, ready) ∧
      runLines [⟨.vgg, ⟨some 5, none⟩⟩] ready = .ok reached ∧
      VolumesInStep reached := by
  obtain ⟨ready, hinit⟩ := initialise_answeringSystem
  have hrun : ∃ reached,
      runLines [⟨.vgg, ⟨some 5, none⟩⟩] ready = .ok reached := ⟨_, rfl⟩
  obtain ⟨reached, hrun⟩ := hrun
  refine ⟨ready, reached, hinit, hrun,
    (volumes_inStep_iff hinit ?_ hrun).mpr ?_⟩
  · intro line hline _
    obtain rfl := List.mem_singleton.mp hline
    rfl
  · exact fun _ => ⟨_, List.mem_cons_self, Or.inl rfl⟩

/-- Right after the initialisation the volumes are out of step: 30 was sent,
and the product of the stored gains is 120. -/
theorem initial_volumes_outOfStep :
    ¬ ∀ (env : Environment) (args : Arguments) (ui ready reached : UiState)
      (lines : List Line), initialise env args ui = .ok (0, ready) →
      (∀ line ∈ lines, line.command.numeric → line.typed.number.isSome) →
      runLines lines ready = .ok reached → VolumesInStep reached := by
  intro hall
  obtain ⟨ready, hinit⟩ := initialise_answeringSystem
  have hready := hall _ _ _ ready ready [] hinit (by simp) rfl
  have hsent := hready.sent .vlLpbk
  have hbooks := initialise_volumes hinit
  have hlast : lastSent ready .vlLpbk = some 30 :=
    congrFun (congrArg Volumes.sent hbooks) .vlLpbk
  have hgain : ready.params.vlLpbk = 30 :=
    congrFun (congrArg Volumes.gains hbooks) .vlLpbk
  have hglobal : ready.params.vGlobal = 4 := congrArg Volumes.vGlobal hbooks
  rw [hlast, hglobal, MixChannel.gain, hgain] at hsent
  exact absurd hsent (by decide)

end Runs

end Songpark.UiControl
