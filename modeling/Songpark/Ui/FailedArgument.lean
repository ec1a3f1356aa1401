import Songpark.Ui.Console
import Songpark.Ui.Streaming
import Songpark.Ui.Volume

/-!
# Numbers that are not there

No branch looks at the result of its `scanf`.  When the input does not go on
with a number, the command is carried out with what its variable held before.
The main result says when this leaves everything as it was: exactly when the
state already holds all that the old value would be written to.
-/

namespace Songpark.UiControl

open Songpark.RegisterFile Songpark.RegIo Songpark.Scan Songpark.StateProgram
open Songpark.EthParam Songpark.StreamControl

/-- The registers, the gains last sent, and the variables of the mixer are the
same. -/
structure Intact (ui reached : UiState) : Prop where
  content : reached.board.content = ui.board.content
  sent : lastSent reached = lastSent ui
  params : reached.params = ui.params
  setting : reached.setting = ui.setting
  globalVol : reached.globalVol = ui.globalVol
  pktLen : reached.pktLen = ui.pktLen
  pktLenRlSamples : reached.pktLenRlSamples = ui.pktLenRlSamples

/-! ## What the old variables would be written to -/

/-- The display buffer after a destination port is shown. -/
def portBuffer (destPort : Word) : Display.Buffer :=
  Display.textAdded 2 0 (decimalInt destPort)
    (Display.textAdded 1 0 "DEST PORT".toList fun _ => 0)

/-- The value that a command running on with the old variables leaves in a
register it writes. -/
def staleValue (command : Command) (ui : UiState) (cell : Register) : Word :=
  match command with
  | .strport =>
      Display.shown .zedboardOled (portBuffer ui.destPort)
        (fun _ => ui.destPort) cell
  | .strsport => ui.destPort
  | .strnsp => speedControl ui.tmp (ui.board.content cell)
  | .setppdly =>
      if cell.offset = 8 then (ui.tmp * 0x40).setWidth 32
      else ((ui.tmp * 0x40) >>> 32).setWidth 32
  | .setplcpktsize => (ui.tmp - 2).setWidth 32
  | .strblen =>
      if cell.offset = 20 then ui.tmp.setWidth 32
      else ui.board.content cell &&& 0xFFFFFFFC
  | .setpoutdly => (ui.tmp * 96).setWidth 32
  | .setptl1 =>
      if cell.offset = 12 then ui.tmp.setWidth 32
      else (ui.tmp >>> 32).setWidth 32
  | .setptpidl =>
      if cell.offset = 84 then ui.tmp.setWidth 32
      else (ui.tmp >>> 32).setWidth 32
  | .setptl2 =>
      if cell.offset = 20 then ui.tmp.setWidth 32
      else (ui.tmp >>> 32).setWidth 32
  | .setptdiffl =>
      if cell.offset = 64 then ui.tmp.setWidth 32
      else (ui.tmp >>> 32).setWidth 32
  | _ => ui.tmp.setWidth 32

/-- The channel already has the old gain, and was sent it last. -/
def ChannelSettled (channel : MixChannel) (index : Fin 29) (ui : UiState) :
    Prop :=
  lastSent ui channel = some (ui.params.vGlobal * ui.gain) ∧
    channel.gain ui.params = ui.gain ∧ ui.setting index = ui.gain

def GainSettled (command : Command) (ui : UiState) : Prop :=
  match command with
  | .vgg => ui.params.vGlobal = ui.gain ∧ ui.globalVol = ui.gain ∧
      ∀ channel : MixChannel,
        lastSent ui channel = some (channel.gain ui.params * ui.gain)
  | .vll => ChannelSettled .vlLpbk 1 ui
  | .vlr => ChannelSettled .vrLpbk 0 ui
  | .vnl => ChannelSettled .vlNet 3 ui
  | .vnr => ChannelSettled .vrNet 2 ui
  | _ => True

/-- The state already holds all that the old variable of the command would be
written to. -/
structure Settled (command : Command) (ui : UiState) : Prop where
  registers : ∀ cell ∈ footprint command,
    ui.board.content cell = staleValue command ui cell
  gains : GainSettled command ui
  lengths : command = .strplen →
    ui.pktLen = (ui.tmp - 12).setWidth 32 ∧
      ui.pktLenRlSamples = (ui.tmp - 12).setWidth 32 / 6

/-! ## Registers -/

section Registers

variable {command : Command} {typed : Typed} {ui reached : UiState}

theorem intoTmp_none (htyped : typed.number = none) (tmp : LongWord) :
    typed.intoTmp tmp = tmp := by
  rw [Typed.intoTmp, htyped]

theorem showPort_content (destPort : Word) (board : MixerBoard) :
    (showPort destPort board).2.content =
      Display.shown .zedboardOled (portBuffer destPort)
        (writeEthParam .fullUdpStackIp .destPort destPort board).2.content := by
  rw [showPort, RegisterFile.bind_apply, RegisterFile.bind_apply,
    RegisterFile.bind_apply]
  generalize (writeEthParam .fullUdpStackIp .destPort destPort board).2 =
    written
  obtain ⟨hempty, hclear⟩ := Display.oledClear_apply written
  rw [hempty]
  obtain ⟨htitle, hshown⟩ :=
    Display.oledPrintMessage_apply "DEST PORT".toList _ hclear
  rw [htitle]
  exact (Display.oledPrintMessage_apply _ _ hshown).2

theorem unread_content (hnumeric : command.numeric)
    (htyped : typed.number = none)
    (hstep : step ⟨command, typed⟩ ui = .ok reached) {cell : Register}
    (hcell : cell ∈ footprint command) :
    reached.board.content cell = staleValue command ui cell := by
  cases command
  case sethdrlen | setsyncdly | strporder | setdlim | setbslk | setbdlm |
      setprdly | setsqlkdly | setlooplimit | setpoutdly =>
    obtain rfl := List.mem_singleton.mp hcell
    rw [step_withTmp rfl rfl hstep, intoTmp_none htyped]
    simp [staleValue]
  case setppdly | setptl1 | setptpidl | setptl2 | setptdiffl | strblen |
      setpblim =>
    obtain rfl | rfl := List.mem_pair.mp hcell
    · rw [step_withTmp rfl rfl hstep, intoTmp_none htyped]
      simp [staleValue]
    · rw [step_withTmp rfl rfl hstep, intoTmp_none htyped]
      simp [staleValue]
  case setnetdly | setpktdly =>
    obtain rfl := List.mem_singleton.mp hcell
    obtain ⟨hrun, _⟩ := step_eq_ok.mp hstep
    rw [execute_exchange rfl rfl, intoTmp_none htyped] at hrun
    cases hrun
    simp [staleValue, clearLog]
  case strnsp =>
    obtain rfl := List.mem_singleton.mp hcell
    have hcontrol := step_speed hstep
    rw [intoTmp_none htyped] at hcontrol
    exact hcontrol
  case strplen =>
    obtain rfl := List.mem_singleton.mp hcell
    obtain ⟨printed, rfl⟩ := step_strplen hstep
    rw [intoTmp_none htyped]
    simp [staleValue]
  case setplcpktsize =>
    obtain rfl := List.mem_singleton.mp hcell
    rw [step_setplcpktsize hstep, intoTmp_none htyped]
    simp [staleValue]
  case strsport =>
    obtain rfl := List.mem_singleton.mp hcell
    obtain ⟨hrun, _⟩ := step_eq_ok.mp hstep
    rw [execute_strsport, htyped] at hrun
    cases hrun
    simp [staleValue, paramRegs, clearLog]
  case strport =>
    obtain ⟨hrun, _⟩ := step_eq_ok.mp hstep
    rw [execute_strport, htyped] at hrun
    cases hrun
    rw [Option.getD_none, showPort_content]
    rcases List.mem_append.mp hcell with hport | holed
    · obtain ⟨offset, hoffset, rfl⟩ := List.mem_map.mp hport
      simp [Display.shown, staleValue, hoffset, clearLog]
    · obtain ⟨offset, hoffset, rfl⟩ := List.mem_map.mp holed
      by_cases hpulse : offset = 64
      · simp [Display.shown, staleValue, hpulse]
      · have hshown : offset ∈ Display.displayOffsets :=
          (List.mem_cons.mp hoffset).resolve_left hpulse
        simp [Display.shown, staleValue, hpulse, hshown, clearLog]
  all_goals first
    | exact absurd hcell List.not_mem_nil
    | exact absurd hnumeric (by decide)

/-- The registers are unchanged when they held the old value before. -/
theorem unread_content_eq_iff (hnumeric : command.numeric)
    (htyped : typed.number = none)
    (hstep : step ⟨command, typed⟩ ui = .ok reached) :
    reached.board.content = ui.board.content ↔
      ∀ cell ∈ footprint command,
        ui.board.content cell = staleValue command ui cell := by
  constructor
  · intro hsame cell hcell
    rw [← hsame]
    exact unread_content hnumeric htyped hstep hcell
  · intro hsettled
    funext cell
    by_cases hcell : cell ∈ footprint command
    · rw [unread_content hnumeric htyped hstep hcell, hsettled cell hcell]
    · exact command_cell hcell hstep

end Registers

/-! ## Variables -/

section Variables

variable {command : Command} {typed : Typed} {ui reached : UiState}

/-- The variables of the mixer, with the calls that were made. -/
def mixerVariables (ui : UiState) :=
  (ui.volumeCalls, ui.params, ui.setting, ui.globalVol)

def lengthVariables (ui : UiState) := (ui.pktLen, ui.pktLenRlSamples)

/-- Only the volume commands touch the variables of the mixer, and only the
payload length has variables of its own. -/
theorem step_variables (hnumeric : command.numeric)
    (hgain : command.argument ≠ .gain)
    (hstep : step ⟨command, typed⟩ ui = .ok reached) :
    mixerVariables reached = mixerVariables ui ∧
      (command ≠ .strplen → lengthVariables reached = lengthVariables ui) := by
  cases command
  case sethdrlen | setsyncdly | strnsp | strporder | setppdly | setpblim
      | setdlim | setbslk | setbdlm | setprdly | setsqlkdly | strblen
      | setpoutdly | setlooplimit | setptl1 | setptpidl | setptl2
      | setptdiffl =>
    rw [step_withTmp rfl rfl hstep]
    exact ⟨rfl, fun _ => rfl⟩
  case setnetdly | setpktdly =>
    obtain ⟨hrun, _⟩ := step_eq_ok.mp hstep
    rw [execute_exchange rfl rfl] at hrun
    cases hrun
    exact ⟨rfl, fun _ => rfl⟩
  case setsqsdly =>
    obtain ⟨hrun, _⟩ := step_eq_ok.mp hstep
    rw [execute_tmp rfl] at hrun
    cases hrun
    exact ⟨rfl, fun _ => rfl⟩
  case strplen =>
    obtain ⟨printed, rfl⟩ := step_strplen hstep
    exact ⟨rfl, fun hother => absurd rfl hother⟩
  case setplcpktsize =>
    obtain ⟨hrun, _⟩ := step_eq_ok.mp hstep
    obtain ⟨printed, hexecute⟩ := execute_setplcpktsize
    rw [hexecute] at hrun
    cases hrun
    exact ⟨rfl, fun _ => rfl⟩
  case strport =>
    obtain ⟨hrun, _⟩ := step_eq_ok.mp hstep
    rw [execute_strport] at hrun
    cases hrun
    exact ⟨rfl, fun _ => rfl⟩
  case strsport =>
    obtain ⟨hrun, _⟩ := step_eq_ok.mp hstep
    rw [execute_strsport] at hrun
    cases hrun
    exact ⟨rfl, fun _ => rfl⟩
  all_goals first
    | exact absurd rfl hgain
    | exact absurd hnumeric (by decide)

theorem unread_lengths (htyped : typed.number = none)
    (hstep : step ⟨.strplen, typed⟩ ui = .ok reached) :
    reached.pktLen = (ui.tmp - 12).setWidth 32 ∧
      reached.pktLenRlSamples = (ui.tmp - 12).setWidth 32 / 6 := by
  obtain ⟨printed, rfl⟩ := step_strplen hstep
  rw [intoTmp_none htyped]
  exact ⟨rfl, rfl⟩

/-- A volume command leaves the lengths alone, and its registers: it has
none. -/
theorem perform_gain_lengths (hgain : command.argument = .gain)
    (hrun : perform command ui = .ok ((), reached)) :
    lengthVariables reached = lengthVariables ui := by
  cases command
  case vgg | vll | vlr | vnl | vnr =>
    cases hrun
    rfl
  all_goals exact absurd hgain (by decide)

/-- What a repeated channel command changes. -/
theorem setChannel_unchanged_iff (channel : MixChannel) {index : Fin 29}
    {store : Word → UiParameters → UiParameters}
    (hrun : setChannel channel.volumeBase channel.id store index ui =
      .ok ((), reached))
    (hstore : ∀ params, store ui.gain params = params ↔
      channel.gain params = ui.gain) :
    (lastSent reached = lastSent ui ∧ reached.params = ui.params ∧
      reached.setting = ui.setting ∧ reached.globalVol = ui.globalVol) ↔
      ChannelSettled channel index ui := by
  have hsent : lastSent reached = Function.update (lastSent ui) channel
      (some (ui.params.vGlobal * ui.gain)) := by
    cases hrun
    exact lastSent_cons rfl
  have hsetting : reached.setting =
      Function.update ui.setting index ui.gain := by
    cases hrun
    rfl
  have hparams : reached.params = store ui.gain ui.params := by
    cases hrun
    rfl
  have hglobal : reached.globalVol = ui.globalVol := by
    cases hrun
    rfl
  rw [hsent, hsetting, hparams, hstore, Function.update_eq_self_iff,
    Function.update_eq_self_iff, ChannelSettled]
  constructor
  · rintro ⟨hlast, hgain, hindex, _⟩
    exact ⟨hlast.symm, hgain, hindex.symm⟩
  · rintro ⟨hlast, hgain, hindex⟩
    exact ⟨hlast.symm, hgain, hindex.symm, hglobal⟩

theorem vgg_unchanged_iff (hrun : perform .vgg ui = .ok ((), reached)) :
    (lastSent reached = lastSent ui ∧ reached.params = ui.params ∧
      reached.setting = ui.setting ∧ reached.globalVol = ui.globalVol) ↔
      GainSettled .vgg ui := by
  have hvolumes := perform_gain_volumes rfl hrun
  have hsent : ∀ channel : MixChannel, lastSent reached channel =
      some (channel.gain ui.params * ui.gain) := fun channel =>
    congrFun (congrArg Volumes.sent hvolumes) channel
  have hparams : reached.params =
      { ui.params with vGlobal := ui.gain } := by
    cases hrun
    rfl
  have hsetting : reached.setting = ui.setting := by
    cases hrun
    rfl
  have hglobal : reached.globalVol = ui.gain := by
    cases hrun
    rfl
  rw [hparams, hsetting, hglobal, GainSettled]
  constructor
  · rintro ⟨hlast, hsame, _, hcopy⟩
    refine ⟨(congrArg UiParameters.vGlobal hsame).symm, hcopy.symm, ?_⟩
    intro channel
    rw [← hlast, hsent]
  · rintro ⟨hgain, hcopy, hlast⟩
    refine ⟨funext fun channel => ?_, ?_, rfl, hcopy.symm⟩
    · rw [hsent, hlast]
    · rw [← hgain]

theorem perform_gain_unchanged_iff (hgain : command.argument = .gain)
    (hrun : perform command ui = .ok ((), reached)) :
    (lastSent reached = lastSent ui ∧ reached.params = ui.params ∧
      reached.setting = ui.setting ∧ reached.globalVol = ui.globalVol) ↔
      GainSettled command ui := by
  cases command
  case vgg => exact vgg_unchanged_iff hrun
  case vll =>
    rw [perform] at hrun
    refine setChannel_unchanged_iff .vlLpbk hrun fun params => ?_
    cases params
    simp [MixChannel.gain, eq_comm]
  case vlr =>
    rw [perform] at hrun
    refine setChannel_unchanged_iff .vrLpbk hrun fun params => ?_
    cases params
    simp [MixChannel.gain, eq_comm]
  case vnl =>
    rw [perform] at hrun
    refine setChannel_unchanged_iff .vlNet hrun fun params => ?_
    cases params
    simp [MixChannel.gain, eq_comm]
  case vnr =>
    rw [perform] at hrun
    refine setChannel_unchanged_iff .vrNet hrun fun params => ?_
    cases params
    simp [MixChannel.gain, eq_comm]
  all_goals exact absurd hgain (by decide)

theorem gains_unchanged_iff (hnumeric : command.numeric)
    (htyped : typed.number = none)
    (hstep : step ⟨command, typed⟩ ui = .ok reached) :
    (lastSent reached = lastSent ui ∧ reached.params = ui.params ∧
      reached.setting = ui.setting ∧ reached.globalVol = ui.globalVol) ↔
      GainSettled command ui := by
  by_cases hgain : command.argument = .gain
  · obtain ⟨hrun, _⟩ := step_eq_ok.mp hstep
    rw [execute_unread hnumeric htyped] at hrun
    have hunchanged := perform_gain_unchanged_iff hgain hrun
    exact hunchanged
  · have hmixer := (step_variables hnumeric hgain hstep).1
    simp only [mixerVariables, Prod.mk.injEq] at hmixer
    obtain ⟨hcalls, hparams, hsetting, hglobal⟩ := hmixer
    have hsent : lastSent reached = lastSent ui := by
      funext channel
      rw [lastSent, hcalls, lastSent]
    have hsettled : GainSettled command ui := by
      cases command <;> trivial
    exact iff_of_true ⟨hsent, hparams, hsetting, hglobal⟩ hsettled

theorem lengths_unchanged_iff (hnumeric : command.numeric)
    (htyped : typed.number = none)
    (hstep : step ⟨command, typed⟩ ui = .ok reached) :
    (reached.pktLen = ui.pktLen ∧
      reached.pktLenRlSamples = ui.pktLenRlSamples) ↔
      (command = .strplen → ui.pktLen = (ui.tmp - 12).setWidth 32 ∧
        ui.pktLenRlSamples = (ui.tmp - 12).setWidth 32 / 6) := by
  by_cases hplen : command = .strplen
  · subst hplen
    obtain ⟨hlength, hsamples⟩ := unread_lengths htyped hstep
    rw [hlength, hsamples]
    constructor
    · rintro ⟨hpkt, hrl⟩ _
      exact ⟨hpkt.symm, hrl.symm⟩
    · intro hsettled
      exact ⟨(hsettled rfl).1.symm, (hsettled rfl).2.symm⟩
  · have hsame : lengthVariables reached = lengthVariables ui := by
      by_cases hgain : command.argument = .gain
      · obtain ⟨hrun, _⟩ := step_eq_ok.mp hstep
        rw [execute_unread hnumeric htyped] at hrun
        have hlengths := perform_gain_lengths hgain hrun
        exact hlengths
      · exact (step_variables hnumeric hgain hstep).2 hplen
    simp only [lengthVariables, Prod.mk.injEq] at hsame
    exact iff_of_true hsame fun heq => absurd heq hplen

end Variables

/-! ## The exact condition -/

section Main

variable {command : Command} {input : Text} {ui reached : UiState}

/-- A number command that finds no number leaves everything as it was exactly
when the state already holds what the old value would be written to. -/
theorem intact_iff_settled (hnumeric : command.numeric)
    (hinput : ¬ StartsWithDecimal input)
    (hstep : step ⟨command, found input⟩ ui = .ok reached) :
    Intact ui reached ↔ Settled command ui := by
  have htyped := found_number_eq_none.mpr hinput
  have hregisters := unread_content_eq_iff hnumeric htyped hstep
  have hgains := gains_unchanged_iff hnumeric htyped hstep
  have hlengths := lengths_unchanged_iff hnumeric htyped hstep
  constructor
  · intro hintact
    exact ⟨hregisters.mp hintact.content,
      hgains.mp ⟨hintact.sent, hintact.params, hintact.setting,
        hintact.globalVol⟩,
      hlengths.mp ⟨hintact.pktLen, hintact.pktLenRlSamples⟩⟩
  · intro hsettled
    obtain ⟨hsent, hparams, hsetting, hglobal⟩ := hgains.mpr hsettled.gains
    obtain ⟨hlength, hsamples⟩ := hlengths.mpr hsettled.lengths
    exact ⟨hregisters.mpr hsettled.registers, hsent, hparams, hsetting,
      hglobal, hlength, hsamples⟩

/-- The number that is left over is the header length that was set. -/
theorem unread_header_intact :
    ∃ ui reached,
      runLines [⟨.setsqsdly, ⟨some 42, none⟩⟩, ⟨.sethdrlen, ⟨some 42, none⟩⟩]
        (start blankBoard 0) = .ok ui ∧
      step ⟨.sethdrlen, found "abc\n".toList⟩ ui = .ok reached ∧
      ui.tmp = 42 ∧ ui.board.content ⟨.ethToAudio, 36⟩ = 42 ∧
      Intact ui reached := by
  obtain ⟨ui, reached, hrun, hstep, htmp, hheld⟩ : ∃ ui reached,
      runLines [⟨.setsqsdly, ⟨some 42, none⟩⟩, ⟨.sethdrlen, ⟨some 42, none⟩⟩]
        (start blankBoard 0) = .ok ui ∧
      step ⟨.sethdrlen, found "abc\n".toList⟩ ui = .ok reached ∧
      ui.tmp = 42 ∧ ui.board.content ⟨.ethToAudio, 36⟩ = 42 :=
    ⟨_, _, rfl, rfl, by decide, by decide⟩
  have hregisters : ∀ cell ∈ footprint .sethdrlen,
      ui.board.content cell = staleValue .sethdrlen ui cell := by
    intro cell hcell
    obtain rfl := List.mem_singleton.mp hcell
    have hstale : staleValue .sethdrlen ui ⟨.ethToAudio, 36⟩ =
        ui.tmp.setWidth 32 := rfl
    rw [hstale, htmp]
    exact hheld
  have hsettled : Settled .sethdrlen ui :=
    ⟨hregisters, trivial, fun hplen => absurd hplen (by decide)⟩
  exact ⟨ui, reached, hrun, hstep, htmp, hheld, (intact_iff_settled rfl
    (found_number_eq_none.mp rfl) hstep).mpr hsettled⟩

/-- After a number was typed for another command, it becomes the header
length. -/
theorem unread_header_written :
    ¬ ∀ (lines : List Line) (command : Command) (input : Text)
      (ui reached : UiState), runLines lines (start blankBoard 0) = .ok ui →
      command.numeric → ¬ StartsWithDecimal input →
      step ⟨command, found input⟩ ui = .ok reached → Intact ui reached := by
  intro hall
  obtain ⟨ui, reached, hrun, hstep, hheld, htmp⟩ : ∃ ui reached,
      runLines [⟨.setsqsdly, ⟨some 42, none⟩⟩] (start blankBoard 0) = .ok ui ∧
      step ⟨.sethdrlen, found "abc\n".toList⟩ ui = .ok reached ∧
      ui.board.content ⟨.ethToAudio, 36⟩ = 0 ∧ ui.tmp = 42 :=
    ⟨_, _, rfl, rfl, rfl, by decide⟩
  have hunread : (found "abc\n".toList).number = none := rfl
  have hinput := found_number_eq_none.mp hunread
  have hintact := hall _ _ _ _ _ hrun rfl hinput hstep
  have hregister := (unread_content_eq_iff rfl hunread hstep).mp
    hintact.content ⟨.ethToAudio, 36⟩ (by decide)
  have hstale : staleValue .sethdrlen ui ⟨.ethToAudio, 36⟩ =
      ui.tmp.setWidth 32 := rfl
  rw [hheld, hstale, htmp] at hregister
  exact absurd hregister (by decide)

end Main

end Songpark.UiControl
