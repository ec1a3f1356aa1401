import Songpark.Ui.Execute

/-!
# The variables of the mixer

Gains, filter switches and the settings shown in the menu are ordinary
variables.  Five commands set volumes and twelve switch filters; this file
gives the twelve one common form and shows that all remaining commands leave
the variables alone.
-/

namespace Songpark.UiControl

open Songpark.RegisterFile Songpark.RegIo Songpark.Scan Songpark.StateProgram
open Songpark.MixerControl

/-- A low, band or high pass, on loopback or on the network. -/
inductive Filter
  | lfl
  | lfb
  | lfh
  | nfl
  | nfb
  | nfh
  deriving DecidableEq

namespace Filter

def base : Filter → Device
  | .lfl | .lfb | .lfh => .filterControl0
  | .nfl | .nfb | .nfh => .filterControl1

def type : Filter → Word
  | .lfl | .nfl => filterLowPass
  | .lfb | .nfb => filterBandPass
  | .lfh | .nfh => filterHighPass

/-- The offset of the enable register. -/
def reg : Filter → ℕ
  | .lfh | .nfh => filterControlReg 17
  | .lfb | .nfb => filterControlReg 18
  | .lfl | .nfl => filterControlReg 19

def field : Filter → UiParameters → Byte
  | .lfl, params => params.filterLLpbk
  | .lfb, params => params.filterBLpbk
  | .lfh, params => params.filterHLpbk
  | .nfl, params => params.filterLNet
  | .nfb, params => params.filterBNet
  | .nfh, params => params.filterHNet

def store : Filter → Byte → UiParameters → UiParameters
  | .lfl, enable, params => { params with filterLLpbk := enable }
  | .lfb, enable, params => { params with filterBLpbk := enable }
  | .lfh, enable, params => { params with filterHLpbk := enable }
  | .nfl, enable, params => { params with filterLNet := enable }
  | .nfb, enable, params => { params with filterBNet := enable }
  | .nfh, enable, params => { params with filterHNet := enable }

/-- The index of its entry in the settings. -/
def index : Filter → Fin 29
  | .lfl => 4
  | .lfb => 5
  | .lfh => 6
  | .nfl => 7
  | .nfb => 8
  | .nfh => 9

@[simp]
theorem field_store (filter other : Filter) (enable : Byte)
    (params : UiParameters) :
    filter.field (other.store enable params) =
      if other = filter then enable else filter.field params := by
  cases filter <;> cases other <;> rfl

theorem index_inj {filter other : Filter} :
    filter.index = other.index ↔ filter = other := by
  cases filter <;> cases other <;> decide

end Filter

/-- The filter a command switches, and whether it switches it on. -/
def Command.switches : Command → Option (Filter × Bool)
  | .lfle => some (.lfl, true)
  | .lfld => some (.lfl, false)
  | .lfbe => some (.lfb, true)
  | .lfbd => some (.lfb, false)
  | .lfhe => some (.lfh, true)
  | .lfhd => some (.lfh, false)
  | .nfle => some (.nfl, true)
  | .nfld => some (.nfl, false)
  | .nfbe => some (.nfb, true)
  | .nfbd => some (.nfb, false)
  | .nfhe => some (.nfh, true)
  | .nfhd => some (.nfh, false)
  | _ => none

/-- The twelve branches are one program. -/
theorem perform_switches {command : Command} {filter : Filter} {on : Bool}
    (hswitches : command.switches = some (filter, on)) :
    perform command = setFilter filter.base filter.type
      (if on then 1 else 0) filter.store filter.index := by
  cases command <;> cases hswitches <;> rfl

/-! ## Commands that leave the variables alone -/

/-- The variables of the volume and filter commands. -/
structure MixerVars where
  params : UiParameters
  setting : Fin 29 → Word
  globalVol : Word
  volumeCalls : List VolumeCall

def mixerVars (ui : UiState) : MixerVars where
  params := ui.params
  setting := ui.setting
  globalVol := ui.globalVol
  volumeCalls := ui.volumeCalls

section Keeps

variable {α : Type}

theorem keeps_mixer_device (program : DeviceM α) :
    Keeps mixerVars (device program) := by
  intro ui value reached hrun
  cases hrun
  rfl

theorem keeps_mixer_withTmp (program : LongWord → DeviceM Unit) :
    Keeps mixerVars (withTmp program) :=
  .bind (.observe _) fun _ => keeps_mixer_device _

theorem keeps_mixer_fetchWith (extend : Word → LongWord)
    (program : DeviceM Word) : Keeps mixerVars (fetchWith extend program) :=
  .bind (keeps_mixer_device _) fun _ => .change fun _ => rfl

theorem keeps_mixer_fetchLong (program : DeviceM LongWord) :
    Keeps mixerVars (fetchLong program) :=
  .bind (keeps_mixer_device _) fun _ => .change fun _ => rfl

theorem keeps_mixer_display
    (program : Display.Buffer → DeviceM Display.Buffer) :
    Keeps mixerVars (display program) :=
  .bind (.observe _) fun _ => .bind (keeps_mixer_device _) fun _ =>
    .change fun _ => rfl

theorem keeps_mixer_message (program : DeviceM Unit) (message : Text)
    (page : ℕ) :
    Keeps mixerVars (do
      device program
      clearDisplay
      showMessage message page) :=
  .bind (keeps_mixer_device _) fun _ =>
    .bind (keeps_mixer_display _) fun _ => keeps_mixer_display _

theorem keeps_mixer_warnLength (tmp header : LongWord) :
    Keeps mixerVars (warnLength tmp header) := by
  unfold warnLength
  split
  · exact .change fun _ => rfl
  · exact .pure _

/-- The loop never comes back from `exit`, and all other commands without a gain
or a filter keep the variables. -/
theorem perform_mixer {command : Command}
    (hgain : command.argument ≠ .gain) (hfilter : command.switches = none) :
    Keeps mixerVars (perform command) := by
  cases command
  case vgg | vll | vlr | vnl | vnr => exact absurd rfl hgain
  case lfhe | lfhd | nfhe | nfhd | lfbe | lfbd | nfbe | nfbd | lfle | lfld
      | nfle | nfld => cases hfilter
  case nstats | pbtreset | setsqsdly | help | invalid => exact .pure _
  case astatus | dstatus | getalle2a =>
    exact .bind (keeps_mixer_device _) fun _ => .pure _
  case strtestm1 | strtestm2 | strxtestm1 | plcon =>
    exact keeps_mixer_message _ _ _
  case plcoff =>
    exact .bind (keeps_mixer_device _) fun _ => keeps_mixer_display _
  case strmac =>
    refine .bind (.observe _) fun ip => ?_
    cases Address.extractMacAddress ip with
    | some mac => exact keeps_mixer_device _
    | none => exact .halt _
  case strsip | strdip | strlip | strgip | strmask =>
    refine .bind (.observe _) fun ip => ?_
    cases Address.extractIpAddress ip with
    | some octets => exact keeps_mixer_device _
    | none => exact .halt _
  case strport =>
    exact .bind (.observe _) fun _ => .bind (keeps_mixer_device _) fun _ =>
      .bind (keeps_mixer_display _) fun _ =>
      .bind (keeps_mixer_display _) fun _ => keeps_mixer_display _
  case strsport =>
    exact .bind (.observe _) fun _ => keeps_mixer_device _
  case strplen =>
    exact .bind (.observe _) fun _ => .bind (.change fun _ => rfl) fun _ =>
      .bind (.change fun _ => rfl) fun _ =>
      .bind (keeps_mixer_warnLength _ _) fun _ => keeps_mixer_device _
  case setplcpktsize =>
    exact .bind (.observe _) fun _ =>
      .bind (keeps_mixer_warnLength _ _) fun _ => keeps_mixer_device _
  case setnetdly | setpktdly =>
    exact .bind (.observe _) fun _ => keeps_mixer_fetchWith _ _
  case getmac =>
    exact .bind (keeps_mixer_device _) fun _ =>
      .bind (.change fun _ => rfl) fun _ => .change fun _ => rfl
  case getdip | getlip | getgip | getmask =>
    exact .bind (keeps_mixer_fetchWith _ _) fun _ => .bind (.observe _) fun _ =>
      .bind (.change fun _ => rfl) fun _ => .change fun _ => rfl
  case getport =>
    exact .bind (keeps_mixer_device _) fun _ =>
      .bind (.change fun _ => rfl) fun _ => .change fun _ => rfl
  case exit =>
    intro ui value reached hrun
    simp [perform, shutdown, setAllVolumes] at hrun
  case sethdrlen | setsyncdly | strnsp | strporder | setppdly | setpblim
      | setdlim | setbslk | setbdlm | setprdly | setsqlkdly | strblen
      | setpoutdly | setlooplimit | setcrwin | setptl1 | setptpidl | setptl2
      | setptdiffl =>
    exact keeps_mixer_withTmp _
  case getptl1 | getptpidl | getptl2 | getpkt2pktdly | getaccpktdly
      | getptdiffl | getptdiffv =>
    exact keeps_mixer_fetchLong _
  all_goals first
    | exact keeps_mixer_device _
    | exact keeps_mixer_fetchWith _ _

theorem keeps_mixer_scanArgument (typed : Typed) (argument : Argument) :
    Keeps mixerVars (scanArgument typed argument) := by
  cases argument with
  | nothing => exact .pure _
  | gain => exact .change fun _ => rfl
  | tmp => exact .change fun _ => rfl
  | destPort => exact .change fun _ => rfl
  | ip =>
      refine .bind (.observe _) fun ip => ?_
      split
      · exact .change fun _ => rfl
      · exact .halt _

end Keeps

end Songpark.UiControl
