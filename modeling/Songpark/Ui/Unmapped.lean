import Songpark.Ui.Frame
import Songpark.Ui.Init

/-!
# Accesses through the packet time enforcer

The initialisation maps twelve devices, the commands use thirteen: the mapping
of the packet time enforcer is commented out, the commands that work on it are
not.  So a run accesses mapped devices only as long as none of them is typed.
-/

namespace Songpark.UiControl

open Songpark.RegisterFile Songpark.RegIo Songpark.Scan Songpark.StateProgram
open Songpark.Address Songpark.EthParam Songpark.MixerControl
open Songpark.StreamControl

/-- The branches that pass `packet_time_enforcer_base_0` to a driver call. -/
def Command.timing : Command → Bool
  | .pbtrreset | .pbtoff | .pbton | .setptl1 | .setptpidl | .setptl2
  | .getptl1 | .getptpidl | .getptl2 | .getptlock | .ptpidon | .ptpidoff
  | .getptstatus | .setptlock | .setptaccum | .clrptaccum | .getptaccum
  | .clrptlock | .getnetdly | .getpktbuilddly | .getpkt2pktdly
  | .getaccpktdly | .setnetdly | .setpktdly | .ptdfon | .ptdfoff
  | .getptdiffs | .setptdiffl | .getptdiffl | .getptdiffv => true
  | _ => false

/-! ## Commands that leave a device alone -/

section Bodies

variable {dev : Device}

theorem avoids_pulseTransmit (hstack : Device.fullUdpStackIp ≠ dev) :
    Avoids dev pulseTransmit :=
  .bind (avoids_readEthParam _ hstack) fun _ =>
    .bind (avoids_writeEthParam hstack) fun _ => avoids_writeEthParam hstack

theorem avoids_resetReceive (hstack : Device.fullUdpStackIp ≠ dev)
    (hseq : Device.ethPacketSequencer ≠ dev) (hadc : Device.audioToEth ≠ dev)
    (hdac : Device.ethToAudio ≠ dev) : Avoids dev resetReceive :=
  .bind (avoids_pulseTransmit hstack) fun _ =>
    .bind (avoids_pulseShown hseq) fun _ => .bind (avoids_pulse hadc) fun _ =>
    avoids_pulse hdac

theorem avoids_resetDac (hstack : Device.fullUdpStackIp ≠ dev)
    (hsync : Device.timeSync ≠ dev) (hdac : Device.ethToAudio ≠ dev) :
    Avoids dev resetDac :=
  .bind (avoids_modifyControl hstack) fun _ =>
    .bind (avoids_writeShown hsync) fun _ =>
    .bind (avoids_pulseShown hsync) fun _ =>
    .bind (avoids_writeShown hsync) fun _ =>
    .bind (avoids_modifyControl hstack) fun _ => avoids_pulse hdac

theorem avoids_startTransmit (hstack : Device.fullUdpStackIp ≠ dev)
    (hadc : Device.audioToEth ≠ dev) : Avoids dev startTransmit :=
  .bind (avoids_modifyControl hstack) fun _ =>
    .bind (avoids_readEthParam _ hstack) fun _ => avoids_pulse hadc

theorem avoids_stopTransmit (hstack : Device.fullUdpStackIp ≠ dev)
    (hadc : Device.audioToEth ≠ dev) : Avoids dev stopTransmit :=
  .bind (avoids_readEthParam _ hstack) fun _ =>
    .bind (avoids_setSyncOff hadc hstack) fun _ =>
    .bind (avoids_writeEthParam hstack) fun _ =>
    .bind (avoids_readEthParam _ hstack) fun _ => .pure _

theorem avoids_setSpeed (tmp : LongWord)
    (hstack : Device.fullUdpStackIp ≠ dev) : Avoids dev (setSpeed tmp) :=
  .bind (avoids_readEthParam _ hstack) fun _ =>
    .ite (avoids_writeEthParam hstack)
      (.ite (avoids_writeEthParam hstack)
        (.ite (avoids_writeEthParam hstack) (.pure _)))

theorem avoids_readTimeCodes (hdac : Device.ethToAudio ≠ dev) :
    Avoids dev readTimeCodes :=
  .bind (.readReg hdac) fun _ => .bind (.readReg hdac) fun _ =>
    .bind (.readReg hdac) fun _ => .bind (.readReg hdac) fun _ =>
    .bind (.readReg hdac) fun _ => .bind (.readReg hdac) fun _ =>
    .bind (.readReg hdac) fun _ => .readReg hdac

theorem setAllVolumes_avoids (gain : Word) :
    UiAvoids dev (setAllVolumes gain) :=
  .bind (.observe _) fun _ => .bind (.setVolume _ _ _) fun _ =>
    .bind (.setVolume _ _ _) fun _ => .bind (.setVolume _ _ _) fun _ =>
    .setVolume _ _ _

theorem setChannel_avoids (volumeBase : Device) (channel : ChannelId)
    (store : Word → UiParameters → UiParameters) (index : Fin 29) :
    UiAvoids dev (setChannel volumeBase channel store index) :=
  .bind (.observe _) fun _ => .bind (.observe _) fun _ =>
    .bind (.setVolume _ _ _) fun _ => .bind (.change fun _ => rfl) fun _ =>
    .change fun _ => rfl

theorem setFilter_avoids {filterBase : Device} (type : Word) (enable : Byte)
    (store : Byte → UiParameters → UiParameters) (index : Fin 29)
    (hfilter : filterBase ≠ dev) :
    UiAvoids dev (setFilter filterBase type enable store index) :=
  .bind (.device (avoids_setFilterType hfilter)) fun _ =>
    .bind (.change fun _ => rfl) fun _ => .change fun _ => rfl

theorem writeAddress_avoids (param : EthParamId)
    (hstack : Device.fullUdpStackIp ≠ dev) :
    UiAvoids dev (writeAddress param) := by
  refine .bind (.observe _) fun ip => ?_
  cases extractIpAddress ip with
  | some octets => exact .device (avoids_writeEthParam hstack)
  | none => exact .halt _

theorem writeMac_avoids (hstack : Device.fullUdpStackIp ≠ dev) :
    UiAvoids dev writeMac := by
  refine .bind (.observe _) fun ip => ?_
  cases extractMacAddress ip with
  | some mac => exact .device (avoids_writeEthMac hstack)
  | none => exact .halt _

theorem reportAddress_avoids (param : EthParamId)
    (hstack : Device.fullUdpStackIp ≠ dev) :
    UiAvoids dev (reportAddress param) :=
  .bind (.fetchWith (avoids_readEthParam _ hstack)) fun _ =>
    .bind (.observe _) fun _ => .bind (.change fun _ => rfl) fun _ => .print _

theorem reportPort_avoids (hstack : Device.fullUdpStackIp ≠ dev) :
    UiAvoids dev reportPort :=
  .bind (.device (avoids_readEthParam _ hstack)) fun _ =>
    .bind (.change fun _ => rfl) fun _ => .print _

theorem reportMac_avoids (hstack : Device.fullUdpStackIp ≠ dev) :
    UiAvoids dev reportMac :=
  .bind (.device (avoids_readEthMac hstack)) fun _ =>
    .bind (.print _) fun _ => .change fun _ => rfl

theorem warnLength_avoids (tmp header : LongWord) :
    UiAvoids dev (warnLength tmp header) :=
  .ite (.print _) (.pure _)

theorem setPayloadLength_avoids (hadc : Device.audioToEth ≠ dev) :
    UiAvoids dev setPayloadLength :=
  .bind (.observe _) fun _ => .bind (.change fun _ => rfl) fun _ =>
    .bind (.change fun _ => rfl) fun _ =>
    .bind (warnLength_avoids _ _) fun _ => .device (.writeReg hadc)

theorem setPlcPacketSize_avoids (hseq : Device.ethPacketSequencer ≠ dev) :
    UiAvoids dev setPlcPacketSize :=
  .bind (.observe _) fun _ => .bind (warnLength_avoids _ _) fun _ =>
    .device (avoids_writeShown hseq)

theorem setDestPort_avoids (hstack : Device.fullUdpStackIp ≠ dev)
    (holed : Device.zedboardOled ≠ dev) : UiAvoids dev setDestPort :=
  .bind (.observe _) fun _ =>
    .bind (.device (avoids_writeEthParam hstack)) fun _ =>
    .bind (.clearDisplay holed) fun _ =>
    .bind (.showMessage holed _ _) fun _ => .showMessage holed _ _

theorem setSyncPort_avoids (hstack : Device.fullUdpStackIp ≠ dev) :
    UiAvoids dev setSyncPort :=
  .bind (.observe _) fun _ => .device (avoids_writeEthParam hstack)

theorem deviceMessage_avoids {program : DeviceM Unit} {message : Text}
    {page : ℕ} (hprogram : Avoids dev program)
    (holed : Device.zedboardOled ≠ dev) :
    UiAvoids dev (do
      device program
      clearDisplay
      showMessage message page) :=
  .bind (.device hprogram) fun _ => .bind (.clearDisplay holed) fun _ =>
    .showMessage holed _ _

end Bodies

/-- No other command reaches the packet time enforcer. -/
theorem perform_avoids {command : Command} (htiming : command.timing = false) :
    UiAvoids .packetTimeEnforcer (perform command) := by
  cases command
  case pbtrreset | pbtoff | pbton | setptl1 | setptpidl | setptl2 | getptl1
      | getptpidl | getptl2 | getptlock | ptpidon | ptpidoff | getptstatus
      | setptlock | setptaccum | clrptaccum | getptaccum | clrptlock
      | getnetdly | getpktbuilddly | getpkt2pktdly | getaccpktdly | setnetdly
      | setpktdly | ptdfon | ptdfoff | getptdiffs | setptdiffl | getptdiffl
      | getptdiffv => cases htiming
  case vgg =>
    rw [perform]
    exact .bind (.observe _) fun _ => .bind (.change fun _ => rfl) fun _ =>
      .bind (.change fun _ => rfl) fun _ => setAllVolumes_avoids _
  case vll | vlr | vnl | vnr =>
    rw [perform]
    exact setChannel_avoids _ _ _ _
  case lfhe | lfhd | nfhe | nfhd | lfbe | lfbd | nfbe | nfbd | lfle | lfld
      | nfle | nfld =>
    rw [perform]
    exact setFilter_avoids _ _ _ _ (by decide)
  case astatus | dstatus =>
    rw [perform]
    exact .bind (.device (avoids_readFifoStatus _ (by decide))) fun _ =>
      .pure _
  case dreset =>
    rw [perform]
    exact .device (avoids_resetDac (by decide) (by decide) (by decide))
  case creset =>
    rw [perform]
    exact .device (avoids_pulseTransmit (by decide))
  case freset | rxrsync =>
    rw [perform]
    exact .device (avoids_resetReceive (by decide) (by decide) (by decide)
      (by decide))
  case strtestm1 | strtestm2 =>
    rw [perform]
    exact deviceMessage_avoids (avoids_modifyReg (by decide)) (by decide)
  case strxtestm1 =>
    rw [perform]
    exact deviceMessage_avoids (avoids_writeShown (by decide)) (by decide)
  case plcon =>
    rw [perform]
    exact deviceMessage_avoids (avoids_modifyShown (by decide)) (by decide)
  case plcoff =>
    rw [perform]
    exact .bind (.device (avoids_modifyShown (by decide))) fun _ =>
      .clearDisplay (by decide)
  case setsyncen =>
    rw [perform]
    exact .device (.bind (avoids_writeShown (by decide)) fun _ =>
      avoids_modifyControl (by decide))
  case setsyncon =>
    rw [perform]
    exact .device (.bind (avoids_initiateSync (by decide) (by decide))
      fun _ => avoids_writeShown (by decide))
  case tgsync =>
    rw [perform]
    exact .device (.bind (avoids_setSyncOff (by decide) (by decide))
      fun _ => avoids_writeShown (by decide))
  case strstart =>
    rw [perform]
    exact .device (avoids_startTransmit (by decide) (by decide))
  case strstop =>
    rw [perform]
    exact .device (avoids_stopTransmit (by decide) (by decide))
  case strrxon | strrxstop =>
    rw [perform]
    exact .device (avoids_modifyControl (by decide))
  case strmac =>
    rw [perform]
    exact writeMac_avoids (by decide)
  case strsip | strdip | strlip | strgip | strmask =>
    rw [perform]
    exact writeAddress_avoids _ (by decide)
  case strport =>
    rw [perform]
    exact setDestPort_avoids (by decide) (by decide)
  case strsport =>
    rw [perform]
    exact setSyncPort_avoids (by decide)
  case strnsp =>
    rw [perform]
    exact .withTmp fun _ => avoids_setSpeed _ (by decide)
  case strplen =>
    rw [perform]
    exact setPayloadLength_avoids (by decide)
  case setplcpktsize =>
    rw [perform]
    exact setPlcPacketSize_avoids (by decide)
  case setppdly =>
    rw [perform]
    exact .withTmp fun _ => .bind (avoids_writeWide (by decide)) fun _ =>
      .bind (.readReg (by decide)) fun _ => .bind (.readReg (by decide))
      fun _ => .pure _
  case setpblim =>
    rw [perform]
    exact .withTmp fun _ => .bind (avoids_writeShown (by decide)) fun _ =>
      avoids_writeShown (by decide)
  case strblen =>
    rw [perform]
    exact .withTmp fun _ => .bind (.writeReg (by decide)) fun _ =>
      avoids_pulse (by decide)
  case tgsrcorr =>
    rw [perform]
    exact .device (.bind (avoids_modifyShown (by decide)) fun _ =>
      avoids_modifyShown (by decide))
  case getalle2a =>
    rw [perform]
    exact .bind (.device (avoids_getAllEth2audio (by decide))) fun _ =>
      .pure _
  case gettcvars =>
    rw [perform]
    exact .fetchWith (avoids_readTimeCodes (by decide))
  case getmac =>
    rw [perform]
    exact reportMac_avoids (by decide)
  case getdip | getlip | getgip | getmask =>
    rw [perform]
    exact reportAddress_avoids _ (by decide)
  case getport =>
    rw [perform]
    exact reportPort_avoids (by decide)
  case exit =>
    rw [perform]
    exact .bind (.change fun _ => rfl) fun _ =>
      .bind (setAllVolumes_avoids _) fun _ => .halt _
  case strteston | strtestm3 | strtestm4 | strtestm5 =>
    rw [perform]
    exact .device (avoids_modifyReg (by decide))
  case strtestoff | strpktcon | strpktcoff | strsndon | strsndoff | pseqoff
      | pseqon | sqwon | sqwoff | sqsdon | sqsdoff | setcoron | setcoroff =>
    rw [perform]
    exact .device (avoids_modifyShown (by decide))
  case areset | strselarm | strseleth =>
    rw [perform]
    exact .device (avoids_pulse (by decide))
  case preset | setsyncrst =>
    rw [perform]
    exact .device (avoids_pulseShown (by decide))
  case sethdrstrip | clearhdrstrip | strxtestm2 | strxtestm3 | strxtestm4
      | strxtestm5 | setsyncoff =>
    rw [perform]
    exact .device (avoids_writeShown (by decide))
  case strxteston | strxtestoff =>
    rw [perform]
    exact .device (avoids_writeShowing (by decide))
  case sethdrlen | strporder | setdlim | setprdly | setsqlkdly | setpoutdly
      | setcrwin =>
    rw [perform]
    exact .withTmp fun _ => avoids_writeShown (by decide)
  case setbslk | setbdlm =>
    rw [perform]
    exact .withTmp fun _ => .writeReg (by decide)
  case setsyncdly | setlooplimit =>
    rw [perform]
    exact .withTmp fun _ => avoids_writeShowing (by decide)
  case gete2astatus =>
    rw [perform]
    exact .device (.bind (.readReg (by decide)) fun _ => .pure _)
  case getpoutdly | getpouttime | getsynctime | getrxtc | getrxtceff
      | getrxtcocc | getpoutr | getpoutw | getfocc | getplen | getporder
      | getpdrop | getpreplaced | getsqgs | getsqrx | getsqtx | getsqov
      | getblen | getbrdly | getsqos | getsqis =>
    rw [perform]
    exact .fetchWith (.readReg (by decide))
  case nstats | pbtreset | setsqsdly | help | invalid =>
    rw [perform]
    exact .pure _

theorem scanArgument_avoids {dev : Device} (typed : Typed)
    (argument : Argument) : UiAvoids dev (scanArgument typed argument) := by
  cases argument with
  | nothing => exact .pure _
  | gain => exact .change fun _ => rfl
  | tmp => exact .change fun _ => rfl
  | destPort => exact .change fun _ => rfl
  | ip =>
      exact .bind (.observe _) fun _ => .ite (.change fun _ => rfl) (.halt _)

theorem execute_avoids {command : Command} (htiming : command.timing = false)
    (typed : Typed) :
    UiAvoids .packetTimeEnforcer (execute command typed) :=
  .bind (scanArgument_avoids typed _) fun _ => perform_avoids htiming

/-! ## Commands that need the device -/

section Patterns

variable {dev : Device} {offset shown low high : ℕ}

theorem uses_writeShown {data : Word} :
    Uses dev (writeShown dev offset data) :=
  .bind_left .writeReg fun _ => .bind (.readReg _ _) fun _ => .pure _

theorem uses_writeWide {data : LongWord} :
    Uses dev (writeWide dev low high data) :=
  .bind_right fun _ => .writeReg

theorem uses_writeWideShown {data : LongWord} :
    Uses dev (writeWideShown dev low high data) :=
  .bind_left uses_writeWide fun _ => .bind (.readReg _ _) fun _ =>
    .bind (.readReg _ _) fun _ => .pure _

theorem uses_writeReturned {data : Word} :
    Uses dev (writeReturned dev offset data) :=
  .bind_right fun _ => .readReg

theorem uses_readWide : Uses dev (readWide dev low high) :=
  .bind_left .readReg fun _ => .bind (.readReg _ _) fun _ => .pure _

theorem uses_readLowOfTwo : Uses dev (readLowOfTwo dev low high) :=
  .bind_left .readReg fun _ => .bind (.readReg _ _) fun _ => .pure _

end Patterns

theorem perform_uses {command : Command} (htiming : command.timing = true) :
    UiUses .packetTimeEnforcer (perform command) := by
  cases command
  case pbtrreset =>
    rw [perform]
    exact .device (.bind_right fun _ => .writeReg)
  case pbtoff | pbton | ptpidon | ptpidoff =>
    rw [perform]
    exact .device uses_writeShown
  case setptl1 | setptpidl | setptl2 =>
    rw [perform]
    exact .withTmp fun _ => uses_writeWide
  case setptdiffl =>
    rw [perform]
    exact .withTmp fun _ => uses_writeWideShown
  case getptl1 | getptpidl | getptl2 =>
    rw [perform]
    exact .fetchLong uses_readWide
  case getpkt2pktdly | getaccpktdly | getptdiffl | getptdiffv =>
    rw [perform]
    exact .fetchLong uses_readLowOfTwo
  case getptlock | getptaccum | getnetdly | getpktbuilddly | getptdiffs =>
    rw [perform]
    exact .fetchWith .readReg
  case getptstatus =>
    rw [perform]
    exact .fetchWith (.bind_right fun _ => .bind_right fun _ => .readReg)
  case setptlock | clrptlock | setptaccum | clrptaccum | ptdfon | ptdfoff =>
    rw [perform]
    exact .fetchWith uses_writeReturned
  case setnetdly | setpktdly =>
    rw [perform]
    exact .exchange fun _ => uses_writeReturned
  all_goals cases htiming

/-- A timing command reads `tmp` or nothing. -/
theorem timing_argument {command : Command} (htiming : command.timing = true) :
    command.argument = .nothing ∨ command.argument = .tmp := by
  cases command
  case setptl1 | setptpidl | setptl2 | setnetdly | setpktdly | setptdiffl =>
    exact .inr rfl
  all_goals first | exact .inl rfl | cases htiming

/-- So it always comes to its access. -/
theorem execute_uses {command : Command} (htiming : command.timing = true)
    (typed : Typed) : UiUses .packetTimeEnforcer (execute command typed) := by
  intro ui
  cases timing_argument htiming with
  | inl hargument =>
      rw [execute_nothing hargument]
      exact perform_uses htiming ui
  | inr hargument =>
      rw [execute_tmp hargument]
      exact perform_uses htiming _

/-! ## Runs after the initialisation -/

/-- All accesses of a process, those of its initialisation and those of the
commands it executes, go through mapped base pointers.  A command that stops the
process instead of returning does so before its first access. -/
def AccessesMapped (ready : UiState) (lines : List Line) : Prop :=
  Mapped ready.board ∧
    ∀ before line, before ++ [line] <+: lines → ∀ state returned,
      runLines before ready = .ok state →
      execute line.command line.typed (clearLog state) = .ok ((), returned) →
        Mapped returned.board

section Runs

variable {env : Environment} {args : Arguments} {board : MixerBoard}
variable {tmp : LongWord} {ready : UiState} {value : Word}

theorem mem_initOrder {dev : Device} (hdev : dev ≠ .packetTimeEnforcer) :
    dev ∈ initOrder := by
  cases dev <;> first | decide | exact absurd rfl hdev

/-- After a successful mapping stage every device but one is mapped, and the
missing one has not been accessed. -/
theorem uiInit_trace (hnull : ∀ dev, board.base dev = .null)
    (hmapped : ∀ dev ∈ initOrder, mapDevice env dev = .mapped)
    (hinit : uiInit env args (clearLog (start board tmp)) = .ok (value, ready)) :
    ready.board.trace .packetTimeEnforcer =
      (fun dev => if dev = .packetTimeEnforcer then .null else .mapped, []) := by
  have hopened : ∀ dev ∈ initOrder, mapDevice env dev ≠ .null := by
    intro dev hdev
    rw [hmapped dev hdev]
    exact Base.noConfusion
  have havoids : UiAvoids .packetTimeEnforcer (configure env args) :=
    configure_avoids env args (by decide) (by decide) (by decide) (by decide)
      (by decide)
  rw [uiInit_opened hopened] at hinit
  have hkept := havoids _ _ _ hinit
  refine hkept.trans (Prod.ext (funext fun dev => ?_) rfl)
  by_cases hdev : dev = .packetTimeEnforcer
  · subst hdev
    simp only [Board.trace, afterMapping, opened_eq_self hopened]
    exact hnull _
  · have hmem := mem_initOrder hdev
    simp only [Board.trace, afterMapping, opened_eq_self hopened, hmem, hdev,
      if_true, if_false, hmapped dev hmem]

/-- No base pointer moves after the initialisation. -/
theorem returned_base {before : List Line} {line : Line}
    {state returned : UiState} (hrun : runLines before ready = .ok state)
    (hexecute : execute line.command line.typed (clearLog state) =
      .ok ((), returned)) : returned.board.base = ready.board.base := by
  have hstate := runLines_base hrun
  have hlast := (execute_within _ _).base_eq hexecute
  exact hlast.trans hstate

section Initialised

variable {before : List Line} {line : Line} {state returned : UiState}
variable (hnull : ∀ dev, board.base dev = .null)
variable (hmapped : ∀ dev ∈ initOrder, mapDevice env dev = .mapped)
variable (hinit : uiInit env args (clearLog (start board tmp)) = .ok (0, ready))

include hnull hmapped hinit

theorem ready_base {current : MixerBoard}
    (hsame : current.base = ready.board.base) :
    current.base .packetTimeEnforcer = .null ∧
      ∀ dev, dev ≠ .packetTimeEnforcer → current.base dev = .mapped := by
  have hbase : ready.board.base = fun dev =>
      if dev = .packetTimeEnforcer then .null else .mapped :=
    congrArg Prod.fst (uiInit_trace hnull hmapped hinit)
  rw [hsame, hbase]
  exact ⟨if_pos rfl, fun dev hdev => if_neg hdev⟩

/-- A timing command goes through the missing base. -/
theorem timing_unmapped (line : Line)
    (hrun : runLines before ready = .ok state)
    (htiming : line.command.timing = true) :
    ∃ returned, execute line.command line.typed (clearLog state) =
        .ok ((), returned) ∧ ¬Mapped returned.board := by
  obtain ⟨_, returned, hexecute, access, hmem, hdev⟩ :=
    execute_uses htiming line.typed (clearLog state)
  refine ⟨returned, hexecute, fun hall => ?_⟩
  have haccess := hall access hmem
  rw [hdev, (ready_base hnull hmapped hinit (returned_base hrun hexecute)).1]
    at haccess
  cases haccess

/-- All other commands go through mapped bases. -/
theorem untimed_mapped (hrun : runLines before ready = .ok state)
    (hexecute : execute line.command line.typed (clearLog state) =
      .ok ((), returned))
    (htiming : line.command.timing = false) : Mapped returned.board := by
  have hkept := execute_avoids htiming line.typed _ _ _ hexecute
  have hquiet : (returned.board.trace .packetTimeEnforcer).2 = [] :=
    congrArg Prod.snd hkept
  exact mapped_of_trace hquiet
    (ready_base hnull hmapped hinit (returned_base hrun hexecute)).2

/-- The accesses of a whole process go through mapped bases exactly if it never
executes a command that works on the packet time enforcer. -/
theorem accessesMapped_iff (lines : List Line) :
    AccessesMapped ready lines ↔
      ∀ before line, before ++ [line] <+: lines →
        (∃ state, runLines before ready = .ok state) →
          line.command.timing = false := by
  constructor
  · rintro ⟨-, hcommands⟩ before line hprefix ⟨state, hrun⟩
    by_contra htiming
    rw [Bool.not_eq_false] at htiming
    obtain ⟨returned, hexecute, hunmapped⟩ :=
      timing_unmapped hnull hmapped hinit line hrun htiming
    exact hunmapped (hcommands before line hprefix state returned hrun hexecute)
  · intro htiming
    have hlog := congrArg Prod.snd (uiInit_trace hnull hmapped hinit)
    refine ⟨mapped_of_trace hlog (ready_base hnull hmapped hinit rfl).2, ?_⟩
    intro before line hprefix state returned hrun hexecute
    exact untimed_mapped hnull hmapped hinit hrun hexecute
      (htiming before line hprefix ⟨state, hrun⟩)

end Initialised

end Runs

/-! ## A process on which it succeeds -/

theorem uiInit_answeringSystem :
    ∃ ready, uiInit answeringSystem sampleArguments
      (clearLog (start unmappedBoard 0)) = .ok (0, ready) := by
  apply exists_of_returned
  decide +kernel

theorem answeringSystem_maps (dev : Device) :
    mapDevice answeringSystem dev = .mapped := rfl

theorem accessesMapped_areset :
    ∃ ready, uiInit answeringSystem sampleArguments
        (clearLog (start unmappedBoard 0)) = .ok (0, ready) ∧
      AccessesMapped ready [⟨.areset, ⟨none, none⟩⟩] := by
  obtain ⟨ready, hinit⟩ := uiInit_answeringSystem
  have hiff := accessesMapped_iff (fun _ => rfl)
    (fun dev _ => answeringSystem_maps dev) hinit [⟨.areset, ⟨none, none⟩⟩]
  refine ⟨ready, hinit, hiff.mpr fun before line hprefix _ => ?_⟩
  have hmem : line ∈ [(⟨.areset, ⟨none, none⟩⟩ : Line)] :=
    hprefix.subset (List.mem_append_right _ (List.mem_singleton_self line))
  rw [List.mem_singleton.mp hmem]
  rfl

/-- The command `pbton` after an initialisation that mapped all its devices
writes through `NULL`. -/
theorem pbton_unmapped :
    ∃ ready, uiInit answeringSystem sampleArguments
        (clearLog (start unmappedBoard 0)) = .ok (0, ready) ∧
      (∀ dev ∈ initOrder, mapDevice answeringSystem dev = .mapped) ∧
      ¬AccessesMapped ready [⟨.pbton, ⟨none, none⟩⟩] := by
  obtain ⟨ready, hinit⟩ := uiInit_answeringSystem
  refine ⟨ready, hinit, fun dev _ => answeringSystem_maps dev, ?_⟩
  rintro ⟨-, hcommands⟩
  obtain ⟨returned, hexecute, hunmapped⟩ := timing_unmapped (fun _ => rfl)
    (fun dev _ => answeringSystem_maps dev) hinit ⟨.pbton, ⟨none, none⟩⟩
    (run_nil.mpr rfl) rfl
  exact hunmapped (hcommands [] _ (List.prefix_refl _) ready returned
    (run_nil.mpr rfl) hexecute)

end Songpark.UiControl
