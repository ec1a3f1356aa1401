import Songpark.Ui.Execute

/-!
# What a command can change

For every command the registers it may write; all others keep their value.
-/

namespace Songpark.UiControl

open Songpark.RegisterFile Songpark.RegIo Songpark.Scan Songpark.StateProgram
open Songpark.Address Songpark.EthParam Songpark.MixerControl
open Songpark.StreamControl

/-- Registers of one device. -/
def regs (dev : Device) (offsets : List ℕ) : List Register :=
  offsets.map fun offset => ⟨dev, offset⟩

def oledRegs : List Register :=
  regs .zedboardOled (64 :: Display.displayOffsets)

/-- The registers a command may write. -/
def footprint : Command → List Register
  | .lfhe | .lfhd => regs .filterControl0 [68]
  | .lfbe | .lfbd => regs .filterControl0 [72]
  | .lfle | .lfld => regs .filterControl0 [76]
  | .nfhe | .nfhd => regs .filterControl1 [68]
  | .nfbe | .nfbd => regs .filterControl1 [72]
  | .nfle | .nfld => regs .filterControl1 [76]
  | .areset | .strteston | .strtestm3 | .strtestm4 | .strtestm5 | .strtestoff
  | .strpktcon | .strpktcoff | .strsndon | .strsndoff => regs .audioToEth [0]
  | .strtestm1 | .strtestm2 => regs .audioToEth [0] ++ oledRegs
  | .dreset =>
      regs .fullUdpStackIp [60] ++ regs .timeSync [0] ++ regs .ethToAudio [0]
  | .preset | .pseqoff | .pseqon | .sqwon | .sqwoff | .sqsdon | .sqsdoff =>
      regs .ethPacketSequencer [4]
  | .pbtrreset => regs .packetTimeEnforcer [4]
  | .pbtoff | .pbton => regs .packetTimeEnforcer [8]
  | .creset | .strrxon | .strrxstop | .strnsp => regs .fullUdpStackIp [60]
  | .freset | .rxrsync =>
      regs .fullUdpStackIp [60] ++ regs .ethPacketSequencer [4] ++
        regs .audioToEth [0] ++ regs .ethToAudio [0]
  | .sethdrstrip | .clearhdrstrip | .setbslk => regs .ethToAudio [40]
  | .strxteston | .strxtestoff => regs .ethToAudio [28]
  | .strxtestm1 => regs .ethToAudio [32] ++ oledRegs
  | .strxtestm2 | .strxtestm3 | .strxtestm4 | .strxtestm5 =>
      regs .ethToAudio [32]
  | .sethdrlen | .setdlim => regs .ethToAudio [36]
  | .setsyncen => regs .timeSync [0] ++ regs .fullUdpStackIp [60]
  | .setsyncoff | .setsyncrst => regs .timeSync [0]
  | .setsyncdly => regs .timeSync [20]
  | .setsyncon =>
      regs .fullUdpStackIp [0] ++ regs .timeSync [0] ++ regs .audioToEth [24]
  | .tgsync => regs .audioToEth [24] ++ regs .fullUdpStackIp [0]
  | .strselarm | .strseleth | .tgsrcorr | .setcoron | .setcoroff =>
      regs .ethToAudio [0]
  | .strstart => regs .fullUdpStackIp [60] ++ regs .audioToEth [0]
  | .strstop => regs .fullUdpStackIp [0, 60] ++ regs .audioToEth [24]
  | .strmac => regs .fullUdpStackIp [0, 4]
  | .strsip => regs .fullUdpStackIp (paramRegs .syncIp)
  | .strdip => regs .fullUdpStackIp (paramRegs .destIp)
  | .strlip => regs .fullUdpStackIp (paramRegs .localIp)
  | .strgip => regs .fullUdpStackIp (paramRegs .gtwayIp)
  | .strmask => regs .fullUdpStackIp (paramRegs .maskIp)
  | .strport => regs .fullUdpStackIp (paramRegs .destPort) ++ oledRegs
  | .strsport => regs .fullUdpStackIp (paramRegs .syncPort)
  | .strplen => regs .audioToEth [12]
  | .strporder => regs .ethPacketSequencer [0]
  | .setppdly => regs .ethPacketSequencer [8, 12]
  | .setplcpktsize => regs .ethPacketSequencer [28]
  | .setpblim => regs .ethPacketSequencer [24] ++ regs .ethToAudio [24]
  | .setbdlm | .setpoutdly => regs .ethToAudio [44]
  | .setprdly => regs .ethPacketSequencer [32]
  | .setsqlkdly => regs .ethPacketSequencer [40]
  | .plcoff | .plcon => regs .ethToAudio [0] ++ oledRegs
  | .strblen => regs .ethToAudio [20, 0]
  | .setlooplimit => regs .ethToAudio [116]
  | .setcrwin => regs .ethToAudio [92]
  | .setptl1 => regs .packetTimeEnforcer [12, 16]
  | .setptpidl => regs .packetTimeEnforcer [84, 88]
  | .setptl2 => regs .packetTimeEnforcer [20, 24]
  | .ptpidon | .ptpidoff => regs .packetTimeEnforcer [92]
  | .setptlock | .clrptlock => regs .packetTimeEnforcer [32]
  | .setptaccum | .clrptaccum => regs .packetTimeEnforcer [36]
  | .setnetdly => regs .packetTimeEnforcer [40]
  | .setpktdly => regs .packetTimeEnforcer [44]
  | .ptdfon | .ptdfoff => regs .packetTimeEnforcer [80]
  | .setptdiffl => regs .packetTimeEnforcer [64, 68]
  | _ => []

/-- The registers a command may write, as a set. -/
def touched (command : Command) : Set Register :=
  {cell | cell ∈ footprint command}

instance (command : Command) : DecidablePred (· ∈ touched command) := fun cell =>
  inferInstanceAs (Decidable (cell ∈ footprint command))

/-! ## Bodies shared by several commands -/

section Bodies

variable {reach : Set Register}

theorem within_pulseTransmit
    (hctrl : (⟨.fullUdpStackIp, 60⟩ : Register) ∈ reach) :
    Within reach pulseTransmit := by
  have hwrite : ∀ data,
      Within reach (writeEthParam .fullUdpStackIp .ethControl data) :=
    fun data => within_writeEthParam (by simpa [paramRegs] using hctrl)
  exact .bind (within_readEthParam _) fun _ => .bind (hwrite _) fun _ =>
    hwrite _

theorem within_resetReceive
    (hctrl : (⟨.fullUdpStackIp, 60⟩ : Register) ∈ reach)
    (hseq : (⟨.ethPacketSequencer, 4⟩ : Register) ∈ reach)
    (hadc : (⟨.audioToEth, 0⟩ : Register) ∈ reach)
    (hdac : (⟨.ethToAudio, 0⟩ : Register) ∈ reach) :
    Within reach resetReceive :=
  .bind (within_pulseTransmit hctrl) fun _ =>
    .bind (within_pulseShown hseq) fun _ => .bind (within_pulse hadc) fun _ =>
    within_pulse hdac

theorem within_resetDac
    (hctrl : (⟨.fullUdpStackIp, 60⟩ : Register) ∈ reach)
    (hsync : (⟨.timeSync, 0⟩ : Register) ∈ reach)
    (hdac : (⟨.ethToAudio, 0⟩ : Register) ∈ reach) :
    Within reach resetDac :=
  .bind (within_modifyControl hctrl) fun _ =>
    .bind (within_writeShown hsync) fun _ =>
    .bind (within_pulseShown hsync) fun _ =>
    .bind (within_writeShown hsync) fun _ =>
    .bind (within_modifyControl hctrl) fun _ => within_pulse hdac

theorem within_startTransmit
    (hctrl : (⟨.fullUdpStackIp, 60⟩ : Register) ∈ reach)
    (hadc : (⟨.audioToEth, 0⟩ : Register) ∈ reach) :
    Within reach startTransmit :=
  .bind (within_modifyControl hctrl) fun _ =>
    .bind (within_readEthParam _) fun _ => within_pulse hadc

theorem within_stopTransmit
    (hctrl : (⟨.fullUdpStackIp, 60⟩ : Register) ∈ reach)
    (hmac : (⟨.fullUdpStackIp, 0⟩ : Register) ∈ reach)
    (hsync : (⟨.audioToEth, 24⟩ : Register) ∈ reach) :
    Within reach stopTransmit :=
  .bind (within_readEthParam _) fun _ =>
    .bind (within_setSyncOff hsync hmac) fun _ =>
    .bind (within_writeEthParam (by simpa [paramRegs] using hctrl)) fun _ =>
    .bind (within_readEthParam _) fun _ => .pure _

theorem within_setSpeed (hctrl : (⟨.fullUdpStackIp, 60⟩ : Register) ∈ reach)
    (tmp : LongWord) : Within reach (setSpeed tmp) := by
  have hwrite : ∀ data,
      Within reach (writeEthParam .fullUdpStackIp .ethControl data) :=
    fun data => within_writeEthParam (by simpa [paramRegs] using hctrl)
  exact .bind (within_readEthParam _) fun _ =>
    .ite (hwrite _) (.ite (hwrite _) (.ite (hwrite _) (.pure _)))

theorem within_readTimeCodes : Within reach readTimeCodes :=
  .bind (.readReg _ _) fun _ => .bind (.readReg _ _) fun _ =>
    .bind (.readReg _ _) fun _ => .bind (.readReg _ _) fun _ =>
    .bind (.readReg _ _) fun _ => .bind (.readReg _ _) fun _ =>
    .bind (.readReg _ _) fun _ => .readReg _ _

theorem within_readEnforcerStatus : Within reach readEnforcerStatus :=
  .bind (.readReg _ _) fun _ => .bind (.readReg _ _) fun _ => .readReg _ _

theorem setAllVolumes_within (gain : Word) :
    UiWithin reach (setAllVolumes gain) :=
  .bind (.observe _) fun _ => .bind (.setVolume _ _ _) fun _ =>
    .bind (.setVolume _ _ _) fun _ => .bind (.setVolume _ _ _) fun _ =>
    .setVolume _ _ _

theorem setChannel_within (volumeBase : Device) (channel : ChannelId)
    (store : Word → UiParameters → UiParameters) (index : Fin 29) :
    UiWithin reach (setChannel volumeBase channel store index) :=
  .bind (.observe _) fun _ => .bind (.observe _) fun _ =>
    .bind (.setVolume _ _ _) fun _ => .bind (.change fun _ => rfl) fun _ =>
    .storeSetting _ _

/-- Switching a filter writes the register of its single flag. -/
theorem setFilter_within {filterBase : Device} {type : Word} {enable : Byte}
    {store : Byte → UiParameters → UiParameters} {index : Fin 29}
    (hprogram : Within reach
      (setFilterType filterBase type (enable.setWidth 32))) :
    UiWithin reach (setFilter filterBase type enable store index) :=
  .bind (.device hprogram) fun _ => .bind (.change fun _ => rfl) fun _ =>
    .storeSetting _ _

theorem writeAddress_within {param : EthParamId}
    (hmem : ∀ offset ∈ paramRegs param,
      (⟨.fullUdpStackIp, offset⟩ : Register) ∈ reach) :
    UiWithin reach (writeAddress param) := by
  refine .bind (.observe _) fun ip => ?_
  cases extractIpAddress ip with
  | some octets => exact .device (within_writeEthParam hmem)
  | none => exact .halt _

theorem writeMac_within
    (hfirst : (⟨.fullUdpStackIp, 0⟩ : Register) ∈ reach)
    (hsecond : (⟨.fullUdpStackIp, 4⟩ : Register) ∈ reach) :
    UiWithin reach writeMac := by
  refine .bind (.observe _) fun ip => ?_
  cases extractMacAddress ip with
  | some mac => exact .device (within_writeEthMac hfirst hsecond)
  | none => exact .halt _

theorem reportAddress_within (param : EthParamId) :
    UiWithin reach (reportAddress param) :=
  .bind (.fetchWith (within_readEthParam _)) fun _ => .bind (.observe _) fun _ =>
    .bind (.change fun _ => rfl) fun _ => .print _

theorem reportPort_within : UiWithin reach reportPort :=
  .bind (.device (within_readEthParam _)) fun _ =>
    .bind (.change fun _ => rfl) fun _ => .print _

theorem reportMac_within : UiWithin reach reportMac :=
  .bind (.device within_readEthMac) fun _ => .bind (.print _) fun _ =>
    .change fun _ => rfl

theorem warnLength_within (tmp header : LongWord) :
    UiWithin reach (warnLength tmp header) :=
  .ite (.print _) (.pure _)

theorem setPayloadLength_within
    (hmem : (⟨.audioToEth, 12⟩ : Register) ∈ reach) :
    UiWithin reach setPayloadLength :=
  .bind (.observe _) fun _ => .bind (.change fun _ => rfl) fun _ =>
    .bind (.change fun _ => rfl) fun _ =>
    .bind (warnLength_within _ _) fun _ => .device (.writeReg hmem)

theorem setPlcPacketSize_within
    (hmem : (⟨.ethPacketSequencer, 28⟩ : Register) ∈ reach) :
    UiWithin reach setPlcPacketSize :=
  .bind (.observe _) fun _ => .bind (warnLength_within _ _) fun _ =>
    .device (within_writeLowShown hmem)

theorem setDestPort_within
    (hport : ∀ offset ∈ paramRegs .destPort,
      (⟨.fullUdpStackIp, offset⟩ : Register) ∈ reach)
    (holed : Display.displayRegs .zedboardOled ⊆ reach) :
    UiWithin reach setDestPort :=
  .bind (.observe _) fun _ =>
    .bind (.device (within_writeEthParam hport)) fun _ =>
    .bind (.clearDisplay holed) fun _ =>
    .bind (.showMessage holed _ _) fun _ => .showMessage holed _ _

theorem setSyncPort_within
    (hport : ∀ offset ∈ paramRegs .syncPort,
      (⟨.fullUdpStackIp, offset⟩ : Register) ∈ reach) :
    UiWithin reach setSyncPort :=
  .bind (.observe _) fun _ => .device (within_writeEthParam hport)

theorem shutdown_within : UiWithin reach shutdown :=
  .bind (.change fun _ => rfl) fun _ =>
    .bind (setAllVolumes_within _) fun _ => .halt _

/-- A driver call followed by a fresh message on the display. -/
theorem deviceMessage_within {program : DeviceM Unit} {message : Text}
    {page : ℕ} (hprogram : Within reach program)
    (holed : Display.displayRegs .zedboardOled ⊆ reach) :
    UiWithin reach (do
      device program
      clearDisplay
      showMessage message page) :=
  .bind (.device hprogram) fun _ => .bind (.clearDisplay holed) fun _ =>
    .showMessage holed _ _

end Bodies

theorem displayRegs_subset {command : Command}
    (hmem : ∀ cell ∈ oledRegs, cell ∈ footprint command) :
    Display.displayRegs .zedboardOled ⊆ touched command := by
  rintro ⟨dev, offset⟩ ⟨rfl, hoffset⟩
  exact hmem _ (List.mem_map_of_mem hoffset)

/-! ## All commands -/

/-- No command writes outside its footprint. -/
theorem perform_within (command : Command) :
    UiWithin (touched command) (perform command) := by
  cases command
  case vgg =>
    rw [perform]
    exact .bind (.observe _) fun _ => .bind (.change fun _ => rfl) fun _ =>
      .bind (.change fun _ => rfl) fun _ => setAllVolumes_within _
  case vll | vlr | vnl | vnr =>
    rw [perform]
    exact setChannel_within _ _ _ _
  case lfhe | lfhd | nfhe | nfhd | lfbe | lfbd | nfbe | nfbd | lfle | lfld
      | nfle | nfld =>
    rw [perform]
    refine setFilter_within (within_setFilterType ?_ ?_ ?_) <;> decide
  case astatus | dstatus =>
    rw [perform]
    exact .bind (.device (within_readFifoStatus _)) fun _ => .pure _
  case dreset =>
    rw [perform]
    exact .device (within_resetDac (by decide) (by decide) (by decide))
  case pbtrreset =>
    rw [perform]
    exact .device (.bind (.writeReg (by decide)) fun _ =>
      .writeReg (by decide))
  case creset =>
    rw [perform]
    exact .device (within_pulseTransmit (by decide))
  case freset | rxrsync =>
    rw [perform]
    exact .device (within_resetReceive (by decide) (by decide) (by decide)
      (by decide))
  case strtestm1 | strtestm2 =>
    rw [perform]
    exact deviceMessage_within (within_modifyReg (by decide))
      (displayRegs_subset (by decide))
  case strxtestm1 =>
    rw [perform]
    exact deviceMessage_within (within_writeShown (by decide))
      (displayRegs_subset (by decide))
  case plcon =>
    rw [perform]
    exact deviceMessage_within (within_modifyShown (by decide))
      (displayRegs_subset (by decide))
  case plcoff =>
    rw [perform]
    exact .bind (.device (within_modifyShown (by decide))) fun _ =>
      .clearDisplay (displayRegs_subset (by decide))
  case setsyncen =>
    rw [perform]
    exact .device (.bind (within_writeShown (by decide)) fun _ =>
      within_modifyControl (by decide))
  case setsyncon =>
    rw [perform]
    exact .device (.bind (within_initiateSync (by decide) (by decide))
      fun _ => within_writeShown (by decide))
  case tgsync =>
    rw [perform]
    exact .device (.bind (within_setSyncOff (by decide) (by decide))
      fun _ => within_writeShown (by decide))
  case strstart =>
    rw [perform]
    exact .device (within_startTransmit (by decide) (by decide))
  case strstop =>
    rw [perform]
    exact .device (within_stopTransmit (by decide) (by decide) (by decide))
  case strrxon | strrxstop =>
    rw [perform]
    exact .device (within_modifyControl (by decide))
  case strmac =>
    rw [perform]
    exact writeMac_within (by decide) (by decide)
  case strsip | strdip | strlip | strgip | strmask =>
    rw [perform]
    exact writeAddress_within (by decide)
  case strport =>
    rw [perform]
    exact setDestPort_within (by decide) (displayRegs_subset (by decide))
  case strsport =>
    rw [perform]
    exact setSyncPort_within (by decide)
  case strnsp =>
    rw [perform]
    exact .withTmp fun _ => within_setSpeed (by decide) _
  case strplen =>
    rw [perform]
    exact setPayloadLength_within (by decide)
  case setplcpktsize =>
    rw [perform]
    exact setPlcPacketSize_within (by decide)
  case setppdly =>
    rw [perform]
    exact .withTmp fun _ => within_writeWideShown (by decide) (by decide)
  case setpblim =>
    rw [perform]
    exact .withTmp fun _ => .bind (within_writeLowShown (by decide)) fun _ =>
      within_writeLowShown (by decide)
  case strblen =>
    rw [perform]
    exact .withTmp fun _ => .bind (.writeReg (by decide)) fun _ =>
      within_pulse (by decide)
  case tgsrcorr =>
    rw [perform]
    exact .device (.bind (within_modifyShown (by decide)) fun _ =>
      within_modifyShown (by decide))
  case getalle2a =>
    rw [perform]
    exact .bind (.device within_getAllEth2audio) fun _ => .pure _
  case gettcvars =>
    rw [perform]
    exact .fetchWith within_readTimeCodes
  case getptstatus =>
    rw [perform]
    exact .fetchWith within_readEnforcerStatus
  case getmac =>
    rw [perform]
    exact reportMac_within
  case getdip | getlip | getgip | getmask =>
    rw [perform]
    exact reportAddress_within _
  case getport =>
    rw [perform]
    exact reportPort_within
  case setptl1 | setptpidl | setptl2 =>
    rw [perform]
    exact .withTmp fun _ => within_writeWide (by decide) (by decide)
  case setptdiffl =>
    rw [perform]
    exact .withTmp fun _ => within_writeWideShown (by decide) (by decide)
  case setnetdly | setpktdly =>
    rw [perform]
    exact .exchange fun _ => within_writeReturned (by decide)
  case exit =>
    rw [perform]
    exact shutdown_within
  case strteston | strtestm3 | strtestm4 | strtestm5 =>
    rw [perform]
    exact .device (within_modifyReg (by decide))
  case strtestoff | strpktcon | strpktcoff | strsndon | strsndoff | pseqoff
      | pseqon | sqwon | sqwoff | sqsdon | sqsdoff | setcoron | setcoroff =>
    rw [perform]
    exact .device (within_modifyShown (by decide))
  case areset | strselarm | strseleth =>
    rw [perform]
    exact .device (within_pulse (by decide))
  case preset | setsyncrst =>
    rw [perform]
    exact .device (within_pulseShown (by decide))
  case sethdrstrip | clearhdrstrip | strxtestm2 | strxtestm3 | strxtestm4
      | strxtestm5 | setsyncoff | pbtoff | pbton | ptpidon | ptpidoff =>
    rw [perform]
    exact .device (within_writeShown (by decide))
  case strxteston | strxtestoff =>
    rw [perform]
    exact .device (within_writeShowing (by decide))
  case sethdrlen | strporder | setdlim | setprdly | setsqlkdly | setpoutdly
      | setcrwin =>
    rw [perform]
    exact .withTmp fun _ => within_writeShown (by decide)
  case setbslk | setbdlm =>
    rw [perform]
    exact .withTmp fun _ => .writeReg (by decide)
  case setsyncdly | setlooplimit =>
    rw [perform]
    exact .withTmp fun _ => within_writeShowing (by decide)
  case setptlock | clrptlock | setptaccum | clrptaccum | ptdfon | ptdfoff =>
    rw [perform]
    exact .fetchWith (within_writeReturned (by decide))
  case gete2astatus =>
    rw [perform]
    exact .device within_getE2aStatus
  case getpoutdly | getpouttime | getsynctime | getrxtc | getrxtceff
      | getrxtcocc | getpoutr | getpoutw | getfocc | getplen | getporder
      | getpdrop | getpreplaced | getsqgs | getsqrx | getsqtx | getsqov
      | getptlock | getptaccum | getblen | getbrdly | getnetdly
      | getpktbuilddly | getptdiffs | getsqos | getsqis =>
    rw [perform]
    exact .fetchWith (.readReg _ _)
  case getptl1 | getptpidl | getptl2 =>
    rw [perform]
    exact .fetchLong within_readWide
  case getpkt2pktdly | getaccpktdly | getptdiffl | getptdiffv =>
    rw [perform]
    exact .fetchLong within_readLowOfTwo
  case nstats | pbtreset | setsqsdly | help | invalid =>
    rw [perform]
    exact .pure _

theorem scanArgument_within {reach : Set Register} (typed : Typed)
    (argument : Argument) : UiWithin reach (scanArgument typed argument) := by
  cases argument with
  | nothing => exact .pure _
  | gain => exact .change fun _ => rfl
  | tmp => exact .change fun _ => rfl
  | destPort => exact .change fun _ => rfl
  | ip =>
      exact .bind (.observe _) fun _ => .ite (.change fun _ => rfl) (.halt _)

theorem execute_within (command : Command) (typed : Typed) :
    UiWithin (touched command) (execute command typed) :=
  .bind (scanArgument_within typed _) fun _ => perform_within command

/-- Showing a port does not reach the stack. -/
theorem showPort_stack (port : Word) (board : MixerBoard) {cell : Register}
    (hcell : cell.dev = .fullUdpStackIp) :
    (showPort port board).2.content cell =
      (writeEthParam .fullUdpStackIp .destPort port board).2.content cell := by
  have hregs : Display.displayRegs .zedboardOled ⊆
      {cell : Register | cell.dev ≠ .fullUdpStackIp} := by
    rintro cell ⟨hdev, _⟩ hstack
    rw [hdev] at hstack
    cases hstack
  rw [showPort, RegisterFile.bind_apply]
  refine Within.content_eq (.bind (Display.within_oledClear hregs) fun _ =>
    .bind (Display.within_oledPrintMessage hregs _ _ _) fun _ =>
    Display.within_oledPrintMessage hregs _ _ _) _ cell ?_
  exact fun hother => hother hcell

/-! ## Steps and runs -/

section Steps

variable {line : Line} {lines : List Line} {ui reached : UiState}
variable {cell : Register}

theorem step_base (hstep : step line ui = .ok reached) :
    reached.board.base = ui.board.base := by
  obtain ⟨hrun, _⟩ := step_eq_ok.mp hstep
  have hbase := (execute_within _ _).base_eq hrun
  exact hbase

theorem step_cell (hstep : step line ui = .ok reached)
    (hcell : cell ∉ touched line.command) :
    reached.board.content cell = ui.board.content cell := by
  obtain ⟨hrun, _⟩ := step_eq_ok.mp hstep
  have hcontent := (execute_within _ _).content_eq hrun hcell
  exact hcontent

/-- The same for a command whose footprint is to be evaluated. -/
theorem command_cell {command : Command} {typed : Typed}
    (hcell : cell ∉ touched command)
    (hstep : step ⟨command, typed⟩ ui = .ok reached) :
    reached.board.content cell = ui.board.content cell :=
  step_cell hstep hcell

theorem runLines_base (hrun : runLines lines ui = .ok reached) :
    reached.board.base = ui.board.base :=
  run_keeps (fun ui => ui.board.base)
    (fun _ _ _ _ hstep => step_base hstep) hrun

/-- A register that no command of the run may write keeps its value. -/
theorem runLines_cell (hrun : runLines lines ui = .ok reached)
    (hcell : ∀ line ∈ lines, cell ∉ touched line.command) :
    reached.board.content cell = ui.board.content cell :=
  run_keeps (fun ui => ui.board.content cell)
    (fun line hline _ _ hstep => step_cell hstep (hcell line hline)) hrun

/-- What a command accessed was mapped, and stays so. -/
theorem step_mapped (hstep : step line ui = .ok reached)
    {access : Access Device Word} (hmem : access ∈ reached.board.accesses) :
    reached.board.base access.dev = .mapped :=
  (step_eq_ok.mp hstep).2 access hmem

/-- A command that returned had every device its driver code uses. -/
theorem mapped_of_uses {dev : Device} {program : DeviceM Unit}
    (huses : Uses dev program) (hstep : step line ui = .ok reached)
    (hboard : reached.board = (program (clearLog ui).board).2) :
    ui.board.base dev = .mapped := by
  obtain ⟨access, hmem, hdev⟩ := huses (clearLog ui).board
  rw [← hboard] at hmem
  rw [← step_base hstep, ← hdev]
  exact step_mapped hstep hmem

end Steps

end Songpark.UiControl
