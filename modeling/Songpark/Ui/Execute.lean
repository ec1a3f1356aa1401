import Songpark.Device.StreamControl
import Songpark.Ui.Command
import Songpark.Ui.State

/-!
# Execution of commands

One round of the command loop: a command reads its argument, if it has one, and
then acts.  The argument is what `scanf` finds in the input; a failed conversion
is not noticed, the branch goes on with what the variable held before.

Lines printed for information, the status text, the menu buffer and the delays
are left out.  The lines that report an address, the port or the MAC address,
and the two warnings about a packet length, are kept.
-/

namespace Songpark.UiControl

open Songpark.RegisterFile Songpark.RegIo Songpark.Scan Songpark.StateProgram
open Songpark.Address Songpark.EthParam Songpark.MixerControl
open Songpark.StreamControl

/-- What the input holds for the conversion of a command: the integer that `%d`
finds and the word that `%s` finds, if any. -/
structure Typed where
  number : Option Word
  text : Option Text

/-- A conversion into the 64-bit `tmp` through an `int` pointer: the upper half
stays. -/
def replaceLow (tmp : LongWord) (number : Word) : LongWord :=
  (tmp &&& 0xFFFFFFFF00000000) ||| number.setWidth 64

/-- `tmp` after the conversion, which may have failed. -/
def Typed.intoTmp (typed : Typed) (tmp : LongWord) : LongWord :=
  match typed.number with
  | some number => replaceLow tmp number
  | none => tmp

/-- The `scanf` at the start of a branch. -/
def scanArgument (typed : Typed) : Argument → UiM Unit
  | .nothing => pure ()
  | .gain => change fun ui => { ui with gain := typed.number.getD ui.gain }
  | .tmp => change fun ui => { ui with tmp := typed.intoTmp ui.tmp }
  | .destPort => change fun ui =>
      { ui with destPort := typed.number.getD ui.destPort }
  | .ip => do
      let ip ← observe fun ui => typed.text.getD ui.ip
      -- A longer word does not fit into `ip[128]`.
      if ip.length < 128 then change fun ui => { ui with ip := ip }
      else halt .undefined

/-! ## Bodies shared by several branches -/

/-- Raise the transmit bit and clear it, as a reset of the UDP core. -/
def pulseTransmit : DeviceM Unit := do
  let buf ← readEthParam .fullUdpStackIp EthRegId.ethControl.code
  writeEthParam .fullUdpStackIp .ethControl (buf ||| 0x02)
  writeEthParam .fullUdpStackIp .ethControl (buf &&& 0xFFFFFFFD)

/-- The body of `freset` and of `rxrsync`. -/
def resetReceive : DeviceM Unit := do
  pulseTransmit
  resetPktSeq .ethPacketSequencer
  resetAdcFifos .audioToEth
  resetDacFifos .ethToAudio

def resetDac : DeviceM Unit := do
  timeSyncTxOff .fullUdpStackIp
  timeSyncOff .timeSync
  setSyncRst .timeSync
  timeSyncEn .timeSync
  timeSyncTxEn
  resetDacFifos .ethToAudio

def startTransmit : DeviceM Unit := do
  modifyControl .fullUdpStackIp (· ||| 0x02)
  let _ ← readEthParam .fullUdpStackIp EthRegId.ethControl.code
  resetAdcFifos .audioToEth

/-- The control word is read before the synchronisation is switched off. -/
def stopTransmit : DeviceM Unit := do
  let buf ← readEthParam .fullUdpStackIp EthRegId.ethControl.code
  setSyncOff .audioToEth
  writeEthParam .fullUdpStackIp .ethControl (buf &&& 0xFFFFFFFD)
  let _ ← readEthParam .fullUdpStackIp EthRegId.ethControl.code

/-- The body of `strnsp`; the comparison is a 64-bit one. -/
def setSpeed (tmp : LongWord) : DeviceM Unit := do
  let buf ← readEthParam .fullUdpStackIp EthRegId.ethControl.code
  if tmp = 0 then
    writeEthParam .fullUdpStackIp .ethControl (buf &&& 0xFFFFFFF9)
  else if tmp = 1 then
    writeEthParam .fullUdpStackIp .ethControl (buf &&& 0xFFFFFFFB)
  else if tmp = 2 then
    writeEthParam .fullUdpStackIp .ethControl (buf &&& 0xFFFFFFFD)
  else pure ()

/-- Registers 18, 21, 19, 11, 13, 16, 23 and 24; `tmp` ends as the last. -/
def readTimeCodes : DeviceM Word := do
  let _ ← getRxTimeCode .ethToAudio
  let _ ← getRxTimeCodeFout .ethToAudio
  let _ ← getRxTimeCodeEff .ethToAudio
  let _ ← getPlayoutDelay .ethToAudio
  let _ ← getSyncTime .ethToAudio
  let _ ← getInstantPlayoutTime .ethToAudio
  let _ ← getDacOfifoOcc .ethToAudio
  getDacEfifoOcc .ethToAudio

def readEnforcerStatus : DeviceM Word := do
  let _ ← getPktsPtAccum .packetTimeEnforcer
  let _ ← getPktsPtrxLock .packetTimeEnforcer
  getPktsPtDisable .packetTimeEnforcer

/-- The four calls of `set_volume` for one global gain. -/
def setAllVolumes (gain : Word) : UiM Unit := do
  let params ← observe UiState.params
  setVolume .volumeControl0 (params.vlLpbk * gain) .left
  setVolume .volumeControl0 (params.vrLpbk * gain) .right
  setVolume .volumeControl1 (params.vlNet * gain) .left
  setVolume .volumeControl1 (params.vrNet * gain) .right

/-- A channel command: the volume is set before the channel gain is stored. -/
def setChannel (volumeBase : Device) (channel : ChannelId)
    (store : Word → UiParameters → UiParameters) (index : Fin 29) :
    UiM Unit := do
  let gain ← observe UiState.gain
  let vGlobal ← observe fun ui => ui.params.vGlobal
  setVolume volumeBase (vGlobal * gain) channel
  change fun ui => { ui with params := store gain ui.params }
  storeSetting index gain

def setFilter (filterBase : Device) (type : Word) (enable : Byte)
    (store : Byte → UiParameters → UiParameters) (index : Fin 29) :
    UiM Unit := do
  let _ ← device (setFilterType filterBase type (enable.setWidth 32))
  change fun ui => { ui with params := store enable ui.params }
  storeSetting index (enable.setWidth 32)

/-- Parse the typed address and write it as a parameter. -/
def writeAddress (param : EthParamId) : UiM Unit := do
  let ip ← observe UiState.ip
  match extractIpAddress ip with
  | some octets =>
      device (writeEthParam .fullUdpStackIp param (ipWord octets))
  | none => halt .undefined

def writeMac : UiM Unit := do
  let ip ← observe UiState.ip
  match extractMacAddress ip with
  | some mac => device (writeEthMac .fullUdpStackIp .mac mac)
  | none => halt .undefined

/-- Fetch a parameter and print it as an address; the caller names it by the
enumeration of the writer. -/
def reportAddress (param : EthParamId) : UiM Unit := do
  fetch (readEthParam .fullUdpStackIp param.code)
  let tmp ← observe UiState.tmp
  let text := printIp (tmp.setWidth 32)
  change fun ui => { ui with ip := text }
  print (text ++ ['\n'])

def reportPort : UiM Unit := do
  let port ← device (readEthParam .fullUdpStackIp EthParamId.destPort.code)
  change fun ui => { ui with destPort := port }
  print ("The port is:".toList ++ decimalInt port ++ ['\n'])

def reportMac : UiM Unit := do
  let (mac, _) ← device (readEthMac .fullUdpStackIp)
  print ("MAC Address: ".toList ++ macText mac ++ ['\n'])
  change fun ui => { ui with ip := macDigits mac }

def badLength : Text :=
  ("Warning:: Bad packet length:: The packet length formula is:: 6xN + 2 \n" ++
    " Choose N wisely!!!\n").toList

/-- The remainder is computed in 64 bits and stored in an `int`. -/
def warnLength (tmp header : LongWord) : UiM Unit :=
  if BitVec.slt 0 (((tmp - header) % 6).setWidth 32 : Word) then print badLength
  else pure ()

def setPayloadLength : UiM Unit := do
  let tmp ← observe UiState.tmp
  change fun ui => { ui with pktLen := (tmp - 12).setWidth 32 }
  change fun ui => { ui with pktLenRlSamples := ui.pktLen / 6 }
  warnLength tmp 12
  device (setStreamPlen .audioToEth (tmp.setWidth 32))

def setPlcPacketSize : UiM Unit := do
  let tmp ← observe UiState.tmp
  warnLength tmp 2
  device (setStreamRxPktSize .ethPacketSequencer (tmp - 2))

def setDestPort : UiM Unit := do
  let destPort ← observe UiState.destPort
  device (writeEthParam .fullUdpStackIp .destPort destPort)
  clearDisplay
  showMessage "DEST PORT".toList 1
  showMessage (decimalInt destPort) 2

/-- What `setDestPort` does to the board: the old display buffer plays no
part. -/
def showPort (destPort : Word) : DeviceM Display.Buffer := do
  writeEthParam .fullUdpStackIp .destPort destPort
  let intSeq ← Display.oledClear .zedboardOled
  let intSeq ←
    Display.oledPrintMessage "DEST PORT".toList 1 .zedboardOled intSeq
  Display.oledPrintMessage (decimalInt destPort) 2 .zedboardOled intSeq

def setSyncPort : UiM Unit := do
  let destPort ← observe UiState.destPort
  device (writeEthParam .fullUdpStackIp .syncPort destPort)

/-- The loop ends the process after muting all channels. -/
def shutdown : UiM Unit := do
  change fun ui => { ui with gain := 0, globalVol := 0 }
  setAllVolumes 0
  halt .exit

/-! ## The branches -/

/-- What a branch does after its argument is read. -/
def perform : Command → UiM Unit
  | .vgg => do
      let gain ← observe UiState.gain
      change fun ui => { ui with params := { ui.params with vGlobal := gain } }
      change fun ui => { ui with globalVol := gain }
      setAllVolumes gain
  | .vll => setChannel .volumeControl0 .left
      (fun gain params => { params with vlLpbk := gain }) 1
  | .vlr => setChannel .volumeControl0 .right
      (fun gain params => { params with vrLpbk := gain }) 0
  | .vnl => setChannel .volumeControl1 .left
      (fun gain params => { params with vlNet := gain }) 3
  | .vnr => setChannel .volumeControl1 .right
      (fun gain params => { params with vrNet := gain }) 2
  | .lfhe => setFilter .filterControl0 filterHighPass 1
      (fun enable params => { params with filterHLpbk := enable }) 6
  | .lfhd => setFilter .filterControl0 filterHighPass 0
      (fun enable params => { params with filterHLpbk := enable }) 6
  | .lfbe => setFilter .filterControl0 filterBandPass 1
      (fun enable params => { params with filterBLpbk := enable }) 5
  | .lfbd => setFilter .filterControl0 filterBandPass 0
      (fun enable params => { params with filterBLpbk := enable }) 5
  | .lfle => setFilter .filterControl0 filterLowPass 1
      (fun enable params => { params with filterLLpbk := enable }) 4
  | .lfld => setFilter .filterControl0 filterLowPass 0
      (fun enable params => { params with filterLLpbk := enable }) 4
  | .nfhe => setFilter .filterControl1 filterHighPass 1
      (fun enable params => { params with filterHNet := enable }) 9
  | .nfhd => setFilter .filterControl1 filterHighPass 0
      (fun enable params => { params with filterHNet := enable }) 9
  | .nfbe => setFilter .filterControl1 filterBandPass 1
      (fun enable params => { params with filterBNet := enable }) 8
  | .nfbd => setFilter .filterControl1 filterBandPass 0
      (fun enable params => { params with filterBNet := enable }) 8
  | .nfle => setFilter .filterControl1 filterLowPass 1
      (fun enable params => { params with filterLNet := enable }) 7
  | .nfld => setFilter .filterControl1 filterLowPass 0
      (fun enable params => { params with filterLNet := enable }) 7
  | .nstats => pure ()
  | .astatus => do
      let _ ← device (readFifoStatus .audioToEth .adc)
  | .dstatus => do
      let _ ← device (readFifoStatus .ethToAudio .dac)
  | .areset => device (resetAdcFifos .audioToEth)
  | .dreset => device resetDac
  | .preset => device (resetPktSeq .ethPacketSequencer)
  | .pbtreset => pure ()
  | .pbtrreset => device (resetPktTimeEnfRx .packetTimeEnforcer)
  | .pbtoff => device (pktTimeEnfDisable .packetTimeEnforcer)
  | .pbton => device (pktTimeEnfEnable .packetTimeEnforcer)
  | .pseqoff => device (disblePktSeq .ethPacketSequencer)
  | .pseqon => device (enablePktSeq .ethPacketSequencer)
  | .creset => device pulseTransmit
  | .freset => device resetReceive
  | .rxrsync => device resetReceive
  | .strteston => device (setTestModeOn .audioToEth)
  | .strtestm1 => do
      device (setTestMode .audioToEth 0)
      clearDisplay
      showMessage "LR Ramp".toList 2
  | .strtestm2 => do
      device (setTestMode .audioToEth 1)
      clearDisplay
      showMessage "LR 0x555555".toList 2
  | .strtestm3 => device (setTestMode .audioToEth 2)
  | .strtestm4 => device (setTestMode .audioToEth 3)
  | .strtestm5 => device (setTestMode .audioToEth 4)
  | .strtestoff => device (setTestModeOff .audioToEth)
  | .sethdrstrip => device (setRxHdrStrip .ethToAudio)
  | .clearhdrstrip => device (clearRxHdrStrip .ethToAudio)
  | .strxteston => device (setXtestModeOn .ethToAudio)
  | .strxtestm1 => do
      device (setXtestMode .ethToAudio 0)
      clearDisplay
      showMessage "LR Ramp".toList 2
  | .strxtestm2 => device (setXtestMode .ethToAudio 1)
  | .strxtestm3 => device (setXtestMode .ethToAudio 2)
  | .strxtestm4 => device (setXtestMode .ethToAudio 3)
  | .strxtestm5 => device (setXtestMode .ethToAudio 4)
  | .strxtestoff => device (setXtestModeOff .ethToAudio)
  | .sethdrlen => withTmpWord (setTxHdrLength .ethToAudio)
  | .setsyncen => device (do timeSyncEn .timeSync; timeSyncTxEn)
  | .setsyncoff => device (timeSyncOff .timeSync)
  | .setsyncrst => device (setSyncRst .timeSync)
  | .setsyncdly => withTmpWord (setSyncPktDly .timeSync)
  | .setsyncon => device (do initiateSync; setSyncOn .audioToEth)
  | .tgsync => device (do setSyncOff .audioToEth; setSyncOn .audioToEth)
  | .strpktcon => device (setPcntModeOn .audioToEth)
  | .strpktcoff => device (setPcntModeOff .audioToEth)
  | .strsndon => device (setStreamSendOn .audioToEth)
  | .strsndoff => device (setStreamSendOff .audioToEth)
  | .strselarm => device (resetDacFifos .ethToAudio)
  | .strseleth => device (resetDacFifos .ethToAudio)
  | .strstart => device startTransmit
  | .strrxon => device (modifyControl .fullUdpStackIp (· ||| 0x04))
  | .strstop => device stopTransmit
  | .strrxstop => device (modifyControl .fullUdpStackIp (· &&& 0xFFFFFFFB))
  | .strmac => writeMac
  | .strsip => writeAddress .syncIp
  | .strdip => writeAddress .destIp
  | .strlip => writeAddress .localIp
  | .strgip => writeAddress .gtwayIp
  | .strmask => writeAddress .maskIp
  | .strport => setDestPort
  | .strsport => setSyncPort
  | .strnsp => withTmp setSpeed
  | .strplen => setPayloadLength
  | .strporder => withTmpWord (setStreamPorder .ethPacketSequencer)
  | .setppdly => withTmp fun tmp =>
      setStreamPktWait .ethPacketSequencer (tmp * 0x40)
  | .setsqsdly => pure ()
  | .setplcpktsize => setPlcPacketSize
  | .setpblim => withTmp fun tmp => do
      setStreamRxBufLim .ethPacketSequencer tmp
      setStreamRxBufLim2 .ethToAudio tmp
  | .setdlim => withTmpWord (setStreamRxBufDlim .ethToAudio)
  | .setbslk => withTmpWord (setStreamRxBufSlack .ethToAudio)
  | .setbdlm => withTmpWord (setStreamRxBufDoccLim .ethToAudio)
  | .setprdly => withTmpWord (setPlcReplaceDelay .ethPacketSequencer)
  | .setsqlkdly => withTmpWord (setSeqReplaceLockDelay .ethPacketSequencer)
  | .sqwon => device (setStreamPktWaitEnable .ethPacketSequencer)
  | .sqwoff => device (setStreamPktWaitDisable .ethPacketSequencer)
  | .sqsdon => device (setStreamPktSendDelayEnable .ethPacketSequencer)
  | .sqsdoff => device (setStreamPktSendDelayDisable .ethPacketSequencer)
  | .plcoff => do
      device (setPlcDisable .ethToAudio)
      clearDisplay
  | .plcon => do
      device (setPlcEnable .ethToAudio)
      clearDisplay
      showMessage "PLC:ON".toList 1
  | .strblen => withTmpWord fun tmp => do
      setStreamBlen .ethToAudio tmp
      resetDacFifos .ethToAudio
  | .setpoutdly => withTmp fun tmp =>
      setPlayoutDelay .ethToAudio ((tmp * 96).setWidth 32)
  | .getpoutdly => fetchInt (getPlayoutDelay .ethToAudio)
  | .getpouttime => fetch (getInstantPlayoutTime .ethToAudio)
  | .getsynctime => fetchInt (getSyncTime .ethToAudio)
  | .getalle2a => do
      let _ ← device (getAllEth2audio .ethToAudio)
  | .getrxtc => fetchInt (getRxTimeCode .ethToAudio)
  | .getrxtceff => fetchInt (getRxTimeCodeEff .ethToAudio)
  | .getrxtcocc => fetchInt (getRxTimeCodeOcc .ethToAudio)
  | .setlooplimit => withTmpWord (setLoopLimit .ethToAudio)
  | .gettcvars => fetchInt readTimeCodes
  | .getpoutr => fetch (getInstantPlayoutReads .ethToAudio)
  | .getpoutw => fetch (getInstantPlayoutWrites .ethToAudio)
  | .getfocc => fetchInt (getDacFifoOcc .ethToAudio)
  -- No `scanf` comes before this use of `tmp`.
  | .setcrwin => withTmpWord (setBufCorrWindow .ethToAudio)
  | .tgsrcorr => device (do clearBufCorr .ethToAudio; setBufCorrOn .ethToAudio)
  | .setcoron => device (setBufCorrOn .ethToAudio)
  | .setcoroff => device (clearBufCorr .ethToAudio)
  | .gete2astatus => device (getE2aStatus .ethToAudio)
  | .getmac => reportMac
  | .getdip => reportAddress .destIp
  | .getlip => reportAddress .localIp
  | .getgip => reportAddress .gtwayIp
  | .getmask => reportAddress .maskIp
  | .getport => reportPort
  | .getplen => fetch (getStreamPlen .audioToEth)
  | .getporder => fetch (getStreamPorder .ethPacketSequencer)
  | .getpdrop => fetch (getPktsDropped .ethPacketSequencer)
  | .getpreplaced => fetch (getPktsReplaced .ethPacketSequencer)
  | .getsqgs => fetch (getSeqGs .ethPacketSequencer)
  | .getsqrx => fetch (getSeqPktsRx .ethPacketSequencer)
  | .getsqtx => fetch (getSeqPktsTx .ethPacketSequencer)
  | .getsqov => fetchInt (getSeqPktsOv .ethPacketSequencer)
  | .setptl1 => withTmp (setSpktToPktDelayLimit .packetTimeEnforcer)
  | .setptpidl => withTmp (setSpktToPktLockedDelayLimit .packetTimeEnforcer)
  | .setptl2 => withTmp (setAccumPktToPktDelayLimit .packetTimeEnforcer)
  | .getptl1 => fetchLong (getPktsDropSpktLimit .packetTimeEnforcer)
  | .getptpidl => fetchLong (getPktsDropSpktLockedLimit .packetTimeEnforcer)
  | .getptl2 => fetchLong (getPktsAdropSpktLimit .packetTimeEnforcer)
  | .getptlock => fetch (getPktsPtrxLock .packetTimeEnforcer)
  | .ptpidon => device (pktToPktLockedDropEnable .packetTimeEnforcer)
  | .ptpidoff => device (pktToPktLockedDropDisable .packetTimeEnforcer)
  | .getptstatus => fetch readEnforcerStatus
  | .setptlock => fetch (setPktsPtrxLock .packetTimeEnforcer 1)
  | .setptaccum => fetch (setPktsPtAccum .packetTimeEnforcer 1)
  | .clrptaccum => fetch (setPktsPtAccum .packetTimeEnforcer 0)
  | .getptaccum => fetch (getPktsPtAccum .packetTimeEnforcer)
  | .clrptlock => fetch (setPktsPtrxLock .packetTimeEnforcer 0)
  | .getblen => fetch (getStreamBlen .ethToAudio)
  | .getbrdly => fetch (getStreamReadoutDelay .ethToAudio)
  | .getnetdly => fetch (getStreamNetDelay .packetTimeEnforcer)
  | .getpktbuilddly => fetch (getStreamPktbuildDelay .packetTimeEnforcer)
  | .getpkt2pktdly => fetchLong (getStreamSpktDelay .packetTimeEnforcer)
  | .getaccpktdly => fetchLong (getStreamAccumPktDelay .packetTimeEnforcer)
  | .setnetdly => exchange (setStreamNetDelay .packetTimeEnforcer)
  | .setpktdly => exchange (setStreamPktbuildDelay .packetTimeEnforcer)
  | .ptdfon => fetch (setPktsPtDiffStatus .packetTimeEnforcer 1)
  | .ptdfoff => fetch (setPktsPtDiffStatus .packetTimeEnforcer 0)
  | .getptdiffs => fetch (getPktsPtDiffStatus .packetTimeEnforcer)
  | .setptdiffl => withTmp (setDiffPktToPktDelayLimit .packetTimeEnforcer)
  | .getptdiffl => fetchLong (getDiffPktToPktDelayLimit .packetTimeEnforcer)
  | .getptdiffv => fetchLong (getDiffPktToPktDelay .packetTimeEnforcer)
  | .getsqos => fetch (getOutExecState .ethPacketSequencer)
  | .getsqis => fetch (getInExecState .ethPacketSequencer)
  | .help => pure ()
  | .exit => shutdown
  | .invalid => pure ()

/-- One round of the loop, from the `scanf` of the argument on. -/
def execute (command : Command) (typed : Typed) : UiM Unit := do
  scanArgument typed command.argument
  perform command

section Scanned

variable {command : Command} {typed : Typed} {ui reached : UiState}
variable {tmp : LongWord} {number : Word}

theorem replaceLow_low (tmp : LongWord) (number : Word) :
    (replaceLow tmp number).setWidth 32 = number := by
  have hmask : (0xFFFFFFFF00000000 : LongWord).setWidth 32 = 0#32 := by decide
  rw [replaceLow, BitVec.setWidth_or, BitVec.setWidth_and, hmask,
    BitVec.and_zero, BitVec.zero_or, BitVec.setWidth_setWidth_of_le _ (by decide),
    BitVec.setWidth_eq]

theorem intoTmp_low (hnumber : typed.number = some number) :
    (typed.intoTmp tmp).setWidth 32 = number := by
  rw [Typed.intoTmp, hnumber]
  exact replaceLow_low tmp number

/-- The upper half of `tmp` survives every conversion. -/
theorem intoTmp_high :
    (typed.intoTmp tmp >>> 32).setWidth 32 = (tmp >>> 32).setWidth 32 := by
  unfold Typed.intoTmp
  split
  case h_2 => rfl
  case h_1 number _ =>
    have hzero : (number.setWidth 64 >>> 32).setWidth 32 = 0#32 := by
      ext index hindex
      simp
    rw [replaceLow, BitVec.ushiftRight_or_distrib, BitVec.setWidth_or, hzero,
      BitVec.or_zero, highHalf_eq]

theorem warnLength_apply (tmp header : LongWord) (ui : UiState) :
    ∃ printed, warnLength tmp header ui =
      .ok ((), { ui with printed := printed }) := by
  unfold warnLength
  split
  · exact ⟨_, rfl⟩
  · exact ⟨ui.printed, rfl⟩

theorem execute_nothing (hargument : command.argument = .nothing) :
    execute command typed ui = perform command ui := by
  rw [execute, hargument]
  rfl

theorem execute_gain (hargument : command.argument = .gain) :
    execute command typed ui =
      perform command { ui with gain := typed.number.getD ui.gain } := by
  rw [execute, hargument]
  rfl

theorem execute_tmp (hargument : command.argument = .tmp) :
    execute command typed ui =
      perform command { ui with tmp := typed.intoTmp ui.tmp } := by
  rw [execute, hargument]
  rfl

theorem execute_withTmp (hargument : command.argument = .tmp)
    {program : LongWord → DeviceM Unit}
    (hperform : perform command = withTmp program) :
    execute command typed ui = .ok ((),
      { ui with
        board := (program (typed.intoTmp ui.tmp) ui.board).2
        tmp := typed.intoTmp ui.tmp }) := by
  rw [execute_tmp hargument, hperform, withTmp_apply]

/-- The result of the call is left in `tmp`. -/
theorem execute_exchange (hargument : command.argument = .tmp)
    {program : Word → DeviceM Word}
    (hperform : perform command = exchange program) :
    execute command typed ui = .ok ((),
      { ui with
        board :=
          (program ((typed.intoTmp ui.tmp).setWidth 32) ui.board).2
        tmp := (program ((typed.intoTmp ui.tmp).setWidth 32)
          ui.board).1.setWidth 64 }) := by
  rw [execute_tmp hargument, hperform, exchange_apply]

theorem execute_strplen :
    ∃ printed, execute .strplen typed ui = .ok ((),
      { ui with
        board := (setStreamPlen .audioToEth
          ((typed.intoTmp ui.tmp).setWidth 32) ui.board).2
        pktLen := (typed.intoTmp ui.tmp - 12).setWidth 32
        pktLenRlSamples := (typed.intoTmp ui.tmp - 12).setWidth 32 / 6
        tmp := typed.intoTmp ui.tmp
        printed := printed }) := by
  obtain ⟨printed, hwarn⟩ := warnLength_apply (typed.intoTmp ui.tmp) 12
    { ui with
      pktLen := (typed.intoTmp ui.tmp - 12).setWidth 32
      pktLenRlSamples := (typed.intoTmp ui.tmp - 12).setWidth 32 / 6
      tmp := typed.intoTmp ui.tmp }
  refine ⟨printed, ?_⟩
  rw [execute_tmp rfl, perform, setPayloadLength]
  simp only [StateProgram.bind_apply, observe_apply, change_apply, hwarn,
    device_apply]

theorem execute_setplcpktsize :
    ∃ printed, execute .setplcpktsize typed ui = .ok ((),
      { ui with
        board := (setStreamRxPktSize .ethPacketSequencer
          (typed.intoTmp ui.tmp - 2) ui.board).2
        tmp := typed.intoTmp ui.tmp
        printed := printed }) := by
  obtain ⟨printed, hwarn⟩ := warnLength_apply (typed.intoTmp ui.tmp) 2
    { ui with tmp := typed.intoTmp ui.tmp }
  refine ⟨printed, ?_⟩
  rw [execute_tmp rfl, perform, setPlcPacketSize]
  simp only [StateProgram.bind_apply, observe_apply, hwarn, device_apply]

theorem execute_destPort (hargument : command.argument = .destPort) :
    execute command typed ui =
      perform command
        { ui with destPort := typed.number.getD ui.destPort } := by
  rw [execute, hargument]
  rfl

theorem execute_strport :
    execute .strport typed ui = .ok ((),
      { ui with
        board := (showPort (typed.number.getD ui.destPort) ui.board).2
        intSeq := (showPort (typed.number.getD ui.destPort) ui.board).1
        destPort := typed.number.getD ui.destPort }) := by
  rw [execute_destPort rfl, perform, setDestPort, StateProgram.bind_apply,
    observe_apply]
  exact device_displays _ _ _ _ _

theorem execute_strsport :
    execute .strsport typed ui = .ok ((),
      { ui with
        board := (writeEthParam .fullUdpStackIp .syncPort
          (typed.number.getD ui.destPort) ui.board).2
        destPort := typed.number.getD ui.destPort }) := by
  rw [execute_destPort rfl, perform, setSyncPort, StateProgram.bind_apply,
    observe_apply]
  simp only [device_apply]

theorem execute_ip_eq_ok (hargument : command.argument = .ip) :
    execute command typed ui = .ok ((), reached) ↔
      (typed.text.getD ui.ip).length < 128 ∧
        perform command { ui with ip := typed.text.getD ui.ip } =
          .ok ((), reached) := by
  rw [execute, hargument, StateProgram.bind_apply, scanArgument,
    StateProgram.bind_apply, observe_apply]
  by_cases hlength : (typed.text.getD ui.ip).length < 128
  · simp only [hlength, if_true, change_apply, true_and]
  · simp [hlength]

/-- After a failed conversion the branch works on with the old variable. -/
theorem execute_unread (hnumeric : command.numeric)
    (htyped : typed.number = none) :
    execute command typed ui = perform command ui := by
  cases hargument : command.argument with
  | nothing => exact execute_nothing hargument
  | gain => rw [execute_gain hargument, htyped, Option.getD_none]
  | tmp => rw [execute_tmp hargument, Typed.intoTmp, htyped]
  | destPort => rw [execute_destPort hargument, htyped, Option.getD_none]
  | ip => simp [Command.numeric, hargument] at hnumeric

end Scanned

/-! ## Steps and runs -/

/-- A command together with the input it finds. -/
structure Line where
  command : Command
  typed : Typed

/-- Every access of the command goes through a mapped base pointer. -/
def Mapped (board : MixerBoard) : Prop :=
  ∀ access ∈ board.accesses, board.base access.dev = .mapped

instance (board : MixerBoard) : Decidable (Mapped board) :=
  inferInstanceAs (Decidable (∀ access ∈ board.accesses, _))

/-- The log holds the accesses of the current command. -/
def clearLog (ui : UiState) : UiState :=
  { ui with board := { ui.board with accesses := [] } }

@[simp]
theorem clearLog_content (ui : UiState) :
    (clearLog ui).board.content = ui.board.content := rfl

@[simp]
theorem clearLog_base (ui : UiState) :
    (clearLog ui).board.base = ui.board.base := rfl

@[simp]
theorem clearLog_accesses (ui : UiState) :
    (clearLog ui).board.accesses = [] := rfl

/-- One line of input; an access through a base pointer that is not mapped kills
the process. -/
def step (line : Line) (ui : UiState) : Except Halt UiState :=
  match execute line.command line.typed (clearLog ui) with
  | .ok ((), reached) =>
      if Mapped reached.board then .ok reached else .error .fault
  | .error halted => .error halted

abbrev runLines : List Line → UiState → Except Halt UiState := run step

theorem step_eq_ok {line : Line} {ui reached : UiState} :
    step line ui = .ok reached ↔
      execute line.command line.typed (clearLog ui) = .ok ((), reached) ∧
        Mapped reached.board := by
  unfold step
  cases hrun : execute line.command line.typed (clearLog ui) with
  | error halted => simp
  | ok returned =>
      obtain ⟨value, final⟩ := returned
      by_cases hmapped : Mapped final.board
      · simp only [hmapped, if_true, Except.ok.injEq, Prod.mk.injEq]
        constructor
        · rintro rfl
          exact ⟨⟨trivial, rfl⟩, hmapped⟩
        · rintro ⟨⟨_, rfl⟩, _⟩
          rfl
      · simp only [hmapped, if_false, reduceCtorEq, Except.ok.injEq,
          Prod.mk.injEq, false_iff, not_and]
        rintro ⟨_, rfl⟩
        exact hmapped

section Steps

variable {command : Command} {typed : Typed} {ui reached : UiState}

/-- A command without an argument that only drives the board. -/
theorem step_device (hargument : command.argument = .nothing)
    {program : DeviceM Unit} (hperform : perform command = device program)
    (hstep : step ⟨command, typed⟩ ui = .ok reached) :
    reached =
      { clearLog ui with board := (program (clearLog ui).board).2 } := by
  obtain ⟨hrun, _⟩ := step_eq_ok.mp hstep
  rw [execute_nothing hargument, hperform, device_apply] at hrun
  simpa using hrun.symm

/-- A command that only passes `tmp` to a driver call. -/
theorem step_withTmp (hargument : command.argument = .tmp)
    {program : LongWord → DeviceM Unit}
    (hperform : perform command = withTmp program)
    (hstep : step ⟨command, typed⟩ ui = .ok reached) :
    reached =
      { clearLog ui with
        board := (program (typed.intoTmp ui.tmp) (clearLog ui).board).2
        tmp := typed.intoTmp ui.tmp } := by
  obtain ⟨hrun, _⟩ := step_eq_ok.mp hstep
  rw [execute_withTmp hargument hperform] at hrun
  simpa [clearLog] using hrun.symm

theorem step_setplcpktsize
    (hstep : step ⟨.setplcpktsize, typed⟩ ui = .ok reached) :
    reached.board =
      (setStreamRxPktSize .ethPacketSequencer (typed.intoTmp ui.tmp - 2)
        (clearLog ui).board).2 := by
  obtain ⟨hrun, _⟩ := step_eq_ok.mp hstep
  obtain ⟨printed, hexecute⟩ := execute_setplcpktsize
  rw [hexecute] at hrun
  cases hrun
  rfl

theorem step_strplen (hstep : step ⟨.strplen, typed⟩ ui = .ok reached) :
    ∃ printed, reached =
      { clearLog ui with
        board := (setStreamPlen .audioToEth
          ((typed.intoTmp ui.tmp).setWidth 32) (clearLog ui).board).2
        pktLen := (typed.intoTmp ui.tmp - 12).setWidth 32
        pktLenRlSamples := (typed.intoTmp ui.tmp - 12).setWidth 32 / 6
        tmp := typed.intoTmp ui.tmp
        printed := printed } := by
  obtain ⟨hrun, _⟩ := step_eq_ok.mp hstep
  obtain ⟨printed, hexecute⟩ := execute_strplen
  rw [hexecute] at hrun
  cases hrun
  exact ⟨printed, rfl⟩

end Steps

end Songpark.UiControl
