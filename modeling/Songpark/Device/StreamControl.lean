import Songpark.Device.RegIo

/-!
# Stream control

The control functions of the streaming blocks.  Each takes the base pointer it
works on, so the register it touches is decided by the caller and by the offset
family in its body together.  Functions that print the register they wrote read
it back; the text they print is not part of the model, the read is.
-/

namespace Songpark.StreamControl

open Songpark.RegisterFile Songpark.RegIo

/-! ## Fifo status and resets -/

/-- The two channels use differently named offsets of the same value. -/
def readFifoStatus (streamBase : Device) (fifo : FifoId) : DeviceM Word := do
  if ← isNull streamBase then
    return -1
  match fifo with
  | .adc => readReg streamBase (audioToAxiReg 0)
  | .dac => readReg streamBase (axiToAudioReg 0)

def resetAdcFifos (streamBase : Device) : DeviceM Unit :=
  pulse streamBase (audioToEthReg 0) 0x03 0xFFFFFFFC

def resetDacFifos (streamBase : Device) : DeviceM Unit :=
  pulse streamBase (ethToAudioReg 0) 0x03 0xFFFFFFFC

/-! ## Ethernet to audio: correction, header strip, test modes -/

def setBufCorrOn (streamBase : Device) : DeviceM Unit :=
  modifyShown streamBase (ethToAudioReg 0) (· ||| 0x20)

def clearBufCorr (streamBase : Device) : DeviceM Unit :=
  modifyShown streamBase (ethToAudioReg 0) (· &&& 0xFFFFFFDF)

def getE2aStatus (streamBase : Device) : DeviceM Unit := do
  let _ ← readReg streamBase (ethToAudioReg 0)

def setRxHdrStrip (streamBase : Device) : DeviceM Unit :=
  writeShown streamBase (ethToAudioReg 10) 0x01

def clearRxHdrStrip (streamBase : Device) : DeviceM Unit :=
  writeShown streamBase (ethToAudioReg 10) 0x00

def setBufCorrWindow (streamBase : Device) (data : Word) : DeviceM Unit :=
  writeShown streamBase (ethToAudioReg 23) data

def setTestModeOn (streamBase : Device) : DeviceM Unit :=
  modifyReg streamBase (audioToEthReg 0) (· ||| 0x00000080)

/-- The bits that select a test signal of the audio to ethernet block. -/
def testModeBits (mode : Word) : Word :=
  if mode = 1 then 0x00000200
  else if mode = 2 then 0x00000400
  else if mode = 3 then 0x00000600
  else if mode = 4 then 0x00000800
  else 0

def setTestMode (streamBase : Device) (mode : Word) : DeviceM Unit :=
  modifyReg streamBase (audioToEthReg 0) fun d =>
    (d &&& 0xFFFFF1FF) ||| testModeBits mode

def setTestModeOff (streamBase : Device) : DeviceM Unit :=
  modifyShown streamBase (audioToEthReg 0) (· &&& 0xFFFFFF7F)

def setXtestModeOn (streamBase : Device) : DeviceM Unit :=
  writeShowing streamBase (audioToEthReg 7) (ethToAudioReg 7) 0x01

def setXtestMode (streamBase : Device) (mode : Word) : DeviceM Unit :=
  writeShown streamBase (ethToAudioReg 8) (if mode ≤ 4 then mode else 0)

def setXtestModeOff (streamBase : Device) : DeviceM Unit :=
  writeShowing streamBase (ethToAudioReg 7) (ethToAudioReg 7) 0

/-! ## Time synchronisation -/

def setSyncOn (streamBase : Device) : DeviceM Unit :=
  writeShown streamBase (audioToEthReg 6) 1

def timeSyncEn (streamBase : Device) : DeviceM Unit :=
  writeShown streamBase (audioToEthReg 0) 1

/-- The delay goes to register 5; what is shown is register 4. -/
def setSyncPktDly (streamBase : Device) (v : Word) : DeviceM Unit :=
  writeShowing streamBase (audioToEthReg 5) (audioToEthReg 4) v

def setSyncRst (streamBase : Device) : DeviceM Unit :=
  pulseShown streamBase (audioToEthReg 0) 0x02 0xFFFFFFFD

def timeSyncOff (streamBase : Device) : DeviceM Unit :=
  writeShown streamBase (audioToEthReg 0) 0

/-- The function has no parameter: it works on the UDP stack and on the time
sync block whatever it is called with. -/
def initiateSync : DeviceM Unit := do
  let d ← readReg .fullUdpStackIp (audioToEthReg 0)
  writeReg .fullUdpStackIp (audioToEthReg 0) (d ||| 1)
  let _ ← readReg .fullUdpStackIp (audioToEthReg 0)
  writeReg .timeSync (audioToEthReg 0) 1
  let d ← readReg .fullUdpStackIp (audioToEthReg 0)
  writeReg .fullUdpStackIp (audioToEthReg 0) (d &&& 0xFFFFFFFE)
  let _ ← readReg .fullUdpStackIp (audioToEthReg 0)
  writeReg .timeSync (audioToEthReg 0) 0
  let _ ← readReg .timeSync (audioToEthReg 0)

/-- Besides its own register this clears the lowest bit of register 0 of the
UDP stack, through an offset named for the audio to ethernet block. -/
def setSyncOff (streamBase : Device) : DeviceM Unit := do
  writeReg streamBase (audioToEthReg 6) 0
  let d ← readReg .fullUdpStackIp (audioToEthReg 0)
  writeReg .fullUdpStackIp (audioToEthReg 0) (d &&& 0xFFFFFFFE)
  let _ ← readReg streamBase (audioToEthReg 6)

/-! ## Payload generation -/

def setTxHdrLength (streamBase : Device) (data : Word) : DeviceM Unit :=
  writeShown streamBase (ethToAudioReg 9) data

def setPcntModeOn (streamBase : Device) : DeviceM Unit :=
  modifyShown streamBase (audioToEthReg 0) (· ||| 0x00000040)

def setPcntModeOff (streamBase : Device) : DeviceM Unit :=
  modifyShown streamBase (audioToEthReg 0) (· &&& 0xFFFFFFBF)

def setStreamSendOn (streamBase : Device) : DeviceM Unit :=
  modifyShown streamBase (audioToEthReg 0) (· ||| 0x00000100)

def setStreamSendOff (streamBase : Device) : DeviceM Unit :=
  modifyShown streamBase (audioToEthReg 0) (· &&& 0xFFFFFEFF)

def setStreamPlen (streamBase : Device) (data : Word) : DeviceM Unit :=
  writeReg streamBase (audioToEthReg 3) data

def getStreamPlen (streamBase : Device) : DeviceM Word :=
  readReg streamBase (audioToEthReg 3)

/-! ## Playout of received audio -/

def setStreamBlen (streamBase : Device) (data : Word) : DeviceM Unit :=
  writeReg streamBase (ethToAudioReg 5) data

def getStreamBlen (streamBase : Device) : DeviceM Word :=
  readReg streamBase (ethToAudioReg 5)

def getStreamReadoutDelay (streamBase : Device) : DeviceM Word :=
  readReg streamBase (ethToAudioReg 6)

def getPlayoutDelay (streamBase : Device) : DeviceM Word :=
  readReg streamBase (ethToAudioReg 11)

def getSyncTime (streamBase : Device) : DeviceM Word :=
  readReg streamBase (ethToAudioReg 13)

def getInstantPlayoutReads (streamBase : Device) : DeviceM Word :=
  readReg streamBase (ethToAudioReg 14)

def getInstantPlayoutWrites (streamBase : Device) : DeviceM Word :=
  readReg streamBase (ethToAudioReg 15)

def getInstantPlayoutTime (streamBase : Device) : DeviceM Word :=
  readReg streamBase (ethToAudioReg 16)

def getRxTimeCode (streamBase : Device) : DeviceM Word :=
  readReg streamBase (ethToAudioReg 18)

def getRxTimeCodeEff (streamBase : Device) : DeviceM Word :=
  readReg streamBase (ethToAudioReg 19)

def getRxTimeCodeOcc (streamBase : Device) : DeviceM Word :=
  readReg streamBase (ethToAudioReg 20)

def getRxTimeCodeFout (streamBase : Device) : DeviceM Word :=
  readReg streamBase (ethToAudioReg 21)

def getDacFifoOcc (streamBase : Device) : DeviceM Word :=
  readReg streamBase (ethToAudioReg 23)

def getDacOfifoOcc (streamBase : Device) : DeviceM Word :=
  readReg streamBase (ethToAudioReg 23)

def getDacEfifoOcc (streamBase : Device) : DeviceM Word :=
  readReg streamBase (ethToAudioReg 24)

/-- Every register of the block in turn; the last one is returned. -/
def getAllEth2audio (streamBase : Device) : DeviceM Word := do
  readEach streamBase ((List.range 20).map ethToAudioReg)
  let _ ← readReg streamBase (ethToAudioReg 23)
  readReg streamBase (ethToAudioReg 24)

/-- The limit goes to register 29; what is shown is the playout delay. -/
def setLoopLimit (streamBase : Device) (data : Word) : DeviceM Unit :=
  writeShowing streamBase (ethToAudioReg 29) (ethToAudioReg 11) data

def setPlayoutDelay (streamBase : Device) (data : Word) : DeviceM Unit :=
  writeShown streamBase (ethToAudioReg 11) data

/-! ## Packet sequencer -/

def resetPktSeq (streamBase : Device) : DeviceM Unit :=
  pulseShown streamBase (pktSeqReg 1) 0x01 0xFFFFFFFE

def disblePktSeq (streamBase : Device) : DeviceM Unit :=
  modifyShown streamBase (pktSeqReg 1) (· ||| 0x02)

def enablePktSeq (streamBase : Device) : DeviceM Unit :=
  modifyShown streamBase (pktSeqReg 1) (· &&& 0xFFFFFFFD)

def setStreamPorder (streamBase : Device) (data : Word) : DeviceM Unit :=
  writeShown streamBase (pktSeqReg 0) data

def setStreamPktWaitEnable (streamBase : Device) : DeviceM Unit :=
  modifyShown streamBase (pktSeqReg 1) (· &&& 0xFFFFFFFB)

def setStreamPktWaitDisable (streamBase : Device) : DeviceM Unit :=
  modifyShown streamBase (pktSeqReg 1) (· ||| 0x00000004)

def setStreamPktSendDelayEnable (streamBase : Device) : DeviceM Unit :=
  modifyShown streamBase (pktSeqReg 1) (· &&& 0xFFFFFFF7)

def setStreamPktSendDelayDisable (streamBase : Device) : DeviceM Unit :=
  modifyShown streamBase (pktSeqReg 1) (· ||| 0x00000008)

def setPlcDisable (streamBase : Device) : DeviceM Unit :=
  modifyShown streamBase (pktSeqReg 0) (· &&& 0xFFFFFFEF)

def setPlcEnable (streamBase : Device) : DeviceM Unit :=
  modifyShown streamBase (pktSeqReg 0) (· ||| 0x00000010)

def setStreamPktWait (streamBase : Device) (data : LongWord) :
    DeviceM Unit := do
  writeWide streamBase (pktSeqReg 2) (pktSeqReg 3) data
  let _ ← readReg streamBase (pktSeqReg 2)
  let _ ← readReg streamBase (pktSeqReg 3)

def setStreamRxPktSize (streamBase : Device) (data : LongWord) : DeviceM Unit :=
  writeLowShown streamBase (pktSeqReg 7) data

def setStreamRxBufLim (streamBase : Device) (data : LongWord) : DeviceM Unit :=
  writeLowShown streamBase (pktSeqReg 6) data

def setStreamRxBufLim2 (streamBase : Device) (data : LongWord) : DeviceM Unit :=
  writeLowShown streamBase (pktSeqReg 6) data

def setStreamRxBufDlim (streamBase : Device) (data : Word) : DeviceM Unit :=
  writeShown streamBase (pktSeqReg 9) data

def setStreamRxBufDoccLim (streamBase : Device) (data : Word) : DeviceM Unit :=
  writeReg streamBase (pktSeqReg 11) data

def setStreamRxBufSlack (streamBase : Device) (data : Word) : DeviceM Unit :=
  writeReg streamBase (pktSeqReg 10) data

def setPlcReplaceDelay (streamBase : Device) (data : Word) : DeviceM Unit :=
  writeShown streamBase (pktSeqReg 8) data

def setSeqReplaceLockDelay (streamBase : Device) (data : Word) :
    DeviceM Unit :=
  writeShown streamBase (pktSeqReg 10) data

def getStreamPorder (streamBase : Device) : DeviceM Word :=
  readReg streamBase (pktSeqReg 0)

def getSeqGs (streamBase : Device) : DeviceM Word :=
  readReg streamBase (pktSeqReg 22)

/-! ## Packet time enforcer -/

def getPktsDropped (streamBase : Device) : DeviceM Word :=
  readReg streamBase (pktTimeEnforcerReg 12)

def getPktsReplaced (streamBase : Device) : DeviceM Word :=
  readReg streamBase (pktTimeEnforcerReg 13)

def getSeqPktsRx (streamBase : Device) : DeviceM Word :=
  readReg streamBase (pktTimeEnforcerReg 21)

def getSeqPktsTx (streamBase : Device) : DeviceM Word :=
  readReg streamBase (pktTimeEnforcerReg 20)

def getSeqPktsOv (streamBase : Device) : DeviceM Word :=
  readReg streamBase (pktTimeEnforcerReg 19)

def getPktsDropSpktLimit (streamBase : Device) : DeviceM LongWord :=
  readWide streamBase (pktTimeEnforcerReg 3) (pktTimeEnforcerReg 4)

def getPktsDropSpktLockedLimit (streamBase : Device) : DeviceM LongWord :=
  readWide streamBase (pktTimeEnforcerReg 21) (pktTimeEnforcerReg 22)

def getPktsAdropSpktLimit (streamBase : Device) : DeviceM LongWord :=
  readWide streamBase (pktTimeEnforcerReg 5) (pktTimeEnforcerReg 6)

def setPktsPtrxLock (streamBase : Device) (d1 : Word) : DeviceM Word :=
  writeReturned streamBase (pktTimeEnforcerReg 8) d1

def setPktsPtAccum (streamBase : Device) (d1 : Word) : DeviceM Word :=
  writeReturned streamBase (pktTimeEnforcerReg 9) d1

def getPktsPtAccum (streamBase : Device) : DeviceM Word :=
  readReg streamBase (pktTimeEnforcerReg 9)

def setPktsPtDiffStatus (streamBase : Device) (d1 : Word) : DeviceM Word :=
  writeReturned streamBase (pktTimeEnforcerReg 20) d1

def getPktsPtDiffStatus (streamBase : Device) : DeviceM Word :=
  readReg streamBase (pktTimeEnforcerReg 20)

def getPktsPtrxLock (streamBase : Device) : DeviceM Word :=
  readReg streamBase (pktTimeEnforcerReg 8)

def getPktsPtDisable (streamBase : Device) : DeviceM Word :=
  readReg streamBase (pktTimeEnforcerReg 2)

def getStreamNetDelay (streamBase : Device) : DeviceM Word :=
  readReg streamBase (pktTimeEnforcerReg 10)

def getStreamPktbuildDelay (streamBase : Device) : DeviceM Word :=
  readReg streamBase (pktTimeEnforcerReg 11)

def getStreamAccumPktDelay (streamBase : Device) : DeviceM LongWord :=
  readLowOfTwo streamBase (pktTimeEnforcerReg 12) (pktTimeEnforcerReg 13)

def getStreamSpktDelay (streamBase : Device) : DeviceM LongWord :=
  readLowOfTwo streamBase (pktTimeEnforcerReg 14) (pktTimeEnforcerReg 15)

def setStreamNetDelay (streamBase : Device) (d1 : Word) : DeviceM Word :=
  writeReturned streamBase (pktTimeEnforcerReg 10) d1

def setStreamPktbuildDelay (streamBase : Device) (d1 : Word) : DeviceM Word :=
  writeReturned streamBase (pktTimeEnforcerReg 11) d1

def setSpktToPktDelayLimit (streamBase : Device) (data : LongWord) :
    DeviceM Unit :=
  writeWide streamBase (pktTimeEnforcerReg 3) (pktTimeEnforcerReg 4) data

def setSpktToPktLockedDelayLimit (streamBase : Device) (data : LongWord) :
    DeviceM Unit :=
  writeWide streamBase (pktTimeEnforcerReg 21) (pktTimeEnforcerReg 22) data

def setAccumPktToPktDelayLimit (streamBase : Device) (data : LongWord) :
    DeviceM Unit :=
  writeWide streamBase (pktTimeEnforcerReg 5) (pktTimeEnforcerReg 6) data

def setDiffPktToPktDelayLimit (streamBase : Device) (data : LongWord) :
    DeviceM Unit :=
  writeWideShown streamBase (pktTimeEnforcerReg 16) (pktTimeEnforcerReg 17) data

def getDiffPktToPktDelayLimit (streamBase : Device) : DeviceM LongWord :=
  readLowOfTwo streamBase (pktTimeEnforcerReg 16) (pktTimeEnforcerReg 17)

def getDiffPktToPktDelay (streamBase : Device) : DeviceM LongWord :=
  readLowOfTwo streamBase (pktTimeEnforcerReg 18) (pktTimeEnforcerReg 19)

/-- Declared `unsigned long`, the value is a single register. -/
def getInExecState (streamBase : Device) : DeviceM Word :=
  readReg streamBase (pktTimeEnforcerReg 15)

def getOutExecState (streamBase : Device) : DeviceM Word :=
  readReg streamBase (pktTimeEnforcerReg 16)

def resetPktTimeEnfRx (streamBase : Device) : DeviceM Unit := do
  writeReg streamBase (pktTimeEnforcerReg 1) 0x01
  writeReg streamBase (pktTimeEnforcerReg 1) 0x00

def pktTimeEnfDisable (streamBase : Device) : DeviceM Unit :=
  writeShown streamBase (pktTimeEnforcerReg 2) 0x01

def pktTimeEnfEnable (streamBase : Device) : DeviceM Unit :=
  writeShown streamBase (pktTimeEnforcerReg 2) 0x00

def pktToPktLockedDropEnable (streamBase : Device) : DeviceM Unit :=
  writeShown streamBase (pktTimeEnforcerReg 23) 0x01

def pktToPktLockedDropDisable (streamBase : Device) : DeviceM Unit :=
  writeShown streamBase (pktTimeEnforcerReg 23) 0x00

/-! ## Effects

A function that is one access pattern is unfolded to it, so the lemmas about
the patterns apply.  The functions below touch more than one register. -/

attribute [simp] resetAdcFifos resetDacFifos setBufCorrOn clearBufCorr
  setRxHdrStrip clearRxHdrStrip setBufCorrWindow setTestModeOn setTestMode
  setTestModeOff setXtestModeOn setXtestMode setXtestModeOff setSyncOn
  timeSyncEn setSyncPktDly setSyncRst timeSyncOff setTxHdrLength setPcntModeOn
  setPcntModeOff setStreamSendOn setStreamSendOff setStreamPlen getStreamPlen
  setStreamBlen getStreamBlen getStreamReadoutDelay getPlayoutDelay
  getSyncTime getInstantPlayoutReads getInstantPlayoutWrites
  getInstantPlayoutTime getRxTimeCode getRxTimeCodeEff getRxTimeCodeOcc
  getRxTimeCodeFout getDacFifoOcc getDacOfifoOcc getDacEfifoOcc setLoopLimit
  setPlayoutDelay resetPktSeq disblePktSeq enablePktSeq setStreamPorder
  setStreamPktWaitEnable setStreamPktWaitDisable setStreamPktSendDelayEnable
  setStreamPktSendDelayDisable setPlcDisable setPlcEnable setStreamPktWait
  setStreamRxPktSize setStreamRxBufLim setStreamRxBufLim2
  setStreamRxBufDlim setStreamRxBufDoccLim setStreamRxBufSlack
  setPlcReplaceDelay setSeqReplaceLockDelay getStreamPorder getSeqGs
  getPktsDropped getPktsReplaced getSeqPktsRx getSeqPktsTx getSeqPktsOv
  getPktsDropSpktLimit getPktsDropSpktLockedLimit getPktsAdropSpktLimit
  setPktsPtrxLock setPktsPtAccum getPktsPtAccum setPktsPtDiffStatus
  getPktsPtDiffStatus getPktsPtrxLock getPktsPtDisable getStreamNetDelay
  getStreamPktbuildDelay getStreamAccumPktDelay getStreamSpktDelay
  setStreamNetDelay setStreamPktbuildDelay setSpktToPktDelayLimit
  setSpktToPktLockedDelayLimit setAccumPktToPktDelayLimit
  setDiffPktToPktDelayLimit getDiffPktToPktDelayLimit getDiffPktToPktDelay
  getInExecState getOutExecState resetPktTimeEnfRx pktTimeEnfDisable
  pktTimeEnfEnable pktToPktLockedDropEnable pktToPktLockedDropDisable

section Effects

variable (streamBase : Device) (board : MixerBoard)

theorem setSyncOff_content :
    (setSyncOff streamBase board).2.content =
      let cleared :=
        Function.update board.content ⟨streamBase, audioToEthReg 6⟩ 0
      Function.update cleared ⟨.fullUdpStackIp, audioToEthReg 0⟩
        (cleared ⟨.fullUdpStackIp, audioToEthReg 0⟩ &&& 0xFFFFFFFE) := rfl

/-- A whole synchronisation leaves both registers it works on with their
lowest bit cleared. -/
theorem initiateSync_content (cell : Register) :
    (initiateSync board).2.content cell =
      if cell = ⟨.fullUdpStackIp, 0⟩ then board.content cell &&& 0xFFFFFFFE#32
      else if cell = ⟨.timeSync, 0⟩ then 0
      else board.content cell := by
  have hraise : ∀ d : Word,
      (d ||| 1#32) &&& 0xFFFFFFFE#32 = d &&& 0xFFFFFFFE#32 := by
    intro d
    rw [BitVec.and_or_distrib_right]
    simp
  by_cases hudp : cell = ⟨.fullUdpStackIp, 0⟩
  · subst hudp
    simp [initiateSync, hraise]
  · by_cases hsync : cell = ⟨.timeSync, 0⟩
    · subst hsync
      simp [initiateSync]
    · simp [initiateSync, hudp, hsync]

variable {streamBase} {footprint : Set Register}

@[simp]
theorem within_readFifoStatus (fifo : FifoId) :
    Within footprint (readFifoStatus streamBase fifo) := by
  refine .bind (.isNull _) fun null => .ite (.pure _) ?_
  cases fifo with
  | adc => exact .readReg _ _
  | dac => exact .readReg _ _

@[simp]
theorem within_getE2aStatus : Within footprint (getE2aStatus streamBase) :=
  .bind (.readReg _ _) fun _ => .pure _

@[simp]
theorem within_getAllEth2audio :
    Within footprint (getAllEth2audio streamBase) :=
  .bind (within_readEach _) fun _ => .bind (.readReg _ _) fun _ =>
    .readReg _ _

theorem within_setSyncOff
    (hsync : (⟨streamBase, audioToEthReg 6⟩ : Register) ∈ footprint)
    (hudp : (⟨.fullUdpStackIp, audioToEthReg 0⟩ : Register) ∈ footprint) :
    Within footprint (setSyncOff streamBase) :=
  .bind (.writeReg hsync) fun _ => .bind (.readReg _ _) fun _ =>
    .bind (.writeReg hudp) fun _ => .bind (.readReg _ _) fun _ => .pure _

theorem within_initiateSync
    (hudp : (⟨.fullUdpStackIp, audioToEthReg 0⟩ : Register) ∈ footprint)
    (hsync : (⟨.timeSync, audioToEthReg 0⟩ : Register) ∈ footprint) :
    Within footprint initiateSync :=
  .bind (.readReg _ _) fun _ => .bind (.writeReg hudp) fun _ =>
    .bind (.readReg _ _) fun _ => .bind (.writeReg hsync) fun _ =>
    .bind (.readReg _ _) fun _ => .bind (.writeReg hudp) fun _ =>
    .bind (.readReg _ _) fun _ => .bind (.writeReg hsync) fun _ =>
    .bind (.readReg _ _) fun _ => .pure _

end Effects

section Confined

variable {streamBase dev : Device}

theorem avoids_readFifoStatus (fifo : FifoId) (hdev : streamBase ≠ dev) :
    Avoids dev (readFifoStatus streamBase fifo) := by
  refine .bind (.isNull _) fun null => .ite (.pure _) ?_
  cases fifo with
  | adc => exact .readReg hdev
  | dac => exact .readReg hdev

theorem avoids_getAllEth2audio (hdev : streamBase ≠ dev) :
    Avoids dev (getAllEth2audio streamBase) :=
  .bind (avoids_readEach _ hdev) fun _ => .bind (.readReg hdev) fun _ =>
    .readReg hdev

theorem avoids_setSyncOff (hdev : streamBase ≠ dev)
    (hudp : Device.fullUdpStackIp ≠ dev) : Avoids dev (setSyncOff streamBase) :=
  .bind (.writeReg hdev) fun _ => .bind (.readReg hudp) fun _ =>
    .bind (.writeReg hudp) fun _ => .bind (.readReg hdev) fun _ => .pure _

theorem avoids_initiateSync (hudp : Device.fullUdpStackIp ≠ dev)
    (hsync : Device.timeSync ≠ dev) : Avoids dev initiateSync :=
  .bind (.readReg hudp) fun _ => .bind (.writeReg hudp) fun _ =>
    .bind (.readReg hudp) fun _ => .bind (.writeReg hsync) fun _ =>
    .bind (.readReg hudp) fun _ => .bind (.writeReg hudp) fun _ =>
    .bind (.readReg hudp) fun _ => .bind (.writeReg hsync) fun _ =>
    .bind (.readReg hsync) fun _ => .pure _

end Confined

end Songpark.StreamControl
