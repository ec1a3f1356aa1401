import Songpark.Core.RegisterFile

/-!
# Devices, register offsets and enumerations

The thirteen base pointers of the mixer, the register offsets of every IP block
and the enumerations that name registers at call sites.  Offsets of different
blocks overlap numerically: an offset means a register only together with the
base pointer it is added to.
-/

namespace Songpark.RegIo

open Songpark.RegisterFile

abbrev Word := BitVec 32
/-- `unsigned long` of the x86-64 build. -/
abbrev LongWord := BitVec 64
abbrev Byte := BitVec 8

/-- The devices, one for each global base pointer. -/
inductive Device
  | zedboardOled
  | pmodController
  | filterControl0
  | filterControl1
  | volumeControl0
  | volumeControl1
  | ethToAudio
  | audioToEth
  | fullUdpStackIp
  | ethPacketSequencer
  | packetTimeEnforcer
  | adau1761
  | timeSync
  deriving DecidableEq, Repr

abbrev Register := Cell Device
abbrev MixerBoard := Board Device Word
abbrev DeviceM := RegM Device Word

/-- A board with every device mapped and all registers zero. -/
def zeroBoard : MixerBoard where
  base _ := .mapped
  content _ := 0
  accesses := []

/-! Every block numbers its registers in steps of four bytes. -/

@[simp] def audioToAxiReg (index : ℕ) : ℕ := 4 * index
@[simp] def axiToAudioReg (index : ℕ) : ℕ := 4 * index
@[simp] def filterControlReg (index : ℕ) : ℕ := 4 * index
@[simp] def ethUdpReg (index : ℕ) : ℕ := 4 * index
@[simp] def audioToEthReg (index : ℕ) : ℕ := 4 * index
@[simp] def pktSeqReg (index : ℕ) : ℕ := 4 * index
@[simp] def pktTimeEnforcerReg (index : ℕ) : ℕ := 4 * index
@[simp] def ethToAudioReg (index : ℕ) : ℕ := 4 * index

inductive ChannelId
  | left
  | right
  deriving DecidableEq, Repr

inductive FifoId
  | adc
  | dac
  deriving DecidableEq, Repr

/-- `ETH_PARAM_ID`, the parameters that can be written. -/
inductive EthParamId
  | mac
  | localIp
  | destIp
  | syncIp
  | gtwayIp
  | maskIp
  | destPort
  | syncPort
  | pktLen
  | ethControl
  | netIdMax
  deriving DecidableEq, Repr

/-- `ETH_REG_ID`, the registers that can be read back. -/
inductive EthRegId
  | mac
  | localIp
  | destIp
  | gtwayIp
  | maskIp
  | destPort
  | pktLen
  | loopTimer
  | latencyTimer
  | sampleFifoTimer
  | netErrors
  | lostPackets
  | txPackets
  | rxPackets
  | packetLength
  | ethControl
  | netRegIdMax
  deriving DecidableEq, Repr

/-- The integer the compiler passes for an `ETH_PARAM_ID`. -/
def EthParamId.code : EthParamId → ℕ
  | .mac => 0
  | .localIp => 1
  | .destIp => 2
  | .syncIp => 3
  | .gtwayIp => 4
  | .maskIp => 5
  | .destPort => 6
  | .syncPort => 7
  | .pktLen => 8
  | .ethControl => 9
  | .netIdMax => 10

/-- The integer the compiler passes for an `ETH_REG_ID`; from the gateway on,
the `ETH_PARAM_ID` of the same name is another integer. -/
def EthRegId.code : EthRegId → ℕ
  | .mac => 0
  | .localIp => 1
  | .destIp => 2
  | .gtwayIp => 3
  | .maskIp => 4
  | .destPort => 5
  | .pktLen => 6
  | .loopTimer => 7
  | .latencyTimer => 8
  | .sampleFifoTimer => 9
  | .netErrors => 10
  | .lostPackets => 11
  | .txPackets => 12
  | .rxPackets => 13
  | .packetLength => 14
  | .ethControl => 15
  | .netRegIdMax => 16

/-! ## Access patterns

The control functions of a block repeat a few access patterns. -/

/-- Write one register, then read one back for the console.  The two differ in
some functions of the source. -/
def writeShowing (streamBase : Device) (offset shown : ℕ) (data : Word) :
    DeviceM Unit := do
  writeReg streamBase offset data
  let _ ← readReg streamBase shown

def writeShown (streamBase : Device) (offset : ℕ) (data : Word) :
    DeviceM Unit :=
  writeShowing streamBase offset offset data

/-- Write a register and return what it then reads. -/
def writeReturned (streamBase : Device) (offset : ℕ) (data : Word) :
    DeviceM Word := do
  writeReg streamBase offset data
  readReg streamBase offset

/-- Read a register and write the changed value. -/
def modifyReg (streamBase : Device) (offset : ℕ) (change : Word → Word) :
    DeviceM Unit := do
  let d ← readReg streamBase offset
  writeReg streamBase offset (change d)

def modifyShown (streamBase : Device) (offset : ℕ) (change : Word → Word) :
    DeviceM Unit := do
  modifyReg streamBase offset change
  let _ ← readReg streamBase offset

/-- Raise bits of a register and lower them again; both written values derive
from the value read first. -/
def pulse (streamBase : Device) (offset : ℕ) (raise keep : Word) :
    DeviceM Unit := do
  let d ← readReg streamBase offset
  writeReg streamBase offset (d ||| raise)
  writeReg streamBase offset (d &&& keep)

def pulseShown (streamBase : Device) (offset : ℕ) (raise keep : Word) :
    DeviceM Unit := do
  pulse streamBase offset raise keep
  let _ ← readReg streamBase offset

/-- Split a 64-bit value over two registers. -/
def writeWide (streamBase : Device) (low high : ℕ) (data : LongWord) :
    DeviceM Unit := do
  writeReg streamBase low ((data &&& 0x00000000FFFFFFFF).setWidth 32)
  writeReg streamBase high
    (((data &&& 0xFFFFFFFF00000000) >>> 32).setWidth 32)

def writeWideShown (streamBase : Device) (low high : ℕ) (data : LongWord) :
    DeviceM Unit := do
  writeWide streamBase low high data
  let _ ← readReg streamBase low
  let _ ← readReg streamBase high

/-- The parameter is 64 bits wide, the register keeps its lower half. -/
def writeLowShown (streamBase : Device) (offset : ℕ) (data : LongWord) :
    DeviceM Unit :=
  writeShown streamBase offset ((data &&& 0x00000000FFFFFFFF).setWidth 32)

/-- Join two registers to a 64-bit value. -/
def readWide (streamBase : Device) (low high : ℕ) : DeviceM LongWord := do
  let d1 ← readReg streamBase low
  let d2 ← readReg streamBase high
  return (d2.setWidth 64 <<< 32) ||| d1.setWidth 64

/-- Both halves are read, the lower one alone is returned. -/
def readLowOfTwo (streamBase : Device) (low high : ℕ) : DeviceM LongWord := do
  let d1 ← readReg streamBase low
  let _ ← readReg streamBase high
  return d1.setWidth 64

def readEach (streamBase : Device) : List ℕ → DeviceM Unit
  | [] => pure ()
  | offset :: offsets => do
      let _ ← readReg streamBase offset
      readEach streamBase offsets

theorem lowHalf_eq (data : LongWord) :
    (data &&& 0x00000000FFFFFFFF).setWidth 32 = data.setWidth 32 := by
  have hmask : (0x00000000FFFFFFFF : LongWord).setWidth 32 =
      BitVec.allOnes 32 := by decide
  rw [BitVec.setWidth_and, hmask, BitVec.and_allOnes]

theorem highHalf_eq (data : LongWord) :
    ((data &&& 0xFFFFFFFF00000000) >>> 32).setWidth 32 =
      (data >>> 32).setWidth 32 := by
  have hmask : ((0xFFFFFFFF00000000 : LongWord) >>> 32).setWidth 32 =
      BitVec.allOnes 32 := by decide
  rw [BitVec.ushiftRight_and_distrib, BitVec.setWidth_and, hmask,
    BitVec.and_allOnes]

theorem lowHalf_sub (left right : LongWord) :
    (left - right).setWidth 32 = left.setWidth 32 - right.setWidth 32 := by
  rw [BitVec.sub_eq_add_neg, BitVec.setWidth_add _ _ (by decide),
    BitVec.setWidth_neg_of_le (by decide), ← BitVec.sub_eq_add_neg]

section Contents

variable (streamBase : Device) (offset shown low high : ℕ)
variable (board : MixerBoard)

@[simp]
theorem writeShowing_content (data : Word) :
    (writeShowing streamBase offset shown data board).2.content =
      Function.update board.content ⟨streamBase, offset⟩ data := rfl

@[simp]
theorem writeShown_content (data : Word) :
    (writeShown streamBase offset data board).2.content =
      Function.update board.content ⟨streamBase, offset⟩ data := rfl

@[simp]
theorem writeShown_base (data : Word) :
    (writeShown streamBase offset data board).2.base = board.base := rfl

@[simp]
theorem writeReturned_content (data : Word) :
    (writeReturned streamBase offset data board).2.content =
      Function.update board.content ⟨streamBase, offset⟩ data := rfl

@[simp]
theorem modifyReg_content (change : Word → Word) :
    (modifyReg streamBase offset change board).2.content =
      Function.update board.content ⟨streamBase, offset⟩
        (change (board.content ⟨streamBase, offset⟩)) := rfl

@[simp]
theorem modifyShown_content (change : Word → Word) :
    (modifyShown streamBase offset change board).2.content =
      Function.update board.content ⟨streamBase, offset⟩
        (change (board.content ⟨streamBase, offset⟩)) := rfl

/-- A pulse ends with the raised bits as `keep` leaves them: the value before
the pulse decides only about the other bits. -/
@[simp]
theorem pulse_content (raise keep : Word) :
    (pulse streamBase offset raise keep board).2.content =
      Function.update board.content ⟨streamBase, offset⟩
        (board.content ⟨streamBase, offset⟩ &&& keep) := by
  simp [pulse]

@[simp]
theorem pulseShown_content (raise keep : Word) :
    (pulseShown streamBase offset raise keep board).2.content =
      Function.update board.content ⟨streamBase, offset⟩
        (board.content ⟨streamBase, offset⟩ &&& keep) := by
  simp [pulseShown]

@[simp]
theorem pulseShown_base (raise keep : Word) :
    (pulseShown streamBase offset raise keep board).2.base = board.base := rfl

@[simp]
theorem writeWide_content (data : LongWord) :
    (writeWide streamBase low high data board).2.content =
      Function.update
        (Function.update board.content ⟨streamBase, low⟩ (data.setWidth 32))
        ⟨streamBase, high⟩ ((data >>> 32).setWidth 32) := by
  simp only [writeWide, bind_apply, writeReg_content, lowHalf_eq, highHalf_eq]

@[simp]
theorem writeWideShown_content (data : LongWord) :
    (writeWideShown streamBase low high data board).2.content =
      Function.update
        (Function.update board.content ⟨streamBase, low⟩ (data.setWidth 32))
        ⟨streamBase, high⟩ ((data >>> 32).setWidth 32) := by
  simp [writeWideShown]

@[simp]
theorem writeLowShown_content (data : LongWord) :
    (writeLowShown streamBase offset data board).2.content =
      Function.update board.content ⟨streamBase, offset⟩
        (data.setWidth 32) := by
  rw [writeLowShown, writeShown_content, lowHalf_eq]

@[simp]
theorem readWide_content :
    (readWide streamBase low high board).2.content = board.content := rfl

@[simp]
theorem readLowOfTwo_content :
    (readLowOfTwo streamBase low high board).2.content = board.content := rfl

end Contents

/-! From an empty log a pattern issues its writes if the device is mapped. -/

section Issued

variable {streamBase : Device} {offset low high : ℕ} {board : MixerBoard}

theorem writeShown_issued (hlog : board.accesses = []) (data : Word) :
    (writeShown streamBase offset data board).2.issued =
      if board.base streamBase = .mapped then [(⟨streamBase, offset⟩, data)]
      else [] := by
  have hdev : ∀ access ∈ (writeShown streamBase offset data board).2.accesses,
      access.dev = streamBase := by
    simp [writeShown, writeShowing, writeReg, readReg, hlog, Access.dev]
  rw [issued_eq_of_dev hdev]
  simp [writeShown, writeShowing, writeReg, readReg, hlog, Access.written?,
    List.filterMap_cons]

theorem writeWideShown_issued (hlog : board.accesses = []) (data : LongWord) :
    (writeWideShown streamBase low high data board).2.issued =
      if board.base streamBase = .mapped then
        [(⟨streamBase, low⟩, data.setWidth 32),
          (⟨streamBase, high⟩, (data >>> 32).setWidth 32)]
      else [] := by
  have hdev : ∀ access ∈
      (writeWideShown streamBase low high data board).2.accesses,
      access.dev = streamBase := by
    simp [writeWideShown, writeWide, writeReg, readReg, hlog, Access.dev]
  rw [issued_eq_of_dev hdev]
  simp only [writeWideShown, writeWide, bind_apply, lowHalf_eq, highHalf_eq]
  simp [writeReg, readReg, hlog, Access.written?, List.filterMap_cons]

theorem writeWide_issued (hlog : board.accesses = []) (data : LongWord) :
    (writeWide streamBase low high data board).2.issued =
      if board.base streamBase = .mapped then
        [(⟨streamBase, low⟩, data.setWidth 32),
          (⟨streamBase, high⟩, (data >>> 32).setWidth 32)]
      else [] := by
  have hdev : ∀ access ∈ (writeWide streamBase low high data board).2.accesses,
      access.dev = streamBase := by
    simp [writeWide, writeReg, hlog, Access.dev]
  rw [issued_eq_of_dev hdev]
  simp only [writeWide, bind_apply, lowHalf_eq, highHalf_eq]
  simp [writeReg, hlog, Access.written?]

end Issued

section Footprints

variable {streamBase : Device} {offset shown low high : ℕ}
variable {footprint : Set Register}

@[simp]
theorem within_writeShowing {data : Word}
    (hmem : (⟨streamBase, offset⟩ : Register) ∈ footprint) :
    Within footprint (writeShowing streamBase offset shown data) :=
  .bind (.writeReg hmem) fun _ => .bind (.readReg _ _) fun _ => .pure _

@[simp]
theorem within_writeShown {data : Word}
    (hmem : (⟨streamBase, offset⟩ : Register) ∈ footprint) :
    Within footprint (writeShown streamBase offset data) :=
  within_writeShowing hmem

@[simp]
theorem within_writeReturned {data : Word}
    (hmem : (⟨streamBase, offset⟩ : Register) ∈ footprint) :
    Within footprint (writeReturned streamBase offset data) :=
  .bind (.writeReg hmem) fun _ => .readReg _ _

@[simp]
theorem within_modifyReg {change : Word → Word}
    (hmem : (⟨streamBase, offset⟩ : Register) ∈ footprint) :
    Within footprint (modifyReg streamBase offset change) :=
  .bind (.readReg _ _) fun _ => .writeReg hmem

@[simp]
theorem within_modifyShown {change : Word → Word}
    (hmem : (⟨streamBase, offset⟩ : Register) ∈ footprint) :
    Within footprint (modifyShown streamBase offset change) :=
  .bind (within_modifyReg hmem) fun _ => .bind (.readReg _ _) fun _ => .pure _

@[simp]
theorem within_pulse {raise keep : Word}
    (hmem : (⟨streamBase, offset⟩ : Register) ∈ footprint) :
    Within footprint (pulse streamBase offset raise keep) :=
  .bind (.readReg _ _) fun _ => .bind (.writeReg hmem) fun _ =>
    .writeReg hmem

@[simp]
theorem within_pulseShown {raise keep : Word}
    (hmem : (⟨streamBase, offset⟩ : Register) ∈ footprint) :
    Within footprint (pulseShown streamBase offset raise keep) :=
  .bind (within_pulse hmem) fun _ => .bind (.readReg _ _) fun _ => .pure _

@[simp]
theorem within_writeWide {data : LongWord}
    (hlow : (⟨streamBase, low⟩ : Register) ∈ footprint)
    (hhigh : (⟨streamBase, high⟩ : Register) ∈ footprint) :
    Within footprint (writeWide streamBase low high data) :=
  .bind (.writeReg hlow) fun _ => .writeReg hhigh

@[simp]
theorem within_writeWideShown {data : LongWord}
    (hlow : (⟨streamBase, low⟩ : Register) ∈ footprint)
    (hhigh : (⟨streamBase, high⟩ : Register) ∈ footprint) :
    Within footprint (writeWideShown streamBase low high data) :=
  .bind (within_writeWide hlow hhigh) fun _ => .bind (.readReg _ _) fun _ =>
    .bind (.readReg _ _) fun _ => .pure _

@[simp]
theorem within_writeLowShown {data : LongWord}
    (hmem : (⟨streamBase, offset⟩ : Register) ∈ footprint) :
    Within footprint (writeLowShown streamBase offset data) :=
  within_writeShown hmem

@[simp]
theorem within_readWide : Within footprint (readWide streamBase low high) :=
  .bind (.readReg _ _) fun _ => .bind (.readReg _ _) fun _ => .pure _

@[simp]
theorem within_readLowOfTwo :
    Within footprint (readLowOfTwo streamBase low high) :=
  .bind (.readReg _ _) fun _ => .bind (.readReg _ _) fun _ => .pure _

@[simp]
theorem within_readEach (offsets : List ℕ) :
    Within footprint (readEach streamBase offsets) := by
  induction offsets with
  | nil => exact .pure _
  | cons offset offsets ih => exact .bind (.readReg _ _) fun _ => ih

end Footprints

/-! A pattern accesses no device but its own. -/

section Confined

variable {streamBase dev : Device} {offset shown low high : ℕ}

theorem avoids_writeShowing {data : Word} (hdev : streamBase ≠ dev) :
    Avoids dev (writeShowing streamBase offset shown data) :=
  .bind (.writeReg hdev) fun _ => .bind (.readReg hdev) fun _ => .pure _

theorem avoids_writeShown {data : Word} (hdev : streamBase ≠ dev) :
    Avoids dev (writeShown streamBase offset data) :=
  avoids_writeShowing hdev

theorem avoids_modifyReg {change : Word → Word} (hdev : streamBase ≠ dev) :
    Avoids dev (modifyReg streamBase offset change) :=
  .bind (.readReg hdev) fun _ => .writeReg hdev

theorem avoids_modifyShown {change : Word → Word} (hdev : streamBase ≠ dev) :
    Avoids dev (modifyShown streamBase offset change) :=
  .bind (avoids_modifyReg hdev) fun _ => .bind (.readReg hdev) fun _ => .pure _

theorem avoids_pulse {raise keep : Word} (hdev : streamBase ≠ dev) :
    Avoids dev (pulse streamBase offset raise keep) :=
  .bind (.readReg hdev) fun _ => .bind (.writeReg hdev) fun _ =>
    .writeReg hdev

theorem avoids_pulseShown {raise keep : Word} (hdev : streamBase ≠ dev) :
    Avoids dev (pulseShown streamBase offset raise keep) :=
  .bind (avoids_pulse hdev) fun _ => .bind (.readReg hdev) fun _ => .pure _

theorem avoids_writeWide {data : LongWord} (hdev : streamBase ≠ dev) :
    Avoids dev (writeWide streamBase low high data) :=
  .bind (.writeReg hdev) fun _ => .writeReg hdev

theorem avoids_readEach (offsets : List ℕ) (hdev : streamBase ≠ dev) :
    Avoids dev (readEach streamBase offsets) := by
  induction offsets with
  | nil => exact .pure _
  | cons offset offsets ih => exact .bind (.readReg hdev) fun _ => ih

end Confined

end Songpark.RegIo
