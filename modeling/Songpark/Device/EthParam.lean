import Songpark.Device.RegIo
import Songpark.Text.Address

/-!
# Parameters of the UDP stack

Addresses, ports, the MAC address and the control word live in the registers of
the UDP stack.  They are written by `ETH_PARAM_ID` and read back by
`ETH_REG_ID`; the reader takes whatever integer it is called with.
-/

namespace Songpark.EthParam

open Songpark.RegisterFile Songpark.RegIo Songpark.Scan

/-- A destination address or port goes to the registers of all five streams. -/
def writeEthParam (ethBase : Device) (param : EthParamId) (data : Word) :
    DeviceM Unit :=
  match param with
  | .localIp => writeReg ethBase (ethUdpReg 2) data
  | .gtwayIp => writeReg ethBase (ethUdpReg 3) data
  | .maskIp => writeReg ethBase (ethUdpReg 4) data
  | .destIp => do
      writeReg ethBase (ethUdpReg 5) data
      writeReg ethBase (ethUdpReg 7) data
      writeReg ethBase (ethUdpReg 9) data
      writeReg ethBase (ethUdpReg 11) data
      writeReg ethBase (ethUdpReg 13) data
  | .destPort => do
      writeReg ethBase (ethUdpReg 6) data
      writeReg ethBase (ethUdpReg 8) data
      writeReg ethBase (ethUdpReg 10) data
      writeReg ethBase (ethUdpReg 12) data
      writeReg ethBase (ethUdpReg 14) data
  | .pktLen => writeReg ethBase (ethUdpReg 18) data
  | .ethControl => writeReg ethBase (ethUdpReg 15) data
  | .syncIp => writeReg ethBase (ethUdpReg 16) data
  | .syncPort => writeReg ethBase (ethUdpReg 17) data
  | .mac | .netIdMax => pure ()

/-- The reader compares its argument with the members of `ETH_REG_ID`, also
when the caller passes a member of the other enumeration. -/
def readEthParam (ethBase : Device) (param : ℕ) : DeviceM Word := do
  if ← isNull ethBase then
    return -1
  if param = EthRegId.localIp.code then readReg ethBase (ethUdpReg 2)
  else if param = EthRegId.gtwayIp.code then readReg ethBase (ethUdpReg 3)
  else if param = EthRegId.maskIp.code then readReg ethBase (ethUdpReg 4)
  else if param = EthRegId.destIp.code then readReg ethBase (ethUdpReg 5)
  else if param = EthRegId.destPort.code then readReg ethBase (ethUdpReg 6)
  else if param = EthRegId.loopTimer.code then readReg ethBase (ethUdpReg 7)
  else if param = EthRegId.latencyTimer.code then readReg ethBase (ethUdpReg 8)
  else if param = EthRegId.sampleFifoTimer.code then
    readReg ethBase (ethUdpReg 9)
  else if param = EthRegId.netErrors.code then readReg ethBase (ethUdpReg 10)
  else if param = EthRegId.lostPackets.code then readReg ethBase (ethUdpReg 11)
  else if param = EthRegId.txPackets.code then readReg ethBase (ethUdpReg 12)
  else if param = EthRegId.rxPackets.code then readReg ethBase (ethUdpReg 13)
  else if param = EthRegId.packetLength.code then readReg ethBase (ethUdpReg 14)
  else if param = EthRegId.ethControl.code then readReg ethBase (ethUdpReg 15)
  else return -1

/-! ## The MAC address -/

abbrev Mac := Fin 6 → Byte

/-- Three bytes of the address as one register value. -/
def macWord (high middle low : Byte) : Word :=
  (high.setWidth 32 <<< 16) ||| (middle.setWidth 32 <<< 8) |||
    low.setWidth 32

def writeEthMac (ethBase : Device) (param : EthParamId) (mac : Mac) :
    DeviceM Unit :=
  if param = .mac then do
    writeReg ethBase (ethUdpReg 0) (macWord (mac 0) (mac 1) (mac 2))
    writeReg ethBase (ethUdpReg 1) (macWord (mac 3) (mac 4) (mac 5))
  else pure ()

/-- The words of the two registers that hold an address. -/
def macWords (mac : Mac) : Word × Word :=
  (macWord (mac 0) (mac 1) (mac 2), macWord (mac 3) (mac 4) (mac 5))

/-- The six bytes held by two register values. -/
def macBytes (d0 d1 : Word) : Mac
  | 0 => ((d0 >>> 16) &&& 0x000000FF).setWidth 8
  | 1 => ((d0 >>> 8) &&& 0x000000FF).setWidth 8
  | 2 => (d0 &&& 0x000000FF).setWidth 8
  | 3 => ((d1 >>> 16) &&& 0x000000FF).setWidth 8
  | 4 => ((d1 >>> 8) &&& 0x000000FF).setWidth 8
  | 5 => (d1 &&& 0x000000FF).setWidth 8

/-- The `%02X.%02X.%02X.%02X.%02X.%02X` form of an address. -/
def macText (mac : Mac) : Text :=
  hexByte (mac 0) ++ '.' :: (hexByte (mac 1) ++ '.' :: (hexByte (mac 2) ++
    '.' :: (hexByte (mac 3) ++ '.' :: (hexByte (mac 4) ++
      '.' :: hexByte (mac 5)))))

/-- The same without dots, as it is left in the buffer. -/
def macDigits (mac : Mac) : Text :=
  hexByte (mac 0) ++ hexByte (mac 1) ++ hexByte (mac 2) ++ hexByte (mac 3) ++
    hexByte (mac 4) ++ hexByte (mac 5)

/-- The number a MAC address stands for. -/
def macNumber (mac : Mac) : LongWord :=
  BitVec.ofNat 64 ((mac 0).toNat * 2 ^ 40 + (mac 1).toNat * 2 ^ 32 +
    (mac 2).toNat * 2 ^ 24 + (mac 3).toNat * 2 ^ 16 + (mac 4).toNat * 2 ^ 8 +
    (mac 5).toNat)

/-- The two registers, from which the caller's texts are printed, and the
returned number; its shift is a 32-bit one. -/
def readEthMac (ethBase : Device) : DeviceM (Mac × LongWord) := do
  let d0 ← readReg ethBase (ethUdpReg 0)
  let d1 ← readReg ethBase (ethUdpReg 1)
  return (macBytes d0 d1,
    (((d0 &&& 0x00FFFFFF) <<< 24) ||| (d1 &&& 0x00FFFFFF)).setWidth 64)

/-! ## The control word -/

/-- Read the control word and write a value derived from it. -/
def modifyControl (ethBase : Device) (change : Word → Word) : DeviceM Unit := do
  let buf ← readEthParam ethBase EthRegId.ethControl.code
  writeEthParam ethBase .ethControl (change buf)

/-- The function has no parameter. -/
def timeSyncTxEn : DeviceM Unit :=
  modifyControl .fullUdpStackIp (· ||| 0x01)

/-- The parameter is not used. -/
def timeSyncTxOff (_streamBase : Device) : DeviceM Unit :=
  modifyControl .fullUdpStackIp (· &&& 0xFFFFFFFE)

/-! ## Effects -/

/-- The register offsets a parameter is kept in. -/
def paramRegs : EthParamId → List ℕ
  | .localIp => [8]
  | .gtwayIp => [12]
  | .maskIp => [16]
  | .destIp => [20, 28, 36, 44, 52]
  | .destPort => [24, 32, 40, 48, 56]
  | .pktLen => [72]
  | .ethControl => [60]
  | .syncIp => [64]
  | .syncPort => [68]
  | .mac | .netIdMax => []

section Effects

variable (ethBase : Device) (board : MixerBoard)

/-- Every register of the parameter gets the value, no other changes. -/
@[simp]
theorem writeEthParam_content (param : EthParamId) (data : Word)
    (cell : Register) :
    (writeEthParam ethBase param data board).2.content cell =
      if cell.dev = ethBase ∧ cell.offset ∈ paramRegs param then data
      else board.content cell := by
  obtain ⟨dev, offset⟩ := cell
  cases param <;>
    simp [writeEthParam, paramRegs, Function.update_apply] <;> grind

theorem writeEthParam_other {param : EthParamId} {offset : ℕ} (data : Word)
    (hother : offset ∉ paramRegs param) :
    (writeEthParam ethBase param data board).2.content ⟨ethBase, offset⟩ =
      board.content ⟨ethBase, offset⟩ := by
  rw [writeEthParam_content, if_neg fun hcell => hother hcell.2]

/-- The offset a readable register is at. -/
def regOffset : EthRegId → Option ℕ
  | .localIp => some 8
  | .gtwayIp => some 12
  | .maskIp => some 16
  | .destIp => some 20
  | .destPort => some 24
  | .loopTimer => some 28
  | .latencyTimer => some 32
  | .sampleFifoTimer => some 36
  | .netErrors => some 40
  | .lostPackets => some 44
  | .txPackets => some 48
  | .rxPackets => some 52
  | .packetLength => some 56
  | .ethControl => some 60
  | .mac | .pktLen | .netRegIdMax => none

variable {ethBase board}

theorem readEthParam_null (hnull : board.base ethBase = .null) (param : ℕ) :
    readEthParam ethBase param board = (-1, board) := by
  simp [readEthParam, hnull]

/-- The reader maps every member of its own enumeration to one register, except
three that it answers with the error value. -/
theorem readEthParam_code (hbase : board.base ethBase ≠ .null)
    (reg : EthRegId) :
    readEthParam ethBase reg.code board =
      match regOffset reg with
      | some offset => readReg ethBase offset board
      | none => (-1, board) := by
  cases reg <;> simp [readEthParam, hbase, EthRegId.code, regOffset]

/-- Reading never changes a register, whatever integer it is called with. -/
theorem within_readEthParam {footprint : Set Register} (param : ℕ) :
    Within footprint (readEthParam ethBase param) := by
  unfold readEthParam
  refine .bind (.isNull _) fun null => .ite (.pure _) ?_
  repeat' refine .ite (.readReg _ _) ?_
  exact .pure _

@[simp]
theorem readEthParam_content (param : ℕ) :
    (readEthParam ethBase param board).2.content = board.content := by
  have hwithin : Within ∅ (readEthParam ethBase param) :=
    within_readEthParam param
  funext cell
  exact hwithin.content_eq board cell (Set.notMem_empty cell)

@[simp]
theorem readEthParam_base (param : ℕ) :
    (readEthParam ethBase param board).2.base = board.base := by
  have hwithin : Within ∅ (readEthParam ethBase param) :=
    within_readEthParam param
  exact hwithin.base_eq board

/-- The value read as the control word. -/
theorem readEthParam_ethControl (hbase : board.base ethBase ≠ .null) :
    (readEthParam ethBase EthRegId.ethControl.code board).1 =
      board.content ⟨ethBase, 60⟩ := by
  rw [readEthParam_code hbase]
  rfl

@[simp]
theorem modifyControl_base (change : Word → Word) :
    (modifyControl ethBase change board).2.base = board.base := by
  rw [modifyControl, bind_apply]
  exact readEthParam_base _

theorem modifyControl_content (hbase : board.base ethBase ≠ .null)
    (change : Word → Word) :
    (modifyControl ethBase change board).2.content =
      Function.update board.content ⟨ethBase, 60⟩
        (change (board.content ⟨ethBase, 60⟩)) := by
  funext ⟨dev, offset⟩
  rw [modifyControl, bind_apply, writeEthParam_content,
    readEthParam_ethControl hbase, readEthParam_content]
  simp [paramRegs, Function.update_apply]

@[simp]
theorem writeEthMac_content (mac : Mac) :
    (writeEthMac ethBase .mac mac board).2.content =
      Function.update
        (Function.update board.content ⟨ethBase, 0⟩
          (macWord (mac 0) (mac 1) (mac 2)))
        ⟨ethBase, 4⟩ (macWord (mac 3) (mac 4) (mac 5)) := by
  simp [writeEthMac]

variable {footprint : Set Register}

theorem within_writeEthParam {param : EthParamId} {data : Word}
    (hmem : ∀ offset ∈ paramRegs param,
      (⟨ethBase, offset⟩ : Register) ∈ footprint) :
    Within footprint (writeEthParam ethBase param data) := by
  cases param
  case mac | netIdMax => exact .pure _
  case destIp | destPort =>
    exact .bind (.writeReg (hmem _ (by decide))) fun _ =>
      .bind (.writeReg (hmem _ (by decide))) fun _ =>
      .bind (.writeReg (hmem _ (by decide))) fun _ =>
      .bind (.writeReg (hmem _ (by decide))) fun _ =>
      .writeReg (hmem _ (by decide))
  all_goals exact .writeReg (hmem _ (by decide))

theorem within_modifyControl {change : Word → Word}
    (hmem : (⟨ethBase, 60⟩ : Register) ∈ footprint) :
    Within footprint (modifyControl ethBase change) :=
  .bind (within_readEthParam _) fun _ => within_writeEthParam (by
    intro offset hoffset
    rw [paramRegs, List.mem_singleton] at hoffset
    exact hoffset ▸ hmem)

/-- A parameter that is kept in registers is written through the base. -/
theorem uses_writeEthParam {param : EthParamId} (hregs : paramRegs param ≠ [])
    (data : Word) : Uses ethBase (writeEthParam ethBase param data) := by
  cases param
  case mac | netIdMax => exact absurd rfl hregs
  all_goals exact fun _ => ⟨_, List.mem_cons_self, rfl⟩

/-- The control word is written in any case. -/
theorem uses_modifyControl (change : Word → Word) :
    Uses ethBase (modifyControl ethBase change) :=
  .bind_right fun _ => uses_writeEthParam (by decide) _

theorem within_writeEthMac {mac : Mac}
    (hfirst : (⟨ethBase, 0⟩ : Register) ∈ footprint)
    (hsecond : (⟨ethBase, 4⟩ : Register) ∈ footprint) :
    Within footprint (writeEthMac ethBase .mac mac) :=
  .bind (.writeReg hfirst) fun _ => .writeReg hsecond

theorem within_readEthMac : Within footprint (readEthMac ethBase) :=
  .bind (.readReg _ _) fun _ => .bind (.readReg _ _) fun _ => .pure _

variable {dev : Device}

theorem avoids_writeEthParam {param : EthParamId} {data : Word}
    (hdev : ethBase ≠ dev) :
    Avoids dev (writeEthParam ethBase param data) := by
  cases param
  case mac | netIdMax => exact .pure _
  case destIp | destPort =>
    exact .bind (.writeReg hdev) fun _ => .bind (.writeReg hdev) fun _ =>
      .bind (.writeReg hdev) fun _ => .bind (.writeReg hdev) fun _ =>
      .writeReg hdev
  all_goals exact .writeReg hdev

theorem avoids_readEthParam (param : ℕ) (hdev : ethBase ≠ dev) :
    Avoids dev (readEthParam ethBase param) := by
  unfold readEthParam
  refine .bind (.isNull _) fun null => .ite (.pure _) ?_
  repeat' refine .ite (.readReg hdev) ?_
  exact .pure _

theorem avoids_modifyControl {change : Word → Word} (hdev : ethBase ≠ dev) :
    Avoids dev (modifyControl ethBase change) :=
  .bind (avoids_readEthParam _ hdev) fun _ => avoids_writeEthParam hdev

theorem avoids_writeEthMac {mac : Mac} (hdev : ethBase ≠ dev) :
    Avoids dev (writeEthMac ethBase .mac mac) :=
  .bind (.writeReg hdev) fun _ => .writeReg hdev

theorem avoids_readEthMac (hdev : ethBase ≠ dev) :
    Avoids dev (readEthMac ethBase) :=
  .bind (.readReg hdev) fun _ => .bind (.readReg hdev) fun _ => .pure _

end Effects

/-! ## Bytes of a register pair -/

theorem macBytes_macWord (mac : Mac) :
    macBytes (macWord (mac 0) (mac 1) (mac 2))
      (macWord (mac 3) (mac 4) (mac 5)) = mac := by
  funext position
  match position with
  | 0 | 1 | 2 | 3 | 4 | 5 =>
      ext index hindex
      interval_cases index <;> simp [macBytes, macWord]

/-! ## Typed MAC addresses -/

/-- A printed byte is read back in base 16. -/
theorem strtol_hexByte (byte : Byte) :
    BitVec.ofInt 8 (strtol 16 (hexByte byte)) = byte := by
  have hall : ∀ value < 256,
      BitVec.ofInt 8 (strtol 16 (hexByte (BitVec.ofNat 8 value))) =
        BitVec.ofNat 8 value := by decide +kernel
  have hbyte := hall byte.toNat byte.isLt
  rwa [BitVec.ofNat_toNat, BitVec.setWidth_eq] at hbyte

theorem not_mem_hexByte {c : Char} (hc : c = '.' ∨ c = '\x00') (byte : Byte) :
    c ∉ hexByte byte := by
  have hall : ∀ value < 256, '.' ∉ hexByte (BitVec.ofNat 8 value) ∧
      '\x00' ∉ hexByte (BitVec.ofNat 8 value) := by decide +kernel
  have hbyte := hall byte.toNat byte.isLt
  rw [BitVec.ofNat_toNat, BitVec.setWidth_eq] at hbyte
  rcases hc with rfl | rfl
  · exact hbyte.1
  · exact hbyte.2

/-- Every MAC address can be typed: its report is parsed as itself. -/
theorem extractMacAddress_macText (mac : Mac) :
    Address.extractMacAddress (macText mac) = some mac := by
  have hdot : ∀ index, '.' ∉ hexByte (mac index) := fun index =>
    not_mem_hexByte (Or.inl rfl) _
  have hshort : ∀ index, (hexByte (mac index)).length < 5 := fun index => by
    simp [hexByte]
  have hne : ∀ index, hexByte (mac index) ≠ [] := fun index => by
    simp [hexByte]
  have hlength : (macText mac).length ≤ 255 := by
    simp [macText, hexByte]
  have hnul : '\x00' ∉ macText mac := by
    have hbyte : ∀ index, '\x00' ∉ hexByte (mac index) := fun index =>
      not_mem_hexByte (Or.inr rfl) _
    simp [macText, hbyte]
  rw [Address.extractMacAddress,
    Address.extractAddress_eq_groupScan hlength (by decide) hnul, macText,
    Address.groupScan_dot (hdot 0) (hshort 0) (by decide),
    Address.groupScan_dot (hdot 1) (hshort 1) (by simp),
    Address.groupScan_dot (hdot 2) (hshort 2) (by simp),
    Address.groupScan_dot (hdot 3) (hshort 3) (by simp),
    Address.groupScan_dot (hdot 4) (hshort 4) (by simp),
    Address.groupScan_last (hne 5) (hdot 5) (hshort 5) (by simp)]
  simp only [strtol_hexByte, Option.map_some, Option.some.injEq]
  funext index
  match index with
  | 0 | 1 | 2 | 3 | 4 | 5 => rfl

end Songpark.EthParam
