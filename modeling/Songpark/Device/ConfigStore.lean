import Songpark.Device.EthParam

/-!
# The configuration store of the UDP stack

Over a run of writes the registers of the UDP stack act as a store with one
entry for each parameter: reading a parameter gives the data of its last write.
A destination address or port is an entry with five copies.  The copies take
the registers that the reader answers its status counters from.
-/

namespace Songpark.ConfigStore

open Songpark.LastSet Songpark.RegisterFile Songpark.RegIo Songpark.EthParam

/-- A call of one of the two writers, with any member of `ETH_PARAM_ID`. -/
inductive ConfigCall
  | ethParam (param : EthParamId) (data : Word)
  | ethMac (param : EthParamId) (mac : Mac)

def ConfigCall.perform (ethBase : Device) : ConfigCall → DeviceM Unit
  | .ethParam param data => writeEthParam ethBase param data
  | .ethMac param mac => writeEthMac ethBase param mac

/-- The board after a run of writes. -/
def configured (ethBase : Device) (calls : List ConfigCall)
    (board : MixerBoard) : MixerBoard :=
  drive (ConfigCall.perform ethBase) calls board

def ConfigCall.data? (param : EthParamId) : ConfigCall → Option Word
  | .ethParam other data => if other = param then some data else none
  | .ethMac _ _ => none

/-- The data that a run wrote last to a parameter. -/
def lastData (param : EthParamId) (calls : List ConfigCall) : Option Word :=
  lastSet (ConfigCall.data? param) calls

/-! ## Entries of the store -/

/-- The parameters that can be written and read back. -/
inductive Setting
  | localIp
  | gtwayIp
  | maskIp
  | destIp
  | destPort
  | ethControl
  deriving DecidableEq

def Setting.param : Setting → EthParamId
  | .localIp => .localIp
  | .gtwayIp => .gtwayIp
  | .maskIp => .maskIp
  | .destIp => .destIp
  | .destPort => .destPort
  | .ethControl => .ethControl

/-- The register of the same name. -/
def Setting.reg : Setting → EthRegId
  | .localIp => .localIp
  | .gtwayIp => .gtwayIp
  | .maskIp => .maskIp
  | .destIp => .destIp
  | .destPort => .destPort
  | .ethControl => .ethControl

/-- The registers that hold a copy of a destination address or port. -/
def mirrors : EthParamId → List ℕ
  | .destIp => [5, 7, 9, 11, 13]
  | .destPort => [6, 8, 10, 12, 14]
  | _ => []

/-! ## Status counters -/

inductive Counter
  | loopTimer
  | latencyTimer
  | sampleFifoTimer
  | netErrors
  | lostPackets
  | txPackets
  | rxPackets
  deriving DecidableEq

def Counter.reg : Counter → EthRegId
  | .loopTimer => .loopTimer
  | .latencyTimer => .latencyTimer
  | .sampleFifoTimer => .sampleFifoTimer
  | .netErrors => .netErrors
  | .lostPackets => .lostPackets
  | .txPackets => .txPackets
  | .rxPackets => .rxPackets

/-- The number of the register that a counter is read from. -/
def Counter.index : Counter → ℕ
  | .loopTimer => 7
  | .latencyTimer => 8
  | .sampleFifoTimer => 9
  | .netErrors => 10
  | .lostPackets => 11
  | .txPackets => 12
  | .rxPackets => 13

/-- The parameter that is copied to the register of the counter. -/
def Counter.clobber : Counter → EthParamId
  | .loopTimer | .sampleFifoTimer | .lostPackets | .rxPackets => .destIp
  | .latencyTimer | .netErrors | .txPackets => .destPort

/-- A run of writes leaves what is read as a counter unchanged, and the packet
length reads as it was last written. -/
structure Undisturbed (ethBase : Device) (calls : List ConfigCall)
    (board : MixerBoard) : Prop where
  counters : ∀ counter : Counter,
    (readEthParam ethBase counter.reg.code (configured ethBase calls board)).1 =
      (readEthParam ethBase counter.reg.code board).1
  packetLength : ∀ data, lastData .pktLen calls = some data →
    (readEthParam ethBase EthRegId.packetLength.code
      (configured ethBase calls board)).1 = data

/-! ## Effect of a run -/

section Effect

variable {ethBase : Device} {board : MixerBoard} {calls : List ConfigCall}
variable {param other : EthParamId} {offset : ℕ}

/-- No register belongs to two parameters. -/
theorem mem_paramRegs_iff (hmem : offset ∈ paramRegs param) :
    offset ∈ paramRegs other ↔ other = param := by
  cases param <;> simp [paramRegs] at hmem <;>
    cases other <;> simp [paramRegs] <;> omega

/-- The MAC address is kept outside the registers of the other parameters. -/
theorem ne_mac_of_mem_paramRegs (hmem : offset ∈ paramRegs param) :
    offset ≠ 0 ∧ offset ≠ 4 := by
  cases param <;> simp [paramRegs] at hmem <;> omega

/-- A call leaves its data in the registers of its parameter, and what was
there in every register of another. -/
theorem perform_content (hmem : offset ∈ paramRegs param) (call : ConfigCall) :
    (call.perform ethBase board).2.content ⟨ethBase, offset⟩ =
      (call.data? param).getD (board.content ⟨ethBase, offset⟩) := by
  cases call with
  | ethParam other data =>
      rw [ConfigCall.perform, writeEthParam_content, ConfigCall.data?]
      by_cases hsame : other = param
      · rw [if_pos ⟨rfl, (mem_paramRegs_iff hmem).mpr hsame⟩, if_pos hsame]
        rfl
      · have hout : offset ∉ paramRegs other :=
          mt (mem_paramRegs_iff hmem).mp hsame
        rw [if_neg fun hin => hout hin.2, if_neg hsame]
        rfl
  | ethMac other mac =>
      have hcell := ne_mac_of_mem_paramRegs hmem
      rw [ConfigCall.perform, ConfigCall.data?]
      by_cases hmac : other = .mac
      · rw [hmac, writeEthMac_content]
        simp [hcell]
      · rw [writeEthMac, if_neg hmac]
        rfl

theorem perform_base (call : ConfigCall) (current : MixerBoard) :
    (call.perform ethBase current).2.base = current.base := by
  cases call with
  | ethParam param data =>
      have hwithin : Within Set.univ (writeEthParam ethBase param data) :=
        within_writeEthParam fun _ _ => Set.mem_univ _
      exact hwithin.base_eq current
  | ethMac param mac =>
      by_cases hmac : param = .mac
      · subst hmac
        rfl
      · rw [ConfigCall.perform, writeEthMac, if_neg hmac]
        rfl

theorem configured_base :
    (configured ethBase calls board).base = board.base :=
  drive_base perform_base calls

/-- Every copy of a parameter is the data of its last write. -/
theorem configured_content (hmem : offset ∈ paramRegs param) :
    (configured ethBase calls board).content ⟨ethBase, offset⟩ =
      (lastData param calls).getD (board.content ⟨ethBase, offset⟩) :=
  drive_lastSet (fun current => current.content ⟨ethBase, offset⟩)
    (ConfigCall.data? param)
    (fun call _ => perform_content hmem call) calls

/-- A register with an offset, read after a run. -/
theorem readEthParam_configured (hbase : board.base ethBase ≠ .null)
    {reg : EthRegId} (hreg : regOffset reg = some offset)
    (hmem : offset ∈ paramRegs param) :
    (readEthParam ethBase reg.code (configured ethBase calls board)).1 =
      (lastData param calls).getD
        (readEthParam ethBase reg.code board).1 := by
  have hfinal : (configured ethBase calls board).base ethBase ≠ .null := by
    rwa [configured_base]
  rw [readEthParam_code hfinal, readEthParam_code hbase, hreg]
  exact configured_content hmem

theorem lastData_isSome (hwritten : ∃ data, .ethParam param data ∈ calls) :
    ∃ data, lastData param calls = some data := by
  obtain ⟨data, hcall⟩ := hwritten
  by_contra hnone
  have hlast : lastData param calls = none :=
    Option.eq_none_iff_forall_ne_some.mpr (not_exists.mp hnone)
  have hdata := lastSet_eq_none.mp hlast _ hcall
  simp [ConfigCall.data?] at hdata

theorem mem_paramRegs_of_mem_mirrors {index : ℕ}
    (hmem : index ∈ mirrors param) : ethUdpReg index ∈ paramRegs param := by
  cases param <;> simp [mirrors, paramRegs] at hmem ⊢ <;> omega

theorem regOffset_setting (setting : Setting) :
    ∃ offset ∈ paramRegs setting.param,
      regOffset setting.reg = some offset := by
  cases setting <;> exact ⟨_, List.mem_cons_self, rfl⟩

/-- Each counter is read from a register that its parameter is copied to. -/
theorem regOffset_counter (counter : Counter) :
    ethUdpReg counter.index ∈ paramRegs counter.clobber ∧
      regOffset counter.reg = some (ethUdpReg counter.index) := by
  cases counter <;> exact ⟨by decide, rfl⟩

theorem readEthParam_counter (hbase : board.base ethBase ≠ .null)
    (counter : Counter) :
    (readEthParam ethBase counter.reg.code board).1 =
      board.content ⟨ethBase, ethUdpReg counter.index⟩ := by
  rw [readEthParam_code hbase, (regOffset_counter counter).2]
  rfl

/-- What is read as a counter after a run: the last data copied over it. -/
theorem counter_configured (hbase : board.base ethBase ≠ .null)
    (counter : Counter) :
    (readEthParam ethBase counter.reg.code (configured ethBase calls board)).1 =
      (lastData counter.clobber calls).getD
        (board.content ⟨ethBase, ethUdpReg counter.index⟩) := by
  have hplace := regOffset_counter counter
  rw [readEthParam_configured hbase hplace.2 hplace.1,
    readEthParam_counter hbase]

/-- The packet length is read from a register that ports are copied to. -/
theorem packetLength_configured (hbase : board.base ethBase ≠ .null) :
    (readEthParam ethBase EthRegId.packetLength.code
      (configured ethBase calls board)).1 =
      (lastData .destPort calls).getD
        (board.content ⟨ethBase, ethUdpReg 14⟩) := by
  have hmem : ethUdpReg 14 ∈ paramRegs .destPort := by decide
  rw [readEthParam_configured hbase rfl hmem, readEthParam_code hbase]
  rfl

end Effect

section Runs

variable {ethBase : Device} {board : MixerBoard}

/-- Each setting reads as it was written last, and the copies of a destination
address or port that has been written are equal. -/
theorem configStore_refines (hbase : board.base ethBase ≠ .null)
    (calls : List ConfigCall) :
    (∀ setting : Setting,
      (readEthParam ethBase setting.reg.code
        (configured ethBase calls board)).1 =
        (lastData setting.param calls).getD
          (readEthParam ethBase setting.reg.code board).1) ∧
      ∀ param, (∃ data, .ethParam param data ∈ calls) →
        ∀ index ∈ mirrors param, ∀ other ∈ mirrors param,
          (configured ethBase calls board).content
            ⟨ethBase, ethUdpReg index⟩ =
          (configured ethBase calls board).content
            ⟨ethBase, ethUdpReg other⟩ := by
  constructor
  · intro setting
    obtain ⟨offset, hmem, hreg⟩ := regOffset_setting setting
    exact readEthParam_configured hbase hreg hmem
  · intro param hwritten index hindex other hother
    obtain ⟨data, hlast⟩ := lastData_isSome hwritten
    rw [configured_content (mem_paramRegs_of_mem_mirrors hindex),
      configured_content (mem_paramRegs_of_mem_mirrors hother), hlast]
    rfl

theorem configStore_refines_destIp :
    (readEthParam .fullUdpStackIp EthRegId.destIp.code
      (configured .fullUdpStackIp
        [.ethParam .destIp 7, .ethParam .destPort 9, .ethMac .mac fun _ => 0]
        zeroBoard)).1 = 7 := by
  have hbase : zeroBoard.base .fullUdpStackIp ≠ .null := by decide
  exact (configStore_refines hbase _).1 .destIp

/-- The counters are undisturbed exactly if each holds beforehand what is
copied over it last, and the packet length exactly if the last port, which goes
to the register it is read from, happens to be the last length. -/
theorem undisturbed_iff (hbase : board.base ethBase ≠ .null)
    (calls : List ConfigCall) :
    Undisturbed ethBase calls board ↔
      (∀ counter : Counter, ∀ data,
        lastData counter.clobber calls = some data →
        board.content ⟨ethBase, ethUdpReg counter.index⟩ = data) ∧
      ∀ data, lastData .pktLen calls = some data →
        (lastData .destPort calls).getD
          (board.content ⟨ethBase, ethUdpReg 14⟩) = data := by
  constructor
  · intro hundisturbed
    constructor
    · intro counter data hlast
      have hread := hundisturbed.counters counter
      rw [counter_configured hbase, hlast, readEthParam_counter hbase]
        at hread
      exact hread.symm
    · intro data hlast
      rw [← packetLength_configured hbase]
      exact hundisturbed.packetLength data hlast
  · rintro ⟨hcounters, hlengths⟩
    constructor
    · intro counter
      rw [counter_configured hbase, readEthParam_counter hbase]
      cases hlast : lastData counter.clobber calls with
      | none => rfl
      | some data => exact (hcounters counter data hlast).symm
    · intro data hlast
      rw [packetLength_configured hbase]
      exact hlengths data hlast

theorem undisturbed_ethControl :
    Undisturbed .fullUdpStackIp [.ethParam .ethControl 1] zeroBoard := by
  have hbase : zeroBoard.base .fullUdpStackIp ≠ .null := by decide
  refine (undisturbed_iff hbase _).mpr ⟨?_, nofun⟩
  intro counter data hlast
  cases counter <;> cases hlast

/-- Writing the destination address changes the loop timer. -/
theorem destIp_disturbs :
    ¬Undisturbed .fullUdpStackIp [.ethParam .destIp 0xC0A80101] zeroBoard := by
  intro hundisturbed
  exact absurd (hundisturbed.counters .loopTimer) (by decide)

end Runs

end Songpark.ConfigStore
