import Songpark.Ui.Frame

/-!
# What a number command writes

The number commands share the local variable `tmp`, which is 64 bits wide while
the conversion fills 32 of them.  This module compares two runs: from two states
with the same registers, does a command with the same number write the same?
The main result is the exact condition on what the variable held before.
-/

namespace Songpark.UiControl

open Songpark.RegisterFile Songpark.RegIo Songpark.Scan Songpark.StateProgram
open Songpark.EthParam Songpark.StreamControl

/-- The writes a command issues until it returns or kills the process. -/
def issued (command : Command) (typed : Typed) (ui : UiState) :
    List (Register × Word) :=
  match execute command typed (clearLog ui) with
  | .ok ((), reached) => reached.board.issued
  | .error _ => []

/-- The devices and registers of two states are the same. -/
structure SameRegisters (left right : UiState) : Prop where
  base : left.board.base = right.board.base
  content : left.board.content = right.board.content

theorem SameRegisters.clearLog {left right : UiState}
    (hsame : SameRegisters left right) :
    (UiControl.clearLog left).board = (UiControl.clearLog right).board := by
  simp only [UiControl.clearLog, hsame.base, hsame.content]

/-! ## Commands that use the typed number alone -/

/-- From every state the command drives the board by one and the same
program. -/
def Uniform (command : Command) (typed : Typed) : Prop :=
  ∃ program : DeviceM Unit, ∀ ui, ∃ reached,
    execute command typed ui = .ok ((), reached) ∧
      reached.board = (program ui.board).2

section Uniform

variable {command : Command} {typed : Typed} {number : Word}

theorem Uniform.issued_eq (huniform : Uniform command typed)
    {left right : UiState} (hsame : SameRegisters left right) :
    issued command typed left = issued command typed right := by
  obtain ⟨program, hprogram⟩ := huniform
  obtain ⟨first, hfirst, hleft⟩ := hprogram (clearLog left)
  obtain ⟨second, hsecond, hright⟩ := hprogram (clearLog right)
  simp only [issued, hfirst, hsecond]
  rw [hleft, hright, hsame.clearLog]

theorem uniform_withTmp (hargument : command.argument = .tmp)
    {program : LongWord → DeviceM Unit}
    (hperform : perform command = withTmp program)
    (hnumber : typed.number = some number) {narrow : DeviceM Unit}
    (hnarrow : ∀ tmp : LongWord, tmp.setWidth 32 = number →
      program tmp = narrow) : Uniform command typed := by
  refine ⟨narrow, fun ui => ⟨_, execute_withTmp hargument hperform, ?_⟩⟩
  rw [hnarrow _ (intoTmp_low hnumber)]

theorem uniform_withTmpWord (hargument : command.argument = .tmp)
    {program : Word → DeviceM Unit}
    (hperform : perform command = withTmpWord program)
    (hnumber : typed.number = some number) : Uniform command typed :=
  uniform_withTmp hargument hperform hnumber fun _ hlow =>
    congrArg program hlow

/-- The result of the call goes to `tmp`, not to a register. -/
theorem uniform_exchange (hargument : command.argument = .tmp)
    {program : Word → DeviceM Word}
    (hperform : perform command = exchange program)
    (hnumber : typed.number = some number) : Uniform command typed := by
  refine ⟨do let _ ← program number, fun ui =>
    ⟨_, execute_exchange hargument hperform, ?_⟩⟩
  rw [intoTmp_low hnumber]
  rfl

theorem uniform_strplen (hnumber : typed.number = some number) :
    Uniform .strplen typed := by
  refine ⟨setStreamPlen .audioToEth number, fun ui => ?_⟩
  obtain ⟨printed, hrun⟩ := execute_strplen
  refine ⟨_, hrun, ?_⟩
  rw [intoTmp_low hnumber]

theorem uniform_setplcpktsize (hnumber : typed.number = some number) :
    Uniform .setplcpktsize typed := by
  refine ⟨writeShown .ethPacketSequencer 28 (number - 2), fun ui => ?_⟩
  obtain ⟨printed, hrun⟩ := execute_setplcpktsize
  refine ⟨_, hrun, ?_⟩
  rw [setStreamRxPktSize, writeLowShown, lowHalf_eq, lowHalf_sub,
    intoTmp_low hnumber]
  rfl

theorem uniform_strport (hnumber : typed.number = some number) :
    Uniform .strport typed := by
  refine ⟨do let _ ← showPort number, fun ui => ⟨_, execute_strport, ?_⟩⟩
  rw [hnumber, Option.getD_some]
  rfl

theorem uniform_strsport (hnumber : typed.number = some number) :
    Uniform .strsport typed := by
  refine ⟨writeEthParam .fullUdpStackIp .syncPort number, fun ui =>
    ⟨_, execute_strsport, ?_⟩⟩
  rw [hnumber, Option.getD_some]

/-- A volume command reaches no register. -/
theorem uniform_gain (hgain : command.argument = .gain) :
    Uniform command typed := by
  refine ⟨pure (), fun ui => ?_⟩
  rw [execute_gain hgain]
  cases command <;> first | exact absurd hgain (by decide) | exact ⟨_, rfl, rfl⟩

end Uniform

/-! ## Commands that use more of the variable -/

/-- The half of `tmp` that no conversion reaches. -/
def upperHalf (tmp : LongWord) : Word := (tmp >>> 32).setWidth 32

section Stale

variable {command : Command} {typed : Typed} {number : Word}
variable {ui left right : UiState} {tmp : LongWord}

theorem issued_withTmp (program : LongWord → DeviceM Unit)
    (hargument : command.argument = .tmp)
    (hperform : perform command = withTmp program) :
    issued command typed ui =
      (program (typed.intoTmp ui.tmp) (clearLog ui).board).2.issued := by
  rw [issued, execute_withTmp hargument hperform]
  rfl

/-- Of a value written over two registers the typed number is the lower
half. -/
theorem wide_issued_iff (hargument : command.argument = .tmp)
    {program : LongWord → DeviceM Unit}
    (hperform : perform command = withTmp program)
    (hnumber : typed.number = some number) (hsame : SameRegisters left right)
    {dev : Device} {low high : ℕ}
    (hissued : ∀ (board : MixerBoard) (data : LongWord), board.accesses = [] →
      (program data board).2.issued =
        if board.base dev = .mapped then
          [(⟨dev, low⟩, data.setWidth 32),
            (⟨dev, high⟩, (data >>> 32).setWidth 32)]
        else []) :
    issued command typed left = issued command typed right ↔
      (left.board.base dev = .mapped →
        upperHalf left.tmp = upperHalf right.tmp) := by
  rw [issued_withTmp program hargument hperform,
    issued_withTmp program hargument hperform,
    hissued _ _ rfl, hissued _ _ rfl, intoTmp_low hnumber,
    intoTmp_low hnumber, intoTmp_high, intoTmp_high, clearLog_base,
    clearLog_base, ← hsame.base]
  by_cases hmapped : left.board.base dev = .mapped
  · simp [hmapped, upperHalf]
  · simp [hmapped]

/-- What the typed number carries over into the upper half of a packet
delay. -/
def carried (number : Word) : Word :=
  ((number.setWidth 64 * 0x40#64) >>> 32).setWidth 32

theorem wait_high (hlow : tmp.setWidth 32 = number) :
    ((tmp * 0x40#64) >>> 32).setWidth 32 =
      upperHalf tmp * 0x40#32 + carried number := by
  have hlong : (0x40#64).toNat = 64 := rfl
  have hword : (0x40#32).toNat = 64 := rfl
  have hbound := tmp.isLt
  apply BitVec.eq_of_toNat_eq
  rw [← hlow]
  simp only [upperHalf, carried, BitVec.toNat_setWidth,
    BitVec.toNat_ushiftRight, BitVec.toNat_mul, BitVec.toNat_add,
    Nat.shiftRight_eq_div_pow, hlong, hword]
  omega

theorem setppdly_issued_iff (hnumber : typed.number = some number)
    (hsame : SameRegisters left right) :
    issued .setppdly typed left = issued .setppdly typed right ↔
      (left.board.base .ethPacketSequencer = .mapped →
        upperHalf left.tmp * 0x40#32 = upperHalf right.tmp * 0x40#32) := by
  have hissued : ∀ ui : UiState, issued .setppdly typed ui =
      if ui.board.base .ethPacketSequencer = .mapped then
        [(⟨.ethPacketSequencer, 8⟩, number * 0x40#32),
          (⟨.ethPacketSequencer, 12⟩,
            upperHalf ui.tmp * 0x40#32 + carried number)]
      else [] := by
    intro ui
    have hlow : (typed.intoTmp ui.tmp).setWidth 32 = number :=
      intoTmp_low hnumber
    have hwide : issued .setppdly typed ui =
        (writeWideShown .ethPacketSequencer 8 12
          (typed.intoTmp ui.tmp * 0x40#64) (clearLog ui).board).2.issued :=
      issued_withTmp
        (fun tmp => setStreamPktWait .ethPacketSequencer (tmp * 0x40)) rfl rfl
    rw [hwide, writeWideShown_issued rfl, wait_high hlow,
      BitVec.setWidth_mul _ _ (by decide), hlow, upperHalf, intoTmp_high]
    rfl
  rw [hissued, hissued, ← hsame.base]
  by_cases hmapped : left.board.base .ethPacketSequencer = .mapped
  · simp [hmapped]
  · simp [hmapped]

/-! The speed command compares all 64 bits. -/

/-- The value that the speed command writes, if it writes. -/
def speedWrite (tmp : LongWord) (control : Word) : Option Word :=
  if tmp = 0 then some (control &&& 0xFFFFFFF9)
  else if tmp = 1 then some (control &&& 0xFFFFFFFB)
  else if tmp = 2 then some (control &&& 0xFFFFFFFD)
  else none

def writeControl : Option Word → DeviceM Unit
  | some value => writeEthParam .fullUdpStackIp .ethControl value
  | none => pure ()

theorem setSpeed_eq : setSpeed tmp =
    readEthParam .fullUdpStackIp EthRegId.ethControl.code >>= fun buf =>
      writeControl (speedWrite tmp buf) := by
  unfold setSpeed speedWrite
  congr 1
  funext buf
  split_ifs <;> rfl

theorem writeControl_issued (value : Option Word) {board : MixerBoard}
    (hlog : ∀ access ∈ board.accesses, access.dev = .fullUdpStackIp)
    (hreads : board.accesses.reverse.filterMap Access.written? = []) :
    (writeControl value board).2.issued =
      if board.base .fullUdpStackIp = .mapped then
        value.toList.map fun value => (⟨.fullUdpStackIp, 60⟩, value)
      else [] := by
  cases value with
  | none =>
      rw [writeControl, RegisterFile.pure_apply, issued_eq_of_dev hlog, hreads]
      rfl
  | some value =>
      have hdev : ∀ access ∈ (writeControl (some value) board).2.accesses,
          access.dev = .fullUdpStackIp := by
        intro access hmem
        rcases List.mem_cons.mp hmem with rfl | hmem
        · rfl
        · exact hlog _ hmem
      have haccesses : (writeControl (some value) board).2.accesses =
          .write ⟨.fullUdpStackIp, 60⟩ value :: board.accesses := rfl
      rw [issued_eq_of_dev hdev, haccesses, List.reverse_cons,
        List.filterMap_append, hreads]
      rfl

theorem setSpeed_issued (board : MixerBoard) (hlog : board.accesses = []) :
    (setSpeed tmp board).2.issued =
      if board.base .fullUdpStackIp = .mapped then
        (speedWrite tmp (board.content ⟨.fullUdpStackIp, 60⟩)).toList.map
          fun value => (⟨.fullUdpStackIp, 60⟩, value)
      else [] := by
  rw [setSpeed_eq, RegisterFile.bind_apply]
  by_cases hnull : board.base .fullUdpStackIp = .null
  · rw [readEthParam_null hnull, writeControl_issued _ (by simp [hlog])
      (by simp [hlog]), hnull]
    simp
  · rw [readEthParam_code hnull, writeControl_issued]
    · rfl
    · simp [readReg, regOffset, hlog, Access.dev]
    · simp [readReg, regOffset, hlog, Access.written?]

/-- The variable holds a small number when its upper half is empty. -/
theorem eq_setWidth_iff (small : Word) :
    tmp = small.setWidth 64 ↔ upperHalf tmp = 0#32 ∧ tmp.setWidth 32 = small := by
  have hbound := tmp.isLt
  have hsmall := small.isLt
  rw [← BitVec.toNat_inj, ← BitVec.toNat_inj, ← BitVec.toNat_inj]
  simp only [upperHalf, BitVec.toNat_setWidth, BitVec.toNat_ushiftRight,
    Nat.shiftRight_eq_div_pow, BitVec.toNat_ofNat]
  omega

theorem speedWrite_stale (hstale : upperHalf tmp ≠ 0#32) (control : Word) :
    speedWrite tmp control = none := by
  unfold speedWrite
  split_ifs with hzero hone htwo
  · exact absurd (hzero ▸ rfl) hstale
  · exact absurd (hone ▸ rfl) hstale
  · exact absurd (htwo ▸ rfl) hstale
  · rfl

theorem speedWrite_eq_none_iff (control : Word) :
    speedWrite (number.setWidth 64) control = none ↔ ¬ number ≤ 2#32 := by
  have hsmall := number.isLt
  have htwo : number ≤ 2#32 ↔ number.setWidth 64 = 0#64 ∨
      number.setWidth 64 = 1#64 ∨ number.setWidth 64 = 2#64 := by
    simp only [BitVec.le_def, ← BitVec.toNat_inj, BitVec.toNat_setWidth,
      BitVec.toNat_ofNat]
    omega
  rw [htwo]
  unfold speedWrite
  split_ifs with hzero hone htwo <;> simp_all

theorem strnsp_issued (hnumber : typed.number = some number) :
    issued .strnsp typed ui =
      if ui.board.base .fullUdpStackIp = .mapped ∧ upperHalf ui.tmp = 0#32 then
        (speedWrite (number.setWidth 64)
          (ui.board.content ⟨.fullUdpStackIp, 60⟩)).toList.map
            fun value => (⟨.fullUdpStackIp, 60⟩, value)
      else [] := by
  have hhigh : upperHalf (typed.intoTmp ui.tmp) = upperHalf ui.tmp :=
    intoTmp_high
  rw [issued_withTmp setSpeed rfl rfl, setSpeed_issued _ rfl, clearLog_base,
    clearLog_content]
  by_cases hzero : upperHalf ui.tmp = 0#32
  · have htmp : typed.intoTmp ui.tmp = number.setWidth 64 :=
      (eq_setWidth_iff number).mpr ⟨hhigh.trans hzero, intoTmp_low hnumber⟩
    simp only [htmp, hzero, and_true]
  · rw [speedWrite_stale (hhigh ▸ hzero)]
    simp [hzero]

theorem strnsp_issued_iff (hnumber : typed.number = some number)
    (hsame : SameRegisters left right) :
    issued .strnsp typed left = issued .strnsp typed right ↔
      (left.board.base .fullUdpStackIp = .mapped → number ≤ 2#32 →
        (upperHalf left.tmp = 0#32 ↔ upperHalf right.tmp = 0#32)) := by
  have hnone : speedWrite (number.setWidth 64)
      (left.board.content ⟨.fullUdpStackIp, 60⟩) = none ↔ ¬ number ≤ 2#32 :=
    speedWrite_eq_none_iff _
  rw [strnsp_issued hnumber, strnsp_issued hnumber, ← hsame.base,
    ← hsame.content]
  by_cases hmapped : left.board.base .fullUdpStackIp = .mapped
  · by_cases hleft : upperHalf left.tmp = 0#32 <;>
      by_cases hright : upperHalf right.tmp = 0#32 <;>
      simp [hmapped, hleft, hright, hnone]
  · simp [hmapped]

/-- Before this command nothing is converted: it writes what the variable
held. -/
theorem setcrwin_issued_iff (hsame : SameRegisters left right) :
    issued .setcrwin typed left = issued .setcrwin typed right ↔
      (left.board.base .ethToAudio = .mapped →
        left.tmp.setWidth 32 = right.tmp.setWidth 32) := by
  have hissued : ∀ ui : UiState, issued .setcrwin typed ui =
      if ui.board.base .ethToAudio = .mapped then
        [(⟨.ethToAudio, 92⟩, ui.tmp.setWidth 32)]
      else [] := by
    intro ui
    rw [issued, execute_nothing rfl]
    exact writeShown_issued rfl _
  rw [hissued, hissued, ← hsame.base]
  by_cases hmapped : left.board.base .ethToAudio = .mapped
  · simp [hmapped]
  · simp [hmapped]

end Stale

/-! ## The exact condition -/

/-- The command sets something to a number: `setcrwin` is meant to read one. -/
def Command.setsNumber (command : Command) : Prop :=
  command.numeric ∨ command = .setcrwin

/-- What the variable held before agrees where the command uses it. -/
def StaleAgrees (command : Command) (number : Word) (left right : UiState) :
    Prop :=
  match command with
  | .setcrwin => left.board.base .ethToAudio = .mapped →
      left.tmp.setWidth 32 = right.tmp.setWidth 32
  | .setptl1 | .setptpidl | .setptl2 | .setptdiffl =>
      left.board.base .packetTimeEnforcer = .mapped →
        upperHalf left.tmp = upperHalf right.tmp
  | .setppdly => left.board.base .ethPacketSequencer = .mapped →
      upperHalf left.tmp * 0x40#32 = upperHalf right.tmp * 0x40#32
  | .strnsp => left.board.base .fullUdpStackIp = .mapped → number ≤ 2#32 →
      (upperHalf left.tmp = 0#32 ↔ upperHalf right.tmp = 0#32)
  | _ => True

section Agreement

variable {command : Command} {typed : Typed} {number : Word}
variable {left right : UiState}

/-- The other number commands use the typed number alone. -/
theorem uniform_of_numeric (hnumeric : command.numeric)
    (hnumber : typed.number = some number)
    (hwide : command ∉ [Command.setptl1, .setptpidl, .setptl2, .setptdiffl,
      .setppdly, .strnsp]) : Uniform command typed := by
  cases command
  case vgg | vll | vlr | vnl | vnr => exact uniform_gain rfl
  case strport => exact uniform_strport hnumber
  case strsport => exact uniform_strsport hnumber
  case strplen => exact uniform_strplen hnumber
  case setplcpktsize => exact uniform_setplcpktsize hnumber
  case setnetdly | setpktdly => exact uniform_exchange rfl rfl hnumber
  case setsqsdly =>
    exact ⟨pure (), fun ui => ⟨_, execute_tmp rfl, rfl⟩⟩
  case setpblim =>
    have hnarrow : ∀ tmp : LongWord, tmp.setWidth 32 = number →
        (do
          setStreamRxBufLim .ethPacketSequencer tmp
          setStreamRxBufLim2 .ethToAudio tmp) =
        (do
          writeShown .ethPacketSequencer 24 number
          writeShown .ethToAudio 24 number) := by
      intro tmp hlow
      rw [setStreamRxBufLim, setStreamRxBufLim2, writeLowShown, writeLowShown,
        lowHalf_eq, hlow]
      rfl
    exact uniform_withTmp rfl rfl hnumber hnarrow
  case setpoutdly =>
    have hnarrow : ∀ tmp : LongWord, tmp.setWidth 32 = number →
        setPlayoutDelay .ethToAudio ((tmp * 96).setWidth 32) =
          setPlayoutDelay .ethToAudio (number * 96) := by
      intro tmp hlow
      rw [BitVec.setWidth_mul _ _ (by decide), hlow]
      rfl
    exact uniform_withTmp rfl rfl hnumber hnarrow
  case strblen =>
    have hperform : perform .strblen = withTmpWord (fun tmp => do
        setStreamBlen .ethToAudio tmp
        resetDacFifos .ethToAudio) := rfl
    exact uniform_withTmpWord rfl hperform hnumber
  case sethdrlen | setsyncdly | strporder | setdlim | setbslk | setbdlm |
      setprdly | setsqlkdly | setlooplimit =>
    exact uniform_withTmpWord rfl rfl hnumber
  all_goals first
    | exact absurd hnumeric (by decide)
    | exact absurd (by decide) hwide

/-- A number command writes the same in two runs exactly when the old value of
the variable agrees where the command uses it. -/
theorem writes_agree_iff (hsets : command.setsNumber)
    (hnumber : typed.number = some number) (hsame : SameRegisters left right) :
    issued command typed left = issued command typed right ↔
      StaleAgrees command number left right := by
  rcases hsets with hnumeric | rfl
  · by_cases hwide : command ∈ [Command.setptl1, .setptpidl, .setptl2,
      .setptdiffl, .setppdly, .strnsp]
    · simp only [List.mem_cons, List.not_mem_nil, or_false] at hwide
      rcases hwide with rfl | rfl | rfl | rfl | rfl | rfl
      · exact wide_issued_iff rfl rfl hnumber hsame
          fun _ _ hlog => writeWide_issued hlog _
      · exact wide_issued_iff rfl rfl hnumber hsame
          fun _ _ hlog => writeWide_issued hlog _
      · exact wide_issued_iff rfl rfl hnumber hsame
          fun _ _ hlog => writeWide_issued hlog _
      · exact wide_issued_iff rfl rfl hnumber hsame
          fun _ _ hlog => writeWideShown_issued hlog _
      · exact setppdly_issued_iff hnumber hsame
      · exact strnsp_issued_iff hnumber hsame
    · have hagrees : StaleAgrees command number left right := by
        cases command <;> trivial
      simp only [hagrees, iff_true]
      exact (uniform_of_numeric hnumeric hnumber hwide).issued_eq hsame
  · exact setcrwin_issued_iff hsame

/-- A playout delay does not depend on what was typed before. -/
theorem playout_delay_agrees :
    issued .setpoutdly ⟨some 7, none⟩ (start blankBoard 5) =
      issued .setpoutdly ⟨some 7, none⟩ (start blankBoard 0x900000000) :=
  (writes_agree_iff (Or.inl (by decide)) rfl ⟨rfl, rfl⟩).mpr trivial

/-- The correction window is what the command before left in the variable. -/
theorem window_from_stale :
    ¬ ∀ (command : Command) (typed : Typed) (number : Word)
      (first second : List Line) (left right : UiState),
      command.setsNumber → typed.number = some number →
      runLines first (start blankBoard 0) = .ok left →
      runLines second (start blankBoard 0) = .ok right →
      SameRegisters left right →
      issued command typed left = issued command typed right := by
  intro hall
  have hrun : ∀ number : Word, ∃ reached,
      runLines [⟨.setsqsdly, ⟨some number, none⟩⟩] (start blankBoard 0) =
        .ok reached ∧
      reached.board = blankBoard ∧ reached.tmp.setWidth 32 = number :=
    fun number => ⟨_, rfl, rfl, replaceLow_low _ _⟩
  obtain ⟨left, hleft, hboard, hfive⟩ := hrun 5
  obtain ⟨right, hright, hboard', hsix⟩ := hrun 6
  have hsame : SameRegisters left right :=
    ⟨by rw [hboard, hboard'], by rw [hboard, hboard']⟩
  have hissued := hall .setcrwin ⟨some 9, none⟩ 9 _ _ left right (Or.inr rfl)
    rfl hleft hright hsame
  rw [setcrwin_issued_iff hsame, hboard, hfive, hsix] at hissued
  exact absurd (hissued rfl) (by decide)

end Agreement

end Songpark.UiControl
