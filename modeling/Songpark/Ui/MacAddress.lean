import Songpark.Ui.Frame
import Songpark.Ui.Init
import Mathlib.Data.Fin.VecNotation

/-!
# The configured MAC address

The address is kept in registers 0 and 1 of the UDP stack.  The synchronisation
functions clear the lowest bit of register 0 of that stack, through an offset
named for another block, and with it the lowest bit of the third byte of the
address.  The main result says for every address, source and history whether
the address survives.
-/

namespace Songpark.UiControl

open Songpark.RegisterFile Songpark.RegIo Songpark.Scan Songpark.StateProgram
open Songpark.Address Songpark.EthParam Songpark.MixerControl
open Songpark.StreamControl

/-! ## The lowest bit -/

theorem clearLow_eq_iff (word : Word) :
    word &&& 0xFFFFFFFE#32 = word ↔ word.getLsbD 0 = false := by
  constructor
  · intro heq
    rw [← heq, BitVec.getLsbD_and]
    simp
  · intro hlow
    ext index hindex
    interval_cases index
    · simpa [BitVec.getLsbD_eq_getElem] using hlow.symm
    all_goals simp

theorem macWord_low (high middle low : Byte) :
    (macWord high middle low).getLsbD 0 = low.getLsbD 0 := by
  simp [macWord]

/-- Clearing the lowest bit of a register value. -/
def clearLow (word : Word) : Word := word &&& 0xFFFFFFFE#32

theorem clearLow_clearLow (word : Word) :
    clearLow (clearLow word) = clearLow word := by
  rw [clearLow, clearLow, BitVec.and_assoc, BitVec.and_self]

/-! ## Commands that clear it -/

def Command.clearsMac : Command → Bool
  | .setsyncon | .tgsync | .strstop => true
  | _ => false

section Steps

variable {line : Line} {later : List Line} {ui set reached : UiState}

theorem macLow_kept {command : Command} (hother : command ≠ .strmac) :
    (⟨.fullUdpStackIp, 4⟩ : Register) ∉ touched command := by
  cases command <;> first | decide | exact absurd rfl hother

theorem macHigh_kept {command : Command} (hother : command ≠ .strmac)
    (hkeeps : command.clearsMac = false) :
    (⟨.fullUdpStackIp, 0⟩ : Register) ∉ touched command := by
  cases command <;>
    first | decide | exact absurd rfl hother | exact absurd hkeeps (by decide)

/-- What a command other than `strmac` does to the first half. -/
theorem step_macHigh (hother : line.command ≠ .strmac)
    (hstep : step line ui = .ok reached) :
    reached.board.content ⟨.fullUdpStackIp, 0⟩ =
      if line.command.clearsMac then
        clearLow (ui.board.content ⟨.fullUdpStackIp, 0⟩)
      else ui.board.content ⟨.fullUdpStackIp, 0⟩ := by
  obtain ⟨command, typed⟩ := line
  cases hclears : command.clearsMac with
  | false => exact step_cell hstep (macHigh_kept hother hclears)
  | true =>
      cases command
      case setsyncon =>
        rw [step_device rfl rfl hstep]
        simp [initiateSync_content, clearLow]
      case tgsync =>
        rw [step_device rfl rfl hstep]
        simp [setSyncOff_content, clearLow]
      case strstop =>
        rw [step_device rfl rfl hstep]
        simp [stopTransmit, setSyncOff_content, clearLow, paramRegs]
      all_goals exact absurd hclears (by decide)

theorem foldl_clearLow (word : Word) :
    later.foldl (fun seen line =>
        if line.command.clearsMac then clearLow seen else seen) word =
      if later.any fun line => line.command.clearsMac then clearLow word
      else word := by
  induction later generalizing word with
  | nil => rfl
  | cons line later ih =>
      rw [List.foldl_cons, ih, List.any_cons]
      cases line.command.clearsMac with
      | false => simp
      | true => simp [clearLow_clearLow]

/-- The first half after a run without `strmac`. -/
theorem runLines_macHigh (hrun : runLines later set = .ok reached)
    (hlater : ∀ line ∈ later, line.command ≠ .strmac) :
    reached.board.content ⟨.fullUdpStackIp, 0⟩ =
      if later.any fun line => line.command.clearsMac then
        clearLow (set.board.content ⟨.fullUdpStackIp, 0⟩)
      else set.board.content ⟨.fullUdpStackIp, 0⟩ := by
  rw [← foldl_clearLow]
  exact run_simulates (fun ui => ui.board.content ⟨.fullUdpStackIp, 0⟩)
    (fun line seen => if line.command.clearsMac then clearLow seen else seen)
    (fun line hline _ _ hstep => step_macHigh (hlater line hline) hstep) hrun

end Steps

/-! ## The report -/

/-- On a mapped stack `getmac` prints the bytes that the two registers hold. -/
theorem step_getmac {ui : UiState} {typed : Typed}
    (hbase : ui.board.base .fullUdpStackIp = .mapped) :
    ∃ shown, step ⟨.getmac, typed⟩ ui = .ok shown ∧
      shown.printed.head? =
        some ("MAC Address: ".toList ++ macText (macBytes
          (ui.board.content ⟨.fullUdpStackIp, 0⟩)
          (ui.board.content ⟨.fullUdpStackIp, 4⟩)) ++ ['\n']) := by
  have hrun : ∃ shown,
      execute .getmac typed (clearLog ui) = .ok ((), shown) ∧
        shown.board = (readEthMac .fullUdpStackIp (clearLog ui).board).2 ∧
        shown.printed.head? =
          some ("MAC Address: ".toList ++ macText (macBytes
            (ui.board.content ⟨.fullUdpStackIp, 0⟩)
            (ui.board.content ⟨.fullUdpStackIp, 4⟩)) ++ ['\n']) := by
    rw [execute_nothing rfl]
    exact ⟨_, rfl, rfl, rfl⟩
  obtain ⟨shown, hexecute, hboard, hhead⟩ := hrun
  refine ⟨shown, step_eq_ok.mpr ⟨hexecute, ?_⟩, hhead⟩
  intro access hmem
  have hdev : access.dev = .fullUdpStackIp := by
    have haccess : access = .read ⟨.fullUdpStackIp, 4⟩ ∨
        access = .read ⟨.fullUdpStackIp, 0⟩ := by
      simpa [hboard, readEthMac, readReg] using hmem
    rcases haccess with rfl | rfl <;> rfl
  rw [hdev, hboard]
  exact hbase

/-- Both registers hold the halves of the address, and the report is the
address. -/
structure MacIntact (mac : Mac) (ui : UiState) : Prop where
  high : ui.board.content ⟨.fullUdpStackIp, ethUdpReg 0⟩ =
    macWord (mac 0) (mac 1) (mac 2)
  low : ui.board.content ⟨.fullUdpStackIp, ethUdpReg 1⟩ =
    macWord (mac 3) (mac 4) (mac 5)
  reported : ∀ typed, ∃ shown, step ⟨.getmac, typed⟩ ui = .ok shown ∧
    shown.printed.head? =
      some ("MAC Address: ".toList ++ macText mac ++ ['\n'])

/-- The report follows from the registers. -/
theorem macIntact_iff {mac : Mac} {ui : UiState}
    (hbase : ui.board.base .fullUdpStackIp = .mapped)
    (hlow : ui.board.content ⟨.fullUdpStackIp, 4⟩ =
      macWord (mac 3) (mac 4) (mac 5)) :
    MacIntact mac ui ↔
      ui.board.content ⟨.fullUdpStackIp, 0⟩ =
        macWord (mac 0) (mac 1) (mac 2) := by
  constructor
  · intro hintact
    exact hintact.high
  · intro hhigh
    refine ⟨hhigh, hlow, fun typed => ?_⟩
    obtain ⟨shown, hstep, hhead⟩ := step_getmac hbase
    rw [hhigh, hlow, macBytes_macWord] at hhead
    exact ⟨shown, hstep, hhead⟩

/-! ## Configuring the address -/

/-- An address enters the registers by a command or by the initialisation. -/
inductive MacSource
  | strmac (typed : Typed)
  | uiInit (env : Environment) (args : Arguments)

/-- The source returned and had this address to configure. -/
def MacSource.Configures (mac : Mac) (ui set : UiState) : MacSource → Prop
  | strmac typed =>
      extractMacAddress (typed.text.getD ui.ip) = some mac ∧
        step ⟨.strmac, typed⟩ ui = .ok set
  | uiInit env args =>
      (formatText args.localMac).bind extractMacAddress = some mac ∧
        initialise env args ui = .ok (0, set)

/-- The lowest bit of the third byte is never cleared after the source wrote
the address.  The initialisation itself ends by clearing it. -/
def MacSource.LeavesLow (later : List Line) : MacSource → Prop
  | strmac _ => ∀ line ∈ later, line.command.clearsMac = false
  | uiInit _ _ => False

section Configured

variable {mac : Mac} {typed : Typed} {env : Environment} {args : Arguments}
variable {ui set : UiState}

theorem strmac_set
    (hset : (MacSource.strmac typed).Configures mac ui set) :
    set.board.base .fullUdpStackIp = .mapped ∧
      set.board.content ⟨.fullUdpStackIp, 0⟩ =
        macWord (mac 0) (mac 1) (mac 2) ∧
      set.board.content ⟨.fullUdpStackIp, 4⟩ =
        macWord (mac 3) (mac 4) (mac 5) := by
  obtain ⟨hmac, hstep⟩ := hset
  obtain ⟨hrun, hmapped⟩ := step_eq_ok.mp hstep
  obtain ⟨_, hwrite⟩ := (execute_ip_eq_ok rfl).mp hrun
  rw [perform, writeMac, StateProgram.bind_apply, observe_apply] at hwrite
  simp only [clearLog, hmac, device_apply, Except.ok.injEq, Prod.mk.injEq,
    true_and] at hwrite
  subst hwrite
  refine ⟨hmapped (.write ⟨.fullUdpStackIp, 4⟩ _) List.mem_cons_self, ?_, ?_⟩
  · simp
  · simp

/-- All registers but those of the MAC address. -/
def macFree : Set Register :=
  {cell | cell ≠ ⟨.fullUdpStackIp, 0⟩ ∧ cell ≠ ⟨.fullUdpStackIp, 4⟩}

instance : DecidablePred (· ∈ macFree) := fun cell =>
  inferInstanceAs (Decidable (cell ≠ _ ∧ cell ≠ _))

theorem configureAddress_within {param : EthParamId} (text : Text)
    (hmem : ∀ offset ∈ paramRegs param,
      (⟨.fullUdpStackIp, offset⟩ : Register) ∈ macFree) :
    UiWithin macFree (configureAddress param text) := by
  unfold configureAddress
  cases extractIpAddress text with
  | some octets => exact .device (within_writeEthParam hmem)
  | none => exact .halt _

/-- The addresses and ports leave the MAC address alone. -/
theorem configureNetwork_within (copied : NetworkSettings) :
    UiWithin macFree (configureNetwork copied) :=
  .bind (configureAddress_within _ (by decide)) fun _ =>
    .bind (configureAddress_within _ (by decide)) fun _ =>
    .bind (configureAddress_within _ (by decide)) fun _ =>
    .bind (configureAddress_within _ (by decide)) fun _ =>
    .bind (.device (within_writeEthParam (by decide))) fun _ =>
    .device (within_writeEthParam (by decide))

theorem configureStack_content {copied : NetworkSettings}
    {started configured : UiState}
    (hmac : extractMacAddress copied.localMac = some mac)
    (hstack : configureStack copied started = .ok ((), configured)) :
    configured.board.content ⟨.fullUdpStackIp, 0⟩ =
        macWord (mac 0) (mac 1) (mac 2) ∧
      configured.board.content ⟨.fullUdpStackIp, 4⟩ =
        macWord (mac 3) (mac 4) (mac 5) := by
  obtain ⟨_, withMac, hwrite, hnetwork⟩ := bind_eq_ok.mp hstack
  have hwithin := configureNetwork_within copied
  rw [hwithin.content_eq hnetwork (by decide),
    hwithin.content_eq hnetwork (by decide)]
  simp only [configureMac, hmac, device_apply, Except.ok.injEq,
    Prod.mk.injEq, true_and] at hwrite
  subst hwrite
  constructor
  · simp
  · simp

/-- Setting the defaults ends with clearing the lowest bit. -/
theorem setDefaults_content {configured : UiState}
    (hdefaults : setDefaults configured = .ok ((), set)) :
    (∃ access ∈ set.board.accesses, access.dev = .fullUdpStackIp) ∧
      set.board.content ⟨.fullUdpStackIp, 0⟩ =
        clearLow (configured.board.content ⟨.fullUdpStackIp, 0⟩) ∧
      set.board.content ⟨.fullUdpStackIp, 4⟩ =
        configured.board.content ⟨.fullUdpStackIp, 4⟩ := by
  obtain ⟨_, prepared, hprepare, hlast⟩ := bind_eq_ok.mp hdefaults
  have hboard : set.board = (switchSyncOff prepared.board).2 := by
    simp only [device_apply, Except.ok.injEq, Prod.mk.injEq, true_and]
      at hlast
    rw [← hlast]
  have hcontrol : Within {(⟨.fullUdpStackIp, 60⟩ : Register)}
      (modifyControl .fullUdpStackIp (· &&& 0xFFFFFFFE)) :=
    within_modifyControl rfl
  have hkept : prepared.board.content ⟨.fullUdpStackIp, 0⟩ =
      configured.board.content ⟨.fullUdpStackIp, 0⟩ :=
    prepareMixer_within.content_eq hprepare fun hother => hother rfl
  refine ⟨?_, ?_, setDefaults_stack (by decide) (by decide) hdefaults⟩
  · rw [hboard]
    exact uses_modifyControl _ _
  · rw [hboard, ← hkept, switchSyncOff, RegisterFile.bind_apply,
      hcontrol.content_eq _ _ (by simp)]
    simp [setSyncOff_content, clearLow]

theorem uiInit_set
    (hset : (MacSource.uiInit env args).Configures mac ui set) :
    set.board.base .fullUdpStackIp = .mapped ∧
      set.board.content ⟨.fullUdpStackIp, 0⟩ =
        clearLow (macWord (mac 0) (mac 1) (mac 2)) ∧
      set.board.content ⟨.fullUdpStackIp, 4⟩ =
        macWord (mac 3) (mac 4) (mac 5) := by
  obtain ⟨hmac, hinit⟩ := hset
  obtain ⟨hmapped, copied, started, configured, hformat, hstack, hdefaults⟩ :=
    initialise_eq_zero hinit
  rw [hformat.localMac, Option.bind_some] at hmac
  obtain ⟨hhigh, hlow⟩ := configureStack_content hmac hstack
  obtain ⟨⟨access, hmem, hdev⟩, hfirst, hsecond⟩ :=
    setDefaults_content hdefaults
  refine ⟨hdev ▸ hmapped access hmem, ?_, ?_⟩
  · rw [hfirst, hhigh]
  · rw [hsecond, hlow]

end Configured

section Survival

variable {mac : Mac} {source : MacSource} {later : List Line}
variable {ui set reached : UiState}

theorem clearLow_macWord_iff :
    clearLow (macWord (mac 0) (mac 1) (mac 2)) =
        macWord (mac 0) (mac 1) (mac 2) ↔ (mac 2).getLsbD 0 = false := by
  rw [clearLow, clearLow_eq_iff, macWord_low]

/-- The address survives commands other than `strmac` exactly when the lowest
bit of its third byte is clear, or nothing clears that bit. -/
theorem mac_survives_iff (hset : source.Configures mac ui set)
    (hlater : ∀ line ∈ later, line.command ≠ .strmac)
    (hrun : runLines later set = .ok reached) :
    MacIntact mac reached ↔
      (mac 2).getLsbD 0 = false ∨ source.LeavesLow later := by
  have hbase := runLines_base hrun
  have hlow := runLines_cell hrun fun line hline =>
    macLow_kept (hlater line hline)
  have hhigh := runLines_macHigh hrun hlater
  cases source with
  | strmac typed =>
      obtain ⟨hmapped, hfirst, hsecond⟩ := strmac_set hset
      rw [macIntact_iff (hbase ▸ hmapped) (hlow.trans hsecond), hhigh, hfirst]
      have hquiet : (MacSource.strmac typed).LeavesLow later ↔
          ¬ later.any fun line => line.command.clearsMac := by
        simp [MacSource.LeavesLow]
      rw [hquiet]
      by_cases hclears : later.any fun line => line.command.clearsMac
      · rw [if_pos hclears, clearLow_macWord_iff]
        simp [hclears]
      · rw [if_neg hclears]
        simp [hclears]
  | uiInit env args =>
      obtain ⟨hmapped, hfirst, hsecond⟩ := uiInit_set hset
      rw [macIntact_iff (hbase ▸ hmapped) (hlow.trans hsecond), hhigh, hfirst,
        clearLow_clearLow, ite_self, clearLow_macWord_iff]
      simp [MacSource.LeavesLow]

/-- An address with an even third byte survives a start and stop of the
stream. -/
theorem even_mac_survives :
    ∃ set reached,
      step ⟨.strmac, ⟨none, some (macText ![10, 11, 12, 13, 14, 15])⟩⟩
          (start blankBoard 0) = .ok set ∧
        runLines [⟨.strstart, ⟨none, none⟩⟩, ⟨.strstop, ⟨none, none⟩⟩] set =
          .ok reached ∧
        MacIntact ![10, 11, 12, 13, 14, 15] reached := by
  obtain ⟨reached, hrun⟩ := exists_of_isOk (runLines
    [⟨.strmac, ⟨none, some (macText ![10, 11, 12, 13, 14, 15])⟩⟩,
      ⟨.strstart, ⟨none, none⟩⟩, ⟨.strstop, ⟨none, none⟩⟩]
    (start blankBoard 0)) (by decide)
  obtain ⟨set, hset, hlater⟩ := run_cons.mp hrun
  have hconfigures : (MacSource.strmac
      ⟨none, some (macText ![10, 11, 12, 13, 14, 15])⟩).Configures
      ![10, 11, 12, 13, 14, 15] (start blankBoard 0) set :=
    ⟨extractMacAddress_macText _, hset⟩
  exact ⟨set, reached, hset, hlater,
    (mac_survives_iff hconfigures (by decide) hlater).mpr (Or.inl (by decide))⟩

/-- An odd third byte is changed by the first stop. -/
theorem odd_mac_corrupted :
    ¬ ∀ (mac : Mac) (source : MacSource) (later : List Line)
        (ui set reached : UiState),
      source.Configures mac ui set →
      (∀ line ∈ later, line.command ≠ .strmac) →
      runLines later set = .ok reached → MacIntact mac reached := by
  intro hall
  obtain ⟨reached, hrun⟩ := exists_of_isOk (runLines
    [⟨.strmac, ⟨none, some (macText ![2, 0, 1, 0, 0, 0])⟩⟩,
      ⟨.strstop, ⟨none, none⟩⟩] (start blankBoard 0)) (by decide)
  obtain ⟨set, hset, hlater⟩ := run_cons.mp hrun
  have hconfigures : (MacSource.strmac
      ⟨none, some (macText ![2, 0, 1, 0, 0, 0])⟩).Configures
      ![2, 0, 1, 0, 0, 0] (start blankBoard 0) set :=
    ⟨extractMacAddress_macText _, hset⟩
  have hintact := hall _ _ _ _ _ _ hconfigures (by decide) hlater
  have hhigh := hintact.high
  rw [ethUdpReg, Nat.mul_zero, runLines_macHigh hlater (by decide),
    (strmac_set hconfigures).2.1] at hhigh
  exact absurd hhigh (by decide)

end Survival

end Songpark.UiControl
