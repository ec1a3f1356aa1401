import Songpark.Ui.Frame
import Mathlib.Data.Fin.VecNotation

/-!
# Setting a network parameter and reading it back

Five parameters of the UDP stack have a command that sets them and one that
reports them.  The reporting commands pass a member of `ETH_PARAM_ID` to a
reader that compares it with the members of `ETH_REG_ID`; the two enumerations
part after the destination address.  The main result says for every parameter,
value and later command history when the report is the value that was set.
-/

namespace Songpark.UiControl

open Songpark.RegisterFile Songpark.RegIo Songpark.Scan Songpark.StateProgram
open Songpark.Address Songpark.EthParam Songpark.LastSet

/-- A parameter that can be set and reported, with a value for it. -/
inductive EthSetting
  | destIp (octets : Fin 4 → Byte)
  | localIp (octets : Fin 4 → Byte)
  | gtwayIp (octets : Fin 4 → Byte)
  | maskIp (octets : Fin 4 → Byte)
  | destPort (port : Fin (2 ^ 31))

namespace EthSetting

def setter : EthSetting → Command
  | destIp _ => .strdip
  | localIp _ => .strlip
  | gtwayIp _ => .strgip
  | maskIp _ => .strmask
  | destPort _ => .strport

def getter : EthSetting → Command
  | destIp _ => .getdip
  | localIp _ => .getlip
  | gtwayIp _ => .getgip
  | maskIp _ => .getmask
  | destPort _ => .getport

/-- The value stands in the input where the setter looks for it. -/
def TypedIn (typed : Typed) : EthSetting → Prop
  | destIp octets | localIp octets | gtwayIp octets | maskIp octets =>
      typed.text = some (dottedQuad octets)
  | destPort port => typed.number = some (BitVec.ofNat 32 port.val)

/-- The line the getter is to print. -/
def report : EthSetting → Text
  | destIp octets | localIp octets | gtwayIp octets | maskIp octets =>
      dottedQuad octets ++ ['\n']
  | destPort port => "The port is:".toList ++ decimal port.val ++ ['\n']

/-- The getter returns, and what it prints is the value of the setting. -/
def Reported (setting : EthSetting) (ui : UiState) : Prop :=
  ∀ typed, ∃ shown, step ⟨setting.getter, typed⟩ ui = .ok shown ∧
    shown.printed.head? = some setting.report

/-- The registers from which the getter would report the value: the getter of
the gateway reads the mask, the getter of the mask reads the port of the first
stream, and the getter of the port reads nothing. -/
def Readable (content : Register → Word) : EthSetting → Prop
  | destIp _ | localIp _ => True
  | gtwayIp octets => content ⟨.fullUdpStackIp, 16⟩ = ipWord octets
  | maskIp octets => content ⟨.fullUdpStackIp, 24⟩ = ipWord octets
  | destPort _ => False

end EthSetting

/-! ## The setters -/

section Setters

variable {command : Command} {param : EthParamId} {typed : Typed}
variable {octets : Fin 4 → Byte} {ui reached : UiState}

/-- A text typed after an address command is parsed and written as its word. -/
theorem step_parsedAddress (hargument : command.argument = .ip)
    (hperform : perform command = writeAddress param) {text : Text}
    (htyped : typed.text = some text)
    (hstep : step ⟨command, typed⟩ ui = .ok reached) :
    ∃ octets, extractIpAddress text = some octets ∧
      reached.board =
        (writeEthParam .fullUdpStackIp param (ipWord octets)
          (clearLog ui).board).2 := by
  obtain ⟨hrun, _⟩ := step_eq_ok.mp hstep
  obtain ⟨_, hwrite⟩ := (execute_ip_eq_ok hargument).mp hrun
  rw [hperform, writeAddress, StateProgram.bind_apply, observe_apply, htyped]
    at hwrite
  cases hoctets : extractIpAddress text with
  | none => simp [hoctets] at hwrite
  | some octets =>
      simp only [Option.getD_some, hoctets, device_apply, Except.ok.injEq,
        Prod.mk.injEq, true_and] at hwrite
      exact ⟨octets, rfl, by rw [← hwrite]⟩

theorem step_writeAddress (hargument : command.argument = .ip)
    (hperform : perform command = writeAddress param)
    (htyped : typed.text = some (dottedQuad octets))
    (hstep : step ⟨command, typed⟩ ui = .ok reached) :
    reached.board =
      (writeEthParam .fullUdpStackIp param (ipWord octets)
        (clearLog ui).board).2 := by
  obtain ⟨parsed, hparsed, hboard⟩ :=
    step_parsedAddress hargument hperform htyped hstep
  rw [extractIpAddress_dottedQuad, Option.some_inj] at hparsed
  rw [hboard, ← hparsed]

/-- The setter succeeds only on a mapped stack; afterwards every register of
the parameter holds the address. -/
theorem writeAddress_set (hargument : command.argument = .ip)
    (hperform : perform command = writeAddress param)
    (hregs : paramRegs param ≠ [])
    (htyped : typed.text = some (dottedQuad octets))
    (hstep : step ⟨command, typed⟩ ui = .ok reached) :
    reached.board.base .fullUdpStackIp = .mapped ∧
      ∀ offset ∈ paramRegs param,
        reached.board.content ⟨.fullUdpStackIp, offset⟩ = ipWord octets := by
  have hboard := step_writeAddress hargument hperform htyped hstep
  constructor
  · obtain ⟨access, hmem, hdev⟩ :=
      uses_writeEthParam hregs (ipWord octets) (clearLog ui).board
    rw [← hboard] at hmem
    exact hdev ▸ step_mapped hstep hmem
  · intro offset hoffset
    rw [hboard, writeEthParam_content]
    exact if_pos ⟨rfl, hoffset⟩

end Setters

/-! ## The getters -/

section Getters

variable {command : Command} {param : EthParamId} {typed : Typed}
variable {ui : UiState}

/-- The address reported for a parameter is the one in the register that the
reader finds under its integer. -/
theorem step_reportAddress (hargument : command.argument = .nothing)
    (hperform : perform command = reportAddress param) {reg : EthRegId}
    (hcode : param.code = reg.code) {offset : ℕ}
    (hoffset : regOffset reg = some offset)
    (hbase : ui.board.base .fullUdpStackIp = .mapped) :
    ∃ shown, step ⟨command, typed⟩ ui = .ok shown ∧
      shown.printed.head? =
        some (printIp (ui.board.content ⟨.fullUdpStackIp, offset⟩) ++
          ['\n']) := by
  have hread : readEthParam .fullUdpStackIp param.code (clearLog ui).board =
      readReg .fullUdpStackIp offset (clearLog ui).board := by
    rw [hcode, readEthParam_code, hoffset]
    simp [hbase]
  have hrun : execute command typed (clearLog ui) = .ok ((),
      { clearLog ui with
        board := (readReg .fullUdpStackIp offset (clearLog ui).board).2
        tmp := (ui.board.content ⟨.fullUdpStackIp, offset⟩).setWidth 64
        ip := printIp (ui.board.content ⟨.fullUdpStackIp, offset⟩)
        printed := (printIp (ui.board.content ⟨.fullUdpStackIp, offset⟩) ++
          ['\n']) :: (clearLog ui).printed }) := by
    rw [execute_nothing hargument, hperform, reportAddress]
    simp [hread]
  refine ⟨_, step_eq_ok.mpr ⟨hrun, ?_⟩, rfl⟩
  intro access hmem
  have haccess : access = .read ⟨.fullUdpStackIp, offset⟩ := by
    simpa [readReg] using hmem
  rw [haccess]
  exact hbase

/-- The reader answers the port's integer with the error value, without looking
at a register. -/
theorem step_getport {shown : UiState}
    (hstep : step ⟨.getport, typed⟩ ui = .ok shown) :
    shown.printed.head? = some "The port is:-1\n".toList := by
  obtain ⟨hrun, _⟩ := step_eq_ok.mp hstep
  have hread : readEthParam .fullUdpStackIp EthParamId.destPort.code
      (clearLog ui).board = (-1, (clearLog ui).board) := by
    by_cases hnull : (clearLog ui).board.base .fullUdpStackIp = .null
    · exact readEthParam_null hnull _
    · exact readEthParam_code hnull .pktLen
  rw [execute_nothing rfl, perform, reportPort] at hrun
  simp only [StateProgram.bind_apply, device_apply, hread, change_apply,
    print_apply, Except.ok.injEq, Prod.mk.injEq, true_and] at hrun
  rw [← hrun]
  rfl

end Getters

/-! ## Reading back -/

section Readback

variable {setting : EthSetting} {line : Line} {later : List Line}
variable {ui set reached : UiState}

theorem destIp_kept {command : Command} (hother : command ≠ .strdip) :
    (⟨.fullUdpStackIp, 20⟩ : Register) ∉ touched command := by
  cases command <;> first | decide | exact absurd rfl hother

theorem localIp_kept {command : Command} (hother : command ≠ .strlip) :
    (⟨.fullUdpStackIp, 8⟩ : Register) ∉ touched command := by
  cases command <;> first | decide | exact absurd rfl hother

theorem mask_kept {command : Command} (hother : command ≠ .strmask) :
    (⟨.fullUdpStackIp, 16⟩ : Register) ∉ touched command := by
  cases command <;> first | decide | exact absurd rfl hother

theorem port_kept {command : Command} (hother : command ≠ .strport) :
    (⟨.fullUdpStackIp, 24⟩ : Register) ∉ touched command := by
  cases command <;> first | decide | exact absurd rfl hother

/-- Printed ports are not negative. -/
theorem port_report_ne (port : ℕ) :
    "The port is:-1\n".toList ≠
      "The port is:".toList ++ decimal port ++ ['\n'] := by
  intro heq
  have hminus : '-' ∈ decimal port ++ ['\n'] := by
    rw [List.append_assoc] at heq
    have hsplit : "The port is:-1\n".toList =
        "The port is:".toList ++ "-1\n".toList := by decide
    rw [hsplit] at heq
    rw [← List.append_cancel_left heq]
    decide
  rcases List.mem_append.mp hminus with hdigit | hend
  · exact absurd (isDigit_of_mem_decimal hdigit) (by decide)
  · exact absurd hend (by decide)

/-- On a mapped stack a getter of an address reports the value that one
register holds. -/
theorem reported_iff_register (reg : EthRegId)
    (hargument : setting.getter.argument = .nothing)
    {param : EthParamId} (hperform : perform setting.getter = reportAddress param)
    (hcode : param.code = reg.code) {offset : ℕ}
    (hoffset : regOffset reg = some offset) {octets : Fin 4 → Byte}
    (hreport : setting.report = dottedQuad octets ++ ['\n'])
    (hbase : ui.board.base .fullUdpStackIp = .mapped) :
    setting.Reported ui ↔
      ui.board.content ⟨.fullUdpStackIp, offset⟩ = ipWord octets := by
  have hprinted : ∀ ip : Word,
      some (printIp ip ++ ['\n']) = some setting.report ↔ ip = ipWord octets := by
    intro ip
    rw [hreport, Option.some_inj, List.append_cancel_right_eq, printIp_eq_iff]
  rw [← hprinted]
  constructor
  · intro hreported
    obtain ⟨shown, hstep, hhead⟩ := hreported ⟨none, none⟩
    obtain ⟨read, hread, hline⟩ :=
      step_reportAddress hargument hperform hcode hoffset hbase
    have hsame : shown = read := Except.ok.inj (hstep.symm.trans hread)
    rw [← hline, ← hhead, hsame]
  · intro hregister typed
    obtain ⟨read, hread, hline⟩ :=
      step_reportAddress hargument hperform hcode hoffset hbase
    exact ⟨read, hread, hline.trans hregister⟩

/-- A parameter that was set, and by no later command again, is reported as it
was set exactly when the register its getter looks at holds it. -/
theorem set_reported_iff (hsetter : line.command = setting.setter)
    (htyped : setting.TypedIn line.typed) (hset : step line ui = .ok set)
    (hlater : ∀ next ∈ later, next.command ≠ setting.setter)
    (hrun : runLines later set = .ok reached) :
    setting.Reported reached ↔ setting.Readable reached.board.content := by
  obtain ⟨command, typed⟩ := line
  dsimp only at hsetter htyped
  subst hsetter
  have hreached := runLines_base hrun
  cases setting with
  | destIp octets =>
      obtain ⟨hbase, hheld⟩ :=
        writeAddress_set rfl rfl (by decide) htyped hset
      have hkept := runLines_cell hrun fun next hnext =>
        destIp_kept (hlater next hnext)
      rw [reported_iff_register .destIp rfl rfl rfl rfl rfl
        (hreached ▸ hbase), hkept, hheld 20 (by decide)]
      exact iff_of_true rfl trivial
  | localIp octets =>
      obtain ⟨hbase, hheld⟩ :=
        writeAddress_set rfl rfl (by decide) htyped hset
      have hkept := runLines_cell hrun fun next hnext =>
        localIp_kept (hlater next hnext)
      rw [reported_iff_register .localIp rfl rfl rfl rfl rfl
        (hreached ▸ hbase), hkept, hheld 8 (by decide)]
      exact iff_of_true rfl trivial
  | gtwayIp octets =>
      obtain ⟨hbase, _⟩ := writeAddress_set rfl rfl (by decide) htyped hset
      exact reported_iff_register .maskIp rfl rfl rfl rfl rfl
        (hreached ▸ hbase)
  | maskIp octets =>
      obtain ⟨hbase, _⟩ := writeAddress_set rfl rfl (by decide) htyped hset
      exact reported_iff_register .destPort rfl rfl rfl rfl rfl
        (hreached ▸ hbase)
  | destPort port =>
      refine iff_of_false ?_ id
      intro hreported
      obtain ⟨shown, hstep, hhead⟩ := hreported ⟨none, none⟩
      rw [step_getport hstep, Option.some_inj] at hhead
      exact port_report_ne _ hhead

/-! ## The commands behind the condition -/

/-- The word that a line puts into the mask register. -/
def Line.mask? (line : Line) : Option Word :=
  match line.command with
  | .strmask => (line.typed.text.bind extractIpAddress).map ipWord
  | _ => none

/-- The word that a line puts into the register of the first port. -/
def Line.port? (line : Line) : Option Word :=
  match line.command with
  | .strport => line.typed.number
  | _ => none

theorem step_mask (htext : line.command = .strmask → line.typed.text.isSome)
    (hstep : step line ui = .ok reached) :
    reached.board.content ⟨.fullUdpStackIp, 16⟩ =
      line.mask?.getD (ui.board.content ⟨.fullUdpStackIp, 16⟩) := by
  obtain ⟨command, typed⟩ := line
  by_cases hmask : command = .strmask
  · subst hmask
    obtain ⟨text, htyped⟩ := Option.isSome_iff_exists.mp (htext rfl)
    dsimp only at htyped
    obtain ⟨octets, hoctets, hboard⟩ :=
      step_parsedAddress rfl (by rw [perform]) htyped hstep
    simp [hboard, Line.mask?, htyped, hoctets, paramRegs]
  · have hnone : Line.mask? ⟨command, typed⟩ = none := by
      cases command <;> first | rfl | exact absurd rfl hmask
    rw [hnone]
    exact command_cell (mask_kept hmask) hstep

theorem step_port (hnumber : line.command = .strport →
      line.typed.number.isSome)
    (hstep : step line ui = .ok reached) :
    reached.board.content ⟨.fullUdpStackIp, 24⟩ =
      line.port?.getD (ui.board.content ⟨.fullUdpStackIp, 24⟩) := by
  obtain ⟨command, typed⟩ := line
  by_cases hport : command = .strport
  · subst hport
    obtain ⟨port, htyped⟩ := Option.isSome_iff_exists.mp (hnumber rfl)
    dsimp only at htyped
    obtain ⟨hrun, _⟩ := step_eq_ok.mp hstep
    rw [execute_strport] at hrun
    cases hrun
    rw [showPort_stack _ _ rfl]
    simp [Line.port?, htyped, paramRegs]
  · have hnone : Line.port? ⟨command, typed⟩ = none := by
      cases command <;> first | rfl | exact absurd rfl hport
    rw [hnone]
    exact command_cell (port_kept hport) hstep

/-- After `strgip` the gateway is reported exactly if the last mask, typed later
or held before, is the same address. -/
theorem gateway_reported_iff {octets : Fin 4 → Byte} {typed : Typed}
    (htyped : typed.text = some (dottedQuad octets))
    (hset : step ⟨.strgip, typed⟩ ui = .ok set)
    (htext : ∀ next ∈ later, next.command = .strmask →
      next.typed.text.isSome)
    (hrun : runLines later set = .ok reached) :
    (EthSetting.gtwayIp octets).Reported reached ↔
      (lastSet Line.mask? later).getD
        (ui.board.content ⟨.fullUdpStackIp, 16⟩) = ipWord octets := by
  obtain ⟨hbase, _⟩ := writeAddress_set rfl rfl (by decide) htyped hset
  have hmask := run_lastSet (fun _ => True)
    (fun ui => ui.board.content ⟨.fullUdpStackIp, 16⟩) Line.mask?
    (fun _ _ _ _ _ _ => trivial)
    (fun next hnext _ _ _ hstep => step_mask (htext next hnext) hstep)
    trivial hrun
  rw [command_cell (by decide) hset] at hmask
  rw [← hmask]
  exact reported_iff_register .maskIp rfl rfl rfl rfl rfl
    (runLines_base hrun ▸ hbase)

/-- After `strmask` the mask is reported exactly if the last port, typed later
or held before, is the same number. -/
theorem mask_reported_iff {octets : Fin 4 → Byte} {typed : Typed}
    (htyped : typed.text = some (dottedQuad octets))
    (hset : step ⟨.strmask, typed⟩ ui = .ok set)
    (hnumber : ∀ next ∈ later, next.command = .strport →
      next.typed.number.isSome)
    (hrun : runLines later set = .ok reached) :
    (EthSetting.maskIp octets).Reported reached ↔
      (lastSet Line.port? later).getD
        (ui.board.content ⟨.fullUdpStackIp, 24⟩) = ipWord octets := by
  obtain ⟨hbase, _⟩ := writeAddress_set rfl rfl (by decide) htyped hset
  have hport := run_lastSet (fun _ => True)
    (fun ui => ui.board.content ⟨.fullUdpStackIp, 24⟩) Line.port?
    (fun _ _ _ _ _ _ => trivial)
    (fun next hnext _ _ _ hstep => step_port (hnumber next hnext) hstep)
    trivial hrun
  rw [command_cell (by decide) hset] at hport
  rw [← hport]
  exact reported_iff_register .destPort rfl rfl rfl rfl rfl
    (runLines_base hrun ▸ hbase)

/-- A gateway address is reported once the mask has been set to the same
value. -/
theorem gateway_reported_after_mask :
    ∃ reached,
      runLines
          [⟨.strgip, ⟨none, some (dottedQuad ![10, 0, 0, 1])⟩⟩,
            ⟨.strmask, ⟨none, some (dottedQuad ![10, 0, 0, 1])⟩⟩]
          (start blankBoard 0) = .ok reached ∧
        (EthSetting.gtwayIp ![10, 0, 0, 1]).Reported reached := by
  obtain ⟨reached, hrun⟩ := exists_of_isOk (runLines
    [⟨.strgip, ⟨none, some (dottedQuad ![10, 0, 0, 1])⟩⟩,
      ⟨.strmask, ⟨none, some (dottedQuad ![10, 0, 0, 1])⟩⟩]
    (start blankBoard 0)) (by decide)
  obtain ⟨set, hset, hlater⟩ := run_cons.mp hrun
  obtain ⟨masked, hmask, hend⟩ := run_cons.mp hlater
  obtain rfl := run_nil.mp hend
  have hheld := (writeAddress_set rfl rfl (by decide) rfl hmask).2 16
    (by decide)
  have hiff : (EthSetting.gtwayIp ![10, 0, 0, 1]).Reported masked ↔ _ :=
    set_reported_iff (by rfl) (by rfl) hset (by decide) hlater
  exact ⟨masked, hrun, hiff.mpr hheld⟩

/-- A gateway address alone is not reported: the mask register is printed in
its place. -/
theorem gateway_not_reported :
    ¬ ∀ (setting : EthSetting) (line : Line) (later : List Line)
        (ui set reached : UiState),
      line.command = setting.setter → setting.TypedIn line.typed →
      step line ui = .ok set →
      (∀ next ∈ later, next.command ≠ setting.setter) →
      runLines later set = .ok reached → setting.Reported reached := by
  intro hall
  obtain ⟨set, hset⟩ := exists_of_isOk (step
    ⟨.strgip, ⟨none, some (dottedQuad ![192, 168, 0, 1])⟩⟩
    (start blankBoard 0)) (by decide)
  have hreported := hall (.gtwayIp ![192, 168, 0, 1])
    ⟨.strgip, ⟨none, some (dottedQuad ![192, 168, 0, 1])⟩⟩ [] _ set set rfl rfl
    hset (by decide) (run_nil.mpr rfl)
  have hbase := (writeAddress_set rfl rfl (by decide) rfl hset).1
  have hmask := (reported_iff_register .maskIp rfl rfl rfl rfl rfl
    hbase).mp hreported
  rw [step_cell hset (by decide)] at hmask
  exact absurd hmask (by decide)

end Readback

end Songpark.UiControl
