import Songpark.Ui.SharedVariable

/-!
# Lines that read all they use

A command whose argument was read, and that uses no old variable, does to the
board what any state of the variables would have it do.  So a run of such lines
leaves registers that only depend on the registers before and on the lines; and
the lines that look at registers, or only set a volume, can be left out.
-/

namespace Songpark.UiControl

open Songpark.RegisterFile Songpark.RegIo Songpark.Scan Songpark.StateProgram
open Songpark.Address Songpark.EthParam Songpark.MixerControl
open Songpark.StreamControl

/-- The line found what its command reads, and the command looks at no other
variable. -/
structure Line.Complete (line : Line) : Prop where
  number : line.command.numeric → line.typed.number.isSome
  text : line.command.argument = .ip → line.typed.text.isSome
  narrow : line.command ∉ [Command.setptl1, .setptpidl, .setptl2, .setptdiffl,
    .setppdly, .strnsp, .setcrwin]

/-- What the devices see of a state. -/
def registers (ui : UiState) : (Device → Base) × (Register → Word) :=
  (ui.board.base, ui.board.content)

/-- The command writes no register. -/
def Line.quiet (line : Line) : Bool := (footprint line.command).isEmpty

section Branches

variable {command : Command} {typed : Typed}

theorem uniform_device (hnothing : command.argument = .nothing)
    {program : DeviceM Unit} (hperform : perform command = device program) :
    Uniform command typed :=
  ⟨program, fun ui => ⟨_, by rw [execute_nothing hnothing, hperform]; rfl, rfl⟩⟩

theorem uniform_fetchWith (hnothing : command.argument = .nothing)
    {extend : Word → LongWord} {program : DeviceM Word}
    (hperform : perform command = fetchWith extend program) :
    Uniform command typed :=
  ⟨do let _ ← program, fun ui =>
    ⟨_, by rw [execute_nothing hnothing, hperform]; rfl, rfl⟩⟩

theorem uniform_fetchLong (hnothing : command.argument = .nothing)
    {program : DeviceM LongWord} (hperform : perform command = fetchLong program) :
    Uniform command typed :=
  ⟨do let _ ← program, fun ui =>
    ⟨_, by rw [execute_nothing hnothing, hperform]; rfl, rfl⟩⟩

/-- A driver call whose result is dropped. -/
theorem uniform_dropped (hnothing : command.argument = .nothing)
    {α : Type} {program : DeviceM α}
    (hperform : perform command = (do let _ ← device program)) :
    Uniform command typed :=
  ⟨do let _ ← program, fun ui =>
    ⟨_, by rw [execute_nothing hnothing, hperform]; rfl, rfl⟩⟩

theorem uniform_idle (hnothing : command.argument = .nothing)
    (hperform : perform command = pure ()) : Uniform command typed :=
  ⟨pure (), fun ui => ⟨_, by rw [execute_nothing hnothing, hperform]; rfl, rfl⟩⟩

theorem uniform_setFilter (hnothing : command.argument = .nothing)
    {filterBase : Device} {type : Word} {enable : Byte}
    {store : Byte → UiParameters → UiParameters} {index : Fin 29}
    (hperform : perform command = setFilter filterBase type enable store index) :
    Uniform command typed :=
  ⟨do let _ ← setFilterType filterBase type (enable.setWidth 32), fun ui =>
    ⟨_, by rw [execute_nothing hnothing, hperform]; rfl, rfl⟩⟩

/-- A cleared display takes nothing over from the old buffer. -/
theorem device_cleared (first : DeviceM Unit) (clear : DeviceM Display.Buffer)
    (ui : UiState) :
    (do
      device first
      display fun _ => clear) ui =
      let program : DeviceM Display.Buffer := do
        first
        clear
      .ok ((), { ui with
        board := (program ui.board).2
        intSeq := (program ui.board).1 }) := rfl

theorem device_message (first : DeviceM Unit) (clear : DeviceM Display.Buffer)
    (second : Display.Buffer → DeviceM Display.Buffer) (ui : UiState) :
    (do
      device first
      display fun _ => clear
      display second) ui =
      let program : DeviceM Display.Buffer := do
        first
        let intSeq ← clear
        second intSeq
      .ok ((), { ui with
        board := (program ui.board).2
        intSeq := (program ui.board).1 }) := rfl

theorem uniform_displayed (hnothing : command.argument = .nothing)
    {program : DeviceM Display.Buffer}
    (hperform : ∀ ui, perform command ui =
      .ok ((), { ui with
        board := (program ui.board).2
        intSeq := (program ui.board).1 })) :
    Uniform command typed :=
  ⟨do let _ ← program, fun ui =>
    ⟨_, by rw [execute_nothing hnothing, hperform ui], rfl⟩⟩

theorem uniform_message (hnothing : command.argument = .nothing)
    {program : DeviceM Unit} {message : Text} {page : ℕ}
    (hperform : perform command = (do
      device program
      clearDisplay
      showMessage message page)) :
    Uniform command typed :=
  uniform_displayed hnothing fun ui => by
    rw [hperform]
    exact device_message program _ _ ui

theorem uniform_cleared (hnothing : command.argument = .nothing)
    {program : DeviceM Unit}
    (hperform : perform command = (do
      device program
      clearDisplay)) :
    Uniform command typed :=
  uniform_displayed hnothing fun ui => by
    rw [hperform]
    exact device_cleared program _ ui

theorem uniform_reportAddress (hnothing : command.argument = .nothing)
    {param : EthParamId} (hperform : perform command = reportAddress param) :
    Uniform command typed :=
  ⟨do let _ ← readEthParam .fullUdpStackIp param.code, fun ui =>
    ⟨_, by rw [execute_nothing hnothing, hperform]; rfl, rfl⟩⟩

/-- A command without an argument drives the board by one program. -/
theorem uniform_of_nothing (hnothing : command.argument = .nothing)
    (hrunning : command ≠ .exit) (hnarrow : command ≠ .setcrwin) :
    Uniform command typed := by
  cases command
  case setcrwin => exact absurd rfl hnarrow
  case exit => exact absurd rfl hrunning
  case lfhe | lfhd | lfbe | lfbd | lfle | lfld | nfhe | nfhd | nfbe | nfbd
      | nfle | nfld =>
    apply uniform_setFilter rfl
    rw [perform]
  case nstats | pbtreset | help | invalid => exact uniform_idle rfl rfl
  case astatus | dstatus | getalle2a => exact uniform_dropped rfl rfl
  case strtestm1 | strtestm2 | strxtestm1 | plcon =>
    apply uniform_message rfl
    rw [perform]
  case plcoff =>
    apply uniform_cleared rfl
    rw [perform]
  case getdip | getlip | getgip | getmask =>
    apply uniform_reportAddress rfl
    rw [perform]
  case getport =>
    exact ⟨do let _ ← readEthParam .fullUdpStackIp EthParamId.destPort.code,
      fun ui => ⟨_, execute_nothing rfl, rfl⟩⟩
  case getmac =>
    exact ⟨do let _ ← readEthMac .fullUdpStackIp,
      fun ui => ⟨_, execute_nothing rfl, rfl⟩⟩
  case getpoutdly | getpouttime | getsynctime | getrxtc | getrxtceff | getrxtcocc
      | gettcvars | getpoutr | getpoutw | getfocc | getplen | getporder
      | getpdrop | getpreplaced | getsqgs | getsqrx | getsqtx | getsqov
      | getptlock | getptstatus | setptlock | setptaccum | clrptaccum
      | getptaccum | clrptlock | getblen | getbrdly | getnetdly
      | getpktbuilddly | ptdfon | ptdfoff | getptdiffs | getsqos | getsqis =>
    exact uniform_fetchWith rfl rfl
  case getptl1 | getptpidl | getptl2 | getpkt2pktdly | getaccpktdly
      | getptdiffl | getptdiffv =>
    exact uniform_fetchLong rfl rfl
  all_goals first
    | exact absurd hnothing (by decide)
    | exact uniform_device rfl rfl

end Branches

/-! ## Addresses and the end -/

section Stops

variable {command : Command} {typed : Typed} {text : Text}

/-- From every state the command stops the process in one way. -/
def Stops (command : Command) (typed : Typed) : Prop :=
  ∃ halted, ∀ ui, execute command typed ui = .error halted

theorem execute_text (hip : command.argument = .ip)
    (htext : typed.text = some text) (ui : UiState) :
    execute command typed ui =
      if text.length < 128 then perform command { ui with ip := text }
      else .error .undefined := by
  rw [execute, hip, StateProgram.bind_apply, scanArgument,
    StateProgram.bind_apply, observe_apply, htext, Option.getD_some]
  dsimp only
  split_ifs <;> rfl

/-- A program whose text decides what it does. -/
theorem uniform_or_stops (hip : command.argument = .ip)
    (htext : typed.text = some text) {Parsed : Type} (parsed : Option Parsed)
    (write : Parsed → DeviceM Unit)
    (hperform : ∀ ui : UiState, perform command { ui with ip := text } =
      match parsed with
      | some value => device (write value) { ui with ip := text }
      | none => .error .undefined) :
    Uniform command typed ∨ Stops command typed := by
  by_cases hlength : text.length < 128
  · cases hparsed : parsed with
    | some value =>
        refine Or.inl ⟨write value, fun ui =>
          ⟨{ ui with ip := text, board := (write value ui.board).2 }, ?_, rfl⟩⟩
        rw [execute_text hip htext, if_pos hlength, hperform, hparsed]
        rfl
    | none =>
        refine Or.inr ⟨.undefined, fun ui => ?_⟩
        rw [execute_text hip htext, if_pos hlength, hperform, hparsed]
  · refine Or.inr ⟨.undefined, fun ui => ?_⟩
    rw [execute_text hip htext, if_neg hlength]

theorem uniform_or_stops_address (hip : command.argument = .ip)
    (htext : typed.text = some text) {param : EthParamId}
    (hperform : perform command = writeAddress param) :
    Uniform command typed ∨ Stops command typed := by
  refine uniform_or_stops hip htext (extractIpAddress text)
    (fun octets => writeEthParam .fullUdpStackIp param (ipWord octets))
    fun ui => ?_
  rw [hperform, writeAddress, StateProgram.bind_apply, observe_apply]
  dsimp only
  cases extractIpAddress text <;> rfl

theorem uniform_or_stops_mac (htext : typed.text = some text) :
    Uniform .strmac typed ∨ Stops .strmac typed := by
  refine uniform_or_stops rfl htext (extractMacAddress text)
    (fun mac => writeEthMac .fullUdpStackIp .mac mac) fun ui => ?_
  rw [perform, writeMac, StateProgram.bind_apply, observe_apply]
  dsimp only
  cases extractMacAddress text <;> rfl

/-- A complete line does the same from every state. -/
theorem uniform_or_stops_of_complete {line : Line} (hcomplete : line.Complete) :
    Uniform line.command line.typed ∨ Stops line.command line.typed := by
  obtain ⟨command, typed⟩ := line
  obtain ⟨hnumber, htext, hnarrow⟩ := hcomplete
  dsimp only at hnumber htext hnarrow ⊢
  cases hkind : command.argument with
  | nothing =>
      by_cases hexit : command = .exit
      · subst hexit
        exact Or.inr ⟨.exit, fun ui => rfl⟩
      · refine Or.inl (uniform_of_nothing hkind hexit ?_)
        rintro rfl
        exact hnarrow (by decide)
  | gain | tmp | destPort =>
      have hnumeric : command.numeric := by simp [Command.numeric, hkind]
      obtain ⟨number, hfound⟩ := Option.isSome_iff_exists.mp (hnumber hnumeric)
      refine Or.inl (uniform_of_numeric hnumeric hfound fun hwide => hnarrow ?_)
      simp only [List.mem_cons, List.not_mem_nil, or_false] at hwide ⊢
      tauto
  | ip =>
      obtain ⟨text, hfound⟩ := Option.isSome_iff_exists.mp (htext hkind)
      cases command
      case strmac => exact uniform_or_stops_mac hfound
      case strsip | strdip | strlip | strgip | strmask =>
        exact uniform_or_stops_address hkind hfound rfl
      all_goals exact absurd hkind (by decide)

end Stops

/-! ## Steps -/

section Steps

variable {line : Line} {ui reached left right : UiState}

theorem sameRegisters_of_registers (hsame : registers left = registers right) :
    SameRegisters left right :=
  ⟨congrArg Prod.fst hsame, congrArg Prod.snd hsame⟩

theorem determined_of_uniform (huniform : Uniform line.command line.typed) :
    Determined step registers line := by
  intro left right hsame
  obtain ⟨program, hprogram⟩ := huniform
  obtain ⟨first, hfirst, hleft⟩ := hprogram (clearLog left)
  obtain ⟨second, hsecond, hright⟩ := hprogram (clearLog right)
  have hboard : first.board = second.board := by
    rw [hleft, hright, (sameRegisters_of_registers hsame).clearLog]
  simp only [step, hfirst, hsecond, hboard]
  split_ifs
  · simp only [Except.map, registers, hboard]
  · rfl

theorem determined_of_stops (hstops : Stops line.command line.typed) :
    Determined step registers line := by
  intro left right _
  obtain ⟨halted, hhalted⟩ := hstops
  simp only [step, hhalted]

theorem determined_of_complete (hcomplete : line.Complete) :
    Determined step registers line :=
  (uniform_or_stops_of_complete hcomplete).elim determined_of_uniform
    determined_of_stops

/-- A quiet line leaves all registers. -/
theorem registers_quiet (hquiet : line.quiet)
    (hstep : step line ui = .ok reached) :
    registers reached = registers ui := by
  have hnone : footprint line.command = [] := List.isEmpty_iff.mp hquiet
  have hcontent : reached.board.content = ui.board.content := by
    funext cell
    refine step_cell hstep fun hcell => ?_
    have hmem : cell ∈ footprint line.command := hcell
    rw [hnone] at hmem
    exact List.not_mem_nil hmem
  rw [registers, registers, step_base hstep, hcontent]

end Steps

/-! ## Runs -/

section Runs

variable {lines : List Line} {ui reached left right : UiState}

/-- What a run of complete lines leaves in the registers, or how it stops, is
the same whatever the variables held before. -/
theorem run_isolated (hcomplete : ∀ line ∈ lines, line.Complete)
    (hsame : registers left = registers right) :
    (runLines lines left).map registers =
      (runLines lines right).map registers :=
  run_determined (fun line hline =>
    determined_of_complete (hcomplete line hline)) hsame

/-- A length that is set after it was looked at. -/
def lengthLines : List Line :=
  [⟨.getplen, ⟨none, none⟩⟩, ⟨.vll, ⟨some 3, none⟩⟩, ⟨.strplen, ⟨some 18, none⟩⟩]

theorem lengthLines_complete : ∀ line ∈ lengthLines, line.Complete := by
  intro line hline
  simp only [lengthLines, List.mem_cons, List.not_mem_nil, or_false] at hline
  rcases hline with rfl | rfl | rfl <;>
    exact ⟨by decide, by decide, by decide⟩

theorem run_isolated_length :
    (runLines lengthLines (start blankBoard 0)).map registers =
      (runLines lengthLines (start blankBoard 0x900000000)).map registers :=
  run_isolated lengthLines_complete rfl

/-- The lines that write no register can be left out of a run of complete
lines. -/
theorem run_without_quiet (hcomplete : ∀ line ∈ lines, line.Complete)
    (hrun : runLines lines ui = .ok reached) :
    ∃ after, runLines (lines.filter (!Line.quiet ·)) ui = .ok after ∧
      registers reached = registers after :=
  run_erased (fun line hline => determined_of_complete (hcomplete line hline))
    Line.quiet (fun _ hquiet _ _ hstep => registers_quiet hquiet hstep) hrun rfl

theorem run_without_quiet_length :
    ∃ reached after, runLines lengthLines (start blankBoard 0) = .ok reached ∧
      runLines (lengthLines.filter (!Line.quiet ·)) (start blankBoard 0) =
        .ok after ∧
      registers reached = registers after := by
  obtain ⟨reached, hrun⟩ : ∃ reached,
      runLines lengthLines (start blankBoard 0) = .ok reached :=
    exists_of_isOk _ rfl
  obtain ⟨after, hafter, hregisters⟩ :=
    run_without_quiet lengthLines_complete hrun
  exact ⟨reached, after, hrun, hafter, hregisters⟩

end Runs

end Songpark.UiControl
