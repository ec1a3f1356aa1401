import Songpark.Ui.Console
import Songpark.Ui.Isolation
import Songpark.Ui.Unmapped

/-!
# How a process ends

After a successful initialisation three kinds of lines end the process: `exit`,
an address that the parsers cannot keep in their arrays, and a command that
works on the packet time enforcer, whose base pointer is `NULL`.  All other
lines return, whatever was typed before.  So the first line of these kinds is
where the process ends, and its kind is how.
-/

namespace Songpark.UiControl

open Songpark.RegisterFile Songpark.RegIo Songpark.Scan Songpark.StateProgram
open Songpark.Address Songpark.EthParam Songpark.MixerControl
open Songpark.StreamControl

/-! ## Commands that return -/

section Bodies

theorem returns_device {α : Type} (program : DeviceM α) :
    Returns (device program) := fun _ => ⟨_, _, rfl⟩

theorem returns_withTmp (program : LongWord → DeviceM Unit) :
    Returns (withTmp program) :=
  .bind (.observe _) fun _ => returns_device _

theorem returns_fetchWith (extend : Word → LongWord) (program : DeviceM Word) :
    Returns (fetchWith extend program) :=
  .bind (returns_device _) fun _ => .change _

theorem returns_fetchLong (program : DeviceM LongWord) :
    Returns (fetchLong program) :=
  .bind (returns_device _) fun _ => .change _

theorem returns_exchange (program : Word → DeviceM Word) :
    Returns (exchange program) :=
  .bind (.observe _) fun _ => returns_fetchWith _ _

theorem returns_clearDisplay : Returns clearDisplay :=
  .bind (.observe _) fun _ => .bind (returns_device _) fun _ => .change _

theorem returns_showMessage (message : Text) (page : ℕ) :
    Returns (showMessage message page) :=
  .bind (.observe _) fun _ => .bind (returns_device _) fun _ => .change _

theorem returns_message (program : DeviceM Unit) (message : Text) (page : ℕ) :
    Returns (do
      device program
      clearDisplay
      showMessage message page) :=
  .bind (returns_device _) fun _ => .bind returns_clearDisplay fun _ =>
    returns_showMessage _ _

theorem returns_setAllVolumes (gain : Word) : Returns (setAllVolumes gain) :=
  .bind (.observe _) fun _ => .bind (.change _) fun _ =>
    .bind (.change _) fun _ => .bind (.change _) fun _ => .change _

theorem returns_setChannel (volumeBase : Device) (channel : ChannelId)
    (store : Word → UiParameters → UiParameters) (index : Fin 29) :
    Returns (setChannel volumeBase channel store index) :=
  .bind (.observe _) fun _ => .bind (.observe _) fun _ =>
    .bind (.change _) fun _ => .bind (.change _) fun _ => .change _

theorem returns_setFilter (filterBase : Device) (type : Word) (enable : Byte)
    (store : Byte → UiParameters → UiParameters) (index : Fin 29) :
    Returns (setFilter filterBase type enable store index) :=
  .bind (returns_device _) fun _ => .bind (.change _) fun _ => .change _

theorem returns_reportAddress (param : EthParamId) :
    Returns (reportAddress param) :=
  .bind (returns_fetchWith _ _) fun _ => .bind (.observe _) fun _ =>
    .bind (.change _) fun _ => .change _

theorem returns_reportPort : Returns reportPort :=
  .bind (returns_device _) fun _ => .bind (.change _) fun _ => .change _

theorem returns_reportMac : Returns reportMac :=
  .bind (returns_device _) fun _ => .bind (.change _) fun _ => .change _

theorem returns_warnLength (tmp header : LongWord) :
    Returns (warnLength tmp header) :=
  .ite (.change _) (.pure _)

theorem returns_setPayloadLength : Returns setPayloadLength :=
  .bind (.observe _) fun _ => .bind (.change _) fun _ =>
    .bind (.change _) fun _ => .bind (returns_warnLength _ _) fun _ =>
    returns_device _

theorem returns_setPlcPacketSize : Returns setPlcPacketSize :=
  .bind (.observe _) fun _ => .bind (returns_warnLength _ _) fun _ =>
    returns_device _

theorem returns_setDestPort : Returns setDestPort :=
  .bind (.observe _) fun _ => .bind (returns_device _) fun _ =>
    .bind returns_clearDisplay fun _ =>
    .bind (returns_showMessage _ _) fun _ => returns_showMessage _ _

theorem returns_setSyncPort : Returns setSyncPort :=
  .bind (.observe _) fun _ => returns_device _

end Bodies

section Commands

variable {command : Command} {typed : Typed} {ui : UiState} {text : Text}

/-- Only `exit` and the commands with an address can end the process by
themselves. -/
theorem perform_returns (hexit : command ≠ .exit)
    (hip : command.argument ≠ .ip) : Returns (perform command) := by
  cases command
  case exit => exact absurd rfl hexit
  case strmac | strsip | strdip | strlip | strgip | strmask =>
    exact absurd rfl hip
  all_goals rw [perform]
  case vgg =>
    exact .bind (.observe _) fun _ => .bind (.change _) fun _ =>
      .bind (.change _) fun _ => returns_setAllVolumes _
  case vll | vlr | vnl | vnr => exact returns_setChannel _ _ _ _
  case lfhe | lfhd | nfhe | nfhd | lfbe | lfbd | nfbe | nfbd | lfle | lfld
      | nfle | nfld => exact returns_setFilter _ _ _ _ _
  case nstats | pbtreset | setsqsdly | help | invalid => exact .pure _
  case astatus | dstatus | getalle2a =>
    exact .bind (returns_device _) fun _ => .pure _
  case strtestm1 | strtestm2 | strxtestm1 | plcon =>
    exact returns_message _ _ _
  case plcoff =>
    exact .bind (returns_device _) fun _ => returns_clearDisplay
  case getmac => exact returns_reportMac
  case getdip | getlip | getgip | getmask => exact returns_reportAddress _
  case getport => exact returns_reportPort
  case strport => exact returns_setDestPort
  case strsport => exact returns_setSyncPort
  case strplen => exact returns_setPayloadLength
  case setplcpktsize => exact returns_setPlcPacketSize
  case setnetdly | setpktdly => exact returns_exchange _
  case strnsp | strporder | setppdly | setpblim | setdlim | setbslk | setbdlm
      | setprdly | setsqlkdly | strblen | setpoutdly | setlooplimit | setcrwin
      | sethdrlen | setsyncdly | setptl1 | setptpidl | setptl2 | setptdiffl =>
    exact returns_withTmp _
  case getptl1 | getptpidl | getptl2 | getpkt2pktdly | getaccpktdly
      | getptdiffl | getptdiffv => exact returns_fetchLong _
  case getpoutdly | getpouttime | getsynctime | getrxtc | getrxtceff
      | getrxtcocc | gettcvars | getpoutr | getpoutw | getfocc | getplen
      | getporder | getpdrop | getpreplaced | getsqgs | getsqrx | getsqtx
      | getsqov | getptlock | getptstatus | setptlock | setptaccum | clrptaccum
      | getptaccum | clrptlock | getblen | getbrdly | getnetdly
      | getpktbuilddly | ptdfon | ptdfoff | getptdiffs | getsqos | getsqis =>
    exact returns_fetchWith _ _
  all_goals exact returns_device _

theorem execute_returns (hexit : command ≠ .exit)
    (hip : command.argument ≠ .ip) : Returns (execute command typed) := by
  refine .bind ?_ fun _ => perform_returns hexit hip
  cases hargument : command.argument with
  | ip => exact absurd hargument hip
  | nothing => exact .pure _
  | gain | tmp | destPort => exact .change _

/-- The text of an address command fits into `ip`, and its parser keeps all
groups inside its array. -/
def Command.accepts (command : Command) (text : Text) : Bool :=
  decide (text.length < 128) &&
    (if command = .strmac then (extractMacAddress text).isSome
    else (extractIpAddress text).isSome)

/-- A command that parses its text stops the process if it cannot. -/
theorem execute_parsed (hip : command.argument = .ip)
    (htext : typed.text = some text) {Parsed : Type} (parsed : Option Parsed)
    (write : Parsed → DeviceM Unit)
    (hperform : perform command { ui with ip := text } =
      match parsed with
      | some value => device (write value) { ui with ip := text }
      | none => .error .undefined) :
    (execute command typed ui).map (fun _ => ()) =
      if decide (text.length < 128) && parsed.isSome then .ok ()
      else .error .undefined := by
  rw [execute_text hip htext]
  by_cases hlength : text.length < 128
  · rw [if_pos hlength, hperform]
    cases parsed <;> simp [hlength, Except.map]
  · simp [hlength, Except.map]

/-- An address command returns exactly with a text it accepts. -/
theorem execute_accepts (hip : command.argument = .ip)
    (htext : typed.text = some text) :
    (execute command typed ui).map (fun _ => ()) =
      if command.accepts text then .ok () else .error .undefined := by
  cases command
  case strmac =>
    apply execute_parsed hip htext (extractMacAddress text)
      (fun mac => writeEthMac .fullUdpStackIp .mac mac)
    rw [perform, writeMac, StateProgram.bind_apply, observe_apply]
    dsimp only
    cases extractMacAddress text <;> rfl
  case strsip | strdip | strlip | strgip | strmask =>
    apply execute_parsed hip htext (extractIpAddress text)
      (fun octets => writeEthParam .fullUdpStackIp _ (ipWord octets))
    rw [perform, writeAddress, StateProgram.bind_apply, observe_apply]
    dsimp only
    cases extractIpAddress text <;> rfl
  all_goals exact absurd hip (by decide)

/-! ## Lines that end the process -/

/-- How a line ends a process that has all devices but the packet time
enforcer, once its word is in `c`. -/
def Line.halts? (line : Line) : Option Halt :=
  if line.command = .exit then some .exit
  else if line.command.timing then some .fault
  else if line.command.argument = .ip ∧
    ¬(line.typed.text.map line.command.accepts).getD false then some .undefined
  else none

/-- The same from the word on. -/
def Entry.halts? (entry : Entry) : Option Halt :=
  if entry.word.length < 8 then entry.line.halts? else some .undefined

end Commands

section Steps

variable {line : Line} {ui : UiState}

/-- The base pointers after the initialisation. -/
def Initialised (ui : UiState) : Prop :=
  ui.board.base .packetTimeEnforcer = .null ∧
    ∀ dev, dev ≠ .packetTimeEnforcer → ui.board.base dev = .mapped

/-- A step that returns does so through mapped bases. -/
theorem step_of_execute (hinitialised : Initialised ui)
    (htiming : line.command.timing = false) :
    (step line ui).map (fun _ => ()) =
      (execute line.command line.typed (clearLog ui)).map (fun _ => ()) := by
  unfold step
  cases hrun : execute line.command line.typed (clearLog ui) with
  | error halted => rfl
  | ok returned =>
      obtain ⟨value, reached⟩ := returned
      have hkept := execute_avoids htiming line.typed _ _ _ hrun
      have hquiet : (reached.board.trace .packetTimeEnforcer).2 = [] :=
        congrArg Prod.snd hkept
      have hbase := (execute_within _ _).base_eq hrun
      have hmapped : Mapped reached.board := by
        apply mapped_of_trace hquiet
        intro dev hdev
        rw [hbase]
        exact hinitialised.2 dev hdev
      simp only [hmapped, if_true]
      rfl

/-- An access through `NULL` faults. -/
theorem step_faults {reached : UiState} {access : Access Device Word}
    (hrun : execute line.command line.typed (clearLog ui) = .ok ((), reached))
    (hmem : access ∈ reached.board.accesses)
    (hnull : ui.board.base access.dev = .null) :
    step line ui = .error .fault := by
  have hbase := (execute_within _ _).base_eq hrun
  have hunmapped : ¬Mapped reached.board := by
    intro hall
    have haccess := hall access hmem
    rw [hbase, clearLog_base, hnull] at haccess
    cases haccess
  simp only [step, hrun, hunmapped, if_false]

theorem step_uses {dev : Device} (hnull : ui.board.base dev = .null)
    (huses : UiUses dev (execute line.command line.typed)) :
    step line ui = .error .fault := by
  obtain ⟨_, _, hrun, _, hmem, hdev⟩ := huses (clearLog ui)
  exact step_faults hrun hmem (hdev ▸ hnull)

/-- A line ends the process or not, whatever was typed before it. -/
theorem step_halts (hinitialised : Initialised ui)
    (htext : line.command.argument = .ip → line.typed.text.isSome) :
    (step line ui).map (fun _ => ()) = outcome Line.halts? [line] := by
  obtain ⟨command, typed⟩ := line
  rw [outcome, List.findSome?_singleton, Line.halts?]
  dsimp only at htext ⊢
  by_cases hexit : command = .exit
  · subst hexit
    rw [if_pos rfl, step_of_execute hinitialised rfl]
    rfl
  rw [if_neg hexit]
  cases htiming : command.timing with
  | true =>
      rw [step_uses hinitialised.1 (execute_uses htiming typed)]
      rfl
  | false =>
      rw [step_of_execute hinitialised htiming]
      dsimp only
      by_cases hip : command.argument = .ip
      · obtain ⟨text, hfound⟩ := Option.isSome_iff_exists.mp (htext hip)
        rw [execute_accepts hip hfound, hfound]
        cases haccepts : command.accepts text <;> simp [hip, haccepts]
      · obtain ⟨value, reached, hrun⟩ :=
          execute_returns hexit hip (clearLog ui)
        rw [hrun]
        simp [hip, Except.map]

theorem enter_halts {entry : Entry} (hinitialised : Initialised ui)
    (htext : entry.line.command.argument = .ip → entry.typed.text.isSome) :
    (enter entry ui).map (fun _ => ()) = outcome Entry.halts? [entry] := by
  rw [enter, outcome, List.findSome?_singleton, Entry.halts?]
  by_cases hfits : entry.word.length < 8
  · rw [if_pos hfits, if_pos hfits, step_halts hinitialised htext, outcome,
      List.findSome?_singleton]
  · rw [if_neg hfits, if_neg hfits]
    rfl

end Steps

/-! ## Runs -/

section Runs

variable {env : Environment} {args : Arguments} {board : MixerBoard}
variable {tmp : LongWord} {ready : UiState} {entries : List Entry}

/-- The fourth entry works on the packet time enforcer, and the word of the fifth
does not fit. -/
def faultingEntries : List Entry :=
  [⟨"vll".toList, ⟨some 3, none⟩⟩,
    ⟨"strdip".toList, ⟨none, some "1.2.3.4".toList⟩⟩,
    ⟨"plcon".toList, ⟨none, none⟩⟩, ⟨"pbton".toList, ⟨none, none⟩⟩,
    ⟨"setsyncon".toList, ⟨none, none⟩⟩]

end Runs

end Songpark.UiControl
