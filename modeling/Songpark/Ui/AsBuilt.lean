import Songpark.Ui.Screen
import Songpark.Ui.Streaming

/-!
# The process as it is built

In `main` the call of `ui_init` is commented out, so the command loop runs with
all base pointers `NULL`.  A command then either faults at its first access, or
it makes none: because it only changes variables, or because its driver function
tests the pointer first.  What such a process does depends on `tmp` and `ip`
alone, so it is the small machine of this file.
-/

namespace Songpark.UiControl

open Songpark.RegisterFile Songpark.RegIo Songpark.Scan Songpark.StateProgram
open Songpark.Address Songpark.EthParam Songpark.MixerControl
open Songpark.StreamControl

/-- The two variables that decide how the process goes on. -/
structure Locals where
  tmp : LongWord
  ip : Text
  deriving DecidableEq

def locals (ui : UiState) : Locals where
  tmp := ui.tmp
  ip := ui.ip

/-- One command without a device.  The four address reports show the error value
of `read_eth_param`. -/
def unmappedLine (line : Line) (vars : Locals) : Except Halt Locals :=
  match line.command with
  | .exit => .error .exit
  | .strmac | .strsip | .strdip | .strlip | .strgip | .strmask =>
      if line.command.accepts (line.typed.text.getD vars.ip) then .error .fault
      else .error .undefined
  | .strnsp =>
      if line.typed.intoTmp vars.tmp < 3 then .error .fault
      else .ok { vars with tmp := line.typed.intoTmp vars.tmp }
  | .setsqsdly => .ok { vars with tmp := line.typed.intoTmp vars.tmp }
  | .getdip | .getlip | .getgip | .getmask =>
      .ok ⟨0xFFFFFFFF, printIp 0xFFFFFFFF⟩
  | .vgg | .vll | .vlr | .vnl | .vnr | .lfhe | .lfhd | .lfbe | .lfbd | .lfle
  | .lfld | .nfhe | .nfhd | .nfbe | .nfbd | .nfle | .nfld | .nstats | .astatus
  | .dstatus | .pbtreset | .getport | .help | .invalid => .ok vars
  | _ => .error .fault

/-- One round of the loop without a device. -/
def unmappedStep (entry : Entry) (vars : Locals) : Except Halt Locals :=
  if entry.word.length < 8 then unmappedLine entry.line vars
  else .error .undefined

/-- `main`: too few arguments, or a thread that cannot be created, end it before
the loop.  Otherwise the state is that of the loop after the entries. -/
def main (argc : ℕ) (created : ℤ) (entries : List Entry) (ui : UiState) :
    Except Halt (Option UiState) :=
  if argc < 6 then .ok none
  else if created ≠ 0 then .ok none
  else (run enter entries ui).map some

/-! ## Commands that come to an access -/

section Uses

variable {dev : Device} {offset shown : ℕ}

theorem uses_writeShowing {data : Word} :
    Uses dev (writeShowing dev offset shown data) :=
  .bind_left .writeReg fun _ => .bind (.readReg _ _) fun _ => .pure _

theorem uses_modifyReg {change : Word → Word} :
    Uses dev (modifyReg dev offset change) :=
  .bind_right fun _ => .writeReg

theorem uses_modifyShown {change : Word → Word} :
    Uses dev (modifyShown dev offset change) :=
  .bind_left uses_modifyReg fun _ => .bind (.readReg _ _) fun _ => .pure _

theorem uses_pulse {raise keep : Word} :
    Uses dev (pulse dev offset raise keep) :=
  .bind_right fun _ => .bind_right fun _ => .writeReg

theorem uses_pulseShown {raise keep : Word} :
    Uses dev (pulseShown dev offset raise keep) :=
  .bind_left uses_pulse fun _ => .bind (.readReg _ _) fun _ => .pure _

theorem uses_writeEthMac {mac : Mac} : Uses dev (writeEthMac dev .mac mac) :=
  .bind_right fun _ => .writeReg

theorem uses_readEthMac : Uses dev (readEthMac dev) :=
  .bind_left .readReg fun _ => .bind (.readReg _ _) fun _ => .pure _

/-! ### Bodies shared by several commands -/

theorem uses_resetReceive : Uses .ethToAudio resetReceive :=
  .bind_right fun _ => .bind_right fun _ => .bind_right fun _ => uses_pulse

theorem uses_resetDac : Uses .ethToAudio resetDac :=
  .bind_right fun _ => .bind_right fun _ => .bind_right fun _ =>
    .bind_right fun _ => .bind_right fun _ => uses_pulse

theorem uses_startTransmit : Uses .audioToEth startTransmit :=
  .bind_right fun _ => .bind_right fun _ => uses_pulse

theorem uses_stopTransmit : Uses .fullUdpStackIp stopTransmit :=
  .bind_right fun _ => .bind_right fun _ =>
    .bind_left (uses_writeEthParam (by decide) _) fun _ =>
    .bind (within_readEthParam _) fun _ => .pure _

theorem uses_readTimeCodes : Uses .ethToAudio readTimeCodes :=
  .bind_right fun _ => .bind_right fun _ => .bind_right fun _ =>
    .bind_right fun _ => .bind_right fun _ => .bind_right fun _ =>
    .bind_right fun _ => .readReg

theorem uses_getAllEth2audio {dev : Device} : Uses dev (getAllEth2audio dev) :=
  .bind_right fun _ => .bind_right fun _ => .readReg

theorem uses_showPort (destPort : Word) :
    Uses .fullUdpStackIp (showPort destPort) :=
  .bind_left (uses_writeEthParam (by decide) _) fun _ =>
    .bind (Display.within_oledClear (Set.subset_univ _)) fun _ =>
    .bind (Display.within_oledPrintMessage (Set.subset_univ _) _ _ _) fun _ =>
    Display.within_oledPrintMessage (Set.subset_univ _) _ _ _

/-! ### Programs of the loop -/

/-- An access comes after parts that return. -/
theorem UiUses.after {α β : Type} {dev : Device} {program : UiM α}
    {next : α → UiM β} (hprogram : Returns program)
    (hnext : ∀ value, UiUses dev (next value)) :
    UiUses dev (program >>= next) := by
  intro ui
  obtain ⟨value, middle, hfirst⟩ := hprogram ui
  obtain ⟨result, reached, hsecond, hused⟩ := hnext value middle
  exact ⟨result, reached, bind_eq_ok.mpr ⟨value, middle, hfirst, hsecond⟩, hused⟩

/-- An access comes before parts that only change variables. -/
theorem UiUses.before {α β : Type} {dev : Device} {program : UiM α}
    {next : α → UiM β} (hprogram : UiUses dev program)
    (hreturns : ∀ value, Returns (next value))
    (hkeeps : ∀ value, Keeps UiState.board (next value)) :
    UiUses dev (program >>= next) := by
  intro ui
  obtain ⟨value, middle, hfirst, hused⟩ := hprogram ui
  obtain ⟨result, reached, hsecond⟩ := hreturns value middle
  refine ⟨result, reached,
    bind_eq_ok.mpr ⟨value, middle, hfirst, hsecond⟩, ?_⟩
  rw [hkeeps value middle result reached hsecond]
  exact hused

theorem uses_cleared {dev : Device} {program : DeviceM Unit}
    (hprogram : Uses dev program) :
    UiUses dev (do
      device program
      clearDisplay) := by
  intro ui
  obtain ⟨access, hmem, hdev⟩ := hprogram ui.board
  obtain ⟨result, hresult, happly⟩ := cleared_apply program ui
  have hlogs := (within_clearedRows []).logs (program ui.board).2
  rw [hresult] at hlogs
  exact ⟨_, _, happly, access, hlogs.mem hmem, hdev⟩

theorem uses_message {dev : Device} {program : DeviceM Unit} {message : Text}
    {page : ℕ} (hprogram : Uses dev program) :
    UiUses dev (do
      device program
      clearDisplay
      showMessage message page) := by
  intro ui
  obtain ⟨access, hmem, hdev⟩ := hprogram ui.board
  have hlogs := (within_clearedRows [(message, page)]).logs
    (program ui.board).2
  exact ⟨_, _, message_apply program message page ui, access, hlogs.mem hmem,
    hdev⟩

end Uses

/-- The device that the driver functions of a command access without looking at
the pointer; the commands of the packet time enforcer are not among them. -/
def Command.needs? : Command → Option Device
  | .areset | .strteston | .strtestm1 | .strtestm2 | .strtestm3 | .strtestm4
  | .strtestm5 | .strtestoff | .strpktcon | .strpktcoff | .strsndon
  | .strsndoff | .strstart | .strplen | .getplen | .setsyncon | .tgsync =>
      some .audioToEth
  | .dreset | .freset | .rxrsync | .sethdrstrip | .clearhdrstrip
  | .strxteston | .strxtestm1 | .strxtestm2 | .strxtestm3 | .strxtestm4
  | .strxtestm5 | .strxtestoff | .sethdrlen | .strselarm | .strseleth
  | .setdlim | .setbslk | .setbdlm | .setpblim | .plcoff | .plcon | .strblen
  | .setpoutdly | .getpoutdly | .getpouttime | .getsynctime | .getalle2a
  | .getrxtc | .getrxtceff | .getrxtcocc | .setlooplimit | .gettcvars
  | .getpoutr | .getpoutw | .getfocc | .setcrwin | .tgsrcorr | .setcoron
  | .setcoroff | .gete2astatus | .getblen | .getbrdly => some .ethToAudio
  | .preset | .pseqoff | .pseqon | .strporder | .setppdly | .setplcpktsize
  | .setprdly | .setsqlkdly | .sqwon | .sqwoff | .sqsdon | .sqsdoff
  | .getporder | .getpdrop | .getpreplaced | .getsqgs | .getsqrx | .getsqtx
  | .getsqov | .getsqos | .getsqis => some .ethPacketSequencer
  | .setsyncoff | .setsyncrst | .setsyncdly => some .timeSync
  | .creset | .setsyncen | .strrxon | .strrxstop | .strstop | .strport
  | .strsport | .getmac => some .fullUdpStackIp
  | _ => none

section Needs

variable {command : Command} {dev : Device}

theorem needs_perform (hneeds : command.needs? = some dev)
    (hport : command ≠ .strport) : UiUses dev (perform command) := by
  cases command
  case strport => exact absurd rfl hport
  all_goals first | (obtain rfl := Option.some.inj hneeds) | cases hneeds
  all_goals rw [perform]
  case strteston | strtestm3 | strtestm4 | strtestm5 =>
    exact .device uses_modifyReg
  case strtestm1 | strtestm2 => exact uses_message uses_modifyReg
  case strxtestm1 => exact uses_message uses_writeShowing
  case plcon => exact uses_message uses_modifyShown
  case plcoff => exact uses_cleared uses_modifyShown
  case strtestoff | strpktcon | strpktcoff | strsndon | strsndoff | pseqoff
      | pseqon | sqwon | sqwoff | sqsdon | sqsdoff | setcoron | setcoroff =>
    exact .device uses_modifyShown
  case areset | strselarm | strseleth => exact .device uses_pulse
  case preset | setsyncrst => exact .device uses_pulseShown
  case sethdrstrip | clearhdrstrip | strxtestm2 | strxtestm3 | strxtestm4
      | strxtestm5 | setsyncoff | strxteston | strxtestoff =>
    exact .device uses_writeShowing
  case dreset => exact .device uses_resetDac
  case creset => exact .device uses_pulseTransmit
  case freset | rxrsync => exact .device uses_resetReceive
  case strstart => exact .device uses_startTransmit
  case strstop => exact .device uses_stopTransmit
  case strrxon | strrxstop => exact .device (uses_modifyControl _)
  case setsyncen => exact .device (.bind_right fun _ => uses_modifyControl _)
  case setsyncon | tgsync =>
    exact .device (.bind_right fun _ => uses_writeShowing)
  case tgsrcorr => exact .device (.bind_right fun _ => uses_modifyShown)
  case gete2astatus =>
    exact .device (.bind_left .readReg fun _ => .pure _)
  case getalle2a =>
    exact .before (.device uses_getAllEth2audio) (fun _ => .pure _)
      fun _ => .pure _
  case getmac =>
    exact .before (.device uses_readEthMac)
      (fun _ => .bind (.change _) fun _ => .change _)
      fun _ => .bind (.change fun _ => rfl) fun _ => .change fun _ => rfl
  case strplen =>
    exact .after (.observe _) fun _ => .after (.change _) fun _ =>
      .after (.change _) fun _ => .after (returns_warnLength _ _) fun _ =>
      .device .writeReg
  case setplcpktsize =>
    exact .after (.observe _) fun _ => .after (returns_warnLength _ _) fun _ =>
      .device uses_writeShowing
  case strsport =>
    exact .after (.observe _) fun _ =>
      .device (uses_writeEthParam (by decide) _)
  case gettcvars => exact .fetchWith uses_readTimeCodes
  case setppdly => exact .withTmp fun _ => uses_writeWideShown
  case setpblim =>
    exact .withTmp fun _ => .bind_right fun _ => uses_writeShowing
  case strblen => exact .withTmp fun _ => .bind_right fun _ => uses_pulse
  case setbslk | setbdlm => exact .withTmp fun _ => .writeReg
  case sethdrlen | strporder | setdlim | setprdly | setsqlkdly | setpoutdly
      | setcrwin | setsyncdly | setlooplimit =>
    exact .withTmp fun _ => uses_writeShowing
  all_goals exact .fetchWith .readReg

theorem needs_execute (hneeds : command.needs? = some dev) (typed : Typed) :
    UiUses dev (execute command typed) := by
  by_cases hport : command = .strport
  · subst hport
    obtain rfl := Option.some.inj hneeds
    intro ui
    exact ⟨_, _, execute_strport, uses_showPort _ ui.board⟩
  · refine .after ?_ fun _ => needs_perform hneeds hport
    cases hargument : command.argument with
    | ip =>
        have hnone : command.needs? = none := by
          cases command <;> first | rfl | cases hargument
        rw [hnone] at hneeds
        cases hneeds
    | nothing => exact .pure _
    | gain | tmp | destPort => exact .change _

end Needs

/-! ## Guarded driver functions -/

section Guards

variable {dev : Device} {board : MixerBoard}

theorem setFilterType_null (hnull : board.base dev = .null)
    (type enable : Word) : setFilterType dev type enable board = (-1, board) := by
  simp only [setFilterType, RegisterFile.bind_apply, isNull_apply, hnull]
  rfl

theorem readFifoStatus_null (hnull : board.base dev = .null) (fifo : FifoId) :
    readFifoStatus dev fifo board = (-1, board) := by
  simp only [readFifoStatus, RegisterFile.bind_apply, isNull_apply, hnull]
  rfl

theorem readEthParam_null (hnull : board.base dev = .null) (param : ℕ) :
    readEthParam dev param board = (-1, board) := by
  simp only [readEthParam, RegisterFile.bind_apply, isNull_apply, hnull]
  rfl

end Guards

/-! ## Steps -/

section Steps

variable {line : Line} {command : Command} {typed : Typed} {text : Text}
variable {ui reached : UiState}

/-- All base pointers are as the process starts. -/
def Unmounted (ui : UiState) : Prop := ∀ dev, ui.board.base dev = .null

theorem unmounted_clearLog (hnull : Unmounted ui) :
    Unmounted (clearLog ui) := hnull

/-- A command without an access returns. -/
theorem step_quiet
    (hrun : execute line.command line.typed (clearLog ui) = .ok ((), reached))
    (hboard : reached.board = (clearLog ui).board) :
    step line ui = .ok reached := by
  refine step_eq_ok.mpr ⟨hrun, ?_⟩
  intro access hmem
  rw [hboard] at hmem
  cases hmem

/-- An accepted address is written. -/
theorem accepts_uses (hip : command.argument = .ip)
    (htext : typed.text = some text) (haccepts : command.accepts text) :
    UiUses .fullUdpStackIp (execute command typed) := by
  intro ui
  rw [Command.accepts, Bool.and_eq_true, decide_eq_true_eq] at haccepts
  obtain ⟨hlength, hparsed⟩ := haccepts
  rw [execute_text hip htext, if_pos hlength]
  cases command
  case strmac =>
    obtain ⟨mac, hmac⟩ := Option.isSome_iff_exists.mp hparsed
    rw [perform, writeMac, StateProgram.bind_apply, observe_apply]
    dsimp only
    rw [hmac]
    exact ⟨_, _, rfl, uses_writeEthMac _⟩
  case strsip | strdip | strlip | strgip | strmask =>
    obtain ⟨octets, hoctets⟩ := Option.isSome_iff_exists.mp hparsed
    rw [perform, writeAddress, StateProgram.bind_apply, observe_apply]
    dsimp only
    rw [hoctets]
    exact ⟨_, _, rfl, uses_writeEthParam (by decide) _ _⟩
  all_goals exact absurd hip (by decide)

/-- A word that is not there is the one read before. -/
theorem execute_retyped (hip : command.argument = .ip) :
    execute command typed ui =
      execute command ⟨typed.number, some (typed.text.getD ui.ip)⟩ ui := by
  rw [execute, execute, hip]
  rfl

/-- An address is parsed before its write faults. -/
theorem step_address (hnull : Unmounted ui) (hip : command.argument = .ip) :
    step ⟨command, typed⟩ ui =
      if command.accepts (typed.text.getD ui.ip) then .error .fault
      else .error .undefined := by
  have hretyped : step ⟨command, typed⟩ ui =
      step ⟨command, typed.number, some (typed.text.getD ui.ip)⟩ ui := by
    rw [step, step, execute_retyped hip]
    rfl
  rw [hretyped]
  split_ifs with haccepts
  · exact step_uses (hnull _) (accepts_uses hip rfl haccepts)
  · have hmap : (execute command
        ⟨typed.number, some (typed.text.getD ui.ip)⟩ (clearLog ui)).map
          (fun _ => ()) = _ := execute_accepts hip rfl
    rw [if_neg haccepts] at hmap
    rw [step]
    cases hrun : execute command
        ⟨typed.number, some (typed.text.getD ui.ip)⟩ (clearLog ui) with
    | error halted =>
        rw [hrun] at hmap
        cases hmap
        rfl
    | ok returned =>
        rw [hrun] at hmap
        cases hmap

theorem setSpeed_unselected {tmp : LongWord} {board : MixerBoard}
    (hnull : board.base .fullUdpStackIp = .null) (htmp : ¬tmp < 3) :
    (setSpeed tmp board).2 = board := by
  rw [setSpeed, RegisterFile.bind_apply, readEthParam_null hnull]
  dsimp only
  rw [if_neg (by bv_omega), if_neg (by bv_omega), if_neg (by bv_omega)]
  rfl

theorem step_strnsp (hnull : Unmounted ui) :
    (step ⟨.strnsp, typed⟩ ui).map locals =
      if typed.intoTmp ui.tmp < 3 then .error .fault
      else .ok { locals ui with tmp := typed.intoTmp ui.tmp } := by
  have hrun : execute .strnsp typed (clearLog ui) = _ :=
    execute_withTmp rfl rfl
  have hnone : (clearLog ui).board.base .fullUdpStackIp = .null := hnull _
  split_ifs with htmp
  · have hselected : typed.intoTmp ui.tmp = 0 ∨ typed.intoTmp ui.tmp = 1 ∨
        typed.intoTmp ui.tmp = 2 := by bv_omega
    obtain ⟨access, hmem, hdev⟩ := uses_setSpeed hselected (clearLog ui).board
    rw [step_faults hrun hmem (hdev ▸ hnull _)]
    rfl
  · have hboard := setSpeed_unselected hnone htmp
    rw [step_quiet hrun hboard]
    rfl

/-- A device program that returns early changes nothing. -/
theorem device_quiet {α : Type} {program : DeviceM α} {value : α}
    (hquiet : program ui.board = (value, ui.board)) :
    device program ui = .ok (value, ui) := by
  rw [device_apply, hquiet]

theorem step_idle {vars : Locals}
    (hrun : execute command typed (clearLog ui) = .ok ((), reached))
    (hboard : reached.board = (clearLog ui).board)
    (hlocals : locals reached = vars) :
    (step ⟨command, typed⟩ ui).map locals = .ok vars := by
  rw [step_quiet hrun hboard, ← hlocals]
  rfl

/-- A filter is not switched without its device, but recorded. -/
theorem step_filter (hnull : Unmounted ui)
    (hnothing : command.argument = .nothing) {filterBase : Device} {type : Word}
    {enable : Byte} {store : Byte → UiParameters → UiParameters}
    {index : Fin 29}
    (hperform : perform command =
      setFilter filterBase type enable store index) :
    (step ⟨command, typed⟩ ui).map locals = .ok (locals ui) := by
  have hquiet : device (setFilterType filterBase type (enable.setWidth 32))
      (clearLog ui) = .ok (-1, clearLog ui) :=
    device_quiet
      (setFilterType_null (unmounted_clearLog hnull filterBase) _ _)
  have hrun : execute command typed (clearLog ui) = .ok ((),
      { clearLog ui with
        params := store enable ui.params
        setting :=
          Function.update ui.setting index (enable.setWidth 32) }) := by
    rw [execute_nothing hnothing, hperform, setFilter,
      StateProgram.bind_apply, hquiet]
    rfl
  exact step_idle hrun rfl rfl

theorem step_status (hnull : Unmounted ui)
    (hnothing : command.argument = .nothing) {dev : Device} {fifo : FifoId}
    (hperform : perform command = (do
      let _ ← device (readFifoStatus dev fifo))) :
    (step ⟨command, typed⟩ ui).map locals = .ok (locals ui) := by
  have hquiet : device (readFifoStatus dev fifo) (clearLog ui) =
      .ok (-1, clearLog ui) :=
    device_quiet (readFifoStatus_null (unmounted_clearLog hnull dev) _)
  have hrun : execute command typed (clearLog ui) = .ok ((), clearLog ui) := by
    rw [execute_nothing hnothing, hperform, StateProgram.bind_apply, hquiet]
    rfl
  exact step_idle hrun rfl rfl

/-- An address report shows the error value. -/
theorem step_report_unmapped (hnull : Unmounted ui)
    (hnothing : command.argument = .nothing) {param : EthParamId}
    (hperform : perform command = reportAddress param) :
    (step ⟨command, typed⟩ ui).map locals =
      .ok ⟨0xFFFFFFFF, printIp 0xFFFFFFFF⟩ := by
  have hquiet : readEthParam .fullUdpStackIp param.code (clearLog ui).board =
      (-1, (clearLog ui).board) :=
    readEthParam_null (unmounted_clearLog hnull .fullUdpStackIp) _
  have hrun : execute command typed (clearLog ui) =
      print (printIp 0xFFFFFFFF ++ ['\n'])
        { clearLog ui with tmp := 0xFFFFFFFF, ip := printIp 0xFFFFFFFF } := by
    have hfetch : fetchWith (·.setWidth 64)
        (readEthParam .fullUdpStackIp param.code) (clearLog ui) = _ :=
      fetchWith_apply _ _ _
    rw [hquiet] at hfetch
    rw [execute_nothing hnothing, hperform, reportAddress,
      StateProgram.bind_apply, fetch, hfetch]
    rfl
  exact step_idle hrun rfl rfl

theorem step_getport_unmapped (hnull : Unmounted ui) :
    (step ⟨.getport, typed⟩ ui).map locals = .ok (locals ui) := by
  have hquiet : device (readEthParam .fullUdpStackIp EthParamId.destPort.code)
      (clearLog ui) = .ok (-1, clearLog ui) :=
    device_quiet (readEthParam_null (unmounted_clearLog hnull .fullUdpStackIp) _)
  have hrun : execute .getport typed (clearLog ui) =
      reportPort (clearLog ui) := by
    rw [execute_nothing rfl, perform]
  rw [reportPort, StateProgram.bind_apply, hquiet] at hrun
  exact step_idle hrun rfl rfl

/-- Without devices a command is one of the small machine. -/
theorem step_unmapped (hnull : Unmounted ui) :
    (step line ui).map locals = unmappedLine line (locals ui) := by
  obtain ⟨command, typed⟩ := line
  cases hneeds : command.needs? with
  | some dev =>
      rw [step_uses (hnull dev) (needs_execute hneeds typed)]
      cases command <;> first | rfl | cases hneeds
  | none =>
  cases htiming : command.timing with
  | true =>
      rw [step_uses (hnull _) (execute_uses htiming typed)]
      cases command <;> first | rfl | cases htiming
  | false =>
  cases command
  case exit => rfl
  case strmac | strsip | strdip | strlip | strgip | strmask =>
    rw [step_address hnull rfl]
    dsimp only [unmappedLine, locals]
    split_ifs <;> rfl
  case strnsp => exact step_strnsp hnull
  case setsqsdly => exact step_idle rfl rfl rfl
  case getdip | getlip | getgip | getmask =>
    exact step_report_unmapped hnull rfl (by rw [perform])
  case getport => exact step_getport_unmapped hnull
  case lfhe | lfhd | lfbe | lfbd | lfle | lfld | nfhe | nfhd | nfbe | nfbd
      | nfle | nfld => exact step_filter hnull rfl (by rw [perform])
  case astatus | dstatus => exact step_status hnull rfl (by rw [perform])
  case vgg | vll | vlr | vnl | vnr | nstats | pbtreset | help | invalid =>
    exact step_idle rfl rfl rfl
  all_goals first | exact absurd hneeds (by decide) | cases htiming

end Steps

section Process

variable {entry : Entry} {entries : List Entry} {ui reached : UiState}

theorem enter_unmapped (hnull : Unmounted ui) :
    (enter entry ui).map locals = unmappedStep entry (locals ui) := by
  rw [enter, unmappedStep]
  split_ifs
  · exact step_unmapped hnull
  · rfl

theorem enter_unmounted (hnull : Unmounted ui)
    (henter : enter entry ui = .ok reached) : Unmounted reached := by
  intro dev
  rw [step_base (enter_eq_ok.mp henter).2]
  exact hnull dev

/-- Without devices a run is a run of the small machine. -/
theorem run_unmapped (hnull : Unmounted ui) :
    (run enter entries ui).map locals =
      run unmappedStep entries (locals ui) := by
  apply run_map unmappedStep Unmounted _ _ hnull
  · intro entry _ state hstate
    exact enter_unmapped hstate
  · intro entry _ state next hstate henter
    exact enter_unmounted hstate henter

end Process

end Songpark.UiControl
