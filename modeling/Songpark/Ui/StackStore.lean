import Songpark.Device.ConfigStore
import Songpark.Ui.MacAddress
import Songpark.Ui.Startup
import Songpark.Ui.Streaming

/-!
# The UDP stack over the life of a process

The initialisation configures the UDP stack from the arguments, and twenty
commands change it afterwards.  What it holds is a small store: the two halves
of the MAC address and one word for each parameter.  The registers hold this
store from the initialisation on, and each line acts on it alone, whatever the
other devices and the variables of the loop hold.
-/

namespace Songpark.UiControl

open Songpark.RegisterFile Songpark.RegIo Songpark.Scan Songpark.StateProgram
open Songpark.Address Songpark.EthParam Songpark.ConfigStore
open Songpark.StreamControl

/-- The halves of the MAC address and the parameters. -/
structure StackWords where
  macHigh : Word
  macLow : Word
  data : EthParamId → Word

namespace StackWords

def put (words : StackWords) (param : EthParamId) (data : Word) : StackWords :=
  { words with data := Function.update words.data param data }

theorem put_data (words : StackWords) (param : EthParamId) (data : Word) :
    (words.put param data).data = Function.update words.data param data := rfl

def putMac (words : StackWords) (mac : Mac) : StackWords :=
  { words with
    macHigh := (macWords mac).1
    macLow := (macWords mac).2 }

/-- The synchronisation clears a bit of the address. -/
def disturbMac (words : StackWords) : StackWords :=
  { words with macHigh := clearLow words.macHigh }

def switch (words : StackWords) (change : Word → Word) : StackWords :=
  words.put .ethControl (change (words.data .ethControl))

def typeAddress (words : StackWords) (param : EthParamId) (typed : Typed) :
    StackWords :=
  match typed.text.bind extractIpAddress with
  | some octets => words.put param (ipWord octets)
  | none => words

def typeMac (words : StackWords) (typed : Typed) : StackWords :=
  match typed.text.bind extractMacAddress with
  | some mac => words.putMac mac
  | none => words

def typePort (words : StackWords) (param : EthParamId) (typed : Typed) :
    StackWords :=
  match typed.number with
  | some port => words.put param port
  | none => words

/-- What a line makes of the store.  `strnsp` is left out: the mask it applies
depends on what is left in the upper half of `tmp`. -/
def after (words : StackWords) (line : Line) : StackWords :=
  match line.command with
  | .strmac => words.typeMac line.typed
  | .strsip => words.typeAddress .syncIp line.typed
  | .strdip => words.typeAddress .destIp line.typed
  | .strlip => words.typeAddress .localIp line.typed
  | .strgip => words.typeAddress .gtwayIp line.typed
  | .strmask => words.typeAddress .maskIp line.typed
  | .strport => words.typePort .destPort line.typed
  | .strsport => words.typePort .syncPort line.typed
  | .setsyncon | .tgsync => words.disturbMac
  | .strstop => (words.switch (· &&& 0xFFFFFFFD)).disturbMac
  | .creset | .freset | .rxrsync => words.switch (· &&& 0xFFFFFFFD)
  | .strrxstop => words.switch (· &&& 0xFFFFFFFB)
  | .strstart => words.switch (· ||| 0x02)
  | .strrxon => words.switch (· ||| 0x04)
  | .setsyncen => words.switch (· ||| 0x01)
  | .dreset => words.switch fun control => (control &&& 0xFFFFFFFE) ||| 0x01
  | _ => words

/-- The registers of the stack hold the words, each copy of a parameter the
same. -/
structure Stored (words : StackWords) (board : MixerBoard) : Prop where
  macHigh : board.content ⟨.fullUdpStackIp, 0⟩ = words.macHigh
  macLow : board.content ⟨.fullUdpStackIp, 4⟩ = words.macLow
  data : ∀ param, ∀ offset ∈ paramRegs param,
    board.content ⟨.fullUdpStackIp, offset⟩ = words.data param

end StackWords

/-! ## Writes -/

section Writes

variable {words : StackWords} {board : MixerBoard}

theorem stored_put (hstored : words.Stored board) (param : EthParamId)
    (data : Word) :
    (words.put param data).Stored
      (writeEthParam .fullUdpStackIp param data board).2 where
  macHigh := by
    have hmac : 0 ∉ paramRegs param := fun hmem =>
      (ne_mac_of_mem_paramRegs hmem).1 rfl
    exact (writeEthParam_other _ _ data hmac).trans hstored.macHigh
  macLow := by
    have hmac : 4 ∉ paramRegs param := fun hmem =>
      (ne_mac_of_mem_paramRegs hmem).2 rfl
    exact (writeEthParam_other _ _ data hmac).trans hstored.macLow
  data := by
    intro other offset hmem
    rw [StackWords.put_data]
    by_cases hparam : other = param
    · subst hparam
      rw [writeEthParam_content, if_pos ⟨rfl, hmem⟩, Function.update_self]
    · have hother : offset ∉ paramRegs param := fun hcell =>
        hparam ((mem_paramRegs_iff hcell).mp hmem)
      rw [writeEthParam_other _ _ data hother, Function.update_of_ne hparam]
      exact hstored.data other offset hmem

theorem stored_putMac (hstored : words.Stored board) (mac : Mac) :
    (words.putMac mac).Stored
      (writeEthMac .fullUdpStackIp .mac mac board).2 where
  macHigh := by
    rw [writeEthMac_content]
    simp [StackWords.putMac, macWords]
  macLow := by
    rw [writeEthMac_content]
    simp [StackWords.putMac, macWords]
  data := by
    intro param offset hmem
    obtain ⟨hhigh, hlow⟩ := ne_mac_of_mem_paramRegs hmem
    rw [writeEthMac_content]
    simpa [StackWords.putMac, hhigh, hlow] using hstored.data param offset hmem

/-- What other devices do is not seen in the stack. -/
theorem stored_of_content {after : MixerBoard} (hstored : words.Stored board)
    (hcontent : ∀ cell, cell.dev = Device.fullUdpStackIp →
      after.content cell = board.content cell) :
    words.Stored after where
  macHigh := (hcontent _ rfl).trans hstored.macHigh
  macLow := (hcontent _ rfl).trans hstored.macLow
  data := fun param offset hmem =>
    (hcontent _ rfl).trans (hstored.data param offset hmem)

theorem control_mem_paramRegs : 60 ∈ paramRegs .ethControl :=
  List.mem_singleton.mpr rfl

theorem ne_control_of_mem_paramRegs {param : EthParamId} {offset : ℕ}
    (hmem : offset ∈ paramRegs param) (hparam : param ≠ .ethControl) :
    offset ≠ 60 := by
  rintro rfl
  exact hparam ((mem_paramRegs_iff control_mem_paramRegs).mp hmem)

/-- If only the MAC address and the control word change, the parameters are
those of the store with the new control word. -/
theorem data_of_control {after : MixerBoard} {control : Word}
    (hstored : words.Stored board)
    (hcontrol : after.content ⟨.fullUdpStackIp, 60⟩ = control)
    (hkept : ∀ offset, offset ≠ 0 → offset ≠ 60 →
      after.content ⟨.fullUdpStackIp, offset⟩ =
        board.content ⟨.fullUdpStackIp, offset⟩)
    (param : EthParamId) (offset : ℕ) (hmem : offset ∈ paramRegs param) :
    after.content ⟨.fullUdpStackIp, offset⟩ =
      Function.update words.data .ethControl control param := by
  by_cases hparam : param = .ethControl
  · subst hparam
    obtain rfl : offset = 60 := List.mem_singleton.mp hmem
    rw [hcontrol, Function.update_self]
  · rw [Function.update_of_ne hparam,
      hkept offset (ne_mac_of_mem_paramRegs hmem).1
        (ne_control_of_mem_paramRegs hmem hparam)]
    exact hstored.data param offset hmem

end Writes

/-! ## Typed settings -/

section Setters

variable {command : Command} {param : EthParamId} {typed : Typed}
variable {words : StackWords} {ui reached : UiState}

theorem stored_clearLog (hstored : words.Stored ui.board) :
    words.Stored (clearLog ui).board :=
  stored_of_content hstored fun _ _ => rfl

/-- An address that was found and kept is put into the store. -/
theorem stored_address (hargument : command.argument = .ip)
    (hperform : perform command = writeAddress param)
    (htext : typed.text.isSome) (hstored : words.Stored ui.board)
    (hstep : step ⟨command, typed⟩ ui = .ok reached) :
    (words.typeAddress param typed).Stored reached.board := by
  obtain ⟨text, htext⟩ := Option.isSome_iff_exists.mp htext
  obtain ⟨hrun, _⟩ := step_eq_ok.mp hstep
  obtain ⟨_, hwrite⟩ := (execute_ip_eq_ok hargument).mp hrun
  rw [hperform, writeAddress, StateProgram.bind_apply, observe_apply, htext]
    at hwrite
  rw [StackWords.typeAddress, htext, Option.bind_some]
  cases hoctets : extractIpAddress text with
  | none => simp [hoctets] at hwrite
  | some octets =>
      simp only [Option.getD_some, hoctets, device_apply, Except.ok.injEq,
        Prod.mk.injEq, true_and] at hwrite
      rw [← hwrite]
      exact stored_put (stored_clearLog hstored) param (ipWord octets)

theorem stored_mac (htext : typed.text.isSome)
    (hstored : words.Stored ui.board)
    (hstep : step ⟨.strmac, typed⟩ ui = .ok reached) :
    (words.typeMac typed).Stored reached.board := by
  obtain ⟨text, htext⟩ := Option.isSome_iff_exists.mp htext
  obtain ⟨hrun, _⟩ := step_eq_ok.mp hstep
  obtain ⟨_, hwrite⟩ := (execute_ip_eq_ok rfl).mp hrun
  rw [perform, writeMac, StateProgram.bind_apply, observe_apply, htext]
    at hwrite
  rw [StackWords.typeMac, htext, Option.bind_some]
  cases hmac : extractMacAddress text with
  | none => simp [hmac] at hwrite
  | some mac =>
      simp only [Option.getD_some, hmac, device_apply, Except.ok.injEq,
        Prod.mk.injEq, true_and] at hwrite
      rw [← hwrite]
      exact stored_putMac (stored_clearLog hstored) mac

theorem stored_showPort {board : MixerBoard} (hstored : words.Stored board)
    (port : Word) :
    (words.put .destPort port).Stored (showPort port board).2 :=
  stored_of_content (stored_put hstored .destPort port)
    fun _ hcell => showPort_stack port board hcell

theorem stored_strport (hnumber : typed.number.isSome)
    (hstored : words.Stored ui.board)
    (hstep : step ⟨.strport, typed⟩ ui = .ok reached) :
    (words.typePort .destPort typed).Stored reached.board := by
  obtain ⟨port, hport⟩ := Option.isSome_iff_exists.mp hnumber
  obtain ⟨hrun, _⟩ := step_eq_ok.mp hstep
  rw [execute_strport, hport, Option.getD_some] at hrun
  rw [StackWords.typePort, hport]
  cases hrun
  exact stored_showPort (stored_clearLog hstored) port

theorem stored_strsport (hnumber : typed.number.isSome)
    (hstored : words.Stored ui.board)
    (hstep : step ⟨.strsport, typed⟩ ui = .ok reached) :
    (words.typePort .syncPort typed).Stored reached.board := by
  obtain ⟨port, hport⟩ := Option.isSome_iff_exists.mp hnumber
  obtain ⟨hrun, _⟩ := step_eq_ok.mp hstep
  rw [execute_strsport, hport, Option.getD_some] at hrun
  rw [StackWords.typePort, hport]
  cases hrun
  exact stored_put (stored_clearLog hstored) .syncPort port

end Setters

/-! ## Other commands -/

/-- The commands that put a typed value into the store. -/
def Command.setsStack : Command → Bool
  | .strmac | .strsip | .strdip | .strlip | .strgip | .strmask | .strport
  | .strsport => true
  | _ => false

section Switches

variable {line : Line} {words : StackWords} {ui reached : UiState}

/-- The other commands change two registers of the stack at most. -/
theorem stack_offsets {command : Command}
    (hsetter : command.setsStack = false) :
    ∀ cell ∈ footprint command, cell.dev = .fullUdpStackIp →
      cell.offset = 0 ∨ cell.offset = 60 := by
  revert hsetter
  cases command <;> decide

/-- What they make of the store, word by word. -/
theorem after_eq (hsetter : line.command.setsStack = false)
    (hspeed : line.command ≠ .strnsp) (tmp : LongWord) :
    words.after line =
      { words with
        macHigh :=
          if line.command.clearsMac then clearLow words.macHigh
          else words.macHigh
        data := Function.update words.data .ethControl
          (controlAfter line tmp (words.data .ethControl)) } := by
  have hsame : ({ words with
      data := Function.update words.data .ethControl
        (words.data .ethControl) } : StackWords) = words := by
    rw [Function.update_eq_self]
  obtain ⟨command, typed⟩ := line
  cases command
  case strnsp => exact absurd rfl hspeed
  case strmac | strsip | strdip | strlip | strgip | strmask | strport
      | strsport => cases hsetter
  case setsyncon | tgsync => exact congrArg StackWords.disturbMac hsame.symm
  case strstop | creset | freset | rxrsync | strrxstop | strstart | strrxon
      | setsyncen | dreset => rfl
  all_goals exact hsame.symm

theorem stored_switch (hsetter : line.command.setsStack = false)
    (hspeed : line.command ≠ .strnsp) (hstored : words.Stored ui.board)
    (hstep : step line ui = .ok reached) :
    (words.after line).Stored reached.board := by
  have hkept : ∀ offset, offset ≠ 0 → offset ≠ 60 →
      reached.board.content ⟨.fullUdpStackIp, offset⟩ =
        ui.board.content ⟨.fullUdpStackIp, offset⟩ := by
    intro offset hhigh hcontrol
    refine step_cell hstep fun hmem => ?_
    rcases stack_offsets hsetter _ hmem rfl with hoffset | hoffset
    · exact hhigh hoffset
    · exact hcontrol hoffset
  rw [after_eq hsetter hspeed ui.tmp]
  constructor
  case macHigh =>
    have hmac : line.command ≠ .strmac := fun hcommand => by
      rw [hcommand] at hsetter
      cases hsetter
    rw [step_macHigh hmac hstep, hstored.macHigh]
  case macLow =>
    exact (hkept 4 (by decide) (by decide)).trans hstored.macLow
  case data =>
    apply data_of_control hstored _ hkept
    rw [step_control hstep, hstored.data .ethControl 60 control_mem_paramRegs]

end Switches

/-! ## Runs -/

/-- The line finds the argument that it puts into the store, and is not the one
whose effect hangs on the rest of `tmp`. -/
structure Line.Settled (line : Line) : Prop where
  text : line.command.argument = .ip → line.typed.text.isSome
  port : line.command.argument = .destPort → line.typed.number.isSome
  no_speed : line.command ≠ .strnsp

section Runs

variable {line : Line} {lines : List Line} {words : StackWords}
variable {ui reached : UiState}

/-- One line does to the registers what it does to the store. -/
theorem stored_after (hsettled : line.Settled) (hstored : words.Stored ui.board)
    (hstep : step line ui = .ok reached) :
    (words.after line).Stored reached.board := by
  cases hsetter : line.command.setsStack with
  | false => exact stored_switch hsetter hsettled.no_speed hstored hstep
  | true =>
      obtain ⟨htext, hport, _⟩ := hsettled
      obtain ⟨command, typed⟩ := line
      cases command
      case strmac => exact stored_mac (htext rfl) hstored hstep
      case strsip | strdip | strlip | strgip | strmask =>
        exact stored_address rfl rfl (htext rfl) hstored hstep
      case strport => exact stored_strport (hport rfl) hstored hstep
      case strsport => exact stored_strsport (hport rfl) hstored hstep
      all_goals cases hsetter

theorem stored_run (hsettled : ∀ line ∈ lines, line.Settled)
    (hstored : words.Stored ui.board)
    (hrun : runLines lines ui = .ok reached) :
    (lines.foldl StackWords.after words).Stored reached.board :=
  run_refines (fun words ui => words.Stored ui.board) StackWords.after
    (fun line hline _ _ _ => stored_after (hsettled line hline)) hstored hrun

end Runs

/-! ## The initialisation -/

/-- The words in the first register of each parameter. -/
def stackWords (board : MixerBoard) : StackWords where
  macHigh := board.content ⟨.fullUdpStackIp, 0⟩
  macLow := board.content ⟨.fullUdpStackIp, 4⟩
  data := fun param =>
    ((paramRegs param).head?.map fun offset =>
      board.content ⟨.fullUdpStackIp, offset⟩).getD 0

/-- The settings of the start-up; the octets are extended with their sign. -/
def StackWords.putSettings (words : StackWords) (mac : Mac)
    (localIp destIp maskIp gatewayIp : Fin 4 → Byte)
    (destPort syncPort : Word) : StackWords :=
  let addressed := (words.putMac mac)
    |>.put .localIp (packOctets (·.signExtend 32) localIp)
    |>.put .destIp (packOctets (·.signExtend 32) destIp)
    |>.put .maskIp (packOctets (·.signExtend 32) maskIp)
    |>.put .gtwayIp (packOctets (·.signExtend 32) gatewayIp)
  (addressed.put .destPort destPort).put .syncPort syncPort

/-- What the arguments make of the store, if they are accepted.  The defaults
that are set at the end switch the synchronisation off. -/
def Arguments.stack? (args : Arguments) (words : StackWords) :
    Option StackWords := do
  let copied ← args.copied?
  let mac ← extractMacAddress copied.localMac
  let localIp ← extractIpAddress copied.localIp
  let destIp ← extractIpAddress copied.destIp
  let maskIp ← extractIpAddress copied.maskIp
  let gatewayIp ← extractIpAddress copied.gatewayIp
  let settled := words.putSettings mac localIp destIp maskIp gatewayIp
    copied.destPort copied.syncPort
  return settled.disturbMac.switch (· &&& 0xFFFFFFFE)

section Startup

variable {env : Environment} {args : Arguments} {copied : NetworkSettings}
variable {ui reached : UiState}

theorem startCodec_stack {value : Unit}
    (hrun : startCodec env ui = .ok (value, reached)) :
    ∀ cell, cell.dev = Device.fullUdpStackIp →
      reached.board.content cell = ui.board.content cell := by
  intro cell hcell
  unfold startCodec at hrun
  split at hrun
  case h_2 => cases hrun
  case h_1 state hcodec =>
    cases hrun
    have hothers := congrArg Prod.snd (Codec.initCodec_keeps _ _ _ hcodec)
    have hcodec : cell.dev ≠ .adau1761 := by
      rw [hcell]
      decide
    exact congrFun hothers ⟨cell, hcodec⟩

theorem copyArgument_keeps (argument : Text) :
    Keeps (fun ui : UiState => ui) (copyArgument argument) := by
  unfold copyArgument
  cases formatText argument with
  | none => exact .halt _
  | some text => exact .ite (.pure _) (.halt _)

theorem readPort_keeps (argument : Option Text) :
    Keeps (fun ui : UiState => ui) (readPort argument) := by
  cases argument with
  | none => exact .halt _
  | some text => exact .pure _

theorem copyArguments_keeps :
    Keeps (fun ui : UiState => ui) (copyArguments args) :=
  .bind (copyArgument_keeps _) fun _ => .bind (copyArgument_keeps _)
    fun _ => .bind (copyArgument_keeps _) fun _ =>
    .bind (copyArgument_keeps _) fun _ =>
    .bind (copyArgument_keeps _) fun _ =>
    .bind (readPort_keeps _) fun _ => .bind (readPort_keeps _) fun _ =>
    .pure _

theorem copied?_of_copyArguments
    (hrun : copyArguments args ui = .ok (copied, reached)) :
    args.copied? = some copied := by
  have hends : (copyArguments args ui).map Prod.fst =
      orUndefined args.copied? := copyArguments_ends ui
  rw [hrun] at hends
  cases hcopied : args.copied? with
  | none => simp [hcopied, orUndefined, Except.map] at hends
  | some found => simpa [hcopied, orUndefined, Except.map] using hends.symm

/-- A successful initialisation reached the configuration of the stack with the
copied arguments, and with the registers of the stack as they were. -/
theorem initialise_stages (hinit : initialise env args ui = .ok (0, reached)) :
    ∃ copied started configured,
      args.copied? = some copied ∧
      (∀ cell, cell.dev = Device.fullUdpStackIp →
        started.board.content cell = ui.board.content cell) ∧
      configureStack copied started = .ok ((), configured) ∧
      setDefaults configured = .ok ((), reached) := by
  obtain ⟨coded, exported, copied, started, configured, hcodec, hgpios, hcopied,
    hstack, hdefaults⟩ := initialise_chain hinit
  have hkeeps : Keeps (fun ui : UiState => ui) (initGpios env) :=
    .ite (.halt _) (.pure _)
  have hexported : exported = coded := hkeeps _ _ _ hgpios
  have hstarted : started = coded :=
    (copyArguments_keeps _ _ _ hcopied).trans hexported
  refine ⟨copied, started, configured, copied?_of_copyArguments hcopied, ?_,
    hstack, hdefaults⟩
  intro cell hcell
  -- the mapping stage changes base pointers only
  rw [hstarted, startCodec_stack hcodec cell hcell]
  rfl

/-- The writes that configure the stack. -/
def stackCalls (mac : Mac) (localIp destIp maskIp gatewayIp : Fin 4 → Byte)
    (destPort syncPort : Word) : List ConfigCall :=
  [.ethMac .mac mac,
    .ethParam .localIp (packOctets (·.signExtend 32) localIp),
    .ethParam .destIp (packOctets (·.signExtend 32) destIp),
    .ethParam .maskIp (packOctets (·.signExtend 32) maskIp),
    .ethParam .gtwayIp (packOctets (·.signExtend 32) gatewayIp),
    .ethParam .destPort destPort,
    .ethParam .syncPort syncPort]

theorem configureStack_eq_ok
    (hrun : configureStack copied ui = .ok ((), reached)) :
    ∃ mac localIp destIp maskIp gatewayIp,
      extractMacAddress copied.localMac = some mac ∧
      extractIpAddress copied.localIp = some localIp ∧
      extractIpAddress copied.destIp = some destIp ∧
      extractIpAddress copied.maskIp = some maskIp ∧
      extractIpAddress copied.gatewayIp = some gatewayIp ∧
      reached.board = configured .fullUdpStackIp
        (stackCalls mac localIp destIp maskIp gatewayIp
          copied.destPort copied.syncPort) ui.board := by
  have hparsed : copied.parsed := by
    have hends : (configureStack copied ui).map Prod.fst =
        requires copied.parsed := configureStack_ends ui
    rw [hrun] at hends
    by_contra hparsed
    simp [requires, hparsed, Except.map] at hends
  simp only [NetworkSettings.parsed, Bool.and_eq_true, Option.isSome_iff_exists]
    at hparsed
  obtain ⟨⟨mac, hmac⟩, ⟨localIp, hlocal⟩, ⟨destIp, hdest⟩, ⟨maskIp, hmask⟩,
    gatewayIp, hgateway⟩ := hparsed
  refine ⟨mac, localIp, destIp, maskIp, gatewayIp, hmac, hlocal, hdest, hmask,
    hgateway, ?_⟩
  simp only [configureStack, configureMac, configureNetwork, configureAddress,
    hmac, hlocal, hdest, hmask, hgateway] at hrun
  cases hrun
  rfl

/-- The store before the defaults are set, from the words that were in the
stack. -/
theorem stored_putSettings {board before : MixerBoard}
    (hbefore : ∀ cell, cell.dev = Device.fullUdpStackIp →
      board.content cell = before.content cell)
    (mac : Mac) (localIp destIp maskIp gatewayIp : Fin 4 → Byte)
    (destPort syncPort : Word) :
    ((stackWords before).putSettings mac localIp destIp maskIp gatewayIp
      destPort syncPort).Stored
      (configured .fullUdpStackIp
        (stackCalls mac localIp destIp maskIp gatewayIp destPort syncPort)
        board) where
  macHigh := by
    simp [configured, drive, stackCalls, ConfigCall.perform, paramRegs,
      StackWords.putSettings, StackWords.putMac, StackWords.put, macWords]
  macLow := by
    simp [configured, drive, stackCalls, ConfigCall.perform, paramRegs,
      StackWords.putSettings, StackWords.putMac, StackWords.put, macWords]
  data := by
    intro param offset hmem
    rw [configured_content hmem, hbefore _ rfl]
    cases param
    case mac | netIdMax => cases hmem
    case localIp | destIp | gtwayIp | maskIp | destPort | syncPort => rfl
    case syncIp | pktLen | ethControl =>
      obtain rfl := List.mem_singleton.mp hmem
      rfl

/-- Switching the synchronisation off clears the lowest bit of the control
word. -/
theorem switchSyncOff_control {board : MixerBoard}
    (hbase : board.base .fullUdpStackIp ≠ .null) :
    (switchSyncOff board).2.content ⟨.fullUdpStackIp, 60⟩ =
      board.content ⟨.fullUdpStackIp, 60⟩ &&& 0xFFFFFFFE := by
  have hoff : (setSyncOff .audioToEth board).2.base .fullUdpStackIp ≠ .null :=
    hbase
  rw [switchSyncOff, RegisterFile.bind_apply, modifyControl_content hoff,
    Function.update_self]
  simp [setSyncOff_content]

theorem stored_setDefaults {words : StackWords} (hmapped : Mapped reached.board)
    (hstored : words.Stored ui.board)
    (hrun : setDefaults ui = .ok ((), reached)) :
    (words.disturbMac.switch (· &&& 0xFFFFFFFE)).Stored reached.board := by
  obtain ⟨⟨access, hmem, hdev⟩, hhigh, hlow⟩ := setDefaults_content hrun
  have hbase : reached.board.base .fullUdpStackIp = .mapped :=
    hdev ▸ hmapped access hmem
  have hcontrol : reached.board.content ⟨.fullUdpStackIp, 60⟩ =
      ui.board.content ⟨.fullUdpStackIp, 60⟩ &&& 0xFFFFFFFE := by
    obtain ⟨_, prepared, hprepare, hlast⟩ := bind_eq_ok.mp hrun
    cases hlast
    have hwithin : Within (Set.univ : Set Register) switchSyncOff :=
      .bind (within_setSyncOff (Set.mem_univ _) (Set.mem_univ _)) fun _ =>
        within_modifyControl (Set.mem_univ _)
    have hprepared : prepared.board.base .fullUdpStackIp = .mapped :=
      (congrFun (hwithin.base_eq prepared.board) _).symm.trans hbase
    have hkept : prepared.board.content ⟨.fullUdpStackIp, 60⟩ =
        ui.board.content ⟨.fullUdpStackIp, 60⟩ :=
      prepareMixer_within.content_eq hprepare fun hother => hother rfl
    rw [← hkept]
    exact switchSyncOff_control (by simp [hprepared])
  constructor
  case macHigh => exact hhigh.trans (congrArg clearLow hstored.macHigh)
  case macLow => exact hlow.trans hstored.macLow
  case data =>
    apply data_of_control hstored
    · have hword := hstored.data .ethControl 60 control_mem_paramRegs
      exact hcontrol.trans (congrArg (· &&& 0xFFFFFFFE) hword)
    · exact fun offset hmac hoffset => setDefaults_stack hmac hoffset hrun

/-- After a successful initialisation the stack holds what the arguments make
of its old words. -/
theorem stored_initialise (hinit : initialise env args ui = .ok (0, reached)) :
    ∃ words, args.stack? (stackWords ui.board) = some words ∧
      words.Stored reached.board := by
  obtain ⟨hmapped, _⟩ := initialise_eq_zero hinit
  obtain ⟨copied, started, settled, hcopied, hbefore, hstack, hdefaults⟩ :=
    initialise_stages hinit
  obtain ⟨mac, localIp, destIp, maskIp, gatewayIp, hmac, hlocal, hdest, hmask,
    hgateway, hsettled⟩ := configureStack_eq_ok hstack
  have hstored := stored_putSettings hbefore mac localIp destIp maskIp gatewayIp
    copied.destPort copied.syncPort
  rw [← hsettled] at hstored
  refine ⟨_, ?_, stored_setDefaults hmapped hstored hdefaults⟩
  simp only [Arguments.stack?, hcopied, hmac, hlocal, hdest, hmask, hgateway,
    Option.bind_eq_bind, Option.bind_some, Option.pure_def]

/-- From the initialisation on the stack holds the store of the arguments, on
which every line of a run has acted. -/
theorem stack_refines {ready : UiState} {lines : List Line}
    (hinit : initialise env args ui = .ok (0, ready))
    (hsettled : ∀ line ∈ lines, line.Settled)
    (hrun : runLines lines ready = .ok reached) :
    ∃ words, args.stack? (stackWords ui.board) = some words ∧
      (lines.foldl StackWords.after words).Stored reached.board := by
  obtain ⟨words, hwords, hready⟩ := stored_initialise hinit
  exact ⟨words, hwords, stored_run hsettled hready hrun⟩

end Startup

/-- A new destination, and a stream that is started and stopped. -/
def streamLines : List Line :=
  [⟨.strdip, ⟨none, some (dottedQuad ![10, 0, 0, 7])⟩⟩,
    ⟨.strstart, ⟨none, none⟩⟩, ⟨.strstop, ⟨none, none⟩⟩]

theorem stack_refines_stream :
    ∃ ready reached words,
      initialise answeringSystem sampleArguments (start blankBoard 0) =
        .ok (0, ready) ∧
      runLines streamLines ready = .ok reached ∧
      sampleArguments.stack? (stackWords blankBoard) = some words ∧
      (streamLines.foldl StackWords.after words).Stored reached.board := by
  obtain ⟨ready, hinit⟩ := initialise_answeringSystem
  have hruns : ((initialise answeringSystem sampleArguments
      (start blankBoard 0)).bind fun returned =>
        runLines streamLines returned.2).isOk := by
    decide +kernel
  rw [hinit] at hruns
  obtain ⟨reached, hrun⟩ := exists_of_isOk _ hruns
  have hsettled : ∀ line ∈ streamLines, line.Settled := by
    intro line hline
    simp only [streamLines, List.mem_cons, List.not_mem_nil, or_false] at hline
    rcases hline with rfl | rfl | rfl <;>
      exact ⟨by decide, by decide, by decide⟩
  obtain ⟨words, hwords, hstored⟩ := stack_refines hinit hsettled hrun
  exact ⟨ready, reached, words, hinit, hrun, hwords, hstored⟩

end Songpark.UiControl
