import Songpark.Ui.Frame

/-!
# Whether the device is streaming

Bit 1 of the control word says that the device transmits, bit 2 that it
receives.  Two pairs of commands switch them; resets pulse the same bits and
leave them cleared.  The main result is the exact condition on the steps of a
run under which both bits always follow the last switch.
-/

namespace Songpark.UiControl

open Songpark.RegisterFile Songpark.RegIo Songpark.StateProgram
open Songpark.EthParam Songpark.StreamControl

abbrev controlReg : Register := ⟨.fullUdpStackIp, 60⟩

/-- The control word after `strnsp`. -/
def speedControl (tmp : LongWord) (control : Word) : Word :=
  if tmp = 0 then control &&& 0xFFFFFFF9
  else if tmp = 1 then control &&& 0xFFFFFFFB
  else if tmp = 2 then control &&& 0xFFFFFFFD
  else control

/-- The control word a command leaves, from the one it finds. -/
def controlAfter (line : Line) (tmp : LongWord) (control : Word) : Word :=
  match line.command with
  | .creset | .freset | .rxrsync | .strstop => control &&& 0xFFFFFFFD
  | .strrxstop => control &&& 0xFFFFFFFB
  | .strstart => control ||| 0x02
  | .strrxon => control ||| 0x04
  | .setsyncen => control ||| 0x01
  | .dreset => (control &&& 0xFFFFFFFE) ||| 0x01
  | .strnsp => speedControl (line.typed.intoTmp tmp) control
  | _ => control

/-! ## Effects of the driver code on the control word -/

section Effects

variable {board : MixerBoard}

theorem pulseTransmit_control (hbase : board.base .fullUdpStackIp ≠ .null) :
    (pulseTransmit board).2.content controlReg =
      board.content controlReg &&& 0xFFFFFFFD := by
  simp [pulseTransmit, readEthParam_ethControl hbase, paramRegs]

theorem resetReceive_control (hbase : board.base .fullUdpStackIp ≠ .null) :
    (resetReceive board).2.content controlReg =
      board.content controlReg &&& 0xFFFFFFFD := by
  rw [← pulseTransmit_control hbase]
  simp [resetReceive]

theorem resetDac_control (hbase : board.base .fullUdpStackIp ≠ .null) :
    (resetDac board).2.content controlReg =
      (board.content controlReg &&& 0xFFFFFFFE) ||| 0x01 := by
  simp [resetDac, timeSyncTxOff, timeSyncTxEn, modifyControl_content, hbase]

theorem startTransmit_control (hbase : board.base .fullUdpStackIp ≠ .null) :
    (startTransmit board).2.content controlReg =
      board.content controlReg ||| 0x02 := by
  simp [startTransmit, modifyControl_content hbase]

theorem stopTransmit_control (hbase : board.base .fullUdpStackIp ≠ .null) :
    (stopTransmit board).2.content controlReg =
      board.content controlReg &&& 0xFFFFFFFD := by
  simp [stopTransmit, readEthParam_ethControl hbase, paramRegs]

theorem setSpeed_control (hbase : board.base .fullUdpStackIp ≠ .null)
    (tmp : LongWord) :
    (setSpeed tmp board).2.content controlReg =
      speedControl tmp (board.content controlReg) := by
  rw [setSpeed, RegisterFile.bind_apply, speedControl,
    readEthParam_ethControl hbase]
  split
  · simp [paramRegs]
  · split
    · simp [paramRegs]
    · split
      · simp [paramRegs]
      · simp

end Effects

/-! ## One command -/

section Steps

variable {line : Line} {ui reached : UiState}

theorem uses_pulseTransmit : Uses .fullUdpStackIp pulseTransmit :=
  .bind_right fun _ => .bind_right fun _ => uses_writeEthParam (by decide) _

theorem uses_setSpeed {tmp : LongWord} (hspeed : tmp = 0 ∨ tmp = 1 ∨ tmp = 2) :
    Uses .fullUdpStackIp (setSpeed tmp) := by
  have hwrite : ∀ data,
      Uses .fullUdpStackIp (writeEthParam .fullUdpStackIp .ethControl data) :=
    uses_writeEthParam (by decide)
  refine .bind_right fun buf => ?_
  rcases hspeed with rfl | rfl | rfl
  · exact hwrite _
  · exact hwrite _
  · exact hwrite _

/-- A command that drives the board through the control word. -/
theorem step_control_of_device (change : Word → Word) {command : Command}
    {typed : Typed} {program : DeviceM Unit}
    (hargument : command.argument = .nothing)
    (hperform : perform command = device program)
    (huses : Uses .fullUdpStackIp program)
    (hcontrol : ∀ board : MixerBoard, board.base .fullUdpStackIp ≠ .null →
      (program board).2.content controlReg = change (board.content controlReg))
    (hstep : step ⟨command, typed⟩ ui = .ok reached) :
    reached.board.content controlReg = change (ui.board.content controlReg) := by
  have hreached := step_device hargument hperform hstep
  have hboard := congrArg UiState.board hreached
  have hbase := mapped_of_uses huses hstep hboard
  rw [hboard, hcontrol _ (by simp [hbase]), clearLog_content]

theorem step_speed {typed : Typed}
    (hstep : step ⟨.strnsp, typed⟩ ui = .ok reached) :
    reached.board.content controlReg =
      speedControl (typed.intoTmp ui.tmp) (ui.board.content controlReg) := by
  have hboard := congrArg UiState.board (step_withTmp rfl rfl hstep)
  dsimp only at hboard
  generalize typed.intoTmp ui.tmp = tmp at hboard ⊢
  by_cases hspeed : tmp = 0 ∨ tmp = 1 ∨ tmp = 2
  · have hbase := mapped_of_uses (uses_setSpeed hspeed) hstep hboard
    rw [hboard, setSpeed_control (by simp [hbase]), clearLog_content]
  · obtain ⟨hzero, hone, htwo⟩ : tmp ≠ 0 ∧ tmp ≠ 1 ∧ tmp ≠ 2 := by
      simpa only [not_or] using hspeed
    rw [hboard, setSpeed, RegisterFile.bind_apply, if_neg hzero, if_neg hone,
      if_neg htwo, speedControl, if_neg hzero, if_neg hone, if_neg htwo]
    simp

/-- Every command changes the control word as `controlAfter` says. -/
theorem step_control (hstep : step line ui = .ok reached) :
    reached.board.content controlReg =
      controlAfter line ui.tmp (ui.board.content controlReg) := by
  obtain ⟨command, typed⟩ := line
  cases command
  case creset =>
    exact step_control_of_device _ rfl rfl uses_pulseTransmit
      (fun _ => pulseTransmit_control) hstep
  case freset | rxrsync =>
    exact step_control_of_device _ rfl rfl
      (uses_pulseTransmit.bind_left fun _ =>
        .bind (within_pulseShown (Set.mem_univ _)) fun _ =>
        .bind (within_pulse (Set.mem_univ _)) fun _ =>
        within_pulse (Set.mem_univ _))
      (fun _ => resetReceive_control) hstep
  case dreset =>
    exact step_control_of_device _ rfl rfl
      ((uses_modifyControl _).bind_left fun _ =>
        .bind (within_writeShown (Set.mem_univ _)) fun _ =>
        .bind (within_pulseShown (Set.mem_univ _)) fun _ =>
        .bind (within_writeShown (Set.mem_univ _)) fun _ =>
        .bind (within_modifyControl (Set.mem_univ _)) fun _ =>
        within_pulse (Set.mem_univ _))
      (fun _ => resetDac_control) hstep
  case setsyncen =>
    refine step_control_of_device (· ||| 0x01) rfl rfl
      (.bind_right fun _ => uses_modifyControl _) (fun board hbase => ?_) hstep
    have hsynced : (timeSyncEn .timeSync board).2.base .fullUdpStackIp ≠
        .null := hbase
    rw [RegisterFile.bind_apply, modifyControl_content hsynced]
    simp
  case strstart =>
    exact step_control_of_device _ rfl rfl
      ((uses_modifyControl _).bind_left fun _ =>
        .bind (within_readEthParam _) fun _ =>
        within_pulse (Set.mem_univ _))
      (fun _ => startTransmit_control) hstep
  case strrxon =>
    refine step_control_of_device (· ||| 0x04) rfl rfl (uses_modifyControl _)
      (fun board hbase => ?_) hstep
    rw [modifyControl_content hbase, Function.update_self]
  case strrxstop =>
    refine step_control_of_device (· &&& 0xFFFFFFFB) rfl rfl
      (uses_modifyControl _) (fun board hbase => ?_) hstep
    rw [modifyControl_content hbase, Function.update_self]
  case strstop =>
    exact step_control_of_device _ rfl rfl
      (.bind_right fun _ => .bind_right fun _ =>
        (uses_writeEthParam (by decide) _).bind_left fun _ =>
        .bind (within_readEthParam _) fun _ => .pure _)
      (fun _ => stopTransmit_control) hstep
  case strnsp => exact step_speed hstep
  all_goals exact command_cell (by decide) hstep

end Steps

/-! ## Following the last switch -/

/-- Whether the last of two switches was the one that turns on. -/
def lastSwitch (on off : Command) (lines : List Line) : Option Bool :=
  lines.foldl (fun last line =>
    if line.command = on then some true
    else if line.command = off then some false
    else last) none

theorem lastSwitch_concat (on off : Command) (lines : List Line)
    (line : Line) :
    lastSwitch on off (lines ++ [line]) =
      if line.command = on then some true
      else if line.command = off then some false
      else lastSwitch on off lines := by
  simp [lastSwitch]

abbrev lastTransmit : List Line → Option Bool := lastSwitch .strstart .strstop
abbrev lastReceive : List Line → Option Bool := lastSwitch .strrxon .strrxstop

/-- Both bits are as the last switch left them. -/
def Follows (lines : List Line) (ui : UiState) : Prop :=
  (∀ on ∈ lastTransmit lines, (ui.board.content controlReg).getLsbD 1 = on) ∧
    ∀ on ∈ lastReceive lines, (ui.board.content controlReg).getLsbD 2 = on

/-- The command is no switch and clears the transmit bit. -/
def clearsTransmit (line : Line) (tmp : LongWord) : Bool :=
  match line.command with
  | .creset | .freset | .rxrsync => true
  | .strnsp => line.typed.intoTmp tmp = 0 || line.typed.intoTmp tmp = 2
  | _ => false

/-- The command is no switch and clears the receive bit. -/
def clearsReceive (line : Line) (tmp : LongWord) : Bool :=
  match line.command with
  | .strnsp => line.typed.intoTmp tmp = 0 || line.typed.intoTmp tmp = 1
  | _ => false

/-- The command leaves alone what is switched on. -/
def LeavesOn (lines : List Line) (line : Line) (ui : UiState) : Prop :=
  (lastTransmit lines = some true → clearsTransmit line ui.tmp = false) ∧
    (lastReceive lines = some true → clearsReceive line ui.tmp = false)

section Bits

variable (line : Line) (tmp : LongWord) (control : Word)

theorem speedControl_transmit :
    (speedControl tmp control).getLsbD 1 =
      (control.getLsbD 1 && !(tmp = 0 || tmp = 2)) := by
  unfold speedControl
  split
  case isTrue hzero => simp [hzero]
  case isFalse hzero =>
    split
    case isTrue hone => simp [hone]
    case isFalse hone =>
      split
      case isTrue htwo => simp [htwo]
      case isFalse htwo =>
        rw [decide_eq_false hzero, decide_eq_false htwo, Bool.or_false,
          Bool.not_false, Bool.and_true]

theorem speedControl_receive :
    (speedControl tmp control).getLsbD 2 =
      (control.getLsbD 2 && !(tmp = 0 || tmp = 1)) := by
  unfold speedControl
  split
  case isTrue hzero => simp [hzero]
  case isFalse hzero =>
    split
    case isTrue hone => simp [hone]
    case isFalse hone =>
      split
      case isTrue htwo => simp [htwo]
      case isFalse htwo =>
        rw [decide_eq_false hzero, decide_eq_false hone, Bool.or_false,
          Bool.not_false, Bool.and_true]

/-- The transmit bit is set by its switch, cleared by the other and by a
disturbing command, and kept by all the rest. -/
theorem controlAfter_transmit :
    (controlAfter line tmp control).getLsbD 1 =
      if line.command = .strstart then true
      else if line.command = .strstop then false
      else control.getLsbD 1 && !clearsTransmit line tmp := by
  obtain ⟨command, typed⟩ := line
  cases command
  case strnsp => exact speedControl_transmit _ _
  all_goals simp [controlAfter, clearsTransmit]

theorem controlAfter_receive :
    (controlAfter line tmp control).getLsbD 2 =
      if line.command = .strrxon then true
      else if line.command = .strrxstop then false
      else control.getLsbD 2 && !clearsReceive line tmp := by
  obtain ⟨command, typed⟩ := line
  cases command
  case strnsp => exact speedControl_receive _ _
  all_goals simp [controlAfter, clearsReceive]

end Bits

/-! ## A whole run -/

/-- A bit that a pair of commands switches and some others clear follows the
last switch after a command exactly when that command does not clear it while
it is on. -/
theorem follows_concat_iff {on off : Command} (hne : on ≠ off)
    {lines : List Line} {line : Line} {old new clears : Bool}
    (hnew : new =
      if line.command = on then true
      else if line.command = off then false
      else old && !clears)
    (hswitch : line.command = on ∨ line.command = off → clears = false)
    (hold : ∀ value ∈ lastSwitch on off lines, old = value) :
    (∀ value ∈ lastSwitch on off (lines ++ [line]), new = value) ↔
      (lastSwitch on off lines = some true → clears = false) := by
  rw [lastSwitch_concat, hnew]
  by_cases hon : line.command = on
  · simp [hon, hswitch (Or.inl hon)]
  · by_cases hoff : line.command = off
    · simp [hoff, hne.symm, hswitch (Or.inr hoff)]
    · rw [if_neg hon, if_neg hoff, if_neg hon, if_neg hoff]
      cases hlast : lastSwitch on off lines with
      | none => simp
      | some value =>
          have hvalue := hold value hlast
          cases value with
          | false => simp [hvalue]
          | true => simp [hvalue]

/-- Both bits follow the last switches throughout a run exactly when no command
of the run clears a bit that is switched on. -/
theorem always_follows_iff (lines : List Line) (ui : UiState) :
    Always step lines ui Follows ↔ EveryStep step lines ui LeavesOn := by
  refine always_iff_everyStep ⟨by simp [lastSwitch], by simp [lastSwitch]⟩ ?_
  intro before line state reached hfollows hstep
  have hcontrol := step_control hstep
  have htransmit := follows_concat_iff (by decide : Command.strstart ≠ .strstop)
    (controlAfter_transmit line state.tmp _)
    (by rintro (h | h) <;> simp [clearsTransmit, h]) hfollows.1
  have hreceive := follows_concat_iff (by decide : Command.strrxon ≠ .strrxstop)
    (controlAfter_receive line state.tmp _)
    (by rintro (h | h) <;> simp [clearsReceive, h]) hfollows.2
  rw [← hcontrol] at htransmit hreceive
  exact and_congr htransmit hreceive

/-- Resetting the core while it transmits stops it, and no stop command was
executed. -/
theorem reset_stops_transmit :
    ¬ ∀ (lines : List Line) (ui reached : UiState),
      runLines lines ui = .ok reached → Follows lines reached := by
  intro hall
  obtain ⟨reached, hrun⟩ := exists_of_isOk (runLines
    [⟨.strstart, ⟨none, none⟩⟩, ⟨.creset, ⟨none, none⟩⟩]
    (start blankBoard 0)) (by decide)
  have hbit := (hall _ _ _ hrun).1 true (by decide)
  obtain ⟨started, hstart, hrest⟩ := run_cons.mp hrun
  obtain ⟨reset, hreset, hend⟩ := run_cons.mp hrest
  obtain rfl := run_nil.mp hend
  rw [step_control hreset, controlAfter_transmit] at hbit
  simp [clearsTransmit] at hbit

end Songpark.UiControl
