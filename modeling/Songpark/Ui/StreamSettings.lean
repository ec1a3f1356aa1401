import Songpark.Ui.Frame

/-!
# Independence of the stream settings

Thirteen settings of the audio stream are kept in registers.  Their functions
use several families of offsets and the callers choose the device, so that three
pairs of settings end up in the same register.  The main result says for every
two settings, all values and every state whether the two are independent.
-/

namespace Songpark.UiControl

open Songpark.RegisterFile Songpark.RegIo Songpark.StateProgram
open Songpark.StreamControl

inductive SettingKind
  | hdrLen
  | hdrStrip
  | bufLen
  | playoutDelay
  | loopLimit
  | pktBufLim
  | bufDlim
  | bufSlack
  | bufDoccLim
  | pktOrder
  | replaceDelay
  | seqLockDelay
  | plcPktSize
  deriving DecidableEq

/-- The registers a setting is kept in. -/
def SettingKind.registers : SettingKind → List Register
  | .hdrLen | .bufDlim => [⟨.ethToAudio, 36⟩]
  | .hdrStrip | .bufSlack => [⟨.ethToAudio, 40⟩]
  | .playoutDelay | .bufDoccLim => [⟨.ethToAudio, 44⟩]
  | .bufLen => [⟨.ethToAudio, 20⟩]
  | .loopLimit => [⟨.ethToAudio, 116⟩]
  | .pktBufLim => [⟨.ethPacketSequencer, 24⟩, ⟨.ethToAudio, 24⟩]
  | .pktOrder => [⟨.ethPacketSequencer, 0⟩]
  | .replaceDelay => [⟨.ethPacketSequencer, 32⟩]
  | .seqLockDelay => [⟨.ethPacketSequencer, 40⟩]
  | .plcPktSize => [⟨.ethPacketSequencer, 28⟩]

/-- The other setting that is kept in the same register, if there is one. -/
def SettingKind.clash : SettingKind → Option SettingKind
  | .hdrLen => some .bufDlim
  | .bufDlim => some .hdrLen
  | .hdrStrip => some .bufSlack
  | .bufSlack => some .hdrStrip
  | .playoutDelay => some .bufDoccLim
  | .bufDoccLim => some .playoutDelay
  | _ => none

/-- A setting with the number typed for it; for the header strip the number only
tells whether to strip. -/
structure StreamSetting where
  kind : SettingKind
  data : Word

namespace StreamSetting

def command (setting : StreamSetting) : Command :=
  match setting.kind with
  | .hdrLen => .sethdrlen
  | .hdrStrip => if setting.data = 0 then .clearhdrstrip else .sethdrstrip
  | .bufLen => .strblen
  | .playoutDelay => .setpoutdly
  | .loopLimit => .setlooplimit
  | .pktBufLim => .setpblim
  | .bufDlim => .setdlim
  | .bufSlack => .setbslk
  | .bufDoccLim => .setbdlm
  | .pktOrder => .strporder
  | .replaceDelay => .setprdly
  | .seqLockDelay => .setsqlkdly
  | .plcPktSize => .setplcpktsize

/-- The line carries out the setting. -/
def EnteredBy (setting : StreamSetting) (line : Line) : Prop :=
  line.command = setting.command ∧
    (setting.kind ≠ .hdrStrip → line.typed.number = some setting.data)

/-- The value a setting is kept as. -/
def value (setting : StreamSetting) : Word :=
  match setting.kind with
  | .hdrStrip => if setting.data = 0 then 0 else 1
  | .playoutDelay => setting.data * 96
  | .plcPktSize => setting.data - 2
  | _ => setting.data

/-- The register file after a setting; the buffer length also resets the
fifos. -/
def apply (setting : StreamSetting) (content : Register → Word) :
    Register → Word := fun cell =>
  if cell ∈ setting.kind.registers then setting.value
  else if setting.kind = .bufLen ∧ cell = ⟨.ethToAudio, 0⟩ then
    content cell &&& 0xFFFFFFFC
  else content cell

end StreamSetting

/-! ## Effects of the commands -/

section Effects

variable {setting : StreamSetting} {line : Line} {typed : Typed}
variable {ui reached : UiState} {number : Word} {tmp : LongWord}

/-- A setting kept in one register is one update of the register file. -/
theorem apply_single (hkind : setting.kind ≠ .bufLen) {cell : Register}
    (hregisters : setting.kind.registers = [cell]) (content : Register → Word) :
    setting.apply content = Function.update content cell setting.value := by
  funext other
  simp only [StreamSetting.apply, hregisters, hkind, List.mem_singleton,
    false_and, if_false, Function.update_apply]

theorem step_setting (hentered : setting.EnteredBy line)
    (hstep : step line ui = .ok reached) :
    reached.board.content = setting.apply ui.board.content := by
  obtain ⟨kind, data⟩ := setting
  obtain ⟨command, typed⟩ := line
  obtain ⟨hcommand, hnumber⟩ := hentered
  dsimp only at hcommand hnumber
  subst hcommand
  cases kind
  case hdrLen | loopLimit | bufDlim | bufSlack | bufDoccLim | pktOrder
      | replaceDelay | seqLockDelay =>
    rw [step_withTmp rfl rfl hstep, apply_single (by simp) rfl]
    simp [intoTmp_low (hnumber (by simp)), StreamSetting.value]
  case hdrStrip =>
    rw [apply_single (by simp) rfl]
    by_cases hdata : data = 0
    · simp only [StreamSetting.command, hdata, if_true] at hstep
      rw [step_device rfl rfl hstep, StreamSetting.value, if_pos hdata]
      rfl
    · simp only [StreamSetting.command, hdata, if_false] at hstep
      rw [step_device rfl rfl hstep, StreamSetting.value, if_neg hdata]
      rfl
  case bufLen =>
    rw [step_withTmp rfl rfl hstep]
    funext cell
    simp [intoTmp_low (hnumber (by simp)), StreamSetting.value,
      StreamSetting.apply, SettingKind.registers, Function.update_apply]
    grind
  case playoutDelay =>
    rw [step_withTmp rfl rfl hstep, apply_single (by simp) rfl]
    simp [BitVec.setWidth_mul, intoTmp_low (hnumber (by simp)),
      StreamSetting.value]
  case pktBufLim =>
    rw [step_withTmp rfl rfl hstep]
    funext cell
    simp [intoTmp_low (hnumber (by simp)), StreamSetting.value,
      StreamSetting.apply, SettingKind.registers, Function.update_apply]
    grind
  case plcPktSize =>
    rw [step_setplcpktsize hstep, apply_single (by simp) rfl]
    simp [lowHalf_sub, intoTmp_low (hnumber (by simp)), StreamSetting.value]

end Effects

/-! ## Shared registers -/

section Clashes

variable {left right : SettingKind} {first second : StreamSetting}
variable {content : Register → Word} {cell : Register}

theorem registers_of_clash : left.clash = some right →
    right.registers = left.registers := by
  cases left <;> cases right <;> decide

theorem clash_symm : left.clash = some right → right.clash = some left := by
  cases left <;> cases right <;> decide

/-- Settings of different kinds that do not clash share no register. -/
theorem registers_disjoint : left ≠ right → left.clash ≠ some right →
    ∀ cell ∈ left.registers, cell ∉ right.registers := by
  cases left <;> cases right <;> decide

theorem fifoReg_not_mem (kind : SettingKind) :
    (⟨.ethToAudio, 0⟩ : Register) ∉ kind.registers := by
  cases kind <;> decide

theorem apply_registers (hcell : cell ∈ first.kind.registers) :
    first.apply content cell = first.value :=
  if_pos hcell

/-- A register of another setting is not changed, unless it is shared. -/
theorem apply_other (hcell : cell ∈ right.registers)
    (hfree : cell ∉ first.kind.registers) :
    first.apply content cell = content cell := by
  have hfifo : cell ≠ ⟨.ethToAudio, 0⟩ := fun heq =>
    fifoReg_not_mem right (heq ▸ hcell)
  rw [StreamSetting.apply, if_neg hfree, if_neg fun h => hfifo h.2]

/-- The condition under which two settings do not disturb each other. -/
def Undisturbed (first second : StreamSetting) (content : Register → Word) :
    Prop :=
  first.kind.clash = some second.kind →
    ∀ cell ∈ first.kind.registers,
      content cell = first.value ∧ content cell = second.value

theorem Undisturbed.symm (hundisturbed : Undisturbed first second content) :
    Undisturbed second first content := by
  intro hclash cell hcell
  rw [← registers_of_clash hclash] at hcell
  exact (hundisturbed (clash_symm hclash) cell hcell).symm

/-- An undisturbed register keeps its content under the other setting. -/
theorem apply_undisturbed (hdiff : first.kind ≠ second.kind)
    (hundisturbed : Undisturbed first second content)
    (hcell : cell ∈ first.kind.registers) :
    second.apply content cell = content cell := by
  by_cases hclash : first.kind.clash = some second.kind
  · have hshared := hcell
    rw [← registers_of_clash hclash] at hshared
    rw [apply_registers hshared, (hundisturbed hclash cell hcell).2]
  · exact apply_other hcell (registers_disjoint hdiff hclash cell hcell)

/-- After both settings the register of the first holds its value, whichever
came last. -/
theorem apply_apply_registers (hdiff : first.kind ≠ second.kind)
    (hundisturbed : Undisturbed first second content)
    (hcell : cell ∈ first.kind.registers) :
    second.apply (first.apply content) cell = first.value := by
  by_cases hclash : first.kind.clash = some second.kind
  · have hshared := hcell
    rw [← registers_of_clash hclash] at hshared
    obtain ⟨hfirst, hsecond⟩ := hundisturbed hclash cell hcell
    rw [apply_registers hshared, ← hsecond, hfirst]
  · rw [apply_other hcell (registers_disjoint hdiff hclash cell hcell),
      apply_registers hcell]

theorem apply_comm (hdiff : first.kind ≠ second.kind)
    (hundisturbed : Undisturbed first second content) :
    second.apply (first.apply content) =
      first.apply (second.apply content) := by
  funext cell
  by_cases hfirst : cell ∈ first.kind.registers
  · rw [apply_apply_registers hdiff hundisturbed hfirst, apply_registers hfirst]
  · by_cases hsecond : cell ∈ second.kind.registers
    · rw [apply_registers hsecond,
        apply_apply_registers hdiff.symm hundisturbed.symm hsecond]
    · simp only [StreamSetting.apply, hfirst, hsecond, if_false]
      split <;> split <;> rfl

end Clashes

/-! ## Independence -/

/-- The registers of a setting hold its value. -/
def StreamSetting.HeldIn (setting : StreamSetting) (ui : UiState) : Prop :=
  ∀ cell ∈ setting.kind.registers, ui.board.content cell = setting.value

/-- Neither line changes what the other setting is kept in, their order makes no
difference to the register file, and both settings hold afterwards. -/
structure Independent (first second : StreamSetting) (a b : Line)
    (ui : UiState) : Prop where
  first_kept : ∀ reached, step b ui = .ok reached →
    ∀ cell ∈ first.kind.registers,
      reached.board.content cell = ui.board.content cell
  second_kept : ∀ reached, step a ui = .ok reached →
    ∀ cell ∈ second.kind.registers,
      reached.board.content cell = ui.board.content cell
  commute : ∀ ab ba, runLines [a, b] ui = .ok ab →
    runLines [b, a] ui = .ok ba → ab.board.content = ba.board.content
  held : ∀ order, order = [a, b] ∨ order = [b, a] → ∀ reached,
    runLines order ui = .ok reached →
      first.HeldIn reached ∧ second.HeldIn reached

section Pairs

variable {first second : StreamSetting} {a b : Line} {ui ab ba : UiState}

theorem run_pair_content (ha : first.EnteredBy a) (hb : second.EnteredBy b)
    (hab : runLines [a, b] ui = .ok ab) :
    ab.board.content = second.apply (first.apply ui.board.content) := by
  obtain ⟨middle, hfirst, hrest⟩ := run_cons.mp hab
  obtain ⟨last, hsecond, hend⟩ := run_cons.mp hrest
  obtain rfl := run_nil.mp hend
  rw [step_setting hb hsecond, step_setting ha hfirst]

theorem held_of_undisturbed (hdiff : first.kind ≠ second.kind)
    (ha : first.EnteredBy a) (hb : second.EnteredBy b)
    (hundisturbed : Undisturbed first second ui.board.content)
    (hab : runLines [a, b] ui = .ok ab) :
    first.HeldIn ab ∧ second.HeldIn ab := by
  have hcontent := run_pair_content ha hb hab
  constructor
  · intro cell hcell
    rw [hcontent]
    exact apply_apply_registers hdiff hundisturbed hcell
  · intro cell hcell
    rw [hcontent]
    exact apply_registers hcell

/-- Two settings are independent exactly when they do not share a register, or
the register they share already holds the values of both. -/
theorem settings_independent_iff (hdiff : first.kind ≠ second.kind)
    (ha : first.EnteredBy a) (hb : second.EnteredBy b)
    (hab : runLines [a, b] ui = .ok ab) (hba : runLines [b, a] ui = .ok ba) :
    Independent first second a b ui ↔
      Undisturbed first second ui.board.content := by
  constructor
  · intro hindependent hclash cell hcell
    obtain ⟨afterA, hstepA, _⟩ := run_cons.mp hab
    obtain ⟨afterB, hstepB, _⟩ := run_cons.mp hba
    have hshared := hcell
    rw [← registers_of_clash hclash] at hshared
    have hfirst := hindependent.first_kept afterB hstepB cell hcell
    have hsecond := hindependent.second_kept afterA hstepA cell hshared
    rw [step_setting hb hstepB, apply_registers hshared] at hfirst
    rw [step_setting ha hstepA, apply_registers hcell] at hsecond
    exact ⟨hsecond.symm, hfirst.symm⟩
  · intro hundisturbed
    constructor
    · intro reached hstep cell hcell
      rw [step_setting hb hstep]
      exact apply_undisturbed hdiff hundisturbed hcell
    · intro reached hstep cell hcell
      rw [step_setting ha hstep]
      exact apply_undisturbed hdiff.symm hundisturbed.symm hcell
    · intro ab ba hab hba
      rw [run_pair_content ha hb hab, run_pair_content hb ha hba]
      exact apply_comm hdiff hundisturbed
    · rintro order (rfl | rfl) reached hrun
      · exact held_of_undisturbed hdiff ha hb hundisturbed hrun
      · exact (held_of_undisturbed hdiff.symm hb ha hundisturbed.symm
          hrun).symm

/-- The header length and the loop limit do not disturb each other. -/
theorem header_loop_independent :
    ∃ ab, runLines [⟨.sethdrlen, ⟨some 42, none⟩⟩,
        ⟨.setlooplimit, ⟨some 7, none⟩⟩] (start blankBoard 0) = .ok ab ∧
      Independent ⟨.hdrLen, 42⟩ ⟨.loopLimit, 7⟩
        ⟨.sethdrlen, ⟨some 42, none⟩⟩ ⟨.setlooplimit, ⟨some 7, none⟩⟩
        (start blankBoard 0) := by
  obtain ⟨ab, hab⟩ := exists_of_isOk (runLines
    [⟨.sethdrlen, ⟨some 42, none⟩⟩, ⟨.setlooplimit, ⟨some 7, none⟩⟩]
    (start blankBoard 0)) (by decide)
  obtain ⟨ba, hba⟩ := exists_of_isOk (runLines
    [⟨.setlooplimit, ⟨some 7, none⟩⟩, ⟨.sethdrlen, ⟨some 42, none⟩⟩]
    (start blankBoard 0)) (by decide)
  exact ⟨ab, hab, (settings_independent_iff (by decide) ⟨rfl, fun _ => rfl⟩
    ⟨rfl, fun _ => rfl⟩ hab hba).mpr fun hclash => absurd hclash (by decide)⟩

/-- The delay limit of the receive buffer overwrites the header length. -/
theorem header_length_overwritten :
    ¬ ∀ (first second : StreamSetting) (a b : Line) (ui ab ba : UiState),
      first.kind ≠ second.kind → first.EnteredBy a → second.EnteredBy b →
      runLines [a, b] ui = .ok ab → runLines [b, a] ui = .ok ba →
      Independent first second a b ui := by
  intro hall
  obtain ⟨ab, hab⟩ := exists_of_isOk (runLines
    [⟨.sethdrlen, ⟨some 42, none⟩⟩, ⟨.setdlim, ⟨some 7, none⟩⟩]
    (start blankBoard 0)) (by decide)
  obtain ⟨ba, hba⟩ := exists_of_isOk (runLines
    [⟨.setdlim, ⟨some 7, none⟩⟩, ⟨.sethdrlen, ⟨some 42, none⟩⟩]
    (start blankBoard 0)) (by decide)
  have ha : (StreamSetting.mk .hdrLen 42).EnteredBy
      ⟨.sethdrlen, ⟨some 42, none⟩⟩ := ⟨rfl, fun _ => rfl⟩
  have hb : (StreamSetting.mk .bufDlim 7).EnteredBy
      ⟨.setdlim, ⟨some 7, none⟩⟩ := ⟨rfl, fun _ => rfl⟩
  have hindependent := hall _ _ _ _ _ _ _ (by decide) ha hb hab hba
  have hheld := (hindependent.held _ (Or.inl rfl) ab hab).1 ⟨.ethToAudio, 36⟩
    (by decide)
  rw [run_pair_content ha hb hab, apply_registers (by decide)] at hheld
  exact absurd hheld (by decide)

end Pairs

end Songpark.UiControl
