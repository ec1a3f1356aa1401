import Songpark.Core.StateProgram
import Songpark.Device.Display
import Songpark.Device.EthParam
import Songpark.Device.MixerControl

/-!
# State of the user interface

The globals of the mixer and the local variables of the command loop, together
with the board its drivers work on.  A command either returns or stops the
process: by `exit`, by a store outside an array, or by an access through a base
pointer that no mapping provided.
-/

namespace Songpark.UiControl

open Songpark.RegisterFile Songpark.RegIo Songpark.Scan Songpark.StateProgram
open Songpark.MixerControl

/-- The `int` and `char` fields of `ui_parameters`. -/
structure UiParameters where
  vGlobal : Word
  vlLpbk : Word
  vlNet : Word
  vrLpbk : Word
  vrNet : Word
  filterBLpbk : Byte
  filterBNet : Byte
  filterLLpbk : Byte
  filterLNet : Byte
  filterHLpbk : Byte
  filterHNet : Byte
  deriving DecidableEq

/-- `setting` has a first element, so its indices can be written as numerals. -/
instance settingNonempty : NeZero 29 := ⟨by decide⟩

/-- `tmp`, `gain`, `destPort` and `ip` are the locals of the command loop that
outlive a command; the two lists record the calls of `set_volume` and the
printed lines, the newest first. -/
structure UiState where
  board : MixerBoard
  intSeq : Display.Buffer
  params : UiParameters
  setting : Fin 29 → Word
  globalVol : Word
  pktLen : Word
  pktLenRlSamples : Word
  tmp : LongWord
  gain : Word
  destPort : Word
  ip : Text
  volumeCalls : List VolumeCall
  printed : List Text

/-- The state in which the loop is entered: the initial values of the globals
and locals.  `tmp` has none, it starts with what its memory held. -/
def start (board : MixerBoard) (tmp : LongWord) : UiState where
  board := board
  intSeq := fun _ => 0
  params := ⟨0, 0, 0, 0, 0, 0, 0, 0, 0, 0, 0⟩
  setting := fun index => if index < 4 then 5 else 0
  globalVol := 8
  pktLen := 96
  pktLenRlSamples := 96
  tmp := tmp
  gain := 0
  destPort := 0
  ip := []
  volumeCalls := []
  printed := []

/-- A board with all registers zero, mapped as the initialisation maps it: the
mapping of the packet time enforcer is commented out. -/
def blankBoard : MixerBoard where
  base
    | .packetTimeEnforcer => .null
    | _ => .mapped
  content := fun _ => 0
  accesses := []

/-- How the process stops inside a command; `waiting` is a poll that the
device never answers. -/
inductive Halt
  | exit
  | undefined
  | fault
  | waiting
  deriving DecidableEq

abbrev UiM := Program Halt UiState

/-- Driver code inside a command. -/
def device {α : Type} (program : DeviceM α) : UiM α := fun ui =>
  .ok ((program ui.board).1, { ui with board := (program ui.board).2 })

@[simp]
theorem device_apply {α : Type} (program : DeviceM α) (ui : UiState) :
    device program ui =
      .ok ((program ui.board).1, { ui with board := (program ui.board).2 }) :=
  rfl

/-- A driver call with `tmp` as its argument. -/
def withTmp (program : LongWord → DeviceM Unit) : UiM Unit := do
  let tmp ← observe UiState.tmp
  device (program tmp)

/-- The parameter is an `unsigned int`, the argument loses its upper half. -/
def withTmpWord (program : Word → DeviceM Unit) : UiM Unit :=
  withTmp fun tmp => program (tmp.setWidth 32)

def storeTmp (value : LongWord) : UiM Unit :=
  change fun ui => { ui with tmp := value }

/-- `tmp = get_…(base)` for a getter of 32 bits. -/
def fetchWith (extend : Word → LongWord) (program : DeviceM Word) : UiM Unit := do
  let value ← device program
  storeTmp (extend value)

/-- The getter returns an `unsigned int`. -/
abbrev fetch (program : DeviceM Word) : UiM Unit :=
  fetchWith (·.setWidth 64) program

/-- The getter is called without a declaration: the call is taken to return an
`int`, and its sign fills the upper half of `tmp`. -/
abbrev fetchInt (program : DeviceM Word) : UiM Unit :=
  fetchWith (·.signExtend 64) program

/-- The same for a getter that returns an `unsigned long`. -/
def fetchLong (program : DeviceM LongWord) : UiM Unit := do
  let value ← device program
  storeTmp value

/-- A driver call whose result overwrites `tmp`. -/
def exchange (program : Word → DeviceM Word) : UiM Unit := do
  let tmp ← observe UiState.tmp
  fetch (program (tmp.setWidth 32))

/-- The function only returns 0: the call itself is its whole effect. -/
def setVolume (volumeBase : Device) (gain : Word) (channel : ChannelId) :
    UiM Unit :=
  change fun ui =>
    { ui with volumeCalls := ⟨volumeBase, gain, channel⟩ :: ui.volumeCalls }

def print (line : Text) : UiM Unit :=
  change fun ui => { ui with printed := line :: ui.printed }

def storeSetting (index : Fin 29) (value : Word) : UiM Unit :=
  change fun ui =>
    { ui with setting := Function.update ui.setting index value }

/-! ## The display -/

/-- A display function works on the global buffer. -/
def display (program : Display.Buffer → DeviceM Display.Buffer) : UiM Unit := do
  let intSeq ← observe UiState.intSeq
  let intSeq ← device (program intSeq)
  change fun ui => { ui with intSeq := intSeq }

def clearDisplay : UiM Unit :=
  display fun _ => Display.oledClear .zedboardOled

def showMessage (message : Text) (page : ℕ) : UiM Unit :=
  display fun intSeq =>
    Display.oledPrintMessage message page .zedboardOled intSeq

section Applied

variable (ui : UiState)

@[simp]
theorem withTmp_apply (program : LongWord → DeviceM Unit) :
    withTmp program ui =
      .ok ((), { ui with board := (program ui.tmp ui.board).2 }) := rfl

@[simp]
theorem fetchWith_apply (extend : Word → LongWord) (program : DeviceM Word) :
    fetchWith extend program ui = .ok ((),
      { ui with
        board := (program ui.board).2
        tmp := extend (program ui.board).1 }) := rfl

@[simp]
theorem exchange_apply (program : Word → DeviceM Word) :
    exchange program ui = .ok ((),
      { ui with
        board := (program (ui.tmp.setWidth 32) ui.board).2
        tmp := (program (ui.tmp.setWidth 32) ui.board).1.setWidth 64 }) := rfl

@[simp]
theorem setVolume_apply (volumeBase : Device) (gain : Word)
    (channel : ChannelId) :
    setVolume volumeBase gain channel ui = .ok ((),
      { ui with
        volumeCalls := ⟨volumeBase, gain, channel⟩ :: ui.volumeCalls }) := rfl

@[simp]
theorem print_apply (line : Text) :
    print line ui = .ok ((), { ui with printed := line :: ui.printed }) := rfl

/-- A driver call, a cleared display and two messages, as one program on the
board: the buffer from before plays no part. -/
theorem device_displays (first : DeviceM Unit) (clear : DeviceM Display.Buffer)
    (second third : Display.Buffer → DeviceM Display.Buffer) :
    (do
      device first
      display fun _ => clear
      display second
      display third) ui =
      let program : DeviceM Display.Buffer := do
        first
        let intSeq ← clear
        let intSeq ← second intSeq
        third intSeq
      .ok ((), { ui with
        board := (program ui.board).2
        intSeq := (program ui.board).1 }) := rfl

end Applied

/-! ## Frames -/

/-- A command program writes only registers of the footprint and moves no base
pointer. -/
structure UiWithin (footprint : Set Register) {α : Type} (program : UiM α) :
    Prop where
  keeps_cell : ∀ cell ∉ footprint,
    Keeps (fun ui => ui.board.content cell) program
  keeps_base : Keeps (fun ui => ui.board.base) program

namespace UiWithin

variable {α β : Type} {footprint : Set Register}

theorem content_eq {program : UiM α} (hprogram : UiWithin footprint program)
    {ui reached : UiState} {value : α}
    (hrun : program ui = .ok (value, reached)) {cell : Register}
    (hcell : cell ∉ footprint) :
    reached.board.content cell = ui.board.content cell :=
  hprogram.keeps_cell cell hcell ui value reached hrun

theorem base_eq {program : UiM α} (hprogram : UiWithin footprint program)
    {ui reached : UiState} {value : α}
    (hrun : program ui = .ok (value, reached)) :
    reached.board.base = ui.board.base :=
  hprogram.keeps_base ui value reached hrun

theorem pure (value : α) : UiWithin footprint (Pure.pure value : UiM α) :=
  ⟨fun _ _ => .pure _, .pure _⟩

theorem observe (f : UiState → α) : UiWithin footprint (StateProgram.observe f : UiM α) :=
  ⟨fun _ _ => .observe _, .observe _⟩

theorem halt (halted : Halt) :
    UiWithin footprint (StateProgram.halt halted : UiM α) :=
  ⟨fun _ _ => .halt _, .halt _⟩

/-- Assignments to variables do not reach the board. -/
theorem change {f : UiState → UiState} (hboard : ∀ ui, (f ui).board = ui.board) :
    UiWithin footprint (StateProgram.change f : UiM Unit) :=
  ⟨fun _ _ => .change fun ui => by simp only [hboard],
    .change fun ui => by simp only [hboard]⟩

theorem bind {program : UiM α} {next : α → UiM β}
    (hprogram : UiWithin footprint program)
    (hnext : ∀ value, UiWithin footprint (next value)) :
    UiWithin footprint (program >>= next) where
  keeps_cell cell hcell :=
    .bind (hprogram.keeps_cell cell hcell) fun value =>
      (hnext value).keeps_cell cell hcell
  keeps_base :=
    .bind hprogram.keeps_base fun value => (hnext value).keeps_base

theorem ite {condition : Prop} [Decidable condition] {left right : UiM α}
    (hleft : UiWithin footprint left) (hright : UiWithin footprint right) :
    UiWithin footprint (if condition then left else right) := by
  split <;> assumption

theorem device {program : DeviceM α} (hprogram : Within footprint program) :
    UiWithin footprint (UiControl.device program) where
  keeps_cell cell hcell := by
    intro ui value reached hrun
    cases hrun
    exact hprogram.content_eq ui.board cell hcell
  keeps_base := by
    intro ui value reached hrun
    cases hrun
    exact hprogram.base_eq ui.board

theorem withTmp {program : LongWord → DeviceM Unit}
    (hprogram : ∀ tmp, Within footprint (program tmp)) :
    UiWithin footprint (UiControl.withTmp program) :=
  .bind (.observe _) fun tmp => .device (hprogram tmp)

theorem storeTmp (value : LongWord) :
    UiWithin footprint (UiControl.storeTmp value) :=
  .change fun _ => rfl

theorem fetchWith {extend : Word → LongWord} {program : DeviceM Word}
    (hprogram : Within footprint program) :
    UiWithin footprint (UiControl.fetchWith extend program) :=
  .bind (.device hprogram) fun _ => .storeTmp _

theorem fetchLong {program : DeviceM LongWord}
    (hprogram : Within footprint program) :
    UiWithin footprint (UiControl.fetchLong program) :=
  .bind (.device hprogram) fun _ => .storeTmp _

theorem exchange {program : Word → DeviceM Word}
    (hprogram : ∀ tmp, Within footprint (program tmp)) :
    UiWithin footprint (UiControl.exchange program) :=
  .bind (.observe _) fun _ => .fetchWith (hprogram _)

theorem setVolume (volumeBase : Device) (gain : Word) (channel : ChannelId) :
    UiWithin footprint (UiControl.setVolume volumeBase gain channel) :=
  .change fun _ => rfl

theorem print (line : Text) : UiWithin footprint (UiControl.print line) :=
  .change fun _ => rfl

theorem storeSetting (index : Fin 29) (value : Word) :
    UiWithin footprint (UiControl.storeSetting index value) :=
  .change fun _ => rfl

theorem display {program : Display.Buffer → DeviceM Display.Buffer}
    (hprogram : ∀ intSeq, Within footprint (program intSeq)) :
    UiWithin footprint (UiControl.display program) :=
  .bind (.observe _) fun intSeq => .bind (.device (hprogram intSeq)) fun _ =>
    .change fun _ => rfl

theorem clearDisplay
    (hmem : Display.displayRegs .zedboardOled ⊆ footprint) :
    UiWithin footprint UiControl.clearDisplay :=
  .display fun _ => Display.within_oledClear hmem

theorem showMessage (hmem : Display.displayRegs .zedboardOled ⊆ footprint)
    (message : Text) (page : ℕ) :
    UiWithin footprint (UiControl.showMessage message page) :=
  .display fun _ => Display.within_oledPrintMessage hmem _ _ _

end UiWithin

/-- A command program makes no access to the device and moves no base
pointer. -/
def UiAvoids (dev : Device) {α : Type} (program : UiM α) : Prop :=
  Keeps (fun ui => ui.board.trace dev) program

namespace UiAvoids

variable {α β : Type} {dev : Device}

theorem pure (value : α) : UiAvoids dev (Pure.pure value : UiM α) :=
  Keeps.pure value

theorem observe (f : UiState → α) :
    UiAvoids dev (StateProgram.observe f : UiM α) :=
  Keeps.observe f

theorem halt (halted : Halt) :
    UiAvoids dev (StateProgram.halt halted : UiM α) :=
  Keeps.halt halted

theorem change {f : UiState → UiState}
    (hboard : ∀ ui, (f ui).board = ui.board) :
    UiAvoids dev (StateProgram.change f : UiM Unit) :=
  Keeps.change fun ui => by simp only [hboard]

theorem bind {program : UiM α} {next : α → UiM β}
    (hprogram : UiAvoids dev program)
    (hnext : ∀ value, UiAvoids dev (next value)) :
    UiAvoids dev (program >>= next) :=
  Keeps.bind hprogram hnext

theorem ite {condition : Prop} [Decidable condition] {left right : UiM α}
    (hleft : UiAvoids dev left) (hright : UiAvoids dev right) :
    UiAvoids dev (if condition then left else right) := by
  split <;> assumption

theorem device {program : DeviceM α} (hprogram : Avoids dev program) :
    UiAvoids dev (UiControl.device program) := by
  intro ui value reached hrun
  cases hrun
  exact hprogram ui.board

theorem withTmp {program : LongWord → DeviceM Unit}
    (hprogram : ∀ tmp, Avoids dev (program tmp)) :
    UiAvoids dev (UiControl.withTmp program) :=
  .bind (.observe _) fun tmp => .device (hprogram tmp)

theorem fetchWith {extend : Word → LongWord} {program : DeviceM Word}
    (hprogram : Avoids dev program) :
    UiAvoids dev (UiControl.fetchWith extend program) :=
  .bind (.device hprogram) fun _ => .change fun _ => rfl

theorem setVolume (volumeBase : Device) (gain : Word) (channel : ChannelId) :
    UiAvoids dev (UiControl.setVolume volumeBase gain channel) :=
  .change fun _ => rfl

theorem print (line : Text) : UiAvoids dev (UiControl.print line) :=
  .change fun _ => rfl

theorem display {program : Display.Buffer → DeviceM Display.Buffer}
    (hprogram : ∀ intSeq, Avoids dev (program intSeq)) :
    UiAvoids dev (UiControl.display program) :=
  .bind (.observe _) fun intSeq => .bind (.device (hprogram intSeq)) fun _ =>
    .change fun _ => rfl

theorem clearDisplay (hdev : Device.zedboardOled ≠ dev) :
    UiAvoids dev UiControl.clearDisplay :=
  .display fun _ => Display.avoids_oledClear hdev

theorem showMessage (hdev : Device.zedboardOled ≠ dev) (message : Text)
    (page : ℕ) : UiAvoids dev (UiControl.showMessage message page) :=
  .display fun intSeq => Display.avoids_printFrom message page 0 intSeq hdev

end UiAvoids

/-- From every state the program returns, with an access to the device. -/
def UiUses (dev : Device) {α : Type} (program : UiM α) : Prop :=
  ∀ ui, ∃ value reached, program ui = .ok (value, reached) ∧
    ∃ access ∈ reached.board.accesses, access.dev = dev

namespace UiUses

variable {α : Type} {dev : Device}

theorem device {program : DeviceM α} (hprogram : Uses dev program) :
    UiUses dev (UiControl.device program) := fun ui =>
  ⟨_, _, rfl, hprogram ui.board⟩

theorem withTmp {program : LongWord → DeviceM Unit}
    (hprogram : ∀ tmp, Uses dev (program tmp)) :
    UiUses dev (UiControl.withTmp program) := fun ui =>
  ⟨_, _, rfl, hprogram ui.tmp ui.board⟩

theorem fetchWith {extend : Word → LongWord} {program : DeviceM Word}
    (hprogram : Uses dev program) :
    UiUses dev (UiControl.fetchWith extend program) := fun ui =>
  ⟨_, _, rfl, hprogram ui.board⟩

theorem fetchLong {program : DeviceM LongWord} (hprogram : Uses dev program) :
    UiUses dev (UiControl.fetchLong program) := fun ui =>
  ⟨_, _, rfl, hprogram ui.board⟩

theorem exchange {program : Word → DeviceM Word}
    (hprogram : ∀ tmp, Uses dev (program tmp)) :
    UiUses dev (UiControl.exchange program) := fun ui =>
  ⟨_, _, rfl, hprogram _ ui.board⟩

end UiUses

end Songpark.UiControl
