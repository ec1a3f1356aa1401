import Songpark.Device.RegIo
import Songpark.Core.StateProgram

/-!
# The audio codec

The codec is reached through a controller block: a control word starts a
transfer, a register tells whether it is still running.  The driver polls that
register, so its reads are not reads of a memory cell: they are taken from a
list of replies, and a program that polls past the end of the list is still
waiting.
-/

namespace Songpark.Codec

open Songpark.RegisterFile Songpark.RegIo Songpark.StateProgram

structure CodecState where
  replies : List Word
  board : MixerBoard

/-- The driver has not come back from a poll. -/
inductive Waiting
  | waiting

abbrev CodecM := Program Waiting CodecState

abbrev ctrlAddr : ℕ := 0
abbrev busyAddr : ℕ := 4
abbrev writeLowDataAddr : ℕ := 8
abbrev writeHighDataAddr : ℕ := 12
abbrev readLowDataAddr : ℕ := 16
abbrev readHighDataAddr : ℕ := 20
abbrev resetPos : ℕ := 25
abbrev startPos : ℕ := 24
abbrev readPos : ℕ := 19
abbrev nbytesPos : ℕ := 16
abbrev addrPos : ℕ := 0

def mWriteReg (regOffset : ℕ) (data : Word) : CodecM Unit :=
  change fun state =>
    { state with board := (writeReg .adau1761 regOffset data state.board).2 }

/-- The next reply of the device. -/
def mReadReg (regOffset : ℕ) : CodecM Word := fun state =>
  match state.replies with
  | [] => .error .waiting
  | reply :: replies =>
      .ok (reply, {
        replies := replies
        board := (readReg .adau1761 regOffset state.board).2 })

/-- Poll until the busy register reads zero. -/
def waitIdle : ℕ → CodecM Unit
  | 0 => halt .waiting
  | rounds + 1 => do
      let busy ← mReadReg busyAddr
      if busy = 0 then pure () else waitIdle rounds

/-- Every poll takes a reply, so more rounds than replies are not needed. -/
def poll : CodecM Unit := do
  let rounds ← observe fun state => state.replies.length
  waitIdle rounds

def writeAdau1761 (addr : Word) (data : LongWord) (nbytes : Word) :
    CodecM Unit := do
  let controlWord := ((nbytes - 1) <<< nbytesPos) ||| (addr <<< addrPos)
  let shifted := data <<< (8 * (8 - nbytes)).toNat
  mWriteReg writeLowDataAddr (shifted.setWidth 32)
  mWriteReg writeHighDataAddr ((shifted >>> 32).setWidth 32)
  mWriteReg ctrlAddr controlWord
  mWriteReg ctrlAddr (controlWord ||| (1 <<< startPos))
  poll

def readAdau1761 (addr nbytes : Word) : CodecM LongWord := do
  let controlWord :=
    (1 <<< readPos) ||| ((nbytes - 1) <<< nbytesPos) ||| (addr <<< addrPos)
  mWriteReg ctrlAddr controlWord
  mWriteReg ctrlAddr (controlWord ||| (1 <<< startPos))
  poll
  let dataLow ← mReadReg readLowDataAddr
  let dataHigh ← mReadReg readHighDataAddr
  return ((dataHigh.setWidth 64 <<< 32) ||| dataLow.setWidth 64) &&&
    ((1 <<< (8 * nbytes).toNat) - 1)

def resetAdau1761 : CodecM Unit := do
  mWriteReg ctrlAddr (1 <<< resetPos)
  mWriteReg ctrlAddr 0
  let _ ← readAdau1761 0 1
  let _ ← readAdau1761 0 1
  let _ ← readAdau1761 0 1

/-- Poll the clock register until its lock bit is set. -/
def waitLocked : ℕ → CodecM Unit
  | 0 => halt .waiting
  | rounds + 1 => do
      let status ← readAdau1761 0x4002 6
      if status &&& 2 = 0 then waitLocked rounds else pure ()

/-- The registers written once the clock runs, one byte each. -/
def codecSettings : List (Word × LongWord) :=
  [(0x4015, 0x01), (0x400a, 0x0f), (0x400b, 0x07), (0x400c, 0x0f),
   (0x400d, 0x07), (0x4010, 0x5), (0x401c, 0x21), (0x401e, 0x21),
   (0x4020, 0x05), (0x4021, 0x11), (0x4023, 0xe7), (0x4024, 0xe7),
   (0x4025, 0xe7), (0x4026, 0xe7), (0x4017, 0x06), (0x40F8, 0x06),
   (0x40EB, 0x07), (0x4019, 0x03), (0x4029, 0x03), (0x402a, 0x03),
   (0x402b, 0x00), (0x402c, 0x00), (0x40f2, 0x01), (0x40f3, 0x01),
   (0x40f9, 0x7f), (0x40fa, 0x03)]

def writeSettings : List (Word × LongWord) → CodecM Unit
  | [] => pure ()
  | (addr, data) :: rest => do
      writeAdau1761 addr data 1
      writeSettings rest

def initAdau1761 : CodecM Unit := do
  writeAdau1761 0x4000 0x0e 1
  writeAdau1761 0x4002 0x007d000c2301 6
  let rounds ← observe fun state => state.replies.length
  waitLocked rounds
  writeAdau1761 0x4000 0xf 1
  writeSettings codecSettings

def initCodec : CodecM Unit := do
  resetAdau1761
  initAdau1761

/-! ## Frames

The driver works through two accessors only: what they keep, it keeps. -/

section Frames

variable {View : Type} {view : CodecState → View}

section Accessors

variable (hwrite : ∀ regOffset data, Keeps view (mWriteReg regOffset data))
variable (hread : ∀ regOffset, Keeps view (mReadReg regOffset))

include hread

theorem waitIdle_keeps (rounds : ℕ) : Keeps view (waitIdle rounds) := by
  induction rounds with
  | zero => exact .halt _
  | succ rounds ih =>
      refine .bind (hread _) fun busy => ?_
      split
      · exact .pure _
      · exact ih

theorem poll_keeps : Keeps view poll :=
  .bind (.observe _) fun rounds => waitIdle_keeps hread rounds

include hwrite

theorem writeAdau1761_keeps (addr : Word) (data : LongWord) (nbytes : Word) :
    Keeps view (writeAdau1761 addr data nbytes) :=
  .bind (hwrite _ _) fun _ => .bind (hwrite _ _) fun _ =>
    .bind (hwrite _ _) fun _ => .bind (hwrite _ _) fun _ => poll_keeps hread

theorem readAdau1761_keeps (addr nbytes : Word) :
    Keeps view (readAdau1761 addr nbytes) :=
  .bind (hwrite _ _) fun _ => .bind (hwrite _ _) fun _ =>
    .bind (poll_keeps hread) fun _ => .bind (hread _) fun _ =>
    .bind (hread _) fun _ => .pure _

theorem resetAdau1761_keeps : Keeps view resetAdau1761 :=
  .bind (hwrite _ _) fun _ => .bind (hwrite _ _) fun _ =>
    .bind (readAdau1761_keeps hwrite hread _ _) fun _ =>
    .bind (readAdau1761_keeps hwrite hread _ _) fun _ =>
    .bind (readAdau1761_keeps hwrite hread _ _) fun _ => .pure _

theorem waitLocked_keeps (rounds : ℕ) : Keeps view (waitLocked rounds) := by
  induction rounds with
  | zero => exact .halt _
  | succ rounds ih =>
      refine .bind (readAdau1761_keeps hwrite hread _ _) fun status => ?_
      split
      · exact ih
      · exact .pure _

theorem writeSettings_keeps (settings : List (Word × LongWord)) :
    Keeps view (writeSettings settings) := by
  induction settings with
  | nil => exact .pure _
  | cons setting settings ih =>
      exact .bind (writeAdau1761_keeps hwrite hread _ _ _) fun _ => ih

theorem initAdau1761_keeps : Keeps view initAdau1761 :=
  .bind (writeAdau1761_keeps hwrite hread _ _ _) fun _ =>
    .bind (writeAdau1761_keeps hwrite hread _ _ _) fun _ =>
    .bind (.observe _) fun _ => .bind (waitLocked_keeps hwrite hread _) fun _ =>
    .bind (writeAdau1761_keeps hwrite hread _ _ _) fun _ =>
    writeSettings_keeps hwrite hread _

theorem initCodec_keeps_view : Keeps view initCodec :=
  .bind (resetAdau1761_keeps hwrite hread) fun _ =>
    initAdau1761_keeps hwrite hread

end Accessors

end Frames

/-- What the codec driver cannot reach: the base pointers, and the registers of
all other devices. -/
def others (state : CodecState) :
    (Device → Base) × ({cell : Register // cell.dev ≠ .adau1761} → Word) :=
  (state.board.base, fun cell => state.board.content cell.val)

theorem mWriteReg_keeps (regOffset : ℕ) (data : Word) :
    Keeps others (mWriteReg regOffset data) := by
  refine .change fun state => Prod.ext rfl (funext fun cell => ?_)
  have hne : cell.val ≠ ⟨.adau1761, regOffset⟩ := fun heq =>
    cell.property (congrArg Cell.dev heq)
  simp [others, hne]

/-- A read changes the replies and the log of its device, nothing else. -/
theorem mReadReg_eq_ok {regOffset : ℕ} {state reached : CodecState}
    {reply : Word}
    (hrun : mReadReg regOffset state = .ok (reply, reached)) :
    reached.board = (readReg .adau1761 regOffset state.board).2 := by
  unfold mReadReg at hrun
  split at hrun
  · cases hrun
  · cases hrun
    rfl

theorem mReadReg_keeps (regOffset : ℕ) : Keeps others (mReadReg regOffset) := by
  intro state value reached hrun
  rw [others, mReadReg_eq_ok hrun]
  rfl

/-- Whatever the codec answers, bringing it up leaves every other device as it
was. -/
theorem initCodec_keeps : Keeps others initCodec :=
  initCodec_keeps_view mWriteReg_keeps mReadReg_keeps

/-- Nor does it access another device. -/
theorem initCodec_keeps_trace {dev : Device} (hdev : Device.adau1761 ≠ dev) :
    Keeps (fun state => state.board.trace dev) initCodec := by
  refine initCodec_keeps_view (fun regOffset data => ?_) (fun regOffset => ?_)
  · exact .change fun state => Avoids.writeReg hdev state.board
  · intro state value reached hrun
    simp only [mReadReg_eq_ok hrun]
    exact Avoids.readReg hdev state.board

end Songpark.Codec
