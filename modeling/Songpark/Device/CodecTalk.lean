import Songpark.Core.Conversation
import Songpark.Device.CodecWords

/-!
# Conversations of the codec driver

The driver resets the codec, sets up its clock, polls until the clock is locked
and then writes the settings.  Every step is a transfer of the controller block,
and every transfer is polled until the controller is idle.  This file gives the
language of the accesses and answers after which the driver returns.
-/

namespace Songpark.Codec

open Songpark.RegisterFile Songpark.RegIo Songpark.StateProgram
open Songpark.Conversation
open scoped Computability

/-- An access of the controller block, a read with its answer. -/
inductive Event
  | write (regOffset : ℕ) (data : Word)
  | read (regOffset : ℕ) (reply : Word)

/-- A read is possible if its answer is the next one. -/
def Event.next : Event → CodecState → Option CodecState
  | .write regOffset data, state =>
      some { state with
        board := (writeReg .adau1761 regOffset data state.board).2 }
  | .read regOffset reply, state =>
      match state.replies with
      | [] => none
      | answer :: replies =>
          if answer = reply then
            some {
              replies := replies
              board := (readReg .adau1761 regOffset state.board).2 }
          else none

def Event.access : Event → Access Device Word
  | .write regOffset data => .write ⟨.adau1761, regOffset⟩ data
  | .read regOffset _ => .read ⟨.adau1761, regOffset⟩

def Event.reply? : Event → Option Word
  | .write _ _ => none
  | .read _ reply => some reply

/-! ## Languages -/

/-- The polls of a transfer: busy some times, then idle. -/
def idling : Language Event :=
  (ending (fun busy => only [.read busyAddr busy]) (· ≠ 0))∗ *
    ending (fun busy => only [.read busyAddr busy]) fun busy => ¬busy ≠ 0

/-- The control word of a transfer before its start bit is set. -/
def setupWord (read : Bool) (addr nbytes : Word) : Word :=
  (if read then (1 : Word) <<< readPos else 0) |||
    ((nbytes - 1) <<< nbytesPos) ||| (addr <<< addrPos)

def writeTalk (addr : Word) (data : LongWord) (nbytes : Word) :
    Language Event :=
  only [.write writeLowDataAddr
      ((data <<< (8 * (8 - nbytes)).toNat).setWidth 32),
    .write writeHighDataAddr
      ((data <<< (8 * (8 - nbytes)).toNat >>> 32).setWidth 32),
    .write ctrlAddr (setupWord false addr nbytes),
    .write ctrlAddr (controlWord false addr nbytes)] * idling

/-- The value of a read, from its two data words. -/
def joinWords (nbytes : Word) (words : Word × Word) : LongWord :=
  ((words.2.setWidth 64 <<< 32) ||| words.1.setWidth 64) &&&
    ((1 <<< (8 * nbytes).toNat) - 1)

def readTalk (addr nbytes : Word) (value : LongWord) : Language Event :=
  only [.write ctrlAddr (setupWord true addr nbytes),
    .write ctrlAddr (controlWord true addr nbytes)] * (idling *
    ending (fun words => only [.read readLowDataAddr words.1,
      .read readHighDataAddr words.2]) fun words =>
        joinWords nbytes words = value)

/-- Three reads whose values are not used. -/
def resetTalk : Language Event :=
  only [.write ctrlAddr (1 <<< resetPos), .write ctrlAddr 0] *
    (ending (readTalk 0 1) (fun _ => True) *
    (ending (readTalk 0 1) (fun _ => True) *
    (ending (readTalk 0 1) (fun _ => True) * 1)))

def lockTalk : Language Event :=
  (ending (readTalk 0x4002 6) (· &&& 2 = 0))∗ *
    ending (readTalk 0x4002 6) fun status => ¬status &&& 2 = 0

def settingsTalk : List (Word × LongWord) → Language Event
  | [] => 1
  | (addr, data) :: rest => writeTalk addr data 1 * settingsTalk rest

def bringUpTalk : Language Event :=
  resetTalk * (writeTalk 0x4000 0x0e 1 * (writeTalk 0x4002 0x007d000c2301 6 *
    (lockTalk * (writeTalk 0x4000 0xf 1 * settingsTalk codecSettings))))

section Conversations

variable {talk : List Event} {state reached : CodecState}

theorem next_read {regOffset : ℕ} {reply : Word} :
    Event.next (.read regOffset reply) state = some reached ↔
      ∃ replies, state.replies = reply :: replies ∧
        ⟨replies, (readReg .adau1761 regOffset state.board).2⟩ = reached := by
  rw [Event.next]
  cases state.replies with
  | nil => simp
  | cons answer replies => simp [and_assoc]

/-- The accesses of a conversation are logged, and its answers are used up. -/
theorem follow_next (hfollow : follow Event.next talk state = some reached) :
    state.replies = talk.filterMap Event.reply? ++ reached.replies ∧
      reached.board.accesses =
        (talk.map Event.access).reverse ++ state.board.accesses := by
  induction talk generalizing state with
  | nil =>
      cases hfollow
      exact ⟨rfl, rfl⟩
  | cons event talk ih =>
      obtain ⟨middle, hnext, hrest⟩ := Option.bind_eq_some_iff.mp hfollow
      obtain ⟨hreplies, haccesses⟩ := ih hrest
      rw [haccesses, List.map_cons, List.reverse_cons, List.append_assoc]
      cases event with
      | write regOffset data =>
          cases hnext
          exact ⟨hreplies, rfl⟩
      | read regOffset reply =>
          obtain ⟨replies, hstate, rfl⟩ := next_read.mp hnext
          rw [hstate]
          exact ⟨congrArg (reply :: ·) hreplies, rfl⟩

theorem mWriteReg_converses (regOffset : ℕ) (data : Word) :
    Converses Event.next (mWriteReg regOffset data) fun _ =>
      only [.write regOffset data] := by
  refine .single fun state value reached => ?_
  constructor
  · intro hrun
    cases hrun
    rfl
  · intro hnext
    cases hnext
    rfl

theorem mReadReg_converses (regOffset : ℕ) :
    Converses Event.next (mReadReg regOffset) fun reply =>
      only [.read regOffset reply] := by
  refine .single fun state reply reached => ?_
  rw [next_read, mReadReg]
  cases state.replies with
  | nil => simp
  | cons answer replies => simp [and_assoc]

theorem poll_converses : Converses Event.next poll fun _ => idling := by
  refine .untilDone (fun _ _ hrun => nomatch hrun) (fun rounds => ?_)
    (mReadReg_converses busyAddr) fun busy talk htalk state reached hfollow => ?_
  · simp only [waitIdle, ite_not]
  · rw [mem_only.mp htalk] at hfollow
    rw [(follow_next hfollow).1]
    exact Nat.lt_add_one _

/-- The second control word of a transfer adds the start bit. -/
theorem controlWord_eq (read : Bool) (addr nbytes : Word) :
    controlWord read addr nbytes =
      setupWord read addr nbytes ||| (1 <<< startPos) := rfl

theorem setupWord_write (addr nbytes : Word) :
    setupWord false addr nbytes =
      ((nbytes - 1) <<< nbytesPos) ||| (addr <<< addrPos) :=
  congrArg (· ||| addr <<< addrPos) BitVec.zero_or

theorem writeAdau1761_converses (addr : Word) (data : LongWord)
    (nbytes : Word) :
    Converses Event.next (writeAdau1761 addr data nbytes) fun _ =>
      writeTalk addr data nbytes := by
  refine (Converses.seq (mWriteReg_converses _ _)
    (.seq (mWriteReg_converses _ _) (.seq (mWriteReg_converses _ _)
      (.seq (mWriteReg_converses _ _) poll_converses)))).congr fun _ => ?_
  rw [only_mul, only_mul, only_mul, writeTalk, controlWord_eq, setupWord_write]
  rfl

/-- The two words that end a read. -/
theorem words_converses (nbytes : Word) :
    Converses Event.next
      (do
        let low ← mReadReg readLowDataAddr
        let high ← mReadReg readHighDataAddr
        pure (joinWords nbytes (low, high)))
      fun value => ending (fun words => only [.read readLowDataAddr words.1,
        .read readHighDataAddr words.2]) fun words =>
          joinWords nbytes words = value := by
  refine (Converses.bind (mReadReg_converses _) fun low =>
    .bind (mReadReg_converses _) fun high => .pure _).congr fun value => ?_
  ext talk
  constructor
  · rintro ⟨low, hmul⟩
    obtain ⟨_, rfl, _, ⟨high, hlast⟩, rfl⟩ := Language.mem_mul.mp hmul
    obtain ⟨_, rfl, _, ⟨_, rfl, hnil⟩, rfl⟩ := Language.mem_mul.mp hlast
    cases hnil
    exact ⟨(low, high), rfl, rfl⟩
  · rintro ⟨words, rfl, rfl⟩
    have hend : ([] : List Event) ∈ ending (fun _ : Unit => 1) fun _ =>
        joinWords nbytes words = joinWords nbytes (words.1, words.2) :=
      ⟨(), rfl, rfl⟩
    exact ⟨words.1, Language.append_mem_mul (mem_only.mpr rfl)
      ⟨words.2, Language.append_mem_mul (mem_only.mpr rfl) hend⟩⟩

theorem readAdau1761_converses (addr nbytes : Word) :
    Converses Event.next (readAdau1761 addr nbytes) (readTalk addr nbytes) := by
  refine (Converses.seq (mWriteReg_converses _ _)
    (.seq (mWriteReg_converses _ _) (.seq poll_converses
      (words_converses nbytes)))).congr fun value => ?_
  rw [only_mul]
  rfl

theorem resetAdau1761_converses :
    Converses Event.next resetAdau1761 fun _ => resetTalk := by
  refine (Converses.seq (mWriteReg_converses _ _)
    (.seq (mWriteReg_converses _ _)
      (.ignore (readAdau1761_converses 0 1) fun _ =>
        .ignore (readAdau1761_converses 0 1) fun _ =>
          .ignore (readAdau1761_converses 0 1) fun _ => .unit))).congr
      fun _ => ?_
  rw [only_mul]
  rfl

/-- A read takes at least one answer. -/
theorem readTalk_less {addr nbytes : Word} {value : LongWord}
    (htalk : talk ∈ readTalk addr nbytes value)
    (hfollow : follow Event.next talk state = some reached) :
    reached.replies.length < state.replies.length := by
  obtain ⟨first, _, second, hrest, rfl⟩ := Language.mem_mul.mp htalk
  obtain ⟨polls, _, _, ⟨words, _, rfl⟩, rfl⟩ := Language.mem_mul.mp hrest
  rw [(follow_next hfollow).1]
  have hlow : (Event.read readLowDataAddr words.1).reply? = some words.1 := rfl
  simp only [List.filterMap_append, List.length_append,
    List.filterMap_cons_some hlow, List.length_cons]
  omega

theorem waitLocked_converses :
    Converses Event.next
      (do
        let rounds ← observe fun state => state.replies.length
        waitLocked rounds) fun _ => lockTalk :=
  .untilDone (fun _ _ hrun => nomatch hrun) (fun _ => rfl)
    (readAdau1761_converses 0x4002 6)
    fun _ _ htalk _ _ hfollow => readTalk_less htalk hfollow

theorem writeSettings_converses (settings : List (Word × LongWord)) :
    Converses Event.next (writeSettings settings) fun _ =>
      settingsTalk settings := by
  induction settings with
  | nil => exact .unit
  | cons setting settings ih =>
      exact .seq (writeAdau1761_converses setting.1 setting.2 1) ih

/-- The driver returns exactly after the conversations of the bring-up. -/
theorem initCodec_converses :
    Converses Event.next initCodec fun _ => bringUpTalk := by
  refine .seq resetAdau1761_converses (.seq (writeAdau1761_converses _ _ _)
    (.seq (writeAdau1761_converses _ _ _) ?_))
  rw [← bind_bind]
  exact .seq waitLocked_converses
    (.seq (writeAdau1761_converses _ _ _) (writeSettings_converses _))

end Conversations

end Songpark.Codec
