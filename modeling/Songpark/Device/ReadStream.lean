import Songpark.Core.StateProgram
import Songpark.Device.RegIo

/-!
# Reading an audio sample

`read_stream` polls the data register of a channel until the FIFO has a sample.
Each channel has its own copy of the loop.  The right one goes on while it reads
the marker of the empty FIFO; the left one goes on while it reads anything above
the marker, so that it hands the marker out and throws samples away.

As for the codec, the values of the polled register are a list of replies, and a
loop that uses up the list is still waiting.
-/

namespace Songpark.RegIo

/-- The integer the compiler passes for a `CHANNEL_ID`. -/
def ChannelId.code : ChannelId → ℕ
  | .left => 0
  | .right => 1

end Songpark.RegIo

namespace Songpark.ReadStream

open Songpark.RegisterFile Songpark.RegIo Songpark.StateProgram

structure FifoState where
  replies : List Word
  board : MixerBoard

/-- The loop has not come back. -/
inductive Waiting
  | waiting

abbrev FifoM := Program Waiting FifoState

/-- What the FIFO answers when it holds no sample. -/
abbrev fifoEmpty : Word := 0xFF000000

/-- The next reply of the data register. -/
def readData (streamBase : Device) (offset : ℕ) : FifoM Word := fun state =>
  match state.replies with
  | [] => .error .waiting
  | reply :: replies =>
      .ok (reply, ⟨replies, (readReg streamBase offset state.board).2⟩)

/-- The loops of the two channels differ in the register and in the condition.
The delay after a marker is left out. -/
def readWhile (streamBase : Device) (offset : ℕ) (again : Word → Bool) :
    ℕ → FifoM Word
  | 0 => halt .waiting
  | rounds + 1 => do
      let buffer ← readData streamBase offset
      if again buffer then readWhile streamBase offset again rounds
      else return buffer

/-- Every round takes a reply, so one round for each of them is enough. -/
def readUntil (streamBase : Device) (offset : ℕ) (again : Word → Bool) :
    FifoM Word := do
  let rounds ← observe fun state => state.replies.length
  readWhile streamBase offset again rounds

def readStream (streamBase : Device) (channel : ℕ) : FifoM Word := do
  let base ← observe fun state => state.board.base streamBase
  if base = .null then return -1
  else if channel = ChannelId.left.code then
    readUntil streamBase (audioToAxiReg 1) fun buffer => fifoEmpty < buffer
  else if channel = ChannelId.right.code then
    readUntil streamBase (audioToAxiReg 2) fun buffer => buffer = fifoEmpty
  else return -1

/-! ## What a loop reads -/

/-- The board after a number of reads of one register. -/
def afterReads (cell : Register) (count : ℕ) (board : MixerBoard) : MixerBoard :=
  { board with accesses := List.replicate count (.read cell) ++ board.accesses }

theorem afterReads_succ (cell : Register) (count : ℕ) (board : MixerBoard) :
    afterReads cell count (readReg cell.dev cell.offset board).2 =
      afterReads cell (count + 1) board := by
  simp only [afterReads, readReg, List.replicate_succ', List.append_assoc,
    List.singleton_append]

section Loops

variable {streamBase : Device} {offset : ℕ} {again : Word → Bool}
variable {skipped later : List Word} {value : Word} {board : MixerBoard}

/-- A loop returns the first reply that its condition lets through. -/
theorem readUntil_eq (hskipped : ∀ reply ∈ skipped, again reply = true)
    (hvalue : again value = false) :
    readUntil streamBase offset again ⟨skipped ++ value :: later, board⟩ =
      .ok (value, ⟨later,
        afterReads ⟨streamBase, offset⟩ (skipped.length + 1) board⟩) := by
  have hrounds : ∀ rounds, skipped.length < rounds →
      readWhile streamBase offset again rounds
          ⟨skipped ++ value :: later, board⟩ =
        .ok (value, ⟨later,
          afterReads ⟨streamBase, offset⟩ (skipped.length + 1) board⟩) := by
    induction skipped generalizing board with
    | nil =>
        intro rounds hrounds
        obtain ⟨fewer, rfl⟩ : ∃ fewer, rounds = fewer + 1 :=
          ⟨rounds - 1, by omega⟩
        simp [readWhile, readData, hvalue, afterReads, readReg]
    | cons reply skipped ih =>
        intro rounds hrounds
        obtain ⟨fewer, rfl⟩ : ∃ fewer, rounds = fewer + 1 :=
          ⟨rounds - 1, by omega⟩
        have hreply := hskipped reply List.mem_cons_self
        have hrest := @ih (readReg streamBase offset board).2
          (fun later hlater => hskipped later (List.mem_cons_of_mem _ hlater))
          fewer (by simpa using hrounds)
        rw [afterReads_succ ⟨streamBase, offset⟩] at hrest
        simpa [readWhile, readData, hreply] using hrest
  exact hrounds _ (by simp)

/-- Whatever a loop returns, its condition lets it through, and it comes after
replies that were not let through. -/
theorem readUntil_eq_ok {replies : List Word} {reached : FifoState}
    (hread : readUntil streamBase offset again ⟨replies, board⟩ =
      .ok (value, reached)) :
    ∃ skipped, replies = skipped ++ value :: reached.replies ∧
      (∀ reply ∈ skipped, again reply = true) ∧ again value = false := by
  have hrounds : ∀ rounds replies board, readWhile streamBase offset again
      rounds ⟨replies, board⟩ = .ok (value, reached) →
      ∃ skipped, replies = skipped ++ value :: reached.replies ∧
        (∀ reply ∈ skipped, again reply = true) ∧ again value = false := by
    intro rounds
    induction rounds with
    | zero =>
        intro _ _ hreturns
        cases hreturns
    | succ rounds ih =>
        intro replies board hreturns
        cases replies with
        | nil => cases hreturns
        | cons reply replies =>
            rw [readWhile, StateProgram.bind_apply] at hreturns
            simp only [readData] at hreturns
            cases hagain : again reply with
            | false =>
                rw [hagain] at hreturns
                cases hreturns
                exact ⟨[], rfl, by simp, hagain⟩
            | true =>
                rw [hagain] at hreturns
                obtain ⟨skipped, rfl, hskipped, hvalue⟩ := ih _ _ hreturns
                refine ⟨reply :: skipped, rfl, ?_, hvalue⟩
                exact List.forall_mem_cons.mpr ⟨hagain, hskipped⟩
  exact hrounds _ _ _ hread

end Loops

/-! ## The two channels -/

/-- The register that holds the samples of a channel. -/
def dataReg (channel : ChannelId) : ℕ := audioToAxiReg (channel.code + 1)

/-- Reading returns the first reply other than the marker, and takes no reply
after it. -/
def ReadsFirst (streamBase : Device) (channel : ChannelId)
    (replies : List Word) (board : MixerBoard) : Prop :=
  ∃ markers value later, replies = markers ++ value :: later ∧
    (∀ reply ∈ markers, reply = fifoEmpty) ∧ value ≠ fifoEmpty ∧
    readStream streamBase channel.code ⟨replies, board⟩ =
      .ok (value, ⟨later, afterReads ⟨streamBase, dataReg channel⟩
        (markers.length + 1) board⟩)

section Channels

variable {streamBase : Device} {board : MixerBoard} {replies : List Word}

theorem readStream_left (hbase : board.base streamBase ≠ .null) :
    readStream streamBase ChannelId.left.code ⟨replies, board⟩ =
      readUntil streamBase (dataReg .left) (fun buffer => fifoEmpty < buffer)
        ⟨replies, board⟩ := by
  simp [readStream, hbase, dataReg, ChannelId.code]

theorem readStream_right (hbase : board.base streamBase ≠ .null) :
    readStream streamBase ChannelId.right.code ⟨replies, board⟩ =
      readUntil streamBase (dataReg .right) (fun buffer => buffer = fifoEmpty)
        ⟨replies, board⟩ := by
  simp [readStream, hbase, dataReg, ChannelId.code]

/-- The first reply other than the marker. -/
theorem exists_first (hvalue : ∃ reply ∈ replies, reply ≠ fifoEmpty) :
    ∃ markers value later, replies = markers ++ value :: later ∧
      (∀ reply ∈ markers, reply = fifoEmpty) ∧ value ≠ fifoEmpty := by
  induction replies with
  | nil => simp at hvalue
  | cons reply replies ih =>
      by_cases hreply : reply = fifoEmpty
      · have hlater : ∃ later ∈ replies, later ≠ fifoEmpty := by
          obtain ⟨later, hmem, hne⟩ := hvalue
          rcases List.mem_cons.mp hmem with rfl | hmem
          · exact absurd hreply hne
          · exact ⟨later, hmem, hne⟩
        obtain ⟨markers, value, later, rfl, hmarkers, hne⟩ := ih hlater
        exact ⟨reply :: markers, value, later, rfl,
          List.forall_mem_cons.mpr ⟨hreply, hmarkers⟩, hne⟩
      · exact ⟨[], reply, replies, rfl, by simp, hreply⟩

theorem readsFirst_right (hbase : board.base streamBase ≠ .null)
    (hvalue : ∃ reply ∈ replies, reply ≠ fifoEmpty) :
    ReadsFirst streamBase .right replies board := by
  obtain ⟨markers, value, later, rfl, hmarkers, hne⟩ := exists_first hvalue
  refine ⟨markers, value, later, rfl, hmarkers, hne, ?_⟩
  rw [readStream_right hbase]
  exact readUntil_eq (fun reply hreply => decide_eq_true (hmarkers reply hreply))
    (decide_eq_false hne)

theorem readsFirst_left_iff (hbase : board.base streamBase ≠ .null) :
    ReadsFirst streamBase .left replies board ↔
      ∃ first later, replies = first :: later ∧ first < fifoEmpty := by
  constructor
  · rintro ⟨markers, value, later, rfl, hmarkers, hne, hread⟩
    rw [readStream_left hbase] at hread
    obtain ⟨skipped, hsplit, hskipped, hlast⟩ := readUntil_eq_ok hread
    obtain rfl : markers = skipped := List.append_cancel_right hsplit
    have hnone : markers = [] := by
      cases markers with
      | nil => rfl
      | cons reply markers =>
          -- A marker is not above itself, so it is not skipped.
          have hmarker := hmarkers reply List.mem_cons_self
          have habove := hskipped reply List.mem_cons_self
          rw [hmarker] at habove
          exact absurd habove (by decide)
    refine ⟨value, later, by rw [hnone, List.nil_append], ?_⟩
    have hle : ¬ fifoEmpty < value := of_decide_eq_false hlast
    rw [BitVec.lt_def] at hle ⊢
    have hdiffer : value.toNat ≠ fifoEmpty.toNat := fun heq =>
      hne (BitVec.eq_of_toNat_eq heq)
    omega
  · rintro ⟨first, later, rfl, hbelow⟩
    have hne : first ≠ fifoEmpty := by
      rintro rfl
      exact absurd hbelow (by decide)
    have hlet : ¬ fifoEmpty < first := by
      rw [BitVec.lt_def] at hbelow ⊢
      omega
    refine ⟨[], first, later, rfl, by simp, hne, ?_⟩
    rw [readStream_left hbase]
    exact readUntil_eq (List.forall_mem_nil _) (decide_eq_false hlet)

/-- The right channel returns the first sample; the left one does so exactly
when its first reply is below the marker. -/
theorem readStream_first_iff (hbase : board.base streamBase ≠ .null)
    (hvalue : ∃ reply ∈ replies, reply ≠ fifoEmpty) :
    ReadsFirst streamBase .right replies board ∧
      (ReadsFirst streamBase .left replies board ↔
        ∃ first later, replies = first :: later ∧ first < fifoEmpty) :=
  ⟨readsFirst_right hbase hvalue, readsFirst_left_iff hbase⟩

end Channels

/-- With a sample behind a marker. -/
theorem readStream_first_marker :
    ReadsFirst .audioToEth .right [fifoEmpty, 5] zeroBoard ∧
      (ReadsFirst .audioToEth .left [fifoEmpty, 5] zeroBoard ↔
        ∃ first later, [fifoEmpty, 5] = first :: later ∧ first < fifoEmpty) :=
  readStream_first_iff (by decide) ⟨5, by simp, by decide⟩

/-- The left channel hands out the marker in front of a sample. -/
theorem readStream_left_marker :
    ¬ ReadsFirst .audioToEth .left [fifoEmpty, 5] zeroBoard ∧
      ∃ reached, readStream .audioToEth ChannelId.left.code
        ⟨[fifoEmpty, 5], zeroBoard⟩ = .ok (fifoEmpty, reached) := by
  constructor
  · rw [readsFirst_left_iff (by decide)]
    rintro ⟨first, later, heq, hbelow⟩
    cases heq
    exact absurd hbelow (by decide)
  · exact ⟨_, rfl⟩

end Songpark.ReadStream
