import Songpark.Device.Codec
import Mathlib.Algebra.Group.Nat.Defs

/-!
# The words of a codec access

An access packs an address and a length into its control word, and justifies up
to eight bytes of data to the left of two registers.  The functions are given
once more with the shifts of C, where a shift by the width of its operand has no
defined value.  All shifts of a write are defined, and so are those of a read of
up to seven bytes; the mask of a read of eight bytes is shifted too far.
-/

namespace Songpark.Codec

open Songpark.RegisterFile Songpark.RegIo Songpark.StateProgram

/-- Why an access does not come back with a value. -/
inductive AccessHalt
  | waiting
  | undefined
  deriving DecidableEq

abbrev AccessM := Program AccessHalt CodecState

def shiftLeft {width : ℕ} (value : BitVec width) (amount : ℕ) :
    AccessM (BitVec width) :=
  if amount < width then pure (value <<< amount) else halt .undefined

def shiftRight {width : ℕ} (value : BitVec width) (amount : ℕ) :
    AccessM (BitVec width) :=
  if amount < width then pure (value >>> amount) else halt .undefined

/-- Driver code without shifts. -/
def driver {α : Type} (program : CodecM α) : AccessM α := fun state =>
  match program state with
  | .ok result => .ok result
  | .error _ => .error .waiting

/-- `write_adau1761` with the shifts of C. -/
def writeAccess (addr : Word) (data : LongWord) (nbytes : Word) :
    AccessM Unit := do
  let length ← shiftLeft (nbytes - 1) nbytesPos
  let address ← shiftLeft addr addrPos
  let dataLow ← shiftLeft data (8 * (8 - nbytes)).toNat
  let shifted ← shiftLeft data (8 * (8 - nbytes)).toNat
  let dataHigh ← shiftRight shifted 32
  driver (mWriteReg writeLowDataAddr (dataLow.setWidth 32))
  driver (mWriteReg writeHighDataAddr (dataHigh.setWidth 32))
  driver (mWriteReg ctrlAddr (length ||| address))
  let start ← shiftLeft 1 startPos
  driver (mWriteReg ctrlAddr (length ||| address ||| start))
  driver poll

/-- `read_adau1761` with the shifts of C. -/
def readAccess (addr nbytes : Word) : AccessM LongWord := do
  let read ← shiftLeft 1 readPos
  let length ← shiftLeft (nbytes - 1) nbytesPos
  let address ← shiftLeft addr addrPos
  driver (mWriteReg ctrlAddr (read ||| length ||| address))
  let start ← shiftLeft 1 startPos
  driver (mWriteReg ctrlAddr (read ||| length ||| address ||| start))
  driver poll
  let dataLow ← driver (mReadReg readLowDataAddr)
  let dataHigh ← driver (mReadReg readHighDataAddr)
  let upper ← shiftLeft (dataHigh.setWidth 64) 32
  let mask ← shiftLeft (1 : LongWord) (8 * nbytes).toNat
  return (upper ||| dataLow.setWidth 64) &&& (mask - 1)

section Shifts

variable {α β : Type}

theorem shiftLeft_defined {width : ℕ} {value : BitVec width} {amount : ℕ}
    (hamount : amount < width) :
    shiftLeft value amount = pure (value <<< amount) := if_pos hamount

theorem shiftRight_defined {width : ℕ} {value : BitVec width} {amount : ℕ}
    (hamount : amount < width) :
    shiftRight value amount = pure (value >>> amount) := if_pos hamount

theorem driver_bind (program : CodecM α) (next : α → CodecM β) :
    driver (program >>= next) =
      driver program >>= fun value => driver (next value) := by
  funext state
  simp only [driver, StateProgram.bind_apply]
  cases program state with
  | error halted => rfl
  | ok result => rfl

end Shifts

/-- Where all its shifts are defined, an access is the driver function. -/
theorem writeAccess_eq {addr nbytes : Word} {data : LongWord}
    (hshift : (8 * (8 - nbytes)).toNat < 64) :
    writeAccess addr data nbytes = driver (writeAdau1761 addr data nbytes) := by
  have hlength : nbytesPos < 32 := by decide
  have haddr : addrPos < 32 := by decide
  have hstart : startPos < 32 := by decide
  simp only [writeAccess, shiftLeft_defined hlength, shiftLeft_defined haddr,
    shiftLeft_defined hstart, shiftLeft_defined hshift,
    shiftRight_defined (show 32 < 64 by decide), pure_next, writeAdau1761,
    driver_bind]
  rfl

theorem readAccess_eq {addr nbytes : Word}
    (hshift : (8 * nbytes).toNat < 64) :
    readAccess addr nbytes = driver (readAdau1761 addr nbytes) := by
  have hread : readPos < 32 := by decide
  have hlength : nbytesPos < 32 := by decide
  have haddr : addrPos < 32 := by decide
  have hstart : startPos < 32 := by decide
  simp only [readAccess, shiftLeft_defined hread, shiftLeft_defined hlength,
    shiftLeft_defined haddr, shiftLeft_defined hstart,
    shiftLeft_defined hshift, shiftLeft_defined (show 32 < 64 by decide),
    pure_next, readAdau1761, driver_bind]
  rfl

/-! ## Runs of the driver

The device answers some polls with a busy word, and then one with zero. -/

section Runs

variable {busy later : List Word} {board : MixerBoard}

theorem poll_idle (hbusy : ∀ reply ∈ busy, reply ≠ 0) :
    ∃ polled, poll ⟨busy ++ 0 :: later, board⟩ = .ok ((), ⟨later, polled⟩) ∧
      polled.content = board.content := by
  have hrounds : ∀ rounds, busy.length < rounds →
      ∃ polled, waitIdle rounds ⟨busy ++ 0 :: later, board⟩ =
          .ok ((), ⟨later, polled⟩) ∧ polled.content = board.content := by
    induction busy generalizing board with
    | nil =>
        intro rounds hrounds
        obtain ⟨fewer, rfl⟩ : ∃ fewer, rounds = fewer + 1 :=
          ⟨rounds - 1, by omega⟩
        exact ⟨_, rfl, rfl⟩
    | cons reply busy ih =>
        intro rounds hrounds
        obtain ⟨fewer, rfl⟩ : ∃ fewer, rounds = fewer + 1 :=
          ⟨rounds - 1, by omega⟩
        have hreply : reply ≠ 0 := hbusy reply List.mem_cons_self
        obtain ⟨polled, hpolled, hcontent⟩ :=
          @ih (readReg .adau1761 busyAddr board).2
            (fun later hlater => hbusy later (List.mem_cons_of_mem _ hlater))
            fewer (by simpa using hrounds)
        refine ⟨polled, ?_, hcontent⟩
        rw [waitIdle, StateProgram.bind_apply]
        simp only [List.cons_append, mReadReg, if_neg hreply]
        exact hpolled
  exact hrounds _ (by simp)

/-- The control word of an access, with its start bit. -/
def controlWord (read : Bool) (addr nbytes : Word) : Word :=
  (if read then (1 : Word) <<< readPos else 0) |||
    ((nbytes - 1) <<< nbytesPos) ||| (addr <<< addrPos) |||
    ((1 : Word) <<< startPos)

/-- What a write leaves in the registers. -/
theorem writeAdau1761_answered (addr nbytes : Word) (data : LongWord)
    (hbusy : ∀ reply ∈ busy, reply ≠ 0) :
    ∃ reached, writeAdau1761 addr data nbytes ⟨busy ++ 0 :: later, board⟩ =
        .ok ((), ⟨later, reached⟩) ∧
      reached.content ⟨.adau1761, ctrlAddr⟩ = controlWord false addr nbytes ∧
      reached.content ⟨.adau1761, writeLowDataAddr⟩ =
        (data <<< (8 * (8 - nbytes)).toNat).setWidth 32 ∧
      reached.content ⟨.adau1761, writeHighDataAddr⟩ =
        (data <<< (8 * (8 - nbytes)).toNat >>> 32).setWidth 32 := by
  rw [writeAdau1761]
  simp only [StateProgram.bind_apply, mWriteReg, change_apply]
  refine (poll_idle hbusy).imp fun polled hpolled => ⟨hpolled.1, ?_⟩
  rw [hpolled.2]
  have hstart : BitVec.ofNat 32 (1 <<< startPos) = (1 : Word) <<< startPos := by
    decide
  refine ⟨?_, ?_, ?_⟩
  · simp [controlWord, hstart]
  · simp [ctrlAddr, writeLowDataAddr, writeHighDataAddr]
  · simp [ctrlAddr, writeHighDataAddr]

/-- What a read returns and leaves in the registers. -/
theorem readAdau1761_answered (addr nbytes dataLow dataHigh : Word)
    (hbusy : ∀ reply ∈ busy, reply ≠ 0) :
    ∃ reached, readAdau1761 addr nbytes
        ⟨busy ++ 0 :: dataLow :: dataHigh :: later, board⟩ =
        .ok (((dataHigh.setWidth 64 <<< 32) ||| dataLow.setWidth 64) &&&
          ((1 <<< (8 * nbytes).toNat) - 1), ⟨later, reached⟩) ∧
      reached.content ⟨.adau1761, ctrlAddr⟩ = controlWord true addr nbytes := by
  obtain ⟨polled, hpolled, hcontent⟩ := @poll_idle busy
    (dataLow :: dataHigh :: later)
    (writeReg .adau1761 ctrlAddr (controlWord true addr nbytes)
      (writeReg .adau1761 ctrlAddr ((1 <<< readPos) |||
        ((nbytes - 1) <<< nbytesPos) ||| (addr <<< addrPos)) board).2).2 hbusy
  refine ⟨(readReg .adau1761 readHighDataAddr
    (readReg .adau1761 readLowDataAddr polled).2).2, ?_, ?_⟩
  · refine bind_eq_ok.mpr ⟨(), _, rfl, bind_eq_ok.mpr ⟨(), _, rfl, ?_⟩⟩
    exact bind_eq_ok.mpr ⟨(), _, hpolled, rfl⟩
  · rw [readReg_content, readReg_content, hcontent]
    simp

end Runs

/-! ## Fields of the control word -/

/-- The word has an address, a length, a direction and the start bit, and no
other bits. -/
structure ControlFields (word : Word) (addr : BitVec 16) (nbytes : ℕ)
    (read : Bool) : Prop where
  addr_eq : word.extractLsb' 0 16 = addr
  length_eq : (word.extractLsb' 16 3).toNat + 1 = nbytes
  read_eq : word.getLsbD 19 = read
  start : word.getLsbD 24 = true
  rest : ∀ bit, 19 < bit → bit ≠ 24 → word.getLsbD bit = false

section Fields

variable {addr : BitVec 16} {nbytes : ℕ}

/-- The length field of an access has three bits. -/
theorem exists_length (hlow : 1 ≤ nbytes) (hhigh : nbytes ≤ 8) :
    ∃ length : BitVec 3, BitVec.ofNat 32 nbytes - 1 = length.setWidth 32 ∧
      length.toNat + 1 = nbytes := by
  have hone : (1 : Word).toNat = 1 := rfl
  refine ⟨BitVec.ofNat 3 (nbytes - 1), ?_, ?_⟩
  · apply BitVec.eq_of_toNat_eq
    rw [BitVec.toNat_sub, BitVec.toNat_setWidth, BitVec.toNat_ofNat,
      BitVec.toNat_ofNat, hone]
    omega
  · rw [BitVec.toNat_ofNat]
    omega

/-- The bits of a control word. -/
theorem controlWord_getLsbD (read : Bool) (addr : BitVec 16)
    {length : BitVec 3}
    (hlength : BitVec.ofNat 32 nbytes - 1 = length.setWidth 32) (bit : ℕ)
    (hbit : bit < 32) :
    (controlWord read (addr.setWidth 32) (BitVec.ofNat 32 nbytes)).getLsbD bit =
      ((read && decide (bit = 19)) ||
        (decide (16 ≤ bit) && length.getLsbD (bit - 16)) ||
        addr.getLsbD bit || decide (bit = 24)) := by
  have hone : ∀ position, (1 : Word) <<< position =
      BitVec.twoPow 32 position := fun _ => rfl
  have hread : (if read then BitVec.twoPow 32 19 else 0).getLsbD bit =
      (read && decide (bit = 19)) := by
    cases read with
    | false => simp
    | true => simp [BitVec.getLsbD_twoPow, eq_comm]
  have hstart : (BitVec.twoPow 32 24).getLsbD bit =
      decide (bit = 24) := by
    simp [BitVec.getLsbD_twoPow, eq_comm]
  have hfield : (length.setWidth 32 <<< 16).getLsbD bit =
      (decide (16 ≤ bit) && length.getLsbD (bit - 16)) := by
    rw [BitVec.getLsbD_shiftLeft, BitVec.getLsbD_setWidth]
    by_cases hbelow : bit < 16
    · simp [hbelow, Nat.not_le.mpr hbelow]
    · have hinside : bit - 16 < 32 := by omega
      simp [hbit, hbelow, hinside, Nat.not_lt.mp hbelow]
  have haddr : (addr.setWidth 32 <<< 0).getLsbD bit =
      addr.getLsbD bit := by
    rw [BitVec.shiftLeft_zero, BitVec.getLsbD_setWidth, decide_eq_true hbit,
      Bool.true_and]
  rw [controlWord, hlength, hone, hone, BitVec.getLsbD_or, BitVec.getLsbD_or,
    BitVec.getLsbD_or, hread, hfield, haddr, hstart]

theorem controlWord_fields (read : Bool) (addr : BitVec 16)
    (hlow : 1 ≤ nbytes) (hhigh : nbytes ≤ 8) :
    ControlFields (controlWord read (addr.setWidth 32) (BitVec.ofNat 32 nbytes))
      addr nbytes read := by
  obtain ⟨length, hlength, htoNat⟩ := exists_length hlow hhigh
  have hbits := controlWord_getLsbD read addr hlength
  generalize controlWord read (addr.setWidth 32) (BitVec.ofNat 32 nbytes) =
    word at hbits
  have haddr : word.extractLsb' 0 16 = addr := by
    ext index hindex
    rw [BitVec.getElem_extractLsb', Nat.zero_add, hbits _ (by omega)]
    have hread : ¬ index = 19 := by omega
    have hfield : ¬ 16 ≤ index := by omega
    have hstart : ¬ index = 24 := by omega
    simp [hread, hfield, hstart, BitVec.getLsbD_eq_getElem hindex]
  have hfield : word.extractLsb' 16 3 = length := by
    ext index hindex
    rw [BitVec.getElem_extractLsb', hbits _ (by omega)]
    have hread : ¬ 16 + index = 19 := by omega
    have hstart : ¬ 16 + index = 24 := by omega
    simp [hread, hstart, BitVec.getLsbD_eq_getElem hindex]
  constructor
  · exact haddr
  · rw [hfield]
    exact htoNat
  · rw [hbits _ (by decide)]
    simp
  · rw [hbits _ (by decide)]
    simp
  · intro bit hbit hstart
    by_cases hinside : bit < 32
    · have hread : ¬ bit = 19 := by omega
      have hlong : length.getLsbD (bit - 16) = false :=
        BitVec.getLsbD_of_ge _ _ (by omega)
      have habove : addr.getLsbD bit = false :=
        BitVec.getLsbD_of_ge _ _ (by omega)
      simp [hbits bit hinside, hread, hlong, habove, hstart]
    · exact BitVec.getLsbD_of_ge _ _ (by omega)

end Fields

/-! ## Data words -/

section Data

variable {nbytes : ℕ}

/-- The shift of a write. -/
theorem toNat_shift (hhigh : nbytes ≤ 8) :
    (8 * (8 - BitVec.ofNat 32 nbytes) : Word).toNat = 8 * (8 - nbytes) := by
  have height : (8 : Word).toNat = 8 := rfl
  rw [BitVec.toNat_mul, BitVec.toNat_sub, BitVec.toNat_ofNat, height]
  omega

theorem toNat_mask_shift (hhigh : nbytes ≤ 8) :
    (8 * BitVec.ofNat 32 nbytes : Word).toNat = 8 * nbytes := by
  have height : (8 : Word).toNat = 8 := rfl
  rw [BitVec.toNat_mul, BitVec.toNat_ofNat, height]
  omega

theorem byte_pow (count : ℕ) : 2 ^ (8 * count) = 256 ^ count := by
  rw [Nat.pow_mul]

/-- Two halves put together again. -/
theorem toNat_halves (value : LongWord) :
    ((value >>> 32).setWidth 32 : Word).toNat * 2 ^ 32 +
      (value.setWidth 32 : Word).toNat = value.toNat := by
  have hvalue := value.isLt
  rw [BitVec.toNat_setWidth, BitVec.toNat_setWidth, BitVec.toNat_ushiftRight,
    Nat.shiftRight_eq_div_pow]
  omega

/-- The two data words hold the data, moved to the left. -/
theorem toNat_data (hhigh : nbytes ≤ 8) (data : LongWord) :
    (data <<< (8 * (8 - BitVec.ofNat 32 nbytes) : Word).toNat).toNat =
      data.toNat * 256 ^ (8 - nbytes) % 2 ^ 64 := by
  rw [toNat_shift hhigh, BitVec.toNat_shiftLeft, Nat.shiftLeft_eq, byte_pow]

/-- The bytes on the left are the low bytes of the data. -/
theorem top_bytes (hhigh : nbytes ≤ 8) (data : ℕ) :
    data * 256 ^ (8 - nbytes) % 2 ^ 64 / 256 ^ (8 - nbytes) =
      data % 256 ^ nbytes := by
  have hwhole : 2 ^ 64 = 256 ^ nbytes * 256 ^ (8 - nbytes) :=
    calc
      2 ^ 64 = 256 ^ 8 := byte_pow 8
      _ = 256 ^ (nbytes + (8 - nbytes)) := by
        rw [Nat.add_sub_cancel' hhigh]
      _ = 256 ^ nbytes * 256 ^ (8 - nbytes) := Nat.pow_add _ _ _
  have hpositive : 0 < 256 ^ (8 - nbytes) := Nat.pow_pos (by decide)
  rw [hwhole, Nat.mul_mod_mul_right, Nat.mul_div_cancel _ hpositive]

theorem toNat_joined (dataLow dataHigh : Word) :
    ((dataHigh.setWidth 64 <<< 32) ||| dataLow.setWidth 64 : LongWord).toNat =
      dataHigh.toNat * 2 ^ 32 + dataLow.toNat := by
  have hlow := dataLow.isLt
  have hhigh := dataHigh.isLt
  have hleft : (dataHigh.setWidth 64 <<< 32 : LongWord).toNat =
      dataHigh.toNat <<< 32 := by
    rw [BitVec.toNat_shiftLeft, BitVec.toNat_setWidth, Nat.shiftLeft_eq,
      Nat.shiftLeft_eq]
    omega
  have hright : (dataLow.setWidth 64 : LongWord).toNat = dataLow.toNat := by
    rw [BitVec.toNat_setWidth]
    omega
  rw [BitVec.toNat_or, hleft, hright, ← Nat.shiftLeft_add_eq_or_of_lt hlow,
    Nat.shiftLeft_eq]

/-- The result of a read, as a number. -/
theorem toNat_masked (hhigh : nbytes < 8) (value : LongWord) :
    (value &&& ((1 <<< (8 * BitVec.ofNat 32 nbytes : Word).toNat) - 1)).toNat =
      value.toNat % 256 ^ nbytes := by
  have hmask : ((1 <<< (8 * BitVec.ofNat 32 nbytes : Word).toNat) - 1 :
      LongWord).toNat = 2 ^ (8 * nbytes) - 1 := by
    have hall : ∀ count < 8, ((1 <<< (8 * count)) - 1 : LongWord).toNat =
        2 ^ (8 * count) - 1 := by decide
    rw [toNat_mask_shift hhigh.le]
    exact hall nbytes hhigh
  rw [BitVec.toNat_and, hmask, Nat.and_two_pow_sub_one_eq_mod, byte_pow]

end Data

/-! ## Accesses -/

/-- A write comes back once the device is idle; the control word has the fields
of a write, and the data words hold the low bytes of the data on the left. -/
def WriteCorrect (addr : BitVec 16) (data : LongWord) (nbytes : ℕ) : Prop :=
  ∀ (busy later : List Word) (board : MixerBoard), (∀ reply ∈ busy, reply ≠ 0) →
    ∃ reached, writeAccess (addr.setWidth 32) data (BitVec.ofNat 32 nbytes)
        ⟨busy ++ 0 :: later, board⟩ = .ok ((), ⟨later, reached⟩) ∧
      ControlFields (reached.content ⟨.adau1761, ctrlAddr⟩) addr nbytes false ∧
      let high := reached.content ⟨.adau1761, writeHighDataAddr⟩
      let low := reached.content ⟨.adau1761, writeLowDataAddr⟩
      high.toNat * 2 ^ 32 + low.toNat =
          data.toNat * 256 ^ (8 - nbytes) % 2 ^ 64 ∧
        (high.toNat * 2 ^ 32 + low.toNat) / 256 ^ (8 - nbytes) =
          data.toNat % 256 ^ nbytes

/-- A read comes back with the low bytes of the two data registers. -/
def ReadCorrect (addr : BitVec 16) (nbytes : ℕ) : Prop :=
  ∀ (busy later : List Word) (low high : Word) (board : MixerBoard),
    (∀ reply ∈ busy, reply ≠ 0) →
    ∃ value reached, readAccess (addr.setWidth 32) (BitVec.ofNat 32 nbytes)
        ⟨busy ++ 0 :: low :: high :: later, board⟩ =
          .ok (value, ⟨later, reached⟩) ∧
      ControlFields (reached.content ⟨.adau1761, ctrlAddr⟩) addr nbytes true ∧
      value.toNat = (high.toNat * 2 ^ 32 + low.toNat) % 256 ^ nbytes

section Accesses

variable {addr : BitVec 16} {nbytes : ℕ}

theorem driver_ok {α : Type} {program : CodecM α} {state : CodecState}
    {result : α × CodecState} (hrun : program state = .ok result) :
    driver program state = .ok result := by
  rw [driver, hrun]

theorem writeCorrect (hlow : 1 ≤ nbytes) (hhigh : nbytes ≤ 8)
    (data : LongWord) : WriteCorrect addr data nbytes := by
  intro busy later board hbusy
  have hshift : (8 * (8 - BitVec.ofNat 32 nbytes) : Word).toNat < 64 := by
    rw [toNat_shift hhigh]
    omega
  obtain ⟨reached, hrun, hcontrol, hdataLow, hdataHigh⟩ :=
    @writeAdau1761_answered busy later board (addr.setWidth 32)
      (BitVec.ofNat 32 nbytes) data hbusy
  refine ⟨reached, ?_, ?_, ?_⟩
  · rw [writeAccess_eq hshift]
    exact driver_ok hrun
  · rw [hcontrol]
    exact controlWord_fields false addr hlow hhigh
  · intro high low
    have hjoined : high.toNat * 2 ^ 32 + low.toNat =
        data.toNat * 256 ^ (8 - nbytes) % 2 ^ 64 := by
      rw [← toNat_data hhigh, ← toNat_halves, ← hdataHigh, ← hdataLow]
    exact ⟨hjoined, by rw [hjoined, top_bytes hhigh]⟩

/-- The mask of eight bytes would be shifted by the width of its operand. -/
theorem readAccess_eight (addr : Word) :
    readAccess addr 8 ⟨[0, 0, 0], zeroBoard⟩ = .error .undefined := rfl

theorem readCorrect_iff (hlow : 1 ≤ nbytes) (hhigh : nbytes ≤ 8) :
    ReadCorrect addr nbytes ↔ nbytes ≠ 8 := by
  constructor
  · rintro hcorrect rfl
    obtain ⟨value, reached, hrun, _⟩ := hcorrect [] [] 0 0 zeroBoard (by simp)
    have hstuck := readAccess_eight (addr.setWidth 32)
    exact absurd (hstuck.symm.trans hrun) (by simp)
  · intro hne busy later low high board hbusy
    have hshort : nbytes < 8 := by omega
    have hshift : (8 * BitVec.ofNat 32 nbytes : Word).toNat < 64 := by
      rw [toNat_mask_shift hhigh]
      omega
    obtain ⟨reached, hrun, hcontrol⟩ :=
      @readAdau1761_answered busy later board (addr.setWidth 32)
        (BitVec.ofNat 32 nbytes) low high hbusy
    have haccess := driver_ok hrun
    rw [← readAccess_eq hshift] at haccess
    refine ⟨_, reached, haccess, ?_, ?_⟩
    · rw [hcontrol]
      exact controlWord_fields true addr hlow hhigh
    · rw [toNat_masked hshort, toNat_joined]

/-- Every write of up to eight bytes is right, and a read is exactly when it is
of less. -/
theorem codecAccess_iff (addr : BitVec 16) (hlow : 1 ≤ nbytes)
    (hhigh : nbytes ≤ 8) :
    (∀ data, WriteCorrect addr data nbytes) ∧
      (ReadCorrect addr nbytes ↔ nbytes ≠ 8) :=
  ⟨fun data => writeCorrect hlow hhigh data, readCorrect_iff hlow hhigh⟩

end Accesses

/-- For the six bytes of the clock settings. -/
theorem codecAccess_six :
    (∀ data, WriteCorrect 0x4002 data 6) ∧ (ReadCorrect 0x4002 6 ↔ 6 ≠ 8) :=
  codecAccess_iff 0x4002 (by decide) (by decide)

/-- A read of eight bytes has no defined value, although a write of eight bytes
is right. -/
theorem readAccess_not_correct :
    ¬ ReadCorrect 0x4000 8 ∧
      readAccess 0x4000 8 ⟨[0, 0, 0], zeroBoard⟩ = .error .undefined :=
  ⟨fun hcorrect => (readCorrect_iff (by decide) (by decide)).mp hcorrect rfl,
    readAccess_eight 0x4000⟩

end Songpark.Codec
