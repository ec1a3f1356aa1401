import Songpark.Core.BitField
import Songpark.Device.StreamControl

/-!
# Feature bits of the streaming blocks

Three control words hold the switches of the streaming blocks: register 0 of
the audio to ethernet block, register 0 of the ethernet to audio block and
register 1 of the packet sequencer.  Each call reads its word, changes a few
bits and writes it back.
-/

namespace Songpark.FeatureBits

open Songpark.BitField Songpark.LastSet Songpark.RegisterFile
open Songpark.RegIo Songpark.StreamControl

/-- The base pointers that the calls of a run are made with. -/
structure Bases where
  audioToEth : Device
  ethToAudio : Device
  pktSeq : Device

/-- The features with one bit each.  The bits of the packet sequencer are set
while the feature is disabled. -/
inductive Feature
  | testMode
  | pcntMode
  | streamSend
  | bufCorr
  | plc
  | pktSeqDisabled
  | pktWaitDisabled
  | pktSendDelayDisabled
  deriving DecidableEq

/-- The parts that are reset by raising and lowering bits. -/
inductive Resettable
  | adcFifos
  | dacFifos
  | pktSeq
  deriving DecidableEq

inductive FeatureCall
  | reset (part : Resettable)
  | switch (feature : Feature) (on : Bool)
  | testMode (mode : Word)
  deriving DecidableEq

def FeatureCall.perform (bases : Bases) : FeatureCall → DeviceM Unit
  | .reset .adcFifos => resetAdcFifos bases.audioToEth
  | .reset .dacFifos => resetDacFifos bases.ethToAudio
  | .reset .pktSeq => resetPktSeq bases.pktSeq
  | .switch .testMode true => setTestModeOn bases.audioToEth
  | .switch .testMode false => setTestModeOff bases.audioToEth
  | .switch .pcntMode true => setPcntModeOn bases.audioToEth
  | .switch .pcntMode false => setPcntModeOff bases.audioToEth
  | .switch .streamSend true => setStreamSendOn bases.audioToEth
  | .switch .streamSend false => setStreamSendOff bases.audioToEth
  | .switch .bufCorr true => setBufCorrOn bases.ethToAudio
  | .switch .bufCorr false => clearBufCorr bases.ethToAudio
  | .switch .plc true => setPlcEnable bases.ethToAudio
  | .switch .plc false => setPlcDisable bases.ethToAudio
  | .switch .pktSeqDisabled true => disblePktSeq bases.pktSeq
  | .switch .pktSeqDisabled false => enablePktSeq bases.pktSeq
  | .switch .pktWaitDisabled true => setStreamPktWaitDisable bases.pktSeq
  | .switch .pktWaitDisabled false => setStreamPktWaitEnable bases.pktSeq
  | .switch .pktSendDelayDisabled true =>
      setStreamPktSendDelayDisable bases.pktSeq
  | .switch .pktSendDelayDisabled false =>
      setStreamPktSendDelayEnable bases.pktSeq
  | .testMode mode => setTestMode bases.audioToEth mode

/-! ## Places -/

def Feature.word (bases : Bases) : Feature → Register
  | .testMode | .pcntMode | .streamSend => ⟨bases.audioToEth, audioToEthReg 0⟩
  | .bufCorr | .plc => ⟨bases.ethToAudio, ethToAudioReg 0⟩
  | .pktSeqDisabled | .pktWaitDisabled | .pktSendDelayDisabled =>
      ⟨bases.pktSeq, pktSeqReg 1⟩

def Feature.bit : Feature → ℕ
  | .testMode => 7
  | .pcntMode => 6
  | .streamSend => 8
  | .bufCorr => 5
  | .plc => 4
  | .pktSeqDisabled => 1
  | .pktWaitDisabled => 2
  | .pktSendDelayDisabled => 3

def Resettable.word (bases : Bases) : Resettable → Register
  | .adcFifos => ⟨bases.audioToEth, audioToEthReg 0⟩
  | .dacFifos => ⟨bases.ethToAudio, ethToAudioReg 0⟩
  | .pktSeq => ⟨bases.pktSeq, pktSeqReg 1⟩

def Resettable.mask : Resettable → Word
  | .adcFifos | .dacFifos => 0x00000003
  | .pktSeq => 0x00000001

/-- The three bits that select a test signal. -/
def testModeMask : Word := 0x00000E00

def testModeField (word : Word) : Word := (word &&& testModeMask) >>> 9

/-- The word that a call changes. -/
def FeatureCall.word (bases : Bases) : FeatureCall → Register
  | .reset part => part.word bases
  | .switch feature _ => feature.word bases
  | .testMode _ => ⟨bases.audioToEth, audioToEthReg 0⟩

/-- The bits that a call is for. -/
def FeatureCall.mask : FeatureCall → Word
  | .reset part => part.mask
  | .switch feature _ => BitVec.twoPow 32 feature.bit
  | .testMode _ => testModeMask

def FeatureCall.Addresses (bases : Bases) (call : FeatureCall)
    (cell : Register) (bit : ℕ) : Prop :=
  call.word bases = cell ∧ call.mask.getLsbD bit = true

instance (bases : Bases) (call : FeatureCall) (cell : Register) (bit : ℕ) :
    Decidable (call.Addresses bases cell bit) :=
  inferInstanceAs (Decidable (_ ∧ _))

/-! ## What a run does -/

def FeatureCall.switched? (feature : Feature) : FeatureCall → Option Bool
  | .switch other on => if other = feature then some on else none
  | _ => none

/-- The number that a call puts into the test mode field. -/
def FeatureCall.mode? : FeatureCall → Option Word
  | .testMode mode => some (if mode ≤ 4 then mode else 0)
  | _ => none

/-- The features after a run: each switch and the test mode are as they were
set last, the bits of every part that was reset are zero, and no other bit of
the board differs. -/
structure Independent (bases : Bases) (calls : List FeatureCall)
    (board final : MixerBoard) : Prop where
  switches : ∀ feature : Feature,
    (final.content (feature.word bases)).getLsbD feature.bit =
      (lastSet (FeatureCall.switched? feature) calls).getD
        ((board.content (feature.word bases)).getLsbD feature.bit)
  testMode :
    testModeField (final.content ⟨bases.audioToEth, audioToEthReg 0⟩) =
      (lastSet FeatureCall.mode? calls).getD
        (testModeField (board.content ⟨bases.audioToEth, audioToEthReg 0⟩))
  resets : ∀ part : Resettable, .reset part ∈ calls →
    final.content (part.word bases) &&& part.mask = 0
  others : ∀ (cell : Register) (bit : ℕ),
    (∀ call ∈ calls, ¬call.Addresses bases cell bit) →
      (final.content cell).getLsbD bit = (board.content cell).getLsbD bit

/-! ## One call -/

/-- The value that a call gives to the bits it is for. -/
def FeatureCall.value : FeatureCall → Word
  | .reset _ => 0
  | .switch feature on => if on then BitVec.twoPow 32 feature.bit else 0
  | .testMode mode => testModeBits mode

theorem testModeBits_and_mask (mode : Word) :
    testModeBits mode &&& testModeMask = testModeBits mode := by
  unfold testModeBits
  repeat' split
  all_goals rfl

section Calls

variable {bases : Bases} {board : MixerBoard}

/-- Every call replaces the bits it is for and keeps all others. -/
theorem perform_content (call : FeatureCall) :
    (call.perform bases board).2.content =
      Function.update board.content (call.word bases)
        (insert call.mask call.value (board.content (call.word bases))) := by
  cases call with
  | reset part =>
      rw [FeatureCall.value, insert_zero]
      cases part with
      | adcFifos => exact pulse_content _ _ _ _ _
      | dacFifos => exact pulse_content _ _ _ _ _
      | pktSeq => exact pulseShown_content _ _ _ _ _
  | switch feature on =>
      cases on with
      | true =>
          rw [FeatureCall.value, if_pos rfl, FeatureCall.mask, insert_mask]
          cases feature <;> rfl
      | false =>
          rw [FeatureCall.value, if_neg Bool.false_ne_true, FeatureCall.mask,
            insert_zero]
          cases feature <;> rfl
  | testMode mode =>
      rw [FeatureCall.value, FeatureCall.mask,
        insert_of_and_eq (testModeBits_and_mask mode)]
      rfl

/-- What a call does to a bit of the board, if anything. -/
def FeatureCall.sets (bases : Bases) (cell : Register) (bit : ℕ)
    (call : FeatureCall) : Option Bool :=
  if call.Addresses bases cell bit then some (call.value.getLsbD bit) else none

theorem perform_bit (cell : Register) (bit : ℕ) (call : FeatureCall) :
    ((call.perform bases board).2.content cell).getLsbD bit =
      (call.sets bases cell bit).getD ((board.content cell).getLsbD bit) := by
  rw [perform_content, FeatureCall.sets]
  by_cases hword : call.word bases = cell
  · subst hword
    rw [Function.update_self, getLsbD_insert]
    by_cases hmask : call.mask.getLsbD bit = true
    · rw [if_pos hmask, if_pos ⟨rfl, hmask⟩]
      rfl
    · rw [if_neg hmask, if_neg fun haddr => hmask haddr.2]
      rfl
  · rw [Function.update_of_ne (Ne.symm hword), if_neg fun haddr => hword haddr.1]
    rfl

/-! ## Whose bit is whose -/

theorem Feature.eq_of_place {left right : Feature}
    (hword : left.word bases = right.word bases) (hbit : left.bit = right.bit) :
    left = right := by
  cases left <;> cases right <;> simp [Feature.word, Feature.bit] at hword hbit ⊢

theorem Feature.getLsbD_resettable {feature : Feature} {part : Resettable}
    (hword : part.word bases = feature.word bases) :
    part.mask.getLsbD feature.bit = false := by
  cases part <;> cases feature <;>
    simp [Resettable.word, Resettable.mask, Feature.word, Feature.bit] at hword ⊢

theorem Feature.twoPow_and_testModeMask (feature : Feature) :
    BitVec.twoPow 32 feature.bit &&& testModeMask = 0 := by
  cases feature <;> decide

theorem Feature.getLsbD_twoPow (feature : Feature) :
    (BitVec.twoPow 32 feature.bit).getLsbD feature.bit = true := by
  cases feature <;> rfl

theorem Resettable.mask_and_testModeMask (part : Resettable) :
    part.mask &&& testModeMask = 0 := by
  cases part <;> rfl

/-- A call whose mask has a clear bit there does not address it. -/
theorem sets_eq_none {cell : Register} {bit : ℕ} {call : FeatureCall}
    (hclear : call.word bases = cell → call.mask.getLsbD bit = false) :
    call.sets bases cell bit = none := by
  refine if_neg fun haddr => ?_
  have hbit := haddr.2
  rw [hclear haddr.1] at hbit
  exact Bool.false_ne_true hbit

theorem getLsbD_twoPow_eq_false {place bit : ℕ} (hother : place ≠ bit) :
    (BitVec.twoPow 32 place).getLsbD bit = false := by
  rw [BitVec.getLsbD_twoPow, decide_eq_false hother, Bool.and_false]

/-- The bit of a feature is set by the calls for that feature alone. -/
theorem sets_feature (feature : Feature) (call : FeatureCall) :
    call.sets bases (feature.word bases) feature.bit =
      call.switched? feature := by
  cases call with
  | reset part => exact sets_eq_none Feature.getLsbD_resettable
  | switch other on =>
      rw [FeatureCall.switched?]
      by_cases hsame : other = feature
      · subst hsame
        have hbit := other.getLsbD_twoPow
        rw [if_pos rfl, FeatureCall.sets, if_pos ⟨rfl, hbit⟩]
        cases on with
        | true => exact congrArg some hbit
        | false => exact congrArg some BitVec.getLsbD_zero
      · rw [if_neg hsame]
        apply sets_eq_none
        intro hword
        apply getLsbD_twoPow_eq_false
        exact fun hbit => hsame (Feature.eq_of_place hword hbit)
  | testMode mode =>
      apply sets_eq_none
      intro _
      exact getLsbD_eq_false_of_and feature.twoPow_and_testModeMask
        feature.getLsbD_twoPow

/-- A bit that belongs to a reset is never set to one. -/
theorem sets_resettable {part : Resettable} {bit : ℕ}
    (hbit : part.mask.getLsbD bit = true) (call : FeatureCall) :
    call.sets bases (part.word bases) bit = none ∨
      call.sets bases (part.word bases) bit = some false := by
  cases call with
  | reset other =>
      by_cases haddr :
          FeatureCall.Addresses bases (.reset other) (part.word bases) bit
      · rw [FeatureCall.sets, if_pos haddr]
        exact Or.inr (congrArg some BitVec.getLsbD_zero)
      · exact Or.inl (if_neg haddr)
  | switch feature on =>
      apply Or.inl
      apply sets_eq_none
      intro hword
      apply getLsbD_twoPow_eq_false
      rintro rfl
      have hclear := Feature.getLsbD_resettable hword.symm
      rw [hbit] at hclear
      exact Bool.false_ne_true hclear.symm
  | testMode mode =>
      apply Or.inl
      apply sets_eq_none
      intro _
      exact getLsbD_eq_false_of_and part.mask_and_testModeMask hbit

theorem testModeBits_shift (mode : Word) :
    testModeBits mode >>> 9 = if mode ≤ 4 then mode else 0 := by
  unfold testModeBits
  by_cases hmode : mode ≤ 4
  · rw [if_pos hmode]
    have hnat : mode.toNat ≤ 4 := hmode
    have hcases : mode = 0 ∨ mode = 1 ∨ mode = 2 ∨ mode = 3 ∨ mode = 4 := by
      bv_omega
    rcases hcases with rfl | rfl | rfl | rfl | rfl <;> rfl
  · have hne : ∀ low : Word, low ≤ 4 → mode ≠ low := fun low hlow heq =>
      hmode (heq ▸ hlow)
    rw [if_neg hmode, if_neg (hne 1 (by decide)), if_neg (hne 2 (by decide)),
      if_neg (hne 3 (by decide)), if_neg (hne 4 (by decide))]
    rfl

/-- The test mode field is set by `setTestMode` alone. -/
theorem perform_testModeField (call : FeatureCall) :
    testModeField ((call.perform bases board).2.content
        ⟨bases.audioToEth, audioToEthReg 0⟩) =
      call.mode?.getD (testModeField
        (board.content ⟨bases.audioToEth, audioToEthReg 0⟩)) := by
  rw [perform_content, testModeField, testModeField]
  by_cases hword : call.word bases = ⟨bases.audioToEth, audioToEthReg 0⟩
  · rw [hword, Function.update_self]
    cases call with
    | reset part =>
        rw [FeatureCall.mask,
          insert_and_of_disjoint part.mask_and_testModeMask]
        rfl
    | switch feature on =>
        rw [FeatureCall.mask,
          insert_and_of_disjoint feature.twoPow_and_testModeMask]
        rfl
    | testMode mode =>
        rw [FeatureCall.mask, insert_and_mask, FeatureCall.value,
          testModeBits_and_mask, testModeBits_shift]
        rfl
  · rw [Function.update_of_ne (Ne.symm hword)]
    cases call with
    | reset part => rfl
    | switch feature on => rfl
    | testMode mode => exact absurd rfl hword

end Calls

/-! ## Runs -/

section Runs

variable {bases : Bases} {board : MixerBoard} {calls : List FeatureCall}

theorem drive_bit (cell : Register) (bit : ℕ) :
    ((drive (FeatureCall.perform bases) calls board).content cell).getLsbD bit =
      (lastSet (FeatureCall.sets bases cell bit) calls).getD
        ((board.content cell).getLsbD bit) :=
  drive_lastSet
    (fun current : MixerBoard => (current.content cell).getLsbD bit)
    (FeatureCall.sets bases cell bit)
    (fun call _ => perform_bit cell bit call) calls

end Runs

/-- In every run the features stay independent, whatever the words held
before it and whichever bases the calls are made with. -/
theorem features_independent (bases : Bases) (calls : List FeatureCall)
    (board : MixerBoard) :
    Independent bases calls board
      (drive (FeatureCall.perform bases) calls board) where
  switches feature := by
    rw [drive_bit, funext (sets_feature feature)]
  testMode :=
    drive_lastSet (fun current : MixerBoard => testModeField
      (current.content ⟨bases.audioToEth, audioToEthReg 0⟩)) FeatureCall.mode?
      (fun call _ => perform_testModeField call) calls
  resets part hreset := by
    apply BitVec.eq_of_getLsbD_eq
    intro bit hbound
    rw [BitVec.getLsbD_and, drive_bit]
    cases hbit : part.mask.getLsbD bit with
    | false => simp
    | true =>
        have hself : FeatureCall.sets bases (part.word bases) bit
            (.reset part) = some false :=
          (if_pos ⟨rfl, hbit⟩).trans (congrArg some BitVec.getLsbD_zero)
        rw [lastSet_eq_some (fun call _ => sets_resettable hbit call)
          ⟨.reset part, hreset, hself⟩]
        simp
  others cell bit haddresses := by
    have hnone : lastSet (FeatureCall.sets bases cell bit) calls = none :=
      lastSet_eq_none.mpr fun call hcall => if_neg (haddresses call hcall)
    rw [drive_bit, hnone]
    rfl

end Songpark.FeatureBits
