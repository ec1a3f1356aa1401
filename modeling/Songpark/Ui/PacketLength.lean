import Songpark.Ui.Execute

/-!
# Checks of the packet length

Two commands take the length of a packet and warn when what is left of it after
the header is no multiple of six.  The subtraction is one of 64 bits without
sign, and 2⁶⁴ leaves the remainder four: the two lengths 2 and 8, shorter than
the header of `strplen`, pass its check.  The main result says for every number
typed whether a length that is not warned about is what the program takes it
for.
-/

namespace Songpark.UiControl

open Songpark.RegisterFile Songpark.RegIo Songpark.Scan Songpark.StateProgram
open Songpark.StreamControl

/-- A length that passes the check of `strplen` is twelve bytes and six for each
sample, and the driver is told that length. -/
def PayloadSound (n : ℕ) (ui reached : UiState) : Prop :=
  reached.printed = ui.printed →
    n = 12 + 6 * reached.pktLenRlSamples.toNat ∧
      reached.pktLen.toNat = 6 * reached.pktLenRlSamples.toNat ∧
      (reached.board.content ⟨.audioToEth, audioToEthReg 3⟩).toNat = n

/-- The same for `setplcpktsize`, whose header has two bytes. -/
def PacketSizeSound (n : ℕ) (ui reached : UiState) : Prop :=
  reached.printed = ui.printed →
    2 ≤ n ∧ 6 ∣ n - 2 ∧
      (reached.board.content ⟨.ethPacketSequencer, pktSeqReg 7⟩).toNat = n - 2

section Lengths

variable {typed : Typed} {ui reached : UiState}

/-- The remainder is less than six, so its sign bit is not set. -/
theorem slt_remainder (length : LongWord) :
    BitVec.slt 0 ((length % 6).setWidth 32 : Word) ↔ length.toNat % 6 ≠ 0 := by
  have hvalue : ((length % 6).setWidth 32 : Word).toNat = length.toNat % 6 := by
    have hsix : (6 : LongWord).toNat = 6 := rfl
    rw [BitVec.toNat_setWidth, BitVec.toNat_umod, hsix]
    omega
  have hsmall : 2 * ((length % 6).setWidth 32 : Word).toNat < 2 ^ 32 := by
    omega
  have hzero : (0 : Word).toInt = 0 := rfl
  rw [BitVec.slt_iff_toInt_lt, hzero, BitVec.toInt_eq_toNat_of_lt hsmall, hvalue]
  omega

/-- Nothing is printed exactly when nothing is left over. -/
theorem warnLength_printed (tmp header : LongWord) (ui : UiState) :
    ∃ printed, warnLength tmp header ui =
        .ok ((), { ui with printed := printed }) ∧
      (printed = ui.printed ↔ (tmp - header).toNat % 6 = 0) := by
  by_cases hrest : (tmp - header).toNat % 6 = 0
  · have hslt : ¬ BitVec.slt 0 (((tmp - header) % 6).setWidth 32 : Word) := by
      rw [slt_remainder]
      exact not_not_intro hrest
    refine ⟨ui.printed, ?_, iff_of_true rfl hrest⟩
    rw [warnLength, if_neg hslt]
    rfl
  · have hslt : BitVec.slt 0 (((tmp - header) % 6).setWidth 32 : Word) :=
      (slt_remainder _).mpr hrest
    refine ⟨badLength :: ui.printed, ?_,
      iff_of_false (List.cons_ne_self _ _) hrest⟩
    rw [warnLength, if_pos hslt]
    rfl

/-- What `strplen` leaves behind. -/
theorem step_strplen_warned (hstep : step ⟨.strplen, typed⟩ ui = .ok reached)
    {tmp : LongWord} (htmp : typed.intoTmp ui.tmp = tmp) :
    (reached.printed = ui.printed ↔ (tmp - 12).toNat % 6 = 0) ∧
      reached.pktLen = (tmp - 12).setWidth 32 ∧
      reached.pktLenRlSamples = (tmp - 12).setWidth 32 / 6 ∧
      reached.board.content ⟨.audioToEth, audioToEthReg 3⟩ =
        tmp.setWidth 32 := by
  obtain ⟨hrun, _⟩ := step_eq_ok.mp hstep
  obtain ⟨printed, hwarn, hprinted⟩ := warnLength_printed tmp 12
    { clearLog ui with
      pktLen := (tmp - 12).setWidth 32
      pktLenRlSamples := (tmp - 12).setWidth 32 / 6
      tmp := tmp }
  have htyped : typed.intoTmp (clearLog ui).tmp = tmp := htmp
  rw [execute_tmp rfl, perform, setPayloadLength, htyped] at hrun
  simp only [StateProgram.bind_apply, observe_apply, change_apply, hwarn,
    device_apply, Except.ok.injEq, Prod.mk.injEq, true_and] at hrun
  subst hrun
  refine ⟨hprinted, rfl, rfl, ?_⟩
  simp [setStreamPlen]

/-- What `setplcpktsize` leaves behind. -/
theorem step_setplcpktsize_warned
    (hstep : step ⟨.setplcpktsize, typed⟩ ui = .ok reached)
    {tmp : LongWord} (htmp : typed.intoTmp ui.tmp = tmp) :
    (reached.printed = ui.printed ↔ (tmp - 2).toNat % 6 = 0) ∧
      reached.board.content ⟨.ethPacketSequencer, pktSeqReg 7⟩ =
        (tmp - 2).setWidth 32 := by
  obtain ⟨hrun, _⟩ := step_eq_ok.mp hstep
  obtain ⟨printed, hwarn, hprinted⟩ := warnLength_printed tmp 2
    { clearLog ui with tmp := tmp }
  have htyped : typed.intoTmp (clearLog ui).tmp = tmp := htmp
  rw [execute_tmp rfl, perform, setPlcPacketSize, htyped] at hrun
  simp only [StateProgram.bind_apply, observe_apply, hwarn, device_apply,
    Except.ok.injEq, Prod.mk.injEq, true_and] at hrun
  subst hrun
  refine ⟨hprinted, ?_⟩
  simp [setStreamRxPktSize]

/-- A subtraction that wraps. -/
theorem toNat_sub_header (tmp header : LongWord) :
    (tmp - header).toNat =
      if header.toNat ≤ tmp.toNat then tmp.toNat - header.toNat
      else 2 ^ 64 - (header.toNat - tmp.toNat) := by
  have htmp := tmp.isLt
  have hheader := header.isLt
  rw [BitVec.toNat_sub]
  split_ifs <;> omega

/-- A payload length that is not warned about is right unless it is 2 or 8, or
too long for the register. -/
theorem payloadSound_iff (hstep : step ⟨.strplen, typed⟩ ui = .ok reached)
    {n : ℕ} (hn : (typed.intoTmp ui.tmp).toNat = n) :
    PayloadSound n ui reached ↔ n ≠ 2 ∧ n ≠ 8 ∧ (n < 2 ^ 32 ∨ n % 6 ≠ 0) := by
  obtain ⟨hprinted, hlength, hsamples, hregister⟩ :=
    step_strplen_warned hstep rfl
  have hheader := toNat_sub_header (typed.intoTmp ui.tmp) 12
  have htwelve : (12 : LongWord).toNat = 12 := rfl
  have hsix : (6 : Word).toNat = 6 := rfl
  have hbound := (typed.intoTmp ui.tmp).isLt
  rw [PayloadSound, hprinted, hlength, hsamples, hregister]
  rw [htwelve, hn] at hheader
  rw [hn] at hbound
  simp only [BitVec.toNat_setWidth, BitVec.toNat_udiv, hsix, hn]
  split_ifs at hheader with hwhole
  · by_cases hshort : n < 2 ^ 32
    · have hkept : n % 2 ^ 32 = n := Nat.mod_eq_of_lt hshort
      have hrest : (n - 12) % 2 ^ 32 = n - 12 := Nat.mod_eq_of_lt (by omega)
      rw [hheader, hkept, hrest]
      omega
    · omega
  · omega

theorem packetSizeSound_iff
    (hstep : step ⟨.setplcpktsize, typed⟩ ui = .ok reached)
    {n : ℕ} (hn : (typed.intoTmp ui.tmp).toNat = n) :
    PacketSizeSound n ui reached ↔ n < 2 ^ 32 + 2 ∨ n % 6 ≠ 2 := by
  obtain ⟨hprinted, hregister⟩ := step_setplcpktsize_warned hstep rfl
  have hheader := toNat_sub_header (typed.intoTmp ui.tmp) 2
  have htwo : (2 : LongWord).toNat = 2 := rfl
  have hbound := (typed.intoTmp ui.tmp).isLt
  rw [PacketSizeSound, hprinted, hregister]
  rw [htwo, hn] at hheader
  rw [hn] at hbound
  simp only [BitVec.toNat_setWidth]
  split_ifs at hheader <;> omega

/-- For which numbers, held in `tmp`, the check of either command is sound. -/
theorem packetLength_sound_iff {n : ℕ}
    (hn : (typed.intoTmp ui.tmp).toNat = n) :
    (∀ reached, step ⟨.strplen, typed⟩ ui = .ok reached →
      (PayloadSound n ui reached ↔
        n ≠ 2 ∧ n ≠ 8 ∧ (n < 2 ^ 32 ∨ n % 6 ≠ 0))) ∧
    ∀ reached, step ⟨.setplcpktsize, typed⟩ ui = .ok reached →
      (PacketSizeSound n ui reached ↔ n < 2 ^ 32 + 2 ∨ n % 6 ≠ 2) :=
  ⟨fun _ hstep => payloadSound_iff hstep hn,
    fun _ hstep => packetSizeSound_iff hstep hn⟩

end Lengths

/-- With the length of a packet of one sample, and with one of two samples for
the other command. -/
theorem packetLength_sound_eighteen :
    (∃ reached, step ⟨.strplen, ⟨some 18, none⟩⟩ (start zeroBoard 0) =
        .ok reached ∧
      (PayloadSound 18 (start zeroBoard 0) reached ↔
        18 ≠ 2 ∧ 18 ≠ 8 ∧ (18 < 2 ^ 32 ∨ 18 % 6 ≠ 0))) ∧
    ∃ reached, step ⟨.setplcpktsize, ⟨some 14, none⟩⟩ (start zeroBoard 0) =
        .ok reached ∧
      (PacketSizeSound 14 (start zeroBoard 0) reached ↔
        14 < 2 ^ 32 + 2 ∨ 14 % 6 ≠ 2) := by
  constructor
  · obtain ⟨reached, hstep⟩ : ∃ reached,
        step ⟨.strplen, ⟨some 18, none⟩⟩ (start zeroBoard 0) = .ok reached :=
      ⟨_, rfl⟩
    exact ⟨reached, hstep, (packetLength_sound_iff rfl).1 reached hstep⟩
  · obtain ⟨reached, hstep⟩ : ∃ reached,
        step ⟨.setplcpktsize, ⟨some 14, none⟩⟩ (start zeroBoard 0) =
          .ok reached :=
      ⟨_, rfl⟩
    exact ⟨reached, hstep, (packetLength_sound_iff rfl).2 reached hstep⟩

/-- The length 2 passes the check, and the program takes it for one of more than
four billion bytes. -/
theorem packetLength_two :
    ∃ reached, step ⟨.strplen, ⟨some 2, none⟩⟩ (start zeroBoard 0) =
        .ok reached ∧
      reached.printed = (start zeroBoard 0).printed ∧
      reached.pktLen = 4294967286 ∧
      ¬ PayloadSound 2 (start zeroBoard 0) reached := by
  obtain ⟨reached, hstep⟩ : ∃ reached,
      step ⟨.strplen, ⟨some 2, none⟩⟩ (start zeroBoard 0) = .ok reached :=
    ⟨_, rfl⟩
  obtain ⟨hprinted, hlength, _⟩ := step_strplen_warned hstep rfl
  have htwo : (Typed.intoTmp ⟨some 2, none⟩ (start zeroBoard 0).tmp).toNat =
      2 := rfl
  refine ⟨reached, hstep, hprinted.mpr (by decide), ?_, ?_⟩
  · rw [hlength]
    decide
  · rw [payloadSound_iff hstep htwo]
    omega

end Songpark.UiControl
