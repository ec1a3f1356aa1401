import Songpark.Device.EthParam
import Songpark.Text.LetterCase

/-!
# Addresses as text and as numbers

An address that is printed and typed again is the same address: an IP address
word for word, a MAC address in either case of its letters and through the
registers of the UDP stack.  The number that `read_eth_mac` returns beside the
text is another matter.  Its upper half is shifted in 32 bits, so the first two
bytes of the address are lost.
-/

namespace Songpark.EthParam

open Songpark.RegisterFile Songpark.RegIo Songpark.Scan Songpark.Address

/-- The bytes that `print_mac` leaves in its buffer, the lowest first, and the
line it prints; four of the six bytes have a place in its format. -/
def printMac (ip : LongWord) : List Byte × Text :=
  let byte (shift : ℕ) : Byte := ((ip >>> shift) &&& 0xFF).setWidth 8
  ([byte 0, byte 8, byte 16, byte 24, byte 32, byte 40, 0],
    decimal (byte 40).toNat ++ '.' :: (decimal (byte 32).toNat ++
      '.' :: (decimal (byte 24).toNat ++ '.' :: (decimal (byte 16).toNat ++
        ['\n']))))

/-- The mask of the reader keeps three bytes whole. -/
theorem macWord_and (high middle low : Byte) :
    macWord high middle low &&& 0x00FFFFFF = macWord high middle low := by
  ext index hindex
  interval_cases index <;> simp [macWord]

/-- The first two bytes are shifted out. -/
theorem macWord_shiftLeft_or (first second : Byte) (octets : Fin 4 → Byte) :
    (macWord first second (octets 0) <<< 24) |||
        macWord (octets 1) (octets 2) (octets 3) = ipWord octets := by
  ext index hindex
  interval_cases index <;> simp [macWord, ipWord, packOctets]

section Registers

variable (ethBase : Device) (mac : Mac) (board : MixerBoard)

/-- The text of an address that was written. -/
theorem readEthMac_bytes :
    (readEthMac ethBase (writeEthMac ethBase .mac mac board).2).1.1 = mac := by
  have hread : (readEthMac ethBase (writeEthMac ethBase .mac mac board).2).1.1 =
      macBytes (macWord (mac 0) (mac 1) (mac 2))
        (macWord (mac 3) (mac 4) (mac 5)) := by
    simp [readEthMac]
  rw [hread, macBytes_macWord]

/-- The number of an address that was written: its last four bytes. -/
theorem readEthMac_number :
    (readEthMac ethBase (writeEthMac ethBase .mac mac board).2).1.2 =
      (ipWord fun index => mac (Fin.natAdd 2 index)).setWidth 64 := by
  have hread : (readEthMac ethBase (writeEthMac ethBase .mac mac board).2).1.2 =
      (((macWord (mac 0) (mac 1) (mac 2) &&& 0x00FFFFFF) <<< 24) |||
        (macWord (mac 3) (mac 4) (mac 5) &&& 0x00FFFFFF)).setWidth 64 := by
    simp [readEthMac]
  rw [hread, macWord_and, macWord_and]
  exact congrArg (BitVec.setWidth 64)
    (macWord_shiftLeft_or (mac 0) (mac 1) fun index => mac (Fin.natAdd 2 index))

/-- The number is the address exactly when the lost bytes are zero. -/
theorem readEthMac_number_eq_iff :
    (readEthMac ethBase (writeEthMac ethBase .mac mac board).2).1.2 =
      macNumber mac ↔ mac 0 = 0 ∧ mac 1 = 0 := by
  have hbytes : ∀ index, (mac index).toNat < 256 := fun index =>
    (mac index).isLt
  have h0 := hbytes 0
  have h1 := hbytes 1
  have h2 := hbytes 2
  have h3 := hbytes 3
  have h4 := hbytes 4
  have h5 := hbytes 5
  have hthird : mac (Fin.natAdd 2 (0 : Fin 4)) = mac 2 := rfl
  have hfourth : mac (Fin.natAdd 2 (1 : Fin 4)) = mac 3 := rfl
  have hfifth : mac (Fin.natAdd 2 (2 : Fin 4)) = mac 4 := rfl
  have hsixth : mac (Fin.natAdd 2 (3 : Fin 4)) = mac 5 := rfl
  have hzero : (0 : Byte).toNat = 0 := rfl
  rw [readEthMac_number, ipWord_eq_quadWord, quadWord, macNumber,
    ← BitVec.toNat_inj, ← BitVec.toNat_inj, ← BitVec.toNat_inj]
  simp only [hthird, hfourth, hfifth, hsixth, hzero, BitVec.toNat_setWidth,
    BitVec.toNat_ofNat]
  omega

/-- The bytes that `print_mac` finds in the number. -/
theorem printMac_number :
    (printMac (readEthMac ethBase
        (writeEthMac ethBase .mac mac board).2).1.2).1 =
      [mac 5, mac 4, mac 3, mac 2, 0, 0, 0] := by
  have hbytes : ∀ octets : Fin 4 → Byte,
      (printMac ((ipWord octets).setWidth 64)).1 =
        [octets 3, octets 2, octets 1, octets 0, 0, 0, 0] := by
    intro octets
    simp only [printMac, List.cons.injEq, and_true]
    refine ⟨?_, ?_, ?_, ?_, ?_, ?_⟩ <;> ext index hindex <;>
      interval_cases index <;> simp [ipWord, packOctets]
  rw [readEthMac_number, hbytes]
  rfl

/-- Both ways to read the number back agree with the address exactly when its
first two bytes are zero. -/
theorem readEthMac_isNumber_iff :
    ((readEthMac ethBase (writeEthMac ethBase .mac mac board).2).1.2 =
        macNumber mac ∧
      (printMac (readEthMac ethBase
          (writeEthMac ethBase .mac mac board).2).1.2).1 =
        [mac 5, mac 4, mac 3, mac 2, mac 1, mac 0, 0]) ↔
      mac 0 = 0 ∧ mac 1 = 0 := by
  rw [readEthMac_number_eq_iff, printMac_number]
  simp only [List.cons.injEq, true_and, and_true]
  constructor
  · rintro ⟨hlost, _⟩
    exact hlost
  · rintro ⟨hfirst, hsecond⟩
    exact ⟨⟨hfirst, hsecond⟩, hsecond.symm, hfirst.symm⟩

end Registers

/-- The address the mixer is configured with. -/
def exampleMac : Mac := fun index =>
  BitVec.ofNat 8 (0x74DA88C214B4 >>> (8 * (5 - index.val)))

/-- The address `74.DA.88.C2.14.B4` is returned without its first two bytes. -/
theorem readEthMac_number_lost :
    macText exampleMac = "74.DA.88.C2.14.B4".toList ∧
      (readEthMac .fullUdpStackIp
        (writeEthMac .fullUdpStackIp .mac exampleMac zeroBoard).2).1.2 =
        0x88C214B4 ∧
      0x88C214B4 ≠ macNumber exampleMac := by
  decide +kernel

end Songpark.EthParam
