import Songpark.Device.ConfigStore
import Songpark.Ui.Init
import Mathlib.Data.Fin.VecNotation

/-!
# Addresses at start-up and by command

The initialisation and the commands parse addresses with the same function, but
the initialisation keeps the octets in an array of plain `char` and the
commands in one of `unsigned char`.  Where plain `char` is signed the octets
from 128 on are negative, and extending them to `int` sets all bits to their
left.
-/

namespace Songpark.UiControl

open Songpark.Address Songpark.ConfigStore Songpark.EthParam
open Songpark.LastSet Songpark.RegisterFile Songpark.RegIo Songpark.Scan
open Songpark.StateProgram

/-- The signedness of plain `char`, which is the compiler's choice. -/
inductive PlainChar
  | signed
  | unsigned
  deriving DecidableEq

/-- The promotion of a plain `char` to `int`. -/
def PlainChar.promote : PlainChar → Byte → Word
  | .signed => (·.signExtend 32)
  | .unsigned => (·.setWidth 32)

/-- `configureAddress` with a plain `char` of either signedness. -/
def startAddress (plain : PlainChar) (param : EthParamId) (text : Text) :
    UiM Unit :=
  match extractIpAddress text with
  | some octets =>
      device (writeEthParam .fullUdpStackIp param
        (packOctets plain.promote octets))
  | none => halt .undefined

/-- `configureNetwork` with a plain `char` of either signedness. -/
def startNetwork (plain : PlainChar) (copied : NetworkSettings) :
    UiM Unit := do
  startAddress plain .localIp copied.localIp
  startAddress plain .destIp copied.destIp
  startAddress plain .maskIp copied.maskIp
  startAddress plain .gtwayIp copied.gatewayIp
  device (writeEthParam .fullUdpStackIp .destPort copied.destPort)
  device (writeEthParam .fullUdpStackIp .syncPort copied.syncPort)

/-- With a signed `char` this is the initialisation of the x86-64 build. -/
theorem startNetwork_signed : startNetwork .signed = configureNetwork := rfl

/-- The addresses that can be given both at start-up and by command. -/
inductive AddressRole
  | localIp
  | destIp
  | maskIp
  | gatewayIp
  deriving DecidableEq

def AddressRole.param : AddressRole → EthParamId
  | .localIp => .localIp
  | .destIp => .destIp
  | .maskIp => .maskIp
  | .gatewayIp => .gtwayIp

def AddressRole.command : AddressRole → Command
  | .localIp => .strlip
  | .destIp => .strdip
  | .maskIp => .strmask
  | .gatewayIp => .strgip

/-- Arguments with a dotted quad in each role. -/
def quadArguments (addresses : AddressRole → Fin 4 → Byte) (rest : Arguments) :
    Arguments :=
  { rest with
    localIp := dottedQuad (addresses .localIp)
    destIp := dottedQuad (addresses .destIp)
    maskIp := dottedQuad (addresses .maskIp)
    gatewayIp := dottedQuad (addresses .gatewayIp) }

/-- The same for the texts that the arguments are copied into. -/
def quadSettings (addresses : AddressRole → Fin 4 → Byte)
    (rest : NetworkSettings) : NetworkSettings :=
  { rest with
    localIp := dottedQuad (addresses .localIp)
    destIp := dottedQuad (addresses .destIp)
    maskIp := dottedQuad (addresses .maskIp)
    gatewayIp := dottedQuad (addresses .gatewayIp) }

/-- Start-up and command write one word for an address, the number it stands
for. -/
def SameAddress (plain : PlainChar) (addresses : AddressRole → Fin 4 → Byte)
    (rest : NetworkSettings) (role : AddressRole) (ui : UiState) : Prop :=
  ∃ started commanded,
    startNetwork plain (quadSettings addresses rest) ui =
        .ok ((), started) ∧
      execute role.command ⟨none, some (dottedQuad (addresses role))⟩ ui =
        .ok ((), commanded) ∧
      ∀ offset ∈ paramRegs role.param,
        started.board.content ⟨.fullUdpStackIp, offset⟩ =
            quadWord (addresses role) ∧
          commanded.board.content ⟨.fullUdpStackIp, offset⟩ =
            quadWord (addresses role)

/-- No octet from 128 on stands to the right of one other than 255. -/
def SignFree (octets : Fin 4 → Byte) : Prop :=
  ∀ high low : Fin 4, high < low → 128 ≤ (octets low).toNat →
    (octets high).toNat = 255

/-! ## Octets in a word -/

/-- All eight bits alike. -/
def fill (bit : Bool) : Byte := if bit then 255 else 0

theorem fill_true : fill true = BitVec.allOnes 8 := rfl

theorem getElem_fill (bit : Bool) {index : ℕ} (hindex : index < 8) :
    (fill bit)[index] = bit := by
  cases bit with
  | false => exact BitVec.getElem_zero hindex
  | true =>
      simp only [fill_true]
      exact BitVec.getElem_allOnes index hindex

theorem or_fill_eq_iff (byte : Byte) (bit : Bool) :
    byte ||| fill bit = byte ↔ (bit = true → byte.toNat = 255) := by
  cases bit with
  | false => simp [fill]
  | true =>
      rw [fill_true, BitVec.or_allOnes, ← BitVec.toNat_inj,
        BitVec.toNat_allOnes]
      simp only [forall_const]
      exact eq_comm

/-- Some octet to the right is negative as a signed `char`. -/
def negativeRight (octets : Fin 4 → Byte) (high : Fin 4) : Bool :=
  decide (∃ low, high < low ∧ (octets low).msb = true)

theorem negativeRight_eq (octets : Fin 4 → Byte) :
    negativeRight octets 0 =
        ((octets 1).msb || (octets 2).msb || (octets 3).msb) ∧
      negativeRight octets 1 = ((octets 2).msb || (octets 3).msb) ∧
      negativeRight octets 2 = (octets 3).msb ∧
      negativeRight octets 3 = false := by
  simp [negativeRight, Fin.exists_fin_succ, Bool.or_assoc]

/-- What becomes of the octets when each is extended with its sign: a negative
one fills every octet to its left. -/
def spilled (octets : Fin 4 → Byte) : Fin 4 → Byte := fun high =>
  octets high ||| fill (negativeRight octets high)

theorem packOctets_signExtend (octets : Fin 4 → Byte) :
    packOctets (·.signExtend 32) octets = ipWord (spilled octets) := by
  obtain ⟨h0, h1, h2, h3⟩ := negativeRight_eq octets
  apply BitVec.eq_of_getLsbD_eq
  intro index hindex
  interval_cases index <;>
    simp [packOctets, ipWord, spilled, h0, h1, h2, h3,
      BitVec.getElem_signExtend, getElem_fill, Bool.or_assoc]

theorem spilled_eq_iff (octets : Fin 4 → Byte) :
    spilled octets = octets ↔ SignFree octets := by
  have hmsb : ∀ low, (octets low).msb = true ↔ 128 ≤ (octets low).toNat := by
    intro low
    rw [BitVec.msb_eq_decide, decide_eq_true_eq]
  rw [funext_iff]
  simp only [spilled, or_fill_eq_iff, negativeRight, decide_eq_true_eq, hmsb]
  constructor
  · intro hspilled high low hlt hlow
    exact hspilled high ⟨low, hlt, hlow⟩
  · intro hfree high hright
    obtain ⟨low, hlt, hlow⟩ := hright
    exact hfree high low hlt hlow

/-- The octets packed as plain `char` make up the number exactly if `char` is
unsigned or no sign spills over. -/
theorem packOctets_promote_iff (plain : PlainChar) (octets : Fin 4 → Byte) :
    packOctets plain.promote octets = quadWord octets ↔
      plain = .unsigned ∨ SignFree octets := by
  cases plain with
  | unsigned =>
      have hword : packOctets PlainChar.unsigned.promote octets =
          quadWord octets := ipWord_eq_quadWord octets
      simp [hword]
  | signed =>
      have hword : packOctets PlainChar.signed.promote octets =
          ipWord (spilled octets) := packOctets_signExtend octets
      rw [hword, ← ipWord_eq_quadWord, ipWord_injective.eq_iff, spilled_eq_iff]
      simp

/-! ## Runs -/

/-- The writes of the start-up path. -/
def startCalls (plain : PlainChar) (addresses : AddressRole → Fin 4 → Byte)
    (rest : NetworkSettings) : List ConfigCall :=
  [.ethParam .localIp (packOctets plain.promote (addresses .localIp)),
   .ethParam .destIp (packOctets plain.promote (addresses .destIp)),
   .ethParam .maskIp (packOctets plain.promote (addresses .maskIp)),
   .ethParam .gtwayIp (packOctets plain.promote (addresses .gatewayIp)),
   .ethParam .destPort rest.destPort,
   .ethParam .syncPort rest.syncPort]

theorem startNetwork_apply (plain : PlainChar)
    (addresses : AddressRole → Fin 4 → Byte) (rest : NetworkSettings)
    (ui : UiState) :
    startNetwork plain (quadSettings addresses rest) ui =
      .ok ((), { ui with
        board := configured .fullUdpStackIp (startCalls plain addresses rest)
          ui.board }) := by
  simp only [startNetwork, startAddress, quadSettings,
    extractIpAddress_dottedQuad]
  rfl

theorem startNetwork_content (plain : PlainChar)
    (addresses : AddressRole → Fin 4 → Byte) (rest : NetworkSettings)
    (role : AddressRole) (board : MixerBoard) {offset : ℕ}
    (hmem : offset ∈ paramRegs role.param) :
    (configured .fullUdpStackIp (startCalls plain addresses rest)
      board).content ⟨.fullUdpStackIp, offset⟩ =
      packOctets plain.promote (addresses role) := by
  have hlast : lastData role.param (startCalls plain addresses rest) =
      some (packOctets plain.promote (addresses role)) := by
    cases role <;> rfl
  rw [configured_content hmem, hlast]
  rfl

/-- Dotted quads are copied as they are. -/
theorem copied_quad {addresses : AddressRole → Fin 4 → Byte}
    {rest : Arguments} {copied : NetworkSettings}
    (hcopied : Copied (quadArguments addresses rest) copied) :
    copied = quadSettings addresses copied := by
  obtain ⟨_, hlocal, hdest, hgateway, hmask⟩ := hcopied
  simp only [quadArguments, formatText_dottedQuad, Option.some.injEq]
    at hlocal hdest hgateway hmask
  rw [quadSettings, hlocal, hdest, hgateway, hmask]

/-- No address is kept in the first half of the MAC address or in the control
word. -/
theorem role_offset_ne {role : AddressRole} {offset : ℕ}
    (hmem : offset ∈ paramRegs role.param) : offset ≠ 0 ∧ offset ≠ 60 := by
  cases role <;> simp [AddressRole.param, paramRegs] at hmem <;> omega

theorem execute_address (role : AddressRole) (octets : Fin 4 → Byte)
    (ui : UiState) :
    ∃ commanded,
      execute role.command ⟨none, some (dottedQuad octets)⟩ ui =
        .ok ((), commanded) ∧
      commanded.board = (writeEthParam .fullUdpStackIp role.param
        (ipWord octets) ui.board).2 := by
  have hargument : role.command.argument = .ip := by
    cases role <;> rfl
  have hperform : perform role.command = writeAddress role.param := by
    cases role <;> rfl
  have hlength : (dottedQuad octets).length < 128 := by
    have hbyte := fun index => decimal_byte_length (octets index)
    have h0 := hbyte 0
    have h1 := hbyte 1
    have h2 := hbyte 2
    have h3 := hbyte 3
    simp only [dottedQuad, List.length_append, List.length_cons]
    omega
  let typed : UiState := { ui with ip := dottedQuad octets }
  have hrun : perform role.command typed =
      .ok ((), { typed with board := (writeEthParam .fullUdpStackIp role.param
        (ipWord octets) ui.board).2 }) := by
    rw [hperform, writeAddress, StateProgram.bind_apply, observe_apply]
    simp only [typed, extractIpAddress_dottedQuad]
    rfl
  exact ⟨_, (execute_ip_eq_ok hargument).mpr ⟨hlength, hrun⟩, rfl⟩

section Both

variable {plain : PlainChar} {addresses : AddressRole → Fin 4 → Byte}
variable {rest : NetworkSettings} {role : AddressRole} {ui : UiState}

/-- The command always writes the number, so only the start-up path can write
another word. -/
theorem sameAddress_of_packed
    (hpacked : packOctets plain.promote (addresses role) =
      quadWord (addresses role)) :
    SameAddress plain addresses rest role ui := by
  obtain ⟨commanded, hexecute, hboard⟩ :=
    execute_address role (addresses role) ui
  refine ⟨_, commanded, startNetwork_apply plain addresses rest ui, hexecute, ?_⟩
  intro offset hmem
  constructor
  · exact (startNetwork_content plain addresses rest role ui.board hmem).trans
      hpacked
  · rw [hboard, writeEthParam_content, if_pos ⟨rfl, hmem⟩]
    exact ipWord_eq_quadWord (addresses role)

theorem packed_of_sameAddress
    (hsame : SameAddress plain addresses rest role ui) :
    packOctets plain.promote (addresses role) = quadWord (addresses role) := by
  obtain ⟨started, _, hstart, _, hwords⟩ := hsame
  have hne : paramRegs role.param ≠ [] := by
    cases role <;> exact List.cons_ne_nil _ _
  obtain ⟨offset, hmem⟩ := List.exists_mem_of_ne_nil _ hne
  have hword := (hwords offset hmem).1
  rw [startNetwork_apply, Except.ok.injEq, Prod.mk.injEq] at hstart
  rw [← hstart.2] at hword
  exact (startNetwork_content plain addresses rest role ui.board hmem).symm.trans
    hword

end Both

/-- Both paths write the number of the address exactly if plain `char` is
unsigned or every octet to the left of one from 128 on is 255. -/
theorem sameAddress_iff (plain : PlainChar)
    (addresses : AddressRole → Fin 4 → Byte) (rest : NetworkSettings)
    (role : AddressRole) (ui : UiState) :
    SameAddress plain addresses rest role ui ↔
      plain = .unsigned ∨ SignFree (addresses role) := by
  rw [← packOctets_promote_iff]
  exact ⟨packed_of_sameAddress, sameAddress_of_packed⟩

/-- With a signed `char` every register of an address holds, when the
initialisation has returned 0, the number exactly if no sign spills over. -/
theorem initialise_address_iff {env : Environment}
    {addresses : AddressRole → Fin 4 → Byte} {rest : Arguments}
    {role : AddressRole} {ui ready : UiState}
    (hinit : initialise env (quadArguments addresses rest) ui = .ok (0, ready))
    {offset : ℕ} (hmem : offset ∈ paramRegs role.param) :
    ready.board.content ⟨.fullUdpStackIp, offset⟩ = quadWord (addresses role) ↔
      SignFree (addresses role) := by
  obtain ⟨_, copied, started, configured, hcopied, hstack, hdefaults⟩ :=
    initialise_eq_zero hinit
  obtain ⟨_, withMac, _, hnetwork⟩ := bind_eq_ok.mp hstack
  have hquads : copied = quadSettings addresses copied := copied_quad hcopied
  rw [hquads, ← startNetwork_signed, startNetwork_apply] at hnetwork
  cases hnetwork
  obtain ⟨hmac, hcontrol⟩ := role_offset_ne hmem
  rw [setDefaults_stack hmac hcontrol hdefaults,
    startNetwork_content .signed addresses copied role withMac.board hmem,
    packOctets_promote_iff]
  simp

/-- What the arguments of the sample are copied into. -/
def sampleSettings : NetworkSettings where
  localMac := sampleArguments.localMac
  localIp := sampleArguments.localIp
  destIp := sampleArguments.destIp
  gatewayIp := sampleArguments.gatewayIp
  maskIp := sampleArguments.maskIp
  destPort := 8024
  syncPort := 8025

/-- With a signed `char` the address 192.168.1.1 is written as
255.168.1.1 at start-up. -/
theorem not_sameAddress_signed :
    ¬SameAddress .signed (fun _ => ![192, 168, 1, 1]) sampleSettings .localIp
      (start blankBoard 0) := by
  intro hsame
  have hpacked := packed_of_sameAddress hsame
  exact absurd hpacked (by decide)

end Songpark.UiControl
