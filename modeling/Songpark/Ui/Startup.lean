import Songpark.Device.BringUp
import Songpark.Ui.Survival

/-!
# How the initialisation ends

`ui_init` returns 0 or -1, ends the process, writes beyond an array, or waits for
the codec for ever.  Which of these it does depends on what the system and the
codec answer and on the arguments, by the first stage that fails.
-/

namespace Songpark.UiControl

open Songpark.RegisterFile Songpark.RegIo Songpark.Scan Songpark.StateProgram
open Songpark.Address Songpark.EthParam Songpark.MixerControl
open Songpark.StreamControl

/-! ## The arguments -/

/-- An argument as its buffer can hold it. -/
def copied? (argument : Text) : Option Text :=
  match formatText argument with
  | some text => if text.length < 64 then some text else none
  | none => none

def Arguments.copied? (args : Arguments) : Option NetworkSettings := do
  let localMac ← UiControl.copied? args.localMac
  let localIp ← UiControl.copied? args.localIp
  let destIp ← UiControl.copied? args.destIp
  let gatewayIp ← UiControl.copied? args.gatewayIp
  let maskIp ← UiControl.copied? args.maskIp
  let destPort ← args.destPort
  let syncPort ← args.syncPort
  return {
    localMac, localIp, destIp, gatewayIp, maskIp
    destPort := atoi destPort
    syncPort := atoi syncPort }

/-- The parsers keep all addresses inside their arrays. -/
def NetworkSettings.parsed (copied : NetworkSettings) : Bool :=
  (extractMacAddress copied.localMac).isSome &&
    ((extractIpAddress copied.localIp).isSome &&
    ((extractIpAddress copied.destIp).isSome &&
    ((extractIpAddress copied.maskIp).isSome &&
    (extractIpAddress copied.gatewayIp).isSome)))

/-- All texts fit their buffers, no port is missing, and the parsers keep their
addresses inside their arrays. -/
def Arguments.accepted (args : Arguments) : Bool :=
  args.copied?.any NetworkSettings.parsed

/-- The word that `ui_init` returns, or how it stops. -/
def startup (env : Environment) (args : Arguments) : Except Halt Word :=
  if ∃ dev ∈ initOrder, env.deviceFd dev < 1 then .ok (-1)
  else if ¬Codec.Answering env.codecReplies then .error .waiting
  else if env.exportFd < 0 then .error .exit
  else if ¬args.accepted then .error .undefined
  else if env.clientSocket < 0 then .error .exit
  else if env.clientSocket < 1 then .ok (-1)
  else .ok 0

/-! ## Stages -/

section Stages

variable {env : Environment} {args : Arguments} {copied : NetworkSettings}

theorem startCodec_ends :
    Ends (startCodec env)
      (if Codec.Answering env.codecReplies then .ok () else .error .waiting) := by
  intro ui
  rw [startCodec]
  cases hrun : Codec.initCodec ⟨env.codecReplies, ui.board⟩ with
  | ok returned =>
      rw [if_pos (Codec.answering_of_returns hrun)]
      rfl
  | error halted =>
      have hstuck : ¬Codec.Answering env.codecReplies := by
        intro hanswering
        obtain ⟨reached, hreturns⟩ :=
          @Codec.returns_of_answering ⟨env.codecReplies, ui.board⟩ hanswering
        rw [hrun] at hreturns
        cases hreturns
      rw [if_neg hstuck]
      rfl

theorem initGpios_ends :
    Ends (initGpios env)
      (if env.exportFd < 0 then .error .exit else .ok ()) :=
  .ite (.halt _) (.pure _)

/-- What an option that is missing leaves undefined. -/
def orUndefined {α : Type} : Option α → Except Halt α
  | some value => .ok value
  | none => .error .undefined

theorem orUndefined_bind {α β : Type} (value : Option α)
    (next : α → Option β) :
    (orUndefined value).bind (fun found => orUndefined (next found)) =
      orUndefined (value.bind next) := by
  cases value <;> rfl

theorem copyArgument_ends (argument : Text) :
    Ends (copyArgument argument) (orUndefined (copied? argument)) := by
  unfold copyArgument copied?
  cases formatText argument with
  | none => exact .halt _
  | some text =>
      dsimp only
      split_ifs with hlength
      · exact .pure _
      · exact .halt _

theorem readPort_ends (argument : Option Text) :
    Ends (readPort argument) (orUndefined (argument.map atoi)) := by
  cases argument with
  | some text => exact .pure _
  | none => exact .halt _

theorem copyArguments_ends :
    Ends (copyArguments args) (orUndefined args.copied?) := by
  have hcopies : Ends (copyArguments args) _ :=
    .bind (copyArgument_ends args.localMac) fun localMac =>
    .bind (copyArgument_ends args.localIp) fun localIp =>
    .bind (copyArgument_ends args.destIp) fun destIp =>
    .bind (copyArgument_ends args.gatewayIp) fun gatewayIp =>
    .bind (copyArgument_ends args.maskIp) fun maskIp =>
    .bind (readPort_ends args.destPort) fun destPort =>
    .bind (readPort_ends args.syncPort) fun syncPort => .pure _
  convert hcopies using 1
  cases hdest : args.destPort <;> cases hsync : args.syncPort <;>
    simp only [Arguments.copied?, hdest, hsync, Option.bind_eq_bind,
      ← orUndefined_bind] <;> rfl

/-- What a condition that does not hold leaves undefined. -/
def requires (condition : Bool) : Except Halt Unit :=
  if condition then .ok () else .error .undefined

theorem requires_bind (left right : Bool) :
    (requires left).bind (fun _ => requires right) =
      requires (left && right) := by
  cases left <;> rfl

theorem requires_guards {α : Type} (condition : Bool) (result : Except Halt α) :
    (requires condition).bind (fun _ => result) =
      if ¬condition then .error .undefined else result := by
  cases condition <;> rfl

theorem configureAddress_ends (param : EthParamId) (text : Text) :
    Ends (configureAddress param text)
      (requires (extractIpAddress text).isSome) := by
  unfold configureAddress
  cases extractIpAddress text with
  | none => exact .halt _
  | some octets => exact .of_returns (returns_device _)

theorem configureMac_ends (text : Text) :
    Ends (configureMac text) (requires (extractMacAddress text).isSome) := by
  unfold configureMac
  cases extractMacAddress text with
  | none => exact .halt _
  | some mac => exact .of_returns (returns_device _)

theorem configureStack_ends :
    Ends (configureStack copied) (requires copied.parsed) := by
  have hports : Ends
      (do
        device (writeEthParam .fullUdpStackIp .destPort copied.destPort)
        device (writeEthParam .fullUdpStackIp .syncPort copied.syncPort))
      (requires true) :=
    .of_returns (.bind (returns_device _) fun _ => returns_device _)
  have hstages : Ends (configureStack copied) _ :=
    .bind (configureMac_ends copied.localMac) fun _ =>
    .bind (configureAddress_ends .localIp copied.localIp) fun _ =>
    .bind (configureAddress_ends .destIp copied.destIp) fun _ =>
    .bind (configureAddress_ends .maskIp copied.maskIp) fun _ =>
    .bind (configureAddress_ends .gtwayIp copied.gatewayIp) fun _ => hports
  simp only [requires_bind, Bool.and_true] at hstages
  exact hstages

theorem returns_setDefaults : Returns setDefaults :=
  .bind (.bind (returns_device _) fun _ => .bind (returns_device _) fun _ =>
    .bind (.change _) fun _ => .bind (.change _) fun _ =>
    .bind (.change _) fun _ => .bind (.change _) fun _ => .change _)
    fun _ => returns_device _

/-- After the mapping stage the first stage that fails decides. -/
theorem configure_ends
    (hopened : ¬∃ dev ∈ initOrder, env.deviceFd dev < 1) :
    Ends (configure env args) (startup env args) := by
  have hstages : Ends (configure env args) _ :=
    .bind startCodec_ends fun _ => .bind initGpios_ends fun _ =>
    .bind copyArguments_ends fun copied =>
    .bind configureStack_ends fun _ =>
    .ite (.halt _) (.ite (.pure _)
      (.bind (.of_returns returns_setDefaults) fun _ => .pure _))
  convert hstages using 1
  rw [startup, if_neg hopened]
  by_cases hcodec : Codec.Answering env.codecReplies
  · rw [if_neg (not_not.mpr hcodec), if_pos hcodec]
    by_cases hexport : env.exportFd < 0
    · rw [if_pos hexport, if_pos hexport]
      rfl
    · rw [if_neg hexport, if_neg hexport, Arguments.accepted]
      cases args.copied? with
      | none => rfl
      | some copied => exact (requires_guards copied.parsed _).symm
  · rw [if_pos hcodec, if_neg hcodec]
    rfl

end Stages

/-! ## The whole initialisation -/

section Initialisation

variable {env : Environment} {args : Arguments} {board : MixerBoard}
variable {tmp : LongWord}

theorem mapDevice_eq_null {dev : Device} :
    mapDevice env dev = .null ↔ env.deviceFd dev < 1 := by
  rw [mapDevice]
  split_ifs <;> simp_all

/-- When every file that can be opened can be mapped, the answers and the
arguments decide how the initialisation ends. -/
theorem initialise_startup (hmaps : ∀ dev, env.mmaps dev = true)
    (hnull : ∀ dev, board.base dev = .null) :
    (initialise env args (start board tmp)).map Prod.fst =
      startup env args := by
  by_cases hopened : ∃ dev ∈ initOrder, env.deviceFd dev < 1
  · have hunopened : ¬∀ dev ∈ initOrder, mapDevice env dev ≠ .null := by
      obtain ⟨dev, hdev, hfd⟩ := hopened
      exact fun hall => hall dev hdev (mapDevice_eq_null.mpr hfd)
    rw [startup, if_pos hopened, initialise, uiInit_unopened hunopened]
    exact congrArg (Except.map Prod.fst) (if_pos fun _ hmem => nomatch hmem)
  · have hmapped : ∀ dev ∈ initOrder, mapDevice env dev = .mapped := by
      intro dev hdev
      have hfd : ¬env.deviceFd dev < 1 := fun hless => hopened ⟨dev, hdev, hless⟩
      rw [mapDevice, if_neg hfd, if_pos (hmaps dev)]
    have hall : ∀ dev ∈ initOrder, mapDevice env dev ≠ .null := by
      intro dev hdev
      rw [hmapped dev hdev]
      exact Base.noConfusion
    rw [← configure_ends hopened (afterMapping env initOrder
      (clearLog (start board tmp))), ← uiInit_opened hall, initialise]
    cases hinit : uiInit env args (clearLog (start board tmp)) with
    | error halted => rfl
    | ok returned =>
        obtain ⟨value, ready⟩ := returned
        have htrace := uiInit_trace hnull hmapped hinit
        have hready : Mapped ready.board := by
          apply mapped_of_trace (congrArg Prod.snd htrace)
          intro dev hdev
          have hbase := congrFun (congrArg Prod.fst htrace) dev
          exact hbase.trans (if_neg hdev)
        exact congrArg (Except.map Prod.fst) (if_pos hready)

/-- The clock of this codec never locks. -/
def unlockedSystem : Environment :=
  { answeringSystem with codecReplies := List.replicate 41 0 }

theorem initialise_startup_unlocked :
    (initialise unlockedSystem sampleArguments (start unmappedBoard 0)).map
      Prod.fst = .error .waiting :=
  (initialise_startup (fun _ => rfl) fun _ => rfl).trans (by decide +kernel)

/-- A call without the last argument, which `main` lets through. -/
example : startup answeringSystem
    { sampleArguments with syncPort := none, ordered := nofun } =
      .error .undefined := by decide +kernel

end Initialisation

end Songpark.UiControl
