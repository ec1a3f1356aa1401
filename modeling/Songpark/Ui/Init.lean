import Songpark.Device.Codec
import Songpark.Ui.Execute

/-!
# Initialisation

`ui_init` maps the devices, brings up the codec, configures the UDP stack from
the arguments of the process and sets the default volumes.  What the operating
system and the codec answer on the way is given by an environment.
-/

namespace Songpark.UiControl

open Songpark.RegisterFile Songpark.RegIo Songpark.Scan Songpark.StateProgram
open Songpark.Address Songpark.EthParam Songpark.MixerControl
open Songpark.StreamControl

/-- The answers of the system: the descriptors of the device files and whether
they can be mapped, the words read from the codec, the descriptor of the GPIO
export file and the client socket. -/
structure Environment where
  deviceFd : Device → ℤ
  mmaps : Device → Bool
  codecReplies : List Word
  exportFd : ℤ
  clientSocket : ℤ

/-- `argv[1]` to `argv[7]`.  `main` also lets calls through that lack one or
both of the ports. -/
structure Arguments where
  localMac : Text
  localIp : Text
  destIp : Text
  gatewayIp : Text
  maskIp : Text
  destPort : Option Text
  syncPort : Option Text
  ordered : syncPort.isSome → destPort.isSome

/-- The variables that the arguments are read into. -/
structure NetworkSettings where
  localMac : Text
  localIp : Text
  destIp : Text
  gatewayIp : Text
  maskIp : Text
  destPort : Word
  syncPort : Word

/-! ## Devices -/

/-- Only a file that cannot be opened gives `NULL`; a failed mapping does not
and goes unnoticed. -/
def mapDevice (env : Environment) (dev : Device) : Base :=
  if env.deviceFd dev < 1 then .null
  else if env.mmaps dev then .mapped
  else .mapFailed

/-- The packet time enforcer is not among them. -/
def initOrder : List Device :=
  [.ethToAudio, .filterControl0, .volumeControl0, .filterControl1,
   .volumeControl1, .zedboardOled, .pmodController, .audioToEth,
   .fullUdpStackIp, .ethPacketSequencer, .adau1761, .timeSync]

/-- Set the base pointers in turn, up to the first that is `NULL`. -/
def mapDevices (env : Environment) : List Device → UiM Bool
  | [] => pure true
  | dev :: devs =>
      if mapDevice env dev = .null then pure false
      else do
        change fun ui => { ui with board := { ui.board with
          base := Function.update ui.board.base dev (mapDevice env dev) } }
        mapDevices env devs

def startCodec (env : Environment) : UiM Unit := fun ui =>
  match Codec.initCodec ⟨env.codecReplies, ui.board⟩ with
  | .ok ((), state) => .ok ((), { ui with board := state.board })
  | .error .waiting => .error .waiting

def initGpios (env : Environment) : UiM Unit :=
  if env.exportFd < 0 then halt .exit else pure ()

/-! ## Arguments -/

/-- What a text prints as a format string without arguments. -/
def formatText : Text → Option Text
  | [] => some []
  | '%' :: '%' :: rest => (formatText rest).map ('%' :: ·)
  | '%' :: _ => none
  | c :: rest => (formatText rest).map (c :: ·)

/-- An argument is printed into a buffer of 64 characters, with the argument
itself as the format. -/
def copyArgument (argument : Text) : UiM Text :=
  match formatText argument with
  | some text => if text.length < 64 then pure text else halt .undefined
  | none => halt .undefined

/-- `atoi` reads through the pointer, which is `NULL` for a missing argument. -/
def readPort : Option Text → UiM Word
  | some argument => pure (atoi argument)
  | none => halt .undefined

/-- The octets are `char` here, so they are extended with their sign. -/
def configureAddress (param : EthParamId) (text : Text) : UiM Unit :=
  match extractIpAddress text with
  | some octets =>
      device (writeEthParam .fullUdpStackIp param
        (packOctets (·.signExtend 32) octets))
  | none => halt .undefined

def configureMac (text : Text) : UiM Unit :=
  match extractMacAddress text with
  | some mac => device (writeEthMac .fullUdpStackIp .mac mac)
  | none => halt .undefined

def configureNetwork (copied : NetworkSettings) : UiM Unit := do
  configureAddress .localIp copied.localIp
  configureAddress .destIp copied.destIp
  configureAddress .maskIp copied.maskIp
  configureAddress .gtwayIp copied.gatewayIp
  device (writeEthParam .fullUdpStackIp .destPort copied.destPort)
  device (writeEthParam .fullUdpStackIp .syncPort copied.syncPort)

def configureStack (copied : NetworkSettings) : UiM Unit := do
  configureMac copied.localMac
  configureNetwork copied

/-! ## Defaults -/

def filterCoefficients : Fin 15 → Word := fun index =>
  [0x00002CB6, 0x0000596C, 0x00002CB6, 0x8097A63A, 0x3F690C9D,
   0x074D9236, 0x00000000, 0xF8B26DCA, 0x9464B81B, 0x3164DB93,
   0x12BEC333, 0xDA82799A, 0x12BEC333, 0x00000000,
   0x0AFB0CCC].getD index 0

/-- The four volumes are set to 30, the stored global gain is 4. -/
def defaultVolumes : UiM Unit := do
  setVolume .volumeControl0 30 .left
  setVolume .volumeControl0 30 .right
  setVolume .volumeControl1 30 .left
  setVolume .volumeControl1 30 .right
  change fun ui =>
    { ui with
      params := { ui.params with
        vlLpbk := 30
        vGlobal := 4
        vrLpbk := 30
        vlNet := 30
        vrNet := 30 }
      globalVol := 4 }

def prepareMixer : UiM Unit := do
  let _ ← device (setCoefficients .filterControl0 filterCoefficients)
  let _ ← device (setCoefficients .filterControl1 filterCoefficients)
  defaultVolumes

def switchSyncOff : DeviceM Unit := do
  setSyncOff .audioToEth
  modifyControl .fullUdpStackIp (· &&& 0xFFFFFFFE)

def setDefaults : UiM Unit := do
  prepareMixer
  device switchSyncOff

/-! ## The whole initialisation -/

def copyArguments (args : Arguments) : UiM NetworkSettings := do
  let localMac ← copyArgument args.localMac
  let localIp ← copyArgument args.localIp
  let destIp ← copyArgument args.destIp
  let gatewayIp ← copyArgument args.gatewayIp
  let maskIp ← copyArgument args.maskIp
  let destPort ← readPort args.destPort
  let syncPort ← readPort args.syncPort
  return { localMac, localIp, destIp, gatewayIp, maskIp, destPort, syncPort }

/-- Everything after the devices are mapped. -/
def configure (env : Environment) (args : Arguments) : UiM Word := do
  startCodec env
  initGpios env
  let copied ← copyArguments args
  configureStack copied
  if env.clientSocket < 0 then halt .exit
  else if env.clientSocket < 1 then pure (-1)
  else do
    setDefaults
    pure 0

/-- The returned value is 0 on success. -/
def uiInit (env : Environment) (args : Arguments) : UiM Word := do
  let mapped ← mapDevices env initOrder
  if mapped then configure env args else pure (-1)

/-- The initialisation of a process; as in a command, an access through a base
pointer that is not mapped kills it. -/
def initialise (env : Environment) (args : Arguments) (ui : UiState) :
    Except Halt (Word × UiState) :=
  match uiInit env args (clearLog ui) with
  | .ok (value, reached) =>
      if Mapped reached.board then .ok (value, reached) else .error .fault
  | .error halted => .error halted

/-! ## The devices it uses -/

/-- The devices whose base pointers are set: those before the first whose file
cannot be opened. -/
def opened (env : Environment) (devs : List Device) : List Device :=
  devs.takeWhile fun dev => mapDevice env dev ≠ .null

/-- The state after the mapping stage: each of these base pointers has what
`map_device` gave. -/
def afterMapping (env : Environment) (devs : List Device) (ui : UiState) :
    UiState :=
  { ui with
    board :=
    { ui.board with
      base := fun dev =>
        if dev ∈ opened env devs then mapDevice env dev
        else ui.board.base dev } }

theorem mapDevices_apply (env : Environment) (devs : List Device)
    (ui : UiState) :
    mapDevices env devs ui =
      .ok (decide (∀ dev ∈ devs, mapDevice env dev ≠ .null),
        afterMapping env devs ui) := by
  induction devs generalizing ui with
  | nil => simp [mapDevices, afterMapping, opened]
  | cons dev devs ih =>
      by_cases hnull : mapDevice env dev = .null
      · simp [mapDevices, afterMapping, opened, hnull]
      · have hbase : ∀ other,
            (if other ∈ opened env devs then mapDevice env other
              else Function.update ui.board.base dev (mapDevice env dev)
                other) =
              if other ∈ opened env (dev :: devs) then mapDevice env other
              else ui.board.base other := by
          intro other
          by_cases hother : other = dev <;> simp [opened, hnull, hother]
        rw [mapDevices, if_neg hnull, StateProgram.bind_apply, change_apply]
        simp only [ih, afterMapping, hbase, List.forall_mem_cons, hnull, ne_eq,
          not_false_eq_true, true_and]

/-- If every file can be opened the initialisation goes on. -/
theorem uiInit_opened {env : Environment}
    (hopened : ∀ dev ∈ initOrder, mapDevice env dev ≠ .null)
    (args : Arguments) (ui : UiState) :
    uiInit env args ui = configure env args (afterMapping env initOrder ui) := by
  rw [uiInit, StateProgram.bind_apply, mapDevices_apply,
    decide_eq_true hopened]
  rfl

/-- If not, it returns at once. -/
theorem uiInit_unopened {env : Environment}
    (hopened : ¬∀ dev ∈ initOrder, mapDevice env dev ≠ .null)
    (args : Arguments) (ui : UiState) :
    uiInit env args ui = .ok (-1, afterMapping env initOrder ui) := by
  rw [uiInit, StateProgram.bind_apply, mapDevices_apply,
    decide_eq_false hopened]
  rfl

theorem opened_eq_self {env : Environment} {devs : List Device}
    (hopened : ∀ dev ∈ devs, mapDevice env dev ≠ .null) :
    opened env devs = devs := by
  apply List.takeWhile_eq_self_iff.mpr
  intro dev hdev
  simpa using hopened dev hdev

section Avoided

variable {dev : Device}

theorem configureAddress_avoids (param : EthParamId) (text : Text)
    (hdev : Device.fullUdpStackIp ≠ dev) :
    UiAvoids dev (configureAddress param text) := by
  unfold configureAddress
  cases extractIpAddress text with
  | some octets => exact .device (avoids_writeEthParam hdev)
  | none => exact .halt _

theorem configureMac_avoids (text : Text)
    (hdev : Device.fullUdpStackIp ≠ dev) :
    UiAvoids dev (configureMac text) := by
  unfold configureMac
  cases extractMacAddress text with
  | some mac => exact .device (avoids_writeEthMac hdev)
  | none => exact .halt _

theorem configureStack_avoids (copied : NetworkSettings)
    (hdev : Device.fullUdpStackIp ≠ dev) :
    UiAvoids dev (configureStack copied) :=
  .bind (configureMac_avoids _ hdev) fun _ =>
    .bind (configureAddress_avoids _ _ hdev) fun _ =>
    .bind (configureAddress_avoids _ _ hdev) fun _ =>
    .bind (configureAddress_avoids _ _ hdev) fun _ =>
    .bind (configureAddress_avoids _ _ hdev) fun _ =>
    .bind (.device (avoids_writeEthParam hdev)) fun _ =>
    .device (avoids_writeEthParam hdev)

theorem defaultVolumes_avoids : UiAvoids dev defaultVolumes :=
  .bind (.setVolume _ _ _) fun _ => .bind (.setVolume _ _ _) fun _ =>
    .bind (.setVolume _ _ _) fun _ => .bind (.setVolume _ _ _) fun _ =>
    .change fun _ => rfl

theorem setDefaults_avoids (hfilter0 : Device.filterControl0 ≠ dev)
    (hfilter1 : Device.filterControl1 ≠ dev)
    (hsync : Device.audioToEth ≠ dev)
    (hstack : Device.fullUdpStackIp ≠ dev) : UiAvoids dev setDefaults :=
  .bind
    (.bind (.device (avoids_setCoefficients _ hfilter0)) fun _ =>
      .bind (.device (avoids_setCoefficients _ hfilter1)) fun _ =>
      defaultVolumes_avoids)
    fun _ => .device (.bind (avoids_setSyncOff hsync hstack) fun _ =>
      avoids_modifyControl hstack)

theorem startCodec_avoids (env : Environment)
    (hcodec : Device.adau1761 ≠ dev) : UiAvoids dev (startCodec env) := by
  intro ui value reached hrun
  unfold startCodec at hrun
  split at hrun
  case h_2 => cases hrun
  case h_1 state hcodecRun =>
    cases hrun
    exact Codec.initCodec_keeps_trace hcodec _ _ _ hcodecRun

theorem copyArgument_avoids (argument : Text) :
    UiAvoids dev (copyArgument argument) := by
  unfold copyArgument
  cases formatText argument with
  | some text => exact .ite (.pure _) (.halt _)
  | none => exact .halt _

theorem readPort_avoids (argument : Option Text) :
    UiAvoids dev (readPort argument) := by
  cases argument with
  | some text => exact .pure _
  | none => exact .halt _

theorem copyArguments_avoids (args : Arguments) :
    UiAvoids dev (copyArguments args) :=
  .bind (copyArgument_avoids _) fun _ => .bind (copyArgument_avoids _)
    fun _ => .bind (copyArgument_avoids _) fun _ =>
    .bind (copyArgument_avoids _) fun _ =>
    .bind (copyArgument_avoids _) fun _ =>
    .bind (readPort_avoids _) fun _ => .bind (readPort_avoids _) fun _ =>
    .pure _

/-- The initialisation works on five of the devices it maps. -/
theorem configure_avoids (env : Environment) (args : Arguments)
    (hcodec : Device.adau1761 ≠ dev) (hfilter0 : Device.filterControl0 ≠ dev)
    (hfilter1 : Device.filterControl1 ≠ dev)
    (hsync : Device.audioToEth ≠ dev)
    (hstack : Device.fullUdpStackIp ≠ dev) :
    UiAvoids dev (configure env args) :=
  .bind (startCodec_avoids env hcodec) fun _ =>
    .bind (.ite (.halt _) (.pure _)) fun _ =>
    .bind (copyArguments_avoids args) fun copied =>
    .bind (configureStack_avoids copied hstack) fun _ =>
    .ite (.halt _) (.ite (.pure _)
      (.bind (setDefaults_avoids hfilter0 hfilter1 hsync hstack) fun _ =>
        .pure _))

end Avoided

theorem configure_base {env : Environment} {args : Arguments}
    {ui reached : UiState} {value : Word}
    (hrun : configure env args ui = .ok (value, reached)) :
    reached.board.base = ui.board.base := by
  have havoids : UiAvoids .packetTimeEnforcer (configure env args) :=
    configure_avoids env args (by decide) (by decide) (by decide) (by decide)
      (by decide)
  exact congrArg Prod.fst (havoids _ _ _ hrun)

/-! ## What a successful initialisation did -/

section Successful

variable {env : Environment} {args : Arguments} {copied : NetworkSettings}
variable {ui reached : UiState}

theorem copyArgument_eq_ok {argument text : Text}
    (hrun : copyArgument argument ui = .ok (text, reached)) :
    formatText argument = some text := by
  unfold copyArgument at hrun
  cases hformat : formatText argument with
  | none => simp [hformat] at hrun
  | some printed =>
      simp only [hformat] at hrun
      split at hrun
      · simp only [StateProgram.pure_apply, Except.ok.injEq, Prod.mk.injEq]
          at hrun
        rw [hrun.1]
      · simp at hrun

/-- The texts are copied as they are printed. -/
structure Copied (args : Arguments) (copied : NetworkSettings) : Prop where
  localMac : formatText args.localMac = some copied.localMac
  localIp : formatText args.localIp = some copied.localIp
  destIp : formatText args.destIp = some copied.destIp
  gatewayIp : formatText args.gatewayIp = some copied.gatewayIp
  maskIp : formatText args.maskIp = some copied.maskIp

theorem copyArguments_eq_ok
    (hrun : copyArguments args ui = .ok (copied, reached)) :
    Copied args copied := by
  obtain ⟨localMac, _, hmac, hrun⟩ := bind_eq_ok.mp hrun
  obtain ⟨localIp, _, hlocal, hrun⟩ := bind_eq_ok.mp hrun
  obtain ⟨destIp, _, hdest, hrun⟩ := bind_eq_ok.mp hrun
  obtain ⟨gatewayIp, _, hgateway, hrun⟩ := bind_eq_ok.mp hrun
  obtain ⟨maskIp, _, hmask, hrun⟩ := bind_eq_ok.mp hrun
  obtain ⟨destPort, _, _, hrun⟩ := bind_eq_ok.mp hrun
  obtain ⟨syncPort, _, _, hrun⟩ := bind_eq_ok.mp hrun
  cases hrun
  exact
    { localMac := copyArgument_eq_ok hmac
      localIp := copyArgument_eq_ok hlocal
      destIp := copyArgument_eq_ok hdest
      gatewayIp := copyArgument_eq_ok hgateway
      maskIp := copyArgument_eq_ok hmask }

/-- A text without a percent sign is printed as it is. -/
theorem formatText_eq_self {text : Text} (hplain : '%' ∉ text) :
    formatText text = some text := by
  induction text with
  | nil => rfl
  | cons c rest ih =>
      rw [List.mem_cons, not_or] at hplain
      have hrest := ih hplain.2
      have hc : c ≠ '%' := Ne.symm hplain.1
      simp [formatText, hc, hrest]

theorem formatText_dottedQuad (octets : Fin 4 → Byte) :
    formatText (dottedQuad octets) = some (dottedQuad octets) := by
  have hdigits : ∀ value, '%' ∉ decimal value := fun value hmem =>
    absurd (isDigit_of_mem_decimal hmem) (by decide)
  apply formatText_eq_self
  simp [dottedQuad, hdigits]

theorem initialise_eq_ok {value : Word} :
    initialise env args ui = .ok (value, reached) ↔
      uiInit env args (clearLog ui) = .ok (value, reached) ∧
        Mapped reached.board := by
  unfold initialise
  cases hinit : uiInit env args (clearLog ui) with
  | error halted => simp
  | ok returned =>
      obtain ⟨returnedValue, final⟩ := returned
      by_cases hmapped : Mapped final.board
      · simp only [hmapped, if_true, Except.ok.injEq, Prod.mk.injEq]
        constructor
        · rintro ⟨rfl, rfl⟩
          exact ⟨⟨rfl, rfl⟩, hmapped⟩
        · rintro ⟨hreturned, _⟩
          exact hreturned
      · simp only [hmapped, if_false, reduceCtorEq, Except.ok.injEq,
          Prod.mk.injEq, false_iff, not_and]
        rintro ⟨_, rfl⟩
        exact hmapped

/-- A return of 0 went through every stage, from the mapping of the devices to
the defaults. -/
theorem initialise_chain (hrun : initialise env args ui = .ok (0, reached)) :
    ∃ coded exported copied started configured,
      startCodec env (afterMapping env initOrder (clearLog ui)) =
          .ok ((), coded) ∧
        initGpios env coded = .ok ((), exported) ∧
        copyArguments args exported = .ok (copied, started) ∧
        configureStack copied started = .ok ((), configured) ∧
        setDefaults configured = .ok ((), reached) := by
  obtain ⟨hinit, _⟩ := initialise_eq_ok.mp hrun
  by_cases hopened : ∀ dev ∈ initOrder, mapDevice env dev ≠ .null
  case neg =>
    rw [uiInit_unopened hopened] at hinit
    simp at hinit
  rw [uiInit_opened hopened] at hinit
  obtain ⟨_, coded, hcodec, hinit⟩ := bind_eq_ok.mp hinit
  obtain ⟨_, exported, hgpios, hinit⟩ := bind_eq_ok.mp hinit
  obtain ⟨copied, started, hcopied, hinit⟩ := bind_eq_ok.mp hinit
  obtain ⟨_, configured, hstack, hinit⟩ := bind_eq_ok.mp hinit
  refine ⟨coded, exported, copied, started, configured, hcodec, hgpios, hcopied,
    hstack, ?_⟩
  -- without a client socket it exits or returns -1
  split at hinit
  · simp at hinit
  · split at hinit
    · simp at hinit
    · obtain ⟨_, defaulted, hdefaults, hinit⟩ := bind_eq_ok.mp hinit
      obtain rfl : defaulted = reached := by simpa using hinit
      exact hdefaults

theorem initialise_eq_zero (hrun : initialise env args ui = .ok (0, reached)) :
    Mapped reached.board ∧ ∃ copied started configured,
      Copied args copied ∧
        configureStack copied started = .ok ((), configured) ∧
        setDefaults configured = .ok ((), reached) := by
  obtain ⟨_, _, copied, started, configured, _, _, hcopied, hstack, hdefaults⟩ :=
    initialise_chain hrun
  exact ⟨(initialise_eq_ok.mp hrun).2, copied, started, configured,
    copyArguments_eq_ok hcopied, hstack, hdefaults⟩

end Successful

section Footprints

/-- Filters and volumes are set up without the UDP stack. -/
theorem prepareMixer_within :
    UiWithin {cell | cell.dev ≠ .fullUdpStackIp} prepareMixer := by
  have hfilter : ∀ filterBase ≠ Device.fullUdpStackIp,
      Within {cell : Register | cell.dev ≠ .fullUdpStackIp}
        (setCoefficients filterBase filterCoefficients) :=
    fun _ hother => within_setCoefficients fun _ _ => hother
  exact .bind (.device (hfilter _ (by decide))) fun _ =>
    .bind (.device (hfilter _ (by decide))) fun _ =>
    .bind (.setVolume _ _ _) fun _ => .bind (.setVolume _ _ _) fun _ =>
    .bind (.setVolume _ _ _) fun _ => .bind (.setVolume _ _ _) fun _ =>
    .change fun _ => rfl

/-- The registers of the stack that setting the defaults can change are those of
the first half of the MAC address and of the control word. -/
theorem setDefaults_stack {offset : ℕ} (hmac : offset ≠ 0)
    (hcontrol : offset ≠ 60) {ui reached : UiState}
    (hrun : setDefaults ui = .ok ((), reached)) :
    reached.board.content ⟨.fullUdpStackIp, offset⟩ =
      ui.board.content ⟨.fullUdpStackIp, offset⟩ := by
  obtain ⟨_, prepared, hprepare, hlast⟩ := bind_eq_ok.mp hrun
  cases hlast
  have hkept : prepared.board.content ⟨.fullUdpStackIp, offset⟩ =
      ui.board.content ⟨.fullUdpStackIp, offset⟩ :=
    prepareMixer_within.content_eq hprepare fun hother => hother rfl
  have hwithin : Within {(⟨.fullUdpStackIp, 60⟩ : Register)}
      (modifyControl .fullUdpStackIp (· &&& 0xFFFFFFFE)) :=
    within_modifyControl rfl
  have hcell : (⟨.fullUdpStackIp, offset⟩ : Register) ∉
      ({⟨.fullUdpStackIp, 60⟩} : Set Register) := by
    simpa using hcontrol
  rw [← hkept, switchSyncOff, RegisterFile.bind_apply,
    hwithin.content_eq _ _ hcell]
  simp [setSyncOff_content, hmac]

end Footprints

/-! ## A system on which it succeeds -/

/-- Before the initialisation no device is mapped. -/
def unmappedBoard : MixerBoard where
  base := fun _ => .null
  content := fun _ => 0
  accesses := []

/-- All devices can be mapped; the codec is never busy and locks at once. -/
def answeringSystem : Environment where
  deviceFd _ := 3
  mmaps _ := true
  codecReplies := List.replicate 11 0 ++ [0, 2, 0] ++ List.replicate 27 0
  exportFd := 3
  clientSocket := 3

def sampleArguments : Arguments where
  localMac := "02.00.00.00.00.01".toList
  localIp := "192.168.0.2".toList
  destIp := "192.168.0.3".toList
  gatewayIp := "192.168.0.1".toList
  maskIp := "255.255.255.0".toList
  destPort := some "8024".toList
  syncPort := some "8025".toList
  ordered _ := rfl

theorem initialise_answeringSystem :
    ∃ ready, initialise answeringSystem sampleArguments
      (start blankBoard 0) = .ok (0, ready) := by
  apply exists_of_returned
  decide +kernel

end Songpark.UiControl
