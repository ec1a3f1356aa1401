import Mathlib.Data.List.Count
import Songpark.Ui.Frame
import Songpark.Ui.Init

/-!
# Mapping and unmapping the devices

The initialisation maps its devices one after the other and gives up at the
first base pointer that is `NULL`.  This file follows the mappings of the
process: which ones `ui_init` makes, which of them it releases when it gives
up, and which ones `ui_exit` releases in the end.
-/

namespace Songpark.UiControl

open Songpark.RegisterFile Songpark.RegIo Songpark.Scan Songpark.StateProgram
open Songpark.EthParam

/-- A change of the mappings of the process: a page that `mmap` gave, or a call
of `munmap` with what the base pointer holds. -/
inductive MapCall
  | mmap (dev : Device)
  | munmap (dev : Device) (base : Base)
  deriving DecidableEq

/-- What `ui_init` does to the mappings.  At the first `NULL` it returns; no
branch of it calls `unmap_device`. -/
def mapCalls (env : Environment) : List Device → List MapCall
  | [] => []
  | dev :: devs =>
      match mapDevice env dev with
      | .null => []
      | .mapFailed => mapCalls env devs
      | .mapped => .mmap dev :: mapCalls env devs

def exitOrder : List Device :=
  [.zedboardOled, .ethPacketSequencer, .fullUdpStackIp, .ethToAudio,
   .audioToEth, .timeSync, .adau1761, .pmodController, .filterControl0,
   .filterControl1, .volumeControl0, .volumeControl1]

/-- `ui_exit` passes base pointers to `unmap_device`, which only calls
`munmap`. -/
def uiExit (ui : UiState) : List MapCall :=
  exitOrder.map fun dev => .munmap dev (ui.board.base dev)

/-! ## All or nothing -/

/-- Every call of `map_device` in `ui_init` succeeds. -/
def AllMapped (env : Environment) : Prop :=
  ∀ dev ∈ initOrder, mapDevice env dev = .mapped

/-- If all calls succeed, then in whatever state `ui_exit` is called its base
pointers are mappings and each is unmapped once.  If one fails, `ui_init`
returns -1 without an access and has released what it mapped. -/
structure AllOrNothing (env : Environment) (args : Arguments) (ui : UiState) :
    Prop where
  success : AllMapped env → ∀ ready lines state,
    initialise env args ui = .ok (0, ready) →
      runLines lines ready = .ok state → ∀ dev ∈ exitOrder,
        state.board.base dev = .mapped ∧
          (uiExit state).count (.munmap dev .mapped) = 1
  failure : ¬AllMapped env →
    ∃ reached, initialise env args ui = .ok (-1, reached) ∧
      reached.board.accesses = [] ∧
      ∀ dev, .mmap dev ∈ mapCalls env initOrder →
        .munmap dev .mapped ∈ mapCalls env initOrder

/-- Some file cannot be opened, and before the first such file nothing has been
mapped. -/
def FailsEmpty (env : Environment) : Prop :=
  (∃ dev ∈ initOrder, mapDevice env dev = .null) ∧
    ∀ dev ∈ opened env initOrder, mapDevice env dev ≠ .mapped

section Calls

variable {env : Environment} {args : Arguments} {ui reached : UiState}
variable {devs : List Device}

/-- The pages that are mapped, in order; nothing else happens. -/
theorem mapCalls_eq (env : Environment) (devs : List Device) :
    mapCalls env devs =
      ((opened env devs).filter fun dev => mapDevice env dev = .mapped).map
        .mmap := by
  induction devs with
  | nil => rfl
  | cons dev devs ih =>
      cases hbase : mapDevice env dev with
      | null => simp [mapCalls, opened, hbase]
      | mapFailed => simpa [mapCalls, opened, hbase] using ih
      | mapped => simpa [mapCalls, opened, hbase] using ih

theorem mmap_mem_mapCalls {dev : Device} :
    .mmap dev ∈ mapCalls env devs ↔
      dev ∈ opened env devs ∧ mapDevice env dev = .mapped := by
  simp [mapCalls_eq]

/-- However the initialisation returns, the pages that it mapped are those of
the base pointers that it leaves mapped. -/
theorem mmap_mem_mapCalls_iff_base {value : Word} {dev : Device}
    (hnull : ui.board.base dev = .null)
    (hrun : uiInit env args ui = .ok (value, reached)) :
    .mmap dev ∈ mapCalls env initOrder ↔ reached.board.base dev = .mapped := by
  have hbase : reached.board.base =
      (afterMapping env initOrder ui).board.base := by
    by_cases hopened : ∀ dev ∈ initOrder, mapDevice env dev ≠ .null
    · rw [uiInit_opened hopened] at hrun
      exact configure_base hrun
    · rw [uiInit_unopened hopened] at hrun
      cases hrun
      rfl
  rw [mmap_mem_mapCalls, hbase]
  dsimp only [afterMapping]
  split_ifs with hheld
  · exact and_iff_right hheld
  · simp [hheld, hnull]

/-- The initialisation releases nothing. -/
theorem munmap_not_mem_mapCalls (dev : Device) (base : Base) :
    .munmap dev base ∉ mapCalls env devs := by
  simp [mapCalls_eq]

/-- The last thing the configuration of the stack does is a write. -/
theorem configureStack_accesses {copied : NetworkSettings}
    (hrun : configureStack copied ui = .ok ((), reached)) :
    reached.board.accesses ≠ [] := by
  obtain ⟨_, _, _, hrun⟩ := bind_eq_ok.mp hrun
  obtain ⟨_, _, _, hrun⟩ := bind_eq_ok.mp hrun
  obtain ⟨_, _, _, hrun⟩ := bind_eq_ok.mp hrun
  obtain ⟨_, _, _, hrun⟩ := bind_eq_ok.mp hrun
  obtain ⟨_, _, _, hrun⟩ := bind_eq_ok.mp hrun
  obtain ⟨_, before, _, hrun⟩ := bind_eq_ok.mp hrun
  cases hrun
  have huses : Uses .fullUdpStackIp (writeEthParam .fullUdpStackIp .syncPort
      copied.syncPort) := uses_writeEthParam (by decide) _
  obtain ⟨access, hmem, _⟩ := huses before.board
  exact List.ne_nil_of_mem hmem

/-- An error that is found after the mapping stage comes after accesses. -/
theorem configure_accesses
    (hrun : configure env args ui = .ok (-1, reached)) :
    reached.board.accesses ≠ [] := by
  obtain ⟨_, _, _, hrun⟩ := bind_eq_ok.mp hrun
  obtain ⟨_, _, _, hrun⟩ := bind_eq_ok.mp hrun
  obtain ⟨copied, _, _, hrun⟩ := bind_eq_ok.mp hrun
  obtain ⟨_, configured, hstack, hrun⟩ := bind_eq_ok.mp hrun
  split at hrun
  · cases hrun
  · split at hrun
    · cases hrun
      exact configureStack_accesses hstack
    · obtain ⟨_, _, _, hrun⟩ := bind_eq_ok.mp hrun
      cases hrun

end Calls

section Outcomes

variable {env : Environment} (args : Arguments) (ui : UiState)

theorem AllMapped.opened (hall : AllMapped env) :
    ∀ dev ∈ initOrder, mapDevice env dev ≠ .null := by
  intro dev hdev
  rw [hall dev hdev]
  exact Base.noConfusion

/-- What is mapped stays mapped until `ui_exit` releases it. -/
theorem exit_base (hall : AllMapped env) {ready state : UiState}
    {lines : List Line} (hinit : initialise env args ui = .ok (0, ready))
    (hrun : runLines lines ready = .ok state) {dev : Device}
    (hdev : dev ∈ initOrder) : state.board.base dev = .mapped := by
  obtain ⟨hinit, _⟩ := initialise_eq_ok.mp hinit
  rw [uiInit_opened hall.opened] at hinit
  rw [runLines_base hrun, configure_base hinit]
  simp only [afterMapping, opened_eq_self hall.opened, hdev, if_true,
    hall dev hdev]

theorem exitOrder_perm : exitOrder.Perm initOrder := by decide

/-- With all devices mapped each of them is unmapped once. -/
theorem uiExit_count {state : UiState}
    (hbase : ∀ dev ∈ initOrder, state.board.base dev = .mapped) {dev : Device}
    (hdev : dev ∈ exitOrder) :
    (uiExit state).count (.munmap dev .mapped) = 1 := by
  have hcalls : uiExit state =
      exitOrder.map fun other => .munmap other .mapped :=
    List.map_congr_left fun other hother => by
      rw [hbase other (exitOrder_perm.mem_iff.mp hother)]
  have hinjective : Function.Injective
      fun other => MapCall.munmap other .mapped := by
    intro left right heq
    cases heq
    rfl
  have hcount := List.count_map_of_injective exitOrder _ hinjective dev
  rw [hcalls, hcount]
  exact List.count_eq_one_of_mem (by decide) hdev

/-- A mapping that fails is not noticed: the error value is not `NULL`. -/
theorem not_allOrNothing_of_mapFailed
    (hopened : ∀ dev ∈ initOrder, mapDevice env dev ≠ .null)
    (hfailed : ¬AllMapped env) : ¬AllOrNothing env args ui := by
  intro hclaim
  obtain ⟨reached, hinit, hlog, _⟩ := hclaim.failure hfailed
  obtain ⟨hinit, _⟩ := initialise_eq_ok.mp hinit
  rw [uiInit_opened hopened] at hinit
  exact configure_accesses hinit hlog

/-- A mapping made before a file that cannot be opened is not released. -/
theorem not_allOrNothing_of_held {dev : Device}
    (hheld : dev ∈ opened env initOrder) (hmapped : mapDevice env dev = .mapped)
    (hfailed : ¬AllMapped env) : ¬AllOrNothing env args ui := by
  intro hclaim
  obtain ⟨_, _, _, hreleased⟩ := hclaim.failure hfailed
  exact munmap_not_mem_mapCalls dev .mapped
    (hreleased dev (mmap_mem_mapCalls.mpr ⟨hheld, hmapped⟩))

theorem FailsEmpty.not_opened (hempty : FailsEmpty env) :
    ¬∀ dev ∈ initOrder, mapDevice env dev ≠ .null := by
  obtain ⟨⟨dev, hdev, hnull⟩, _⟩ := hempty
  exact fun hopened => hopened dev hdev hnull

theorem initialise_unopened (hempty : FailsEmpty env) :
    initialise env args ui =
      .ok (-1, afterMapping env initOrder (clearLog ui)) :=
  initialise_eq_ok.mpr
    ⟨uiInit_unopened hempty.not_opened args (clearLog ui),
      fun _ hmem => absurd hmem List.not_mem_nil⟩

/-- Mapping is all or nothing exactly if all calls succeed, or if a file cannot
be opened before anything has been mapped. -/
theorem allOrNothing_iff :
    AllOrNothing env args ui ↔ AllMapped env ∨ FailsEmpty env := by
  constructor
  · intro hclaim
    by_cases hall : AllMapped env
    · exact .inl hall
    · by_cases hopened : ∀ dev ∈ initOrder, mapDevice env dev ≠ .null
      · exact absurd hclaim
          (not_allOrNothing_of_mapFailed args ui hopened hall)
      · refine .inr ⟨by simpa using hopened, fun dev hheld hmapped => ?_⟩
        exact not_allOrNothing_of_held args ui hheld hmapped hall hclaim
  · rintro (hall | hempty)
    · refine ⟨fun _ ready lines state hinit hrun dev hdev => ?_,
        fun hfailed => absurd hall hfailed⟩
      have hbase : ∀ other ∈ initOrder, state.board.base other = .mapped :=
        fun other hother => exit_base args ui hall hinit hrun hother
      exact ⟨hbase dev (exitOrder_perm.mem_iff.mp hdev), uiExit_count hbase hdev⟩
    · refine ⟨fun hall => absurd hall.opened hempty.not_opened, fun _ =>
        ⟨_, initialise_unopened args ui hempty, rfl, fun dev hmem => ?_⟩⟩
      obtain ⟨hheld, hmapped⟩ := mmap_mem_mapCalls.mp hmem
      exact absurd hmapped (hempty.2 dev hheld)

end Outcomes

/-! ## The two ways to fail -/

/-- The second file cannot be opened. -/
def unopenedSystem : Environment :=
  { answeringSystem with
    deviceFd := fun dev => if dev = .filterControl0 then -1 else 3 }

/-- The first mapping fails. -/
def unmappingSystem : Environment :=
  { answeringSystem with mmaps := fun dev => dev ≠ .ethToAudio }

theorem not_allOrNothing_systems :
    ¬AllOrNothing unopenedSystem sampleArguments (start unmappedBoard 0) ∧
      ¬AllOrNothing unmappingSystem sampleArguments (start unmappedBoard 0) := by
  constructor
  · have hfailed : ¬AllMapped unopenedSystem := fun hall =>
      absurd (hall .filterControl0 (by decide)) (by decide)
    have hheld : Device.ethToAudio ∈ opened unopenedSystem initOrder := by
      decide
    exact not_allOrNothing_of_held _ _ hheld (by decide) hfailed
  · have hfailed : ¬AllMapped unmappingSystem := fun hall =>
      absurd (hall .ethToAudio (by decide)) (by decide)
    have hopened : ∀ dev ∈ initOrder, mapDevice unmappingSystem dev ≠ .null := by
      decide
    exact not_allOrNothing_of_mapFailed _ _ hopened hfailed

end Songpark.UiControl
