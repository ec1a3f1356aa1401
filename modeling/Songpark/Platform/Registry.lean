import Songpark.Platform.Server

/-!
# The registry

A registration derives the id of a teleporter from its MAC address and stores
both; it is answered only when the subscription after it succeeds.  An update
takes its id and its settings as they come: it writes a record for an id that
nobody has registered, and its settings can replace the id and the MAC address
of a record.  The main result says which requests keep the registry well formed.
-/

namespace Songpark.Platform

open Songpark.StateProgram

/-! ## Well-formed registries -/

/-- A registration has returned the id. -/
def Registered (signs : List Sign) (id : Value) : Prop :=
  ∃ sign ∈ signs, sign.kind = .init ∧ sign.id ≈ id

/-- The MAC address has the id. -/
def HasId (config : Config) (mac id : Value) : Prop :=
  ∃ found, config.v5 mac = .ok found ∧ found ≈ id

/-- The record has the id, and a MAC address with that id. -/
structure Identified (config : Config) (id : Value) (record : Record) :
    Prop where
  ownId : record.Holds teleporterId id
  ownMac : ∃ mac, record.lookup teleporterMac = some mac ∧
    HasId config mac id

structure WellFormed (config : Config) (server : Server) : Prop where
  keys : ∀ id, id ∈ server.registry ↔ Registered server.signs id
  records : ∀ id stored, server.registry.lookup id = some stored →
    ∃ record, stored = some record ∧ Identified config id record

theorem wellFormed_emptyServer (config : Config) (start : ℤ) :
    WellFormed config (emptyServer start) := by
  constructor
  · intro id
    constructor
    · intro hmem
      exact absurd hmem (KeyedMap.notMem_empty id)
    · rintro ⟨sign, hmem, _⟩
      cases hmem
  · intro id stored hlookup
    cases hlookup

section Writes

variable {config : Config} {server : Server} {id : Value}

@[simp]
theorem registered_cons (sign : Sign) (signs : List Sign) :
    Registered (sign :: signs) id ↔
      (sign.kind = .init ∧ sign.id ≈ id) ∨ Registered signs id := by
  simp [Registered]

theorem mem_writeDb {registry : Registry} {other : Value}
    {teleporter : Option Record} :
    other ∈ writeDb registry id teleporter ↔ id ≈ other ∨ other ∈ registry :=
  KeyedMap.mem_insert

theorem Identified.congr {record : Record} {other : Value} (hsame : id ≈ other)
    (hidentified : Identified config id record) :
    Identified config other record := by
  obtain ⟨⟨own, hown, hid⟩, mac, hmac, found, hv5, hfound⟩ := hidentified
  exact ⟨⟨own, hown, Setoid.trans hid hsame⟩, mac, hmac, found, hv5,
    Setoid.trans hfound hsame⟩

/-- A write of an identified record leaves all others as they were. -/
theorem records_writeDb {registry : Registry} {record : Record}
    (hrecords : ∀ id stored, registry.lookup id = some stored →
      ∃ record, stored = some record ∧ Identified config id record)
    (hidentified : Identified config id record) (other : Value)
    (stored : Option Record)
    (hlookup : (writeDb registry id (some record)).lookup other =
      some stored) :
    ∃ record, stored = some record ∧ Identified config other record := by
  rw [writeDb, KeyedMap.lookup_insert] at hlookup
  split_ifs at hlookup with hother
  · exact ⟨record, (Option.some.inj hlookup).symm, hidentified.congr hother⟩
  · exact hrecords other stored hlookup

/-- A registered record stays well formed exactly when the new one is. -/
theorem wellFormed_writeDb_iff (hformed : WellFormed config server)
    (hid : id ∈ server.registry) (record : Record) :
    WellFormed config { server with
        registry := writeDb server.registry id (some record) } ↔
      Identified config id record := by
  constructor
  · intro hwritten
    obtain ⟨stored, hstored, hidentified⟩ := hwritten.records id (some record)
      (KeyedMap.lookup_insert_self _ _ _)
    rwa [Option.some.inj hstored]
  · intro hidentified
    constructor
    · intro other
      rw [← hformed.keys, mem_writeDb, or_iff_right_of_imp]
      exact fun hsame => (KeyedMap.mem_congr hsame).mp hid
    · exact records_writeDb hformed.records hidentified

/-- Whatever is written for an id that nobody has registered, the registry has
a key too many. -/
theorem not_wellFormed_writeDb (hformed : WellFormed config server)
    (hid : id ∉ server.registry) (teleporter : Option Record) :
    ¬ WellFormed config { server with
        registry := writeDb server.registry id teleporter } := by
  intro hwritten
  have hregistered := (hwritten.keys id).mp
    (mem_writeDb.mpr (Or.inl (Setoid.refl id)))
  exact hid ((hformed.keys id).mpr hregistered)

end Writes

/-! ## Registrations -/

section Registrations

variable {config : Config} {server : Server} {body : Value}
variable {subscribe : Except Thrown Unit}

theorem identified_registration {now : ℤ} {id : Value} {stored : Record}
    (hstored : registration config now body = .ok (some (id, stored))) :
    Identified config id stored := by
  obtain ⟨hid, mac, hmac, hv5⟩ := registration_eq_ok hstored
  exact ⟨⟨id, hid, Setoid.refl id⟩, mac, hmac, id, hv5, Setoid.refl id⟩

/-- A registration that writes a record subscribes to its heartbeats, or it
replaces a record. -/
def InitAllowed (config : Config) (body : Value)
    (subscribe : Except Thrown Unit) (server : Server) : Prop :=
  ∀ id stored, registration config server.now body = .ok (some (id, stored)) →
    subscribe = .ok () ∨ id ∈ server.registry

theorem wellFormed_init_iff (hformed : WellFormed config server) :
    WellFormed config (serve config (.init body subscribe) server) ↔
      InitAllowed config body subscribe server := by
  by_cases hwrites : ∃ written,
      registration config server.now body = .ok (some written)
  · obtain ⟨⟨id, stored⟩, hstored⟩ := hwrites
    have hidentified := identified_registration hstored
    rw [serve_init_stored hstored]
    have hallowed : InitAllowed config body subscribe server ↔
        subscribe = .ok () ∨ id ∈ server.registry := by
      simp [InitAllowed, hstored]
    rw [hallowed]
    cases subscribe with
    | ok done =>
        refine iff_of_true ⟨fun other => ?_, ?_⟩ (Or.inl rfl)
        · have hnew : (SignKind.init = .init ∧ id ≈ other) ↔ id ≈ other :=
            and_iff_right rfl
          rw [mem_writeDb, registered_cons, hformed.keys, hnew]
        · exact records_writeDb hformed.records hidentified
    | error thrown =>
        by_cases hid : id ∈ server.registry
        · exact iff_of_true
            ((wellFormed_writeDb_iff hformed hid stored).mpr hidentified)
            (Or.inr hid)
        · refine iff_of_false (not_wellFormed_writeDb hformed hid _) ?_
          simp [hid]
  · have hrefused : ∀ written,
        registration config server.now body ≠ .ok (some written) :=
      fun written hwritten => hwrites ⟨written, hwritten⟩
    rw [serve_init_refused hrefused]
    exact iff_of_true hformed
      fun id stored hstored => absurd hstored (hrefused (id, stored))

end Registrations

/-! ## Updates -/

/-- The settings leave the id as it is, and bring no MAC address of another
id. -/
structure KeepsIdentity (config : Config) (id : Value) (added : Record) :
    Prop where
  sameId : ∀ other, added.lookup teleporterId = some other → other ≈ id
  sameMac : ∀ mac, added.lookup teleporterMac = some mac → HasId config mac id

/-- The id is registered and the settings keep its identity; the settings of
any other id cannot be merged at all. -/
def UpdateAllowed (config : Config) (registry : Registry) (id settings : Value) :
    Prop :=
  (id ∈ registry → ∀ added, settings.additions = .ok added →
    KeepsIdentity config id added) ∧
  (id ∉ registry → settings.truthy ∧ ∃ thrown,
    settings.additions = .error thrown)

/-- Updates without an id are refused; heartbeats are harmless. -/
def Allowed (config : Config) (event : Event) (server : Server) : Prop :=
  match event with
  | .init body subscribe => InitAllowed config body subscribe server
  | .update body => ∀ teleporter, body.destructured = .ok teleporter →
      (teleporter.get teleporterId).truthy →
        UpdateAllowed config server.registry (teleporter.get teleporterId)
          (teleporter.get teleporterSettings)
  | _ => True

section Updates

variable {config : Config} {server : Server} {id settings : Value}
variable {record added : Record}

theorem identified_merge_iff (hrecord : Identified config id record) :
    Identified config id (record.merge added) ↔
      KeepsIdentity config id added := by
  constructor
  · intro hmerged
    constructor
    · intro other hother
      obtain ⟨own, hown, hid⟩ := hmerged.ownId
      rw [KeyedMap.lookup_merge, hother] at hown
      rwa [Option.some.inj hown]
    · intro mac hmac
      obtain ⟨mac', hmac', hv5⟩ := hmerged.ownMac
      rw [KeyedMap.lookup_merge, hmac] at hmac'
      rwa [Option.some.inj hmac']
  · intro hkeeps
    constructor
    · rw [KeyedMap.Holds, KeyedMap.lookup_merge]
      cases hother : added.lookup teleporterId with
      | none => exact hrecord.ownId
      | some other => exact ⟨other, rfl, hkeeps.sameId other hother⟩
    · rw [KeyedMap.lookup_merge]
      cases hmac : added.lookup teleporterMac with
      | none => exact hrecord.ownMac
      | some mac => exact ⟨mac, rfl, hkeeps.sameMac mac hmac⟩

/-- The server after an update whose merge has this result. -/
def afterMerge (server : Server) (id : Value)
    (merged : Except Thrown (Option Record)) : Server :=
  match merged with
  | .ok teleporter =>
      { server with registry := writeDb server.registry id teleporter }
  | .error _ => server

theorem serve_update {body teleporter : Value}
    (hbody : body.destructured = .ok teleporter)
    (hid : (teleporter.get teleporterId).truthy) :
    serve config (.update body) server =
      afterMerge server (teleporter.get teleporterId)
        (Value.merge (readDb server.registry (teleporter.get teleporterId))
          (teleporter.get teleporterSettings)) := by
  simp only [serve, update, beginUpdate, hbody, bind, Except.bind, hid,
    if_true, pure, Except.pure, finishUpdate]
  cases Value.merge (readDb server.registry (teleporter.get teleporterId))
    (teleporter.get teleporterSettings) <;> rfl

theorem serve_update_refused {body : Value}
    (hrefused : ∀ teleporter, body.destructured = .ok teleporter →
      ¬ (teleporter.get teleporterId).truthy) :
    serve config (.update body) server = server := by
  cases hbody : body.destructured with
  | error thrown =>
      simp only [serve, update, beginUpdate, hbody, bind, Except.bind]
  | ok teleporter =>
      simp only [serve, update, beginUpdate, hbody, bind, Except.bind,
        hrefused teleporter hbody, pure, Except.pure]
      rfl

theorem wellFormed_afterMerge_iff (hformed : WellFormed config server) :
    WellFormed config (afterMerge server id
        (Value.merge (readDb server.registry id) settings)) ↔
      UpdateAllowed config server.registry id settings := by
  by_cases hid : id ∈ server.registry
  · obtain ⟨stored, hstored⟩ := Option.isSome_iff_exists.mp
      (KeyedMap.lookup_isSome.mpr hid)
    obtain ⟨record, rfl, hrecord⟩ := hformed.records id stored hstored
    rw [readDb, hstored, Option.join_some, merge_some]
    cases hadded : settings.additions with
    | error thrown =>
        simp [afterMerge, Except.map, hformed, UpdateAllowed, hid, hadded]
    | ok added =>
        rw [Except.map, afterMerge,
          wellFormed_writeDb_iff hformed hid, identified_merge_iff hrecord]
        simp [UpdateAllowed, hid, hadded]
  · rw [readDb, KeyedMap.lookup_eq_none.mpr hid, Option.join_none]
    cases hmerge : Value.merge none settings with
    | error thrown =>
        have hfails := merge_none_eq_error_iff.mp hmerge
        refine iff_of_true hformed ⟨fun hmem => absurd hmem hid, fun _ => ?_⟩
        exact ⟨hfails.1, thrown, hfails.2⟩
    | ok merged =>
        refine iff_of_false (not_wellFormed_writeDb hformed hid merged) ?_
        intro hallowed
        obtain ⟨htruthy, thrown, hadded⟩ := hallowed.2 hid
        rw [merge_none_eq_error_iff.mpr ⟨htruthy, hadded⟩] at hmerge
        cases hmerge

end Updates

/-! ## Every reachable registry -/

section Main

variable {config : Config} {server : Server}

theorem wellFormed_update_iff (hformed : WellFormed config server)
    (body : Value) :
    WellFormed config (serve config (.update body) server) ↔
      Allowed config (.update body) server := by
  by_cases haccepted : ∃ teleporter, body.destructured = .ok teleporter ∧
      (teleporter.get teleporterId).truthy
  · obtain ⟨teleporter, hbody, hid⟩ := haccepted
    rw [serve_update hbody hid, wellFormed_afterMerge_iff hformed, Allowed]
    constructor
    · intro hallowed other hother _
      cases hbody.symm.trans hother
      exact hallowed
    · intro hallowed
      exact hallowed teleporter hbody hid
  · have hrefused : ∀ teleporter, body.destructured = .ok teleporter →
        ¬ (teleporter.get teleporterId).truthy := fun teleporter hbody hid =>
      haccepted ⟨teleporter, hbody, hid⟩
    rw [serve_update_refused hrefused]
    refine iff_of_true hformed fun teleporter hbody hid => ?_
    exact absurd hid (hrefused teleporter hbody)

theorem wellFormed_serve_iff (hformed : WellFormed config server)
    (event : Event) :
    WellFormed config (serve config event server) ↔
      Allowed config event server := by
  cases event with
  | init body subscribe => exact wellFormed_init_iff hformed
  | update body => exact wellFormed_update_iff hformed body
  | heartbeat tpId =>
      refine iff_of_true ⟨?_, hformed.records⟩ trivial
      intro id
      rw [serve, registered_cons, hformed.keys]
      simp
  | advance nanos =>
      exact iff_of_true ⟨hformed.keys, hformed.records⟩ trivial

/-- The half of a well-formed registry that no registration breaks: all records
are identified, and no registered id is missing. -/
structure Recorded (config : Config) (server : Server) : Prop where
  registered : ∀ id, Registered server.signs id → id ∈ server.registry
  records : ∀ id stored, server.registry.lookup id = some stored →
    ∃ record, stored = some record ∧ Identified config id record

theorem WellFormed.recorded (hformed : WellFormed config server) :
    Recorded config server :=
  ⟨fun id hid => (hformed.keys id).mpr hid, hformed.records⟩

theorem recorded_init (hrecorded : Recorded config server) (body : Value)
    (subscribe : Except Thrown Unit) :
    Recorded config (serve config (.init body subscribe) server) := by
  by_cases hwrites : ∃ written,
      registration config server.now body = .ok (some written)
  · obtain ⟨⟨id, stored⟩, hstored⟩ := hwrites
    rw [serve_init_stored hstored]
    refine ⟨fun other hother => ?_, records_writeDb hrecorded.records
      (identified_registration hstored)⟩
    rw [mem_writeDb]
    cases subscribe with
    | error thrown => exact Or.inr (hrecorded.registered other hother)
    | ok done =>
        rcases registered_cons _ _ |>.mp hother with ⟨_, hnew⟩ | hold
        · exact Or.inl hnew
        · exact Or.inr (hrecorded.registered other hold)
  · rw [serve_init_refused fun written hwritten => hwrites ⟨written, hwritten⟩]
    exact hrecorded

/-- Registrations, heartbeats and the clock keep it so. -/
theorem recorded_run {events : List Event} {start : ℤ}
    (hevents : ∀ body, Event.update body ∉ events)
    (hrun : runEvents config events (emptyServer start) = .ok server) :
    Recorded config server := by
  refine run_invariant (Recorded config) ?_ hrun
    (wellFormed_emptyServer config start).recorded
  intro event hevent current reached hrecorded hstep
  cases hstep
  cases event with
  | init body subscribe => exact recorded_init hrecorded body subscribe
  | update body => exact absurd hevent (hevents body)
  | heartbeat tpId =>
      refine ⟨fun id hid => ?_, hrecorded.records⟩
      rw [serve, registered_cons] at hid
      rcases hid with ⟨hkind, _⟩ | hold
      · cases hkind
      · exact hrecorded.registered id hold
  | advance nanos => exact ⟨hrecorded.registered, hrecorded.records⟩

/-- The registry is well formed in every state that a run from the empty
database passes through exactly when every request of the run is allowed. -/
theorem registry_wellFormed_iff (config : Config) (events : List Event)
    (start : ℤ) :
    Always (step config) events (emptyServer start)
        (fun _ server => WellFormed config server) ↔
      EveryStep (step config) events (emptyServer start)
        (fun _ event server => Allowed config event server) := by
  refine always_iff_everyStep (wellFormed_emptyServer config start) ?_
  intro _ event server reached hformed hstep
  cases hstep
  exact wellFormed_serve_iff hformed event

/-- An update of a teleporter that nobody has registered makes a record that
has neither an id nor a MAC address. -/
theorem unregistered_update_stored :
    ¬ ∀ (config : Config) (events : List Event) (start : ℤ),
      Always (step config) events (emptyServer start)
        (fun _ server => WellFormed config server) := by
  intro hall
  have hformed := hall sampleConfig [.update (updateBody zedboard .nil)] 0
    [.update (updateBody zedboard .nil)] (List.prefix_refl _) _ rfl
  have hkey : zedboard ∈
      (serve sampleConfig (.update (updateBody zedboard .nil))
        (emptyServer 0)).registry := by decide
  have hsilent : (serve sampleConfig (.update (updateBody zedboard .nil))
      (emptyServer 0)).signs = [] := rfl
  obtain ⟨sign, hmem, _⟩ := (hformed.keys zedboard).mp hkey
  rw [hsilent] at hmem
  cases hmem

end Main

end Songpark.Platform
