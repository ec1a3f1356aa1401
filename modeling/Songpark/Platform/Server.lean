import Songpark.Core.StateProgram
import Songpark.Platform.Value

/-!
# The platform server

The handlers for teleporters.  Registrations live in the database that the
handlers are given; the times of the heartbeats live in a store of the platform
itself.  Both have the same paths.
-/

namespace Songpark.Platform

open Songpark.StateProgram

/-- What the handlers take from elsewhere: `uuid/v5` in the URL namespace, the
SIP addresses of the configuration, and its offline timeout in milliseconds. -/
structure Config where
  v5 : Value → Except Thrown Value
  sips : Value → Value
  offlineTimeout : Option ℤ

abbrev teleporterId : Value := .keyword "teleporter/id"
abbrev teleporterMac : Value := .keyword "teleporter/mac"
abbrev teleporterSip : Value := .keyword "teleporter/sip"
abbrev teleporterSettings : Value := .keyword "teleporter/settings"
abbrev teleporterOnline : Value := .keyword "teleporter/online?"
abbrev heartbeatTimestamp : Value :=
  .keyword "teleporter/heartbeat-timestamp"

/-! ## The database

The map under `:teleporter`.  A key may be there with `nil`. -/

abbrev Registry := KeyedMap Value (Option Record)

def readDb (registry : Registry) (id : Value) : Option Record :=
  (registry.lookup id).join

def writeDb (registry : Registry) (id : Value) (teleporter : Option Record) :
    Registry :=
  registry.insert id teleporter

structure Response where
  status : ℕ
  body : Value
  deriving DecidableEq

def idResponse (id : Value) : Response :=
  ⟨200, .map (.cons teleporterId id .nil)⟩

def errorResponse (message : String) : Response :=
  ⟨400, .map (.cons (.keyword "error/message") (.string message) .nil)⟩

/-! ## The handlers -/

/-- What a registration stores, and under which id; without a MAC address it
stores nothing. -/
def registration (config : Config) (now : ℤ) (body : Value) :
    Except Thrown (Option (Value × Record)) := do
  let teleporter ← body.destructured
  let mac := teleporter.get teleporterMac
  let id ← config.v5 mac
  if mac.truthy then do
    let record ← teleporter.asRecord
    return some (id, ((record.insert teleporterId id).insert
      heartbeatTimestamp (.inst now)).insert teleporterSip (config.sips id))
  else return none

/-- Register a teleporter.  The record is written before `mqtt/subscribe` is
called, whose outcome is given: when it throws, the record stays. -/
def init (config : Config) (now : ℤ) (body : Value)
    (subscribe : Except Thrown Unit) (registry : Registry) :
    Except Thrown Response × Registry :=
  match registration config now body with
  | .ok (some (id, stored)) =>
      (subscribe.map fun _ => idResponse id, writeDb registry id (some stored))
  | .ok none => (.ok (errorResponse "Illegal MAC address"), registry)
  | .error thrown => (.error thrown, registry)

/-- An update between its two accesses to the database. -/
structure PendingUpdate where
  id : Value
  teleporter : Option Record
  settings : Value

/-- An update up to the read; without an id nothing is read. -/
def beginUpdate (body : Value) (registry : Registry) :
    Except Thrown (Option PendingUpdate) := do
  let teleporter ← body.destructured
  let id := teleporter.get teleporterId
  if id.truthy then
    return some ⟨id, readDb registry id, teleporter.get teleporterSettings⟩
  else return none

/-- The rest of it: the whole record is written. -/
def finishUpdate (pending : PendingUpdate) (registry : Registry) :
    Except Thrown (Response × Registry) := do
  let merged ← Value.merge pending.teleporter pending.settings
  return (idResponse pending.id, writeDb registry pending.id merged)

def update (body : Value) (registry : Registry) :
    Except Thrown (Response × Registry) := do
  match ← beginUpdate body registry with
  | some pending => finishUpdate pending registry
  | none => return (errorResponse "Unable to update the Teleporter", registry)

/-! ## Heartbeats -/

/-- The map under `:teleporter` of the store. -/
abbrev Store := KeyedMap Value Record

def rd (store : Store) (tpId : Value) : Record :=
  (store.lookup tpId).getD ∅

/-- Remember the time in the store. -/
def handleTeleporterHeartbeat (tpId : Value) (now : ℤ) (store : Store) : Store :=
  store.insert tpId ((rd store tpId).insert heartbeatTimestamp (.inst now))

/-- The timeout in nanoseconds; a minute when none is configured. -/
def Config.timeout (config : Config) : ℤ :=
  config.offlineTimeout.getD (60 * 1000) * 1000000

/-- The time is taken from the store. -/
def isTeleporterOnline (config : Config) (store : Store) (now : ℤ)
    (tpId : Value) : Bool :=
  match (rd store tpId).lookup heartbeatTimestamp with
  | some (.inst timestamp) => now < timestamp + config.timeout
  | _ => false

/-! ## What the app is told -/

structure Jam where
  members : List Value
  status : Value

def getJamJamStatus (jam : Jam) (tpId : Value) : Value :=
  if (∃ member ∈ jam.members, member ≈ tpId) ∧ tpId.truthy then jam.status
  else .nil

/-- A waiting teleporter, one in a jam, and any other. -/
def getJamStatus (jams : List Jam) (waiting : Option Record) (tpId : Value) :
    Value :=
  let status := ((jams.map fun jam => getJamJamStatus jam tpId).filter
    (· ≠ .nil)).headD .nil
  if ((waiting.bind fun waiting => waiting.lookup tpId).getD .nil).truthy then
    .keyword "jam/waiting"
  else if status.truthy then status
  else .keyword "idle"

/-- The report about one teleporter: the timestamp in its record is dropped. -/
def report (config : Config) (store : Store) (now : ℤ) (jams : List Jam)
    (waiting : Option Record) (tpId : Value) (teleporter : Option Record) :
    Record :=
  let kept := (((teleporter.getD ∅).erase heartbeatTimestamp).erase
    teleporterMac).erase teleporterSip
  (kept.insert teleporterOnline
    (.bool (isTeleporterOnline config store now tpId))).insert
      (.keyword "jam/status") (getJamStatus jams waiting tpId)

/-- The `:teleporters` of the answer. -/
def connect (config : Config) (store : Store) (now : ℤ) (jams : List Jam)
    (waiting : Option Record) (registry : Registry) : List Record :=
  registry.entries.map fun entry =>
    report config store now jams waiting entry.1 entry.2

/-! ## Runs -/

/-- What shows that a teleporter is alive. -/
inductive SignKind
  | init
  | heartbeat
  deriving DecidableEq

/-- A sign of life: who gave it, and when. -/
structure Sign where
  kind : SignKind
  id : Value
  time : ℤ
  deriving DecidableEq

/-- The two stores and the clock; `signs` only remembers what happened, the
newest first. -/
structure Server where
  registry : Registry
  store : Store
  now : ℤ
  signs : List Sign

def emptyServer (now : ℤ) : Server := ⟨∅, ∅, now, []⟩

/-- A registration comes with what the MQTT client makes of its
subscription. -/
inductive Event
  | init (body : Value) (subscribe : Except Thrown Unit)
  | update (body : Value)
  | heartbeat (tpId : Value)
  | advance (nanos : ℕ)

/-- A request that throws is answered with an error and is no sign of life. -/
def serve (config : Config) (event : Event) (server : Server) : Server :=
  match event with
  | .init body subscribe =>
      let (result, registry) :=
        init config server.now body subscribe server.registry
      { server with
        registry := registry
        signs :=
          match result with
          | .ok response =>
              if response.status = 200 then
                ⟨.init, response.body.get teleporterId, server.now⟩ ::
                  server.signs
              else server.signs
          | .error _ => server.signs }
  | .update body =>
      match update body server.registry with
      | .ok (_, registry) => { server with registry := registry }
      | .error _ => server
  | .heartbeat tpId =>
      { server with
        store := handleTeleporterHeartbeat tpId server.now server.store
        signs := ⟨.heartbeat, tpId, server.now⟩ :: server.signs }
  | .advance nanos => { server with now := server.now + nanos }

/-- The server never stops. -/
def step (config : Config) (event : Event) (server : Server) :
    Except Empty Server :=
  .ok (serve config event server)

abbrev runEvents (config : Config) :
    List Event → Server → Except Empty Server :=
  run (step config)

/-! ## What a request did -/

section Requests

variable {config : Config} {now : ℤ} {body : Value}

@[simp]
theorem idResponse_id (id : Value) :
    (idResponse id).body.get teleporterId = id := by
  rfl

/-- A registration stores a record with its own id, whose MAC address has that
id. -/
theorem registration_eq_ok {id : Value} {stored : Record}
    (hregistration : registration config now body = .ok (some (id, stored))) :
    stored.lookup teleporterId = some id ∧
      ∃ mac, stored.lookup teleporterMac = some mac ∧
        config.v5 mac = .ok id := by
  unfold registration at hregistration
  cases hbody : body.destructured with
  | error thrown =>
      rw [hbody] at hregistration
      cases hregistration
  | ok teleporter =>
      cases hid : config.v5 (teleporter.get teleporterMac) with
      | error thrown =>
          simp only [hbody, hid, bind, Except.bind] at hregistration
          cases hregistration
      | ok found =>
          simp only [hbody, hid, bind, Except.bind] at hregistration
          split at hregistration
          case isFalse => cases hregistration
          case isTrue htruthy =>
            cases hrecord : teleporter.asRecord with
            | error thrown =>
                rw [hrecord] at hregistration
                cases hregistration
            | ok record =>
                rw [hrecord] at hregistration
                cases hregistration
                have hget := get_of_asRecord hrecord teleporterMac
                cases hmac : record.lookup teleporterMac with
                | none =>
                    rw [hget, hmac] at htruthy
                    exact absurd htruthy (by decide)
                | some mac =>
                    rw [hget, hmac, Option.getD_some] at hid
                    refine ⟨?_, mac, ?_, hid⟩
                    · simp [KeyedMap.lookup_insert]
                    · simp [KeyedMap.lookup_insert, hmac]

/-- A registration that stores nothing changes nothing. -/
theorem serve_init_refused {server : Server} {subscribe : Except Thrown Unit}
    (hrefused : ∀ written,
      registration config server.now body ≠ .ok (some written)) :
    serve config (.init body subscribe) server = server := by
  rw [serve, init]
  cases hregistration : registration config server.now body with
  | error thrown => rfl
  | ok result =>
      cases result with
      | none => rfl
      | some written => exact absurd hregistration (hrefused written)

/-- One that stores a record is remembered if it has subscribed. -/
theorem serve_init_stored {server : Server} {subscribe : Except Thrown Unit}
    {id : Value} {stored : Record}
    (hstored : registration config server.now body = .ok (some (id, stored))) :
    serve config (.init body subscribe) server =
      { server with
        registry := writeDb server.registry id (some stored)
        signs :=
          match subscribe with
          | .ok () => ⟨.init, id, server.now⟩ :: server.signs
          | .error _ => server.signs } := by
  rw [serve, init, hstored]
  cases subscribe with
  | error thrown => rfl
  | ok done =>
      have hstatus : (idResponse id).status = 200 := rfl
      dsimp only [Except.map]
      rw [if_pos hstatus, idResponse_id]

end Requests

/-! ## One teleporter -/

def zedboardMac : Value := .string "74:da:88:c2:14:b4"

/-- The UUID of this address. -/
def zedboard : Value := .uuid "f7a21b06-014d-5444-88d7-0374a661d2de"

def sampleConfig : Config where
  v5 mac := if mac = zedboardMac then .ok zedboard else .error .illegalArgument
  sips _ := .string "sip:9114@voip1.inonit.no"
  offlineTimeout := some 60000

def zedboardBody : Value :=
  .map (.cons teleporterMac zedboardMac
    (.cons (.keyword "teleporter/nickname") (.string "zedboard-01") .nil))

/-- The body of an update. -/
def updateBody (id : Value) (settings : Entries) : Value :=
  .map (.cons teleporterId id
    (.cons teleporterSettings (.map settings) .nil))

end Songpark.Platform
