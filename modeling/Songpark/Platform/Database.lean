import Songpark.Platform.AppView
import Songpark.Platform.Nested
import Songpark.Platform.Threads
import Songpark.Platform.Version

/-!
# The stores of the platform as nested maps

The handlers read and write their database along paths, and the heartbeats go
along paths into a store of the platform itself.  The registry, the jams, the
waiting teleporters and the version of the firmware share the one database.
This file has the handlers as they are written, on nested values, and shows that
they do what the handlers on typed maps do, whatever happens in between.
-/

namespace Songpark.Platform

open Songpark.LastSet Songpark.NestedMap Songpark.StateProgram
open Songpark.Scan (Text)

abbrev teleporterKey : Value := .keyword "teleporter"
abbrev jamKey : Value := .keyword "jam"
abbrev waitingKey : Value := .keyword "waiting"
abbrev teleporterFwVersionKey : Value := .keyword "teleporter-fw-version"

/-- The database in memory, whose code belongs to another library: its contents
are a value that is read and written by paths. -/
structure MemDb (Db : Type) where
  contents : Db → Value
  readDb : Db → List Value → Value
  writeDb : Db → Value → List Value → Value → Except Thrown Db
  readDb_eq : ∀ db path, readDb db path = getIn valueOps (contents db) path
  writeDb_eq : ∀ db key keys value,
    (writeDb db key keys value).map contents =
      assocIn valueOps (contents db) key keys value

/-- A database that is its contents. -/
def plainDb : MemDb Value where
  contents := id
  readDb := getIn valueOps
  writeDb := assocIn valueOps
  readDb_eq _ _ := rfl
  writeDb_eq db key keys value :=
    congrFun Except.map_id (assocIn valueOps db key keys value)

/-- A version as a value. -/
def versionValue : Option Text → Value
  | some version => .string (String.ofList version)
  | none => .nil

/-! ## The store of the platform -/

namespace Paths

def rd (state : Value) (ks : List Value) : Value := getIn valueOps state ks

/-- A `swap!` that throws leaves the store as it was. -/
def wr (state key : Value) (ks : List Value) (v : Value) : Value :=
  match assocIn valueOps state key ks v with
  | .ok reached => reached
  | .error _ => state

def handleTeleporterHeartbeat (tpId : Value) (now : ℤ) (state : Value) : Value :=
  wr state teleporterKey [tpId, heartbeatTimestamp] (.inst now)

def isTeleporterOnline (config : Config) (state : Value) (now : ℤ)
    (tpId : Value) : Bool :=
  match (rd state [teleporterKey, tpId]).get heartbeatTimestamp with
  | .inst timestamp => now < timestamp + config.timeout
  | _ => false

/-! ## The handlers -/

section Handlers

variable {Db : Type} (memDb : MemDb Db) (config : Config)

/-- What a registration writes, and under which id. -/
def registration (now : ℤ) (body : Value) :
    Except Thrown (Option (Value × Value)) := do
  let teleporter ← body.destructured
  let mac := teleporter.get teleporterMac
  let id ← config.v5 mac
  if mac.truthy then do
    let withId ← teleporter.assoc teleporterId id
    let withTime ← withId.assoc heartbeatTimestamp (.inst now)
    let stored ← withTime.assoc teleporterSip (config.sips id)
    return some (id, stored)
  else return none

def init (now : ℤ) (body : Value) (subscribe : Except Thrown Unit) (db : Db) :
    Except Thrown Response × Db :=
  match registration config now body with
  | .ok (some (id, stored)) =>
      match memDb.writeDb db teleporterKey [id] stored with
      | .ok written => (subscribe.map fun _ => idResponse id, written)
      | .error thrown => (.error thrown, db)
  | .ok none => (.ok (errorResponse "Illegal MAC address"), db)
  | .error thrown => (.error thrown, db)

def update (body : Value) (db : Db) : Except Thrown (Response × Db) := do
  let teleporter ← body.destructured
  let id := teleporter.get teleporterId
  if id.truthy then do
    let merged ← (memDb.readDb db [teleporterKey, id]).mergeWith
      (teleporter.get teleporterSettings)
    let written ← memDb.writeDb db teleporterKey [id] merged
    return (idResponse id, written)
  else return (errorResponse "Unable to update the Teleporter", db)

/-- What the version refresher writes whenever it has asked for the package. -/
def setTeleporterFwVersion (aptString : Text) (db : Db) : Except Thrown Db :=
  memDb.writeDb db teleporterFwVersionKey []
    (versionValue (getAptPackageVersion aptString))

/-- `str` of what is under the key of the version: nothing, or a text. -/
def getLatestAvailableVersion (db : Db) : Option String :=
  match memDb.readDb db [teleporterFwVersionKey] with
  | .nil => some ""
  | .string version => some version
  | _ => none

/-! ### The answer to the app -/

/-- The jams as the app gets them. -/
def shownJams (jams : Value) : Except Thrown (List Record) := do
  let record ← jams.asRecord
  record.entries.mapM fun entry => do
    let jam ← entry.2.asRecord
    return selectKeys jam [jamId, jamMembers, jamStatus] ∅

/-- The map of the waiting teleporters. -/
def waitingOf : Value → Option Record
  | .map entries => some entries.record
  | _ => none

/-- The report about an entry of the registry. -/
def report (state : Value) (now : ℤ) (jams : List Jam) (waiting : Option Record)
    (tpId teleporter : Value) : Except Thrown Record := do
  let record ← teleporter.asRecord
  let kept := ((record.erase heartbeatTimestamp).erase teleporterMac).erase
    teleporterSip
  return (kept.insert teleporterOnline
    (.bool (isTeleporterOnline config state now tpId))).insert
      (.keyword "jam/status") (getJamStatus jams waiting tpId)

def connect (state : Value) (now : ℤ) (db : Db) : Except Thrown AppAnswer := do
  let jams ← shownJams (memDb.readDb db [jamKey])
  let waiting := waitingOf (memDb.readDb db [waitingKey])
  let teleporters ← (memDb.readDb db [teleporterKey]).asRecord
  let tps ← teleporters.entries.mapM fun entry =>
    report config state now (jams.map searched) waiting entry.1 entry.2
  return ⟨200, tps, jams⟩

end Handlers

end Paths

/-! ## Runs -/

/-- What happens on the platform.  The jams and the waiting teleporters are
what the jam manager leaves under its keys. -/
inductive PlatformEvent
  | handled (event : Event)
  | refresh (aptString : Text)
  | jams (jams : Jams)
  | waiting (waiting : Record)

/-- The state of the platform on typed maps; without a version before the first
refresh. -/
structure PlatformState where
  server : Server
  jams : Jams
  waiting : Record
  fwVersion : Option Text

def emptyPlatform (now : ℤ) : PlatformState := ⟨emptyServer now, ∅, ∅, none⟩

def servePlatform (config : Config) (event : PlatformEvent)
    (platform : PlatformState) : PlatformState :=
  match event with
  | .handled event => { platform with server := serve config event platform.server }
  | .refresh aptString =>
      { platform with fwVersion := getAptPackageVersion aptString }
  | .jams jams => { platform with jams := jams }
  | .waiting waiting => { platform with waiting := waiting }

def runPlatform (config : Config) :
    List PlatformEvent → PlatformState → Except Empty PlatformState :=
  run fun event platform => .ok (servePlatform config event platform)

/-- The state of the platform on nested values. -/
structure Process (Db : Type) where
  db : Db
  state : Value
  now : ℤ
  signs : List Sign

/-- The value of the jams under their key. -/
def jamsValue (jams : Jams) : Value :=
  mapValue (jams.mapValues fun jam => mapValue jam.record)

section Process

variable {Db : Type} (memDb : MemDb Db) (config : Config)

/-- What was written, or the database as it was. -/
def Process.written (process : Process Db) (result : Except Thrown Db) :
    Process Db :=
  match result with
  | .ok db => { process with db := db }
  | .error _ => process

def serveProcess (event : PlatformEvent) (process : Process Db) : Process Db :=
  match event with
  | .handled (.init body subscribe) =>
      let (result, db) :=
        Paths.init memDb config process.now body subscribe process.db
      { process with
        db := db
        signs :=
          match result with
          | .ok response =>
              if response.status = 200 then
                ⟨.init, response.body.get teleporterId, process.now⟩ ::
                  process.signs
              else process.signs
          | .error _ => process.signs }
  | .handled (.update body) =>
      process.written ((Paths.update memDb body process.db).map Prod.snd)
  | .handled (.heartbeat tpId) =>
      { process with
        state := Paths.handleTeleporterHeartbeat tpId process.now process.state
        signs := ⟨.heartbeat, tpId, process.now⟩ :: process.signs }
  | .handled (.advance nanos) => { process with now := process.now + nanos }
  | .refresh aptString =>
      process.written (Paths.setTeleporterFwVersion memDb aptString process.db)
  | .jams jams =>
      process.written (memDb.writeDb process.db jamKey [] (jamsValue jams))
  | .waiting waiting =>
      process.written (memDb.writeDb process.db waitingKey [] (mapValue waiting))

def runProcess : List PlatformEvent → Process Db → Except Empty (Process Db) :=
  run fun event process => .ok (serveProcess memDb config event process)

end Process

/-! ## What the nested values stand for -/

/-- The typed maps that are under the keys of the database. -/
structure DbHolds (contents : Value) (registry : Registry) (jams : Jams)
    (waiting : Record) (fwVersion : Option Text) : Prop where
  root : ∃ record, contents.asRecord = .ok record
  teleporters : contents.get teleporterKey =
    mapValue (registry.mapValues storedValue)
  jams : contents.get jamKey = jamsValue jams
  waiting : contents.get waitingKey = mapValue waiting
  version : contents.get teleporterFwVersionKey = versionValue fwVersion

/-- The typed map that is in the store of the platform. -/
structure StoreHolds (state : Value) (store : Store) : Prop where
  root : ∃ record, state.asRecord = .ok record
  teleporters : state.get teleporterKey = mapValue (store.mapValues mapValue)

section Holds

variable {Db : Type} {memDb : MemDb Db} {config : Config} {now : ℤ}
variable {db : Db} {body inner value : Value} {key : Value} {keys : List Value}
variable {registry : Registry} {jams : Jams} {waiting : Record}
variable {fwVersion : Option Text} {store : Store} {state : Value}

/-- A write that reaches its place replaces one entry of the database. -/
theorem writeDb_get (hroot : ∃ record, (memDb.contents db).asRecord = .ok record)
    (hwrite : ∀ record, (memDb.contents db).asRecord = .ok record →
      assocIn valueOps (memDb.contents db) key keys value =
        .ok (mapValue (record.insert key inner))) :
    ∃ reached, memDb.writeDb db key keys value = .ok reached ∧
      (∃ record, (memDb.contents reached).asRecord = .ok record) ∧
      (memDb.contents reached).get key = inner ∧
      ∀ other, ¬ key ≈ other →
        (memDb.contents reached).get other = (memDb.contents db).get other := by
  obtain ⟨record, hrecord⟩ := hroot
  have hassoc := hwrite record hrecord
  have hmap := memDb.writeDb_eq db key keys value
  rw [hassoc] at hmap
  cases hresult : memDb.writeDb db key keys value with
  | error thrown =>
      rw [hresult] at hmap
      cases hmap
  | ok reached =>
      rw [hresult] at hmap
      have hcontents : memDb.contents reached =
          mapValue (record.insert key inner) := Except.ok.inj hmap
      rw [← hcontents] at hassoc
      refine ⟨reached, rfl, ⟨_, hcontents ▸ asRecord_mapValue _⟩, ?_,
        fun other hother => ?_⟩
      · rw [hcontents, get_mapValue, KeyedMap.lookup_insert_self, Option.getD_some]
      · have hpath : getIn valueOps (memDb.contents reached) [other] =
            getIn valueOps (memDb.contents db) [other] :=
          getIn_updateIn_apart hassoc (.here hother)
        exact hpath

/-- A whole entry is written. -/
theorem writeDb_entry
    (hroot : ∃ record, (memDb.contents db).asRecord = .ok record)
    (key value : Value) :
    ∃ reached, memDb.writeDb db key [] value = .ok reached ∧
      (∃ record, (memDb.contents reached).asRecord = .ok record) ∧
      (memDb.contents reached).get key = value ∧
      ∀ other, ¬ key ≈ other →
        (memDb.contents reached).get other = (memDb.contents db).get other :=
  writeDb_get hroot fun _ hrecord => assocIn_nil hrecord key value

/-- A stored record is written under its id. -/
theorem writeDb_teleporter
    (hdb : DbHolds (memDb.contents db) registry jams waiting fwVersion)
    (id : Value) (stored : Option Record) :
    ∃ reached,
      memDb.writeDb db teleporterKey [id] (storedValue stored) = .ok reached ∧
        DbHolds (memDb.contents reached) (writeDb registry id stored) jams
          waiting fwVersion := by
  have hinner : assocIn valueOps ((memDb.contents db).get teleporterKey) id []
      (storedValue stored) =
        .ok (mapValue ((writeDb registry id stored).mapValues storedValue)) := by
    rw [hdb.teleporters, assocIn_nil (asRecord_mapValue _), writeDb,
      KeyedMap.mapValues_insert]
  obtain ⟨reached, hwrite, hroot, hget, hother⟩ := writeDb_get
    hdb.root fun record hrecord => assocIn_cons hrecord hinner
  exact ⟨reached, hwrite, hroot, hget,
    (hother _ (by decide)).trans hdb.jams,
    (hother _ (by decide)).trans hdb.waiting,
    (hother _ (by decide)).trans hdb.version⟩

theorem readDb_teleporter
    (hdb : DbHolds (memDb.contents db) registry jams waiting fwVersion)
    (id : Value) :
    memDb.readDb db [teleporterKey, id] = storedValue (readDb registry id) := by
  have hpath : memDb.readDb db [teleporterKey, id] =
      ((memDb.contents db).get teleporterKey).get id :=
    memDb.readDb_eq db [teleporterKey, id]
  rw [hpath, hdb.teleporters, get_mapValue, KeyedMap.lookup_mapValues, readDb]
  cases registry.lookup id with
  | none => rfl
  | some stored => rfl

/-! ## The handlers on what they stand for -/

theorem paths_registration (config : Config) (now : ℤ) (body : Value) :
    Paths.registration config now body =
      (registration config now body).map
        (Option.map fun written => (written.1, mapValue written.2)) := by
  unfold Paths.registration registration
  cases body.destructured with
  | error thrown => rfl
  | ok teleporter =>
      simp only [bind, Except.bind]
      cases config.v5 (teleporter.get teleporterMac) with
      | error thrown => rfl
      | ok id =>
          dsimp only
          split
          · cases hrecord : teleporter.asRecord with
            | error thrown =>
                simp only [Value.assoc, hrecord, bind, Except.bind, Except.map]
            | ok record =>
                simp only [Value.assoc, hrecord, asRecord_mapValue, bind,
                  Except.bind, pure, Except.pure, Except.map, Option.map]
          · rfl

/-- A registration on nested values is one on the registry. -/
theorem paths_init (config : Config) (now : ℤ) (body : Value)
    (subscribe : Except Thrown Unit)
    (hdb : DbHolds (memDb.contents db) registry jams waiting fwVersion) :
    ∃ reached,
      Paths.init memDb config now body subscribe db =
        ((init config now body subscribe registry).1, reached) ∧
      DbHolds (memDb.contents reached)
        (init config now body subscribe registry).2 jams waiting fwVersion := by
  rw [Paths.init, paths_registration, init]
  cases registration config now body with
  | error thrown => exact ⟨db, rfl, hdb⟩
  | ok result =>
      cases result with
      | none => exact ⟨db, rfl, hdb⟩
      | some written =>
          obtain ⟨id, stored⟩ := written
          obtain ⟨reached, hwrite, hreached⟩ :=
            writeDb_teleporter hdb id (some stored)
          have hstored : memDb.writeDb db teleporterKey [id] (mapValue stored) =
              .ok reached := hwrite
          refine ⟨reached, ?_, hreached⟩
          dsimp only [Except.map, Option.map]
          rw [hstored]

/-- An update on nested values is one of the registry. -/
theorem paths_update (body : Value)
    (hdb : DbHolds (memDb.contents db) registry jams waiting fwVersion) :
    match update body registry with
    | .ok (response, stored) =>
        ∃ reached, Paths.update memDb body db = .ok (response, reached) ∧
          DbHolds (memDb.contents reached) stored jams waiting fwVersion
    | .error thrown => Paths.update memDb body db = .error thrown := by
  rw [update_eq]
  unfold Paths.update
  cases body.destructured with
  | error thrown => rfl
  | ok teleporter =>
      simp only [bind, Except.bind]
      by_cases htruthy : (teleporter.get teleporterId).truthy
      · simp only [htruthy, if_true]
        rw [readDb_teleporter hdb, mergeWith_storedValue]
        cases Value.merge (readDb registry (teleporter.get teleporterId))
            (teleporter.get teleporterSettings) with
        | error thrown => rfl
        | ok merged =>
            obtain ⟨reached, hwrite, hreached⟩ :=
              writeDb_teleporter hdb (teleporter.get teleporterId) merged
            simp only [Except.map, hwrite]
            exact ⟨reached, rfl, hreached⟩
      · simp only [htruthy]
        exact ⟨db, rfl, hdb⟩

/-- A heartbeat reaches its place, also in a store without the teleporter. -/
theorem paths_heartbeat (hstore : StoreHolds state store) (tpId : Value)
    (now : ℤ) :
    StoreHolds (Paths.handleTeleporterHeartbeat tpId now state)
      (handleTeleporterHeartbeat tpId now store) := by
  obtain ⟨record, hrecord⟩ := hstore.root
  have hentry : ((state.get teleporterKey).get tpId).asRecord =
      .ok (Songpark.Platform.rd store tpId) := by
    rw [hstore.teleporters, get_mapValue, KeyedMap.lookup_mapValues,
      Songpark.Platform.rd]
    cases store.lookup tpId with
    | none => rfl
    | some stamps => exact asRecord_mapValue stamps
  have hteleporters : (state.get teleporterKey).asRecord =
      .ok (store.mapValues mapValue) := by
    rw [hstore.teleporters, asRecord_mapValue]
  have hwrite := assocIn_cons hrecord (assocIn_cons hteleporters
    (assocIn_nil hentry heartbeatTimestamp (.inst now)))
  have hreached : Paths.handleTeleporterHeartbeat tpId now state =
      mapValue (record.insert teleporterKey (mapValue
        ((handleTeleporterHeartbeat tpId now store).mapValues mapValue))) := by
    rw [Paths.handleTeleporterHeartbeat, Paths.wr, hwrite,
      handleTeleporterHeartbeat, KeyedMap.mapValues_insert]
  rw [hreached]
  refine ⟨⟨_, asRecord_mapValue _⟩, ?_⟩
  rw [get_mapValue, KeyedMap.lookup_insert_self, Option.getD_some]

/-- The nested store tells who is online. -/
theorem paths_isTeleporterOnline (hstore : StoreHolds state store)
    (tpId : Value) (now : ℤ) :
    Paths.isTeleporterOnline config state now tpId =
      isTeleporterOnline config store now tpId := by
  have hpath : Paths.rd state [teleporterKey, tpId] =
      (state.get teleporterKey).get tpId := rfl
  have hstamp : (Paths.rd state [teleporterKey, tpId]).get heartbeatTimestamp =
      ((rd store tpId).lookup heartbeatTimestamp).getD .nil := by
    rw [hpath, hstore.teleporters, get_mapValue, KeyedMap.lookup_mapValues, rd]
    cases store.lookup tpId with
    | none => rfl
    | some stamps => exact get_mapValue stamps heartbeatTimestamp
  unfold Paths.isTeleporterOnline isTeleporterOnline
  rw [hstamp]
  cases (rd store tpId).lookup heartbeatTimestamp with
  | none => rfl
  | some stamp => cases stamp <;> rfl

end Holds

/-! ## The run of the platform -/

/-- The handled requests and heartbeats among what happens. -/
def PlatformEvent.handled? : PlatformEvent → Option Event
  | handled event => some event
  | _ => none

/-- The version that a refresh finds. -/
def PlatformEvent.refreshed : PlatformEvent → Option (Option Text)
  | refresh aptString => some (getAptPackageVersion aptString)
  | _ => none

def PlatformEvent.leftJams : PlatformEvent → Option Jams
  | jams left => some left
  | _ => none

def PlatformEvent.leftWaiting : PlatformEvent → Option Record
  | waiting left => some left
  | _ => none

/-- What the database starts with. -/
def initialContents : Value :=
  .map (.cons teleporterKey (.map .nil) (.cons jamKey (.map .nil)
    (.cons waitingKey (.map .nil) .nil)))

/-- What the store of the platform starts with. -/
def initialState : Value :=
  .map (.cons teleporterKey (.map .nil) (.cons jamKey (.map .nil) .nil))

/-- The nested values are those of the typed maps. -/
structure Represents {Db : Type} (memDb : MemDb Db) (process : Process Db)
    (platform : PlatformState) : Prop where
  db : DbHolds (memDb.contents process.db) platform.server.registry
    platform.jams platform.waiting platform.fwVersion
  store : StoreHolds process.state platform.server.store
  now : process.now = platform.server.now
  signs : process.signs = platform.server.signs

section Runs

variable {Db : Type} {memDb : MemDb Db} {config : Config}
variable {events : List PlatformEvent} {process reached : Process Db}
variable {platform after : PlatformState} {db : Db} {now : ℤ}

theorem represents_initial (hdb : memDb.contents db = initialContents) :
    Represents memDb ⟨db, initialState, now, []⟩ (emptyPlatform now) where
  db := by
    have hholds : DbHolds initialContents ∅ ∅ ∅ none :=
      ⟨⟨_, rfl⟩, by decide +kernel, by decide +kernel, by decide +kernel,
        by decide +kernel⟩
    rw [← hdb] at hholds
    exact hholds
  store := by
    have hholds : StoreHolds initialState ∅ := ⟨⟨_, rfl⟩, by decide +kernel⟩
    exact hholds
  now := rfl
  signs := rfl

/-- Each event does to the nested values what it does to the typed maps. -/
theorem represents_serve (hrepresents : Represents memDb process platform)
    (event : PlatformEvent) :
    Represents memDb (serveProcess memDb config event process)
      (servePlatform config event platform) := by
  obtain ⟨hdb, hstore, hnow, hsigns⟩ := hrepresents
  cases event with
  | handled event =>
      cases event with
      | init body subscribe =>
          obtain ⟨reached, hinit, hreached⟩ :=
            paths_init config platform.server.now body subscribe hdb
          rw [serveProcess, servePlatform, serve, hnow, hinit, hsigns]
          exact ⟨hreached, hstore, rfl, rfl⟩
      | update body =>
          have hupdate := paths_update body hdb
          rw [serveProcess, servePlatform, serve]
          cases hresult : update body platform.server.registry with
          | error thrown =>
              rw [hresult] at hupdate
              rw [hupdate]
              exact ⟨hdb, hstore, hnow, hsigns⟩
          | ok result =>
              rw [hresult] at hupdate
              obtain ⟨reached, hpaths, hreached⟩ := hupdate
              rw [hpaths]
              exact ⟨hreached, hstore, hnow, hsigns⟩
      | heartbeat tpId =>
          rw [serveProcess, servePlatform, serve, hnow, hsigns]
          exact ⟨hdb, paths_heartbeat hstore tpId _, rfl, rfl⟩
      | advance nanos =>
          rw [serveProcess, servePlatform, serve, hnow]
          exact ⟨hdb, hstore, rfl, hsigns⟩
  | refresh aptString =>
      obtain ⟨reached, hwrite, hroot, hget, hother⟩ :=
        writeDb_entry hdb.root teleporterFwVersionKey
          (versionValue (getAptPackageVersion aptString))
      rw [serveProcess, servePlatform, Paths.setTeleporterFwVersion, hwrite]
      refine ⟨⟨hroot, ?_, ?_, ?_, hget⟩, hstore, hnow, hsigns⟩
      · exact (hother _ (by decide)).trans hdb.teleporters
      · exact (hother _ (by decide)).trans hdb.jams
      · exact (hother _ (by decide)).trans hdb.waiting
  | jams left =>
      obtain ⟨reached, hwrite, hroot, hget, hother⟩ :=
        writeDb_entry hdb.root jamKey (jamsValue left)
      rw [serveProcess, servePlatform, hwrite]
      refine ⟨⟨hroot, ?_, hget, ?_, ?_⟩, hstore, hnow, hsigns⟩
      · exact (hother _ (by decide)).trans hdb.teleporters
      · exact (hother _ (by decide)).trans hdb.waiting
      · exact (hother _ (by decide)).trans hdb.version
  | waiting left =>
      obtain ⟨reached, hwrite, hroot, hget, hother⟩ :=
        writeDb_entry hdb.root waitingKey (mapValue left)
      rw [serveProcess, servePlatform, hwrite]
      refine ⟨⟨hroot, ?_, ?_, hget, ?_⟩, hstore, hnow, hsigns⟩
      · exact (hother _ (by decide)).trans hdb.teleporters
      · exact (hother _ (by decide)).trans hdb.jams
      · exact (hother _ (by decide)).trans hdb.version

theorem runProcess_represents (hdb : memDb.contents db = initialContents)
    (hrun : runProcess memDb config events ⟨db, initialState, now, []⟩ =
      .ok reached) :
    ∃ after, runPlatform config events (emptyPlatform now) = .ok after ∧
      Represents memDb reached after := by
  refine run_related (Represents memDb) ?_ (represents_initial hdb) hrun
  intro event process reached platform hrepresents hserve
  cases hserve
  exact ⟨_, rfl, represents_serve hrepresents event⟩

/-! ### The typed state -/

/-- The server only sees what is handled. -/
theorem runPlatform_server
    (hrun : runPlatform config events platform = .ok after) :
    runEvents config (events.filterMap PlatformEvent.handled?)
      platform.server = .ok after.server := by
  induction events generalizing platform with
  | nil => rw [run_nil.mp hrun, List.filterMap_nil, runEvents, run]
  | cons event events ih =>
      obtain ⟨middle, hserve, hrest⟩ := run_cons.mp hrun
      cases hserve
      have hlater := ih hrest
      cases event with
      | handled event =>
          simp only [List.filterMap_cons, PlatformEvent.handled?]
          exact run_cons.mpr ⟨_, rfl, hlater⟩
      | refresh aptString | jams left | waiting left =>
          simp only [List.filterMap_cons, PlatformEvent.handled?]
          exact hlater

/-- A part of the state that every event sets or keeps is what was set last. -/
theorem runPlatform_lastSet {Part : Type} (part : PlatformState → Part)
    (sets : PlatformEvent → Option Part)
    (hserve : ∀ event platform, part (servePlatform config event platform) =
      (sets event).getD (part platform))
    (hrun : runPlatform config events platform = .ok after) :
    part after = (lastSet sets events).getD (part platform) := by
  refine run_lastSet (fun _ => True) part sets (fun _ _ _ _ _ _ => trivial)
    (fun event _ platform next _ hnext => ?_) trivial hrun
  cases hnext
  exact hserve event platform

theorem runPlatform_fwVersion
    (hrun : runPlatform config events platform = .ok after) :
    after.fwVersion =
      (lastSet PlatformEvent.refreshed events).getD platform.fwVersion :=
  runPlatform_lastSet (fun platform => platform.fwVersion) _
    (fun event _ => by cases event <;> rfl) hrun

theorem runPlatform_jams
    (hrun : runPlatform config events platform = .ok after) :
    after.jams = (lastSet PlatformEvent.leftJams events).getD platform.jams :=
  runPlatform_lastSet (fun platform => platform.jams) _
    (fun event _ => by cases event <;> rfl) hrun

theorem runPlatform_waiting
    (hrun : runPlatform config events platform = .ok after) :
    after.waiting =
      (lastSet PlatformEvent.leftWaiting events).getD platform.waiting :=
  runPlatform_lastSet (fun platform => platform.waiting) _
    (fun event _ => by cases event <;> rfl) hrun

/-! ### The platform as its clients see it -/

/-- On nested values the handlers do what they do on typed maps, whatever other
parts of the platform write in between: a teleporter is read back as registered,
and who is online is told from the same signs. -/
theorem runProcess_server (hdb : memDb.contents db = initialContents)
    (hrun : runProcess memDb config events ⟨db, initialState, now, []⟩ =
      .ok reached) :
    ∃ server,
      runEvents config (events.filterMap PlatformEvent.handled?)
        (emptyServer now) = .ok server ∧
      reached.signs = server.signs ∧ reached.now = server.now ∧
      (∀ id, memDb.readDb reached.db [teleporterKey, id] =
        storedValue (readDb server.registry id)) ∧
      ∀ tpId time, Paths.isTeleporterOnline config reached.state time tpId =
        isTeleporterOnline config server.store time tpId := by
  obtain ⟨after, hafter, hrepresents⟩ := runProcess_represents hdb hrun
  exact ⟨after.server, runPlatform_server hafter, hrepresents.signs,
    hrepresents.now, readDb_teleporter hrepresents.db,
    paths_isTeleporterOnline hrepresents.store⟩

/-- A registration, a refresh, a jam and a heartbeat. -/
def zedboardEvents : List PlatformEvent :=
  [.handled (.init zedboardBody (.ok ())), .refresh (printed [versionField ['0', '.', '4']]),
    .jams ∅, .handled (.heartbeat zedboard)]

theorem zedboard_run :
    ∃ reached, runProcess plainDb sampleConfig zedboardEvents
        ⟨initialContents, initialState, 0, []⟩ = .ok reached :=
  exists_of_isOk _ rfl

theorem runProcess_server_zedboard :
    ∃ reached, runProcess plainDb sampleConfig zedboardEvents
        ⟨initialContents, initialState, 0, []⟩ = .ok reached ∧
      ∃ server, runEvents sampleConfig
        (zedboardEvents.filterMap PlatformEvent.handled?) (emptyServer 0) =
          .ok server ∧
      reached.signs = server.signs ∧ reached.now = server.now ∧
      (∀ id, plainDb.readDb reached.db [teleporterKey, id] =
        storedValue (readDb server.registry id)) ∧
      ∀ tpId time,
        Paths.isTeleporterOnline sampleConfig reached.state time tpId =
          isTeleporterOnline sampleConfig server.store time tpId := by
  obtain ⟨reached, hrun⟩ := zedboard_run
  exact ⟨reached, hrun, runProcess_server rfl hrun⟩

/-- The version that the platform reports is the one that the last refresh has
found, and empty before the first. -/
theorem runProcess_version (hdb : memDb.contents db = initialContents)
    (hrun : runProcess memDb config events ⟨db, initialState, now, []⟩ =
      .ok reached) :
    ∃ reported, Paths.getLatestAvailableVersion memDb reached.db =
        some reported ∧
      match lastSet PlatformEvent.refreshed events with
      | none => reported = ""
      | some version => version = some reported.toList ∧
          reported.toList ≠ [] ∧ ¬ separator <:+: reported.toList := by
  obtain ⟨after, hafter, hrepresents⟩ := runProcess_represents hdb hrun
  have hread : memDb.readDb reached.db [teleporterFwVersionKey] =
      versionValue after.fwVersion :=
    (memDb.readDb_eq reached.db _).trans hrepresents.db.version
  rw [runPlatform_fwVersion hafter] at hread
  rw [Paths.getLatestAvailableVersion, hread]
  cases hlast : lastSet PlatformEvent.refreshed events with
  | none => exact ⟨"", rfl, rfl⟩
  | some version =>
      obtain ⟨event, _, hevent⟩ := exists_of_lastSet hlast
      cases event with
      | refresh aptString =>
          obtain ⟨found, hfound, hne, hseparator, _⟩ :=
            getAptPackageVersion_found aptString
          have hversion : version = some found :=
            (Option.some.inj hevent).symm.trans hfound
          subst hversion
          exact ⟨String.ofList found, rfl, by rw [String.toList_ofList],
            by rwa [String.toList_ofList], by rwa [String.toList_ofList]⟩
      | handled event | jams left | waiting left => cases hevent

theorem runProcess_version_zedboard :
    ∃ reached, runProcess plainDb sampleConfig zedboardEvents
        ⟨initialContents, initialState, 0, []⟩ = .ok reached ∧
      ∃ reported, Paths.getLatestAvailableVersion plainDb reached.db = some reported ∧
      match lastSet PlatformEvent.refreshed zedboardEvents with
      | none => reported = ""
      | some version => version = some reported.toList ∧
          reported.toList ≠ [] ∧ ¬ separator <:+: reported.toList := by
  obtain ⟨reached, hrun⟩ := zedboard_run
  exact ⟨reached, hrun, runProcess_version rfl hrun⟩

/-! ### The answer to the app -/

theorem mapM_map_ok {Item Entry Result : Type} {toEntry : Item → Entry}
    {f : Entry → Except Thrown Result} {g : Item → Result} {items : List Item}
    (hitems : ∀ item ∈ items, f (toEntry item) = .ok (g item)) :
    (items.map toEntry).mapM f = .ok (items.map g) := by
  induction items with
  | nil => rfl
  | cons item items ih =>
      rw [List.map_cons, List.mapM_cons, hitems item List.mem_cons_self,
        ih fun other hother => hitems other (List.mem_cons_of_mem _ hother)]
      rfl

theorem shownJams_jamsValue (jams : Jams) :
    Paths.shownJams (jamsValue jams) =
      .ok (jams.entries.map fun entry => entry.2.shown) := by
  unfold Paths.shownJams jamsValue
  rw [asRecord_mapValue]
  refine mapM_map_ok fun entry _ => ?_
  rw [asRecord_mapValue]
  rfl

theorem paths_report {jams : List Jam} {waiting : Option Record}
    {state : Value} {store : Store} (hstore : StoreHolds state store)
    (tpId : Value) (teleporter : Option Record) :
    Paths.report config state now jams waiting tpId (storedValue teleporter) =
      .ok (report config store now jams waiting tpId teleporter) := by
  have hrecord : (storedValue teleporter).asRecord = .ok (teleporter.getD ∅) := by
    cases teleporter with
    | none => rfl
    | some record => exact asRecord_mapValue record
  unfold Paths.report report
  rw [hrecord, ← paths_isTeleporterOnline hstore]
  rfl

/-- The answer to the app is that of the typed handlers, with the jams and the
waiting teleporters that were left last. -/
theorem runProcess_connect (hdb : memDb.contents db = initialContents)
    (hrun : runProcess memDb config events ⟨db, initialState, now, []⟩ =
      .ok reached) (time : ℤ) :
    ∃ server,
      runEvents config (events.filterMap PlatformEvent.handled?)
        (emptyServer now) = .ok server ∧
      Paths.connect memDb config reached.state time reached.db =
        .ok (connectApp config server.store time
          ((lastSet PlatformEvent.leftJams events).getD ∅)
          (some ((lastSet PlatformEvent.leftWaiting events).getD ∅))
          server.registry) := by
  obtain ⟨after, hafter, hrepresents⟩ := runProcess_represents hdb hrun
  refine ⟨after.server, runPlatform_server hafter, ?_⟩
  have hjams : memDb.readDb reached.db [jamKey] = jamsValue after.jams :=
    (memDb.readDb_eq reached.db _).trans hrepresents.db.jams
  have hwaiting : memDb.readDb reached.db [waitingKey] =
      mapValue after.waiting :=
    (memDb.readDb_eq reached.db _).trans hrepresents.db.waiting
  have hteleporters : memDb.readDb reached.db [teleporterKey] =
      mapValue (after.server.registry.mapValues storedValue) :=
    (memDb.readDb_eq reached.db _).trans hrepresents.db.teleporters
  have hwaitingOf : Paths.waitingOf (mapValue after.waiting) =
      some after.waiting := congrArg some (record_ofList after.waiting)
  rw [← show after.jams = (lastSet PlatformEvent.leftJams events).getD ∅ from
      runPlatform_jams hafter,
    ← show after.waiting = (lastSet PlatformEvent.leftWaiting events).getD ∅ from
      runPlatform_waiting hafter]
  unfold Paths.connect connectApp connect
  rw [hjams, hwaiting, hteleporters, shownJams_jamsValue, hwaitingOf,
    asRecord_mapValue]
  have htps : (after.server.registry.mapValues storedValue).entries.mapM
      (fun entry => Paths.report config reached.state time
        ((after.jams.entries.map fun entry => entry.2.shown).map searched)
        (some after.waiting) entry.1 entry.2) =
      .ok (after.server.registry.entries.map fun entry =>
        report config after.server.store time
          ((after.jams.entries.map fun entry => entry.2.shown).map searched)
          (some after.waiting) entry.1 entry.2) :=
    mapM_map_ok fun entry _ => paths_report hrepresents.store entry.1 entry.2
  simp only [bind, Except.bind]
  rw [htps]
  rfl

theorem runProcess_connect_zedboard :
    ∃ reached, runProcess plainDb sampleConfig zedboardEvents
        ⟨initialContents, initialState, 0, []⟩ = .ok reached ∧
      ∃ server, runEvents sampleConfig
        (zedboardEvents.filterMap PlatformEvent.handled?) (emptyServer 0) =
          .ok server ∧
      Paths.connect plainDb sampleConfig reached.state 7 reached.db =
        .ok (connectApp sampleConfig server.store 7
          ((lastSet PlatformEvent.leftJams zedboardEvents).getD ∅)
          (some ((lastSet PlatformEvent.leftWaiting zedboardEvents).getD ∅))
          server.registry) := by
  obtain ⟨reached, hrun⟩ := zedboard_run
  exact ⟨reached, hrun, runProcess_connect rfl hrun 7⟩

end Runs

end Songpark.Platform
