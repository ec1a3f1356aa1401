import Songpark.Platform.Registry

/-!
# Who is online

The app is told that a teleporter is online when its heartbeat is recent.  A
registration stores the time as well, in the record of the database; the status
is read from the store that only the heartbeats write.  The main result says
when the two agree on what the app is told.
-/

namespace Songpark.Platform

open Songpark.StateProgram

/-! ## Signs of life -/

/-- The time of the newest sign that passes the test. -/
def newest (signs : List Sign) (test : Sign → Bool) : Option ℤ :=
  (signs.find? test).map Sign.time

/-- The last sign of a teleporter, of whatever kind. -/
def lastSign (signs : List Sign) (id : Value) : Option ℤ :=
  newest signs fun sign => sign.id ≈ id

/-- Its last registration, or its last heartbeat. -/
def lastOf (kind : SignKind) (signs : List Sign) (id : Value) : Option ℤ :=
  newest signs fun sign => sign.kind = kind ∧ sign.id ≈ id

/-- The sign was given less than the timeout ago. -/
def Recent (timeout now : ℤ) (sign : Option ℤ) : Prop :=
  ∃ time ∈ sign, now < time + timeout

/-- The times of a log fall from the newest sign on. -/
def Falling (signs : List Sign) : Prop :=
  signs.Pairwise fun newer older => older.time ≤ newer.time

section Newest

variable {signs : List Sign} {sign : Sign} {id : Value} {kind : SignKind}
variable {timeout now time : ℤ}

theorem lastSign_cons :
    lastSign (sign :: signs) id =
      if sign.id ≈ id then some sign.time else lastSign signs id := by
  by_cases hid : sign.id ≈ id
  · simp [lastSign, newest, hid]
  · simp [lastSign, newest, hid]

theorem lastOf_cons :
    lastOf kind (sign :: signs) id =
      if sign.kind = kind ∧ sign.id ≈ id then some sign.time
      else lastOf kind signs id := by
  by_cases hsign : sign.kind = kind ∧ sign.id ≈ id
  · simp [lastOf, newest, hsign]
  · rw [if_neg hsign, lastOf, newest, List.find?_cons_of_neg]
    · rfl
    · simpa using hsign

/-- The last sign of a kind is in the log. -/
theorem lastOf_eq_some (hlast : lastOf kind signs id = some time) :
    ∃ sign ∈ signs, sign.time = time := by
  obtain ⟨sign, hfound, htime⟩ := Option.map_eq_some_iff.mp hlast
  exact ⟨sign, List.mem_of_find?_eq_some hfound, htime⟩

/-- The last sign is recent exactly when the last registration or the last
heartbeat is. -/
theorem recent_lastSign_iff (hfalling : Falling signs) :
    Recent timeout now (lastSign signs id) ↔
      ∃ kind, Recent timeout now (lastOf kind signs id) := by
  induction signs with
  | nil => simp [Recent, lastSign, lastOf, newest]
  | cons sign signs ih =>
      obtain ⟨hnewest, hrest⟩ := List.pairwise_cons.mp hfalling
      by_cases hid : sign.id ≈ id
      · rw [lastSign_cons, if_pos hid]
        constructor
        · intro hrecent
          refine ⟨sign.kind, ?_⟩
          rwa [lastOf_cons, if_pos ⟨rfl, hid⟩]
        · rintro ⟨kind, time, hlast, hrecent⟩
          rw [lastOf_cons] at hlast
          split at hlast
          · exact ⟨time, hlast, hrecent⟩
          · -- An older sign of its kind is no later than the newest sign.
            obtain ⟨older, hmem, rfl⟩ := lastOf_eq_some hlast
            have hle := hnewest older hmem
            exact ⟨sign.time, rfl, by omega⟩
      · have hother : ∀ kind,
            lastOf kind (sign :: signs) id = lastOf kind signs id := by
          intro kind
          rw [lastOf_cons, if_neg fun hsign => hid hsign.2]
        simp only [lastSign_cons, if_neg hid, hother]
        exact ih hrest

end Newest

/-! ## What the stores say about the signs -/

/-- The log is in order, and the store knows the last heartbeat of everybody. -/
structure LogKept (server : Server) : Prop where
  falling : Falling server.signs
  past : ∀ sign ∈ server.signs, sign.time ≤ server.now
  store : ∀ id, (rd server.store id).lookup heartbeatTimestamp =
    (lastOf .heartbeat server.signs id).map .inst

section Kept

variable {config : Config} {server : Server} {sign : Sign} {id : Value}

theorem LogKept.falling_cons (hkept : LogKept server)
    (htime : sign.time = server.now) : Falling (sign :: server.signs) := by
  refine List.pairwise_cons.mpr ⟨fun older hmem => ?_, hkept.falling⟩
  rw [htime]
  exact hkept.past older hmem

theorem LogKept.past_cons (hkept : LogKept server)
    (htime : sign.time = server.now) :
    ∀ later ∈ sign :: server.signs, later.time ≤ server.now := by
  intro later hmem
  rcases List.mem_cons.mp hmem with rfl | hmem
  · omega
  · exact hkept.past later hmem

theorem logKept_emptyServer (now : ℤ) : LogKept (emptyServer now) where
  falling := List.Pairwise.nil
  past _ hmem := absurd hmem List.not_mem_nil
  store _ := rfl

theorem logKept_init (hkept : LogKept server) (body : Value)
    (subscribe : Except Thrown Unit) :
    LogKept (serve config (.init body subscribe) server) := by
  by_cases hwrites : ∃ written,
      registration config server.now body = .ok (some written)
  · obtain ⟨⟨id, stored⟩, hstored⟩ := hwrites
    rw [serve_init_stored hstored]
    cases subscribe with
    | error thrown => exact ⟨hkept.falling, hkept.past, hkept.store⟩
    | ok done =>
        constructor
        · exact hkept.falling_cons rfl
        · exact hkept.past_cons rfl
        · intro other
          rw [lastOf_cons, if_neg fun hsign => nomatch hsign.1]
          exact hkept.store other
  · rw [serve_init_refused fun written hwritten => hwrites ⟨written, hwritten⟩]
    exact hkept

theorem logKept_update (hkept : LogKept server) (body : Value) :
    LogKept (serve config (.update body) server) := by
  rw [serve]
  split
  · exact ⟨hkept.falling, hkept.past, hkept.store⟩
  · exact hkept

theorem rd_heartbeat (tpId other : Value) (now : ℤ) (store : Store) :
    (rd (handleTeleporterHeartbeat tpId now store) other).lookup
        heartbeatTimestamp =
      if tpId ≈ other then some (.inst now)
      else (rd store other).lookup heartbeatTimestamp := by
  rw [rd, handleTeleporterHeartbeat, KeyedMap.lookup_insert]
  split_ifs
  · rw [Option.getD_some, KeyedMap.lookup_insert_self]
  · rfl

theorem logKept_heartbeat (hkept : LogKept server) (tpId : Value) :
    LogKept (serve config (.heartbeat tpId) server) where
  falling := hkept.falling_cons rfl
  past := hkept.past_cons rfl
  store other := by
    rw [serve, rd_heartbeat, lastOf_cons, hkept.store]
    by_cases hother : tpId ≈ other
    · simp [hother]
    · simp [hother]

theorem logKept_advance (hkept : LogKept server) (nanos : ℕ) :
    LogKept (serve config (.advance nanos) server) where
  falling := hkept.falling
  past sign hmem := by
    have hle := hkept.past sign hmem
    have hnow : (serve config (.advance nanos) server).now =
        server.now + nanos := rfl
    omega
  store := hkept.store

theorem logKept_run {events : List Event} {start : ℤ}
    (hrun : runEvents config events (emptyServer start) = .ok server) :
    LogKept server := by
  refine run_invariant LogKept ?_ hrun (logKept_emptyServer start)
  intro event _ current reached hkept hstep
  cases hstep
  cases event with
  | init body subscribe => exact logKept_init hkept body subscribe
  | update body => exact logKept_update hkept body
  | heartbeat tpId => exact logKept_heartbeat hkept tpId
  | advance nanos => exact logKept_advance hkept nanos

end Kept

/-! ## What the app is told -/

/-- Some report is about the teleporter and says that it is online. -/
def ReportedOnline (reports : List Record) (id : Value) : Prop :=
  ∃ report ∈ reports, report.Holds teleporterId id ∧
    report.lookup teleporterOnline = some (.bool true)

section Reports

variable {config : Config} {server : Server} {id : Value} {record : Record}
variable {jams : List Jam} {waiting : Option Record}

theorem report_lookup_id {store : Store} {now : ℤ} :
    (report config store now jams waiting id (some record)).lookup
        teleporterId = record.lookup teleporterId := by
  simp [report, KeyedMap.lookup_insert, KeyedMap.lookup_erase]

theorem report_lookup_online {store : Store} {now : ℤ}
    {stored : Option Record} :
    (report config store now jams waiting id stored).lookup
        teleporterOnline =
      some (.bool (isTeleporterOnline config store now id)) := by
  simp [report, KeyedMap.lookup_insert]

theorem isTeleporterOnline_congr {store : Store} {now : ℤ} {other : Value}
    (hsame : id ≈ other) :
    isTeleporterOnline config store now id =
      isTeleporterOnline config store now other := by
  rw [isTeleporterOnline, isTeleporterOnline, rd, rd,
    KeyedMap.lookup_congr hsame]

/-- Every registered teleporter has one report, its own. -/
theorem reportedOnline_iff (hrecorded : Recorded config server)
    (hid : id ∈ server.registry) :
    ReportedOnline (connect config server.store server.now jams waiting
        server.registry) id ↔
      isTeleporterOnline config server.store server.now id := by
  constructor
  · rintro ⟨_, hmem, ⟨own, hlookup, hown⟩, honline⟩
    obtain ⟨⟨other, stored⟩, hentry, rfl⟩ := List.mem_map.mp hmem
    have hfound : server.registry.lookup other = some stored :=
      KeyedMap.lookup_eq_some_iff.mpr ⟨_, hentry, Setoid.refl other, rfl⟩
    obtain ⟨record, rfl, hother⟩ := hrecorded.records other stored hfound
    obtain ⟨own', hlookup', hown'⟩ := hother.ownId
    rw [report_lookup_id, hlookup', Option.some.injEq] at hlookup
    subst hlookup
    rw [report_lookup_online] at honline
    rw [isTeleporterOnline_congr (Setoid.trans (Setoid.symm hown) hown')]
    simpa using honline
  · intro honline
    obtain ⟨stored, hstored⟩ := Option.isSome_iff_exists.mp
      (KeyedMap.lookup_isSome.mpr hid)
    obtain ⟨⟨other, _⟩, hentry, hsame, rfl⟩ :=
      KeyedMap.lookup_eq_some_iff.mp hstored
    obtain ⟨record, hrecord, hidentified⟩ := hrecorded.records id _ hstored
    refine ⟨_, List.mem_map_of_mem hentry, ?_, ?_⟩
    · dsimp only at hrecord ⊢
      rw [hrecord, KeyedMap.Holds, report_lookup_id]
      exact hidentified.ownId
    · rw [report_lookup_online, isTeleporterOnline_congr hsame, honline]

/-- The status follows the heartbeats alone. -/
theorem isTeleporterOnline_iff (hkept : LogKept server) :
    isTeleporterOnline config server.store server.now id ↔
      Recent config.timeout server.now
        (lastOf .heartbeat server.signs id) := by
  rw [isTeleporterOnline, hkept.store]
  cases lastOf .heartbeat server.signs id with
  | none => simp [Recent]
  | some time => simp [Recent]

/-- For a registered teleporter the app is told the truth about the last sign
of life exactly when a heartbeat is recent or the registration is not. -/
theorem online_follows_iff {events : List Event} {start : ℤ}
    (hevents : ∀ body, Event.update body ∉ events)
    (hrun : runEvents config events (emptyServer start) = .ok server)
    (hid : Registered server.signs id) :
    (ReportedOnline (connect config server.store server.now jams waiting
        server.registry) id ↔
      Recent config.timeout server.now (lastSign server.signs id)) ↔
    (Recent config.timeout server.now (lastOf .heartbeat server.signs id) ∨
      ¬ Recent config.timeout server.now (lastOf .init server.signs id)) := by
  have hkept := logKept_run hrun
  have hrecorded := recorded_run hevents hrun
  have hlast : Recent config.timeout server.now (lastSign server.signs id) ↔
      Recent config.timeout server.now (lastOf .init server.signs id) ∨
        Recent config.timeout server.now
          (lastOf .heartbeat server.signs id) := by
    rw [recent_lastSign_iff hkept.falling]
    constructor
    · rintro ⟨kind, hrecent⟩
      cases kind with
      | init => exact Or.inl hrecent
      | heartbeat => exact Or.inr hrecent
    · rintro (hrecent | hrecent)
      · exact ⟨_, hrecent⟩
      · exact ⟨_, hrecent⟩
  rw [reportedOnline_iff hrecorded (hrecorded.registered id hid),
    isTeleporterOnline_iff hkept, hlast]
  tauto

/-- A teleporter that sends heartbeats is reported. -/
theorem heartbeat_reported :
    ∃ server, runEvents sampleConfig
      [.init zedboardBody (.ok ()), .heartbeat zedboard]
        (emptyServer 0) = .ok server ∧
      (ReportedOnline (connect sampleConfig server.store server.now [] none
          server.registry) zedboard ↔
        Recent sampleConfig.timeout server.now
          (lastSign server.signs zedboard)) := by
  have hevents : ∀ body, Event.update body ∉
      [Event.init zedboardBody (.ok ()), .heartbeat zedboard] := by simp
  obtain ⟨server, hrun, hid, hrecent⟩ : ∃ server,
      runEvents sampleConfig
      [.init zedboardBody (.ok ()), .heartbeat zedboard]
        (emptyServer 0) = .ok server ∧
      Registered server.signs zedboard ∧
      Recent sampleConfig.timeout server.now
        (lastOf .heartbeat server.signs zedboard) :=
    ⟨_, rfl, ⟨_, List.mem_cons_of_mem _ List.mem_cons_self, rfl,
      Setoid.refl zedboard⟩, 0, rfl, by decide⟩
  exact ⟨server, hrun,
    (online_follows_iff hevents hrun hid).mpr (Or.inl hrecent)⟩

/-- A teleporter that has just registered is reported as offline. -/
theorem registration_not_reported :
    ¬ ∀ (config : Config) (events : List Event) (start : ℤ) (server : Server)
      (id : Value) (jams : List Jam) (waiting : Option Record),
      (∀ body, Event.update body ∉ events) →
      runEvents config events (emptyServer start) = .ok server →
      Registered server.signs id →
      (ReportedOnline (connect config server.store server.now jams waiting
          server.registry) id ↔
        Recent config.timeout server.now (lastSign server.signs id)) := by
  intro hall
  have hevents : ∀ body, Event.update body ∉ [Event.init zedboardBody (.ok ())] := by
    simp
  obtain ⟨server, hrun, hid, hrecent, hsilent⟩ : ∃ server,
      runEvents sampleConfig [.init zedboardBody (.ok ())] (emptyServer 0) =
        .ok server ∧
      Registered server.signs zedboard ∧
      Recent sampleConfig.timeout server.now
        (lastSign server.signs zedboard) ∧
      isTeleporterOnline sampleConfig server.store server.now zedboard =
        false :=
    ⟨_, rfl, ⟨_, List.mem_cons_self, rfl, Setoid.refl zedboard⟩,
      ⟨0, rfl, by decide⟩, rfl⟩
  have hrecorded := recorded_run hevents hrun
  have honline := (hall _ _ _ server zedboard [] none hevents hrun hid).mpr
    hrecent
  rw [reportedOnline_iff hrecorded (hrecorded.registered _ hid), hsilent]
    at honline
  exact absurd honline (by decide)

end Reports

end Songpark.Platform
