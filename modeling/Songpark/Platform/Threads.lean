import Songpark.Core.ReadModifyWrite
import Songpark.Platform.LostUpdate

/-!
# Requests on several threads

The server runs requests on several threads.  A registration writes its record
in one access to the database; an update reads the record and writes it back in
a second access.  Any number of such requests can cross.

The database is a system of cells that are read, changed and written back.  So a
stored record is never a mixture: it is what some of the requests that have
written leave one after the other.  And no write is lost as long as nobody
writes a record that another request is about to write back.
-/

namespace Songpark.Platform

open Songpark.ReadModifyWrite (Job Stage World fresh take effect serial)
open Songpark.StateProgram

/-- A request; a registration has its time and the outcome of its
subscription. -/
inductive Request
  | init (now : ℤ) (body : Value) (subscribe : Except Thrown Unit)
  | update (body : Value)

/-- The request writes in its only access. -/
def Request.registers (config : Config) : Request → Bool
  | .init now body _ =>
      match registration config now body with
      | .ok (some _) => true
      | _ => false
  | .update _ => false

/-- The registry, the requests of all clients, and the clients that have
written, the first one first; the last part only remembers. -/
structure Pool (Client : Type) where
  registry : Registry
  progress : Client → Progress
  writers : List Client

/-- All requests have arrived, none has made an access. -/
def arrived {Client : Type} (registry : Registry) : Pool Client :=
  ⟨registry, fun _ => .ready, []⟩

section Accesses

variable {Client : Type} [DecidableEq Client]

def Pool.become (pool : Pool Client) (client : Client) (progress : Progress) :
    Pool Client :=
  { pool with progress := Function.update pool.progress client progress }

def ended : Except Thrown Response → Progress
  | .ok response => .answered response
  | .error thrown => .failed thrown

/-- The client has written, and its request has this result. -/
def Pool.write (pool : Pool Client) (client : Client)
    (result : Except Thrown Response) (registry : Registry) : Pool Client where
  registry := registry
  progress := Function.update pool.progress client (ended result)
  writers := pool.writers ++ [client]

/-- The next access of a client, with what it computes before or after it. -/
def access (config : Config) (requests : Client → Request) (client : Client)
    (pool : Pool Client) : Except Finished (Pool Client) :=
  match pool.progress client with
  | .ready =>
      match requests client with
      | .init now body subscribe =>
          let (result, registry) :=
            init config now body subscribe pool.registry
          .ok {
            registry := registry
            progress := Function.update pool.progress client (ended result)
            writers :=
              if (requests client).registers config then
                pool.writers ++ [client]
              else pool.writers }
      | .update body =>
          match beginUpdate body pool.registry with
          | .ok (some update) => .ok (pool.become client (.pending update))
          | .ok none =>
              .ok (pool.become client
                (.answered (errorResponse "Unable to update the Teleporter")))
          | .error thrown => .ok (pool.become client (.failed thrown))
  | .pending update =>
      match finishUpdate update pool.registry with
      | .ok (response, registry) =>
          .ok (pool.write client (.ok response) registry)
      | .error thrown => .ok (pool.become client (.failed thrown))
  | .answered _ => .error .finished
  | .failed _ => .error .finished

abbrev runPool (config : Config) (requests : Client → Request) :
    List Client → Pool Client → Except Finished (Pool Client) :=
  run (access config requests)

end Accesses

/-! ## Requests on their own -/

/-- The registry after a request that nothing comes between. -/
def served (config : Config) (request : Request) (registry : Registry) :
    Registry :=
  match request with
  | .init now body subscribe => (init config now body subscribe registry).2
  | .update body =>
      match update body registry with
      | .ok (_, reached) => reached
      | .error _ => registry

/-- The registry after the requests of the clients, one after the other. -/
def serveAll {Client : Type} (config : Config) (requests : Client → Request)
    (clients : List Client) (registry : Registry) : Registry :=
  clients.foldl (fun registry client =>
    served config (requests client) registry) registry

/-- The place of a record: equal ids have one. -/
abbrev Cell := Quotient Value.setoid

def cellOf (id : Value) : Cell := ⟦id⟧

theorem cellOf_eq_iff {id other : Value} : cellOf id = cellOf other ↔ id ≈ other :=
  Quotient.eq

/-- The records of a registry. -/
def cellsOf (registry : Registry) : Cell → Option Record :=
  Quotient.lift (readDb registry) fun _ _ => readDb_congr registry

/-- A request as a job on the record that it writes. -/
def jobOf (config : Config) : Request → Option (Job Cell (Option Record))
  | .init now body _ =>
      match registration config now body with
      | .ok (some (id, stored)) =>
          some ⟨cellOf id, fun _ => some (some stored), true⟩
      | _ => none
  | .update body =>
      match body.destructured with
      | .ok teleporter =>
          if (teleporter.get teleporterId).truthy then
            some ⟨cellOf (teleporter.get teleporterId), fun seen =>
              (Value.merge seen (teleporter.get teleporterSettings)).toOption,
              false⟩
          else none
      | .error _ => none

section Alone

variable {config : Config} {body : Value} {registry : Registry}

theorem beginUpdate_eq :
    beginUpdate body registry =
      match body.destructured with
      | .ok teleporter =>
          if (teleporter.get teleporterId).truthy then
            .ok (some ⟨teleporter.get teleporterId,
              readDb registry (teleporter.get teleporterId),
              teleporter.get teleporterSettings⟩)
          else .ok none
      | .error thrown => .error thrown := by
  unfold beginUpdate
  cases body.destructured with
  | error thrown => rfl
  | ok teleporter =>
      simp only [bind, Except.bind]
      split <;> rfl

theorem finishUpdate_eq (pending : PendingUpdate) :
    finishUpdate pending registry =
      match Value.merge pending.teleporter pending.settings with
      | .ok merged =>
          .ok (idResponse pending.id, writeDb registry pending.id merged)
      | .error thrown => .error thrown := by
  unfold finishUpdate
  cases Value.merge pending.teleporter pending.settings <;> rfl

/-- The records of a registry after a write. -/
theorem cellsOf_writeDb (id : Value) (teleporter : Option Record) :
    cellsOf (writeDb registry id teleporter) =
      Function.update (cellsOf registry) (cellOf id) teleporter := by
  funext cell
  induction cell using Quotient.inductionOn with
  | h other =>
      have hcell : ∀ registry, cellsOf registry (cellOf other) =
          readDb registry other := fun _ => rfl
      change cellsOf (writeDb registry id teleporter) (cellOf other) =
        Function.update (cellsOf registry) (cellOf id) teleporter (cellOf other)
      rw [hcell, readDb_writeDb, Function.update_apply]
      by_cases hsame : id ≈ other
      · rw [if_pos hsame, if_pos (cellOf_eq_iff.mpr (Setoid.symm hsame))]
      · rw [if_neg hsame,
          if_neg fun heq => hsame (Setoid.symm (cellOf_eq_iff.mp heq))]
        rfl

theorem update_eq :
    update body registry =
      match body.destructured with
      | .error thrown => .error thrown
      | .ok teleporter =>
          if (teleporter.get teleporterId).truthy then
            (Value.merge (readDb registry (teleporter.get teleporterId))
              (teleporter.get teleporterSettings)).map fun merged =>
                (idResponse (teleporter.get teleporterId),
                  writeDb registry (teleporter.get teleporterId) merged)
          else .ok (errorResponse "Unable to update the Teleporter", registry) := by
  unfold update beginUpdate
  cases body.destructured with
  | error thrown => rfl
  | ok teleporter =>
      simp only [bind, Except.bind]
      by_cases htruthy : (teleporter.get teleporterId).truthy
      · simp only [htruthy, if_true, pure, Except.pure, finishUpdate_eq]
        cases Value.merge (readDb registry (teleporter.get teleporterId))
          (teleporter.get teleporterSettings) <;> rfl
      · simp only [htruthy]
        rfl

theorem readDb_served_update (id : Value) :
    readDb (served config (.update body) registry) id =
      effect (jobOf config (.update body)) (cellOf id)
        (readDb registry id) := by
  simp only [served, update_eq, jobOf]
  cases body.destructured with
  | error thrown => rfl
  | ok teleporter =>
      dsimp only
      by_cases htruthy : (teleporter.get teleporterId).truthy
      · rw [if_pos htruthy, if_pos htruthy, ReadModifyWrite.effect_some]
        dsimp only
        simp only [cellOf_eq_iff]
        by_cases hid : teleporter.get teleporterId ≈ id
        · rw [if_pos hid, ← readDb_congr registry hid]
          cases Value.merge (readDb registry (teleporter.get teleporterId))
              (teleporter.get teleporterSettings) with
          | error thrown => exact readDb_congr registry (Setoid.symm hid)
          | ok merged => exact readDb_writeDb.trans (if_pos hid)
        · rw [if_neg hid]
          cases Value.merge (readDb registry (teleporter.get teleporterId))
              (teleporter.get teleporterSettings) with
          | error thrown => rfl
          | ok merged => exact readDb_writeDb.trans (if_neg hid)
      · rw [if_neg htruthy, if_neg htruthy]
        rfl

/-- A request on its own does to every record what its job does. -/
theorem readDb_served (request : Request) (id : Value) :
    readDb (served config request registry) id =
      effect (jobOf config request) (cellOf id) (readDb registry id) := by
  cases request with
  | update body => exact readDb_served_update id
  | init now body subscribe =>
      simp only [served, init, jobOf]
      cases registration config now body with
      | error thrown => rfl
      | ok result =>
          cases result with
          | none => rfl
          | some written =>
              dsimp only [effect]
              simp only [readDb_writeDb, cellOf_eq_iff, Option.getD_some]

end Alone

/-! ## The pool as a system of cells -/

def stageOf : Progress → Stage Cell (Option Record)
  | .ready => .ready
  | .pending update =>
      .holding ⟨cellOf update.id, fun seen =>
        (Value.merge seen update.settings).toOption, false⟩ update.teleporter
  | .answered _ => .finished
  | .failed _ => .finished

def Pool.view {Client : Type} (pool : Pool Client) :
    World Client Cell (Option Record) where
  cells := cellsOf pool.registry
  stage client := stageOf (pool.progress client)
  writers := pool.writers

section Simulation

variable {Client : Type} [DecidableEq Client] {config : Config}
variable {requests : Client → Request} {pool reached : Pool Client}
variable {client : Client}

theorem view_become (pool : Pool Client) (client : Client)
    (progress : Progress) :
    (pool.become client progress).view =
      pool.view.move client (stageOf progress) := by
  simp only [Pool.view, Pool.become, World.move]
  congr 1
  exact Function.comp_update stageOf pool.progress client progress

theorem stageOf_ended (result : Except Thrown Response) :
    stageOf (ended result) = .finished := by
  cases result <;> rfl

theorem view_write {job : Job Cell (Option Record)} {id : Value}
    {seen stored : Option Record} {result : Except Thrown Response}
    (hid : cellOf id = job.key) (hchange : job.change seen = some stored) :
    (pool.write client result (writeDb pool.registry id stored)).view =
      pool.view.store client job seen := by
  rw [ReadModifyWrite.store_of_change hchange, ← stageOf_ended result, ← hid]
  simp only [Pool.view, Pool.write]
  congr 1
  · exact cellsOf_writeDb id stored
  · exact Function.comp_update stageOf pool.progress client _

/-- A registration writes, or it only ends. -/
theorem access_init {now : ℤ} {body : Value} {subscribe : Except Thrown Unit}
    (hready : pool.progress client = .ready)
    (hrequest : requests client = .init now body subscribe) :
    access config requests client pool =
      match registration config now body with
      | .ok (some (id, stored)) =>
          .ok (pool.write client (subscribe.map fun _ => idResponse id)
            (writeDb pool.registry id (some stored)))
      | .ok none => .ok (pool.become client
          (.answered (errorResponse "Illegal MAC address")))
      | .error thrown => .ok (pool.become client (.failed thrown)) := by
  simp only [access, hready, hrequest, Request.registers, init]
  cases registration config now body with
  | error thrown => rfl
  | ok result => cases result <;> rfl

theorem view_fail {job : Job Cell (Option Record)} {seen : Option Record}
    (hchange : job.change seen = none) (thrown : Thrown) :
    (pool.become client (.failed thrown)).view =
      pool.view.store client job seen := by
  rw [ReadModifyWrite.store_of_failed hchange]
  exact view_become pool client (.failed thrown)

theorem take_access (haccess : access config requests client pool = .ok reached) :
    take (fun client => jobOf config (requests client)) client pool.view =
      .ok reached.view := by
  unfold take
  cases hprogress : pool.progress client with
  | ready =>
      have hstage : pool.view.stage client = .ready := by
        simp only [Pool.view, hprogress, stageOf]
      simp only [hstage]
      cases hrequest : requests client with
      | init now body subscribe =>
          rw [access_init hprogress hrequest] at haccess
          simp only [jobOf]
          cases hresult : registration config now body with
          | error thrown =>
              simp only [hresult] at haccess
              cases haccess
              exact congrArg Except.ok
                (view_become pool client (.failed thrown)).symm
          | ok result =>
              cases result with
              | none =>
                  simp only [hresult] at haccess
                  cases haccess
                  exact congrArg Except.ok
                    (view_become pool client (.answered _)).symm
              | some written =>
                  simp only [hresult] at haccess
                  cases haccess
                  exact congrArg Except.ok (view_write rfl rfl).symm
      | update body =>
          unfold access at haccess
          simp only [hprogress, hrequest, beginUpdate_eq] at haccess
          simp only [jobOf]
          cases hbody : body.destructured with
          | error thrown =>
              simp only [hbody] at haccess
              cases haccess
              exact congrArg Except.ok
                (view_become pool client (.failed thrown)).symm
          | ok teleporter =>
              simp only [hbody] at haccess
              by_cases htruthy : (teleporter.get teleporterId).truthy
              · simp only [htruthy, if_true] at haccess ⊢
                cases haccess
                exact congrArg Except.ok (view_become pool client
                  (.pending ⟨teleporter.get teleporterId,
                    readDb pool.registry (teleporter.get teleporterId),
                    teleporter.get teleporterSettings⟩)).symm
              · simp only [htruthy] at haccess ⊢
                cases haccess
                exact congrArg Except.ok
                  (view_become pool client (.answered _)).symm
  | pending update =>
      have hstage : pool.view.stage client = stageOf (.pending update) := by
        simp only [Pool.view, hprogress]
      unfold access at haccess
      simp only [hprogress, finishUpdate_eq] at haccess
      simp only [hstage, stageOf]
      cases hmerged : Value.merge update.teleporter update.settings with
      | error thrown =>
          simp only [hmerged] at haccess
          cases haccess
          refine congrArg Except.ok (view_fail ?_ thrown).symm
          simp only [hmerged, Except.toOption]
      | ok merged =>
          simp only [hmerged] at haccess
          cases haccess
          refine congrArg Except.ok (view_write rfl ?_).symm
          simp only [hmerged, Except.toOption]
  | answered response =>
      rw [access, hprogress] at haccess
      cases haccess
  | failed thrown =>
      rw [access, hprogress] at haccess
      cases haccess

theorem take_runPool {turns : List Client} {registry : Registry}
    (hrun : runPool config requests turns (arrived registry) = .ok pool) :
    run (take fun client => jobOf config (requests client)) turns
      (fresh (cellsOf registry)) = .ok pool.view :=
  run_view Pool.view (fun _ _ _ haccess => take_access haccess) hrun

omit [DecidableEq Client] in
/-- Requests one after the other do to a record what their jobs do one after
the other. -/
theorem readDb_serveAll (clients : List Client) (registry : Registry)
    (id : Value) :
    readDb (serveAll config requests clients registry) id =
      serial (fun client => jobOf config (requests client)) (cellOf id) clients
        (readDb registry id) := by
  rw [serveAll, serial]
  induction clients generalizing registry with
  | nil => rfl
  | cons client clients ih =>
      rw [List.foldl_cons, List.foldl_cons, ih, readDb_served]

end Simulation

/-! ## Stored records -/

/-- The request is accepted: answered with the id of a teleporter. -/
def Progress.accepted (progress : Progress) : Prop :=
  ∃ id, progress = .answered (idResponse id)

/-- The request has written its record: it is accepted, or it is a registration
that failed at its subscription. -/
def Request.Wrote (config : Config) (request : Request) (progress : Progress) :
    Prop :=
  progress.accepted ∨
    (request.registers config ∧ ∃ thrown, progress = .failed thrown)

/-- The remembered clients are those that have written, each of them once;
registrations have no second access. -/
structure Remembers {Client : Type} (config : Config)
    (requests : Client → Request) (pool : Pool Client) : Prop where
  mem_iff : ∀ client, client ∈ pool.writers ↔
    (requests client).Wrote config (pool.progress client)
  pending : ∀ client update, pool.progress client = .pending update →
    (requests client).registers config = false
  nodup : pool.writers.Nodup

section Stored

variable {Client : Type} [DecidableEq Client] {config : Config}
variable {requests : Client → Request} {pool reached : Pool Client}
variable {client : Client} {registry : Registry} {turns : List Client}

theorem remembers_become (hremembers : Remembers config requests pool)
    {progress : Progress}
    (hbefore : ¬ (requests client).Wrote config (pool.progress client))
    (hprogress : ¬ (requests client).Wrote config progress)
    (hpending : ∀ update, progress = .pending update →
      (requests client).registers config = false) :
    Remembers config requests (pool.become client progress) where
  mem_iff other := by
    have hsame : (pool.become client progress).writers = pool.writers := rfl
    have hnext : (pool.become client progress).progress =
        Function.update pool.progress client progress := rfl
    rw [hsame, hnext, hremembers.mem_iff]
    by_cases hother : other = client
    · subst hother
      rw [Function.update_self]
      exact iff_of_false hbefore hprogress
    · rw [Function.update_of_ne hother]
  pending other update hother := by
    have hnext : (pool.become client progress).progress =
        Function.update pool.progress client progress := rfl
    rw [hnext] at hother
    by_cases hsame : other = client
    · subst hsame
      rw [Function.update_self] at hother
      exact hpending update hother
    · rw [Function.update_of_ne hsame] at hother
      exact hremembers.pending other update hother
  nodup := hremembers.nodup

theorem remembers_write (hremembers : Remembers config requests pool)
    {result : Except Thrown Response}
    (hbefore : ¬ (requests client).Wrote config (pool.progress client))
    (hresult : (requests client).Wrote config (ended result))
    (written : Registry) :
    Remembers config requests (pool.write client result written) where
  mem_iff other := by
    have hwriters : (pool.write client result written).writers =
        pool.writers ++ [client] := rfl
    have hnext : (pool.write client result written).progress =
        Function.update pool.progress client (ended result) := rfl
    rw [hwriters, hnext, List.mem_append, List.mem_singleton,
      hremembers.mem_iff]
    by_cases hother : other = client
    · subst hother
      rw [Function.update_self]
      exact iff_of_true (Or.inr rfl) hresult
    · rw [Function.update_of_ne hother]
      exact or_iff_left hother
  pending other update hother := by
    have hnext : (pool.write client result written).progress =
        Function.update pool.progress client (ended result) := rfl
    rw [hnext] at hother
    by_cases hsame : other = client
    · subst hsame
      rw [Function.update_self] at hother
      cases result <;> cases hother
    · rw [Function.update_of_ne hsame] at hother
      exact hremembers.pending other update hother
  nodup := by
    have hnew : client ∉ pool.writers := fun hmem =>
      hbefore ((hremembers.mem_iff client).mp hmem)
    exact List.nodup_append.mpr ⟨hremembers.nodup, List.nodup_singleton client,
      fun first hfirst second hsecond => by
        rw [List.mem_singleton.mp hsecond]
        rintro rfl
        exact hnew hfirst⟩

section Wrote

variable {request : Request}

theorem wrote_answered_iff (response : Response) :
    request.Wrote config (.answered response) ↔
      ∃ id, response = idResponse id := by
  constructor
  · rintro (⟨id, hid⟩ | ⟨_, thrown, hthrown⟩)
    · exact ⟨id, Progress.answered.inj hid⟩
    · cases hthrown
  · rintro ⟨id, rfl⟩
    exact Or.inl ⟨id, rfl⟩

theorem wrote_failed_iff (thrown : Thrown) :
    request.Wrote config (.failed thrown) ↔ request.registers config := by
  constructor
  · rintro (⟨id, hid⟩ | ⟨hregisters, _⟩)
    · cases hid
    · exact hregisters
  · exact fun hregisters => Or.inr ⟨hregisters, thrown, rfl⟩

theorem not_wrote_refused (message : String) :
    ¬ request.Wrote config (.answered (errorResponse message)) := by
  rw [wrote_answered_iff]
  rintro ⟨id, hid⟩
  have hstatus : (400 : ℕ) = 200 := congrArg Response.status hid
  exact absurd hstatus (by decide)

theorem not_wrote_ready : ¬ request.Wrote config .ready := by
  rintro (⟨id, hid⟩ | ⟨_, thrown, hthrown⟩)
  · cases hid
  · cases hthrown

theorem not_wrote_pending (update : PendingUpdate) :
    ¬ request.Wrote config (.pending update) := by
  rintro (⟨id, hid⟩ | ⟨_, thrown, hthrown⟩)
  · cases hid
  · cases hthrown

end Wrote

/-- An access is made for a request that has not written yet.  It writes, or it
only moves the request on. -/
theorem access_cases (hremembers : Remembers config requests pool)
    (haccess : access config requests client pool = .ok reached) :
    ¬ (requests client).Wrote config (pool.progress client) ∧
      ((∃ progress, ¬ (requests client).Wrote config progress ∧
          (∀ update, progress = .pending update →
            (requests client).registers config = false) ∧
          reached = pool.become client progress) ∨
        ∃ result written, (requests client).Wrote config (ended result) ∧
          reached = pool.write client result written) := by
  cases hprogress : pool.progress client with
  | ready =>
      refine ⟨not_wrote_ready, ?_⟩
      cases hrequest : requests client with
      | init now body subscribe =>
          rw [access_init hprogress hrequest] at haccess
          cases hresult : registration config now body with
          | error thrown =>
              simp only [hresult] at haccess
              cases haccess
              refine Or.inl ⟨.failed thrown, ?_, nofun, rfl⟩
              simp [wrote_failed_iff, Request.registers, hresult]
          | ok result =>
              cases result with
              | none =>
                  simp only [hresult] at haccess
                  cases haccess
                  exact Or.inl ⟨.answered _, not_wrote_refused _, nofun, rfl⟩
              | some written =>
                  simp only [hresult] at haccess
                  cases haccess
                  refine Or.inr ⟨_, _, ?_, rfl⟩
                  cases subscribe with
                  | ok done => exact Or.inl ⟨written.1, rfl⟩
                  | error thrown =>
                      refine (wrote_failed_iff thrown).mpr ?_
                      simp [Request.registers, hresult]
      | update body =>
          simp only [access, hprogress, hrequest] at haccess
          split at haccess
          · cases haccess
            exact Or.inl ⟨_, not_wrote_pending _, fun _ _ => rfl, rfl⟩
          · cases haccess
            exact Or.inl ⟨.answered _, not_wrote_refused _, nofun, rfl⟩
          · cases haccess
            refine Or.inl ⟨.failed _, ?_, nofun, rfl⟩
            simp [wrote_failed_iff, Request.registers]
  | pending update =>
      refine ⟨not_wrote_pending update, ?_⟩
      have hupdates := hremembers.pending client update hprogress
      simp only [access, hprogress, finishUpdate_eq] at haccess
      cases hmerged : Value.merge update.teleporter update.settings with
      | error thrown =>
          simp only [hmerged] at haccess
          cases haccess
          refine Or.inl ⟨.failed thrown, ?_, nofun, rfl⟩
          simp [wrote_failed_iff, hupdates]
      | ok merged =>
          simp only [hmerged] at haccess
          cases haccess
          exact Or.inr ⟨_, _, Or.inl ⟨update.id, rfl⟩, rfl⟩
  | answered response =>
      rw [access, hprogress] at haccess
      cases haccess
  | failed thrown =>
      rw [access, hprogress] at haccess
      cases haccess

theorem remembers_access (hremembers : Remembers config requests pool)
    (haccess : access config requests client pool = .ok reached) :
    Remembers config requests reached := by
  obtain ⟨hbefore, ⟨progress, hprogress, hpending, rfl⟩ |
    ⟨result, written, hresult, rfl⟩⟩ := access_cases hremembers haccess
  · exact remembers_become hremembers hbefore hprogress hpending
  · exact remembers_write hremembers hbefore hresult written

theorem runPool_remembers
    (hrun : runPool config requests turns (arrived registry) = .ok pool) :
    Remembers config requests pool := by
  refine run_invariant (Remembers config requests)
    (fun _ _ _ _ hremembers haccess => remembers_access hremembers haccess)
    hrun ⟨fun client => ?_, nofun, List.nodup_nil⟩
  exact iff_of_false List.not_mem_nil not_wrote_ready

/-- Whatever the order of the accesses, a stored record is what some of the
requests that have written leave, each of them served on its own, in the order
of their writes. -/
theorem stored_fromSerial
    (hrun : runPool config requests turns (arrived registry) = .ok pool)
    (id : Value) :
    ∃ chain : List Client, chain.Nodup ∧
      (∀ client ∈ chain,
        (requests client).Wrote config (pool.progress client)) ∧
      chain.Sublist pool.writers ∧
      readDb pool.registry id =
        readDb (serveAll config requests chain registry) id := by
  have hremembers := runPool_remembers hrun
  obtain ⟨chain, hchain, hcell⟩ :=
    (ReadModifyWrite.run_fromSerial (take_runPool hrun)).cell (cellOf id)
  refine ⟨chain, hremembers.nodup.sublist hchain, ?_, hchain, ?_⟩
  · intro client hclient
    exact (hremembers.mem_iff client).mp (hchain.subset hclient)
  · rw [readDb_serveAll]
    exact hcell

/-! ## Requests that do not cross -/

/-- The id of the record that the next access of the client writes, if it
writes one. -/
def writesNext (config : Config) (requests : Client → Request)
    (client : Client) (pool : Pool Client) : Option Value :=
  match pool.progress client, requests client with
  | .ready, .init now body _ =>
      match registration config now body with
      | .ok (some (id, _)) => some id
      | _ => none
  | .pending update, _ => some update.id
  | _, _ => none

/-- The access writes no record that another request has read and is about to
write back. -/
def Uncrossed (config : Config) (requests : Client → Request)
    (client : Client) (pool : Pool Client) : Prop :=
  ∀ id, writesNext config requests client pool = some id →
    ∀ other update, other ≠ client →
      pool.progress other = .pending update → ¬ update.id ≈ id

omit [DecidableEq Client] in
theorem holding_view {other : Client} {job : Job Cell (Option Record)}
    {seen : Option Record} (hstage : pool.view.stage other = .holding job seen) :
    ∃ update, pool.progress other = .pending update ∧
      cellOf update.id = job.key := by
  have hother : stageOf (pool.progress other) = .holding job seen := hstage
  cases hprogress : pool.progress other with
  | pending update =>
      rw [hprogress, stageOf] at hother
      cases hother
      exact ⟨update, rfl, rfl⟩
  | ready | answered | failed =>
      rw [hprogress] at hother
      cases hother

omit [DecidableEq Client] in
theorem ready_view (hstage : pool.view.stage client = .ready) :
    pool.progress client = .ready := by
  have hclient : stageOf (pool.progress client) = .ready := hstage
  cases hprogress : pool.progress client with
  | ready => rfl
  | pending | answered | failed =>
      rw [hprogress] at hclient
      cases hclient

omit [DecidableEq Client] in
/-- Of the requests that have made no access only a registration writes at
once. -/
theorem writesNext_ready {job : Job Cell (Option Record)}
    (hready : pool.progress client = .ready)
    (hjob : jobOf config (requests client) = some job) (hatomic : job.atomic) :
    ∃ id, writesNext config requests client pool = some id ∧
      cellOf id = job.key := by
  unfold writesNext
  rw [hready]
  cases hrequest : requests client with
  | init now body subscribe =>
      rw [hrequest] at hjob
      simp only [jobOf] at hjob
      dsimp only
      split at hjob
      case h_1 id stored hresult =>
        cases hjob
        exact ⟨id, rfl, rfl⟩
      case h_2 => cases hjob
  | update body =>
      rw [hrequest] at hjob
      simp only [jobOf] at hjob
      split at hjob
      case h_1 teleporter hbody =>
        split at hjob
        · cases hjob
          cases hatomic
        · cases hjob
      case h_2 => cases hjob

omit [DecidableEq Client] in
theorem undisturbing_view (huncrossed : Uncrossed config requests client pool) :
    ReadModifyWrite.Undisturbing
      (fun client => jobOf config (requests client)) client pool.view := by
  intro job hstoring other held seen hother hheld
  obtain ⟨update, hpending, hkey⟩ := holding_view hheld
  obtain ⟨id, hwrites, hid⟩ : ∃ id,
      writesNext config requests client pool = some id ∧
        cellOf id = job.key := by
    rcases hstoring with ⟨hready, hjob, hatomic⟩ | ⟨value, hown⟩
    · exact writesNext_ready (ready_view hready) hjob hatomic
    · obtain ⟨own, hpending', hkey'⟩ := holding_view hown
      exact ⟨own.id, by rw [writesNext, hpending'], hkey'⟩
  rw [← hkey, ← hid, ne_eq, cellOf_eq_iff]
  exact huncrossed id hwrites other update hother hpending

/-- As long as no write crosses an update between its read and its write, the
stored records are those that all requests that have written leave, each of them
served on its own, in the order of their writes. -/
theorem stored_inOrder
    (huncrossed : EveryStep (access config requests) turns (arrived registry)
      fun _ client pool => Uncrossed config requests client pool)
    (hrun : runPool config requests turns (arrived registry) = .ok pool) :
    (∀ client, client ∈ pool.writers ↔
        (requests client).Wrote config (pool.progress client)) ∧
      ∀ id, readDb pool.registry id =
        readDb (serveAll config requests pool.writers registry) id := by
  have hquiet : EveryStep
      (take fun client => jobOf config (requests client)) turns
      (fresh (cellsOf registry)) fun _ client world =>
        ReadModifyWrite.Undisturbing
          (fun client => jobOf config (requests client)) client world :=
    everyStep_view Pool.view (fun _ _ _ haccess => take_access haccess)
      (fun _ _ _ hallowed => undisturbing_view hallowed) hrun huncrossed
  have horder := ReadModifyWrite.run_inOrder hquiet (take_runPool hrun)
  refine ⟨(runPool_remembers hrun).mem_iff, fun id => ?_⟩
  rw [readDb_serveAll]
  exact horder.cell (cellOf id)

omit [DecidableEq Client] in
/-- A write goes to the record of the request. -/
theorem jobOf_writesNext {id : Value}
    (hknown : ∀ other job seen, pool.view.stage other = .holding job seen →
      jobOf config (requests other) = some job)
    (hwrites : writesNext config requests client pool = some id) :
    ∃ job, jobOf config (requests client) = some job ∧
      job.key = cellOf id := by
  unfold writesNext at hwrites
  split at hwrites
  case h_1 now body subscribe hready hrequest =>
    split at hwrites
    case h_1 written stored hresult =>
      cases hwrites
      exact ⟨_, by rw [hrequest, jobOf, hresult], rfl⟩
    case h_2 => cases hwrites
  case h_2 update hpending =>
    cases hwrites
    have hstage : pool.view.stage client = stageOf (.pending update) :=
      congrArg stageOf hpending
    exact ⟨_, hknown client _ update.teleporter hstage, rfl⟩
  case h_3 => cases hwrites

/-- Requests for different teleporters never cross. -/
theorem uncrossed_of_distinct
    (hdistinct : ∀ first second, first ≠ second → ∀ own other,
      jobOf config (requests first) = some own →
        jobOf config (requests second) = some other → own.key ≠ other.key) :
    EveryStep (access config requests) turns (arrived registry)
      fun _ client pool => Uncrossed config requests client pool := by
  intro before client _ pool _ hrun _ id hwrites other update hother hpending
  have hknown := (ReadModifyWrite.run_fromSerial (take_runPool hrun)).known
  obtain ⟨job, hjob, hkey⟩ := jobOf_writesNext hknown hwrites
  have hstage : pool.view.stage other = stageOf (.pending update) :=
    congrArg stageOf hpending
  have hne := hdistinct other client hother _ _
    (hknown other _ update.teleporter hstage) hjob
  rwa [hkey, ne_eq, cellOf_eq_iff] at hne

end Stored

/-! ## Two crossing updates, and one update during a registration -/

def zedboardRequests (party : Party) : Request :=
  .update (zedboardBodies party)

/-- Both updates read before one of them writes. -/
theorem stored_fromSerial_crossing :
    ∃ pool, runPool sampleConfig zedboardRequests
        [.first, .second, .first, .second] (arrived zedboardRegistry) =
          .ok pool ∧
      ∃ chain : List Party, chain.Nodup ∧
        (∀ client ∈ chain, (zedboardRequests client).Wrote sampleConfig
          (pool.progress client)) ∧
        chain.Sublist pool.writers ∧
        readDb pool.registry zedboard =
          readDb (serveAll sampleConfig zedboardRequests chain
            zedboardRegistry) zedboard := by
  obtain ⟨pool, hrun⟩ : ∃ pool, runPool sampleConfig zedboardRequests
      [.first, .second, .first, .second] (arrived zedboardRegistry) =
        .ok pool := exists_of_isOk _ rfl
  exact ⟨pool, hrun, stored_fromSerial hrun zedboard⟩

def otherTeleporter : Value :=
  .uuid "41077c69-4aba-53ee-b2e1-3bfca8629255"

/-- A registration that fails at its subscription, and an update of another
teleporter. -/
def mixedRequests : Party → Request
  | .first => .update (updateBody otherTeleporter
      (.cons (.keyword "teleporter/nickname") (.string "zedboard-02") .nil))
  | .second => .init 0 zedboardBody (.error .mqtt)

theorem mixedRequests_distinct (left right : Party) (hne : left ≠ right)
    (own other : Job Cell (Option Record))
    (hown : jobOf sampleConfig (mixedRequests left) = some own)
    (hother : jobOf sampleConfig (mixedRequests right) = some other) :
    own.key ≠ other.key := by
  have hkeys : ∀ party job,
      jobOf sampleConfig (mixedRequests party) = some job →
        job.key = cellOf (match party with
          | .first => otherTeleporter
          | .second => zedboard) := by
    intro party job hjob
    cases party <;> cases hjob <;> rfl
  rw [hkeys left own hown, hkeys right other hother]
  rw [ne_eq, cellOf_eq_iff]
  cases left <;> cases right <;>
    first | exact absurd rfl hne | decide

/-- The registration comes between the two accesses of the update. -/
theorem stored_inOrder_mixed :
    ∃ pool, runPool sampleConfig mixedRequests [.first, .second, .first]
        (arrived zedboardRegistry) = .ok pool ∧
      (∀ client, client ∈ pool.writers ↔
        (mixedRequests client).Wrote sampleConfig (pool.progress client)) ∧
      ∀ id, readDb pool.registry id =
        readDb (serveAll sampleConfig mixedRequests pool.writers
          zedboardRegistry) id := by
  obtain ⟨pool, hrun⟩ : ∃ pool, runPool sampleConfig mixedRequests
      [.first, .second, .first] (arrived zedboardRegistry) = .ok pool :=
    exists_of_isOk _ rfl
  exact ⟨pool, hrun,
    stored_inOrder (uncrossed_of_distinct mixedRequests_distinct) hrun⟩

end Songpark.Platform
