import Songpark.Platform.Server

/-!
# Two updates at once

An update reads a record, merges the settings of the request into it, and writes
the whole record back.  The server runs requests on several threads, so another
update can come between the read and the write.  The main result goes through
all orders of the accesses of two updates and says in which of them a setting
can be lost, and when it is.
-/

namespace Songpark.Platform

open Songpark.StateProgram

/-! ## The interleaved accesses -/

/-- The two requests. -/
inductive Party
  | first
  | second
  deriving DecidableEq

def Party.other : Party → Party
  | .first => .second
  | .second => .first

/-- How far a request is. -/
inductive Progress
  | ready
  | pending (update : PendingUpdate)
  | answered (response : Response)
  | failed (thrown : Thrown)

structure Race where
  registry : Registry
  progress : Party → Progress

/-- Both requests have arrived, neither has made an access. -/
def untouched (registry : Registry) : Race := ⟨registry, fun _ => .ready⟩

/-- A request that has been answered makes no more accesses. -/
inductive Finished
  | finished

/-- The next access of a party, with what it computes before or after it. -/
def takeTurn (bodies : Party → Value) (party : Party) (race : Race) :
    Except Finished Race :=
  match race.progress party with
  | .ready =>
      let progress := match beginUpdate (bodies party) race.registry with
        | .ok (some update) => .pending update
        | .ok none =>
            .answered (errorResponse "Unable to update the Teleporter")
        | .error thrown => .failed thrown
      .ok { race with
        progress := Function.update race.progress party progress }
  | .pending update =>
      match finishUpdate update race.registry with
      | .ok (response, registry) =>
          .ok ⟨registry,
            Function.update race.progress party (.answered response)⟩
      | .error thrown =>
          .ok { race with
            progress := Function.update race.progress party (.failed thrown) }
  | .answered _ => .error .finished
  | .failed _ => .error .finished

abbrev runTurns (bodies : Party → Value) : List Party → Race →
    Except Finished Race :=
  run (takeTurn bodies)

/-- Every party makes its two accesses, in any order. -/
def Interleaving (turns : List Party) : Prop :=
  ∀ party, turns.count party = 2

/-- The party that writes first although the other has already read. -/
def overwritten : List Party → Option Party
  | [a, b, c, _] => if a = b then none else some c
  | _ => none

theorem length_eq_count (turns : List Party) :
    turns.length = turns.count .first + turns.count .second := by
  induction turns with
  | nil => rfl
  | cons party turns ih =>
      cases party with
      | first => simp [ih, Nat.add_right_comm]
      | second => simp [ih, Nat.add_assoc]

/-- An interleaving is serial, or both parties read before one of them
writes. -/
theorem interleaving_cases {turns : List Party} (hturns : Interleaving turns) :
    ∃ a, turns = [a, a, a.other, a.other] ∨
      turns = [a, a.other, a, a.other] ∨ turns = [a, a.other, a.other, a] := by
  have hlength : turns.length = 4 := by
    rw [length_eq_count, hturns, hturns]
  match turns, hlength with
  | [a, b, c, d], _ =>
      refine ⟨a, ?_⟩
      have hfirst := hturns .first
      cases a <;> cases b <;> cases c <;> cases d <;>
        first | exact absurd hfirst (by decide) | decide

/-! ## Single accesses -/

/-- A request for the teleporter with a map of settings. -/
structure UpdateRequest (body id : Value) (settings : Record) : Prop where
  asks : ∃ teleporter entries, body.destructured = .ok teleporter ∧
    teleporter.get teleporterId = id ∧
    teleporter.get teleporterSettings = .map entries ∧
    entries.record = settings

section Accesses

variable {body id : Value} {settings record : Record} {registry : Registry}

/-- The update of a registered teleporter reads its record. -/
theorem beginUpdate_registered (hrequest : UpdateRequest body id settings)
    (htruthy : id.truthy) (hread : readDb registry id = some record) :
    ∃ entries, entries.record = settings ∧
      beginUpdate body registry = .ok (some ⟨id, some record, .map entries⟩) := by
  obtain ⟨teleporter, entries, hbody, hid, hsettings, hentries⟩ :=
    hrequest.asks
  refine ⟨entries, hentries, ?_⟩
  simp only [beginUpdate, hbody, bind, Except.bind, hid, htruthy, if_true,
    hread, hsettings]
  rfl

/-- It writes the record it read, with the settings merged into it. -/
theorem finishUpdate_map (entries : Entries) :
    finishUpdate ⟨id, some record, .map entries⟩ registry =
      .ok (idResponse id,
        writeDb registry id (some (record.merge entries.record))) := by
  rw [finishUpdate, merge_some]
  rfl

end Accesses

theorem Party.other_ne (party : Party) : party.other ≠ party := by
  cases party <;> decide

theorem Party.other_other (party : Party) : party.other.other = party := by
  cases party <;> rfl

theorem Party.eq_or_eq_other (party c : Party) : party = c ∨ party = c.other := by
  cases party <;> cases c <;> decide

section Turns

variable {bodies : Party → Value} {id : Value} {settings record : Record}
variable {race : Race} {party : Party}

/-- The party has read the record and is about to write. -/
def HasRead (race : Race) (party : Party) (id : Value)
    (record settings : Record) : Prop :=
  ∃ entries, entries.record = settings ∧
    race.progress party = .pending ⟨id, some record, .map entries⟩

theorem takeTurn_read (hrequest : UpdateRequest (bodies party) id settings)
    (htruthy : id.truthy) (hread : readDb race.registry id = some record)
    (hready : race.progress party = .ready) :
    ∃ reached, takeTurn bodies party race = .ok reached ∧
      reached.registry = race.registry ∧
      HasRead reached party id record settings ∧
      reached.progress party.other = race.progress party.other := by
  obtain ⟨entries, hentries, hbegin⟩ :=
    beginUpdate_registered hrequest htruthy hread
  have hturn : takeTurn bodies party race = .ok { race with
      progress := Function.update race.progress party
        (.pending ⟨id, some record, .map entries⟩) } := by
    simp only [takeTurn, hready, hbegin]
  refine ⟨_, hturn, rfl, ⟨entries, hentries, ?_⟩, ?_⟩
  · exact Function.update_self _ _ _
  · exact Function.update_of_ne party.other_ne _ _

variable (bodies) in
theorem takeTurn_write (hread : HasRead race party id record settings) :
    ∃ reached, takeTurn bodies party race = .ok reached ∧
      reached.registry =
        writeDb race.registry id (some (record.merge settings)) ∧
      reached.progress party = .answered (idResponse id) ∧
      reached.progress party.other = race.progress party.other := by
  obtain ⟨entries, rfl, hpending⟩ := hread
  have hturn : takeTurn bodies party race = .ok ⟨
      writeDb race.registry id (some (record.merge entries.record)),
      Function.update race.progress party (.answered (idResponse id))⟩ := by
    simp only [takeTurn, hpending, finishUpdate_map]
  refine ⟨_, hturn, rfl, ?_, ?_⟩
  · exact Function.update_self _ _ _
  · exact Function.update_of_ne party.other_ne _ _

end Turns

theorem readDb_congr (registry : Registry) {id other : Value}
    (hsame : id ≈ other) : readDb registry id = readDb registry other := by
  rw [readDb, readDb, KeyedMap.lookup_congr hsame]

/-- A written record is read back under every id that is equal to its own. -/
theorem readDb_writeDb {registry : Registry} {id other : Value}
    {teleporter : Option Record} :
    readDb (writeDb registry id teleporter) other =
      if id ≈ other then teleporter else readDb registry other := by
  rw [readDb, writeDb, KeyedMap.lookup_insert]
  split_ifs <;> rfl

@[simp]
theorem readDb_writeDb_self (registry : Registry) (id : Value)
    (teleporter : Option Record) :
    readDb (writeDb registry id teleporter) id = teleporter := by
  rw [readDb_writeDb, if_pos (Setoid.refl id)]

/-! ## Whole interleavings -/

section Races

variable {bodies : Party → Value} {ids : Party → Value} {id : Value}
variable {settings : Party → Record} {record : Record} {race : Race}

def AllAnswered (race : Race) (ids : Party → Value) : Prop :=
  ∀ party, race.progress party = .answered (idResponse (ids party))

/-- The next party reads the record. -/
theorem takeTurn_reads (party : Party)
    (hrequests : ∀ party,
      UpdateRequest (bodies party) (ids party) (settings party))
    (hids : ∀ party, ids party ≈ id) (htruthy : id.truthy)
    (hread : readDb race.registry id = some record)
    (hready : race.progress party = .ready) :
    ∃ reached, takeTurn bodies party race = .ok reached ∧
      reached.registry = race.registry ∧
      HasRead reached party (ids party) record (settings party) ∧
      reached.progress party.other = race.progress party.other := by
  refine takeTurn_read (hrequests party) ?_ ?_ hready
  · rw [truthy_congr (hids party), htruthy]
  · rw [readDb_congr _ (hids party), hread]

/-- One party after the other: the second reads what the first has written. -/
theorem run_serial (a : Party)
    (hrequests : ∀ party,
      UpdateRequest (bodies party) (ids party) (settings party))
    (hids : ∀ party, ids party ≈ id) (htruthy : id.truthy)
    (hread : readDb race.registry id = some record)
    (hready : ∀ party, race.progress party = .ready) :
    ∃ reached,
      runTurns bodies [a, a, a.other, a.other] race = .ok reached ∧
      AllAnswered reached ids ∧
      readDb reached.registry id =
        some ((record.merge (settings a)).merge (settings a.other)) := by
  obtain ⟨one, hone, _, hpending, hother⟩ :=
    takeTurn_reads a hrequests hids htruthy hread (hready a)
  obtain ⟨two, htwo, hwritten, hanswered, hother'⟩ :=
    takeTurn_write bodies hpending
  have hread' : readDb two.registry id =
      some (record.merge (settings a)) := by
    rw [hwritten, readDb_writeDb, if_pos (hids a)]
  have hready' : two.progress a.other = .ready := by
    rw [hother', hother, hready]
  obtain ⟨three, hthree, _, hpending', hkept⟩ :=
    takeTurn_reads a.other hrequests hids htruthy hread' hready'
  obtain ⟨four, hfour, hwritten', hanswered', hkept'⟩ :=
    takeTurn_write bodies hpending'
  rw [a.other_other] at hkept hkept'
  refine ⟨four, ?_, ?_, ?_⟩
  · exact run_cons.mpr ⟨one, hone, run_cons.mpr ⟨two, htwo,
      run_cons.mpr ⟨three, hthree, run_cons.mpr ⟨four, hfour, rfl⟩⟩⟩⟩
  · intro party
    rcases party.eq_or_eq_other a with rfl | rfl
    · rw [hkept', hkept, hanswered]
    · exact hanswered'
  · rw [hwritten', readDb_writeDb, if_pos (hids a.other)]

/-- Both parties have read when the first of them writes: what it wrote is
overwritten. -/
theorem run_overlapping (a c : Party)
    (hrequests : ∀ party,
      UpdateRequest (bodies party) (ids party) (settings party))
    (hids : ∀ party, ids party ≈ id) (htruthy : id.truthy)
    (hread : readDb race.registry id = some record)
    (hready : ∀ party, race.progress party = .ready) :
    ∃ reached,
      runTurns bodies [a, a.other, c, c.other] race = .ok reached ∧
      AllAnswered reached ids ∧
      readDb reached.registry id =
        some (record.merge (settings c.other)) := by
  obtain ⟨one, hone, hregistry, hpending, hother⟩ :=
    takeTurn_reads a hrequests hids htruthy hread (hready a)
  have hread' : readDb one.registry id = some record := by
    rw [hregistry, hread]
  have hready' : one.progress a.other = .ready := by
    rw [hother, hready]
  obtain ⟨two, htwo, _, hpending', hkept⟩ :=
    takeTurn_reads a.other hrequests hids htruthy hread' hready'
  rw [a.other_other] at hkept
  have hboth : ∀ party,
      HasRead two party (ids party) record (settings party) := by
    intro party
    rcases party.eq_or_eq_other a with rfl | rfl
    · rwa [HasRead, hkept]
    · exact hpending'
  obtain ⟨three, hthree, _, hanswered, hleft⟩ :=
    takeTurn_write bodies (hboth c)
  have hlast : HasRead three c.other (ids c.other) record
      (settings c.other) := by
    rw [HasRead, hleft]
    exact hboth c.other
  obtain ⟨four, hfour, hwritten, hanswered', hkept'⟩ :=
    takeTurn_write bodies hlast
  rw [c.other_other] at hkept'
  refine ⟨four, ?_, ?_, ?_⟩
  · exact run_cons.mpr ⟨one, hone, run_cons.mpr ⟨two, htwo,
      run_cons.mpr ⟨three, hthree, run_cons.mpr ⟨four, hfour, rfl⟩⟩⟩⟩
  · intro party
    rcases party.eq_or_eq_other c with rfl | rfl
    · rw [hkept', hanswered]
    · exact hanswered'
  · rw [hwritten, readDb_writeDb, if_pos (hids c.other)]

end Races

/-! ## Lost settings -/

/-- The record has the settings of both requests, and all else from before;
values are compared as the language compares them. -/
structure NoUpdateLost (stored before : Record) (settings : Party → Record) :
    Prop where
  kept : ∀ party, (settings party).Included stored
  others : ∀ key, (∀ party, key ∉ settings party) →
    ∀ value, before.Holds key value ↔ stored.Holds key value

section Main

variable {bodies : Party → Value} {ids : Party → Value} {id : Value}
variable {settings : Party → Record} {record : Record}
variable {registry : Registry} {turns : List Party}

theorem noUpdateLost_serial (a : Party)
    (hdisjoint : ∀ party, ∀ key ∈ settings party,
      key ∉ settings party.other) :
    NoUpdateLost ((record.merge (settings a)).merge (settings a.other)) record
      settings := by
  constructor
  · intro party
    rcases party.eq_or_eq_other a with rfl | rfl
    · exact (KeyedMap.included_merge_iff (hdisjoint party)).mpr
        KeyedMap.included_merge
    · exact KeyedMap.included_merge
  · intro key habsent value
    rw [KeyedMap.holds_merge_of_notMem (habsent _),
      KeyedMap.holds_merge_of_notMem (habsent _)]

theorem noUpdateLost_overlapping_iff (c : Party)
    (hdisjoint : ∀ party, ∀ key ∈ settings party,
      key ∉ settings party.other) :
    NoUpdateLost (record.merge (settings c.other)) record settings ↔
      (settings c).Included record := by
  rw [← KeyedMap.included_merge_iff (hdisjoint c)]
  constructor
  · exact fun hkept => hkept.kept c
  · intro hheld
    constructor
    · intro party
      rcases party.eq_or_eq_other c with rfl | rfl
      · exact hheld
      · exact KeyedMap.included_merge
    · intro key habsent value
      rw [KeyedMap.holds_merge_of_notMem (habsent _)]

/-- In every interleaving both updates succeed.  No setting is lost exactly
when the updates do not overlap, or the settings of the one that writes first
were in the record before. -/
theorem no_update_lost_iff
    (hrequests : ∀ party,
      UpdateRequest (bodies party) (ids party) (settings party))
    (hids : ∀ party, ids party ≈ id) (htruthy : id.truthy)
    (hregistered : readDb registry id = some record)
    (hdisjoint : ∀ party, ∀ key ∈ settings party,
      key ∉ settings party.other)
    (hturns : Interleaving turns) :
    ∃ reached stored,
      runTurns bodies turns (untouched registry) = .ok reached ∧
      AllAnswered reached ids ∧ readDb reached.registry id = some stored ∧
      (NoUpdateLost stored record settings ↔
        ∀ party, overwritten turns = some party →
          (settings party).Included record) := by
  have hready : ∀ party, (untouched registry).progress party = .ready :=
    fun _ => rfl
  have hread : readDb (untouched registry).registry id = some record :=
    hregistered
  obtain ⟨a, rfl | rfl | rfl⟩ := interleaving_cases hturns
  · obtain ⟨reached, hrun, hanswered, hstored⟩ :=
      run_serial a hrequests hids htruthy hread hready
    refine ⟨reached, _, hrun, hanswered, hstored,
      iff_of_true (noUpdateLost_serial a hdisjoint) ?_⟩
    intro party hoverwritten
    simp [overwritten] at hoverwritten
  · obtain ⟨reached, hrun, hanswered, hstored⟩ :=
      run_overlapping a a hrequests hids htruthy hread hready
    refine ⟨reached, _, hrun, hanswered, hstored, ?_⟩
    rw [noUpdateLost_overlapping_iff a hdisjoint]
    simp [overwritten, a.other_ne.symm]
  · obtain ⟨reached, hrun, hanswered, hstored⟩ :=
      run_overlapping a a.other hrequests hids htruthy hread hready
    rw [a.other_other] at hrun hstored
    refine ⟨reached, _, hrun, hanswered, hstored, ?_⟩
    have hlost : NoUpdateLost (record.merge (settings a.other.other)) record
        settings ↔ _ := noUpdateLost_overlapping_iff a.other hdisjoint
    rw [a.other_other] at hlost
    rw [hlost]
    simp [overwritten, a.other_ne.symm]

end Main

/-! ## One setting each -/

theorem updateRequest_updateBody (id : Value) (settings : Entries) :
    UpdateRequest (updateBody id settings) id settings.record :=
  ⟨_, settings, rfl, rfl, rfl, rfl⟩

def zedboardRecord : Record :=
  .singleton teleporterId zedboard

def zedboardRegistry : Registry :=
  writeDb ∅ zedboard (some zedboardRecord)

/-- One party renames the teleporter, the other moves it. -/
def zedboardSetting : Party → Value × Value
  | .first => (.keyword "teleporter/nickname", .string "studio")
  | .second => (.keyword "teleporter/room", .string "upstairs")

def zedboardSettings (party : Party) : Entries :=
  .cons (zedboardSetting party).1 (zedboardSetting party).2 .nil

def zedboardBodies (party : Party) : Value :=
  updateBody zedboard (zedboardSettings party)

theorem mem_zedboardSettings (party : Party) (key : Value) :
    key ∈ (zedboardSettings party).record ↔
      (zedboardSetting party).1 ≈ key := by
  have hrecord : (zedboardSettings party).record =
      (∅ : Record).insert (zedboardSetting party).1 (zedboardSetting party).2 :=
    rfl
  rw [hrecord, KeyedMap.mem_insert]
  exact or_iff_left (KeyedMap.notMem_empty key)

theorem zedboardSettings_disjoint (party : Party) (key : Value)
    (hkey : key ∈ (zedboardSettings party).record) :
    key ∉ (zedboardSettings party.other).record := by
  rw [mem_zedboardSettings] at hkey ⊢
  intro hother
  have hsame := Setoid.trans hkey (Setoid.symm hother)
  cases party <;> exact absurd hsame (by decide)

/-- One update after the other loses nothing. -/
theorem serial_updates_kept :
    ∃ reached stored,
      runTurns zedboardBodies [.first, .first, .second, .second]
        (untouched zedboardRegistry) = .ok reached ∧
      AllAnswered reached (fun _ => zedboard) ∧
      readDb reached.registry zedboard = some stored ∧
      NoUpdateLost stored zedboardRecord
        fun party => (zedboardSettings party).record := by
  have hturns : Interleaving [.first, .first, .second, .second] := by
    intro party
    cases party <;> rfl
  obtain ⟨reached, stored, hrun, hanswered, hstored, hkept⟩ :=
    no_update_lost_iff
      (fun party => updateRequest_updateBody zedboard (zedboardSettings party))
      (fun _ => Setoid.refl zedboard) rfl
      (readDb_writeDb_self ∅ zedboard (some zedboardRecord))
      zedboardSettings_disjoint hturns
  refine ⟨reached, stored, hrun, hanswered, hstored, hkept.mpr ?_⟩
  intro party hoverwritten
  cases hoverwritten

/-- Both parties read, then the first and the second write: the name is
lost. -/
theorem overlapping_update_lost :
    ¬ ∀ (bodies : Party → Value) (ids : Party → Value) (id : Value)
      (settings : Party → Record) (record : Record) (registry : Registry)
      (turns : List Party),
      (∀ party, UpdateRequest (bodies party) (ids party) (settings party)) →
      (∀ party, ids party ≈ id) → id.truthy →
      readDb registry id = some record →
      (∀ party, ∀ key ∈ settings party, key ∉ settings party.other) →
      Interleaving turns →
      ∃ reached stored,
        runTurns bodies turns (untouched registry) = .ok reached ∧
        AllAnswered reached ids ∧ readDb reached.registry id = some stored ∧
        NoUpdateLost stored record settings := by
  intro hall
  have hturns : Interleaving [.first, .second, .first, .second] := by
    intro party
    cases party <;> rfl
  have hrequests := fun party =>
    updateRequest_updateBody zedboard (zedboardSettings party)
  have hread := readDb_writeDb_self ∅ zedboard (some zedboardRecord)
  have hids : ∀ _ : Party, zedboard ≈ zedboard := fun _ => Setoid.refl zedboard
  obtain ⟨reached, stored, hrun, _, hstored, hkept⟩ :=
    hall zedboardBodies (fun _ => zedboard) zedboard _ zedboardRecord
      zedboardRegistry _ hrequests hids rfl hread zedboardSettings_disjoint
      hturns
  have hready : ∀ party,
      (untouched zedboardRegistry).progress party = .ready := fun _ => rfl
  obtain ⟨reached', hrun', _, hstored'⟩ :=
    run_overlapping .first .first hrequests hids rfl hread hready
  have hsame : reached = reached' := Except.ok.inj (hrun.symm.trans hrun')
  rw [hsame, hstored'] at hstored
  obtain ⟨found, hfound, _⟩ := hkept.kept .first
    (.keyword "teleporter/nickname") (.string "studio") rfl
  rw [← Option.some.inj hstored] at hfound
  have hlost : (zedboardRecord.merge (zedboardSettings .second).record).lookup
      (.keyword "teleporter/nickname") = none := by decide
  exact absurd (hlost.symm.trans hfound) nofun

end Songpark.Platform
