import Songpark.Platform.Server
import Mathlib.Data.List.Forall2
import Mathlib.Data.List.Perm.Basic

/-!
# The app's view of the platform

The app asks for all teleporters and all jams at once.  The status of a
teleporter in the one list is searched in the other, and the jams have no order
of their own.  The search skips a jam without a status but stops at a status of
`false`, which is then reported as idle.
-/

namespace Songpark.Platform

abbrev jamId : Value := .keyword "jam/id"
abbrev jamMembers : Value := .keyword "jam/members"
abbrev jamStatus : Value := .keyword "jam/status"
abbrev jamWaiting : Value := .keyword "jam/waiting"
abbrev idle : Value := .keyword "idle"

/-- What `set` makes of the members: a collection or nothing. -/
def membersOf (record : Record) : List Value :=
  match record.lookup jamMembers with
  | some (.coll _ items) => items.toList
  | _ => []

/-- The key equals one of the members. -/
def IsMember (record : Record) (key : Value) : Prop :=
  ∃ member ∈ membersOf record, member ≈ key

/-- The record of a jam, whose members are a collection if there are any. -/
structure JamRecord where
  record : Record
  members : ∀ value, record.lookup jamMembers = some value →
    value = .nil ∨ ∃ kind items, value = .coll kind items

/-- The map under `:jam`. -/
abbrev Jams := KeyedMap Value JamRecord

/-- `select-keys`. -/
def selectKeys (record : Record) : List Value → Record → Record
  | [], selected => selected
  | key :: keys, selected =>
      selectKeys record keys (match record.find? key with
        | some entry => selected.insert entry.1 entry.2
        | none => selected)

/-- A jam as the app gets it. -/
def JamRecord.shown (jam : JamRecord) : Record :=
  selectKeys jam.record [jamId, jamMembers, jamStatus] ∅

/-- What the search reads of such a jam. -/
def searched (shown : Record) : Jam where
  members := membersOf shown
  status := (shown.lookup jamStatus).getD .nil

/-- The answer to the app. -/
structure AppAnswer where
  status : ℕ
  teleporters : List Record
  jams : List Record

/-- Both halves of the answer. -/
def connectApp (config : Config) (store : Store) (now : ℤ) (jams : Jams)
    (waiting : Option Record) (registry : Registry) : AppAnswer :=
  let shown := jams.entries.map fun entry => entry.2.shown
  { status := 200
    teleporters :=
      connect config store now (shown.map searched) waiting registry
    jams := shown }

/-! ## What an entry is to say -/

/-- The fields that the app does not get. -/
def hiddenFields : List Value :=
  [heartbeatTimestamp, teleporterMac, teleporterSip]

/-- The stored record without the hidden fields and with the two new ones. -/
structure EntryShown (online : Bool) (status : Value) (stored : Option Record)
    (shown : Record) : Prop where
  online : shown.lookup teleporterOnline = some (.bool online)
  status : shown.lookup jamStatus = some status
  hidden : ∀ field ∈ hiddenFields, shown.lookup field = none
  kept : ∀ field, field ∉ hiddenFields → field ≠ teleporterOnline →
    field ≠ jamStatus →
      shown.lookup field = stored.bind fun record => record.lookup field

/-- The waiting map has a value other than `nil` and `false` for the key. -/
def WaitingFor (waiting : Option Record) (key : Value) : Prop :=
  ∃ record value, waiting = some record ∧ record.lookup key = some value ∧
    value.truthy

/-- A status other than `nil` of a jam with this member. -/
def MemberStatus (jams : Jams) (key status : Value) : Prop :=
  ∃ entry ∈ jams.entries, IsMember entry.2.record key ∧
    entry.2.record.lookup jamStatus = some status ∧ status ≠ .nil

/-- The precedence of the statuses: a waiting teleporter, one with a status
found in the jams, and any other. -/
structure StatusRule (waits : Prop) (found : Value → Prop)
    (reported : Value → Value) (status : Value) : Prop where
  waiting : waits → status = jamWaiting
  jam : ¬ waits → (∃ other, found other) →
    ∃ other, found other ∧ status = reported other
  idle : ¬ waits → (¬ ∃ other, found other) → status = idle

/-- The search finds no jam for a key that does not count as true. -/
def FoundStatus (jams : Jams) (key status : Value) : Prop :=
  key.truthy ∧ MemberStatus jams key status

/-- A status that does not count as true is reported as idle. -/
def orIdle (status : Value) : Value := if status.truthy then status else idle

/-- A status that comes from a jam is that of a jam in the answer. -/
def StatusBacked (jams : Jams) (waits : Prop) (key status : Value)
    (shownJams : List Record) : Prop :=
  ¬ waits → status ≠ idle ∨ MemberStatus jams key status →
    ∃ shown ∈ shownJams, shown.lookup jamStatus = some status ∧
      IsMember shown key

/-- No teleporter belongs to two jams with different statuses. -/
def StatusesAgree (agree : Value → Value → Prop) (jams : Jams)
    (registry : Registry) : Prop :=
  ∀ key ∈ registry, ∀ first second, MemberStatus jams key first →
    MemberStatus jams key second → agree first second

/-! ## The search -/

/-- The jams as the search reads them. -/
def searchedJams (jams : Jams) : List Jam :=
  (jams.entries.map fun entry => entry.2.shown).map searched

/-- The statuses of the jams that a key is found in. -/
def statusesOf (jams : List Jam) (key : Value) : List Value :=
  (jams.map fun jam => getJamJamStatus jam key).filter (· ≠ .nil)

section Search

variable {jams : Jams} {waiting : Option Record} {key status field : Value}
variable {record selected : Record} {keys : List Value}

theorem lookup_selectKeys :
    (selectKeys record keys selected).lookup field =
      if ∃ key ∈ keys, key ≈ field then
        (record.lookup field).or (selected.lookup field)
      else selected.lookup field := by
  induction keys generalizing selected with
  | nil => simp [selectKeys]
  | cons key keys ih =>
      rw [selectKeys, ih]
      by_cases hfield : key ≈ field
      · have hlookup : record.lookup field = (record.find? key).map Prod.snd := by
          rw [← KeyedMap.lookup_congr hfield]
          rfl
        rw [hlookup]
        cases hentry : record.find? key with
        | none => simp
        | some entry =>
            have hkey := (KeyedMap.find?_eq_some_iff.mp hentry).2
            simp [KeyedMap.lookup_insert, Setoid.trans hkey hfield, hfield]
      · have hselected : (match record.find? key with
            | some entry => selected.insert entry.1 entry.2
            | none => selected).lookup field = selected.lookup field := by
          cases hentry : record.find? key with
          | none => rfl
          | some entry =>
              have hkey := (KeyedMap.find?_eq_some_iff.mp hentry).2
              exact KeyedMap.lookup_insert_ne fun hsame =>
                hfield (Setoid.trans (Setoid.symm hkey) hsame)
        simp only [hselected, List.exists_mem_cons_iff, hfield, false_or]

theorem shown_lookup (jam : JamRecord)
    (hfield : field ∈ [jamId, jamMembers, jamStatus]) :
    jam.shown.lookup field = jam.record.lookup field := by
  rw [JamRecord.shown, lookup_selectKeys,
    if_pos ⟨field, hfield, Setoid.refl field⟩, KeyedMap.lookup_empty,
    Option.or_none]

theorem membersOf_shown (jam : JamRecord) :
    membersOf jam.shown = membersOf jam.record := by
  rw [membersOf, membersOf, shown_lookup jam (by decide)]

theorem waitingFor_iff :
    WaitingFor waiting key ↔
      ((waiting.bind fun record => record.lookup key).getD .nil).truthy := by
  constructor
  · rintro ⟨record, value, rfl, hvalue, htruthy⟩
    rwa [Option.bind_some, hvalue]
  · intro htruthy
    cases waiting with
    | none => exact absurd htruthy Bool.false_ne_true
    | some record =>
        rw [Option.bind_some] at htruthy
        cases hvalue : record.lookup key with
        | none =>
            rw [hvalue] at htruthy
            exact absurd htruthy Bool.false_ne_true
        | some value =>
            rw [hvalue] at htruthy
            exact ⟨record, value, rfl, hvalue, htruthy⟩

/-- What the search finds in one jam. -/
theorem getJamJamStatus_eq_iff (jam : JamRecord) (hne : status ≠ .nil) :
    getJamJamStatus (searched jam.shown) key = status ↔
      key.truthy ∧ IsMember jam.record key ∧
        jam.record.lookup jamStatus = some status := by
  rw [getJamJamStatus, searched, membersOf_shown,
    shown_lookup jam (by decide)]
  dsimp only
  split_ifs with hfound
  · have hstatus : (jam.record.lookup jamStatus).getD .nil = status ↔
        jam.record.lookup jamStatus = some status := by
      cases jam.record.lookup jamStatus with
      | none => simp [hne.symm]
      | some other => simp
    rw [hstatus, and_iff_right hfound.2]
    exact (and_iff_right hfound.1).symm
  · refine iff_of_false hne.symm ?_
    rintro ⟨htruthy, hmember, _⟩
    exact hfound ⟨hmember, htruthy⟩

/-- The search goes through exactly the statuses of the jams with the key. -/
theorem mem_statusesOf_iff :
    status ∈ statusesOf (searchedJams jams) key ↔
      FoundStatus jams key status := by
  simp only [statusesOf, searchedJams, FoundStatus, MemberStatus,
    List.mem_filter, List.mem_map, decide_eq_true_eq]
  constructor
  · rintro ⟨⟨_, ⟨_, ⟨entry, hentry, rfl⟩, rfl⟩, hstatus⟩, hne⟩
    obtain ⟨htruthy, hmember, hlookup⟩ :=
      (getJamJamStatus_eq_iff entry.2 hne).mp hstatus
    exact ⟨htruthy, entry, hentry, hmember, hlookup, hne⟩
  · rintro ⟨htruthy, entry, hentry, hmember, hlookup, hne⟩
    exact ⟨⟨_, ⟨_, ⟨entry, hentry, rfl⟩, rfl⟩,
      (getJamJamStatus_eq_iff entry.2 hne).mpr ⟨htruthy, hmember, hlookup⟩⟩,
      hne⟩

/-- The search takes the first status and reports it, or idle. -/
theorem getJamStatus_eq (jams : List Jam) :
    getJamStatus jams waiting key =
      if ((waiting.bind fun record => record.lookup key).getD .nil).truthy then
        jamWaiting
      else orIdle ((statusesOf jams key).headD .nil) := rfl

end Search

section Statuses

variable {jams : Jams} {waiting : Option Record} {key : Value}

/-- The first of several values, if there is any. -/
theorem headD_mem {α : Type*} {values : List α} {default : α}
    (hvalues : values ≠ []) : values.headD default ∈ values := by
  cases values with
  | nil => exact absurd rfl hvalues
  | cons value values => exact List.mem_cons_self

/-- Values that all agree have first values that agree in every order. -/
theorem headD_perm {α : Type*} {values others : List α} {default : α}
    {agree : α → α → Prop} (hdefault : agree default default)
    (hperm : values.Perm others)
    (hagree : ∀ first ∈ others, ∀ second ∈ others, agree first second) :
    agree (values.headD default) (others.headD default) := by
  by_cases hempty : values = []
  · rw [hempty] at hperm ⊢
    rw [← hperm.nil_eq]
    exact hdefault
  · have hothers : others ≠ [] := by
      intro hnil
      rw [hnil] at hperm
      exact hempty hperm.eq_nil
    exact hagree _ (hperm.subset (headD_mem hempty)) _ (headD_mem hothers)

theorem orIdle_congr {status other : Value} (hsame : status ≈ other) :
    orIdle status ≈ orIdle other := by
  rw [orIdle, orIdle, truthy_congr hsame]
  split_ifs
  · exact hsame
  · exact Setoid.refl idle

theorem statusRule_getJamStatus :
    StatusRule (WaitingFor waiting key) (FoundStatus jams key) orIdle
      (getJamStatus (searchedJams jams) waiting key) := by
  have hwaiting := @waitingFor_iff waiting key
  rw [getJamStatus_eq]
  refine ⟨?_, ?_, ?_⟩
  · intro hwaits
    rw [if_pos (hwaiting.mp hwaits)]
  · intro hnot hfound
    obtain ⟨other, hother⟩ := hfound
    rw [if_neg (hwaiting.not.mp hnot)]
    have hsome : statusesOf (searchedJams jams) key ≠ [] :=
      List.ne_nil_of_mem (mem_statusesOf_iff.mpr hother)
    exact ⟨_, mem_statusesOf_iff.mp (headD_mem hsome), rfl⟩
  · intro hnot hnone
    have hempty : statusesOf (searchedJams jams) key = [] := by
      apply List.eq_nil_iff_forall_not_mem.mpr
      intro status hstatus
      exact hnone ⟨status, mem_statusesOf_iff.mp hstatus⟩
    rw [if_neg (hwaiting.not.mp hnot), hempty]
    rfl

theorem statusBacked_of_member {status : Value}
    (hmember : MemberStatus jams key status) :
    ∃ shown ∈ jams.entries.map fun entry => entry.2.shown,
      shown.lookup jamStatus = some status ∧ IsMember shown key := by
  obtain ⟨entry, hentry, hkey, hstatus, _⟩ := hmember
  refine ⟨entry.2.shown, List.mem_map_of_mem hentry, ?_, ?_⟩
  · rw [shown_lookup entry.2 (by decide), hstatus]
  · rw [IsMember, membersOf_shown]
    exact hkey

/-- A reported status other than idle is one of a jam. -/
theorem statusBacked_getJamStatus :
    StatusBacked jams (WaitingFor waiting key) key
      (getJamStatus (searchedJams jams) waiting key)
      (jams.entries.map fun entry => entry.2.shown) := by
  have hrule := @statusRule_getJamStatus jams waiting key
  rintro hnot (hidle | hmember)
  · by_cases hfound : ∃ other, FoundStatus jams key other
    · obtain ⟨other, hother, hreported⟩ := hrule.jam hnot hfound
      rw [hreported, orIdle] at hidle ⊢
      split_ifs at hidle ⊢ with htruthy
      · exact statusBacked_of_member hother.2
      · exact absurd rfl hidle
    · exact absurd (hrule.idle hnot hfound) hidle
  · exact statusBacked_of_member hmember

theorem getJamStatus_perm {agree : Value → Value → Prop} {reordered : Jams}
    (hrefl : ∀ status, agree status status)
    (hreported : ∀ first second, agree first second →
      agree (orIdle first) (orIdle second))
    (hperm : reordered.entries.Perm jams.entries)
    (hagree : ∀ first second, MemberStatus jams key first →
      MemberStatus jams key second → agree first second) :
    agree (getJamStatus (searchedJams reordered) waiting key)
      (getJamStatus (searchedJams jams) waiting key) := by
  have hstatuses : (statusesOf (searchedJams reordered) key).Perm
      (statusesOf (searchedJams jams) key) :=
    (((hperm.map _).map _).map _).filter _
  have hhead := headD_perm (hrefl .nil) hstatuses
    fun first hfirst second hsecond => hagree first second
      (mem_statusesOf_iff.mp hfirst).2 (mem_statusesOf_iff.mp hsecond).2
  rw [getJamStatus_eq, getJamStatus_eq]
  split_ifs
  · exact hrefl _
  · exact hreported _ _ hhead

end Statuses

/-! ## The answer -/

section Answer

theorem entryShown_report (config : Config) (store : Store) (now : ℤ)
    (jams : List Jam) (waiting : Option Record) (key : Value)
    (stored : Option Record) :
    EntryShown (isTeleporterOnline config store now key)
      (getJamStatus jams waiting key) stored
      (report config store now jams waiting key stored) := by
  refine ⟨?_, ?_, ?_, ?_⟩
  · rw [report, KeyedMap.lookup_insert_ne (by decide),
      KeyedMap.lookup_insert_self]
  · rw [report, KeyedMap.lookup_insert_self]
  · intro field hfield
    simp only [hiddenFields, List.mem_cons, List.not_mem_nil, or_false]
      at hfield
    rcases hfield with rfl | rfl | rfl <;>
      simp [report, KeyedMap.lookup_insert, KeyedMap.lookup_erase]
  · intro field hhidden honline hstatus
    simp only [hiddenFields, List.mem_cons, List.not_mem_nil, or_false,
      not_or] at hhidden
    obtain ⟨hheartbeat, hmac, hsip⟩ := hhidden
    simp only [report, KeyedMap.lookup_insert, KeyedMap.lookup_erase,
      keyword_equiv_iff, hstatus, honline, hsip, hmac, hheartbeat, if_false]
    cases stored with
    | none => rfl
    | some record => rfl

/-- One entry for each key, as it is to be. -/
def ViewCorrect (config : Config) (store : Store) (now : ℤ) (jams : Jams)
    (waiting : Option Record) (registry : Registry) (answer : AppAnswer) :
    Prop :=
  List.Forall₂ (fun entry shown => ∃ status,
      EntryShown (isTeleporterOnline config store now entry.1) status entry.2
          shown ∧
        StatusRule (WaitingFor waiting entry.1) (FoundStatus jams entry.1)
          orIdle status ∧
        StatusBacked jams (WaitingFor waiting entry.1) entry.1 status
          answer.jams)
    registry.entries answer.teleporters

/-- What the app gets is what is stored, with the precedence of the statuses,
and does not depend on the order of the jams as long as no two of them disagree
about a teleporter; statuses that are equal, but not the same, make entries that
are equal. -/
theorem connectApp_correct (config : Config) (store : Store) (now : ℤ)
    (jams : Jams) (waiting : Option Record) (registry : Registry) :
    ViewCorrect config store now jams waiting registry
        (connectApp config store now jams waiting registry) ∧
      (StatusesAgree (· = ·) jams registry →
        ∀ reordered : Jams, reordered.entries.Perm jams.entries →
          (connectApp config store now reordered waiting registry).teleporters =
            (connectApp config store now jams waiting registry).teleporters) ∧
      (StatusesAgree (· ≈ ·) jams registry →
        ∀ reordered : Jams, reordered.entries.Perm jams.entries →
          List.Forall₂ KeyedMap.Alike
            (connectApp config store now reordered waiting registry).teleporters
            (connectApp config store now jams waiting registry).teleporters) := by
  refine ⟨?_, ?_, ?_⟩
  · rw [ViewCorrect, connectApp, connect, List.forall₂_map_right_iff,
      List.forall₂_same]
    intro entry _
    exact ⟨_, entryShown_report _ _ _ _ _ _ _, statusRule_getJamStatus,
      statusBacked_getJamStatus⟩
  · intro hagree reordered hperm
    apply List.map_congr_left
    intro entry hentry
    have hkey : entry.1 ∈ registry := ⟨entry, hentry, Setoid.refl entry.1⟩
    have hstatus := @getJamStatus_perm jams waiting entry.1 (· = ·) reordered
      (fun _ => rfl) (fun _ _ hsame => congrArg orIdle hsame) hperm
      (hagree entry.1 hkey)
    rw [searchedJams, searchedJams] at hstatus
    rw [report, report, hstatus]
  · intro hagree reordered hperm
    rw [connectApp, connectApp, connect, connect, List.forall₂_map_left_iff,
      List.forall₂_map_right_iff, List.forall₂_same]
    intro entry hentry
    have hkey : entry.1 ∈ registry := ⟨entry, hentry, Setoid.refl entry.1⟩
    exact KeyedMap.alike_insert (getJamStatus_perm Setoid.refl
      (fun _ _ hsame => orIdle_congr hsame) hperm (hagree entry.1 hkey))

end Answer

/-! ## Statuses that do not count as true -/

/-- A jam of one member. -/
def soloJam (member status : Value) : JamRecord where
  record := (KeyedMap.singleton jamStatus status).insert jamMembers
    (.coll .set (.cons member .nil))
  members := by
    intro value hvalue
    rw [KeyedMap.lookup_insert_self] at hvalue
    exact Or.inr ⟨_, _, (Option.some.inj hvalue).symm⟩

/-- The statuses with the plain precedence: any status other than `nil` of a jam
with this member is found and reported as it is. -/
def PlainStatuses (jams : Jams) (waiting : Option Record) (registry : Registry)
    (answer : AppAnswer) : Prop :=
  List.Forall₂ (fun entry shown => ∃ status,
      shown.lookup jamStatus = some status ∧
        StatusRule (WaitingFor waiting entry.1) (MemberStatus jams entry.1) id
          status)
    registry.entries answer.teleporters

section SoloJam

variable {key member status other : Value}

theorem memberStatus_soloJam_iff (hne : status ≠ .nil) :
    MemberStatus (KeyedMap.singleton key (soloJam member status)) member other ↔
      other = status := by
  have hmember : IsMember (soloJam member status).record member := by
    rw [IsMember, membersOf, soloJam, KeyedMap.lookup_insert_self]
    exact ⟨member, List.mem_cons_self, Setoid.refl member⟩
  have hlookup : (soloJam member status).record.lookup jamStatus =
      some status := by
    rw [soloJam, KeyedMap.lookup_insert_ne (by decide),
      KeyedMap.lookup_singleton, if_pos (Setoid.refl _)]
  constructor
  · rintro ⟨entry, hentry, _, hother, _⟩
    rw [List.mem_singleton.mp hentry, hlookup] at hother
    exact (Option.some.inj hother).symm
  · rintro rfl
    exact ⟨_, List.mem_singleton_self _, hmember, hlookup, hne⟩

/-- Where the only jam of a teleporter has a status and the report is idle, the
plain precedence is not followed. -/
theorem not_plainStatuses (config : Config) (store : Store) (now : ℤ)
    (hne : status ≠ .nil) (hstatus : status ≠ idle)
    (hreport : getJamStatus
      (searchedJams (KeyedMap.singleton key (soloJam member status))) none member =
        idle) :
    ¬ PlainStatuses (KeyedMap.singleton key (soloJam member status)) none
      (KeyedMap.singleton member none)
      (connectApp config store now
        (KeyedMap.singleton key (soloJam member status)) none
        (KeyedMap.singleton member none)) := by
  intro hplain
  rw [PlainStatuses, connectApp, connect, List.forall₂_map_right_iff,
    List.forall₂_same] at hplain
  obtain ⟨shown, hshown, hrule⟩ := hplain _ (List.mem_singleton_self _)
  have hentry := (entryShown_report config store now
    (searchedJams (KeyedMap.singleton key (soloJam member status))) none member
    none).status
  rw [hreport] at hentry
  have hidle : shown = idle := by
    rw [searchedJams] at hentry
    exact Option.some.inj (hshown.symm.trans hentry)
  have hnot : ¬ WaitingFor none member := by
    rintro ⟨_, _, hnone, _⟩
    cases hnone
  obtain ⟨found, hfound, hreported⟩ := hrule.jam hnot
    ⟨status, (memberStatus_soloJam_iff hne).mpr rfl⟩
  rw [(memberStatus_soloJam_iff hne).mp hfound, hidle] at hreported
  exact hstatus hreported.symm

end SoloJam

/-- A teleporter in a stopped jam is reported as idle, and so is one with the
key `false` in any jam. -/
theorem plainStatuses_fail :
    ¬ PlainStatuses (KeyedMap.singleton (.number 1) (soloJam zedboard (.bool false)))
        none (KeyedMap.singleton zedboard none)
        (connectApp sampleConfig ∅ 0
          (KeyedMap.singleton (.number 1) (soloJam zedboard (.bool false))) none
          (KeyedMap.singleton zedboard none)) ∧
      ¬ PlainStatuses
        (KeyedMap.singleton (.number 1) (soloJam (.bool false) (.keyword "playing")))
        none (KeyedMap.singleton (.bool false) none)
        (connectApp sampleConfig ∅ 0
          (KeyedMap.singleton (.number 1) (soloJam (.bool false) (.keyword "playing")))
          none (KeyedMap.singleton (.bool false) none)) :=
  ⟨not_plainStatuses _ _ _ (by decide) (by decide) rfl,
    not_plainStatuses _ _ _ (by decide) (by decide) rfl⟩

end Songpark.Platform
