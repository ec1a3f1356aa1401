import Songpark.Device.CodecTalk

/-!
# Bringing up the codec

The controller block has a model of its own here, which understands register
accesses as transfers and refuses an access that comes while a transfer runs.
Whatever the codec answers, the driver has carried out its list of transfers
when it returns; and it returns exactly when the codec goes idle after every
transfer and its clock locks.
-/

namespace Songpark.Codec

open Songpark.RegisterFile Songpark.RegIo Songpark.StateProgram
open Songpark.Conversation
open scoped Computability

/-! ## The controller block -/

/-- What the controller carries out; the data of a transfer are numbers. -/
inductive Action
  | reset
  | write (addr : BitVec 16) (nbytes data : ℕ)
  | read (addr : BitVec 16) (nbytes value : ℕ)
  deriving DecidableEq

/-- A write is being sent; a read is being done, its answer has come, and one
of its two words has been taken. -/
inductive Phase
  | idle
  | sending (action : Action)
  | fetching (addr : BitVec 16) (nbytes : ℕ)
  | fetched (addr : BitVec 16) (nbytes : ℕ)
  | halfway (addr : BitVec 16) (nbytes : ℕ) (low : Word)
  deriving DecidableEq

structure Controller where
  phase : Phase
  low : Word
  high : Word
  done : List Action
  deriving DecidableEq

/-- The transfer that a control word starts. -/
def Controller.start (controller : Controller) (word : Word) : Phase :=
  let addr := word.extractLsb' addrPos 16
  let nbytes := (word.extractLsb' nbytesPos 3).toNat + 1
  if word.getLsbD readPos then .fetching addr nbytes
  else .sending (.write addr nbytes
    ((controller.high.toNat * 2 ^ 32 + controller.low.toNat) /
      256 ^ (8 - nbytes)))

/-- The registers are written only when the controller is idle, and read only as
a transfer needs them. -/
def Controller.observe (event : Event) (controller : Controller) :
    Option Controller :=
  match controller.phase, event with
  | .idle, .write regOffset data =>
      if regOffset = writeLowDataAddr then some { controller with low := data }
      else if regOffset = writeHighDataAddr then
        some { controller with high := data }
      else if regOffset = ctrlAddr then
        if data.getLsbD resetPos then
          some { controller with done := controller.done ++ [.reset] }
        else if data.getLsbD startPos then
          some { controller with phase := controller.start data }
        else some controller
      else none
  | .sending action, .read regOffset reply =>
      if regOffset ≠ busyAddr then none
      else if reply ≠ 0 then some controller
      else some { controller with
        phase := .idle
        done := controller.done ++ [action] }
  | .fetching addr nbytes, .read regOffset reply =>
      if regOffset ≠ busyAddr then none
      else if reply ≠ 0 then some controller
      else some { controller with phase := .fetched addr nbytes }
  | .fetched addr nbytes, .read regOffset reply =>
      if regOffset = readLowDataAddr then
        some { controller with phase := .halfway addr nbytes reply }
      else none
  | .halfway addr nbytes low, .read regOffset reply =>
      if regOffset = readHighDataAddr then
        some { controller with
          phase := .idle
          done := controller.done ++ [.read addr nbytes
            ((reply.toNat * 2 ^ 32 + low.toNat) % 256 ^ nbytes)] }
      else none
  | _, _ => none

/-- The write of a setting. -/
def settingAction (setting : Word × LongWord) : Action :=
  .write (setting.1.setWidth 16) 1 setting.2.toNat

/-- The reset, and some reads whose values are not used. -/
def probed (count : ℕ) (done : List Action) : Prop :=
  ∃ probes : List ℕ, probes.length = count ∧
    done = [.reset] ++ probes.map (.read 0 1)

/-- Reads of the clock register up to the first one with the lock bit. -/
def locking (actions : List Action) : Prop :=
  ∃ (unlocked : List ℕ) (locked : ℕ),
    (∀ status ∈ unlocked, status.testBit 1 = false) ∧
      locked.testBit 1 = true ∧
      actions = unlocked.map (.read 0x4002 6) ++ [.read 0x4002 6 locked]

/-- The actions of the bring-up. -/
def broughtUp (done : List Action) : Prop :=
  ∃ probing polling, probed 3 probing ∧ locking polling ∧
    done = probing ++
      [.write 0x4000 1 0x0e, .write 0x4002 6 0x007d000c2301] ++ polling ++
      .write 0x4000 1 0x0f :: codecSettings.map settingAction

/-! ## What the controller makes of them -/

/-- The controller is in a phase, and has done a list of a kind. -/
def At (phase : Phase) (before : List Action → Prop) (controller : Controller) :
    Prop :=
  controller.phase = phase ∧ before controller.done

/-- Lists of a kind with more actions behind. -/
def added (before : List Action → Prop) (actions : List Action)
    (done : List Action) : Prop :=
  ∃ earlier, before earlier ∧ done = earlier ++ actions

section Observations

variable {controller : Controller} {before : List Action → Prop}
variable {action : Action} {addr : BitVec 16} {nbytes : ℕ} {data : Word}

/-- The controller waits through busy polls, and goes on with an idle one. -/
theorem leads_idling {waiting after : Controller → Prop}
    (hbusy : ∀ controller busy, waiting controller → busy ≠ 0 →
      controller.observe (.read busyAddr busy) = some controller)
    (hidle : ∀ controller, waiting controller → ∃ final,
      controller.observe (.read busyAddr 0) = some final ∧ after final) :
    Leads Controller.observe waiting idling after := by
  refine .mul (.kstar (.of_ending fun busy hkind => .of_only ?_))
    (.of_ending fun busy hkind => .of_only ?_)
  · intro controller hwaiting
    exact ⟨controller, (follow_singleton _).trans
      (hbusy controller busy hwaiting hkind), hwaiting⟩
  · intro controller hwaiting
    rw [not_not.mp hkind, follow_singleton]
    exact hidle controller hwaiting

theorem leads_sending :
    Leads Controller.observe (At (.sending action) before) idling
      (At .idle (added before [action])) := by
  apply leads_idling
  · rintro controller busy ⟨hphase, hdone⟩ hbusy
    unfold Controller.observe
    rw [hphase]
    exact (if_neg (not_not.mpr rfl)).trans (if_pos hbusy)
  · rintro controller ⟨hphase, hdone⟩
    refine ⟨{ controller with
      phase := .idle
      done := controller.done ++ [action] }, ?_, rfl, _, hdone, rfl⟩
    unfold Controller.observe
    rw [hphase]
    rfl

theorem leads_fetching :
    Leads Controller.observe (At (.fetching addr nbytes) before) idling
      (At (.fetched addr nbytes) before) := by
  apply leads_idling
  · rintro controller busy ⟨hphase, hdone⟩ hbusy
    unfold Controller.observe
    rw [hphase]
    exact (if_neg (not_not.mpr rfl)).trans (if_pos hbusy)
  · rintro controller ⟨hphase, hdone⟩
    refine ⟨{ controller with phase := .fetched addr nbytes }, ?_, rfl, hdone⟩
    unfold Controller.observe
    rw [hphase]
    rfl

/-! ### Control words -/

theorem setupWord_high (read : Bool) (hlow : 1 ≤ nbytes) (hhigh : nbytes ≤ 8)
    {bit : ℕ} (hbit : 19 < bit) :
    (setupWord read (addr.setWidth 32) (BitVec.ofNat 32 nbytes)).getLsbD bit =
      false := by
  obtain ⟨length, hlength, _⟩ := exists_length hlow hhigh
  have hfield : length.getLsbD (bit - 16) = false :=
    BitVec.getLsbD_of_ge _ _ (by omega)
  have haddr : addr.getLsbD bit = false := BitVec.getLsbD_of_ge _ _ (by omega)
  have hread : (if read then (1 : Word) <<< readPos else 0).getLsbD bit =
      false := by
    cases read with
    | false => exact BitVec.getLsbD_zero
    | true =>
        have hne : ¬19 = bit := by omega
        exact (BitVec.getLsbD_twoPow _ _).trans (by simp [hne])
  rw [setupWord, hlength, BitVec.getLsbD_or, BitVec.getLsbD_or, hread]
  simp [hfield, haddr]

theorem observe_reset (hphase : controller.phase = .idle)
    (hreset : data.getLsbD resetPos = true) :
    controller.observe (.write ctrlAddr data) =
      some { controller with done := controller.done ++ [.reset] } := by
  unfold Controller.observe
  rw [hphase]
  simp [hreset]

theorem observe_setup (hphase : controller.phase = .idle)
    (hreset : data.getLsbD resetPos = false)
    (hstart : data.getLsbD startPos = false) :
    controller.observe (.write ctrlAddr data) = some controller := by
  unfold Controller.observe
  rw [hphase]
  simp [hreset, hstart]

theorem observe_start (hphase : controller.phase = .idle)
    (hreset : data.getLsbD resetPos = false)
    (hstart : data.getLsbD startPos = true) :
    controller.observe (.write ctrlAddr data) =
      some { controller with phase := controller.start data } := by
  unfold Controller.observe
  rw [hphase]
  simp [hreset, hstart]

theorem follow_words (hphase : controller.phase = .idle) (low high : Word)
    (talk : List Event) :
    follow Controller.observe
        (.write writeLowDataAddr low :: .write writeHighDataAddr high :: talk)
        controller =
      follow Controller.observe talk
        { controller with low := low, high := high } := by
  rw [follow]
  unfold Controller.observe
  rw [hphase]
  rfl

/-- The control words of a transfer start what they say. -/
theorem follow_control (read : Bool) (hphase : controller.phase = .idle)
    (hlow : 1 ≤ nbytes) (hhigh : nbytes ≤ 8) :
    follow Controller.observe
      [.write ctrlAddr (setupWord read (addr.setWidth 32)
        (BitVec.ofNat 32 nbytes)),
      .write ctrlAddr (controlWord read (addr.setWidth 32)
        (BitVec.ofNat 32 nbytes))] controller =
      some { controller with
        phase :=
          if read then .fetching addr nbytes
          else .sending (.write addr nbytes
            ((controller.high.toNat * 2 ^ 32 + controller.low.toNat) /
              256 ^ (8 - nbytes))) } := by
  have hfields := controlWord_fields read addr hlow hhigh
  rw [follow, observe_setup hphase
      (setupWord_high read hlow hhigh (by decide))
      (setupWord_high read hlow hhigh (by decide)),
    Option.bind_some, follow_singleton,
    observe_start hphase (hfields.rest 25 (by decide) (by decide))
      hfields.start, Controller.start]
  rw [hfields.read_eq, hfields.length_eq, hfields.addr_eq]

/-! ### Transfers -/

/-- The registers of a write start it with the low bytes of its data. -/
theorem leads_write (hlow : 1 ≤ nbytes) (hhigh : nbytes ≤ 8)
    (data : LongWord) :
    Leads Controller.observe (At .idle before)
      (writeTalk (addr.setWidth 32) data (BitVec.ofNat 32 nbytes))
      (At .idle
        (added before [.write addr nbytes (data.toNat % 256 ^ nbytes)])) := by
  refine .mul (.of_only ?_) leads_sending
  rintro controller ⟨hphase, hdone⟩
  have hcontrol := @follow_control
    { controller with
      low := (data <<< (8 * (8 - BitVec.ofNat 32 nbytes) : Word).toNat).setWidth
        32
      high := (data <<< (8 * (8 - BitVec.ofNat 32 nbytes) : Word).toNat >>>
        32).setWidth 32 } addr nbytes false hphase hlow hhigh
  rw [toNat_halves, toNat_data hhigh, top_bytes hhigh] at hcontrol
  exact ⟨_, (follow_words hphase _ _ _).trans hcontrol, rfl, hdone⟩

theorem leads_read (hlow : 1 ≤ nbytes) (hhigh : nbytes < 8)
    (value : LongWord) :
    Leads Controller.observe (At .idle before)
      (readTalk (addr.setWidth 32) (BitVec.ofNat 32 nbytes) value)
      (At .idle (added before [.read addr nbytes value.toNat])) := by
  have hstart : Leads Controller.observe (At .idle before)
      (only [.write ctrlAddr (setupWord true (addr.setWidth 32)
          (BitVec.ofNat 32 nbytes)),
        .write ctrlAddr (controlWord true (addr.setWidth 32)
          (BitVec.ofNat 32 nbytes))])
      (At (.fetching addr nbytes) before) := by
    refine .of_only ?_
    rintro controller ⟨hphase, hdone⟩
    exact ⟨_, follow_control true hphase hlow hhigh.le, rfl, hdone⟩
  refine .mul hstart (.mul leads_fetching (.of_ending ?_))
  rintro words rfl
  refine .of_only ?_
  rintro controller ⟨hphase, hdone⟩
  refine ⟨{ controller with
    phase := .idle
    done := controller.done ++ [.read addr nbytes
      (joinWords (BitVec.ofNat 32 nbytes) words).toNat] },
    ?_, rfl, _, hdone, rfl⟩
  rw [joinWords, toNat_masked hhigh, toNat_joined, follow]
  unfold Controller.observe
  rw [hphase]
  rfl

end Observations

section Stages

variable {before : List Action → Prop}

theorem leads_resetWords :
    Leads Controller.observe (At .idle (· = []))
      (only [.write ctrlAddr (1 <<< resetPos), .write ctrlAddr 0])
      (At .idle (probed 0)) := by
  refine .of_only ?_
  rintro controller ⟨hphase, hdone⟩
  refine ⟨{ controller with done := controller.done ++ [.reset] }, ?_,
    hphase, [], rfl, congrArg (· ++ _) hdone⟩
  rw [follow, observe_reset hphase (by decide), Option.bind_some,
    follow_singleton]
  exact observe_setup hphase (by decide) (by decide)

theorem leads_probe (count : ℕ) :
    Leads Controller.observe (At .idle (probed count))
      (ending (readTalk 0 1) fun _ => True)
      (At .idle (probed (count + 1))) := by
  refine .of_ending fun value _ => ?_
  have hread := @leads_read (probed count) 0 1 (by decide) (by decide) value
  refine hread.imp ?_
  rintro controller ⟨hphase, _, ⟨probes, rfl, rfl⟩, hdone⟩
  refine ⟨hphase, probes ++ [value.toNat], List.length_append, ?_⟩
  rw [hdone, List.map_append, List.append_assoc]
  rfl

theorem leads_reset :
    Leads Controller.observe (At .idle (· = [])) resetTalk
      (At .idle (probed 3)) :=
  .mul leads_resetWords (.mul (leads_probe 0) (.mul (leads_probe 1)
    (.mul (leads_probe 2) .one)))

/-- The lock bit, as the driver tests it. -/
theorem lock_bit (status : LongWord) :
    status &&& 2 = 0 ↔ status.toNat.testBit 1 = false := by
  have htwo : (2 : LongWord) = BitVec.twoPow 64 1 := by decide
  rw [htwo, BitVec.and_twoPow, BitVec.testBit_toNat]
  cases status.getLsbD 1 with
  | false => simp
  | true => decide

/-- The polls so far, none of them with the lock bit. -/
def unlockedAfter (before : List Action → Prop) (done : List Action) : Prop :=
  ∃ unlocked : List ℕ, (∀ status ∈ unlocked, status.testBit 1 = false) ∧
    added before (unlocked.map (.read 0x4002 6)) done

theorem leads_lock :
    Leads Controller.observe (At .idle before) lockTalk
      (At .idle fun done => ∃ polling, locking polling ∧
        added before polling done) := by
  have hpolls : Leads Controller.observe (At .idle (unlockedAfter before))
      (ending (readTalk 0x4002 6) (· &&& 2 = 0))∗
      (At .idle (unlockedAfter before)) := by
    refine .kstar (.of_ending fun status hstatus => ?_)
    have hread := @leads_read (unlockedAfter before) 0x4002 6 (by decide)
      (by decide) status
    refine hread.imp ?_
    rintro controller
      ⟨hphase, _, ⟨unlocked, hunlocked, earlier, hearlier, rfl⟩, hdone⟩
    refine ⟨hphase, unlocked ++ [status.toNat], ?_, earlier, hearlier, ?_⟩
    · intro poll hpoll
      rcases List.mem_append.mp hpoll with hold | hnew
      · exact hunlocked poll hold
      · rw [List.mem_singleton.mp hnew]
        exact (lock_bit status).mp hstatus
    · rw [hdone, List.map_append, List.append_assoc]
      rfl
  have hlast : Leads Controller.observe (At .idle (unlockedAfter before))
      (ending (readTalk 0x4002 6) fun status => ¬status &&& 2 = 0)
      (At .idle fun done => ∃ polling, locking polling ∧
        added before polling done) := by
    refine .of_ending fun status hstatus => ?_
    have hread := @leads_read (unlockedAfter before) 0x4002 6 (by decide)
      (by decide) status
    refine hread.imp ?_
    rintro controller
      ⟨hphase, _, ⟨unlocked, hunlocked, earlier, hearlier, rfl⟩, hdone⟩
    have hlocked : status.toNat.testBit 1 = true := by
      rw [← Bool.not_eq_false, ← lock_bit]
      exact hstatus
    refine ⟨hphase, _, ⟨unlocked, _, hunlocked, hlocked, rfl⟩, earlier,
      hearlier, ?_⟩
    rw [hdone, List.append_assoc]
  intro controller hbefore talk htalk
  obtain ⟨hphase, hdone⟩ := hbefore
  exact (hpolls.mul hlast) controller ⟨hphase, [], by simp, _, hdone, by simp⟩
    talk htalk

/-- Settings of one byte at 16-bit addresses. -/
theorem leads_settings {settings : List (Word × LongWord)}
    (hsettings : ∀ setting ∈ settings,
      (setting.1.setWidth 16).setWidth 32 = setting.1 ∧
        setting.2.toNat < 256) :
    Leads Controller.observe (At .idle before) (settingsTalk settings)
      (At .idle (added before (settings.map settingAction))) := by
  induction settings generalizing before with
  | nil =>
      refine Leads.one.imp ?_
      rintro controller ⟨hphase, hdone⟩
      exact ⟨hphase, _, hdone, (List.append_nil _).symm⟩
  | cons setting settings ih =>
      obtain ⟨haddr, hdata⟩ := hsettings setting List.mem_cons_self
      have hwrite := @leads_write before (setting.1.setWidth 16) 1 (by decide)
        (by decide) setting.2
      rw [haddr, Nat.pow_one, Nat.mod_eq_of_lt hdata] at hwrite
      refine (hwrite.mul (ih fun other hother =>
        hsettings other (List.mem_cons_of_mem _ hother))).imp ?_
      rintro controller ⟨hphase, _, ⟨earlier, hearlier, rfl⟩, hdone⟩
      refine ⟨hphase, earlier, hearlier, ?_⟩
      rw [hdone, List.append_assoc]
      rfl

theorem codecSettings_bytes : ∀ setting ∈ codecSettings,
    (setting.1.setWidth 16).setWidth 32 = setting.1 ∧
      setting.2.toNat < 256 := by
  have hall : (codecSettings.all fun setting =>
      decide ((setting.1.setWidth 16).setWidth 32 = setting.1) &&
        decide (setting.2.toNat < 256)) = true := by decide
  intro setting hsetting
  have hboth := List.all_eq_true.mp hall setting hsetting
  simpa using hboth

theorem leads_bringUp :
    Leads Controller.observe (At .idle (· = [])) bringUpTalk
      (At .idle broughtUp) := by
  have hpower := @leads_write (probed 3) 0x4000 1 (by decide) (by decide) 0x0e
  have hclock := @leads_write (added (probed 3) [.write 0x4000 1 0x0e]) 0x4002 6
    (by decide) (by decide) 0x007d000c2301
  have hlock := @leads_lock (added (added (probed 3) [.write 0x4000 1 0x0e])
    [.write 0x4002 6 0x007d000c2301])
  have henable := @leads_write (fun done => ∃ polling, locking polling ∧
    added (added (added (probed 3) [.write 0x4000 1 0x0e])
      [.write 0x4002 6 0x007d000c2301]) polling done) 0x4000 1
    (by decide) (by decide) 0xf
  refine (leads_reset.mul (hpower.mul (hclock.mul (hlock.mul
    (henable.mul (leads_settings codecSettings_bytes)))))).imp ?_
  rintro controller ⟨hphase, _, ⟨_, ⟨polling, hpolling, _, ⟨_, ⟨probing, hprobing,
    rfl⟩, rfl⟩, rfl⟩, rfl⟩, hdone⟩
  refine ⟨hphase, probing, polling, hprobing, hpolling, ?_⟩
  rw [hdone]
  simp

end Stages

/-! ## The answers that bring the codec up -/

/-- The answers to the polls of a transfer. -/
def idleAnswers : Language Word :=
  (ending (fun busy => only [busy]) (· ≠ 0))∗ * only [0]

/-- The answers of a read; the low word decides of which kind its value is. -/
def readAnswers (kind : Word → Prop) : Language Word :=
  idleAnswers * ending (fun words : Word × Word => only [words.1, words.2])
    fun words => kind words.1

/-- Three reads, two writes, the polls of the clock register, the write that
starts the clock, and one write for every setting. -/
def bringUpAnswers : Language Word :=
  readAnswers (fun _ => True) ^ 3 * idleAnswers ^ 2 *
    ((readAnswers (·.getLsbD 1 = false))∗ * readAnswers (·.getLsbD 1 = true)) *
    idleAnswers ^ (codecSettings.length + 1)

section Answers

variable {state reached : CodecState} {addr nbytes : Word}

theorem heard_idling : heard Event.reply? idling = idleAnswers := by
  have hidle : ending (fun busy : Word => only [busy]) (fun busy => ¬busy ≠ 0) =
      only [0] := by
    ext answers
    simp [mem_ending]
  rw [idling, heard_mul, heard_kstar, heard_ending, heard_ending, idleAnswers,
    ← hidle]
  simp only [heard_only]
  rfl

theorem heard_writeTalk (data : LongWord) :
    heard Event.reply? (writeTalk addr data nbytes) = idleAnswers := by
  rw [writeTalk, heard_mul, heard_only, heard_idling]
  exact one_mul _

theorem heard_reads (kind : LongWord → Prop) (lowKind : Word → Prop)
    (hkind : ∀ words, kind (joinWords nbytes words) ↔ lowKind words.1) :
    heard Event.reply? (ending (readTalk addr nbytes) kind) =
      readAnswers lowKind := by
  have hread : ending (readTalk addr nbytes) kind = _ :=
    ending_mul.trans (congrArg _ (ending_mul.trans
      (congrArg _ (ending_eq (joinWords nbytes) kind))))
  rw [hread, heard_mul, heard_only, heard_mul, heard_idling, heard_ending]
  simp only [heard_only, hkind]
  exact one_mul _

theorem heard_settingsTalk (settings : List (Word × LongWord)) :
    heard Event.reply? (settingsTalk settings) =
      idleAnswers ^ settings.length := by
  induction settings with
  | nil => exact heard_one
  | cons setting settings ih =>
      rw [settingsTalk, heard_mul, heard_writeTalk, ih, List.length_cons,
        pow_succ']

/-- The lock bit is in the low word. -/
theorem lock_low (words : Word × Word) :
    joinWords 6 words &&& 2 = 0 ↔ words.1.getLsbD 1 = false := by
  have hmask : BitVec.getLsbD
      (((1 <<< (8 * 6 : Word).toNat : ℕ) : LongWord) - 1) 1 = true := by decide
  rw [lock_bit, BitVec.testBit_toNat, joinWords, BitVec.getLsbD_and, hmask]
  simp

theorem heard_lockTalk :
    heard Event.reply? lockTalk =
      (readAnswers (·.getLsbD 1 = false))∗ *
        readAnswers (·.getLsbD 1 = true) := by
  have hlocked : ∀ words, ¬joinWords 6 words &&& 2 = 0 ↔
      words.1.getLsbD 1 = true := by
    intro words
    rw [lock_low, Bool.not_eq_false]
  rw [lockTalk, heard_mul, heard_kstar, heard_reads _ (·.getLsbD 1 = false) lock_low,
    heard_reads _ (·.getLsbD 1 = true) hlocked]

theorem heard_bringUpTalk :
    heard Event.reply? bringUpTalk = bringUpAnswers := by
  have hprobe : heard Event.reply? (ending (readTalk 0 1) fun _ => True) =
      readAnswers fun _ => True := heard_reads _ _ fun _ => Iff.rfl
  rw [bringUpTalk, resetTalk]
  simp only [heard_mul, heard_only, hprobe, heard_one, heard_writeTalk,
    heard_lockTalk, heard_settingsTalk]
  rw [bringUpAnswers]
  simp only [List.filterMap, Event.reply?, pow_succ', pow_zero, mul_assoc,
    mul_one]
  exact one_mul _

/-- A conversation is possible when its answers come next. -/
theorem exists_follow {talk : List Event}
    (hbegins : talk.filterMap Event.reply? <+: state.replies) :
    ∃ reached, follow Event.next talk state = some reached := by
  induction talk generalizing state with
  | nil => exact ⟨state, rfl⟩
  | cons event talk ih =>
      cases event with
      | write regOffset data => exact ih hbegins
      | read regOffset reply =>
          obtain ⟨later, hlater⟩ := hbegins
          have hnext : Event.next (.read regOffset reply) state = some _ :=
            next_read.mpr ⟨_, hlater.symm, rfl⟩
          rw [follow, hnext]
          exact ih ⟨later, rfl⟩

/-- The replies begin with answers that bring the codec up. -/
def Answering (replies : List Word) : Prop :=
  ∃ answers ∈ bringUpAnswers, answers <+: replies

theorem returns_of_answering (hanswering : Answering state.replies) :
    ∃ reached, initCodec state = .ok ((), reached) := by
  obtain ⟨answers, hanswers, hbegins⟩ := hanswering
  rw [← heard_bringUpTalk] at hanswers
  obtain ⟨talk, htalk, rfl⟩ := hanswers
  obtain ⟨reached, hreached⟩ := exists_follow hbegins
  exact ⟨reached, (initCodec_converses _ _ _).mpr ⟨talk, htalk, hreached⟩⟩

theorem answering_of_returns (hrun : initCodec state = .ok ((), reached)) :
    Answering state.replies := by
  obtain ⟨talk, htalk, hfollow⟩ := (initCodec_converses _ _ _).mp hrun
  rw [Answering, ← heard_bringUpTalk]
  exact ⟨_, ⟨talk, htalk, rfl⟩, _, (follow_next hfollow).1.symm⟩

/-- The driver tells whether the replies are enough. -/
instance (replies : List Word) : Decidable (Answering replies) :=
  match hrun : initCodec ⟨replies, zeroBoard⟩ with
  | .ok ((), _) => .isTrue (answering_of_returns hrun)
  | .error _ => .isFalse fun hanswering => by
      obtain ⟨reached, hreturns⟩ :=
        @returns_of_answering ⟨replies, zeroBoard⟩ hanswering
      rw [hrun] at hreturns
      cases hreturns

end Answers

/-! ## Runs -/

section Runs

variable {state reached : CodecState} {controller : Controller}

/-- When the driver returns, an idle controller has understood all its accesses
and done the actions of the bring-up, and no others. -/
theorem initCodec_broughtUp (hidle : At .idle (· = []) controller)
    (hrun : initCodec state = .ok ((), reached)) :
    ∃ talk final,
      state.replies = talk.filterMap Event.reply? ++ reached.replies ∧
      reached.board.accesses =
        (talk.map Event.access).reverse ++ state.board.accesses ∧
      follow Controller.observe talk controller = some final ∧
      At .idle broughtUp final := by
  obtain ⟨talk, htalk, hfollow⟩ := (initCodec_converses _ _ _).mp hrun
  obtain ⟨hreplies, haccesses⟩ := follow_next hfollow
  obtain ⟨final, hfinal, hdone⟩ := leads_bringUp controller hidle talk htalk
  exact ⟨talk, final, hreplies, haccesses, hfinal, hdone⟩

/-- Three transfers after the reset, two more, three polls of which the last one
reports the lock, and the settings; one of the polls of the controller finds it
busy. -/
def lockingReplies : List Word :=
  [0, 0, 0, 0, 0, 0, 1, 0, 0, 0, 0, 0] ++ [0, 1, 0, 0, 1, 0, 0, 2, 0] ++
    List.replicate 27 0

theorem initCodec_broughtUp_locking :
    ∃ reached talk final,
      initCodec ⟨lockingReplies, zeroBoard⟩ = .ok ((), reached) ∧
      reached.board.accesses = (talk.map Event.access).reverse ∧
      follow Controller.observe talk ⟨.idle, 0, 0, []⟩ = some final ∧
      At .idle broughtUp final := by
  have hreturns : ((initCodec ⟨lockingReplies, zeroBoard⟩).toOption.map
      Prod.fst) = some () := by decide +kernel
  obtain ⟨reached, hrun⟩ := exists_of_returned _ hreturns
  have hidle : At .idle (· = []) (⟨.idle, 0, 0, []⟩ : Controller) := ⟨rfl, rfl⟩
  obtain ⟨talk, final, _, haccesses, hfinal, hdone⟩ :=
    initCodec_broughtUp hidle hrun
  exact ⟨reached, talk, final, hrun,
    haccesses.trans (List.append_nil _), hfinal, hdone⟩

/-- The driver returns exactly when the codec goes idle after every transfer and
its clock locks. -/
theorem initCodec_returns_iff (state : CodecState) :
    (∃ reached, initCodec state = .ok ((), reached)) ↔
      ∃ answers ∈ bringUpAnswers, answers <+: state.replies :=
  ⟨fun ⟨_, hrun⟩ => answering_of_returns hrun, returns_of_answering⟩

end Runs

end Songpark.Codec
