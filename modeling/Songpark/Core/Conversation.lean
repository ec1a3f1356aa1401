import Songpark.Core.StateProgram
import Mathlib.Computability.Language

/-!
# Conversations with a device

What a polling driver does next depends on what the device answers.  An event is
one access together with its answer, and the conversations after which a program
returns a value are a language of events.  The rules of this file read that
language off the program, polling loops included.

An observer goes through the events of a conversation as well, and may refuse
one.  `Leads` is its Hoare triple: it accepts every conversation of a language,
and ends in a state of the postcondition.
-/

namespace Songpark.Conversation

open Songpark.StateProgram
open scoped Computability

variable {Halt State Event Seen α β : Type}

/-- The state after all events, if every one of them is possible in its turn. -/
def follow (next : Event → State → Option State) :
    List Event → State → Option State
  | [], state => some state
  | event :: talk, state => (next event state).bind (follow next talk)

section Follow

variable {next : Event → State → Option State} {first second : List Event}
variable {state reached : State}

theorem follow_append :
    follow next (first ++ second) state =
      (follow next first state).bind (follow next second) := by
  induction first generalizing state with
  | nil => rfl
  | cons event talk ih =>
      rw [List.cons_append, follow, follow, Option.bind_assoc]
      exact congrArg _ (funext fun middle => ih)

theorem follow_append_eq_some :
    follow next (first ++ second) state = some reached ↔
      ∃ middle, follow next first state = some middle ∧
        follow next second middle = some reached := by
  rw [follow_append, Option.bind_eq_some_iff]

theorem follow_singleton (event : Event) :
    follow next [event] state = next event state := by
  rw [follow]
  cases next event state with
  | none => rfl
  | some reached => rfl

end Follow

/-- The conversation that consists of the given events. -/
def only (talk : List Event) : Language Event := {talk}

/-- The conversations that end with a value of the given kind. -/
def ending (talks : α → Language Event) (kind : α → Prop) : Language Event :=
  {talk | ∃ value, kind value ∧ talk ∈ talks value}

section Languages

variable {talk : List Event} {talks : α → Language Event} {kind : α → Prop}
variable {language later : Language Event}

@[simp]
theorem mem_only {other : List Event} : other ∈ only talk ↔ other = talk :=
  Iff.rfl

@[simp]
theorem mem_ending :
    talk ∈ ending talks kind ↔ ∃ value, kind value ∧ talk ∈ talks value :=
  Iff.rfl

/-- A beginning that does not depend on the value. -/
theorem ending_mul :
    ending (fun value => language * talks value) kind =
      language * ending talks kind := by
  ext talk
  constructor
  · rintro ⟨value, hkind, hmul⟩
    obtain ⟨first, hfirst, second, hsecond, rfl⟩ := Language.mem_mul.mp hmul
    exact Language.append_mem_mul hfirst ⟨value, hkind, hsecond⟩
  · intro hmul
    obtain ⟨first, hfirst, second, ⟨value, hkind, hsecond⟩, rfl⟩ :=
      Language.mem_mul.mp hmul
    exact ⟨value, hkind, Language.append_mem_mul hfirst hsecond⟩

/-- A value that is computed from another. -/
theorem ending_eq (f : α → β) (kind : β → Prop) :
    ending (fun result => ending talks fun value => f value = result) kind =
      ending talks fun value => kind (f value) := by
  ext talk
  constructor
  · rintro ⟨_, hkind, value, rfl, htalk⟩
    exact ⟨value, hkind, htalk⟩
  · rintro ⟨value, hkind, htalk⟩
    exact ⟨f value, hkind, value, rfl, htalk⟩

theorem only_mul_only (first second : List Event) :
    only first * only second = only (first ++ second) := by
  ext other
  constructor
  · intro hmul
    obtain ⟨_, rfl, _, rfl, rfl⟩ := Language.mem_mul.mp hmul
    rfl
  · rintro rfl
    exact Language.append_mem_mul rfl rfl

/-- Fixed events one after the other. -/
theorem only_mul (first second : List Event) :
    only first * (only second * language) =
      only (first ++ second) * language := by
  rw [← mul_assoc, only_mul_only]

/-- Repetitions are none, or one before the others. -/
theorem mem_kstar_mul :
    talk ∈ language∗ * later ↔
      talk ∈ later ∨ talk ∈ language * (language∗ * later) := by
  rw [← mul_assoc, ← Language.mem_add, ← one_add_mul,
    Language.one_add_self_mul_kstar_eq_kstar]

end Languages

/-! ## Programs -/

/-- The program returns a value exactly after the conversations of a language,
and in the state they lead to. -/
def Converses (next : Event → State → Option State)
    (program : Program Halt State α) (talks : α → Language Event) : Prop :=
  ∀ state value reached, program state = .ok (value, reached) ↔
    ∃ talk ∈ talks value, follow next talk state = some reached

section Converses

variable {next : Event → State → Option State}
variable {program : Program Halt State α} {talks : α → Language Event}

theorem Converses.congr {others : α → Language Event}
    (hprogram : Converses next program talks)
    (hsame : ∀ value, talks value = others value) :
    Converses next program others := by
  rwa [← funext hsame]

/-- A program without an access returns at once. -/
theorem Converses.pure (value : α) :
    Converses next (Pure.pure value : Program Halt State α) fun result =>
      ending (fun _ : Unit => 1) fun _ => result = value := by
  intro state result reached
  constructor
  · intro hrun
    cases hrun
    exact ⟨[], ⟨(), rfl, rfl⟩, rfl⟩
  · rintro ⟨talk, ⟨_, rfl, htalk⟩, hfollow⟩
    cases htalk
    cases hfollow
    rfl

theorem Converses.unit :
    Converses next (Pure.pure () : Program Halt State Unit) fun _ => 1 := by
  refine (Converses.pure ()).congr fun result => ?_
  ext talk
  exact ⟨fun ⟨_, _, htalk⟩ => htalk, fun htalk => ⟨(), rfl, htalk⟩⟩

/-- One access. -/
theorem Converses.single {event : α → Event}
    (hprogram : ∀ state value reached,
      program state = .ok (value, reached) ↔
        next (event value) state = some reached) :
    Converses next program fun value => only [event value] := by
  intro state value reached
  rw [hprogram]
  constructor
  · intro hnext
    exact ⟨_, rfl, (follow_singleton _).trans hnext⟩
  · rintro ⟨talk, rfl, hfollow⟩
    exact (follow_singleton _).symm.trans hfollow

/-- What follows a program comes after its conversation. -/
theorem Converses.bind {after : α → Program Halt State β}
    {later : α → β → Language Event} (hprogram : Converses next program talks)
    (hafter : ∀ value, Converses next (after value) (later value)) :
    Converses next (program >>= after) fun result =>
      {talk | ∃ value, talk ∈ talks value * later value result} := by
  intro state result reached
  constructor
  · intro hrun
    obtain ⟨value, middle, hfirst, hsecond⟩ := bind_eq_ok.mp hrun
    obtain ⟨first, htalk, hmiddle⟩ := (hprogram _ _ _).mp hfirst
    obtain ⟨second, hlater, hreached⟩ := (hafter value _ _ _).mp hsecond
    exact ⟨first ++ second, ⟨value, Language.append_mem_mul htalk hlater⟩,
      follow_append_eq_some.mpr ⟨middle, hmiddle, hreached⟩⟩
  · rintro ⟨talk, ⟨value, hmul⟩, hfollow⟩
    obtain ⟨first, htalk, second, hlater, rfl⟩ := Language.mem_mul.mp hmul
    obtain ⟨middle, hmiddle, hreached⟩ := follow_append_eq_some.mp hfollow
    exact bind_eq_ok.mpr ⟨value, middle,
      (hprogram _ _ _).mpr ⟨first, htalk, hmiddle⟩,
      (hafter value _ _ _).mpr ⟨second, hlater, hreached⟩⟩

/-- The same when the first program returns no value. -/
theorem Converses.seq {first : Program Halt State Unit}
    {after : Unit → Program Halt State β} {language : Language Event}
    {later : β → Language Event}
    (hfirst : Converses next first fun _ => language)
    (hafter : Converses next (after ()) later) :
    Converses next (first >>= after) fun result => language * later result := by
  refine (Converses.bind hfirst fun _ => hafter).congr fun result => ?_
  ext talk
  exact ⟨fun ⟨_, hmul⟩ => hmul, fun hmul => ⟨(), hmul⟩⟩

/-- A value that is not used. -/
theorem Converses.ignore {after : α → Program Halt State β}
    {later : β → Language Event} (hprogram : Converses next program talks)
    (hafter : ∀ value, Converses next (after value) later) :
    Converses next (program >>= after) fun result =>
      ending talks (fun _ => True) * later result := by
  refine (Converses.bind hprogram hafter).congr fun result => ?_
  ext talk
  constructor
  · rintro ⟨value, hmul⟩
    obtain ⟨first, htalk, second, hlater, rfl⟩ := Language.mem_mul.mp hmul
    exact Language.append_mem_mul ⟨value, trivial, htalk⟩ hlater
  · intro hmul
    obtain ⟨first, ⟨value, _, htalk⟩, second, hlater, rfl⟩ :=
      Language.mem_mul.mp hmul
    exact ⟨value, Language.append_mem_mul htalk hlater⟩

end Converses

/-! ### Polling

A loop asks until the answer is of a kind.  Every round uses up some of a bound
that the state gives, and the rounds it is given are at least as many. -/

section Polling

variable {next : Event → State → Option State}
variable {body : Program Halt State α} {loop : ℕ → Program Halt State Unit}
variable {talks : α → Language Event} {again : α → Prop} [DecidablePred again]
variable {left : State → ℕ}

theorem Converses.rounds
    (hzero : ∀ state result, loop 0 state ≠ .ok result)
    (hsucc : ∀ rounds, loop (rounds + 1) = body >>= fun value =>
      if again value then loop rounds else Pure.pure ())
    (hbody : Converses next body talks)
    (hleft : ∀ value, ∀ talk ∈ talks value, ∀ state reached,
      follow next talk state = some reached → left reached < left state)
    {rounds : ℕ} {state reached : State} (hrounds : left state ≤ rounds) :
    loop rounds state = .ok ((), reached) ↔
      ∃ talk ∈ (ending talks again)∗ * ending talks fun value => ¬again value,
        follow next talk state = some reached := by
  induction rounds generalizing state with
  | zero =>
      refine iff_of_false (hzero _ _) ?_
      rintro ⟨talk, hmul, hfollow⟩
      rcases mem_kstar_mul.mp hmul with hlast | hmore
      · obtain ⟨value, _, htalk⟩ := hlast
        have hless := hleft value talk htalk _ _ hfollow
        omega
      · obtain ⟨first, ⟨value, _, htalk⟩, second, _, rfl⟩ :=
          Language.mem_mul.mp hmore
        obtain ⟨middle, hmiddle, _⟩ := follow_append_eq_some.mp hfollow
        have hless := hleft value first htalk _ _ hmiddle
        omega
  | succ rounds ih =>
      rw [hsucc, bind_eq_ok]
      constructor
      · rintro ⟨value, middle, hfirst, hrest⟩
        obtain ⟨first, htalk, hmiddle⟩ := (hbody _ _ _).mp hfirst
        have hless := hleft value first htalk _ _ hmiddle
        by_cases hagain : again value
        · rw [if_pos hagain] at hrest
          obtain ⟨second, hsecond, hreached⟩ := (ih (by omega)).mp hrest
          exact ⟨first ++ second, mem_kstar_mul.mpr (Or.inr
            (Language.append_mem_mul ⟨value, hagain, htalk⟩ hsecond)),
            follow_append_eq_some.mpr ⟨middle, hmiddle, hreached⟩⟩
        · rw [if_neg hagain] at hrest
          cases hrest
          exact ⟨first, mem_kstar_mul.mpr (Or.inl ⟨value, hagain, htalk⟩),
            hmiddle⟩
      · rintro ⟨talk, hmul, hfollow⟩
        rcases mem_kstar_mul.mp hmul with hlast | hmore
        · obtain ⟨value, hagain, htalk⟩ := hlast
          exact ⟨value, reached, (hbody _ _ _).mpr ⟨talk, htalk, hfollow⟩,
            by rw [if_neg hagain]; rfl⟩
        · obtain ⟨first, ⟨value, hagain, htalk⟩, second, hsecond, rfl⟩ :=
            Language.mem_mul.mp hmore
          obtain ⟨middle, hmiddle, hreached⟩ := follow_append_eq_some.mp hfollow
          have hless := hleft value first htalk _ _ hmiddle
          refine ⟨value, middle,
            (hbody _ _ _).mpr ⟨first, htalk, hmiddle⟩, ?_⟩
          rw [if_pos hagain]
          exact (ih (by omega)).mpr ⟨second, hsecond, hreached⟩

/-- The loop, with the bound as its number of rounds. -/
theorem Converses.untilDone
    (hzero : ∀ state result, loop 0 state ≠ .ok result)
    (hsucc : ∀ rounds, loop (rounds + 1) = body >>= fun value =>
      if again value then loop rounds else Pure.pure ())
    (hbody : Converses next body talks)
    (hleft : ∀ value, ∀ talk ∈ talks value, ∀ state reached,
      follow next talk state = some reached → left reached < left state) :
    Converses next (observe left >>= loop) fun _ =>
      (ending talks again)∗ * ending talks fun value => ¬again value :=
  fun _ _ _ => Converses.rounds hzero hsucc hbody hleft le_rfl

end Polling

/-! ## Observers -/

/-- From a state of the precondition the observer accepts every conversation of
the language, and reaches a state of the postcondition. -/
def Leads (observe : Event → Seen → Option Seen) (before : Seen → Prop)
    (language : Language Event) (after : Seen → Prop) : Prop :=
  ∀ seen, before seen → ∀ talk ∈ language,
    ∃ final, follow observe talk seen = some final ∧ after final

namespace Leads

variable {observe : Event → Seen → Option Seen}
variable {before between after : Seen → Prop}
variable {language later : Language Event}

theorem mul (hlanguage : Leads observe before language between)
    (hlater : Leads observe between later after) :
    Leads observe before (language * later) after := by
  intro seen hbefore talk hmul
  obtain ⟨first, hfirst, second, hsecond, rfl⟩ := Language.mem_mul.mp hmul
  obtain ⟨middle, hmiddle, hbetween⟩ := hlanguage seen hbefore first hfirst
  obtain ⟨final, hfinal, hafter⟩ := hlater middle hbetween second hsecond
  exact ⟨final, follow_append_eq_some.mpr ⟨middle, hmiddle, hfinal⟩, hafter⟩

theorem one : Leads observe before 1 before := by
  intro seen hbefore talk htalk
  cases htalk
  exact ⟨seen, rfl, hbefore⟩

/-- The precondition is the invariant of a repetition. -/
theorem kstar (hlanguage : Leads observe before language before) :
    Leads observe before language∗ before := by
  intro seen hbefore talk hstar
  obtain ⟨parts, rfl, hparts⟩ := Language.mem_kstar.mp hstar
  induction parts generalizing seen with
  | nil => exact ⟨seen, rfl, hbefore⟩
  | cons part parts ih =>
      obtain ⟨middle, hmiddle, hbetween⟩ :=
        hlanguage seen hbefore part (hparts part List.mem_cons_self)
      have hrest : ∀ other ∈ parts, other ∈ language := fun other hother =>
        hparts other (List.mem_cons_of_mem _ hother)
      obtain ⟨final, hfinal, hafter⟩ :=
        ih middle hbetween hrest (Language.join_mem_kstar hrest)
      exact ⟨final, follow_append_eq_some.mpr ⟨middle, hmiddle, hfinal⟩, hafter⟩

theorem of_only {talk : List Event}
    (htalk : ∀ seen, before seen →
      ∃ final, follow observe talk seen = some final ∧ after final) :
    Leads observe before (only talk) after := by
  intro seen hbefore other hother
  rw [mem_only.mp hother]
  exact htalk seen hbefore

theorem of_ending {talks : α → Language Event} {kind : α → Prop}
    (htalks : ∀ value, kind value → Leads observe before (talks value) after) :
    Leads observe before (ending talks kind) after := by
  rintro seen hbefore talk ⟨value, hkind, htalk⟩
  exact htalks value hkind seen hbefore talk htalk

theorem imp {weaker : Seen → Prop} (hlanguage : Leads observe before language after)
    (himp : ∀ seen, after seen → weaker seen) :
    Leads observe before language weaker := by
  intro seen hbefore talk htalk
  obtain ⟨final, hfinal, hafter⟩ := hlanguage seen hbefore talk htalk
  exact ⟨final, hfinal, himp final hafter⟩

end Leads

/-! ## What is heard

A driver decides nothing by what it writes: whether it returns depends on the
answers alone. -/

section Heard

variable {Answer : Type} {hear : Event → Option Answer}
variable {language later : Language Event}

/-- The answers of the conversations of a language. -/
def heard (hear : Event → Option Answer) (language : Language Event) :
    Language Answer :=
  {answers | ∃ talk ∈ language, talk.filterMap hear = answers}

theorem heard_one : heard hear 1 = 1 := by
  ext answers
  constructor
  · rintro ⟨_, rfl, rfl⟩
    rfl
  · rintro rfl
    exact ⟨[], rfl, rfl⟩

theorem heard_only (talk : List Event) :
    heard hear (only talk) = only (talk.filterMap hear) := by
  ext answers
  constructor
  · rintro ⟨_, rfl, rfl⟩
    rfl
  · rintro rfl
    exact ⟨talk, rfl, rfl⟩

theorem heard_mul :
    heard hear (language * later) = heard hear language * heard hear later := by
  ext answers
  constructor
  · rintro ⟨_, hmul, rfl⟩
    obtain ⟨first, hfirst, second, hsecond, rfl⟩ := Language.mem_mul.mp hmul
    rw [List.filterMap_append]
    exact Language.append_mem_mul ⟨first, hfirst, rfl⟩ ⟨second, hsecond, rfl⟩
  · intro hmul
    obtain ⟨_, ⟨first, hfirst, rfl⟩, _, ⟨second, hsecond, rfl⟩, rfl⟩ :=
      Language.mem_mul.mp hmul
    exact ⟨first ++ second, Language.append_mem_mul hfirst hsecond,
      List.filterMap_append⟩

theorem heard_ending (talks : α → Language Event) (kind : α → Prop) :
    heard hear (ending talks kind) =
      ending (fun value => heard hear (talks value)) kind := by
  ext answers
  constructor
  · rintro ⟨talk, ⟨value, hkind, htalk⟩, hanswers⟩
    exact ⟨value, hkind, talk, htalk, hanswers⟩
  · rintro ⟨value, hkind, talk, htalk, hanswers⟩
    exact ⟨talk, ⟨value, hkind, htalk⟩, hanswers⟩

theorem heard_pow (count : ℕ) :
    heard hear (language ^ count) = heard hear language ^ count := by
  induction count with
  | zero => exact heard_one
  | succ count ih => rw [pow_succ, pow_succ, heard_mul, ih]

theorem heard_kstar : heard hear language∗ = (heard hear language)∗ := by
  ext answers
  rw [Language.kstar_eq_iSup_pow, Language.kstar_eq_iSup_pow,
    Language.mem_iSup]
  simp only [← heard_pow]
  constructor
  · rintro ⟨talk, hstar, hanswers⟩
    obtain ⟨count, htalk⟩ := Language.mem_iSup.mp hstar
    exact ⟨count, talk, htalk, hanswers⟩
  · rintro ⟨count, talk, htalk, hanswers⟩
    exact ⟨talk, Language.mem_iSup.mpr ⟨count, htalk⟩, hanswers⟩

end Heard

end Songpark.Conversation
