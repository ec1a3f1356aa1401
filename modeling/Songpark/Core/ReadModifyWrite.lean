import Songpark.Core.StateProgram
import Mathlib.Data.List.Nodup
import Mathlib.Logic.Function.Basic

/-!
# Cells that are read, changed and written back

Any number of clients work on shared cells.  A client either replaces its cell
in one access, or it reads the cell, computes, and writes the result back in a
second access.  Between the two others may write the same cell, and what they
wrote is then overwritten.

Two results hold for all orders of the accesses.  A cell always holds what some
of the clients would have left in it one after the other; and as long as nobody
writes a cell that another client is about to write back, these are all clients
that have written.
-/

namespace Songpark.ReadModifyWrite

open Songpark.StateProgram

variable {Client Key Val : Type}

/-- What a client does: the cell, the new value computed from the old one, if
there is one, and whether the cell is replaced in one access. -/
structure Job (Key Val : Type) where
  key : Key
  change : Val → Option Val
  atomic : Bool

/-- How far a client is. -/
inductive Stage (Key Val : Type)
  | ready
  | holding (job : Job Key Val) (seen : Val)
  | finished

/-- The cells, the clients, and the clients that have written, the first one
first. -/
structure World (Client Key Val : Type) where
  cells : Key → Val
  stage : Client → Stage Key Val
  writers : List Client

/-- No client has made an access. -/
def fresh (cells : Key → Val) : World Client Key Val :=
  ⟨cells, fun _ => .ready, []⟩

/-- A finished client takes no turn. -/
inductive Finished
  | finished

variable [DecidableEq Client] [DecidableEq Key]

def World.move (world : World Client Key Val) (client : Client)
    (stage : Stage Key Val) : World Client Key Val :=
  { world with stage := Function.update world.stage client stage }

/-- The last access of a client that has seen this value. -/
def World.store (world : World Client Key Val) (client : Client)
    (job : Job Key Val) (seen : Val) : World Client Key Val :=
  match job.change seen with
  | some value =>
      { cells := Function.update world.cells job.key value
        stage := Function.update world.stage client .finished
        writers := world.writers ++ [client] }
  | none => world.move client .finished

/-- The next access of a client; without a job it makes none. -/
def take (jobs : Client → Option (Job Key Val)) (client : Client)
    (world : World Client Key Val) : Except Finished (World Client Key Val) :=
  match world.stage client with
  | .ready =>
      match jobs client with
      | none => .ok (world.move client .finished)
      | some job =>
          if job.atomic then
            .ok (world.store client job (world.cells job.key))
          else .ok (world.move client (.holding job (world.cells job.key)))
  | .holding job seen => .ok (world.store client job seen)
  | .finished => .error .finished

/-! ## One client after the other -/

/-- What a client that is alone makes of a cell. -/
def effect (job : Option (Job Key Val)) (key : Key) (value : Val) : Val :=
  match job with
  | some job =>
      if job.key = key then (job.change value).getD value else value
  | none => value

/-- A cell after the clients, each of them alone. -/
def serial (jobs : Client → Option (Job Key Val)) (key : Key)
    (clients : List Client) (value : Val) : Val :=
  clients.foldl (fun value client => effect (jobs client) key value) value

section Serial

variable {jobs : Client → Option (Job Key Val)} {key : Key}
variable {client : Client} {clients : List Client} {value : Val}
variable {job : Job Key Val}

omit [DecidableEq Client] in
@[simp]
theorem serial_concat :
    serial jobs key (clients ++ [client]) value =
      effect (jobs client) key (serial jobs key clients value) := by
  simp [serial]

theorem effect_some :
    effect (some job) key value =
      if job.key = key then (job.change value).getD value else value := rfl

theorem effect_of_key_ne (hkey : job.key ≠ key) :
    effect (some job) key value = value :=
  if_neg hkey

theorem effect_of_change {new : Val} (hchange : job.change value = some new) :
    effect (some job) job.key value = new := by
  rw [effect, if_pos rfl, hchange, Option.getD_some]

end Serial

/-! ## What a turn does -/

section Turns

variable {jobs : Client → Option (Job Key Val)} {client : Client}
variable {world reached : World Client Key Val} {job : Job Key Val} {seen : Val}

/-- The client replaces its cell in one access and has not done so. -/
def Replacing (jobs : Client → Option (Job Key Val))
    (world : World Client Key Val) (client : Client) (job : Job Key Val) :
    Prop :=
  world.stage client = .ready ∧ jobs client = some job ∧ job.atomic

/-- A turn only reads or gives up, or it is the last access of a client that
has seen its cell now or before. -/
theorem take_cases (htake : take jobs client world = .ok reached) :
    (∃ stage, reached = world.move client stage ∧
      (stage = .finished ∨ ∃ job, jobs client = some job ∧
        stage = .holding job (world.cells job.key))) ∨
    (∃ job seen, reached = world.store client job seen ∧
      ((Replacing jobs world client job ∧ seen = world.cells job.key) ∨
        world.stage client = .holding job seen)) := by
  unfold take at htake
  cases hstage : world.stage client with
  | ready =>
      rw [hstage] at htake
      cases hjob : jobs client with
      | none =>
          rw [hjob] at htake
          cases htake
          exact Or.inl ⟨_, rfl, Or.inl rfl⟩
      | some job =>
          simp only [hjob] at htake
          split at htake
          case isTrue hatomic =>
            cases htake
            exact Or.inr ⟨job, _, rfl, Or.inl ⟨⟨hstage, hjob, hatomic⟩, rfl⟩⟩
          case isFalse =>
            cases htake
            exact Or.inl ⟨_, rfl, Or.inr ⟨job, rfl, rfl⟩⟩
  | holding job seen =>
      rw [hstage] at htake
      cases htake
      exact Or.inr ⟨job, seen, rfl, Or.inr rfl⟩
  | finished =>
      rw [hstage] at htake
      cases htake

theorem store_of_change {value : Val} (hchange : job.change seen = some value) :
    world.store client job seen =
      { cells := Function.update world.cells job.key value
        stage := Function.update world.stage client .finished
        writers := world.writers ++ [client] } := by
  rw [World.store, hchange]

theorem store_of_failed (hchange : job.change seen = none) :
    world.store client job seen = world.move client .finished := by
  rw [World.store, hchange]

omit [DecidableEq Key] in
theorem move_stage_eq {other : Client} {stage : Stage Key Val}
    (hother : (world.move client stage).stage other = .holding job seen) :
    (other = client ∧ stage = .holding job seen) ∨
      (other ≠ client ∧ world.stage other = .holding job seen) := by
  by_cases hsame : other = client
  · subst hsame
    have hself : (world.move other stage).stage other = stage :=
      Function.update_self _ _ _
    exact Or.inl ⟨rfl, hself.symm.trans hother⟩
  · have hkept : (world.move client stage).stage other = world.stage other :=
      Function.update_of_ne hsame _ _
    exact Or.inr ⟨hsame, hkept.symm.trans hother⟩

/-- Another client's stage is not touched by a last access. -/
theorem store_stage_eq {other : Client} {held : Job Key Val} {value : Val}
    (hother : (world.store client job seen).stage other =
      .holding held value) :
    other ≠ client ∧ world.stage other = .holding held value := by
  cases hchange : job.change seen with
  | none =>
      rw [store_of_failed hchange] at hother
      rcases move_stage_eq hother with ⟨_, hstage⟩ | hkept
      · cases hstage
      · exact hkept
  | some new =>
      rw [store_of_change hchange] at hother
      by_cases hsame : other = client
      · rw [hsame] at hother
        cases (Function.update_self _ _ _).symm.trans hother
      · exact ⟨hsame, (Function.update_of_ne hsame _ _).symm.trans hother⟩

end Turns

/-! ## Every value comes from clients one after the other -/

/-- Cells and seen values are those of some of the writers, in their order and
each of them alone. -/
structure FromSerial (jobs : Client → Option (Job Key Val)) (cells : Key → Val)
    (world : World Client Key Val) : Prop where
  known : ∀ client job seen,
    world.stage client = .holding job seen → jobs client = some job
  cell : ∀ key, ∃ chain : List Client, chain.Sublist world.writers ∧
    world.cells key = serial jobs key chain (cells key)
  seen : ∀ client job seen, world.stage client = .holding job seen →
    ∃ chain : List Client, chain.Sublist world.writers ∧
      seen = serial jobs job.key chain (cells job.key)

section FromSerial

variable {jobs : Client → Option (Job Key Val)} {cells : Key → Val}
variable {client : Client} {world reached : World Client Key Val}
variable {job : Job Key Val} {seen : Val}

omit [DecidableEq Client] in
theorem fromSerial_fresh : FromSerial jobs cells (fresh cells) where
  known _ _ _ hstage := by cases hstage
  cell key := ⟨[], List.Sublist.slnil, rfl⟩
  seen _ _ _ hstage := by cases hstage

theorem fromSerial_move {stage : Stage Key Val}
    (hserial : FromSerial jobs cells world)
    (hstage : stage = .finished ∨ ∃ job, jobs client = some job ∧
      stage = .holding job (world.cells job.key)) :
    FromSerial jobs cells (world.move client stage) where
  known other held value hother := by
    rcases move_stage_eq hother with ⟨rfl, hheld⟩ | ⟨_, hkept⟩
    · rcases hstage with rfl | ⟨job, hjob, rfl⟩
      · cases hheld
      · cases hheld
        exact hjob
    · exact hserial.known other held value hkept
  cell := hserial.cell
  seen other held value hother := by
    rcases move_stage_eq hother with ⟨rfl, hheld⟩ | ⟨_, hkept⟩
    · rcases hstage with rfl | ⟨job, _, rfl⟩
      · cases hheld
      · cases hheld
        exact hserial.cell held.key
    · exact hserial.seen other held value hkept

/-- The value that a client has seen comes from a chain of writers; the client
itself extends the chain. -/
theorem fromSerial_store (hserial : FromSerial jobs cells world)
    (hjob : jobs client = some job)
    (hseen : ∃ chain : List Client, chain.Sublist world.writers ∧
      seen = serial jobs job.key chain (cells job.key)) :
    FromSerial jobs cells (world.store client job seen) := by
  cases hchange : job.change seen with
  | none =>
      rw [store_of_failed hchange]
      exact fromSerial_move hserial (Or.inl rfl)
  | some value =>
      have hlonger : ∀ chain : List Client, chain.Sublist world.writers →
          chain.Sublist (world.writers ++ [client]) := fun chain hchain =>
        hchain.trans (List.sublist_append_left _ _)
      constructor
      · intro other held old hother
        exact hserial.known other held old (store_stage_eq hother).2
      · intro key
        rw [store_of_change hchange]
        by_cases hkey : key = job.key
        · subst hkey
          obtain ⟨chain, hchain, rfl⟩ := hseen
          refine ⟨chain ++ [client], hchain.append_right [client], ?_⟩
          rw [serial_concat, hjob, effect_of_change hchange]
          exact Function.update_self _ _ _
        · obtain ⟨chain, hchain, hcell⟩ := hserial.cell key
          refine ⟨chain, hlonger chain hchain, ?_⟩
          rw [← hcell]
          exact Function.update_of_ne hkey _ _
      · intro other held old hother
        obtain ⟨chain, hchain, hold⟩ :=
          hserial.seen other held old (store_stage_eq hother).2
        rw [store_of_change hchange]
        exact ⟨chain, hlonger chain hchain, hold⟩

theorem fromSerial_take (hserial : FromSerial jobs cells world)
    (htake : take jobs client world = .ok reached) :
    FromSerial jobs cells reached := by
  rcases take_cases htake with
    ⟨stage, rfl, hstage⟩ | ⟨job, seen, rfl, ⟨⟨_, hjob, _⟩, rfl⟩ | hstage⟩
  · exact fromSerial_move hserial hstage
  · exact fromSerial_store hserial hjob (hserial.cell job.key)
  · exact fromSerial_store hserial (hserial.known client job seen hstage)
      (hserial.seen client job seen hstage)

/-- After any accesses in any order, each cell holds what some of the writers
leave in it one after the other. -/
theorem run_fromSerial {turns : List Client}
    (hrun : run (take jobs) turns (fresh cells) = .ok reached) :
    FromSerial jobs cells reached :=
  run_invariant (FromSerial jobs cells)
    (fun _ _ _ _ hserial htake => fromSerial_take hserial htake) hrun
    fromSerial_fresh

end FromSerial

/-! ## Accesses that do not cross -/

/-- The client is about to make its last access. -/
def Storing (jobs : Client → Option (Job Key Val))
    (world : World Client Key Val) (client : Client) (job : Job Key Val) :
    Prop :=
  Replacing jobs world client job ∨
    ∃ seen, world.stage client = .holding job seen

/-- Nobody else is about to write back the cell that the client stores. -/
def Undisturbing (jobs : Client → Option (Job Key Val)) (client : Client)
    (world : World Client Key Val) : Prop :=
  ∀ job, Storing jobs world client job →
    ∀ other held seen, other ≠ client →
      world.stage other = .holding held seen → held.key ≠ job.key

/-- The cells are those of all writers, in their order and each of them alone;
what a client has seen is still there. -/
structure InOrder (jobs : Client → Option (Job Key Val)) (cells : Key → Val)
    (world : World Client Key Val) : Prop where
  known : ∀ client job seen,
    world.stage client = .holding job seen → jobs client = some job
  cell : ∀ key, world.cells key = serial jobs key world.writers (cells key)
  seen : ∀ client job seen, world.stage client = .holding job seen →
    seen = world.cells job.key

section InOrder

variable {jobs : Client → Option (Job Key Val)} {cells : Key → Val}
variable {client : Client} {world reached : World Client Key Val}
variable {job : Job Key Val}

omit [DecidableEq Client] in
theorem inOrder_fresh : InOrder jobs cells (fresh cells) where
  known _ _ _ hstage := by cases hstage
  cell _ := rfl
  seen _ _ _ hstage := by cases hstage

theorem inOrder_move {stage : Stage Key Val}
    (horder : InOrder jobs cells world)
    (hstage : stage = .finished ∨ ∃ job, jobs client = some job ∧
      stage = .holding job (world.cells job.key)) :
    InOrder jobs cells (world.move client stage) where
  known other held value hother := by
    rcases move_stage_eq hother with ⟨rfl, hheld⟩ | ⟨_, hkept⟩
    · rcases hstage with rfl | ⟨job, hjob, rfl⟩
      · cases hheld
      · cases hheld
        exact hjob
    · exact horder.known other held value hkept
  cell := horder.cell
  seen other held value hother := by
    rcases move_stage_eq hother with ⟨rfl, hheld⟩ | ⟨_, hkept⟩
    · rcases hstage with rfl | ⟨job, _, rfl⟩
      · cases hheld
      · cases hheld
        rfl
    · exact horder.seen other held value hkept

theorem inOrder_store (horder : InOrder jobs cells world)
    (hjob : jobs client = some job)
    (hquiet : ∀ other held seen, other ≠ client →
      world.stage other = .holding held seen → held.key ≠ job.key) :
    InOrder jobs cells (world.store client job (world.cells job.key)) := by
  cases hchange : job.change (world.cells job.key) with
  | none =>
      rw [store_of_failed hchange]
      exact inOrder_move horder (Or.inl rfl)
  | some value =>
      constructor
      · intro other held old hother
        exact horder.known other held old (store_stage_eq hother).2
      · intro key
        rw [store_of_change hchange, serial_concat, hjob, ← horder.cell key]
        by_cases hkey : key = job.key
        · subst hkey
          rw [effect_of_change hchange]
          exact Function.update_self _ _ _
        · rw [effect_of_key_ne (Ne.symm hkey)]
          exact Function.update_of_ne hkey _ _
      · intro other held old hother
        obtain ⟨hne, hkept⟩ := store_stage_eq hother
        have hkey : held.key ≠ job.key := hquiet other held old hne hkept
        rw [store_of_change hchange, horder.seen other held old hkept]
        exact (Function.update_of_ne hkey _ _).symm

theorem inOrder_take (horder : InOrder jobs cells world)
    (hquiet : Undisturbing jobs client world)
    (htake : take jobs client world = .ok reached) :
    InOrder jobs cells reached := by
  rcases take_cases htake with
    ⟨stage, rfl, hstage⟩ | ⟨job, seen, rfl, ⟨hreplacing, rfl⟩ | hstage⟩
  · exact inOrder_move horder hstage
  · exact inOrder_store horder hreplacing.2.1
      (hquiet job (Or.inl hreplacing))
  · have hseen := horder.seen client job seen hstage
    subst hseen
    exact inOrder_store horder (horder.known client job _ hstage)
      (hquiet job (Or.inr ⟨_, hstage⟩))

/-- When no last access crosses the two accesses of another client, all writers
count. -/
theorem run_inOrder {turns : List Client}
    (hquiet : EveryStep (take jobs) turns (fresh cells)
      fun _ client world => Undisturbing jobs client world)
    (hrun : run (take jobs) turns (fresh cells) = .ok reached) :
    InOrder jobs cells reached :=
  have halways : Always (take jobs) turns (fresh cells)
      fun _ world => InOrder jobs cells world :=
    always_of_everyStep inOrder_fresh
      (fun _ _ _ _ horder hallowed htake => inOrder_take horder hallowed htake)
      hquiet
  halways turns (List.prefix_refl turns) reached hrun

end InOrder

end Songpark.ReadModifyWrite
