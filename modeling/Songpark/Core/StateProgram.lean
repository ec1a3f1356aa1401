import Songpark.Core.LastSet
import Mathlib.Data.List.Induction
import Mathlib.Tactic.TypeStar

/-!
# Programs over a state, and their runs

A command handler updates one state and may stop the process instead of
returning.  `Program` is that shape, and `Keeps` is its frame rule: the program
leaves everything a view sees as it was.  A command loop is a step function
that is folded over the commands; the second half of the file says what a whole
run inherits from its steps.
-/

namespace Songpark.StateProgram

open Songpark.LastSet

/-- A computation on `State` that returns a value or halts for good. -/
def Program (Halt State α : Type) := State → Except Halt (α × State)

variable {Halt State View α β : Type}

instance : Monad (Program Halt State) where
  pure value state := .ok (value, state)
  bind program next state :=
    match program state with
    | .ok (value, reached) => next value reached
    | .error halted => .error halted

/-- The value of a function of the state. -/
def observe (f : State → α) : Program Halt State α := fun state =>
  .ok (f state, state)

/-- An update that always returns. -/
def change (f : State → State) : Program Halt State Unit := fun state =>
  .ok ((), f state)

def halt (halted : Halt) : Program Halt State α := fun _ => .error halted

@[simp]
theorem pure_apply (value : α) (state : State) :
    (pure value : Program Halt State α) state = .ok (value, state) := rfl

@[simp]
theorem observe_apply (f : State → α) (state : State) :
    (observe f : Program Halt State α) state = .ok (f state, state) := rfl

@[simp]
theorem change_apply (f : State → State) (state : State) :
    (change f : Program Halt State Unit) state = .ok ((), f state) := rfl

@[simp]
theorem halt_apply (halted : Halt) (state : State) :
    (halt halted : Program Halt State α) state = .error halted := rfl

@[simp]
theorem bind_apply (program : Program Halt State α)
    (next : α → Program Halt State β) (state : State) :
    (program >>= next) state =
      match program state with
      | .ok (value, reached) => next value reached
      | .error halted => .error halted := rfl

/-- What follows a plain value goes on with it. -/
theorem pure_next (value : α) (next : α → Program Halt State β) :
    (pure value : Program Halt State α) >>= next = next value := rfl

theorem bind_bind {γ : Type} (program : Program Halt State α)
    (next : α → Program Halt State β) (last : β → Program Halt State γ) :
    program >>= next >>= last = program >>= fun value => next value >>= last := by
  funext state
  simp only [bind_apply]
  cases program state with
  | ok returned => rfl
  | error halted => rfl

/-- A sequence returns only through a return of its first part. -/
theorem bind_eq_ok {program : Program Halt State α}
    {next : α → Program Halt State β} {state : State} {result : β × State} :
    (program >>= next) state = .ok result ↔
      ∃ value reached, program state = .ok (value, reached) ∧
        next value reached = .ok result := by
  rw [bind_apply]
  cases hprogram : program state with
  | ok returned =>
      constructor
      · intro hnext
        exact ⟨returned.1, returned.2, rfl, hnext⟩
      · rintro ⟨value, reached, hreturned, hnext⟩
        cases hreturned
        exact hnext
  | error halted => simp

/-! ## Frames -/

/-- Whenever the program returns, the view of the state is unchanged. -/
def Keeps (view : State → View) (program : Program Halt State α) : Prop :=
  ∀ state value reached,
    program state = .ok (value, reached) → view reached = view state

namespace Keeps

variable {view : State → View}

theorem pure (value : α) :
    Keeps view (Pure.pure value : Program Halt State α) := by
  intro state returned reached hrun
  cases hrun
  rfl

theorem observe (f : State → α) :
    Keeps view (StateProgram.observe f : Program Halt State α) := by
  intro state returned reached hrun
  cases hrun
  rfl

theorem halt (halted : Halt) :
    Keeps view (StateProgram.halt halted : Program Halt State α) := by
  intro state returned reached hrun
  cases hrun

theorem change {f : State → State} (hview : ∀ state, view (f state) = view state) :
    Keeps view (StateProgram.change f : Program Halt State Unit) := by
  intro state returned reached hrun
  cases hrun
  exact hview state

/-- A program that keeps a view keeps what the view decides. -/
theorem factor {seen : State → β} {program : Program Halt State α}
    (hseen : ∀ state reached, view reached = view state →
      seen reached = seen state)
    (hprogram : Keeps view program) : Keeps seen program := by
  intro state returned reached hrun
  exact hseen state reached (hprogram state returned reached hrun)

theorem bind {program : Program Halt State α}
    {next : α → Program Halt State β} (hprogram : Keeps view program)
    (hnext : ∀ value, Keeps view (next value)) :
    Keeps view (program >>= next) := by
  intro state returned reached hrun
  obtain ⟨value, middle, hfirst, hsecond⟩ := bind_eq_ok.mp hrun
  exact (hnext value middle returned reached hsecond).trans
    (hprogram state value middle hfirst)

theorem ite {condition : Prop} [Decidable condition]
    {left right : Program Halt State α} (hleft : Keeps view left)
    (hright : Keeps view right) :
    Keeps view (if condition then left else right) := by
  split <;> assumption

end Keeps

/-! ## Programs that always return -/

/-- The program returns from every state. -/
def Returns (program : Program Halt State α) : Prop :=
  ∀ state, ∃ value reached, program state = .ok (value, reached)

namespace Returns

theorem pure (value : α) : Returns (Pure.pure value : Program Halt State α) :=
  fun state => ⟨value, state, rfl⟩

theorem observe (f : State → α) :
    Returns (StateProgram.observe f : Program Halt State α) :=
  fun state => ⟨f state, state, rfl⟩

theorem change (f : State → State) :
    Returns (StateProgram.change f : Program Halt State Unit) :=
  fun state => ⟨(), f state, rfl⟩

theorem bind {program : Program Halt State α}
    {next : α → Program Halt State β} (hprogram : Returns program)
    (hnext : ∀ value, Returns (next value)) : Returns (program >>= next) := by
  intro state
  obtain ⟨value, middle, hfirst⟩ := hprogram state
  obtain ⟨result, reached, hsecond⟩ := hnext value middle
  exact ⟨result, reached, bind_eq_ok.mpr ⟨value, middle, hfirst, hsecond⟩⟩

theorem ite {condition : Prop} [Decidable condition]
    {left right : Program Halt State α} (hleft : Returns left)
    (hright : Returns right) :
    Returns (if condition then left else right) := by
  split <;> assumption

end Returns

/-! ## Programs whose end does not depend on the state -/

/-- From every state the program returns the same value, or halts for the same
reason. -/
def Ends (program : Program Halt State α) (result : Except Halt α) : Prop :=
  ∀ state, (program state).map Prod.fst = result

namespace Ends

theorem pure (value : α) :
    Ends (Pure.pure value : Program Halt State α) (.ok value) := fun _ => rfl

theorem halt (halted : Halt) :
    Ends (StateProgram.halt halted : Program Halt State α) (.error halted) :=
  fun _ => rfl

theorem of_returns {program : Program Halt State Unit}
    (hprogram : Returns program) : Ends program (.ok ()) := by
  intro state
  obtain ⟨value, reached, hrun⟩ := hprogram state
  rw [hrun]
  rfl

theorem bind {program : Program Halt State α}
    {next : α → Program Halt State β} {result : Except Halt α}
    {later : α → Except Halt β} (hprogram : Ends program result)
    (hnext : ∀ value, Ends (next value) (later value)) :
    Ends (program >>= next) (result.bind later) := by
  intro state
  rw [bind_apply, ← hprogram state]
  cases program state with
  | ok returned => exact hnext returned.1 returned.2
  | error halted => rfl

theorem ite {condition : Prop} [Decidable condition]
    {left right : Program Halt State α} {leftResult rightResult : Except Halt α}
    (hleft : Ends left leftResult) (hright : Ends right rightResult) :
    Ends (if condition then left else right)
      (if condition then leftResult else rightResult) := by
  split <;> assumption

end Ends

/-! ## Runs -/

variable {Label : Type}

/-- The states of a loop that takes one step for each label; a halt ends it. -/
def run (step : Label → State → Except Halt State) :
    List Label → State → Except Halt State
  | [], state => .ok state
  | label :: labels, state =>
      match step label state with
      | .ok reached => run step labels reached
      | .error halted => .error halted

/-- A result that is no halt is a reached state. -/
theorem exists_of_isOk (result : Except Halt State) (hok : result.isOk) :
    ∃ reached, result = .ok reached := by
  cases result with
  | ok reached => exact ⟨reached, rfl⟩
  | error halted => exact absurd hok Bool.false_ne_true

/-- A returned value comes with a reached state. -/
theorem exists_of_returned (result : Except Halt (α × State))
    {value : α} (hreturned : result.toOption.map Prod.fst = some value) :
    ∃ reached, result = .ok (value, reached) := by
  cases result with
  | ok returned =>
      obtain ⟨other, reached⟩ := returned
      have hvalue : other = value := Option.some.inj hreturned
      exact ⟨reached, by rw [hvalue]⟩
  | error halted => cases hreturned

section Runs

variable {step : Label → State → Except Halt State}
variable {labels later : List Label} {state reached : State}

@[simp]
theorem run_nil : run step [] state = .ok reached ↔ state = reached := by
  simp [run]

theorem run_cons {label : Label} :
    run step (label :: labels) state = .ok reached ↔
      ∃ middle, step label state = .ok middle ∧
        run step labels middle = .ok reached := by
  rw [run]
  cases hstep : step label state with
  | ok middle => simp
  | error halted => simp

theorem run_append :
    run step (labels ++ later) state = .ok reached ↔
      ∃ middle, run step labels state = .ok middle ∧
        run step later middle = .ok reached := by
  induction labels generalizing state with
  | nil => simp
  | cons label labels ih =>
      simp only [List.cons_append, run_cons, ih]
      constructor
      · rintro ⟨first, hstep, middle, hrun, hlater⟩
        exact ⟨middle, ⟨first, hstep, hrun⟩, hlater⟩
      · rintro ⟨middle, ⟨first, hstep, hrun⟩, hlater⟩
        exact ⟨first, hstep, middle, hrun, hlater⟩

theorem run_concat {label : Label} :
    run step (labels ++ [label]) state = .ok reached ↔
      ∃ middle, run step labels state = .ok middle ∧
        step label middle = .ok reached := by
  simp [run_append, run_cons]

/-- What every step preserves, a run preserves. -/
theorem run_invariant (invariant : State → Prop)
    (hstep : ∀ label ∈ labels, ∀ state reached, invariant state →
      step label state = .ok reached → invariant reached)
    (hrun : run step labels state = .ok reached)
    (hinit : invariant state) : invariant reached := by
  induction labels generalizing state with
  | nil => exact run_nil.mp hrun ▸ hinit
  | cons label labels ih =>
      obtain ⟨middle, hfirst, hrest⟩ := run_cons.mp hrun
      have hmiddle : invariant middle :=
        hstep label List.mem_cons_self state middle hinit hfirst
      exact ih (fun later hlater => hstep later (List.mem_cons_of_mem _ hlater))
        hrest hmiddle

/-- A view that no step of the run touches is the same at its end. -/
theorem run_keeps (view : State → View)
    (hstep : ∀ label ∈ labels, ∀ state reached,
      step label state = .ok reached → view reached = view state)
    (hrun : run step labels state = .ok reached) :
    view reached = view state := by
  refine run_invariant (fun current => view current = view state) ?_ hrun rfl
  intro label hlabel current next hcurrent hnext
  exact (hstep label hlabel current next hnext).trans hcurrent

/-- When every step is one of another system under a view, a run is a run of
that system. -/
theorem run_view {Other Halted : Type} {next : Label → Other → Except Halted Other}
    (view : State → Other)
    (hstep : ∀ label state reached, step label state = .ok reached →
      next label (view state) = .ok (view reached))
    (hrun : run step labels state = .ok reached) :
    run next labels (view state) = .ok (view reached) := by
  induction labels generalizing state with
  | nil => rw [run_nil.mp hrun, run]
  | cons label labels ih =>
      obtain ⟨middle, hfirst, hrest⟩ := run_cons.mp hrun
      exact run_cons.mpr ⟨view middle, hstep label state middle hfirst, ih hrest⟩

/-- When every step is matched by one of another system, a run is matched by a
run with the same labels. -/
theorem run_related {Other Halted : Type}
    {next : Label → Other → Except Halted Other} {other : Other}
    (related : State → Other → Prop)
    (hstep : ∀ label state reached other, related state other →
      step label state = .ok reached →
        ∃ after, next label other = .ok after ∧ related reached after)
    (hinit : related state other) (hrun : run step labels state = .ok reached) :
    ∃ after, run next labels other = .ok after ∧ related reached after := by
  induction labels generalizing state other with
  | nil => exact ⟨other, rfl, run_nil.mp hrun ▸ hinit⟩
  | cons label labels ih =>
      obtain ⟨middle, hfirst, hrest⟩ := run_cons.mp hrun
      obtain ⟨between, hnext, hbetween⟩ := hstep label state middle other hinit hfirst
      obtain ⟨after, hafter, hrelated⟩ := ih hbetween hrest
      exact ⟨after, run_cons.mpr ⟨between, hnext, hafter⟩, hrelated⟩

/-- A view that every step changes by a function of its label alone goes
through the same changes in a run. -/
theorem run_simulates (view : State → View) (update : Label → View → View)
    (hstep : ∀ label ∈ labels, ∀ state reached,
      step label state = .ok reached →
        view reached = update label (view state))
    (hrun : run step labels state = .ok reached) :
    view reached =
      labels.foldl (fun seen label => update label seen) (view state) := by
  induction labels generalizing state with
  | nil => rw [run_nil.mp hrun, List.foldl_nil]
  | cons label labels ih =>
      obtain ⟨middle, hfirst, hrest⟩ := run_cons.mp hrun
      have hmiddle := hstep label List.mem_cons_self state middle hfirst
      rw [List.foldl_cons, ← hmiddle]
      exact ih (fun later hlater => hstep later (List.mem_cons_of_mem _ hlater))
        hrest

/-- What the steps do to a state, a run does to it by folding over its labels. -/
theorem run_refines {Other : Type*} (related : Other → State → Prop)
    (after : Other → Label → Other)
    (hstep : ∀ label ∈ labels, ∀ other state reached, related other state →
      step label state = .ok reached → related (after other label) reached)
    {other : Other} (hinit : related other state)
    (hrun : run step labels state = .ok reached) :
    related (labels.foldl after other) reached := by
  induction labels generalizing state other with
  | nil => exact run_nil.mp hrun ▸ hinit
  | cons label labels ih =>
      obtain ⟨middle, hfirst, hrest⟩ := run_cons.mp hrun
      exact ih (fun later hlater => hstep later (List.mem_cons_of_mem _ hlater))
        (hstep label List.mem_cons_self _ _ _ hinit hfirst) hrest

/-- A view that every step from an invariant state either sets or keeps is what
was set last. -/
theorem run_lastSet (invariant : State → Prop) (view : State → View)
    (sets : Label → Option View)
    (hkeeps : ∀ label ∈ labels, ∀ state reached, invariant state →
      step label state = .ok reached → invariant reached)
    (hstep : ∀ label ∈ labels, ∀ state reached, invariant state →
      step label state = .ok reached →
        view reached = (sets label).getD (view state))
    (hinit : invariant state) (hrun : run step labels state = .ok reached) :
    view reached = (lastSet sets labels).getD (view state) := by
  rw [← foldl_getD]
  induction labels generalizing state with
  | nil => rw [run_nil.mp hrun, List.foldl_nil]
  | cons label labels ih =>
      obtain ⟨middle, hfirst, hrest⟩ := run_cons.mp hrun
      have hmiddle : invariant middle :=
        hkeeps label List.mem_cons_self state middle hinit hfirst
      rw [List.foldl_cons,
        ← hstep label List.mem_cons_self state middle hinit hfirst]
      exact ih
        (fun later hlater => hkeeps later (List.mem_cons_of_mem _ hlater))
        (fun later hlater => hstep later (List.mem_cons_of_mem _ hlater))
        hmiddle hrest

end Runs

/-! ## Outcomes

A view that goes through a run on its own also tells how the run ends. -/

section Outcomes

variable {Seen : Type} {step : Label → State → Except Halt State}
variable {labels : List Label} {state : State} {view : State → Seen}

/-- When the view of every step is a step of a smaller system, the view of a run
is a run of that system, whether it ends or stops. -/
theorem run_map (next : Label → Seen → Except Halt Seen)
    (invariant : State → Prop)
    (hstep : ∀ label ∈ labels, ∀ state, invariant state →
      (step label state).map view = next label (view state))
    (hkeeps : ∀ label ∈ labels, ∀ state reached, invariant state →
      step label state = .ok reached → invariant reached)
    (hinit : invariant state) :
    (run step labels state).map view = run next labels (view state) := by
  induction labels generalizing state with
  | nil => rfl
  | cons label labels ih =>
      have hfirst := hstep label List.mem_cons_self state hinit
      rw [run, run, ← hfirst]
      cases hrun : step label state with
      | error halted => rfl
      | ok middle =>
          exact ih
            (fun later hlater => hstep later (List.mem_cons_of_mem _ hlater))
            (fun later hlater => hkeeps later (List.mem_cons_of_mem _ hlater))
            (hkeeps label List.mem_cons_self state middle hinit hrun)

/-- How a run of labels ends that alone decide whether they stop it. -/
def outcome (halts : Label → Option Halt) (labels : List Label) :
    Except Halt Unit :=
  match labels.findSome? halts with
  | some halted => .error halted
  | none => .ok ()

/-- A run ends with the first label that stops it. -/
theorem run_outcome (halts : Label → Option Halt) (invariant : State → Prop)
    (hstep : ∀ label ∈ labels, ∀ state, invariant state →
      (step label state).map (fun _ => ()) = outcome halts [label])
    (hkeeps : ∀ label ∈ labels, ∀ state reached, invariant state →
      step label state = .ok reached → invariant reached)
    (hinit : invariant state) :
    (run step labels state).map (fun _ => ()) = outcome halts labels := by
  rw [run_map (fun label _ => outcome halts [label]) invariant hstep hkeeps
    hinit]
  clear hstep hkeeps
  induction labels with
  | nil => rfl
  | cons label labels ih =>
      rw [run, outcome, List.findSome?_cons, outcome, List.findSome?_cons]
      cases halts label with
      | some halted => rfl
      | none => exact ih

end Outcomes

/-! ## Views that go on by themselves

The steps of some labels show the same from all states that look the same.  A
run of such labels looks the same from all these states, and the labels whose
steps show nothing can be left out of it. -/

section Views

variable {step : Label → State → Except Halt State} {low : State → View}
variable {labels : List Label} {left right state reached : State}

/-- From states that look the same the step ends alike. -/
def Determined (step : Label → State → Except Halt State) (low : State → View)
    (label : Label) : Prop :=
  ∀ left right, low left = low right →
    (step label left).map low = (step label right).map low

/-- The matching step from a state that looks the same. -/
theorem Determined.step_ok {label : Label}
    (hdetermined : Determined step low label) (hlow : low left = low right)
    (hstep : step label left = .ok reached) :
    ∃ after, step label right = .ok after ∧ low reached = low after := by
  have hmap := hdetermined left right hlow
  rw [hstep] at hmap
  cases hright : step label right with
  | error halted =>
      rw [hright] at hmap
      cases hmap
  | ok after =>
      rw [hright] at hmap
      exact ⟨after, rfl, Except.ok.inj hmap⟩

theorem run_determined (hlabels : ∀ label ∈ labels, Determined step low label)
    (hlow : low left = low right) :
    (run step labels left).map low = (run step labels right).map low := by
  induction labels generalizing left right with
  | nil => exact congrArg Except.ok hlow
  | cons label labels ih =>
      have hfirst := hlabels label List.mem_cons_self
      have hrest : ∀ later ∈ labels, Determined step low later :=
        fun later hlater => hlabels later (List.mem_cons_of_mem _ hlater)
      cases hleft : step label left with
      | ok reached =>
          obtain ⟨after, hright, hreached⟩ := hfirst.step_ok hlow hleft
          rw [run, run, hleft, hright]
          exact ih hrest hreached
      | error halted =>
          have hmap := hfirst left right hlow
          cases hright : step label right with
          | ok after =>
              rw [hleft, hright] at hmap
              cases hmap
          | error stopped =>
              rw [hleft, hright] at hmap
              rw [run, run, hleft, hright]
              exact congrArg Except.error (Except.error.inj hmap)

/-- Labels whose steps show nothing can be left out. -/
theorem run_erased (hlabels : ∀ label ∈ labels, Determined step low label)
    (quiet : Label → Bool)
    (hquiet : ∀ label, quiet label → ∀ state reached,
      step label state = .ok reached → low reached = low state)
    (hrun : run step labels left = .ok reached) (hlow : low left = low right) :
    ∃ after, run step (labels.filter (!quiet ·)) right = .ok after ∧
      low reached = low after := by
  induction labels generalizing left right with
  | nil => exact ⟨right, rfl, run_nil.mp hrun ▸ hlow⟩
  | cons label labels ih =>
      have hrest : ∀ later ∈ labels, Determined step low later :=
        fun later hlater => hlabels later (List.mem_cons_of_mem _ hlater)
      obtain ⟨middle, hfirst, hlater⟩ := run_cons.mp hrun
      cases hlabel : quiet label with
      | true =>
          rw [List.filter_cons_of_neg (by simp [hlabel])]
          exact ih hrest hlater
            ((hquiet label hlabel left middle hfirst).trans hlow)
      | false =>
          rw [List.filter_cons_of_pos (by simp [hlabel])]
          obtain ⟨next, hnext, hmiddle⟩ :=
            (hlabels label List.mem_cons_self).step_ok hlow hfirst
          obtain ⟨after, hafter, hreached⟩ := ih hrest hlater hmiddle
          exact ⟨after, run_cons.mpr ⟨next, hnext, hafter⟩, hreached⟩

end Views

/-! ## Invariants along a run

An invariant of the state together with the labels taken so far, and the exact
condition on the single steps under which a run never leaves it. -/

section Along

variable (step : Label → State → Except Halt State)

/-- The invariant holds in every state the run passes through. -/
def Always (labels : List Label) (init : State)
    (invariant : List Label → State → Prop) : Prop :=
  ∀ before, before <+: labels → ∀ state,
    run step before init = .ok state → invariant before state

/-- Every step of the run, taken after some labels in some state, is allowed. -/
def EveryStep (labels : List Label) (init : State)
    (allowed : List Label → Label → State → Prop) : Prop :=
  ∀ before label, before ++ [label] <+: labels → ∀ state reached,
    run step before init = .ok state → step label state = .ok reached →
      allowed before label state

variable {step} {labels : List Label} {init : State}
variable {invariant : List Label → State → Prop}
variable {allowed : List Label → Label → State → Prop}

/-- When a step from an invariant state keeps the invariant exactly if it is
allowed, a run keeps the invariant exactly if all its steps are allowed. -/
theorem always_iff_everyStep (hinit : invariant [] init)
    (hstep : ∀ before label state reached,
      invariant before state → step label state = .ok reached →
        (invariant (before ++ [label]) reached ↔ allowed before label state)) :
    Always step labels init invariant ↔
      EveryStep step labels init allowed := by
  constructor
  · intro halways before label hprefix state reached hrun hnext
    have hbefore := (List.prefix_append before [label]).trans hprefix
    have hrun' : run step (before ++ [label]) init = .ok reached :=
      run_concat.mpr ⟨state, hrun, hnext⟩
    exact (hstep before label state reached
      (halways before hbefore state hrun) hnext).mp
        (halways (before ++ [label]) hprefix reached hrun')
  · intro hevery before
    induction before using List.reverseRecOn with
    | nil =>
        intro _ state hrun
        exact run_nil.mp hrun ▸ hinit
    | append_singleton before label ih =>
        intro hprefix reached hrun
        obtain ⟨state, hbefore, hnext⟩ := run_concat.mp hrun
        have hshort := (List.prefix_append before [label]).trans hprefix
        exact (hstep before label state reached (ih hshort state hbefore)
          hnext).mpr (hevery before label hprefix state reached hbefore hnext)

/-- When an allowed step keeps the invariant, so does a run whose steps are all
allowed. -/
theorem always_of_everyStep (hinit : invariant [] init)
    (hstep : ∀ before label state reached,
      invariant before state → allowed before label state →
        step label state = .ok reached →
          invariant (before ++ [label]) reached)
    (hevery : EveryStep step labels init allowed) :
    Always step labels init invariant := by
  intro before
  induction before using List.reverseRecOn with
  | nil =>
      intro _ state hrun
      exact run_nil.mp hrun ▸ hinit
  | append_singleton before label ih =>
      intro hprefix reached hrun
      obtain ⟨state, hbefore, hnext⟩ := run_concat.mp hrun
      have hshort := (List.prefix_append before [label]).trans hprefix
      exact hstep before label state reached (ih hshort state hbefore)
        (hevery before label hprefix state reached hbefore hnext) hnext

/-- Steps that are allowed in the states are allowed in a view of them, when the
view makes the steps as well and the run ends. -/
theorem everyStep_view {Other Halted : Type}
    {next : Label → Other → Except Halted Other} {reached : State}
    {permitted : List Label → Label → Other → Prop} (view : State → Other)
    (hview : ∀ label state reached, step label state = .ok reached →
      next label (view state) = .ok (view reached))
    (hallowed : ∀ before label state, allowed before label state →
      permitted before label (view state))
    (hrun : run step labels init = .ok reached)
    (hevery : EveryStep step labels init allowed) :
    EveryStep next labels (view init) permitted := by
  intro before label hlabels seen _ hseen _
  obtain ⟨later, rfl⟩ := hlabels
  obtain ⟨after, hafter, _⟩ := run_append.mp hrun
  obtain ⟨state, hbefore, hnext⟩ := run_concat.mp hafter
  -- the view has come to the state of the run
  have hstate : seen = view state :=
    Except.ok.inj (hseen.symm.trans (run_view view hview hbefore))
  rw [hstate]
  exact hallowed before label state
    (hevery before label (List.prefix_append _ _) state after hbefore hnext)

end Along

end Songpark.StateProgram
