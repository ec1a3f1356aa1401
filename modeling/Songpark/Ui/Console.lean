import Songpark.Ui.Execute

/-!
# The loop on its input

The loop reads a word, finds the branch of that word, and lets the branch read
its argument from what follows.  A run on an input is a run of lines, and every
line can be typed; so what holds for all runs of lines holds for all inputs.
-/

namespace Songpark.UiControl

open Songpark.Address Songpark.RegisterFile Songpark.Scan
open Songpark.StateProgram

/-! ## Words for `c`

`scanf` stores the word of a command into eight characters, the NUL included;
more than half of the commands are longer. -/

/-- What is typed for one round: the word that goes into `c`, and what the
conversions find behind it. -/
structure Entry where
  word : Text
  typed : Typed

/-- The branch that the word selects. -/
def Entry.line (entry : Entry) : Line :=
  ⟨dispatch (cString entry.word), entry.typed⟩

/-- One round of the loop; a word that does not fit into `c` is stored beyond
it. -/
def enter (entry : Entry) (ui : UiState) : Except Halt UiState :=
  if entry.word.length < 8 then step entry.line ui else .error .undefined

theorem enter_eq_ok {entry : Entry} {ui reached : UiState} :
    enter entry ui = .ok reached ↔
      entry.word.length < 8 ∧ step entry.line ui = .ok reached := by
  rw [enter]
  split_ifs with hfits <;> simp [hfits]

/-! ## Inputs -/

/-- What a conversion would find at the start of the input. -/
def found (input : Text) : Typed where
  number :=
    match scanInt input with
    | .ok (number, _) => some number
    | .error _ => none
  text := (scanWord input).map Prod.fst

/-- The input after the command: `help` takes two characters with `getchar`, the
others read their argument. -/
def leftOver (input : Text) (command : Command) : Text :=
  match command.argument with
  | .nothing => if command = .help then input.drop 2 else input
  | .gain | .tmp | .destPort =>
      match scanInt input with
      | .ok (_, rest) => rest
      | .error rest => rest
  | .ip =>
      match scanWord input with
      | some (_, rest) => rest
      | none => []

/-- The loop between two commands.  The array `c` is taken to be long enough:
it has eight characters, and words like `clearhdrstrip` need more. -/
structure Console where
  input : Text
  c : Text
  ui : UiState

/-- At the end of the input `c` keeps the word it had. -/
def readCommand (console : Console) : Text × Text :=
  match scanWord console.input with
  | some (word, rest) => (word, rest)
  | none => (console.c, [])

/-- One round of the loop. -/
def round (console : Console) : Except Halt Console :=
  let (c, rest) := readCommand console
  match step ⟨dispatch c, found rest⟩ console.ui with
  | .ok ui => .ok ⟨leftOver rest (dispatch c), c, ui⟩
  | .error halted => .error halted

def rounds : ℕ → Console → Except Halt Console
  | 0, console => .ok console
  | count + 1, console =>
      match round console with
      | .ok reached => rounds count reached
      | .error halted => .error halted

/-- What is typed in the first rounds of an input. -/
def entriesOf : ℕ → Text → List Entry
  | 0, _ => []
  | count + 1, input =>
      match scanWord input with
      | some (word, rest) =>
          ⟨word, found rest⟩ ::
            entriesOf count (leftOver rest (dispatch word))
      | none => []

/-- What is left of the input after one round. -/
def nextInput (input : Text) : Text :=
  match scanWord input with
  | some (word, rest) => leftOver rest (dispatch word)
  | none => []

section Input

variable {input rest : Text} {console reached : Console}

/-- Nothing is found where the input does not go on with an integer. -/
theorem found_number_eq_none :
    (found input).number = none ↔ ¬ StartsWithDecimal input := by
  rw [← scanInt_eq_error_iff]
  unfold found
  cases scanInt input with
  | ok result => simp
  | error rest => simp

theorem round_step (hround : round console = .ok reached) :
    ∃ command input, step ⟨command, found input⟩ console.ui = .ok reached.ui := by
  unfold round at hround
  dsimp only at hround
  split at hround
  case h_2 => cases hround
  case h_1 ui hstep =>
    cases hround
    exact ⟨_, _, hstep⟩

/-- A run on an input is a run of lines. -/
theorem rounds_runLines {count : ℕ}
    (hrounds : rounds count console = .ok reached) :
    ∃ lines, lines.length = count ∧
      runLines lines console.ui = .ok reached.ui := by
  induction count generalizing console with
  | zero =>
      cases hrounds
      exact ⟨[], rfl, rfl⟩
  | succ count ih =>
      rw [rounds] at hrounds
      split at hrounds
      case h_2 => cases hrounds
      case h_1 middle hround =>
        obtain ⟨command, input, hstep⟩ := round_step hround
        obtain ⟨lines, hlength, hrun⟩ := ih hrounds
        exact ⟨⟨command, found input⟩ :: lines, by simp [hlength],
          run_cons.mpr ⟨middle.ui, hstep, hrun⟩⟩

theorem leftOver_nil (command : Command) : leftOver [] command = [] := by
  rw [leftOver]
  cases command.argument with
  | nothing => exact ite_self _
  | gain | tmp | destPort | ip => rfl

theorem round_input (hround : round console = .ok reached) :
    reached.input = nextInput console.input := by
  unfold round readCommand at hround
  rw [nextInput]
  cases hscan : scanWord console.input with
  | none =>
      simp only [hscan, leftOver_nil] at hround
      split at hround
      · cases hround
        rfl
      · cases hround
  | some scanned =>
      obtain ⟨word, after⟩ := scanned
      simp only [hscan] at hround
      split at hround
      · cases hround
        rfl
      · cases hround

/-- What is left of an input does not depend on what the commands do. -/
theorem rounds_input {count : ℕ} (hrounds : rounds count console = .ok reached) :
    reached.input = nextInput^[count] console.input := by
  induction count generalizing console with
  | zero =>
      cases hrounds
      rfl
  | succ count ih =>
      rw [rounds] at hrounds
      split at hrounds
      case h_2 => cases hrounds
      case h_1 middle hround =>
        rw [ih hrounds, round_input hround, Function.iterate_succ_apply]

end Input

/-! ## Every line can be typed -/

section Typing

variable {command : Command} {rest c : Text} {ui reached : UiState}

private theorem dispatchOrder_words :
    dispatchOrder.all fun command =>
      !command.word.isEmpty && command.word.all (!isSpace ·) := by
  decide +kernel

private theorem word_spelling (hvalid : command ≠ .invalid) :
    command.word ≠ [] ∧ ∀ c ∈ command.word, isSpace c = false := by
  have hword := List.all_eq_true.mp dispatchOrder_words command
    (mem_dispatchOrder hvalid)
  simpa using hword

theorem word_ne_nil (hvalid : command ≠ .invalid) : command.word ≠ [] :=
  (word_spelling hvalid).1

theorem not_isSpace_word (hvalid : command ≠ .invalid) :
    ∀ c ∈ command.word, isSpace c = false :=
  (word_spelling hvalid).2

/-- A word is read up to the blank after it. -/
theorem scanWord_word (hvalid : command ≠ .invalid) :
    scanWord (command.word ++ ' ' :: rest) =
      some (command.word, ' ' :: rest) :=
  scanWord_append (word_ne_nil hvalid) (not_isSpace_word hvalid) (by decide) rest

/-- A number command looks at the number alone. -/
theorem execute_number {typed other : Typed} (hnumeric : command.numeric)
    (hnumber : typed.number = other.number) :
    execute command typed ui = execute command other ui := by
  cases hargument : command.argument with
  | nothing => rw [execute_nothing hargument, execute_nothing hargument]
  | gain => rw [execute_gain hargument, execute_gain hargument, hnumber]
  | tmp =>
      rw [execute_tmp hargument, execute_tmp hargument, Typed.intoTmp,
        Typed.intoTmp, hnumber]
  | destPort =>
      rw [execute_destPort hargument, execute_destPort hargument, hnumber]
  | ip => simp [Command.numeric, hargument] at hnumeric

theorem step_number {typed other : Typed} (hnumeric : command.numeric)
    (hnumber : typed.number = other.number) :
    step ⟨command, typed⟩ ui = step ⟨command, other⟩ ui := by
  simp only [step, execute_number hnumeric hnumber]

/-- A command and a number, typed on one line, are one step of the loop. -/
theorem round_number (hvalid : command ≠ .invalid) (hnumeric : command.numeric)
    {number : ℕ} (hnumber : number < 2 ^ 63)
    (hrest : ∀ c ∈ rest.head?, isDigitOf 10 c = false)
    {typed : Typed} (htyped : typed.number = some (BitVec.ofNat 32 number))
    (hstep : step ⟨command, typed⟩ ui = .ok reached) :
    round ⟨command.word ++ ' ' :: (decimal number ++ rest), c, ui⟩ =
      .ok ⟨rest, command.word, reached⟩ := by
  have hscan : scanInt (' ' :: (decimal number ++ rest)) =
      .ok (BitVec.ofNat 32 number, rest) := by
    rw [scanInt_blank, scanInt_decimal hnumber hrest]
  have hfound : (found (' ' :: (decimal number ++ rest))).number =
      typed.number := by
    rw [found, hscan, htyped]
  have hleft : leftOver (' ' :: (decimal number ++ rest)) command = rest := by
    cases hargument : command.argument
    case nothing | ip => simp [Command.numeric, hargument] at hnumeric
    all_goals simp only [leftOver, hargument, hscan]
  simp only [round, readCommand, scanWord_word hvalid, dispatch_word hvalid,
    step_number hnumeric hfound, hstep, hleft]

end Typing

end Songpark.UiControl
