import Songpark.Ui.WordStores

/-!
# Scripts

A script is a list of commands with their arguments, one a line.  Typed into the
loop it is executed line by line, whatever the arguments are: every `int` and
every address text reaches the command as it was written.  When the input ends,
the loop does not: it repeats the last command with what its variables hold.
-/

namespace Songpark.UiControl

open Songpark.RegIo Songpark.Scan Songpark.StateProgram
open Songpark.Address

/-- A command with a number and a word to choose its argument from. -/
structure ScriptLine where
  command : Command
  number : Word
  word : Text

namespace ScriptLine

/-- The argument after the command word. -/
def argumentText (line : ScriptLine) : Text :=
  match line.command.argument with
  | .nothing => []
  | .gain | .tmp | .destPort => ' ' :: decimalInt line.number
  | .ip => ' ' :: line.word

/-- What is typed, up to the end of the line. -/
def text (line : ScriptLine) : Text := line.command.word ++ line.argumentText

/-- What the command is to find. -/
def typed (line : ScriptLine) : Typed := ⟨some line.number, some line.word⟩

/-- The command is known and fits into `c`, the word fits into `ip`.  `help`
waits for two characters of its own. -/
structure Plain (line : ScriptLine) : Prop where
  valid : line.command ≠ .invalid
  not_help : line.command ≠ .help
  command_fits : line.command.word.length < 8
  word_ne_nil : line.word ≠ []
  word_fits : line.word.length < 128
  word_plain : line.word.all (!isSpace ·)
  word_ended : '\x00' ∉ line.word

end ScriptLine

/-- The lines of a script, each ended by a newline. -/
def script (lines : List ScriptLine) : Text :=
  lines.flatMap fun line => line.text ++ ['\n']

/-- What is found behind the end of the input. -/
def nothingTyped : Typed := ⟨none, none⟩

section Lines

variable {line : ScriptLine} {typed other : Typed} {rest : Text}
variable {input : Text} {ui reached : UiState} {c : CharArray 8} {count : ℕ}

/-- An address command looks at the word alone. -/
theorem step_text {command : Command} (hip : command.argument = .ip)
    (htext : typed.text = other.text) :
    step ⟨command, typed⟩ ui = step ⟨command, other⟩ ui := by
  have hexecute : execute command typed (clearLog ui) =
      execute command other (clearLog ui) := by
    rw [execute, execute, hip, scanArgument, scanArgument, htext]
  simp only [step, hexecute]

theorem step_nothing {command : Command} (hnothing : command.argument = .nothing)
    (typed other : Typed) :
    step ⟨command, typed⟩ ui = step ⟨command, other⟩ ui := by
  simp only [step, execute_nothing hnothing]

theorem newline_no_digit : ∀ c ∈ ('\n' :: rest).head?, isDigitOf 10 c = false := by
  intro c hc
  cases hc
  decide

/-- A number is found where it was typed. -/
theorem readArgument_number (hnumeric : line.command.numeric)
    (hargument : line.argumentText = ' ' :: decimalInt line.number)
    (ip : Text) :
    ∃ typed, readArgument line.command (line.argumentText ++ '\n' :: rest) ip =
        some (typed, '\n' :: rest) ∧
      ∀ ui, step ⟨line.command, typed⟩ ui =
        step ⟨line.command, line.typed⟩ ui := by
  have hscan : scanInt (line.argumentText ++ '\n' :: rest) =
      .ok (line.number, '\n' :: rest) := by
    rw [hargument, List.cons_append, scanInt_blank]
    exact scanInt_decimalInt line.number newline_no_digit
  have hleft : leftOver (line.argumentText ++ '\n' :: rest) line.command =
      '\n' :: rest := by
    cases hkind : line.command.argument
    case nothing | ip => simp [Command.numeric, hkind] at hnumeric
    all_goals simp only [leftOver, hkind, hscan]
  have hip : line.command.argument ≠ .ip := fun hkind => by
    simp [Command.numeric, hkind] at hnumeric
  refine ⟨found (line.argumentText ++ '\n' :: rest), ?_, fun ui => ?_⟩
  · rw [readArgument, if_neg hip, hleft]
  · refine step_number hnumeric ?_
    rw [found, hscan]
    rfl

/-- The argument of a line is found, and the end of the line is left. -/
theorem readArgument_line (hplain : line.Plain) (rest ip : Text) :
    ∃ typed, readArgument line.command (line.argumentText ++ '\n' :: rest) ip =
        some (typed, '\n' :: rest) ∧
      ∀ ui, step ⟨line.command, typed⟩ ui =
        step ⟨line.command, line.typed⟩ ui := by
  cases hkind : line.command.argument with
  | nothing =>
      have hleft : leftOver (line.argumentText ++ '\n' :: rest) line.command =
          '\n' :: rest := by
        rw [leftOver, hkind, ScriptLine.argumentText, hkind]
        exact if_neg hplain.not_help
      refine ⟨found (line.argumentText ++ '\n' :: rest), ?_,
        fun ui => step_nothing hkind _ _⟩
      rw [readArgument, hkind, if_neg (by decide), hleft]
  | gain | tmp | destPort =>
      refine readArgument_number ?_ ?_ ip
      · simp [Command.numeric, hkind]
      · rw [ScriptLine.argumentText, hkind]
  | ip =>
      have hscan : scanWord (line.argumentText ++ '\n' :: rest) =
          some (line.word, '\n' :: rest) := by
        rw [ScriptLine.argumentText, hkind]
        dsimp only
        rw [List.cons_append, scanWord_cons (by decide)]
        exact scanWord_append hplain.word_ne_nil
          (fun c hc => by simpa using List.all_eq_true.mp hplain.word_plain c hc)
          (by decide) rest
      obtain ⟨stored, hstored, htext⟩ :=
        CharArray.storeFrom_fits (CharArray.holding ip : CharArray 128)
          hplain.word_fits hplain.word_ended
      refine ⟨⟨(found (line.argumentText ++ '\n' :: rest)).number,
        some stored.text⟩, ?_, fun ui => step_text hkind ?_⟩
      · rw [readArgument, if_pos hkind, hscan]
        dsimp only
        rw [hstored]
        rfl
      · rw [htext]
        rfl

private theorem dispatchOrder_ended :
    dispatchOrder.all fun command => command.word.all (· ≠ '\x00') := by
  decide +kernel

theorem word_ended {command : Command} (hvalid : command ≠ .invalid) :
    '\x00' ∉ command.word := fun hmem => by
  have hword := List.all_eq_true.mp dispatchOrder_ended command
    (mem_dispatchOrder hvalid)
  simpa using List.all_eq_true.mp hword '\x00' hmem

theorem argumentText_start (line : ScriptLine) (rest : Text) :
    ∃ stop after, line.argumentText ++ '\n' :: rest = stop :: after ∧
      isSpace stop := by
  unfold ScriptLine.argumentText
  split
  · exact ⟨'\n', rest, rfl, by decide⟩
  all_goals exact ⟨' ', _, rfl, by decide⟩

theorem scanInto_line (hplain : line.Plain) (c : CharArray 8) (rest : Text) :
    ∃ stored : CharArray 8, stored.text = line.command.word ∧
      c.scanInto (line.text ++ '\n' :: rest) =
        some (stored, line.argumentText ++ '\n' :: rest) := by
  obtain ⟨stored, hstored, htext⟩ :=
    c.storeFrom_fits hplain.command_fits (word_ended hplain.valid)
  obtain ⟨stop, after, hafter, hstop⟩ := argumentText_start line rest
  have hscan : scanWord (line.text ++ '\n' :: rest) =
      some (line.command.word, line.argumentText ++ '\n' :: rest) := by
    rw [ScriptLine.text, List.append_assoc, hafter]
    exact scanWord_append (word_ne_nil hplain.valid)
      (not_isSpace_word hplain.valid) hstop after
  refine ⟨stored, htext, ?_⟩
  rw [CharArray.scanInto, hscan]
  dsimp only
  rw [hstored]
  rfl

/-- A line is one round of the loop. -/
theorem arrayRound_line (hplain : line.Plain) (rest : Text) :
    ∃ stored : CharArray 8, stored.text = line.command.word ∧
      arrayRound ⟨line.text ++ '\n' :: rest, c, ui⟩ =
        match step ⟨line.command, line.typed⟩ ui with
        | .ok reached => .ok ⟨'\n' :: rest, stored, reached⟩
        | .error halted => .error (.halted halted) := by
  obtain ⟨stored, htext, hscan⟩ := scanInto_line hplain c rest
  obtain ⟨typed, hread, hstep⟩ := readArgument_line hplain rest ui.ip
  refine ⟨stored, htext, ?_⟩
  have hdispatch : dispatch stored.text = line.command := by
    rw [htext, dispatch_word hplain.valid]
  cases hresult : step ⟨line.command, line.typed⟩ ui with
  | ok reached => simp only [arrayRound, hscan, hdispatch, hread, hstep, hresult]
  | error halted => simp only [arrayRound, hscan, hdispatch, hread, hstep, hresult]

/-- White space before a command is skipped. -/
theorem arrayRound_newline (input : Text) :
    arrayRound ⟨'\n' :: input, c, ui⟩ = arrayRound ⟨input, c, ui⟩ := by
  have hspace : isSpace '\n' := by decide
  simp only [arrayRound, CharArray.scanInto, scanWord_cons hspace]

/-- Behind the end of the input the command in `c` is executed again. -/
theorem arrayRound_ended (hinput : scanWord input = none) :
    arrayRound ⟨input, c, ui⟩ =
      match step ⟨dispatch c.text, nothingTyped⟩ ui with
      | .ok reached => .ok ⟨[], c, reached⟩
      | .error halted => .error (.halted halted) := by
  have hscan : c.scanInto input = some (c, []) := by
    rw [CharArray.scanInto, hinput]
  have hread : readArgument (dispatch c.text) [] ui.ip =
      some (nothingTyped, []) := by
    have hleft : leftOver [] (dispatch c.text) = [] :=
      List.suffix_nil.mp (leftOver_suffix [] _)
    rw [readArgument, hleft]
    split_ifs <;> rfl
  cases hresult : step ⟨dispatch c.text, nothingTyped⟩ ui with
  | ok reached => simp only [arrayRound, hscan, hread, hresult]
  | error halted => simp only [arrayRound, hscan, hread, hresult]

end Lines

/-! ## Whole scripts -/

/-- The command that a script leaves in `c`. -/
def lastCommand (lines : List ScriptLine) (c : CharArray 8) : Command :=
  match lines.getLast? with
  | some line => line.command
  | none => dispatch c.text

section Scripts

variable {lines : List ScriptLine} {ui : UiState} {c : CharArray 8}

/-- Rounds behind the end of the input. -/
theorem arrayRounds_ended {input : Text} (hinput : scanWord input = none)
    (count : ℕ) :
    (arrayRounds count ⟨input, c, ui⟩).map ArrayConsole.ui =
      (runLines (List.replicate count ⟨dispatch c.text, nothingTyped⟩)
        ui).mapError Stop.halted := by
  induction count generalizing input ui with
  | zero => rfl
  | succ count ih =>
      rw [arrayRounds, arrayRound_ended hinput, List.replicate_succ, runLines,
        run]
      cases step ⟨dispatch c.text, nothingTyped⟩ ui with
      | ok reached => exact ih rfl
      | error halted => rfl

theorem script_cons (line : ScriptLine) (lines : List ScriptLine) :
    script (line :: lines) = line.text ++ '\n' :: script lines := by
  simp [script]

theorem lastCommand_cons {line : ScriptLine} (hvalid : line.command ≠ .invalid)
    {stored : CharArray 8} (hstored : stored.text = line.command.word) :
    lastCommand (line :: lines) c = lastCommand lines stored := by
  cases lines with
  | nil =>
      have hword : dispatch stored.text = line.command := by
        rw [hstored, dispatch_word hvalid]
      exact hword.symm
  | cons next lines => rfl

/-- A script at the start of a line or after the end of one. -/
theorem script_rounds (hplain : ∀ line ∈ lines, line.Plain) (count : ℕ)
    {input : Text} (hinput : input = script lines ∨ input = '\n' :: script lines) :
    (arrayRounds (lines.length + count) ⟨input, c, ui⟩).map
        ArrayConsole.ui =
      (runLines (lines.map (fun line => ⟨line.command, line.typed⟩) ++
        List.replicate count ⟨lastCommand lines c, nothingTyped⟩)
          ui).mapError Stop.halted := by
  induction lines generalizing input c ui with
  | nil =>
      rw [List.length_nil, Nat.zero_add, List.map_nil, List.nil_append]
      refine arrayRounds_ended ?_ count
      rcases hinput with rfl | rfl <;> rfl
  | cons line lines ih =>
      have hline : line.Plain := hplain line List.mem_cons_self
      have hround : arrayRound ⟨input, c, ui⟩ =
          arrayRound ⟨line.text ++ '\n' :: script lines, c, ui⟩ := by
        rcases hinput with rfl | rfl
        · rw [script_cons]
        · rw [arrayRound_newline, script_cons]
      obtain ⟨stored, hstored, hexecuted⟩ := arrayRound_line hline (script lines)
      rw [List.length_cons, Nat.add_right_comm, arrayRounds, hround, hexecuted,
        List.map_cons, List.cons_append, runLines, run,
        lastCommand_cons hline.valid hstored]
      cases step ⟨line.command, line.typed⟩ ui with
      | ok reached =>
          exact ih (fun later hlater =>
            hplain later (List.mem_cons_of_mem line hlater)) (Or.inr rfl)
      | error halted => rfl

/-- A script is executed as it is written, and after its end the last command is
repeated, with nothing to read.  The loop stops exactly when a command stops
it. -/
theorem script_executed (hplain : ∀ line ∈ lines, line.Plain) (count : ℕ) :
    (arrayRounds (lines.length + count) ⟨script lines, c, ui⟩).map
        ArrayConsole.ui =
      (runLines (lines.map (fun line => ⟨line.command, line.typed⟩) ++
        List.replicate count ⟨lastCommand lines c, nothingTyped⟩)
          ui).mapError Stop.halted :=
  script_rounds hplain count (Or.inl rfl)

/-- A gain below zero, and a destination. -/
def sampleScript : List ScriptLine :=
  [⟨.vll, -3, ['-']⟩, ⟨.strdip, 0, "10.100.200.1".toList⟩]

theorem sampleScript_plain : ∀ line ∈ sampleScript, line.Plain := by
  intro line hline
  simp only [sampleScript, List.mem_cons, List.not_mem_nil, or_false] at hline
  rcases hline with rfl | rfl <;>
    exact ⟨by decide, by decide, by decide +kernel, by decide +kernel,
      by decide +kernel, by decide +kernel, by decide +kernel⟩

theorem script_executed_sample :
    (arrayRounds 3 (typedConsole (script sampleScript))).map ArrayConsole.ui =
      (runLines (sampleScript.map (fun line => ⟨line.command, line.typed⟩) ++
        [⟨.strdip, nothingTyped⟩]) (start zeroBoard 0)).mapError Stop.halted :=
  script_executed sampleScript_plain 1

end Scripts

end Songpark.UiControl
