import Songpark.Text.CharArray
import Songpark.Text.Groups
import Songpark.Ui.Console

/-!
# Stores of the words that are read

The loop reads command words into `c[8]` and addresses into `ip[128]`, both
through `scanf("%s")`.  This file runs the loop on arrays of these sizes and
stops at the first store outside one of them.  The main result says when that
never happens: every command word that is reached has at most seven characters,
every address at most 127.  The program's own commands do not keep to that.
-/

namespace Songpark.UiControl

open Songpark.RegisterFile Songpark.RegIo Songpark.Scan Songpark.StateProgram
open Songpark.Address

/-- The arrays of the loop that `scanf` stores into. -/
inductive WordArray
  | c
  | ip
  deriving DecidableEq

/-- How the loop stops: at a store outside an array, or inside a command. -/
inductive Stop
  | outside (array : WordArray)
  | halted (halted : Halt)

/-- The loop between two commands, with `c` as an array. -/
structure ArrayConsole where
  input : Text
  c : CharArray 8
  ui : UiState

/-- The argument of a command; an address goes through the array `ip`. -/
def readArgument (command : Command) (rest ip : Text) :
    Option (Typed × Text) :=
  if command.argument = .ip then
    match scanWord rest with
    | some (word, left) =>
        ((CharArray.holding ip : CharArray 128).storeFrom 0 word).map
          fun stored => (⟨(found rest).number, some stored.text⟩, left)
    | none => some (found rest, [])
  else some (found rest, leftOver rest command)

/-- One round of the loop. -/
def arrayRound (console : ArrayConsole) : Except Stop ArrayConsole :=
  match console.c.scanInto console.input with
  | none => .error (.outside .c)
  | some (c, rest) =>
      match readArgument (dispatch c.text) rest console.ui.ip with
      | none => .error (.outside .ip)
      | some (typed, left) =>
          match step ⟨dispatch c.text, typed⟩ console.ui with
          | .ok ui => .ok ⟨left, c, ui⟩
          | .error halted => .error (.halted halted)

def arrayRounds : ℕ → ArrayConsole → Except Stop ArrayConsole
  | 0, console => .ok console
  | count + 1, console =>
      match arrayRound console with
      | .ok reached => arrayRounds count reached
      | .error stop => .error stop

/-- The next word fits into `c`, and the address after it, if the command reads
one, into `ip`. -/
def WordsFit (input : Text) : Prop :=
  ∀ word rest, scanWord input = some (word, rest) →
    word.length < 8 ∧
      ((dispatch (cString word)).argument = .ip →
        ∀ address left, scanWord rest = some (address, left) →
          address.length < 128)

/-- No `scanf` of the run stores outside its array. -/
def StoresInside (console : ArrayConsole) : Prop :=
  ∀ count array, arrayRounds count console ≠ .error (.outside array)

section Rounds

variable {console reached : ArrayConsole} {array : WordArray}

theorem readArgument_eq_none_iff {command : Command} {rest ip : Text} :
    readArgument command rest ip = none ↔
      command.argument = .ip ∧ ∃ word left,
        scanWord rest = some (word, left) ∧ 128 ≤ word.length := by
  unfold readArgument
  by_cases hip : command.argument = .ip
  · rw [if_pos hip]
    cases scanWord rest with
    | none => simp
    | some scanned =>
        obtain ⟨word, left⟩ := scanned
        simp [hip, CharArray.storeFrom_eq_none_iff]
  · simp [hip]

/-- A round with a stored command leaves an array only with an address. -/
theorem outside_of_scanned {c : CharArray 8} {rest : Text}
    (hscan : console.c.scanInto console.input = some (c, rest)) :
    (∃ array, arrayRound console = .error (.outside array)) ↔
      readArgument (dispatch c.text) rest console.ui.ip = none := by
  rw [arrayRound, hscan]
  dsimp only
  cases readArgument (dispatch c.text) rest console.ui.ip with
  | none => simp
  | some argument =>
      obtain ⟨typed, left⟩ := argument
      dsimp only
      cases step ⟨dispatch c.text, typed⟩ console.ui with
      | ok ui => simp
      | error halted => simp

/-- A round without a command word goes on with the old one. -/
theorem not_outside_of_empty (hscan : scanWord console.input = none) :
    ¬ ∃ array, arrayRound console = .error (.outside array) := by
  have hkept : console.c.scanInto console.input = some (console.c, []) := by
    rw [CharArray.scanInto, hscan]
  rw [outside_of_scanned hkept, readArgument_eq_none_iff]
  rintro ⟨_, word, left, hword, _⟩
  cases hword

/-- The words of an input that begins with a command word. -/
theorem wordsFit_iff {input word rest : Text}
    (hscan : scanWord input = some (word, rest)) :
    WordsFit input ↔ word.length < 8 ∧
      ((dispatch (cString word)).argument = .ip →
        ∀ address left, scanWord rest = some (address, left) →
          address.length < 128) := by
  constructor
  · intro hfits
    exact hfits word rest hscan
  · intro hfits first later hfirst
    rw [hscan] at hfirst
    cases hfirst
    exact hfits

instance (input : Text) : Decidable (WordsFit input) :=
  match hscan : scanWord input with
  | none => .isTrue fun word rest hword => by
      rw [hscan] at hword
      cases hword
  | some (word, rest) =>
      match hafter : scanWord rest with
      | none => decidable_of_iff (word.length < 8) <| by
          simp [wordsFit_iff hscan, hafter]
      | some (address, left) => decidable_of_iff (word.length < 8 ∧
            ((dispatch (cString word)).argument = .ip → address.length < 128)) <| by
          simp [wordsFit_iff hscan, hafter]

/-- A round leaves an array exactly with words that do not fit. -/
theorem arrayRound_outside_iff :
    (∃ array, arrayRound console = .error (.outside array)) ↔
      ¬ WordsFit console.input := by
  cases hscan : scanWord console.input with
  | none =>
      refine iff_of_false (not_outside_of_empty hscan) (not_not.mpr ?_)
      intro word rest hword
      rw [hscan] at hword
      cases hword
  | some scanned =>
      obtain ⟨word, rest⟩ := scanned
      have hstores : console.c.scanInto console.input =
          (console.c.storeFrom 0 word).map fun stored => (stored, rest) := by
        rw [CharArray.scanInto, hscan]
      have hnone := CharArray.storeFrom_eq_none_iff console.c 0 word
      rw [wordsFit_iff hscan]
      cases hstored : console.c.storeFrom 0 word with
      | none =>
          rw [hstored, Option.map_none] at hstores
          have hlong := hnone.mp hstored
          refine iff_of_true ⟨.c, by rw [arrayRound, hstores]⟩ ?_
          intro hfits
          omega
      | some stored =>
          rw [hstored, Option.map_some] at hstores
          have hshort : word.length < 8 := by
            by_contra hlong
            rw [hnone.mpr (by omega)] at hstored
            cases hstored
          rw [outside_of_scanned hstores, readArgument_eq_none_iff,
            CharArray.text_storeFrom hstored]
          simp only [hshort, true_and, not_forall, Nat.not_lt, exists_prop]

/-- The last round of a run. -/
theorem arrayRounds_succ (count : ℕ) :
    arrayRounds (count + 1) console =
      match arrayRounds count console with
      | .ok reached => arrayRound reached
      | .error stop => .error stop := by
  induction count generalizing console with
  | zero =>
      simp only [arrayRounds]
      cases arrayRound console <;> rfl
  | succ count ih =>
      cases hround : arrayRound console with
      | error stop =>
          have hstopped : ∀ later,
              arrayRounds (later + 1) console = .error stop := fun later => by
            rw [arrayRounds, hround]
          rw [hstopped, hstopped]
      | ok middle =>
          have hfirst : ∀ later,
              arrayRounds (later + 1) console = arrayRounds later middle :=
            fun later => by rw [arrayRounds, hround]
          rw [hfirst, hfirst]
          exact ih

/-- A run stays inside its arrays exactly when it only meets words that fit. -/
theorem storesInside_iff :
    StoresInside console ↔
      ∀ count reached, arrayRounds count console = .ok reached →
        WordsFit reached.input := by
  constructor
  · intro hinside count reached hrun
    by_contra hlong
    obtain ⟨array, houtside⟩ := arrayRound_outside_iff.mpr hlong
    apply hinside (count + 1) array
    rw [arrayRounds_succ, hrun]
    exact houtside
  · intro hfits count array
    induction count with
    | zero => simp [arrayRounds]
    | succ count ih =>
        rw [arrayRounds_succ]
        cases hrun : arrayRounds count console with
        | error stop =>
            rw [hrun] at ih
            exact ih
        | ok reached =>
            intro houtside
            exact arrayRound_outside_iff.mp ⟨array, houtside⟩
              (hfits count reached hrun)

end Rounds

/-! ## The loop without arrays

As long as nothing is stored outside, a run on arrays is a run of the loop on
its input. -/

section Plain

variable {console reached : ArrayConsole} {input word rest : Text}

theorem takeSign_suffix (text : Text) : (takeSign text).2 <:+ text := by
  unfold takeSign
  split
  · exact List.suffix_cons _ _
  · exact List.suffix_cons _ _
  · exact List.suffix_refl _

theorem scanInt_suffix (input : Text) :
    (match scanInt input with
      | .ok (_, rest) => rest
      | .error rest => rest) <:+ input := by
  have hsign : (takeSign (skipSpace input)).2 <:+ input :=
    (takeSign_suffix _).trans (List.dropWhile_suffix _)
  simp only [scanInt, parseLong, skipHexPrefix_ten]
  cases (takeSign (skipSpace input)).2.takeWhile (isDigitOf 10) with
  | nil => exact hsign
  | cons digit digits => exact (List.dropWhile_suffix _).trans hsign

/-- A word and the rest of the input after it come from the input. -/
theorem scanWord_suffix (hscan : scanWord input = some (word, rest)) :
    word ++ rest <:+ input := by
  have hskip : skipSpace input <:+ input := List.dropWhile_suffix _
  unfold scanWord at hscan
  split at hscan
  case h_1 => cases hscan
  case h_2 first later hfirst =>
    cases hscan
    rw [List.takeWhile_append_dropWhile, ← hfirst]
    exact hskip

theorem leftOver_suffix (input : Text) (command : Command) :
    leftOver input command <:+ input := by
  rw [leftOver]
  cases command.argument with
  | nothing =>
      dsimp only
      split_ifs
      · exact List.drop_suffix _ _
      · exact List.suffix_refl _
  | gain | tmp | destPort => exact scanInt_suffix input
  | ip =>
      dsimp only
      cases hscan : scanWord input with
      | none => exact List.nil_suffix
      | some scanned =>
          exact (List.suffix_append _ _).trans (scanWord_suffix hscan)

/-- In an input without NUL the array holds what was found. -/
theorem readArgument_eq (hnul : '\x00' ∉ rest) {command : Command}
    {ip left : Text} {typed : Typed}
    (hread : readArgument command rest ip = some (typed, left)) :
    typed = found rest ∧ left = leftOver rest command := by
  unfold readArgument at hread
  split_ifs at hread with hip
  · rw [leftOver, hip]
    cases hscan : scanWord rest with
    | none =>
        rw [hscan] at hread
        cases hread
        exact ⟨rfl, rfl⟩
    | some scanned =>
        obtain ⟨address, after⟩ := scanned
        simp only [hscan] at hread
        obtain ⟨stored, hstored, heq⟩ := Option.map_eq_some_iff.mp hread
        cases heq
        have hfree : '\x00' ∉ address := fun hmem =>
          hnul ((scanWord_suffix hscan).mem (List.mem_append_left _ hmem))
        rw [CharArray.text_storeFrom hstored, cString_eq_self hfree]
        exact ⟨by rw [found, hscan]; rfl, rfl⟩
  · cases hread
    exact ⟨rfl, rfl⟩

def ArrayConsole.plain (console : ArrayConsole) : Console :=
  ⟨console.input, console.c.text, console.ui⟩

/-- The command and what the loop goes on with. -/
theorem readCommand_plain (hnul : '\x00' ∉ console.input) {c : CharArray 8}
    (hscan : console.c.scanInto console.input = some (c, rest)) :
    readCommand console.plain = (c.text, rest) ∧ rest <:+ console.input := by
  rw [CharArray.scanInto] at hscan
  cases hword : scanWord console.input with
  | none =>
      rw [hword] at hscan
      cases hscan
      exact ⟨by rw [readCommand, ArrayConsole.plain, hword], List.nil_suffix⟩
  | some scanned =>
      obtain ⟨word, after⟩ := scanned
      simp only [hword] at hscan
      obtain ⟨stored, hstored, heq⟩ := Option.map_eq_some_iff.mp hscan
      cases heq
      have hfree : '\x00' ∉ word := fun hmem =>
        hnul ((scanWord_suffix hword).mem (List.mem_append_left _ hmem))
      rw [CharArray.text_storeFrom hstored, cString_eq_self hfree, readCommand,
        ArrayConsole.plain, hword]
      exact ⟨rfl, (List.suffix_append _ _).trans (scanWord_suffix hword)⟩

theorem round_of_arrayRound (hnul : '\x00' ∉ console.input)
    (hround : arrayRound console = .ok reached) :
    round console.plain = .ok reached.plain ∧
      reached.input <:+ console.input := by
  unfold arrayRound at hround
  split at hround
  case h_1 => cases hround
  case h_2 c rest hscan =>
    obtain ⟨hcommand, hsuffix⟩ := readCommand_plain hnul hscan
    have hfree : '\x00' ∉ rest := fun hmem => hnul (hsuffix.mem hmem)
    split at hround
    case h_1 => cases hround
    case h_2 typed left hread =>
      obtain ⟨rfl, rfl⟩ := readArgument_eq hfree hread
      split at hround
      case h_2 => cases hround
      case h_1 ui hstep =>
        cases hround
        refine ⟨?_, (leftOver_suffix _ _).trans hsuffix⟩
        rw [round, hcommand]
        dsimp only
        rw [ArrayConsole.plain, hstep]
        rfl

/-- A run that stays inside its arrays is a run of the loop on its input. -/
theorem rounds_of_arrayRounds {count : ℕ} (hnul : '\x00' ∉ console.input)
    (hrun : arrayRounds count console = .ok reached) :
    rounds count console.plain = .ok reached.plain := by
  induction count generalizing console with
  | zero =>
      cases hrun
      rfl
  | succ count ih =>
      rw [arrayRounds] at hrun
      split at hrun
      case h_2 => cases hrun
      case h_1 middle hround =>
        obtain ⟨hplain, hsuffix⟩ := round_of_arrayRound hnul hround
        rw [rounds, hplain]
        exact ih (fun hmem => hnul (hsuffix.mem hmem)) hrun

end Plain

/-! ## Entries

A store outside an array has no defined effect.  With that the loop on arrays
is a run of what is typed. -/

/-- The effect of a stop. -/
def Stop.halt : Stop → Halt
  | .outside _ => .undefined
  | .halted inside => inside

/-- The state after rounds on arrays, or how they stopped. -/
def reachedBy (result : Except Stop ArrayConsole) : Except Halt UiState :=
  (result.mapError Stop.halt).map ArrayConsole.ui

section Entries

variable {console : ArrayConsole} {input word rest : Text}

/-- A word that does not fit into `ip` stops the command as well. -/
theorem step_long_text {command : Command} {typed : Typed} {ui : UiState}
    {text : Text} (hip : command.argument = .ip) (htext : typed.text = some text)
    (hlong : 128 ≤ text.length) :
    step ⟨command, typed⟩ ui = .error .undefined := by
  have hexecute : execute command typed (clearLog ui) = .error .undefined := by
    rw [execute, hip, StateProgram.bind_apply, scanArgument,
      StateProgram.bind_apply, observe_apply, htext, Option.getD_some]
    dsimp only
    rw [if_neg (by omega)]
    rfl
  simp only [step, hexecute]

/-- A round on arrays enters what is typed. -/
theorem arrayRound_enter (hnul : '\x00' ∉ console.input)
    (hscan : scanWord console.input = some (word, rest)) :
    reachedBy (arrayRound console) = enter ⟨word, found rest⟩ console.ui := by
  have hsuffix := scanWord_suffix hscan
  have hrest : '\x00' ∉ rest := fun hmem =>
    hnul (hsuffix.mem (List.mem_append_right _ hmem))
  rw [enter, arrayRound, CharArray.scanInto, hscan]
  dsimp only
  cases hstored : console.c.storeFrom 0 word with
  | none =>
      have hlong := (CharArray.storeFrom_eq_none_iff _ _ _).mp hstored
      rw [if_neg (by omega)]
      rfl
  | some stored =>
      have hfits : word.length < 8 := by
        by_contra hlong
        have hnone := (CharArray.storeFrom_eq_none_iff console.c 0 word).mpr
          (by omega)
        rw [hstored] at hnone
        cases hnone
      have hline : (⟨word, found rest⟩ : Entry).line =
          ⟨dispatch stored.text, found rest⟩ := by
        rw [CharArray.text_storeFrom hstored, Entry.line]
      rw [if_pos hfits, hline]
      dsimp only [Option.map_some]
      cases hread : readArgument (dispatch stored.text) rest console.ui.ip with
      | none =>
          obtain ⟨hip, address, left, haddress, hlong⟩ :=
            readArgument_eq_none_iff.mp hread
          have htext : (found rest).text = some address := by
            rw [found, haddress]
            rfl
          rw [step_long_text hip htext hlong]
          rfl
      | some argument =>
          obtain ⟨typed, left⟩ := argument
          obtain ⟨rfl, _⟩ := readArgument_eq hrest hread
          dsimp only
          cases step ⟨dispatch stored.text, found rest⟩ console.ui <;> rfl

/-- As long as the input has words, the loop on arrays is a run of what is
typed. -/
theorem arrayRounds_enter {count : ℕ} (hnul : '\x00' ∉ console.input)
    (hwords : (entriesOf count console.input).length = count) :
    reachedBy (arrayRounds count console) =
      run enter (entriesOf count console.input) console.ui := by
  induction count generalizing console with
  | zero => rfl
  | succ count ih =>
      rw [entriesOf] at hwords ⊢
      cases hscan : scanWord console.input with
      | none =>
          rw [hscan] at hwords
          cases hwords
      | some scanned =>
          obtain ⟨word, rest⟩ := scanned
          have hround := arrayRound_enter hnul hscan
          rw [hscan] at hwords
          dsimp only at hwords ⊢
          rw [run, arrayRounds, ← hround]
          cases harray : arrayRound console with
          | error stop => rfl
          | ok middle =>
              obtain ⟨hplain, hsuffix⟩ := round_of_arrayRound hnul harray
              have hinput : middle.input = leftOver rest (dispatch word) := by
                have hnext : middle.plain.input =
                    nextInput console.plain.input := round_input hplain
                rw [nextInput] at hnext
                simpa [ArrayConsole.plain, hscan] using hnext
              rw [← hinput] at hwords ⊢
              exact ih (fun hmem => hnul (hsuffix.mem hmem))
                (Nat.succ.inj hwords)

end Entries

/-! ## Loop and parsers -/

/-- The loop with a command typed into its array. -/
def typedConsole (input : Text) : ArrayConsole where
  input := input
  c := CharArray.holding []
  ui := start zeroBoard 0

/-- A reading of the help, which takes the two characters behind it, and an
address of four groups. -/
def quadInput : Text := "help\n\nstrdip 10.100.200.1".toList

theorem quadInput_fits (count : ℕ) : WordsFit (nextInput^[count] quadInput) := by
  match count with
  | 0 => decide +kernel
  | 1 => decide +kernel
  | count + 2 =>
      have hended : nextInput^[2] quadInput = [] := by decide +kernel
      rw [Function.iterate_add_apply, hended, Function.iterate_fixed rfl]
      decide

end Songpark.UiControl
