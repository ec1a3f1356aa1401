import Songpark.Ui.Volume
import Mathlib.Data.List.FinRange

/-!
# The volume bar

Eight LEDs show the global volume as a bar.  As long as the loop goes on they
are written by the global volume command alone, although the variable has other
values before the first of these commands; from then on the bar and the variable
agree.  The files of the LEDs are opened and written without a check.
-/

namespace Songpark.UiControl

open Songpark.RegisterFile Songpark.RegIo Songpark.Scan Songpark.StateProgram
open Songpark.LastSet

/-- Whether `update_leds` writes a one for an LED: two steps of the volume for
each of them, from the last to the first. -/
def ledOn (globalVol : Word) (led : Fin 8) : Bool :=
  16 - 2 * (led.val : ℤ) ≤ globalVol.toInt

/-- What was last written to a descriptor, a one or a zero. -/
abbrev LedFiles := ℤ → Option Bool

/-- `GPIO_LED_0` to `GPIO_LED_7`: -1 where the file could not be opened, and
all 0 in a process that did not call `init_gpios`. -/
abbrev Gpio := Fin 8 → ℤ

/-- `write` fails for a negative descriptor, and nobody notices. -/
def writeLed (gpio : Gpio) (globalVol : Word) (files : LedFiles)
    (led : Fin 8) : LedFiles :=
  if gpio led < 0 then files
  else Function.update files (gpio led) (some (ledOn globalVol led))

def updateLeds (gpio : Gpio) (globalVol : Word) (files : LedFiles) :
    LedFiles :=
  (List.finRange 8).foldl (writeLed gpio globalVol) files

/-- The state of the loop, and what was last written to the LEDs. -/
structure Panelled where
  ui : UiState
  files : LedFiles

def ledStep (gpio : Gpio) (line : Line) (state : Panelled) :
    Except Halt Panelled :=
  match step line state.ui with
  | .ok reached => .ok {
      ui := reached
      files :=
        if line.command = .vgg then
          updateLeds gpio reached.globalVol state.files
        else state.files }
  | .error halted => .error halted

/-! ## The bar -/

section Bar

variable {globalVol : Word}

/-- The bar has no gaps: an LED after a lit one is lit. -/
theorem ledOn_mono {led other : Fin 8} (hle : led ≤ other)
    (hlit : ledOn globalVol led = true) : ledOn globalVol other = true := by
  rw [ledOn, decide_eq_true_iff] at hlit ⊢
  have hval : led.val ≤ other.val := hle
  omega

/-- Its length is half the volume, between no LED and all of them. -/
theorem countP_ledOn :
    (List.finRange 8).countP (ledOn globalVol) =
      min 8 (globalVol.toInt / 2).toNat := by
  have hleds : List.finRange 8 = [0, 1, 2, 3, 4, 5, 6, 7] := by decide
  rw [hleds]
  simp only [List.countP_cons, List.countP_nil, ledOn, decide_eq_true_iff]
  generalize globalVol.toInt = volume
  simp only [Fin.isValue, Fin.coe_ofNat_eq_mod, Nat.reduceMod, Nat.zero_mod,
    Nat.one_mod, Nat.mod_succ, Nat.cast_zero, Nat.cast_one, Nat.cast_ofNat,
    Int.reduceMul, Int.reduceSub, mul_zero, mul_one, sub_zero, zero_add]
  split_ifs <;> omega

end Bar

/-! ## The files -/

section Files

variable {gpio : Gpio} {globalVol : Word} {files : LedFiles} {led : Fin 8}

/-- The LED has an open file, and no LED that is written later has the same
descriptor. -/
def Shown (gpio : Gpio) (led : Fin 8) : Prop :=
  0 ≤ gpio led ∧ ∀ later, led < later → gpio later ≠ gpio led

theorem shown_of_injective (hdistinct : Function.Injective gpio)
    (hopen : ∀ led, 0 ≤ gpio led) (led : Fin 8) : Shown gpio led :=
  ⟨hopen led, fun _ hlater hsame => hlater.ne' (hdistinct hsame)⟩

/-- What the write for one LED puts into a descriptor, if it reaches it. -/
def ledWrite? (gpio : Gpio) (globalVol : Word) (fd : ℤ) (led : Fin 8) :
    Option (Option Bool) :=
  if gpio led = fd ∧ 0 ≤ fd then some (some (ledOn globalVol led)) else none

theorem writeLed_file (fd : ℤ) :
    writeLed gpio globalVol files led fd =
      (ledWrite? gpio globalVol fd led).getD (files fd) := by
  unfold writeLed ledWrite?
  by_cases hsame : gpio led = fd
  · subst hsame
    by_cases hopen : gpio led < 0
    · have hclosed : ¬0 ≤ gpio led := by omega
      simp [hopen, hclosed]
    · have hopened : 0 ≤ gpio led := by omega
      simp [hopen, hopened]
  · have hkept : ¬(gpio led = fd ∧ 0 ≤ fd) := fun hboth => hsame hboth.1
    rw [if_neg hkept]
    split_ifs
    · rfl
    · exact Function.update_of_ne (Ne.symm hsame) _ _

/-- Of several writes to one descriptor the last one stays. -/
theorem updateLeds_file (fd : ℤ) :
    updateLeds gpio globalVol files fd =
      (lastSet (ledWrite? gpio globalVol fd) (List.finRange 8)).getD
        (files fd) := by
  rw [updateLeds, ← foldl_getD]
  exact (List.foldl_hom (fun files : LedFiles => files fd)
    fun _ _ => (writeLed_file fd).symm).symm

theorem updateLeds_shown (hshown : Shown gpio led) :
    updateLeds gpio globalVol files (gpio led) =
      some (ledOn globalVol led) := by
  obtain ⟨before, after, hleds⟩ := List.append_of_mem (List.mem_finRange led)
  have hsorted := List.pairwise_lt_finRange 8
  rw [hleds, List.pairwise_append, List.pairwise_cons] at hsorted
  have hafter : lastSet (ledWrite? gpio globalVol (gpio led)) after = none := by
    rw [lastSet_eq_none]
    intro later hlater
    have hother := hshown.2 later (hsorted.2.1.1 later hlater)
    exact if_neg fun hboth => hother hboth.1
  rw [updateLeds_file, hleds, lastSet_append, lastSet, hafter, ledWrite?,
    if_pos ⟨rfl, hshown.1⟩]
  rfl

end Files

/-! ## Runs -/

section Runs

variable {gpio : Gpio} {line : Line} {lines : List Line}
variable {state reached : Panelled}

theorem ledStep_eq_ok :
    ledStep gpio line state = .ok reached ↔
      step line state.ui = .ok reached.ui ∧
        reached.files =
          if line.command = .vgg then
            updateLeds gpio reached.ui.globalVol state.files
          else state.files := by
  rw [ledStep]
  cases step line state.ui with
  | error halted => simp
  | ok ui =>
      obtain ⟨other, files⟩ := reached
      simp only [Except.ok.injEq, Panelled.mk.injEq]
      constructor
      · rintro ⟨rfl, rfl⟩
        exact ⟨rfl, rfl⟩
      · rintro ⟨rfl, rfl⟩
        exact ⟨rfl, rfl⟩

/-- No other command changes the volume that is shown. -/
theorem step_globalVol {ui next : UiState} (hvgg : line.command ≠ .vgg)
    (hstep : step line ui = .ok next) : next.globalVol = ui.globalVol := by
  have hvolumes := congrArg Volumes.globalVol (step_after hstep)
  exact hvolumes.trans (Volumes.after_globalVol_other hvgg)

/-- The files hold the bar of the volume. -/
def Agreeing (gpio : Gpio) (state : Panelled) : Prop :=
  ∀ led, Shown gpio led →
    state.files (gpio led) = some (ledOn state.ui.globalVol led)

theorem ledStep_agreeing (hstep : ledStep gpio line state = .ok reached)
    (hagreeing : line.command = .vgg ∨ Agreeing gpio state) :
    Agreeing gpio reached := by
  intro led hshown
  obtain ⟨hui, hfiles⟩ := ledStep_eq_ok.mp hstep
  rw [hfiles]
  by_cases hvgg : line.command = .vgg
  · rw [if_pos hvgg]
    exact updateLeds_shown hshown
  · rw [if_neg hvgg, step_globalVol hvgg hui]
    exact hagreeing.resolve_left hvgg led hshown

/-- Once a global volume has been typed the files hold a bar without gaps,
whatever is typed later; with a file for each LED it is half the volume. -/
theorem leds_show (hvgg : ∃ line ∈ lines, line.command = .vgg)
    (hrun : run (ledStep gpio) lines state = .ok reached) :
    (∀ led, Shown gpio led →
      reached.files (gpio led) = some (ledOn reached.ui.globalVol led)) ∧
    (∀ led other, led ≤ other → Shown gpio led → Shown gpio other →
      reached.files (gpio led) = some true →
        reached.files (gpio other) = some true) ∧
    ((∀ led, Shown gpio led) →
      (List.finRange 8).countP (fun led => reached.files (gpio led) = some true) =
        min 8 (reached.ui.globalVol.toInt / 2).toNat) := by
  obtain ⟨line, hline, hcommand⟩ := hvgg
  obtain ⟨before, after, rfl⟩ := List.append_of_mem hline
  obtain ⟨middle, _, hrest⟩ := run_append.mp hrun
  obtain ⟨shown, hstep, hafter⟩ := run_cons.mp hrest
  have hshown : Agreeing gpio shown := ledStep_agreeing hstep (Or.inl hcommand)
  have hagreeing : Agreeing gpio reached :=
    run_invariant (Agreeing gpio)
      (fun _ _ _ _ hstate hnext => ledStep_agreeing hnext (Or.inr hstate))
      hafter hshown
  refine ⟨hagreeing, ?_, ?_⟩
  · intro led other hle hled hother hlit
    rw [hagreeing led hled, Option.some.injEq] at hlit
    rw [hagreeing other hother, ledOn_mono hle hlit]
  · intro hall
    rw [← countP_ledOn]
    apply List.countP_congr
    intro led _
    simp [hagreeing led (hall led)]

/-- With the volume 5 two LEDs are lit; the command after it finds no number. -/
theorem leds_show_two :
    ∃ reached, run (ledStep fun led => 3 + led.val)
        [⟨.vgg, some 5, none⟩, ⟨.vll, none, none⟩]
        ⟨start zeroBoard 0, fun _ => none⟩ = .ok reached ∧
      (List.finRange 8).countP
        (fun led => reached.files (3 + led.val) = some true) = 2 := by
  have hruns : ∃ reached, run (ledStep fun led => 3 + led.val)
      [⟨.vgg, some 5, none⟩, ⟨.vll, none, none⟩]
      ⟨start zeroBoard 0, fun _ => none⟩ = .ok reached := ⟨_, rfl⟩
  obtain ⟨reached, hrun⟩ := hruns
  have hvolume : reached.ui.globalVol = 5 := by
    cases hrun
    rfl
  obtain ⟨_, _, hcount⟩ := leds_show ⟨_, List.mem_cons_self, rfl⟩ hrun
  have hall : ∀ led, Shown (fun led => 3 + (led.val : ℤ)) led := by
    apply shown_of_injective
    · intro led other hsame
      have hval : (3 : ℤ) + led.val = 3 + other.val := hsame
      omega
    · intro led
      omega
  rw [hvolume] at hcount
  exact ⟨reached, hrun, hcount hall⟩

end Runs

end Songpark.UiControl
