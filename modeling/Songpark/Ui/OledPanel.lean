import Songpark.Device.Display
import Songpark.Ui.StartupAddress

/-!
# The OLED driver on its array

The array `int_seq` has 64 words, and the driver computes the index of each
access.  Here it runs with a plain `char` of either signedness, and an access
outside of the array halts it.  None does, so with a signed `char` this is the
driver without checks.  All prints have one shape: a buffer that depends only on
what is printed is joined to the array, and the display shows the result.
-/

namespace Songpark.Display

open Songpark.RegisterFile Songpark.RegIo Songpark.Scan
open Songpark.StateProgram
open Songpark.UiControl (PlainChar)

/-- What ends a program on the array: an access outside of its entries. -/
inductive PanelHalt
  | outside
  deriving DecidableEq

abbrev PanelM := Program PanelHalt MixerBoard

def entry (intSeq : Buffer) (index : ℕ) : PanelM Word :=
  if hindex : index < 64 then pure (intSeq ⟨index, hindex⟩) else halt .outside

def setEntry (intSeq : Buffer) (index : ℕ) (value : Word) : PanelM Buffer :=
  if hindex : index < 64 then
    pure (Function.update intSeq ⟨index, hindex⟩ value)
  else halt .outside

/-- Driver code that does not use the array. -/
def registers {α : Type} (program : DeviceM α) : PanelM α := fun board =>
  .ok (program board)

def clearEntries : List ℕ → Buffer → PanelM Buffer
  | [], intSeq => return intSeq
  | index :: indices, intSeq => do
      let intSeq ← setEntry intSeq index 0
      clearEntries indices intSeq

def copyEntries (oledBase : Device) (intSeq : Buffer) : List ℕ → PanelM Unit
  | [] => pure ()
  | offset :: offsets => do
      let value ← entry intSeq offset
      registers (writeReg oledBase offset value)
      copyEntries oledBase intSeq offsets

def refreshPanel (oledBase : Device) (intSeq : Buffer) : PanelM Unit := do
  copyEntries oledBase intSeq displayOffsets
  registers (repeatWrite oledBase 64 1 (delay + 1))
  registers (repeatWrite oledBase 64 0 (delay + 1))

/-- `oled_clear` on the array as it is. -/
def clearPanel (oledBase : Device) (intSeq : Buffer) : PanelM Buffer := do
  let intSeq ← clearEntries (List.range 64) intSeq
  refreshPanel oledBase intSeq
  return intSeq

/-- `oled_print_char` with the promotion of the given plain `char`. -/
def printChar (plain : PlainChar) (charSeq : Byte) (page position : ℕ)
    (oledBase : Device) (intSeq : Buffer) : PanelM Buffer := do
  if position > 15 then
    return intSeq
  if page > 3 then
    return intSeq
  let asciiValue := plain.promote charSeq <<< (8 * (position % 4))
  let index := position - position % 4 + 16 * page
  let previous ← entry intSeq index
  let intSeq ← setEntry intSeq index (previous ||| asciiValue)
  refreshPanel oledBase intSeq
  return intSeq

def printChars (plain : PlainChar) (page : ℕ) (oledBase : Device) :
    ℕ → List Byte → Buffer → PanelM Buffer
  | _, [], intSeq => return intSeq
  | i, charSeq :: rest, intSeq => do
      let intSeq ← printChar plain charSeq page i oledBase intSeq
      printChars plain page oledBase (i + 1) rest intSeq

/-- The code of a character, as the strings of the console have it. -/
def charCode (charSeq : Char) : Byte := BitVec.ofNat 8 charSeq.toNat

/-- The length of a string is kept in an `unsigned int`. -/
def messageLength (start : List Byte) : ℕ := start.length % 2 ^ 32

/-- `oled_print_message` on the characters of a string. -/
def printMessage (plain : PlainChar) (start : List Byte) (page : ℕ)
    (oledBase : Device) (intSeq : Buffer) : PanelM Buffer :=
  printChars plain page oledBase 0 (start.take (messageLength start)) intSeq

/-! ## The accesses stay inside -/

section Accesses

variable {oledBase : Device} {intSeq : Buffer} {α β : Type}

theorem registers_bind (program : DeviceM α) (next : α → DeviceM β) :
    registers (program >>= next) =
      registers program >>= fun value => registers (next value) := rfl

theorem registers_return (program : DeviceM α) (value : β) :
    registers (program >>= fun _ => pure value) =
      registers program >>= fun _ => pure value := rfl

theorem registers_apply (program : DeviceM α) (board : MixerBoard) :
    registers program board = .ok (program board) := rfl

theorem registers_return_apply (program : DeviceM α) (value : β)
    (board : MixerBoard) :
    (registers program >>= fun _ => pure value) board =
      .ok (value, (program board).2) := rfl

theorem entry_inside {index : ℕ} (hindex : index < 64) :
    entry intSeq index = pure (intSeq (Fin.ofNat 64 index)) := by
  rw [entry, dif_pos hindex]
  congr 2
  exact Fin.ext (Nat.mod_eq_of_lt hindex).symm

theorem setEntry_inside {index : ℕ} {value : Word} (hindex : index < 64) :
    setEntry intSeq index value =
      pure (Function.update intSeq (Fin.ofNat 64 index) value) := by
  rw [setEntry, dif_pos hindex]
  congr 2
  exact Fin.ext (Nat.mod_eq_of_lt hindex).symm

theorem copyEntries_eq {offsets : List ℕ}
    (hoffsets : ∀ offset ∈ offsets, offset < 64) :
    copyEntries oledBase intSeq offsets =
      registers (copyBuffer oledBase intSeq offsets) := by
  induction offsets with
  | nil => rfl
  | cons offset offsets ih =>
      have hrest := ih fun later hlater =>
        hoffsets later (List.mem_cons_of_mem _ hlater)
      rw [copyEntries, entry_inside (hoffsets offset List.mem_cons_self),
        pure_next, hrest, copyBuffer, registers_bind]

theorem displayOffsets_lt : ∀ offset ∈ displayOffsets, offset < 64 := by
  decide

theorem refreshPanel_eq :
    refreshPanel oledBase intSeq = registers (refresh oledBase intSeq) := by
  rw [refreshPanel, refresh, copyEntries_eq displayOffsets_lt, registers_bind]
  refine congrArg (registers (copyBuffer oledBase intSeq displayOffsets) >>= ·) ?_
  funext _
  exact (registers_bind _ _).symm

theorem clearEntries_eq {indices : List ℕ}
    (hindices : ∀ index ∈ indices, index < 64) :
    clearEntries indices intSeq =
      pure fun index => if index.val ∈ indices then 0 else intSeq index := by
  induction indices generalizing intSeq with
  | nil => simp [clearEntries]
  | cons first indices ih =>
      have hfirst := hindices first List.mem_cons_self
      rw [clearEntries, setEntry_inside hfirst, pure_next,
        ih fun later hlater => hindices later (List.mem_cons_of_mem _ hlater)]
      congr 1
      funext index
      have hindex : index = Fin.ofNat 64 first ↔ index.val = first := by
        rw [Fin.ext_iff, Fin.val_ofNat, Nat.mod_eq_of_lt hfirst]
      simp only [Function.update_apply, hindex, List.mem_cons]
      grind

/-- The checked `oled_clear` is the one without checks. -/
theorem clearPanel_eq :
    clearPanel oledBase intSeq = registers (oledClear oledBase) := by
  have hcleared : clearEntries (List.range 64) intSeq =
      pure (fun _ => 0) := by
    rw [clearEntries_eq fun index => List.mem_range.mp]
    congr 1
    funext index
    exact if_pos (List.mem_range.mpr index.isLt)
  rw [clearPanel, hcleared, pure_next, refreshPanel_eq, oledClear,
    registers_return]

/-- A clear empties the array and the display. -/
theorem clearPanel_apply (oledBase : Device) (intSeq : Buffer)
    (board : MixerBoard) :
    ∃ reached,
      clearPanel oledBase intSeq board = .ok (fun _ => 0, reached) ∧
        reached.content = shown oledBase (fun _ => 0) board.content := by
  rw [clearPanel_eq, registers_apply]
  obtain ⟨hvalue, hcontent⟩ := @oledClear_apply oledBase board
  generalize oledClear oledBase board = result at hvalue hcontent
  obtain ⟨drawn, reached⟩ := result
  exact ⟨reached, congrArg (fun value => Except.ok (value, reached)) hvalue,
    hcontent⟩

end Accesses

/-! ## What a print adds

A print joins a buffer of its own to the one that is there. -/

def overlay (old new : Buffer) : Buffer := fun index => old index ||| new index

/-- The character alone, in a buffer that is otherwise empty. -/
def charInk (plain : PlainChar) (charSeq : Byte) (page position : ℕ) : Buffer :=
  if position > 15 then fun _ => 0
  else if page > 3 then fun _ => 0
  else Function.update (fun _ => 0) (charIndex page position)
    (plain.promote charSeq <<< (8 * (position % 4)))

def textInk (plain : PlainChar) (page : ℕ) : ℕ → List Byte → Buffer
  | _, [] => fun _ => 0
  | i, charSeq :: rest =>
      overlay (charInk plain charSeq page i) (textInk plain page (i + 1) rest)

/-- The characters that are printed of a string. -/
def printed (start : List Byte) : List Byte := start.take (messageLength start)

section Prints

variable {plain : PlainChar} {oledBase : Device} {page position : ℕ}

theorem overlay_zero (intSeq : Buffer) : overlay intSeq (fun _ => 0) = intSeq := by
  funext index
  exact BitVec.or_zero

theorem overlay_assoc (first second third : Buffer) :
    overlay (overlay first second) third =
      overlay first (overlay second third) := by
  funext index
  exact BitVec.or_assoc _ _ _

theorem charIndex_val (hpage : page ≤ 3) (hposition : position ≤ 15) :
    (charIndex page position).val =
      position - position % 4 + 16 * page := by
  rw [charIndex, Fin.val_ofNat]
  omega

theorem charInk_rejected (charSeq : Byte)
    (hrejected : position > 15 ∨ page > 3) :
    charInk plain charSeq page position = fun _ => 0 := by
  rw [charInk]
  split_ifs with hposition hpage
  · rfl
  · rfl
  · exact absurd hrejected (not_or.mpr ⟨hposition, hpage⟩)

/-- An accepted character is joined and the display gets the new buffer. -/
theorem printChar_eq (charSeq : Byte) (hpage : page ≤ 3)
    (hposition : position ≤ 15) (intSeq : Buffer) :
    printChar plain charSeq page position oledBase intSeq =
      registers (refresh oledBase
        (overlay intSeq (charInk plain charSeq page position))) >>= fun _ =>
          pure (overlay intSeq (charInk plain charSeq page position)) := by
  have hindex : position - position % 4 + 16 * page < 64 := by omega
  have hjoined : Function.update intSeq (charIndex page position)
      (intSeq (charIndex page position) |||
        plain.promote charSeq <<< (8 * (position % 4))) =
      overlay intSeq (charInk plain charSeq page position) := by
    funext index
    rw [overlay, charInk, if_neg (by omega), if_neg (by omega)]
    by_cases hsame : index = charIndex page position
    · rw [hsame, Function.update_self, Function.update_self]
    · rw [Function.update_of_ne hsame, Function.update_of_ne hsame]
      exact BitVec.or_zero.symm
  rw [charIndex] at hjoined
  rw [printChar, if_neg (by omega), if_neg (by omega)]
  dsimp only
  rw [entry_inside hindex, pure_next, setEntry_inside hindex, pure_next,
    hjoined, refreshPanel_eq]

/-- A rejected character changes nothing. -/
theorem printChar_rejected (charSeq : Byte) (intSeq : Buffer)
    (hrejected : position > 15 ∨ page > 3) :
    printChar plain charSeq page position oledBase intSeq = pure intSeq := by
  rw [printChar]
  split_ifs with hposition hpage
  · rfl
  · rfl
  · exact absurd hrejected (not_or.mpr ⟨hposition, hpage⟩)

/-- With a signed plain `char` the checked driver is the one without checks. -/
theorem printChar_signed (charSeq : Char) (intSeq : Buffer) :
    printChar .signed (charCode charSeq) page position oledBase intSeq =
      registers (oledPrintChar charSeq page position oledBase intSeq) := by
  by_cases hrejected : position > 15 ∨ page > 3
  · rw [printChar_rejected _ _ hrejected, oledPrintChar]
    split_ifs with hposition hpage
    · rfl
    · rfl
    · exact absurd hrejected (not_or.mpr ⟨hposition, hpage⟩)
  · obtain ⟨hposition, hpage⟩ := not_or.mp hrejected
    have hindex : position - position % 4 + 16 * page < 64 := by omega
    have hword : PlainChar.signed.promote (charCode charSeq) <<<
        (8 * (position % 4)) = charWord charSeq position := rfl
    rw [printChar, oledPrintChar, if_neg hposition, if_neg hposition,
      if_neg hpage, if_neg hpage]
    dsimp only
    rw [entry_inside hindex, pure_next, setEntry_inside hindex, pure_next,
      refreshPanel_eq, registers_return, hword, charIndex]

theorem printChars_signed (text : Text) (intSeq : Buffer) :
    printChars .signed page oledBase position (text.map charCode) intSeq =
      registers (printFrom page oledBase position text intSeq) := by
  induction text generalizing position intSeq with
  | nil => rfl
  | cons charSeq rest ih =>
      rw [List.map_cons, printChars, printFrom, printChar_signed,
        registers_bind]
      apply congrArg (registers
        (oledPrintChar charSeq page position oledBase intSeq) >>= ·)
      funext drawn
      exact ih drawn

theorem printMessage_signed (start : Text) (intSeq : Buffer)
    (hlength : start.length < 2 ^ 32) :
    printMessage .signed (start.map charCode) page oledBase intSeq =
      registers (oledPrintMessage start page oledBase intSeq) := by
  have hwhole : (start.map charCode).take
      (messageLength (start.map charCode)) = start.map charCode := by
    apply List.take_of_length_le
    rw [messageLength, List.length_map, Nat.mod_eq_of_lt hlength]
  rw [printMessage, hwhole, printChars_signed, oledPrintMessage]

/-- The program returns with its ink on the array, and a display that showed the
array shows the new one. -/
def Draws (oledBase : Device) (ink : Buffer)
    (program : Buffer → PanelM Buffer) : Prop :=
  ∀ intSeq board, ∃ reached,
    program intSeq board = .ok (overlay intSeq ink, reached) ∧
      ∀ content, board.content = shown oledBase intSeq content →
        reached.content = shown oledBase (overlay intSeq ink) content

theorem draws_return :
    Draws oledBase (fun _ => 0) fun intSeq => return intSeq := by
  intro intSeq board
  rw [overlay_zero]
  exact ⟨board, rfl, fun _ hboard => hboard⟩

theorem draws_bind {first second : Buffer}
    {program later : Buffer → PanelM Buffer}
    (hprogram : Draws oledBase first program)
    (hlater : Draws oledBase second later) :
    Draws oledBase (overlay first second)
      (fun intSeq => program intSeq >>= later) := by
  intro intSeq board
  obtain ⟨middle, hfirst, hmiddle⟩ := hprogram intSeq board
  obtain ⟨reached, hsecond, hreached⟩ :=
    hlater (overlay intSeq first) middle
  rw [← overlay_assoc]
  refine ⟨reached, bind_eq_ok.mpr ⟨_, middle, hfirst, hsecond⟩, ?_⟩
  intro content hboard
  exact hreached content (hmiddle content hboard)

theorem draws_printChar (charSeq : Byte) :
    Draws oledBase (charInk plain charSeq page position)
      (printChar plain charSeq page position oledBase) := by
  intro intSeq board
  by_cases hrejected : position > 15 ∨ page > 3
  · rw [printChar_rejected _ _ hrejected, charInk_rejected _ hrejected,
      overlay_zero]
    exact ⟨board, rfl, fun _ hboard => hboard⟩
  · obtain ⟨hposition, hpage⟩ := not_or.mp hrejected
    rw [printChar_eq charSeq (Nat.le_of_not_lt hpage)
      (Nat.le_of_not_lt hposition), registers_return_apply]
    refine ⟨_, rfl, ?_⟩
    intro content hboard
    rw [refresh_content, hboard, shown_shown]

theorem draws_printChars (text : List Byte) :
    Draws oledBase (textInk plain page position text)
      (printChars plain page oledBase position text) := by
  induction text generalizing position with
  | nil => exact draws_return
  | cons charSeq rest ih => exact draws_bind (draws_printChar charSeq) ih

theorem draws_printMessage (plain : PlainChar) (start : List Byte) (page : ℕ)
    (oledBase : Device) :
    Draws oledBase (textInk plain page 0 (printed start))
      (printMessage plain start page oledBase) :=
  draws_printChars (printed start)

end Prints

end Songpark.Display
