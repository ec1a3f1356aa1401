import Songpark.Device.RegIo
import Songpark.Text.Scan

/-!
# The OLED display

The driver keeps the shown characters in `int_seq`, four to a word and sixteen
words to a page, and copies the first sixteen words to the display after every
change.  A copy is completed by a pulse on the register at offset 64 that is
held for many writes.
-/

namespace Songpark.Display

open Songpark.RegisterFile Songpark.RegIo Songpark.Scan

abbrev Buffer := Fin 64 → Word

def delay : ℕ := 10000

/-- The same write over and over, as the driver waits. -/
def repeatWrite (base : Device) (offset : ℕ) (value : Word) : ℕ → DeviceM Unit
  | 0 => pure ()
  | count + 1 => do
      writeReg base offset value
      repeatWrite base offset value count

/-- The byte offsets of the display registers. -/
def displayOffsets : List ℕ := (List.range 16).map (4 * ·)

/-- The index into the buffer is the byte offset, not the word number. -/
def copyBuffer (oledBase : Device) (intSeq : Buffer) : List ℕ → DeviceM Unit
  | [] => pure ()
  | offset :: offsets => do
      writeReg oledBase offset (intSeq (Fin.ofNat 64 offset))
      copyBuffer oledBase intSeq offsets

/-- Copy the buffer to the display and let it take the copy. -/
def refresh (oledBase : Device) (intSeq : Buffer) : DeviceM Unit := do
  copyBuffer oledBase intSeq displayOffsets
  repeatWrite oledBase 64 1 (delay + 1)
  repeatWrite oledBase 64 0 (delay + 1)

def oledClear (oledBase : Device) : DeviceM Buffer := do
  let intSeq : Buffer := fun _ => 0
  refresh oledBase intSeq
  return intSeq

/-- The word a character is put into. -/
def charIndex (page position : ℕ) : Fin 64 :=
  Fin.ofNat 64 (position - position % 4 + 16 * page)

/-- A `char` is widened to an `int`, so its sign is extended. -/
def charWord (charSeq : Char) (position : ℕ) : Word :=
  ((BitVec.ofNat 8 charSeq.toNat).signExtend 32) <<< (8 * (position % 4))

/-- The character is added to the buffer by an `or`, and nothing happens outside
the four pages of sixteen positions. -/
def oledPrintChar (charSeq : Char) (page position : ℕ) (oledBase : Device)
    (intSeq : Buffer) : DeviceM Buffer := do
  if position > 15 then
    return intSeq
  if page > 3 then
    return intSeq
  let index := charIndex page position
  let intSeq := Function.update intSeq index
    (intSeq index ||| charWord charSeq position)
  refresh oledBase intSeq
  return intSeq

/-- The characters of a message from position `i` on. -/
def printFrom (page : ℕ) (oledBase : Device) :
    ℕ → Text → Buffer → DeviceM Buffer
  | _, [], intSeq => return intSeq
  | i, c :: rest, intSeq => do
      let intSeq ← oledPrintChar c page i oledBase intSeq
      printFrom page oledBase (i + 1) rest intSeq

def oledPrintMessage (start : Text) (page : ℕ) (oledBase : Device)
    (intSeq : Buffer) : DeviceM Buffer :=
  printFrom page oledBase 0 start intSeq

/-! ## Effects -/

section Effects

variable {oledBase : Device} {footprint : Set Register}

/-- The registers of the display and its refresh register. -/
def displayRegs (oledBase : Device) : Set Register :=
  {cell | cell.dev = oledBase ∧ cell.offset ∈ 64 :: displayOffsets}

theorem within_repeatWrite {offset : ℕ} {value : Word}
    (hmem : (⟨oledBase, offset⟩ : Register) ∈ footprint) (count : ℕ) :
    Within footprint (repeatWrite oledBase offset value count) := by
  induction count with
  | zero => exact .pure _
  | succ count ih => exact .bind (.writeReg hmem) fun _ => ih

theorem within_copyBuffer {intSeq : Buffer} {offsets : List ℕ}
    (hmem : ∀ offset ∈ offsets, (⟨oledBase, offset⟩ : Register) ∈ footprint) :
    Within footprint (copyBuffer oledBase intSeq offsets) := by
  induction offsets with
  | nil => exact .pure _
  | cons offset offsets ih =>
      refine .bind (.writeReg (hmem offset List.mem_cons_self)) fun _ => ih ?_
      intro later hlater
      exact hmem later (List.mem_cons_of_mem _ hlater)

theorem within_refresh {intSeq : Buffer}
    (hmem : displayRegs oledBase ⊆ footprint) :
    Within footprint (refresh oledBase intSeq) := by
  have hpulse : (⟨oledBase, 64⟩ : Register) ∈ footprint :=
    hmem ⟨rfl, List.mem_cons_self⟩
  have hcopy : ∀ offset ∈ displayOffsets,
      (⟨oledBase, offset⟩ : Register) ∈ footprint := fun offset hoffset =>
    hmem ⟨rfl, List.mem_cons_of_mem _ hoffset⟩
  exact .bind (within_copyBuffer hcopy) fun _ =>
    .bind (within_repeatWrite hpulse _) fun _ => within_repeatWrite hpulse _

theorem within_oledClear (hmem : displayRegs oledBase ⊆ footprint) :
    Within footprint (oledClear oledBase) :=
  .bind (within_refresh hmem) fun _ => .pure _

theorem within_oledPrintChar (hmem : displayRegs oledBase ⊆ footprint)
    (charSeq : Char) (page position : ℕ) (intSeq : Buffer) :
    Within footprint
      (oledPrintChar charSeq page position oledBase intSeq) := by
  refine .ite (.pure _) (.ite (.pure _) ?_)
  exact .bind (within_refresh hmem) fun _ => .pure _

theorem within_oledPrintMessage (hmem : displayRegs oledBase ⊆ footprint)
    (start : Text) (page : ℕ) (intSeq : Buffer) :
    Within footprint (oledPrintMessage start page oledBase intSeq) := by
  have hfrom : ∀ position, Within footprint
      (printFrom page oledBase position start intSeq) := by
    induction start generalizing intSeq with
    | nil => exact fun _ => .pure _
    | cons c rest ih =>
        intro position
        exact .bind (within_oledPrintChar hmem c page position intSeq)
          fun shown => ih shown (position + 1)
  exact hfrom 0

end Effects

section Confined

variable {oledBase dev : Device}

theorem avoids_repeatWrite {offset : ℕ} {value : Word} (count : ℕ)
    (hdev : oledBase ≠ dev) :
    Avoids dev (repeatWrite oledBase offset value count) := by
  induction count with
  | zero => exact .pure _
  | succ count ih => exact .bind (.writeReg hdev) fun _ => ih

theorem avoids_copyBuffer {intSeq : Buffer} (offsets : List ℕ)
    (hdev : oledBase ≠ dev) :
    Avoids dev (copyBuffer oledBase intSeq offsets) := by
  induction offsets with
  | nil => exact .pure _
  | cons offset offsets ih => exact .bind (.writeReg hdev) fun _ => ih

theorem avoids_refresh {intSeq : Buffer} (hdev : oledBase ≠ dev) :
    Avoids dev (refresh oledBase intSeq) :=
  .bind (avoids_copyBuffer _ hdev) fun _ =>
    .bind (avoids_repeatWrite _ hdev) fun _ => avoids_repeatWrite _ hdev

theorem avoids_oledClear (hdev : oledBase ≠ dev) :
    Avoids dev (oledClear oledBase) :=
  .bind (avoids_refresh hdev) fun _ => .pure _

theorem avoids_oledPrintChar (charSeq : Char) (page position : ℕ)
    (intSeq : Buffer) (hdev : oledBase ≠ dev) :
    Avoids dev (oledPrintChar charSeq page position oledBase intSeq) := by
  refine .ite (.pure _) (.ite (.pure _) ?_)
  exact .bind (avoids_refresh hdev) fun _ => .pure _

theorem avoids_printFrom (start : Text) (page position : ℕ)
    (intSeq : Buffer) (hdev : oledBase ≠ dev) :
    Avoids dev (printFrom page oledBase position start intSeq) := by
  induction start generalizing position intSeq with
  | nil => exact .pure _
  | cons c rest ih =>
      exact .bind (avoids_oledPrintChar c page position intSeq hdev)
        fun shown => ih (position + 1) shown

end Confined

/-! ## What the display shows

Every refresh replaces all display registers, so after a few of them only the
last buffer counts. -/

section Shown

variable {oledBase : Device} {page position : ℕ}

/-- A register file whose display registers hold a buffer. -/
def shown (oledBase : Device) (intSeq : Buffer) (content : Register → Word) :
    Register → Word := fun cell =>
  if cell = ⟨oledBase, 64⟩ then 0
  else if cell.dev = oledBase ∧ cell.offset ∈ displayOffsets then
    intSeq (Fin.ofNat 64 cell.offset)
  else content cell

/-- The buffer after a character. -/
def charAdded (charSeq : Char) (page position : ℕ) (intSeq : Buffer) : Buffer :=
  if position > 15 then intSeq
  else if page > 3 then intSeq
  else Function.update intSeq (charIndex page position)
    (intSeq (charIndex page position) ||| charWord charSeq position)

def textAdded (page : ℕ) : ℕ → Text → Buffer → Buffer
  | _, [], intSeq => intSeq
  | i, c :: rest, intSeq =>
      textAdded page (i + 1) rest (charAdded c page i intSeq)

theorem shown_shown (old new : Buffer) (content : Register → Word) :
    shown oledBase new (shown oledBase old content) =
      shown oledBase new content := by
  funext cell
  unfold shown
  split_ifs <;> rfl

theorem repeatWrite_content (offset : ℕ) (value : Word) (count : ℕ)
    (board : MixerBoard) :
    (repeatWrite oledBase offset value (count + 1) board).2.content =
      Function.update board.content ⟨oledBase, offset⟩ value := by
  induction count generalizing board with
  | zero => rfl
  | succ count ih =>
      rw [repeatWrite, bind_apply, ih, writeReg_content, Function.update_idem]

theorem copyBuffer_content (intSeq : Buffer) (offsets : List ℕ)
    (board : MixerBoard) (cell : Register) :
    (copyBuffer oledBase intSeq offsets board).2.content cell =
      if cell.dev = oledBase ∧ cell.offset ∈ offsets then
        intSeq (Fin.ofNat 64 cell.offset)
      else board.content cell := by
  induction offsets generalizing board with
  | nil => simp [copyBuffer]
  | cons offset offsets ih =>
      obtain ⟨dev, at_⟩ := cell
      rw [copyBuffer, bind_apply, ih]
      simp only [writeReg_content, Function.update_apply, Cell.mk.injEq,
        List.mem_cons]
      grind

theorem refresh_content (intSeq : Buffer) (board : MixerBoard) :
    (refresh oledBase intSeq board).2.content =
      shown oledBase intSeq board.content := by
  funext cell
  rw [refresh, bind_apply, bind_apply, repeatWrite_content,
    repeatWrite_content, Function.update_idem, Function.update_apply,
    copyBuffer_content]
  rfl

theorem oledPrintChar_apply (charSeq : Char) (intSeq : Buffer)
    {content : Register → Word} {board : MixerBoard}
    (hboard : board.content = shown oledBase intSeq content) :
    (oledPrintChar charSeq page position oledBase intSeq board).1 =
        charAdded charSeq page position intSeq ∧
      (oledPrintChar charSeq page position oledBase intSeq board).2.content =
        shown oledBase (charAdded charSeq page position intSeq) content := by
  unfold oledPrintChar charAdded
  split_ifs
  · exact ⟨rfl, hboard⟩
  · exact ⟨rfl, hboard⟩
  · refine ⟨rfl, ?_⟩
    rw [bind_apply, pure_apply, refresh_content, hboard, shown_shown]

theorem printFrom_apply (text : Text) (intSeq : Buffer)
    {content : Register → Word} {board : MixerBoard}
    (hboard : board.content = shown oledBase intSeq content) :
    (printFrom page oledBase position text intSeq board).1 =
        textAdded page position text intSeq ∧
      (printFrom page oledBase position text intSeq board).2.content =
        shown oledBase (textAdded page position text intSeq) content := by
  induction text generalizing position intSeq board with
  | nil => exact ⟨rfl, hboard⟩
  | cons c rest ih =>
      obtain ⟨hbuffer, hcontent⟩ := oledPrintChar_apply c intSeq hboard
      rw [printFrom, bind_apply, hbuffer]
      exact ih _ hcontent

theorem oledPrintMessage_apply (message : Text) (intSeq : Buffer)
    {content : Register → Word} {board : MixerBoard}
    (hboard : board.content = shown oledBase intSeq content) :
    (oledPrintMessage message page oledBase intSeq board).1 =
        textAdded page 0 message intSeq ∧
      (oledPrintMessage message page oledBase intSeq board).2.content =
        shown oledBase (textAdded page 0 message intSeq) content :=
  printFrom_apply message intSeq hboard

theorem oledClear_apply (board : MixerBoard) :
    (oledClear oledBase board).1 = (fun _ => 0) ∧
      (oledClear oledBase board).2.content =
        shown oledBase (fun _ => 0) board.content := by
  simp only [oledClear, bind_apply, pure_apply, refresh_content, and_self]

end Shown

end Songpark.Display
