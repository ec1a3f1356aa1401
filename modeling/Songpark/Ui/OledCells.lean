import Songpark.Core.Lanes
import Songpark.Ui.OledPanel

/-!
# Cells of the OLED display

Four characters share a word of `int_seq`, and a character is joined to its word
by an `or`.  It therefore shows only in a cell whose bits it covers.  Where
plain `char` is signed, a code from 128 on also fills the cells to its right in
the same word.
-/

namespace Songpark.Display

open Songpark.Lanes Songpark.RegisterFile Songpark.RegIo
open Songpark.StateProgram
open Songpark.UiControl (PlainChar)

/-- The cell of a page and a position: one byte of a word of the array. -/
def cell (intSeq : Buffer) (page position : ℕ) : Byte :=
  lane 8 (intSeq (charIndex page position)) (position % 4)

/-- What a character leaves in the cells to its right. -/
def spill : PlainChar → Byte → Byte
  | .signed, charSeq => BitVec.fill 8 charSeq.msb
  | .unsigned, _ => 0

/-- After the print the cell shows the character, the other cells are as before,
and the display registers equal the array. -/
def OneCell (plain : PlainChar) (charSeq : Byte) (page position : ℕ)
    (oledBase : Device) (intSeq : Buffer) (board : MixerBoard) : Prop :=
  ∃ drawn reached,
    printChar plain charSeq page position oledBase intSeq board =
        .ok (drawn, reached) ∧
      cell drawn page position = charSeq ∧
      (∀ otherPage ≤ 3, ∀ other ≤ 15,
        ¬ (otherPage = page ∧ other = position) →
          cell drawn otherPage other = cell intSeq otherPage other) ∧
      ∀ index : Fin 64, index.val ∈ displayOffsets →
        reached.content ⟨oledBase, index⟩ = drawn index

/-- The character has all bits of its cell, and if it is negative every cell to
its right in the word is full. -/
def Covers (plain : PlainChar) (charSeq : Byte) (page position : ℕ)
    (intSeq : Buffer) : Prop :=
  cell intSeq page position ||| charSeq = charSeq ∧
    (plain = .signed → 128 ≤ charSeq.toNat →
      ∀ right ≤ 15, position < right → right / 4 = position / 4 →
        cell intSeq page right = 255)

instance (plain : PlainChar) (charSeq : Byte) (page position : ℕ)
    (intSeq : Buffer) : Decidable (Covers plain charSeq page position intSeq) :=
  inferInstanceAs (Decidable (_ ∧ _))

/-- After two messages the cells show the second one. -/
def Overprints (plain : PlainChar) (old new : List Byte) (page : ℕ)
    (oledBase : Device) (intSeq : Buffer) (board : MixerBoard) : Prop :=
  ∃ drawn reached,
    (printMessage plain old page oledBase intSeq >>=
        printMessage plain new page oledBase) board = .ok (drawn, reached) ∧
      ∀ position (hposition : position < new.length), position ≤ 15 →
        cell drawn page position = new[position]

/-- What a text brings to a cell: its character there, and a full cell if a
negative character stands to the left in the word. -/
def cellInk (plain : PlainChar) (text : List Byte) (position : ℕ) : Byte :=
  text.getD position 0 ||| BitVec.fill 8 (decide (plain = .signed ∧
    ∃ left < position, left / 4 = position / 4 ∧
      128 ≤ (text.getD left 0).toNat))

/-- The earlier content of the cells, the old message and the new one add up to
the new one. -/
def CoversMessage (plain : PlainChar) (old new : List Byte) (page : ℕ)
    (intSeq : Buffer) : Prop :=
  ∀ position (hposition : position < new.length), position ≤ 15 →
    cell intSeq page position ||| cellInk plain (printed old) position |||
      cellInk plain (printed new) position = new[position]

/-! ## The cells of a character -/

section Characters

variable {plain : PlainChar} {charSeq : Byte}
variable {page position otherPage other : ℕ}

theorem cell_empty (page position : ℕ) :
    cell (fun _ => 0) page position = 0 :=
  lane_zero _

theorem cell_overlay (old new : Buffer) (page position : ℕ) :
    cell (overlay old new) page position =
      cell old page position ||| cell new page position :=
  lane_or _ _ _

theorem lane_promote (plain : PlainChar) (charSeq : Byte)
    (hother : other < 4) :
    lane 8 (plain.promote charSeq <<< (8 * position)) other =
      if other < position then 0
      else if other = position then charSeq
      else spill plain charSeq := by
  cases plain with
  | signed => exact lane_signExtend_shiftLeft (by omega)
  | unsigned =>
      have hlane : lane 8 (charSeq.setWidth 32 <<< (8 * position)) other =
          if other = position then charSeq else 0 :=
        lane_setWidth_shiftLeft (by omega)
      simp only [PlainChar.promote, spill, hlane]
      grind

theorem charIndex_eq_iff (hpage : page ≤ 3) (hposition : position ≤ 15)
    (hotherPage : otherPage ≤ 3) (hother : other ≤ 15) :
    charIndex otherPage other = charIndex page position ↔
      otherPage = page ∧ other / 4 = position / 4 := by
  rw [Fin.ext_iff, charIndex_val hpage hposition,
    charIndex_val hotherPage hother]
  omega

theorem cell_charInk (hpage : page ≤ 3) (hposition : position ≤ 15)
    (hotherPage : otherPage ≤ 3) (hother : other ≤ 15) :
    cell (charInk plain charSeq page position) otherPage other =
      if otherPage = page ∧ other / 4 = position / 4 then
        if other < position then 0
        else if other = position then charSeq
        else spill plain charSeq
      else 0 := by
  have hindex := charIndex_eq_iff hpage hposition hotherPage hother
  rw [cell, charInk, if_neg (by omega), if_neg (by omega),
    Function.update_apply]
  by_cases hsame : otherPage = page ∧ other / 4 = position / 4
  · rw [if_pos (hindex.mpr hsame), if_pos hsame,
      lane_promote plain charSeq (Nat.mod_lt other (by omega))]
    have hlt : other % 4 < position % 4 ↔ other < position := by omega
    have heq : other % 4 = position % 4 ↔ other = position := by omega
    simp only [hlt, heq]
  · rw [if_neg (hindex.not.mpr hsame), if_neg hsame]
    exact lane_zero _

theorem or_spill_eq_iff (plain : PlainChar) (charSeq value : Byte) :
    value ||| spill plain charSeq = value ↔
      (plain = .signed → 128 ≤ charSeq.toNat → value = 255) := by
  cases plain with
  | unsigned => simp [spill]
  | signed =>
      rw [spill, or_fill_eq_iff, BitVec.msb_eq_decide, decide_eq_true_eq]
      simp only [true_imp_iff]
      exact Iff.rfl

theorem shown_display {oledBase : Device} (intSeq : Buffer)
    (content : Register → Word) {index : Fin 64}
    (hindex : index.val ∈ displayOffsets) :
    shown oledBase intSeq content ⟨oledBase, index⟩ = intSeq index := by
  have hpulse : (⟨oledBase, index⟩ : Register) ≠ ⟨oledBase, 64⟩ := by
    intro heq
    exact Nat.ne_of_lt index.isLt (Cell.mk.inj heq).2
  have hself : Fin.ofNat 64 index.val = index :=
    Fin.ext (Nat.mod_eq_of_lt index.isLt)
  rw [shown, if_neg hpulse, if_pos ⟨rfl, hindex⟩, hself]

/-- The result of an accepted character. -/
theorem printChar_apply (plain : PlainChar) (charSeq : Byte)
    (oledBase : Device) (intSeq : Buffer) (board : MixerBoard)
    (hpage : page ≤ 3) (hposition : position ≤ 15) :
    ∃ reached,
      printChar plain charSeq page position oledBase intSeq board =
          .ok (overlay intSeq (charInk plain charSeq page position),
            reached) ∧
        ∀ index : Fin 64, index.val ∈ displayOffsets →
          reached.content ⟨oledBase, index⟩ =
            overlay intSeq (charInk plain charSeq page position) index := by
  rw [printChar_eq charSeq hpage hposition, registers_return_apply]
  refine ⟨_, rfl, ?_⟩
  intro index hindex
  rw [refresh_content, shown_display _ _ hindex]

/-- The other cells stay as they are if none of them is filled. -/
theorem others_unchanged_iff (intSeq : Buffer) (hpage : page ≤ 3)
    (hposition : position ≤ 15) :
    (∀ otherPage ≤ 3, ∀ other ≤ 15,
        ¬ (otherPage = page ∧ other = position) →
          cell (overlay intSeq (charInk plain charSeq page position))
              otherPage other =
            cell intSeq otherPage other) ↔
      (plain = .signed → 128 ≤ charSeq.toNat →
        ∀ right ≤ 15, position < right → right / 4 = position / 4 →
          cell intSeq page right = 255) := by
  constructor
  · intro hothers hsigned hcode right hright hafter hword
    have hcell := hothers page hpage right hright (by omega)
    rw [cell_overlay, cell_charInk hpage hposition hpage hright,
      if_pos ⟨rfl, hword⟩, if_neg (by omega), if_neg (by omega)] at hcell
    exact (or_spill_eq_iff plain charSeq _).mp hcell hsigned hcode
  · intro hfull otherPage hotherPage other hother hne
    rw [cell_overlay, cell_charInk hpage hposition hotherPage hother]
    split_ifs with hword hbefore hsame
    · exact BitVec.or_zero
    · exact absurd ⟨hword.1, hsame⟩ hne
    · rw [or_spill_eq_iff, hword.1]
      intro hsigned hcode
      exact hfull hsigned hcode other hother (by omega) hword.2
    · exact BitVec.or_zero

/-- One character changes one cell exactly if it covers what was there. -/
theorem oneCell_iff_covers {oledBase : Device} (intSeq : Buffer)
    (board : MixerBoard) (hpage : page ≤ 3) (hposition : position ≤ 15) :
    OneCell plain charSeq page position oledBase intSeq board ↔
      Covers plain charSeq page position intSeq := by
  obtain ⟨reached, hrun, hregisters⟩ :=
    printChar_apply plain charSeq oledBase intSeq board hpage hposition
  have hwritten : cell (overlay intSeq (charInk plain charSeq page position))
      page position = cell intSeq page position ||| charSeq := by
    rw [cell_overlay, cell_charInk hpage hposition hpage hposition,
      if_pos ⟨rfl, rfl⟩, if_neg (Nat.lt_irrefl position), if_pos rfl]
  rw [OneCell, hrun]
  simp only [Except.ok.injEq, Prod.mk.injEq]
  constructor
  · rintro ⟨_, _, ⟨rfl, rfl⟩, hcell, hothers, _⟩
    rw [hwritten] at hcell
    exact ⟨hcell, (others_unchanged_iff intSeq hpage hposition).mp hothers⟩
  · rintro ⟨hcell, hfull⟩
    rw [← hwritten] at hcell
    exact ⟨_, _, ⟨rfl, rfl⟩, hcell,
      (others_unchanged_iff intSeq hpage hposition).mpr hfull, hregisters⟩

end Characters

/-! ## The cells of a message -/

section Messages

variable {plain : PlainChar} {page position : ℕ}

theorem getLsbD_spill (plain : PlainChar) (charSeq : Byte) {bit : ℕ}
    (hbit : bit < 8) :
    (spill plain charSeq).getLsbD bit = true ↔
      plain = .signed ∧ 128 ≤ charSeq.toNat := by
  cases plain with
  | unsigned => simp [spill]
  | signed =>
      rw [spill, BitVec.getLsbD_fill, decide_eq_true hbit, Bool.and_true,
        BitVec.msb_eq_decide, decide_eq_true_eq]
      simp

/-- Where the bits of a cell can come from. -/
theorem getLsbD_cell_charInk (charSeq : Byte) (site : ℕ) {bit : ℕ}
    (hpage : page ≤ 3) (hposition : position ≤ 15) (hbit : bit < 8) :
    (cell (charInk plain charSeq page site) page position).getLsbD bit = true ↔
      site = position ∧ charSeq.getLsbD bit = true ∨
        site < position ∧ site / 4 = position / 4 ∧
          plain = .signed ∧ 128 ≤ charSeq.toNat := by
  by_cases hat : site ≤ 15
  · rw [cell_charInk hpage hat hpage hposition]
    have hspill := getLsbD_spill plain charSeq hbit
    have hzero : (0 : Byte).getLsbD bit = false := BitVec.getLsbD_zero
    split_ifs with hword hbefore hsame
    · grind
    · grind
    · rw [hspill]
      grind
    · grind
  · -- Behind the sixteenth position nothing is printed.
    rw [charInk_rejected _ (.inl (Nat.lt_of_not_le hat)), cell_empty]
    simp only [BitVec.ofNat_eq_ofNat, BitVec.getLsbD_zero, Bool.false_eq_true,
      false_iff]
    omega

theorem getLsbD_cell_textInk (text : List Byte) (first : ℕ) (bit : ℕ) :
    (cell (textInk plain page first text) page position).getLsbD bit = true ↔
      ∃ (index : ℕ) (hindex : index < text.length),
        (cell (charInk plain text[index] page (first + index)) page
          position).getLsbD bit = true := by
  induction text generalizing first with
  | nil =>
      rw [textInk, cell_empty]
      simp
  | cons charSeq rest ih =>
      rw [textInk, cell_overlay, BitVec.getLsbD_or, Bool.or_eq_true, ih]
      constructor
      · rintro (hhead | ⟨index, hindex, hrest⟩)
        · exact ⟨0, Nat.succ_pos _, hhead⟩
        · refine ⟨index + 1, Nat.succ_lt_succ hindex, ?_⟩
          rw [List.getElem_cons_succ, ← Nat.add_assoc, Nat.add_right_comm]
          exact hrest
      · rintro ⟨index, hindex, hbit⟩
        cases index with
        | zero => exact .inl hbit
        | succ index =>
            refine .inr ⟨index, Nat.lt_of_succ_lt_succ hindex, ?_⟩
            rw [List.getElem_cons_succ, ← Nat.add_assoc,
              Nat.add_right_comm] at hbit
            exact hbit

/-- A printed text brings its ink to each cell. -/
theorem cell_textInk (text : List Byte) (hpage : page ≤ 3)
    (hposition : position ≤ 15) :
    cell (textInk plain page 0 text) page position =
      cellInk plain text position := by
  apply BitVec.eq_of_getLsbD_eq
  intro bit hbit
  rw [Bool.eq_iff_iff, getLsbD_cell_textInk, cellInk, BitVec.getLsbD_or,
    BitVec.getLsbD_fill, decide_eq_true hbit, Bool.and_true, Bool.or_eq_true,
    decide_eq_true_eq]
  simp only [Nat.zero_add, getLsbD_cell_charInk _ _ hpage hposition hbit,
    List.getD_eq_getElem?_getD]
  constructor
  · rintro ⟨index, hindex, ⟨rfl, hchar⟩ | ⟨hlt, hword, hsigned, hcode⟩⟩
    · exact .inl (by rwa [List.getElem?_eq_getElem hindex])
    · refine .inr ⟨hsigned, index, hlt, hword, ?_⟩
      rwa [List.getElem?_eq_getElem hindex]
  · rintro (hchar | ⟨hsigned, left, hlt, hword, hcode⟩)
    · by_cases hinside : position < text.length
      · rw [List.getElem?_eq_getElem hinside] at hchar
        exact ⟨position, hinside, .inl ⟨rfl, hchar⟩⟩
      · rw [List.getElem?_eq_none (Nat.le_of_not_lt hinside)] at hchar
        simp at hchar
    · by_cases hinside : left < text.length
      · rw [List.getElem?_eq_getElem hinside] at hcode
        exact ⟨left, hinside, .inr ⟨hlt, hword, hsigned, hcode⟩⟩
      · rw [List.getElem?_eq_none (Nat.le_of_not_lt hinside)] at hcode
        simp at hcode

theorem overprint_apply (oledBase : Device) (old new : List Byte)
    (intSeq : Buffer) (board : MixerBoard) :
    ∃ reached,
      (printMessage plain old page oledBase intSeq >>=
          printMessage plain new page oledBase) board =
        .ok (overlay intSeq (overlay (textInk plain page 0 (printed old))
          (textInk plain page 0 (printed new))), reached) := by
  obtain ⟨reached, hrun, _⟩ := draws_bind
    (draws_printMessage plain old page oledBase)
    (draws_printMessage plain new page oledBase) intSeq board
  exact ⟨reached, hrun⟩

theorem overprints_iff {oledBase : Device} (old new : List Byte)
    (intSeq : Buffer) (board : MixerBoard) (hpage : page ≤ 3) :
    Overprints plain old new page oledBase intSeq board ↔
      CoversMessage plain old new page intSeq := by
  obtain ⟨reached, hrun⟩ := overprint_apply oledBase old new intSeq board
  have hcell : ∀ position ≤ 15,
      cell (overlay intSeq (overlay (textInk plain page 0 (printed old))
        (textInk plain page 0 (printed new)))) page position =
      cell intSeq page position ||| cellInk plain (printed old) position |||
        cellInk plain (printed new) position := by
    intro position hposition
    rw [cell_overlay, cell_overlay, cell_textInk _ hpage hposition,
      cell_textInk _ hpage hposition, BitVec.or_assoc]
  rw [Overprints, hrun]
  simp only [Except.ok.injEq, Prod.mk.injEq]
  constructor
  · rintro ⟨_, _, ⟨rfl, rfl⟩, hshows⟩ position hinside hposition
    rw [← hcell position hposition]
    exact hshows position hinside hposition
  · intro hcovers
    refine ⟨_, _, ⟨rfl, rfl⟩, ?_⟩
    intro position hinside hposition
    rw [hcell position hposition]
    exact hcovers position hinside hposition

end Messages

/-- A character changes its cell alone exactly if it covers what was there, and
a message shows over an old one exactly if their characters add up to it. -/
theorem printed_cells_iff (plain : PlainChar) (oledBase : Device)
    (intSeq : Buffer) (board : MixerBoard) {page : ℕ} (hpage : page ≤ 3) :
    (∀ charSeq, ∀ position ≤ 15,
        (OneCell plain charSeq page position oledBase intSeq board ↔
          Covers plain charSeq page position intSeq)) ∧
      ∀ old new : List Byte, old.length = new.length →
        (Overprints plain old new page oledBase intSeq board ↔
          CoversMessage plain old new page intSeq) :=
  ⟨fun _ _ hposition => oneCell_iff_covers intSeq board hpage hposition,
    fun old new _ => overprints_iff old new intSeq board hpage⟩

/-- Over an empty array a plain letter shows, and so does a letter over one whose
bits it has. -/
theorem printed_cells_blank :
    OneCell .signed 0x48 0 3 .zedboardOled (fun _ => 0) zeroBoard ∧
      Overprints .signed [0x43] [0x47] 0 .zedboardOled (fun _ => 0)
        zeroBoard := by
  have hcells := printed_cells_iff .signed .zedboardOled (fun _ => 0) zeroBoard
    (Nat.zero_le 3)
  refine ⟨(hcells.1 0x48 3 (by decide)).mpr (by decide), ?_⟩
  refine (hcells.2 [0x43] [0x47] rfl).mpr ?_
  intro position hposition _
  cases Nat.lt_one_iff.mp hposition
  exact (by decide : cell (fun _ => 0) 0 0 |||
    cellInk .signed (printed [0x43]) 0 |||
      cellInk .signed (printed [0x47]) 0 = 0x47)

/-- A `B` over an `A` shows a `C`, and a negative character spills. -/
theorem printed_cells_mixed :
    ¬ OneCell .unsigned 0x42 0 0 .zedboardOled
        (Function.update (fun _ => 0) 0 0x41) zeroBoard ∧
      ¬ OneCell .signed 0x80 0 0 .zedboardOled (fun _ => 0) zeroBoard ∧
      ¬ Overprints .unsigned [0x41] [0x42] 0 .zedboardOled (fun _ => 0)
        zeroBoard := by
  rw [oneCell_iff_covers _ _ (by decide) (by decide),
    oneCell_iff_covers _ _ (by decide) (by decide),
    overprints_iff _ _ _ _ (by decide)]
  refine ⟨by decide, by decide, ?_⟩
  intro hcovers
  exact absurd (hcovers 0 (by decide) (by decide)) (by decide)

end Songpark.Display
