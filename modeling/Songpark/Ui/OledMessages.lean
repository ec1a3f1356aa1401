import Songpark.Ui.OledCells
import Mathlib.Data.List.GetD
import Mathlib.Data.List.Nodup
import Mathlib.Data.List.Perm.Basic

/-!
# Messages on a cleared OLED display

After a clear, messages are printed to pairwise different pages.  Each page then
shows its message from the left, cut after sixteen characters, and the order of
the prints does not matter.  The length of a message is kept in 32 bits: a
message is cut earlier when its length loses its upper bits there.
-/

namespace Songpark.Display

open Songpark.Lanes Songpark.RegisterFile Songpark.RegIo
open Songpark.StateProgram
open Songpark.UiControl (PlainChar)

/-- The arguments of `oled_print_message`. -/
structure MessageCall where
  start : List Byte
  page : ℕ

def printAll (plain : PlainChar) (oledBase : Device) :
    List MessageCall → Buffer → PanelM Buffer
  | [], intSeq => return intSeq
  | call :: calls, intSeq => do
      let intSeq ← printMessage plain call.start call.page oledBase intSeq
      printAll plain oledBase calls intSeq

/-- A clear and the messages after it. -/
def renderAll (plain : PlainChar) (oledBase : Device)
    (calls : List MessageCall) (intSeq : Buffer) : PanelM Buffer := do
  let intSeq ← clearPanel oledBase intSeq
  printAll plain oledBase calls intSeq

/-- No page is printed to twice, and all characters that are printed are ASCII
characters other than NUL.  Messages to other pages may be anything. -/
structure OnePerPage (calls : List MessageCall) : Prop where
  codes : ∀ call ∈ calls, call.page ≤ 3 → ∀ code ∈ call.start,
    1 ≤ code.toNat ∧ code.toNat ≤ 127
  pages : ((calls.map (·.page)).filter (· ≤ 3)).Nodup

/-- Every page shows its message, the other cells are empty, and the display
registers equal the array. -/
structure Rendered (oledBase : Device) (calls : List MessageCall)
    (drawn : Buffer) (reached : MixerBoard) : Prop where
  cells : ∀ call ∈ calls, call.page ≤ 3 →
    ∀ position (hposition : position < call.start.length), position ≤ 15 →
      cell drawn call.page position = call.start[position]
  blank : ∀ page ≤ 3, ∀ position ≤ 15,
    (∀ call ∈ calls, call.page = page → call.start.length ≤ position) →
      cell drawn page position = 0
  registers : ∀ index : Fin 64, index.val ∈ displayOffsets →
    reached.content ⟨oledBase, index⟩ = drawn index

/-- The prints stay inside the array and render the messages, and any other
order of the calls leads to the same array and registers. -/
def RendersAll (plain : PlainChar) (oledBase : Device)
    (calls : List MessageCall) (intSeq : Buffer) (board : MixerBoard) : Prop :=
  ∃ drawn reached,
    renderAll plain oledBase calls intSeq board = .ok (drawn, reached) ∧
      Rendered oledBase calls drawn reached ∧
      ∀ reordered : List MessageCall, reordered.Perm calls →
        ∃ other,
          renderAll plain oledBase reordered intSeq board =
              .ok (drawn, other) ∧
            other.content = reached.content

/-- The length that is kept reaches to the end of the message or of the page. -/
def LengthsKept (calls : List MessageCall) : Prop :=
  ∀ call ∈ calls, call.page ≤ 3 →
    min call.start.length 16 ≤ messageLength call.start

instance (calls : List MessageCall) : Decidable (LengthsKept calls) :=
  inferInstanceAs (Decidable (∀ call ∈ calls, _ → _))

/-! ## The ink of all messages -/

def messageInk (plain : PlainChar) (call : MessageCall) : Buffer :=
  textInk plain call.page 0 (printed call.start)

def allInk (plain : PlainChar) : List MessageCall → Buffer
  | [] => fun _ => 0
  | call :: calls => overlay (messageInk plain call) (allInk plain calls)

section Runs

variable {plain : PlainChar} {oledBase : Device} {calls : List MessageCall}

theorem zero_overlay (intSeq : Buffer) :
    overlay (fun _ => 0) intSeq = intSeq := by
  funext index
  exact BitVec.zero_or

theorem overlay_left_comm (first second third : Buffer) :
    overlay first (overlay second third) =
      overlay second (overlay first third) := by
  funext index
  simp only [overlay, ← BitVec.or_assoc, BitVec.or_comm (first index)]

/-- The order of the messages does not matter for their ink. -/
theorem allInk_perm {reordered : List MessageCall}
    (hperm : reordered.Perm calls) :
    allInk plain reordered = allInk plain calls := by
  induction hperm with
  | nil => rfl
  | cons call _ ih => rw [allInk, allInk, ih]
  | swap first second calls => exact overlay_left_comm _ _ _
  | trans _ _ hfirst hsecond => exact hfirst.trans hsecond

theorem draws_printAll (plain : PlainChar) (oledBase : Device)
    (calls : List MessageCall) :
    Draws oledBase (allInk plain calls) (printAll plain oledBase calls) := by
  induction calls with
  | nil => exact draws_return
  | cons call calls ih =>
      exact draws_bind
        (draws_printMessage plain call.start call.page oledBase) ih

/-- After a clear the array holds the ink of the messages and nothing else. -/
theorem renderAll_apply (plain : PlainChar) (oledBase : Device)
    (calls : List MessageCall) (intSeq : Buffer) (board : MixerBoard) :
    ∃ reached,
      renderAll plain oledBase calls intSeq board =
          .ok (allInk plain calls, reached) ∧
        reached.content =
          shown oledBase (allInk plain calls) board.content := by
  obtain ⟨cleared, hclear, hcleared⟩ := clearPanel_apply oledBase intSeq board
  obtain ⟨reached, hrun, hreached⟩ :=
    draws_printAll plain oledBase calls (fun _ => 0) cleared
  rw [zero_overlay] at hrun hreached
  refine ⟨reached, ?_, hreached board.content hcleared⟩
  rw [renderAll, bind_eq_ok]
  exact ⟨_, cleared, hclear, hrun⟩

end Runs

/-! ## Cells of different pages -/

section Pages

variable {plain : PlainChar} {page otherPage position other : ℕ}

theorem cell_charInk_other (charSeq : Byte) (hne : otherPage ≠ page)
    (hotherPage : otherPage ≤ 3) (hother : other ≤ 15) :
    cell (charInk plain charSeq page position) otherPage other = 0 := by
  by_cases hrejected : position > 15 ∨ page > 3
  · rw [charInk_rejected _ hrejected, cell_empty]
  · obtain ⟨hposition, hpage⟩ := not_or.mp hrejected
    rw [cell_charInk (Nat.le_of_not_lt hpage) (Nat.le_of_not_lt hposition)
      hotherPage hother, if_neg fun hword => hne hword.1]

theorem cell_textInk_other (text : List Byte) (first : ℕ)
    (hne : otherPage ≠ page) (hotherPage : otherPage ≤ 3)
    (hother : other ≤ 15) :
    cell (textInk plain page first text) otherPage other = 0 := by
  induction text generalizing first with
  | nil => exact cell_empty _ _
  | cons charSeq rest ih =>
      rw [textInk, cell_overlay, cell_charInk_other _ hne hotherPage hother, ih]
      exact BitVec.or_zero

/-- A page that nothing is printed to stays empty. -/
theorem cell_allInk_unused (calls : List MessageCall) (hpage : page ≤ 3)
    (hposition : position ≤ 15) (hunused : ∀ call ∈ calls, call.page ≠ page) :
    cell (allInk plain calls) page position = 0 := by
  induction calls with
  | nil => exact cell_empty _ _
  | cons call calls ih =>
      obtain ⟨hcall, hcalls⟩ := List.forall_mem_cons.mp hunused
      rw [allInk, cell_overlay, messageInk,
        cell_textInk_other _ 0 hcall.symm hpage hposition, ih hcalls]
      exact BitVec.or_zero

/-- A page that one message is printed to holds its ink. -/
theorem cell_allInk {calls : List MessageCall} {call : MessageCall}
    (hpages : ((calls.map (·.page)).filter (· ≤ 3)).Nodup)
    (hcall : call ∈ calls) (hpage : call.page ≤ 3) (hposition : position ≤ 15) :
    cell (allInk plain calls) call.page position =
      cellInk plain (printed call.start) position := by
  induction calls with
  | nil => cases hcall
  | cons first calls ih =>
      rw [allInk, cell_overlay, messageInk]
      by_cases hfirst : first.page ≤ 3
      · -- Only one of the two sides brings ink to the page.
        rw [List.map_cons, List.filter_cons, if_pos (decide_eq_true hfirst),
          List.nodup_cons, List.mem_filter, List.mem_map] at hpages
        have hother : ∀ later ∈ calls, later.page ≠ first.page := by
          intro later hlater hsame
          exact hpages.1 ⟨⟨later, hlater, hsame⟩, decide_eq_true hfirst⟩
        obtain rfl | hlater := List.mem_cons.mp hcall
        · rw [cell_allInk_unused calls hpage hposition hother,
            cell_textInk _ hpage hposition]
          exact BitVec.or_zero
        · rw [cell_textInk_other _ 0 (hother call hlater) hpage hposition,
            ih hpages.2 hlater]
          exact BitVec.zero_or
      · rw [List.map_cons, List.filter_cons,
          if_neg (decide_eq_true_iff.not.mpr hfirst)] at hpages
        have hne : call.page ≠ first.page := fun hsame =>
          hfirst (hsame ▸ hpage)
        obtain rfl | hlater := List.mem_cons.mp hcall
        · exact absurd hpage hfirst
        · rw [cell_textInk_other _ 0 hne hpage hposition, ih hpages hlater]
          exact BitVec.zero_or

end Pages

/-! ## Messages of ASCII characters -/

section Ascii

variable {plain : PlainChar} {position : ℕ}

/-- Without negative characters the ink of a cell is its character. -/
theorem cellInk_ascii {text : List Byte}
    (hcodes : ∀ code ∈ text, code.toNat ≤ 127) :
    cellInk plain text position = text.getD position 0 := by
  have hsmall : ∀ left, (text.getD left 0).toNat ≤ 127 := by
    intro left
    by_cases hleft : left < text.length
    · rw [List.getD_eq_getElem _ _ hleft]
      exact hcodes _ (List.getElem_mem hleft)
    · rw [List.getD_eq_default _ _ (Nat.le_of_not_lt hleft)]
      exact Nat.zero_le _
  have hnone : ¬ (plain = .signed ∧ ∃ left < position,
      left / 4 = position / 4 ∧ 128 ≤ (text.getD left 0).toNat) := by
    rintro ⟨_, left, _, _, hlarge⟩
    exact absurd (hsmall left) (by omega)
  rw [cellInk, decide_eq_false hnone, BitVec.fill_false]
  exact BitVec.or_zero

theorem printed_getD (start : List Byte) (position : ℕ) :
    (printed start).getD position 0 =
      if position < messageLength start then start.getD position 0 else 0 := by
  rw [printed, List.getD_eq_getElem?_getD, List.getElem?_take]
  split_ifs with hprinted
  · rw [List.getD_eq_getElem?_getD]
  · rfl

end Ascii

/-! ## Rendering -/

section Rendering

variable {plain : PlainChar} {oledBase : Device} {calls : List MessageCall}
variable {position : ℕ}

/-- What a page shows of its message. -/
theorem cell_rendered {call : MessageCall} (hcalls : OnePerPage calls)
    (hcall : call ∈ calls) (hpage : call.page ≤ 3) (hposition : position ≤ 15) :
    cell (allInk plain calls) call.page position =
      if position < messageLength call.start then
        call.start.getD position 0
      else 0 := by
  have hascii : ∀ code ∈ printed call.start, code.toNat ≤ 127 := by
    intro code hcode
    exact (hcalls.codes call hcall hpage code (List.mem_of_mem_take hcode)).2
  rw [cell_allInk hcalls.pages hcall hpage hposition, cellInk_ascii hascii,
    printed_getD]

/-- A cell that shows its character has been printed. -/
theorem lengthsKept_of_cells (hcalls : OnePerPage calls)
    (hcells : ∀ call ∈ calls, call.page ≤ 3 →
      ∀ position (hposition : position < call.start.length), position ≤ 15 →
        cell (allInk plain calls) call.page position = call.start[position]) :
    LengthsKept calls := by
  intro call hcall hpage
  by_contra hlost
  -- The first character that is cut off is not zero, but its cell is.
  obtain ⟨hlength, hrow⟩ := Nat.lt_min.mp (Nat.lt_of_not_le hlost)
  have hshown := hcells call hcall hpage (messageLength call.start) hlength
    (Nat.le_of_lt_succ hrow)
  rw [cell_rendered hcalls hcall hpage (Nat.le_of_lt_succ hrow),
    if_neg (Nat.lt_irrefl _)] at hshown
  have hcode := (hcalls.codes call hcall hpage _
    (List.getElem_mem hlength)).1
  rw [← hshown] at hcode
  exact absurd hcode (by decide)

theorem cells_of_lengthsKept (hcalls : OnePerPage calls)
    (hkept : LengthsKept calls) {call : MessageCall} (hcall : call ∈ calls)
    (hpage : call.page ≤ 3) (hinside : position < call.start.length)
    (hposition : position ≤ 15) :
    cell (allInk plain calls) call.page position = call.start[position] := by
  have hprinted : position < messageLength call.start :=
    Nat.lt_of_lt_of_le (Nat.lt_min.mpr ⟨hinside, Nat.lt_succ_of_le hposition⟩)
      (hkept call hcall hpage)
  rw [cell_rendered hcalls hcall hpage hposition, if_pos hprinted,
    List.getD_eq_getElem _ _ hinside]

/-- A cell that no message reaches is empty. -/
theorem cell_unreached (hcalls : OnePerPage calls) {page : ℕ}
    (hpage : page ≤ 3) (hposition : position ≤ 15)
    (hshort : ∀ call ∈ calls, call.page = page →
      call.start.length ≤ position) :
    cell (allInk plain calls) page position = 0 := by
  by_cases hused : ∃ call ∈ calls, call.page = page
  · obtain ⟨call, hcall, rfl⟩ := hused
    rw [cell_rendered hcalls hcall hpage hposition,
      List.getD_eq_default _ _ (hshort call hcall rfl), ite_self]
  · refine cell_allInk_unused calls hpage hposition ?_
    intro call hcall hsame
    exact hused ⟨call, hcall, hsame⟩

theorem lengthsKept_of_rendersAll (hcalls : OnePerPage calls)
    {intSeq : Buffer} {board : MixerBoard}
    (hrenders : RendersAll plain oledBase calls intSeq board) :
    LengthsKept calls := by
  obtain ⟨reached, hrun, _⟩ :=
    renderAll_apply plain oledBase calls intSeq board
  obtain ⟨drawn, final, hfinal, hrendered, _⟩ := hrenders
  rw [hrun] at hfinal
  cases hfinal
  exact lengthsKept_of_cells hcalls hrendered.cells

theorem rendersAll_of_lengthsKept (hcalls : OnePerPage calls)
    (hkept : LengthsKept calls) (intSeq : Buffer) (board : MixerBoard) :
    RendersAll plain oledBase calls intSeq board := by
  obtain ⟨reached, hrun, hreached⟩ :=
    renderAll_apply plain oledBase calls intSeq board
  refine ⟨_, reached, hrun, ⟨?_, ?_, ?_⟩, ?_⟩
  · intro call hcall hpage position hinside hposition
    exact cells_of_lengthsKept hcalls hkept hcall hpage hinside hposition
  · intro page hpage position hposition hshort
    exact cell_unreached hcalls hpage hposition hshort
  · intro index hindex
    rw [hreached, shown_display _ _ hindex]
  · intro reordered hperm
    obtain ⟨other, hother, hcontent⟩ :=
      renderAll_apply plain oledBase reordered intSeq board
    rw [allInk_perm hperm] at hother hcontent
    exact ⟨other, hother, hcontent.trans hreached.symm⟩

/-- The messages are rendered exactly if no kept length loses what its page
could still show. -/
theorem rendersAll_iff (hcalls : OnePerPage calls) (intSeq : Buffer)
    (board : MixerBoard) :
    RendersAll plain oledBase calls intSeq board ↔ LengthsKept calls :=
  ⟨fun hrenders => lengthsKept_of_rendersAll hcalls hrenders,
    fun hkept => rendersAll_of_lengthsKept hcalls hkept intSeq board⟩

/-- A single message whose kept length is too short. -/
theorem not_rendersAll_of_lost {start : List Byte} {intSeq : Buffer}
    {board : MixerBoard}
    (hcodes : ∀ code ∈ start, 1 ≤ code.toNat ∧ code.toNat ≤ 127)
    (hlost : messageLength start < min start.length 16) :
    OnePerPage [⟨start, 0⟩] ∧
      ¬ RendersAll plain oledBase [⟨start, 0⟩] intSeq board := by
  have hcalls : OnePerPage [⟨start, 0⟩] := by
    refine ⟨?_, List.nodup_singleton 0⟩
    intro call hcall _
    rw [List.mem_singleton.mp hcall]
    exact hcodes
  refine ⟨hcalls, ?_⟩
  intro hrenders
  have hkept := lengthsKept_of_rendersAll hcalls hrenders _
    (List.mem_singleton_self _) (Nat.zero_le 3)
  exact absurd hkept (Nat.not_le_of_lt hlost)

end Rendering

/-- Two messages with a rejected one between them. -/
theorem rendersAll_greeting :
    RendersAll .signed .zedboardOled
      [⟨[0x48, 0x69], 1⟩, ⟨[0x80], 7⟩, ⟨[0x21], 0⟩] (fun _ => 0) zeroBoard :=
  (rendersAll_iff ⟨by decide, by decide⟩ _ _).mpr (by decide)

/-- Of a message of `2 ^ 32` characters nothing is printed. -/
theorem rendersAll_wrapped :
    OnePerPage [⟨List.replicate (2 ^ 32) 0x41, 0⟩] ∧
      ¬ RendersAll .signed .zedboardOled
        [⟨List.replicate (2 ^ 32) 0x41, 0⟩] (fun _ => 0) zeroBoard := by
  refine not_rendersAll_of_lost ?_ ?_
  · intro code hcode
    rw [List.eq_of_mem_replicate hcode]
    decide
  · rw [messageLength, List.length_replicate]
    decide

end Songpark.Display
