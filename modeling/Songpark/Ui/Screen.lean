import Songpark.Ui.OledMessages
import Songpark.Ui.Survival

/-!
# What the display shows

Six commands redraw the display: each clears it and prints up to two messages.
No other command reaches it.  So the panel shows the messages of the last of
the six, whatever was shown before and whatever has been typed since.
-/

namespace Songpark.UiControl

open Songpark.RegisterFile Songpark.RegIo Songpark.Scan Songpark.StateProgram
open Songpark.StreamControl Songpark.EthParam Songpark.LastSet Songpark.Lanes
open Songpark.Display

/-- The call of `oled_print_message` for a string of the console. -/
def messageCall (message : Text) (page : ℕ) : MessageCall where
  start := message.map charCode
  page := page

/-- The messages that a line leaves on the display, if it redraws it. -/
def Line.screen? (line : Line) : Option (List MessageCall) :=
  match line.command with
  | .strtestm1 | .strxtestm1 => some [messageCall "LR Ramp".toList 2]
  | .strtestm2 => some [messageCall "LR 0x555555".toList 2]
  | .plcoff => some []
  | .plcon => some [messageCall "PLC:ON".toList 1]
  | .strport => line.typed.number.map fun port =>
      [messageCall "DEST PORT".toList 1, messageCall (decimalInt port) 2]
  | _ => none

/-- The character of a cell, if every page shows its message from the left. -/
def rowCell (calls : List MessageCall) (page : Fin 4) (position : Fin 16) :
    Byte :=
  match calls.find? (·.page = page.val) with
  | some call => call.start.getD position 0
  | none => 0

/-- The character that the display registers hold for a cell. -/
def panel (ui : UiState) (page : Fin 4) (position : Fin 16) : Byte :=
  lane 8 (ui.board.content ⟨.zedboardOled, charIndex page position⟩)
    (position % 4)

/-! ## Messages after a clear -/

/-- A message that the driver prints as it is: ASCII characters other than NUL,
and a length that fits. -/
structure Printable (message : Text) : Prop where
  codes : ∀ code ∈ message.map charCode, 1 ≤ code.toNat ∧ code.toNat ≤ 127
  length : message.length < 2 ^ 32

theorem code_of_isDigit {c : Char} (hdigit : c.isDigit) :
    1 ≤ (charCode c).toNat ∧ (charCode c).toNat ≤ 127 := by
  have hrange : 48 ≤ c.toNat ∧ c.toNat ≤ 57 := by
    simpa [Char.isDigit, UInt32.le_iff_toNat_le] using hdigit
  rw [charCode, BitVec.toNat_ofNat]
  omega

theorem printable_decimal {value : ℕ} (hvalue : value < 10 ^ 10) :
    Printable (decimal value) := by
  constructor
  · intro code hcode
    obtain ⟨c, hc, rfl⟩ := List.mem_map.mp hcode
    exact code_of_isDigit (isDigit_of_mem_decimal hc)
  · have hlength : (decimal value).length ≤ 10 :=
      (Nat.length_toDigits_le_iff (by decide) (by decide)).mpr hvalue
    exact Nat.lt_of_le_of_lt hlength (by decide)

/-- A printed `int` is a short row of digits with at most a sign before
them. -/
theorem printable_decimalInt (value : Word) : Printable (decimalInt value) := by
  rw [decimalInt]
  split_ifs with hsign
  · have hvalue : value.toInt.natAbs < 10 ^ 10 := by
      have hlow := BitVec.le_toInt value
      omega
    obtain ⟨hcodes, _⟩ := printable_decimal hvalue
    constructor
    · rw [List.map_cons, List.forall_mem_cons]
      exact ⟨by decide, hcodes⟩
    · have hlength : (decimal value.toInt.natAbs).length ≤ 10 :=
        (Nat.length_toDigits_le_iff (by decide) (by decide)).mpr hvalue
      rw [List.length_cons]
      omega
  · exact printable_decimal (Nat.lt_of_lt_of_le value.isLt (by decide))

def printRows : List (Text × ℕ) → Buffer → DeviceM Buffer
  | [], intSeq => return intSeq
  | row :: rows, intSeq => do
      let intSeq ← oledPrintMessage row.1 row.2 .zedboardOled intSeq
      printRows rows intSeq

def rowCalls (rows : List (Text × ℕ)) : List MessageCall :=
  rows.map fun row => messageCall row.1 row.2

section Rows

variable {rows : List (Text × ℕ)}

theorem printRows_eq (hlength : ∀ row ∈ rows, row.1.length < 2 ^ 32)
    (intSeq : Buffer) :
    printAll .signed .zedboardOled (rowCalls rows) intSeq =
      Display.registers (printRows rows intSeq) := by
  induction rows generalizing intSeq with
  | nil => rfl
  | cons row rows ih =>
      obtain ⟨hrow, hrows⟩ := List.forall_mem_cons.mp hlength
      have hfirst : printMessage .signed (messageCall row.1 row.2).start
          (messageCall row.1 row.2).page .zedboardOled intSeq =
          Display.registers
            (oledPrintMessage row.1 row.2 .zedboardOled intSeq) :=
        printMessage_signed row.1 intSeq hrow
      rw [rowCalls, List.map_cons, printAll, printRows, registers_bind, hfirst]
      apply congrArg (Display.registers
        (oledPrintMessage row.1 row.2 .zedboardOled intSeq) >>= ·)
      funext drawn
      exact ih hrows drawn

/-- A clear and the rows after it. -/
def clearedRows (rows : List (Text × ℕ)) : DeviceM Buffer := do
  let intSeq ← oledClear .zedboardOled
  printRows rows intSeq

theorem bind_return {α : Type} (program : DeviceM α) :
    (program >>= fun value => pure value) = program := rfl

theorem clearedRows_nil : clearedRows [] = oledClear .zedboardOled := by
  have hbind := bind_return (oledClear .zedboardOled)
  exact hbind

theorem within_printRows (intSeq : Buffer) :
    Within Set.univ (printRows rows intSeq) := by
  induction rows generalizing intSeq with
  | nil => exact .pure _
  | cons row rows ih =>
      exact .bind (within_oledPrintMessage (Set.subset_univ _) _ _ _)
        fun drawn => ih drawn

theorem within_clearedRows (rows : List (Text × ℕ)) :
    Within Set.univ (clearedRows rows) :=
  .bind (within_oledClear (Set.subset_univ _)) fun intSeq =>
    within_printRows intSeq

theorem renderAll_rows (hlength : ∀ row ∈ rows, row.1.length < 2 ^ 32)
    (intSeq : Buffer) :
    renderAll .signed .zedboardOled (rowCalls rows) intSeq =
      Display.registers (clearedRows rows) := by
  rw [renderAll, clearPanel_eq, clearedRows, registers_bind]
  apply congrArg (Display.registers (oledClear .zedboardOled) >>= ·)
  funext drawn
  exact printRows_eq hlength drawn

/-- After the clear the display registers hold the ink of the rows. -/
theorem clearedRows_content (hlength : ∀ row ∈ rows, row.1.length < 2 ^ 32)
    (board : MixerBoard) :
    (clearedRows rows board).2.content =
      shown .zedboardOled (allInk .signed (rowCalls rows)) board.content := by
  obtain ⟨reached, hrun, hcontent⟩ := renderAll_apply .signed .zedboardOled
    (rowCalls rows) (fun _ => 0) board
  rw [renderAll_rows hlength, registers_apply] at hrun
  rw [Except.ok.inj hrun, hcontent]

/-- On different pages the ink is the messages. -/
theorem cell_rowCalls (hprintable : ∀ row ∈ rows, Printable row.1)
    (hpages : (rows.map Prod.snd).Nodup) (page : Fin 4) (position : Fin 16) :
    Display.cell (allInk .signed (rowCalls rows)) page position =
      rowCell (rowCalls rows) page position := by
  have hpage : page.val ≤ 3 := Nat.le_of_lt_succ page.isLt
  have hposition : position.val ≤ 15 := Nat.le_of_lt_succ position.isLt
  have hcalls : OnePerPage (rowCalls rows) := by
    constructor
    · intro call hcall _
      obtain ⟨row, hrow, rfl⟩ := List.mem_map.mp hcall
      exact (hprintable row hrow).codes
    · rw [rowCalls, List.map_map]
      exact hpages.filter _
  rw [rowCell]
  cases hfind : (rowCalls rows).find? (·.page = page.val) with
  | none =>
      refine cell_allInk_unused _ hpage hposition ?_
      intro call hcall hsame
      exact absurd (decide_eq_true hsame)
        (List.find?_eq_none.mp hfind call hcall)
  | some call =>
      have hcall := List.mem_of_find?_eq_some hfind
      have hsame : call.page = page.val := by
        simpa using List.find?_some hfind
      obtain ⟨row, hrow, rfl⟩ := List.mem_map.mp hcall
      have hkept : messageLength (messageCall row.1 row.2).start =
          (messageCall row.1 row.2).start.length := by
        apply Nat.mod_eq_of_lt
        rw [messageCall, List.length_map]
        exact (hprintable row hrow).length
      rw [← hsame, cell_rendered hcalls hcall (hsame ▸ hpage) hposition, hkept]
      split_ifs with hinside
      · rfl
      · exact (List.getD_eq_default _ _ (Nat.le_of_not_lt hinside)).symm

end Rows

/-! ## Steps -/

section Steps

variable {rows : List (Text × ℕ)} {line : Line} {ui reached : UiState}

theorem charIndex_displayed (page : Fin 4) (position : Fin 16) :
    (charIndex page position).val ∈ displayOffsets := by
  revert page position
  decide

/-- A display that holds a buffer shows its cells. -/
theorem panel_shown {intSeq : Buffer} {content : Register → Word}
    (hcontent : reached.board.content = shown .zedboardOled intSeq content)
    (page : Fin 4) (position : Fin 16) :
    panel reached page position = Display.cell intSeq page position := by
  rw [panel, hcontent, shown_display _ _ (charIndex_displayed page position)]
  rfl

/-- The panel after a clear and rows on different pages. -/
theorem panel_clearedRows (hprintable : ∀ row ∈ rows, Printable row.1)
    (hpages : (rows.map Prod.snd).Nodup) {board : MixerBoard}
    (hboard : reached.board = (clearedRows rows board).2) :
    panel reached = rowCell (rowCalls rows) := by
  have hcontent := clearedRows_content
    (fun row hrow => (hprintable row hrow).length) board
  rw [← hboard] at hcontent
  funext page position
  rw [panel_shown hcontent, cell_rowCalls hprintable hpages]

/-- A driver call before a cleared display with one message. -/
theorem message_apply (program : DeviceM Unit) (message : Text) (page : ℕ)
    (ui : UiState) :
    (do
      device program
      clearDisplay
      showMessage message page) ui =
      .ok ((), { ui with
        board := (clearedRows [(message, page)] (program ui.board).2).2
        intSeq := (clearedRows [(message, page)] (program ui.board).2).1 }) :=
  device_message program _ _ ui

theorem step_message {command : Command} {typed : Typed}
    (hnothing : command.argument = .nothing) {program : DeviceM Unit}
    {message : Text} {page : ℕ} (hprintable : Printable message)
    (hperform : perform command = (do
      device program
      clearDisplay
      showMessage message page))
    (hstep : step ⟨command, typed⟩ ui = .ok reached) :
    panel reached = rowCell [messageCall message page] := by
  obtain ⟨hrun, _⟩ := step_eq_ok.mp hstep
  rw [execute_nothing hnothing, hperform, message_apply] at hrun
  obtain ⟨_, hreached⟩ := Prod.mk.inj (Except.ok.inj hrun)
  have hrows : ∀ row ∈ [(message, page)], Printable row.1 := by
    intro row hrow
    rw [List.mem_singleton.mp hrow]
    exact hprintable
  exact panel_clearedRows hrows (List.nodup_singleton _)
    (congrArg UiState.board hreached).symm

theorem cleared_apply (program : DeviceM Unit) (ui : UiState) :
    ∃ result, clearedRows [] (program ui.board).2 = result ∧
      (do
        device program
        clearDisplay) ui =
        .ok ((), { ui with board := result.2, intSeq := result.1 }) := by
  refine ⟨_, rfl, ?_⟩
  rw [clearedRows_nil]
  exact device_cleared program _ ui

theorem step_plcoff {typed : Typed}
    (hstep : step ⟨.plcoff, typed⟩ ui = .ok reached) :
    panel reached = rowCell [] := by
  obtain ⟨hrun, _⟩ := step_eq_ok.mp hstep
  obtain ⟨result, hresult, happly⟩ :=
    cleared_apply (setPlcDisable .ethToAudio) (clearLog ui)
  rw [execute_nothing rfl, perform, happly] at hrun
  obtain ⟨_, hreached⟩ := Prod.mk.inj (Except.ok.inj hrun)
  have hnone : ∀ row ∈ ([] : List (Text × ℕ)), Printable row.1 := by simp
  apply panel_clearedRows hnone List.nodup_nil
  rw [hresult, ← hreached]

theorem step_strport {typed : Typed} {port : Word}
    (hnumber : typed.number = some port)
    (hstep : step ⟨.strport, typed⟩ ui = .ok reached) :
    panel reached = rowCell [messageCall "DEST PORT".toList 1,
      messageCall (decimalInt port) 2] := by
  obtain ⟨hrun, _⟩ := step_eq_ok.mp hstep
  rw [execute_strport, hnumber, Option.getD_some] at hrun
  obtain ⟨_, hreached⟩ := Prod.mk.inj (Except.ok.inj hrun)
  have hrows : ∀ row ∈ [("DEST PORT".toList, 1), (decimalInt port, 2)],
      Printable row.1 := by
    intro row hrow
    rcases List.mem_cons.mp hrow with rfl | hrow
    · exact ⟨by decide, by decide⟩
    · rw [List.mem_singleton.mp hrow]
      exact printable_decimalInt port
  have hboard := (congrArg UiState.board hreached).symm
  exact panel_clearedRows hrows (by simp) hboard

/-- Only the six commands write to the display. -/
theorem oled_not_touched {command : Command}
    (hcommand : command ∉ [.strtestm1, .strtestm2, .strxtestm1, .plcoff,
      .plcon, .strport]) :
    ∀ cell ∈ footprint command, cell.dev ≠ .zedboardOled := by
  revert hcommand
  cases command <;> decide

/-- A line redraws the panel or leaves it.  Without a number `strport` would
show the port that the variable holds. -/
theorem step_screen
    (hnumber : line.command = .strport → line.typed.number.isSome)
    (hstep : step line ui = .ok reached) :
    panel reached = ((line.screen?).map rowCell).getD (panel ui) := by
  obtain ⟨command, typed⟩ := line
  by_cases hcommand : command ∈ [.strtestm1, .strtestm2, .strxtestm1, .plcoff,
    .plcon, .strport]
  · simp only [List.mem_cons, List.not_mem_nil, or_false] at hcommand
    rcases hcommand with rfl | rfl | rfl | rfl | rfl | rfl
    · exact step_message rfl ⟨by decide, by decide⟩ (by rw [perform]) hstep
    · exact step_message rfl ⟨by decide, by decide⟩ (by rw [perform]) hstep
    · exact step_message rfl ⟨by decide, by decide⟩ (by rw [perform]) hstep
    · exact step_plcoff hstep
    · exact step_message rfl ⟨by decide, by decide⟩ (by rw [perform]) hstep
    · obtain ⟨port, hport⟩ := Option.isSome_iff_exists.mp (hnumber rfl)
      dsimp only at hport
      rw [step_strport hport hstep, Line.screen?]
      dsimp only
      rw [hport]
      rfl
  · have hnone : Line.screen? ⟨command, typed⟩ = none := by
      cases command <;> first | rfl | exact absurd (by decide) hcommand
    rw [hnone]
    funext page position
    have hcell : (⟨.zedboardOled, charIndex page position⟩ : Register) ∉
        touched command := fun hmem =>
      oled_not_touched hcommand _ hmem rfl
    have hkept : reached.board.content
        ⟨.zedboardOled, charIndex page position⟩ =
          ui.board.content ⟨.zedboardOled, charIndex page position⟩ :=
      step_cell hstep hcell
    rw [panel, hkept]
    rfl

end Steps

/-! ## Runs -/

section Runs

variable {lines : List Line} {ui reached : UiState}

/-- After any run the panel shows the messages of the last line that redrew
it. -/
theorem panel_lastSet
    (hnumber : ∀ line ∈ lines, line.command = .strport →
      line.typed.number.isSome)
    (hrun : runLines lines ui = .ok reached) :
    panel reached =
      ((lastSet Line.screen? lines).map rowCell).getD (panel ui) := by
  rw [← lastSet_map]
  exact run_lastSet (fun _ => True) panel
    (fun line => line.screen?.map rowCell) (fun _ _ _ _ _ _ => trivial)
    (fun line hline _ _ _ hstep => step_screen (hnumber line hline) hstep)
    trivial hrun

/-- With every device mapped only `exit` and addresses can stop the loop. -/
theorem exists_step (line : Line) (hexit : line.command ≠ .exit)
    (hip : line.command.argument ≠ .ip)
    (hmapped : ∀ dev, ui.board.base dev = .mapped) :
    ∃ next, step line ui = .ok next ∧ ∀ dev, next.board.base dev = .mapped := by
  obtain ⟨value, next, hrun⟩ := execute_returns hexit hip (clearLog ui)
  have hbase : next.board.base = (clearLog ui).board.base :=
    (execute_within _ _).base_eq hrun
  have hnext : ∀ dev, next.board.base dev = .mapped := by
    intro dev
    rw [hbase]
    exact hmapped dev
  exact ⟨next, step_eq_ok.mpr ⟨hrun, fun access _ => hnext access.dev⟩, hnext⟩

/-- The volume command after them, without a number, leaves the message of the
second line. -/
theorem panel_lastSet_plcon :
    ∃ reached, runLines
        [⟨.strtestm1, none, none⟩, ⟨.plcon, none, none⟩, ⟨.vll, none, none⟩]
        (start zeroBoard 0) = .ok reached ∧
      panel reached = rowCell [messageCall "PLC:ON".toList 1] := by
  have hready : ∀ dev, (start zeroBoard 0).board.base dev = .mapped :=
    fun _ => rfl
  obtain ⟨first, hfirst, hbase⟩ :=
    exists_step ⟨.strtestm1, none, none⟩ (by decide) (by decide) hready
  obtain ⟨second, hsecond, hbase⟩ :=
    exists_step ⟨.plcon, none, none⟩ (by decide) (by decide) hbase
  obtain ⟨third, hthird, _⟩ :=
    exists_step ⟨.vll, none, none⟩ (by decide) (by decide) hbase
  have hrun := run_cons.mpr
    ⟨first, hfirst, run_cons.mpr ⟨second, hsecond, run_cons.mpr
      ⟨third, hthird, run_nil.mpr rfl⟩⟩⟩
  exact ⟨third, hrun, panel_lastSet (by decide) hrun⟩

end Runs

end Songpark.UiControl
