import Songpark.Ui.Frame

/-!
# Reports of the stream settings

Nine commands report a register that other commands set.  Whatever else is
typed in between, a report shows what was set last: the frame of every other
command leaves the register out.  Two limits of the receive buffer end up in
the register of the playout delay, so its report may show either.
-/

namespace Songpark.UiControl

open Songpark.RegisterFile Songpark.RegIo Songpark.StateProgram
open Songpark.StreamControl Songpark.LastSet

/-- The settings that can be read back, named by their reports. -/
inductive Report
  | plen
  | porder
  | blen
  | poutdly
  | ptlock
  | ptaccum
  | netdly
  | pktbuilddly
  | ptdiffs
  deriving DecidableEq

namespace Report

/-- The command that reports the setting. -/
def getter : Report → Command
  | .plen => .getplen
  | .porder => .getporder
  | .blen => .getblen
  | .poutdly => .getpoutdly
  | .ptlock => .getptlock
  | .ptaccum => .getptaccum
  | .netdly => .getnetdly
  | .pktbuilddly => .getpktbuilddly
  | .ptdiffs => .getptdiffs

/-- The register that is read. -/
def cell : Report → Register
  | .plen => ⟨.audioToEth, audioToEthReg 3⟩
  | .porder => ⟨.ethPacketSequencer, pktSeqReg 0⟩
  | .blen => ⟨.ethToAudio, ethToAudioReg 5⟩
  | .poutdly => ⟨.ethToAudio, ethToAudioReg 11⟩
  | .ptlock => ⟨.packetTimeEnforcer, pktTimeEnforcerReg 8⟩
  | .ptaccum => ⟨.packetTimeEnforcer, pktTimeEnforcerReg 9⟩
  | .netdly => ⟨.packetTimeEnforcer, pktTimeEnforcerReg 10⟩
  | .pktbuilddly => ⟨.packetTimeEnforcer, pktTimeEnforcerReg 11⟩
  | .ptdiffs => ⟨.packetTimeEnforcer, pktTimeEnforcerReg 20⟩

/-- How `tmp` takes the register in; the getter of the playout delay has no
declaration, so its value counts as signed. -/
def extend : Report → Word → LongWord
  | .poutdly => (·.signExtend 64)
  | _ => (·.setWidth 64)

/-- What a line sets the register to; a delay is typed in milliseconds and kept
in samples. -/
def sets (report : Report) (line : Line) : Option Word :=
  match report, line.command with
  | .plen, .strplen => line.typed.number
  | .porder, .strporder => line.typed.number
  | .blen, .strblen => line.typed.number
  | .poutdly, .setpoutdly => line.typed.number.map (· * 96)
  | .poutdly, .setbdlm => line.typed.number
  | .ptlock, .setptlock => some 1
  | .ptlock, .clrptlock => some 0
  | .ptaccum, .setptaccum => some 1
  | .ptaccum, .clrptaccum => some 0
  | .netdly, .setnetdly => line.typed.number
  | .pktbuilddly, .setpktdly => line.typed.number
  | .ptdiffs, .ptdfon => some 1
  | .ptdiffs, .ptdfoff => some 0
  | _, _ => none

/-- The commands that set the register. -/
def setters : Report → List Command
  | .plen => [.strplen]
  | .porder => [.strporder]
  | .blen => [.strblen]
  | .poutdly => [.setpoutdly, .setbdlm]
  | .ptlock => [.setptlock, .clrptlock]
  | .ptaccum => [.setptaccum, .clrptaccum]
  | .netdly => [.setnetdly]
  | .pktbuilddly => [.setpktdly]
  | .ptdiffs => [.ptdfon, .ptdfoff]

/-- No other command may write the register. -/
theorem mem_setters {report : Report} {command : Command} :
    report.cell ∈ touched command → command ∈ report.setters := by
  cases report <;> cases command <;> decide

/-- A setter that found its number sets the register. -/
theorem sets_isSome {report : Report} {line : Line}
    (hsetter : line.command ∈ report.setters)
    (hnumber : line.command.numeric → line.typed.number.isSome) :
    (report.sets line).isSome := by
  obtain ⟨command, typed⟩ := line
  cases report <;> simp only [setters, List.mem_cons, List.not_mem_nil,
    or_false] at hsetter
  case plen | porder | blen | netdly | pktbuilddly =>
    subst hsetter
    exact hnumber rfl
  case poutdly =>
    rcases hsetter with rfl | rfl
    · exact Option.isSome_map.trans (hnumber rfl)
    · exact hnumber rfl
  case ptlock | ptaccum | ptdiffs =>
    rcases hsetter with rfl | rfl <;> rfl

end Report

/-! ## Setters -/

section Setters

variable {command : Command} {typed : Typed} {ui reached : UiState}
variable {number : Word} {cell : Register}

/-- A setting kept as it is typed. -/
theorem withTmp_sets (hargument : command.argument = .tmp)
    (hnumber : typed.number = some number)
    {program : LongWord → DeviceM Unit}
    (hperform : perform command = withTmp program) (change : Word → Word)
    (hcontent : ∀ (tmp : LongWord) (board : MixerBoard),
      (program tmp board).2.content cell = change (tmp.setWidth 32))
    (hstep : step ⟨command, typed⟩ ui = .ok reached) :
    reached.board.content cell = change number := by
  rw [step_withTmp hargument hperform hstep]
  rw [hcontent, intoTmp_low hnumber]

/-- A flag of the packet time enforcer. -/
theorem fetchWith_sets (hargument : command.argument = .nothing)
    {extend : Word → LongWord} {program : DeviceM Word}
    (hperform : perform command = fetchWith extend program) {value : Word}
    (hcontent : ∀ board, (program board).2.content cell = value)
    (hstep : step ⟨command, typed⟩ ui = .ok reached) :
    reached.board.content cell = value := by
  obtain ⟨hrun, _⟩ := step_eq_ok.mp hstep
  rw [execute_nothing hargument, hperform, fetchWith_apply] at hrun
  cases hrun
  exact hcontent _

/-- A delay whose setter also returns what the register then holds. -/
theorem exchange_sets (hargument : command.argument = .tmp)
    (hnumber : typed.number = some number) {program : Word → DeviceM Word}
    (hperform : perform command = exchange program)
    (hcontent : ∀ value board, (program value board).2.content cell = value)
    (hstep : step ⟨command, typed⟩ ui = .ok reached) :
    reached.board.content cell = number := by
  obtain ⟨hrun, _⟩ := step_eq_ok.mp hstep
  rw [execute_exchange hargument hperform] at hrun
  cases hrun
  rw [hcontent, intoTmp_low hnumber]

theorem strplen_sets (hnumber : typed.number = some number)
    (hstep : step ⟨.strplen, typed⟩ ui = .ok reached) :
    reached.board.content Report.plen.cell = number := by
  obtain ⟨printed, hreached⟩ := step_strplen hstep
  have hcontent : reached.board.content Report.plen.cell =
      (typed.intoTmp ui.tmp).setWidth 32 := by
    rw [hreached]
    simp [Report.cell]
  rw [hcontent, intoTmp_low hnumber]

/-- A setter leaves the value it sets in the register. -/
theorem step_sets {report : Report} {line : Line} {value : Word}
    (hsets : report.sets line = some value)
    (hstep : step line ui = .ok reached) :
    reached.board.content report.cell = value := by
  obtain ⟨command, typed⟩ := line
  cases report <;> cases command <;> try cases hsets
  case plen.strplen => exact strplen_sets hsets hstep
  case porder.strporder =>
    exact withTmp_sets rfl hsets rfl id (fun _ _ => by simp [Report.cell])
      hstep
  case blen.strblen =>
    exact withTmp_sets rfl hsets rfl id (fun _ _ => by simp [Report.cell])
      hstep
  case poutdly.setpoutdly =>
    obtain ⟨number, hnumber, rfl⟩ := Option.map_eq_some_iff.mp hsets
    apply withTmp_sets rfl hnumber rfl (· * 96) _ hstep
    intro tmp board
    simp [Report.cell, BitVec.setWidth_mul]
  case poutdly.setbdlm =>
    exact withTmp_sets rfl hsets rfl id (fun _ _ => by simp [Report.cell])
      hstep
  case netdly.setnetdly | pktbuilddly.setpktdly =>
    exact exchange_sets rfl hsets rfl (fun _ _ => by simp [Report.cell]) hstep
  case ptlock.setptlock | ptlock.clrptlock | ptaccum.setptaccum
      | ptaccum.clrptaccum | ptdiffs.ptdfon | ptdiffs.ptdfoff =>
    exact fetchWith_sets rfl rfl (fun _ => by simp [Report.cell]) hstep

end Setters

/-! ## Reports over runs -/

section Runs

variable {report : Report} {line : Line} {lines : List Line} {typed : Typed}
variable {ui reached : UiState}

/-- Every command either sets the register or keeps it. -/
theorem step_report
    (hnumber : line.command ∈ report.setters → line.command.numeric →
      line.typed.number.isSome)
    (hstep : step line ui = .ok reached) :
    reached.board.content report.cell =
      (report.sets line).getD (ui.board.content report.cell) := by
  cases hsets : report.sets line with
  | some value => exact step_sets hsets hstep
  | none =>
      apply step_cell hstep
      intro hcell
      have hsetter := report.mem_setters hcell
      have hsome := report.sets_isSome hsetter (hnumber hsetter)
      rw [hsets] at hsome
      cases hsome

/-- A report leaves the register in `tmp`, from where it is printed. -/
theorem step_getter (hstep : step ⟨report.getter, typed⟩ ui = .ok reached) :
    reached.tmp = report.extend (ui.board.content report.cell) := by
  obtain ⟨hrun, _⟩ := step_eq_ok.mp hstep
  cases report <;> cases hrun <;> rfl

/-- If the setters find their numbers, a report shows what was set last, or what
the register held before. -/
theorem reported_lastSet
    (hnumber : ∀ line ∈ lines, line.command ∈ report.setters →
      line.command.numeric → line.typed.number.isSome)
    (hrun : runLines (lines ++ [⟨report.getter, typed⟩]) ui = .ok reached) :
    reached.tmp = report.extend ((lastSet report.sets lines).getD
      (ui.board.content report.cell)) := by
  obtain ⟨before, hlines, hget⟩ := run_concat.mp hrun
  have hcell := run_lastSet (fun _ => True)
    (fun ui => ui.board.content report.cell) report.sets
    (fun _ _ _ _ _ _ => trivial)
    (fun line hline _ _ _ hstep => step_report (hnumber line hline) hstep)
    trivial hlines
  rw [step_getter hget, hcell]

/-- The limit set after the playout delay is what its report shows, with its
sign.  The order is not found, and no setter of this report. -/
theorem reported_lastSet_limit :
    ∃ reached, runLines ([⟨.setpoutdly, ⟨some 3, none⟩⟩,
        ⟨.strporder, ⟨none, none⟩⟩, ⟨.setbdlm, ⟨some (-700), none⟩⟩] ++
        [⟨.getpoutdly, ⟨none, none⟩⟩]) (start blankBoard 0) = .ok reached ∧
      reached.tmp = -700 := by
  obtain ⟨reached, hrun⟩ := exists_of_isOk (runLines
    ([⟨.setpoutdly, ⟨some 3, none⟩⟩, ⟨.strporder, ⟨none, none⟩⟩,
      ⟨.setbdlm, ⟨some (-700), none⟩⟩] ++ [⟨.getpoutdly, ⟨none, none⟩⟩])
    (start blankBoard 0)) (by decide)
  refine ⟨reached, hrun, ?_⟩
  have hshown := @reported_lastSet .poutdly _ _ _ _ (by decide) hrun
  exact hshown.trans (by decide)

end Runs

end Songpark.UiControl
