import Songpark.Text.Scan
import Mathlib.Data.List.Nodup

/-!
# Commands

The words that the command loop compares its input with, the variable that a
command reads with `scanf` first, and the order of the comparisons.
-/

namespace Songpark.UiControl

open Songpark.Scan

/-- The branches of the command loop; `invalid` is the last `else`. -/
inductive Command
  | vgg | vll | vlr | vnl | vnr | lfhe | lfhd | lfbe | lfbd | lfle | lfld
  | nfhe | nfhd | nfbe | nfbd | nfle | nfld | nstats | astatus | dstatus
  | areset | dreset | preset | pbtreset | pbtrreset | pbtoff | pbton
  | pseqoff | pseqon | creset | freset | rxrsync | strteston | strtestm1
  | strtestm2 | strtestm3 | strtestm4 | strtestm5 | strtestoff | sethdrstrip
  | clearhdrstrip | strxteston | strxtestm1 | strxtestm2 | strxtestm3
  | strxtestm4 | strxtestm5 | strxtestoff | sethdrlen | setsyncen
  | setsyncoff | setsyncrst | setsyncdly | setsyncon | tgsync | strpktcon
  | strpktcoff | strsndon | strsndoff | strselarm | strseleth | strstart
  | strrxon | strstop | strrxstop | strmac | strsip | strdip | strlip
  | strgip | strmask | strport | strsport | strnsp | strplen | strporder
  | setppdly | setsqsdly | setplcpktsize | setpblim | setdlim | setbslk
  | setbdlm | setprdly | setsqlkdly | sqwon | sqwoff | sqsdon | sqsdoff
  | plcoff | plcon | strblen | setpoutdly | getpoutdly | getpouttime
  | getsynctime | getalle2a | getrxtc | getrxtceff | getrxtcocc
  | setlooplimit | gettcvars | getpoutr | getpoutw | getfocc | setcrwin
  | tgsrcorr | setcoron | setcoroff | gete2astatus | getmac | getdip | getlip
  | getgip | getmask | getport | getplen | getporder | getpdrop
  | getpreplaced | getsqgs | getsqrx | getsqtx | getsqov | setptl1
  | setptpidl | setptl2 | getptl1 | getptpidl | getptl2 | getptlock | ptpidon
  | ptpidoff | getptstatus | setptlock | setptaccum | clrptaccum | getptaccum
  | clrptlock | getblen | getbrdly | getnetdly | getpktbuilddly
  | getpkt2pktdly | getaccpktdly | setnetdly | setpktdly | ptdfon | ptdfoff
  | getptdiffs | setptdiffl | getptdiffl | getptdiffv | getsqos | getsqis
  | help | exit | invalid
  deriving DecidableEq

/-- The word a branch is reached by. -/
def Command.word : Command → Text
  | .vgg => "vgg".toList
  | .vll => "vll".toList
  | .vlr => "vlr".toList
  | .vnl => "vnl".toList
  | .vnr => "vnr".toList
  | .lfhe => "lfhe".toList
  | .lfhd => "lfhd".toList
  | .lfbe => "lfbe".toList
  | .lfbd => "lfbd".toList
  | .lfle => "lfle".toList
  | .lfld => "lfld".toList
  | .nfhe => "nfhe".toList
  | .nfhd => "nfhd".toList
  | .nfbe => "nfbe".toList
  | .nfbd => "nfbd".toList
  | .nfle => "nfle".toList
  | .nfld => "nfld".toList
  | .nstats => "nstats".toList
  | .astatus => "astatus".toList
  | .dstatus => "dstatus".toList
  | .areset => "areset".toList
  | .dreset => "dreset".toList
  | .preset => "preset".toList
  | .pbtreset => "pbtreset".toList
  | .pbtrreset => "pbtrreset".toList
  | .pbtoff => "pbtoff".toList
  | .pbton => "pbton".toList
  | .pseqoff => "pseqoff".toList
  | .pseqon => "pseqon".toList
  | .creset => "creset".toList
  | .freset => "freset".toList
  | .rxrsync => "rxrsync".toList
  | .strteston => "strteston".toList
  | .strtestm1 => "strtestm1".toList
  | .strtestm2 => "strtestm2".toList
  | .strtestm3 => "strtestm3".toList
  | .strtestm4 => "strtestm4".toList
  | .strtestm5 => "strtestm5".toList
  | .strtestoff => "strtestoff".toList
  | .sethdrstrip => "sethdrstrip".toList
  | .clearhdrstrip => "clearhdrstrip".toList
  | .strxteston => "strxteston".toList
  | .strxtestm1 => "strxtestm1".toList
  | .strxtestm2 => "strxtestm2".toList
  | .strxtestm3 => "strxtestm3".toList
  | .strxtestm4 => "strxtestm4".toList
  | .strxtestm5 => "strxtestm5".toList
  | .strxtestoff => "strxtestoff".toList
  | .sethdrlen => "sethdrlen".toList
  | .setsyncen => "setsyncen".toList
  | .setsyncoff => "setsyncoff".toList
  | .setsyncrst => "setsyncrst".toList
  | .setsyncdly => "setsyncdly".toList
  | .setsyncon => "setsyncon".toList
  | .tgsync => "tgsync".toList
  | .strpktcon => "strpktcon".toList
  | .strpktcoff => "strpktcoff".toList
  | .strsndon => "strsndon".toList
  | .strsndoff => "strsndoff".toList
  | .strselarm => "strselarm".toList
  | .strseleth => "strseleth".toList
  | .strstart => "strstart".toList
  | .strrxon => "strrxon".toList
  | .strstop => "strstop".toList
  | .strrxstop => "strrxstop".toList
  | .strmac => "strmac".toList
  | .strsip => "strsip".toList
  | .strdip => "strdip".toList
  | .strlip => "strlip".toList
  | .strgip => "strgip".toList
  | .strmask => "strmask".toList
  | .strport => "strport".toList
  | .strsport => "strsport".toList
  | .strnsp => "strnsp".toList
  | .strplen => "strplen".toList
  | .strporder => "strporder".toList
  | .setppdly => "setppdly".toList
  | .setsqsdly => "setsqsdly".toList
  | .setplcpktsize => "setplcpktsize".toList
  | .setpblim => "setpblim".toList
  | .setdlim => "setdlim".toList
  | .setbslk => "setbslk".toList
  | .setbdlm => "setbdlm".toList
  | .setprdly => "setprdly".toList
  | .setsqlkdly => "setsqlkdly".toList
  | .sqwon => "sqwon".toList
  | .sqwoff => "sqwoff".toList
  | .sqsdon => "sqsdon".toList
  | .sqsdoff => "sqsdoff".toList
  | .plcoff => "plcoff".toList
  | .plcon => "plcon".toList
  | .strblen => "strblen".toList
  | .setpoutdly => "setpoutdly".toList
  | .getpoutdly => "getpoutdly".toList
  | .getpouttime => "getpouttime".toList
  | .getsynctime => "getsynctime".toList
  | .getalle2a => "getalle2a".toList
  | .getrxtc => "getrxtc".toList
  | .getrxtceff => "getrxtceff".toList
  | .getrxtcocc => "getrxtcocc".toList
  | .setlooplimit => "setlooplimit".toList
  | .gettcvars => "gettcvars".toList
  | .getpoutr => "getpoutr".toList
  | .getpoutw => "getpoutw".toList
  | .getfocc => "getfocc".toList
  | .setcrwin => "setcrwin".toList
  | .tgsrcorr => "tgsrcorr".toList
  | .setcoron => "setcoron".toList
  | .setcoroff => "setcoroff".toList
  | .gete2astatus => "gete2astatus".toList
  | .getmac => "getmac".toList
  | .getdip => "getdip".toList
  | .getlip => "getlip".toList
  | .getgip => "getgip".toList
  | .getmask => "getmask".toList
  | .getport => "getport".toList
  | .getplen => "getplen".toList
  | .getporder => "getporder".toList
  | .getpdrop => "getpdrop".toList
  | .getpreplaced => "getpreplaced".toList
  | .getsqgs => "getsqgs".toList
  | .getsqrx => "getsqrx".toList
  | .getsqtx => "getsqtx".toList
  | .getsqov => "getsqov".toList
  | .setptl1 => "setptl1".toList
  | .setptpidl => "setptpidl".toList
  | .setptl2 => "setptl2".toList
  | .getptl1 => "getptl1".toList
  | .getptpidl => "getptpidl".toList
  | .getptl2 => "getptl2".toList
  | .getptlock => "getptlock".toList
  | .ptpidon => "ptpidon".toList
  | .ptpidoff => "ptpidoff".toList
  | .getptstatus => "getptstatus".toList
  | .setptlock => "setptlock".toList
  | .setptaccum => "setptaccum".toList
  | .clrptaccum => "clrptaccum".toList
  | .getptaccum => "getptaccum".toList
  | .clrptlock => "clrptlock".toList
  | .getblen => "getblen".toList
  | .getbrdly => "getbrdly".toList
  | .getnetdly => "getnetdly".toList
  | .getpktbuilddly => "getpktbuilddly".toList
  | .getpkt2pktdly => "getpkt2pktdly".toList
  | .getaccpktdly => "getaccpktdly".toList
  | .setnetdly => "setnetdly".toList
  | .setpktdly => "setpktdly".toList
  | .ptdfon => "ptdfon".toList
  | .ptdfoff => "ptdfoff".toList
  | .getptdiffs => "getptdiffs".toList
  | .setptdiffl => "setptdiffl".toList
  | .getptdiffl => "getptdiffl".toList
  | .getptdiffv => "getptdiffv".toList
  | .getsqos => "getsqos".toList
  | .getsqis => "getsqis".toList
  | .help => "help".toList
  | .exit => "exit".toList
  | .invalid => []

/-- The branches in the order in which the loop tests for them.

Two tests come a second time and can never succeed there: a copy of `strsip`,
and a `setsyncoff` that would have called `set_sync_off` for the audio to
ethernet block. -/
def dispatchOrder : List Command :=
  [.vgg, .vll, .vlr, .vnl, .vnr, .lfhe, .lfhd, .lfbe, .lfbd, .lfle, .lfld,
   .nfhe, .nfhd, .nfbe, .nfbd, .nfle, .nfld, .nstats, .astatus, .dstatus,
   .areset, .dreset, .preset, .pbtreset, .pbtrreset, .pbtoff, .pbton,
   .pseqoff, .pseqon, .creset, .freset, .rxrsync, .strteston, .strtestm1,
   .strtestm2, .strtestm3, .strtestm4, .strtestm5, .strtestoff, .sethdrstrip,
   .clearhdrstrip, .strxteston, .strxtestm1, .strxtestm2, .strxtestm3,
   .strxtestm4, .strxtestm5, .strxtestoff, .sethdrlen, .setsyncen,
   .setsyncoff, .setsyncrst, .setsyncdly, .setsyncon, .tgsync, .strpktcon,
   .strpktcoff, .strsndon, .strsndoff, .strselarm, .strseleth, .strstart,
   .strrxon, .strstop, .strrxstop, .strmac, .strsip, .strdip, .strlip,
   .strgip, .strmask, .strport, .strsport, .strnsp, .strplen, .strporder,
   .setppdly, .setsqsdly, .setplcpktsize, .setpblim, .setdlim, .setbslk,
   .setbdlm, .setprdly, .setsqlkdly, .sqwon, .sqwoff, .sqsdon, .sqsdoff,
   .plcoff, .plcon, .strblen, .setpoutdly, .getpoutdly, .getpouttime,
   .getsynctime, .getalle2a, .getrxtc, .getrxtceff, .getrxtcocc,
   .setlooplimit, .gettcvars, .getpoutr, .getpoutw, .getfocc, .setcrwin,
   .tgsrcorr, .setcoron, .setcoroff, .gete2astatus, .getmac, .getdip,
   .getlip, .getgip, .getmask, .getport, .getplen, .getporder, .getpdrop,
   .getpreplaced, .getsqgs, .getsqrx, .getsqtx, .getsqov, .setptl1,
   .setptpidl, .setptl2, .getptl1, .getptpidl, .getptl2, .getptlock,
   .ptpidon, .ptpidoff, .getptstatus, .setptlock, .setptaccum, .clrptaccum,
   .getptaccum, .clrptlock, .getblen, .getbrdly, .getnetdly, .getpktbuilddly,
   .getpkt2pktdly, .getaccpktdly, .setnetdly, .setpktdly, .ptdfon, .ptdfoff,
   .getptdiffs, .setptdiffl, .getptdiffl, .getptdiffv, .getsqos, .getsqis,
   .help, .exit]

def dispatch (c : Text) : Command :=
  (dispatchOrder.find? fun command => command.word = c).getD .invalid

/-- The variable that `scanf` fills before a branch does anything else. -/
inductive Argument
  | nothing
  | gain
  | tmp
  | destPort
  | ip
  deriving DecidableEq

def Command.argument : Command → Argument
  | .vgg | .vll | .vlr | .vnl | .vnr => .gain
  | .sethdrlen | .setsyncdly | .strnsp | .strplen | .strporder | .setppdly
  | .setsqsdly | .setplcpktsize | .setpblim | .setdlim | .setbslk
  | .setbdlm | .setprdly | .setsqlkdly | .strblen | .setpoutdly
  | .setlooplimit | .setptl1 | .setptpidl | .setptl2 | .setnetdly
  | .setpktdly | .setptdiffl => .tmp
  | .strport | .strsport => .destPort
  | .strmac | .strsip | .strdip | .strlip | .strgip | .strmask => .ip
  | _ => .nothing

/-- The command reads a number. -/
def Command.numeric (command : Command) : Bool :=
  command.argument = .gain || command.argument = .tmp ||
    command.argument = .destPort

theorem mem_dispatchOrder {command : Command} (hvalid : command ≠ .invalid) :
    command ∈ dispatchOrder := by
  cases command <;> first | decide +kernel | exact absurd rfl hvalid

/-- A word as a number: comparing all pairs of branches is cheaper this way. -/
private def wordCode (word : Text) : ℕ :=
  word.foldl (fun code c => 256 * code + c.toNat) 0

private theorem dispatchOrder_codes_nodup :
    (dispatchOrder.map fun command => wordCode command.word).Nodup := by
  decide +kernel

/-- Every branch is reached by its own word. -/
theorem dispatch_word {command : Command} (hvalid : command ≠ .invalid) :
    dispatch command.word = command := by
  have hmem := mem_dispatchOrder hvalid
  cases hfound : dispatchOrder.find? fun other =>
      other.word = command.word with
  | none =>
      rw [List.find?_eq_none] at hfound
      exact absurd (by simp) (hfound command hmem)
  | some found =>
      have hword : found.word = command.word := by
        simpa using List.find?_some hfound
      have hsame : found = command :=
        List.inj_on_of_nodup_map dispatchOrder_codes_nodup
          (List.mem_of_find?_eq_some hfound) hmem (congrArg wordCode hword)
      rw [dispatch, hfound, hsame]
      rfl

end Songpark.UiControl
