import Songpark.Text.Scan
import Mathlib.Data.List.DropRight
import Mathlib.Data.List.Infix

/-!
# The version of a package

The platform asks `apt-cache` for a package and takes the version out of what is
printed.  The text is split into lines, the first line that starts with
`Version` is split at colons followed by a blank, and the last piece counts.
The splitting of the language drops empty pieces at the end, and leaves a text
that holds no separator whole.
-/

namespace Songpark.Platform

open Songpark.Scan

/-- The characters that the dot of a pattern does not match. -/
def isLineTerminator (c : Char) : Bool :=
  c == '\n' || c == '\r' || c.toNat == 0x85 || c.toNat == 0x2028 ||
    c.toNat == 0x2029

/-- `split`, from the pieces between the separators. -/
def splitPieces (pieces : List Text) : List Text :=
  if pieces.length = 1 then pieces else pieces.rdropWhile List.isEmpty

/-- The pieces between colons that a blank follows. -/
def colonPieces : Text → List Text
  | [] => [[]]
  | ':' :: ' ' :: rest => [] :: colonPieces rest
  | c :: rest => (colonPieces rest).modifyHead (c :: ·)

abbrev versionName : Text := ['V', 'e', 'r', 's', 'i', 'o', 'n']

abbrev unknownVersion : Text := ['U', 'n', 'k', 'n', 'o', 'w', 'n']

/-- The whole line matches `Version.*`. -/
def isVersionLine (line : Text) : Bool :=
  versionName.isPrefixOf line && line.all (!isLineTerminator ·)

/-- The last piece of the first version line of what `apt-cache show` has
printed. -/
def getAptPackageVersion (aptString : Text) : Option Text :=
  let versionLine := (splitPieces (aptString.splitOn '\n')).find? isVersionLine
  (splitPieces (colonPieces (versionLine.getD unknownVersion))).getLast?

example : getAptPackageVersion
    "Package: teleporter-fw\nVersion: 1:0.4-2\nVersion: 0.3\n".toList =
      some "1:0.4-2".toList := by decide +kernel

/-! ## The pieces -/

/-- A colon followed by a blank. -/
abbrev separator : Text := [':', ' ']

section Pieces

variable {text name rest : Text} {pieces : List Text} {c : Char}

theorem colonPieces_cons (hcons : ¬ separator <+: c :: rest) :
    colonPieces (c :: rest) = (colonPieces rest).modifyHead (c :: ·) := by
  rw [colonPieces]
  rintro blanked rfl rfl
  exact hcons (List.prefix_append separator blanked)

/-- A text without separator is one piece. -/
theorem colonPieces_whole (htext : ¬ separator <:+: text) :
    colonPieces text = [text] := by
  induction text with
  | nil => rfl
  | cons c rest ih =>
      have hrest : ¬ separator <:+: rest := fun hpart =>
        htext (List.infix_cons hpart)
      have hcons : ¬ separator <+: c :: rest := fun hprefix =>
        htext hprefix.isInfix
      rw [colonPieces_cons hcons, ih hrest]
      rfl

/-- A name without colons ends at the first separator. -/
theorem colonPieces_name (hname : ':' ∉ name) (rest : Text) :
    colonPieces (name ++ separator ++ rest) = name :: colonPieces rest := by
  induction name with
  | nil => rfl
  | cons c name ih =>
      rw [List.mem_cons, not_or] at hname
      have hcons : ¬ separator <+: c :: (name ++ separator ++ rest) := by
        rintro ⟨tail, htail⟩
        exact hname.1 (List.cons.inj htail).1
      have happend : c :: name ++ separator ++ rest =
          c :: (name ++ separator ++ rest) := rfl
      rw [happend, colonPieces_cons hcons, ih hname.2]
      rfl

/-- The first piece is the beginning of the text. -/
theorem colonPieces_head (text : Text) :
    ∃ piece pieces, colonPieces text = piece :: pieces ∧ piece <+: text := by
  induction text using colonPieces.induct with
  | case1 => exact ⟨[], [], rfl, List.prefix_rfl⟩
  | case2 rest ih => exact ⟨[], _, rfl, List.nil_prefix⟩
  | case3 c rest hcons ih =>
      obtain ⟨piece, pieces, hpieces, hprefix⟩ := ih
      refine ⟨c :: piece, pieces, ?_, (List.prefix_cons_inj c).mpr hprefix⟩
      rw [colonPieces, hpieces, List.modifyHead_cons]
      exact hcons

/-- Each piece is a part of the text and holds no separator. -/
theorem piece_of_mem_colonPieces {piece : Text}
    (hpiece : piece ∈ colonPieces text) :
    piece <:+: text ∧ ¬ separator <:+: piece := by
  have hnil : ¬ separator <:+: [] := fun hpart =>
    List.cons_ne_nil _ _ (List.infix_nil.mp hpart)
  induction text using colonPieces.induct generalizing piece with
  | case1 =>
      rw [List.mem_singleton.mp hpiece]
      exact ⟨List.infix_rfl, hnil⟩
  | case2 rest ih =>
      rcases List.mem_cons.mp hpiece with rfl | hrest
      · exact ⟨List.nil_infix, hnil⟩
      · obtain ⟨hpart, hpiece⟩ := ih hrest
        exact ⟨List.infix_cons (List.infix_cons hpart), hpiece⟩
  | case3 c rest hcons ih =>
      obtain ⟨first, pieces, hpieces, hprefix⟩ := colonPieces_head rest
      have hsplit : colonPieces (c :: rest) = (c :: first) :: pieces := by
        rw [colonPieces, hpieces, List.modifyHead_cons]
        exact hcons
      rw [hsplit] at hpiece
      rcases List.mem_cons.mp hpiece with rfl | hlater
      · refine ⟨((List.prefix_cons_inj c).mpr hprefix).isInfix, fun hpart => ?_⟩
        rcases List.infix_cons_iff.mp hpart with hstart | hfirst
        · -- a separator at the start of the piece is one at the start of the text
          obtain ⟨tail, htail⟩ :=
            hstart.trans ((List.prefix_cons_inj c).mpr hprefix)
          obtain ⟨hc, hrest⟩ := List.cons.inj htail
          exact hcons tail hc.symm hrest.symm
        · refine (ih ?_).2 hfirst
          rw [hpieces]
          exact List.mem_cons_self
      · have hmem : piece ∈ colonPieces rest := by
          rw [hpieces]
          exact List.mem_cons_of_mem _ hlater
        exact ⟨List.infix_cons (ih hmem).1, (ih hmem).2⟩

/-- After a first piece that is not empty the last one is not either. -/
theorem getLast_splitPieces {first : Text} (hfirst : first ≠ [])
    (pieces : List Text) :
    ∃ piece, (splitPieces (first :: pieces)).getLast? = some piece ∧
      piece ≠ [] ∧ piece ∈ first :: pieces := by
  unfold splitPieces
  split_ifs with hlength
  · have hnil : pieces = [] := by simpa using hlength
    subst hnil
    exact ⟨first, rfl, hfirst, List.mem_cons_self⟩
  · have hne : (first :: pieces).rdropWhile List.isEmpty ≠ [] := fun hnil =>
      hfirst (List.isEmpty_iff.mp
        (List.rdropWhile_eq_nil_iff.mp hnil first List.mem_cons_self))
    refine ⟨_, List.getLast?_eq_some_getLast hne, fun hnil => ?_,
      (List.rdropWhile_prefix List.isEmpty _).subset (List.getLast_mem hne)⟩
    exact List.rdropWhile_last_not _ _ hne (List.isEmpty_iff.mpr hnil)

/-- The first piece is not empty when something stands before the first
separator. -/
theorem colonPieces_head_ne_nil {first : Text}
    (hpieces : colonPieces text = first :: pieces)
    (hstart : ¬ separator <+: text) (htext : text ≠ []) : first ≠ [] := by
  rintro rfl
  cases text with
  | nil => exact htext rfl
  | cons c rest =>
      obtain ⟨other, others, hrest, _⟩ := colonPieces_head rest
      rw [colonPieces_cons hstart, hrest, List.modifyHead_cons] at hpieces
      exact List.cons_ne_nil _ _ (List.cons.inj hpieces).1

theorem getLast_colonPieces (hstart : ¬ separator <+: text) (htext : text ≠ []) :
    ∃ piece, (splitPieces (colonPieces text)).getLast? = some piece ∧
      piece ≠ [] ∧ piece <:+: text ∧ ¬ separator <:+: piece := by
  obtain ⟨first, pieces, hpieces, _⟩ := colonPieces_head text
  obtain ⟨piece, hlast, hne, hmem⟩ := getLast_splitPieces
    (colonPieces_head_ne_nil hpieces hstart htext) pieces
  rw [← hpieces] at hlast hmem
  exact ⟨piece, hlast, hne, piece_of_mem_colonPieces hmem⟩

end Pieces

/-! ## The version that is found -/

section Found

variable {aptString line : Text} {before : List Text} {version after : Text}

theorem isVersionLine_iff :
    isVersionLine line ↔
      versionName <+: line ∧ line.all (!isLineTerminator ·) := by
  simp [isVersionLine]

/-- Dropping empty lines at the end drops no version line. -/
theorem find?_splitPieces (pieces : List Text) :
    (splitPieces pieces).find? isVersionLine = pieces.find? isVersionLine := by
  have hempty : isVersionLine [] = false := rfl
  have hdrop : (pieces.rdropWhile List.isEmpty).find? isVersionLine =
      pieces.find? isVersionLine := by
    induction pieces using List.reverseRecOn with
    | nil => rfl
    | append_singleton pieces piece ih =>
        rw [List.rdropWhile_concat]
        split_ifs with hpiece
        · rw [List.isEmpty_iff.mp hpiece, List.find?_append,
            List.find?_singleton, hempty, ih]
          simp
        · rfl
  unfold splitPieces
  split_ifs
  · rfl
  · exact hdrop

/-- Whatever is printed, a version is found: a part of the first version line,
or `Unknown` when there is none; it is not empty and holds no separator. -/
theorem getAptPackageVersion_found (aptString : Text) :
    ∃ version, getAptPackageVersion aptString = some version ∧
      version ≠ [] ∧ ¬ separator <:+: version ∧
      match (aptString.splitOn '\n').find? isVersionLine with
      | some line => version <:+: line
      | none => version = unknownVersion := by
  unfold getAptPackageVersion
  simp only [find?_splitPieces]
  cases hfind : (aptString.splitOn '\n').find? isVersionLine with
  | none =>
      exact ⟨unknownVersion, rfl, by decide, by decide, rfl⟩
  | some line =>
      obtain ⟨tail, rfl⟩ :=
        (isVersionLine_iff.mp (List.find?_some hfind)).1
      have hstart : ¬ separator <+: versionName ++ tail := by
        rintro ⟨rest, hrest⟩
        exact absurd (List.cons.inj hrest).1 (by decide)
      obtain ⟨version, hlast, hne, hpart, hpiece⟩ :=
        getLast_colonPieces hstart (List.append_ne_nil_of_left_ne_nil
          (by decide) tail)
      exact ⟨version, hlast, hne, hpiece, hpart⟩

/-! ## Descriptions -/

/-- The line of the field with the version. -/
def versionField (version : Text) : Text :=
  versionName ++ separator ++ version

/-- The lines of a text, each ended by a newline. -/
def printed (lines : List Text) : Text :=
  lines.flatMap fun line => line ++ ['\n']

theorem splitOn_printed (hlines : ∀ line ∈ before, '\n' ∉ line) (after : Text) :
    (printed before ++ after).splitOn '\n' = before ++ after.splitOn '\n' := by
  induction before with
  | nil => rfl
  | cons line before ih =>
      have hline : '\n' ∉ line := hlines line List.mem_cons_self
      have happend : printed (line :: before) ++ after =
          line ++ '\n' :: (printed before ++ after) := by
        simp [printed, List.append_assoc]
      rw [happend, List.splitOn_append_cons_self_of_not_mem hline,
        ih fun later hlater => hlines later (List.mem_cons_of_mem _ hlater)]
      rfl

/-- Of a description whose earlier lines are other fields, the content of the
field `Version` is found, whatever follows it. -/
theorem getAptPackageVersion_printed
    (hbefore : ∀ line ∈ before, '\n' ∉ line ∧ ¬ versionName <+: line)
    (hversion : version ≠ []) (hseparator : ¬ separator <:+: version)
    (hterminator : version.all (!isLineTerminator ·)) (after : Text) :
    getAptPackageVersion (printed before ++
      (versionField version ++ '\n' :: after)) =
        some version := by
  have hline : isVersionLine (versionField version) := by
    have hname : (versionName ++ separator).all (!isLineTerminator ·) := by
      decide
    refine isVersionLine_iff.mpr ⟨?_, ?_⟩
    · rw [versionField, List.append_assoc]
      exact List.prefix_append _ _
    · rw [versionField, List.all_append, hname, hterminator, Bool.and_self]
  have hnewline : '\n' ∉ versionField version := fun hmem =>
    absurd (List.all_eq_true.mp (isVersionLine_iff.mp hline).2 '\n' hmem)
      (by decide)
  have hfind : (before ++ versionField version ::
      after.splitOn '\n').find? isVersionLine =
        some (versionField version) := by
    rw [List.find?_append, List.find?_cons_of_pos hline,
      List.find?_eq_none.mpr, Option.none_or]
    intro line hmem hversion
    exact (hbefore line hmem).2 (isVersionLine_iff.mp hversion).1
  have hpieces : colonPieces (versionField version) =
      [versionName, version] := by
    have hname : ':' ∉ versionName := by decide
    rw [versionField, colonPieces_name hname version,
      colonPieces_whole hseparator]
  have hsplit : splitPieces [versionName, version] =
      [versionName, version] := by
    unfold splitPieces
    have hlength : [versionName, version].length ≠ 1 := by
      rw [List.length_cons, List.length_singleton]
      decide
    rw [if_neg hlength, List.rdropWhile_eq_self_iff]
    intro _ hempty
    exact hversion (List.isEmpty_iff.mp hempty)
  unfold getAptPackageVersion
  rw [find?_splitPieces, splitOn_printed fun line hmem => (hbefore line hmem).1,
    List.splitOn_append_cons_self_of_not_mem hnewline, hfind]
  dsimp only [Option.getD_some]
  rw [hpieces, hsplit]
  rfl

/-- A version with an epoch, after one other line. -/
theorem getAptPackageVersion_printed_epoch :
    getAptPackageVersion (printed [['P', ':', ' ', 'f', 'w']] ++
      (versionField ['1', ':', '0', '.', '4'] ++ '\n' :: [])) =
        some ['1', ':', '0', '.', '4'] :=
  getAptPackageVersion_printed (by decide) (by decide) (by decide) (by decide) []

end Found

end Songpark.Platform
