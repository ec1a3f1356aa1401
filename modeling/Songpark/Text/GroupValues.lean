import Songpark.Text.Groups

/-!
# Values of the groups

Where the groups of an address text fit, every octet is the value of its own
group, and zero if there is none.  The buffer is used for one group after the
other; neither what it holds at first nor what an earlier group has left in it
plays a part.  The main result is `extract_groupValues`.
-/

namespace Songpark.Address

open Songpark.Scan

/-- A split without an empty last part. -/
def dropEmptyLast (parts : List Text) : List Text :=
  if parts.getLast? = some [] then parts.dropLast else parts

/-- The groups a text is split into at its dots; an empty one after a dot at
the end does not count. -/
def dottedGroups (text : Text) : List Text := dropEmptyLast (text.splitOn '.')

/-- The octet of a group, or of none. -/
def groupValue (value : Text → ℤ) (text : Text) (index : ℕ) : ℤ :=
  ((dottedGroups text)[index]?.map value).getD 0 % 256

def extractIpFrom (buf : List Char) (sourceString : Text) :
    Option (Fin 4 → BitVec 8) :=
  extractFrom 4 (fun group => (atoi group).setWidth 8) buf sourceString

def extractMacFrom (buf : List Char) (sourceString : Text) :
    Option (Fin 6 → BitVec 8) :=
  extractFrom 6 (fun group => BitVec.ofInt 8 (strtol 16 group)) buf sourceString

/-- A parser comes back from the text without having left its arrays, whatever
its buffer holds at first, and each octet is decided by its own group. -/
structure ReadsGroups (octets : ℕ) (value : Text → ℤ)
    (extract : Text → Option (Fin octets → BitVec 8))
    (extractFrom : List Char → Text → Option (Fin octets → BitVec 8))
    (text : Text) : Prop where
  anyBuffer : ∀ buf, buf.length = 5 → extractFrom buf text = extract text
  values : ∃ address, extract text = some address ∧
    ∀ index, ((address index).toNat : ℤ) = groupValue value text index
  ownGroup : ∀ other (index : Fin octets) address address',
    extract text = some address → extract other = some address' →
      '\x00' ∉ other → Fits octets (dottedGroups other) →
        (dottedGroups text)[(index : ℕ)]? = (dottedGroups other)[(index : ℕ)]? →
          address index = address' index

/-! ## Splitting at the dots -/

theorem dropEmptyLast_cons (part : Text) {parts : List Text}
    (hparts : parts ≠ []) :
    dropEmptyLast (part :: parts) = part :: dropEmptyLast parts := by
  obtain ⟨next, later, rfl⟩ := List.exists_cons_of_ne_nil hparts
  rw [dropEmptyLast, dropEmptyLast, List.getLast?_cons_cons,
    List.dropLast_cons_cons]
  split_ifs <;> rfl

theorem dottedGroups_dot (rest : Text) :
    dottedGroups ('.' :: rest) = [] :: dottedGroups rest := by
  rw [dottedGroups, List.splitOn_cons_eq_if_modifyHead, if_pos (by decide)]
  exact dropEmptyLast_cons [] (List.splitOn_ne_nil '.' rest)

/-- The groups of the scan are those of the split. -/
theorem groups_eq_dottedGroups (text : Text) :
    groups text = dottedGroups text := by
  induction text with
  | nil => rfl
  | cons c rest ih =>
      by_cases hdot : c = '.'
      · subst hdot
        rw [groups_dot, dottedGroups_dot, ih]
      · have hsplit : (c :: rest).splitOn '.' =
            (rest.splitOn '.').modifyHead (c :: ·) := by
          rw [List.splitOn_cons_eq_if_modifyHead,
            if_neg (by simpa using hdot)]
        rw [groups, if_neg hdot, ih, dottedGroups, dottedGroups, hsplit]
        obtain ⟨part, parts, hparts⟩ :=
          List.exists_cons_of_ne_nil (List.splitOn_ne_nil '.' rest)
        rw [hparts, List.modifyHead_cons]
        cases parts with
        | nil => cases part <;> rfl
        | cons next later =>
            rw [dropEmptyLast_cons _ (List.cons_ne_nil next later),
              dropEmptyLast_cons _ (List.cons_ne_nil next later)]

/-! ## The octets -/

section Octets

variable {octets : ℕ} {convert : Text → BitVec 8} {value : Text → ℤ}
variable {text other : Text}

theorem readPart_of_fits (hoctets : octets ≤ 51)
    (hfits : Fits octets (dottedGroups text)) : readPart text = text := by
  have hlength := length_le_of_fits (groups_eq_dottedGroups text ▸ hfits)
  rw [readPart, Nat.mod_eq_of_lt (by omega), List.take_length]

theorem getD_padded (values : List (BitVec 8)) (index : Fin octets) :
    (padded octets values).getD index 0 = values[(index : ℕ)]?.getD 0 := by
  rw [padded, List.getD_eq_getElem?_getD]
  by_cases hindex : (index : ℕ) < values.length
  · rw [List.getElem?_append_left hindex]
  · rw [List.getElem?_append_right (by omega),
      List.getElem?_eq_none (l := values) (by omega)]
    rw [List.getElem?_replicate]
    split_ifs <;> rfl

/-- The octets of a text that fits. -/
theorem extractAddress_of_fits (hoctets : octets ≤ 51)
    (hnul : '\x00' ∉ text) (hfits : Fits octets (dottedGroups text)) :
    extractAddress octets convert text =
      some fun (index : Fin octets) =>
        ((dottedGroups text)[(index : ℕ)]?.map convert).getD 0 := by
  rw [extractAddress_eq_groups octets convert hoctets hnul,
    readPart_of_fits hoctets hfits, groups_eq_dottedGroups, if_pos hfits]
  apply congrArg some
  funext index
  rw [getD_padded, List.getElem?_map]

theorem extractFrom_eq_extractAddress (hoctets : octets ≤ 51)
    (hnul : '\x00' ∉ text) (hfits : Fits octets (dottedGroups text))
    {buf : List Char} (hbuf : buf.length = 5) :
    extractFrom octets convert buf text =
      extractAddress octets convert text := by
  have hlength := length_le_of_fits (groups_eq_dottedGroups text ▸ hfits)
  rw [extractFrom_eq_groupScan hbuf (by omega) (by omega) hnul,
    extractAddress_eq_groupScan (by omega) (by omega) hnul]

/-- What holds of any parser that converts groups to their values modulo
256. -/
theorem readsGroups_extractAddress (hoctets : octets ≤ 51)
    (hvalue : ∀ group, ((convert group).toNat : ℤ) = value group % 256)
    (hnul : '\x00' ∉ text) (hfits : Fits octets (dottedGroups text)) :
    ReadsGroups octets value (extractAddress octets convert)
      (extractFrom octets convert) text where
  anyBuffer := fun _ hbuf => extractFrom_eq_extractAddress hoctets hnul hfits hbuf
  values := by
    refine ⟨_, extractAddress_of_fits hoctets hnul hfits, ?_⟩
    intro index
    rw [groupValue]
    cases (dottedGroups text)[(index : ℕ)]? with
    | none => rfl
    | some group => exact hvalue group
  ownGroup := by
    intro other index address address' haddress haddress' hother hfits' hgroup
    rw [extractAddress_of_fits hoctets hnul hfits] at haddress
    rw [extractAddress_of_fits hoctets hother hfits'] at haddress'
    cases haddress
    cases haddress'
    exact congrArg (fun group => (group.map convert).getD 0) hgroup

end Octets

/-! ## Both parsers -/

theorem toNat_atoi_octet (group : Text) :
    (((atoi group).setWidth 8).toNat : ℤ) = (atoi group).toInt % 256 := by
  have hbound := (atoi group).isLt
  rw [BitVec.toNat_setWidth, BitVec.toInt_eq_toNat_cond]
  split_ifs <;> omega

theorem toNat_strtol_octet (group : Text) :
    ((BitVec.ofInt 8 (strtol 16 group)).toNat : ℤ) = strtol 16 group % 256 := by
  rw [BitVec.toNat_ofInt]
  omega

/-- Both parsers read the groups of a text one by one. -/
theorem extract_groupValues (text : Text) (hnul : '\x00' ∉ text) :
    (Fits 4 (dottedGroups text) →
      ReadsGroups 4 (fun group => (atoi group).toInt) extractIpAddress
        extractIpFrom text) ∧
    (Fits 6 (dottedGroups text) →
      ReadsGroups 6 (strtol 16) extractMacAddress extractMacFrom text) := by
  constructor
  · intro hfits
    exact readsGroups_extractAddress (by decide) toNat_atoi_octet hnul hfits
  · intro hfits
    exact readsGroups_extractAddress (by decide) toNat_strtol_octet hnul hfits

/-- An empty group, a long number and a dot at the end. -/
theorem extract_groupValues_sample :
    ReadsGroups 4 (fun group => (atoi group).toInt) extractIpAddress
        extractIpFrom "10..300.".toList ∧
      ReadsGroups 6 (strtol 16) extractMacAddress extractMacFrom
        "10..300.".toList := by
  have hfits : Fits 4 (dottedGroups "10..300.".toList) := by
    rw [← groups_eq_dottedGroups]
    decide
  have hsample := extract_groupValues "10..300.".toList (by decide)
  exact ⟨hsample.1 hfits, hsample.2 ⟨hfits.1, hfits.2.trans (by decide)⟩⟩

end Songpark.Address
