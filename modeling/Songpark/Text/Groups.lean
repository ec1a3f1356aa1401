import Songpark.Text.Address
import Mathlib.Algebra.Order.BigOperators.Group.List

/-!
# Groups of an address text

A text splits into groups, each ended by a dot or by the end of the text.  The
address parsers accept a text when every group leaves room for a NUL in their
buffer and there is an octet for every group, and then hand back the converted
groups.  The main result, `extractAddress_eq_groups`, says so for texts of any
length: only the length modulo 2¹⁶ is looked at.
-/

namespace Songpark.Address

open Songpark.Scan

/-- The groups of a text; a dot at the end starts no further group. -/
def groups : Text → List Text
  | [] => []
  | c :: rest =>
      if c = '.' then [] :: groups rest
      else
        match groups rest with
        | [] => [[c]]
        | group :: later => (c :: group) :: later

/-- The characters the parsers look at: the length is kept in 16 bits. -/
def readPart (text : Text) : Text := text.take (text.length % 65536)

/-- Groups that `buf` and `oct` have room for. -/
def Fits (octets : ℕ) (parts : List Text) : Prop :=
  (∀ group ∈ parts, group.length < 5) ∧ parts.length ≤ octets

instance (octets : ℕ) (parts : List Text) : Decidable (Fits octets parts) :=
  inferInstanceAs (Decidable (_ ∧ _))

theorem groups_eq_nil {text : Text} : groups text = [] ↔ text = [] := by
  cases text with
  | nil => simp [groups]
  | cons c rest =>
      simp only [groups, reduceCtorEq, iff_false]
      split_ifs
      · simp
      · split <;> simp

theorem groups_dot (rest : Text) : groups ('.' :: rest) = [] :: groups rest := by
  simp [groups]

/-- A character other than a dot goes to the front of the first group. -/
theorem groups_cons {c : Char} (hdot : c ≠ '.') {rest : Text}
    (hrest : rest ≠ []) :
    groups (c :: rest) = (groups rest).modifyHead (c :: ·) := by
  rw [groups, if_neg hdot]
  cases hgroups : groups rest with
  | nil => exact absurd (groups_eq_nil.mp hgroups) hrest
  | cons group later => rfl

theorem groups_singleton {c : Char} (hdot : c ≠ '.') :
    groups [c] = [[c]] := by
  simp [groups, hdot]

/-- A text is no longer than its groups and their ends. -/
theorem length_le_groups (text : Text) :
    text.length ≤ ((groups text).map fun group => group.length + 1).sum := by
  induction text with
  | nil => simp [groups]
  | cons c rest ih =>
      by_cases hdot : c = '.'
      · subst hdot
        rw [groups_dot]
        simp only [List.length_cons, List.map_cons, List.sum_cons,
          List.length_nil]
        omega
      · cases hgroups : groups rest with
        | nil =>
            have hrest : rest = [] := groups_eq_nil.mp hgroups
            simp [hrest, groups_singleton hdot]
        | cons group later =>
            have hrest : rest ≠ [] := by
              rintro rfl
              simp [groups] at hgroups
            rw [hgroups] at ih
            rw [groups_cons hdot hrest, hgroups]
            simp only [List.modifyHead_cons, List.length_cons, List.map_cons,
              List.sum_cons] at ih ⊢
            omega

/-- What fits is short. -/
theorem length_le_of_fits {octets : ℕ} {text : Text}
    (hfits : Fits octets (groups text)) : text.length ≤ 5 * octets := by
  have hsum : ((groups text).map fun group => group.length + 1).sum ≤
      (groups text).length * 5 := by
    have hall : ∀ size ∈ (groups text).map fun group => group.length + 1,
        size ≤ 5 := by
      intro size hsize
      obtain ⟨group, hgroup, rfl⟩ := List.mem_map.mp hsize
      have := hfits.1 group hgroup
      omega
    simpa using List.sum_le_card_nsmul _ 5 hall
  have hlength := length_le_groups text
  have hcount := hfits.2
  omega

/-! ## The scan by groups -/

section Scan

variable (octets : ℕ) (convert : Text → BitVec 8)

/-- A group fits if it has room itself and the later ones fit after it. -/
theorem fits_cons_iff {group : Text} {parts : List Text} {count : ℕ}
    (hcount : count ≤ octets) :
    Fits (octets - count) (group :: parts) ↔
      (group.length < 5 ∧ count < octets) ∧
        Fits (octets - (count + 1)) parts := by
  simp only [Fits, List.forall_mem_cons, List.length_cons]
  constructor
  · rintro ⟨⟨hgroup, hparts⟩, hlength⟩
    exact ⟨⟨hgroup, by omega⟩, hparts, by omega⟩
  · rintro ⟨⟨hgroup, hroom⟩, hparts, hlength⟩
    exact ⟨⟨hgroup, hparts⟩, by omega⟩

/-- With the group read so far put in front, the rest of the text is accepted
when its groups fit beside the finished ones. -/
theorem groupScan_eq_groups (text group : Text) (done : List (BitVec 8))
    (hdone : done.length ≤ octets) :
    groupScan octets convert text group done =
      if Fits (octets - done.length)
          ((groups text).modifyHead (group ++ ·)) then
        some (done ++ ((groups text).modifyHead (group ++ ·)).map convert)
      else none := by
  induction text generalizing group done with
  | nil => simp [groupScan, groups, Fits]
  | cons c rest ih =>
      by_cases hdot : c = '.'
      · subst hdot
        rw [groups_dot, groupScan, if_pos rfl, List.modifyHead_cons,
          List.append_nil, closeGroup]
        simp only [fits_cons_iff octets hdone]
        by_cases hroom : group.length < 5 ∧ done.length < octets
        · have hwhole : (groups rest).modifyHead ([] ++ ·) = groups rest := by
            cases groups rest <;> rfl
          have hnext := ih [] (done ++ [convert group]) (by
            rw [List.length_append, List.length_singleton]
            exact hroom.2)
          rw [hwhole, List.length_append, List.length_singleton] at hnext
          simp [hroom, hnext]
        · simp [hroom]
      · rw [groupScan, if_neg hdot]
        by_cases hrest : rest = []
        · subst hrest
          have hempty : Fits (octets - (done.length + 1)) [] := by simp [Fits]
          rw [groups_singleton hdot, List.modifyHead_cons, closeGroup]
          simp only [fits_cons_iff octets hdone, List.length_append,
            List.length_singleton, hempty, and_true, if_true]
          by_cases hroom : group.length + 1 < 5 ∧ done.length < octets
          · rw [if_pos (by omega), if_pos hroom, if_pos hroom]
            rfl
          · rw [if_neg hroom, if_neg hroom, ite_self]
        · have hhead : (groups (c :: rest)).modifyHead (group ++ ·) =
              (groups rest).modifyHead ((group ++ [c]) ++ ·) := by
            rw [groups_cons hdot hrest, List.modifyHead_modifyHead]
            congr 1
            funext later
            simp
          rw [hhead, if_neg hrest, ih (group ++ [c]) done hdone]
          by_cases hroom : group.length < 5
          · rw [if_pos hroom]
          · -- The group is too long already.
            rw [if_neg hroom, if_neg]
            intro hfits
            cases hgroups : groups rest with
            | nil => exact hrest (groups_eq_nil.mp hgroups)
            | cons first later =>
                rw [hgroups, List.modifyHead_cons] at hfits
                have hshort := hfits.1 _ List.mem_cons_self
                simp only [List.length_append] at hshort
                omega

/-- The loop looks at the characters before `len` only. -/
theorem extractLoop_take (sourceString : Text) (len fuel i : ℕ)
    (locals : Locals) :
    extractLoop convert (sourceString.take len) len fuel i locals =
      extractLoop convert sourceString len fuel i locals := by
  induction fuel generalizing i locals with
  | zero => rfl
  | succ fuel ih =>
      simp only [extractLoop]
      by_cases hindex : i < len
      · have hcharacter : (sourceString.take len).getD i '\x00' =
            sourceString.getD i '\x00' := by
          simp [List.getD_eq_getElem?_getD, List.getElem?_take_of_lt hindex]
        simp only [if_pos hindex, extractStep, hcharacter, ih]
      · rw [if_neg hindex, if_neg hindex]

/-- The index is a single byte and does not get past a longer text. -/
theorem extractLoop_endless (sourceString : Text) {len : ℕ}
    (hlength : 256 ≤ len) (fuel i : ℕ) (hindex : i < 256) (locals : Locals) :
    extractLoop convert sourceString len fuel i locals = none := by
  have hinside : i < len := by omega
  induction fuel generalizing i locals with
  | zero => rw [extractLoop, if_pos hinside]
  | succ fuel ih =>
      have hnext : (i + 1) % 256 < 256 := Nat.mod_lt _ (by decide)
      rw [extractLoop, if_pos hinside]
      cases extractStep convert sourceString len i locals with
      | none => rfl
      | some reached => exact ih _ hnext _ (by omega)

/-- What a parser makes of a text without NUL, whatever its length. -/
theorem extractAddress_eq_groups (hoctets : octets ≤ 51) {text : Text}
    (hnul : '\x00' ∉ text) :
    extractAddress octets convert text =
      if Fits octets (groups (readPart text)) then
        some fun (index : Fin octets) =>
          (padded octets ((groups (readPart text)).map convert)).getD index 0
      else none := by
  have hlength : (readPart text).length = text.length % 65536 := by
    rw [readPart, List.length_take]
    omega
  by_cases hshort : text.length % 65536 ≤ 255
  · have hfree : '\x00' ∉ readPart text := fun hmem =>
      hnul (List.mem_of_mem_take hmem)
    have hcut : extractAddress octets convert text =
        extractAddress octets convert (readPart text) := by
      simp only [extractAddress, hlength, Nat.mod_mod]
      rw [readPart, extractLoop_take]
    have hwhole : (groups (readPart text)).modifyHead ([] ++ ·) =
        groups (readPart text) := by
      cases groups (readPart text) <;> rfl
    rw [hcut, extractAddress_eq_groupScan (by omega) (by omega) hfree,
      groupScan_eq_groups _ _ _ _ _ (Nat.zero_le _), hwhole]
    simp only [List.length_nil, Nat.sub_zero, List.nil_append]
    split_ifs <;> rfl
  · have hlong : ¬ Fits octets (groups (readPart text)) := by
      intro hfits
      have := length_le_of_fits hfits
      omega
    have hendless := extractLoop_endless convert text
      (Nat.lt_of_not_le hshort) 256 0 (by decide)
    rw [if_neg hlong]
    simp only [extractAddress, hendless, Option.map_none]

/-- A parser comes back exactly from a text whose groups fit. -/
theorem extractAddress_isSome_iff (hoctets : octets ≤ 51) {text : Text}
    (hnul : '\x00' ∉ text) :
    (extractAddress octets convert text).isSome ↔
      Fits octets (groups (readPart text)) := by
  rw [extractAddress_eq_groups octets convert hoctets hnul]
  split_ifs with hfits
  · simp [hfits]
  · simp [hfits]

end Scan

end Songpark.Address
