import Songpark.Text.Groups

/-!
# Upper and lower case

`strtol` reads a hexadecimal number in either case, and the address parsers only
look for dots besides.  So what a parser makes of a text does not depend on the
case of its letters, each letter taken by itself.
-/

namespace Songpark.Scan

def lowerCase : List Char := "abcdefghijklmnopqrstuvwxyz".toList

/-- A character that changes is a letter. -/
theorem toUpper_eq_self_or_mem (c : Char) :
    c.toUpper = c ∨ c ∈ lowerCase := by
  by_cases hletter : 97 ≤ c.toNat ∧ c.toNat ≤ 122
  · right
    have hall : ∀ code < 123, 97 ≤ code → Char.ofNat code ∈ lowerCase := by
      decide
    have hmem := hall c.toNat (by omega) hletter.1
    rwa [Char.ofNat_toNat] at hmem
  · left
    refine dif_neg ?_
    simpa [Char.le_def, UInt32.le_iff_toNat_le] using hletter

/-- A function that does not tell the letters apart by case does not tell any
two characters apart by case. -/
theorem apply_toUpper {α : Type*} (f : Char → α)
    (hletters : lowerCase.map (fun c => f c.toUpper) = lowerCase.map f)
    (c : Char) : f c.toUpper = f c := by
  rcases toUpper_eq_self_or_mem c with hsame | hmem
  · rw [hsame]
  · exact List.map_inj_left.mp hletters c hmem

theorem digitValue_toUpper (c : Char) : digitValue c.toUpper = digitValue c :=
  apply_toUpper digitValue (by decide) c

theorem isDigitOf_toUpper (base : ℕ) (c : Char) :
    isDigitOf base c.toUpper = isDigitOf base c := by
  rw [isDigitOf, digitValue_toUpper, isDigitOf]

theorem isSpace_toUpper (c : Char) : isSpace c.toUpper = isSpace c :=
  apply_toUpper isSpace (by decide) c

/-- Characters that are no letters can be recognised in either case. -/
theorem toUpper_eq_iff {symbol : Char}
    (hletters : lowerCase.map (fun c => c.toUpper == symbol) =
      lowerCase.map (· == symbol))
    (c : Char) : c.toUpper = symbol ↔ c = symbol := by
  have hsame := apply_toUpper (· == symbol) hletters c
  rw [Bool.eq_iff_iff] at hsame
  simpa using hsame

section Numbers

variable (base : ℕ) (text : Text)

theorem skipSpace_map_toUpper :
    skipSpace (text.map Char.toUpper) = (skipSpace text).map Char.toUpper := by
  have hspace : isSpace ∘ Char.toUpper = isSpace := funext isSpace_toUpper
  rw [skipSpace, List.dropWhile_map, hspace, skipSpace]

theorem takeSign_cons (c : Char) (rest : Text) :
    takeSign (c :: rest) =
      if c = '-' then (true, rest) else if c = '+' then (false, rest)
      else (false, c :: rest) := by
  by_cases hminus : c = '-'
  · rw [hminus]
    rfl
  · by_cases hplus : c = '+'
    · rw [hplus]
      rfl
    · simp [takeSign, hminus, hplus]

theorem takeSign_map_toUpper :
    takeSign (text.map Char.toUpper) =
      ((takeSign text).1, (takeSign text).2.map Char.toUpper) := by
  cases text with
  | nil => rfl
  | cons c rest =>
      have hminus : c.toUpper = '-' ↔ c = '-' := toUpper_eq_iff (by decide) c
      have hplus : c.toUpper = '+' ↔ c = '+' := toUpper_eq_iff (by decide) c
      rw [List.map_cons, takeSign_cons, takeSign_cons]
      simp only [hminus, hplus]
      split_ifs <;> rfl

theorem skipHexPrefix_cons (c x digit : Char) (rest : Text) :
    skipHexPrefix base (c :: x :: digit :: rest) =
      if c = '0' ∧ base = 16 ∧ (x = 'x' ∨ x = 'X') ∧ isDigitOf 16 digit then
        digit :: rest
      else c :: x :: digit :: rest := by
  by_cases hzero : c = '0'
  · rw [hzero]
    simp [skipHexPrefix]
  · simp [skipHexPrefix, hzero]

theorem skipHexPrefix_map_toUpper :
    skipHexPrefix base (text.map Char.toUpper) =
      (skipHexPrefix base text).map Char.toUpper := by
  match text with
  | [] => rfl
  | [c] => simp [skipHexPrefix]
  | [c, x] => simp [skipHexPrefix]
  | c :: x :: digit :: rest =>
      have hzero : c.toUpper = '0' ↔ c = '0' := toUpper_eq_iff (by decide) c
      have hx : (x.toUpper = 'x' ∨ x.toUpper = 'X') ↔ (x = 'x' ∨ x = 'X') := by
        have hsame := apply_toUpper (fun c => c == 'x' || c == 'X')
          (by decide) x
        rw [Bool.eq_iff_iff] at hsame
        simpa using hsame
      simp only [List.map_cons, skipHexPrefix_cons, hzero, hx,
        isDigitOf_toUpper]
      split_ifs <;> rfl

/-- A number is read in either case. -/
theorem strtol_map_toUpper :
    strtol base (text.map Char.toUpper) = strtol base text := by
  have hdigits : isDigitOf base ∘ Char.toUpper = isDigitOf base :=
    funext (isDigitOf_toUpper base)
  have hvalue : ∀ digits : Text,
      digitsValue base (digits.map Char.toUpper) = digitsValue base digits := by
    intro digits
    simp only [digitsValue, List.foldl_map, digitValue_toUpper]
  simp only [strtol, parseLong, skipSpace_map_toUpper, takeSign_map_toUpper,
    skipHexPrefix_map_toUpper, List.takeWhile_map, hdigits]
  cases (skipHexPrefix base (takeSign (skipSpace text)).2).takeWhile
      (isDigitOf base) with
  | nil => rfl
  | cons digit digits =>
      have hwhole := hvalue (digit :: digits)
      rw [List.map_cons] at hwhole
      simp only [List.map_cons, hwhole]

end Numbers

end Songpark.Scan

namespace Songpark.Address

open Songpark.Scan

/-- The groups of a text in upper case. -/
theorem groups_map_toUpper (text : Text) :
    groups (text.map Char.toUpper) =
      (groups text).map (List.map Char.toUpper) := by
  induction text with
  | nil => rfl
  | cons c rest ih =>
      have hdot : c.toUpper = '.' ↔ c = '.' := toUpper_eq_iff (by decide) c
      rw [List.map_cons, groups, groups]
      simp only [hdot, ih]
      cases groups rest with
      | nil => split_ifs <;> rfl
      | cons group later => split_ifs <;> rfl

/-- The case of its letters makes no difference to a MAC address. -/
theorem extractMacAddress_map_toUpper {text : Text} (hnul : '\x00' ∉ text) :
    extractMacAddress (text.map Char.toUpper) = extractMacAddress text := by
  have hfree : '\x00' ∉ text.map Char.toUpper := by
    intro hmem
    obtain ⟨c, hc, hupper⟩ := List.mem_map.mp hmem
    exact hnul ((toUpper_eq_iff (by decide) c).mp hupper ▸ hc)
  have hpart : readPart (text.map Char.toUpper) =
      (readPart text).map Char.toUpper := by
    rw [readPart, List.length_map, readPart, List.map_take]
  have hfits : Fits 6 ((groups (readPart text)).map (List.map Char.toUpper)) ↔
      Fits 6 (groups (readPart text)) := by
    simp [Fits]
  have hvalues : ((groups (readPart text)).map (List.map Char.toUpper)).map
      (fun group => BitVec.ofInt 8 (strtol 16 group)) =
      (groups (readPart text)).map
        fun group => BitVec.ofInt 8 (strtol 16 group) := by
    rw [List.map_map]
    apply List.map_congr_left
    intro group _
    rw [Function.comp_apply, strtol_map_toUpper]
  rw [extractMacAddress, extractMacAddress,
    extractAddress_eq_groups _ _ (by decide) hfree,
    extractAddress_eq_groups _ _ (by decide) hnul, hpart, groups_map_toUpper,
    hvalues]
  simp only [hfits]

end Songpark.Address
