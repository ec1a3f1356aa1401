import Mathlib.Algebra.Group.Int.Defs
import Mathlib.Algebra.Group.Nat.Defs
import Mathlib.Data.List.TakeWhile
import Mathlib.Tactic.TypeStar

/-!
# Reading and printing numbers the way the C library does

The console reads words and integers with `scanf`, the address parsers use
`atoi` and `strtol`, and the getters print with `%d` and `%02X`.  A text is a
list of characters without the terminating NUL.  The scanning functions follow
the documented behaviour: white space is skipped, an optional sign is taken, and
the longest run of digits is converted.

The main result is `scanInt_eq_error_iff`: the conversion fails exactly on an
input that does not start with a decimal integer.
-/

namespace Songpark.Scan

abbrev Text := List Char

/-- White space of the C locale. -/
def isSpace (c : Char) : Bool :=
  c == ' ' || (9 ≤ c.toNat && c.toNat ≤ 13)

def skipSpace (text : Text) : Text := text.dropWhile isSpace

/-- `scanf("%s")`: the next word and the input after it; nothing at the end of
the input. -/
def scanWord (text : Text) : Option (Text × Text) :=
  match skipSpace text with
  | [] => none
  | first :: rest =>
      some ((first :: rest).takeWhile (!isSpace ·),
        (first :: rest).dropWhile (!isSpace ·))

/-! ## Digits -/

def digitValue (c : Char) : ℕ :=
  if '0' ≤ c ∧ c ≤ '9' then c.toNat - '0'.toNat
  else if 'a' ≤ c ∧ c ≤ 'f' then c.toNat - 'a'.toNat + 10
  else if 'A' ≤ c ∧ c ≤ 'F' then c.toNat - 'A'.toNat + 10
  else 16

def isDigitOf (base : ℕ) (c : Char) : Bool := digitValue c < base

def digitsValue (base : ℕ) (digits : Text) : ℕ :=
  digits.foldl (fun value c => base * value + digitValue c) 0

/-- An optional sign. -/
def takeSign : Text → Bool × Text
  | '-' :: rest => (true, rest)
  | '+' :: rest => (false, rest)
  | text => (false, text)

/-- Base 16 accepts a leading `0x` in front of a digit. -/
def skipHexPrefix (base : ℕ) (text : Text) : Text :=
  match text with
  | '0' :: x :: digit :: rest =>
      if base = 16 ∧ (x = 'x' ∨ x = 'X') ∧ isDigitOf 16 digit then
        digit :: rest
      else text
  | _ => text

/-- A `long` saturates at its limits. -/
def clampLong (value : ℤ) : ℤ := max (-2 ^ 63) (min (2 ^ 63 - 1) value)

/-- The signed number at the start of a text, before it is stored anywhere. -/
def parseLong (base : ℕ) (text : Text) : Option (ℤ × Text) :=
  let (negative, unsigned) := takeSign (skipSpace text)
  let body := skipHexPrefix base unsigned
  match body.takeWhile (isDigitOf base) with
  | [] => none
  | digit :: digits =>
      let value : ℤ := digitsValue base (digit :: digits)
      some (clampLong (if negative then -value else value),
        body.dropWhile (isDigitOf base))

def strtol (base : ℕ) (text : Text) : ℤ :=
  match parseLong base text with
  | some (value, _) => value
  | none => 0

/-- The library computes `atoi` as a `long` and truncates it to an `int`. -/
def atoi (text : Text) : BitVec 32 := BitVec.ofInt 32 (strtol 10 text)

/-- `scanf("%d")`: the stored `int` and the input left over, or the input left
over when no integer is there.  A sign without a digit is consumed. -/
def scanInt (text : Text) : Except Text (BitVec 32 × Text) :=
  match parseLong 10 text with
  | some (value, rest) => .ok (BitVec.ofInt 32 value, rest)
  | none => .error (takeSign (skipSpace text)).2

/-- White space, then an optional sign, then a decimal digit. -/
def StartsWithDecimal (text : Text) : Prop :=
  ∃ digit rest, (takeSign (skipSpace text)).2 = digit :: rest ∧
    isDigitOf 10 digit

theorem skipHexPrefix_ten (text : Text) : skipHexPrefix 10 text = text := by
  unfold skipHexPrefix
  split
  · simp
  · rfl

/-- The conversion of `%d` fails exactly when no decimal integer is next. -/
theorem scanInt_eq_error_iff (text : Text) :
    (∃ rest, scanInt text = .error rest) ↔ ¬ StartsWithDecimal text := by
  have hbody : ∀ body : Text,
      body.takeWhile (isDigitOf 10) = [] ↔
        ¬ ∃ digit rest, body = digit :: rest ∧ isDigitOf 10 digit := by
    intro body
    cases body with
    | nil => simp
    | cons head tail => simp [List.takeWhile_cons]
  unfold StartsWithDecimal
  rw [← hbody]
  simp only [scanInt, parseLong, skipHexPrefix_ten]
  cases hdigits :
      (takeSign (skipSpace text)).2.takeWhile (isDigitOf 10) with
  | nil => simp
  | cons digit digits => simp

theorem skipSpace_blank (text : Text) :
    skipSpace (' ' :: text) = skipSpace text :=
  List.dropWhile_cons_of_pos (by decide)

theorem scanInt_blank (text : Text) : scanInt (' ' :: text) = scanInt text := by
  simp only [scanInt, parseLong, skipSpace_blank]

/-! ## Decimal text -/

/-- What `%d` prints for a non-negative number. -/
def decimal (value : ℕ) : Text := Nat.toDigits 10 value

/-- What `%d` prints for an `int`. -/
def decimalInt (value : BitVec 32) : Text :=
  if value.toInt < 0 then '-' :: decimal value.toInt.natAbs
  else decimal value.toNat

/-- What `%02X` prints for a byte. -/
def hexByte (byte : BitVec 8) : Text :=
  [Nat.digitChar (byte.toNat / 16), Nat.digitChar (byte.toNat % 16)].map
    Char.toUpper

theorem isDigitOf_ten {c : Char} (hdigit : c.isDigit) :
    digitValue c = c.toNat - '0'.toNat ∧ isDigitOf 10 c := by
  obtain ⟨hlow, hhigh⟩ : '0' ≤ c ∧ c ≤ '9' := by
    simpa [Char.isDigit, Char.le_def] using hdigit
  have hvalue : digitValue c = c.toNat - '0'.toNat := by
    simp [digitValue, hlow, hhigh]
  refine ⟨hvalue, ?_⟩
  have hbound : c.toNat ≤ '9'.toNat := by
    simpa [Char.le_def, UInt32.le_iff_toNat_le] using hhigh
  have hnine : '9'.toNat = 57 := rfl
  have hzero : '0'.toNat = 48 := rfl
  simp only [isDigitOf, hvalue, decide_eq_true_eq]
  omega

theorem isDigit_of_mem_decimal {value : ℕ} {c : Char}
    (hmem : c ∈ decimal value) : c.isDigit :=
  Nat.isDigit_of_mem_toDigits (by decide) (by decide) hmem

theorem decimal_ne_nil (value : ℕ) : decimal value ≠ [] :=
  Nat.toDigits_ne_nil

theorem digitsValue_eq_ofDigitChars {digits : Text}
    (hdigits : ∀ c ∈ digits, c.isDigit) :
    digitsValue 10 digits = Nat.ofDigitChars 10 digits 0 := by
  have haccumulate : ∀ value,
      digits.foldl (fun value c => 10 * value + digitValue c) value =
        Nat.ofDigitChars 10 digits value := by
    induction digits with
    | nil => simp
    | cons digit digits ih =>
        intro value
        rw [List.foldl_cons, Nat.ofDigitChars_cons,
          (isDigitOf_ten (hdigits digit List.mem_cons_self)).1,
          ih fun c hc => hdigits c (List.mem_cons_of_mem _ hc)]
  exact haccumulate 0

theorem digitsValue_decimal (value : ℕ) :
    digitsValue 10 (decimal value) = value := by
  rw [digitsValue_eq_ofDigitChars fun c => isDigit_of_mem_decimal]
  exact Nat.ofDigitChars_ten_toDigits

/-- A digit is neither white space nor a sign, so nothing is skipped before
it. -/
theorem takeSign_skipSpace_of_isDigit {digit : Char} (hdigit : digit.isDigit)
    (rest : Text) :
    takeSign (skipSpace (digit :: rest)) = (false, digit :: rest) := by
  have hspace : isSpace digit = false := by
    by_contra hcontra
    have hcases : digit = ' ' ∨ 9 ≤ digit.toNat ∧ digit.toNat ≤ 13 := by
      simpa [isSpace, or_iff_not_imp_left] using hcontra
    rcases hcases with rfl | ⟨_, hhigh⟩
    · exact absurd hdigit (by decide)
    · have hlow : '0'.toNat ≤ digit.toNat := by
        have hle : '0' ≤ digit ∧ digit ≤ '9' := by
          simpa [Char.isDigit, Char.le_def] using hdigit
        simpa [Char.le_def, UInt32.le_iff_toNat_le] using hle.1
      have hzero : '0'.toNat = 48 := rfl
      omega
  have hminus : digit ≠ '-' := by
    rintro rfl
    exact absurd hdigit (by decide)
  have hplus : digit ≠ '+' := by
    rintro rfl
    exact absurd hdigit (by decide)
  rw [skipSpace, List.dropWhile_cons_of_neg (by simp [hspace])]
  simp [takeSign, hminus, hplus]

theorem isDigitOf_of_mem_decimal {value : ℕ} {c : Char}
    (hmem : c ∈ decimal value) : isDigitOf 10 c :=
  (isDigitOf_ten (isDigit_of_mem_decimal hmem)).2

/-- The digits of a printed number end where no digit follows. -/
theorem takeWhile_decimal (value : ℕ) {rest : Text}
    (hrest : ∀ c ∈ rest.head?, isDigitOf 10 c = false) :
    (decimal value ++ rest).takeWhile (isDigitOf 10) = decimal value ∧
      (decimal value ++ rest).dropWhile (isDigitOf 10) = rest := by
  have hstop : rest.takeWhile (isDigitOf 10) = [] ∧
      rest.dropWhile (isDigitOf 10) = rest := by
    cases rest with
    | nil => simp
    | cons head tail => simp [hrest head (by simp)]
  constructor
  · rw [List.takeWhile_append_of_pos fun c => isDigitOf_of_mem_decimal,
      hstop.1, List.append_nil]
  · rw [List.dropWhile_append_of_pos fun c => isDigitOf_of_mem_decimal,
      hstop.2]

/-- A printed number is read back whole when no digit follows it. -/
theorem parseLong_decimal {value : ℕ} (hvalue : value < 2 ^ 63) {rest : Text}
    (hrest : ∀ c ∈ rest.head?, isDigitOf 10 c = false) :
    parseLong 10 (decimal value ++ rest) = some ((value : ℤ), rest) := by
  obtain ⟨digit, digits, hdecimal⟩ :=
    List.exists_cons_of_ne_nil (decimal_ne_nil value)
  have hhead : digit.isDigit :=
    isDigit_of_mem_decimal (hdecimal ▸ List.mem_cons_self)
  obtain ⟨htake, hdrop⟩ := takeWhile_decimal value hrest
  have hclamp : clampLong (value : ℤ) = value := by
    unfold clampLong
    omega
  have hstart : takeSign (skipSpace (decimal value ++ rest)) =
      (false, decimal value ++ rest) := by
    rw [hdecimal, List.cons_append]
    exact takeSign_skipSpace_of_isDigit hhead _
  simp only [parseLong, hstart, skipHexPrefix_ten, htake, hdrop]
  rw [hdecimal]
  simp only [← hdecimal, digitsValue_decimal, Bool.false_eq_true, if_false,
    hclamp]

/-- So is a number after a minus sign. -/
theorem parseLong_minus {value : ℕ} (hvalue : value < 2 ^ 63) {rest : Text}
    (hrest : ∀ c ∈ rest.head?, isDigitOf 10 c = false) :
    parseLong 10 ('-' :: (decimal value ++ rest)) =
      some (-(value : ℤ), rest) := by
  obtain ⟨digit, digits, hdecimal⟩ :=
    List.exists_cons_of_ne_nil (decimal_ne_nil value)
  obtain ⟨htake, hdrop⟩ := takeWhile_decimal value hrest
  have hclamp : clampLong (-(value : ℤ)) = -value := by
    unfold clampLong
    omega
  have hstart : takeSign (skipSpace ('-' :: (decimal value ++ rest))) =
      (true, decimal value ++ rest) := by
    rw [skipSpace, List.dropWhile_cons_of_neg (by decide), takeSign]
  simp only [parseLong, hstart, skipHexPrefix_ten, htake, hdrop]
  rw [hdecimal]
  simp only [← hdecimal, digitsValue_decimal, if_true, hclamp]

theorem atoi_decimal {value : ℕ} (hvalue : value < 2 ^ 63) :
    atoi (decimal value) = BitVec.ofNat 32 value := by
  have hparse : parseLong 10 (decimal value) = some ((value : ℤ), []) := by
    rw [← List.append_nil (decimal value)]
    exact parseLong_decimal hvalue (by simp)
  rw [atoi, strtol, hparse, BitVec.ofInt_natCast]

theorem scanInt_decimal {value : ℕ} (hvalue : value < 2 ^ 63) {rest : Text}
    (hrest : ∀ c ∈ rest.head?, isDigitOf 10 c = false) :
    scanInt (decimal value ++ rest) =
      .ok (BitVec.ofNat 32 value, rest) := by
  rw [scanInt, parseLong_decimal hvalue hrest]
  simp only [BitVec.ofInt_natCast]

/-- What `%d` prints for an `int`, `%d` reads back. -/
theorem scanInt_decimalInt (value : BitVec 32) {rest : Text}
    (hrest : ∀ c ∈ rest.head?, isDigitOf 10 c = false) :
    scanInt (decimalInt value ++ rest) = .ok (value, rest) := by
  unfold decimalInt
  split_ifs with hnegative
  · have hbound : value.toInt.natAbs < 2 ^ 63 := by
      have hlow := BitVec.le_toInt value
      omega
    have hvalue : -(value.toInt.natAbs : ℤ) = value.toInt := by omega
    rw [List.cons_append, scanInt, parseLong_minus hbound hrest]
    simp only [hvalue, BitVec.ofInt_toInt]
  · have hbound : value.toNat < 2 ^ 63 :=
      lt_of_lt_of_le value.isLt (by decide)
    rw [scanInt_decimal hbound hrest, BitVec.ofNat_toNat, BitVec.setWidth_eq]

/-! ## Words -/

/-- A word is read up to the white space after it. -/
theorem scanWord_append {word : Text} (hword : word ≠ [])
    (hplain : ∀ c ∈ word, isSpace c = false) {stop : Char}
    (hstop : isSpace stop) (rest : Text) :
    scanWord (word ++ stop :: rest) = some (word, stop :: rest) := by
  obtain ⟨first, letters, rfl⟩ := List.exists_cons_of_ne_nil hword
  have hfirst : isSpace first = false := hplain first List.mem_cons_self
  have hall : ∀ c ∈ first :: letters, (!isSpace c) = true := fun c hc => by
    rw [hplain c hc, Bool.not_false]
  have hskip : skipSpace (first :: letters ++ stop :: rest) =
      first :: (letters ++ stop :: rest) := by
    rw [List.cons_append, skipSpace,
      List.dropWhile_cons_of_neg (by simp [hfirst])]
  have htake : (first :: letters ++ stop :: rest).takeWhile (!isSpace ·) =
      first :: letters := by
    rw [List.takeWhile_append_of_pos hall,
      List.takeWhile_cons_of_neg (by simp [hstop]), List.append_nil]
  have hdrop : (first :: letters ++ stop :: rest).dropWhile (!isSpace ·) =
      stop :: rest := by
    rw [List.dropWhile_append_of_pos hall,
      List.dropWhile_cons_of_neg (by simp [hstop])]
  rw [scanWord, hskip]
  dsimp only
  rw [← List.cons_append, htake, hdrop]

/-- White space before a word is skipped. -/
theorem scanWord_cons {c : Char} (hspace : isSpace c) (text : Text) :
    scanWord (c :: text) = scanWord text := by
  rw [scanWord, scanWord, skipSpace, skipSpace, List.dropWhile_cons_of_pos hspace]

end Songpark.Scan
