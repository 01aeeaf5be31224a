import Kestrel.Base.Positional
import Kestrel.Base.Text

/-!
# Decimal numerals

The texts that Python's `int` reads as integers: between blanks an optional sign, and decimal digits
of any script, which single underscores may separate.
-/

namespace Numeral

open List

/-- The zeros of the decimal digits: the ten digits of a script are the code points from its zero
on. -/
def decimalZeros : List ℕ :=
  [0x30, 0x660, 0x6F0, 0x7C0, 0x966, 0x9E6, 0xA66, 0xAE6, 0xB66, 0xBE6, 0xC66, 0xCE6, 0xD66, 0xDE6,
    0xE50, 0xED0, 0xF20, 0x1040, 0x1090, 0x17E0, 0x1810, 0x1946, 0x19D0, 0x1A80, 0x1A90, 0x1B50,
    0x1BB0, 0x1C40, 0x1C50, 0xA620, 0xA8D0, 0xA900, 0xA9D0, 0xA9F0, 0xAA50, 0xABF0, 0xFF10, 0x104A0,
    0x10D30, 0x11066, 0x110F0, 0x11136, 0x111D0, 0x112F0, 0x11450, 0x114D0, 0x11650, 0x116C0,
    0x11730, 0x118E0, 0x11950, 0x11C50, 0x11D50, 0x11DA0, 0x16A60, 0x16AC0, 0x16B50, 0x1D7CE,
    0x1D7D8, 0x1D7E2, 0x1D7EC, 0x1D7F6, 0x1E140, 0x1E2F0, 0x1E950, 0x1FBF0]

/-- The value of a decimal digit. Superscripts and circled numbers have none. -/
def decimal (character : Char) : Option ℕ :=
  (decimalZeros.find? fun first => first ≤ character.toNat ∧ character.toNat < first + 10).map
    (character.toNat - ·)

/-- What `int` skips at both ends. The separators U+001C to U+001F are no blanks for it. -/
def isBlank (character : Char) : Bool :=
  Text.isSpace character ∧ ¬ (0x1C ≤ character.toNat ∧ character.toNat ≤ 0x1F)

def trim (skips : Char → Bool) (letters : List Char) : List Char :=
  ((letters.dropWhile skips).reverse.dropWhile skips).reverse

/-- Digits, the highest first. An underscore may stand between two of them. -/
def readDigits : List Char → Option (List ℕ)
  | [] => none
  | [letter] => (decimal letter).map ([·])
  | letter :: '_' :: letters => do return (← decimal letter) :: (← readDigits letters)
  | letter :: next :: letters => do return (← decimal letter) :: (← readDigits (next :: letters))

/-- Whether a numeral has a minus sign, and its digits. -/
def read (text : String) : Option (Bool × List ℕ) :=
  match trim isBlank text.toList with
  | '-' :: letters => (readDigits letters).map (true, ·)
  | '+' :: letters => (readDigits letters).map (false, ·)
  | letters => (readDigits letters).map (false, ·)

/-- `sys.int_info.default_max_str_digits`. -/
def maxDigits : ℕ := 4300

/-- `int(text)`, or nothing where it raises `ValueError`. -/
def int (text : String) : Option ℤ :=
  match read text with
  | some (negative, digits) =>
    if digits.length ≤ maxDigits then
      some (if negative then -(Positional.value 10 digits : ℤ) else Positional.value 10 digits)
    else none
  | none => none

section Plain

variable {letters : List Char}

theorem toNat_of_isDigit {letter : Char} (digit : letter.isDigit = true) :
    48 ≤ letter.toNat ∧ letter.toNat < 58 := by
  simp only [Char.isDigit, Bool.and_eq_true, decide_eq_true_eq, UInt32.le_iff_toNat_le] at digit
  exact ⟨digit.1, Nat.lt_succ_of_le digit.2⟩

theorem decimal_of_isDigit {letter : Char} (digit : letter.isDigit = true) :
    decimal letter = some (letter.toNat - '0'.toNat) := by
  unfold decimal decimalZeros
  rw [find?_cons_of_pos (by simpa using toNat_of_isDigit digit), Option.map_some]
  rfl

theorem readDigits_of_isDigit (nonempty : letters ≠ [])
    (digits : ∀ letter ∈ letters, letter.isDigit = true) :
    readDigits letters = some (letters.map fun letter => letter.toNat - '0'.toNat) := by
  induction letters with
  | nil => exact absurd rfl nonempty
  | cons letter letters ih =>
    have first := decimal_of_isDigit (digits letter mem_cons_self)
    cases letters with
    | nil => rw [readDigits, first]; rfl
    | cons next letters =>
      have rest := ih (cons_ne_nil _ _) fun other member => digits other (mem_cons_of_mem _ member)
      have digit := digits next (by simp)
      have separates : next ≠ '_' := by
        rintro rfl
        exact absurd digit (by decide)
      rw [readDigits, first, rest]
      · rfl
      · exact separates

theorem value_map_digits (letters : List Char) :
    Positional.value 10 (letters.map fun letter => letter.toNat - '0'.toNat) =
      Nat.ofDigitChars 10 letters 0 := by
  rw [Nat.ofDigitChars_eq_foldl, Positional.value, foldl_map]

theorem dropWhile_eq_of_head {skips more : Char → Bool}
    (weaker : ∀ letter, skips letter = true → more letter = true)
    (head : ∀ letter ∈ (letters.dropWhile skips).head?, more letter = false) :
    letters.dropWhile more = letters.dropWhile skips := by
  induction letters with
  | nil => rfl
  | cons letter letters ih =>
    by_cases skipped : skips letter = true
    · rw [dropWhile_cons, if_pos skipped] at head
      rw [dropWhile_cons, dropWhile_cons, if_pos skipped, if_pos (weaker _ skipped)]
      exact ih head
    · rw [dropWhile_cons, if_neg skipped] at head
      rw [dropWhile_cons, dropWhile_cons, if_neg skipped, if_neg (by simp [head letter rfl])]

theorem trim_eq_of_ends {skips more : Char → Bool}
    (weaker : ∀ letter, skips letter = true → more letter = true)
    (ends : ∀ letter ∈ trim skips letters, more letter = false) :
    trim more letters = trim skips letters := by
  have front : letters.dropWhile more = letters.dropWhile skips := by
    apply dropWhile_eq_of_head weaker
    intro letter first
    apply ends
    have kept : skips letter = false := by
      have := head?_dropWhile_not skips letters
      rw [Option.mem_def.mp first] at this
      simpa using this
    cases rest : letters.dropWhile skips with
    | nil => rw [rest] at first; cases first
    | cons head tail =>
      rw [rest] at first
      obtain rfl := Option.some.inj first
      rw [trim, rest, mem_reverse, reverse_cons, dropWhile_append]
      split_ifs
      · rw [dropWhile_cons, if_neg (by simp [kept])]
        exact mem_cons_self
      · exact mem_append_right _ mem_cons_self
  unfold trim
  rw [front]
  congr 1
  apply dropWhile_eq_of_head weaker
  intro letter last
  apply ends
  rw [trim, mem_reverse]
  exact mem_of_mem_head? last

theorem trim_eq_self {skips : Char → Bool} (kept : ∀ letter ∈ letters, skips letter = false) :
    trim skips letters = letters := by
  have dropped {letters : List Char} (kept : ∀ letter ∈ letters, skips letter = false) :
      letters.dropWhile skips = letters := by
    cases letters with
    | nil => rfl
    | cons letter letters => rw [dropWhile_cons, if_neg (by simp [kept letter mem_cons_self])]
  rw [trim, dropped kept, dropped (by simpa using kept), reverse_reverse]

theorem isSpace_of_isDigit {letter : Char} (digit : letter.isDigit = true) :
    Text.isSpace letter = false := by
  have bounds := toNat_of_isDigit digit
  simp [Text.isSpace, Text.whitespace]
  omega

/-- `int` reads ASCII digits up to their limit. -/
theorem int_of_isDigit (nonempty : letters ≠ [])
    (digits : ∀ letter ∈ letters, letter.isDigit = true) : int (.ofList letters) =
      if letters.length ≤ maxDigits then some (Nat.ofDigitChars 10 letters 0 : ℤ) else none := by
  have trimmed : trim isBlank letters = letters :=
    trim_eq_self fun letter member => by simp [isBlank, isSpace_of_isDigit (digits letter member)]
  have known : read (.ofList letters) =
      some (false, letters.map fun letter => letter.toNat - '0'.toNat) := by
    unfold read
    rw [String.toList_ofList, trimmed]
    split
    · exact absurd (digits '-' mem_cons_self) (by decide)
    · exact absurd (digits '+' mem_cons_self) (by decide)
    · rw [readDigits_of_isDigit nonempty digits, Option.map_some]
  rw [int, known]
  simp only [length_map, value_map_digits, Bool.false_eq_true, if_false]

end Plain

end Numeral
