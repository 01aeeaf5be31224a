import Kestrel.Base.Numeral
import Mathlib.Data.Int.Notation
import Mathlib.Tactic.IntervalCases

/-!
# Newer scheduler protocols

A scheduler refuses a database that a newer protocol has written. The bootstrap scan looks for newer
versions in SQL, on the decimal text of the stored value, and a single row is looked at in Python.
The two agree on every version but those that a text spells in a way that only one of them reads.
-/

namespace Kestrel.Scheduler

open List Numeral Nat

section Definitions

def schedulerProtocolVersion : ℕ := 2

/-- A value of a protocol version column. -/
inductive StoredVersion where
  | null
  | integer (value : ℤ)
  | text (value : String)
  deriving DecidableEq, Repr

def isNewerProtocolVersion : StoredVersion → Bool
  | .null => false
  | .integer value => schedulerProtocolVersion < value
  | .text value => (Numeral.int value).any ((schedulerProtocolVersion : ℤ) < ·)

/-- `CAST(column AS TEXT)`. -/
def StoredVersion.castText : StoredVersion → Option (List Char)
  | .null => none
  | .integer value => some (toString value).toList
  | .text value => some value.toList

/-- The text under `trim`, without a plus sign. -/
def unsigned (text : List Char) : List Char :=
  let trimmed := Numeral.trim (· = ' ') text
  if trimmed.take 1 = ['+'] then trimmed.drop 1 else trimmed

/-- What the replacement of each digit by nothing leaves. -/
def nonDigits (text : List Char) : List Char :=
  "0123456789".toList.foldl (fun text digit => text.filter (· ≠ digit)) text

/-- `COALESCE(NULLIF(ltrim(text, '0'), ''), '0')`. -/
def normalized (text : List Char) : List Char :=
  let stripped := text.dropWhile (· = '0')
  if stripped = [] then ['0'] else stripped

/-- `_future_protocol_version_sql`, as a predicate of the column's value. -/
def futureProtocolVersion (version : StoredVersion) : Bool :=
  let current := (toString schedulerProtocolVersion).toList
  match version.castText with
  | none => false
  | some text =>
    unsigned text ≠ [] ∧ nonDigits (unsigned text) = [] ∧
      (current.length < (normalized (unsigned text)).length ∨
        (normalized (unsigned text)).length = current.length ∧
          current < normalized (unsigned text))

/-- A text that is plain: ASCII digits, with a plus sign or none before them, between spaces. -/
def IsPlain (text : List Char) : Prop :=
  unsigned text ≠ [] ∧ ∀ letter ∈ unsigned text, letter.isDigit = true

/-- A text that spells a version above this one is plain exactly if it has at most the digits that
`int` converts. -/
def SpelledAlike : StoredVersion → Prop
  | .null | .integer _ => True
  | .text value => ∀ digits, Numeral.read value = some (false, digits) →
      schedulerProtocolVersion < Positional.value 10 digits →
        (IsPlain value.toList ↔ digits.length ≤ Numeral.maxDigits)

end Definitions

section Texts

variable {text : List Char}

theorem nonDigits_eq_nil : nonDigits text = [] ↔ ∀ letter ∈ text, letter.isDigit = true := by
  have digits : ∀ letter : Char, letter ∈ "0123456789".toList ↔ letter.isDigit = true := by
    intro letter
    constructor
    · intro member
      have all : ∀ digit ∈ "0123456789".toList, digit.isDigit = true := by simp
      exact all letter member
    · intro digit
      obtain ⟨low, high⟩ := toNat_of_isDigit digit
      rw [← Char.ofNat_toNat letter]
      interval_cases letter.toNat <;> decide
  have folded : ∀ (digits text : List Char),
      digits.foldl (fun text digit => text.filter (· ≠ digit)) text = text.filter (· ∉ digits) := by
    intro digits
    induction digits with
    | nil => simp
    | cons digit digits ih =>
      intro text
      rw [foldl_cons, ih, filter_filter]
      simp [mem_cons, Bool.and_comm]
  unfold nonDigits
  rw [folded, filter_eq_nil_iff]
  simp only [digits, decide_eq_true_eq, not_not]

theorem ofDigitChars_dropWhile (text : List Char) :
    ofDigitChars 10 (text.dropWhile (· = '0')) 0 = ofDigitChars 10 text 0 := by
  induction text with
  | nil => rfl
  | cons letter text ih =>
    by_cases zero : letter = '0'
    · subst zero
      rw [dropWhile_cons_of_pos (by simp), ih, ofDigitChars_cons]
      rfl
    · rw [dropWhile_cons_of_neg (by simpa using zero)]

theorem normalized_newer_iff (digits : ∀ letter ∈ text, letter.isDigit = true) :
    (1 < (normalized text).length ∨ (normalized text).length = 1 ∧ ['2'] < normalized text) ↔
      2 < ofDigitChars 10 text 0 := by
  rw [← ofDigitChars_dropWhile]
  have kept : ∀ letter ∈ text.dropWhile (· = '0'), letter.isDigit = true :=
    fun letter member => digits letter ((dropWhile_suffix _).subset member)
  have head : ∀ letter ∈ (text.dropWhile (· = '0')).head?, letter ≠ '0' := by
    intro letter first
    have := head?_dropWhile_not (fun letter => decide (letter = '0')) text
    rw [Option.mem_def.mp first] at this
    simpa using this
  unfold normalized
  cases stripped : text.dropWhile (· = '0') with
  | nil => decide
  | cons letter rest =>
    rw [stripped] at kept head
    obtain ⟨low, high⟩ := toNat_of_isDigit (kept letter mem_cons_self)
    have positive : letter.toNat ≠ 48 := by
      intro zero
      apply head letter rfl
      rw [← Char.ofNat_toNat letter, zero]
    rw [if_neg (cons_ne_nil _ _), ofDigitChars_cons]
    cases rest with
    | nil =>
      have less : ['2'] < [letter] ↔ 50 < letter.toNat := by
        simp [cons_lt_cons_iff, Char.lt_def, UInt32.lt_iff_toNat_lt]
      have zero : '0'.toNat = 48 := rfl
      simp only [less, length_singleton, lt_irrefl, false_or, true_and, ofDigitChars_nil, zero]
      omega
    | cons next rest =>
      have zero : '0'.toNat = 48 := rfl
      have power : 10 ≤ 10 ^ (next :: rest).length := by
        rw [length_cons, pow_succ]
        have := one_le_pow rest.length 10 (by decide)
        omega
      have first : 1 ≤ 10 * 0 + (letter.toNat - '0'.toNat) := by omega
      rw [ofDigitChars_eq_ofDigitChars_zero]
      refine iff_of_true (.inl (by simp)) ?_
      have := mul_le_mul power first
      omega

theorem IsPlain.read {value : String} (plain : IsPlain value.toList) : read value =
      some (false, (unsigned value.toList).map fun letter => letter.toNat - '0'.toNat) := by
  obtain ⟨nonempty, digits⟩ := plain
  have notBlank : ∀ letter : Char, letter.isDigit = true ∨ letter = '+' →
      isBlank letter = false := by
    rintro letter (digit | rfl)
    · simp [isBlank, isSpace_of_isDigit digit]
    · decide
  have shape : trim (· = ' ') value.toList = unsigned value.toList ∨
      trim (· = ' ') value.toList = '+' :: unsigned value.toList := by
    unfold unsigned
    dsimp only
    split_ifs with signed
    · right
      conv_lhs => rw [← take_append_drop 1 (trim _ _), signed]
      rfl
    · exact .inl rfl
  have trimmed : trim isBlank value.toList =
      trim (· = ' ') value.toList := by
    apply trim_eq_of_ends
    · intro letter space
      rw [of_decide_eq_true space]
      decide
    · intro letter member
      apply notBlank
      rcases shape with same | same
      · rw [same] at member
        exact .inl (digits letter member)
      · rw [same] at member
        rcases mem_cons.mp member with plus | member
        · exact .inr plus
        · exact .inl (digits letter member)
  have read := readDigits_of_isDigit nonempty digits
  unfold Numeral.read
  rw [trimmed]
  rcases shape with same | same
  · rw [same]
    split
    · rename_i first
      exact absurd (digits '-' (first ▸ mem_cons_self)) (by decide)
    · rename_i first
      exact absurd (digits '+' (first ▸ mem_cons_self)) (by decide)
    · rw [read, Option.map_some]
  · rw [same]
    change (readDigits _).map _ = _
    rw [read, Option.map_some]

theorem unsigned_of_digits {text digits : List Char}
    (digit : ∀ letter ∈ digits, letter.isDigit = true) (shape : text = digits ∨ text = '-' :: digits) :
    unsigned text = text := by
  have letters : ∀ letter ∈ text, letter.isDigit = true ∨ letter = '-' := by
    intro letter member
    rcases shape with rfl | rfl
    · exact .inl (digit letter member)
    · exact (mem_cons.mp member).symm.imp_left (digit letter)
  have kept : ∀ other : Char, other.isDigit = false → other ≠ '-' → other ∉ text := by
    intro other notDigit notMinus member
    rcases letters other member with digit | minus
    · rw [notDigit] at digit
      cases digit
    · exact notMinus minus
  have trimmed : trim (· = ' ') text = text := trim_eq_self fun letter member =>
    decide_eq_false fun space => kept ' ' (by decide) (by decide) (space ▸ member)
  unfold unsigned
  rw [trimmed, if_neg]
  intro first
  apply kept '+' (by decide) (by decide)
  exact mem_of_mem_take (first ▸ mem_singleton_self _)

end Texts

section Agreement

theorem futureProtocolVersion_text (value : String) :
    futureProtocolVersion (.text value) = true ↔ IsPlain value.toList ∧
      schedulerProtocolVersion < ofDigitChars 10 (unsigned value.toList) 0 := by
  have current : (toString schedulerProtocolVersion).toList = ['2'] := by decide
  unfold futureProtocolVersion StoredVersion.castText IsPlain
  rw [decide_eq_true_iff, nonDigits_eq_nil, current, and_assoc]
  refine and_congr_right fun _ => and_congr_right fun digits => ?_
  exact normalized_newer_iff digits

theorem isNewerProtocolVersion_text (value : String) : isNewerProtocolVersion (.text value) = true ↔
      ∃ digits, read value = some (false, digits) ∧ digits.length ≤ maxDigits ∧
          schedulerProtocolVersion < Positional.value 10 digits := by
  cases read : read value with
  | none => simp [isNewerProtocolVersion, int, read]
  | some numeral =>
    obtain ⟨negative, digits⟩ := numeral
    simp only [isNewerProtocolVersion, int, read]
    by_cases within : digits.length ≤ maxDigits
    · rw [if_pos within, Option.any_some, decide_eq_true_iff]
      cases negative with
      | true =>
        refine iff_of_false ?_ (by simp)
        rw [if_pos rfl, schedulerProtocolVersion]
        omega
      | false => simp [within]
    · rw [if_neg within]
      refine iff_of_false (by simp) ?_
      rintro ⟨other, same, few, _⟩
      cases same
      exact within few

theorem futureProtocolVersion_integer (value : ℤ) :
    futureProtocolVersion (.integer value) = isNewerProtocolVersion (.integer value) := by
  rw [Bool.eq_iff_iff]
  refine (futureProtocolVersion_text (toString value)).trans ?_
  rw [isNewerProtocolVersion, decide_eq_true_iff]
  cases value with
  | ofNat number =>
    have text : (toString (Int.ofNat number)).toList = toDigits 10 number := toList_repr
    have digits : ∀ letter ∈ toDigits 10 number, letter.isDigit = true :=
      fun _ member => isDigit_of_mem_toDigits (by decide) (by decide) member
    rw [IsPlain, text, unsigned_of_digits digits (.inl rfl), ofDigitChars_ten_toDigits]
    refine (and_iff_right ⟨toDigits_ne_nil, digits⟩).trans ?_
    exact Int.ofNat_lt.symm
  | negSucc number =>
    have text : (toString (Int.negSucc number)).toList = '-' :: toDigits 10 (number + 1) := by
      change ("-" ++ Nat.repr (number + 1)).toList = _
      rw [String.toList_append, toList_repr]
      rfl
    have digits : ∀ letter ∈ toDigits 10 (number + 1), letter.isDigit = true :=
      fun _ member => isDigit_of_mem_toDigits (by decide) (by decide) member
    rw [IsPlain, text, unsigned_of_digits digits (.inr rfl)]
    refine iff_of_false ?_ (by unfold schedulerProtocolVersion; omega)
    intro plain
    exact absurd (plain.1.2 '-' mem_cons_self) (by decide)

/-- The bootstrap scan and the check of a single value agree on exactly the values that no text
spells for one of them only. -/
theorem future_agrees_iff (version : StoredVersion) :
    futureProtocolVersion version = isNewerProtocolVersion version ↔ SpelledAlike version := by
  cases version with
  | null => exact iff_of_true rfl trivial
  | integer value => exact iff_of_true (futureProtocolVersion_integer value) trivial
  | text value =>
    rw [Bool.eq_iff_iff, futureProtocolVersion_text, isNewerProtocolVersion_text, SpelledAlike]
    by_cases plain : IsPlain value.toList
    · have read := plain.read
      simp only [read, Option.some.injEq, Prod.mk.injEq, true_and, plain, true_iff]
      simp only [eq_comm, exists_eq_left, forall_eq, value_map_digits, length_map]
      tauto
    · simp only [plain, false_and, false_iff, not_exists, not_and]
      exact forall_congr' fun digits => forall_congr' fun _ => imp_not_comm

/-- An underscore between digits hides a newer version from the scan. -/
theorem separated_version_disagrees :
    futureProtocolVersion (.text "1_0") = false ∧ isNewerProtocolVersion (.text "1_0") = true := by
  decide +kernel

end Agreement

end Kestrel.Scheduler
