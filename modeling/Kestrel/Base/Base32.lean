import Kestrel.Base.Bytes
import Kestrel.Base.Positional
import Mathlib.Data.List.DropRight
import Mathlib.Tactic.IntervalCases

/-!
# Base 32

`base64.b32encode` and `base64.b32decode`. Five bytes are eight digits; a shorter last group has as
many digits as its bits need, and its text is filled up with `=`.
-/

namespace Base32

open List Positional

def alphabet : List Char := "ABCDEFGHIJKLMNOPQRSTUVWXYZ234567".toList

def encodeDigit (digit : ℕ) : Char := alphabet.getD digit 'A'

def decodeDigit (character : Char) : Option ℕ := alphabet.idxOf? character

/-- The digits of at most five bytes. -/
def encodeQuantum (bytes : List UInt8) : List Char :=
  ((Positional.digits 32 8 (Positional.value 256
    (bytes.map UInt8.toNat ++ List.replicate (5 - bytes.length) 0))).take
      ((8 * bytes.length + 4) / 5)).map encodeDigit

def encodeDigits : List UInt8 → List Char
  | first :: second :: third :: fourth :: fifth :: rest =>
    encodeQuantum [first, second, third, fourth, fifth] ++ encodeDigits rest
  | bytes => encodeQuantum bytes

/-- How many padding characters fill up a text. -/
def padding (length : ℕ) : ℕ := (8 - length % 8) % 8

def b32encode (bytes : List UInt8) : List Char :=
  encodeDigits bytes ++ List.replicate (padding (encodeDigits bytes).length) '='

/-- The bytes of at most eight digits. -/
def decodeQuantum (text : List Char) : Option (List UInt8) := do
  let digits ← text.mapM decodeDigit
  let missing := 8 - text.length
  pure ((Bytes.bigEndian 5 (Positional.value 32 digits * 32 ^ missing)).take
    ((43 - 5 * missing) / 8))

def decodeDigits : List Char → Option (List UInt8)
  | a :: b :: c :: d :: e :: f :: g :: h :: rest => do
    let bytes ← decodeQuantum [a, b, c, d, e, f, g, h]
    let more ← decodeDigits rest
    pure (bytes ++ more)
  | text => decodeQuantum text

def b32decode (text : List Char) : Except String (List UInt8) :=
  if text.any (127 < ·.toNat) then .error "string argument should contain only ASCII characters"
  else if text.length % 8 ≠ 0 then .error "Incorrect padding"
  else
    let stripped := text.rdropWhile (· = '=')
    match decodeDigits stripped with
    | none => .error "Non-base32 digit found"
    | some bytes =>
      if text.length - stripped.length ∈ [0, 1, 3, 4, 6] then .ok bytes
      else .error "Incorrect padding"

section Digits

theorem decodeDigit_encodeDigit {digit : ℕ} (small : digit < 32) :
    decodeDigit (encodeDigit digit) = some digit := by
  have all : ∀ digit : Fin 32, decodeDigit (encodeDigit digit.val) = some digit.val := by
    decide +kernel
  exact all ⟨digit, small⟩

theorem encodeDigit_mem (digit : ℕ) : encodeDigit digit ∈ alphabet := by
  unfold encodeDigit
  rw [getD_eq_getElem?_getD]
  cases found : alphabet[digit]? with
  | none => decide +kernel
  | some character => exact mem_of_getElem? found

theorem mapM_decodeDigit {digits : List ℕ} (small : ∀ digit ∈ digits, digit < 32) :
    (digits.map encodeDigit).mapM decodeDigit = some digits := by
  induction digits with
  | nil => rfl
  | cons digit digits ih =>
    rw [map_cons, mapM_cons, decodeDigit_encodeDigit (small digit mem_cons_self),
      ih (fun digit member => small digit (mem_cons_of_mem _ member))]
    rfl

end Digits

section Quanta

theorem bigEndian_eq_map (width value : ℕ) :
    Bytes.bigEndian width value = (digits 256 width value).map UInt8.ofNat := by
  induction width with
  | zero => rfl
  | succ width ih =>
    rw [Bytes.bigEndian, Positional.digits, ih, map_cons]
    congr 1
    refine UInt8.toNat_inj.mp ?_
    rw [UInt8.toNat_ofNat', UInt8.toNat_ofNat', Nat.mod_mod]

/-- A group of bytes is read back from its digits. -/
theorem decodeQuantum_encodeQuantum {bytes : List UInt8} (few : bytes.length ≤ 5) :
    decodeQuantum (encodeQuantum bytes) = some bytes := by
  have small : ∀ digit ∈ bytes.map UInt8.toNat, digit < 256 := by
    intro digit member
    obtain ⟨byte, _, rfl⟩ := List.mem_map.mp member
    exact byte.toNat_lt
  have length_map : (bytes.map UInt8.toNat).length = bytes.length := List.length_map _
  have bound := Positional.value_lt small
  rw [length_map] at bound
  generalize shown_eq : (8 * bytes.length + 4) / 5 = shown
  have shown_le : shown ≤ 8 := by omega
  have padded : Positional.value 256
      (bytes.map UInt8.toNat ++ List.replicate (5 - bytes.length) 0) =
      Positional.value 256 (bytes.map UInt8.toNat) * 256 ^ (5 - bytes.length) := by
    rw [Positional.value_append, Positional.value_replicate_zero, List.length_replicate,
      Nat.add_zero]
  have fits : Positional.value 256 (bytes.map UInt8.toNat) * 256 ^ (5 - bytes.length) < 32 ^ 8 := by
    calc Positional.value 256 (bytes.map UInt8.toNat) * 256 ^ (5 - bytes.length)
      _ < 256 ^ bytes.length * 256 ^ (5 - bytes.length) :=
          Nat.mul_lt_mul_of_pos_right bound (Nat.pow_pos (by decide))
      _ = 32 ^ 8 := by
          rw [← Nat.pow_add, Nat.add_sub_cancel' few]
          rfl
  -- The digits that are not shown are zero.
  have divides : 32 ^ (8 - shown) ∣
      Positional.value 256 (bytes.map UInt8.toNat) * 256 ^ (5 - bytes.length) := by
    have each : ∀ length ≤ 5, 32 ^ (8 - (8 * length + 4) / 5) ∣ 256 ^ (5 - length) := by decide
    have divides := each bytes.length few
    rw [shown_eq] at divides
    exact Dvd.dvd.mul_left divides _
  generalize written_eq :
    Positional.value 256 (bytes.map UInt8.toNat) * 256 ^ (5 - bytes.length) = written
      at padded fits divides
  have digits_eq : encodeQuantum bytes =
      (Positional.digits 32 shown (written / 32 ^ (8 - shown))).map encodeDigit := by
    have split := Positional.digits_append 32 shown (8 - shown) written
    rw [Nat.add_sub_cancel' shown_le] at split
    unfold encodeQuantum
    rw [padded, shown_eq, split, List.take_left' (Positional.length_digits _ _ _)]
  unfold decodeQuantum
  rw [digits_eq, mapM_decodeDigit (Positional.digits_lt 32 (by decide) _ _), List.length_map,
    Positional.length_digits]
  change some ((Bytes.bigEndian 5 _).take _) = some bytes
  have restored : Positional.value 32
      (Positional.digits 32 shown (written / 32 ^ (8 - shown))) * 32 ^ (8 - shown) = written := by
    rw [Positional.value_digits, Nat.mod_eq_of_lt ?_, Nat.div_mul_cancel divides]
    rw [Nat.div_lt_iff_lt_mul (Nat.pow_pos (by decide)), ← Nat.pow_add, Nat.add_sub_cancel' shown_le]
    exact fits
  have kept : (43 - 5 * (8 - shown)) / 8 = bytes.length := by omega
  have split := Positional.digits_append 256 bytes.length (5 - bytes.length) written
  rw [Nat.add_sub_cancel' few] at split
  rw [restored, kept, bigEndian_eq_map, split, List.map_append, List.take_left' (by
    rw [List.length_map, Positional.length_digits])]
  have quotient : written / 256 ^ (5 - bytes.length) =
      Positional.value 256 (bytes.map UInt8.toNat) := by
    rw [← written_eq, Nat.mul_div_cancel _ (Nat.pow_pos (by decide))]
  have same := digits_value small
  rw [length_map] at same
  rw [quotient, same, map_map]
  congr 1
  refine map_id'' ?_ bytes
  intro byte
  exact UInt8.ofNat_toNat

theorem length_encodeQuantum {bytes : List UInt8} (few : bytes.length ≤ 5) :
    (encodeQuantum bytes).length = (8 * bytes.length + 4) / 5 := by
  unfold encodeQuantum
  rw [length_map, length_take, Positional.length_digits]
  omega

end Quanta

section Texts

theorem decodeDigits_append {text rest : List Char} (full : text.length = 8) :
    decodeDigits (text ++ rest) = (do
      let bytes ← decodeQuantum text
      let more ← decodeDigits rest
      pure (bytes ++ more)) := by
  match text, full with
  | [_, _, _, _, _, _, _, _], _ => rfl

theorem decodeDigits_of_short {text : List Char} (short : text.length < 8) :
    decodeDigits text = decodeQuantum text := by
  unfold decodeDigits
  split
  · simp only [length_cons] at short
    omega
  · rfl

theorem groups_induction {motive : List UInt8 → Prop}
    (short : ∀ bytes, bytes.length < 5 → encodeDigits bytes = encodeQuantum bytes → motive bytes)
    (full : ∀ group rest, group.length = 5 →
      encodeDigits (group ++ rest) = encodeQuantum group ++ encodeDigits rest → motive rest →
      motive (group ++ rest)) (bytes : List UInt8) : motive bytes := by
  induction bytes using encodeDigits.induct with
  | case1 first second third fourth fifth rest ih =>
    exact full [first, second, third, fourth, fifth] rest rfl rfl ih
  | case2 bytes few =>
    have small : bytes.length < 5 := by
      by_contra long
      obtain ⟨group, rest, rfl, five⟩ : ∃ group rest, bytes = group ++ rest ∧ group.length = 5 :=
        ⟨bytes.take 5, bytes.drop 5, (take_append_drop 5 bytes).symm, by
          rw [length_take]
          omega⟩
      match group, five with
      | [_, _, _, _, _], _ => exact few _ _ _ _ _ _ rfl
    refine short bytes small ?_
    unfold encodeDigits
    split
    · exact (few _ _ _ _ _ _ rfl).elim
    · rfl

theorem decodeDigits_encodeDigits (bytes : List UInt8) :
    decodeDigits (encodeDigits bytes) = some bytes := by
  induction bytes using groups_induction with
  | short bytes few same =>
    rw [same, decodeDigits_of_short, decodeQuantum_encodeQuantum (by omega)]
    rw [length_encodeQuantum (by omega)]
    omega
  | full group rest five same ih =>
    have eight : (encodeQuantum group).length = 8 := by
      rw [length_encodeQuantum (by omega), five]
    rw [same, decodeDigits_append eight, decodeQuantum_encodeQuantum (by omega), ih]
    rfl

theorem padding_encodeDigits (bytes : List UInt8) :
    padding (encodeDigits bytes).length ∈ [0, 1, 3, 4, 6] := by
  induction bytes using groups_induction with
  | short bytes few same =>
    rw [same, length_encodeQuantum (by omega)]
    have each : ∀ length < 5, padding ((8 * length + 4) / 5) ∈ [0, 1, 3, 4, 6] := by decide
    exact each bytes.length few
  | full group rest five same ih =>
    have eight : (encodeQuantum group).length = 8 := by
      rw [length_encodeQuantum (by omega), five]
    unfold padding at ih ⊢
    rw [same, length_append, eight, Nat.add_mod_left]
    exact ih

theorem mem_encodeDigits (bytes : List UInt8) : ∀ letter ∈ encodeDigits bytes, letter ∈ alphabet := by
  have quantum : ∀ bytes, ∀ letter ∈ encodeQuantum bytes, letter ∈ alphabet := by
    intro bytes letter member
    obtain ⟨digit, _, rfl⟩ := mem_map.mp member
    exact encodeDigit_mem digit
  induction bytes using groups_induction with
  | short bytes _ same =>
    rw [same]
    exact quantum bytes
  | full group rest _ same ih =>
    intro letter member
    rw [same] at member
    rcases mem_append.mp member with member | member
    · exact quantum group letter member
    · exact ih letter member

/-- Padding is stripped off a text without any. -/
theorem rdropWhile_replicate {letters : List Char} (plain : ∀ letter ∈ letters, letter ≠ '=')
    (count : ℕ) : (letters ++ replicate count '=').rdropWhile (· = '=') = letters := by
  induction count with
  | zero =>
    rw [replicate_zero, append_nil, rdropWhile_eq_self_iff]
    intro nonempty
    rw [decide_eq_true_eq]
    exact plain _ (getLast_mem nonempty)
  | succ count ih =>
    rw [replicate_succ', ← append_assoc, rdropWhile_concat_pos _ _ _ rfl, ih]

/-- **Padded digits are decoded to their bytes.** -/
theorem b32decode_encodeDigits (bytes : List UInt8) : b32decode (encodeDigits bytes ++
      replicate (padding (encodeDigits bytes).length) '=') = .ok bytes := by
  have ascii : ∀ letter ∈ alphabet, (127 < letter.toNat) = False ∧ letter ≠ '=' := by
    have all : (alphabet.all fun letter =>
        decide (¬ 127 < letter.toNat ∧ letter ≠ '=')) = true := by decide +kernel
    intro letter member
    have plain := of_decide_eq_true (all_eq_true.mp all letter member)
    exact ⟨eq_false plain.1, plain.2⟩
  have stripped : (encodeDigits bytes ++ replicate (padding (encodeDigits bytes).length)
      '=').rdropWhile (· = '=') = encodeDigits bytes :=
    rdropWhile_replicate (fun letter member => (ascii letter (mem_encodeDigits bytes letter member)).2) _
  have plain : (encodeDigits bytes ++ replicate (padding (encodeDigits bytes).length)
      '=').any (127 < ·.toNat) = false := by
    rw [any_eq_false]
    intro letter member
    rcases mem_append.mp member with member | member
    · simp only [(ascii letter (mem_encodeDigits bytes letter member)).1, decide_false,
        Bool.false_eq_true, not_false_eq_true]
    · rw [(mem_replicate.mp member).2]
      decide
  have whole : (encodeDigits bytes ++ replicate (padding (encodeDigits bytes).length)
      '=').length % 8 = 0 := by
    rw [length_append, length_replicate]
    unfold padding
    omega
  unfold b32decode
  rw [plain, if_neg Bool.false_ne_true, whole, if_neg (not_not.mpr rfl)]
  dsimp only
  rw [stripped, decodeDigits_encodeDigits]
  dsimp only
  rw [length_append, length_replicate, Nat.add_sub_cancel_left, if_pos (padding_encodeDigits bytes)]

end Texts

end Base32
