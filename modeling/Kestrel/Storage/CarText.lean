import Kestrel.Storage.CarFormat
import Mathlib.Tactic.Ring

/-!
# Varints and CIDs read back

A varint is read back at every offset, and what was read of a prefix is read of every
continuation. The text form of a CID is read back to its bytes.
-/

namespace Kestrel.Car

open List Nat Base32

section Varints

variable {data data' rest : List UInt8} {n offset value next : ℕ}

theorem low_bits (n : ℕ) : n &&& 0x7F = n % 128 := and_two_pow_sub_one_eq_mod n 7

theorem continued (n : ℕ) : (UInt8.ofNat ((n &&& 0x7F) ||| 0x80)).toNat = n % 128 + 128 := by
  have small : n % 128 < 2 ^ 7 := mod_lt n (by decide)
  have joined : n % 128 ||| 0x80 = n % 128 + 128 := by
    rw [Nat.or_comm, Nat.add_comm]
    exact (two_pow_add_eq_or_of_lt small 1).symm
  rw [low_bits, joined, UInt8.toNat_ofNat']
  omega

theorem byte_bits {byte : ℕ} (small : byte < 256) :
    (byte &&& 0x80 = 0 ↔ byte < 128) ∧ byte &&& 0x7F = byte % 128 := by
  have all : ∀ byte : Fin 256, (byte.val &&& 0x80 = 0 ↔ byte.val < 128) := by decide +kernel
  exact ⟨all ⟨byte, small⟩, low_bits byte⟩

theorem join_bits {result shift : ℕ} (small : result < 2 ^ shift) (group : ℕ) :
    result ||| group <<< shift = result + 2 ^ shift * group := by
  rw [Nat.shiftLeft_eq, Nat.mul_comm, Nat.or_comm, ← Nat.two_pow_add_eq_or_of_lt small,
    add_comm]

theorem decodeVarintFrom_encodeVarint (n groups result pos : ℕ) (few : groups ≤ 9)
    (bounded : n < 2 ^ (7 * (10 - groups))) (small : result < 2 ^ (7 * groups)) :
    decodeVarintFrom (encodeVarint n ++ rest) result (7 * groups) pos =
      .ok (result + 2 ^ (7 * groups) * n, pos + (encodeVarint n).length) := by
  induction n using encodeVarint.induct generalizing groups result pos with
  | case1 n large ih =>
    rw [encodeVarint, if_pos large, cons_append, decodeVarintFrom]
    have byte := continued n
    rw [byte, (byte_bits (by omega)).2, add_mod_right, mod_mod, join_bits small,
      if_neg (fun final => by
        have small : n % 128 + 128 < 256 := by omega
        have low := (byte_bits small).1.mp final
        omega)]
    have more : groups ≤ 8 := by
      by_contra all
      have nine : groups = 9 := by omega
      subst nine
      exact absurd bounded (by omega)
    have split : 2 ^ (7 * (10 - groups)) = 2 ^ (7 * (10 - (groups + 1))) * 128 := by
      rw [show 7 * (10 - groups) = 7 * (10 - (groups + 1)) + 7 by omega, Nat.pow_add]
    have shifted : n >>> 7 = n / 128 := Nat.shiftRight_eq_div_pow n 7
    have power : 2 ^ (7 * (groups + 1)) = 2 ^ (7 * groups) * 128 := by
      rw [Nat.mul_add, Nat.pow_add]
    have group := Nat.mod_lt n (show 0 < 128 by decide)
    rw [if_neg (by omega), show 7 * groups + 7 = 7 * (groups + 1) by omega,
      ih (groups + 1) _ (pos + 1) (by omega) ?_ ?_, shifted, power, length_cons]
    · congr 2
      · have whole := Nat.div_add_mod n 128
        calc result + 2 ^ (7 * groups) * (n % 128) + 2 ^ (7 * groups) * 128 * (n / 128)
          _ = result + 2 ^ (7 * groups) * (128 * (n / 128) + n % 128) := by ring
          _ = result + 2 ^ (7 * groups) * n := by rw [whole]
      · omega
    · rw [shifted, div_lt_iff_lt_mul (by decide), ← split]
      exact bounded
    · rw [power]
      calc result + 2 ^ (7 * groups) * (n % 128)
        _ < 2 ^ (7 * groups) + 2 ^ (7 * groups) * (n % 128) := Nat.add_lt_add_right small _
        _ = 2 ^ (7 * groups) * (n % 128 + 1) := by ring
        _ ≤ 2 ^ (7 * groups) * 128 := mul_le_mul_left _ group
  | case2 n few_bits =>
    have final : n < 128 := by omega
    have byte : (UInt8.ofNat (n &&& 0x7F)).toNat = n := by
      rw [low_bits, UInt8.toNat_ofNat']
      omega
    rw [encodeVarint, if_neg few_bits, singleton_append, decodeVarintFrom]
    rw [byte, (byte_bits (by omega)).2, mod_eq_of_lt final, join_bits small,
      if_pos ((byte_bits (by omega)).1.mpr final)]
    rfl

/-- **A varint is read back at every offset.** -/
theorem decodeVarint_encodeVarint (found : data.drop offset = encodeVarint n ++ rest)
    (bounded : n < 2 ^ 70) :
    decodeVarint data offset = .ok (n, offset + (encodeVarint n).length) := by
  unfold decodeVarint
  rw [found]
  have read := @decodeVarintFrom_encodeVarint rest n 0 0 offset (by decide) bounded (by decide)
  rw [mul_zero, pow_zero, one_mul, zero_add] at read
  exact read

/-- What the loop reads it reads of every list that begins the same. -/
theorem decodeVarintFrom_take {result shift pos keep : ℕ}
    (decoded : decodeVarintFrom rest result shift pos = .ok (value, next)) (kept : next ≤ pos + keep) :
    decodeVarintFrom (rest.take keep) result shift pos = .ok (value, next) ∧
      next ≤ pos + rest.length := by
  induction rest generalizing result shift pos keep with
  | nil => cases decoded
  | cons byte rest ih =>
    have advances := decodeVarintFrom_lt decoded
    cases keep with
    | zero => omega
    | succ keep =>
      rw [take_succ_cons]
      unfold decodeVarintFrom at decoded ⊢
      split_ifs at decoded ⊢
      · cases decoded
        rw [length_cons]
        exact ⟨rfl, by omega⟩
      · have kept' : next ≤ pos + 1 + keep := by omega
        obtain ⟨read, within⟩ := ih decoded kept'
        rw [length_cons]
        exact ⟨read, by omega⟩

theorem decodeVarint_take {keep : ℕ} (decoded : decodeVarint data offset = .ok (value, next))
    (kept : next ≤ keep) :
    decodeVarint (data.take keep) offset = .ok (value, next) ∧ next ≤ data.length := by
  unfold decodeVarint at decoded ⊢
  have advances := decodeVarintFrom_lt decoded
  have kept' : next ≤ offset + (keep - offset) := by omega
  obtain ⟨read, within⟩ := decodeVarintFrom_take decoded kept'
  rw [drop_take]
  rw [length_drop] at within
  exact ⟨read, by omega⟩

theorem decodeVarintFrom_shift {result shift pos dropped : ℕ} :
    decodeVarintFrom rest result shift (dropped + pos) =
      (decodeVarintFrom rest result shift pos).map fun read => (read.1, dropped + read.2) := by
  induction rest generalizing result shift pos with
  | nil => rfl
  | cons byte rest ih =>
    unfold decodeVarintFrom
    split_ifs
    · rfl
    · rfl
    · rw [add_assoc]
      exact ih

theorem decodeVarint_drop (dropped : ℕ) : decodeVarint data (dropped + offset) =
      (decodeVarint (data.drop dropped) offset).map fun read => (read.1, dropped + read.2) := by
  unfold decodeVarint
  rw [drop_drop]
  exact decodeVarintFrom_shift

theorem encodeVarint_of_small (small : n < 128) : encodeVarint n = [UInt8.ofNat n] := by
  rw [encodeVarint, if_neg (by omega), low_bits, mod_eq_of_lt small]

end Varints

section Texts

variable {data : List UInt8}

theorem base32Encode_eq (data : List UInt8) :
    base32Encode data = (encodeDigits data).map Char.toLower := by
  have plain : ∀ letter ∈ (encodeDigits data).map Char.toLower, letter ≠ '=' := by
    have all : (alphabet.all fun letter => decide (letter.toLower ≠ '=')) = true := by
      decide +kernel
    intro letter member
    obtain ⟨digit, digit_mem, rfl⟩ := mem_map.mp member
    exact of_decide_eq_true (all_eq_true.mp all digit (mem_encodeDigits data digit digit_mem))
  unfold base32Encode b32encode
  rw [map_append, map_replicate]
  exact rdropWhile_replicate plain _

/-- **The text form of bytes is read back.** -/
theorem base32Decode_base32Encode (data : List UInt8) :
    base32Decode (base32Encode data) = .ok data := by
  have raised : ∀ letters : List Char, (∀ letter ∈ letters, letter ∈ alphabet) →
      (letters.map Char.toLower).flatMap upper = letters := by
    have all : (alphabet.all fun letter =>
        decide (upper letter.toLower = [letter])) = true := by decide +kernel
    intro letters member
    induction letters with
    | nil => rfl
    | cons letter letters ih =>
      have first := of_decide_eq_true (all_eq_true.mp all letter (member letter mem_cons_self))
      rw [map_cons, flatMap_cons, first,
        ih (fun letter found => member letter (mem_cons_of_mem _ found))]
      rfl
  unfold base32Decode
  rw [base32Encode_eq, raised _ (mem_encodeDigits data), length_map, b32decode_encodeDigits]
  rfl

/-- **The text form of a CID is read back.** -/
theorem cidStringToBytes_cidBytesToString (cidBytes : List UInt8) :
    cidStringToBytes (cidBytesToString cidBytes) = .ok cidBytes := by
  unfold cidStringToBytes cidBytesToString
  rw [String.toList_ofList]
  dsimp only
  rw [if_pos rfl, base32Decode_base32Encode]

theorem cidBytesToString_injective : Function.Injective cidBytesToString := by
  intro cidBytes cidBytes' same
  have read := congrArg cidStringToBytes same
  rw [cidStringToBytes_cidBytesToString, cidStringToBytes_cidBytesToString] at read
  exact Except.ok.inj read

end Texts

end Kestrel.Car
