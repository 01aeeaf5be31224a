import Mathlib.Algebra.GroupWithZero.Nat
import Mathlib.Data.List.Basic

/-!
# Byte strings

Texts as UTF-8, numbers as big-endian words, and byte strings as lower-case hexadecimal texts.
-/

namespace Bytes

open List

/-- `str.encode("utf-8")`. -/
def utf8 (text : String) : List UInt8 := text.toByteArray.data.toList

/-- `int.to_bytes(width, "big")` of a value that fits. -/
def bigEndian : ℕ → ℕ → List UInt8
  | 0, _ => []
  | width + 1, value => UInt8.ofNat (value / 256 ^ width) :: bigEndian width value

/-- The hexadecimal digits of a byte. -/
def hexByte (byte : UInt8) : List Char :=
  [(byte.toNat / 16).digitChar, (byte.toNat % 16).digitChar]

/-- `bytes.hex()`. -/
def hex (bytes : List UInt8) : String := String.ofList (bytes.flatMap hexByte)

/-- The digits of a hexadecimal text. -/
def isHexDigit (character : Char) : Bool := "0123456789abcdef".toList.contains character

theorem utf8_injective : Function.Injective utf8 := by
  intro text text' same
  rw [Array.toList_inj] at same
  rw [← String.toByteArray_inj]
  exact ByteArray.ext same

@[simp] theorem length_bigEndian (width value : ℕ) : (bigEndian width value).length = width := by
  induction width with
  | zero => rfl
  | succ width ih => rw [bigEndian, length_cons, ih]

theorem hexByte_injective : Function.Injective hexByte := by
  have all : ∀ digit digit' : Fin 16, digit.val.digitChar = digit'.val.digitChar →
      digit.val = digit'.val := by decide +kernel
  intro byte byte' same
  have bound := byte.toNat_lt
  have bound' := byte'.toNat_lt
  obtain ⟨high, low⟩ := cons.inj same
  have highs := all ⟨byte.toNat / 16, by omega⟩ ⟨byte'.toNat / 16, by omega⟩ high
  have lows := all ⟨byte.toNat % 16, by omega⟩ ⟨byte'.toNat % 16, by omega⟩ (cons.inj low).1
  dsimp only at highs lows
  refine UInt8.toNat_inj.mp ?_
  omega

theorem length_hex (bytes : List UInt8) : (hex bytes).length = 2 * bytes.length := by
  unfold hex
  rw [String.length_ofList, length_flatMap]
  induction bytes with
  | nil => rfl
  | cons byte bytes ih =>
    rw [map_cons, sum_cons, ih, length_cons]
    change 2 + 2 * bytes.length = 2 * (bytes.length + 1)
    omega

theorem hex_injective : Function.Injective hex := by
  intro bytes bytes' same
  have digits := String.ofList_injective same
  clear same
  induction bytes generalizing bytes' with
  | nil =>
    cases bytes' with
    | nil => rfl
    | cons => cases digits
  | cons byte bytes ih =>
    cases bytes' with
    | nil => cases digits
    | cons byte' bytes' =>
      obtain ⟨first, rest⟩ := append_inj digits rfl
      rw [hexByte_injective first, ih rest]

end Bytes
