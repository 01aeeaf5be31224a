import Kestrel.Base.Sha256

/-!
# SHA-1

A hash with digests of 20 bytes. Its messages are padded and cut into words as those of SHA-256.
-/

/-- A hash with digests of 20 bytes. -/
structure Sha1 where
  digest : List UInt8 → List UInt8
  length_digest : ∀ bytes, (digest bytes).length = 20

namespace Sha1

section Standard

/-- The five working words, each below `2 ^ 32`. -/
structure Registers where
  a : ℕ
  b : ℕ
  c : ℕ
  d : ℕ
  e : ℕ

def Registers.initial : Registers :=
  ⟨0x67452301, 0xefcdab89, 0x98badcfe, 0x10325476, 0xc3d2e1f0⟩

/-- Rotation of a word to the left. -/
def rotate (value count : ℕ) : ℕ := Sha256.rotate value (32 - count)

def Registers.round (registers : Registers) (stage word : ℕ) : Registers :=
  let ⟨a, b, c, d, e⟩ := registers
  let choice := (b &&& c) ^^^ ((2 ^ 32 - 1 - b) &&& d)
  let parity := b ^^^ c ^^^ d
  let majority := (b &&& c) ^^^ (b &&& d) ^^^ (c &&& d)
  let mixed := match stage with
    | 0 => choice + 0x5a827999
    | 1 => parity + 0x6ed9eba1
    | 2 => majority + 0x8f1bbcdc
    | _ => parity + 0xca62c1d6
  ⟨(rotate a 5 + mixed + e + word) % 2 ^ 32, a, rotate b 30, c, d⟩

/-- The next word of the message schedule, from the last sixteen. -/
def nextWord (window : List ℕ) : ℕ :=
  rotate (window.getD 13 0 ^^^ window.getD 8 0 ^^^ window.getD 2 0 ^^^ window.getD 0 0) 1

def rounds : List ℕ → List ℕ → Registers → Registers
  | [], _, registers => registers
  | index :: indices, window, registers =>
    rounds indices (window.tail ++ [nextWord window])
      (registers.round (index / 20) (window.headD 0))

def Registers.add (left right : Registers) : Registers :=
  ⟨(left.a + right.a) % 2 ^ 32, (left.b + right.b) % 2 ^ 32, (left.c + right.c) % 2 ^ 32,
    (left.d + right.d) % 2 ^ 32, (left.e + right.e) % 2 ^ 32⟩

/-- The registers after a number of blocks of sixteen words. -/
def compress : ℕ → List ℕ → Registers → Registers
  | 0, _, registers => registers
  | blocks + 1, message, registers =>
    compress blocks (message.drop 16)
      (registers.add (rounds (List.range 80) (message.take 16) registers))

def Registers.bytes (registers : Registers) : List UInt8 :=
  [registers.a, registers.b, registers.c, registers.d, registers.e].flatMap (Bytes.bigEndian 4)

/-- `hashlib.sha1`. -/
def standard : Sha1 where
  digest := fun message =>
    (compress ((Sha256.padded message).length / 64) (Sha256.words (Sha256.padded message))
      .initial).bytes
  length_digest := fun message => by
    unfold Registers.bytes
    rw [List.length_flatMap]
    rfl

example : Bytes.hex (standard.digest [0x61, 0x62, 0x63]) =
    "a9993e364706816aba3e25717850c26c9cd0d89d" := by decide +kernel

end Standard

variable (sha1 : Sha1)

/-- `hexdigest()`. -/
def hexdigest (bytes : List UInt8) : String := Bytes.hex (sha1.digest bytes)

theorem length_hexdigest (bytes : List UInt8) : (sha1.hexdigest bytes).length = 40 := by
  unfold hexdigest
  rw [Bytes.length_hex, sha1.length_digest]

end Sha1
