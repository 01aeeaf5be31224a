import Kestrel.Base.Bytes
import Mathlib.Data.List.Dedup
import Mathlib.Data.Set.Function

/-!
# SHA-256

What is proved about stored digests holds of every hash with digests of 32 bytes. `standard` is
the hash that the programs use.
-/

/-- A hash with digests of 32 bytes. -/
structure Sha256 where
  digest : List UInt8 → List UInt8
  length_digest : ∀ bytes, (digest bytes).length = 32

namespace Sha256

section Standard

def roundConstants : List ℕ :=
  [0x428a2f98, 0x71374491, 0xb5c0fbcf, 0xe9b5dba5, 0x3956c25b, 0x59f111f1, 0x923f82a4, 0xab1c5ed5,
    0xd807aa98, 0x12835b01, 0x243185be, 0x550c7dc3, 0x72be5d74, 0x80deb1fe, 0x9bdc06a7, 0xc19bf174,
    0xe49b69c1, 0xefbe4786, 0x0fc19dc6, 0x240ca1cc, 0x2de92c6f, 0x4a7484aa, 0x5cb0a9dc, 0x76f988da,
    0x983e5152, 0xa831c66d, 0xb00327c8, 0xbf597fc7, 0xc6e00bf3, 0xd5a79147, 0x06ca6351, 0x14292967,
    0x27b70a85, 0x2e1b2138, 0x4d2c6dfc, 0x53380d13, 0x650a7354, 0x766a0abb, 0x81c2c92e, 0x92722c85,
    0xa2bfe8a1, 0xa81a664b, 0xc24b8b70, 0xc76c51a3, 0xd192e819, 0xd6990624, 0xf40e3585, 0x106aa070,
    0x19a4c116, 0x1e376c08, 0x2748774c, 0x34b0bcb5, 0x391c0cb3, 0x4ed8aa4a, 0x5b9cca4f, 0x682e6ff3,
    0x748f82ee, 0x78a5636f, 0x84c87814, 0x8cc70208, 0x90befffa, 0xa4506ceb, 0xbef9a3f7, 0xc67178f2]

/-- The eight working words, each below `2 ^ 32`. -/
structure Registers where
  a : ℕ
  b : ℕ
  c : ℕ
  d : ℕ
  e : ℕ
  f : ℕ
  g : ℕ
  h : ℕ

def Registers.initial : Registers :=
  ⟨0x6a09e667, 0xbb67ae85, 0x3c6ef372, 0xa54ff53a, 0x510e527f, 0x9b05688c, 0x1f83d9ab, 0x5be0cd19⟩

/-- Rotation of a word to the right. -/
def rotate (value count : ℕ) : ℕ := value >>> count ||| value <<< (32 - count) % 2 ^ 32

def Registers.round (registers : Registers) (constant word : ℕ) : Registers :=
  let ⟨a, b, c, d, e, f, g, h⟩ := registers
  let first := h + (rotate e 6 ^^^ rotate e 11 ^^^ rotate e 25) +
    ((e &&& f) ^^^ ((2 ^ 32 - 1 - e) &&& g)) + constant + word
  let second := (rotate a 2 ^^^ rotate a 13 ^^^ rotate a 22) +
    ((a &&& b) ^^^ (a &&& c) ^^^ (b &&& c))
  ⟨(first + second) % 2 ^ 32, a, b, c, (d + first) % 2 ^ 32, e, f, g⟩

/-- The next word of the message schedule, from the last sixteen. -/
def nextWord (window : List ℕ) : ℕ :=
  let early := window.getD 1 0
  let late := window.getD 14 0
  ((rotate late 17 ^^^ rotate late 19 ^^^ late >>> 10) + window.getD 9 0 +
    (rotate early 7 ^^^ rotate early 18 ^^^ early >>> 3) + window.getD 0 0) % 2 ^ 32

def rounds : List ℕ → List ℕ → Registers → Registers
  | [], _, registers => registers
  | constant :: constants, window, registers =>
    rounds constants (window.tail ++ [nextWord window])
      (registers.round constant (window.headD 0))

def Registers.add (left right : Registers) : Registers :=
  ⟨(left.a + right.a) % 2 ^ 32, (left.b + right.b) % 2 ^ 32, (left.c + right.c) % 2 ^ 32,
    (left.d + right.d) % 2 ^ 32, (left.e + right.e) % 2 ^ 32, (left.f + right.f) % 2 ^ 32,
    (left.g + right.g) % 2 ^ 32, (left.h + right.h) % 2 ^ 32⟩

/-- The big-endian words of a message of a multiple of four bytes. -/
def words : List UInt8 → List ℕ
  | first :: second :: third :: fourth :: rest =>
    (first.toNat <<< 24 ||| second.toNat <<< 16 ||| third.toNat <<< 8 ||| fourth.toNat) ::
      words rest
  | _ => []

/-- The registers after a number of blocks of sixteen words. -/
def compress : ℕ → List ℕ → Registers → Registers
  | 0, _, registers => registers
  | blocks + 1, message, registers =>
    compress blocks (message.drop 16)
      (registers.add (rounds roundConstants (message.take 16) registers))

def padded (message : List UInt8) : List UInt8 :=
  message ++ 0x80 :: List.replicate ((119 - message.length % 64) % 64) 0 ++
    Bytes.bigEndian 8 (8 * message.length)

def Registers.bytes (registers : Registers) : List UInt8 :=
  [registers.a, registers.b, registers.c, registers.d, registers.e, registers.f, registers.g,
    registers.h].flatMap (Bytes.bigEndian 4)

/-- `hashlib.sha256`. -/
def standard : Sha256 where
  digest := fun message =>
    (compress ((padded message).length / 64) (words (padded message)) .initial).bytes
  length_digest := fun message => by
    unfold Registers.bytes
    rw [List.length_flatMap]
    rfl

example : Bytes.hex (standard.digest [0x61, 0x62, 0x63]) =
    "ba7816bf8f01cfea414140de5dae2223b00361a396177a9cb410ff61f20015ad" := by decide +kernel

end Standard

section Digests

variable (sha256 : Sha256)

/-- `hexdigest()`. -/
def hexdigest (bytes : List UInt8) : String := Bytes.hex (sha256.digest bytes)

/-- No two of some byte strings have the same digest. -/
def CollisionFree (inputs : Set (List UInt8)) : Prop := Set.InjOn sha256.digest inputs

variable {sha256}

theorem length_hexdigest (bytes : List UInt8) : (sha256.hexdigest bytes).length = 64 := by
  unfold hexdigest
  rw [Bytes.length_hex, sha256.length_digest]

theorem collisionFree_of_nodup {inputs : List (List UInt8)}
    (nodup : (inputs.dedup.map sha256.digest).Nodup) : sha256.CollisionFree {bytes | bytes ∈ inputs} := by
  intro bytes member bytes' member' same
  exact List.inj_on_of_nodup_map nodup (List.mem_dedup.mpr member) (List.mem_dedup.mpr member') same

theorem CollisionFree.eq {inputs : Set (List UInt8)} (free : sha256.CollisionFree inputs)
    {bytes bytes' : List UInt8} (member : bytes ∈ inputs) (member' : bytes' ∈ inputs)
    (same : sha256.hexdigest bytes = sha256.hexdigest bytes') : bytes = bytes' :=
  free member member' (Bytes.hex_injective same)

end Digests

end Sha256
