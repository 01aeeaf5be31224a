import Kestrel.Base.Base32
import Kestrel.Base.Except
import Kestrel.Base.Sha256
import Mathlib.Data.Int.Notation
import Mathlib.Tactic.SplitIfs

/-!
# The parts of CAR v1 archives

Varints, multihashes, CIDs and their text form, and the header of an archive. Objects of dag-cbor
are encoded and decoded by `cbor2`.
-/

namespace Kestrel.Car

inductive CarError where
  | value (message : String)
  | unsupportedPrefix (character : Char)
  | binascii (message : String)
  | index
  | type
  | key
  | attribute
  | encode
  | decode
  deriving DecidableEq, Repr

def codecRaw : ℕ := 0x55

def codecDagCbor : ℕ := 0x71

def hashSha2256 : ℕ := 0x12

def hashSha2256Length : ℕ := 32

def cidVersion1 : ℕ := 0x01

def cborTagCid : ℕ := 42

/-- `data[start:stop]`. -/
def slice (data : List UInt8) (start stop : ℕ) : List UInt8 := (data.drop start).take (stop - start)

section Varints

def encodeVarint (n : ℕ) : List UInt8 :=
  if 0x80 ≤ n then UInt8.ofNat ((n &&& 0x7F) ||| 0x80) :: encodeVarint (n >>> 7)
  else [UInt8.ofNat (n &&& 0x7F)]
termination_by n
decreasing_by
  rw [Nat.shiftRight_eq_div_pow]
  omega

/-- The loop of `decode_varint` on the bytes from a position on. -/
def decodeVarintFrom : List UInt8 → ℕ → ℕ → ℕ → Except CarError (ℕ × ℕ)
  | [], _, _, _ => .error (.value "Unexpected end of data while decoding varint")
  | byte :: rest, result, shift, pos =>
    let result := result ||| (byte.toNat &&& 0x7F) <<< shift
    if byte.toNat &&& 0x80 = 0 then .ok (result, pos + 1)
    else if 63 < shift + 7 then .error (.value "Varint too long")
    else decodeVarintFrom rest result (shift + 7) (pos + 1)

def decodeVarint (data : List UInt8) (offset : ℕ) : Except CarError (ℕ × ℕ) :=
  decodeVarintFrom (data.drop offset) 0 0 offset

theorem decodeVarintFrom_lt {rest : List UInt8} {result shift pos value next : ℕ}
    (decoded : decodeVarintFrom rest result shift pos = .ok (value, next)) : pos < next := by
  induction rest generalizing result shift pos with
  | nil => cases decoded
  | cons byte rest ih =>
    unfold decodeVarintFrom at decoded
    split_ifs at decoded
    · cases decoded
      exact Nat.lt_succ_self pos
    · exact Nat.lt_of_succ_lt (ih decoded)

theorem decodeVarint_lt {data : List UInt8} {offset value next : ℕ}
    (decoded : decodeVarint data offset = .ok (value, next)) : offset < next :=
  decodeVarintFrom_lt decoded

end Varints

section Texts

/-- `str.upper` of the characters whose upper case is in ASCII. -/
def upper (character : Char) : List Char :=
  match character.toNat with
  | 0xDF => ['S', 'S']
  | 0x131 => ['I']
  | 0x17F => ['S']
  | 0xFB00 => ['F', 'F']
  | 0xFB01 => ['F', 'I']
  | 0xFB02 => ['F', 'L']
  | 0xFB03 => ['F', 'F', 'I']
  | 0xFB04 => ['F', 'F', 'L']
  | 0xFB05 => ['S', 'T']
  | 0xFB06 => ['S', 'T']
  | _ => [character.toUpper]

def base32Encode (data : List UInt8) : List Char :=
  ((Base32.b32encode data).map Char.toLower).rdropWhile (· = '=')

def base32Decode (text : List Char) : Except CarError (List UInt8) :=
  (Base32.b32decode (text.flatMap upper ++ List.replicate (Base32.padding text.length) '=')).mapError
    .binascii

end Texts

section Cids

variable (sha256 : Sha256)

def multihashFromSha256 (digest : List UInt8) : Except CarError (List UInt8) :=
  if digest.length ≠ hashSha2256Length then .error (.value "sha2-256 digest must be 32 bytes")
  else .ok (encodeVarint hashSha2256 ++ encodeVarint hashSha2256Length ++ digest)

def verifyMultihash (multihash data : List UInt8) : Except CarError Bool := do
  let (hashCode, pos) ← decodeVarint multihash 0
  if hashCode ≠ hashSha2256 then
    .error (.value ("Unsupported hash function: 0x" ++
      String.ofList ((Nat.toDigits 16 hashCode).leftpad 2 '0')))
  else do
    let (digestLength, pos) ← decodeVarint multihash pos
    if digestLength ≠ hashSha2256Length then .error (.value ("Unexpected digest length: " ++ toString digestLength))
    else
      let expectedDigest := slice multihash pos (pos + digestLength)
      pure (expectedDigest = sha256.digest data)

def cidBytesFromSha256 (codec : ℕ) (digest : List UInt8) : Except CarError (List UInt8) := do
  let multihash ← multihashFromSha256 digest
  pure (UInt8.ofNat cidVersion1 :: encodeVarint codec ++ multihash)

def buildCidBytes (codec : ℕ) (data : List UInt8) : Except CarError (List UInt8) :=
  cidBytesFromSha256 codec (sha256.digest data)

def cidBytesToString (cidBytes : List UInt8) : String :=
  String.ofList ('b' :: base32Encode cidBytes)

def cidStringToBytes (cid : String) : Except CarError (List UInt8) :=
  match cid.toList with
  | [] => .error .index
  | character :: text =>
    if character = 'b' then base32Decode text else .error (.unsupportedPrefix character)

def parseCidFromBytes (data : List UInt8) (start : ℕ) :
    Except CarError (List UInt8 × ℕ) := do
  let (version, offset) ← decodeVarint data start
  if version ≠ cidVersion1 then .error (.value ("Unsupported CID version: " ++ toString version))
  else do
    let (_, offset) ← decodeVarint data offset
    let (_, offset) ← decodeVarint data offset
    let (digestLength, offset) ← decodeVarint data offset
    pure (slice data start (offset + digestLength), offset + digestLength)

end Cids

/-- The objects of dag-cbor. A map has its entries in canonical order. -/
inductive Value (Other : Type) where
  | integer (value : ℤ)
  | bytes (value : List UInt8)
  | text (value : String)
  | array (values : List (Value Other))
  | map (entries : List (Value Other × Value Other))
  | tag (number : ℕ) (value : Value Other)
  | other (value : Other)

/-- The package `cbor2`, with what the reader asks of objects of other types. -/
structure Cbor2 (Other : Type) where
  dumps : Value Other → Except CarError (List UInt8)
  loads : List UInt8 → Except CarError (Value Other)
  equalsInteger : Other → ℤ → Bool
  isFalse : Other → Bool

section Objects

variable {Other : Type} (cbor2 : Cbor2 Other)

def makeCidLink (cidBytes : List UInt8) : Value Other := .tag cborTagCid (.bytes (0x00 :: cidBytes))

def headerObject (rootCidBytes : List UInt8) : Value Other :=
  .map [(.text "roots", .array [makeCidLink rootCidBytes]), (.text "version", .integer 1)]

def carHeader (rootCidBytes : List UInt8) : Except CarError (List UInt8) := do
  let headerBytes ← cbor2.dumps (headerObject rootCidBytes)
  pure (encodeVarint headerBytes.length ++ headerBytes)

def carBlockPrefix (cidBytes : List UInt8) (dataLength : ℕ) : List UInt8 :=
  encodeVarint (cidBytes.length + dataLength) ++ cidBytes

def singleRawBlockCarPrefix (sha256Digest : List UInt8) (dataLength : ℕ) :
    Except CarError (List UInt8 × String) := do
  let cidBytes ← cidBytesFromSha256 codecRaw sha256Digest
  let header ← carHeader cbor2 cidBytes
  pure (header ++ carBlockPrefix cidBytes dataLength, cidBytesToString cidBytes)

def Value.equalsInteger (number : ℤ) : Value Other → Bool
  | .integer value => value = number
  | .other value => cbor2.equalsInteger value number
  | .bytes _ | .text _ | .array _ | .map _ | .tag _ _ => false

def Value.equalsText (text : String) : Value Other → Bool
  | .text value => value = text
  | .integer _ | .bytes _ | .array _ | .map _ | .tag _ _ | .other _ => false

/-- `header.get(key)` of a map. -/
def get (entries : List (Value Other × Value Other)) (key : String) : Option (Value Other) :=
  (entries.find? fun entry => entry.1.equalsText key).map Prod.snd

/-- `roots[0]` of roots that are not false. -/
def firstRoot : Value Other → Except CarError (Value Other)
  | .array (root :: _) => .ok root
  | .bytes (byte :: _) => .ok (.integer byte.toNat)
  | .text value =>
    match value.toList with
    | character :: _ => .ok (.text (String.ofList [character]))
    | [] => .error (.value "CAR file has no roots")
  | .map (entry :: entries) =>
    match (entry :: entries).find? fun entry => entry.1.equalsInteger cbor2 0 with
    | some found => .ok found.2
    | none => .error .key
  | .array [] | .bytes [] | .map [] => .error (.value "CAR file has no roots")
  | .integer value => if value = 0 then .error (.value "CAR file has no roots") else .error .type
  | .tag _ _ => .error .type
  | .other value =>
    if cbor2.isFalse value then .error (.value "CAR file has no roots") else .error .type

/-- The root that a header names. -/
def rootCidBytes : Value Other → Except CarError (List UInt8)
  | .tag number value =>
    if number = cborTagCid then
      match value with
      | .bytes value => .ok value.tail
      | .integer _ | .text _ | .array _ | .map _ | .tag _ _ | .other _ => .error .type
    else .error (.value "Unexpected root CID type")
  | .bytes value => .ok value
  | .integer _ | .text _ | .array _ | .map _ | .other _ =>
    .error (.value "Unexpected root CID type")

def headerRoot (header : Value Other) : Except CarError (List UInt8) :=
  match header with
  | .map entries =>
    if (get entries "version").any (·.equalsInteger cbor2 1) then do
      let root ← firstRoot cbor2 ((get entries "roots").getD (.array []))
      rootCidBytes root
    else .error (.value "Unsupported CAR version")
  | .integer _ | .bytes _ | .text _ | .array _ | .tag _ _ | .other _ => .error .attribute

end Objects

end Kestrel.Car
