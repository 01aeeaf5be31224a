import Kestrel.Identity.Material
import Kestrel.Storage.CarFormat
import Mathlib.Data.List.DropRight
import Mathlib.Data.Nat.Digits.Defs

/-!
# Signature arrays

The one verifier of `{alg, kid, sig}` arrays against W3C Multikey verification methods, and the
policies that decide about what it verified. A malformed entry is a rejection, never an exception.
The texts of diagnostics are left out.
-/

namespace Kestrel.Identity

section Multikey

/-- A pluggable signature suite. -/
structure CryptoSuite (Key : Type) where
  algId : String
  publicKeyMulticodec : List UInt8
  isPostQuantum : Bool
  deserializePublicKeyFromMultikey : List UInt8 → Option Key
  verify : List UInt8 → List UInt8 → Key → Bool

structure Registry (Key : Type) where
  suites : List (CryptoSuite Key)
  nodup : (suites.map (·.algId)).Nodup

def base58Alphabet : List Char :=
  "123456789ABCDEFGHJKLMNPQRSTUVWXYZabcdefghijkmnopqrstuvwxyz".toList

def base58Value : ℕ → List Char → Option ℕ
  | value, [] => some value
  | value, character :: text =>
    if character ∈ base58Alphabet then
      base58Value (value * 58 + base58Alphabet.idxOf character) text
    else none

def base58btcDecode (text : List Char) : Option (List UInt8) :=
  (base58Value 0 text).map fun value =>
    List.replicate (text.takeWhile (· = '1')).length 0 ++
      (Nat.digits 256 value).reverse.map UInt8.ofNat

/-- `_decode_multikey_payload`: the codec's bytes and the key's. Its varints are those of
archives. -/
def decodeMultikeyPayload (multibase : String) : Option (List UInt8 × List UInt8) :=
  match multibase.toList with
  | 'z' :: text => do
    let raw ← base58btcDecode text
    guard (raw ≠ [])
    let (_, consumed) ← (Car.decodeVarint raw 0).toOption
    pure (raw.take consumed, raw.drop consumed)
  | _ => none

def multibaseToPublicKey {Key : Type} (registry : Registry Key) (multibase : String) :
    Option (CryptoSuite Key × Key) := do
  let (codec, publicKey) ← decodeMultikeyPayload multibase
  let suite ← registry.suites.find? fun suite => suite.publicKeyMulticodec = codec
  let key ← suite.deserializePublicKeyFromMultikey publicKey
  pure (suite, key)

end Multikey

variable {Other Key : Type}

section Methods

/-- What is wrong with a set of verification methods, or with a container. -/
inductive Finding where
  | notList
  | notObject (index : ℕ)
  | idNotText (index : ℕ)
  | duplicateKid (kid : String)
  deriving DecidableEq, Repr

def verificationMethodKid (vmId : String) : String :=
  String.ofList (vmId.toList.rtakeWhile (· ≠ '#'))

/-- Verification methods by their kids, in their order, and what is wrong with them. -/
structure VerificationMethodIndex (Other : Type) where
  methods : List (String × List (String × Value Other))
  fatal : List Finding

def VerificationMethodIndex.get (index : VerificationMethodIndex Other) (kid : String) :
    Option (List (String × Value Other)) :=
  (index.methods.find? fun method => method.1 = kid).map Prod.snd

def VerificationMethodIndex.add (index : VerificationMethodIndex Other) (position : ℕ)
    (vm : Value Other) : VerificationMethodIndex Other :=
  match vm.object? with
  | none => { index with fatal := index.fatal ++ [.notObject position] }
  | some entries =>
    match Value.get entries "id" with
    | .null => index
    | .text vmId =>
      let kid := verificationMethodKid vmId
      if kid = "" then index
      else if (index.get kid).isSome then
        { index with fatal := index.fatal ++ [.duplicateKid kid] }
      else { index with methods := index.methods ++ [(kid, entries)] }
    | .boolean _ | .integer _ | .other _ | .array _ | .object _ =>
      { index with fatal := index.fatal ++ [.idNotText position] }

def VerificationMethodIndex.addAll (index : VerificationMethodIndex Other) :
    ℕ → List (Value Other) → VerificationMethodIndex Other
  | _, [] => index
  | position, vm :: vms => (index.add position vm).addAll (position + 1) vms

def indexVerificationMethods (verificationMethods : Value Other) : VerificationMethodIndex Other :=
  match verificationMethods.array? with
  | none => ⟨[], [.notList]⟩
  | some vms => VerificationMethodIndex.addAll ⟨[], []⟩ 0 vms

def decodeVerificationMethodKey (registry : Registry Key) (vm : List (String × Value Other)) :
    Option (CryptoSuite Key × Key) := do
  let multibase ← (Value.get vm "publicKeyMultibase").text?
  multibaseToPublicKey registry multibase

end Methods

section Entries

/-- Why a signature entry did not verify. -/
inductive Rejection where
  | notObject
  | field (name : String)
  | unknownKid (kid : String)
  | undecodable (kid : String)
  | otherAlgorithm (kid : String)
  | notHex (kid : String)
  | unverified (kid : String)
  deriving DecidableEq, Repr

def hexValue? (digit : Char) : Option ℕ :=
  if '0' ≤ digit ∧ digit ≤ '9' then some (digit.toNat - 48)
  else if 'a' ≤ digit ∧ digit ≤ 'f' then some (digit.toNat - 87)
  else if 'A' ≤ digit ∧ digit ≤ 'F' then some (digit.toNat - 55)
  else none

def fromHex : List Char → Option (List UInt8)
  | [] => some []
  | first :: rest =>
    if first ∈ [' ', '\t', '\n', '\r', Char.ofNat 11, Char.ofNat 12] then fromHex rest
    else
      match rest with
      | [] => none
      | second :: rest => do
        let high ← hexValue? first
        let low ← hexValue? second
        let bytes ← fromHex rest
        pure (UInt8.ofNat (16 * high + low) :: bytes)

def requiredField (entries : List (String × Value Other)) (name : String) :
    Except Rejection String :=
  match (Value.get entries name).text? with
  | some value => if value = "" then .error (.field name) else .ok value
  | none => .error (.field name)

def checkEntry (registry : Registry Key) (data : List UInt8)
    (methods : VerificationMethodIndex Other) (entry : Value Other) : Except Rejection Unit :=
  match entry.object? with
  | none => .error .notObject
  | some fields => do
    let alg ← requiredField fields "alg"
    let kid ← requiredField fields "kid"
    let sigHex ← requiredField fields "sig"
    match methods.get kid with
    | none => .error (.unknownKid kid)
    | some vm =>
      match decodeVerificationMethodKey registry vm with
      | none => .error (.undecodable kid)
      | some (suite, publicKey) =>
        if suite.algId ≠ alg then .error (.otherAlgorithm kid)
        else
          match fromHex sigHex.toList with
          | none => .error (.notHex kid)
          | some sigBytes =>
            if suite.verify data sigBytes publicKey then .ok ()
            else .error (.unverified kid)

structure SignatureVerification (Other : Type) where
  verified : List (Value Other)
  rejected : List (ℕ × Rejection)
  fatal : List Finding

def SignatureVerification.checkAll (registry : Registry Key) (data : List UInt8)
    (methods : VerificationMethodIndex Other) (verification : SignatureVerification Other) :
    ℕ → List (Value Other) → SignatureVerification Other
  | _, [] => verification
  | position, entry :: entries =>
    let next := match checkEntry registry data methods entry with
      | .ok () => { verification with verified := verification.verified ++ [entry] }
      | .error rejection =>
        { verification with rejected := verification.rejected ++ [(position, rejection)] }
    next.checkAll registry data methods (position + 1) entries

def verifySignatureEntries (registry : Registry Key) (data : List UInt8)
    (signatures verificationMethods : Value Other) : SignatureVerification Other :=
  let index := indexVerificationMethods verificationMethods
  match signatures.array? with
  | none => ⟨[], [], index.fatal ++ [.notList]⟩
  | some entries =>
    if index.fatal ≠ [] then ⟨[], [], index.fatal⟩
    else SignatureVerification.checkAll registry data index ⟨[], [], []⟩ 0 entries

end Entries

section Policies

/-- Policy for accepting signatures. -/
inductive VerifyPolicy where
  | legacyAllowed
  | hybridRequired
  | pqRequired
  deriving DecidableEq, Repr

/-- Outcome of a policy on a set of signatures. -/
structure PolicyResult where
  ok : Bool
  algIdsSeen : List String
  deriving DecidableEq, Repr

def classify (registry : Registry Key) (algId : String) : Option Bool :=
  (registry.suites.find? fun suite => suite.algId = algId).map (·.isPostQuantum)

def satisfies (policy : VerifyPolicy) (postCutoffClassicalAllowed : Bool)
    (kinds : List (Option Bool)) : Bool :=
  if kinds = [] then false
  else if none ∈ kinds then false
  else if ¬ postCutoffClassicalAllowed ∧ some true ∉ kinds then false
  else
    match policy with
    | .legacyAllowed => true
    | .hybridRequired => some false ∈ kinds ∧ some true ∈ kinds
    | .pqRequired => some true ∈ kinds

/-- `evaluate_signatures`, on the algorithms of the entries. -/
def evaluateSignatures (registry : Registry Key) (algs : List String) (policy : VerifyPolicy)
    (postCutoffClassicalAllowed : Bool) : PolicyResult :=
  if "" ∈ algs then ⟨false, algs.takeWhile (· ≠ "")⟩
  else ⟨satisfies policy postCutoffClassicalAllowed (algs.map (classify registry)), algs⟩

/-- The algorithm that a verified entry names. -/
def entryAlg (entry : Value Other) : String :=
  ((entry.object?.bind fun fields => (Value.get fields "alg").text?)).getD ""

def SignatureVerification.evaluate (verification : SignatureVerification Other)
    (registry : Registry Key) (policy : VerifyPolicy) (postCutoffClassicalAllowed : Bool) :
    PolicyResult :=
  if verification.fatal ≠ [] then ⟨false, []⟩
  else
    evaluateSignatures registry (verification.verified.map entryAlg) policy
      postCutoffClassicalAllowed

end Policies

end Kestrel.Identity
