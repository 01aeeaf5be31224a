import Kestrel.Identity.Signatures

/-!
# Succession statements

A statement rotates an identity to a successor: both sides sign one payload, and each side's
verification methods must belong to its DID. Where an error's or a result's text is only shown, it
is left out.
-/

namespace Kestrel.Identity

variable {Other Key : Type}

/-- An immutable succession-statement record. Its fields are external material. -/
structure SuccessionStatement (Other : Type) where
  predecessorDid : Value Other
  successorDid : Value Other
  effectiveFrom : Value Other
  reason : Value Other
  predecessorVerificationMethods : Value Other
  successorVerificationMethods : Value Other
  predecessorSignatures : Value Other
  successorSignatures : Value Other
  archivalSignature : Value Other
  archivalVerificationMethod : Value Other
  statementId : Value Other

/-- The verifier's surroundings. -/
structure Verifier (Other Key : Type) where
  language : Language Other
  registry : Registry Key
  sha256 : Sha256
  /-- `public_key_to_ethereum_address`. -/
  ethereumAddress : Key → Option String

/-- A DID resolver, where a failed resolution has no document. -/
abbrev Resolver (Other : Type) := String → Option (Value Other)

variable (verifier : Verifier Other Key)

section Payload

def signablePayload (statement : SuccessionStatement Other) : List UInt8 :=
  Bytes.utf8 (String.ofList (Value.encode verifier.language (.object
    [("predecessor_did", statement.predecessorDid),
      ("successor_did", statement.successorDid),
      ("effective_from", statement.effectiveFrom),
      ("reason", statement.reason),
      ("predecessor_verification_methods", statement.predecessorVerificationMethods),
      ("successor_verification_methods", statement.successorVerificationMethods)])))

def computeStatementId (statement : SuccessionStatement Other) : String :=
  verifier.sha256.hexdigest (signablePayload verifier statement)

end Payload

section Binding

/-- What follows a prefix of a text. -/
def after? (start text : String) : Option String :=
  if start.toList.isPrefixOf text.toList then some (String.ofList (text.toList.drop start.length))
  else none

/-- `_verify_did_pkh_eip155_binding`, of the address in the DID. -/
def verifyDidPkhBinding (address : String) (vms : List (Value Other)) : Bool :=
  let expected := address.toLower
  "0x".toList.isPrefixOf expected.toList && expected.length = 42 && !vms.isEmpty &&
    vms.all fun vm =>
      match vm.object?.bind (decodeVerificationMethodKey verifier.registry) with
      | none => false
      | some (suite, publicKey) =>
        suite.algId = "ecdsa-secp256k1-sha256" &&
          ((verifier.ethereumAddress publicKey).map String.toLower) = some expected

/-- `_verify_did_key_binding`, of the multibase in the DID. -/
def verifyDidKeyBinding (multibase : String) (vms : List (Value Other)) : Bool :=
  !vms.isEmpty && vms.all fun vm =>
    match vm.object? with
    | none => false
    | some entries => (Value.text multibase).equals verifier.language
        (Value.get entries "publicKeyMultibase")

/-- The last published method with an identity. -/
def publishedById (published : List (Value Other)) (vmId : String) :
    Option (List (String × Value Other)) :=
  (published.filterMap Value.object?).reverse.find? fun entries =>
    (Value.get entries "id").text? = some vmId

def publishedMethods (resolved : Value Other) : Option (List (Value Other)) := do
  let document ← resolved.object?
  let published := Value.get document "verificationMethod"
  if published.isFalse verifier.language then pure [] else published.array?

/-- The binding of embedded methods to a resolved document. -/
def verifyDidWebBinding (resolved : Value Other) (vms : List (Value Other)) : Bool :=
  match publishedMethods verifier resolved with
  | none => false
  | some published => vms.all fun vm =>
    match vm.object? with
    | none => false
    | some entries =>
      match (Value.get entries "id").text?.bind (publishedById published) with
      | none => false
      | some method =>
        (Value.get entries "publicKeyMultibase").equals verifier.language
          (Value.get method "publicKeyMultibase")

def verifyDidBinding (resolver : Option (Resolver Other)) (did verificationMethods : Value Other) :
    Bool :=
  match did.text? with
  | none => false
  | some did =>
    let index := indexVerificationMethods verificationMethods
    match verificationMethods.array? with
    | none => false
    | some vms =>
      if did = "" ∨ index.fatal ≠ [] then false
      else if let some address := after? "did:pkh:eip155:1:" did then
        verifyDidPkhBinding verifier address vms
      else if let some multibase := after? "did:key:" did then
        verifyDidKeyBinding verifier multibase vms
      else if (after? "did:web:" did).isSome then
        match resolver.bind (· did) with
        | none => false
        | some resolved => verifyDidWebBinding verifier resolved vms
      else false

end Binding

section Verification

/-- The methods that tell which keys a predecessor is known to have. -/
def authoritativeMethods (resolver : Option (Resolver Other)) (predecessorDid embedded : Value Other) :
    Value Other :=
  match predecessorDid.text?, resolver with
  | some did, some resolver =>
    if (after? "did:web:" did).isSome then
      match (resolver did).bind Value.object? with
      | none => embedded
      | some document =>
        match (Value.get document "verificationMethod").array? with
        | none => embedded
        | some published => .array published
    else embedded
  | _, _ => embedded

def adaptivePredecessorPolicy (resolver : Option (Resolver Other))
    (predecessorDid embedded : Value Other) : VerifyPolicy :=
  match (authoritativeMethods resolver predecessorDid embedded).array? with
  | none => .hybridRequired
  | some vms =>
    if vms.any fun vm =>
        (vm.object?.bind (decodeVerificationMethodKey verifier.registry)).any
          (·.1.isPostQuantum) then
      .hybridRequired
    else .legacyAllowed

def algSlhDsaSha2128s : String := "slh-dsa-sha2-128s"

def verifyArchival (statement : SuccessionStatement Other) (payload : List UInt8)
    (requireArchival : Bool) (trustedArchivalMultibase : Option String) : Option PolicyResult :=
  let signed := !statement.archivalSignature.isFalse verifier.language
  if ¬ requireArchival ∧ ¬ signed then none
  else if ¬ signed then some ⟨false, []⟩
  else if statement.archivalVerificationMethod.isFalse verifier.language then some ⟨false, []⟩
  else
    let result := (verifySignatureEntries verifier.registry payload
      (.array [statement.archivalSignature])
      (.array [statement.archivalVerificationMethod])).evaluate verifier.registry .pqRequired true
    let named := result.ok && result.algIdsSeen.contains algSlhDsaSha2128s
    let embedded := Value.get ((statement.archivalVerificationMethod.object?).getD [])
      "publicKeyMultibase"
    let pinned := match trustedArchivalMultibase with
      | some trusted => (Value.text trusted).equals verifier.language embedded
      | none => !requireArchival
    some ⟨named && pinned, result.algIdsSeen⟩

/-- Outcome of `verify_succession`. -/
structure SuccessionVerifyResult where
  ok : Bool
  predecessor : PolicyResult
  successor : PolicyResult
  archival : Option PolicyResult
  statementIdConsistent : Bool
  predecessorDidBound : Bool
  successorDidBound : Bool
  deriving DecidableEq, Repr

def unevaluatedResult : SuccessionVerifyResult :=
  ⟨false, ⟨false, []⟩, ⟨false, []⟩, none, false, false, false⟩

def verifySuccession (predecessorPolicy : Option VerifyPolicy) (successorPolicy : VerifyPolicy)
    (requireArchival : Bool) (trustedArchivalMultibase : Option String)
    (resolver : Option (Resolver Other)) (statement : SuccessionStatement Other) :
    SuccessionVerifyResult :=
  let predecessorPolicy := predecessorPolicy.getD (adaptivePredecessorPolicy verifier resolver
    statement.predecessorDid statement.predecessorVerificationMethods)
  if (statement.effectiveFrom.parseIso8601Utc verifier.language).isNone then unevaluatedResult
  else
    let payload := signablePayload verifier statement
    let predecessorBound := verifyDidBinding verifier resolver statement.predecessorDid
      statement.predecessorVerificationMethods
    let successorBound := verifyDidBinding verifier resolver statement.successorDid
      statement.successorVerificationMethods
    let predecessor := (verifySignatureEntries verifier.registry payload
      statement.predecessorSignatures statement.predecessorVerificationMethods).evaluate
        verifier.registry predecessorPolicy true
    let successor := (verifySignatureEntries verifier.registry payload
      statement.successorSignatures statement.successorVerificationMethods).evaluate
        verifier.registry successorPolicy true
    let archival := verifyArchival verifier statement payload requireArchival
      trustedArchivalMultibase
    let idConsistent := !statement.statementId.isFalse verifier.language &&
      (Value.text (computeStatementId verifier statement)).equals verifier.language
        statement.statementId
    { ok := predecessorBound && successorBound && predecessor.ok && successor.ok && idConsistent &&
        archival.all (·.ok)
      predecessor := predecessor
      successor := successor
      archival := archival
      statementIdConsistent := idConsistent
      predecessorDidBound := predecessorBound
      successorDidBound := successorBound }

end Verification

end Kestrel.Identity
