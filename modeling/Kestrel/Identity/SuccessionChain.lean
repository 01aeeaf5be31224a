import Kestrel.Base.Except
import Kestrel.Identity.Succession
import Mathlib.Data.Prod.Lex
import Mathlib.Data.String.Basic
import Mathlib.Order.BooleanAlgebra.Defs

/-!
# Succession chains

Temporal resolution across many rotations: an artifact's time tells which identity of a chain is
authoritative, and from the first rotation on classical signatures alone are not trusted. Values
are immutable, so the copies that `_copy_vms` makes are the values themselves.
-/

namespace Kestrel.Identity

variable {Other Key : Type}

section Linkage

/-- Whether a field is absent, and its text. -/
abbrev LinkageField := Bool ×ₗ String

/-- The identity of a verification method: its `id` and its `publicKeyMultibase`. -/
abbrev LinkageKey := LinkageField ×ₗ LinkageField

def linkageField (entries : List (String × Value Other)) (name : String) : Option LinkageField :=
  match Value.get entries name with
  | .null => some (toLex (true, ""))
  | .text value => some (toLex (false, value))
  | .boolean _ | .integer _ | .other _ | .array _ | .object _ => none

def linkageKey (vm : Value Other) : Option LinkageKey := do
  let entries ← vm.object?
  let vmId ← linkageField entries "id"
  let multibase ← linkageField entries "publicKeyMultibase"
  pure (toLex (vmId, multibase))

def vmLinkageKeys (vms : Value Other) : Option (List LinkageKey) := do
  let vms ← vms.array?
  let keys ← vms.mapM linkageKey
  pure (keys.insertionSort (· ≤ ·))

end Linkage

section Structure

/-- Why a list of statements is no chain, or an artifact has no place in time. -/
inductive ChainError where
  | selfSuccession (index : ℕ)
  | timestamp
  | linkBroken (index : ℕ)
  | vmLinkageBroken (index : ℕ)
  | notMonotonic (index : ℕ)
  deriving DecidableEq, Repr

/-- `_parse_iso8601_utc`. -/
def parseTimestamp (language : Language Other) (value : Value Other) : Except ChainError ℤ :=
  match value.parseIso8601Utc language with
  | some instant => .ok instant
  | none => .error .timestamp

def checkLink (language : Language Other) (index : ℕ) (previous statement : SuccessionStatement Other)
    (effective : ℤ) : Except ChainError Unit := do
  Except.require (statement.predecessorDid.equals language previous.successorDid)
    (.linkBroken index)
  let previousKeys := vmLinkageKeys previous.successorVerificationMethods
  let currentKeys := vmLinkageKeys statement.predecessorVerificationMethods
  Except.require (previousKeys ≠ none ∧ previousKeys = currentKeys) (.vmLinkageBroken index)
  let previousEffective ← parseTimestamp language previous.effectiveFrom
  Except.require (previousEffective < effective) (.notMonotonic index)

/-- The loop of `build_chain` over the statements after another. -/
def checkStatements (language : Language Other) :
    ℕ → Option (SuccessionStatement Other) → List (SuccessionStatement Other) →
      Except ChainError Unit
  | _, _, [] => .ok ()
  | index, previous, statement :: statements => do
    Except.require (¬ statement.predecessorDid.equals language statement.successorDid)
      (.selfSuccession index)
    let effective ← parseTimestamp language statement.effectiveFrom
    match previous with
    | none => pure ()
    | some previous => checkLink language index previous statement effective
    checkStatements language (index + 1) (some statement) statements

/-- An ordered, structurally validated sequence of succession statements. -/
structure SuccessionChain (language : Language Other) where
  statements : List (SuccessionStatement Other)
  checked : checkStatements language 0 none statements = .ok ()

def buildChain (language : Language Other) (statements : List (SuccessionStatement Other)) :
    Except ChainError (SuccessionChain language) :=
  match checked : checkStatements language 0 none statements with
  | .error error => .error error
  | .ok () => .ok ⟨statements, checked⟩

end Structure

section Resolution

/-- The authoritative DID and verification methods at a time. -/
structure ActiveIdentity (Other : Type) where
  did : Value Other
  verificationMethods : Value Other
  isRoot : Bool
  successionIndex : Option ℕ
  postCutoff : Bool

/-- The original identity, before any succession. -/
def ActiveIdentity.root (rootDid rootVerificationMethods : Value Other) : ActiveIdentity Other :=
  ⟨rootDid, rootVerificationMethods, true, none, false⟩

def ActiveIdentity.successor (index : ℕ) (statement : SuccessionStatement Other) :
    ActiveIdentity Other :=
  ⟨statement.successorDid, statement.successorVerificationMethods, false, some index, true⟩

def latestActive (language : Language Other) (artifactTime : ℤ) :
    ℕ → Option (ℕ × SuccessionStatement Other) → List (SuccessionStatement Other) →
      Except ChainError (Option (ℕ × SuccessionStatement Other))
  | _, active, [] => .ok active
  | index, active, statement :: statements => do
    let effective ← parseTimestamp language statement.effectiveFrom
    if effective ≤ artifactTime then
      latestActive language artifactTime (index + 1) (some (index, statement)) statements
    else pure active

def resolveActiveIdentity {language : Language Other}
    (rootDid rootVerificationMethods : Value Other) (chain : SuccessionChain language)
    (artifactTimestamp : Value Other) : Except ChainError (ActiveIdentity Other) := do
  let artifactTime ← parseTimestamp language artifactTimestamp
  let active ← latestActive language artifactTime 0 none chain.statements
  match active with
  | none => pure (.root rootDid rootVerificationMethods)
  | some (index, statement) => pure (.successor index statement)

end Resolution

section ChainSignatures

variable (verifier : Verifier Other Key)

def linkageMethods (statements : List (SuccessionStatement Other)) (did : String) :
    Option (Value Other) :=
  (statements.reverse.find? fun statement => statement.successorDid.text? = some did).map
    (·.successorVerificationMethods)

/-- `_build_chain_internal_resolver`. -/
def chainInternalResolver (chain : SuccessionChain verifier.language)
    (userResolver : Option (Resolver Other)) : Resolver Other := fun did =>
  match linkageMethods chain.statements.dropLast did with
  | some vms => vms.list?.map fun vms =>
    .object [("id", .text did), ("verificationMethod", .array vms)]
  | none => userResolver.bind (· did)

/-- Outcome of verifying every statement's signatures in a chain. -/
structure ChainSignaturesResult where
  ok : Bool
  perStatement : List SuccessionVerifyResult
  deriving DecidableEq, Repr

def verifyChainSignatures (predecessorPolicy : Option VerifyPolicy) (successorPolicy : VerifyPolicy)
    (requireArchival : Bool) (trustedArchivalMultibase : Option String)
    (didWebResolver : Option (Resolver Other)) (chain : SuccessionChain verifier.language) :
    ChainSignaturesResult :=
  let results := chain.statements.map (verifySuccession verifier predecessorPolicy successorPolicy
    requireArchival trustedArchivalMultibase
    (some (chainInternalResolver verifier chain didWebResolver)))
  ⟨results.all (·.ok), results⟩

end ChainSignatures

section Artifacts

variable (verifier : Verifier Other Key)

/-- What a caller asks of a verification. -/
structure VerifyOptions (Other : Type) where
  policy : VerifyPolicy := .hybridRequired
  verifyChain : Bool := true
  requireArchival : Bool := false
  trustedArchivalMultibase : Option String := none
  didWebResolver : Option (Resolver Other) := none

/-- An original identity, from before any succession. -/
structure Root (Other : Type) where
  did : Value Other
  verificationMethods : Value Other

/-- A signed artifact, without its signatures. -/
structure Artifact (Other : Type) where
  timestamp : Value Other
  payload : List UInt8

structure ArtifactChainVerifyResult (Other : Type) where
  ok : Bool
  activeIdentity : ActiveIdentity Other
  chainSignatures : ChainSignaturesResult
  policyResult : PolicyResult

def unanchoredResult (rootDid : Value Other) : ArtifactChainVerifyResult Other :=
  ⟨false, .root rootDid (.array []), ⟨false, []⟩, ⟨false, []⟩⟩

/-- Whether a chain starts at a root: its first predecessor has the DID and the keys. -/
def isAnchored (language : Language Other) (root : Root Other)
    (statements : List (SuccessionStatement Other)) : Bool :=
  match statements with
  | [] => true
  | first :: _ =>
    let rootKeys := vmLinkageKeys root.verificationMethods
    first.predecessorDid.equals language root.did &&
      (rootKeys.isSome && rootKeys = vmLinkageKeys first.predecessorVerificationMethods)

def verifyArtifactAgainstChain (options : VerifyOptions Other) (root : Root Other)
    (chain : SuccessionChain verifier.language) (artifact : Artifact Other)
    (signatures : Value Other) : Except ChainError (ArtifactChainVerifyResult Other) :=
  if isAnchored verifier.language root chain.statements then do
    let chainSignatures := if options.verifyChain then
        verifyChainSignatures verifier none .hybridRequired options.requireArchival
          options.trustedArchivalMultibase options.didWebResolver chain
      else ⟨true, []⟩
    let active ← resolveActiveIdentity root.did root.verificationMethods chain artifact.timestamp
    let policyResult := (verifySignatureEntries verifier.registry artifact.payload signatures
      active.verificationMethods).evaluate verifier.registry options.policy (!active.postCutoff)
    pure ⟨chainSignatures.ok && policyResult.ok, active, chainSignatures, policyResult⟩
  else .ok (unanchoredResult root.did)

end Artifacts

end Kestrel.Identity
