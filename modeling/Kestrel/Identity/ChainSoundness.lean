import Kestrel.Identity.SignatureSoundness
import Kestrel.Identity.SuccessionChain

/-!
# Artifacts accepted under a chain

An accepted artifact is signed under the identity that was authoritative at its time, and that
identity goes back to the supplied root through statements whose signatures verify.
-/

namespace Kestrel.Identity

open List Except

variable {Other Key : Type}

section Specification

/-- Two sets of verification methods have the same keys, in some order. -/
def SameKeys (vms vms' : Value Other) : Prop :=
  ∃ methods methods' keys keys', vms = .array methods ∧ vms' = .array methods' ∧
    methods.mapM linkageKey = some keys ∧ methods'.mapM linkageKey = some keys' ∧ keys.Perm keys'

def Reached (language : Language Other) (time : ℤ) (statement : SuccessionStatement Other) : Prop :=
  ∃ effective, statement.effectiveFrom.parseIso8601Utc language = some effective ∧ effective ≤ time

inductive IsActive (language : Language Other) (root : Root Other)
    (statements : List (SuccessionStatement Other)) (time : ℤ) : ActiveIdentity Other → Prop where
  | root (none_reached : ∀ statement ∈ statements, ¬ Reached language time statement) :
      IsActive language root statements time (.root root.did root.verificationMethods)
  | successor {earlier later : List (SuccessionStatement Other)}
      {statement : SuccessionStatement Other}
      (split : statements = earlier ++ statement :: later)
      (reached : Reached language time statement)
      (last : ∀ statement ∈ later, ¬ Reached language time statement) :
      IsActive language root statements time (.successor earlier.length statement)

structure Established (verifier : Verifier Other Key) (root : Root Other)
    (statements : List (SuccessionStatement Other)) (artifact : Artifact Other)
    (signatures : Value Other) (time : ℤ) (active : ActiveIdentity Other) : Prop where
  anchored : ∀ first ∈ statements.head?, first.predecessorDid = root.did ∧
    SameKeys root.verificationMethods first.predecessorVerificationMethods
  predecessors_signed : ∀ statement ∈ statements, ∃ suite,
    HasVerified verifier.registry (signablePayload verifier statement)
      statement.predecessorSignatures statement.predecessorVerificationMethods suite
  successors_signed : ∀ statement ∈ statements, ∀ postQuantum, ∃ suite,
    suite.isPostQuantum = postQuantum ∧
      HasVerified verifier.registry (signablePayload verifier statement)
        statement.successorSignatures statement.successorVerificationMethods suite
  dated : artifact.timestamp.parseIso8601Utc verifier.language = some time
  resolved : IsActive verifier.language root statements time active
  signed : ∃ suite, HasVerified verifier.registry artifact.payload signatures
    active.verificationMethods suite
  postQuantum_signed : (∃ statement ∈ statements, Reached verifier.language time statement) →
    ∃ suite, suite.isPostQuantum = true ∧ HasVerified verifier.registry artifact.payload signatures
      active.verificationMethods suite

end Specification

section Linkage

theorem sameKeys_of_vmLinkageKeys {vms vms' : Value Other} {keys : List LinkageKey}
    (found : vmLinkageKeys vms = some keys) (same : vmLinkageKeys vms' = some keys) :
    SameKeys vms vms' := by
  obtain ⟨methods, array, found⟩ := Option.bind_eq_some_iff.mp found
  obtain ⟨unsorted, mapped, found⟩ := Option.bind_eq_some_iff.mp found
  obtain ⟨methods', array', same⟩ := Option.bind_eq_some_iff.mp same
  obtain ⟨unsorted', mapped', same⟩ := Option.bind_eq_some_iff.mp same
  have sorted : unsorted.insertionSort (· ≤ ·) = unsorted'.insertionSort (· ≤ ·) :=
    (Option.some.inj found).trans (Option.some.inj same).symm
  refine ⟨methods, methods', unsorted, unsorted', Value.array?_eq_some.mp array,
    Value.array?_eq_some.mp array', mapped, mapped', ?_⟩
  calc unsorted
    _ |>.Perm (unsorted.insertionSort (· ≤ ·)) := (perm_insertionSort _ _).symm
    _ |>.Perm unsorted' := sorted ▸ perm_insertionSort _ _

end Linkage

section Resolution

variable {language : Language Other}

theorem parseTimestamp_eq_ok {value : Value Other} {instant : ℤ} :
    parseTimestamp language value = .ok instant ↔
      value.parseIso8601Utc language = some instant := by
  unfold parseTimestamp
  cases value.parseIso8601Utc language with
  | none => exact iff_of_false nofun nofun
  | some other => simp

variable {index : ℕ} {statements : List (SuccessionStatement Other)}

theorem checkLink_increases {previous statement : SuccessionStatement Other} {effective : ℤ}
    (linked : checkLink language index previous statement effective = .ok ()) :
    ∃ before, previous.effectiveFrom.parseIso8601Utc language = some before ∧ before < effective := by
  obtain ⟨_, linked⟩ := require_bind_eq_ok.mp linked
  obtain ⟨_, linked⟩ := require_bind_eq_ok.mp linked
  obtain ⟨before, dated, increases⟩ := bind_eq_ok.mp linked
  refine ⟨before, parseTimestamp_eq_ok.mp dated, ?_⟩
  by_contra decreases
  rw [require, if_neg decreases] at increases
  cases increases

theorem checkStatements_cons {previous : Option (SuccessionStatement Other)}
    {statement : SuccessionStatement Other}
    (checked : checkStatements language index previous (statement :: statements) = .ok ()) :
    ∃ effective, statement.effectiveFrom.parseIso8601Utc language = some effective ∧
      (∀ before ∈ previous, checkLink language index before statement effective = .ok ()) ∧
      checkStatements language (index + 1) (some statement) statements = .ok () := by
  obtain ⟨_, checked⟩ := require_bind_eq_ok.mp checked
  obtain ⟨effective, dated, checked⟩ := bind_eq_ok.mp checked
  refine ⟨effective, parseTimestamp_eq_ok.mp dated, ?_⟩
  cases previous with
  | none => exact ⟨nofun, checked⟩
  | some previous =>
    obtain ⟨_, linked, checked⟩ := bind_eq_ok.mp checked
    refine ⟨?_, checked⟩
    intro before known
    cases known
    exact linked

theorem checkStatements_later {previous : SuccessionStatement Other} {before : ℤ}
    (checked : checkStatements language index (some previous) statements = .ok ())
    (dated : previous.effectiveFrom.parseIso8601Utc language = some before) :
    ∀ statement ∈ statements, ∃ effective,
      statement.effectiveFrom.parseIso8601Utc language = some effective ∧ before < effective := by
  induction statements generalizing index previous before with
  | nil => exact forall_mem_nil _
  | cons first statements ih =>
    obtain ⟨effective, firstDated, linked, checked⟩ := checkStatements_cons checked
    obtain ⟨before', dated', increases⟩ := checkLink_increases (linked previous rfl)
    obtain rfl := Option.some.inj (dated.symm.trans dated')
    rw [forall_mem_cons]
    refine ⟨⟨effective, firstDated, increases⟩, ?_⟩
    intro statement member
    obtain ⟨later, laterDated, increases'⟩ := ih checked firstDated statement member
    exact ⟨later, laterDated, increases.trans increases'⟩

theorem latestActive_eq_ok {previous : Option (SuccessionStatement Other)} {time : ℤ}
    {active result : Option (ℕ × SuccessionStatement Other)}
    (checked : checkStatements language index previous statements = .ok ())
    (walked : latestActive language time index active statements = .ok result) :
    (result = active ∧ ∀ statement ∈ statements, ¬ Reached language time statement) ∨
      ∃ earlier statement later, statements = earlier ++ statement :: later ∧
        result = some (index + earlier.length, statement) ∧ Reached language time statement ∧
        ∀ statement ∈ later, ¬ Reached language time statement := by
  induction statements generalizing index previous active with
  | nil =>
    cases walked
    exact .inl ⟨rfl, forall_mem_nil _⟩
  | cons first statements ih =>
    obtain ⟨effective, dated, _, checked⟩ := checkStatements_cons checked
    obtain ⟨effective', dated', walked⟩ := bind_eq_ok.mp walked
    obtain rfl := Option.some.inj (dated.symm.trans (parseTimestamp_eq_ok.mp dated'))
    by_cases reached : effective ≤ time
    · rw [if_pos reached] at walked
      rcases ih checked walked with ⟨rfl, unreached⟩ | ⟨earlier, statement, later, split, rest⟩
      · exact .inr ⟨[], first, statements, rfl, rfl, ⟨effective, dated, reached⟩, unreached⟩
      · obtain ⟨rfl, holds⟩ := rest
        refine .inr ⟨first :: earlier, statement, later, ?_, ?_, holds⟩
        · rw [split, cons_append]
        · rw [length_cons, Nat.add_right_comm, Nat.add_assoc]
    · rw [if_neg reached] at walked
      cases walked
      -- The walk breaks here: all that follow take effect later still.
      refine .inl ⟨rfl, ?_⟩
      rw [forall_mem_cons]
      refine ⟨?_, ?_⟩
      · rintro ⟨effective', dated', reached'⟩
        obtain rfl := Option.some.inj (dated.symm.trans dated')
        exact reached reached'
      · intro statement member ⟨effective', dated', reached'⟩
        obtain ⟨later, laterDated, increases⟩ :=
          checkStatements_later checked dated statement member
        obtain rfl := Option.some.inj (laterDated.symm.trans dated')
        exact reached (increases.le.trans reached')

theorem resolveActiveIdentity_eq_ok {root : Root Other} {chain : SuccessionChain language}
    {timestamp : Value Other} {active : ActiveIdentity Other}
    (resolved : resolveActiveIdentity root.did root.verificationMethods chain timestamp =
      .ok active) :
    ∃ time, timestamp.parseIso8601Utc language = some time ∧
      IsActive language root chain.statements time active := by
  obtain ⟨time, dated, resolved⟩ := bind_eq_ok.mp resolved
  obtain ⟨latest, walked, resolved⟩ := bind_eq_ok.mp resolved
  refine ⟨time, parseTimestamp_eq_ok.mp dated, ?_⟩
  rcases latestActive_eq_ok chain.checked walked with ⟨rfl, unreached⟩ |
    ⟨earlier, statement, later, split, rfl, reached, last⟩
  · cases resolved
    exact .root unreached
  · cases resolved
    rw [Nat.zero_add]
    exact .successor split reached last

theorem IsActive.postCutoff {root : Root Other} {time : ℤ} {active : ActiveIdentity Other}
    (resolved : IsActive language root statements time active)
    (fired : ∃ statement ∈ statements, Reached language time statement) :
    active.postCutoff = true := by
  cases resolved with
  | root none_reached =>
    obtain ⟨statement, member, reached⟩ := fired
    exact absurd reached (none_reached statement member)
  | successor split reached last => rfl

end Resolution

section Statements

variable {verifier : Verifier Other Key}

variable {resolver : Option (Resolver Other)}

theorem text_of_verifyDidBinding {did vms : Value Other}
    (bound : verifyDidBinding verifier resolver did vms = true) : ∃ text, did = .text text := by
  unfold verifyDidBinding at bound
  cases text : did.text? with
  | none => simp [text] at bound
  | some found => exact ⟨found, Value.text?_eq_some.mp text⟩

theorem verifySuccession_ok {predecessorPolicy : Option VerifyPolicy}
    {successorPolicy : VerifyPolicy} {requireArchival : Bool}
    {trustedArchivalMultibase : Option String} {statement : SuccessionStatement Other}
    (ok : (verifySuccession verifier predecessorPolicy successorPolicy requireArchival
      trustedArchivalMultibase resolver statement).ok = true) :
    verifyDidBinding verifier resolver statement.predecessorDid
        statement.predecessorVerificationMethods = true ∧
      (∃ policy, ((verifySignatureEntries verifier.registry (signablePayload verifier statement)
        statement.predecessorSignatures statement.predecessorVerificationMethods).evaluate
          verifier.registry policy true).ok = true) ∧
      ((verifySignatureEntries verifier.registry (signablePayload verifier statement)
        statement.successorSignatures statement.successorVerificationMethods).evaluate
          verifier.registry successorPolicy true).ok = true := by
  unfold verifySuccession at ok
  split_ifs at ok with undated
  · cases ok
  · simp only [Bool.and_eq_true] at ok
    obtain ⟨⟨⟨⟨⟨bound, _⟩, predecessor⟩, successor⟩, _⟩, _⟩ := ok
    exact ⟨bound, ⟨_, predecessor⟩, successor⟩

end Statements

section Artifacts

variable {verifier : Verifier Other Key}

variable {language : Language Other} {statements : List (SuccessionStatement Other)}
  {root : Root Other}

theorem buildChain_eq_ok {chain : SuccessionChain language}
    (built : buildChain language statements = .ok chain) : chain.statements = statements := by
  unfold buildChain at built
  split at built
  · cases built
  · cases built
    rfl

theorem buildChain_of_checked (checked : checkStatements language 0 none statements = .ok ()) :
    buildChain language statements = .ok ⟨statements, checked⟩ := by
  unfold buildChain
  split
  · rename_i error failed
    rw [checked] at failed
    cases failed
  · rfl

theorem anchored_of_isAnchored (anchored : isAnchored language root statements = true)
    {first : SuccessionStatement Other} (head : first ∈ statements.head?) {did : String}
    (text : first.predecessorDid = .text did) :
    first.predecessorDid = root.did ∧
      SameKeys root.verificationMethods first.predecessorVerificationMethods := by
  cases statements with
  | nil => cases head
  | cons other later =>
    cases head
    simp only [isAnchored, Bool.and_eq_true, decide_eq_true_eq] at anchored
    obtain ⟨sameDid, known, sameKeys⟩ := anchored
    obtain ⟨keys, found⟩ := Option.isSome_iff_exists.mp known
    rw [text, Value.equals_text] at sameDid
    exact ⟨text.trans sameDid.symm, sameKeys_of_vmLinkageKeys found (sameKeys ▸ found)⟩

variable {chain : SuccessionChain verifier.language} {options : VerifyOptions Other}

theorem established_of_ok (verifies : options.verifyChain = true) {artifact : Artifact Other}
    {signatures : Value Other} {result : ArtifactChainVerifyResult Other}
    (verified : verifyArtifactAgainstChain verifier options root chain artifact signatures =
      .ok result) (ok : result.ok = true) :
    ∃ time, Established verifier root chain.statements artifact signatures time
      result.activeIdentity := by
  unfold verifyArtifactAgainstChain at verified
  by_cases anchored : isAnchored verifier.language root chain.statements = true
  · rw [if_pos anchored, if_pos verifies] at verified
    obtain ⟨active, resolved, verified⟩ := bind_eq_ok.mp verified
    cases verified
    obtain ⟨time, dated, resolved⟩ := resolveActiveIdentity_eq_ok resolved
    obtain ⟨chainOk, artifactOk⟩ := Bool.and_eq_true_iff.mp ok
    have each : ∀ statement ∈ chain.statements, _ := fun statement member =>
      verifySuccession_ok (all_eq_true.mp chainOk _ (mem_map_of_mem member))
    obtain ⟨kinds, satisfied, shown⟩ := exists_hasVerified_of_ok artifactOk
    obtain ⟨⟨kind, counted⟩, cutoff⟩ := satisfies_some satisfied
    refine ⟨time, ⟨?_, ?_, ?_, dated, resolved, ?_, ?_⟩⟩
    · intro first head
      obtain ⟨did, text⟩ :=
        text_of_verifyDidBinding (each first (mem_of_mem_head? head)).1
      exact anchored_of_isAnchored anchored head text
    · intro statement member
      obtain ⟨_, ⟨policy, predecessor⟩, _⟩ := each statement member
      obtain ⟨kinds', satisfied', shown'⟩ := exists_hasVerified_of_ok predecessor
      obtain ⟨kind', counted'⟩ := (satisfies_some satisfied').1
      obtain ⟨suite, verified, _⟩ := shown' kind' counted'
      exact ⟨suite, verified⟩
    · intro statement member postQuantum
      obtain ⟨_, _, successor⟩ := each statement member
      obtain ⟨kinds', satisfied', shown'⟩ := exists_hasVerified_of_ok successor
      obtain ⟨suite, verified, kindOf⟩ :=
        shown' _ (satisfies_hybridRequired satisfied' postQuantum)
      exact ⟨suite, (Option.some.inj kindOf).symm, verified⟩
    · obtain ⟨suite, verified, _⟩ := shown kind counted
      exact ⟨suite, verified⟩
    · intro fired
      have strict : (!active.postCutoff) = false := by rw [resolved.postCutoff fired, Bool.not_true]
      obtain ⟨suite, verified, kindOf⟩ := shown _ (cutoff strict)
      exact ⟨suite, (Option.some.inj kindOf).symm, verified⟩
  · rw [if_neg anchored] at verified
    cases verified
    cases ok

theorem verdict_congr {artifact : Artifact Other} {entries entries' junk : List (Value Other)}
    (same : entries'.Perm (entries ++ junk))
    (unverified : ∀ active, resolveActiveIdentity root.did root.verificationMethods chain
        artifact.timestamp = .ok active →
      ∀ entry ∈ junk, ∀ suite, ¬ VerifiesUnder verifier.registry artifact.payload
        active.verificationMethods suite entry) :
    (verifyArtifactAgainstChain verifier options root chain artifact (.array entries')).map (·.ok) =
      (verifyArtifactAgainstChain verifier options root chain artifact (.array entries)).map
        (·.ok) := by
  unfold verifyArtifactAgainstChain
  by_cases anchored : isAnchored verifier.language root chain.statements = true
  · rw [if_pos anchored, if_pos anchored]
    cases resolved : resolveActiveIdentity root.did root.verificationMethods chain
      artifact.timestamp with
    | error error => rfl
    | ok active =>
      have verdict : ((verifySignatureEntries verifier.registry artifact.payload (.array entries')
          active.verificationMethods).evaluate verifier.registry options.policy
            (!active.postCutoff)).ok = _ :=
        evaluate_array_congr same (unverified active resolved)
      change Except.ok (_ && _) = Except.ok (_ && _)
      rw [verdict]
  · rw [if_neg anchored, if_neg anchored]

/-- Artifact verification under a chain is sound, and only entries that verify under the active
identity decide it. -/
theorem artifact_verification_sound {statements : List (SuccessionStatement Other)}
    {chain : SuccessionChain verifier.language}
    (built : buildChain verifier.language statements = .ok chain) (options : VerifyOptions Other)
    (root : Root Other) (artifact : Artifact Other) :
    (∀ signatures result, options.verifyChain = true →
      verifyArtifactAgainstChain verifier options root chain artifact signatures = .ok result →
      result.ok = true →
      ∃ time, Established verifier root statements artifact signatures time result.activeIdentity) ∧
    ∀ entries entries' junk : List (Value Other), entries'.Perm (entries ++ junk) →
      (∀ active, resolveActiveIdentity root.did root.verificationMethods chain
          artifact.timestamp = .ok active →
        ∀ entry ∈ junk, ∀ suite, ¬ VerifiesUnder verifier.registry artifact.payload
          active.verificationMethods suite entry) →
      (verifyArtifactAgainstChain verifier options root chain artifact (.array entries')).map
          (·.ok) =
        (verifyArtifactAgainstChain verifier options root chain artifact (.array entries)).map
          (·.ok) := by
  refine ⟨?_, fun _ _ _ same unverified => verdict_congr same unverified⟩
  intro signatures result verifies verified ok
  obtain rfl := buildChain_eq_ok built
  exact established_of_ok verifies verified ok

end Artifacts

section Rotation

/-- A suite whose signatures are the key and the length of what it signed. -/
def lengthSuite (algId : String) (codec : List UInt8) (isPostQuantum : Bool) :
    CryptoSuite (List UInt8) :=
  ⟨algId, codec, isPostQuantum, some,
    fun data sigBytes key => sigBytes = key ++ [UInt8.ofNat data.length]⟩

/-- A verifier that knows two instants and two suites. -/
def smallVerifier : Verifier Empty (List UInt8) where
  language :=
    { equals := fun _ _ => false
      isFalse := Empty.elim
      dumps := Empty.elim
      fromisoformat := fun text =>
        if text = "2026-01-01T00:00:00+00:00" then some ⟨some 0, 1767225600⟩
        else if text = "2026-02-01T00:00:00+00:00" then some ⟨some 0, 1769904000⟩
        else none }
  registry := ⟨[lengthSuite "ecdsa-secp256k1-sha256" [0xe7, 0x01] false,
    lengthSuite "ml-dsa-65" [0x91, 0x24] true], by decide⟩
  sha256 := .standard
  ethereumAddress := fun _ => none

def smallMethod (vmId multibase : String) : Value Empty :=
  .object [("id", .text vmId), ("type", .text "Multikey"), ("publicKeyMultibase", .text multibase)]

def smallRoot : Root Empty :=
  ⟨.text "did:web:before", .array [smallMethod "did:web:before#classical" "z2LbKW"]⟩

def smallSuccessorMethods : Value Empty :=
  .array [smallMethod "did:web:after#classical" "z2LbKX", smallMethod "did:web:after#pq" "zqkZx"]

def smallEntry (alg kid : String) (key data : List UInt8) : Value Empty :=
  .object [("alg", .text alg), ("kid", .text kid),
    ("sig", .text (Bytes.hex (key ++ [UInt8.ofNat data.length])))]

def smallStatement : SuccessionStatement Empty :=
  let unsigned : SuccessionStatement Empty :=
    { predecessorDid := smallRoot.did
      successorDid := .text "did:web:after"
      effectiveFrom := .text "2026-01-01T00:00:00Z"
      reason := .text "quantum hardening"
      predecessorVerificationMethods := smallRoot.verificationMethods
      successorVerificationMethods := smallSuccessorMethods
      predecessorSignatures := .array []
      successorSignatures := .array []
      archivalSignature := .null
      archivalVerificationMethod := .null
      statementId := .null }
  let payload := signablePayload smallVerifier unsigned
  { unsigned with
    predecessorSignatures :=
      .array [smallEntry "ecdsa-secp256k1-sha256" "classical" [1] payload]
    successorSignatures :=
      .array [smallEntry "ecdsa-secp256k1-sha256" "classical" [2] payload,
        smallEntry "ml-dsa-65" "pq" [3] payload]
    statementId := .text (computeStatementId smallVerifier unsigned) }

/-- The published documents of both identities. -/
def smallResolver : Resolver Empty := fun did =>
  if did = "did:web:before" then
    some (.object [("verificationMethod", smallRoot.verificationMethods)])
  else if did = "did:web:after" then
    some (.object [("verificationMethod", smallSuccessorMethods)])
  else none

def smallOptions : VerifyOptions Empty := { didWebResolver := some smallResolver }

def smallArtifact : Artifact Empty := ⟨.text "2026-02-01T00:00:00Z", [7, 7, 7]⟩

def smallSignatures : List (Value Empty) :=
  [smallEntry "ecdsa-secp256k1-sha256" "classical" [2] smallArtifact.payload,
    smallEntry "ml-dsa-65" "pq" [3] smallArtifact.payload]

def smallChain : SuccessionChain smallVerifier.language :=
  ⟨[smallStatement], by decide +kernel⟩

/-- An artifact of a rotated identity is accepted, also with unsigned entries in front of its
signatures in another order. -/
theorem smallArtifact_established : (∃ result time,
      verifyArtifactAgainstChain smallVerifier smallOptions smallRoot smallChain smallArtifact
        (.array smallSignatures) = .ok result ∧ result.ok = true ∧
      Established smallVerifier smallRoot [smallStatement] smallArtifact (.array smallSignatures)
        time result.activeIdentity) ∧
    (verifyArtifactAgainstChain smallVerifier smallOptions smallRoot smallChain smallArtifact
      (.array (.null :: smallSignatures.reverse))).map (·.ok) = .ok true := by
  have accepted : (verifyArtifactAgainstChain smallVerifier smallOptions smallRoot smallChain
      smallArtifact (.array smallSignatures)).map (·.ok) = .ok true := by
    decide +kernel
  obtain ⟨sound, stable⟩ := artifact_verification_sound
    (buildChain_of_checked smallChain.checked) smallOptions smallRoot smallArtifact
  refine ⟨?_, ?_⟩
  · obtain ⟨result, verified, ok⟩ := map_eq_ok.mp accepted
    obtain ⟨time, established⟩ := sound _ result rfl verified ok
    exact ⟨result, time, verified, ok, established⟩
  · refine (stable smallSignatures (.null :: smallSignatures.reverse) [.null] ?_ ?_).trans accepted
    · exact ((reverse_perm _).cons _).trans (perm_append_singleton _ _).symm
    · intro active _ entry member suite verifies
      rw [mem_singleton.mp member] at verifies
      cases verifies

end Rotation

end Kestrel.Identity
