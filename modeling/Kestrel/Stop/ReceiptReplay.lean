import Kestrel.Stop.ReceiptRuns

/-!
# Exact retries replay their receipt

The fingerprint of a request and the digests that its row has to carry are two notions of the same
request. They agree exactly where the retry knows no other turn than the first request did.
-/

namespace Kestrel.Stop.Receipt

open List Except Option Bytes StopScope

variable {sha256 : Sha256} {before after tables : Tables} {request retry : StopRequest}
  {outcomes : List StopOutcome} {outcome : StopOutcome} {receipt : StopReceipt}
  {row : ReceiptRow} {operationId receiptId : String}

section Digests

theorem identifierBytes_injective {kind kind' : IdentifierKind} {value value' : String}
    (same : identifierBytes kind value = identifierBytes kind' value') :
    kind = kind' ∧ value = value' := by
  have distinct : ∀ kind kind' : IdentifierKind, bigEndian 2 (utf8 kind.value).length =
        bigEndian 2 (utf8 kind'.value).length → kind = kind' := by
    intro kind kind'
    cases kind <;> cases kind' <;> decide +kernel
  obtain ⟨lengths, same⟩ := append_inj (append_cancel_left same) (by
    rw [length_bigEndian, length_bigEndian])
  have kinds := distinct kind kind' lengths
  subst kinds
  obtain ⟨_, values⟩ := append_inj (append_cancel_left same) (by
    rw [length_bigEndian, length_bigEndian])
  exact ⟨rfl, utf8_injective values⟩

theorem identifierText_inj {inputs : Set (List UInt8)} (free : sha256.CollisionFree inputs)
    {kind kind' : IdentifierKind} {value value' : String}
    (member : identifierBytes kind value ∈ inputs)
    (member' : identifierBytes kind' value' ∈ inputs)
    (same : identifierText sha256 kind value = identifierText sha256 kind' value') :
    kind = kind' ∧ value = value' := by
  unfold identifierText at same
  rw [String.append_right_inj] at same
  exact identifierBytes_injective (free.eq member member' same)

/-- The parts of a request that its fingerprint identifies. -/
structure SameRequest (request retry : StopRequest) : Prop where
  actorId : retry.actorId = request.actorId
  cascade : retry.cascade = request.cascade
  correlationId : retry.correlationId = request.correlationId
  reason : retry.reason = request.reason
  scope : retry.scope = request.scope
  target : retry.target = request.target
  targetAgentId : request.scope = .agent ∨ retry.targetAgentId = request.targetAgentId
  targetIsTurnId : retry.targetIsTurnId = request.targetIsTurnId

theorem text_injective {value value' : Option String}
    (same : (value.map Json.Value.text).getD .null = (value'.map Json.Value.text).getD .null) :
    value = value' := by
  cases value with
  | none =>
    cases value' with
    | none => rfl
    | some => cases same
  | some =>
    cases value' with
    | none => cases same
    | some =>
      cases same
      rfl

theorem sameRequest_of_fingerprint {inputs : Set (List UInt8)} (free : sha256.CollisionFree inputs)
    (member : fingerprintBytes request ∈ inputs) (member' : fingerprintBytes retry ∈ inputs)
    (same : fingerprint sha256 retry = fingerprint sha256 request) : SameRequest request retry := by
  have texts := utf8_injective (free.eq member' member same)
  have lengths : (semanticRequest retry).length = (semanticRequest request).length := rfl
  have members := Json.dumps_injective lengths texts
  unfold semanticRequest at members
  simp only [cons.injEq, Prod.mk.injEq, true_and, and_true, Json.Value.text.injEq,
    Json.Value.boolean.injEq] at members
  obtain ⟨actorId, cascade, correlationId, reason, _, scope, target, targetAgentId, isTurn⟩ := members
  have scopes : retry.scope = request.scope := by
    have parsed := congrArg ofValue scope
    rw [ofValue_value, ofValue_value] at parsed
    exact Option.some.inj parsed
  refine ⟨actorId, cascade, correlationId, text_injective reason, scopes, text_injective target, ?_,
    isTurn⟩
  by_cases agent : request.scope = .agent
  · exact .inl agent
  · refine .inr ?_
    rw [scopes, if_neg agent, if_neg agent] at targetAgentId
    exact text_injective targetAgentId

end Digests

section Columns

/-- The text fits the length field of its digest. -/
def Fits (value : String) : Prop := (Bytes.utf8 value).length < 256 ^ 4

variable {kind : IdentifierKind} {error : ReceiptError}

theorem optionalIdentifierDigest_eq_ok {value digest : Option String} :
    optionalIdentifierDigest sha256 kind value = .ok digest ↔
      (∀ text ∈ value, Fits text) ∧ digest = value.map (identifierText sha256 kind) := by
  cases value with
  | none =>
    constructor
    · intro computed
      cases computed
      refine ⟨?_, rfl⟩
      intro text impossible
      cases impossible
    · intro found
      rw [found.2]
      rfl
  | some text =>
    change (identifierDigest sha256 kind text).map some = .ok digest ↔ _
    rw [map_some]
    constructor
    · intro computed
      cases digested : identifierDigest sha256 kind text with
      | error error =>
        rw [digested] at computed
        cases computed
      | ok written =>
        rw [digested] at computed
        cases computed
        obtain ⟨fits, same⟩ := identifierDigest_eq_ok.mp digested
        refine ⟨?_, congrArg some same.symm⟩
        intro text' member
        cases member
        exact fits
    · intro found
      rw [identifierDigest_eq_ok.mpr ⟨found.1 text rfl, rfl⟩, found.2]
      rfl

/-- The texts of a request whose digests its row has to carry fit. -/
structure Addressed (request : StopRequest) : Prop where
  correlationId : Fits request.correlationId
  target : ∀ text ∈ request.target, Fits text
  turnId : ∀ text ∈ expectedTurn request, Fits text

theorem expectedDigests_eq_ok {digests : String × Option String × Option String} :
    expectedDigests sha256 request = .ok digests ↔ Addressed request ∧
      digests = (identifierText sha256 .operation request.correlationId,
        request.target.map (identifierText sha256 (requestTargetDigestKind request)),
        (expectedTurn request).map (identifierText sha256 (requestTargetDigestKind request))) := by
  unfold expectedDigests
  rw [bind_eq_ok]
  constructor
  · intro found
    obtain ⟨operationId, operation, found⟩ := found
    obtain ⟨requestedTarget, target, found⟩ := bind_eq_ok.mp found
    obtain ⟨turnId, turn, found⟩ := bind_eq_ok.mp found
    cases found
    obtain ⟨fits, rfl⟩ := identifierDigest_eq_ok.mp operation
    obtain ⟨fits', rfl⟩ := optionalIdentifierDigest_eq_ok.mp target
    obtain ⟨fits'', rfl⟩ := optionalIdentifierDigest_eq_ok.mp turn
    exact ⟨⟨fits, fits', fits''⟩, rfl⟩
  · intro found
    obtain ⟨addressed, rfl⟩ := found
    refine ⟨_, identifierDigest_eq_ok.mpr ⟨addressed.correlationId, rfl⟩, ?_⟩
    rw [bind_eq_ok]
    refine ⟨_, optionalIdentifierDigest_eq_ok.mpr ⟨addressed.target, rfl⟩, ?_⟩
    rw [bind_eq_ok]
    exact ⟨_, optionalIdentifierDigest_eq_ok.mpr ⟨addressed.turnId, rfl⟩, rfl⟩

structure StoredFor (sha256 : Sha256) (operationId : String) (row : ReceiptRow)
    (request : StopRequest) : Prop where
  required : requiredColumns operationId row = .ok ()
  operation : operationId = identifierText sha256 .operation request.correlationId
  shape : isFingerprint row.requestFingerprint = true

structure Carries (sha256 : Sha256) (row : ReceiptRow) (request : StopRequest) : Prop where
  target : row.requestedTarget =
    request.target.map (identifierText sha256 (requestTargetDigestKind request))
  turnId : expectedTurn request = none ∨ row.turnId =
    (expectedTurn request).map (identifierText sha256 (requestTargetDigestKind request))

theorem receiptFromRow_eq_ok : receiptFromRow sha256 operationId row request = .ok receipt ↔
    Addressed request ∧ StoredFor sha256 operationId row request ∧
      row.requestFingerprint = fingerprint sha256 request ∧ Carries sha256 row request ∧
      readReceipt sha256 row request = .ok receipt := by
  unfold receiptFromRow
  rw [bind_eq_ok]
  constructor
  · intro found
    obtain ⟨_, required, found⟩ := found
    obtain ⟨digests, expected, found⟩ := bind_eq_ok.mp found
    obtain ⟨addressed, rfl⟩ := expectedDigests_eq_ok.mp expected
    rw [require_bind_eq_ok, require_bind_eq_ok, require_bind_eq_ok, require_bind_eq_ok,
      map_eq_none_iff] at found
    obtain ⟨operation, shape, same, ⟨target, turnId⟩, read⟩ := found
    exact ⟨addressed, ⟨required, operation, shape⟩, same, ⟨target, turnId⟩, read⟩
  · intro found
    obtain ⟨addressed, stored, same, carries, read⟩ := found
    refine ⟨(), stored.required, ?_⟩
    rw [bind_eq_ok]
    refine ⟨_, expectedDigests_eq_ok.mpr ⟨addressed, rfl⟩, ?_⟩
    rw [require_bind_eq_ok, require_bind_eq_ok, require_bind_eq_ok, require_bind_eq_ok,
      map_eq_none_iff]
    exact ⟨stored.operation, stored.shape, same, ⟨carries.target, carries.turnId⟩, read⟩

theorem identifierDigest_error {value : String}
    (failed : identifierDigest sha256 kind value = .error error) :
    error = .overflow "int too big to convert" := by
  unfold identifierDigest at failed
  split_ifs at failed
  cases failed
  rfl

theorem optionalIdentifierDigest_error {value : Option String}
    (failed : optionalIdentifierDigest sha256 kind value = .error error) :
    error = .overflow "int too big to convert" := by
  cases value with
  | none => cases failed
  | some text =>
    change (identifierDigest sha256 kind text).map some = .error error at failed
    cases digested : identifierDigest sha256 kind text with
    | ok digest =>
      rw [digested] at failed
      cases failed
    | error error' =>
      rw [digested] at failed
      cases failed
      exact identifierDigest_error digested

theorem expectedDigests_error (failed : expectedDigests sha256 request = .error error) :
    error = .overflow "int too big to convert" := by
  unfold expectedDigests at failed
  cases operation : identifierDigest sha256 .operation request.correlationId with
  | error error' =>
    rw [operation] at failed
    cases failed
    exact identifierDigest_error operation
  | ok operationId =>
    rw [operation] at failed
    cases target : optionalIdentifierDigest sha256 (requestTargetDigestKind request)
        request.target with
    | error error' =>
      rw [target] at failed
      cases failed
      exact optionalIdentifierDigest_error target
    | ok requestedTarget =>
      rw [target] at failed
      cases turn : optionalIdentifierDigest sha256 (requestTargetDigestKind request)
          (expectedTurn request) with
      | error error' =>
        rw [turn] at failed
        cases failed
        exact optionalIdentifierDigest_error turn
      | ok turnId =>
        rw [turn] at failed
        cases failed

/-- **A different request conflicts with an intact row exactly when its digests exist.** -/
theorem receiptFromRow_conflicts (stored : StoredFor sha256 operationId row request)
    (different : row.requestFingerprint ≠ fingerprint sha256 request) :
    (∃ message, receiptFromRow sha256 operationId row request = .error (.conflict message)) ↔
      Addressed request := by
  unfold receiptFromRow
  cases expected : expectedDigests sha256 request with
  | ok digests =>
    obtain ⟨addressed, rfl⟩ := expectedDigests_eq_ok.mp expected
    refine iff_of_true ⟨"Stop operation identity was reused for a different request", ?_⟩ addressed
    simp only [stored.required, require, if_pos stored.operation, if_pos stored.shape,
      if_neg different, bind, Except.bind]
  | error error =>
    constructor
    · intro found
      obtain ⟨message, conflict⟩ := found
      simp only [stored.required, bind, bind] at conflict
      cases conflict
      cases expectedDigests_error expected
    · intro addressed
      rw [expectedDigests_eq_ok.mpr ⟨addressed, rfl⟩] at expected
      cases expected

end Columns

section Rows

theorem SameRequest.digestKind (same : SameRequest request retry) :
    requestTargetDigestKind retry = requestTargetDigestKind request := by
  unfold requestTargetDigestKind
  rw [same.targetIsTurnId]

theorem SameRequest.readReceipt (same : SameRequest request retry) :
    readReceipt sha256 row retry = readReceipt sha256 row request := by
  have outcome : ∀ scope receiptId, outcomeFromRow sha256 scope receiptId retry =
      outcomeFromRow sha256 scope receiptId request := by
    intro scope receiptId
    funext row
    unfold outcomeFromRow publicOutcomeIdentity
    rw [same.digestKind, same.target, same.correlationId]
  unfold Receipt.readReceipt
  simp only [outcome, same.correlationId, same.target]

theorem replay_eq_ok : replay sha256 operationId row request = .ok receipt ↔
    receiptFromRow sha256 operationId row request = .ok receipt ∧
      assertRequestMatchesReceipt sha256 request receipt = .ok () := by
  unfold replay
  rw [bind_eq_ok]
  constructor
  · intro found
    obtain ⟨read, fromRow, found⟩ := found
    obtain ⟨_, matching, found⟩ := bind_eq_ok.mp found
    cases found
    exact ⟨fromRow, matching⟩
  · intro found
    refine ⟨receipt, found.1, ?_⟩
    rw [bind_eq_ok]
    exact ⟨(), found.2, rfl⟩

theorem SameRequest.matches_receipt (same : SameRequest request retry)
    (fingerprints : fingerprint sha256 retry = fingerprint sha256 request)
    (matching : assertRequestMatchesReceipt sha256 request receipt = .ok ()) :
    assertRequestMatchesReceipt sha256 retry receipt = .ok () := by
  unfold assertRequestMatchesReceipt at matching ⊢
  rw [require_bind_eq_ok, require_eq_ok] at matching ⊢
  obtain ⟨recorded, operation, scope, actor, target, agent, reason, cascade⟩ := matching
  refine ⟨recorded.trans fingerprints.symm, operation.trans same.correlationId.symm,
    scope.trans same.scope.symm, actor.trans same.actorId.symm, target.trans same.target.symm, ?_,
    reason.trans same.reason.symm, cascade.trans same.cascade.symm⟩
  rcases same.targetAgentId with evidence | identity
  · exact .inl (same.scope.trans evidence)
  · rw [same.scope, identity]
    exact agent

/-- What `persist` stores of a request. -/
structure Written (sha256 : Sha256) (request : StopRequest) (outcomes : List StopOutcome)
    (row : ReceiptRow) : Prop where
  fingerprint : row.requestFingerprint = fingerprint sha256 request
  scope : row.scope = request.scope.value
  target : row.requestedTarget =
    request.target.map (identifierText sha256 (requestTargetDigestKind request))
  turnId : row.turnId =
    request.turnId.map (identifierText sha256 (requestTargetDigestKind request))
  turnFits : ∀ text ∈ request.turnId, Fits text
  outcomes : List.Forall₂ (fun outcome row => outcomeRow sha256 request outcome = .ok row) outcomes
    row.outcomes

theorem receiptRow_written {door : StopDoor} {now : ℕ}
    (built : receiptRow sha256 request outcomes door now receiptId = .ok row) :
    Written sha256 request outcomes row := by
  unfold receiptRow at built
  obtain ⟨requestedTarget, target, built⟩ := bind_eq_ok.mp built
  obtain ⟨turnId, turn, built⟩ := bind_eq_ok.mp built
  obtain ⟨rows, mapped, built⟩ := bind_eq_ok.mp built
  cases built
  exact ⟨rfl, rfl, (optionalIdentifierDigest_eq_ok.mp target).2,
    (optionalIdentifierDigest_eq_ok.mp turn).2, (optionalIdentifierDigest_eq_ok.mp turn).1,
    mapM_eq_ok.mp mapped⟩

theorem readReceipt_outcomes (read : readReceipt sha256 row request = .ok receipt) :
    receipt.receiptId = row.receiptId ∧ ∃ scope, ofValue row.scope = some scope ∧
      Forall₂ (fun outcomeRow outcome =>
        outcomeFromRow sha256 scope row.receiptId request outcomeRow = .ok outcome)
        row.outcomes receipt.outcomes := by
  unfold readReceipt at read
  cases parsed : ofValue row.scope with
  | none =>
    rw [parsed] at read
    cases read
  | some scope =>
    rw [parsed] at read
    dsimp only [optionalText] at read
    rw [require_bind_eq_ok, require_bind_eq_ok, require_bind_eq_ok, require_bind_eq_ok,
      require_bind_eq_ok, require_bind_eq_ok, require_bind_eq_ok, bind_eq_ok] at read
    obtain ⟨_, _, _, _, _, _, _, outcomes, mapped, read⟩ := read
    obtain ⟨_, read⟩ := require_bind_eq_ok.mp read
    cases read
    exact ⟨rfl, scope, rfl, mapM_eq_ok.mp mapped⟩

end Rows

section Outcomes

/-- The outcome that a replay reports: the receipt's, with a public turn's private request address
blinded. -/
def replayedOutcome (sha256 : Sha256) (request : StopRequest) (receiptId : String)
    (outcome : StopOutcome) : StopOutcomeFields :=
  { outcome.toStopOutcomeFields with
    resolvedTarget :=
      if request.targetIsTurnId ∧ request.target ≠ some outcome.resolvedTarget then
        identifierText sha256 .resolvedTarget outcome.resolvedTarget
      else outcome.resolvedTarget
    receiptId := some receiptId }

/-- No identity of the outcome is the text of the target's digest without being the target. -/
structure Legible (sha256 : Sha256) (request : StopRequest) (outcome : StopOutcome) : Prop where
  agentId : ∀ target ∈ request.target,
    outcome.agentId = identifierText sha256 (requestTargetDigestKind request) target →
    outcome.agentId = target
  resolvedTarget : request.targetIsTurnId = false → ∀ target ∈ request.target,
    outcome.resolvedTarget = identifierText sha256 (requestTargetDigestKind request) target →
    outcome.resolvedTarget = target

variable {value stored read : String}

theorem public_stored (written : (if request.target = some value then
      identifierDigest sha256 (requestTargetDigestKind request) value else .ok value) = .ok stored)
    (public_read : publicOutcomeIdentity sha256 request stored = .ok read) :
    read = value ↔ ∀ target ∈ request.target,
      value = identifierText sha256 (requestTargetDigestKind request) target → value = target := by
  unfold publicOutcomeIdentity at public_read
  cases addressed : request.target with
  | none =>
    rw [addressed] at written public_read
    cases written
    cases public_read
    refine iff_of_true rfl ?_
    intro target impossible
    cases impossible
  | some target =>
    rw [addressed] at written public_read
    obtain ⟨digest, digested, public_read⟩ := bind_eq_ok.mp public_read
    obtain ⟨_, rfl⟩ := identifierDigest_eq_ok.mp digested
    by_cases same : target = value
    · subst same
      rw [if_pos rfl] at written
      obtain ⟨_, rfl⟩ := identifierDigest_eq_ok.mp written
      rw [if_pos rfl] at public_read
      cases public_read
      refine iff_of_true rfl ?_
      intro target' member _
      cases member
      rfl
    · rw [if_neg (fun equal => same (Option.some.inj equal))] at written
      cases written
      by_cases literal : value = identifierText sha256 (requestTargetDigestKind request) target
      · rw [if_pos literal] at public_read
        cases public_read
        refine iff_of_false same ?_
        intro legible
        exact same (legible _ rfl literal).symm
      · rw [if_neg literal] at public_read
        cases public_read
        refine iff_of_true rfl ?_
        intro target' member equal
        cases member
        exact absurd equal literal

variable {inputs : Set (List UInt8)} {First : Type} {firsts : List First}

theorem public_blinded (free : sha256.CollisionFree inputs) (isTurn : request.targetIsTurnId = true)
    (target_member : ∀ target ∈ request.target,
      identifierBytes (requestTargetDigestKind request) target ∈ inputs)
    (member : identifierBytes .resolvedTarget value ∈ inputs)
    (public_read : publicOutcomeIdentity sha256 request
      (identifierText sha256 .resolvedTarget value) = .ok read) :
    read = identifierText sha256 .resolvedTarget value := by
  unfold publicOutcomeIdentity at public_read
  cases addressed : request.target with
  | none =>
    rw [addressed] at public_read
    cases public_read
    rfl
  | some target =>
    rw [addressed] at public_read
    obtain ⟨digest, digested, public_read⟩ := bind_eq_ok.mp public_read
    obtain ⟨_, rfl⟩ := identifierDigest_eq_ok.mp digested
    have distinct : identifierText sha256 .resolvedTarget value ≠
        identifierText sha256 (requestTargetDigestKind request) target := by
      intro same
      have kinds := (identifierText_inj free member (target_member target addressed) same).1
      unfold requestTargetDigestKind at kinds
      rw [if_pos isTurn] at kinds
      cases kinds
    rw [if_neg distinct] at public_read
    cases public_read
    rfl

/-- **An outcome is replayed exactly when it is legible.** -/
theorem replayed_iff_legible (free : sha256.CollisionFree inputs)
    (target_member : ∀ target ∈ request.target,
      identifierBytes (requestTargetDigestKind request) target ∈ inputs)
    (resolved_member : identifierBytes .resolvedTarget outcome.resolvedTarget ∈ inputs)
    {outcome' : StopOutcome} {rowOf : OutcomeRow}
    (belongs : outcome.scope = request.scope ∧ outcome.requestedTarget = request.target ∧
      outcome.correlationId = request.correlationId ∧ outcome.receiptId = none)
    (written : outcomeRow sha256 request outcome = .ok rowOf)
    (readBack : outcomeFromRow sha256 request.scope receiptId request rowOf = .ok outcome') :
    outcome'.toStopOutcomeFields = replayedOutcome sha256 request receiptId outcome ↔
      Legible sha256 request outcome := by
  unfold outcomeRow at written
  obtain ⟨resolved, resolves, written⟩ := bind_eq_ok.mp written
  obtain ⟨agent, names, written⟩ := bind_eq_ok.mp written
  cases written
  obtain ⟨resolved', resolves', readBack⟩ := bind_eq_ok.mp readBack
  obtain ⟨agent', names', readBack⟩ := bind_eq_ok.mp readBack
  rw [StopDisposition.ofValue_value] at readBack
  dsimp only at readBack
  have fields : outcome'.toStopOutcomeFields = ⟨request.scope, request.target, resolved', agent',
      outcome.disposition, request.correlationId, outcome.detail, some receiptId⟩ := by
    cases built : StopOutcomeFields.build ⟨request.scope, request.target, resolved', agent',
        outcome.disposition, request.correlationId, outcome.detail, some receiptId⟩ with
    | error message =>
      rw [built] at readBack
      cases readBack
    | ok result =>
      rw [built] at readBack
      cases readBack
      exact (StopOutcomeFields.build_eq_ok.mp built).symm
  have agents := public_stored names names'
  have resolved_iff : resolved' = (if request.targetIsTurnId ∧
      request.target ≠ some outcome.resolvedTarget then
        identifierText sha256 .resolvedTarget outcome.resolvedTarget
      else outcome.resolvedTarget) ↔
      (request.targetIsTurnId = false → ∀ target ∈ request.target,
        outcome.resolvedTarget = identifierText sha256 (requestTargetDigestKind request) target →
        outcome.resolvedTarget = target) := by
    unfold storedResolvedTarget at resolves
    cases isTurn : request.targetIsTurnId with
    | false =>
      rw [isTurn] at resolves
      rw [if_neg (fun found => Bool.noConfusion found.1)]
      exact (public_stored resolves resolves').trans ⟨fun legible _ => legible,
        fun legible => legible rfl⟩
    | true =>
      refine iff_of_true ?_ (fun impossible => Bool.noConfusion impossible)
      by_cases addressed : request.target = some outcome.resolvedTarget
      · rw [if_neg (fun found => found.2 addressed)]
        rw [if_pos addressed] at resolves
        have written : (if request.target = some outcome.resolvedTarget then
            identifierDigest sha256 (requestTargetDigestKind request) outcome.resolvedTarget
            else .ok outcome.resolvedTarget) = .ok resolved := by
          rw [if_pos addressed]
          exact resolves
        refine (public_stored written resolves').mpr ?_
        intro target member _
        rw [addressed] at member
        exact Option.some.inj member
      · rw [if_pos ⟨rfl, addressed⟩]
        rw [if_neg addressed, isTurn, if_pos rfl] at resolves
        obtain ⟨_, rfl⟩ := identifierDigest_eq_ok.mp resolves
        exact public_blinded free isTurn target_member resolved_member resolves'
  rw [fields]
  rw [StopOutcomeFields.mk.injEq]
  constructor
  · intro found
    obtain ⟨_, _, resolved, agent, _⟩ := found
    exact ⟨agents.mp agent, resolved_iff.mp resolved⟩
  · intro legible
    exact ⟨belongs.1.symm, belongs.2.1.symm, resolved_iff.mpr legible.resolvedTarget,
      agents.mpr legible.agentId, rfl, belongs.2.2.1.symm, rfl, rfl⟩

theorem validateOutcomes_belongs (valid : validateOutcomes request outcomes = .ok ()) :
    ∀ outcome ∈ outcomes, outcome.scope = request.scope ∧ outcome.requestedTarget = request.target ∧
      outcome.correlationId = request.correlationId ∧ outcome.receiptId = none := by
  unfold validateOutcomes at valid
  rw [require_bind_eq_ok, require_bind_eq_ok] at valid
  exact valid.2.1

theorem forall₂_comp {Middle Last : Type} {left : First → Middle → Prop}
    {right : Middle → Last → Prop} {middles : List Middle} {lasts : List Last}
    (lefts : Forall₂ left firsts middles) (rights : Forall₂ right middles lasts) :
    Forall₂ (fun first last => ∃ middle, left first middle ∧ right middle last) firsts
      lasts := by
  induction lefts generalizing lasts with
  | nil =>
    cases rights
    exact .nil
  | cons related _ ih =>
    cases rights with
    | cons related' rights => exact .cons ⟨_, related, related'⟩ (ih rights)

theorem map_eq_map_iff {Second Value : Type} {left : First → Value} {right : Second → Value}
    {relates : Second → First → Prop} {meets : Second → Prop} {seconds : List Second}
    (matched : Forall₂ relates seconds firsts)
    (each : ∀ second ∈ seconds, ∀ first, relates second first →
      (left first = right second ↔ meets second)) :
    firsts.map left = seconds.map right ↔ ∀ second ∈ seconds, meets second := by
  induction matched with
  | nil => exact iff_of_true rfl (fun _ member => by cases member)
  | cons related _ ih =>
    rw [map_cons, map_cons, cons.injEq, forall_mem_cons, each _ mem_cons_self _ related,
      ih (fun second member => each second (mem_cons_of_mem _ member))]

end Outcomes

section Retries

/-- The byte strings whose digests a receipt and a retry compare. -/
def hashedInputs (request retry : StopRequest) (outcomes : List StopOutcome) :
    Set (List UInt8) :=
  {bytes | bytes ∈ [fingerprintBytes request, fingerprintBytes retry] ++
    (request.target.toList ++ request.turnId.toList ++ retry.turnId.toList).map
      (identifierBytes (requestTargetDigestKind request)) ++
    outcomes.map fun outcome => identifierBytes .resolvedTarget outcome.resolvedTarget}

structure Replays (sha256 : Sha256) (tables : Tables) (request : StopRequest)
    (outcomes : List StopOutcome) (receipt : StopReceipt) (retry : StopRequest) : Prop where
  exact : fingerprint sha256 retry = fingerprint sha256 request →
    tables.load sha256 retry = .ok (some receipt) ∧
    (∀ ownerId lease claimId now, tables.claim sha256 ownerId lease retry claimId now =
      .ok (tables, .replayed receipt)) ∧
    receipt.outcomes.map (·.toStopOutcomeFields) =
      outcomes.map (replayedOutcome sha256 request receipt.receiptId)
  different : fingerprint sha256 retry ≠ fingerprint sha256 request →
    (∃ message, tables.load sha256 retry = .error (.conflict message)) ∧
    ∀ ownerId lease claimId now, ∃ message, tables.claim sha256 ownerId lease retry claimId now =
      .error (.conflict message)

/-- The retries that are answered right: an exact retry of a private turn request names no turn or
the turn of the first request and no outcome has the text of the target's digest as an identity; the
target and the turn of another request have digests. -/
structure Replayable (sha256 : Sha256) (request : StopRequest) (outcomes : List StopOutcome)
    (retry : StopRequest) : Prop where
  turn : fingerprint sha256 retry = fingerprint sha256 request → retry.scope = .turn →
    retry.targetIsTurnId = false → retry.turnId = retry.target ∨ retry.turnId = request.turnId
  legible : fingerprint sha256 retry = fingerprint sha256 request →
    ∀ outcome ∈ outcomes, Legible sha256 request outcome
  addressed : fingerprint sha256 retry ≠ fingerprint sha256 request →
    (∀ text ∈ retry.target, Fits text) ∧ ∀ text ∈ expectedTurn retry, Fits text

theorem expectedTurn_eq (known : expectedTurn request ≠ none) :
    expectedTurn request = request.turnId := by
  unfold expectedTurn at known ⊢
  split_ifs at known ⊢
  · exact absurd rfl known
  · rfl

theorem SameRequest.turn_iff (same : SameRequest request retry) :
    (expectedTurn retry = none ∨ retry.turnId = request.turnId) ↔
      (retry.scope = .turn → retry.targetIsTurnId = false →
        retry.turnId = retry.target ∨ retry.turnId = request.turnId) := by
  unfold expectedTurn
  constructor
  · intro known scope private_address
    rcases known with unknown | stored
    · by_cases placeholder : retry.turnId = retry.target
      · exact .inl placeholder
      · rw [if_neg (fun found => placeholder found.2)] at unknown
        exact absurd unknown (retry.turned scope)
    · exact .inr stored
  · intro known
    by_cases scope : retry.scope = .turn
    · cases isTurn : retry.targetIsTurnId with
      | false =>
        rcases known scope isTurn with placeholder | stored
        · rw [if_pos ⟨rfl, placeholder⟩]
          exact .inl rfl
        · exact .inr stored
      | true =>
        have public_address := same.targetIsTurnId.symm.trans isTurn
        refine .inr ?_
        rw [(StopRequest.turnId_eq_target isTurn).2,
          (StopRequest.turnId_eq_target public_address).2, same.target]
    · rw [StopRequest.turnId_eq_none scope]
      split_ifs
      · exact .inl rfl
      · exact .inl rfl

/-- **An exact retry reads the stored receipt exactly when it expects no other turn.** -/
theorem replay_retry_iff (free : sha256.CollisionFree (hashedInputs request retry outcomes))
    (written : Written sha256 request outcomes row)
    (stored : replay sha256 operationId row request = .ok receipt)
    (same : SameRequest request retry)
    (fingerprints : fingerprint sha256 retry = fingerprint sha256 request) :
    replay sha256 operationId row retry = .ok receipt ↔
      (expectedTurn retry = none ∨ retry.turnId = request.turnId) := by
  obtain ⟨fromRow, matching⟩ := replay_eq_ok.mp stored
  obtain ⟨addressed, storedFor, recorded, carries, read⟩ := receiptFromRow_eq_ok.mp fromRow
  rw [replay_eq_ok, receiptFromRow_eq_ok]
  have hashed : ∀ text, text ∈ request.turnId ∨ text ∈ retry.turnId →
      identifierBytes (requestTargetDigestKind request) text ∈ hashedInputs request retry outcomes := by
    intro text member
    refine mem_append_left _ (mem_append_right _ (mem_map_of_mem ?_))
    rcases member with member | member
    · exact mem_append_left _ (mem_append_right _ (mem_toList.mpr member))
    · exact mem_append_right _ (mem_toList.mpr member)
  constructor
  · intro found
    rcases found.1.2.2.2.1.turnId with unknown | expected
    · exact .inl unknown
    · by_cases unknown : expectedTurn retry = none
      · exact .inl unknown
      · refine .inr ?_
        rw [expectedTurn_eq unknown, written.turnId, same.digestKind] at expected
        cases first : request.turnId with
        | none =>
          rw [first] at expected
          cases second : retry.turnId with
          | none => rfl
          | some turn =>
            rw [second] at expected
            cases expected
        | some turn =>
          rw [first] at expected
          cases second : retry.turnId with
          | none =>
            rw [second] at expected
            cases expected
          | some turn' =>
            rw [second] at expected
            have texts := Option.some.inj expected
            rw [(identifierText_inj free (hashed turn (.inl first)) (hashed turn' (.inr second))
              texts).2]
  · intro known
    have turn_fits : ∀ text ∈ expectedTurn retry, Fits text := by
      intro text member
      have present : expectedTurn retry ≠ none := by
        rw [mem_def.mp member]
        exact some_ne_none text
      rcases known with unknown | named
      · exact absurd unknown present
      · refine written.turnFits text ?_
        rw [← named, ← expectedTurn_eq present]
        exact member
    have carried : expectedTurn retry = none ∨ row.turnId =
        (expectedTurn retry).map (identifierText sha256 (requestTargetDigestKind retry)) := by
      by_cases unknown : expectedTurn retry = none
      · exact .inl unknown
      · refine .inr ?_
        rcases known with unknown' | named
        · exact absurd unknown' unknown
        · rw [expectedTurn_eq unknown, named, written.turnId, same.digestKind]
    refine ⟨⟨⟨?_, ?_, turn_fits⟩, ⟨storedFor.required, ?_, storedFor.shape⟩, ?_, ⟨?_, carried⟩, ?_⟩,
      same.matches_receipt fingerprints matching⟩
    · rw [same.correlationId]
      exact addressed.correlationId
    · rw [same.target]
      exact addressed.target
    · rw [same.correlationId]
      exact storedFor.operation
    · exact recorded.trans fingerprints.symm
    · rw [same.target, same.digestKind]
      exact carries.target
    · rw [same.readReceipt]
      exact read

theorem load_eq (stored : tables.receipts.row
    (identifierText sha256 .operation request.correlationId) = some row)
    (fits : Fits request.correlationId) :
    tables.load sha256 request =
      (replay sha256 (identifierText sha256 .operation request.correlationId) row request).map
        some := by
  unfold Tables.load
  rw [identifierDigest_eq_ok.mpr ⟨fits, rfl⟩]
  simp only [bind, Except.bind, stored]
  cases replay sha256 (identifierText sha256 .operation request.correlationId) row request with
  | error error => rfl
  | ok receipt => rfl

theorem claim_eq {ownerId claimId : String} {lease now : ℕ} (stored : tables.receipts.row
    (identifierText sha256 .operation request.correlationId) = some row)
    (fits : Fits request.correlationId) :
    tables.claim sha256 ownerId lease request claimId now =
      (replay sha256 (identifierText sha256 .operation request.correlationId) row request).map
        fun receipt => (tables, .replayed receipt) := by
  unfold Tables.claim
  rw [identifierDigest_eq_ok.mpr ⟨fits, rfl⟩]
  simp only [bind, Except.bind, stored]
  cases replay sha256 (identifierText sha256 .operation request.correlationId) row request with
  | error error => rfl
  | ok receipt => rfl

theorem replay_conflicts_iff (different : row.requestFingerprint ≠ fingerprint sha256 request) :
    (∃ message, replay sha256 operationId row request = .error (.conflict message)) ↔
      ∃ message, receiptFromRow sha256 operationId row request = .error (.conflict message) := by
  unfold replay
  cases read : receiptFromRow sha256 operationId row request with
  | error error => exact Iff.rfl
  | ok receipt => exact absurd (receiptFromRow_eq_ok.mp read).2.2.1 different

theorem outcomes_replayed_iff (free : sha256.CollisionFree (hashedInputs request retry outcomes))
    (valid : validateOutcomes request outcomes = .ok ())
    (written : Written sha256 request outcomes row)
    (stored : replay sha256 operationId row request = .ok receipt) :
    receipt.outcomes.map (·.toStopOutcomeFields) =
        outcomes.map (replayedOutcome sha256 request receipt.receiptId) ↔
      ∀ outcome ∈ outcomes, Legible sha256 request outcome := by
  obtain ⟨_, _, _, _, read⟩ := receiptFromRow_eq_ok.mp (replay_eq_ok.mp stored).1
  obtain ⟨identity, scope, parsed, readBack⟩ := readReceipt_outcomes read
  rw [written.scope, ofValue_value] at parsed
  cases parsed
  have belongs := validateOutcomes_belongs valid
  have target_member : ∀ target ∈ request.target,
      identifierBytes (requestTargetDigestKind request) target ∈
        hashedInputs request retry outcomes := by
    intro target member
    refine mem_append_left _ (mem_append_right _ (mem_map_of_mem ?_))
    exact mem_append_left _ (mem_append_left _ (mem_toList.mpr member))
  have composed : Forall₂ (fun outcome outcome' =>
      ∃ rowOf, outcomeRow sha256 request outcome = .ok rowOf ∧
        outcomeFromRow sha256 request.scope row.receiptId request rowOf = .ok outcome')
      outcomes receipt.outcomes :=
    forall₂_comp written.outcomes readBack
  refine map_eq_map_iff composed ?_
  intro outcome member outcome' related
  obtain ⟨rowOf, outward, inward⟩ := related
  rw [identity]
  refine replayed_iff_legible free target_member ?_ (belongs outcome member) outward inward
  exact mem_append_right _ (mem_map_of_mem member)

/-- **Retries are answered right exactly when they are replayable**, at any time after the receipt
was committed. -/
theorem retry_replays_iff {leases : String → ℕ} {source target : System}
    {labels : List (String × Call)} {door : StopDoor} {claimId : Option String} {now : ℕ}
    (free : sha256.CollisionFree (hashedInputs request retry outcomes))
    (absent : before.receipts.row (identifierText sha256 .operation request.correlationId) = none)
    (persisted : before.persist sha256 request outcomes door claimId receiptId now =
      .ok (source.tables, receipt))
    (run : Transition.Run (Steps sha256 leases) source labels target)
    (same : retry.correlationId = request.correlationId) :
    Replays sha256 target.tables request outcomes receipt retry ↔
      Replayable sha256 request outcomes retry := by
  obtain ⟨row, written, stored, kept⟩ : ∃ row, Written sha256 request outcomes row ∧
      replay sha256 (identifierText sha256 .operation request.correlationId) row request =
        .ok receipt ∧
      target.tables.receipts.row (identifierText sha256 .operation request.correlationId) =
        some row := by
    generalize committed : source.tables = after at persisted
    cases persist_persists persisted with
    | replayed found _ =>
      rw [absent] at found
      cases found
    | committed _ _ _ built read =>
      refine ⟨_, receiptRow_written built, read, receipt_kept_of_run run ?_⟩
      rw [committed]
      exact Table.row_insert_self _ _ _
  have valid := persist_validates persisted
  obtain ⟨addressed, storedFor, recorded, _, _⟩ :=
    receiptFromRow_eq_ok.mp (replay_eq_ok.mp stored).1
  have fits : Fits retry.correlationId := by
    rw [same]
    exact addressed.correlationId
  rw [← same] at kept
  have operation : identifierText sha256 .operation retry.correlationId =
      identifierText sha256 .operation request.correlationId := by rw [same]
  constructor
  · intro replays
    refine ⟨?_, ?_, ?_⟩
    · intro exact_retry
      have same_request := sameRequest_of_fingerprint free (mem_append_left _
        (mem_append_left _ mem_cons_self)) (mem_append_left _
        (mem_append_left _ (mem_cons_of_mem _ mem_cons_self))) exact_retry
      have loaded := (replays.exact exact_retry).1
      rw [load_eq kept fits, operation] at loaded
      refine same_request.turn_iff.mp
        ((replay_retry_iff free written stored same_request exact_retry).mp ?_)
      exact map_eq_ok_of_injective (some_injective _) loaded
    · intro exact_retry
      exact (outcomes_replayed_iff free valid written stored).mp (replays.exact exact_retry).2.2
    · intro different
      obtain ⟨message, loaded⟩ := (replays.different different).1
      rw [load_eq kept fits, operation] at loaded
      have conflicts := (replay_conflicts_iff (by
        rw [written.fingerprint]
        exact different.symm)).mp ⟨message, map_eq_error loaded⟩
      have found := (receiptFromRow_conflicts ⟨storedFor.required, operation.symm, storedFor.shape⟩
        (by rw [written.fingerprint]; exact different.symm)).mp conflicts
      exact ⟨found.target, found.turnId⟩
  · intro replayable
    refine ⟨?_, ?_⟩
    · intro exact_retry
      have same_request := sameRequest_of_fingerprint free (mem_append_left _
        (mem_append_left _ mem_cons_self)) (mem_append_left _
        (mem_append_left _ (mem_cons_of_mem _ mem_cons_self))) exact_retry
      have read := (replay_retry_iff free written stored same_request exact_retry).mpr
        (same_request.turn_iff.mpr (replayable.turn exact_retry))
      refine ⟨?_, ?_, ?_⟩
      · rw [load_eq kept fits, operation, read]
        rfl
      · intro ownerId lease claimId now
        rw [claim_eq kept fits, operation, read]
        rfl
      · exact (outcomes_replayed_iff free valid written stored).mpr (replayable.legible exact_retry)
    · intro different
      obtain ⟨target, turnId⟩ := replayable.addressed different
      have unlike : row.requestFingerprint ≠ fingerprint sha256 retry := by
        rw [written.fingerprint]
        exact different.symm
      obtain ⟨message, read⟩ := (replay_conflicts_iff unlike).mpr ((receiptFromRow_conflicts
        ⟨storedFor.required, operation.symm, storedFor.shape⟩ unlike).mpr ⟨fits, target, turnId⟩)
      refine ⟨⟨message, ?_⟩, ?_⟩
      · rw [load_eq kept fits, operation, read]
        rfl
      · intro ownerId lease claimId now
        refine ⟨message, ?_⟩
        rw [claim_eq kept fits, operation, read]
        rfl

end Retries

section TurnEvidence

def unknownTurn : StopRequest where
  scope := .turn
  actorId := "operator"
  target := some "request"
  targetAgentId := some "agent"
  reason := none
  cascade := true
  correlationId := "operation"
  targetIsTurnId := false
  requestGeneration := none
  turnId := some "request"
  spanId := none
  traceId := none
  valid := by decide +kernel
  turned := fun _ => Option.some_ne_none _

def knownTurn : StopRequest where
  toStopRequestFields := { unknownTurn.toStopRequestFields with turnId := some "turn" }
  valid := by decide +kernel
  turned := fun _ => Option.some_ne_none _

def tracedRetry : StopRequest where
  toStopRequestFields := { unknownTurn.toStopRequestFields with traceId := some "trace" }
  valid := by decide +kernel
  turned := fun _ => Option.some_ne_none _

def completedOutcome : StopOutcome where
  scope := .turn
  requestedTarget := some "request"
  resolvedTarget := "request"
  agentId := "agent"
  disposition := .alreadyComplete
  correlationId := "operation"
  detail := none
  receiptId := none
  valid := by decide +kernel

def noReceipts : Tables := ⟨.empty, .empty, .empty⟩

/-- The committed receipt of `unknownTurn`. -/
def committedReceipt : Except ReceiptError (Tables × StopReceipt) :=
  noReceipts.persist .standard unknownTurn [completedOutcome] .agent none "receipt" 0

theorem committedReceipt_ok : ∃ after receipt, committedReceipt = .ok (after, receipt) := by
  have succeeds : committedReceipt.isOk = true := by decide +kernel
  cases persisted : committedReceipt with
  | error error =>
    rw [persisted] at succeeds
    cases succeeds
  | ok result => exact ⟨result.1, result.2, rfl⟩

/-- A retry within another trace replays the receipt. -/
theorem tracedRetry_replays : ∃ after receipt, committedReceipt = .ok (after, receipt) ∧
    Replays .standard after unknownTurn [completedOutcome] receipt tracedRetry := by
  obtain ⟨after, receipt, persisted⟩ := committedReceipt_ok
  have free : Sha256.CollisionFree .standard
      (hashedInputs unknownTurn tracedRetry [completedOutcome]) :=
    Sha256.collisionFree_of_nodup (by decide +kernel)
  have unclaimed : ∀ operationId row, after.claims.row operationId = some row → row.claimId ∈ [] := by
    cases persist_persists persisted with
    | replayed stored _ => cases stored
    | committed _ _ _ _ _ =>
      intro _ _ held
      cases held
  refine ⟨after, receipt, persisted, ?_⟩
  have idle : Transition.Run (Steps .standard fun _ => 2000000) ⟨0, after, [], unclaimed⟩ []
      ⟨0, after, [], unclaimed⟩ := .nil _
  have absent : noReceipts.receipts.row
      (identifierText .standard .operation unknownTurn.correlationId) = none := rfl
  have committed : noReceipts.persist .standard unknownTurn [completedOutcome] .agent none "receipt"
      0 = .ok ((⟨0, after, [], unclaimed⟩ : System).tables, receipt) := persisted
  refine (retry_replays_iff free absent committed idle rfl).mpr ?_
  refine ⟨fun _ _ _ => .inl rfl, ?_, ?_⟩
  · intro _ outcome member
    rw [mem_singleton] at member
    subst member
    refine ⟨?_, ?_⟩
    · decide +kernel
    · decide +kernel
  · intro different
    exact absurd (by decide +kernel) different

/-- **A retry that knows the turn finds its intact receipt corrupt.** -/
theorem knownTurn_corrupt : ∃ after receipt, committedReceipt = .ok (after, receipt) ∧
    fingerprint .standard knownTurn = fingerprint .standard unknownTurn ∧
    after.load .standard knownTurn =
      .error (.corrupt "Stop receipt opaque target identity is invalid") ∧
    ¬ Replays .standard after unknownTurn [completedOutcome] receipt knownTurn := by
  obtain ⟨after, receipt, persisted⟩ := committedReceipt_ok
  have same : fingerprint .standard knownTurn = fingerprint .standard unknownTurn := by
    decide +kernel
  have corrupt : (committedReceipt >>= fun result => result.1.load .standard knownTurn) =
      .error (.corrupt "Stop receipt opaque target identity is invalid") := by decide +kernel
  rw [persisted] at corrupt
  refine ⟨after, receipt, persisted, same, corrupt, ?_⟩
  intro replays
  have loaded := (replays.exact same).1
  rw [show after.load .standard knownTurn = _ from corrupt] at loaded
  cases loaded

end TurnEvidence

end Kestrel.Stop.Receipt
