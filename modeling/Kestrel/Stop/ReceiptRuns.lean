import Kestrel.Base.Run
import Kestrel.Stop.Receipt

/-!
# Runs of the Stop receipt store

Any number of owners call the store on one database clock that never goes back. What one call can
do to the rows of an operation is stated once, as `Change`.
-/

namespace Kestrel.Stop.Receipt

open Except Table Tables

variable {sha256 : Sha256} {before after tables : Tables} {request : StopRequest}
  {ownerId claimId receiptId operationId : String} {lease now : ℕ}

theorem require_eq_ok {condition : Prop} [Decidable condition] {error : ReceiptError} :
    require condition error = .ok () ↔ condition := by
  unfold require
  split_ifs with holds
  · exact iff_of_true rfl holds
  · refine iff_of_false ?_ holds
    intro impossible
    cases impossible

theorem require_bind_eq_ok {Result : Type} {condition : Prop} [Decidable condition]
    {error : ReceiptError} {next : Unit → Except ReceiptError Result} {result : Result} :
    (require condition error >>= next) = .ok result ↔ condition ∧ next () = .ok result := by
  rw [bind_eq_ok]
  constructor
  · intro found
    obtain ⟨_, holds, succeeded⟩ := found
    exact ⟨require_eq_ok.mp holds, succeeded⟩
  · intro found
    exact ⟨(), require_eq_ok.mpr found.1, found.2⟩

theorem identifierDigest_eq_ok {kind : IdentifierKind} {value digest : String} :
    identifierDigest sha256 kind value = .ok digest ↔
      (Bytes.utf8 value).length < 256 ^ 4 ∧ identifierText sha256 kind value = digest := by
  unfold identifierDigest
  split_ifs with long
  · refine iff_of_false ?_ (fun found => absurd long (Nat.not_le_of_lt found.1))
    intro impossible
    cases impossible
  · constructor
    · intro found
      exact ⟨Nat.lt_of_not_le long, ok.inj found⟩
    · intro found
      exact congrArg Except.ok found.2

section Calls

theorem replay_fingerprint {row : ReceiptRow} {receipt : StopReceipt}
    (read : replay sha256 operationId row request = .ok receipt) :
    row.requestFingerprint = fingerprint sha256 request := by
  unfold replay receiptFromRow at read
  obtain ⟨_, read, _⟩ := bind_eq_ok.mp read
  obtain ⟨_, _, read⟩ := bind_eq_ok.mp read
  obtain ⟨_, _, read⟩ := bind_eq_ok.mp read
  rw [require_bind_eq_ok, require_bind_eq_ok, require_bind_eq_ok] at read
  exact read.2.2.1

def Tables.BoundTo (tables : Tables) (operationId requestFingerprint : String) : Prop :=
  ∀ row, tables.bindings.row operationId = some row → row.requestFingerprint = requestFingerprint

variable {requestFingerprint : String} {outcomes : List StopOutcome} {door : StopDoor}

theorem bindingMatches_eq_ok {bound : Bool}
    (matching : tables.bindingMatches operationId requestFingerprint = .ok bound) :
    tables.BoundTo operationId requestFingerprint ∧
      (bound = false ↔ tables.bindings.row operationId = none) := by
  unfold bindingMatches at matching
  unfold BoundTo
  cases stored : tables.bindings.row operationId with
  | none =>
    rw [stored] at matching
    cases matching
    refine ⟨?_, iff_of_true rfl rfl⟩
    intro row impossible
    cases impossible
  | some row =>
    rw [stored] at matching
    dsimp only at matching
    split_ifs at matching with same
    cases matching
    refine ⟨?_, iff_of_false Bool.noConfusion (Option.some_ne_none row)⟩
    intro row' found
    cases found
    exact same

theorem bindOperation_eq_ok (committed : before.bindOperation sha256 request now = .ok after) :
    (before.receipts.row (identifierText sha256 .operation request.correlationId)).all
        (·.requestFingerprint = fingerprint sha256 request) = true ∧
      (before.claims.row (identifierText sha256 .operation request.correlationId)).all
        (·.requestFingerprint = fingerprint sha256 request) = true ∧
      before.BoundTo (identifierText sha256 .operation request.correlationId)
        (fingerprint sha256 request) ∧
      (after = before ∧
          before.bindings.row (identifierText sha256 .operation request.correlationId) ≠ none ∨
        after = { before with
          bindings := before.bindings.insert
            (identifierText sha256 .operation request.correlationId)
            ⟨fingerprint sha256 request, now⟩ }) := by
  unfold bindOperation at committed
  obtain ⟨operationId, digest, committed⟩ := bind_eq_ok.mp committed
  obtain ⟨_, rfl⟩ := identifierDigest_eq_ok.mp digest
  rw [require_bind_eq_ok, require_bind_eq_ok, bind_eq_ok] at committed
  obtain ⟨receipts, claims, bound, matching, committed⟩ := committed
  obtain ⟨boundTo, unbound⟩ := bindingMatches_eq_ok matching
  refine ⟨receipts, claims, boundTo, ?_⟩
  cases bound with
  | true =>
    cases committed
    exact .inl ⟨rfl, fun absent => Bool.noConfusion (unbound.mpr absent)⟩
  | false =>
    cases committed
    exact .inr rfl

/-- What a committed `claim` did. -/
inductive Claims (sha256 : Sha256) (ownerId : String) (lease : ℕ) (request : StopRequest)
    (claimId : String) (now : ℕ) (before : Tables) : Tables → ClaimAnswer → Prop where
  | replayed {row : ReceiptRow} {receipt : StopReceipt} :
      before.receipts.row (identifierText sha256 .operation request.correlationId) = some row →
      replay sha256 (identifierText sha256 .operation request.correlationId) row request =
        .ok receipt →
      Claims sha256 ownerId lease request claimId now before before (.replayed receipt)
  | inProgress {row : ClaimRow} :
      before.receipts.row (identifierText sha256 .operation request.correlationId) = none →
      before.BoundTo (identifierText sha256 .operation request.correlationId)
        (fingerprint sha256 request) →
      before.claims.row (identifierText sha256 .operation request.correlationId) = some row →
      row.requestFingerprint = fingerprint sha256 request → ¬ row.Expired lease now →
      Claims sha256 ownerId lease request claimId now before before .inProgress
  | claimed {taken : Bool} :
      before.receipts.row (identifierText sha256 .operation request.correlationId) = none →
      before.BoundTo (identifierText sha256 .operation request.correlationId)
        (fingerprint sha256 request) →
      (∀ row, before.claims.row (identifierText sha256 .operation request.correlationId) =
        some row → row.requestFingerprint = fingerprint sha256 request ∧ row.Expired lease now) →
      Claims sha256 ownerId lease request claimId now before
        { before with
          claims := before.claims.insert (identifierText sha256 .operation request.correlationId)
            ⟨fingerprint sha256 request, claimId, now, some ownerId, some now⟩ }
        (.claimed ⟨request.correlationId, fingerprint sha256 request, claimId, taken⟩)

theorem claim_claims {answer : ClaimAnswer}
    (committed : before.claim sha256 ownerId lease request claimId now = .ok (after, answer)) :
    Claims sha256 ownerId lease request claimId now before after answer := by
  unfold claim at committed
  obtain ⟨operationId, digest, committed⟩ := bind_eq_ok.mp committed
  obtain ⟨_, rfl⟩ := identifierDigest_eq_ok.mp digest
  cases stored : before.receipts.row (identifierText sha256 .operation request.correlationId) with
  | some row =>
    rw [stored] at committed
    obtain ⟨receipt, read, committed⟩ := bind_eq_ok.mp committed
    cases committed
    exact .replayed stored read
  | none =>
    rw [stored] at committed
    dsimp only at committed
    obtain ⟨bound, matching, committed⟩ := bind_eq_ok.mp committed
    have boundTo := (bindingMatches_eq_ok matching).1
    cases held : before.claims.row (identifierText sha256 .operation request.correlationId) with
    | none =>
      rw [held] at committed
      dsimp only [claimIdUnique] at committed
      rw [require_bind_eq_ok] at committed
      cases committed.2
      refine .claimed stored boundTo ?_
      intro row impossible
      rw [held] at impossible
      cases impossible
    | some row =>
      rw [held] at committed
      obtain ⟨same, committed⟩ := require_bind_eq_ok.mp committed
      by_cases expired : row.Expired lease now
      · rw [if_pos expired] at committed
        dsimp only [claimIdUnique] at committed
        rw [require_bind_eq_ok] at committed
        cases committed.2
        refine .claimed stored boundTo ?_
        intro row' found
        rw [held] at found
        cases found
        exact ⟨same, expired⟩
      · rw [if_neg expired] at committed
        cases committed
        exact .inProgress stored boundTo held same expired

theorem renewClaim_eq_ok {claim : StopOperationClaim} {renewed : Bool}
    (committed : before.renewClaim sha256 ownerId lease claim now = .ok (after, renewed)) :
    after = before ∧ renewed = false ∨
      ∃ row, before.claims.row (identifierText sha256 .operation claim.operationId) = some row ∧
        row.Renewable ownerId lease claim.claimId now ∧ renewed = true ∧
        after = { before with
          claims := before.claims.insert (identifierText sha256 .operation claim.operationId)
            { row with heartbeatAt := some now } } := by
  unfold renewClaim at committed
  obtain ⟨operationId, digest, committed⟩ := bind_eq_ok.mp committed
  obtain ⟨_, rfl⟩ := identifierDigest_eq_ok.mp digest
  cases held : before.claims.row (identifierText sha256 .operation claim.operationId) with
  | none =>
    rw [held] at committed
    cases committed
    exact .inl ⟨rfl, rfl⟩
  | some row =>
    rw [held] at committed
    dsimp only at committed
    by_cases renewable : row.Renewable ownerId lease claim.claimId now
    · rw [if_pos renewable] at committed
      cases committed
      exact .inr ⟨row, rfl, renewable, rfl, rfl⟩
    · rw [if_neg renewable] at committed
      cases committed
      exact .inl ⟨rfl, rfl⟩

def Tables.CommitsUnder (tables : Tables) (operationId requestFingerprint : String) :
    Option String → Prop
  | none => tables.claims.row operationId = none
  | some claimId => ∃ row, tables.claims.row operationId = some row ∧
      row.requestFingerprint = requestFingerprint ∧ row.claimId = claimId

variable {claimId : Option String}

theorem requireClaim_eq_ok
    (allowed : tables.requireClaim operationId requestFingerprint claimId = .ok ()) :
    tables.CommitsUnder operationId requestFingerprint claimId := by
  unfold requireClaim at allowed
  rw [require_bind_eq_ok, require_eq_ok] at allowed
  obtain ⟨elsewhere, missing⟩ := allowed
  cases held : tables.claims.row operationId with
  | none =>
    cases claimId with
    | none => exact held
    | some claimId =>
      rw [held] at missing
      simp at missing
  | some row =>
    rw [held] at elsewhere
    cases claimId with
    | none => simp at elsewhere
    | some claimId =>
      simp only [Option.isNone_some, Bool.false_eq_true, Option.any_some, Option.some.injEq,
        Bool.and_eq_true, decide_eq_true_eq, false_or] at elsewhere
      exact ⟨row, held, elsewhere⟩

/-- What a committed `persist` did. -/
inductive Persists (sha256 : Sha256) (request : StopRequest) (outcomes : List StopOutcome)
    (door : StopDoor) (claimId : Option String) (receiptId : String) (now : ℕ) (before : Tables) :
    Tables → StopReceipt → Prop where
  | replayed {row : ReceiptRow} {receipt : StopReceipt} :
      before.receipts.row (identifierText sha256 .operation request.correlationId) = some row →
      replay sha256 (identifierText sha256 .operation request.correlationId) row request =
        .ok receipt →
      Persists sha256 request outcomes door claimId receiptId now before before receipt
  | committed {row : ReceiptRow} {receipt : StopReceipt} :
      before.receipts.row (identifierText sha256 .operation request.correlationId) = none →
      before.BoundTo (identifierText sha256 .operation request.correlationId)
        (fingerprint sha256 request) →
      before.CommitsUnder (identifierText sha256 .operation request.correlationId)
        (fingerprint sha256 request) claimId →
      receiptRow sha256 request outcomes door now receiptId = .ok row →
      replay sha256 (identifierText sha256 .operation request.correlationId) row request =
        .ok receipt →
      Persists sha256 request outcomes door claimId receiptId now before
        (before.insertReceipt (identifierText sha256 .operation request.correlationId) row claimId)
        receipt

theorem persist_persists {receipt : StopReceipt}
    (committed : before.persist sha256 request outcomes door claimId receiptId now =
      .ok (after, receipt)) :
    Persists sha256 request outcomes door claimId receiptId now before after receipt := by
  unfold persist at committed
  obtain ⟨_, _, committed⟩ := bind_eq_ok.mp committed
  obtain ⟨operationId, digest, committed⟩ := bind_eq_ok.mp committed
  obtain ⟨_, rfl⟩ := identifierDigest_eq_ok.mp digest
  cases stored : before.receipts.row (identifierText sha256 .operation request.correlationId) with
  | some row =>
    rw [stored] at committed
    obtain ⟨receipt, read, committed⟩ := bind_eq_ok.mp committed
    cases committed
    exact .replayed stored read
  | none =>
    rw [stored] at committed
    dsimp only at committed
    obtain ⟨bound, matching, committed⟩ := bind_eq_ok.mp committed
    obtain ⟨_, allowed, committed⟩ := bind_eq_ok.mp committed
    obtain ⟨row, built, committed⟩ := bind_eq_ok.mp committed
    rw [require_bind_eq_ok, bind_eq_ok] at committed
    obtain ⟨_, receipt, read, committed⟩ := committed
    cases committed
    exact .committed stored (bindingMatches_eq_ok matching).1 (requireClaim_eq_ok allowed) built
      read

theorem persist_validates {receipt : StopReceipt}
    (committed : before.persist sha256 request outcomes door claimId receiptId now =
      .ok (after, receipt)) : validateOutcomes request outcomes = .ok () := by
  unfold persist at committed
  obtain ⟨_, valid, _⟩ := bind_eq_ok.mp committed
  exact valid

end Calls

section Runs

/-- A call of an owner on the store. -/
inductive Call where
  | bindOperation (request : StopRequest)
  | claim (request : StopRequest) (claimId : String)
  | renewClaim (claim : StopOperationClaim)
  | persist (request : StopRequest) (outcomes : List StopOutcome) (door : StopDoor)
      (claimId : Option String) (receiptId : String)

def Call.draws : Call → List String
  | .claim _ claimId => [claimId]
  | .bindOperation _ | .renewClaim _ | .persist _ _ _ _ _ => []

def Call.asks : Call → Option StopRequest
  | .bindOperation request | .claim request _ | .persist request _ _ _ _ => some request
  | .renewClaim _ => none

def Tables.perform (sha256 : Sha256) (ownerId : String) (lease now : ℕ) (tables : Tables) :
    Call → Except ReceiptError Tables
  | .bindOperation request => tables.bindOperation sha256 request now
  | .claim request claimId =>
    (tables.claim sha256 ownerId lease request claimId now).map Prod.fst
  | .renewClaim claim => (tables.renewClaim sha256 ownerId lease claim now).map Prod.fst
  | .persist request outcomes door claimId receiptId =>
    (tables.persist sha256 request outcomes door claimId receiptId now).map Prod.fst

/-- The tables at a reading of the clock, and the claim identities drawn so far. -/
structure System where
  clock : ℕ
  tables : Tables
  drawn : List String
  drawn_claims : ∀ operationId row, tables.claims.row operationId = some row → row.claimId ∈ drawn

/-- An owner makes a call. Its transaction is rolled back, also where the owner dies, or commits.
Identities are never drawn twice. -/
structure Steps (sha256 : Sha256) (lease : String → ℕ) (before : System) (label : String × Call)
    (after : System) : Prop where
  passes : before.clock ≤ after.clock
  fresh : ∀ claimId ∈ label.2.draws, claimId ∉ before.drawn
  drawn : after.drawn = label.2.draws ++ before.drawn
  performed : after.tables = before.tables ∨
    before.tables.perform sha256 label.1 (lease label.1) after.clock label.2 = .ok after.tables

inductive Change (sha256 : Sha256) (ownerId : String) (lease now : ℕ) (operationId : String)
    (before after : Tables) : Call → Prop where
  | kept {call : Call} : after.receipts.row operationId = before.receipts.row operationId →
      after.claims.row operationId = before.claims.row operationId →
      after.bindings.row operationId = before.bindings.row operationId →
      Change sha256 ownerId lease now operationId before after call
  | bound {request : StopRequest} :
      identifierText sha256 .operation request.correlationId = operationId →
      (∀ row, before.claims.row operationId = some row →
        row.requestFingerprint = fingerprint sha256 request) →
      before.BoundTo operationId (fingerprint sha256 request) →
      after.receipts.row operationId = before.receipts.row operationId →
      after.claims.row operationId = before.claims.row operationId →
      after.bindings.row operationId = some ⟨fingerprint sha256 request, now⟩ →
      Change sha256 ownerId lease now operationId before after (.bindOperation request)
  | claimed {request : StopRequest} {claimId : String} :
      identifierText sha256 .operation request.correlationId = operationId →
      before.receipts.row operationId = none →
      before.BoundTo operationId (fingerprint sha256 request) →
      (∀ row, before.claims.row operationId = some row →
        row.requestFingerprint = fingerprint sha256 request ∧ row.Expired lease now) →
      after.receipts.row operationId = none →
      after.claims.row operationId =
        some ⟨fingerprint sha256 request, claimId, now, some ownerId, some now⟩ →
      after.bindings.row operationId = before.bindings.row operationId →
      Change sha256 ownerId lease now operationId before after (.claim request claimId)
  | renewed {claim : StopOperationClaim} {row : ClaimRow} :
      before.claims.row operationId = some row →
      row.Renewable ownerId lease claim.claimId now →
      after.receipts.row operationId = before.receipts.row operationId →
      after.claims.row operationId = some { row with heartbeatAt := some now } →
      after.bindings.row operationId = before.bindings.row operationId →
      Change sha256 ownerId lease now operationId before after (.renewClaim claim)
  | committed {request : StopRequest} {outcomes : List StopOutcome} {door : StopDoor}
      {claimId : Option String} {receiptId : String} {row : ReceiptRow} :
      identifierText sha256 .operation request.correlationId = operationId →
      before.receipts.row operationId = none →
      before.BoundTo operationId (fingerprint sha256 request) →
      before.CommitsUnder operationId (fingerprint sha256 request) claimId →
      row.requestFingerprint = fingerprint sha256 request →
      after.receipts.row operationId = some row →
      after.claims.row operationId = none →
      after.bindings.row operationId = before.bindings.row operationId →
      Change sha256 ownerId lease now operationId before after
        (.persist request outcomes door claimId receiptId)

variable {row : ReceiptRow} {leases : String → ℕ} {source : System}

theorem receiptRow_fingerprint {outcomes : List StopOutcome} {door : StopDoor}
    (built : receiptRow sha256 request outcomes door now receiptId = .ok row) :
    row.requestFingerprint = fingerprint sha256 request := by
  unfold receiptRow at built
  obtain ⟨_, _, built⟩ := bind_eq_ok.mp built
  obtain ⟨_, _, built⟩ := bind_eq_ok.mp built
  obtain ⟨_, _, built⟩ := bind_eq_ok.mp built
  cases built
  rfl

/-- **What a committed call can do to an operation.** -/
theorem perform_change {call : Call} (operationId : String)
    (performed : before.perform sha256 ownerId lease now call = .ok after) :
    Change sha256 ownerId lease now operationId before after call := by
  cases call with
  | bindOperation request =>
    obtain ⟨_, claims, bound, ⟨rfl, _⟩ | rfl⟩ := bindOperation_eq_ok performed
    · exact .kept rfl rfl rfl
    · by_cases same : identifierText sha256 .operation request.correlationId = operationId
      · subst same
        refine .bound rfl ?_ bound rfl rfl (row_insert_self _ _ _)
        intro row held
        rw [held] at claims
        simpa using claims
      · exact .kept rfl rfl (row_insert_of_ne _ _ (Ne.symm same))
  | claim request claimId =>
    obtain ⟨answer, claimed⟩ := map_fst_eq_ok performed
    cases claim_claims claimed with
    | replayed | inProgress => exact .kept rfl rfl rfl
    | claimed absent bound free =>
      by_cases same : identifierText sha256 .operation request.correlationId = operationId
      · subst same
        exact .claimed rfl absent bound free absent (row_insert_self _ _ _) rfl
      · exact .kept rfl (row_insert_of_ne _ _ (Ne.symm same)) rfl
  | renewClaim claim =>
    obtain ⟨answer, renewed⟩ := map_fst_eq_ok performed
    obtain ⟨rfl, _⟩ | ⟨row, held, renewable, _, rfl⟩ := renewClaim_eq_ok renewed
    · exact .kept rfl rfl rfl
    · by_cases same : identifierText sha256 .operation claim.operationId = operationId
      · subst same
        exact .renewed held renewable rfl (row_insert_self _ _ _) rfl
      · exact .kept rfl (row_insert_of_ne _ _ (Ne.symm same)) rfl
  | persist request outcomes door claimId receiptId =>
    obtain ⟨receipt, persisted⟩ := map_fst_eq_ok performed
    cases persist_persists persisted with
    | replayed => exact .kept rfl rfl rfl
    | committed absent bound under built _ =>
      by_cases same : identifierText sha256 .operation request.correlationId = operationId
      · subst same
        refine .committed rfl absent bound under (receiptRow_fingerprint built)
          (row_insert_self _ _ _) ?_ rfl
        cases claimId with
        | none => exact under
        | some claimId =>
          change (keep _ _).row _ = none
          rw [row_keep_key, if_neg (not_not.mpr rfl)]
      · refine .kept (row_insert_of_ne _ _ (Ne.symm same)) ?_ rfl
        cases claimId with
        | none => rfl
        | some claimId =>
          change (keep _ _).row _ = _
          rw [row_keep_key, if_pos (Ne.symm same)]

theorem Steps.change {target : System} {label : String × Call}
    (steps : Steps sha256 leases source label target) (operationId : String) :
    Change sha256 label.1 (leases label.1) target.clock operationId source.tables target.tables
      label.2 := by
  rcases steps.performed with same | performed
  · rw [same]
    exact .kept rfl rfl rfl
  · exact perform_change operationId performed

theorem Change.receipt_kept {call : Call}
    (change : Change sha256 ownerId lease now operationId before after call)
    (stored : before.receipts.row operationId = some row) :
    after.receipts.row operationId = some row := by
  cases change with
  | kept receipts _ _ | bound _ _ _ receipts _ _ | renewed _ _ receipts _ _ =>
    exact receipts.trans stored
  | claimed _ absent _ _ _ _ _ | committed _ absent _ _ _ _ _ _ =>
    rw [absent] at stored
    cases stored

/-- **A stored receipt stays as it is in every run.** -/
theorem receipt_kept_of_run {target : System} {labels : List (String × Call)}
    (run : Transition.Run (Steps sha256 leases) source labels target)
    (stored : source.tables.receipts.row operationId = some row) :
    target.tables.receipts.row operationId = some row := by
  have preserved : ∀ source label target,
      source.tables.receipts.row operationId = some row → Steps sha256 leases source label target →
      target.tables.receipts.row operationId = some row :=
    fun _ _ _ stored steps => (steps.change operationId).receipt_kept stored
  exact run.invariant preserved stored

end Runs

end Kestrel.Stop.Receipt
