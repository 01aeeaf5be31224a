import Kestrel.Stop.ReceiptRuns

/-!
# Fencing of Stop operation claims

A claim is replaced only when its owner's lease ran out, and no owner that lost its claim can make
it live again or commit under it. An operation has one receipt, of the one request that was ever
accepted for it.
-/

namespace Kestrel.Stop.Receipt

open Transition Option Table

variable {sha256 : Sha256} {leases : String → ℕ} {operationId ownerId : String} {lease now : ℕ}
  {before after : Tables} {call : Call} {source target : System} {label : String × Call}
  {labels : List (String × Call)}

section Commits

def Commits (operationId : String) (before after : Tables) : Prop :=
  before.receipts.row operationId = none ∧ after.receipts.row operationId ≠ none

theorem Change.committed_under
    (change : Change sha256 ownerId lease now operationId before after call)
    (commits : Commits operationId before after) :
    ∃ request outcomes door claimId receiptId,
      call = .persist request outcomes door claimId receiptId ∧
      identifierText sha256 .operation request.correlationId = operationId ∧
      before.CommitsUnder operationId (fingerprint sha256 request) claimId := by
  obtain ⟨absent, stored⟩ := commits
  cases change with
  | kept receipts _ _ | bound _ _ _ receipts _ _ | renewed _ _ receipts _ _ =>
    exact absurd (receipts.trans absent) stored
  | claimed _ _ _ _ receipts _ _ => exact absurd receipts stored
  | committed same _ _ under _ _ _ _ => exact ⟨_, _, _, _, _, rfl, same, under⟩

theorem Change.dropped (change : Change sha256 ownerId lease now operationId before after call)
    (held : before.claims.row operationId ≠ none) (dropped : after.claims.row operationId = none) :
    Commits operationId before after := by
  cases change with
  | kept _ claims _ | bound _ _ _ _ claims _ => exact absurd (claims.symm.trans dropped) held
  | claimed _ _ _ _ _ claims _ | renewed _ _ _ claims _ =>
    rw [claims] at dropped
    cases dropped
  | committed _ absent _ _ _ stored _ _ =>
    refine ⟨absent, ?_⟩
    rw [stored]
    exact some_ne_none _

end Commits

section Leases

variable {row row' : ClaimRow}

theorem Change.claim_origin (change : Change sha256 ownerId lease now operationId before after call)
    (held' : after.claims.row operationId = some row') :
    before.claims.row operationId = some row' ∨
      (∃ row, before.claims.row operationId = some row ∧ row.ownerId = some ownerId ∧
        row.heartbeatAt.any (now < · + lease) = true ∧
        row' = { row with heartbeatAt := some now }) ∨
      (row'.claimId ∈ call.draws ∧
        ∀ row, before.claims.row operationId = some row → row.Expired lease now) := by
  cases change with
  | kept _ claims _ | bound _ _ _ _ claims _ => exact .inl (claims.symm.trans held')
  | claimed _ _ _ free _ claims _ =>
    rw [claims] at held'
    cases held'
    exact .inr (.inr ⟨List.mem_singleton_self _, fun row held => (free row held).2⟩)
  | renewed held renewable _ claims _ =>
    rw [claims] at held'
    cases held'
    exact .inr (.inl ⟨_, held, renewable.2.1, renewable.2.2, rfl⟩)
  | committed _ _ _ _ _ _ claims _ =>
    rw [claims] at held'
    cases held'

/-- A claim's lease ran out: by its own owner's lease, or by the grace of claims without a
heartbeat. -/
def ClaimRow.Lapsed (leases : String → ℕ) (now : ℕ) (row : ClaimRow) : Prop :=
  (row.heartbeatAt = none ∧ row.claimedAt + legacyClaimGrace ≤ now) ∨
    ∃ ownerId heartbeat, row.ownerId = some ownerId ∧ row.heartbeatAt = some heartbeat ∧
      heartbeat + leases ownerId ≤ now

theorem ClaimRow.Lapsed.later {later : ℕ} (lapsed : row.Lapsed leases now) (passes : now ≤ later) :
    row.Lapsed leases later := by
  rcases lapsed with ⟨absent, old⟩ | ⟨ownerId, heartbeat, owner, present, old⟩
  · exact .inl ⟨absent, Nat.le_trans old passes⟩
  · exact .inr ⟨ownerId, heartbeat, owner, present, Nat.le_trans old passes⟩

theorem ClaimRow.Lapsed.not_renewable (lapsed : row.Lapsed leases now)
    (owner : row.ownerId = some ownerId) :
    row.heartbeatAt.any (now < · + leases ownerId) = false := by
  rcases lapsed with ⟨absent, _⟩ | ⟨ownerId', heartbeat, owner', present, old⟩
  · rw [absent]
    rfl
  · rw [owner] at owner'
    cases owner'
    rw [present, any_some, decide_eq_false_iff_not]
    exact Nat.not_lt_of_le old

/-- A claim that lapsed stays as it is for as long as the operation keeps it. -/
def Frozen (leases : String → ℕ) (operationId : String) (row : ClaimRow) (system : System) : Prop :=
  row.claimId ∈ system.drawn ∧ row.Lapsed leases system.clock ∧
    ∀ row', system.tables.claims.row operationId = some row' → row'.claimId = row.claimId →
      row' = row

theorem Steps.not_redrawn (steps : Steps sha256 leases source label target) {claimId : String}
    (drawn : claimId ∈ source.drawn) : claimId ∈ target.drawn ∧ claimId ∉ label.2.draws := by
  refine ⟨?_, fun redrawn => steps.fresh claimId redrawn drawn⟩
  rw [steps.drawn]
  exact List.mem_append_right _ drawn

theorem Frozen.step (frozen : Frozen leases operationId row source)
    (steps : Steps sha256 leases source label target) :
    Frozen leases operationId row target := by
  obtain ⟨drawn, lapsed, fixed⟩ := frozen
  obtain ⟨drawn', fresh⟩ := steps.not_redrawn drawn
  have lapsed' := lapsed.later steps.passes
  refine ⟨drawn', lapsed', ?_⟩
  intro row' held' same
  rcases (steps.change operationId).claim_origin held' with held | ⟨_, held, owner, live, rfl⟩ | ⟨drawn', _⟩
  · exact fixed row' held same
  · have equal := fixed _ held same
    subst equal
    rw [lapsed'.not_renewable owner] at live
    cases live
  · exact absurd (same ▸ drawn') fresh

def Lost (operationId claimId : String) (system : System) : Prop :=
  claimId ∈ system.drawn ∧
    ∀ row, system.tables.claims.row operationId = some row → row.claimId ≠ claimId

theorem Lost.step {claimId : String} (lost : Lost operationId claimId source)
    (steps : Steps sha256 leases source label target) : Lost operationId claimId target := by
  obtain ⟨drawn, absent⟩ := lost
  obtain ⟨drawn', fresh⟩ := steps.not_redrawn drawn
  refine ⟨drawn', ?_⟩
  intro row' held' same
  rcases (steps.change operationId).claim_origin held' with held | ⟨row, held, _, _, rfl⟩ | ⟨drawn', _⟩
  · exact absent row' held same
  · exact absent row held same
  · exact absurd (same ▸ drawn') fresh

end Leases

section Requests

variable {requestFingerprint requestFingerprint' : String}

/-- The operation is decided for the requests of one fingerprint: its receipt has it, or it has no
receipt yet and its claim and its binding have it, at least one of which is there. -/
def Decides (operationId requestFingerprint : String) (tables : Tables) : Prop :=
  (∃ row, tables.receipts.row operationId = some row ∧
      row.requestFingerprint = requestFingerprint) ∨
    (tables.receipts.row operationId = none ∧
      (∀ row, tables.claims.row operationId = some row →
        row.requestFingerprint = requestFingerprint) ∧
      tables.BoundTo operationId requestFingerprint ∧
      (tables.claims.row operationId ≠ none ∨ tables.bindings.row operationId ≠ none))

theorem Decides.eq_of_fits (decides : Decides operationId requestFingerprint before)
    (absent : before.receipts.row operationId = none)
    (claims : ∀ row, before.claims.row operationId = some row →
      row.requestFingerprint = requestFingerprint')
    (bound : before.BoundTo operationId requestFingerprint') :
    requestFingerprint' = requestFingerprint := by
  rcases decides with ⟨row, stored, _⟩ | ⟨_, claims', bound', present⟩
  · rw [absent] at stored
    cases stored
  · rcases present with claimed | binding
    · obtain ⟨row, held⟩ := ne_none_iff_exists'.mp claimed
      exact (claims row held).symm.trans (claims' row held)
    · obtain ⟨row, held⟩ := ne_none_iff_exists'.mp binding
      exact (bound row held).symm.trans (bound' row held)

theorem Tables.CommitsUnder.fingerprint_eq {claimId : Option String} {row : ClaimRow}
    (under : before.CommitsUnder operationId requestFingerprint claimId)
    (held : before.claims.row operationId = some row) :
    row.requestFingerprint = requestFingerprint := by
  cases claimId with
  | none =>
    have absent : before.claims.row operationId = none := under
    rw [absent] at held
    cases held
  | some claimId =>
    obtain ⟨row', held', same, _⟩ := under
    rw [held] at held'
    cases held'
    exact same

theorem Decides.change (decides : Decides operationId requestFingerprint before)
    (change : Change sha256 ownerId lease now operationId before after call) :
    Decides operationId requestFingerprint after := by
  rcases decides with ⟨row, stored, same⟩ | undecided
  · exact .inl ⟨row, change.receipt_kept stored, same⟩
  have decides : Decides operationId requestFingerprint before := .inr undecided
  obtain ⟨absent, claims, bound, present⟩ := undecided
  cases change with
  | kept receipts' claims' bindings' =>
    refine .inr ⟨receipts'.trans absent, ?_, ?_, ?_⟩
    · rw [claims']
      exact claims
    · unfold Tables.BoundTo
      rw [bindings']
      exact bound
    · rw [claims', bindings']
      exact present
  | bound _ fits bound' receipts' claims' binding =>
    have same := decides.eq_of_fits absent fits bound'
    refine .inr ⟨receipts'.trans absent, ?_, ?_, .inr ?_⟩
    · rw [claims']
      exact claims
    · intro row stored
      rw [binding] at stored
      cases stored
      exact same
    · rw [binding]
      exact some_ne_none _
  | claimed _ _ bound' fits receipts' claim bindings' =>
    have same := decides.eq_of_fits absent (fun row held => (fits row held).1) bound'
    refine .inr ⟨receipts', ?_, ?_, .inl ?_⟩
    · intro row stored
      rw [claim] at stored
      cases stored
      exact same
    · unfold Tables.BoundTo
      rw [bindings']
      exact bound
    · rw [claim]
      exact some_ne_none _
  | renewed held _ receipts' claim bindings' =>
    refine .inr ⟨receipts'.trans absent, ?_, ?_, .inl ?_⟩
    · intro row stored
      rw [claim] at stored
      cases stored
      exact (claims _ held :)
    · unfold Tables.BoundTo
      rw [bindings']
      exact bound
    · rw [claim]
      exact some_ne_none _
  | committed _ _ bound' under same receipt _ _ =>
    refine .inl ⟨_, receipt, ?_⟩
    rw [same]
    refine decides.eq_of_fits absent ?_ bound'
    intro row held
    exact under.fingerprint_eq held

/-- A request is accepted for an operation that has its receipt, or for one without a receipt that
it fits; either way it decides the operation. -/
theorem perform_accepts {request : StopRequest} (asks : call.asks = some request)
    (same : identifierText sha256 .operation request.correlationId = operationId)
    (performed : before.perform sha256 ownerId lease now call = .ok after) :
    Decides operationId (fingerprint sha256 request) after ∧
      ((∃ row, before.receipts.row operationId = some row ∧
          row.requestFingerprint = fingerprint sha256 request) ∨
        (before.receipts.row operationId = none ∧ (∀ row, before.claims.row operationId = some row →
            row.requestFingerprint = fingerprint sha256 request) ∧
          before.BoundTo operationId (fingerprint sha256 request))) := by
  subst same
  cases call with
  | renewClaim => cases asks
  | bindOperation request' =>
    cases asks
    obtain ⟨receipts, claims, bound, written⟩ := bindOperation_eq_ok performed
    have fits : ∀ row, before.claims.row (identifierText sha256 .operation request.correlationId) =
        some row → row.requestFingerprint = fingerprint sha256 request := by
      intro row held
      rw [held] at claims
      simpa using claims
    cases stored : before.receipts.row (identifierText sha256 .operation request.correlationId) with
    | some row =>
      rw [stored] at receipts
      have equal : row.requestFingerprint = fingerprint sha256 request := by
        simpa using receipts
      refine ⟨.inl ⟨row, ?_, equal⟩, .inl ⟨row, rfl, equal⟩⟩
      rcases written with ⟨rfl, _⟩ | rfl
      · exact stored
      · exact stored
    | none =>
      refine ⟨.inr ?_, .inr ⟨rfl, fits, bound⟩⟩
      rcases written with ⟨rfl, present⟩ | rfl
      · exact ⟨stored, fits, bound, .inr present⟩
      · refine ⟨stored, fits, ?_, .inr ?_⟩
        · intro row found
          rw [row_insert_self] at found
          cases found
          rfl
        · change (insert _ _ _).row _ ≠ none
          rw [row_insert_self]
          exact some_ne_none _
  | claim request' claimId =>
    cases asks
    obtain ⟨answer, claimed⟩ := Except.map_fst_eq_ok performed
    cases claim_claims claimed with
    | replayed stored read =>
      have equal := replay_fingerprint read
      exact ⟨.inl ⟨_, stored, equal⟩, .inl ⟨_, stored, equal⟩⟩
    | inProgress absent bound held equal _ =>
      have fits : ∀ row', before.claims.row
          (identifierText sha256 .operation request.correlationId) = some row' →
          row'.requestFingerprint = fingerprint sha256 request := by
        intro row' held'
        rw [held] at held'
        cases held'
        exact equal
      refine ⟨.inr ⟨absent, fits, bound, .inl ?_⟩, .inr ⟨absent, fits, bound⟩⟩
      rw [held]
      exact some_ne_none _
    | claimed absent bound free =>
      refine ⟨.inr ⟨absent, ?_, bound, .inl ?_⟩,
        .inr ⟨absent, fun row held => (free row held).1, bound⟩⟩
      · intro row held
        rw [row_insert_self] at held
        cases held
        rfl
      · rw [row_insert_self]
        exact some_ne_none _
  | persist request' outcomes door claimId receiptId =>
    cases asks
    obtain ⟨receipt, persisted⟩ := Except.map_fst_eq_ok performed
    cases persist_persists persisted with
    | replayed stored read =>
      have equal := replay_fingerprint read
      exact ⟨.inl ⟨_, stored, equal⟩, .inl ⟨_, stored, equal⟩⟩
    | committed absent bound under built _ =>
      exact ⟨.inl ⟨_, row_insert_self _ _ _, receiptRow_fingerprint built⟩,
        .inr ⟨absent, fun row held => under.fingerprint_eq held, bound⟩⟩

/-- The call of an owner on the operation committed: its request, with a fingerprint, was
accepted. -/
def Accepts (sha256 : Sha256) (leases : String → ℕ) (operationId requestFingerprint : String)
    (source : System) (label : String × Call) (target : System) : Prop :=
  Steps sha256 leases source label target ∧
    source.tables.perform sha256 label.1 (leases label.1) target.clock label.2 =
      .ok target.tables ∧
    ∃ request, label.2.asks = some request ∧
      identifierText sha256 .operation request.correlationId = operationId ∧
      fingerprint sha256 request = requestFingerprint

theorem Accepts.decides
    (accepts : Accepts sha256 leases operationId requestFingerprint source label target) :
    Decides operationId requestFingerprint target.tables := by
  obtain ⟨_, performed, request, asks, same, rfl⟩ := accepts
  exact (perform_accepts asks same performed).1

theorem Accepts.eq_of_decides
    (accepts : Accepts sha256 leases operationId requestFingerprint' source label target)
    (decides : Decides operationId requestFingerprint source.tables) :
    requestFingerprint' = requestFingerprint := by
  obtain ⟨_, performed, request, asks, same, rfl⟩ := accepts
  rcases (perform_accepts asks same performed).2 with ⟨row, stored, equal⟩ | ⟨absent, fits, bound⟩
  · rcases decides with ⟨row', stored', equal'⟩ | ⟨absent, _⟩
    · rw [stored] at stored'
      cases stored'
      exact equal.symm.trans equal'
    · rw [absent] at stored
      cases stored
  · exact decides.eq_of_fits absent fits bound

end Requests

section Contract

/-- What the store promises of an operation from a system on, in whatever order owners call. -/
structure Fenced (sha256 : Sha256) (leases : String → ℕ) (operationId : String)
    (system : System) : Prop where
  /-- The receipt stays the only one. -/
  one_receipt : ∀ labels later label next row,
    Run (Steps sha256 leases) system labels later →
    system.tables.receipts.row operationId = some row →
    later.tables.receipts.row operationId = some row ∧
      (Steps sha256 leases later label next → ¬ Commits operationId later.tables next.tables)
  /-- A receipt is committed under the current claim, or without one where there is no claim. -/
  committed_under : ∀ label next, Steps sha256 leases system label next →
    Commits operationId system.tables next.tables →
    ∃ request outcomes door claimId receiptId,
      label.2 = .persist request outcomes door claimId receiptId ∧
      identifierText sha256 .operation request.correlationId = operationId ∧
      system.tables.CommitsUnder operationId (fingerprint sha256 request) claimId
  /-- A claim is replaced only by an owner whose lease, or the grace, has passed. -/
  replaced : ∀ label next row row', Steps sha256 leases system label next →
    system.tables.claims.row operationId = some row →
    next.tables.claims.row operationId = some row' → row'.claimId ≠ row.claimId →
    row.Expired (leases label.1) next.clock
  /-- A claim goes away otherwise only with the commit of the receipt. -/
  dropped : ∀ label next, Steps sha256 leases system label next →
    system.tables.claims.row operationId ≠ none → next.tables.claims.row operationId = none →
    Commits operationId system.tables next.tables
  /-- A lapsed claim never has a new heartbeat. -/
  lapsed : ∀ labels later row row', Run (Steps sha256 leases) system labels later →
    system.tables.claims.row operationId = some row → row.Lapsed leases system.clock →
    later.tables.claims.row operationId = some row' → row'.claimId = row.claimId →
    row' = row ∧ row'.Lapsed leases later.clock
  /-- No receipt is committed under a claim that the operation no longer has, nor does the claim
  come back. -/
  lost : ∀ labels middle labels' later row, Run (Steps sha256 leases) system labels middle →
    Run (Steps sha256 leases) middle labels' later →
    system.tables.claims.row operationId = some row →
    (∀ row', middle.tables.claims.row operationId = some row' → row'.claimId ≠ row.claimId) →
    ∀ requestFingerprint,
      ¬ later.tables.CommitsUnder operationId requestFingerprint (some row.claimId)
  /-- Two requests that are accepted have the same fingerprint. -/
  one_request : ∀ label next labels later label' next' requestFingerprint requestFingerprint',
    Accepts sha256 leases operationId requestFingerprint system label next →
    Run (Steps sha256 leases) next labels later →
    Accepts sha256 leases operationId requestFingerprint' later label' next' →
    requestFingerprint' = requestFingerprint

/-- **Claims are fenced, whatever the order of the calls of their owners.** -/
theorem claims_fenced (sha256 : Sha256) (leases : String → ℕ) (operationId : String)
    (system : System) : Fenced sha256 leases operationId system where
  one_receipt := fun labels later label next row run stored => by
    have kept := receipt_kept_of_run run stored
    refine ⟨kept, ?_⟩
    intro _ commits
    rw [commits.1] at kept
    cases kept
  committed_under := fun label next steps commits =>
    (steps.change operationId).committed_under commits
  replaced := fun label next row row' steps held held' distinct => by
    rcases (steps.change operationId).claim_origin held' with kept | ⟨_, kept, _, _, rfl⟩ | ⟨_, free⟩
    · rw [held] at kept
      cases kept
      exact absurd rfl distinct
    · rw [held] at kept
      cases kept
      exact absurd rfl distinct
    · exact free row held
  dropped := fun label next steps held dropped => (steps.change operationId).dropped held dropped
  lapsed := fun labels later row row' run held lapsed held' same => by
    have frozen : Frozen leases operationId row system := by
      refine ⟨system.drawn_claims _ _ held, lapsed, ?_⟩
      intro row' held' _
      rw [held] at held'
      cases held'
      rfl
    obtain ⟨_, lapsed', fixed⟩ := run.invariant (fun _ _ _ frozen steps => frozen.step steps) frozen
    have equal := fixed row' held' same
    rw [equal]
    exact ⟨rfl, lapsed'⟩
  lost := fun labels middle labels' later row run run' held lost requestFingerprint under => by
    have drawn : row.claimId ∈ middle.drawn := by
      have preserved : ∀ source label target, row.claimId ∈ source.drawn →
          Steps sha256 leases source label target → row.claimId ∈ target.drawn :=
        fun _ _ _ drawn steps => (steps.not_redrawn drawn).1
      exact run.invariant preserved (system.drawn_claims _ _ held)
    have lost : Lost operationId row.claimId middle := ⟨drawn, lost⟩
    have later_lost := run'.invariant (fun _ _ _ lost steps => lost.step steps) lost
    obtain ⟨row', held', _, same⟩ := under
    exact later_lost.2 row' held' same
  one_request := fun label next labels later label' next' requestFingerprint _ accepts run
      accepts' => by
    have preserved : ∀ source label target, Decides operationId requestFingerprint source.tables →
        Steps sha256 leases source label target →
        Decides operationId requestFingerprint target.tables :=
      fun _ _ _ decides steps => decides.change (steps.change operationId)
    exact accepts'.eq_of_decides (run.invariant preserved accepts.decides)

end Contract

section Claimless

/-- An agent's Stop that a peer is refused. -/
def refusedRequest : StopRequest where
  scope := .agent
  actorId := "peer"
  target := some "agent"
  targetAgentId := none
  reason := none
  cascade := true
  correlationId := "operation"
  targetIsTurnId := false
  requestGeneration := none
  turnId := none
  spanId := none
  traceId := none
  valid := by decide +kernel
  turned := fun impossible => by cases impossible

def refusedOutcome : StopOutcome where
  scope := .agent
  requestedTarget := some "agent"
  resolvedTarget := "agent"
  agentId := "agent"
  disposition := .refused
  correlationId := "operation"
  detail := none
  receiptId := none
  valid := by decide +kernel

/-- No receipt, claim or binding. -/
def emptySystem : System where
  clock := 0
  tables := ⟨.empty, .empty, .empty⟩
  drawn := []
  drawn_claims := fun _ _ held => by cases held

def refusal : Call := .persist refusedRequest [refusedOutcome] .peer none "receipt"

/-- Every owner has the lease of `STOP_OWNER_LEASE_SECONDS`. -/
def stopOwnerLease (_ownerId : String) : ℕ := 2 * 1000000

theorem refusal_persists : ∃ after receipt, emptySystem.tables.persist .standard refusedRequest
    [refusedOutcome] .peer none "receipt" 0 = .ok (after, receipt) := by
  have succeeds : (emptySystem.tables.persist .standard refusedRequest [refusedOutcome] .peer none
      "receipt" 0).isOk = true := by decide +kernel
  cases persisted : emptySystem.tables.persist .standard refusedRequest [refusedOutcome] .peer none
      "receipt" 0 with
  | error error =>
    rw [persisted] at succeeds
    cases succeeds
  | ok result => exact ⟨result.1, result.2, rfl⟩

/-- **A receipt is committed without any claim.** -/
theorem refusal_committed_unclaimed : ∃ next, Steps .standard stopOwnerLease emptySystem
    ("owner", refusal) next ∧
    Commits (identifierText .standard .operation refusedRequest.correlationId) emptySystem.tables
      next.tables ∧
    emptySystem.tables.claims.row
      (identifierText .standard .operation refusedRequest.correlationId) = none := by
  obtain ⟨after, receipt, persisted⟩ := refusal_persists
  have written : after.claims.row = (fun _ => none) ∧
      after.receipts.row (identifierText .standard .operation refusedRequest.correlationId) ≠ none := by
    cases persist_persists persisted with
    | replayed stored _ => cases stored
    | committed absent _ under _ _ =>
      refine ⟨rfl, ?_⟩
      unfold Tables.insertReceipt
      rw [Table.row_insert_self]
      exact some_ne_none _
  have unclaimed : ∀ operationId row, after.claims.row operationId = some row → row.claimId ∈ [] := by
    intro operationId row held
    rw [written.1] at held
    cases held
  refine ⟨⟨0, after, [], unclaimed⟩, ?_, ⟨rfl, written.2⟩, rfl⟩
  refine ⟨Nat.le_refl 0, ?_, rfl, .inr (congrArg (Except.map Prod.fst) persisted)⟩
  intro claimId member
  cases member

end Claimless

end Kestrel.Stop.Receipt
