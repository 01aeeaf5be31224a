import Kestrel.A2A.Outbound

/-!
# What a committed outbound call does

Every call leaves the rows alone, inserts one reservation or moves one row. The moves are listed
once, and what they keep of a row follows.
-/

namespace Kestrel.A2A

open Except Prod List

inductive OutboundCall where
  | reserve (seen : OutboundRows) (call : ReserveCall)
  | beginSubmission (dispatch : OutboundDispatch)
  | markUnknown (dispatch : OutboundDispatch)
  | recordNoDelivery (dispatch : OutboundDispatch)
  | beginCancellation (dispatch : OutboundDispatch) (request : CancelTaskRequest)
  | retainCancellationFailure (dispatch : OutboundDispatch) (mayHaveSent : Bool)
  | acknowledge (dispatch : OutboundDispatch) (response : Response)
  | reconcile (dispatch : OutboundDispatch) (candidates : List Task)

/-- A call as one sender's process makes it, with its clock reading and operation id. -/
structure OutboundStep where
  scope : NativeRecipientScope
  now : String
  operationId : String
  call : OutboundCall

/-- The transaction of a call on the rows it finds. -/
def OutboundStep.perform (wire : Wire) (step : OutboundStep) (rows : OutboundRows) :
    Except OutboundError (OutboundRows × Option OutboundDispatch) :=
  match step.call with
  | .reserve seen call =>
    (reserve wire step.scope step.now step.operationId seen rows call).map
      fun reserved => (reserved.1, some reserved.2)
  | .beginSubmission dispatch =>
    beginSubmission step.scope step.now rows dispatch step.operationId
  | .markUnknown dispatch => markUnknown step.scope step.now rows dispatch step.operationId
  | .recordNoDelivery dispatch =>
    recordNoDelivery step.scope step.now rows dispatch step.operationId
  | .beginCancellation dispatch request =>
    beginCancellation wire step.scope step.now rows dispatch step.operationId request
  | .retainCancellationFailure dispatch mayHaveSent =>
    retainCancellationFailure step.scope step.now rows dispatch step.operationId mayHaveSent
  | .acknowledge dispatch response =>
    acknowledge wire step.scope step.now rows dispatch step.operationId response
  | .reconcile dispatch candidates =>
    reconcile wire step.scope step.now rows dispatch step.operationId candidates

/-- The rows after a call. A refused one leaves them unchanged. -/
def OutboundStep.apply (wire : Wire) (rows : OutboundRows) (step : OutboundStep) : OutboundRows :=
  match step.perform wire rows with
  | .ok (after, _) => after
  | .error _ => rows

/-- What an answer may prove about a dispatch. -/
structure AcceptableReceipt (dispatch : OutboundDispatch) (complete : Bool) (receipt : Receipt) :
    Prop where
  task : dispatch.remoteTaskId = none ∨ receipt.remoteTaskId = dispatch.remoteTaskId
  context : dispatch.remoteContextId = none ∨
    dispatch.remoteContextId = some receipt.remoteContextId
  outcome : dispatch.state = .complete → complete = true ∧ receipt.remoteTaskState ≠ none ∧
    receipt.remoteTaskState = dispatch.remoteTaskState
  named : receipt.remoteTaskState ≠ none → receipt.remoteTaskId ≠ none

/-- The moves of a row, with what each has checked of it. -/
inductive Move (dispatch : OutboundDispatch) : OutboundCall → Assignment → Prop where
  | submission (operationId : String) : dispatch.state = .reserved →
      Move dispatch (.beginSubmission dispatch) ⟨.submitting, operationId, none, none⟩
  | uncertain (operationId : String) : dispatch.state = .submitting →
      Move dispatch (.markUnknown dispatch) ⟨.unknown, operationId, none, none⟩
  | noDelivery (operationId : String) :
      dispatch.state = .reserved ∨ dispatch.state = .submitting →
      Move dispatch (.recordNoDelivery dispatch) ⟨.notSent, operationId, none, none⟩
  | cancellation (operationId digest : String) (request : CancelTaskRequest) :
      dispatch.state = .acknowledged → dispatch.uncanceled →
      Move dispatch (.beginCancellation dispatch request)
        ⟨.acknowledged, operationId, none, some ⟨operationId, digest, .submitting⟩⟩
  | cancellationFailure (operationId cancelOperation digest : String) (mayHaveSent : Bool) :
      dispatch.state = .acknowledged → dispatch.cancelState = some .submitting →
      Move dispatch (.retainCancellationFailure dispatch mayHaveSent)
        ⟨.acknowledged, operationId, none,
          some ⟨cancelOperation, digest, if mayHaveSent then .unknown else .notSent⟩⟩
  | receipt (operationId : String) (call : OutboundCall) (complete : Bool) (receipt : Receipt) :
      (∃ response, call = .acknowledge dispatch response) ∨
        (∃ candidates, call = .reconcile dispatch candidates) →
      dispatch.state ∈
        [DispatchState.submitting, .unknown, .acknowledged, .complete] →
      AcceptableReceipt dispatch complete receipt →
      Move dispatch call
        ⟨if complete then .complete else .acknowledged, operationId, some receipt,
          if complete then dispatch.endedCancellation else none⟩

def OutboundRows.replace (rows : OutboundRows) (dispatch updated : OutboundDispatch) :
    OutboundRows :=
  rows.map fun row => if row = dispatch then updated else row

/-- A reservation that passed its checks inside the transaction. -/
structure Reserves (wire : Wire) (step : OutboundStep) (rows : OutboundRows) (call : ReserveCall)
    (reservation : OutboundDispatch) : Prop where
  row : reservation = call.reservation wire step.scope step.now step.operationId
  valid : call.validate wire = .ok ()
  lineage : call.requireLineage rows reservation = .ok ()
  fresh : ∀ row ∈ rows, ¬ row.Conflicts reservation

/-- What a committed call did. -/
inductive Effect (wire : Wire) (step : OutboundStep) (rows : OutboundRows) :
    OutboundRows → Option OutboundDispatch → Prop where
  | none : Effect wire step rows rows none
  | reserved (seen : OutboundRows) (call : ReserveCall) (reservation committed : OutboundDispatch) :
      step.call = .reserve seen call → Reserves wire step rows call reservation →
      Effect wire step rows (rows ++ [reservation]) (some committed)
  | moved (dispatch committed : OutboundDispatch) (assignment : Assignment) :
      Move dispatch step.call assignment → dispatch ∈ rows → dispatch.sender = step.scope →
      OutboundRows.Indexed (rows.replace dispatch (assignment.apply step.now dispatch)) →
      OutboundRows.get (rows.replace dispatch (assignment.apply step.now dispatch)) step.scope
        dispatch.dispatchId = some committed →
      Effect wire step rows (rows.replace dispatch (assignment.apply step.now dispatch))
        (some committed)

variable {rows after : OutboundRows} {dispatch : OutboundDispatch}
  {result : Option OutboundDispatch} {wire : Wire} {step : OutboundStep} {response : Response}

variable {assignment : Assignment} {taskId : Option String}

/-! ## The calls -/

theorem transition_eq_ok {scope : NativeRecipientScope} {now : String}
    {sources : List DispatchState}
    (succeeded : transition scope now rows dispatch sources assignment = .ok (after, result)) :
    (after = rows ∧ result = none) ∨
      ∃ committed, dispatch ∈ rows ∧ dispatch.sender = scope ∧ dispatch.state ∈ sources ∧
        after = rows.replace dispatch (assignment.apply now dispatch) ∧ after.Indexed ∧
        after.get scope dispatch.dispatchId = some committed ∧ result = some committed := by
  unfold transition at succeeded
  obtain ⟨_, _, succeeded⟩ := bind_eq_ok.mp succeeded
  obtain ⟨owned, succeeded⟩ := require_bind_eq_ok.mp succeeded
  obtain ⟨_, succeeded⟩ := require_bind_eq_ok.mp succeeded
  split_ifs at succeeded with matched
  · obtain ⟨member, source, _⟩ := matched
    have same : (rows.map fun row => if row = dispatch then assignment.apply now row else row) =
        rows.replace dispatch (assignment.apply now dispatch) := by
      apply map_congr_left
      intro row _
      by_cases found : row = dispatch
      · rw [if_pos found, if_pos found, found]
      · rw [if_neg found, if_neg found]
    rw [same] at succeeded
    obtain ⟨indexed, succeeded⟩ := require_bind_eq_ok.mp succeeded
    cases read : OutboundRows.get (rows.replace dispatch (assignment.apply now dispatch)) scope
        dispatch.dispatchId with
    | none =>
      rw [read] at succeeded
      cases succeeded
    | some committed =>
      rw [read] at succeeded
      obtain ⟨rfl, rfl⟩ := mk.inj (ok.inj succeeded)
      exact .inr ⟨committed, member, owned, source, rfl, indexed, read, rfl⟩
  · obtain ⟨rfl, rfl⟩ := mk.inj (ok.inj succeeded)
    exact .inl ⟨rfl, rfl⟩

theorem Effect.of_transition {sources : List DispatchState}
    (succeeded : transition step.scope step.now rows dispatch sources assignment =
      .ok (after, result)) (move : dispatch.state ∈ sources → Move dispatch step.call assignment) :
    Effect wire step rows after result := by
  obtain ⟨rfl, rfl⟩ | ⟨committed, member, owned, source, rfl, indexed, read, rfl⟩ :=
    transition_eq_ok succeeded
  · exact .none
  · exact .moved dispatch committed assignment (move source) member owned indexed read

theorem Response.identity_eq_ok {complete : Bool}
    (identified : response.identity = .ok (taskId, complete)) :
    (response.stateLabel ≠ none → taskId ≠ none) ∧
      (response.kind = "task" → response.stateLabel ≠ none) := by
  cases response with
  | task answer =>
    obtain ⟨known, same⟩ := require_bind_eq_ok.mp identified
    obtain ⟨rfl, rfl⟩ := mk.inj (ok.inj same)
    exact ⟨fun _ => Option.some_ne_none _, fun _ => known⟩
  | message answer =>
    refine ⟨fun labelled => (labelled rfl).elim, fun impossible => ?_⟩
    exact absurd impossible (by simp [Response.kind])

theorem validateResponse_eq_ok {complete : Bool} {digest : String}
    (validated : validateResponse wire dispatch response = .ok (taskId, complete, digest)) :
    AcceptableReceipt dispatch complete
      ⟨taskId, response.contextId, digest, response.kind, response.stateLabel⟩ := by
  unfold validateResponse at validated
  obtain ⟨_, validated⟩ := require_bind_eq_ok.mp validated
  obtain ⟨_, validated⟩ := require_bind_eq_ok.mp validated
  obtain ⟨_, validated⟩ := require_bind_eq_ok.mp validated
  rw [bind_eq_ok, Prod.exists] at validated
  obtain ⟨identified, ends, named, validated⟩ := validated
  obtain ⟨agrees, validated⟩ := require_bind_eq_ok.mp validated
  obtain ⟨outcome, validated⟩ := require_bind_eq_ok.mp validated
  obtain ⟨rfl, same⟩ := Prod.mk.inj (ok.inj validated)
  obtain ⟨rfl, rfl⟩ := Prod.mk.inj same
  have known := Response.identity_eq_ok named
  refine ⟨agrees.1, agrees.2, ?_, known.1⟩
  intro final
  obtain ⟨ended, kind, label⟩ := outcome final
  exact ⟨ended, known.2 kind, label⟩

theorem Effect.of_acknowledge (calls : (∃ response, step.call = .acknowledge dispatch response) ∨
      ∃ candidates, step.call = .reconcile dispatch candidates)
    (succeeded : acknowledge wire step.scope step.now rows dispatch step.operationId response =
      .ok (after, result)) : Effect wire step rows after result := by
  unfold acknowledge at succeeded
  obtain ⟨⟨taskId, complete, digest⟩, validated, succeeded⟩ := bind_eq_ok.mp succeeded
  apply Effect.of_transition succeeded
  intro source
  exact .receipt step.operationId step.call complete _ calls source
    (validateResponse_eq_ok validated)

theorem reserve_eq_ok {seen : OutboundRows} {call : ReserveCall} {committed : OutboundDispatch}
    (succeeded : reserve wire step.scope step.now step.operationId seen rows call =
      .ok (after, committed)) :
    Reserves wire step rows call (call.reservation wire step.scope step.now step.operationId) ∧
      after = rows ++ [call.reservation wire step.scope step.now step.operationId] := by
  unfold reserve at succeeded
  obtain ⟨_, valid, succeeded⟩ := bind_eq_ok.mp succeeded
  obtain ⟨_, _, succeeded⟩ := bind_eq_ok.mp succeeded
  obtain ⟨_, lineage, succeeded⟩ := bind_eq_ok.mp succeeded
  obtain ⟨fresh, succeeded⟩ := require_bind_eq_ok.mp succeeded
  refine ⟨⟨rfl, valid, lineage, fresh⟩, ?_⟩
  split at succeeded
  · cases succeeded
  · exact (mk.inj (ok.inj succeeded)).1.symm

/-- Every committed call has one of the listed effects. -/
theorem OutboundStep.effect (succeeded : step.perform wire rows = .ok (after, result)) :
    Effect wire step rows after result := by
  unfold perform at succeeded
  cases called : step.call with
  | reserve seen call =>
    rw [called] at succeeded
    obtain ⟨⟨grown, committed⟩, reserved, same⟩ := map_eq_ok.mp succeeded
    obtain ⟨rfl, rfl⟩ := Prod.mk.inj same
    obtain ⟨reserves, same⟩ := reserve_eq_ok reserved
    rw [same]
    exact .reserved seen call _ committed called reserves
  | beginSubmission dispatch =>
    rw [called] at succeeded
    apply Effect.of_transition succeeded
    intro source
    rw [called]
    exact .submission step.operationId (mem_singleton.mp source)
  | markUnknown dispatch =>
    rw [called] at succeeded
    apply Effect.of_transition succeeded
    intro source
    rw [called]
    exact .uncertain step.operationId (mem_singleton.mp source)
  | recordNoDelivery dispatch =>
    rw [called] at succeeded
    apply Effect.of_transition succeeded
    intro source
    rw [called]
    exact .noDelivery step.operationId (mem_pair.mp source)
  | beginCancellation dispatch request =>
    rw [called] at succeeded
    obtain ⟨allowed, succeeded⟩ := require_bind_eq_ok.mp succeeded
    apply Effect.of_transition succeeded
    intro source
    rw [called, mem_singleton.mp source]
    exact .cancellation step.operationId _ request (mem_singleton.mp source) allowed.2.2.2
  | retainCancellationFailure dispatch mayHaveSent =>
    rw [called] at succeeded
    dsimp only at succeeded
    unfold retainCancellationFailure at succeeded
    split at succeeded
    next inFlight claimed digested =>
      obtain ⟨_, succeeded⟩ := require_bind_eq_ok.mp succeeded
      apply Effect.of_transition succeeded
      intro source
      rw [called, mem_singleton.mp source]
      exact .cancellationFailure step.operationId _ _ mayHaveSent
        (mem_singleton.mp source) inFlight
    next => cases succeeded
  | acknowledge dispatch response =>
    rw [called] at succeeded
    exact Effect.of_acknowledge (.inl ⟨response, called⟩) succeeded
  | reconcile dispatch candidates =>
    rw [called] at succeeded
    obtain ⟨candidate, _, succeeded⟩ := bind_eq_ok.mp succeeded
    cases candidate with
    | none =>
      obtain ⟨rfl, rfl⟩ := Prod.mk.inj (ok.inj succeeded)
      exact .none
    | some candidate => exact Effect.of_acknowledge (.inr ⟨candidates, called⟩) succeeded

end Kestrel.A2A
