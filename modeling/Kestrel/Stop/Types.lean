import Kestrel.Base.Text
import Mathlib.Data.Int.Notation
import Mathlib.Tactic.ByContra
import Mathlib.Tactic.SplitIfs

/-!
# The vocabulary of cooperative Stop

A request is checked when it is built, so that a value of its type is a valid request.
-/

namespace Kestrel.Stop

def maxStopCorrelationIdBytes : ℕ := 256

def maxInvocationIdLength : ℕ := 256

/-- The addressable work boundary affected by a cooperative Stop. -/
inductive StopScope where
  | host
  | agent
  | turn
  | toolCall
  deriving DecidableEq, Repr

def StopScope.value : StopScope → String
  | .host => "host"
  | .agent => "agent"
  | .turn => "turn"
  | .toolCall => "tool_call"

/-- `StopScope(value)`. -/
def StopScope.ofValue (value : String) : Option StopScope :=
  [StopScope.host, .agent, .turn, .toolCall].find? (·.value = value)

@[simp] theorem StopScope.ofValue_value (scope : StopScope) : ofValue scope.value = some scope := by
  cases scope <;> decide +kernel

/-- Which door a durable Stop receipt was written through. -/
inductive StopDoor where
  | peer
  | agent
  | host
  deriving DecidableEq, Repr

def StopDoor.value : StopDoor → String
  | .peer => "peer"
  | .agent => "agent"
  | .host => "host"

/-- One resolved target's terminal Stop result. -/
inductive StopDisposition where
  | stopped
  | alreadyComplete
  | refused
  | unreachable
  deriving DecidableEq, Repr

def StopDisposition.value : StopDisposition → String
  | .stopped => "stopped"
  | .alreadyComplete => "already_complete"
  | .refused => "refused"
  | .unreachable => "unreachable"

/-- `StopDisposition(value)`. -/
def StopDisposition.ofValue (value : String) : Option StopDisposition :=
  [StopDisposition.stopped, .alreadyComplete, .refused, .unreachable].find? (·.value = value)

@[simp] theorem StopDisposition.ofValue_value (disposition : StopDisposition) :
    ofValue disposition.value = some disposition := by
  cases disposition <;> decide +kernel

/-- `validate_invocation_id`. -/
def validInvocationId (value : String) : Bool :=
  1 ≤ value.length && value.length ≤ maxInvocationIdLength

def concreteIfPresent (value : Option String) : Bool :=
  !value.any Text.isBlank

structure StopRequestFields where
  scope : StopScope
  actorId : String
  target : Option String
  targetAgentId : Option String
  reason : Option String
  cascade : Bool
  correlationId : String
  targetIsTurnId : Bool
  requestGeneration : Option ℤ
  turnId : Option String
  spanId : Option String
  traceId : Option String
  deriving DecidableEq, Repr

namespace StopRequestFields

variable (fields : StopRequestFields)

/-- The target that the scope asks for. -/
def targetFailure : Option String :=
  match fields.scope with
  | .host => if fields.target.isSome then some "host Stop cannot carry a target" else none
  | .turn | .toolCall =>
    if fields.target.any validInvocationId then none
    else some (fields.scope.value ++ " Stop requires a target")
  | .agent =>
    if fields.target.any (!Text.isBlank ·) then none
    else some (fields.scope.value ++ " Stop requires a target")

/-- The owning agent that the scope asks for. -/
def targetAgentFailure : Option String :=
  match fields.scope with
  | .turn | .toolCall =>
    if fields.targetAgentId.any (!Text.isBlank ·) then none
    else some (fields.scope.value ++ " Stop requires the owning agent identity")
  | .host =>
    if fields.targetAgentId.isSome then some "host Stop cannot carry a separate owning agent"
    else none
  | .agent =>
    if concreteIfPresent fields.targetAgentId then none
    else some "agent Stop resolved identity must be concrete"

/-- The public turn address and its owner's generation. -/
def turnAddressFailure : Option String :=
  if fields.targetIsTurnId ∧ fields.scope ≠ .turn then
    some "only turn Stop may carry a public turn address"
  else if fields.requestGeneration.any fun generation =>
      fields.scope ≠ .turn || fields.targetIsTurnId || generation ≤ 0 then
    some "request_generation requires a resolved turn request and a positive integer"
  else none

/-- The turn that the request names. -/
def turnFailure : Option String :=
  if fields.scope = .turn then
    if fields.turnId ≠ none ∧ fields.targetIsTurnId ∧ fields.turnId ≠ fields.target then
      some "public turn Stop identity must match its target"
    else if fields.turnId = some "" then some "turn_id must be a non-empty string when supplied"
    else none
  else if fields.turnId ≠ none then some "only turn Stop may carry a turn_id"
  else none

/-- The first check of `StopRequest.__post_init__` that fails. -/
def failure : Option String :=
  if Text.isBlank fields.actorId then some "actor_id must be a concrete identity"
  else if let some message := fields.targetFailure then some message
  else if let some message := fields.targetAgentFailure then some message
  else if ¬ concreteIfPresent fields.reason then
    some "reason must be a non-empty string when supplied"
  else if let some message := fields.turnAddressFailure then some message
  else if Text.isBlank fields.correlationId then some "correlation_id must be a concrete string"
  else if maxStopCorrelationIdBytes < fields.correlationId.utf8ByteSize then
    some "correlation_id must be no longer than 256 UTF-8 bytes"
  else if let some message := fields.turnFailure then some message
  else if ¬ concreteIfPresent fields.spanId then
    some "span_id must be a non-empty string when supplied"
  else if ¬ concreteIfPresent fields.traceId then
    some "trace_id must be a non-empty string when supplied"
  else none

def withTurn : StopRequestFields :=
  if fields.scope = .turn ∧ fields.turnId = none then { fields with turnId := fields.target }
  else fields

end StopRequestFields

/-- A typed request to cooperatively stop work, never a process. -/
structure StopRequest extends StopRequestFields where
  valid : toStopRequestFields.failure = none
  turned : scope = .turn → turnId ≠ none
  deriving DecidableEq

namespace StopRequest

variable {request : StopRequest}

theorem turnAddress_valid (request : StopRequest) :
    request.turnAddressFailure = none ∧ request.turnFailure = none := by
  have valid := request.valid
  unfold StopRequestFields.failure at valid
  split at valid
  · cases valid
  split at valid
  · cases valid
  split at valid
  · cases valid
  split at valid
  · cases valid
  split at valid
  · cases valid
  · rename_i address
    split at valid
    · cases valid
    split at valid
    · cases valid
    split at valid
    · cases valid
    · rename_i turn
      constructor
      · cases addressed : request.turnAddressFailure with
        | none => rfl
        | some message => exact absurd addressed (address message)
      · cases turned : request.turnFailure with
        | none => rfl
        | some message => exact absurd turned (turn message)

theorem turnId_eq_none (other : request.scope ≠ .turn) : request.turnId = none := by
  have valid := (turnAddress_valid request).2
  unfold StopRequestFields.turnFailure at valid
  rw [if_neg other] at valid
  split_ifs at valid with unnamed
  exact not_not.mp unnamed

theorem turnId_eq_target (isTurn : request.targetIsTurnId = true) :
    request.scope = .turn ∧ request.turnId = request.target := by
  obtain ⟨address, turn⟩ := turnAddress_valid request
  have scope : request.scope = .turn := by
    unfold StopRequestFields.turnAddressFailure at address
    by_contra other
    rw [if_pos ⟨isTurn, other⟩] at address
    cases address
  refine ⟨scope, ?_⟩
  unfold StopRequestFields.turnFailure at turn
  rw [if_pos scope] at turn
  by_contra different
  rw [if_pos ⟨request.turned scope, isTurn, different⟩] at turn
  cases turn

end StopRequest

/-- The fields of one target's result before they are checked together. -/
structure StopOutcomeFields where
  scope : StopScope
  requestedTarget : Option String
  resolvedTarget : String
  agentId : String
  disposition : StopDisposition
  correlationId : String
  detail : Option String
  receiptId : Option String
  deriving DecidableEq, Repr

namespace StopOutcomeFields

variable (fields : StopOutcomeFields)

def requestedTargetFailure : Option String :=
  match fields.scope with
  | .host =>
    if fields.requestedTarget.isSome then
      some "host Stop outcome cannot carry a requested target"
    else none
  | scope =>
    match fields.requestedTarget with
    | none => some (scope.value ++ " Stop outcome requires a requested target")
    | some target =>
      if scope = .turn ∨ scope = .toolCall then
        if validInvocationId target then none
        else some "requested_target must be a valid opaque work address"
      else if Text.isBlank target then
        some "requested_target must be a non-empty string when supplied"
      else none

/-- The first check of `StopOutcome.__post_init__` that fails. -/
def failure : Option String :=
  if let some message := fields.requestedTargetFailure then some message
  else if fields.resolvedTarget = "" ∨ fields.scope ≠ .turn ∧ Text.isBlank fields.resolvedTarget then
    some "resolved_target must be a non-empty string"
  else if Text.isBlank fields.agentId then some "agent_id must be a concrete string"
  else if Text.isBlank fields.correlationId then some "correlation_id must be a concrete string"
  else if ¬ concreteIfPresent fields.detail then
    some "detail must be a non-empty string when supplied"
  else if ¬ concreteIfPresent fields.receiptId then
    some "receipt_id must be a non-empty string when supplied"
  else none

end StopOutcomeFields

/-- One per-target Stop result. -/
structure StopOutcome extends StopOutcomeFields where
  valid : toStopOutcomeFields.failure = none
  deriving DecidableEq

/-- `StopOutcome(...)`. -/
def StopOutcomeFields.build (fields : StopOutcomeFields) : Except String StopOutcome :=
  match checked : fields.failure with
  | none => .ok ⟨fields, checked⟩
  | some message => .error message

theorem StopOutcomeFields.build_eq_ok {fields : StopOutcomeFields} {outcome : StopOutcome} :
    fields.build = .ok outcome ↔ fields = outcome.toStopOutcomeFields := by
  unfold build
  split
  · rename_i checked
    constructor
    · intro built
      cases built
      rfl
    · intro same
      subst same
      rfl
  · rename_i message failed
    constructor
    · intro built
      cases built
    · intro same
      rw [same, outcome.valid] at failed
      cases failed

end Kestrel.Stop
