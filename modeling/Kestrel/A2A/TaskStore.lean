import Kestrel.A2A.TaskOutcome
import Kestrel.Base.Rows

/-!
# The shared task table

A creator and the workers of a recipient write one row, each through an operation with a predicate of
its own. An operation is one statement or one transaction under the row's lock, so it is one step.
-/

namespace Kestrel.A2A.TaskStore

/-- What an operation raises, by its class. -/
inductive Refusal where
  | valueError (message : String)
  | unauthorized (message : String)
  | alreadyExists (message : String)
  | outcomeConflict (message : String)
  | inputConflict (message : String)
  | inputUnsupported (message : String)
  | inputTerminal (message : String)
  | contextOwnership (message : String)
  | invalidParams
  | invalidAgentResponse (message : String)
  | queryError
  deriving DecidableEq, Repr

/-- The functions of the protocol kit that the store calls. -/
structure Sdk where
  /-- The identity fields of a task. -/
  validIdentity : String → String → Bool
  validStatus : TaskStatus → Bool
  validMessage : Message → Bool
  validArtifact : Artifact → Bool
  /-- `validate_proto_required_fields` of a task. -/
  validTask : TaskRecord → Bool
  /-- `Timestamp.ToJsonString` does not raise. -/
  validTimestamp : ℤ × ℤ → Bool
  appendArtifact : TaskRecord → Artifact → Bool → Except String TaskRecord

/-- A row of `a2a_tasks`. -/
structure TaskRow where
  id : String
  tenant : String
  sessionId : String
  creatorAgentId : String
  recipientAgentId : String
  status : TaskState
  message : Option Message
  statusTimestamp : Option (ℤ × ℤ)
  artifacts : List Artifact
  history : List Message
  metadata : Option Metadata
  inputRevision : ℕ
  cognitionWakeEligible : Bool
  inputWakeEligible : Bool
  canceledBy : Option String
  cancelReason : Option String
  cancelPreviousStatus : Option TaskState
  cancelOperationId : Option String
  terminalOperationId : Option String
  deriving DecidableEq

/-- A row of `a2a_task_inputs`. -/
structure TaskInputRow where
  taskId : String
  inputRevision : ℕ
  messageId : String
  wireRequestDigest : String
  deriving DecidableEq, Repr

structure Tables where
  tasks : List TaskRow
  inputs : List TaskInputRow
  deriving DecidableEq

def Tables.empty : Tables := ⟨[], []⟩

/-! ## Rows and tasks -/

def withoutReservedCancellationReceipt (metadata : Metadata) : Metadata :=
  metadata.filter fun field => field.1 ≠ "cancellation_receipt"

def optionalText : Option String → Datum
  | some value => .text value
  | none => .other "null"

def TaskRow.cancellationReceipt (row : TaskRow) : Option Extension :=
  row.canceledBy.map fun actor => .object
    [("actor_agent_id", .text actor), ("reason", optionalText row.cancelReason),
      ("status_before", optionalText (row.cancelPreviousStatus.bind taskStateLabel))]

/-- `_row_to_task`. -/
def TaskRow.task (row : TaskRow) : TaskRecord where
  id := row.id
  contextId := row.sessionId
  status := ⟨row.status, row.message, row.statusTimestamp⟩
  artifacts := row.artifacts
  history := row.history
  metadata :=
    match row.cancellationReceipt with
    | none => row.metadata.map withoutReservedCancellationReceipt
    | some receipt =>
      some (withoutReservedCancellationReceipt (row.metadata.getD []) ++
        [("cancellation_receipt", receipt)])

/-- The columns that `_task_payload` fills. -/
structure Payload where
  message : Option Message
  artifacts : List Artifact
  history : List Message
  metadata : Option Metadata

def taskPayload (sdk : Sdk) (task : TaskRecord) : Except Refusal Payload := do
  Except.require (sdk.validTask task = true) .invalidParams
  return {
    message := task.status.message
    artifacts := task.artifacts
    history := task.history
    metadata := task.metadata.map withoutReservedCancellationReceipt }

def TaskRow.store (row : TaskRow) (payload : Payload) : TaskRow :=
  { row with
    message := payload.message
    artifacts := payload.artifacts
    history := payload.history
    metadata := payload.metadata }

def statusTimestamp (sdk : Sdk) (status : TaskStatus) : Except Refusal (Option (ℤ × ℤ)) :=
  match status.timestamp with
  | none => .ok none
  | some stamp =>
    if sdk.validTimestamp stamp then .ok (some stamp)
    else .error (.valueError "Timestamp out of range")

/-- `_stored_state`: only a concrete state has a label. -/
def storedState (state : TaskState) : Except Refusal TaskState := do
  Except.require ((taskStateLabel state).isSome = true)
    (.valueError "A persisted A2A task requires a concrete lifecycle state")
  return state

def liveStates : List TaskState := [.submitted, .working, .inputRequired, .authRequired]

/-- `_TASK_SCOPE`. -/
def TaskRow.inScope (row : TaskRow) (scope : NativeRecipientScope) : Bool :=
  row.recipientAgentId = scope.recipientId && row.tenant = scope.tenant

/-! ## The turn that writes -/

/-- The signal whose dispatch the caller runs inside. -/
structure TurnSignal where
  source : String
  targetAgent : String
  taskId : Option String
  inputRevision : Option ℤ
  deriving DecidableEq, Repr

/-- `_input_revision_predicate`: the input revision that a row has to have, if any. -/
def inputRevisionPredicate (signal : Option TurnSignal) (taskId recipientAgentId : String) :
    Except Refusal (Option ℕ) :=
  match signal with
  | none => .ok none
  | some signal =>
    if signal.source ≠ "a2a.task_submitted" then .ok none
    else if signal.targetAgent ≠ recipientAgentId ∨ signal.taskId ≠ some taskId then .ok none
    else
      match signal.inputRevision with
      | some (.ofNat revision) => .ok (some revision)
      | _ => .error (.valueError "Task mutation requires its admitted input revision")

def TaskRow.admits (row : TaskRow) : Option ℕ → Bool
  | none => true
  | some revision =>
    row.inputRevision = revision && row.cognitionWakeEligible && row.inputWakeEligible

/-! ## Creation and inputs -/

def create (sdk : Sdk) (scope : NativeRecipientScope) (task : TaskRecord)
    (creatorAgentId recipientAgentId : String) (cognitionWakeEligible inputWakeEligible : Bool)
    (tables : Tables) : Except Refusal Tables := do
  Except.require (recipientAgentId = scope.recipientId)
    (.unauthorized "Task recipient does not match the selected store")
  Except.require (creatorAgentId ≠ "" ∧ recipientAgentId ≠ "")
    (.valueError "Task creation requires concrete authority identities")
  Except.require (task.status.state ≠ .canceled)
    (.valueError "CANCELED is an authorized transition; use cancel_if_authorized")
  let payload ← taskPayload sdk task
  let timestamp ← statusTimestamp sdk task.status
  let state ← storedState task.status.state
  -- `ON CONFLICT (id) DO NOTHING` under any scope, and the fences of terminal rows report the same.
  Except.require (tables.tasks.any (fun row => row.id = task.id) = false)
    (.alreadyExists ("Task already exists: " ++ task.id))
  return { tables with
    tasks := tables.tasks ++ [{
      id := task.id
      tenant := scope.tenant
      sessionId := task.contextId
      creatorAgentId
      recipientAgentId
      status := state
      message := payload.message
      statusTimestamp := timestamp
      artifacts := payload.artifacts
      history := payload.history
      metadata := payload.metadata
      inputRevision := 0
      cognitionWakeEligible
      inputWakeEligible
      canceledBy := none
      cancelReason := none
      cancelPreviousStatus := none
      cancelOperationId := none
      terminalOperationId := none }] }

/-- `NativeTaskInput`: a prepared request with its original digest. -/
structure NativeTaskInput where
  request : SendMessageRequest
  wireRequestDigest : String

/-- `_write_input`, under the table's primary key and its unique message identities. -/
def writeInput (taskId : String) (revision : ℕ) (input : NativeTaskInput) (tables : Tables) :
    Except Refusal Tables := do
  Except.require (tables.inputs.any (fun row => row.taskId = taskId &&
      (row.inputRevision = revision || row.messageId = input.request.message.messageId)) = false)
    .queryError
  return { tables with
    inputs := tables.inputs ++
      [⟨taskId, revision, input.request.message.messageId, input.wireRequestDigest⟩] }

/-- `_input_payload` of a prepared input. -/
def requireUser (input : NativeTaskInput) : Except Refusal Unit :=
  Except.require (input.request.message.role = .user)
    (.inputConflict "Native task input requires a user message")

def recordInitialInput (scope : NativeRecipientScope) (task : TaskRecord) (input : NativeTaskInput)
    (creatorAgentId : String) (tables : Tables) : Except Refusal Tables := do
  requireUser input
  Except.require (input.request.tenant = scope.tenant ∧ input.request.message.taskId = "" ∧
      task.history.head? = some input.request.message)
    (.inputConflict "Initial request differs from its admitted task")
  let current := tables.tasks.find? fun row =>
    row.id = task.id && row.inScope scope && row.creatorAgentId = creatorAgentId
  Except.require (current.map TaskRow.inputRevision = some 0)
    (.inputConflict "Initial request has no matching creator-owned task")
  writeInput task.id 0 input tables

def deliveryIntentUri : String :=
  "https://github.com/KestrelSovereignAI/kestrel-sovereign/blob/main/" ++
    "docs/architecture/NATIVE_MCP_A2A.md#delivery-intent-v1"

def Tables.creatorRow (tables : Tables) (scope : NativeRecipientScope) (taskId creator : String) :
    Option TaskRow :=
  tables.tasks.find? fun row => row.id = taskId && row.inScope scope && row.creatorAgentId = creator

def Tables.priorInput (tables : Tables) (taskId messageId : String) : Option TaskInputRow :=
  tables.inputs.find? fun row => row.taskId = taskId && row.messageId = messageId

/-- `append_creator_input`. It answers with the row, if any, and with whether it appended.
`contextOwned` is what `require_owned` finds of the task's context. -/
def appendCreatorInput (sdk : Sdk) (scope : NativeRecipientScope) (input : NativeTaskInput)
    (creatorAgentId : String) (contextOwned : Bool) (now : ℤ × ℤ) (tables : Tables) :
    Except Refusal (Bool × Tables) := do
  requireUser input
  Except.require (Text.isBlank creatorAgentId = false)
    (.valueError "Task continuation requires a verified creator")
  let message := input.request.message
  Except.require (message.taskId ≠ "" ∧ input.request.tenant = scope.tenant)
    (.inputConflict "Task continuation requires its routed task and tenant")
  match tables.creatorRow scope message.taskId creatorAgentId with
  | none => return (false, tables)
  | some row =>
    Except.require (row.status.isTerminal = false)
      (.inputTerminal "A terminal task cannot accept additional messages")
    Except.require (row.cognitionWakeEligible = true ∧ row.inputWakeEligible = true)
      (.inputUnsupported "This task does not accept incoming cognition inputs")
    Except.require (message.contextId = "" ∨ message.contextId = row.sessionId)
      (.inputConflict "Task and message context identifiers disagree")
    Except.require (contextOwned = true)
      (.contextOwnership "Native A2A context is not owned by this sender")
    match tables.priorInput row.id message.messageId with
    | some prior =>
      Except.require (prior.wireRequestDigest = input.wireRequestDigest)
        (.inputConflict "Message ID already belongs to another native request")
      return (false, tables)
    | none =>
      Except.require (∀ uri ∈ [deliveryIntentUri, questionCorrelationUri],
          input.request.metadata.lookup uri = none ∨
            input.request.metadata.lookup uri = row.task.fields.lookup uri)
        (.inputConflict
          "Continuation cannot change the task's question or delivery identity")
      let payload ← taskPayload sdk { row.task with
        history := row.history ++ [message]
        status := ⟨.submitted, none, some now⟩ }
      let tasks := Rows.update tables.tasks
        (fun other => other.id = row.id && other.inScope scope &&
          other.creatorAgentId = creatorAgentId && other.inputRevision = row.inputRevision)
        fun other => { other.store payload with
          inputRevision := row.inputRevision + 1
          status := .submitted
          statusTimestamp := some now }
      let written ← writeInput row.id (row.inputRevision + 1) input { tables with tasks }
      return (true, written)

/-! ## The recipient's writes -/

/-- `_save_recipient_lifecycle_from_states`. It answers with the task it committed, if any. -/
def saveRecipientLifecycleFromStates (sdk : Sdk) (scope : NativeRecipientScope)
    (signal : Option TurnSignal) (task baseline : TaskRecord) (recipientAgentId : String)
    (expectedStates : List TaskState) (terminalOperationId : Option String) (tables : Tables) :
    Except Refusal (Option TaskRecord × Tables) := do
  Except.require (Text.isBlank recipientAgentId = false)
    (.valueError "Task lifecycle recipient must be a concrete identity")
  Except.require (expectedStates ≠ []) (.valueError "Task lifecycle CAS requires an expected state")
  Except.require (sdk.validTask task = true) .invalidParams
  Except.require (sdk.validTask baseline = true) .invalidParams
  let timestamp ← statusTimestamp sdk task.status
  let admitted ← inputRevisionPredicate signal task.id recipientAgentId
  let expected ← expectedStates.mapM storedState
  let predicate := fun row : TaskRow => row.id = task.id && row.inScope scope &&
    row.sessionId = task.contextId && row.recipientAgentId = recipientAgentId &&
    expected.contains row.status && row.admits admitted
  match tables.tasks.find? predicate with
  | none => return (none, tables)
  | some row =>
    match mergeTaskOutcome row.task baseline task with
    | .error message => .error (.outcomeConflict message)
    | .ok merged =>
      let payload ← taskPayload sdk merged
      let state ← storedState task.status.state
      let commit := fun other : TaskRow => { other.store payload with
        status := state
        statusTimestamp := timestamp
        terminalOperationId }
      return (some (commit row).task,
        { tables with tasks := Rows.update tables.tasks predicate commit })

def saveRecipientLifecycle (sdk : Sdk) (scope : NativeRecipientScope) (signal : Option TurnSignal)
    (task baseline : TaskRecord) (recipientAgentId : String) (expectedState : TaskState)
    (tables : Tables) : Except Refusal (Option TaskRecord × Tables) := do
  Except.require (Text.isBlank recipientAgentId = false)
    (.valueError "Task lifecycle recipient must be a concrete identity")
  Except.require (task.status.state ≠ .canceled)
    (.valueError "CANCELED is an authorized transition; use cancel_if_authorized")
  Except.require (expectedState.isTerminal = false)
    (.valueError "A terminal A2A lifecycle cannot be replaced")
  saveRecipientLifecycleFromStates sdk scope signal task baseline recipientAgentId [expectedState]
    none tables

def saveRecipientTerminalOutcome (sdk : Sdk) (scope : NativeRecipientScope)
    (signal : Option TurnSignal) (task baseline : TaskRecord)
    (recipientAgentId operationId : String) (tables : Tables) :
    Except Refusal (Option TaskRecord × Tables) := do
  Except.require (task.status.state ∈ [TaskState.completed, .failed, .rejected])
    (.valueError "Recipient execution outcomes must be completed, failed, or rejected")
  Except.require (operationId ≠ "")
    (.valueError "Recipient terminal operation ID must be a concrete string")
  saveRecipientLifecycleFromStates sdk scope signal task baseline recipientAgentId liveStates
    (some operationId) tables

/-- `update_status`. It answers with whether a row was updated. -/
def updateStatus (sdk : Sdk) (scope : NativeRecipientScope) (signal : Option TurnSignal)
    (taskId : String) (status : TaskStatus) (recipientAgentId : String)
    (expectedState : TaskState) (tables : Tables) : Except Refusal (Bool × Tables) := do
  Except.require (Text.isBlank recipientAgentId = false)
    (.valueError "Task status recipient must be a concrete identity")
  Except.require (status.state ≠ .canceled)
    (.valueError "CANCELED is an authorized transition; use cancel_if_authorized")
  Except.require (expectedState.isTerminal = false)
    (.valueError "A terminal A2A lifecycle cannot be replaced")
  Except.require (sdk.validStatus status = true) .invalidParams
  let timestamp ← statusTimestamp sdk status
  let admitted ← inputRevisionPredicate signal taskId recipientAgentId
  let state ← storedState status.state
  let expected ← storedState expectedState
  let predicate := fun row : TaskRow => row.id = taskId && row.inScope scope &&
    row.recipientAgentId = recipientAgentId && row.status = expected && row.admits admitted
  return (tables.tasks.any predicate,
    { tables with
      tasks := Rows.update tables.tasks predicate fun row => { row with
        status := state
        message := status.message
        statusTimestamp := timestamp } })

def addArtifact (sdk : Sdk) (scope : NativeRecipientScope) (signal : Option TurnSignal)
    (taskId : String) (artifact : Artifact) (recipientAgentId : String) (append : Bool)
    (tables : Tables) : Except Refusal Tables := do
  Except.require (sdk.validArtifact artifact = true) .invalidParams
  Except.require (Text.isBlank recipientAgentId = false)
    (.valueError "Task artifact recipient must be a concrete identity")
  let admitted ← inputRevisionPredicate signal taskId recipientAgentId
  let predicate := fun row : TaskRow => row.id = taskId && row.inScope scope &&
    row.recipientAgentId = recipientAgentId && row.admits admitted
  match tables.tasks.find? predicate with
  | none =>
    .error (.unauthorized
      ("Task mutation was not authorized or task was not found: " ++ taskId))
  | some row =>
    Except.require (row.status ∈ liveStates)
      (.valueError ("Cannot add artifact to terminal task " ++ taskId))
    match sdk.appendArtifact row.task artifact append with
    | .error message => .error (.invalidAgentResponse message)
    | .ok task =>
      return { tables with
        tasks := Rows.update tables.tasks
          (fun other => predicate other && liveStates.contains other.status)
          fun other => { other with artifacts := task.artifacts } }

/-! ## Cancellation -/

def cancellationText (actorAgentId : String) (reason : Option String) : String :=
  match reason with
  | none => "Task canceled by " ++ actorAgentId
  | some text =>
    if text = "" then "Task canceled by " ++ actorAgentId
    else "Task canceled by " ++ actorAgentId ++ ": " ++ text

/-- `new_text_message`, whose identity is a fresh UUID. -/
def newTextMessage (messageId text taskId contextId : String) : Message where
  messageId := messageId
  contextId := contextId
  taskId := taskId
  role := .agent
  parts := [.text text]
  metadata := []

/-- The arguments of a cancellation beside its task and its actor. The payload comes with its
baseline. -/
structure Cancellation where
  expectedRecipientAgentId : Option String
  reason : Option String
  payload : Option (TaskRecord × TaskRecord)
  operationId : Option String
  /-- The identity of the message that the cancellation appends. -/
  messageId : String
  now : ℤ × ℤ

def cancelIfAuthorized (sdk : Sdk) (scope : NativeRecipientScope) (signal : Option TurnSignal)
    (taskId actorAgentId : String) (cancellation : Cancellation) (tables : Tables) :
    Except Refusal (Option TaskRecord × Tables) := do
  Except.require (actorAgentId ≠ "")
    (.valueError "Cancellation actor must be a concrete agent identity")
  Except.require (cancellation.operationId ≠ some "")
    (.valueError "Cancellation operation ID must be a concrete string")
  Except.require (cancellation.expectedRecipientAgentId ≠ some "")
    (.valueError "Expected cancellation recipient must be a concrete agent identity")
  Except.require (∀ given ∈ cancellation.payload,
    sdk.validTask given.1 = true ∧ sdk.validTask given.2 = true) .invalidParams
  Except.require (∀ given ∈ cancellation.payload,
      given.1.id = taskId ∧ given.1.status.state = .canceled)
    (.valueError "Cancellation payload must be the canceled form of the same task")
  let admitted ← inputRevisionPredicate signal taskId actorAgentId
  let predicate := fun row : TaskRow => row.id = taskId && row.inScope scope &&
    liveStates.contains row.status &&
    (row.creatorAgentId = actorAgentId || row.recipientAgentId = actorAgentId) &&
    cancellation.expectedRecipientAgentId.all (fun recipient => row.recipientAgentId = recipient) &&
    row.admits admitted
  match tables.tasks.find? predicate with
  | none => return (none, tables)
  | some row =>
    let merging := match cancellation.payload with
      | some (task, baseline) => mergeTaskOutcome row.task baseline task
      | none => .ok row.task
    match merging with
    | .error message => .error (.outcomeConflict message)
    | .ok merged =>
      let message := newTextMessage cancellation.messageId
        (cancellationText actorAgentId cancellation.reason) taskId merged.contextId
      let payload ← taskPayload sdk { merged with
        status := ⟨.canceled, some message, some cancellation.now⟩
        history := merged.history ++ [message] }
      let commit := fun other : TaskRow => { other.store payload with
        cancelPreviousStatus := some other.status
        status := .canceled
        statusTimestamp := some cancellation.now
        canceledBy := some actorAgentId
        cancelReason := cancellation.reason
        cancelOperationId := cancellation.operationId }
      return (some (commit row).task,
        { tables with tasks := Rows.update tables.tasks predicate commit })

end Kestrel.A2A.TaskStore
