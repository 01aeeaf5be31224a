import Kestrel.A2A.Outbound
import Kestrel.Base.Rows

/-!
# The question ledger

`NativeQuestionStore`: the outstanding questions of each sender, and the wakes that tell the asker
how a question ended. Each write transaction is one function of the database it runs on; what a
call read before its transaction is an argument.
-/

namespace Kestrel.A2A

inductive QuestionStatus where
  | waiting
  | resolved
  | expired
  deriving DecidableEq, Repr

inductive Wave where
  | answer
  | deadline
  | lateAnswer
  deriving DecidableEq, Repr

/-- `NativeQuestion`. The request and the retained response are kept as values. -/
structure NativeQuestion where
  sender : NativeRecipientScope
  questionId : String
  dispatchId : String
  recipientId : String
  recipientTenant : String
  originalQuestion : String
  request : SendMessageRequest
  originTurnId : String
  originSessionId : String
  causation : Option Extension
  deadline : ℕ
  status : QuestionStatus
  receiverSettled : Bool
  response : Option Response
  responseDigest : Option String
  deriving DecidableEq

def NativeQuestion.key (question : NativeQuestion) : NativeRecipientScope × String :=
  (question.sender, question.questionId)

structure WakePayload where
  questionId : String
  dispatchId : String
  recipientId : String
  recipientTenant : String
  originalQuestion : String
  request : Message
  originTurnId : String
  originSessionId : String
  causation : Option Extension
  state : String
  replyText : String
  late : Bool
  withdrawn : Bool
  requiresFullResponse : Bool
  deriving DecidableEq

structure QuestionWake where
  sender : NativeRecipientScope
  questionId : String
  wave : Wave
  eventId : String
  payload : WakePayload
  claimToken : Option String
  leaseUntil : Option ℕ
  handedOffAt : Option ℕ
  deliveryFailedAt : Option ℕ
  deriving DecidableEq

def QuestionWake.question (wake : QuestionWake) : NativeRecipientScope × String :=
  (wake.sender, wake.questionId)

def QuestionWake.key (wake : QuestionWake) : (NativeRecipientScope × String) × Wave :=
  (wake.question, wake.wave)

/-- Neither handed off nor failed. -/
def QuestionWake.isPending (wake : QuestionWake) : Bool :=
  wake.handedOffAt.isNone && wake.deliveryFailedAt.isNone

inductive QuestionError where
  | value (message : String)
  | conflict (message : String)
  /-- `QuestionResponseError`: the peer's answer is invalid. -/
  | response (message : String)
  | outbound (error : OutboundError)
  | unreadable (message : String)
  deriving DecidableEq, Repr

/-- The ledger's use of libraries, with `uuid5` of a sender, question and wave. -/
structure QuestionWire extends Wire where
  wakeEventId : (NativeRecipientScope × String) × Wave → String

/-- The tables that a question transaction reads and writes. -/
structure QuestionDatabase where
  dispatches : OutboundRows
  questions : List NativeQuestion
  wakes : List QuestionWake

/-! ## Answers -/

/-- The reply checks of `answer_fields`. -/
def requireReply (questionId state : String) : Option Message → Except QuestionError Unit
  | none => Except.require (state ≠ "completed")
      (.response "Completed question has no correlated answer message")
  | some reply =>
    match parseQuestionCorrelation reply.metadata with
    | .error _ => .error (.response "Answer has malformed question correlation")
    | .ok answer => Except.require
        (reply.role = .agent ∧ (answer = none → state ≠ "completed") ∧
          ∀ correlation ∈ answer, correlation = ⟨.answer, questionId⟩)
        (.response "Answer does not match the outstanding question identity")

/-- `answer_fields`: the state of an answer and the message that carries it. -/
def answerFields (questionId : String) :
    Response → Except QuestionError (String × Option Message)
  | .task answer => do
    Except.require (answer.state.isTerminal = true)
      (.response "Question answer task is not terminal")
    match parseQuestionCorrelation answer.metadata with
    | .error _ => .error (.response "Remote task has malformed question correlation")
    | .ok original =>
      Except.require (original = some ⟨.question, questionId⟩)
        (.response "Remote task lost its original question correlation")
      let state := (taskStateLabel answer.state).getD ""
      requireReply questionId state answer.statusMessage
      .ok (state, answer.statusMessage)
  | .message answer => do
    Except.require (answer.taskId = "")
      (.response "A standalone answer must retain its actual taskless identity")
    requireReply questionId "completed" (some answer)
    .ok ("completed", some answer)

/-- A terminal answer that is ready to be recorded. -/
structure Answer where
  questionId : String
  response : Response
  digest : String
  state : String
  reply : Option Message
  deriving DecidableEq

def Answer.replyText (answer : Answer) : String :=
  match answer.reply with
  | none => ""
  | some reply => (messageText reply).getD ""

/-- The answer holds more than its reply text. -/
def Answer.requiresFullResponse (answer : Answer) : Bool :=
  (match answer.response with
    | .task task => !task.artifacts.isEmpty
    | .message _ => false) ||
  match answer.reply with
  | none => false
  | some reply => reply.parts.any fun part =>
    match part with
    | .text _ => false
    | .other _ => true

namespace QuestionDatabase

def get (database : QuestionDatabase) (sender : NativeRecipientScope) (questionId : String) :
    Option NativeQuestion :=
  database.questions.find? fun question => question.key = (sender, questionId)

def forDispatch (database : QuestionDatabase) (sender : NativeRecipientScope)
    (dispatchId : String) : Option NativeQuestion :=
  database.questions.find? fun question =>
    question.sender = sender ∧ question.dispatchId = dispatchId

def updateQuestion (database : QuestionDatabase) (key : NativeRecipientScope × String)
    (test : NativeQuestion → Bool) (change : NativeQuestion → NativeQuestion) :
    QuestionDatabase × Bool :=
  let selects := fun question : NativeQuestion => decide (question.key = key) && test question
  ({ database with questions := Rows.update database.questions selects change },
    database.questions.any selects)

/-! ## Wakes -/

/-- `_insert_wake`, with `ON CONFLICT DO NOTHING` on its key and its event. -/
def insertWake (wire : QuestionWire) (database : QuestionDatabase) (question : NativeQuestion)
    (wave : Wave) (state reply : String) (withdrawn requiresFullResponse : Bool) :
    QuestionDatabase :=
  let wake : QuestionWake := {
    sender := question.sender
    questionId := question.questionId
    wave := wave
    eventId := wire.wakeEventId (question.key, wave)
    payload := {
      questionId := question.questionId
      dispatchId := question.dispatchId
      recipientId := question.recipientId
      recipientTenant := question.recipientTenant
      originalQuestion := question.originalQuestion
      request := question.request.message
      originTurnId := question.originTurnId
      originSessionId := question.originSessionId
      causation := question.causation
      state := state
      replyText := reply
      late := wave = .lateAnswer
      withdrawn := withdrawn
      requiresFullResponse := requiresFullResponse }
    claimToken := none
    leaseUntil := none
    handedOffAt := none
    deliveryFailedAt := none }
  if database.wakes.any fun other =>
      other.key = wake.key ∨ (other.sender = wake.sender ∧ other.eventId = wake.eventId) then
    database
  else { database with wakes := database.wakes ++ [wake] }

def updateWake (database : QuestionDatabase) (test : QuestionWake → Bool)
    (change : QuestionWake → QuestionWake) : QuestionDatabase × Bool :=
  ({ database with wakes := Rows.update database.wakes test change }, database.wakes.any test)

def names (wake row : QuestionWake) : Bool :=
  row.key = wake.key ∧ row.eventId = wake.eventId ∧ row.payload = wake.payload

/-- A deadline wake of the same question is neither handed off nor failed. -/
def waitsForDeadline (database : QuestionDatabase) (row : QuestionWake) : Bool :=
  row.wave = .lateAnswer ∧ database.wakes.any fun earlier =>
    earlier.question = row.question ∧ earlier.wave = .deadline ∧ earlier.isPending

/-- `claim_wake` under a fresh token. -/
def claimWake (database : QuestionDatabase) (wake : QuestionWake) (token : String)
    (now lease : ℕ) : QuestionDatabase × Bool :=
  database.updateWake
    (fun row => names wake row && row.isPending && (row.leaseUntil.all fun until' => until' ≤ now) &&
      !database.waitsForDeadline row)
    (fun row => { row with claimToken := some token, leaseUntil := some (now + lease) })

/-- The row that `_settle_handoff` changes. -/
def isHeldBy (wake row : QuestionWake) : Bool :=
  names wake row && row.claimToken = wake.claimToken && row.isPending

/-- `_settle_handoff` demands a claim token. -/
def requireClaim (wake : QuestionWake) : Except QuestionError Unit :=
  Except.require (∃ token ∈ wake.claimToken, Text.isBlank token = false)
    (.conflict "Question wake has no lease claim")

def confirmHandoff (database : QuestionDatabase) (wake : QuestionWake) (now : ℕ) :
    Except QuestionError (QuestionDatabase × Bool) := do
  requireClaim wake
  .ok (database.updateWake (isHeldBy wake) fun row => { row with handedOffAt := some now })

def recordDeliveryFailure (database : QuestionDatabase) (wake : QuestionWake) (now : ℕ) :
    Except QuestionError (QuestionDatabase × Bool) := do
  requireClaim wake
  .ok (database.updateWake (isHeldBy wake) fun row => { row with deliveryFailedAt := some now })

end QuestionDatabase

/-! ## Questions -/

def causationUri : String :=
  "https://github.com/KestrelSovereignAI/kestrel-sovereign/blob/main/" ++
    "docs/architecture/NATIVE_MCP_A2A.md#causation-v1"

/-- The arguments of `reserve`. -/
structure QuestionCall where
  dispatch : OutboundDispatch
  request : SendMessageRequest
  originTurnId : String
  originSessionId : String
  deadline : ℕ

/-- The row of a new question. -/
def QuestionCall.question (call : QuestionCall) (scope : NativeRecipientScope)
    (questionId : String) : NativeQuestion where
  sender := scope
  questionId := questionId
  dispatchId := call.dispatch.dispatchId
  recipientId := call.dispatch.recipientId
  recipientTenant := call.dispatch.tenant
  originalQuestion := (messageText call.request.message).getD ""
  request := call.request
  originTurnId := call.originTurnId
  originSessionId := call.originSessionId
  causation := call.request.metadata.lookup causationUri
  deadline := call.deadline
  status := .waiting
  receiverSettled := false
  response := none
  responseDigest := none

/-- `reserve`, which reads the dispatch `seen` before it inserts. -/
def reserveQuestion (wire : QuestionWire) (scope : NativeRecipientScope) (now : ℕ)
    (seen : OutboundRows) (database : QuestionDatabase) (call : QuestionCall) :
    Except QuestionError QuestionDatabase := do
  match parseQuestionCorrelation call.request.metadata with
  | .error message => .error (.value message)
  | .ok (some ⟨.question, questionId⟩) =>
    Except.require
      (call.dispatch.verb = "question" ∧ call.dispatch.state = .reserved ∧
        seen.get scope call.dispatch.dispatchId = some call.dispatch ∧
        wire.sendRequestDigest call.request = call.dispatch.requestDigest)
      (.conflict "Question intent requires its exact reserved native dispatch")
    Except.require (now < call.deadline) (.value "A question deadline must be in the future")
    let question := call.question scope questionId
    Except.require
      (∀ other ∈ database.questions, other.sender = scope →
        other.questionId ≠ question.questionId ∧ other.dispatchId ≠ question.dispatchId)
      (.conflict "Question or dispatch already has durable correlation intent")
    .ok { database with questions := database.questions ++ [question] }
  | .ok _ => .error (.conflict "Question intent requires its exact reserved native dispatch")

/-- The part of `_binding` that a question read earlier decides. -/
def NativeQuestion.isBoundTo (question : NativeQuestion) (dispatch : OutboundDispatch) : Prop :=
  question.dispatchId = dispatch.dispatchId ∧ question.recipientId = dispatch.recipientId ∧
    question.recipientTenant = dispatch.tenant

instance (question : NativeQuestion) (dispatch : OutboundDispatch) :
    Decidable (question.isBoundTo dispatch) :=
  inferInstanceAs (Decidable (_ ∧ _))

/-- `_binding`, of a question read earlier and the dispatch as it is now. -/
def requireBinding (scope : NativeRecipientScope) (dispatches : OutboundRows)
    (question : NativeQuestion) (dispatch : OutboundDispatch) : Except QuestionError Unit :=
  Except.require
    (question.isBoundTo dispatch ∧ dispatches.get scope dispatch.dispatchId = some dispatch)
    (.conflict "Question does not match the current sender-owned peer dispatch")

/-- What `record_answer` does next. -/
inductive AnswerPlan where
  /-- The question already retains this answer. -/
  | retained
  /-- The deadline has passed: the question expires first. -/
  | expire (answer : Answer) (withdrawal : Option OutboundDispatch)
  | settle (answer : Answer)

def requireRetainedTask (dispatch : OutboundDispatch) : Response → Except QuestionError Unit
  | .task answer =>
    Except.require (dispatch.remoteTaskId = some answer.id ∧ answer.state.isTerminal = true)
      (.conflict "Answer task differs from the acknowledged native task")
  | .message _ =>
    Except.require (∀ taskId ∈ dispatch.remoteTaskId, taskId = "")
      (.conflict "A standalone answer differs from its native receipt")

/-- `record_answer` up to its transactions, of a question read earlier. -/
def planAnswer (wire : QuestionWire) (scope : NativeRecipientScope) (now : ℕ)
    (dispatches : OutboundRows) (question : NativeQuestion) (dispatch : OutboundDispatch)
    (response : Response) : Except QuestionError AnswerPlan := do
  requireBinding scope dispatches question dispatch
  let digest := wire.responseDigest response
  Except.require (dispatch.responseDigest = some digest ∧ dispatch.state = .complete)
    (.conflict "Answer lacks a committed authorized terminal response receipt")
  Except.require (dispatch.remoteContextId = some response.contextId)
    (.conflict "Answer context differs from the acknowledged native response")
  requireRetainedTask dispatch response
  let (state, reply) ← answerFields question.questionId response
  let answer : Answer := ⟨question.questionId, response, digest, state, reply⟩
  match question.responseDigest with
  | some retained =>
    Except.require (retained = digest)
      (.conflict "Question already retains another terminal answer")
    .ok .retained
  | none =>
    if question.status = .waiting ∧ question.deadline ≤ now then
      .ok (.expire answer (if state = "canceled" then some dispatch else none))
    else .ok (.settle answer)

def NativeQuestion.settled (question : NativeQuestion) (answer : Answer) : NativeQuestion :=
  { question with
    response := some answer.response
    responseDigest := some answer.digest
    receiverSettled := true
    status := if question.status = .waiting then .resolved else question.status }

/-- The update of `record_answer`: the first answer wins. -/
def settleQuestion (scope : NativeRecipientScope) (database : QuestionDatabase)
    (answer : Answer) : QuestionDatabase × Bool :=
  database.updateQuestion (scope, answer.questionId)
    (fun question => question.responseDigest.isNone) (fun question => question.settled answer)

/-- The transaction of `record_answer`. -/
def commitAnswer (wire : QuestionWire) (scope : NativeRecipientScope)
    (database : QuestionDatabase) (answer : Answer) : Except QuestionError QuestionDatabase := do
  let (updated, changed) := settleQuestion scope database answer
  match updated.get scope answer.questionId with
  | none =>
    if changed then .error (.unreadable "Committed question settlement was not readable")
    else .error (.conflict "Question settlement lost its terminal response claim")
  | some current =>
    Except.require (current.responseDigest = some answer.digest)
      (if changed then .unreadable "Committed question settlement was not readable"
        else .conflict "Question settlement lost its terminal response claim")
    if changed ∧ (current.status ≠ .expired ∨ answer.state ≠ "canceled") then
      .ok (updated.insertWake wire current
        (if current.status = .expired then .lateAnswer else .answer) answer.state
        answer.replyText false answer.requiresFullResponse)
    else .ok updated

/-- The check of `expire` that precedes its transaction. -/
def requireWithdrawal (scope : NativeRecipientScope) (database : QuestionDatabase)
    (questionId : String) : Option OutboundDispatch → Except QuestionError Unit
  | none => .ok ()
  | some withdrawal =>
    match database.get scope questionId with
    | none => .error (.conflict
        "Question does not match the current sender-owned peer dispatch")
    | some question => do
      requireBinding scope database.dispatches question withdrawal
      Except.require
        (withdrawal.state = .complete ∧ withdrawal.remoteTaskState = some "canceled")
        (.conflict "Withdrawal requires a committed native canceled-task receipt")

/-- The update of `expire`. -/
def expireQuestion (scope : NativeRecipientScope) (database : QuestionDatabase)
    (questionId : String) (now : ℕ) (withdrawn : Bool) : QuestionDatabase × Bool :=
  database.updateQuestion (scope, questionId)
    (fun question => question.status = .waiting ∧ question.deadline ≤ now)
    (fun question => { question with status := .expired, receiverSettled := withdrawn })

/-- The transaction of `expire`, at a clock reading taken before it. -/
def commitExpiry (wire : QuestionWire) (scope : NativeRecipientScope)
    (database : QuestionDatabase) (questionId : String) (now : ℕ) (withdrawn : Bool) :
    Except QuestionError QuestionDatabase := do
  let (updated, changed) := expireQuestion scope database questionId now withdrawn
  match updated.get scope questionId with
  | none =>
    if changed then .error (.unreadable "Committed question expiry was not readable")
    else .error (.conflict "Question does not belong to this sender")
  | some current =>
    if changed then
      .ok (updated.insertWake wire current .deadline "expired" "" withdrawn false)
    else do
      Except.require (current.status ≠ .waiting) (.conflict "Question deadline has not passed")
      .ok updated

/-- `settle_unsent` up to its transaction, of a question read earlier. -/
def checkUnsent (scope : NativeRecipientScope) (now : ℕ) (question : NativeQuestion)
    (dispatch : OutboundDispatch) : Except QuestionError Unit := do
  Except.require (dispatch.sender = scope ∧ question.isBoundTo dispatch)
    (.conflict "Question does not match this sender's dispatch")
  Except.require
    (dispatch.state = .notSent ∨ (dispatch.state = .reserved ∧ question.status = .expired ∧
      question.deadline ≤ now))
    (.conflict "Question has no proof of local non-delivery")

/-- The row that `settle_unsent` retires: unsettled, unanswered, and its dispatch unchanged. -/
def isUnsent (scope : NativeRecipientScope) (database : QuestionDatabase)
    (dispatch : OutboundDispatch) (question : NativeQuestion) : Bool :=
  !question.receiverSettled && question.responseDigest.isNone &&
    database.dispatches.any fun row => row.key = (scope, dispatch.dispatchId) ∧
      row.revision = dispatch.revision ∧ row.state = dispatch.state

/-- The update of `settle_unsent`. -/
def retireQuestion (scope : NativeRecipientScope) (database : QuestionDatabase)
    (questionId : String) (dispatch : OutboundDispatch) : QuestionDatabase × Bool :=
  database.updateQuestion (scope, questionId) (isUnsent scope database dispatch)
    (fun row => { row with
      receiverSettled := true
      status := if row.status = .waiting then .resolved else row.status })

/-- The transaction of `settle_unsent`. The wake depends on the question as it was read earlier. -/
def commitUnsent (wire : QuestionWire) (scope : NativeRecipientScope)
    (database : QuestionDatabase) (question : NativeQuestion) (dispatch : OutboundDispatch) :
    QuestionDatabase :=
  let (updated, changed) := retireQuestion scope database question.questionId dispatch
  if changed ∧ question.status ≠ .expired then
    updated.insertWake wire question .answer "failed"
      "The original question was not delivered; no remote task exists." false false
  else updated

/-! ## Receipts -/

/-- `record_answer` inside a transaction, where nothing changes between its reads. -/
def recordAnswer (wire : QuestionWire) (scope : NativeRecipientScope) (now : ℕ)
    (database : QuestionDatabase) (questionId : String) (dispatch : OutboundDispatch)
    (response : Response) : Except QuestionError QuestionDatabase :=
  match database.get scope questionId with
  | none => .error (.conflict
      "Question does not match the current sender-owned peer dispatch")
  | some question => do
    match ← planAnswer wire scope now database.dispatches question dispatch response with
    | .retained => .ok database
    | .settle answer => commitAnswer wire scope database answer
    | .expire answer withdrawal => do
      requireWithdrawal scope database questionId withdrawal
      let expired ← commitExpiry wire scope database questionId now withdrawal.isSome
      commitAnswer wire scope expired answer

def requireReceipt (refusal : String)
    (receipt : Except OutboundError (OutboundRows × Option OutboundDispatch)) :
    Except QuestionError (OutboundRows × OutboundDispatch) :=
  match receipt with
  | .error error => .error (.outbound error)
  | .ok (_, none) => .error (.outbound (.conflict refusal))
  | .ok (rows, some committed) => .ok (rows, committed)

def acknowledgeRoot (wire : Wire) (scope : NativeRecipientScope) (stamp : String)
    (rows : OutboundRows) (dispatch receipt : OutboundDispatch) (operationId : String)
    (response : Response) : Except QuestionError (OutboundRows × OutboundDispatch) :=
  match dispatch.parentDispatchId with
  | none => .ok (rows, receipt)
  | some _ =>
    match rows.get scope dispatch.rootDispatchId with
    | none => .error (.outbound (.conflict "Question continuation lost its root"))
    | some root => requireReceipt "Question root receipt lost its authority"
        (A2A.acknowledge wire scope stamp rows root operationId response)

def Response.isTerminal : Response → Bool
  | .task answer => answer.state.isTerminal
  | .message answer => answer.taskId = ""

/-- The checks of `acknowledge` that precede its transaction. -/
def checkResponse (wire : Wire) (question : NativeQuestion) (dispatch : OutboundDispatch)
    (response : Response) : Except QuestionError Unit :=
  match validateResponse wire dispatch response with
  | .error error => .error (.outbound error)
  | .ok _ =>
    if response.isTerminal then (answerFields question.questionId response).map fun _ => ()
    else .ok ()

/-- `acknowledge`: the native receipt and the terminal answer in one transaction. -/
def acknowledgeQuestion (wire : QuestionWire) (scope : NativeRecipientScope) (now : ℕ)
    (stamp : String) (database : QuestionDatabase) (dispatch : OutboundDispatch)
    (operationId : String) (response : Response) : Except QuestionError QuestionDatabase :=
  match database.forDispatch scope dispatch.rootDispatchId with
  | none => .error (.conflict "Native question receipt has no registered intent")
  | some question => do
    checkResponse wire.toWire question dispatch response
    let (rows, receipt) ← requireReceipt
      "Peer receipt conflicts with the current dispatch or another task owner"
      (A2A.acknowledge wire.toWire scope stamp database.dispatches dispatch operationId response)
    let (rows, root) ← acknowledgeRoot wire.toWire scope stamp rows dispatch receipt operationId
      response
    let received := { database with dispatches := rows }
    if root.state = .complete then
      recordAnswer wire scope now received question.questionId root response
    else .ok received

end Kestrel.A2A
