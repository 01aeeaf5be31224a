import Kestrel.Base.Except
import Kestrel.Base.Text
import Mathlib.Data.Rat.Defs

/-!
# Native A2A messages and tasks

The fields of the protocol's values that the native ledgers read, with the question correlation of
their metadata.
-/

namespace Kestrel.A2A

/-- `TaskState`. A peer may also send a number that has no name. -/
inductive TaskState where
  | unspecified
  | submitted
  | working
  | completed
  | failed
  | canceled
  | inputRequired
  | rejected
  | authRequired
  | unrecognized (number : ℤ)
  deriving DecidableEq, Repr

/-- `TERMINAL_STATES`. -/
def TaskState.isTerminal : TaskState → Bool
  | .completed | .failed | .canceled | .rejected => true
  | _ => false

def taskStateLabel : TaskState → Option String
  | .unspecified => none
  | .submitted => some "submitted"
  | .working => some "working"
  | .completed => some "completed"
  | .failed => some "failed"
  | .canceled => some "canceled"
  | .inputRequired => some "input-required"
  | .rejected => some "rejected"
  | .authRequired => some "auth-required"
  | .unrecognized _ => none

/-- A member of an extension payload. Arrays and objects are kept as their JSON text. -/
inductive Datum where
  | text (value : String)
  | number (value : ℚ)
  | boolean (value : Bool)
  | other (json : String)
  deriving DecidableEq

/-- The value of a metadata key. -/
inductive Extension where
  | object (members : List (String × Datum))
  | other (json : String)
  deriving DecidableEq

abbrev Metadata := List (String × Extension)

inductive Role where
  | unspecified
  | user
  | agent
  | unrecognized (number : ℤ)
  deriving DecidableEq, Repr

/-- A part of a message: a text, or another value in its JSON text. -/
inductive Part where
  | text (value : String)
  | other (json : String)
  deriving DecidableEq, Repr

structure Message where
  messageId : String
  contextId : String
  taskId : String
  role : Role
  parts : List Part
  metadata : Metadata
  deriving DecidableEq

/-- An artifact, whose parts are kept as their JSON text. -/
structure Artifact where
  artifactId : String
  content : String
  deriving DecidableEq, Repr

structure Task where
  id : String
  contextId : String
  state : TaskState
  statusMessage : Option Message
  history : List Message
  artifacts : List Artifact
  metadata : Metadata
  deriving DecidableEq

/-- What a peer answers a sent message with. -/
inductive Response where
  | task (task : Task)
  | message (message : Message)
  deriving DecidableEq

def Response.contextId : Response → String
  | .task answer => answer.contextId
  | .message answer => answer.contextId

structure NativeRecipientScope where
  recipientId : String
  tenant : String
  deriving DecidableEq, Repr

structure SendMessageRequest where
  tenant : String
  message : Message
  metadata : Metadata
  deriving DecidableEq

structure CancelTaskRequest where
  id : String
  tenant : String
  deriving DecidableEq, Repr

/-- `message_text`: the text parts, in order. -/
def messageText (message : Message) : Option String :=
  let texts := message.parts.filterMap fun part =>
    match part with
    | .text value => some value
    | .other _ => none
  if texts = [] then none else some ("\n".intercalate texts)

/-! ## Question correlation -/

def questionCorrelationUri : String :=
  "https://github.com/KestrelSovereignAI/kestrel-sovereign/blob/main/" ++
    "docs/architecture/NATIVE_MCP_A2A.md#question-correlation-v1"

inductive CorrelationKind where
  | question
  | answer
  deriving DecidableEq, Repr

structure QuestionCorrelation where
  kind : CorrelationKind
  questionId : String
  deriving DecidableEq, Repr

/-- `_payload`: the members of a declared extension, which has exactly the given keys and version
one. -/
def extensionPayload (metadata : Metadata) (uri : String) (keys : List String) :
    Except String (Option (List (String × Datum))) :=
  match metadata.lookup uri with
  | none => .ok none
  | some (.other _) => .error s!"Invalid native A2A extension payload: {uri}"
  | some (.object members) =>
    if ¬ (members.map Prod.fst).Perm keys then
      .error s!"Invalid native A2A extension payload: {uri}"
    else if members.lookup "version" ≠ some (.number 1) then
      .error s!"Unsupported native A2A extension version: {uri}"
    else .ok (some members)

def parseQuestionCorrelation (metadata : Metadata) :
    Except String (Option QuestionCorrelation) := do
  match ← extensionPayload metadata questionCorrelationUri ["version", "kind", "question_id"] with
  | none => .ok none
  | some payload =>
    let kind ← match payload.lookup "kind" with
      | some (.text "question") => .ok CorrelationKind.question
      | some (.text "answer") => .ok CorrelationKind.answer
      | _ => .error "Native A2A question correlation requires question or answer kind"
    match payload.lookup "question_id" with
    | some (.text questionId) =>
      if Text.isBlank questionId then
        .error "Native A2A question correlation requires a question_id"
      else .ok (some ⟨kind, questionId⟩)
    | _ => .error "Native A2A question correlation requires a question_id"

end Kestrel.A2A
