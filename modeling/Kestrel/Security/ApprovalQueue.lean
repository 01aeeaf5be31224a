import Kestrel.Base.Run
import Mathlib.Data.Int.Notation
import Mathlib.Data.Nat.Notation
import Mathlib.Logic.Function.Basic

/-!
# The approval queue

A request is shared by the call that waits for it, by the submissions of a decision, and by the
cancellations and sweeps of the queue. Each step runs from one await to the next.
-/

namespace Kestrel.Security.Approval

inductive ApprovalStatus where
  | pending
  | approved
  | denied
  | timeout
  | awaiterGone
  deriving DecidableEq, Repr

/-- What an accepted `submit_decision` awaits: the permission row, the audit row, or nothing. -/
inductive Stage where
  | granting
  | logging
  | finished (persisted : Bool)
  deriving DecidableEq, Repr

/-- An accepted `submit_decision`. -/
structure Submission where
  approved : Bool
  scope : String
  awaiterGone : Bool
  stage : Stage
  deriving DecidableEq, Repr

/-- Where the call of `request_approval` is: it awaits the callback of a new request, the decision,
the audit row of its timeout or the callback of a withdrawn request, or it has ended. A callback may
be awaited while a cancellation passes through. -/
inductive Caller where
  | announcing
  | waiting
  | expiring
  | withdrawing (cancelled : Bool)
  | returned (approved : Bool) (scope : String)
  | cancelled
  deriving DecidableEq, Repr

/-- The call has not been told anything and has not given up. -/
def Caller.live : Caller → Bool
  | .announcing | .waiting => true
  | _ => false

structure AuditRow where
  decision : String
  userChoice : String
  deriving DecidableEq, Repr

/-- An `ApprovalRequest`, with what its call and its submissions did. -/
structure Request where
  createdAt : ℤ
  timeoutSeconds : Option ℤ
  status : ApprovalStatus
  userDecision : Option String
  /-- `resume_event.is_set()`. -/
  resumed : Bool
  /-- The queue's table of pending requests holds it. -/
  pending : Bool
  caller : Caller
  submissions : List Submission
  /-- The scopes of the permission rows and session grants written for it. -/
  grants : List String
  audit : List AuditRow
  deriving DecidableEq, Repr

/-- What the queue was built with. -/
structure Setup where
  permissionStore : Bool
  onRequestAdded : Bool
  onRequestWithdrawn : Bool

/-- The audit row that `_persist_decision` writes. -/
def auditRow (approved : Bool) (scope : String) : AuditRow where
  decision :=
    if approved then "user_approved"
    else if scope = "timeout" then "timeout"
    else if scope = "cancelled" ∨ scope = "cancelled_all" then "user_cancelled"
    else if scope = "no_approver" then "no_approver"
    else "user_denied"
  userChoice := scope

/-! ## The call -/

/-- The request that `request_approval` queues. -/
def Request.queued (setup : Setup) (createdAt : ℤ) (timeoutSeconds : Option ℤ) : Request where
  createdAt := createdAt
  timeoutSeconds := timeoutSeconds
  status := .pending
  userDecision := none
  resumed := false
  pending := true
  caller := if setup.onRequestAdded then .announcing else .waiting
  submissions := []
  grants := []
  audit := []

/-- The `finally` branch after a timeout. -/
def Request.abandon (setup : Setup) (cancelled : Bool) (request : Request) : Request :=
  { request with
    pending := false
    caller :=
      if request.pending && setup.onRequestWithdrawn then .withdrawing cancelled
      else if cancelled then .cancelled
      else .returned false "timeout" }

/-- The resumed call returns the decision it finds. -/
def Request.wake (request : Request) : Request :=
  { request with
    pending := false
    caller := .returned (request.status = .approved)
      (match request.userDecision with
      | none => "once"
      | some scope => if scope = "" then "once" else scope) }

/-- The wall-clock cap passes. -/
def Request.expire (setup : Setup) (request : Request) : Request :=
  let expired := { request with status := .timeout }
  if setup.permissionStore then { expired with caller := .expiring }
  else expired.abandon setup false

def Request.logTimeout (written : Bool) (request : Request) : Request :=
  if written then { request with audit := request.audit ++ [auditRow false "timeout"] } else request

/-- The task of the call is cancelled where it awaits. The row of a timeout may have been written by
then. -/
def Request.cancelTask (setup : Setup) (written : Bool) (request : Request) : Option Request :=
  match request.caller with
  | .announcing => some { request with caller := .cancelled }
  | .waiting => some { request with
      status := .awaiterGone
      pending := request.pending && !request.resumed
      caller := .cancelled }
  | .expiring => some ((request.logTimeout written).abandon setup true)
  | .withdrawing _ => some { request with caller := .cancelled }
  | .returned _ _ | .cancelled => none

/-! ## Decisions -/

/-- The end of `submit_decision`: the status is read again after the writes. -/
def Request.finish (index : ℕ) (submission : Submission) (persisted : Bool) (request : Request) :
    Request :=
  let gone := submission.awaiterGone || request.status = .awaiterGone
  { request with
    resumed := request.resumed || !gone
    pending := false
    submissions := request.submissions.set index
      { submission with awaiterGone := gone, stage := .finished persisted } }

/-- The submission that `submit_decision` accepts. -/
def Request.submission (approved : Bool) (scope : String) (request : Request) : Submission where
  approved := approved
  scope := scope
  awaiterGone := request.status = .awaiterGone
  stage := if approved && (scope = "always" || scope = "session") then .granting else .logging

/-- `submit_decision` up to its first await. A request that is not pending, or that has been decided,
refuses it. -/
def Request.submit (setup : Setup) (approved : Bool) (scope : String) (request : Request) :
    Request :=
  if request.pending ∧ (request.status = .pending ∨ request.status = .awaiterGone) then
    let submission := request.submission approved scope
    let accepted := { request with
      status := if approved then .approved else .denied
      userDecision := some scope
      submissions := request.submissions ++ [submission] }
    if setup.permissionStore then accepted
    else accepted.finish request.submissions.length submission true
  else request

/-- `set_permission` ends. A failure ends the persistence. -/
def Request.granted (index : ℕ) (stored : Bool) (request : Request) : Option Request :=
  match request.submissions[index]? with
  | some submission =>
    if submission.stage = .granting then
      if stored then some { request with
        grants := request.grants ++ [submission.scope]
        submissions := request.submissions.set index { submission with stage := .logging } }
      else some (request.finish index submission false)
    else none
  | none => none

/-- `log_decision` ends. -/
def Request.logged (index : ℕ) (written : Bool) (request : Request) : Option Request :=
  match request.submissions[index]? with
  | some submission =>
    if submission.stage = .logging then
      if written then
        some ({ request with
          audit := request.audit ++ [auditRow submission.approved submission.scope]
          : Request }.finish index submission true)
      else some (request.finish index submission false)
    else none
  | none => none

/-- `cancel_request`, and `cancel_all` for one request. -/
def Request.cancel (reason : String) (request : Request) : Request :=
  if request.pending then
    { request with
      status := .denied
      userDecision := some reason
      pending := !(request.status = .awaiterGone : Bool)
      resumed := request.resumed || !(request.status = .awaiterGone : Bool) }
  else request

/-- `sweep_stale` for one request. -/
def Request.sweep (now olderThanSeconds : ℤ) (request : Request) : Request :=
  if request.pending ∧ request.resumed = false ∧ olderThanSeconds ≤ now - request.createdAt then
    { request with pending := false, status := .timeout }
  else request

/-! ## Steps of the queue -/

/-- What happens to one request. -/
inductive Event where
  | announced
  | wake
  | expire
  | timeoutLogged (written : Bool)
  | withdrawn
  | cancelTask (written : Bool)
  | submit (approved : Bool) (scope : String)
  | granted (index : ℕ) (stored : Bool)
  | logged (index : ℕ) (written : Bool)
  | cancelRequest
  deriving DecidableEq, Repr

/-- One event, where it can happen. -/
def Request.act (setup : Setup) (request : Request) : Event → Option Request
  | .announced =>
    if request.caller = .announcing then some { request with caller := .waiting } else none
  | .wake =>
    if request.caller = .waiting ∧ request.resumed then some request.wake else none
  | .expire =>
    if request.caller = .waiting ∧ request.timeoutSeconds.isSome then some (request.expire setup)
    else none
  | .timeoutLogged written =>
    if request.caller = .expiring then some ((request.logTimeout written).abandon setup false)
    else none
  | .withdrawn =>
    match request.caller with
    | .withdrawing true => some { request with caller := .cancelled }
    | .withdrawing false => some { request with caller := .returned false "timeout" }
    | _ => none
  | .cancelTask written => request.cancelTask setup written
  | .submit approved scope => some (request.submit setup approved scope)
  | .granted index stored => request.granted index stored
  | .logged index written => request.logged index written
  | .cancelRequest => some (request.cancel "cancelled")

/-- The requests by their identities. -/
structure Queue where
  request : String → Option Request

def Queue.empty : Queue := ⟨fun _ => none⟩

inductive Step where
  | requestApproval (id : String) (createdAt : ℤ) (timeoutSeconds : Option ℤ)
  | act (id : String) (event : Event)
  | cancelAll
  | sweepStale (now olderThanSeconds : ℤ)

/-- One step of the queue, where it can be taken. A new request has a fresh identity. -/
def Queue.step (setup : Setup) (queue : Queue) : Step → Option Queue
  | .requestApproval id createdAt timeoutSeconds =>
    match queue.request id with
    | some _ => none
    | none => some ⟨Function.update queue.request id
        (some (.queued setup createdAt timeoutSeconds))⟩
  | .act id event =>
    ((queue.request id).bind (Request.act setup · event)).map fun request =>
      ⟨Function.update queue.request id (some request)⟩
  | .cancelAll => some ⟨fun id => (queue.request id).map (Request.cancel "cancelled_all")⟩
  | .sweepStale now olderThanSeconds =>
    some ⟨fun id => (queue.request id).map (Request.sweep now olderThanSeconds)⟩

def Queue.Steps (setup : Setup) (source : Queue) (step : Step) (target : Queue) : Prop :=
  source.step setup step = some target

end Kestrel.Security.Approval
