import Kestrel.Base.Table
import Kestrel.Stop.Types
import Kestrel.Storage.DatabaseClock

/-!
# The circuit breaker of repeated peer Stop

Admissions, circuit states and transition events are rows of the host's Stop evidence database.
Every call runs inside one transaction that holds its target's lock: it either fails and leaves
the tables alone, or commits the tables returned here.
-/

namespace Kestrel.Stop

namespace Circuit

def maxCircuitTargetLength : ℕ := 512

def maxCircuitReasonLength : ℕ := 1024

def maxCircuitActorLength : ℕ := 4096

inductive CircuitError where
  | value (message : String)
  | circuit (message : String)
  | clock (error : ClockError)
  | integrity (message : String)
  deriving DecidableEq, Repr

/-- How many honored peer Stops against one agent a window tolerates. -/
structure PeerStopCircuitPolicy where
  threshold : ℕ
  windowSeconds : ℕ
  threshold_pos : 1 ≤ threshold
  windowSeconds_pos : 1 ≤ windowSeconds
  deriving DecidableEq

inductive PeerStopCircuitEventKind where
  | opened
  | closed
  | reset
  deriving DecidableEq, Repr

/-- One receipted circuit transition, with its place among the target's transitions. -/
structure PeerStopCircuitEvent (EventId : Type) where
  seq : ℕ
  eventId : EventId
  targetAgentId : String
  kind : PeerStopCircuitEventKind
  epoch : ℕ
  admittedCount : ℕ
  threshold : ℕ
  windowSeconds : ℕ
  actorId : Option String
  reason : Option String
  occurredAt : ℕ
  deriving DecidableEq

/-- A row of `stop_circuit_state`. -/
structure State (EventId : Type) where
  epoch : ℕ
  isOpen : Bool
  openedAt : Option ℕ
  openedEventId : Option EventId
  deriving DecidableEq

/-- A row of `stop_circuit_admissions` without its key. -/
structure Admission where
  epoch : ℕ
  actorId : String
  admittedAt : ℕ
  deriving DecidableEq

/-- The breaker's verdict on one peer Stop operation. -/
structure PeerStopCircuitDecision (EventId : Type) where
  honored : Bool
  admittedCount : ℕ
  threshold : ℕ
  windowSeconds : ℕ
  opened : Option (PeerStopCircuitEvent EventId)
  closed : Option (PeerStopCircuitEvent EventId)
  deriving DecidableEq

/-- One open circuit as the status surface renders it. -/
structure PeerStopCircuit (EventId : Type) where
  targetAgentId : String
  openedAt : Option ℕ
  openedEventId : Option EventId
  admittedCount : ℕ
  threshold : ℕ
  windowSeconds : ℕ
  deriving DecidableEq

/-- The tables that the breaker reads and writes, and the dispositions of the final receipts. -/
structure Tables (EventId : Type) where
  states : Table String (State EventId)
  admissions : Table (String × String) Admission
  events : List (PeerStopCircuitEvent EventId)
  receipts : Table String (List StopDisposition)

/-- A reading of the clock as stored. -/
def timestamp (backend : DatabaseBackend) (value : ℕ) : Except CircuitError ℕ :=
  (backend.timestampBoundText value).mapError .clock

def requiredText (value field : String) (maxLength : ℕ) : Except CircuitError Unit :=
  if Text.isBlank value then
    .error (.value ("peer Stop circuit " ++ field ++ " must be a concrete string"))
  else if maxLength < value.length then
    .error (.value ("peer Stop circuit " ++ field ++ " is too long"))
  else .ok ()

/-- A failed transaction is reported as one error. -/
def recorded {Result : Type} (message : String) :
    Except CircuitError Result → Except CircuitError Result
  | .ok result => .ok result
  | .error _ => .error (.circuit message)

variable {EventId : Type} [DecidableEq EventId]

namespace Tables

def initial (receipts : Table String (List StopDisposition)) : Tables EventId :=
  ⟨.empty, .empty, [], receipts⟩

section Reads

variable (policy : PeerStopCircuitPolicy) (backend : DatabaseBackend) (tables : Tables EventId)

def state (target : String) : State EventId :=
  (tables.states.row target).getD ⟨0, false, none, none⟩

def windowStart (now : ℕ) : Except CircuitError ℕ :=
  if now < policy.windowSeconds * 1000000 then .error (.clock (.overflow "date value out of range"))
  else timestamp backend (now - policy.windowSeconds * 1000000)

def hasFinalReceipt (operationId : String) : Bool := (tables.receipts.row operationId).isSome

/-- The operation's receipt records no stopped outcome. -/
def stoppedNothing (operationId : String) : Bool :=
  (tables.receipts.row operationId).any fun dispositions => .stopped ∉ dispositions

/-- The admissions of an epoch after an instant that `_count` selects. -/
def counted (target : String) (epoch start : ℕ) : List ((String × String) × Admission) :=
  tables.admissions.rows.filter fun row =>
    row.1.1 = target && row.2.epoch = epoch && start < row.2.admittedAt &&
      !tables.stoppedNothing row.1.2

def count (target : String) (epoch now : ℕ) : Except CircuitError ℕ := do
  let start ← windowStart policy backend now
  pure (tables.counted target epoch start).length

def admissionIsCurrent (target operationId : String) (epoch now : ℕ) :
    Except CircuitError Bool := do
  let start ← windowStart policy backend now
  pure ((tables.admissions.row (target, operationId)).any fun admission =>
    admission.epoch = epoch && start < admission.admittedAt)

end Reads

section Writes

variable (policy : PeerStopCircuitPolicy) (backend : DatabaseBackend)

def nextSeq (tables : Tables EventId) (target : String) : ℕ :=
  ((tables.events.filter (·.targetAgentId = target)).map (·.seq)).foldl max 0 + 1

/-- `_event`. -/
def recordEvent (target : String) (kind : PeerStopCircuitEventKind) (epoch count now : ℕ)
    (actorId reason : Option String) (eventId : EventId) (tables : Tables EventId) :
    Except CircuitError (Tables EventId × PeerStopCircuitEvent EventId) := do
  let occurredAt ← timestamp backend now
  let event : PeerStopCircuitEvent EventId :=
    { seq := tables.nextSeq target
      eventId := eventId
      targetAgentId := target
      kind := kind
      epoch := epoch
      admittedCount := count
      threshold := policy.threshold
      windowSeconds := policy.windowSeconds
      actorId := actorId
      reason := reason
      occurredAt := occurredAt }
  if eventId ∈ tables.events.map (·.eventId) then
    .error (.integrity "UNIQUE constraint failed: stop_circuit_events.event_id")
  else pure ({ tables with events := tables.events ++ [event] }, event)

/-- `_open`. -/
def openCircuit (target : String) (state : State EventId) (count now : ℕ) (eventId : EventId)
    (tables : Tables EventId) : Except CircuitError
      (Tables EventId × State EventId × PeerStopCircuitEvent EventId) := do
  let (tables, event) ←
    tables.recordEvent policy backend target .opened state.epoch count now none none eventId
  pure (tables, ⟨state.epoch, true, some event.occurredAt, some event.eventId⟩, event)

/-- `_close`. -/
def closeCircuit (target : String) (state : State EventId) (count now : ℕ) (eventId : EventId)
    (tables : Tables EventId) : Except CircuitError
      (Tables EventId × State EventId × PeerStopCircuitEvent EventId) := do
  let (tables, event) ←
    tables.recordEvent policy backend target .closed state.epoch count now none none eventId
  pure (tables, ⟨state.epoch, false, none, none⟩, event)

def saveState (target : String) (state : State EventId) (tables : Tables EventId) :
    Tables EventId :=
  { tables with states := tables.states.insert target state }

/-- Close an open circuit whose count fell below the threshold. -/
def closeIfCleared (target : String) (state : State EventId) (count now : ℕ) (eventId : EventId)
    (tables : Tables EventId) : Except CircuitError
      (Tables EventId × State EventId × Option (PeerStopCircuitEvent EventId)) :=
  if state.isOpen ∧ count < policy.threshold then do
    let (tables, state, event) ←
      tables.closeCircuit policy backend target state count now eventId
    pure (tables, state, some event)
  else pure (tables, state, none)

def openIfReached (target : String) (state : State EventId) (count now : ℕ) (eventId : EventId)
    (tables : Tables EventId) : Except CircuitError
      (Tables EventId × State EventId × Option (PeerStopCircuitEvent EventId)) :=
  if policy.threshold ≤ count ∧ ¬ state.isOpen then do
    let (tables, state, event) ←
      tables.openCircuit policy backend target state count now eventId
    pure (tables, state, some event)
  else pure (tables, state, none)

def verdict (target : String) (state : State EventId) (honored : Bool) (count : ℕ)
    (opened closed : Option (PeerStopCircuitEvent EventId)) (tables : Tables EventId) :
    Tables EventId × PeerStopCircuitDecision EventId :=
  (tables.saveState target state,
    ⟨honored, count, policy.threshold, policy.windowSeconds, opened, closed⟩)

/-- The transaction of `admit` on an operation. -/
def admitOperation (target actorId operationId : String) (now : ℕ) (uuid4 : ℕ → EventId)
    (tables : Tables EventId) :
    Except CircuitError (Tables EventId × PeerStopCircuitDecision EventId) := do
  let state := tables.state target
  let count ← tables.count policy backend target state.epoch now
  let (tables, state, closed) ←
    tables.closeIfCleared policy backend target state count now (uuid4 0)
  if tables.hasFinalReceipt operationId then
    pure (tables.verdict policy target state true count none closed)
  else do
    let current ← tables.admissionIsCurrent policy backend target operationId state.epoch now
    if current then pure (tables.verdict policy target state true count none closed)
    else if policy.threshold ≤ count then do
      let (tables, state, opened) ←
        tables.openIfReached policy backend target state count now (uuid4 1)
      pure (tables.verdict policy target state false count opened closed)
    else do
      let admittedAt ← timestamp backend now
      let tables := { tables with
        admissions :=
          tables.admissions.insert (target, operationId) ⟨state.epoch, actorId, admittedAt⟩ }
      let (tables, state, opened) ←
        tables.openIfReached policy backend target state (count + 1) now (uuid4 1)
      pure (tables.verdict policy target state true (count + 1) opened closed)

/-- `admit`, for the operation that an identifier digest names. -/
def admitStop (identifierDigest : String → String → String) (request : StopRequest) (now : ℕ)
    (uuid4 : ℕ → EventId) (tables : Tables EventId) :
    Except CircuitError (Tables EventId × PeerStopCircuitDecision EventId) :=
  if request.scope ≠ .agent ∧ request.scope ≠ .turn then
    .error (.value "peer Stop circuit admits only agent or turn scope")
  else
    match request.targetAgentId with
    | none => .error (.value "peer Stop circuit target must be a concrete string")
    | some target => do
      requiredText target "target" maxCircuitTargetLength
      requiredText request.actorId "actor" maxCircuitActorLength
      recorded "peer Stop circuit state could not be recorded"
        (tables.admitOperation policy backend target request.actorId
          (identifierDigest "operation" request.correlationId) now uuid4)

def readCircuit (now : ℕ) (uuid4 : ℕ → EventId)
    (read : Tables EventId × List (PeerStopCircuit EventId) × ℕ) (target : String) :
    Except CircuitError (Tables EventId × List (PeerStopCircuit EventId) × ℕ) := do
  let (tables, circuits, draw) := read
  let state := tables.state target
  if state.isOpen then do
    let count ← tables.count policy backend target state.epoch now
    if count < policy.threshold then do
      let (tables, state, _) ←
        tables.closeCircuit policy backend target state count now (uuid4 draw)
      pure (tables.saveState target state, circuits, draw + 1)
    else
      pure (tables, circuits ++ [⟨target, state.openedAt, state.openedEventId, count,
        policy.threshold, policy.windowSeconds⟩], draw)
  else pure (tables, circuits, draw)

/-- The transaction of `open_circuits`. It reads which circuits are open before it starts, so the
targets can be any that were open at an earlier time. -/
def openCircuits (targets : List String) (now : ℕ) (uuid4 : ℕ → EventId)
    (tables : Tables EventId) :
    Except CircuitError (Tables EventId × List (PeerStopCircuit EventId)) := do
  let (tables, circuits, _) ← recorded "peer Stop circuit state could not be read"
    (targets.foldlM (readCircuit policy backend now uuid4) (tables, [], 0))
  pure (tables, circuits)

def reset (target actorId reason : String) (now : ℕ) (uuid4 : ℕ → EventId)
    (tables : Tables EventId) :
    Except CircuitError (Tables EventId × PeerStopCircuitEvent EventId) := do
  requiredText target "target" maxCircuitTargetLength
  requiredText actorId "actor" maxCircuitActorLength
  requiredText reason "reason" maxCircuitReasonLength
  recorded "peer Stop circuit reset could not be recorded" do
    let state := tables.state target
    let count ← tables.count policy backend target state.epoch now
    let state : State EventId := ⟨state.epoch + 1, false, none, none⟩
    let (tables, event) ← tables.recordEvent policy backend target .reset state.epoch count now
      (some actorId) (some reason) (uuid4 0)
    pure (tables.saveState target state, event)

def commitReceipt (operationId : String) (dispositions : List StopDisposition)
    (tables : Tables EventId) : Except CircuitError (Tables EventId) :=
  if tables.hasFinalReceipt operationId then
    .error (.integrity "UNIQUE constraint failed: stop_receipts.operation_id")
  else .ok { tables with receipts := tables.receipts.insert operationId dispositions }

end Writes

end Tables

end Circuit

end Kestrel.Stop
