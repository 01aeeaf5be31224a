import Kestrel.Base.Run
import Kestrel.Signals.SourceSequence

/-!
# The durable ledger's numbered events

Deliveries decide which events retention may delete. They are read here only through the test
whether an event still has a delivery that is not terminal.
-/

namespace Kestrel.Signals

/-- The arguments of `persist_signal` that identify an event and its retention. -/
structure Signal where
  id : String
  sourceEventId : Option String
  scope : Scope
  retentionDays : ℕ
  deriving DecidableEq, Repr

structure Event where
  eventId : String
  sourceEventId : Option String
  scope : Scope
  retentionUntil : ℕ
  sourceSequence : Option ℕ
  deriving DecidableEq, Repr

structure DurableSourceBoundary where
  scope : Scope
  sequence : ℕ
  agentId_nonempty : Text.isBlank scope.agentId = false
  source_nonempty : Text.isBlank scope.source = false
  sequence_le : sequence ≤ maxSourceSequence
  deriving DecidableEq, Repr

/-- `DurableSourceBoundary.__post_init__`. -/
def DurableSourceBoundary.create (scope : Scope) (sequence : ℕ) :
    Except SignalError DurableSourceBoundary :=
  if agentId : Text.isBlank scope.agentId = false then
    if source : Text.isBlank scope.source = false then
      if bounded : sequence ≤ maxSourceSequence then
        .ok ⟨scope, sequence, agentId, source, bounded⟩
      else .error (.value "sequence must be a non-negative 64-bit integer")
    else .error (.value "source must be a non-empty string")
  else .error (.value "agent_id must be a non-empty string")

def DurableSourceBoundary.isEventEligible (boundary : DurableSourceBoundary) (event : Event) :
    Except SignalError Bool := do
  Except.require (event.scope = boundary.scope) (.value
    ("Durable source boundaries can compare only events from the " ++
      "same agent_id and source"))
  match event.sourceSequence with
  | none => .error (.value "event has no valid committed source sequence")
  | some sequence =>
    Except.require (1 ≤ sequence ∧ sequence ≤ maxSourceSequence)
      (.value "event has no valid committed source sequence")
    .ok (decide (boundary.sequence < sequence))

/-- The events and counters of a durable ledger. -/
structure Ledger where
  backend : DatabaseBackend
  backfillCompleted : Bool
  rows : Scope → ScopeRows
  events : List Event

structure DurableEventPersistence where
  eventId : String
  created : Bool
  sourceSequence : ℕ
  deriving DecidableEq, Repr

def requireNonempty (name value : String) : Except SignalError Unit :=
  Except.require (Text.isBlank value = false) (.value (name ++ " must be a non-empty string"))

def normalizeSourceEventId : Option String → Except SignalError (Option String)
  | none => .ok none
  | some value =>
    if Text.isBlank value then
      .error (.value "source_event_id must be a non-empty string when set")
    else .ok (some (Text.strip value))

def day : ℕ := 86400000000

namespace Ledger

def setRows (ledger : Ledger) (scope : Scope) (rows : ScopeRows) : Ledger :=
  { ledger with rows := Function.update ledger.rows scope rows }

def eventsOf (ledger : Ledger) (scope : Scope) : List Event :=
  ledger.events.filter fun event => event.scope = scope

/-- The greatest number among the scope's retained events. -/
def retainedMaximum (ledger : Ledger) (scope : Scope) : Option ℕ :=
  ((ledger.eventsOf scope).filterMap Event.sourceSequence).max?

/-- `_source_sequence_locked`. -/
def sourceSequence (ledger : Ledger) (scope : Scope) : Except SignalError (ℕ × Ledger) := do
  let (sequence, rows) ← (ledger.rows scope).sourceSequence (ledger.retainedMaximum scope)
  .ok (sequence, ledger.setRows scope rows)

/-- `_advance_source_sequence_locked`. -/
def advanceSourceSequence (ledger : Ledger) (scope : Scope) :
    Except SignalError (ℕ × Ledger) := do
  let (sequence, rows) ← (ledger.rows scope).advance (ledger.retainedMaximum scope)
  .ok (sequence, ledger.setRows scope rows)

/-- `_existing_event_id_locked`. -/
def existingEventId (ledger : Ledger) (signal : Signal) (sourceEventId : Option String) :
    Option String :=
  let bySource := ledger.events.find? fun event =>
    event.scope = signal.scope ∧ sourceEventId ≠ none ∧ event.sourceEventId = sourceEventId
  let byId := ledger.events.find? fun event => event.eventId = signal.id
  (bySource <|> byId).map Event.eventId

/-- `_event_source_sequence_locked`. -/
def eventSourceSequence (ledger : Ledger) (eventId : String) (scope : Scope) :
    Except SignalError ℕ :=
  match ledger.events.find? fun event => event.eventId = eventId ∧ event.scope = scope with
  | none => .error (.runtime
      "durable event insert conflicted with a different agent/source scope")
  | some event =>
    match event.sourceSequence with
    | none => .error (.runtime "durable event is missing its committed source sequence")
    | some sequence =>
      if sequence < 1 ∨ maxSourceSequence < sequence then
        .error (.runtime "durable event source sequence is out of range")
      else .ok sequence

/-- The unique indexes of the event table. -/
def conflicts (ledger : Ledger) (event : Event) : Bool :=
  ledger.events.any fun other =>
    other.eventId = event.eventId ∨ other.scope = event.scope ∧
      (event.sourceEventId ≠ none ∧ other.sourceEventId = event.sourceEventId ∨
        event.sourceSequence ≠ none ∧ other.sourceSequence = event.sourceSequence)

/-- `INSERT OR IGNORE` of an event with its number, and whether a row was inserted. -/
def insertEvent (ledger : Ledger) (event : Event) (sequence : ℕ) :
    Except SignalError (Bool × Ledger) := do
  let rows := ledger.rows event.scope
  Except.require (1 ≤ sequence) (.database "durable signal source sequence is required")
  rows.lossFence
  if ledger.conflicts event then .ok (false, ledger)
  else .ok (true,
    { ledger.setRows event.scope (rows.mirror sequence) with events := ledger.events ++ [event] })

/-- `persist_signal`. What follows the event's insertion (integrity binding, ingress receipt,
deliveries and the caller's hooks) may still fail the transaction. -/
def persistSignal (ledger : Ledger) (signal : Signal) (now : ℕ)
    (completion : Except SignalError Unit) :
    Except SignalError (DurableEventPersistence × Ledger) := do
  requireNonempty "agent_id" signal.scope.agentId
  requireNonempty "source" signal.scope.source
  let sourceEventId ← normalizeSourceEventId signal.sourceEventId
  match ledger.existingEventId signal sourceEventId with
  | some existing => do
    let sequence ← ledger.eventSourceSequence existing signal.scope
    .ok (⟨existing, false, sequence⟩, ledger)
  | none => do
    let (sequence, advanced) ← ledger.advanceSourceSequence signal.scope
    let event : Event :=
      ⟨signal.id, sourceEventId, signal.scope, now + signal.retentionDays * day, some sequence⟩
    let (inserted, ledger) ← advanced.insertEvent event sequence
    if inserted then do
      completion
      .ok (⟨signal.id, true, sequence⟩, ledger)
    else match ledger.existingEventId signal sourceEventId with
      | none => .error (.runtime
          "durable event insert conflicted without an existing event")
      | some existing => .error (.runtime
          ("durable event identity appeared outside its source handoff lock: " ++ existing))

def captureSourceBoundary (ledger : Ledger) (scope : Scope) :
    Except SignalError (DurableSourceBoundary × Ledger) := do
  requireNonempty "agent_id" scope.agentId
  requireNonempty "source" scope.source
  Except.require (¬(ledger.backend = .postgres ∧ ledger.backfillCompleted = false ∧
      (ledger.eventsOf scope).any fun event => event.sourceSequence.isNone))
    (.runtime ("Durable source boundary is unavailable while this " ++
      "scope has unsequenced legacy history"))
  let (sequence, ledger) ← ledger.sourceSequence scope
  let boundary ← DurableSourceBoundary.create scope sequence
  .ok (boundary, ledger)

def delete (ledger : Ledger) (deleted : List Event) : Ledger :=
  { ledger with events := ledger.events.filter fun event => event ∉ deleted }

def upTo (ledger : Ledger) (boundary : DurableSourceBoundary) : List Event :=
  (ledger.eventsOf boundary.scope).filter fun event =>
    event.sourceSequence.any (· ≤ boundary.sequence)

/-- `retire_source_history`. A refusal is raised after the transaction committed its repairs. -/
def retireSourceHistory (ledger : Ledger) (boundary : DurableSourceBoundary)
    (owed : String → Bool) : Except SignalError (Except SignalError ℕ × Ledger) := do
  let (sequence, ledger) ← ledger.sourceSequence boundary.scope
  if sequence < boundary.sequence then
    .ok (.error (.value "Source retirement boundary is beyond committed history"), ledger)
  else if (ledger.upTo boundary).any fun event => owed event.eventId then
    .ok (.error (.value "Owed durable source deliveries must drain before retirement"), ledger)
  else .ok (.ok (ledger.upTo boundary).length, ledger.delete (ledger.upTo boundary))

/-- The events that `purge_expired` selects. -/
def expired (ledger : Ledger) (agentId : String) (source : Option String) (limit : Option ℕ)
    (now : ℕ) (owed : String → Bool) : List Event :=
  let selected := (ledger.events.filter fun event =>
    event.scope.agentId = agentId ∧ event.retentionUntil < now ∧
      (∀ wanted ∈ source, event.scope.source = wanted) ∧ owed event.eventId = false).mergeSort
      fun first second => first.retentionUntil < second.retentionUntil ∨
        first.retentionUntil = second.retentionUntil ∧ first.eventId ≤ second.eventId
  match limit with
  | none => selected
  | some bound => selected.take bound

def purgeExpired (ledger : Ledger) (agentId : String) (source : Option String)
    (limit : Option ℕ) (now : ℕ) (owed : String → Bool) :
    Except SignalError (List String × Ledger) := do
  requireNonempty "agent_id" agentId
  source.elim (.ok ()) (requireNonempty "source")
  Except.require (limit ≠ some 0) (.value "Retention batch limit must be a positive integer")
  let deleted := ledger.expired agentId source limit now owed
  .ok (deleted.map Event.eventId, ledger.delete deleted)

end Ledger

end Kestrel.Signals
