import Kestrel.Signals.SourceHistory

/-!
# Durable deliveries

A delivery is one event owed to one consumer. Every operation is a transaction of conditional
updates of the delivery table, with the instants it samples as arguments.
-/

namespace Kestrel.Signals

inductive Status where
  | pending
  | initialReserved
  | leased
  | retry
  | acknowledged
  | failed
  | terminalAckable
  deriving DecidableEq, Repr

namespace Status

/-- `_TERMINAL_STATUSES`. -/
def isTerminal : Status → Bool
  | .acknowledged | .failed | .terminalAckable => true
  | _ => false

/-- `_CLAIMABLE_STATUSES`. -/
def isClaimable : Status → Bool
  | .pending | .retry => true
  | _ => false

end Status

structure Delivery where
  deliveryId : String
  agentId : String
  consumerId : String
  eventId : String
  status : Status
  attempts : ℕ
  maxAttempts : ℕ
  leaseOwner : Option String
  leaseToken : Option String
  leaseExpiresAt : Option ℕ
  nextAttemptAt : Option ℕ
  lastError : Option String
  acknowledgedAt : Option ℕ
  terminalAt : Option ℕ
  createdAt : ℕ
  updatedAt : ℕ
  deriving DecidableEq, Repr

structure DurableConsumerRegistration where
  agentId : String
  consumerId : String
  source : String
  correlationSelector : Option String
  maxAttempts : ℕ
  leaseSeconds : ℕ
  active : Bool
  replayRetained : Bool
  deriving DecidableEq, Repr

/-- One dispatcher generation's liveness record. -/
structure RuntimeOwner where
  agentId : String
  ownerId : String
  heartbeatAt : ℕ
  stoppedAt : Option ℕ
  deriving DecidableEq, Repr

def second : ℕ := 1000000

def cognitionAdmissionPending : String := "cognition admission pending"

/-- The consumers that `core_cognition_consumers` names. -/
def coreCognitionConsumers : List String :=
  ["core.channel-cognition-v1", "core.a2a.question_answered.cognition",
    "core.a2a-task-complete-cognition-v1", "core.a2a-task-submitted-cognition-v1"]

/-- `lease_owner LIKE 'dispatcher:%'`. SQLite compares the letters of ASCII without their case. -/
def likeDispatcher (backend : DatabaseBackend) (owner : String) : Bool :=
  let text := match backend with
    | .postgres => owner.toList
    | .sqlite => owner.toList.map Char.toLower
  "dispatcher:".toList.isPrefixOf text

/-- A dispatcher that is neither stopped nor older than a threshold. -/
def RuntimeOwner.isLive (owner : RuntimeOwner) (staleBefore : ℕ) : Bool :=
  owner.stoppedAt = none ∧ staleBefore ≤ owner.heartbeatAt

/-- A consumer's delivery of an event. -/
structure DeliveryKey where
  agentId : String
  consumerId : String
  eventId : String
  deriving DecidableEq, Repr

namespace Delivery

def key (delivery : Delivery) : DeliveryKey :=
  ⟨delivery.agentId, delivery.consumerId, delivery.eventId⟩

/-- A new row, reserved to an emitting dispatcher or pending. -/
def inserted (deliveryId : String) (key : DeliveryKey) (maxAttempts now : ℕ)
    (reservation : Option (String × String)) : Delivery where
  deliveryId := deliveryId
  agentId := key.agentId
  consumerId := key.consumerId
  eventId := key.eventId
  status := if reservation.isSome then .initialReserved else .pending
  attempts := 0
  maxAttempts := maxAttempts
  leaseOwner := reservation.map Prod.fst
  leaseToken := reservation.map Prod.snd
  leaseExpiresAt := none
  nextAttemptAt := none
  lastError := none
  acknowledgedAt := none
  terminalAt := none
  createdAt := now
  updatedAt := now

def named (delivery : Delivery) (agentId consumerId deliveryId : String) : Bool :=
  delivery.agentId = agentId ∧ delivery.consumerId = consumerId ∧ delivery.deliveryId = deliveryId

def isLive (delivery : Delivery) (leaseToken : String) (now : ℕ) : Bool :=
  delivery.status = .leased ∧ delivery.leaseToken = some leaseToken ∧
    delivery.leaseExpiresAt.any (now < ·)

/-- The finite attempt budget is used up. -/
def exhausted (delivery : Delivery) (attempts : ℕ) : Bool :=
  0 < delivery.maxAttempts ∧ delivery.maxAttempts ≤ attempts

/-- The lease was claimed for cognition that Hold may still refuse. -/
def admissionPending (delivery : Delivery) : Bool :=
  delivery.lastError = some cognitionAdmissionPending

/-- The attempts without one whose admission is still pending. -/
def startedAttempts (delivery : Delivery) : ℕ :=
  delivery.attempts - if delivery.admissionPending ∧ 0 < delivery.attempts then 1 else 0

/-- `_retry_identity_assignment`: whether a release keeps the original managed capability. -/
def keepsIdentity (delivery : Delivery) (backend : DatabaseBackend) (hold : Bool) : Bool :=
  delivery.consumerId ∈ coreCognitionConsumers ∧
    delivery.leaseOwner.any (likeDispatcher backend) ∧
    (hold ∨ delivery.exhausted delivery.attempts = false)

/-- Back to retry work without an owner. -/
def requeue (delivery : Delivery) (now : ℕ) (error : String) : Delivery :=
  { delivery with
    status := .retry
    leaseOwner := none
    leaseToken := none
    leaseExpiresAt := none
    nextAttemptAt := some now
    lastError := some error
    updatedAt := now }

/-- A lost lease goes back to retry work, or fails when its attempts are used up. An attempt whose
admission was pending does not count. -/
def recover (delivery : Delivery) (now : ℕ) (pendingError otherError : String) : Delivery :=
  let spent := delivery.exhausted delivery.startedAttempts
  { delivery with
    status := if spent then .failed else .retry
    attempts := delivery.startedAttempts
    leaseOwner := none
    leaseToken := none
    leaseExpiresAt := none
    nextAttemptAt := if spent then none else some now
    lastError := some (if delivery.admissionPending then pendingError else otherError)
    terminalAt := if spent then some now else none
    updatedAt := now }

/-- An unstarted lease goes back to retry work with its attempt. -/
def defer (delivery : Delivery) (now : ℕ) (keeps : Bool) : Delivery :=
  { delivery with
    status := .retry
    attempts := delivery.attempts - 1
    leaseOwner := if keeps then delivery.leaseOwner else none
    leaseToken := if keeps then delivery.leaseToken else none
    leaseExpiresAt := none
    nextAttemptAt := some now
    lastError := some "hold_deferred"
    terminalAt := none
    updatedAt := now }

/-- A released lease: retried, or terminal on request or without attempts. -/
def settle (delivery : Delivery) (backend : DatabaseBackend) (now retryAt : ℕ) (error : String)
    (terminal ackable : Bool) : Delivery :=
  let final := ackable || terminal || delivery.exhausted delivery.attempts
  let keeps := !(terminal || ackable) && delivery.keepsIdentity backend false
  { delivery with
    status := if ackable then .terminalAckable else if final then .failed else .retry
    leaseOwner := if keeps then delivery.leaseOwner else none
    leaseToken := if keeps then delivery.leaseToken else none
    leaseExpiresAt := none
    nextAttemptAt := if final then none else some retryAt
    lastError := some error
    terminalAt := if final then some now else none
    updatedAt := now }

def acknowledge (delivery : Delivery) (now : ℕ) : Delivery :=
  { delivery with
    status := .acknowledged
    leaseOwner := none
    leaseToken := none
    leaseExpiresAt := none
    acknowledgedAt := some now
    terminalAt := some now
    updatedAt := now }

/-- A new lease, with one more attempt. -/
def lease (delivery : Delivery) (executorId leaseToken : String) (leaseExpiresAt now : ℕ)
    (pending : Bool) : Delivery :=
  { delivery with
    status := .leased
    attempts := delivery.attempts + 1
    leaseOwner := some executorId
    leaseToken := some leaseToken
    leaseExpiresAt := some leaseExpiresAt
    nextAttemptAt := none
    lastError := if pending then some cognitionAdmissionPending else delivery.lastError
    updatedAt := now }

/-- The first lease of an initial reservation. -/
def activate (delivery : Delivery) (leaseExpiresAt now : ℕ) : Delivery :=
  { delivery with
    status := .leased
    leaseExpiresAt := some leaseExpiresAt
    updatedAt := now }

def renew (delivery : Delivery) (leaseExpiresAt now : ℕ) : Delivery :=
  { delivery with
    leaseExpiresAt := some leaseExpiresAt
    updatedAt := now }

/-- The lease crossed its final admission. -/
def begin (delivery : Delivery) (now : ℕ) : Delivery :=
  { delivery with
    lastError := none
    updatedAt := now }

/-- `_DEACTIVATED_CONSUMER_ERROR`. -/
def deactivate (delivery : Delivery) (now : ℕ) : Delivery :=
  { delivery with
    status := .failed
    leaseOwner := none
    leaseToken := none
    leaseExpiresAt := none
    nextAttemptAt := none
    lastError := some "durable consumer deactivated"
    terminalAt := some now
    updatedAt := now }

end Delivery

/-- The tables of the durable signal store. -/
structure DeliveryLedger where
  history : Ledger
  consumers : List DurableConsumerRegistration
  deliveries : List Delivery
  owners : List RuntimeOwner

/-- `_SELECTOR_KEY` and `_matches_selector` on a stored event. -/
structure Selectors where
  isValid : String → Bool
  holds : Event → String → Bool

/-- A consumer without a selector wants every event of its source. -/
def Selectors.accept (selectors : Selectors) (selector : Option String) (event : Event) : Bool :=
  selector.all (selectors.holds event)

namespace DeliveryLedger

def backend (ledger : DeliveryLedger) : DatabaseBackend := ledger.history.backend

def update (ledger : DeliveryLedger) (test : Delivery → Bool) (change : Delivery → Delivery) :
    DeliveryLedger :=
  { ledger with
    deliveries := ledger.deliveries.map fun delivery =>
      if test delivery then change delivery else delivery }

def getConsumer (ledger : DeliveryLedger) (agentId consumerId : String) :
    Option DurableConsumerRegistration :=
  ledger.consumers.find? fun consumer =>
    consumer.agentId = agentId ∧ consumer.consumerId = consumerId

def activeConsumer (ledger : DeliveryLedger) (agentId consumerId : String) :
    Option DurableConsumerRegistration :=
  (ledger.getConsumer agentId consumerId).filter (·.active)

def owner (ledger : DeliveryLedger) (agentId ownerId : String) : Option RuntimeOwner :=
  ledger.owners.find? fun owner => owner.agentId = agentId ∧ owner.ownerId = ownerId

def ownerIsLive (ledger : DeliveryLedger) (delivery : Delivery) (staleBefore : ℕ) : Bool :=
  delivery.leaseOwner.any fun owner =>
    (ledger.owner delivery.agentId owner).any (·.isLive staleBefore)

/-- A lease owner of the managed namespace whose runtime record is stopped or stale. -/
def ownerIsGone (ledger : DeliveryLedger) (delivery : Delivery) (staleBefore : ℕ) : Bool :=
  delivery.leaseOwner.any fun owner => likeDispatcher ledger.backend owner ∧
    (ledger.owner delivery.agentId owner).any fun record => !record.isLive staleBefore

/-- `_insert_delivery_locked`, an `INSERT OR IGNORE`. -/
def insertDelivery (ledger : DeliveryLedger) (delivery : Delivery) : DeliveryLedger :=
  if ledger.deliveries.any fun other =>
    other.deliveryId = delivery.deliveryId ∨ other.key = delivery.key
  then ledger
  else { ledger with deliveries := ledger.deliveries ++ [delivery] }

def insertDeliveries (ledger : DeliveryLedger) (deliveries : List Delivery) : DeliveryLedger :=
  deliveries.foldl insertDelivery ledger

def wanted (ledger : DeliveryLedger) (selectors : Selectors)
    (consumer : DurableConsumerRegistration) (now : ℕ) : List Event :=
  ledger.history.events.filter fun event =>
    event.scope = ⟨consumer.agentId, consumer.source⟩ ∧ now ≤ event.retentionUntil ∧
      selectors.accept consumer.correlationSelector event

/-- `_backfill_consumer`. The first secret is left to the lease of a claim. -/
def backfillConsumer (ledger : DeliveryLedger) (selectors : Selectors)
    (consumer : DurableConsumerRegistration) (now : ℕ) (secrets : ℕ → String) : DeliveryLedger :=
  if consumer.replayRetained then
    ledger.insertDeliveries ((ledger.wanted selectors consumer now).mapIdx fun index event =>
      .inserted (secrets (index + 1)) ⟨consumer.agentId, consumer.consumerId, event.eventId⟩
        consumer.maxAttempts now none)
  else ledger

def registerConsumer (ledger : DeliveryLedger) (selectors : Selectors)
    (registration : DurableConsumerRegistration) (now : ℕ) (secrets : ℕ → String) :
    Except SignalError DeliveryLedger := do
  requireNonempty "consumer_id" registration.consumerId
  requireNonempty "source" registration.source
  requireNonempty "agent_id" registration.agentId
  Except.require (1 ≤ registration.leaseSeconds) (.value "lease_seconds must be >= 1")
  Except.require (registration.correlationSelector.all selectors.isValid) (.value
    ("correlation_selector must be 'payload.<path>=<value>', " ++
      "'session_id=<value>', or 'kind=<value>'"))
  let stored := ledger.getConsumer registration.agentId registration.consumerId
  Except.require (stored.all (· = registration)) (.value
    ("Durable consumer registration conflicts with the existing contract for '" ++
      registration.consumerId ++ "'."))
  let ledger := if stored.isSome then ledger
    else { ledger with consumers := ledger.consumers ++ [registration] }
  .ok (if registration.active then ledger.backfillConsumer selectors registration now secrets
    else ledger)

/-- `deactivate_consumer`, and whether the consumer exists. -/
def deactivateConsumer (ledger : DeliveryLedger) (agentId consumerId : String) (now : ℕ) :
    Bool × DeliveryLedger :=
  match ledger.getConsumer agentId consumerId with
  | none => (false, ledger)
  | some consumer =>
    if consumer.active then
      (true, { ledger.update (fun delivery => delivery.agentId = agentId ∧
            delivery.consumerId = consumerId ∧ delivery.status.isTerminal = false)
          (·.deactivate now) with
        consumers := ledger.consumers.map fun other =>
          if other.agentId = agentId ∧ other.consumerId = consumerId then
            { other with active := false }
          else other })
    else (true, ledger)

/-- The active consumers of a scope whose selector holds of what the signal carries. -/
def matching (ledger : DeliveryLedger) (scope : Scope) (accepts : Option String → Bool) :
    List DurableConsumerRegistration :=
  ledger.consumers.filter fun consumer => consumer.agentId = scope.agentId ∧
    consumer.source = scope.source ∧ consumer.active ∧ accepts consumer.correlationSelector

/-- The deliveries of a new event. A reservation's token is a second secret. -/
def initialDeliveries (consumers : List DurableConsumerRegistration) (eventId : String) (now : ℕ)
    (initialLeaseOwner : Option String) (secrets : ℕ → String) : List Delivery :=
  consumers.mapIdx fun index consumer =>
    .inserted (secrets (2 * index)) ⟨consumer.agentId, consumer.consumerId, eventId⟩
      consumer.maxAttempts now
      (initialLeaseOwner.map fun owner => (owner, secrets (2 * index + 1)))

/-- `persist_signal` with the deliveries of a new event. -/
def persistSignal (ledger : DeliveryLedger) (signal : Signal) (accepts : Option String → Bool)
    (initialLeaseOwner : Option String) (now : ℕ) (completion : Except SignalError Unit)
    (secrets : ℕ → String) : Except SignalError (DurableEventPersistence × DeliveryLedger) := do
  initialLeaseOwner.elim (.ok ()) (requireNonempty "initial_lease_owner")
  let (persistence, history) ← ledger.history.persistSignal signal now completion
  let ledger := { ledger with history := history }
  .ok (persistence,
    if persistence.created then
      ledger.insertDeliveries (initialDeliveries (ledger.matching signal.scope accepts) signal.id
        now initialLeaseOwner secrets)
    else ledger)

def owed (ledger : DeliveryLedger) (eventId : String) : Bool :=
  ledger.deliveries.any fun delivery =>
    delivery.eventId = eventId ∧ delivery.status.isTerminal = false

def cascade (ledger : DeliveryLedger) (history : Ledger) : DeliveryLedger :=
  { ledger with
    history := history
    deliveries := ledger.deliveries.filter fun delivery =>
      history.events.any fun event => event.eventId = delivery.eventId }

def purgeExpired (ledger : DeliveryLedger) (agentId : String) (source : Option String)
    (limit : Option ℕ) (now : ℕ) : Except SignalError (List String × DeliveryLedger) := do
  let (deleted, history) ← ledger.history.purgeExpired agentId source limit now ledger.owed
  .ok (deleted, ledger.cascade history)

def retireSourceHistory (ledger : DeliveryLedger) (boundary : DurableSourceBoundary) :
    Except SignalError (Except SignalError ℕ × DeliveryLedger) := do
  let (outcome, history) ← ledger.history.retireSourceHistory boundary ledger.owed
  .ok (outcome, ledger.cascade history)

end DeliveryLedger

end Kestrel.Signals
