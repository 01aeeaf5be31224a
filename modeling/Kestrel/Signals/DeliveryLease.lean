import Kestrel.Signals.Delivery

/-!
# Claims, leases and their recovery

Each call names its delivery by agent, consumer and delivery id, and presents the token it was
given. A call that changes no row reports so and commits nothing else, except where it says.
-/

namespace Kestrel.Signals

namespace DeliveryLedger

/-- A conditional update, and whether it changed a row. -/
def tryUpdate (ledger : DeliveryLedger) (test : Delivery → Bool) (change : Delivery → Delivery) :
    Bool × DeliveryLedger :=
  (ledger.deliveries.any test, ledger.update test change)

def recoverExpiredLeases (ledger : DeliveryLedger) (agentId consumerId : String)
    (now staleBefore : ℕ) : DeliveryLedger :=
  ledger.update (fun delivery => delivery.agentId = agentId ∧ delivery.consumerId = consumerId ∧
      delivery.status = .leased ∧ delivery.leaseExpiresAt.any (· ≤ now) ∧
      ¬(delivery.leaseOwner.any (likeDispatcher ledger.backend) ∧
        ledger.ownerIsLive delivery staleBefore))
    (·.recover now "cognition admission lease expired before execution"
      "lease expired before acknowledgement")

/-- `_managed_retry_claim_sql`: a retry is not taken from the live dispatcher that released it. -/
def managedRetryClaim (ledger : DeliveryLedger) (delivery : Delivery) (executorId : String)
    (staleBefore : ℕ) : Bool :=
  delivery.consumerId ∉ coreCognitionConsumers ∨ delivery.status ≠ .retry ∨
    delivery.leaseOwner.all fun owner =>
      !likeDispatcher ledger.backend owner || owner = executorId ||
        !ledger.ownerIsLive delivery staleBefore

/-- A row that the claim of an executor may take. -/
def claimable (ledger : DeliveryLedger) (delivery : Delivery) (executorId : String)
    (now staleBefore : ℕ) : Bool :=
  delivery.status.isClaimable ∧ delivery.exhausted delivery.attempts = false ∧
    delivery.nextAttemptAt.all (· ≤ now) ∧ ledger.managedRetryClaim delivery executorId staleBefore

/-- `_lock_claimable_delivery`: the oldest due row that this process does not withhold. -/
def lockClaimableDelivery (ledger : DeliveryLedger) (agentId consumerId : String)
    (eventId : Option String) (executorId : String) (now staleBefore : ℕ)
    (withheld : String → Bool) : Option String :=
  ((ledger.deliveries.filter fun delivery =>
      delivery.agentId = agentId ∧ delivery.consumerId = consumerId ∧
        eventId.all (delivery.eventId = ·) ∧
        ledger.claimable delivery executorId now staleBefore ∧
        withheld delivery.deliveryId = false).mergeSort fun first second =>
      first.createdAt < second.createdAt ∨
        first.createdAt = second.createdAt ∧ first.deliveryId ≤ second.deliveryId).head?.map
    Delivery.deliveryId

def prepareClaim (ledger : DeliveryLedger) (selectors : Selectors)
    (consumer : DurableConsumerRegistration) (eventId : Option String) (now staleBefore : ℕ)
    (secrets : ℕ → String) : DeliveryLedger :=
  let recovered := ledger.recoverExpiredLeases consumer.agentId consumer.consumerId now staleBefore
  match eventId with
  | none => recovered.backfillConsumer selectors consumer now secrets
  | some _ => recovered

def claimLocked (ledger : DeliveryLedger) (consumer : DurableConsumerRegistration)
    (deliveryId executorId leaseToken : String) (now staleBefore : ℕ) (pending : Bool) :
    Bool × DeliveryLedger :=
  ledger.tryUpdate
    (fun delivery => delivery.named consumer.agentId consumer.consumerId deliveryId ∧
      ledger.claimable delivery executorId now staleBefore)
    (·.lease executorId leaseToken (now + consumer.leaseSeconds * second) now pending)

/-- `claim_delivery`, or `claim_delivery_for_event` when it names an event. Recovery and backfill
are committed whether or not a row is claimed. The lease takes the first secret. -/
def claimDelivery (ledger : DeliveryLedger) (selectors : Selectors) (agentId consumerId : String)
    (eventId : Option String) (executorId : String) (recoveryNow effectiveNow staleBefore : ℕ)
    (pending : Bool) (withheld : String → Bool) (secrets : ℕ → String) :
    Option String × DeliveryLedger :=
  match ledger.activeConsumer agentId consumerId with
  | none => (none, ledger)
  | some consumer =>
    let prepared := ledger.prepareClaim selectors consumer eventId recoveryNow staleBefore secrets
    match prepared.lockClaimableDelivery agentId consumerId eventId executorId recoveryNow
        staleBefore withheld with
    | none => (none, prepared)
    | some deliveryId =>
      let (claimed, claimedLedger) := prepared.claimLocked consumer deliveryId executorId
        (secrets 0) effectiveNow staleBefore pending
      (if claimed then some deliveryId else none, claimedLedger)

def renewDeliveryLease (ledger : DeliveryLedger)
    (agentId consumerId deliveryId leaseToken : String) (now : ℕ) : Bool × DeliveryLedger :=
  match ledger.activeConsumer agentId consumerId with
  | none => (false, ledger)
  | some consumer => ledger.tryUpdate
      (fun delivery => delivery.named agentId consumerId deliveryId ∧
        delivery.isLive leaseToken now)
      (·.renew (now + consumer.leaseSeconds * second) now)

/-- `claim_initial_delivery`. The transferred lease takes the first secret. -/
def claimInitialDelivery (ledger : DeliveryLedger)
    (agentId consumerId deliveryId initialLeaseOwner initialLeaseToken executorId : String)
    (now : ℕ) (pending : Bool) (secrets : ℕ → String) : Bool × DeliveryLedger :=
  match ledger.activeConsumer agentId consumerId with
  | none => (false, ledger)
  | some consumer => ledger.tryUpdate
      (fun delivery => delivery.named agentId consumerId deliveryId ∧
        delivery.isLive initialLeaseToken now ∧ delivery.leaseOwner = some initialLeaseOwner)
      (·.lease executorId (secrets 0) (now + consumer.leaseSeconds * second) now pending)

/-- `_touch_runtime_owner_locked`. -/
def touchRuntimeOwner (ledger : DeliveryLedger) (agentId ownerId : String) (now : ℕ) :
    DeliveryLedger :=
  match ledger.owner agentId ownerId with
  | some _ => { ledger with
      owners := ledger.owners.map fun owner =>
        if owner.agentId = agentId ∧ owner.ownerId = ownerId then
          { owner with heartbeatAt := max owner.heartbeatAt now, stoppedAt := none }
        else owner }
  | none => { ledger with owners := ledger.owners ++ [⟨agentId, ownerId, now, none⟩] }

/-- `activate_initial_delivery`. The owner's heartbeat is refreshed in any case. -/
def activateInitialDelivery (ledger : DeliveryLedger)
    (agentId consumerId deliveryId initialLeaseOwner initialLeaseToken : String)
    (touchNow activationNow : ℕ) : Bool × DeliveryLedger :=
  match ledger.activeConsumer agentId consumerId with
  | none => (false, ledger)
  | some consumer =>
    (ledger.touchRuntimeOwner agentId initialLeaseOwner touchNow).tryUpdate
      (fun delivery => delivery.named agentId consumerId deliveryId ∧
        delivery.status = .initialReserved ∧ delivery.leaseOwner = some initialLeaseOwner ∧
        delivery.leaseToken = some initialLeaseToken ∧ delivery.leaseExpiresAt = none)
      (·.activate (activationNow + consumer.leaseSeconds * second) activationNow)

def releaseInitialReservations (ledger : DeliveryLedger) (agentId ownerId : String) (now : ℕ)
    (markOwnerStopped : Bool) : DeliveryLedger :=
  if ledger.backend = .postgres ∧ ledger.owner agentId ownerId = none then ledger
  else
    let released := ledger.update
      (fun delivery => delivery.agentId = agentId ∧ delivery.status = .initialReserved ∧
        delivery.leaseOwner = some ownerId)
      (·.requeue now "initial reservation owner stopped before activation")
    if markOwnerStopped then { released with
      owners := released.owners.map fun owner =>
        if owner.agentId = agentId ∧ owner.ownerId = ownerId then
          match ledger.backend with
          | .postgres => { owner with
              heartbeatAt := max owner.heartbeatAt now
              stoppedAt := some (owner.stoppedAt.getD now) }
          | .sqlite => { owner with
              heartbeatAt := now
              stoppedAt := some now }
        else owner }
    else released

def abandonInitialReservation (ledger : DeliveryLedger)
    (agentId consumerId deliveryId ownerId reservationToken : String) (now : ℕ)
    (reason : String) : Bool × DeliveryLedger :=
  ledger.tryUpdate
    (fun delivery => delivery.named agentId consumerId deliveryId ∧
      (delivery.status = .initialReserved ∨ delivery.status = .leased) ∧
      delivery.leaseOwner = some ownerId ∧ delivery.leaseToken = some reservationToken)
    (·.requeue now reason)

def recoverAbandonedInitialReservations (ledger : DeliveryLedger)
    (agentId recoveringOwnerId : String) (staleBefore now : ℕ) : DeliveryLedger :=
  ledger.update
    (fun delivery => delivery.agentId = agentId ∧ delivery.status = .initialReserved ∧
      delivery.leaseOwner.any (· ≠ recoveringOwnerId) ∧ ledger.ownerIsGone delivery staleBefore)
    (·.requeue now "initial reservation owner unavailable before activation")

def recoverAbandonedLeases (ledger : DeliveryLedger) (agentId recoveringOwnerId : String)
    (staleBefore now : ℕ) : DeliveryLedger :=
  ledger.update
    (fun delivery => delivery.agentId = agentId ∧ delivery.status = .leased ∧
      delivery.leaseOwner.any (· ≠ recoveringOwnerId) ∧ ledger.ownerIsGone delivery staleBefore)
    (·.recover now "cognition admission owner unavailable before execution"
      "lease owner unavailable before acknowledgement")

def recoverOwnedPendingCognitionAdmissions (ledger : DeliveryLedger) (agentId ownerId : String)
    (now : ℕ) : DeliveryLedger :=
  ledger.update
    (fun delivery => delivery.agentId = agentId ∧ delivery.status = .leased ∧
      delivery.leaseOwner = some ownerId ∧ delivery.admissionPending)
    (·.defer now false)

def beginCognitionExecution (ledger : DeliveryLedger)
    (agentId consumerId deliveryId leaseToken ownerId : String) (now : ℕ) :
    Bool × DeliveryLedger :=
  ledger.tryUpdate
    (fun delivery => delivery.named agentId consumerId deliveryId ∧ delivery.status = .leased ∧
      delivery.leaseOwner = some ownerId ∧ delivery.leaseToken = some leaseToken ∧
      delivery.admissionPending)
    (·.begin now)

/-- `ack_delivery`. Completing the consumer terminalizes its other work in the same
transaction. -/
def ackDelivery (ledger : DeliveryLedger) (agentId consumerId deliveryId leaseToken : String)
    (completeConsumer : Bool) (now completionNow : ℕ) : Bool × DeliveryLedger :=
  if completeConsumer ∧ ledger.getConsumer agentId consumerId = none then (false, ledger)
  else
    let (acknowledged, ledger) := ledger.tryUpdate
      (fun delivery => delivery.named agentId consumerId deliveryId ∧
        delivery.isLive leaseToken now)
      (·.acknowledge now)
    if acknowledged ∧ completeConsumer then
      (true, (ledger.deactivateConsumer agentId consumerId completionNow).2)
    else (acknowledged, ledger)

def nackDelivery (ledger : DeliveryLedger) (agentId consumerId deliveryId leaseToken : String)
    (error : String) (retryDelay : ℕ) (terminal terminalAckable : Bool) (now : ℕ) :
    Except SignalError (Bool × DeliveryLedger) := do
  requireNonempty "error" error
  Except.require (terminalAckable = true → terminal = true)
    (.value "terminal_ackable deliveries must be terminal")
  .ok (ledger.tryUpdate
    (fun delivery => delivery.named agentId consumerId deliveryId ∧
      delivery.isLive leaseToken now)
    (·.settle ledger.backend now (now + retryDelay) error terminal terminalAckable))

def releaseDeliveryForHold (ledger : DeliveryLedger)
    (agentId consumerId deliveryId leaseToken : String) (now : ℕ) : Bool × DeliveryLedger :=
  ledger.tryUpdate
    (fun delivery => delivery.named agentId consumerId deliveryId ∧ delivery.status = .leased ∧
      delivery.leaseToken = some leaseToken)
    (fun delivery => delivery.defer now (delivery.keepsIdentity ledger.backend true))

/-- `release_managed_delivery_after_task`. A terminal release also reaches a retry that kept the
original capability. -/
def releaseManagedDeliveryAfterTask (ledger : DeliveryLedger)
    (agentId consumerId deliveryId leaseToken ownerId error : String)
    (terminal terminalAckable : Bool) (now : ℕ) : Except SignalError (Bool × DeliveryLedger) := do
  requireNonempty "error" error
  Except.require (terminalAckable = true → terminal = true)
    (.value "terminal_ackable deliveries must be terminal")
  Except.require ("dispatcher:".toList.isPrefixOf ownerId.toList = true)
    (.value "owner_id must identify a managed dispatcher")
  .ok (ledger.tryUpdate
    (fun delivery => delivery.named agentId consumerId deliveryId ∧
      (delivery.status = .leased ∨
        delivery.status = .retry ∧ terminal = true ∧ terminalAckable = false) ∧
      delivery.leaseOwner = some ownerId ∧ delivery.leaseToken = some leaseToken)
    (·.settle ledger.backend now now error terminal terminalAckable))

end DeliveryLedger

end Kestrel.Signals
