import Kestrel.Signals.DeliveryLease

/-!
# Runs of the delivery ledger

Executors stall and die between transactions, which commit one after the other under a clock that
never goes back. What the runs promise is stated with proof-only records: the leases under which
execution may begin, those under which it began, the tokens of initial reservations, the
deliveries that are due, the rows that retention deleted, and the acknowledged deliveries in order.
-/

namespace Kestrel.Signals

/-- A delivery with a token it was leased under. -/
abbrev Lease := String × String

/-- The leases that may execute after a claim. One whose admission is pending may not yet. -/
def granted (startable : List Lease) (deliveryId token : String) (pending : Bool) : List Lease :=
  if pending then startable else startable ++ [(deliveryId, token)]

structure DeliverySystem where
  ledger : DeliveryLedger
  clock : ℕ
  reservations : List String
  startable : List Lease
  started : List Lease
  due : List DeliveryKey
  retired : List Delivery
  acknowledged : List String

/-- A store without rows. -/
def DeliverySystem.fresh (backend : DatabaseBackend) (backfillCompleted : Bool) :
    DeliverySystem where
  ledger := ⟨⟨backend, backfillCompleted, fun _ => .absent, []⟩, [], [], []⟩
  clock := 0
  reservations := []
  startable := []
  started := []
  due := []
  retired := []
  acknowledged := []

/-- The rows that are or were in the table. -/
def DeliverySystem.everyRow (system : DeliverySystem) : List Delivery :=
  system.ledger.deliveries ++ system.retired

inductive DeliveryOperation where
  | registerConsumer (registration : DurableConsumerRegistration) (now : ℕ)
      (secrets : ℕ → String)
  | deactivateConsumer (agentId consumerId : String) (now : ℕ)
  | persistSignal (signal : Signal) (accepts : Option String → Bool)
      (initialLeaseOwner : Option String) (now : ℕ) (completion : Except SignalError Unit)
      (secrets : ℕ → String)
  | purgeExpired (agentId : String) (source : Option String) (limit : Option ℕ) (now : ℕ)
  | retireSourceHistory (boundary : DurableSourceBoundary)
  | claimDelivery (agentId consumerId : String) (eventId : Option String) (executorId : String)
      (recoveryNow effectiveNow staleBefore : ℕ) (pending : Bool) (withheld : String → Bool)
      (secrets : ℕ → String)
  | renewDeliveryLease (agentId consumerId deliveryId leaseToken : String) (now : ℕ)
  | claimInitialDelivery (agentId consumerId deliveryId initialLeaseOwner initialLeaseToken
      executorId : String) (now : ℕ) (pending : Bool) (secrets : ℕ → String)
  | activateInitialDelivery (agentId consumerId deliveryId initialLeaseOwner
      initialLeaseToken : String) (touchNow activationNow : ℕ)
  | touchRuntimeOwner (agentId ownerId : String) (now : ℕ)
  | releaseInitialReservations (agentId ownerId : String) (now : ℕ) (markOwnerStopped : Bool)
  | abandonInitialReservation (agentId consumerId deliveryId ownerId reservationToken : String)
      (now : ℕ) (reason : String)
  | recoverAbandonedInitialReservations (agentId recoveringOwnerId : String)
      (staleBefore now : ℕ)
  | recoverAbandonedLeases (agentId recoveringOwnerId : String) (staleBefore now : ℕ)
  | recoverOwnedPendingCognitionAdmissions (agentId ownerId : String) (now : ℕ)
  | beginCognitionExecution (agentId consumerId deliveryId leaseToken ownerId : String) (now : ℕ)
  | ackDelivery (agentId consumerId deliveryId leaseToken : String) (completeConsumer : Bool)
      (now completionNow : ℕ)
  | nackDelivery (agentId consumerId deliveryId leaseToken error : String) (retryDelay : ℕ)
      (terminal terminalAckable : Bool) (now : ℕ)
  | releaseDeliveryForHold (agentId consumerId deliveryId leaseToken : String) (now : ℕ)
  | releaseManagedDeliveryAfterTask (agentId consumerId deliveryId leaseToken ownerId
      error : String) (terminal terminalAckable : Bool) (now : ℕ)
  /-- An executor begins to execute under a lease it was given. -/
  | startExecution (lease : Lease)

namespace DeliveryOperation

/-- The instants that a call samples, in order. -/
def instants : DeliveryOperation → List ℕ
  | .registerConsumer _ now _ | .deactivateConsumer _ _ now | .persistSignal _ _ _ now _ _
  | .purgeExpired _ _ _ now | .renewDeliveryLease _ _ _ _ now
  | .claimInitialDelivery _ _ _ _ _ _ now _ _ | .touchRuntimeOwner _ _ now
  | .releaseInitialReservations _ _ now _ | .abandonInitialReservation _ _ _ _ _ now _
  | .recoverAbandonedInitialReservations _ _ _ now | .recoverAbandonedLeases _ _ _ now
  | .recoverOwnedPendingCognitionAdmissions _ _ now | .beginCognitionExecution _ _ _ _ _ now
  | .nackDelivery _ _ _ _ _ _ _ _ now | .releaseDeliveryForHold _ _ _ _ now
  | .releaseManagedDeliveryAfterTask _ _ _ _ _ _ _ _ now => [now]
  | .claimDelivery _ _ _ _ recoveryNow effectiveNow _ _ _ _ => [recoveryNow, effectiveNow]
  | .activateInitialDelivery _ _ _ _ _ touchNow activationNow => [touchNow, activationNow]
  | .ackDelivery _ _ _ _ _ now completionNow => [now, completionNow]
  | .retireSourceHistory _ | .startExecution _ => []

/-- The secrets that a call draws from. -/
def secrets : DeliveryOperation → Option (ℕ → String)
  | .registerConsumer _ _ secrets | .persistSignal _ _ _ _ _ secrets
  | .claimDelivery _ _ _ _ _ _ _ _ _ secrets | .claimInitialDelivery _ _ _ _ _ _ _ _ secrets =>
    some secrets
  | _ => none

/-- The error text that a caller chooses. -/
def error : DeliveryOperation → Option String
  | .abandonInitialReservation _ _ _ _ _ _ reason => some reason
  | .nackDelivery _ _ _ _ error _ _ _ _ => some error
  | .releaseManagedDeliveryAfterTask _ _ _ _ _ error _ _ _ => some error
  | _ => none

end DeliveryOperation

namespace DeliverySystem

/-- A secret that no row and no record carries. -/
structure Unused (system : DeliverySystem) (secret : String) : Prop where
  deliveries : ∀ delivery ∈ system.everyRow, delivery.deliveryId ≠ secret
  tokens : ∀ delivery ∈ system.everyRow, delivery.leaseToken ≠ some secret
  reservations : secret ∉ system.reservations
  leases : ∀ lease ∈ system.startable, lease.1 ≠ secret ∧ lease.2 ≠ secret

/-- What the clock, the secrets and the callers keep to. Hold releases an attempt only before it
executes, a transfer presents the token of a reservation, and no caller's error text is the
internal marker. -/
structure Allowed (system : DeliverySystem) (operation : DeliveryOperation) : Prop where
  clock : ∀ now ∈ operation.instants, system.clock ≤ now
  instants : operation.instants.Pairwise (· ≤ ·)
  fresh : ∀ secrets ∈ operation.secrets, Function.Injective secrets ∧
    ∀ index, system.Unused (secrets index)
  marker : operation.error ≠ some cognitionAdmissionPending
  transfer : ∀ agentId consumerId deliveryId owner token executor now pending secrets,
    operation = .claimInitialDelivery agentId consumerId deliveryId owner token executor now
      pending secrets → token ∈ system.reservations
  hold : ∀ agentId consumerId deliveryId token now,
    operation = .releaseDeliveryForHold agentId consumerId deliveryId token now →
      (deliveryId, token) ∉ system.started

/-- Retention deletes events with their deliveries. -/
def retain (system : DeliverySystem) (ledger : DeliveryLedger) : DeliverySystem :=
  { system with
    ledger := ledger
    due := system.due.filter fun key =>
      ledger.history.events.any fun event => event.eventId = key.eventId
    retired := system.retired ++ system.ledger.deliveries.filter fun delivery =>
      !ledger.history.events.any fun event => event.eventId = delivery.eventId }

variable (selectors : Selectors)

/-- One transaction of a store, or the beginning of an execution. -/
def advance (system : DeliverySystem) : DeliveryOperation → DeliverySystem
  | .registerConsumer registration now secrets =>
    match system.ledger.registerConsumer selectors registration now secrets with
    | .error _ => system
    | .ok ledger => { system with ledger := ledger }
  | .deactivateConsumer agentId consumerId now =>
    { system with ledger := (system.ledger.deactivateConsumer agentId consumerId now).2 }
  | .persistSignal signal accepts owner now completion secrets =>
    match system.ledger.persistSignal signal accepts owner now completion secrets with
    | .error _ => system
    | .ok (persistence, ledger) =>
      let matched := system.ledger.matching signal.scope accepts
      if persistence.created then { system with
        ledger := ledger
        reservations := system.reservations ++ if owner.isSome then
          (List.range matched.length).map fun index => secrets (2 * index + 1) else []
        due := system.due ++ matched.map fun consumer =>
          ⟨consumer.agentId, consumer.consumerId, signal.id⟩ }
      else { system with ledger := ledger }
  | .purgeExpired agentId source limit now =>
    match system.ledger.purgeExpired agentId source limit now with
    | .error _ => system
    | .ok (_, ledger) => system.retain ledger
  | .retireSourceHistory boundary =>
    match system.ledger.retireSourceHistory boundary with
    | .error _ => system
    | .ok (_, ledger) => system.retain ledger
  | .claimDelivery agentId consumerId eventId executorId recoveryNow effectiveNow staleBefore
      pending withheld secrets =>
    let (claimed, ledger) := system.ledger.claimDelivery selectors agentId consumerId eventId
      executorId recoveryNow effectiveNow staleBefore pending withheld secrets
    { system with
      ledger := ledger
      startable := match claimed with
        | some deliveryId => granted system.startable deliveryId (secrets 0) pending
        | none => system.startable }
  | .renewDeliveryLease agentId consumerId deliveryId token now =>
    { system with
      ledger := (system.ledger.renewDeliveryLease agentId consumerId deliveryId token now).2 }
  | .claimInitialDelivery agentId consumerId deliveryId owner token executorId now pending
      secrets =>
    let (claimed, ledger) := system.ledger.claimInitialDelivery agentId consumerId deliveryId
      owner token executorId now pending secrets
    { system with
      ledger := ledger
      startable := if claimed then granted system.startable deliveryId (secrets 0) pending
        else system.startable }
  | .activateInitialDelivery agentId consumerId deliveryId owner token touchNow activationNow =>
    { system with
      ledger := (system.ledger.activateInitialDelivery agentId consumerId deliveryId owner token
        touchNow activationNow).2 }
  | .touchRuntimeOwner agentId ownerId now =>
    { system with ledger := system.ledger.touchRuntimeOwner agentId ownerId now }
  | .releaseInitialReservations agentId ownerId now stopped =>
    { system with
      ledger := system.ledger.releaseInitialReservations agentId ownerId now stopped }
  | .abandonInitialReservation agentId consumerId deliveryId owner token now reason =>
    { system with
      ledger := (system.ledger.abandonInitialReservation agentId consumerId deliveryId owner
        token now reason).2 }
  | .recoverAbandonedInitialReservations agentId recovering staleBefore now =>
    { system with
      ledger := system.ledger.recoverAbandonedInitialReservations agentId recovering
        staleBefore now }
  | .recoverAbandonedLeases agentId recovering staleBefore now =>
    { system with
      ledger := system.ledger.recoverAbandonedLeases agentId recovering staleBefore now }
  | .recoverOwnedPendingCognitionAdmissions agentId ownerId now =>
    { system with
      ledger := system.ledger.recoverOwnedPendingCognitionAdmissions agentId ownerId now }
  | .beginCognitionExecution agentId consumerId deliveryId token ownerId now =>
    let (begun, ledger) := system.ledger.beginCognitionExecution agentId consumerId deliveryId
      token ownerId now
    { system with
      ledger := ledger
      startable := if begun then system.startable ++ [(deliveryId, token)]
        else system.startable }
  | .ackDelivery agentId consumerId deliveryId token complete now completionNow =>
    let (acknowledged, ledger) := system.ledger.ackDelivery agentId consumerId deliveryId token
      complete now completionNow
    { system with
      ledger := ledger
      acknowledged := if acknowledged then system.acknowledged ++ [deliveryId]
        else system.acknowledged }
  | .nackDelivery agentId consumerId deliveryId token error delay terminal ackable now =>
    match system.ledger.nackDelivery agentId consumerId deliveryId token error delay terminal
        ackable now with
    | .error _ => system
    | .ok (_, ledger) => { system with ledger := ledger }
  | .releaseDeliveryForHold agentId consumerId deliveryId token now =>
    let (released, ledger) := system.ledger.releaseDeliveryForHold agentId consumerId deliveryId
      token now
    { system with
      ledger := ledger
      startable := if released then system.startable.erase (deliveryId, token)
        else system.startable }
  | .releaseManagedDeliveryAfterTask agentId consumerId deliveryId token owner error terminal
      ackable now =>
    match system.ledger.releaseManagedDeliveryAfterTask agentId consumerId deliveryId token owner
        error terminal ackable now with
    | .error _ => system
    | .ok (_, ledger) => { system with ledger := ledger }
  | .startExecution lease =>
    if lease ∈ system.startable ∧ lease ∉ system.started then
      { system with started := system.started ++ [lease] }
    else system

/-- One step under a clock that moves on. -/
def step (system : DeliverySystem) (operation : DeliveryOperation) : DeliverySystem :=
  { system.advance selectors operation with
    clock := operation.instants.foldl max system.clock }

/-- The steps that the clock, the secrets and the callers allow. -/
def Steps : DeliverySystem → DeliveryOperation → DeliverySystem → Prop :=
  Transition.Guarded (Transition.ofFunction (step selectors)) Allowed

end DeliverySystem

end Kestrel.Signals
