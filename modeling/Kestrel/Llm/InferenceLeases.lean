import Kestrel.Base.Attempt
import Mathlib.Data.Rat.Defs
import Mathlib.Order.Basic

/-!
# Inference leases

The coordinator of one agent's inference lease with its durable record and the route of the language
model service. The provider is what it was asked and what it answered. A call holds the lock of the
coordinator from its start to its end.
-/

namespace Kestrel.Llm

variable {Details : Type}

inductive LeaseState where
  | pending
  | ready
  | releasing
  | released
  | failed
  | expired
  deriving DecidableEq, Repr

/-- The property `is_terminal` of a lease. -/
def LeaseState.isTerminal : LeaseState → Bool
  | .released | .failed | .expired => true
  | _ => false

def LeaseState.allowedTransitions : LeaseState → List LeaseState
  | .pending => [.pending, .ready, .failed, .releasing, .released, .expired]
  | .ready => [.ready, .failed, .releasing, .released, .expired]
  | .releasing => [.releasing, .released, .expired, .failed]
  | .failed => [.failed, .releasing]
  | .released => [.released, .releasing]
  | .expired => [.expired, .releasing]

structure Request (Details : Type) where
  requestId : String
  ownerId : String
  details : Details
  deriving DecidableEq, Repr

structure Quote (Details : Type) where
  providerName : String
  estimatedTotalCost : ℚ
  estimatedReadySeconds : ℕ
  hourlyCost : ℚ
  details : Details
  deriving DecidableEq, Repr

/-- A lease as a provider reports it. Its terms are what its owner, its request and its quote are
checked against. -/
structure Lease (Details : Type) where
  leaseId : String
  state : LeaseState
  updatedAt : ℤ
  terms : Details
  deriving DecidableEq, Repr

/-- `InferenceLeaseRecord`. -/
structure Record (Details : Type) where
  providerName : String
  request : Request Details
  quote : Quote Details
  lease : Option (Lease Details)
  deriving DecidableEq, Repr

/-- What the coordinator was built with: its agent, its providers, and the checks `assert_owner` and
`validate_for` of a lease's terms. -/
structure Setup (Details : Type) where
  ownerId : String
  installed : String → Bool
  accepts : Request Details → Quote Details → Details → Bool

/-- The private route of the language model service. A route that drains accepts no call. -/
structure Route where
  leaseId : String
  accepting : Bool
  deriving DecidableEq, Repr

/-- What passed between the coordinator and a provider: requests for a lease, with the durable record
of that moment; renewals; reports on the lease of a request; and the reports refused as stale. -/
inductive Event (Details : Type) where
  | acquired (request : Request Details) (quote : Quote Details)
      (durable : Option (Record Details))
  | touched (request : Request Details)
  | reported (request : Request Details) (lease : Lease Details)
  | stale (lease : Lease Details)
  deriving DecidableEq, Repr

/-- The coordinator and its surroundings. The events are newest first. -/
structure World (Details : Type) where
  running : Bool
  memory : Option (Record Details)
  durable : Option (Record Details)
  route : Option Route
  events : List (Event Details)
  deriving DecidableEq, Repr

namespace World

def initial : World Details where
  running := true
  memory := none
  durable := none
  route := none
  events := []

/-- The process is lost with what it held in memory. -/
def crash (world : World Details) : World Details :=
  { world with
    running := false
    memory := none
    route := none }

def hold (world : World Details) (record : Record Details) : World Details :=
  { world with memory := some record }

def note (world : World Details) (event : Event Details) : World Details :=
  { world with events := event :: world.events }

/-- The durable record is the one in memory. -/
def persisted (world : World Details) : World Details := { world with durable := world.memory }

def closeRoute (world : World Details) : World Details :=
  { world with route := world.route.map fun route => { route with accepting := false } }

end World

/-- A lease reached the memory of the coordinator: the end of its save and of the change of the
route. -/
structure Applied where
  persist : Write
  routing : Write
  deriving DecidableEq, Repr

/-- An exchange with a provider: the admission of the work, the answer, and what follows it. -/
structure Exchange (Details : Type) where
  work : Ending Unit
  answer : Ending (Lease Details)
  applied : Applied
  deriving DecidableEq, Repr

section Coordinator

variable (setup : Setup Details)

def persist (outcome : Write) : Attempt (World Details) Unit :=
  Attempt.write outcome World.persisted

/-- `activate_inference_lease`. A failure may leave the route draining. -/
def activateInferenceLease (leaseId : String) (outcome : Write) : Attempt (World Details) Unit := do
  let world ← Attempt.get
  match world.route with
  | none =>
    match outcome with
    | .done => Attempt.modify fun world => { world with route := some ⟨leaseId, true⟩ }
    | .raised _ => Attempt.raise
    | .stopped _ => Attempt.stop
  | some route => do
    Attempt.require (route.accepting = true ∧ route.leaseId = leaseId)
    match outcome with
    | .done => pure ()
    | .raised closed => do
      Attempt.modify fun world => if closed then world.closeRoute else world
      Attempt.raise
    | .stopped _ => Attempt.stop

/-- `deactivate_inference_lease` where the lease need not be active. A failure leaves the route
draining. -/
def deactivateInferenceLease (leaseId : String) (outcome : Write) :
    Attempt (World Details) Unit := do
  let world ← Attempt.get
  match world.route with
  | none => pure ()
  | some route =>
    if route.leaseId = leaseId then do
      Attempt.modify World.closeRoute
      match outcome with
      | .done => Attempt.modify fun world => { world with route := none }
      | .raised _ => Attempt.raise
      | .stopped _ => Attempt.stop
    else pure ()

def validateTransition (previous : Option (Lease Details)) (current : Lease Details) :
    Attempt (World Details) Unit :=
  match previous with
  | none => pure ()
  | some previous => do
    Attempt.require (current.leaseId = previous.leaseId)
    Attempt.require (current.state ∈ previous.state.allowedTransitions)
    if current.updatedAt < previous.updatedAt then do
      Attempt.modify fun world => world.note (.stale current)
      Attempt.raise
    else pure ()

def routeLease (lease : Lease Details) (outcome : Write) : Attempt (World Details) Unit :=
  match lease.state with
  | .ready => activateInferenceLease lease.leaseId outcome
  | .pending => pure ()
  | _ => deactivateInferenceLease lease.leaseId outcome

def applyProviderLease (record : Record Details) (lease : Lease Details) (applied : Applied) :
    Attempt (World Details) (Lease Details) := do
  Attempt.require (setup.accepts record.request record.quote lease.terms = true)
  validateTransition record.lease lease
  Attempt.modify fun world => world.hold { record with lease := some lease }
  persist applied.persist
  routeLease lease applied.routing
  return lease

/-- A provider's answer on the lease of a request. An answer on another lease reports nothing. -/
def noteReport (record : Record Details) (leaseId : String) (lease : Lease Details) :
    Attempt (World Details) Unit :=
  if lease.leaseId = leaseId then
    Attempt.modify fun world => world.note (.reported record.request lease)
  else pure ()

/-- A provider's answer on a lease that the coordinator holds. -/
def receive (record : Record Details) (leaseId : String) (exchange : Exchange Details) :
    Attempt (World Details) (Lease Details) := do
  let lease ← Attempt.await exchange.answer
  noteReport record leaseId lease
  applyProviderLease setup record lease exchange.applied

def refreshProviderLease (record : Record Details) (previous : Lease Details)
    (exchange : Exchange Details) : Attempt (World Details) (Lease Details) := do
  Attempt.require (setup.installed record.providerName = true)
  receive setup record previous.leaseId exchange

/-- The request for a lease, first or again. -/
def acquireFromProvider (record : Record Details) (exchange : Exchange Details) :
    Attempt (World Details) (Lease Details) := do
  Attempt.require (setup.installed record.providerName = true)
  Attempt.await exchange.work
  Attempt.modify fun world => world.note (.acquired record.request record.quote world.durable)
  let lease ← Attempt.await exchange.answer
  Attempt.modify fun world => world.note (.reported record.request lease)
  applyProviderLease setup record lease exchange.applied

/-- A persisted record as it is read again. A ready lease is pending until its route is fetched. -/
def Record.fromPersisted (record : Record Details) : Record Details :=
  { record with
    lease := record.lease.map fun lease =>
      { lease with state := if lease.state = .ready then .pending else lease.state } }

/-- `restore` of the durable record. -/
def restore (exchange : Exchange Details) :
    Attempt (World Details) (Option (Lease Details)) := do
  let world ← Attempt.get
  match world.durable with
  | none => return none
  | some payload => do
    let record := payload.fromPersisted
    Attempt.require (∀ lease ∈ record.lease,
      setup.accepts record.request record.quote lease.terms = true)
    Attempt.modify fun world => world.hold record
    match record.lease with
    | some lease => do
      let lease ← refreshProviderLease setup record lease exchange
      return some lease
    | none => do
      let lease ← acquireFromProvider setup record exchange
      return some lease

def Quote.cheaper (left right : Quote Details) : Bool :=
  left.estimatedTotalCost < right.estimatedTotalCost ||
    (left.estimatedTotalCost = right.estimatedTotalCost &&
      (left.estimatedReadySeconds < right.estimatedReadySeconds ||
        (left.estimatedReadySeconds = right.estimatedReadySeconds &&
          (left.hourlyCost < right.hourlyCost ||
            (left.hourlyCost = right.hourlyCost && left.providerName < right.providerName)))))

def cheapest : List (Quote Details) → Option (Quote Details)
  | [] => none
  | quote :: quotes =>
    some (quotes.foldl (fun best other => if other.cheaper best then other else best) quote)

def acquireQuoted (request : Request Details) (quotes : List (Quote Details)) (outcome : Write)
    (exchange : Exchange Details) : Attempt (World Details) (Lease Details) :=
  match cheapest quotes with
  | none => Attempt.raise
  | some quote => do
    let record : Record Details :=
      { providerName := quote.providerName
        request := request
        quote := quote
        lease := none }
    Attempt.modify fun world => world.hold record
    persist outcome
    acquireFromProvider setup record exchange

def recheck (record : Record Details) (lease : Lease Details) (exchange : Exchange Details) :
    Attempt (World Details) (Lease Details) :=
  if lease.state.isTerminal then refreshProviderLease setup record lease exchange else pure lease

def acquire (request : Request Details) (rechecked : Exchange Details)
    (quotes : List (Quote Details)) (outcome : Write) (exchange : Exchange Details) :
    Attempt (World Details) (Lease Details) := do
  Attempt.require (request.ownerId = setup.ownerId)
  let world ← Attempt.get
  match world.memory with
  | none => acquireQuoted setup request quotes outcome exchange
  | some previous =>
    match previous.lease with
    | none => do
      Attempt.require (previous.request.requestId = request.requestId)
      acquireFromProvider setup previous exchange
    | some lease => do
      let lease ← recheck setup previous lease rechecked
      Attempt.require (lease.state.isTerminal = true)
      acquireQuoted setup request quotes outcome exchange

def recordForLease (leaseId : String) :
    Attempt (World Details) (Record Details × Lease Details) := do
  let world ← Attempt.get
  match world.memory with
  | none => Attempt.raise
  | some record =>
    match record.lease with
    | none => Attempt.raise
    | some lease => do
      Attempt.require (lease.leaseId = leaseId)
      return (record, lease)

def status (leaseId : String) (exchange : Exchange Details) :
    Attempt (World Details) (Lease Details) := do
  let (record, lease) ← recordForLease leaseId
  refreshProviderLease setup record lease exchange

def touch (leaseId : String) (exchange : Exchange Details) :
    Attempt (World Details) (Lease Details) := do
  let (record, previous) ← recordForLease leaseId
  Attempt.require (previous.state = .ready)
  Attempt.require (setup.installed record.providerName = true)
  Attempt.await exchange.work
  Attempt.modify fun world => world.note (.touched record.request)
  receive setup record leaseId exchange

/-- The end of the route and of the lease that a release asks for. The local time goes into the
record. -/
def releaseHeld (record : Record Details) (current : Lease Details) (deactivation : Write) (now : ℤ)
    (outcome : Write) (exchange : Exchange Details) :
    Attempt (World Details) (Lease Details) := do
  deactivateInferenceLease current.leaseId deactivation
  let releasing := { record with lease := some { current with state := .releasing, updatedAt := now } }
  Attempt.modify fun world => world.hold releasing
  persist outcome
  Attempt.require (setup.installed record.providerName = true)
  receive setup releasing current.leaseId exchange

def release (leaseId : String) (rechecked : Exchange Details) (deactivation : Write) (now : ℤ)
    (outcome : Write) (exchange : Exchange Details) :
    Attempt (World Details) (Lease Details) := do
  let (record, lease) ← recordForLease leaseId
  let current ← recheck setup record lease rechecked
  if current.state = .released ∨ current.state = .expired then return current
  else releaseHeld setup record current deactivation now outcome exchange

end Coordinator

/-- A call of the coordinator with the answers of its surroundings, or the loss of the process. -/
inductive Call (Details : Type) where
  | acquire (request : Request Details) (rechecked : Exchange Details)
      (quotes : List (Quote Details)) (outcome : Write) (exchange : Exchange Details)
  | restore (exchange : Exchange Details)
  | status (leaseId : String) (exchange : Exchange Details)
  | touch (leaseId : String) (exchange : Exchange Details)
  | release (leaseId : String) (rechecked : Exchange Details) (deactivation : Write) (now : ℤ)
      (outcome : Write) (exchange : Exchange Details)
  | crash
  deriving DecidableEq, Repr

namespace World

/-- The end of a call. -/
def finish {Value : Type} (result : Ending Value × World Details) : World Details :=
  match result.1 with
  | .stopped => result.2.crash
  | _ => result.2

/-- A lost process comes back with a restore, and takes no other call before. -/
def apply (setup : Setup Details) (world : World Details) : Call Details → World Details
  | .crash => world.crash
  | .restore exchange => finish (Llm.restore setup exchange { world with running := true })
  | .acquire request rechecked quotes outcome exchange =>
    if world.running then
      finish (Llm.acquire setup request rechecked quotes outcome exchange world)
    else world
  | .status leaseId exchange =>
    if world.running then finish (Llm.status setup leaseId exchange world) else world
  | .touch leaseId exchange =>
    if world.running then finish (Llm.touch setup leaseId exchange world) else world
  | .release leaseId rechecked deactivation now outcome exchange =>
    if world.running then
      finish (Llm.release setup leaseId rechecked deactivation now outcome exchange world)
    else world

end World

end Kestrel.Llm
