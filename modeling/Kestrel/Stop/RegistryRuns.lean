import Kestrel.Stop.OwnerLease

/-!
# Runs of a registry over a shared database

The tasks of one registry, its heartbeat's thread, the transactions that they wait for and the
calls of other processes take steps in any order. A call's transaction commits or is rolled back,
and its reply arrives later or is lost.
-/

namespace Kestrel.Stop.Invocation

structure Config where
  sha256 : Sha256
  lease : ℕ
  agentId : ℕ → String

/-- What becomes of a transaction: its answer arrives, it commits and its caller sees a failure,
or it is rolled back. -/
inductive Reply where
  | arrives
  | commits (failure : Failure)
  | fails (failure : Failure)
  deriving DecidableEq

/-- The task that waits while it holds the registration lock. -/
inductive Holder where
  | registration (task : ℕ)
  | relay
  deriving DecidableEq

inductive RelayStage where
  | between
  | queuedReacquisition
  | reacquiring (candidate : String) (since deadline : ℕ)
  | queuedRestart

/-- The abandonment of an owner's generations, once they are read. -/
structure Abandonment where
  ownerId : String
  generationIds : Option (List String)

inductive ClosingStage where
  | draining
  | abandoning (abandonments : List Abandonment)
  | stopping
  | closed

structure RegistrySystem where
  registry : Registry
  tables : Tables
  now : ℕ
  drawn : List String
  /-- The holder of the registration lock, while it waits for something else. -/
  holder : Option Holder
  registrations : Table ℕ (Key × Registry.Publishing)
  relay : Option RelayStage
  closing : Option ClosingStage

/-- A step of some task, of the heartbeat's thread, of a transaction or of another process. -/
inductive Action where
  | start
  | register (task : ℕ) (key : Key)
  | resume (task : ℕ)
  | insertRow (task : ℕ) (reply : Reply) (clock : Clock)
  | readOwner (task : ℕ) (reply : Reply) (clock : Clock)
  | deliver (task : ℕ)
  | completeSoon (key : Key) (disposition : RequestCompletionDisposition)
  | beginSettlement (key : Key)
  | settleRows (key : Key) (reply : Reply) (clock : Clock)
  | endSettlement (key : Key)
  | beginRenewal
  | renewRows (reply : Reply) (clock : Clock)
  | publishRenewal
  | exitHeartbeat
  | relay
  | peer (call : Call) (clock : Clock)
  | close
  | abandonOwners
  | readAbandoned (ownerId : String)
  | abandonRow (ownerId : String) (reply : Reply) (clock : Clock)
  | endAbandonment (ownerId : String) (failure : Failure)
  | stopHeartbeat
  | endClose (failed : Bool)

namespace RegistrySystem

def initial (ownerId : String) (tables : Tables) (now : ℕ) : RegistrySystem where
  registry := .initial ownerId
  tables := tables
  now := now
  drawn := [ownerId]
  holder := none
  registrations := .empty
  relay := none
  closing := none

/-- The tables that a transaction leaves, with what its caller gets. -/
def transact {Result : Type} (tables : Tables) (reply : Reply)
    (transaction : Except InvocationError (Tables × Result)) :
    Tables × Except Failure Result :=
  match reply, transaction with
  | .arrives, .ok (after, result) => (after, .ok result)
  | .commits failure, .ok (after, _) => (after, .error failure)
  | .fails failure, _ => (tables, .error failure)
  | .arrives, .error _ => (tables, .error .ordinary)
  | .commits _, .error _ => (tables, .error .ordinary)

variable (config : Config) (draw : Draw) (system : RegistrySystem)

/-- A registration that does not wait gives the registration lock back. -/
def holds : Registry.Publishing → Bool
  | .returned _ => false
  | .raised _ => false
  | .queued => false
  | .reacquiring _ _ _ => true
  | .renewing _ => true
  | .inserting _ _ _ _ => true
  | .confirming _ _ _ => true

/-- A registration's task is done. -/
def isOver : Registry.Publishing → Bool
  | .returned _ => true
  | .raised _ => true
  | .queued => false
  | .reacquiring _ _ _ => false
  | .renewing _ => false
  | .inserting _ _ _ _ => false
  | .confirming _ _ _ => false

/-- A registration takes the lock, or goes on with it. -/
def resume (task : ℕ) : Option RegistrySystem := do
  let (key, stage) ← system.registrations.row task
  if system.holder ≠ (if holds stage then some (.registration task) else none) then none
  else
    let (registry, next) ← system.registry.resume config.lease draw key stage
    some { system with
      registry := registry
      registrations := system.registrations.insert task (key, next)
      holder := if holds next then some (.registration task) else none }

def insertRow (task : ℕ) (reply : Reply) (clock : Clock) : Option RegistrySystem := do
  let (key, stage) ← system.registrations.row task
  match stage with
  | .inserting generationId ownerId started none =>
    let (tables, outcome) := transact system.tables reply
      (system.tables.register config.sha256
        ⟨generationId, config.agentId key.agent, key.turnId, ownerId, key.generation⟩ clock)
    some { system with
      tables := tables
      registrations := system.registrations.insert task
        (key, .inserting generationId ownerId started (some outcome)) }
  | _ => none

def readOwner (task : ℕ) (reply : Reply) (clock : Clock) : Option RegistrySystem := do
  let (key, stage) ← system.registrations.row task
  match stage with
  | .confirming generationId ownerId none =>
    let (tables, outcome) := transact system.tables reply
      ((system.tables.readOwner ownerId config.lease clock).map (system.tables, ·))
    some { system with
      tables := tables
      registrations := system.registrations.insert task
        (key, .confirming generationId ownerId (some outcome)) }
  | _ => none

/-- A registration's caller gets its outcome. -/
def deliver (task : ℕ) : Option RegistrySystem := do
  let (_, stage) ← system.registrations.row task
  let rest := system.registrations.keep fun other _ => other ≠ task
  match stage with
  | .returned _ => some { system with registrations := rest }
  | .raised failure =>
    some { system with
      registry := system.registry.retainTerminalControl draw failure
      registrations := rest }
  | _ => none

/-- The transaction of a settlement, which asks the heartbeat for execution control. -/
def settleRows (key : Key) (reply : Reply) (clock : Clock) : Option RegistrySystem := do
  let settlement ← system.registry.cleanups.row key
  match settlement.stage with
  | .settling disposition none =>
    let raised := (system.registry.attempted.bind OwnerRenewal.control).isSome
    let (tables, outcome) := transact system.tables reply
      ((system.tables.settle settlement.generationId settlement.ownerId disposition
        (some raised) clock).map (·, ()))
    some { system with
      tables := tables
      registry := { system.registry with
        cleanups := system.registry.cleanups.insert key
          { settlement with stage := .settling disposition (some outcome) } } }
  | _ => none

/-- The transaction of the renewal in flight. -/
def renewRows (reply : Reply) (clock : Clock) : Option RegistrySystem := do
  let heartbeat ← system.registry.heartbeat
  let flight ← heartbeat.inFlight
  if flight.outcome.isSome then none
  else
    let (tables, outcome) := transact system.tables reply
      (system.tables.pollOwner flight.ownerId config.lease clock)
    some { system with
      tables := tables
      registry := { system.registry with heartbeat := some (heartbeat.answer outcome) } }

def beat (change : OwnerHeartbeat → Option OwnerHeartbeat) : Option RegistrySystem := do
  let heartbeat ← system.registry.heartbeat
  let heartbeat ← change heartbeat
  some { system with registry := { system.registry with heartbeat := some heartbeat } }

/-- The relay goes on after a part of `_reacquire_owner_lease`. -/
def relayReacquired (reacquired : Registry × Registry.Reacquisition) : RegistrySystem :=
  let (registry, next) := reacquired
  match next with
  | .waits candidate since deadline =>
    { system with
      registry := registry
      relay := some (.reacquiring candidate since deadline)
      holder := some .relay }
  | .returns =>
    if registry.terminalControl then
      { system with registry := registry, relay := none, holder := none }
    else { system with registry := registry, relay := some .between, holder := none }
  | .raises => { system with registry := registry, relay := none, holder := none }

/-- `_relay_restart_heartbeat` has something to look at. -/
def restarts (registry : Registry) : Bool :=
  registry.leaseLost = false ∧ registry.heartbeat.any fun heartbeat =>
    ¬ heartbeat.alive ∧ 2 ≤ heartbeat.launches ∧ heartbeat.launchedAt + config.lease ≤ draw.now

/-- `_relay_restart_heartbeat` once it holds the registration lock. -/
def relayRestart : RegistrySystem :=
  let registry := system.registry
  if registry.closing ∨ registry.leaseLost ∨ registry.heartbeat.any (·.alive) ∨
      ¬ registry.newestRestartFailure config.lease draw then
    { system with relay := some .between }
  else
    match registry.restartHeartbeat config.lease draw with
    | (restarted, .ok _) => { system with registry := restarted, relay := some .between }
    | (restarted, .error _) => { system with registry := restarted, relay := none }

/-- The relay's next part. -/
def relayTurn : Option RegistrySystem :=
  match system.relay with
  | none => none
  | some .between =>
    if system.registry.closing then some { system with relay := none }
    else if system.registry.leaseLost then some { system with relay := some .queuedReacquisition }
    else
      let observed := system.registry.observeOwnerHeartbeat config.lease draw
      some { system with
        registry := observed
        relay := some (if restarts config draw observed then .queuedRestart else .between) }
  | some .queuedReacquisition =>
    if system.holder ≠ none then none
    else
      some (system.relayReacquired (system.registry.reacquireOwnerLease config.lease draw))
  | some (.reacquiring candidate since deadline) =>
    if system.holder ≠ some .relay then none
    else
      some (system.relayReacquired
        (system.registry.reacquireAgain config.lease draw candidate since deadline))
  | some .queuedRestart =>
    if system.holder ≠ none then none else some (system.relayRestart config draw)

/-- `start`. -/
def startRegistry : Option RegistrySystem :=
  if system.registry.terminalControl then none
  else
    let owner :=
      if system.registry.leaseLost then system.registry.candidate.elim "" Prod.fst
      else system.registry.ownerId
    some { system with
      registry := { system.registry with
        heartbeat := some (system.registry.heartbeat.getD (.start owner draw.now)) }
      relay := some (system.relay.getD .between) }

/-- The owners whose generations `close` abandons. -/
def closingOwners (registry : Registry) : List String :=
  registry.ownerId :: ((registry.active.rows.map (·.2.ownerId)).dedup.filter
    (· ≠ registry.ownerId)).insertionSort (· ≤ ·)

/-- `close` up to its first wait. The relay ends, and gives the registration lock back. -/
def close : Option RegistrySystem :=
  if system.closing.isSome then none
  else
    some { system with
      registry := { system.registry with closing := true }
      relay := none
      holder := if system.holder = some .relay then none else system.holder
      closing := some .draining }

def abandonment (ownerId : String) : Option (List Abandonment × Abandonment) := do
  match system.closing with
  | some (.abandoning abandonments) =>
    let found ← abandonments.find? (·.ownerId = ownerId)
    some (abandonments.filter (·.ownerId ≠ ownerId), found)
  | _ => none

/-- `abandon_owner` reads the owner's generations. -/
def readAbandoned (ownerId : String) : Option RegistrySystem := do
  let (others, found) ← system.abandonment ownerId
  if found.generationIds.isSome then none
  else
    let read ← (system.tables.abandonOwner ownerId).toOption
    some { system with closing := some (.abandoning (⟨ownerId, some read⟩ :: others)) }

/-- `abandon_owner` abandons a generation. -/
def abandonRow (ownerId : String) (reply : Reply) (clock : Clock) : Option RegistrySystem := do
  let (others, found) ← system.abandonment ownerId
  match found.generationIds with
  | some (generationId :: rest) =>
    let (tables, outcome) := transact system.tables reply
      ((system.tables.settle generationId ownerId .abandoned none clock).map (·, ()))
    match outcome with
    | .ok _ =>
      some { system with
        tables := tables
        closing := some (.abandoning (⟨ownerId, some rest⟩ :: others)) }
    | .error failure =>
      some { system with
        tables := tables
        registry := system.registry.retainTerminalControl draw failure
        closing := some (.abandoning others) }
  | _ => none

/-- `abandon_owner` ends: it is done, its time is over, or its read failed. -/
def endAbandonment (ownerId : String) (failure : Failure) : Option RegistrySystem := do
  let (others, _) ← system.abandonment ownerId
  some { system with
    registry := system.registry.retainTerminalControl draw failure
    closing := some (.abandoning others) }

/-- The registry is closed. What still runs, or did not retire, stays owned. -/
def endClose (failed : Bool) : Option RegistrySystem :=
  match system.closing with
  | some .stopping =>
    let retired := system.registry.heartbeat.all fun heartbeat => ¬ heartbeat.alive
    let controlled := system.registry.retainTerminalControl draw
      ((system.registry.attempted.bind OwnerRenewal.control).getD .ordinary)
    if failed ∨ ¬ retired ∨ system.registrations.rows.any (fun (_, _, stage) => ¬ isOver stage) ∨
        system.registry.cleanups.keys ≠ [] then
      some { system with registry := controlled, closing := some .closed }
    else
      some { system with
        registry := { controlled with
          active := .empty
          byLocalGeneration := fun _ => none
          renewedAt := fun _ => none
          completing := []
          history := .closed :: controlled.history }
        closing := some .closed }
  | _ => none

def step : Action → Option RegistrySystem
  | .start => system.startRegistry draw
  | .register task key =>
    if system.registry.terminalControl ∨ system.registry.closing ∨
        task ∈ system.registrations.keys then none
    else some { system with registrations := system.registrations.insert task (key, .queued) }
  | .resume task => system.resume config draw task
  | .insertRow task reply clock => system.insertRow config task reply clock
  | .readOwner task reply clock => system.readOwner config task reply clock
  | .deliver task => system.deliver draw task
  | .completeSoon key disposition =>
    some { system with registry := system.registry.completeSoon key disposition }
  | .beginSettlement key => do
    some { system with registry := ← system.registry.beginSettlement draw key }
  | .settleRows key reply clock => system.settleRows key reply clock
  | .endSettlement key => do
    some { system with registry := ← system.registry.endSettlement draw key }
  | .beginRenewal => system.beat (·.begin draw.now)
  | .renewRows reply clock => system.renewRows config reply clock
  | .publishRenewal => system.beat (·.publish draw.now)
  | .exitHeartbeat => system.beat fun heartbeat => some heartbeat.exit
  | .relay => system.relayTurn config draw
  | .peer call clock => do
    let (tables, _) ← (system.tables.perform config.sha256 clock call).toOption
    some { system with tables := tables }
  | .close => system.close
  | .abandonOwners =>
    match system.closing with
    | some .draining =>
      some { system with
        closing := some (.abandoning ((closingOwners system.registry).map (⟨·, none⟩))) }
    | _ => none
  | .readAbandoned ownerId => system.readAbandoned ownerId
  | .abandonRow ownerId reply clock => system.abandonRow draw ownerId reply clock
  | .endAbandonment ownerId failure => system.endAbandonment draw ownerId failure
  | .stopHeartbeat =>
    match system.closing with
    | some (.abandoning []) =>
      some { system with
        registry := { system.registry with
          heartbeat := system.registry.heartbeat.map ({ · with stopping := true }) }
        closing := some .stopping }
    | _ => none
  | .endClose failed => system.endClose draw failed

structure Steps (config : Config) (before : RegistrySystem) (label : Draw × Action)
    (after : RegistrySystem) : Prop where
  later : before.now ≤ label.1.now
  fresh : label.1.ownerId ∉ before.drawn ∧ label.1.generationId ∉ before.drawn ∧
    label.1.ownerId ≠ label.1.generationId
  stepped : (before.step config label.1 label.2).map (fun after =>
    { after with
      now := label.1.now
      drawn := label.1.ownerId :: label.1.generationId :: before.drawn }) = some after

end RegistrySystem

end Kestrel.Stop.Invocation
