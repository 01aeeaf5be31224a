import Kestrel.Base.Tenure
import Kestrel.Stop.InvocationRuns

/-!
# A registry's generations and the lease of their owner

A thread of its own renews one owner identity. It only publishes its renewals; the registry reads
the newest attempt and the newest success. A renewal that raised execution control is its last.

What the registry does between two awaits. Each part sees one reading of the clock and one state
of the heartbeat, and draws its identities from outside. The history records what the registry
did; nothing reads it.
-/

namespace Kestrel.Stop.Invocation

/-- What a call on the shared database raised: an ordinary exception, execution control, or
execution control that names only scopes outside the registry's custody and no debt. -/
inductive Failure where
  | ordinary
  | control
  | refusal
  deriving DecidableEq, Repr

/-- `is_execution_control_error`. -/
def Failure.isControl : Failure → Bool
  | .ordinary => false
  | .control => true
  | .refusal => true

/-- A finished attempt. Attempts are numbered to tell one from another. -/
structure OwnerRenewal where
  number : ℕ
  ownerId : String
  started : ℕ
  finished : ℕ
  outcome : Except Failure OwnerPoll

namespace OwnerRenewal

def poll (renewal : OwnerRenewal) : Option OwnerPoll := renewal.outcome.toOption

def control (renewal : OwnerRenewal) : Option Failure :=
  match renewal.outcome with
  | .ok _ => none
  | .error failure => if failure.isControl then some failure else none

end OwnerRenewal

/-- A renewal in flight, with the end of its transaction once it has one. -/
structure InFlight where
  ownerId : String
  started : ℕ
  outcome : Option (Except Failure OwnerPoll)

structure OwnerHeartbeat where
  ownerId : String
  stopping : Bool
  alive : Bool
  launches : ℕ
  launchedAt : ℕ
  inFlight : Option InFlight
  latest : Option OwnerRenewal
  latestRenewed : Option OwnerRenewal
  attempts : ℕ

namespace OwnerHeartbeat

def start (ownerId : String) (now : ℕ) : OwnerHeartbeat where
  ownerId := ownerId
  stopping := false
  alive := true
  launches := 1
  launchedAt := now
  inFlight := none
  latest := none
  latestRenewed := none
  attempts := 0

variable (heartbeat : OwnerHeartbeat)

def retarget (ownerId : String) : OwnerHeartbeat := { heartbeat with ownerId := ownerId }

/-- `ensure_running`, where a thread is created or not. -/
def ensureRunning (creates : Bool) (now : ℕ) : OwnerHeartbeat × Bool :=
  if heartbeat.stopping ∨ heartbeat.alive then (heartbeat, false)
  else
    ({ heartbeat with
      inFlight := none
      launches := heartbeat.launches + 1
      launchedAt := now
      alive := creates }, creates)

def renewedSinceLaunch (ownerId : String) : Bool :=
  heartbeat.latestRenewed.any fun renewed =>
    renewed.ownerId = ownerId ∧ heartbeat.launchedAt ≤ renewed.started

/-- The last attempt held execution control, which is never retried. -/
def halted : Bool := (heartbeat.latest.bind OwnerRenewal.control).isSome

/-- The thread begins a renewal. -/
def begin (now : ℕ) : Option OwnerHeartbeat :=
  if heartbeat.alive ∧ ¬ heartbeat.stopping ∧ ¬ heartbeat.halted ∧ heartbeat.inFlight.isNone then
    some { heartbeat with inFlight := some ⟨heartbeat.ownerId, now, none⟩ }
  else none

/-- The transaction of the renewal in flight ends. -/
def answer (outcome : Except Failure OwnerPoll) : OwnerHeartbeat :=
  { heartbeat with
    inFlight := heartbeat.inFlight.map fun flight => { flight with outcome := some outcome } }

/-- The thread publishes the renewal. -/
def publish (now : ℕ) : Option OwnerHeartbeat :=
  match heartbeat.inFlight with
  | some ⟨ownerId, started, some outcome⟩ =>
    let renewal : OwnerRenewal := ⟨heartbeat.attempts, ownerId, started, now, outcome⟩
    some { heartbeat with
      attempts := heartbeat.attempts + 1
      inFlight := none
      latest := some renewal
      latestRenewed := if outcome.isOk then some renewal else heartbeat.latestRenewed }
  | _ => none

def exit : OwnerHeartbeat := { heartbeat with alive := false, inFlight := none }

end OwnerHeartbeat

/-- The identity of an agent object, a request of it and the request's generation. -/
structure Key where
  agent : ℕ
  turnId : String
  generation : ℤ
  deriving DecidableEq, Repr

structure LocalGeneration where
  key : Key
  ownerId : String
  admittedAt : ℕ
  deriving DecidableEq, Repr

/-- Where the settlement of a generation stands: it is to begin, or its transaction runs, and ends,
or the loop waits for its next attempt. -/
inductive SettlementStage where
  | ready
  | settling (disposition : RequestCompletionDisposition) (outcome : Option (Except Failure Unit))
  deriving DecidableEq

structure Settlement where
  generationId : String
  ownerId : String
  disposition : RequestCompletionDisposition
  stage : SettlementStage

/-- What one part of the loop is given: the reading of the clock, two identities and whether a
thread can be created. -/
structure Draw where
  now : ℕ
  ownerId : String
  generationId : String
  creates : Bool

abbrev History := List (Tenure.Event String String)

structure Registry where
  ownerId : String
  ownerEpoch : ℕ
  active : Table String LocalGeneration
  byLocalGeneration : Key → Option String
  renewedAt : String → Option ℕ
  completing : List String
  /-- The settlements that run, by the keys of their generations. -/
  cleanups : Table Key Settlement
  closing : Bool
  leaseLost : Bool
  terminalControl : Bool
  heartbeat : Option OwnerHeartbeat
  /-- The number of the newest successful renewal that was observed. -/
  observedRenewal : Option ℕ
  /-- The identity to take next, and when the heartbeat was pointed at it. -/
  candidate : Option (String × ℕ)
  history : History

namespace Registry

def initial (ownerId : String) : Registry where
  ownerId := ownerId
  ownerEpoch := 1
  active := .empty
  byLocalGeneration := fun _ => none
  renewedAt := fun _ => none
  completing := []
  cleanups := .empty
  closing := false
  leaseLost := false
  terminalControl := false
  heartbeat := none
  observedRenewal := none
  candidate := none
  history := [.held ownerId]

variable (lease : ℕ) (draw : Draw) (registry : Registry)

def leaseOwnedGenerationIds : List String :=
  (registry.active.rows.filter fun (generationId, target) =>
    target.ownerId = registry.ownerId ∧ generationId ∉ registry.completing).map Prod.fst

def retargetCandidate : Registry :=
  { registry with
    candidate := some (draw.ownerId, draw.now)
    heartbeat := registry.heartbeat.map (·.retarget draw.ownerId) }

/-- The generations that are told to stop, the last one newest. -/
def tell (generationIds : List String) : Registry :=
  { registry with history := generationIds.reverse.map .told ++ registry.history }

def failClosedOwner : Registry :=
  if registry.leaseLost then registry
  else
    tell { registry.retargetCandidate draw with
      leaseLost := true
      history := .lapsed registry.ownerId :: registry.history } registry.leaseOwnedGenerationIds

/-- `_fail_closed_owner` for an owner that was observed. -/
def failClosedObserved (ownerId : String) : Registry :=
  if ownerId ≠ registry.ownerId then registry else registry.failClosedOwner draw

def retainTerminalControl (failure : Failure) : Registry :=
  match failure with
  | .ordinary => registry
  | .refusal => registry
  | .control => failClosedOwner draw { registry with terminalControl := true }

/-- The newest attempt of the heartbeat. -/
def attempted : Option OwnerRenewal := registry.heartbeat.bind OwnerHeartbeat.latest

def heartbeatAttempt : Registry :=
  match registry.attempted.bind OwnerRenewal.control with
  | none => registry
  | some failure => (registry.retainTerminalControl draw failure).failClosedOwner draw

def currentRenewal : Option (OwnerRenewal × OwnerPoll) := do
  let renewal ← registry.heartbeat.bind OwnerHeartbeat.latestRenewed
  let poll ← renewal.poll
  if renewal.ownerId = registry.ownerId then some (renewal, poll) else none

def misses (renewal : OwnerRenewal) (poll : OwnerPoll) : Bool :=
  registry.leaseOwnedGenerationIds.any fun generationId =>
    generationId ∉ poll.liveGenerationIds ∧
      (registry.active.row generationId).any (·.admittedAt < renewal.started)

/-- The generations of a renewal were renewed no earlier than it began. -/
def extend (renewal : OwnerRenewal) (poll : OwnerPoll) : Registry :=
  { registry with
    renewedAt := fun generationId =>
      if generationId ∈ registry.leaseOwnedGenerationIds ∧
          generationId ∈ poll.liveGenerationIds then
        (registry.renewedAt generationId).map (max renewal.started)
      else registry.renewedAt generationId }

/-- The generations of the current owner that a renewal found marked. -/
def marked (poll : OwnerPoll) : List String :=
  poll.stopGenerationIds.filter fun generationId =>
    (registry.active.row generationId).any (·.ownerId = registry.ownerId)

/-- A generation of the current owner was not renewed for one lease. -/
def lapses : Bool :=
  registry.leaseOwnedGenerationIds.any fun generationId =>
    (registry.renewedAt generationId).any (· + lease ≤ draw.now)

/-- The end of `_observe_owner_heartbeat`. -/
def judgeLease : Registry :=
  if registry.lapses lease draw then registry.failClosedOwner draw else registry

/-- `_observe_owner_heartbeat` with a renewal of the current owner. -/
def foldRenewal (renewal : OwnerRenewal) (poll : OwnerPoll) : Registry :=
  let seen := { registry with observedRenewal := some renewal.number }
  if seen.misses renewal poll then seen.failClosedOwner draw
  else
    let delivered :=
      if registry.observedRenewal = some renewal.number then [] else seen.marked poll
    ((seen.extend renewal poll).tell delivered).judgeLease lease draw

def observeOwnerHeartbeat : Registry :=
  let attempted := registry.heartbeatAttempt draw
  if attempted.leaseLost then attempted
  else
    match attempted.currentRenewal with
    | none => attempted.judgeLease lease draw
    | some (renewal, poll) => attempted.foldRenewal lease draw renewal poll

def newestRestartFailure : Bool :=
  registry.heartbeat.any fun heartbeat =>
    2 ≤ heartbeat.launches ∧ ¬ heartbeat.renewedSinceLaunch registry.ownerId ∧
      ¬ (heartbeat.alive ∧ draw.now < heartbeat.launchedAt + lease)

/-- `ensure_running` of the registry's heartbeat. -/
def ensureRunning : Registry × Bool :=
  match registry.heartbeat with
  | none => (registry, false)
  | some heartbeat =>
    let (heartbeat, launched) := heartbeat.ensureRunning draw.creates draw.now
    ({ registry with heartbeat := some heartbeat }, launched)

/-- How a part of a call ends: the call goes on, waits for the heartbeat, or raises. -/
inductive Segment where
  | goes
  | waits
  | raises (failure : Failure)
  deriving DecidableEq

/-- The loop of `_require_renewing_heartbeat` from its test on. -/
def awaitRenewal (ownerId : String) : Registry × Segment :=
  if registry.heartbeat.any (·.renewedSinceLaunch ownerId) then (registry, .goes)
  else
    let attempted := registry.heartbeatAttempt draw
    if attempted.terminalControl then (attempted, .raises .control)
    else if attempted.leaseLost then (attempted, .goes)
    else if attempted.newestRestartFailure lease draw then (attempted, .raises .ordinary)
    else (attempted, .waits)

/-- `_restart_heartbeat`, with whether it returned true. -/
def restartHeartbeat : Registry × Except Failure Bool :=
  let observed := registry.observeOwnerHeartbeat lease draw
  if observed.terminalControl then (observed, .error .control)
  else if observed.leaseLost then (observed, .ok true)
  else
    let (launched, running) := observed.ensureRunning draw
    (launched, .ok running)

/-- `_require_renewing_heartbeat` up to its first wait. -/
def requireRenewingHeartbeat : Registry × Segment :=
  match registry.heartbeat with
  | none => (registry, .goes)
  | some heartbeat =>
    let (restarted, outcome) :=
      if heartbeat.alive then (registry, .ok true) else registry.restartHeartbeat lease draw
    match outcome with
    | .error failure => (restarted, .raises failure)
    | .ok false => (restarted, .raises .ordinary)
    | .ok true =>
      if ¬ heartbeat.alive ∧ restarted.leaseLost then (restarted, .goes)
      else if restarted.heartbeat.any (·.launches < 2) then (restarted, .goes)
      else restarted.awaitRenewal lease draw restarted.ownerId

def completeSoon (key : Key) (disposition : RequestCompletionDisposition) : Registry :=
  match registry.byLocalGeneration key, registry.cleanups.row key with
  | some generationId, none =>
    match registry.active.row generationId with
    | none => registry
    | some target =>
      { registry with
        completing := generationId :: registry.completing
        cleanups := registry.cleanups.insert key
          ⟨generationId, target.ownerId, disposition, .ready⟩
        history := .finishing generationId :: registry.history }
  | _, _ => registry

section Reacquisition

/-- How a part of `_reacquire_owner_lease` ends. -/
inductive Reacquisition where
  | waits (candidate : String) (since deadline : ℕ)
  | returns
  | raises
  deriving DecidableEq

/-- The heartbeat renewed the identity to take next. -/
def judgeCandidate (candidate : String) (renewal : OwnerRenewal) : Registry :=
  let fit := renewal.poll.any fun poll =>
    renewal.finished < renewal.started + lease ∧ poll.liveGenerationIds = []
  if ¬ fit then registry.retargetCandidate draw
  else if registry.leaseLost = false ∨ registry.closing then registry
  else
    { registry with
      ownerId := candidate
      ownerEpoch := registry.ownerEpoch + 1
      observedRenewal := some renewal.number
      candidate := none
      leaseLost := false
      history := .held candidate :: registry.history }

/-- The loop of `_reacquire_owner_lease` from its test on. -/
def reacquireLoop (candidate : String) (since deadline : ℕ) (renewal : Option OwnerRenewal) :
    Registry × Reacquisition :=
  match renewal.filter fun renewal => renewal.ownerId = candidate ∧ since ≤ renewal.started with
  | none =>
    (registry, if deadline ≤ draw.now then .returns else .waits candidate since deadline)
  | some renewal => (registry.judgeCandidate lease draw candidate renewal, .returns)

/-- `_reacquire_owner_lease` up to its first wait. A fenced registry has a candidate. -/
def reacquireOwnerLease : Registry × Reacquisition :=
  if registry.terminalControl then (registry, .raises)
  else if registry.leaseLost = false ∨ registry.closing ∨ registry.heartbeat.isNone then
    (registry, .returns)
  else
    let attempted := registry.heartbeatAttempt draw
    if attempted.terminalControl then (attempted, .raises)
    else
      let running := (attempted.ensureRunning draw).1
      match running.candidate with
      | none => (running, .returns)
      | some (candidate, since) =>
        running.reacquireLoop lease draw candidate since (draw.now + lease) attempted.attempted

/-- `_reacquire_owner_lease` after a wait. -/
def reacquireAgain (candidate : String) (since deadline : ℕ) : Registry × Reacquisition :=
  if registry.leaseLost = false ∨ registry.closing then (registry, .returns)
  else
    let attempted := registry.heartbeatAttempt draw
    if attempted.terminalControl then (attempted, .raises)
    else attempted.reacquireLoop lease draw candidate since deadline attempted.attempted

end Reacquisition

section Registration

/-- Where a registration stands. It waits for the registration lock, holds the lock while it waits
for the heartbeat or the database, and is over. -/
inductive Publishing where
  | queued
  | reacquiring (candidate : String) (since deadline : ℕ)
  | renewing (ownerId : String)
  | inserting (generationId ownerId : String) (started : ℕ)
      (outcome : Option (Except Failure Bool))
  | confirming (generationId ownerId : String) (outcome : Option (Except Failure OwnerPoll))
  | returned (admitted : Bool)
  | raised (failure : Failure)

/-- Work of the generation goes ahead. -/
def admitted (generationId : String) : Registry × Publishing :=
  ({ registry with history := .admitted generationId registry.ownerId :: registry.history },
    .returned true)

/-- `register` once its heartbeat renews the owner. -/
def admitGeneration (key : Key) : Registry × Publishing :=
  let observed := registry.observeOwnerHeartbeat lease draw
  if observed.terminalControl then (observed, .raised .control)
  else if observed.leaseLost then (observed, .raised .ordinary)
  else
    match observed.byLocalGeneration key with
    | none => (observed, .inserting draw.generationId observed.ownerId draw.now none)
    | some generationId =>
      match observed.active.row generationId with
      | none => (observed, .raised .ordinary)
      | some existing =>
        if existing.ownerId = observed.ownerId then observed.admitted generationId
        else (observed, .raised .ordinary)

/-- `register` from the call of `_require_renewing_heartbeat` on. -/
def renewAndAdmit (key : Key) (renewing : Registry × Segment) : Registry × Publishing :=
  match renewing.2 with
  | .goes => renewing.1.admitGeneration lease draw key
  | .waits => (renewing.1, .renewing renewing.1.ownerId)
  | .raises failure => (renewing.1, .raised failure)

/-- `register` after `_reacquire_owner_lease`. -/
def admitReacquired (key : Key) (reacquired : Registry × Reacquisition) : Registry × Publishing :=
  match reacquired.2 with
  | .waits candidate since deadline => (reacquired.1, .reacquiring candidate since deadline)
  | .raises => (reacquired.1, .raised .control)
  | .returns =>
    if reacquired.1.terminalControl then (reacquired.1, .raised .control)
    else if reacquired.1.leaseLost then (reacquired.1, .raised .ordinary)
    else
      renewAndAdmit lease draw key (reacquired.1.requireRenewingHeartbeat lease draw)

/-- `register` once it holds the registration lock. -/
def publish (key : Key) : Registry × Publishing :=
  if registry.leaseLost then
    admitReacquired lease draw key (registry.reacquireOwnerLease lease draw)
  else renewAndAdmit lease draw key (registry.requireRenewingHeartbeat lease draw)

def publishLocally (key : Key) (generationId ownerId : String) (started : ℕ) : Registry :=
  { registry with
    byLocalGeneration := Function.update registry.byLocalGeneration key (some generationId)
    active := registry.active.insert generationId ⟨key, ownerId, draw.now⟩
    renewedAt := Function.update registry.renewedAt generationId (some started) }

/-- `register` once its insert committed. -/
def inserted (key : Key) (generationId ownerId : String) (started : ℕ) : Registry × Publishing :=
  let alone := registry.leaseOwnedGenerationIds.isEmpty
  let observed :=
    (registry.publishLocally draw key generationId ownerId started).observeOwnerHeartbeat lease draw
  if observed.leaseLost then
    if observed.terminalControl then (observed, .raised .control)
    else (observed.completeSoon key .completed, .raised .ordinary)
  else if ¬ alone then observed.admitted generationId
  else if observed.terminalControl then (observed, .raised .control)
  else (observed, .confirming generationId ownerId none)

/-- A registration whose row could not be confirmed. -/
def unconfirmed (key : Key) : Registry × Publishing :=
  (registry.completeSoon key .completed, .raised .ordinary)

/-- `_confirm_generation` after its read, and the end of `register`. -/
def confirmed (key : Key) (generationId ownerId : String) :
    Except Failure OwnerPoll → Registry × Publishing
  | .error failure =>
    if failure.isControl then (registry.retainTerminalControl draw failure, .raised failure)
    else
      let attempted := registry.heartbeatAttempt draw
      if attempted.terminalControl then (attempted, .raised .control)
      else (attempted.failClosedObserved draw ownerId).unconfirmed key
  | .ok polled =>
    let observed := registry.observeOwnerHeartbeat lease draw
    if observed.terminalControl then (observed, .raised .control)
    else if generationId ∉ polled.liveGenerationIds then
      (observed.failClosedObserved draw ownerId).unconfirmed key
    else if observed.leaseLost then observed.unconfirmed key
    else if generationId ∈ polled.stopGenerationIds then
      (observed.completeSoon key .completed, .returned false)
    else observed.admitted generationId

def resume (key : Key) : Publishing → Option (Registry × Publishing)
  | .queued => some (registry.publish lease draw key)
  | .reacquiring candidate since deadline =>
    some (admitReacquired lease draw key
      (registry.reacquireAgain lease draw candidate since deadline))
  | .renewing ownerId => some (renewAndAdmit lease draw key (registry.awaitRenewal lease draw ownerId))
  | .inserting generationId ownerId started (some outcome) =>
    match outcome with
    | .error failure => some (registry, .raised failure)
    | .ok false => some (registry, .returned false)
    | .ok true => some (registry.inserted lease draw key generationId ownerId started)
  | .confirming generationId ownerId (some outcome) =>
    some (registry.confirmed lease draw key generationId ownerId outcome)
  | .inserting _ _ _ none => none
  | .confirming _ _ none => none
  | .returned _ => none
  | .raised _ => none

end Registration

section Settlements

def beginSettlement (key : Key) : Option Registry :=
  match registry.cleanups.row key with
  | some settlement =>
    match settlement.stage with
    | .ready =>
      let attempted := registry.heartbeatAttempt draw
      let disposition :=
        if (attempted.attempted.bind OwnerRenewal.control).isSome then .abandoned
        else settlement.disposition
      some { attempted with
        cleanups := attempted.cleanups.insert key
          { settlement with stage := .settling disposition none } }
    | .settling _ _ => none
  | none => none

def dropSettlement (key : Key) (generationId : String) : Registry :=
  { registry with
    cleanups := registry.cleanups.keep fun other _ => other ≠ key
    completing :=
      if registry.closing then registry.completing.filter (· ≠ generationId)
      else registry.completing }

/-- The attempt of a settlement ended. -/
def endSettlement (key : Key) : Option Registry :=
  match registry.cleanups.row key with
  | some settlement =>
    match settlement.stage with
    | .settling _ (some (.ok _)) =>
      some { registry with
        byLocalGeneration := Function.update registry.byLocalGeneration key none
        active := registry.active.keep fun other _ => other ≠ settlement.generationId
        renewedAt := Function.update registry.renewedAt settlement.generationId none
        completing := registry.completing.filter (· ≠ settlement.generationId)
        cleanups := registry.cleanups.keep fun other _ => other ≠ key }
    | .settling _ (some (.error failure)) =>
      if failure.isControl then
        some ((registry.retainTerminalControl draw failure).dropSettlement key
          settlement.generationId)
      else if registry.closing then some (registry.dropSettlement key settlement.generationId)
      else
        some { registry with
          cleanups := registry.cleanups.insert key { settlement with stage := .ready } }
    | _ => none
  | none => none

end Settlements

end Registry

end Kestrel.Stop.Invocation
