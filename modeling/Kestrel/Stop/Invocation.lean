import Kestrel.Stop.Receipt
import Mathlib.Data.List.Sort

/-!
# Registered invocations

Every process registers its generations in the host's Stop database, and Stop marks the rows that
their owners are to cancel. A generation whose owner's lease ran out, or that was abandoned, moves
to the unresolved ledger. Every call but `abandonOwner` runs inside one transaction: it either
fails and leaves the tables alone, or commits the tables returned here. A write finds the rows that
its transaction read, so the checks that it did are left out.
-/

namespace Kestrel.Stop

namespace Invocation

inductive InvocationError where
  | value (message : String)
  | runtime (message : String)
  | integrity (message : String)
  deriving DecidableEq, Repr

/-- What released a cooperative Stop lifecycle waiter. -/
inductive RequestCompletionDisposition where
  | completed
  | abandoned
  deriving DecidableEq, Repr

/-- A row of `stop_active_invocations` without its key. -/
structure ActiveRow where
  agentId : String
  turnDigest : String
  publicTurnDigest : Option String
  requestGeneration : ℤ
  ownerId : String
  stopRequested : Bool
  registeredAt : ℕ
  heartbeatAt : ℕ
  deriving DecidableEq, Repr

/-- A row of `stop_unresolved_invocations` without its key. -/
structure UnresolvedRow where
  agentId : String
  turnDigest : String
  publicTurnDigest : Option String
  requestGeneration : ℤ
  ownerId : String
  expiredAt : ℕ
  deriving DecidableEq, Repr

/-- The row of a generation that nobody is known to run. -/
def ActiveRow.retired (row : ActiveRow) (now : ℕ) : UnresolvedRow where
  agentId := row.agentId
  turnDigest := row.turnDigest
  publicTurnDigest := row.publicTurnDigest
  requestGeneration := row.requestGeneration
  ownerId := row.ownerId
  expiredAt := now

def ActiveRow.Expired (lease now : ℕ) (row : ActiveRow) : Prop := row.heartbeatAt + lease ≤ now

instance (lease now : ℕ) (row : ActiveRow) : Decidable (ActiveRow.Expired lease now row) :=
  inferInstanceAs (Decidable (_ ≤ _))

structure Tables where
  active : Table String ActiveRow
  unresolved : Table String UnresolvedRow
  /-- The fenced turns of an agent, by their digests. -/
  fences : Table (String × String) ℕ
  receipts : Receipt.Tables

/-- The generations that a ticket names, in order. -/
structure DistributedStopTicket where
  generationIds : List String
  deriving DecidableEq, Repr

/-- A live owner's generations, and those of them that are to be stopped. -/
structure OwnerPoll where
  liveGenerationIds : List String
  stopGenerationIds : List String
  deriving DecidableEq, Repr

/-- The arguments of `register`. -/
structure Registration where
  generationId : String
  agentId : String
  turnId : String
  ownerId : String
  requestGeneration : ℤ
  deriving DecidableEq, Repr

/-- The readings of the database clock by the statements of one transaction, in their order. -/
abbrev Clock := ℕ → ℕ

def requiredIdentity (value field : String) : Except InvocationError Unit :=
  .require (¬ Text.isBlank value) (.value ("distributed Stop " ++ field ++ " must be concrete"))

def requiredOpaqueIdentity (value field : String) : Except InvocationError Unit :=
  .require (validInvocationId value)
    (.value ("distributed Stop " ++ field ++ " must be a valid opaque identity"))

def requiredLease (lease : ℕ) : Except InvocationError Unit :=
  .require (0 < lease) (.value "distributed Stop owner lease must be positive")

section Digests

variable (sha256 : Sha256)

def turnIdDomain : List UInt8 := Bytes.utf8 "kestrel:distributed-stop-turn:v1" ++ [0]

def publicTurnIdDomain : List UInt8 := Bytes.utf8 "kestrel:distributed-stop-public-turn:v1" ++ [0]

/-- The digest of a turn's identity in a domain. An opaque identity fits its length field. -/
def domainDigest (domain : List UInt8) (turnId : String) : String :=
  "sha256:" ++ sha256.hexdigest
    (domain ++ (Bytes.bigEndian 4 (Bytes.utf8 turnId).length ++ Bytes.utf8 turnId))

def turnDigest (turnId : String) : String := domainDigest sha256 turnIdDomain turnId

def publicTurnDigest (turnId : String) : String := domainDigest sha256 publicTurnIdDomain turnId

end Digests

/-- `ORDER BY generation_id`. -/
def ordered (generationIds : List String) : List String :=
  generationIds.insertionSort fun first second => first ≤ second

namespace Tables

variable (sha256 : Sha256) (tables : Tables)

/-- A Stop receipt acknowledges that a turn is over. -/
def acknowledged (agentId requestedTarget : String) : Bool :=
  tables.receipts.receipts.rows.any fun (_, row) =>
    row.scope = "turn" && row.targetAgentId = some agentId &&
      row.requestedTarget = some requestedTarget &&
      row.outcomes.any fun outcome =>
        outcome.disposition = "stopped" || outcome.disposition = "already_complete"

/-- A turn of an agent is over, or on its way there. -/
def refuses (agentId digest requestedTarget : String) : Bool :=
  (tables.fences.row (agentId, digest)).isSome || tables.acknowledged agentId requestedTarget

def register (registration : Registration) (clock : Clock) :
    Except InvocationError (Tables × Bool) := do
  requiredIdentity registration.generationId "generation identity"
  requiredIdentity registration.agentId "agent identity"
  requiredOpaqueIdentity registration.turnId "turn identity"
  requiredIdentity registration.ownerId "owner identity"
  Except.require (0 < registration.requestGeneration)
    (.value "distributed Stop request generation must be a positive integer")
  let digest := turnDigest sha256 registration.turnId
  if tables.refuses registration.agentId digest
      (Receipt.identifierText sha256 .target registration.turnId) then
    pure (tables, false)
  else do
    Except.require (tables.active.row registration.generationId = none)
      (.integrity "stop_active_invocations.generation_id")
    pure ({ tables with
      active := tables.active.insert registration.generationId
        { agentId := registration.agentId
          turnDigest := digest
          publicTurnDigest := none
          requestGeneration := registration.requestGeneration
          ownerId := registration.ownerId
          stopRequested := false
          registeredAt := clock 0
          heartbeatAt := clock 1 } }, true)

def generations (isActive : ActiveRow → Bool) (isUnresolved : UnresolvedRow → Bool) :
    List String :=
  (tables.active.rows.filter fun row => isActive row.2).map Prod.fst ++
    (tables.unresolved.rows.filter fun row => isUnresolved row.2).map Prod.fst

def publicGenerations (agentId digest : String) : List String :=
  tables.generations
    (fun row => row.agentId = agentId && row.publicTurnDigest = some digest)
    (fun row => row.agentId = agentId && row.publicTurnDigest = some digest)

def bindPublicTurn (generationId ownerId agentId turnId : String) :
    Except InvocationError (Tables × Bool) := do
  requiredIdentity generationId "generation identity"
  requiredIdentity ownerId "owner identity"
  requiredIdentity agentId "agent identity"
  requiredOpaqueIdentity turnId "public turn identity"
  let digest := publicTurnDigest sha256 turnId
  match (tables.active.row generationId).filter fun row =>
      row.ownerId = ownerId && row.agentId = agentId with
  | none => pure (tables, false)
  | some row =>
    if row.stopRequested then pure (tables, false)
    else
      match row.publicTurnDigest with
      | some bound => do
        Except.require (bound = digest)
          (.runtime "distributed Stop generation already has a public turn")
        pure (tables, true)
      | none =>
        if tables.refuses agentId digest
            (Receipt.identifierText sha256 .publicTurnTarget turnId) then
          pure (tables, false)
        else do
          Except.require ((tables.publicGenerations agentId digest).head?.all (· = generationId))
            (.runtime "distributed Stop public turn has multiple generations")
          pure ({ tables with
            active := tables.active.insert generationId
              { row with publicTurnDigest := some digest } }, true)

/-- A generation without its active row. -/
def deactivate (generationId : String) : Tables :=
  { tables with active := tables.active.keep fun key _ => key ≠ generationId }

/-- A generation without its unresolved row. -/
def resolve (generationId : String) : Tables :=
  { tables with unresolved := tables.unresolved.keep fun key _ => key ≠ generationId }

def retire (generationId : String) (row : ActiveRow) (now : ℕ) : Tables :=
  { tables.deactivate generationId with
    unresolved := tables.unresolved.insert generationId (row.retired now) }

/-- What a settlement is recorded as, once it holds the database. -/
def recordedAs (disposition : RequestCompletionDisposition) (abandonIf : Option Bool) :
    RequestCompletionDisposition :=
  if disposition = .completed ∧ abandonIf = some true then .abandoned else disposition

/-- `settle`, with the answer of `abandon_if` inside its transaction. -/
def settle (generationId ownerId : String) (disposition : RequestCompletionDisposition)
    (abandonIf : Option Bool) (clock : Clock) : Except InvocationError Tables := do
  requiredIdentity generationId "generation identity"
  requiredIdentity ownerId "owner identity"
  let active := (tables.active.row generationId).filter (·.ownerId = ownerId)
  let unresolved := (tables.unresolved.row generationId).filter (·.ownerId = ownerId)
  match active, unresolved with
  | none, none => pure tables
  | some _, some _ =>
    .error (.runtime "distributed Stop generation exists in multiple lifecycle states")
  | some row, none => do
    requiredIdentity row.agentId "stored agent identity"
    match recordedAs disposition abandonIf with
    | .abandoned => do
      Except.require (tables.unresolved.row generationId = none)
        (.integrity "stop_unresolved_invocations.generation_id")
      pure (tables.retire generationId row (clock 0))
    | .completed => pure (tables.deactivate generationId)
  | none, some row => do
    requiredIdentity row.agentId "stored agent identity"
    match recordedAs disposition abandonIf with
    | .abandoned => pure tables
    | .completed => pure (tables.resolve generationId)

/-- A fence of a turn, unless there is one. -/
def fence (agentId digest : String) (now : ℕ) : Tables :=
  match tables.fences.row (agentId, digest) with
  | some _ => tables
  | none => { tables with fences := tables.fences.insert (agentId, digest) now }

def requestStop (selects : String → ActiveRow → Bool) : Tables :=
  { tables with
    active := tables.active.adjust fun key row =>
      if selects key row then { row with stopRequested := true } else row }

def markTurn (agentId turnId : String) (clock : Clock) :
    Except InvocationError (Tables × DistributedStopTicket) := do
  requiredIdentity agentId "agent identity"
  requiredOpaqueIdentity turnId "turn identity"
  let digest := turnDigest sha256 turnId
  pure
    ((tables.fence agentId digest (clock 0)).requestStop fun _ row =>
        row.agentId = agentId && row.turnDigest = digest,
      ⟨ordered (tables.generations
        (fun row => row.agentId = agentId && row.turnDigest = digest)
        (fun row => row.agentId = agentId && row.turnDigest = digest))⟩)

def markPublicTurn (agentId turnId : String) (clock : Clock) :
    Except InvocationError (Tables × DistributedStopTicket) := do
  requiredIdentity agentId "agent identity"
  requiredOpaqueIdentity turnId "public turn identity"
  let digest := publicTurnDigest sha256 turnId
  let found := ordered (tables.publicGenerations agentId digest)
  Except.require (found.length ≤ 1)
    (.runtime "distributed Stop public turn resolved to multiple generations")
  pure
    ((tables.fence agentId digest (clock 0)).requestStop fun key row =>
        found.head? = some key && row.agentId = agentId && row.publicTurnDigest = some digest,
      ⟨found⟩)

def markAgent (agentId : String) : Except InvocationError (Tables × DistributedStopTicket) := do
  requiredIdentity agentId "agent identity"
  pure
    (tables.requestStop fun _ row => row.agentId = agentId,
      ⟨ordered (tables.generations (fun row => row.agentId = agentId)
        (fun row => row.agentId = agentId))⟩)

def ownerInventory (ownerId : String) (lease now : ℕ) : OwnerPoll :=
  let live := tables.active.rows.filter fun row =>
    row.2.ownerId = ownerId && !decide (row.2.Expired lease now)
  ⟨ordered (live.map Prod.fst), ordered ((live.filter (·.2.stopRequested)).map Prod.fst)⟩

def pollOwner (ownerId : String) (lease : ℕ) (clock : Clock) :
    Except InvocationError (Tables × OwnerPoll) := do
  requiredIdentity ownerId "owner identity"
  requiredLease lease
  let renewed := { tables with
    active := tables.active.adjust fun _ row =>
      if row.ownerId = ownerId ∧ ¬ row.Expired lease (clock 1) then
        { row with heartbeatAt := clock 0 }
      else row }
  pure (renewed, renewed.ownerInventory ownerId lease (clock 2))

def readOwner (ownerId : String) (lease : ℕ) (clock : Clock) :
    Except InvocationError OwnerPoll := do
  requiredIdentity ownerId "owner identity"
  requiredLease lease
  pure (tables.ownerInventory ownerId lease (clock 0))

def reap (generationId : String) (observedHeartbeat lease now retiredAt : ℕ) : Option Tables :=
  match tables.active.row generationId with
  | none => none
  | some row =>
    if row.heartbeatAt = observedHeartbeat ∧ row.Expired lease now ∧
        tables.unresolved.row generationId = none then
      some (tables.retire generationId row retiredAt)
    else none

/-- The loop of `reap_expired` from one of its statements on. -/
def reapAll (lease : ℕ) (clock : Clock) : Tables → ℕ → List (String × ℕ) → Tables × List String
  | tables, _, [] => (tables, [])
  | tables, statement, (generationId, observedHeartbeat) :: rows =>
    match tables.reap generationId observedHeartbeat lease (clock statement)
        (clock (statement + 1)) with
    | none => reapAll lease clock tables (statement + 2) rows
    | some after =>
      let (last, reaped) := reapAll lease clock after (statement + 2) rows
      (last, generationId :: reaped)

/-- The generations that `reap_expired` finds with old heartbeats. -/
def expiredAmong (generationIds : List String) (lease now : ℕ) : List (String × ActiveRow) :=
  (tables.active.rows.filter fun row =>
    row.1 ∈ generationIds ∧ row.2.Expired lease now).insertionSort (·.1 ≤ ·.1)

def reapExpired (generationIds : List String) (lease : ℕ) (clock : Clock) :
    Except InvocationError (Tables × List String) :=
  if generationIds = [] then .ok (tables, [])
  else do
    requiredLease lease
    let rows := tables.expiredAmong generationIds lease (clock 0)
    rows.forM fun row => requiredIdentity row.2.agentId "stored agent identity"
    pure (reapAll lease clock tables 1 (rows.map fun row => (row.1, row.2.heartbeatAt)))

def remaining (generationIds : List String) : List (String × ℕ) :=
  ((tables.active.rows.filter (·.1 ∈ generationIds)).map fun row => (row.1, row.2.heartbeatAt)) ++
    ((tables.unresolved.rows.filter (·.1 ∈ generationIds)).map fun row =>
      (row.1, row.2.expiredAt)) |>.insertionSort (·.1 ≤ ·.1)

/-- The generations that `abandon_owner` goes on to abandon, each in a transaction of its own. -/
def abandonOwner (ownerId : String) : Except InvocationError (List String) := do
  requiredIdentity ownerId "owner identity"
  pure (ordered ((tables.active.rows.filter fun row => row.2.ownerId = ownerId).map Prod.fst))

end Tables

end Invocation

end Kestrel.Stop
