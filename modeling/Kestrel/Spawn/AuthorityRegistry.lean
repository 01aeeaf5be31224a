import Kestrel.Base.Dictionary
import Kestrel.Base.Except
import Mathlib.Data.Int.Notation

/-!
# The spawn authority registry

The registry file holds the pending reservations and the authority records of spawned children. Each
operation here is what one mutation does under the registry's file lock. The JSON texts of a mandate
stand for the fields that they spell.
-/

namespace Kestrel.Spawn.Authority

/-- The fields of a `SpawnMandate` that its scope keeps besides the parent. -/
structure MandateScope where
  constitutionHash : String
  additionalConstraints : String
  budgetAllocation : String
  ttlSeconds : ℤ
  featuresAllowed : List String
  purpose : String
  maxChildDepth : ℤ
  deriving DecidableEq, Repr

/-- A `SpawnMandate`; `createdAt` is the instant that its text spells. -/
structure SpawnMandate where
  parentDid : String
  childDid : Option String
  scope : MandateScope
  authorityCommitted : Bool
  parentSignature : Option String
  createdAt : ℤ
  deriving DecidableEq, Repr

/-- A `LocalAgentConfig`. -/
structure LocalAgentConfig where
  dataDir : String
  deriving DecidableEq, Repr

inductive AuthorityState where
  | active
  | retiring
  | retired
  deriving DecidableEq, Repr

/-- A `SpawnAuthorityWitness`. -/
structure Witness where
  childName : String
  childDid : String
  parentDid : String
  mandate : SpawnMandate
  config : LocalAgentConfig
  proposalCreatedAt : Option ℤ
  state : AuthorityState
  deriving DecidableEq, Repr

/-- A `PendingSpawnAuthority`. -/
structure Reservation where
  reservationId : String
  childName : String
  parentDid : String
  mandate : SpawnMandate
  config : LocalAgentConfig
  deriving DecidableEq, Repr

/-- The two dictionaries of the registry file. -/
structure Registry where
  records : Dictionary Witness.childDid
  pending : Dictionary Reservation.reservationId

/-- What the host decides: how names compare and where a configured data directory leads. -/
structure Host where
  casefold : String → String
  /-- `resolve_data_dir`, from the registry's base. -/
  resolve : String → String

/-! ## Wire images -/

def validateSpawnMaxChildDepth (depth : ℤ) : Except String Unit :=
  .require (0 ≤ depth) "spawn mandate max_child_depth cannot be negative"

def validateProposalCreatedAt (proposal : Option ℤ) (signed : ℤ) : Except String Unit :=
  .require (∀ created ∈ proposal, created ≤ signed)
    "spawn authority proposal timestamp cannot follow signed issuance"

/-- `_mandate_wire_json`: the mandate is its own image. -/
def SpawnMandate.wire (mandate : SpawnMandate) : Except String SpawnMandate := do
  validateSpawnMaxChildDepth mandate.scope.maxChildDepth
  .require (mandate.parentDid ≠ "") "spawn mandate parent DID must be a non-empty string"
  .require (mandate.childDid.getD "" ≠ "") "spawn mandate child DID must be a non-empty string"
  .require (mandate.parentSignature.getD "" ≠ "")
    "spawn mandate signature must be a non-empty string"
  return mandate

/-- `_proposal_wire_json`. -/
def SpawnMandate.proposalWire (mandate : SpawnMandate) : Except String SpawnMandate := do
  validateSpawnMaxChildDepth mandate.scope.maxChildDepth
  .require (mandate.parentDid ≠ "") "spawn mandate parent DID must be a non-empty string"
  .require (mandate.childDid = none) "pending spawn authority cannot name a child DID"
  .require (mandate.parentSignature = none) "pending spawn authority cannot carry a signature"
  return mandate

/-- `_mandate_scope_wire_json`. -/
def SpawnMandate.scopeWire (mandate : SpawnMandate) : String × MandateScope :=
  (mandate.parentDid, mandate.scope)

/-! ## Slots -/

namespace Host

variable (host : Host)

def sameName (first second : String) : Bool := host.casefold first == host.casefold second

def sameDataSlot (first second : LocalAgentConfig) : Bool :=
  host.resolve first.dataDir == host.resolve second.dataDir

/-- A name or a data slot is shared. -/
def clashes (name : String) (config : LocalAgentConfig) (name' : String)
    (config' : LocalAgentConfig) : Bool :=
  host.sameName name name' || host.sameDataSlot config config'

end Host

def Witness.live (witness : Witness) : Bool := witness.state != .retired

def Witness.withState (witness : Witness) (state : AuthorityState) : Witness :=
  { witness with state := state }

/-! ## Mutations -/

namespace Registry

variable (host : Host) (registry : Registry)

def empty : Registry := ⟨.empty, .empty⟩

def collision (name : String) (config : LocalAgentConfig) : Bool :=
  registry.records.rows.any fun record =>
    record.live && host.clashes record.childName record.config name config

def pendingCollision (name : String) (config : LocalAgentConfig) : Bool :=
  registry.pending.rows.any fun existing =>
    host.clashes existing.childName existing.config name config

def authoritySlots : ℕ :=
  (registry.records.rows.filter (·.live)).length + registry.pending.rows.length

def checkCap (cap : Option ℕ) : Except String Unit :=
  .require (∀ limit ∈ cap, registry.authoritySlots < limit)
    s!"Spawn refused: shared authority reached the spawned-agent cap ({cap.getD 0})."

/-- `reserve_pending`, of a reservation whose id was drawn. -/
def reservePending (reservation : Reservation) (cap : Option ℕ) :
    Except String (Reservation × Registry) := do
  .require (reservation.childName ≠ "") "pending spawn authority child name must be non-empty"
  .require (reservation.mandate.parentDid = reservation.parentDid)
    "pending spawn parent does not match proposal"
  let _ ← reservation.mandate.proposalWire
  .require (registry.collision host reservation.childName reservation.config = false ∧
      registry.pendingCollision host reservation.childName reservation.config = false)
    "spawn authority child name or data slot is already reserved"
  registry.checkCap cap
  return (reservation, { registry with pending := registry.pending.put reservation })

def withdrawPending (reservationId childName : String) : Except String (Unit × Registry) :=
  match registry.pending.get reservationId with
  | none => .error "pending spawn authority reservation is missing"
  | some existing => do
    .require (existing.childName = childName) "pending spawn authority reservation changed owner"
    return ((), { registry with pending := registry.pending.erase reservationId })

/-- What `promote_pending` is given. -/
structure Promotion where
  reservationId : String
  childName : String
  childDid : String
  mandate : SpawnMandate
  config : LocalAgentConfig
  proposalCreatedAt : ℤ
  deriving DecidableEq, Repr

def Promotion.witness (promotion : Promotion) : Witness where
  childName := promotion.childName
  childDid := promotion.childDid
  parentDid := promotion.mandate.parentDid
  mandate := promotion.mandate
  config := promotion.config
  proposalCreatedAt := some promotion.proposalCreatedAt
  state := .active

def Promotion.Matches (promotion : Promotion) (reservation : Reservation) : Prop :=
  reservation.childName = promotion.childName ∧
    reservation.parentDid = promotion.mandate.parentDid ∧
    host.sameDataSlot reservation.config promotion.config = true ∧
    reservation.mandate.createdAt = promotion.proposalCreatedAt ∧
    reservation.mandate.scopeWire = promotion.mandate.scopeWire

instance (promotion : Promotion) (reservation : Reservation) :
    Decidable (promotion.Matches host reservation) :=
  inferInstanceAs (Decidable (_ ∧ _ ∧ _ ∧ _ ∧ _))

def promotePending (promotion : Promotion) : Except String (Witness × Registry) := do
  .require (promotion.mandate.childDid = some promotion.childDid)
    "spawn authority child DID does not match mandate"
  let _ ← promotion.mandate.wire
  validateProposalCreatedAt (some promotion.proposalCreatedAt) promotion.mandate.createdAt
  match registry.pending.get promotion.reservationId with
  | none => .error "pending spawn authority reservation is missing"
  | some reservation =>
    .require (promotion.Matches host reservation)
      "signed spawn authority does not match its pending reservation"
    .require (registry.records.get promotion.childDid = none)
      "spawn authority child DID is already recorded"
    .require (registry.collision host promotion.childName promotion.config = false)
      "spawn authority child name or data slot is already active"
    return (promotion.witness,
      { pending := registry.pending.erase promotion.reservationId
        records := registry.records.put promotion.witness })

/-- What `record_active` is given. -/
structure Activation where
  childName : String
  childDid : String
  mandate : SpawnMandate
  config : LocalAgentConfig
  proposalCreatedAt : Option ℤ
  deriving DecidableEq, Repr

def Activation.witness (activation : Activation) : Witness where
  childName := activation.childName
  childDid := activation.childDid
  parentDid := activation.mandate.parentDid
  mandate := activation.mandate
  config := activation.config
  proposalCreatedAt := activation.proposalCreatedAt
  state := .active

def recordActive (activation : Activation) (cap : Option ℕ) :
    Except String (Witness × Registry) := do
  let witness := activation.witness
  .require (witness.mandate.childDid = some witness.childDid)
    "spawn authority child DID does not match mandate"
  let expected ← witness.mandate.wire
  validateProposalCreatedAt witness.proposalCreatedAt witness.mandate.createdAt
  match registry.records.get witness.childDid with
  | some existing =>
    .require (existing.state = .active) "refusing to reactivate terminal spawn authority"
    .require (host.sameName existing.childName witness.childName = true ∧
        host.sameDataSlot existing.config witness.config = true ∧
        existing.mandate = expected ∧ existing.proposalCreatedAt = witness.proposalCreatedAt)
      "spawn authority witness conflicts with existing record"
    return (existing, registry)
  | none =>
    -- unlike `reserve_pending`, the pending reservations are counted but not compared
    .require (registry.collision host witness.childName witness.config = false)
      "spawn authority child name or data slot is already active"
    registry.checkCap cap
    return (witness, { registry with records := registry.records.put witness })

def commitActiveReceipt (childName childDid : String) (expected committed : SpawnMandate) :
    Except String (Witness × Registry) := do
  .require (expected.authorityCommitted = false)
    "expected spawn authority receipt is already committed"
  .require (committed.authorityCommitted = true) "final spawn authority receipt is not committed"
  .require (expected.childDid = some childDid ∧ committed.childDid = some childDid)
    "spawn authority child DID does not match mandate"
  .require (expected.createdAt = committed.createdAt ∧ expected.scopeWire = committed.scopeWire)
    "spawn authority scope changed during governance commit"
  let expectedWire ← expected.wire
  let _ ← committed.wire
  match registry.records.get childDid with
  | none => .error "provisional spawn authority witness is unavailable"
  | some existing =>
    .require (existing.state = .active) "provisional spawn authority witness is unavailable"
    .require (host.sameName existing.childName childName = true ∧ existing.mandate = expectedWire)
      "provisional spawn authority witness changed before commit"
    let witness := { existing with mandate := committed }
    return (witness, { registry with records := registry.records.put witness })

def withdrawActive (childName childDid : String) (mandate : SpawnMandate) :
    Except String (Unit × Registry) :=
  match registry.records.get childDid with
  | none => return ((), registry)
  | some existing => do
    .require (existing.state = .active) "refusing to erase terminal spawn authority"
    .require (existing.childName = childName)
      "refusing to erase a changed spawn authority witness"
    let given ← mandate.wire
    .require (existing.mandate = given) "refusing to erase a changed spawn authority witness"
    return ((), { registry with records := registry.records.erase childDid })

/-- The record of a child takes a state. -/
def setState (existing : Witness) (state : AuthorityState) : Registry :=
  { registry with records := registry.records.put (existing.withState state) }

/-- The targets of `admit_retirements` are named, and name different children. -/
def checkTargets : List String → List String → List (String × String) → Except String Unit
  | _, _, [] => return
  | seenNames, seenDids, (childName, childDid) :: targets => do
    .require (childName ≠ "") "retiring spawn name must be a non-empty string"
    .require (childDid ≠ "") "retiring spawn DID must be a non-empty string"
    .require (host.casefold childName ∉ seenNames ∧ childDid ∉ seenDids)
      "spawn retirement target set contains a duplicate"
    checkTargets (host.casefold childName :: seenNames) (childDid :: seenDids) targets

/-- The first pass over a target: whether it exists, and whether it will change. -/
def checkRetirement (target : String × String) : Except String (Bool × Bool) :=
  match registry.records.get target.2 with
  | none => return (false, false)
  | some existing => do
    .require (host.sameName existing.childName target.1 = true)
      "spawn authority retirement identity does not match"
    .require (existing.state ≠ .retired) "refusing retirement intent for finalized authority"
    return (true, existing.state == .active)

/-- The second pass over a target. -/
def beginRetirement (registry : Registry) (target : String × String) : Registry :=
  match registry.records.get target.2 with
  | none => registry
  | some existing =>
    if existing.state = .retiring then registry else registry.setState existing .retiring

def admitRetirements (targets : List (String × String)) :
    Except String (List ((String × String) × Bool × Bool) × Registry) := do
  checkTargets host [] [] targets
  let results ← targets.mapM (registry.checkRetirement host)
  return (targets.zip results, targets.foldl beginRetirement registry)

def cancelRetirement (childName childDid : String) : Except String (Bool × Registry) :=
  match registry.records.get childDid with
  | none => return (false, registry)
  | some existing => do
    .require (host.sameName existing.childName childName = true)
      "spawn authority retirement identity does not match"
    .require (existing.state ≠ .retired) "refusing to cancel finalized spawn retirement"
    if existing.state = .active then return (true, registry)
    return (true, registry.setState existing .active)

def retire (childName childDid : String) : Except String (Bool × Registry) :=
  match registry.records.get childDid with
  | none => return (false, registry)
  | some existing => do
    .require (host.sameName existing.childName childName = true)
      "spawn authority retirement identity does not match"
    if existing.state = .retired then return (true, registry)
    return (true, registry.setState existing .retired)

end Registry

end Kestrel.Spawn.Authority
