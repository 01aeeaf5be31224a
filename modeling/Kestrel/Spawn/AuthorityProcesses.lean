import Kestrel.Base.LockFile
import Kestrel.Base.Run
import Kestrel.Spawn.AuthorityRegistry

/-!
# The processes that share a spawn authority registry

A producer holds the lock of a sidecar file while its reservation, and later its provisional record,
is in its hands; a reconciliation claims these locks to find what no producer holds. A mutation of
the registry is one step, and so is every system call on a sidecar. Beside the processes stands what
became of each reservation, and which of them an identity was born for.
-/

namespace Kestrel.Spawn.Authority

/-- A sidecar file, by the key that its name is hashed from. -/
inductive Sidecar where
  | pending (reservationId : String)
  | provisional (childDid : String)
  deriving DecidableEq, Repr

/-- A producer owns the lock of a sidecar, or a reconciliation probes it. -/
inductive Role where
  | owner
  | prober
  deriving DecidableEq, Repr

structure Handle where
  process : ℕ
  role : Role
  deriving DecidableEq, Repr

/-- What a producer has of a sidecar: an opened file whose lock it waits for, or the lock. -/
inductive Holding where
  | absent
  | opened (inode : ℕ)
  | owned (inode : ℕ)
  deriving DecidableEq, Repr

/-- A registry object of a process. -/
structure Process where
  /-- The entries of `_owned_pending_locks` and `_owned_provisional_locks`. -/
  holding : Sidecar → Holding
  /-- The sidecars that a reconciliation claimed. -/
  claimed : List (Sidecar × ℕ)
  /-- Released sidecars that are still to be unlinked. -/
  unlinking : List Sidecar

def Process.idle : Process := ⟨fun _ => .absent, [], []⟩

/-- What became of a reservation that was written. -/
inductive Fate where
  | reserved
  | promoted (childDid : String)
  | withdrawn
  | retired
  | reaped
  deriving DecidableEq, Repr

structure World where
  registry : Registry
  files : Sidecar → LockFile Handle
  process : ℕ → Process
  /-- The reservation ids that were drawn. -/
  drawn : List String
  issued : String → Option Reservation
  fate : String → Option Fate
  /-- The reservations that an identity was born for. -/
  born : List String
  /-- The data directories whose identity database has an agent node. -/
  anchors : List String

/-- What a process does. -/
inductive Step where
  /-- The first half of `_acquire_pending_owner_lock` and `_acquire_provisional_owner_lock`. -/
  | openSidecar (process : ℕ) (sidecar : Sidecar)
  | lockSidecar (process : ℕ) (sidecar : Sidecar)
  | reservePending (process : ℕ) (reservation : Reservation) (cap : Option ℕ)
  | birth (process : ℕ) (reservationId : String)
  | reapOrphaned (process : ℕ) (reservationIds obscured : List String)
  | withdrawPending (reservationId childName : String)
  | promotePending (process : ℕ) (promotion : Registry.Promotion)
  | admitOrphaned (process : ℕ) (childDids unreadable : List String)
  | recordActive (activation : Registry.Activation) (cap : Option ℕ)
  | commitActiveReceipt (childName childDid : String) (expected committed : SpawnMandate)
  | withdrawActive (childName childDid : String) (mandate : SpawnMandate)
  | admitRetirements (targets : List (String × String))
  | cancelRetirement (childName childDid : String)
  | retire (childName childDid : String)
  /-- `_release_pending_owner_lock` and `_release_provisional_owner_lock`, up to the unlinking. -/
  | release (process : ℕ) (sidecar : Sidecar) (unlink : Bool)
  /-- A reconciliation lets go of the sidecar that it claimed last. -/
  | dropClaim (process : ℕ)
  | unlinkSidecar (process : ℕ) (sidecar : Sidecar)
  | die (process : ℕ)
  deriving DecidableEq, Repr

namespace World

def initial : World where
  registry := .empty
  files := fun _ => .absent
  process := fun _ => .idle
  drawn := []
  issued := fun _ => none
  fate := fun _ => none
  born := []
  anchors := []

section Sidecars

variable (world : World)

def holding (process : ℕ) (sidecar : Sidecar) : Holding := (world.process process).holding sidecar

def setProcess (process : ℕ) (new : Process) : World :=
  { world with process := Function.update world.process process new }

def setFile (sidecar : Sidecar) (file : LockFile Handle) : World :=
  { world with files := Function.update world.files sidecar file }

def setHolding (process : ℕ) (sidecar : Sidecar) (holding : Holding) : World :=
  world.setProcess process
    { world.process process with
      holding := Function.update (world.process process).holding sidecar holding }

def openSidecar (process : ℕ) (sidecar : Sidecar) : World :=
  let opened := (world.files sidecar).openOrCreate
  (world.setFile sidecar opened.2).setHolding process sidecar (.opened opened.1)

def claim (process : ℕ) (sidecar : Sidecar) (inode : ℕ) (locked : LockFile Handle) : World :=
  (world.setFile sidecar locked).setProcess process
    { world.process process with claimed := (sidecar, inode) :: (world.process process).claimed }

def release (process : ℕ) (sidecar : Sidecar) (inode : ℕ) (unlink : Bool) : World :=
  let unlocked := world.setFile sidecar ((world.files sidecar).unlock inode)
  let released := unlocked.setHolding process sidecar .absent
  if unlink then
    released.setProcess process
      { released.process process with
        unlinking := sidecar :: (released.process process).unlinking }
  else released

def dropClaim (process : ℕ) (sidecar : Sidecar) (inode : ℕ) (rest : List (Sidecar × ℕ)) : World :=
  (world.setFile sidecar ((world.files sidecar).unlock inode)).setProcess process
    { world.process process with
      claimed := rest, unlinking := sidecar :: (world.process process).unlinking }

def unlinkSidecar (process : ℕ) (sidecar : Sidecar) : World :=
  (world.setFile sidecar (world.files sidecar).unlink).setProcess process
    { world.process process with
      unlinking := (world.process process).unlinking.erase sidecar }

/-- A process dies: the system releases its locks and leaves its sidecars. -/
def die (process : ℕ) : World :=
  { world with
    files := fun sidecar =>
      { world.files sidecar with
        holder := fun inode =>
          ((world.files sidecar).holder inode).filter fun handle => handle.process ≠ process }
    process := Function.update world.process process .idle }

end Sidecars

section Mutations

variable (host : Host) (world : World)

/-- A mutation replaces the registry file; a refused one leaves it. -/
def mutate {Result : Type} (result : Except String (Result × Registry)) (written : World → World) :
    World :=
  match result with
  | .ok (_, registry) => written { world with registry := registry }
  | .error _ => world

def setFate (reservationId : String) (fate : Fate) : World :=
  { world with fate := Function.update world.fate reservationId (some fate) }

/-- The record of a child is gone or final. -/
def close (childDid : String) (fate : Fate) : World :=
  { world with
    fate := fun reservationId =>
      if world.fate reservationId = some (.promoted childDid) then some fate
      else world.fate reservationId }

/-- `_identity_anchor_birth_status` of a data directory; an obscured one cannot be inspected. -/
def identityAnchorBirthStatus (obscured : List String) (dataDir : String) : Option Bool :=
  if dataDir ∈ obscured then none else some (dataDir ∈ world.anchors)

/-- `reap_orphaned_pending_without_birth` of one reservation. -/
def reapOrphaned (process : ℕ) (obscured : List String) (world : World) (reservationId : String) :
    World :=
  match world.registry.pending.get reservationId with
  | none => world
  | some reservation =>
    let opened := (world.files (.pending reservationId)).openOrCreate
    match opened.2.tryLock opened.1 ⟨process, .prober⟩ with
    | none => world.setFile (.pending reservationId) opened.2
    | some locked =>
      let claimed := world.claim process (.pending reservationId) opened.1 locked
      if claimed.identityAnchorBirthStatus obscured (host.resolve reservation.config.dataDir) =
          some false then
        { claimed with
          registry :=
            { claimed.registry with
              pending := claimed.registry.pending.erase reservationId }
        : World }.setFate reservationId .reaped
      else claimed

/-- `admit_orphaned_provisional_retirements` of one child. -/
def admitOrphaned (process : ℕ) (unreadable : List String) (world : World) (childDid : String) :
    World :=
  match world.registry.records.get childDid with
  | none => world
  | some witness =>
    if witness.state ≠ .active ∨ witness.mandate.authorityCommitted = true ∨
        childDid ∈ unreadable then world
    else
      let retiring := { world with registry := world.registry.setState witness .retiring }
      match (world.files (.provisional childDid)).linked with
      | none => retiring
      | some inode =>
        match (world.files (.provisional childDid)).tryLock inode ⟨process, .prober⟩ with
        | none => world
        | some locked => retiring.claim process (.provisional childDid) inode locked

/-- An identity may be born for a reservation of its producer until it is promoted. -/
def mayBear (process : ℕ) (reservationId : String) : Bool :=
  match world.holding process (.pending reservationId), world.fate reservationId with
  | .owned _, some (.promoted _) => false
  | .owned _, some _ => true
  | _, _ => false

def step (world : World) : Step → Option World
  | .openSidecar process (.pending reservationId) =>
    if reservationId ∈ world.drawn then none
    else some ({ world with drawn := reservationId :: world.drawn }.openSidecar process
      (.pending reservationId))
  | .openSidecar process (.provisional childDid) =>
    match world.holding process (.provisional childDid) with
    | .absent => some (world.openSidecar process (.provisional childDid))
    | _ => some world
  | .lockSidecar process sidecar =>
    match world.holding process sidecar with
    | .opened inode =>
      ((world.files sidecar).tryLock inode ⟨process, .owner⟩).map fun locked =>
        (world.setFile sidecar locked).setHolding process sidecar (.owned inode)
    | _ => none
  | .reservePending process reservation cap =>
    match world.holding process (.pending reservation.reservationId),
        world.fate reservation.reservationId with
    | .owned _, none =>
      some (world.mutate (world.registry.reservePending host reservation cap) fun written =>
        { written with
          issued := Function.update written.issued reservation.reservationId reservation
        : World }.setFate reservation.reservationId .reserved)
    | _, _ => none
  | .birth process reservationId =>
    if world.mayBear process reservationId then
      (world.issued reservationId).map fun reservation =>
        { world with
          born := reservationId :: world.born
          anchors := host.resolve reservation.config.dataDir :: world.anchors }
    else none
  | .reapOrphaned process reservationIds obscured =>
    some (reservationIds.foldl (reapOrphaned host process obscured) world)
  | .withdrawPending reservationId childName =>
    some (world.mutate (world.registry.withdrawPending reservationId childName)
      (setFate · reservationId .withdrawn))
  | .promotePending process promotion =>
    match world.holding process (.provisional promotion.childDid) with
    | .owned _ =>
      some (world.mutate (world.registry.promotePending host promotion)
        (setFate · promotion.reservationId (.promoted promotion.childDid)))
    | _ => none
  | .admitOrphaned process childDids unreadable =>
    some (childDids.foldl (admitOrphaned process unreadable) world)
  | .recordActive activation cap =>
    some (world.mutate (world.registry.recordActive host activation cap) id)
  | .commitActiveReceipt childName childDid expected committed =>
    some (world.mutate
      (world.registry.commitActiveReceipt host childName childDid expected committed) id)
  | .withdrawActive childName childDid mandate =>
    some (world.mutate (world.registry.withdrawActive childName childDid mandate)
      (close · childDid .withdrawn))
  | .admitRetirements targets =>
    some (world.mutate (world.registry.admitRetirements host targets) id)
  | .cancelRetirement childName childDid =>
    some (world.mutate (world.registry.cancelRetirement host childName childDid) id)
  | .retire childName childDid =>
    some (world.mutate (world.registry.retire host childName childDid)
      (close · childDid .retired))
  | .release process sidecar unlink =>
    match world.holding process sidecar with
    | .owned inode => some (world.release process sidecar inode unlink)
    | _ => some world
  | .dropClaim process =>
    match (world.process process).claimed with
    | [] => none
    | (sidecar, inode) :: rest => some (world.dropClaim process sidecar inode rest)
  | .unlinkSidecar process sidecar =>
    if sidecar ∈ (world.process process).unlinking then
      some (world.unlinkSidecar process sidecar)
    else none
  | .die process => some (world.die process)

end Mutations

end World

end Kestrel.Spawn.Authority
