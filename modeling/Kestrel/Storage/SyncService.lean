import Kestrel.Base.Run
import Mathlib.Data.Nat.Notation
import Mathlib.Logic.Function.Basic

/-!
# The snapshot service

The service uploads the database to its targets one at a time, and other steps fall between any two
of its awaits. The content of the database is the number of writes made so far; what was uploaded,
and from which content, is recorded beside what the service itself keeps.
-/

namespace Kestrel.Storage.Sync

inductive TrustTier where
  | sovereign
  | federated
  | delegated
  | expedient
  deriving DecidableEq, Repr

def remoteSyncTrustTiers : List TrustTier := [.sovereign, .federated, .delegated, .expedient]

/-- A `SyncTarget` and where its snapshots go. -/
structure SyncTarget where
  name : String
  kind : String
  trustTier : TrustTier
  destination : ℕ
  deriving DecidableEq, Repr

structure RemoteTierPolicyDecision where
  allowed : Bool
  reason : Option String
  deriving DecidableEq, Repr

/-- A `SyncResult`; `policyDenied` is the reason in its metadata. -/
structure SyncResult where
  success : Bool
  targetName : String
  error : Option String
  policyDenied : Option (Option String)
  kind : String
  attempted : Bool
  deriving DecidableEq, Repr

/-- A snapshot that a destination holds, and the content it was made from. -/
structure Upload where
  destination : ℕ
  content : ℕ
  deriving DecidableEq, Repr

/-- A result in the table of a pass, with the upload it reports. -/
structure Reported where
  result : SyncResult
  upload : Option Upload
  deriving DecidableEq, Repr

/-- What `SyncState` says of the last snapshot. -/
structure SyncState (Fingerprint : Type) where
  lastSnapshot : Bool
  lastFingerprint : Option Fingerprint
  lastSnapshotTargets : List String
  deriving DecidableEq, Repr

/-- The target whose `sync_snapshot` a pass awaits: the content it read, and whether its destination
holds a snapshot of that content. -/
structure Transfer where
  target : SyncTarget
  content : Option ℕ
  stored : Bool
  deriving DecidableEq, Repr

def Transfer.upload (transfer : Transfer) : Option Upload :=
  if transfer.stored then
    transfer.content.map fun content =>
      { destination := transfer.target.destination, content := content }
  else none

/-- A call of `force_snapshot`, by itself or by a `snapshot_if_changed` that took a fingerprint. -/
structure Pass (Fingerprint : Type) where
  changeAware : Bool
  fingerprint : Option Fingerprint
  results : List (String × Reported)
  /-- The position of the iteration over the targets. -/
  index : ℕ
  transfer : Option Transfer
  /-- `force_snapshot` has returned to `snapshot_if_changed`. -/
  returned : Bool
  deriving DecidableEq, Repr

/-- Every target of the pass succeeded, or was skipped. -/
def Pass.records {Fingerprint : Type} (pass : Pass Fingerprint) : Bool :=
  !pass.results.isEmpty && pass.results.all (·.2.result.success)

def Pass.covered {Fingerprint : Type} (pass : Pass Fingerprint) : List String :=
  ((pass.results.filter (·.2.result.success)).map (·.2.result.targetName)).mergeSort (· ≤ ·)

/-- What becomes of the state file when it is written. -/
inductive Disk where
  | written
  | kept
  | torn
  deriving DecidableEq, Repr

structure SyncService (Fingerprint : Type) where
  /-- The writes made to the database. -/
  content : ℕ
  policy : Option RemoteTierPolicyDecision
  targets : List SyncTarget
  policySkips : List (String × Reported)
  state : Option (SyncState Fingerprint)
  /-- What can be read back from the state file. -/
  saved : Option (SyncState Fingerprint)
  passes : ℕ → Option (Pass Fingerprint)
  uploads : List Upload

/-- A Python dictionary's assignment: the key keeps its place. -/
def assign (table : List (String × Reported)) (name : String) (reported : Reported) :
    List (String × Reported) :=
  if table.any (·.1 == name) then
    table.map fun entry => if entry.1 == name then (name, reported) else entry
  else table ++ [(name, reported)]

/-- The result that `_record_policy_skip` records. -/
def policySkip (name : String) (reason : Option String) (kind : String) : Reported where
  result :=
    { success := true, targetName := name, error := none, policyDenied := some reason,
      kind := kind, attempted := false }
  upload := none

/-- The result of a target that raised. -/
def snapshotFailed (target : SyncTarget) (error : String) : Reported where
  result :=
    { success := false, targetName := target.name, error := some error, policyDenied := none,
      kind := target.kind, attempted := true }
  upload := none

def SyncState.fresh {Fingerprint : Type} : SyncState Fingerprint where
  lastSnapshot := false
  lastFingerprint := none
  lastSnapshotTargets := []

namespace SyncService

variable {Fingerprint : Type}

/-- A new service over a database that was never backed up. -/
def initial : SyncService Fingerprint where
  content := 0
  policy := none
  targets := []
  policySkips := []
  state := none
  saved := none
  passes := fun _ => none
  uploads := []

/-! ## Targets and their policy -/

def recordPolicySkip (service : SyncService Fingerprint) (name : String) (reason : Option String)
    (kind : String) : SyncService Fingerprint :=
  { service with policySkips := assign service.policySkips name (policySkip name reason kind) }

def refusal (service : SyncService Fingerprint) (tier : TrustTier) :
    Option RemoteTierPolicyDecision :=
  if tier ∈ remoteSyncTrustTiers then service.policy.filter (!·.allowed) else none

/-- `add_target`, and `add_remote_target` where the target was not constructed: then its kind is
unknown to the skip. -/
def addTarget (service : SyncService Fingerprint) (target : SyncTarget) (constructed : Bool) :
    SyncService Fingerprint :=
  match service.refusal target.trustTier with
  | some decision =>
    service.recordPolicySkip target.name decision.reason
      (if constructed then target.kind else "")
  | none => { service with targets := service.targets ++ [target] }

def removeTarget (service : SyncService Fingerprint) (name : String) : SyncService Fingerprint :=
  { service with targets := service.targets.eraseP (·.name == name) }

/-! ## The state file -/

def saveState (service : SyncService Fingerprint) (disk : Disk) : SyncService Fingerprint :=
  { service with
    saved :=
      match service.state, disk with
      | some state, .written => some state
      | some _, .torn => none
      | _, _ => service.saved }

def loadState (service : SyncService Fingerprint) : SyncService Fingerprint :=
  { service with state := some (service.saved.getD .fresh) }

/-- The process dies, possibly while it writes the state file; the next one starts without targets
or passes. -/
def restart (service : SyncService Fingerprint) (torn : Bool) : SyncService Fingerprint :=
  { service with
    targets := []
    policySkips := []
    state := none
    saved := if torn then none else service.saved
    passes := fun _ => none }

/-! ## A pass -/

def setPass (service : SyncService Fingerprint) (id : ℕ) (pass : Pass Fingerprint) :
    SyncService Fingerprint :=
  { service with passes := Function.update service.passes id (some pass) }

def endPass (service : SyncService Fingerprint) (id : ℕ) : SyncService Fingerprint :=
  { service with passes := Function.update service.passes id none }

/-- `force_snapshot` starts from the skips recorded so far. -/
def forceSnapshot (service : SyncService Fingerprint) (id : ℕ) (changeAware : Bool)
    (fingerprint : Option Fingerprint) : SyncService Fingerprint :=
  service.setPass id
    { changeAware := changeAware, fingerprint := fingerprint, results := service.policySkips,
      index := 0, transfer := none, returned := false }

/-- One target of the loop: the policy refuses it, or its upload is awaited. -/
def snapshotTarget (service : SyncService Fingerprint) (id : ℕ) (pass : Pass Fingerprint)
    (target : SyncTarget) : SyncService Fingerprint :=
  match service.refusal target.trustTier with
  | some decision =>
    (service.recordPolicySkip target.name decision.reason target.kind).setPass id
      { pass with
        results := assign pass.results target.name
          (policySkip target.name decision.reason target.kind)
        index := pass.index + 1 }
  | none =>
    service.setPass id
      { pass with
        index := pass.index + 1
        transfer := some { target := target, content := none, stored := false } }

/-- The pass that awaits an upload, and that upload. -/
def transferring (service : SyncService Fingerprint) (id : ℕ) :
    Option (Pass Fingerprint × Transfer) := do
  let pass ← service.passes id
  let transfer ← pass.transfer
  return (pass, transfer)

/-- The awaited target ended with a result. -/
def settle (service : SyncService Fingerprint) (id : ℕ) (pass : Pass Fingerprint)
    (transfer : Transfer) (reported : Reported) : SyncService Fingerprint :=
  service.setPass id
    { pass with
      results := assign pass.results transfer.target.name reported, transfer := none }

/-- The time of the last snapshot is set. -/
def stamp (service : SyncService Fingerprint) : SyncService Fingerprint :=
  { service with state := service.state.map fun state => { state with lastSnapshot := true } }

/-- The end of `force_snapshot`. -/
def finish (service : SyncService Fingerprint) (id : ℕ) (pass : Pass Fingerprint) (disk : Disk) :
    SyncService Fingerprint :=
  let finished := service.stamp.saveState disk
  if pass.changeAware then finished.setPass id { pass with returned := true }
  else finished.endPass id

section Fingerprints

variable (fingerprint : ℕ → Fingerprint)

/-- `_compute_db_fingerprint`, of a database file that can be examined or not. -/
def computeDbFingerprint (service : SyncService Fingerprint) (readable : Bool) :
    Option Fingerprint :=
  if readable then some (fingerprint service.content) else none

/-- `snapshot_if_changed` answers `__unchanged__`. -/
def unchanged [DecidableEq Fingerprint] (service : SyncService Fingerprint) (readable : Bool) :
    Bool :=
  match service.computeDbFingerprint fingerprint readable, service.state with
  | some current, some state =>
    state.lastSnapshot && state.lastFingerprint == some current &&
      service.targets.all fun target => target.name ∈ state.lastSnapshotTargets
  | _, _ => false

/-- The end of a `snapshot_if_changed` whose pass returned. -/
def record (service : SyncService Fingerprint) (id : ℕ) (pass : Pass Fingerprint) (readable : Bool)
    (disk : Disk) : SyncService Fingerprint :=
  match pass.fingerprint, service.state with
  | some started, some state =>
    if pass.records then
      let completed := (service.computeDbFingerprint fingerprint readable).getD started
      let recorded : SyncService Fingerprint :=
        { service with
          state := some { state with
            lastFingerprint := some completed, lastSnapshotTargets := pass.covered } }
      (recorded.saveState disk).endPass id
    else service.endPass id
  | _, _ => service.endPass id

end Fingerprints

end SyncService

/-- What happens to a service, to its database and to its targets. -/
inductive Step where
  | write
  | setPolicy (policy : Option RemoteTierPolicyDecision)
  | addTarget (target : SyncTarget) (constructed : Bool)
  | removeTarget (name : String)
  | start
  | stop (disk : Disk)
  | restart (torn : Bool)
  | snapshotIfChanged (id : ℕ) (readable : Bool)
  | forceSnapshot (id : ℕ)
  /-- The loop reaches its next target. -/
  | next (id : ℕ)
  /-- The awaited target reads the database. -/
  | read (id : ℕ)
  /-- Its destination holds a snapshot of what it read. -/
  | stored (id : ℕ)
  | returned (id : ℕ) (result : SyncResult)
  | raised (id : ℕ) (error : String)
  /-- A control error or a cancellation ends the pass. -/
  | aborted (id : ℕ)
  | finish (id : ℕ) (disk : Disk)
  | record (id : ℕ) (readable : Bool) (disk : Disk)
  deriving DecidableEq, Repr

namespace SyncService

variable {Fingerprint : Type} [DecidableEq Fingerprint] (fingerprint : ℕ → Fingerprint)

/-- One step, if it is possible. A target that reports success has stored a snapshot of what it
read. -/
def step (service : SyncService Fingerprint) : Step → Option (SyncService Fingerprint)
  | .write => some { service with content := service.content + 1 }
  | .setPolicy policy => some { service with policy := policy }
  | .addTarget target constructed => some (service.addTarget target constructed)
  | .removeTarget name => some (service.removeTarget name)
  | .start => some service.loadState
  | .stop disk => some (service.saveState disk)
  | .restart torn => some (service.restart torn)
  | .snapshotIfChanged id readable =>
    if (service.passes id).isSome then none
    else if service.unchanged fingerprint readable then some service
    else some (service.forceSnapshot id true
      (service.computeDbFingerprint fingerprint readable))
  | .forceSnapshot id =>
    if (service.passes id).isSome then none else some (service.forceSnapshot id false none)
  | .next id => do
    let pass ← service.passes id
    if pass.transfer.isSome || pass.returned then none
    else (service.targets[pass.index]?).map (service.snapshotTarget id pass)
  | .read id => do
    let (pass, transfer) ← service.transferring id
    return service.setPass id
      { pass with
        transfer := some { transfer with content := some service.content, stored := false } }
  | .stored id => do
    let (pass, transfer) ← service.transferring id
    let content ← transfer.content
    let uploaded : SyncService Fingerprint := { service with
      uploads := service.uploads ++
        [{ destination := transfer.target.destination, content := content }] }
    return uploaded.setPass id { pass with transfer := some { transfer with stored := true } }
  | .returned id result => do
    let (pass, transfer) ← service.transferring id
    if result.success && !transfer.stored then none
    else
      return service.settle id pass transfer
        { result := { result with kind := transfer.target.kind }, upload := transfer.upload }
  | .raised id error => do
    let (pass, transfer) ← service.transferring id
    return service.settle id pass transfer (snapshotFailed transfer.target error)
  | .aborted id => do
    let _ ← service.passes id
    return service.endPass id
  | .finish id disk => do
    let pass ← service.passes id
    if pass.transfer.isSome || pass.returned || pass.index < service.targets.length then none
    else return service.finish id pass disk
  | .record id readable disk => do
    let pass ← service.passes id
    if pass.returned then return service.record fingerprint id pass readable disk else none

end SyncService

end Kestrel.Storage.Sync
