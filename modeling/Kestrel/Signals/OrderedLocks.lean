import Kestrel.Base.AsyncLock
import Kestrel.Base.Run
import Mathlib.Data.List.Sort
import Mathlib.Data.Prod.Lex
import Mathlib.Data.String.Basic
import Mathlib.Logic.Function.Basic

/-!
# The ordered lock manager

A signal's handler takes all its resources in one global order and releases them in the reverse
one. The conversation comes last. A lock that has not been created yet is a free lock, as its
creation never waits. Reports about slow waits and holds are left out.
-/

namespace Kestrel.Signals

/-- `ResourceLock`, an enumeration: its members have different values. -/
structure ResourceNames (Resource : Type) where
  conversation : Resource
  value : Resource → String
  value_injective : Function.Injective value

variable {Resource Task : Type} [DecidableEq Resource]

def lockSortKey (names : ResourceNames Resource) (name : Resource) : ℕ ×ₗ String :=
  if name = names.conversation then toLex (1, "") else toLex (0, names.value name)

/-- Where a task stands: outside of `acquire`, waiting for a lock, or with all its locks. The locks
it has are listed from the last one taken on. -/
inductive Phase (Resource : Type) where
  | outside
  | waiting (acquired : List Resource) (name : Resource) (rest : List Resource) (counted : Bool)
      (cancelRequested : Bool)
  | inside (acquired : List Resource)
  deriving DecidableEq

namespace Phase

def acquired : Phase Resource → List Resource
  | .outside => []
  | .waiting acquired _ _ _ _ => acquired
  | .inside acquired => acquired

/-- The lock that a task waits for. -/
def awaits : Phase Resource → Option Resource
  | .waiting _ name _ _ _ => some name
  | .outside | .inside _ => none

def counted : Phase Resource → Bool
  | .waiting _ _ _ counted _ => counted
  | .outside | .inside _ => false

end Phase

/-- `OrderedLockManager`, with the phases of the tasks that use it. -/
structure LockManager (Resource Task : Type) where
  locks : Resource → AsyncLock Task
  holders : Resource → Option Task
  waiters : Resource → ℕ
  phases : Task → Phase Resource

namespace LockManager

def initial : LockManager Resource Task where
  locks _ := .initial
  holders _ := none
  waiters _ := 0
  phases _ := .outside

variable [DecidableEq Task]

/-- `_acquire_one` returns with the lock, which the task has taken. -/
def grant (manager : LockManager Resource Task) (task : Task) (acquired : List Resource)
    (name : Resource) (lock : AsyncLock Task) : LockManager Resource Task :=
  { manager with
    locks := Function.update manager.locks name lock.take
    holders := Function.update manager.holders name (some task)
    phases := Function.update manager.phases task (.inside (name :: acquired)) }

/-- `_acquire_one` up to its wait, which is counted if the lock is held. -/
def wait (manager : LockManager Resource Task) (task : Task) (acquired : List Resource)
    (name : Resource) (rest : List Resource) : LockManager Resource Task :=
  let lock := manager.locks name
  { manager with
    locks := Function.update manager.locks name (lock.enqueue task)
    waiters := if lock.locked then
        Function.update manager.waiters name (manager.waiters name + 1) else manager.waiters
    phases := Function.update manager.phases task
      (.waiting acquired name rest lock.locked false) }

/-- The loop of `acquire` up to its wait or its body. -/
def acquireFrom (manager : LockManager Resource Task) (task : Task) (acquired : List Resource) :
    List Resource → LockManager Resource Task
  | [] => manager
  | name :: rest =>
    if (manager.locks name).free then
      (manager.grant task acquired name (manager.locks name)).acquireFrom task
        (name :: acquired) rest
    else manager.wait task acquired name rest

/-- The `finally` of `acquire`, where no release raises. -/
def releaseAll (manager : LockManager Resource Task) (task : Task) :
    List Resource → Option (LockManager Resource Task)
  | [] => some { manager with phases := Function.update manager.phases task .outside }
  | name :: acquired => do
    let lock ← (manager.locks name).release
    LockManager.releaseAll
      { manager with
        locks := Function.update manager.locks name lock
        holders := Function.update manager.holders name none
        phases := Function.update manager.phases task (.inside acquired) } task acquired

/-- The `finally` of `_acquire_one` after a counted wait. -/
def uncount (manager : LockManager Resource Task) (name : Resource) (counted : Bool) :
    LockManager Resource Task :=
  if counted then
    { manager with waiters := Function.update manager.waiters name (manager.waiters name - 1) }
  else manager

/-- `sorted(set(names), key=lock_sort_key)`. -/
def ordered (names : ResourceNames Resource) (wanted : List Resource) : List Resource :=
  wanted.dedup.insertionSort fun first second =>
    lockSortKey names first ≤ lockSortKey names second

end LockManager

inductive LockLabel (Resource Task : Type) where
  | acquire (task : Task) (wanted : List Resource)
  | resume (task : Task)
  | cancel (task : Task)
  | leave (task : Task)

namespace LockManager

variable [DecidableEq Task]

/-- One run of one task between two awaits, or the request to cancel one. A task inside its body
leaves it on its own or when its cancellation arrives. -/
def step (names : ResourceNames Resource) (manager : LockManager Resource Task) :
    LockLabel Resource Task → Option (LockManager Resource Task)
  | .acquire task wanted =>
    match manager.phases task with
    | .outside => some <| LockManager.acquireFrom
        { manager with phases := Function.update manager.phases task (.inside []) } task []
        (ordered names wanted)
    | .waiting .. | .inside _ => none
  | .resume task =>
    match manager.phases task with
    | .waiting acquired name rest counted cancelRequested =>
      let lock := manager.locks name
      match lock.wakeOf task with
      | none | some .asleep => none
      | some wake =>
        let manager := manager.uncount name counted
        if wake = .cancelled ∨ cancelRequested then
          LockManager.releaseAll
            { manager with
              locks := Function.update manager.locks name (lock.abandon task)
              phases := Function.update manager.phases task (.inside acquired) }
            task acquired
        else some <| (manager.grant task acquired name (lock.leave task)).acquireFrom task
          (name :: acquired) rest
    | .outside | .inside _ => none
  | .cancel task =>
    match manager.phases task with
    | .waiting acquired name rest counted _ =>
      some { manager with
        locks := Function.update manager.locks name ((manager.locks name).cancel task)
        phases := Function.update manager.phases task
          (.waiting acquired name rest counted true) }
    | .outside | .inside _ => some manager
  | .leave task =>
    match manager.phases task with
    | .inside acquired => manager.releaseAll task acquired
    | .outside | .waiting .. => none

end LockManager

end Kestrel.Signals
