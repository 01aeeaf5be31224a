import Kestrel.Base.Event
import Kestrel.Base.Run

/-!
# The asynchronous reader/writer lock

A call runs between two awaits without interruption. Each function below is the code from one await,
or from the call, to the next.
-/

namespace Kestrel.Lock

/-- What a waiting call wants. -/
inductive Mode where
  | read
  | write
  deriving DecidableEq, Repr

variable {Task : Type*}

/-- `AsyncReaderWriterLock`. -/
structure RwLock (Task : Type*) where
  readers : ℕ
  writer : Bool
  waitingWriters : ℕ
  changed : Event (Task × Mode)

namespace RwLock

def initial : RwLock Task where
  readers := 0
  writer := false
  waitingWriters := 0
  changed := .initial

def locked (lock : RwLock Task) : Bool := lock.writer || 0 < lock.readers

/-- The `finally` of `acquire`. -/
def leaveQueue (lock : RwLock Task) : RwLock Task :=
  { lock with
    waitingWriters := lock.waitingWriters - 1
    changed := lock.changed.set }

/-- The loop of `acquire` up to its return or its wait. The test before the wait is the one that
just failed, as nothing runs in between. -/
def acquireLoop (lock : RwLock Task) (task : Task) : RwLock Task × Bool :=
  if lock.writer = false ∧ lock.readers = 0 then (leaveQueue { lock with writer := true }, true)
  else ({ lock with changed := lock.changed.clearAndWait (task, .write) }, false)

/-- `acquire` up to its return or its wait. -/
def acquire (lock : RwLock Task) (task : Task) : RwLock Task × Bool :=
  acquireLoop { lock with waitingWriters := lock.waitingWriters + 1 } task

/-- `release`, where it does not raise. -/
def release (lock : RwLock Task) : Option (RwLock Task) :=
  if lock.writer then some { lock with writer := false, changed := lock.changed.set } else none

/-- `downgrade`, where it does not raise. -/
def downgrade (lock : RwLock Task) : Option (RwLock Task) :=
  if lock.writer then
    some
      { lock with
        writer := false
        readers := lock.readers + 1
        changed := lock.changed.set }
  else none

/-- `try_acquire_read`, where it admits the reader. -/
def tryAcquireRead (lock : RwLock Task) : Option (RwLock Task) :=
  if lock.writer = true ∨ 0 < lock.waitingWriters then none
  else some { lock with readers := lock.readers + 1 }

/-- The loop of `acquire_read` up to its return or its wait. -/
def acquireRead (lock : RwLock Task) (task : Task) : RwLock Task × Bool :=
  match lock.tryAcquireRead with
  | some lock => (lock, true)
  | none => ({ lock with changed := lock.changed.clearAndWait (task, .read) }, false)

/-- `release_read`, where it does not raise. The exit of a downgraded lease calls it once. -/
def releaseRead (lock : RwLock Task) : Option (RwLock Task) :=
  if lock.readers = 0 then none
  else some { lock with readers := lock.readers - 1, changed := lock.changed.set }

end RwLock

/-- The lock with the leases that its tasks hold. A task may hold several. -/
structure System (Task : Type*) where
  lock : RwLock Task
  writing : List Task
  reading : List Task

namespace System

def initial : System Task where
  lock := .initial
  writing := []
  reading := []

def Waits (system : System Task) (task : Task) : Prop :=
  ∃ waiter ∈ system.lock.changed.waiters, waiter.call.1 = task

/-- A writer's run that returned with its lease or waits. -/
def wrote (system : System Task) (task : Task) (run : RwLock Task × Bool) : System Task :=
  { system with
    lock := run.1
    writing := if run.2 then task :: system.writing else system.writing }

/-- A reader's run that returned with its lease or waits. -/
def read (system : System Task) (task : Task) (run : RwLock Task × Bool) : System Task :=
  { system with
    lock := run.1
    reading := if run.2 then task :: system.reading else system.reading }

/-- A woken waiter tries again. -/
def goOn (system : System Task) (task : Task) : Mode → System Task
  | .write => system.wrote task (system.lock.acquireLoop task)
  | .read => system.read task (system.lock.acquireRead task)

/-- A cancelled waiter leaves. -/
def abandon (system : System Task) : Mode → System Task
  | .write => { system with lock := system.lock.leaveQueue }
  | .read => system

end System

inductive Label (Task : Type*) where
  | acquire (task : Task)
  | acquireRead (task : Task)
  | tryAcquireRead (task : Task)
  | release (task : Task)
  | releaseRead (task : Task)
  | downgrade (task : Task)
  | cancel (task : Task)
  | resume (task : Task)
  deriving DecidableEq, Repr

/-- One run of one task between two awaits, or the request to cancel a waiting one. Only owners
release. -/
inductive Step [DecidableEq Task] : System Task → Label Task → System Task → Prop where
  | acquire {system : System Task} {task : Task} : ¬ system.Waits task →
      Step system (.acquire task) (system.wrote task (system.lock.acquire task))
  | acquireRead {system : System Task} {task : Task} : ¬ system.Waits task →
      Step system (.acquireRead task) (system.read task (system.lock.acquireRead task))
  | tryAcquireRead {system : System Task} {task : Task} {lock : RwLock Task} :
      ¬ system.Waits task → system.lock.tryAcquireRead = some lock →
      Step system (.tryAcquireRead task) (system.read task (lock, true))
  | refuseRead {system : System Task} {task : Task} : ¬ system.Waits task →
      system.lock.tryAcquireRead = none → Step system (.tryAcquireRead task) system
  | release {system : System Task} {task : Task} {lock : RwLock Task} : ¬ system.Waits task →
      task ∈ system.writing → system.lock.release = some lock →
      Step system (.release task) { system with lock := lock, writing := system.writing.erase task }
  | releaseRead {system : System Task} {task : Task} {lock : RwLock Task} :
      ¬ system.Waits task → task ∈ system.reading → system.lock.releaseRead = some lock →
      Step system (.releaseRead task)
        { system with lock := lock, reading := system.reading.erase task }
  | downgrade {system : System Task} {task : Task} {lock : RwLock Task} : ¬ system.Waits task →
      task ∈ system.writing → system.lock.downgrade = some lock →
      Step system (.downgrade task)
        { system with
          lock := lock
          writing := system.writing.erase task
          reading := task :: system.reading }
  | cancel {system : System Task} {before after : List (Waiter (Task × Mode))}
      {waiter : Waiter (Task × Mode)}
      (split : system.lock.changed.waiters = before ++ waiter :: after) :
      Step system (.cancel waiter.call.1)
        { system with
          lock :=
            { system.lock with
              changed := system.lock.changed.cancel before after waiter split } }
  | resume {system : System Task} {before after : List (Waiter (Task × Mode))} {task : Task}
      {mode : Mode}
      (split : system.lock.changed.waiters = before ++ ⟨(task, mode), .woken⟩ :: after) :
      Step system (.resume task)
        (System.goOn { system with
          lock :=
            { system.lock with
              changed := system.lock.changed.leave before after _ split } } task mode)
  | abandon {system : System Task} {before after : List (Waiter (Task × Mode))} {task : Task}
      {mode : Mode}
      (split : system.lock.changed.waiters = before ++ ⟨(task, mode), .cancelled⟩ :: after) :
      Step system (.resume task)
        (System.abandon { system with
          lock :=
            { system.lock with
              changed := system.lock.changed.leave before after _ split } } mode)

end Kestrel.Lock
