import Kestrel.Base.Event
import Mathlib.Data.List.Nodup

/-!
# Locks that suspended tasks queue for

A fair mutual-exclusion lock of a cooperative event loop. Releasing it schedules the first waiter,
and only a woken first waiter or a task that finds no waiting competitor takes it.
-/

/-- `asyncio.Lock`. A woken waiter's future has a result, and a cancelled one's is cancelled. -/
structure AsyncLock (Task : Type*) where
  locked : Bool
  waiters : List (Waiter Task)
  deriving DecidableEq

namespace AsyncLock

open List Waiter

variable {Task : Type*}

def initial : AsyncLock Task := ⟨false, []⟩

/-- `acquire` returns at once. -/
def free (lock : AsyncLock Task) : Bool :=
  !lock.locked && lock.waiters.all fun waiter => waiter.wake = .cancelled

def take (lock : AsyncLock Task) : AsyncLock Task := { lock with locked := true }

/-- `acquire` up to its wait. -/
def enqueue (lock : AsyncLock Task) (task : Task) : AsyncLock Task :=
  { lock with waiters := lock.waiters ++ [⟨task, .asleep⟩] }

def wakeUpFirst (lock : AsyncLock Task) : AsyncLock Task :=
  match lock.waiters with
  | [] => lock
  | first :: rest => { lock with waiters := first.rouse :: rest }

/-- `release`, where it does not raise. -/
def release (lock : AsyncLock Task) : Option (AsyncLock Task) :=
  if lock.locked then some (wakeUpFirst { lock with locked := false }) else none

section Queue

variable [DecidableEq Task]

/-- How the wait of a task goes on. -/
def wakeOf (lock : AsyncLock Task) (task : Task) : Option Wake :=
  (lock.waiters.find? fun waiter => waiter.call = task).map Waiter.wake

/-- A task's future leaves the queue. -/
def leave (lock : AsyncLock Task) (task : Task) : AsyncLock Task :=
  { lock with waiters := lock.waiters.eraseP fun waiter => waiter.call = task }

/-- `acquire` after a wait that was cancelled. -/
def abandon (lock : AsyncLock Task) (task : Task) : AsyncLock Task :=
  if lock.locked then lock.leave task else (lock.leave task).wakeUpFirst

def cancel (lock : AsyncLock Task) (task : Task) : AsyncLock Task :=
  { lock with
    waiters := lock.waiters.map fun waiter =>
      if waiter.call = task ∧ waiter.wake = .asleep then { waiter with wake := .cancelled }
      else waiter }

end Queue

/-- A free lock's first waiter is scheduled, and nobody else is woken. -/
structure Orderly (lock : AsyncLock Task) : Prop where
  distinct : (lock.waiters.map Waiter.call).Nodup
  prompted : lock.locked = false → ∀ first ∈ lock.waiters.head?, first.Scheduled
  granted : ∀ first ∈ lock.waiters.head?, first.wake = .woken → lock.locked = false
  first : ∀ waiter ∈ lock.waiters.tail, waiter.wake ≠ .woken

theorem Orderly.initial : Orderly (initial : AsyncLock Task) :=
  ⟨.nil, nofun, nofun, nofun⟩

variable {lock : AsyncLock Task}

theorem free_iff :
    lock.free = true ↔ lock.locked = false ∧ ∀ waiter ∈ lock.waiters, waiter.wake = .cancelled := by
  simp [free]

@[simp] theorem map_call_wakeUpFirst (lock : AsyncLock Task) :
    lock.wakeUpFirst.waiters.map call = lock.waiters.map call := by
  unfold wakeUpFirst
  cases waiters : lock.waiters <;> simp [waiters]

@[simp] theorem wakeUpFirst_locked (lock : AsyncLock Task) :
    lock.wakeUpFirst.locked = lock.locked := by
  unfold wakeUpFirst
  cases lock.waiters <;> rfl

theorem wakeUpFirst_tail (lock : AsyncLock Task) :
    lock.wakeUpFirst.waiters.tail = lock.waiters.tail := by
  unfold wakeUpFirst
  cases waiters : lock.waiters <;> simp [waiters]

theorem Orderly.wakeUpFirst (unlocked : lock.locked = false)
    (distinct : (lock.waiters.map call).Nodup)
    (first : ∀ waiter ∈ lock.waiters.tail, waiter.wake ≠ .woken) : Orderly lock.wakeUpFirst where
  distinct := by rwa [map_call_wakeUpFirst]
  prompted _ waiter head := by
    unfold AsyncLock.wakeUpFirst at head
    cases waiters : lock.waiters with
    | nil => simp [waiters] at head
    | cons front rest =>
      rw [waiters] at head
      cases head
      exact front.rouse_scheduled
  granted _ _ _ := by rw [wakeUpFirst_locked, unlocked]
  first := by rwa [wakeUpFirst_tail]

theorem Orderly.take {lock : AsyncLock Task} (orderly : lock.Orderly) (free : lock.free = true) :
    lock.take.Orderly where
  distinct := orderly.distinct
  prompted := nofun
  granted waiter head woken := by
    have cancelled := (free_iff.mp free).2 waiter (mem_of_head? head)
    rw [cancelled] at woken
    exact nomatch woken
  first := orderly.first

theorem Orderly.enqueue (orderly : lock.Orderly) {task : Task} (taken : lock.free = false)
    (absent : task ∉ lock.waiters.map call) :
    (lock.enqueue task).Orderly := by
  obtain ⟨locked, waiters⟩ := lock
  cases waiters with
  | nil =>
    have locked : locked = true := by simpa [free] using taken
    refine ⟨?_, ?_, ?_, ?_⟩ <;> simp [AsyncLock.enqueue, locked]
  | cons front rest =>
    refine ⟨?_, orderly.prompted, orderly.granted, ?_⟩
    · have distinct := orderly.distinct
      simp only [AsyncLock.enqueue, map_append, map_cons, map_nil] at distinct ⊢
      rw [nodup_append]
      refine ⟨distinct, by simp, ?_⟩
      intro call listed other same equal
      rw [mem_singleton] at same
      rw [equal, same] at listed
      exact absent listed
    · intro waiter behind
      rcases mem_append.mp behind with old | new
      · exact orderly.first waiter old
      · cases mem_singleton.mp new
        exact nofun

theorem Orderly.release {after : AsyncLock Task} (orderly : lock.Orderly)
    (released : lock.release = some after) : after.Orderly := by
  unfold AsyncLock.release at released
  split at released
  · cases released
    exact .wakeUpFirst rfl orderly.distinct orderly.first
  · exact nomatch released

theorem Orderly.woken (orderly : lock.Orderly) {waiter : Waiter Task}
    (listed : waiter ∈ lock.waiters) (woken : waiter.wake = .woken) :
    lock.locked = false ∧ lock.waiters.head? = some waiter := by
  cases waiters : lock.waiters with
  | nil =>
    rw [waiters] at listed
    exact nomatch listed
  | cons front rest =>
    have first := orderly.first
    have granted := orderly.granted
    rw [waiters] at listed first granted
    rcases mem_cons.mp listed with rfl | behind
    · exact ⟨granted waiter rfl woken, rfl⟩
    · exact absurd woken (first waiter behind)

section Queue

variable [DecidableEq Task] {lock : AsyncLock Task} {task : Task}

theorem exists_place (queued : task ∈ lock.waiters.map call) :
    ∃ before waiter after, lock.waiters = before ++ waiter :: after ∧ waiter.call = task ∧
      (lock.leave task).waiters = before ++ after ∧ lock.wakeOf task = some waiter.wake := by
  obtain ⟨known, listed, same⟩ := mem_map.mp queued
  obtain ⟨waiter, before, after, others, here, split, erased⟩ :=
    exists_of_eraseP (p := fun waiter => decide (waiter.call = task)) listed (decide_eq_true same)
  refine ⟨before, waiter, after, split, of_decide_eq_true here, erased, ?_⟩
  have absent : before.find? (fun waiter => decide (waiter.call = task)) = none :=
    find?_eq_none.mpr others
  rw [wakeOf, split, find?_append, absent, Option.none_or, find?_cons, here,
    Option.map_some]

theorem wakeOf_eq (distinct : (lock.waiters.map call).Nodup) {waiter : Waiter Task}
    (listed : waiter ∈ lock.waiters) : lock.wakeOf waiter.call = some waiter.wake := by
  obtain ⟨before, found, after, split, same, _, wake⟩ :=
    exists_place (mem_map_of_mem (f := call) listed)
  have here : found ∈ lock.waiters := by
    rw [split]
    exact mem_append_right _ mem_cons_self
  rw [wake, inj_on_of_nodup_map distinct here listed same]

theorem mem_calls_leave (distinct : (lock.waiters.map call).Nodup)
    (queued : task ∈ lock.waiters.map call) (other : Task) :
    other ∈ (lock.leave task).waiters.map call ↔
      other ∈ lock.waiters.map call ∧ other ≠ task := by
  obtain ⟨before, waiter, after, split, here, rest, _⟩ := exists_place queued
  rw [split, map_append, map_cons, nodup_middle, here, nodup_cons, mem_append] at distinct
  rw [rest, split, map_append, map_append, map_cons, here, mem_append, mem_append, mem_cons]
  constructor
  · intro listed
    refine ⟨listed.imp_right .inr, ?_⟩
    rintro rfl
    exact distinct.1 listed
  · rintro ⟨early | same | late, different⟩
    · exact .inl early
    · exact absurd same different
    · exact .inr late

theorem countP_calls_leave (queued : task ∈ lock.waiters.map call) (counts : Task → Bool) :
    ((lock.leave task).waiters.map call).countP counts + (if counts task then 1 else 0) =
      (lock.waiters.map call).countP counts := by
  obtain ⟨before, waiter, after, split, here, rest, _⟩ := exists_place queued
  rw [rest, split, map_append, map_append, map_cons, here, countP_append,
    countP_append, countP_cons]
  omega

@[simp] theorem map_call_abandon (lock : AsyncLock Task) (task : Task) :
    (lock.abandon task).waiters.map call = (lock.leave task).waiters.map call := by
  unfold abandon
  split
  · rfl
  · exact map_call_wakeUpFirst _

theorem abandon_locked (lock : AsyncLock Task) (task : Task) :
    (lock.abandon task).locked = lock.locked := by
  unfold abandon
  split
  · rfl
  · exact wakeUpFirst_locked _

theorem leave_sublist (lock : AsyncLock Task) (task : Task) :
    (lock.leave task).waiters.Sublist lock.waiters := eraseP_sublist

theorem Orderly.distinct_leave (orderly : lock.Orderly) (task : Task) :
    ((lock.leave task).waiters.map call).Nodup :=
  orderly.distinct.sublist ((leave_sublist lock task).map _)

theorem Orderly.first_leave (orderly : lock.Orderly) (task : Task) :
    ∀ waiter ∈ (lock.leave task).waiters.tail, waiter.wake ≠ .woken := by
  intro waiter behind
  refine orderly.first waiter ?_
  have shorter := (leave_sublist lock task).tail
  exact shorter.subset behind

theorem Orderly.abandon (orderly : lock.Orderly) (task : Task) : (lock.abandon task).Orderly := by
  unfold AsyncLock.abandon
  split
  next locked =>
    refine ⟨orderly.distinct_leave task, ?_, ?_, orderly.first_leave task⟩
    · intro unlocked
      have same : (lock.leave task).locked = lock.locked := rfl
      rw [same, locked] at unlocked
      exact nomatch unlocked
    · intro first head woken
      exact (orderly.woken ((leave_sublist lock task).subset (mem_of_head? head)) woken).1
  next unlocked =>
    exact .wakeUpFirst (Bool.eq_false_iff.mpr unlocked) (orderly.distinct_leave task)
      (orderly.first_leave task)

theorem Orderly.takeOver (orderly : lock.Orderly) (queued : task ∈ lock.waiters.map call)
    (woken : lock.wakeOf task = some .woken) :
    lock.locked = false ∧ (lock.leave task).take.Orderly := by
  obtain ⟨before, waiter, after, split, _, rest, wake⟩ := exists_place queued
  have roused : waiter.wake = .woken := Option.some.inj (wake.symm.trans woken)
  have listed : waiter ∈ lock.waiters := by
    rw [split]
    exact mem_append_right _ mem_cons_self
  obtain ⟨unlocked, head⟩ := orderly.woken listed roused
  refine ⟨unlocked, orderly.distinct_leave task, nofun, ?_, orderly.first_leave task⟩
  intro first front woken
  -- The woken waiter stood in front, so the new front was behind it.
  have behind : first ∈ lock.waiters.tail := by
    cases before with
    | nil =>
      have front : (lock.leave task).waiters.head? = some first := front
      rw [rest, nil_append] at front
      rw [split]
      exact mem_of_head? front
    | cons other before =>
      rw [split] at head
      cases head
      have distinct := orderly.distinct
      rw [split, map_append, map_cons, map_cons] at distinct
      exact absurd (mem_append_right _ mem_cons_self) (nodup_cons.mp distinct).1
  exact absurd woken (orderly.first first behind)

@[simp] theorem map_call_cancel (lock : AsyncLock Task) (task : Task) :
    (lock.cancel task).waiters.map call = lock.waiters.map call := by
  rw [cancel, map_map]
  refine map_congr_left fun waiter _ => ?_
  simp only [Function.comp_apply]
  split_ifs <;> rfl

theorem Orderly.cancel (orderly : lock.Orderly) (task : Task) : (lock.cancel task).Orderly := by
  have kept : ∀ waiter : Waiter Task, (if waiter.call = task ∧ waiter.wake = .asleep then
      { waiter with wake := .cancelled } else waiter).wake = .woken → waiter.wake = .woken := by
    intro waiter woken
    split_ifs at woken
    exact woken
  obtain ⟨locked, waiters⟩ := lock
  cases waiters with
  | nil => exact ⟨.nil, nofun, nofun, nofun⟩
  | cons front rest =>
    refine ⟨?_, ?_, ?_, ?_⟩
    · rw [map_call_cancel]
      exact orderly.distinct
    · intro unlocked first head
      cases head
      have scheduled := orderly.prompted unlocked front rfl
      dsimp only
      split_ifs
      · exact nofun
      · exact scheduled
    · intro first head woken
      cases head
      exact orderly.granted front rfl (kept front woken)
    · intro waiter behind
      obtain ⟨other, listed, rfl⟩ := mem_map.mp behind
      exact fun woken => orderly.first other listed (kept other woken)

end Queue

end AsyncLock
