import Kestrel.Signals.OrderedLocks
import Mathlib.Data.Finset.Max

/-!
# Freedom from deadlock

Every task takes its locks upwards, so the one that waits for the topmost lock waits for a task that
does not wait itself. A free lock with a queue has a scheduled waiter in front.
-/

namespace Kestrel.Signals

open List Function LockManager AsyncLock Waiter Phase

variable {Resource Task : Type} [DecidableEq Resource] {names : ResourceNames Resource}

section Order

theorem lockSortKey_injective (names : ResourceNames Resource) :
    Injective (lockSortKey names) := by
  intro first second same
  unfold lockSortKey at same
  split_ifs at same with first' second' second'
  · rw [first', second']
  · exact absurd (congrArg (fun key : ℕ ×ₗ String => (ofLex key).1) same) (by simp)
  · exact absurd (congrArg (fun key : ℕ ×ₗ String => (ofLex key).1) same) (by simp)
  · exact names.value_injective (congrArg (fun key : ℕ ×ₗ String => (ofLex key).2) same)

/-- Locks in the global order, each once. -/
def Increasing (names : ResourceNames Resource) (locks : List Resource) : Prop :=
  locks.Pairwise fun first second => lockSortKey names first < lockSortKey names second

theorem increasing_ordered (names : ResourceNames Resource) (wanted : List Resource) :
    Increasing names (ordered names wanted) := by
  have sorted : (ordered names wanted).Pairwise fun first second =>
      lockSortKey names first ≤ lockSortKey names second := pairwise_insertionSort _ _
  have distinct : (ordered names wanted).Nodup :=
    (perm_insertionSort _ _).nodup_iff.mpr (nodup_dedup wanted)
  refine (pairwise_and_iff.mpr ⟨sorted, distinct⟩).imp ?_
  rintro first second ⟨before, different⟩
  exact lt_of_le_of_ne before fun same => different (lockSortKey_injective names same)

/-- A task takes its locks in the global order. -/
def Phase.Ordered (names : ResourceNames Resource) : Phase Resource → Prop
  | .outside => True
  | .waiting acquired name rest _ _ => Increasing names (acquired.reverse ++ name :: rest)
  | .inside acquired => Increasing names acquired.reverse

theorem Phase.Ordered.acquired_lt {phase : Phase Resource} (ordered : phase.Ordered names)
    {name other : Resource} (awaits : phase.awaits = some name) (has : other ∈ phase.acquired) :
    lockSortKey names other < lockSortKey names name := by
  cases phase with
  | outside | inside => exact nomatch awaits
  | waiting acquired awaited rest counted cancelRequested =>
    cases awaits
    exact (pairwise_append.mp ordered).2.2 other (mem_reverse.mpr has) name mem_cons_self

end Order

namespace LockManager

/-- The locks, their queues and their holders agree with where the tasks stand. -/
structure Held (names : ResourceNames Resource) (manager : LockManager Resource Task) : Prop where
  orderly : ∀ name, (manager.locks name).Orderly
  queued : ∀ name task, task ∈ (manager.locks name).waiters.map Waiter.call ↔
    (manager.phases task).awaits = some name
  locked : ∀ name, (manager.locks name).locked = (manager.holders name).isSome
  holder : ∀ name task, manager.holders name = some task ↔ name ∈ (manager.phases task).acquired
  ordered : ∀ task, (manager.phases task).Ordered names
  finite : ∃ active : List Task, ∀ task, manager.phases task ≠ .outside → task ∈ active

/-- The table of waiters counts the waits that were counted. -/
def Counted (manager : LockManager Resource Task) : Prop :=
  ∀ name, manager.waiters name = ((manager.locks name).waiters.map Waiter.call).countP fun call =>
    (manager.phases call).counted

/-- What every step keeps. -/
structure Valid (names : ResourceNames Resource) (manager : LockManager Resource Task) : Prop
    extends Held names manager where
  counts : manager.Counted

theorem Valid.initial (names : ResourceNames Resource) :
    Valid names (initial : LockManager Resource Task) where
  orderly _ := .initial
  queued _ _ := by simp [LockManager.initial, AsyncLock.initial, Phase.awaits]
  locked _ := rfl
  holder _ _ := by simp [LockManager.initial, Phase.acquired]
  ordered _ := trivial
  finite := ⟨[], fun _ outside => absurd rfl outside⟩
  counts _ := rfl

section Moves

variable [DecidableEq Task] {manager : LockManager Resource Task} {task : Task}
  {name : Resource} {lock : AsyncLock Task} {holder : Option Task} {phase : Phase Resource}

structure Moves (names : ResourceNames Resource) (manager : LockManager Resource Task)
    (task : Task) (name : Resource) (lock : AsyncLock Task) (holder : Option Task)
    (phase : Phase Resource) : Prop where
  orderly : lock.Orderly
  queue : ∀ other, other ≠ task → (other ∈ lock.waiters.map Waiter.call ↔
    other ∈ (manager.locks name).waiters.map Waiter.call)
  place : task ∈ lock.waiters.map Waiter.call ↔ phase.awaits = some name
  elsewhere : ∀ other, other ≠ name → phase.awaits ≠ some other ∧
    (manager.phases task).awaits ≠ some other
  locked : lock.locked = holder.isSome
  keeps : ∀ other, other ≠ task → (holder = some other ↔ manager.holders name = some other)
  has : holder = some task ↔ name ∈ phase.acquired
  others : ∀ other, other ≠ name →
    (other ∈ phase.acquired ↔ other ∈ (manager.phases task).acquired)
  ordered : phase.Ordered names

def moved (manager : LockManager Resource Task) (task : Task) (name : Resource)
    (lock : AsyncLock Task) (holder : Option Task) (phase : Phase Resource)
    (waiters : Resource → ℕ) : LockManager Resource Task where
  locks := Function.update manager.locks name lock
  holders := Function.update manager.holders name holder
  waiters := waiters
  phases := Function.update manager.phases task phase

theorem Held.moved (held : Held names manager)
    (moves : Moves names manager task name lock holder phase) (waiters : Resource → ℕ) :
    Held names (manager.moved task name lock holder phase waiters) where
  orderly other := by
    unfold LockManager.moved
    by_cases same : other = name
    · subst same
      simpa using moves.orderly
    · simpa [same] using held.orderly other
  queued other waiter := by
    unfold LockManager.moved
    dsimp only
    by_cases same : other = name
    · subst same
      rw [update_self]
      by_cases self : waiter = task
      · subst self
        rw [update_self]
        exact moves.place
      · rw [update_of_ne self, moves.queue waiter self]
        exact held.queued other waiter
    · rw [update_of_ne same, held.queued other waiter]
      by_cases self : waiter = task
      · subst self
        rw [update_self]
        exact iff_of_false (moves.elsewhere other same).2 (moves.elsewhere other same).1
      · rw [update_of_ne self]
  locked other := by
    unfold LockManager.moved
    dsimp only
    by_cases same : other = name
    · subst same
      rw [update_self, update_self]
      exact moves.locked
    · rw [update_of_ne same, update_of_ne same]
      exact held.locked other
  holder other owner := by
    unfold LockManager.moved
    dsimp only
    by_cases same : other = name
    · subst same
      rw [update_self]
      by_cases self : owner = task
      · subst self
        rw [update_self]
        exact moves.has
      · rw [update_of_ne self, moves.keeps owner self]
        exact held.holder other owner
    · rw [update_of_ne same, held.holder other owner]
      by_cases self : owner = task
      · subst self
        rw [update_self]
        exact (moves.others other same).symm
      · rw [update_of_ne self]
  ordered other := by
    unfold LockManager.moved
    dsimp only
    by_cases self : other = task
    · subst self
      rw [update_self]
      exact moves.ordered
    · rw [update_of_ne self]
      exact held.ordered other
  finite := by
    obtain ⟨active, all⟩ := held.finite
    refine ⟨task :: active, fun other outside => ?_⟩
    by_cases self : other = task
    · exact mem_cons.mpr (.inl self)
    · refine mem_cons_of_mem _ (all other ?_)
      unfold LockManager.moved at outside
      dsimp only at outside
      rwa [update_of_ne self] at outside

omit [DecidableEq Resource] in
theorem countP_update {calls : List Task} (absent : task ∉ calls)
    (phases : Task → Phase Resource) (phase : Phase Resource) :
    (calls.countP fun call => (update phases task phase call).counted) =
      calls.countP fun call => (phases call).counted := by
  refine countP_congr fun call listed => ?_
  have different : call ≠ task := by
    rintro rfl
    exact absent listed
  rw [update_of_ne different]

theorem Counted.moved (held : Held names manager) (counts : manager.Counted)
    (moves : Moves names manager task name lock holder phase) {waiters : Resource → ℕ}
    (same : ∀ other, other ≠ name → waiters other = manager.waiters other)
    (here : waiters name = (lock.waiters.map call).countP fun call =>
      (update manager.phases task phase call).counted) :
    (manager.moved task name lock holder phase waiters).Counted := by
  intro other
  unfold LockManager.moved
  dsimp only
  by_cases spot : other = name
  · subst spot
    rw [update_self]
    exact here
  · rw [update_of_ne spot, same other spot, counts other]
    refine (countP_update ?_ _ _).symm
    rw [held.queued other task]
    exact (moves.elsewhere other spot).2

end Moves

section Steps

variable [DecidableEq Task] {manager : LockManager Resource Task} {task : Task}
  {name : Resource} {acquired rest : List Resource} {phase : Phase Resource}

theorem Valid.stand (valid : Valid names manager) (idle : (manager.phases task).awaits = none)
    (idle' : phase.awaits = none) (same : phase.acquired = (manager.phases task).acquired)
    (ordered : phase.Ordered names) :
    Valid names { manager with phases := update manager.phases task phase } where
  orderly := valid.orderly
  queued other waiter := by
    rw [valid.queued other waiter]
    dsimp only
    by_cases self : waiter = task
    · subst self
      rw [update_self, idle, idle']
    · rw [update_of_ne self]
  locked := valid.locked
  holder other owner := by
    rw [valid.holder other owner]
    dsimp only
    by_cases self : owner = task
    · subst self
      rw [update_self, same]
    · rw [update_of_ne self]
  ordered other := by
    dsimp only
    by_cases self : other = task
    · subst self
      rw [update_self]
      exact ordered
    · rw [update_of_ne self]
      exact valid.ordered other
  finite := by
    obtain ⟨active, all⟩ := valid.finite
    refine ⟨task :: active, fun other outside => ?_⟩
    by_cases self : other = task
    · exact mem_cons.mpr (.inl self)
    · dsimp only at outside
      rw [update_of_ne self] at outside
      exact mem_cons_of_mem _ (all other outside)
  counts other := by
    have absent : task ∉ (manager.locks other).waiters.map call := by
      rw [valid.queued other task, idle]
      exact nofun
    exact (valid.counts other).trans (countP_update absent _ _).symm

omit [DecidableEq Task] in
theorem Held.holders_eq_none (held : Held names manager)
    (unlocked : (manager.locks name).locked = false) : manager.holders name = none := by
  rw [held.locked name] at unlocked
  exact Option.isNone_iff_eq_none.mp (by rw [← Option.not_isSome, unlocked]; rfl)

theorem Valid.grant (valid : Valid names manager)
    (stands : manager.phases task = .inside acquired) (free : (manager.locks name).free = true)
    (increasing : Increasing names (acquired.reverse ++ [name])) :
    Valid names (manager.grant task acquired name (manager.locks name)) := by
  have unlocked := (free_iff.mp free).1
  have nobody := valid.holders_eq_none unlocked
  have absent : task ∉ (manager.locks name).waiters.map call := by
    rw [valid.queued, stands]
    exact nofun
  have moves : Moves names manager task name (manager.locks name).take (some task)
      (.inside (name :: acquired)) := by
    refine ⟨(valid.orderly name).take free, fun _ _ => Iff.rfl, ?_, ?_, rfl, ?_, ?_, ?_, ?_⟩
    · exact iff_of_false absent nofun
    · intro other _
      rw [stands]
      exact ⟨nofun, nofun⟩
    · intro other different
      rw [nobody]
      exact iff_of_false (fun same => different (Option.some.inj same).symm) nofun
    · exact iff_of_true rfl mem_cons_self
    · intro other different
      rw [stands]
      exact mem_cons.trans (or_iff_right different)
    · rw [Ordered, reverse_cons]
      exact increasing
  refine ⟨valid.toHeld.moved moves manager.waiters, valid.counts.moved valid.toHeld moves
    (fun _ _ => rfl) ?_⟩
  exact (valid.counts name).trans (countP_update absent _ _).symm

theorem Valid.wait (valid : Valid names manager)
    (stands : manager.phases task = .inside acquired) (taken : (manager.locks name).free = false)
    (increasing : Increasing names (acquired.reverse ++ name :: rest)) :
    Valid names (manager.wait task acquired name rest) := by
  have absent : task ∉ (manager.locks name).waiters.map call := by
    rw [valid.queued, stands]
    rintro ⟨⟩
  have moves : Moves names manager task name ((manager.locks name).enqueue task)
      (manager.holders name)
      (.waiting acquired name rest (manager.locks name).locked false) := by
    refine ⟨(valid.orderly name).enqueue taken absent, ?_, ?_, ?_, valid.locked name,
      fun _ _ => Iff.rfl, ?_, ?_, increasing⟩
    · intro other different
      simp [enqueue, different]
    · simp [enqueue, awaits]
    · intro other different
      rw [stands]
      exact ⟨fun same => different (Option.some.inj same).symm, by rintro ⟨⟩⟩
    · rw [valid.holder, stands]
      rfl
    · intro other _
      rw [stands]
      rfl
  have same : manager.wait task acquired name rest = manager.moved task name
      ((manager.locks name).enqueue task) (manager.holders name)
      (.waiting acquired name rest (manager.locks name).locked false)
      (if (manager.locks name).locked then
        update manager.waiters name (manager.waiters name + 1) else manager.waiters) := by
    unfold LockManager.wait moved
    rw [update_eq_self]
  rw [same]
  refine ⟨valid.toHeld.moved moves _, valid.counts.moved valid.toHeld moves ?_ ?_⟩
  · intro other different
    split_ifs
    · exact update_of_ne different _ _
    · rfl
  · rw [enqueue, map_append, countP_append, countP_update absent, ← valid.counts name]
    cases (manager.locks name).locked <;> simp [counted]

theorem Valid.acquireFrom (valid : Valid names manager)
    (stands : manager.phases task = .inside acquired)
    (increasing : Increasing names (acquired.reverse ++ rest)) :
    Valid names (manager.acquireFrom task acquired rest) := by
  induction rest generalizing manager acquired with
  | nil => exact valid
  | cons name rest ih =>
    unfold acquireFrom
    split
    next free =>
      have first : Increasing names (acquired.reverse ++ [name]) := by
        refine increasing.sublist ?_
        exact (Sublist.refl _).append (Sublist.cons_cons _ (nil_sublist _))
      refine ih (valid.grant stands free first) ?_ ?_
      · exact update_self _ _ _
      · rw [reverse_cons, append_assoc]
        exact increasing
    next taken => exact valid.wait stands (Bool.eq_false_iff.mpr taken) increasing

theorem Valid.releaseAll (valid : Valid names manager)
    (stands : manager.phases task = .inside acquired) :
    ∃ next, manager.releaseAll task acquired = some next ∧ Valid names next := by
  induction acquired generalizing manager with
  | nil =>
    refine ⟨_, rfl, valid.stand ?_ rfl ?_ trivial⟩
    · rw [stands]
      rfl
    · rw [stands]
      rfl
  | cons name acquired ih =>
    have holder : manager.holders name = some task := by
      rw [valid.holder, stands]
      exact mem_cons_self
    have locked : (manager.locks name).locked = true := by
      rw [valid.locked, holder]
      rfl
    have absent : task ∉ (manager.locks name).waiters.map call := by
      rw [valid.queued, stands]
      exact nofun
    have descending := valid.ordered task
    rw [stands, Ordered, reverse_cons] at descending
    obtain ⟨released, freed⟩ : ∃ lock, (manager.locks name).release = some lock :=
      ⟨_, if_pos locked⟩
    have calls : released.waiters.map call = (manager.locks name).waiters.map call := by
      unfold release at freed
      rw [if_pos locked] at freed
      cases freed
      rw [map_call_wakeUpFirst]
    have unlocked : released.locked = false := by
      unfold release at freed
      rw [if_pos locked] at freed
      cases freed
      rw [wakeUpFirst_locked]
    have moves : Moves names manager task name released none (.inside acquired) := by
      refine ⟨(valid.orderly name).release freed, ?_, ?_, ?_, unlocked, ?_, ?_, ?_, ?_⟩
      · intro other _
        rw [calls]
      · rw [calls]
        exact iff_of_false absent nofun
      · intro other _
        rw [stands]
        exact ⟨nofun, nofun⟩
      · intro other different
        rw [holder]
        exact iff_of_false nofun fun same => different (Option.some.inj same).symm
      · refine iff_of_false nofun fun twice => ?_
        have below := (pairwise_append.mp descending).2.2 name
          (mem_reverse.mpr twice) name (mem_singleton_self _)
        exact lt_irrefl _ below
      · intro other different
        rw [stands]
        exact (mem_cons.trans (or_iff_right different)).symm
      · exact (pairwise_append.mp descending).1
    have after : Valid names (manager.moved task name released none (.inside acquired)
        manager.waiters) := by
      refine ⟨valid.toHeld.moved moves _, valid.counts.moved valid.toHeld moves (fun _ _ => rfl) ?_⟩
      rw [valid.counts name, calls, countP_update absent]
    obtain ⟨next, rest, valid⟩ := ih after (update_self _ _ _)
    refine ⟨next, ?_, valid⟩
    rw [releaseAll, freed]
    exact rest

end Steps

section Resumption

variable [DecidableEq Task] {manager : LockManager Resource Task} {task : Task}
  {name : Resource} {acquired rest : List Resource} {counted cancelRequested : Bool}
  {lock : AsyncLock Task} {holder : Option Task} {phase : Phase Resource}

theorem Valid.leaveQueue (valid : Valid names manager)
    (stands : manager.phases task = .waiting acquired name rest counted cancelRequested)
    (idle : phase.awaits = none)
    (calls : lock.waiters.map call =
      ((manager.locks name).leave task).waiters.map call)
    (orderly : lock.Orderly) (locked : lock.locked = holder.isSome)
    (keeps : ∀ other, other ≠ task → (holder = some other ↔ manager.holders name = some other))
    (has : holder = some task ↔ name ∈ phase.acquired)
    (others : ∀ other, other ≠ name → (other ∈ phase.acquired ↔ other ∈ acquired))
    (ordered : phase.Ordered names) :
    Valid names (manager.moved task name lock holder phase
      (manager.uncount name counted).waiters) := by
  have queued : task ∈ (manager.locks name).waiters.map call := by
    rw [valid.queued, stands]
    rfl
  have left := mem_calls_leave (valid.orderly name).distinct queued
  have absent : task ∉ lock.waiters.map call := by
    rw [calls, left]
    exact fun both => both.2 rfl
  have moves : Moves names manager task name lock holder phase := by
    refine ⟨orderly, ?_, ?_, ?_, locked, keeps, has, ?_, ordered⟩
    · intro other different
      rw [calls, left]
      exact and_iff_left different
    · rw [idle]
      exact iff_of_false absent nofun
    · intro other different
      rw [idle, stands]
      exact ⟨nofun, fun same => different (Option.some.inj same).symm⟩
    · rw [stands]
      exact others
  refine ⟨valid.toHeld.moved moves _, valid.counts.moved valid.toHeld moves ?_ ?_⟩
  · intro other different
    unfold uncount
    split_ifs
    · exact update_of_ne different _ _
    · rfl
  · have count := countP_calls_leave queued fun call => (manager.phases call).counted
    have own : (manager.phases task).counted = counted := by
      rw [stands]
      rfl
    rw [← valid.counts name] at count
    rw [countP_update absent, calls]
    cases counted with
    | false => simpa [uncount, own] using count.symm
    | true =>
      simp only [uncount, if_true, update_self]
      simp only [own, if_true] at count
      omega

theorem Valid.takeOver (valid : Valid names manager)
    (stands : manager.phases task = .waiting acquired name rest counted cancelRequested)
    (woken : (manager.locks name).wakeOf task = some .woken) :
    Valid names (((manager.uncount name counted).grant task acquired name
      ((manager.locks name).leave task)).acquireFrom task (name :: acquired) rest) := by
  have queued : task ∈ (manager.locks name).waiters.map call := by
    rw [valid.queued, stands]
    rfl
  obtain ⟨unlocked, orderly⟩ := (valid.orderly name).takeOver queued woken
  have nobody := valid.holders_eq_none unlocked
  have increasing := valid.ordered task
  rw [stands] at increasing
  have first : Increasing names (name :: acquired).reverse := by
    rw [reverse_cons]
    refine increasing.sublist ?_
    exact (Sublist.refl _).append (Sublist.cons_cons _ (nil_sublist _))
  have taken : Valid names (manager.moved task name ((manager.locks name).leave task).take
      (some task) (.inside (name :: acquired)) (manager.uncount name counted).waiters) := by
    refine valid.leaveQueue stands rfl rfl orderly rfl ?_ ?_ ?_ first
    · intro other different
      rw [nobody]
      exact iff_of_false (fun same => different (Option.some.inj same).symm) nofun
    · exact iff_of_true rfl mem_cons_self
    · intro other different
      exact mem_cons.trans (or_iff_right different)
  have same : (manager.uncount name counted).grant task acquired name
      ((manager.locks name).leave task) = manager.moved task name
        ((manager.locks name).leave task).take (some task) (.inside (name :: acquired))
        (manager.uncount name counted).waiters := by
    cases counted <;> rfl
  rw [same]
  refine taken.acquireFrom (update_self _ _ _) ?_
  rw [reverse_cons, append_assoc]
  exact increasing

theorem Valid.abandon (valid : Valid names manager)
    (stands : manager.phases task = .waiting acquired name rest counted cancelRequested) :
    ∃ next, LockManager.releaseAll { manager.uncount name counted with
          locks := Function.update (manager.uncount name counted).locks name
            ((manager.locks name).abandon task)
          phases := Function.update (manager.uncount name counted).phases task
            (.inside acquired) } task acquired = some next ∧
      Valid names next := by
  have increasing := valid.ordered task
  rw [stands] at increasing
  have below := (pairwise_append.mp increasing).2.2
  have left : Valid names (manager.moved task name ((manager.locks name).abandon task)
      (manager.holders name) (.inside acquired) (manager.uncount name counted).waiters) := by
    refine valid.leaveQueue stands rfl (map_call_abandon _ _)
      ((valid.orderly name).abandon task) ?_ (fun _ _ => Iff.rfl) ?_ (fun _ _ => Iff.rfl)
      (pairwise_append.mp increasing).1
    · rw [abandon_locked, valid.locked]
    · rw [valid.holder, stands]
      rfl
  have same : ({ manager.uncount name counted with
      locks := update (manager.uncount name counted).locks name
        ((manager.locks name).abandon task)
      phases := update (manager.uncount name counted).phases task
        (.inside acquired) } : LockManager Resource Task) =
        manager.moved task name ((manager.locks name).abandon task) (manager.holders name)
          (.inside acquired) (manager.uncount name counted).waiters := by
    unfold moved
    rw [update_eq_self]
    cases counted <;> rfl
  rw [same]
  exact left.releaseAll (update_self _ _ _)

theorem Valid.cancel (valid : Valid names manager)
    (stands : manager.phases task = .waiting acquired name rest counted cancelRequested) :
    Valid names { manager with
      locks := update manager.locks name ((manager.locks name).cancel task)
      phases := update manager.phases task (.waiting acquired name rest counted true) } := by
  have increasing := valid.ordered task
  rw [stands] at increasing
  have moves : Moves names manager task name ((manager.locks name).cancel task)
      (manager.holders name) (.waiting acquired name rest counted true) := by
    refine ⟨(valid.orderly name).cancel task, ?_, ?_, ?_, valid.locked name,
      fun _ _ => Iff.rfl, ?_, ?_, increasing⟩
    · intro other _
      rw [map_call_cancel]
    · rw [map_call_cancel, valid.queued, stands]
      rfl
    · intro other different
      rw [stands]
      exact ⟨fun same => different (Option.some.inj same).symm,
        fun same => different (Option.some.inj same).symm⟩
    · rw [valid.holder, stands]
      rfl
    · intro other _
      rw [stands]
      rfl
  have moved : Valid names (manager.moved task name ((manager.locks name).cancel task)
      (manager.holders name) (.waiting acquired name rest counted true) manager.waiters) := by
    refine ⟨valid.toHeld.moved moves _, valid.counts.moved valid.toHeld moves (fun _ _ => rfl) ?_⟩
    rw [valid.counts name, map_call_cancel]
    refine countP_congr fun call _ => ?_
    by_cases self : call = task
    · subst self
      rw [update_self, stands]
      rfl
    · rw [update_of_ne self]
  unfold LockManager.moved at moved
  rwa [update_eq_self] at moved

end Resumption

section Runs

variable [DecidableEq Task] {manager after : LockManager Resource Task}
  {label : LockLabel Resource Task}

theorem Valid.step (valid : Valid names manager)
    (stepped : manager.step names label = some after) : Valid names after := by
  cases label with
  | acquire task wanted =>
    unfold step at stepped
    cases stands : manager.phases task with
    | waiting | inside =>
      simp only [stands] at stepped
      exact nomatch stepped
    | outside =>
      simp only [stands] at stepped
      cases stepped
      have inside : Valid names { manager with
          phases := Function.update manager.phases task (.inside []) } := by
        refine valid.stand ?_ rfl ?_ .nil
        all_goals
          rw [stands]
          rfl
      exact inside.acquireFrom (update_self _ _ _) (increasing_ordered names wanted)
  | resume task =>
    unfold step at stepped
    cases stands : manager.phases task with
    | outside | inside =>
      simp only [stands] at stepped
      exact nomatch stepped
    | waiting acquired name rest counted cancelRequested =>
      simp only [stands] at stepped
      cases wake : (manager.locks name).wakeOf task with
      | none =>
        simp only [wake] at stepped
        exact nomatch stepped
      | some wakes =>
        cases wakes with
        | asleep =>
          simp only [wake] at stepped
          exact nomatch stepped
        | cancelled =>
          simp only [wake, true_or, if_true] at stepped
          obtain ⟨next, released, valid⟩ := valid.abandon stands
          cases stepped.symm.trans released
          exact valid
        | woken =>
          cases cancelRequested with
          | true =>
            simp only [wake, or_true, if_true] at stepped
            obtain ⟨next, released, valid⟩ := valid.abandon stands
            cases stepped.symm.trans released
            exact valid
          | false =>
            simp only [wake, reduceCtorEq, Bool.false_eq_true, or_self, if_false] at stepped
            cases stepped
            exact valid.takeOver stands wake
  | cancel task =>
    unfold step at stepped
    cases stands : manager.phases task with
    | outside | inside =>
      simp only [stands] at stepped
      cases stepped
      exact valid
    | waiting acquired name rest counted cancelRequested =>
      simp only [stands] at stepped
      cases stepped
      exact valid.cancel stands
  | leave task =>
    unfold step at stepped
    cases stands : manager.phases task with
    | outside | waiting =>
      simp only [stands] at stepped
      exact nomatch stepped
    | inside acquired =>
      simp only [stands] at stepped
      obtain ⟨next, released, valid⟩ := valid.releaseAll stands
      cases stepped.symm.trans released
      exact valid

/-- A step that a task makes on its own: a wait goes on, or a body is left. -/
def GoesOn (names : ResourceNames Resource) (manager : LockManager Resource Task) (task : Task) :
    Prop :=
  ∃ after, manager.step names (.resume task) = some after ∨
    manager.step names (.leave task) = some after

theorem Valid.goesOn_waiter (valid : Valid names manager) {name : Resource}
    {waiter : Waiter Task} (listed : waiter ∈ (manager.locks name).waiters)
    (scheduled : waiter.Scheduled) : GoesOn names manager waiter.call := by
  have queued := mem_map_of_mem (f := call) listed
  have awaits := (valid.queued name waiter.call).mp queued
  cases stands : manager.phases waiter.call with
  | outside | inside =>
    rw [stands] at awaits
    exact nomatch awaits
  | waiting acquired awaited rest counted cancelRequested =>
    rw [stands] at awaits
    cases awaits
    have wake := wakeOf_eq (valid.orderly name).distinct listed
    obtain ⟨next, released, _⟩ := valid.abandon stands
    have interrupted : waiter.wake = .cancelled ∨ cancelRequested = true ∨
        waiter.wake = .woken ∧ cancelRequested = false := by
      cases wakes : waiter.wake with
      | asleep => exact absurd wakes scheduled
      | woken => cases cancelRequested <;> simp
      | cancelled => exact .inl rfl
    rcases interrupted with cancelled | rfl | ⟨woken, rfl⟩
    · refine ⟨next, .inl ?_⟩
      simp only [LockManager.step, stands, wake, cancelled, true_or, if_true]
      exact released
    · refine ⟨next, .inl ?_⟩
      cases wakes : waiter.wake with
      | asleep => exact absurd wakes scheduled
      | woken | cancelled =>
        simp only [LockManager.step, stands, wake, wakes, or_true, if_true]
        exact released
    · refine ⟨((manager.uncount name counted).grant waiter.call acquired name
        ((manager.locks name).leave waiter.call)).acquireFrom waiter.call
          (name :: acquired) rest, .inl ?_⟩
      simp [LockManager.step, stands, wake, woken, reduceCtorEq, Bool.false_eq_true, or_self]

theorem Valid.goesOn_holder (valid : Valid names manager) {name : Resource} {task : Task}
    (holds : manager.holders name = some task) (idle : (manager.phases task).awaits = none) :
    GoesOn names manager task := by
  have has := (valid.holder name task).mp holds
  cases stands : manager.phases task with
  | outside =>
    rw [stands] at has
    exact nomatch has
  | waiting =>
    rw [stands] at idle
    exact nomatch idle
  | inside acquired =>
    obtain ⟨next, released, _⟩ := valid.releaseAll stands
    refine ⟨next, .inr ?_⟩
    unfold LockManager.step
    simp only [stands]
    exact released

omit [DecidableEq Task] in
theorem Valid.exists_topmost (valid : Valid names manager) {waiting : Task}
    (waits : (manager.phases waiting).awaits ≠ none) :
    ∃ name, (∃ task, (manager.phases task).awaits = some name) ∧
      ∀ other task, (manager.phases task).awaits = some other →
        lockSortKey names other ≤ lockSortKey names name := by
  obtain ⟨active, all⟩ := valid.finite
  let awaited : Finset Resource :=
    (active.filterMap fun task => (manager.phases task).awaits).toFinset
  have mem_awaited : ∀ name, name ∈ awaited ↔ ∃ task, (manager.phases task).awaits = some name := by
    intro name
    rw [mem_toFinset, mem_filterMap]
    refine ⟨fun ⟨task, _, awaits⟩ => ⟨task, awaits⟩, fun ⟨task, awaits⟩ => ⟨task, ?_, awaits⟩⟩
    refine all task fun outside => ?_
    rw [outside] at awaits
    exact nomatch awaits
  obtain ⟨first, awaits⟩ := Option.ne_none_iff_exists'.mp waits
  obtain ⟨name, listed, topmost⟩ := awaited.exists_max_image (lockSortKey names)
    ⟨first, (mem_awaited first).mpr ⟨waiting, awaits⟩⟩
  refine ⟨name, (mem_awaited name).mp listed, fun other task awaits => ?_⟩
  exact topmost other ((mem_awaited other).mpr ⟨task, awaits⟩)

theorem Valid.goesOn (valid : Valid names manager) {waiting : Task}
    (waits : (manager.phases waiting).awaits ≠ none) : ∃ task, GoesOn names manager task := by
  obtain ⟨name, awaits, topmost⟩ := valid.exists_topmost waits
  obtain ⟨last, awaits⟩ := awaits
  have queued := (valid.queued name last).mpr awaits
  cases locked : (manager.locks name).locked with
  | false =>
    -- The front of the queue of a free lock is scheduled.
    obtain ⟨front, head⟩ : ∃ front, (manager.locks name).waiters.head? = some front := by
      cases waiters : (manager.locks name).waiters with
      | nil =>
        rw [waiters] at queued
        exact nomatch queued
      | cons front rest => exact ⟨front, rfl⟩
    exact ⟨front.call, valid.goesOn_waiter (mem_of_head? head)
      ((valid.orderly name).prompted locked front head)⟩
  | true =>
    -- The holder of the topmost lock has no lock to wait for above it.
    rw [valid.locked name] at locked
    obtain ⟨holder, holds⟩ := Option.isSome_iff_exists.mp locked
    refine ⟨holder, valid.goesOn_holder holds ?_⟩
    by_contra waits
    obtain ⟨above, awaits⟩ := Option.ne_none_iff_exists'.mp waits
    have has := (valid.holder name holder).mp holds
    have below := (valid.ordered holder).acquired_lt awaits has
    exact absurd below (not_lt_of_ge (topmost above holder awaits))

omit [DecidableEq Task] in
theorem Valid.idle (valid : Valid names manager)
    (outside : ∀ task, manager.phases task = .outside) (name : Resource) :
    manager.locks name = .initial ∧ manager.holders name = none ∧ manager.waiters name = 0 := by
  have nobody : manager.holders name = none := by
    cases holds : manager.holders name with
    | none => rfl
    | some holder =>
      have has := (valid.holder name holder).mp holds
      rw [outside holder] at has
      exact nomatch has
  have empty : (manager.locks name).waiters = [] := by
    cases waiters : (manager.locks name).waiters with
    | nil => rfl
    | cons front rest =>
      have awaits := (valid.queued name front.call).mp (by rw [waiters]; exact .head _)
      rw [outside front.call] at awaits
      exact nomatch awaits
  have unlocked := valid.locked name
  have count := valid.counts name
  rw [nobody] at unlocked
  rw [empty] at count
  refine ⟨?_, nobody, count⟩
  cases lock : manager.locks name with
  | mk locked waiters =>
    rw [lock] at unlocked empty
    cases empty
    cases unlocked
    rfl

theorem valid_of_run {labels : List (LockLabel Resource Task)}
    (run : Transition.Run (fun source label target => source.step names label = some target)
      initial labels manager) : Valid names manager :=
  run.invariant (fun _ _ _ valid stepped => valid.step stepped) (Valid.initial names)

private def sampleNames : ResourceNames Bool where
  conversation := true
  value name := if name then "conversation" else "memory"
  value_injective := by decide

private def sampleLabels : List (LockLabel Bool ℕ) :=
  [.acquire 0 [true, false, true], .acquire 1 [true, false], .cancel 1]

/-- A task waits for a lock that another one has. -/
def WaitsFor (manager : LockManager Resource Task) (task other : Task) : Prop :=
  ∃ name, (manager.phases task).awaits = some name ∧ name ∈ (manager.phases other).acquired

/-- **Locks exclude each other and no wait goes around**: in every run a lock has one holder, which
the table of holders names, and no chain of waits leads back to its start. -/
theorem locks_exclusive {labels : List (LockLabel Resource Task)}
    (run : Transition.Run (fun source label target => source.step names label = some target)
      initial labels manager) :
    (∀ name task, name ∈ (manager.phases task).acquired →
      (manager.locks name).locked = true ∧ manager.holders name = some task ∧
        ∀ other, name ∈ (manager.phases other).acquired → other = task) ∧
    ∀ task, ¬ Relation.TransGen manager.WaitsFor task task := by
  have valid := valid_of_run run
  refine ⟨?_, ?_⟩
  · intro name task has
    have holds := (valid.holder name task).mpr has
    refine ⟨by rw [valid.locked, holds, Option.isSome_some], holds, ?_⟩
    intro other has'
    exact Option.some_inj.mp (((valid.holder name other).mpr has').symm.trans holds)
  · -- Along a chain of waits the awaited locks come later and later in the order.
    have later : ∀ {task other name}, Relation.TransGen manager.WaitsFor task other →
        (manager.phases other).awaits = some name → ∃ first,
          (manager.phases task).awaits = some first ∧
            lockSortKey names first < lockSortKey names name := by
      intro task other name chain
      induction chain generalizing name with
      | single waits =>
        intro awaits
        obtain ⟨first, awaited, has⟩ := waits
        exact ⟨first, awaited, (valid.ordered _).acquired_lt awaits has⟩
      | tail _ waits ih =>
        intro awaits
        obtain ⟨middle, awaited, has⟩ := waits
        obtain ⟨first, started, before⟩ := ih awaited
        exact ⟨first, started, before.trans ((valid.ordered _).acquired_lt awaits has)⟩
    intro task chain
    obtain ⟨_, ⟨name, awaits, _⟩, _⟩ := Relation.TransGen.head'_iff.mp chain
    obtain ⟨first, same, before⟩ := later chain awaits
    cases awaits.symm.trans same
    exact lt_irrefl _ before

theorem locks_exclusive_sample : ∃ manager : LockManager Bool ℕ,
    Transition.Run (fun source label target => source.step sampleNames label = some target)
      initial sampleLabels manager ∧ manager.WaitsFor 1 0 ∧
        ¬ Relation.TransGen manager.WaitsFor 1 1 := by
  refine ⟨_, .of_foldlM rfl, ⟨false, rfl, by decide⟩, ?_⟩
  exact (@locks_exclusive _ _ _ sampleNames _ _ sampleLabels (.of_foldlM rfl)).2 1

end Runs

end LockManager

end Kestrel.Signals
