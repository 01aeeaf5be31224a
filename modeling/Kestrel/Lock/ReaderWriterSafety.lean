import Kestrel.Lock.ReaderWriter
import Mathlib.Algebra.Order.Group.Nat

/-!
# Safety and wake-ups of the reader/writer lock

A writer that sleeps does so behind an owner, and a reader that sleeps behind an owner or a queued
writer. Every owner and every writer that leaves sets the event, so no wake-up is lost.
-/

namespace Kestrel.Lock

open List RwLock Nat Event

variable {Task : Type*}

def writersOf (event : Event (Task × Mode)) : ℕ :=
  (event.waiters.map Waiter.call).countP fun call => call.2 = .write

@[simp] theorem writersOf_set (event : Event (Task × Mode)) : writersOf event.set = writersOf event := by
  unfold writersOf
  rw [map_call_set]

theorem writersOf_clearAndWait (event : Event (Task × Mode)) (task : Task) (mode : Mode) :
    writersOf (event.clearAndWait (task, mode)) =
      writersOf event + if mode = .write then 1 else 0 := by
  unfold writersOf clearAndWait
  rw [map_append, countP_append]
  cases mode <;> simp

variable {before after : List (Waiter (Task × Mode))} {waiter : Waiter (Task × Mode)}
  {lock : RwLock Task} {system : System Task}

theorem writersOf_leave (event : Event (Task × Mode))
    (split : event.waiters = before ++ waiter :: after) :
    writersOf event = writersOf (event.leave before after waiter split) +
      if waiter.call.2 = .write then 1 else 0 := by
  unfold writersOf leave
  rw [split, map_append, map_append, map_cons, countP_append, countP_append, countP_cons]
  simp only [decide_eq_true_eq]
  omega

theorem writersOf_cancel (event : Event (Task × Mode))
    (split : event.waiters = before ++ waiter :: after) :
    writersOf (event.cancel before after waiter split) = writersOf event := by
  unfold writersOf cancel
  rw [split]
  simp only [map_append, map_cons]

/-- The counters tell the leases, and the queued writers besides `entering` ones. -/
structure Counts (entering : ℕ) (system : System Task) : Prop where
  readers : system.lock.readers = system.reading.length
  writer : system.lock.writer = true ↔ system.writing ≠ []
  single : system.writing.length ≤ 1
  exclusive : system.writing ≠ [] → system.reading = []
  queued : system.lock.waitingWriters = writersOf system.lock.changed + entering

/-- What every step keeps: a sleeper behind a free lock has a scheduled writer before it. -/
structure Valid (system : System Task) : Prop extends Counts 0 system where
  prompted : system.lock.locked = false →
    (∃ waiter ∈ system.lock.changed.waiters, ¬ waiter.Scheduled) →
    ∃ waiter ∈ system.lock.changed.waiters, waiter.Scheduled ∧ waiter.call.2 = .write

theorem locked_eq_false : lock.locked = false ↔ lock.writer = false ∧ lock.readers = 0 := by
  unfold locked
  rw [Bool.or_eq_false_iff, decide_eq_false_iff_not, not_lt, le_zero]

theorem Counts.reading_eq_nil {entering : ℕ} (counts : Counts entering system)
    (free : system.lock.locked = false) : system.writing = [] ∧ system.reading = [] := by
  obtain ⟨noWriter, noReaders⟩ := locked_eq_false.mp free
  refine ⟨?_, ?_⟩
  · by_contra writing
    rw [counts.writer.mpr writing] at noWriter
    cases noWriter
  · rw [counts.readers] at noReaders
    exact length_eq_zero_iff.mp noReaders

theorem valid_of_set (counts : Counts 0 system) {event : Event (Task × Mode)}
    (set : system.lock.changed = event.set) : Valid system := by
  refine ⟨counts, ?_⟩
  rintro _ ⟨waiter, member, asleep⟩
  rw [set] at member
  exact absurd (event.scheduled_of_mem_set waiter member) asleep

theorem valid_wrote (counts : Counts 1 system) (task : Task) :
    Valid (system.wrote task (system.lock.acquireLoop task)) := by
  unfold System.wrote acquireLoop
  by_cases free : system.lock.writer = false ∧ system.lock.readers = 0
  · rw [if_pos free]
    obtain ⟨noWriting, noReading⟩ := counts.reading_eq_nil (locked_eq_false.mpr free)
    refine valid_of_set ⟨counts.readers, ?_, ?_, fun _ => noReading, ?_⟩ rfl
    · exact iff_of_true rfl (cons_ne_nil _ _)
    · simp [noWriting]
    · change system.lock.waitingWriters - 1 = writersOf system.lock.changed.set + 0
      rw [writersOf_set, counts.queued]
      rfl
  · rw [if_neg free]
    refine ⟨⟨counts.readers, counts.writer, counts.single, counts.exclusive, ?_⟩, ?_⟩
    · change system.lock.waitingWriters = writersOf (system.lock.changed.clearAndWait _) + 0
      rw [writersOf_clearAndWait, counts.queued]
      rfl
    · intro unlocked
      exact absurd (locked_eq_false.mp unlocked) free

theorem tryAcquireRead_eq_some {after : RwLock Task} (admitted : lock.tryAcquireRead = some after) :
    lock.writer = false ∧ lock.waitingWriters = 0 ∧
      after = { lock with readers := lock.readers + 1 } := by
  unfold tryAcquireRead at admitted
  by_cases blocked : lock.writer = true ∨ 0 < lock.waitingWriters
  · rw [if_pos blocked] at admitted
    cases admitted
  · rw [if_neg blocked] at admitted
    obtain ⟨noWriter, noQueue⟩ := not_or.mp blocked
    exact ⟨Bool.eq_false_iff.mpr noWriter, le_zero.mp (not_lt.mp noQueue),
      (Option.some.inj admitted).symm⟩

theorem valid_admitted (valid : Valid system) (admitted : system.lock.tryAcquireRead = some lock)
    (task : Task) :
    Valid (system.read task (lock, true)) := by
  obtain ⟨noWriter, _, rfl⟩ := tryAcquireRead_eq_some admitted
  have noWriting : system.writing = [] := by
    by_contra writing
    rw [valid.writer.mpr writing] at noWriter
    cases noWriter
  refine ⟨⟨?_, valid.writer, valid.single, fun writing => absurd noWriting writing,
    valid.queued⟩, ?_⟩
  · change system.lock.readers + 1 = (task :: system.reading).length
    rw [valid.readers]
    rfl
  · intro unlocked
    exact absurd (locked_eq_false.mp unlocked).2 (succ_ne_zero _)

theorem valid_read (valid : Valid system) (task : Task) :
    Valid (system.read task (system.lock.acquireRead task)) := by
  unfold acquireRead
  cases admitted : system.lock.tryAcquireRead with
  | some lock => exact valid_admitted valid admitted task
  | none =>
    refine ⟨⟨valid.readers, valid.writer, valid.single, valid.exclusive, ?_⟩, ?_⟩
    · change system.lock.waitingWriters = writersOf (system.lock.changed.clearAndWait _) + 0
      rw [writersOf_clearAndWait, valid.queued]
      rfl
    · intro unlocked _
      -- The reader sleeps behind a free lock only where a writer waits, which is scheduled itself
      -- or has a scheduled one before it.
      have noWriter := (locked_eq_false.mp unlocked).1
      have waiting : 0 < system.lock.waitingWriters := by
        unfold tryAcquireRead at admitted
        by_contra none
        rw [if_neg] at admitted
        · cases admitted
        · rintro (writer | queue)
          · exact absurd (writer.symm.trans noWriter) (by decide)
          · exact none queue
      rw [valid.queued] at waiting
      obtain ⟨call, called, writes⟩ := countP_pos_iff.mp waiting
      obtain ⟨waiter, member, rfl⟩ := mem_map.mp called
      have scheduled : ∃ waiter ∈ system.lock.changed.waiters,
          waiter.Scheduled ∧ waiter.call.2 = .write := by
        by_cases sleeps : waiter.Scheduled
        · exact ⟨waiter, member, sleeps, of_decide_eq_true writes⟩
        · exact valid.prompted unlocked ⟨waiter, member, sleeps⟩
      obtain ⟨first, present, found⟩ := scheduled
      exact ⟨first, mem_append_left _ present, found⟩

theorem release_eq_some {after : RwLock Task} (released : lock.release = some after) :
    after = { lock with writer := false, changed := lock.changed.set } := by
  unfold release at released
  split_ifs at released
  exact (Option.some.inj released).symm

theorem downgrade_eq_some {after : RwLock Task} (downgraded : lock.downgrade = some after) :
    after = { lock with writer := false, readers := lock.readers + 1, changed := lock.changed.set } := by
  unfold downgrade at downgraded
  split_ifs at downgraded
  exact (Option.some.inj downgraded).symm

theorem releaseRead_eq_some {after : RwLock Task} (released : lock.releaseRead = some after) :
    after = { lock with readers := lock.readers - 1, changed := lock.changed.set } := by
  unfold releaseRead at released
  split_ifs at released
  exact (Option.some.inj released).symm

theorem Counts.erase_eq_nil [DecidableEq Task] {entering : ℕ} (counts : Counts entering system)
    {task : Task} (owner : task ∈ system.writing) :
    system.writing.erase task = [] := by
  apply length_eq_zero_iff.mp
  rw [length_erase_of_mem owner]
  have single := counts.single
  omega

theorem Counts.leave (counts : Counts 0 system)
    (split : system.lock.changed.waiters = before ++ waiter :: after) :
    Counts (if waiter.call.2 = .write then 1 else 0) { system with
        lock :=
          { system.lock with
            changed := system.lock.changed.leave before after waiter split } } := by
  refine ⟨counts.readers, counts.writer, counts.single, counts.exclusive, ?_⟩
  rw [← writersOf_leave system.lock.changed split]
  exact counts.queued

theorem Valid.leave_reader (valid : Valid system)
    (split : system.lock.changed.waiters = before ++ waiter :: after)
    (reads : waiter.call.2 = .read) :
    Valid { system with
        lock :=
          { system.lock with
            changed := system.lock.changed.leave before after waiter split } } := by
  have counts := valid.toCounts.leave split
  rw [reads, if_neg (by decide)] at counts
  refine ⟨counts, ?_⟩
  rintro free ⟨other, member, sleeps⟩
  have kept : ∀ first, first ∈ before ++ after → first ∈ system.lock.changed.waiters := by
    intro first present
    rw [split, mem_append, mem_cons]
    exact (mem_append.mp present).imp_right .inr
  obtain ⟨first, present, scheduled, writes⟩ := valid.prompted free ⟨other, kept other member, sleeps⟩
  refine ⟨first, ?_, scheduled, writes⟩
  rw [split, mem_append, mem_cons] at present
  rcases present with earlier | rfl | later
  · exact mem_append_left _ earlier
  · rw [reads] at writes
    cases writes
  · exact mem_append_right _ later

theorem Valid.cancel (valid : Valid system)
    (split : system.lock.changed.waiters = before ++ waiter :: after) :
    Valid { system with
        lock :=
          { system.lock with
            changed := system.lock.changed.cancel before after waiter split } } := by
  refine ⟨⟨valid.readers, valid.writer, valid.single, valid.exclusive, ?_⟩, ?_⟩
  · rw [writersOf_cancel]
    exact valid.queued
  · rintro free ⟨other, member, sleeps⟩
    have stays : other ∈ system.lock.changed.waiters := by
      rw [split, mem_append, mem_cons]
      rcases mem_append.mp member with earlier | later
      · exact .inl earlier
      · rcases mem_cons.mp later with rfl | later
        · exact absurd (fun sleeping => Wake.noConfusion sleeping) sleeps
        · exact .inr (.inr later)
    obtain ⟨first, present, scheduled, writes⟩ := valid.prompted free ⟨other, stays, sleeps⟩
    rw [split, mem_append, mem_cons] at present
    rcases present with earlier | rfl | later
    · exact ⟨first, mem_append_left _ earlier, scheduled, writes⟩
    · exact ⟨⟨first.call, .cancelled⟩, mem_append_right _ mem_cons_self,
        fun sleeping => Wake.noConfusion sleeping, writes⟩
    · exact ⟨first, mem_append_right _ (mem_cons_of_mem _ later), scheduled, writes⟩

theorem Valid.step [DecidableEq Task] {system after : System Task} {label : Label Task}
    (valid : Valid system) (step : Step system label after) : Valid after := by
  cases step with
  | acquire idle =>
    rename_i task
    have entered : Counts 1 { system with
        lock := { system.lock with waitingWriters := system.lock.waitingWriters + 1 } } :=
      ⟨valid.readers, valid.writer, valid.single, valid.exclusive, congrArg (· + 1) valid.queued⟩
    exact valid_wrote entered task
  | acquireRead _ => exact valid_read valid _
  | tryAcquireRead _ admitted => exact valid_admitted valid admitted _
  | refuseRead _ _ => exact valid
  | release _ owner released =>
    rw [release_eq_some released]
    have none := valid.erase_eq_nil owner
    refine valid_of_set ⟨valid.readers, ?_, ?_, ?_, ?_⟩ rfl
    · exact iff_of_false Bool.false_ne_true (fun writing => writing none)
    · rw [none]
      exact zero_le 1
    · exact fun writing => absurd none writing
    · change system.lock.waitingWriters = writersOf system.lock.changed.set + 0
      rw [writersOf_set, valid.queued]
  | downgrade idle owner downgraded =>
    rename_i task lock
    rw [downgrade_eq_some downgraded]
    have none := valid.erase_eq_nil owner
    refine valid_of_set ⟨?_, ?_, ?_, ?_, ?_⟩ rfl
    · change system.lock.readers + 1 = (task :: system.reading).length
      rw [valid.readers]
      rfl
    · exact iff_of_false Bool.false_ne_true (fun writing => writing none)
    · rw [none]
      exact zero_le 1
    · exact fun writing => absurd none writing
    · change system.lock.waitingWriters = writersOf system.lock.changed.set + 0
      rw [writersOf_set, valid.queued]
  | releaseRead _ owner released =>
    rw [releaseRead_eq_some released]
    refine valid_of_set ⟨?_, valid.writer, valid.single, ?_, ?_⟩ rfl
    · change system.lock.readers - 1 = _
      rw [length_erase_of_mem owner, valid.readers]
    · intro writing
      rw [valid.exclusive writing] at owner
      cases owner
    · change system.lock.waitingWriters = writersOf system.lock.changed.set + 0
      rw [writersOf_set, valid.queued]
  | cancel split => exact valid.cancel split
  | resume split =>
    rename_i mode
    cases mode with
    | write => exact valid_wrote (valid.toCounts.leave split) _
    | read => exact valid_read (valid.leave_reader split rfl) _
  | abandon split =>
    rename_i mode
    cases mode with
    | read => exact valid.leave_reader split rfl
    | write =>
      have counts := valid.toCounts.leave split
      refine valid_of_set ⟨counts.readers, counts.writer, counts.single, counts.exclusive, ?_⟩ rfl
      change system.lock.waitingWriters - 1 = writersOf (set _) + 0
      have queued := counts.queued
      rw [writersOf_set]
      change system.lock.waitingWriters = _ + 1 at queued
      omega

theorem valid_initial : Valid (System.initial : System Task) := by
  refine ⟨⟨rfl, ?_, zero_le 1, fun _ => rfl, rfl⟩, ?_⟩
  · exact iff_of_false Bool.false_ne_true (fun writing => writing rfl)
  · rintro _ ⟨waiter, member, _⟩
    cases member

def System.Admits (system : System Task) : Mode → Prop
  | .write => system.lock.locked = false
  | .read => system.lock.locked = false ∧ system.lock.waitingWriters = 0

/-- What holds in every reachable state. -/
structure Contract [DecidableEq Task] (system : System Task) : Prop where
  exclusive : system.writing.length ≤ 1 ∧ (system.writing ≠ [] → system.reading = [])
  ownersRelease : (∀ task ∈ system.writing,
      system.lock.release.isSome = true ∧ system.lock.downgrade.isSome = true) ∧
    ∀ task ∈ system.reading, system.lock.releaseRead.isSome = true
  writersFirst : ∀ label after, Step system label after →
    system.reading.length < after.reading.length → (∀ task, label ≠ .downgrade task) →
    ∀ waiter ∈ system.lock.changed.waiters, waiter.call.2 ≠ .write
  wakes : system.lock.locked = false → system.lock.changed.waiters ≠ [] →
    ∃ waiter ∈ system.lock.changed.waiters, waiter.Scheduled ∧ system.Admits waiter.call.2
  /-- A scheduled waiter takes its lease, and a cancelled writer schedules all that wait. -/
  goesOn : ∀ waiter ∈ system.lock.changed.waiters, waiter.Scheduled →
    system.Admits waiter.call.2 → ∃ after, Step system (.resume waiter.call.1) after ∧
      (waiter.wake = .woken → waiter.call.1 ∈ after.writing ++ after.reading) ∧
      (waiter.wake = .cancelled → waiter.call.2 = .write →
        ∀ other ∈ after.lock.changed.waiters, other.Scheduled)
  drained : system.lock.changed.waiters = [] → system.writing = [] → system.reading = [] →
    system.lock.readers = 0 ∧ system.lock.waitingWriters = 0 ∧ system.lock.locked = false

theorem not_write_of_writersOf {event : Event (Task × Mode)} (none : writersOf event = 0) :
    ∀ waiter ∈ event.waiters, waiter.call.2 ≠ .write := by
  intro waiter member writes
  have unwritten := countP_eq_zero.mp none waiter.call (mem_map_of_mem member)
  exact unwritten (decide_eq_true writes)

theorem Valid.no_writer_of_read (valid : Valid system) {task : Task}
    (grown : system.reading.length <
      (system.read task (system.lock.acquireRead task)).reading.length) :
    writersOf system.lock.changed = 0 := by
  unfold System.read acquireRead at grown
  cases admitted : system.lock.tryAcquireRead with
  | none =>
    rw [admitted] at grown
    exact absurd grown (lt_irrefl _)
  | some lock =>
    obtain ⟨_, noQueue, _⟩ := tryAcquireRead_eq_some admitted
    rw [valid.queued] at noQueue
    exact noQueue

theorem Valid.writersFirst [DecidableEq Task] {after : System Task} {label : Label Task}
    (valid : Valid system) (step : Step system label after)
    (grown : system.reading.length < after.reading.length)
    (notDowngrade : ∀ task, label ≠ .downgrade task) :
    ∀ waiter ∈ system.lock.changed.waiters, waiter.call.2 ≠ .write := by
  apply not_write_of_writersOf
  cases step with
  | acquire _ | refuseRead _ _ | release _ _ _ | cancel _ => exact absurd grown (lt_irrefl _)
  | acquireRead _ => exact valid.no_writer_of_read grown
  | tryAcquireRead _ admitted =>
    obtain ⟨_, noQueue, _⟩ := tryAcquireRead_eq_some admitted
    rw [valid.queued] at noQueue
    exact noQueue
  | releaseRead _ owner _ =>
    rw [length_erase_of_mem owner] at grown
    omega
  | downgrade _ _ _ => exact absurd rfl (notDowngrade _)
  | resume split =>
    rename_i mode
    cases mode with
    | write => exact absurd grown (lt_irrefl _)
    | read =>
      rw [writersOf_leave system.lock.changed split]
      exact (valid.leave_reader split rfl).no_writer_of_read grown
  | abandon split =>
    rename_i mode
    cases mode <;> exact absurd grown (lt_irrefl _)

theorem Valid.wakes (valid : Valid system) (free : system.lock.locked = false)
    (waits : system.lock.changed.waiters ≠ []) :
    ∃ waiter ∈ system.lock.changed.waiters, waiter.Scheduled ∧ system.Admits waiter.call.2 := by
  by_cases asleep : ∃ waiter ∈ system.lock.changed.waiters, ¬ waiter.Scheduled
  · obtain ⟨first, member, scheduled, writes⟩ := valid.prompted free asleep
    refine ⟨first, member, scheduled, ?_⟩
    rw [writes]
    exact free
  · have scheduled : ∀ waiter ∈ system.lock.changed.waiters, waiter.Scheduled := by
      intro waiter member
      by_contra sleeps
      exact asleep ⟨waiter, member, sleeps⟩
    by_cases writer : ∃ waiter ∈ system.lock.changed.waiters, waiter.call.2 = .write
    · obtain ⟨first, member, writes⟩ := writer
      refine ⟨first, member, scheduled first member, ?_⟩
      rw [writes]
      exact free
    · obtain ⟨first, member⟩ := exists_mem_of_ne_nil _ waits
      refine ⟨first, member, scheduled first member, ?_⟩
      have none : system.lock.waitingWriters = 0 := by
        rw [valid.queued]
        refine countP_eq_zero.mpr ?_
        intro call called writes
        obtain ⟨waiter, stored, rfl⟩ := mem_map.mp called
        exact writer ⟨waiter, stored, of_decide_eq_true writes⟩
      cases mode : first.call.2 with
      | read => exact ⟨free, none⟩
      | write => exact free

theorem goOn_admits {mode : Mode} (admits : system.Admits mode) (task : Task) :
    task ∈ (system.goOn task mode).writing ++ (system.goOn task mode).reading := by
  cases mode with
  | write =>
    unfold System.goOn System.wrote acquireLoop
    rw [if_pos (locked_eq_false.mp admits)]
    exact mem_append_left _ mem_cons_self
  | read =>
    have admitted : system.lock.tryAcquireRead =
        some { system.lock with readers := system.lock.readers + 1 } := by
      unfold tryAcquireRead
      rw [if_neg]
      rintro (writer | queue)
      · exact absurd (writer.symm.trans (locked_eq_false.mp admits.1).1) (by decide)
      · exact absurd admits.2 (ne_of_gt queue)
    unfold System.goOn System.read acquireRead
    rw [admitted]
    exact mem_append_right _ mem_cons_self

theorem Valid.contract [DecidableEq Task] (valid : Valid system) : Contract system where
  exclusive := ⟨valid.single, valid.exclusive⟩
  ownersRelease := by
    refine ⟨?_, ?_⟩
    · intro task owner
      have writer := valid.writer.mpr (ne_nil_of_mem owner)
      unfold release downgrade
      rw [if_pos writer, if_pos writer]
      exact ⟨rfl, rfl⟩
    · intro task owner
      unfold releaseRead
      rw [if_neg]
      · rfl
      · rw [valid.readers]
        exact ne_of_gt (length_pos_of_mem owner)
  writersFirst := fun label after step => valid.writersFirst step
  wakes := valid.wakes
  goesOn := by
    intro waiter member scheduled admits
    obtain ⟨before, after, split⟩ := append_of_mem member
    obtain ⟨⟨task, mode⟩, wake⟩ := waiter
    cases wake with
    | asleep => exact absurd rfl scheduled
    | woken =>
      refine ⟨_, .resume split, fun _ => ?_, fun other => by cases other⟩
      apply goOn_admits
      cases mode <;> exact admits
    | cancelled =>
      refine ⟨_, .abandon split, fun other => (by cases other), ?_⟩
      rintro _ writes
      obtain rfl : mode = .write := writes
      exact scheduled_of_mem_set _
  drained := by
    intro idle noWriting noReading
    refine ⟨?_, ?_, locked_eq_false.mpr ⟨?_, ?_⟩⟩
    · rw [valid.readers, noReading]
      rfl
    · rw [valid.queued]
      unfold writersOf
      rw [idle]
      rfl
    · rw [Bool.eq_false_iff]
      exact fun writer => valid.writer.mp writer noWriting
    · rw [valid.readers, noReading]
      rfl

/-- However the calls, releases and cancellations of any tasks interleave, the lock is exclusive,
writers go first, no wake-up is lost and nothing is left behind. -/
theorem reader_writer_lock_contract [DecidableEq Task] {labels : List (Label Task)}
    {system : System Task} (run : Transition.Run Step System.initial labels system) :
    Contract system :=
  (run.invariant (fun _ _ _ valid step => valid.step step) valid_initial).contract

theorem not_waits_of_nil (idle : system.lock.changed.waiters = []) (task : Task)
    : ¬ system.Waits task := by
  rintro ⟨waiter, member, _⟩
  rw [idle] at member
  cases member

/-- A reader that waits behind a writer is admitted when the writer leaves. -/
theorem reader_writer_lock_contract_executed :
    ∃ system : System ℕ, Transition.Run Step System.initial
        [.acquire 0, .acquireRead 1, .release 0, .resume 1] system ∧
      system.reading = [1] ∧ Contract system := by
  have alone : ∀ system : System ℕ, system.lock.changed.waiters = [⟨(1, .read), .asleep⟩] →
      ¬ system.Waits 0 := by
    rintro system idle ⟨waiter, member, same⟩
    rw [idle] at member
    obtain rfl := mem_singleton.mp member
    cases same
  have held : Step (System.initial : System ℕ) (.acquire 0) _ :=
    .acquire (not_waits_of_nil rfl 0)
  have run : Transition.Run Step (System.initial : System ℕ)
      [.acquire 0, .acquireRead 1, .release 0, .resume 1] _ :=
    .cons held <| .cons (.acquireRead (not_waits_of_nil rfl 1)) <|
      .cons (.release (alone _ rfl) mem_cons_self rfl) <|
      .cons (@Step.resume ℕ _ _ [] [] 1 .read rfl) (.nil _)
  exact ⟨_, run, rfl, reader_writer_lock_contract run⟩

end Kestrel.Lock
