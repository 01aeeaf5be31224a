import Kestrel.Base.Rows
import Mathlib.Data.List.Basic
import Mathlib.Data.Nat.Notation
import Mathlib.Data.String.Basic

/-!
# Retention of tasks

One statement deletes the old terminal tasks of a recipient. A trigger refuses it when one of them
has a push configuration that is not deleted, and a foreign key when a delivery attempt still names
one of their configurations. The rows that hang on a deleted task go with it.
-/

namespace Kestrel.A2A.Retention

open List String

/-- An instant of UTC, by the digits of its date and of its time of day. -/
structure Instant where
  date : String
  time : String
  micros : ℕ
  dated : date.length = 10

namespace Instant

def Before (first second : Instant) : Prop :=
  first.date < second.date ∨ first.date = second.date ∧
    (first.time < second.time ∨ first.time = second.time ∧ first.micros < second.micros)

instance (first second : Instant) : Decidable (first.Before second) :=
  inferInstanceAs (Decidable (_ ∨ _ ∧ (_ ∨ _ ∧ _)))

/-- The text that `datetime('now')` stores. -/
def stored (instant : Instant) : String := instant.date ++ (" " ++ instant.time)

def isoformat (instant : Instant) : String :=
  let digits := Nat.toDigits 10 instant.micros
  let fraction :=
    if instant.micros = 0 then ""
    else "." ++ String.ofList (List.replicate (6 - digits.length) '0' ++ digits)
  instant.date ++ ("T" ++ instant.time ++ fraction ++ "+00:00")

end Instant

inductive Backend where
  | sqlite
  | postgres

/-- `updated_at < ?`: SQLite compares the texts, PostgreSQL the instants. -/
def Backend.older (backend : Backend) (updatedAt cutoff : Instant) : Prop :=
  match backend with
  | sqlite => updatedAt.stored < cutoff.isoformat
  | postgres => updatedAt.Before cutoff

instance (backend : Backend) (updatedAt cutoff : Instant) :
    Decidable (backend.older updatedAt cutoff) :=
  match backend with
  | .sqlite => inferInstanceAs (Decidable (_ < _))
  | .postgres => inferInstanceAs (Decidable (Instant.Before _ _))

structure TaskRow where
  id : String
  recipientAgentId : Option String
  tenant : String
  status : Option String
  updatedAt : Option Instant

structure TaskInput where
  taskId : String
  inputRevision : ℕ

structure TaskChange where
  sequence : ℕ
  taskId : String

inductive PushState where
  | active
  | deleting
  | deleted
  deriving DecidableEq, Repr

structure ConfigKey where
  recipientId : String
  tenant : String
  taskId : String
  configId : String
  generation : String
  deriving DecidableEq, Repr

structure PushConfig where
  key : ConfigKey
  state : PushState

structure DeliveryAttempt where
  attemptId : String
  config : ConfigKey

/-- The tables, with their keys and references. A subscription is its configuration's key. -/
@[ext] structure Tables where
  tasks : List TaskRow
  inputs : List TaskInput
  changes : List TaskChange
  configs : List PushConfig
  subscriptions : List ConfigKey
  attempts : List DeliveryAttempt
  distinct : (tasks.map (·.id)).Nodup
  inputTask : ∀ row ∈ inputs, ∃ task ∈ tasks, task.id = row.taskId
  changeTask : ∀ row ∈ changes, ∃ task ∈ tasks, task.id = row.taskId
  configTask : ∀ row ∈ configs, ∃ task ∈ tasks, task.id = row.key.taskId
  subscribed : ∀ key ∈ subscriptions, ∃ config ∈ configs, config.key = key
  attempted : ∀ row ∈ attempts, ∃ config ∈ configs, config.key = row.config

inductive DeletionError where
  | activeConfiguration
  | foreignKey
  deriving DecidableEq, Repr

namespace Tables

theorem task_kept {tasks : List TaskRow} {gone : List String} {id : String}
    (owned : ∃ task ∈ tasks, task.id = id) (kept : id ∉ gone) :
    ∃ task ∈ tasks.filter (·.id ∉ gone), task.id = id := by
  obtain ⟨task, stored, rfl⟩ := owned
  exact ⟨task, mem_filter.mpr ⟨stored, by simpa using kept⟩, rfl⟩

theorem config_kept {configs : List PushConfig} {gone : List String} {key : ConfigKey}
    (owned : ∃ config ∈ configs, config.key = key) (kept : key.taskId ∉ gone) :
    ∃ config ∈ configs.filter (·.key.taskId ∉ gone), config.key = key := by
  obtain ⟨config, stored, rfl⟩ := owned
  exact ⟨config, mem_filter.mpr ⟨stored, by simpa using kept⟩, rfl⟩

def without (tables : Tables) (gone : List String) : Tables where
  tasks := tables.tasks.filter (·.id ∉ gone)
  inputs := tables.inputs.filter (·.taskId ∉ gone)
  changes := tables.changes.filter (·.taskId ∉ gone)
  configs := tables.configs.filter (·.key.taskId ∉ gone)
  subscriptions := tables.subscriptions.filter (·.taskId ∉ gone)
  attempts := tables.attempts.filter (·.config.taskId ∉ gone)
  distinct := tables.distinct.sublist (List.filter_sublist.map _)
  inputTask row kept := by
    rw [List.mem_filter] at kept
    exact task_kept (tables.inputTask row kept.1) (by simpa using kept.2)
  changeTask row kept := by
    rw [List.mem_filter] at kept
    exact task_kept (tables.changeTask row kept.1) (by simpa using kept.2)
  configTask row kept := by
    rw [List.mem_filter] at kept
    exact task_kept (tables.configTask row kept.1) (by simpa using kept.2)
  subscribed key kept := by
    rw [List.mem_filter] at kept
    exact config_kept (tables.subscribed key kept.1) (by simpa using kept.2)
  attempted row kept := by
    rw [List.mem_filter] at kept
    exact config_kept (tables.attempted row kept.1) (by simpa using kept.2)

def guarded (tables : Tables) (task : TaskRow) : Prop :=
  ∃ config ∈ tables.configs, config.key.taskId = task.id ∧ config.state ≠ .deleted

instance (tables : Tables) (task : TaskRow) : Decidable (tables.guarded task) :=
  inferInstanceAs (Decidable (∃ config ∈ tables.configs, _))

/-- `DELETE FROM a2a_tasks`: references to tasks and from subscriptions cascade, those of attempts
do not. The trigger sees the configurations of its own task, which no other row's deletion
changes. -/
def delete (tables : Tables) (matched : TaskRow → Bool) : Except DeletionError (ℕ × Tables) :=
  let rows := tables.tasks.filter matched
  let gone := rows.map (·.id)
  if ∃ task ∈ rows, tables.guarded task then .error .activeConfiguration
  else if owned : ∀ row ∈ tables.attempts,
      ∃ config ∈ (tables.without gone).configs, config.key = row.config then
    .ok (rows.length,
      { tables.without gone with
        attempts := tables.attempts
        attempted := owned })
  else .error .foreignKey

end Tables

/-- What `cleanup_old` is called with, and what its store is bound to. -/
structure Cleanup where
  backend : Backend
  recipientId : String
  tenant : String
  terminalStates : List String
  /-- The present less the days that a task is kept. -/
  cutoff : Instant

namespace Cleanup

def defaultTerminalStates : List String := ["completed", "failed", "canceled", "rejected"]

/-- A task of the store's scope in one of the states. -/
def Terminal (cleanup : Cleanup) (task : TaskRow) : Prop :=
  task.recipientAgentId = some cleanup.recipientId ∧ task.tenant = cleanup.tenant ∧
    ∃ status ∈ cleanup.terminalStates, task.status = some status

instance (cleanup : Cleanup) (task : TaskRow) : Decidable (cleanup.Terminal task) :=
  inferInstanceAs (Decidable (_ ∧ _ ∧ ∃ status ∈ cleanup.terminalStates, _))

/-- The `WHERE` clause of the statement. -/
def matched (cleanup : Cleanup) (task : TaskRow) : Bool :=
  cleanup.Terminal task ∧ task.updatedAt.any (cleanup.backend.older · cleanup.cutoff)

def cleanupOld (cleanup : Cleanup) (tables : Tables) : Except DeletionError (ℕ × Tables) :=
  tables.delete cleanup.matched

/-- The tables after the statement. One that fails is rolled back. -/
def after (cleanup : Cleanup) (tables : Tables) : Tables :=
  match cleanup.cleanupOld tables with
  | .ok (_, after) => after
  | .error _ => tables

/-- A task was last updated before the cutoff. -/
def Old (cleanup : Cleanup) (task : TaskRow) : Prop :=
  task.updatedAt.any (·.Before cleanup.cutoff) = true

/-- An old terminal task without a configuration that is not deleted. -/
def Free (cleanup : Cleanup) (tables : Tables) (task : TaskRow) : Prop :=
  cleanup.Terminal task ∧ cleanup.Old task ∧ ¬ tables.guarded task

instance (cleanup : Cleanup) (tables : Tables) (task : TaskRow) :
    Decidable (cleanup.Free tables task) :=
  inferInstanceAs (Decidable (_ ∧ _ = true ∧ _))

/-- The tables without exactly the tasks that are free to go and the rows of each. -/
def retained (cleanup : Cleanup) (tables : Tables) : Tables :=
  tables.without ((tables.tasks.filter (cleanup.Free tables ·)).map (·.id))

/-- A task that the statement selects has a configuration that is not deleted, or an attempt. -/
def Blocked (cleanup : Cleanup) (tables : Tables) : Prop :=
  ∃ task ∈ tables.tasks, cleanup.matched task = true ∧
    (tables.guarded task ∨ ∃ row ∈ tables.attempts, row.config.taskId = task.id)

instance (cleanup : Cleanup) (tables : Tables) : Decidable (cleanup.Blocked tables) :=
  inferInstanceAs (Decidable (∃ task ∈ tables.tasks, _ ∧ (_ ∨ ∃ row ∈ tables.attempts, _)))

end Cleanup

/-! ## The age of a task -/

theorem append_lt_append {first second : List Char} (same : first.length = second.length)
    (left right : List Char) :
    first ++ left < second ++ right ↔ first < second ∨ first = second ∧ left < right := by
  induction first generalizing second with
  | nil =>
    obtain rfl := eq_nil_of_length_eq_zero same.symm
    simp
  | cons letter first ih =>
    cases second with
    | nil => cases same
    | cons other second =>
      have rest := ih (Nat.succ.inj same)
      simp only [cons_append, cons_lt_cons_iff, rest, cons.injEq]
      tauto

theorem sqlite_older {updatedAt cutoff : Instant} :
    Backend.sqlite.older updatedAt cutoff ↔ updatedAt.date ≤ cutoff.date := by
  have same : updatedAt.date.toList.length = cutoff.date.toList.length := by
    rw [length_toList, length_toList, updatedAt.dated, cutoff.dated]
  change updatedAt.stored < cutoff.isoformat ↔ _
  rw [le_iff_lt_or_eq, lt_iff_toList_lt, lt_iff_toList_lt, ← toList_inj]
  simp only [Instant.stored, Instant.isoformat, toList_append]
  rw [append_lt_append same]
  -- a space comes before the letter that stands between the date and the time of a cutoff
  have spaced : (" ").toList = [' '] := rfl
  have lettered : ("T").toList = ['T'] := rfl
  have first : ' ' < 'T' := by decide
  simp [spaced, lettered, cons_lt_cons_iff, first]

theorem older_of_before {backend : Backend} {updatedAt cutoff : Instant}
    (before : updatedAt.Before cutoff) : backend.older updatedAt cutoff := by
  cases backend with
  | sqlite =>
    rw [sqlite_older]
    rcases before with earlier | same
    · exact earlier.le
    · exact same.1.le
  | postgres => exact before

namespace Tables

variable {tables : Tables}

theorem mem_ids {test : TaskRow → Bool} {task : TaskRow} (stored : task ∈ tables.tasks) :
    task.id ∈ (tables.tasks.filter test).map (·.id) ↔ test task = true := by
  constructor
  · intro listed
    obtain ⟨other, kept, same⟩ := mem_map.mp listed
    rw [mem_filter] at kept
    rw [← inj_on_of_nodup_map tables.distinct kept.1 stored same]
    exact kept.2
  · intro passes
    exact mem_map_of_mem (mem_filter.mpr ⟨stored, passes⟩)

theorem without_eq_iff {gone other : List String} : tables.without gone = tables.without other ↔
      ∀ task ∈ tables.tasks, task.id ∈ gone ↔ task.id ∈ other := by
  constructor
  · intro same task stored
    have tasks : tables.tasks.filter (·.id ∉ gone) = tables.tasks.filter (·.id ∉ other) :=
      congrArg Tables.tasks same
    have member : task ∈ tables.tasks.filter (·.id ∉ gone) ↔
        task ∈ tables.tasks.filter (·.id ∉ other) := by rw [tasks]
    simpa [stored, not_iff_not] using member
  · intro same
    have owned : ∀ {id}, (∃ task ∈ tables.tasks, task.id = id) → (id ∈ gone ↔ id ∈ other) := by
      rintro _ ⟨task, stored, rfl⟩
      exact same task stored
    have config : ∀ {key}, (∃ config ∈ tables.configs, config.key = key) →
        (key.taskId ∈ gone ↔ key.taskId ∈ other) := by
      rintro _ ⟨config, stored, rfl⟩
      exact owned (tables.configTask config stored)
    ext1
    · exact filter_congr fun row stored => by simp [same row stored]
    · exact filter_congr fun row stored => by simp [owned (tables.inputTask row stored)]
    · exact filter_congr fun row stored => by simp [owned (tables.changeTask row stored)]
    · exact filter_congr fun row stored => by simp [owned (tables.configTask row stored)]
    · exact filter_congr fun key stored => by simp [config (tables.subscribed key stored)]
    · exact filter_congr fun row stored => by simp [config (tables.attempted row stored)]

theorem without_nil : tables.without [] = tables := by
  ext1 <;> simp [without]

end Tables

namespace Cleanup

open Tables

variable {cleanup : Cleanup} {tables : Tables}

/-- The statement deletes what it selects, unless one of these is held back. -/
theorem after_eq : cleanup.after tables = tables.without (if cleanup.Blocked tables then []
      else (tables.tasks.filter cleanup.matched).map (·.id)) := by
  have listed : ∀ {id}, id ∈ (tables.tasks.filter cleanup.matched).map (·.id) ↔
      ∃ task ∈ tables.tasks, cleanup.matched task = true ∧ id = task.id := by
    intro id
    simp only [mem_map, mem_filter, and_assoc, eq_comm]
  unfold after cleanupOld delete
  by_cases guarded : ∃ task ∈ tables.tasks.filter cleanup.matched, tables.guarded task
  · have blocked : cleanup.Blocked tables := by
      obtain ⟨task, kept, guarded⟩ := guarded
      rw [mem_filter] at kept
      exact ⟨task, kept.1, kept.2, .inl guarded⟩
    rw [if_pos guarded, if_pos blocked, without_nil]
  rw [if_neg guarded]
  by_cases owned : ∀ row ∈ tables.attempts,
      ∃ config ∈ (tables.without ((tables.tasks.filter cleanup.matched).map (·.id))).configs,
        config.key = row.config
  · have spared : ∀ row ∈ tables.attempts,
        row.config.taskId ∉ (tables.tasks.filter cleanup.matched).map (·.id) := by
      intro row stored
      obtain ⟨config, kept, same⟩ := owned row stored
      rw [← same]
      simpa using (mem_filter.mp kept).2
    have free : ¬ cleanup.Blocked tables := by
      rintro ⟨task, stored, matched, held | ⟨row, attempt, same⟩⟩
      · exact guarded ⟨task, mem_filter.mpr ⟨stored, matched⟩, held⟩
      · exact spared row attempt (listed.mpr ⟨task, stored, matched, same⟩)
    rw [dif_pos owned, if_neg free]
    refine Tables.ext rfl rfl rfl rfl rfl ?_
    exact (filter_eq_self.mpr fun row stored => by simpa using spared row stored).symm
  · have blocked : cleanup.Blocked tables := by
      rw [not_forall₂] at owned
      obtain ⟨row, stored, lost⟩ := owned
      by_contra free
      refine lost (config_kept (tables.attempted row stored) fun gone => ?_)
      obtain ⟨task, stored', matched, same⟩ := listed.mp gone
      exact free ⟨task, stored', matched, .inr ⟨row, stored, same⟩⟩
    rw [dif_neg owned, if_pos blocked, without_nil]

theorem matched_of_free {task : TaskRow} (free : cleanup.Free tables task) :
    cleanup.matched task = true := by
  obtain ⟨terminal, old, _⟩ := free
  refine decide_eq_true ⟨terminal, ?_⟩
  unfold Old at old
  cases stamped : task.updatedAt with
  | none => simp [stamped] at old
  | some updatedAt =>
    rw [stamped] at old
    exact decide_eq_true (older_of_before (of_decide_eq_true old))

/-- **Retention removes exactly what is free to go** where nothing that the statement selects is
held back and all of it is older than the cutoff, or something is held back and nothing is free. -/
theorem cleanup_retains_iff (cleanup : Cleanup) (tables : Tables) :
    cleanup.after tables = cleanup.retained tables ↔
      if cleanup.Blocked tables then ∀ task ∈ tables.tasks, ¬ cleanup.Free tables task
      else ∀ task ∈ tables.tasks, cleanup.matched task = true → cleanup.Old task := by
  rw [after_eq, retained, without_eq_iff]
  split_ifs with blocked
  · refine forall₂_congr fun task stored => ?_
    rw [mem_ids stored, decide_eq_true_iff]
    simp
  · refine forall₂_congr fun task stored => ?_
    rw [mem_ids stored, mem_ids stored, decide_eq_true_iff]
    constructor
    · intro same matched
      exact (same.mp matched).2.1
    · intro old
      refine ⟨fun matched => ⟨(of_decide_eq_true matched).1, old matched, ?_⟩, matched_of_free⟩
      exact fun guarded => blocked ⟨task, stored, matched, .inl guarded⟩

/-- Two completed tasks of the year 2024. One of them still has an active configuration. -/
def heldBack : Tables where
  tasks := ["held", "free"].map fun id =>
    { id := id, recipientAgentId := some "agent", tenant := "", status := some "completed",
      updatedAt := some ⟨"2024-01-01", "00:00:00", 0, rfl⟩ }
  inputs := []
  changes := []
  configs := [⟨⟨"agent", "", "held", "config", "1"⟩, .active⟩]
  subscriptions := []
  attempts := []
  distinct := by decide
  inputTask := by simp
  changeTask := by simp
  configTask := by simp
  subscribed := by simp
  attempted := by simp

/-- A task with a live configuration keeps the other from being removed. -/
theorem held_task_blocks_cleanup :
    ∃ cleanup : Cleanup, cleanup.cleanupOld heldBack = .error .activeConfiguration ∧
      (∃ task ∈ heldBack.tasks, cleanup.Free heldBack task) ∧
      cleanup.after heldBack ≠ cleanup.retained heldBack := by
  refine ⟨⟨.sqlite, "agent", "", defaultTerminalStates, ⟨"2025-01-01", "00:00:00", 0, rfl⟩⟩, ?_⟩
  refine ⟨?_, by decide +kernel, ?_⟩
  · unfold cleanupOld delete
    exact if_pos (by decide +kernel)
  intro same
  have lengths := congrArg (·.tasks.length) same
  revert lengths
  decide +kernel

end Cleanup

end Kestrel.A2A.Retention
