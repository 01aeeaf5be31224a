import Kestrel.Scheduler.Schedule
import Kestrel.Base.Run
import Mathlib.Data.List.Chain
import Mathlib.Order.Basic

/-!
# The occurrences of a recurring schedule

A cron schedule is finalized again and again, and each finalization leaves the next occurrence.
Under `catch_up` the occurrences are the consecutive matches of the expression, unless a backoff
after a hook failure lies beyond the next match.
-/

namespace Kestrel.Scheduler

open Transition ScheduledTask Nat

section Recurrences

variable {Cron : Type*} (nextRun : Cron → ℕ → Except String ℕ) (settings : Settings)

/-- `schedule_add` at an instant, for a cron expression. -/
def scheduleAdd (cron : Cron) (misfirePolicy : MisfirePolicy) (idempotencyKey : Option String)
    (now : ℕ) : Except String (ScheduledTask Cron) :=
  (nextRun cron now).map fun first =>
    { cron
      scheduleKind := .cron
      runAt := none
      misfirePolicy
      enabled := true
      nextRunAt := some first
      idempotencyKey }

/-- A finalized execution, in the log. -/
structure Finalized where
  executionId : ℕ
  occurrenceAt : ℕ
  status : Status
  attemptCount : ℕ
  completedAt : ℕ
  deriving DecidableEq, Repr

/-- A schedule with the executions that were finalized for it, oldest first. -/
structure Recurrence (Cron : Type*) where
  clock : ℕ
  task : ScheduledTask Cron
  log : List Finalized

/-- An execution of the schedule's next occurrence, to be finalized. -/
structure Finalization where
  now : ℕ
  executionId : ℕ
  attempt : ℕ
  outcome : Outcome

/-- A due occurrence is finalized, and the schedule moves on. -/
inductive Recurrence.Finalizes : Recurrence Cron → Finalization → Recurrence Cron → Prop where
  | finalize {recurrence : Recurrence Cron} {label : Finalization} {due : ℕ} :
      recurrence.task.enabled = true → recurrence.task.nextRunAt = some due → due ≤ label.now →
      recurrence.clock ≤ label.now →
      Finalizes recurrence label
        { clock := label.now
          task := recurrence.task.finalized nextRun settings recurrence.task label.outcome
            label.executionId label.attempt label.now
          log := recurrence.log ++ [⟨label.executionId, due,
            (recurrence.task.advance nextRun label.outcome label.now).status, label.attempt,
            label.now⟩] }

/-- The occurrences taken so far, and the one that waits. -/
def Recurrence.occurrences (recurrence : Recurrence Cron) : List ℕ :=
  recurrence.log.map (·.occurrenceAt) ++ recurrence.task.nextRunAt.toList

end Recurrences

section Matches

variable {Cron : Type*}

/-- The least match of an expression strictly after an instant. -/
structure IsSuccessor (isMatch : Cron → ℕ → Prop) (cron : Cron) (after next : ℕ) : Prop where
  later : after < next
  matching : isMatch cron next
  least : ∀ other, isMatch cron other → after < other → next ≤ other

/-- What `next_run` returns is the least match. -/
def ReturnsSuccessors (isMatch : Cron → ℕ → Prop) (nextRun : Cron → ℕ → Except String ℕ) : Prop :=
  ∀ cron after next, nextRun cron after = .ok next → IsSuccessor isMatch cron after next

variable {isMatch : Cron → ℕ → Prop} {cron : Cron} {after next other : ℕ}

theorem IsSuccessor.unique (left : IsSuccessor isMatch cron after next)
    (right : IsSuccessor isMatch cron after other) : next = other :=
  le_antisymm (left.least other right.matching right.later)
    (right.least next left.matching left.later)

end Matches

section Steps

variable {Cron : Type*} {nextRun : Cron → ℕ → Except String ℕ} {settings : Settings}
  {task : ScheduledTask Cron} {outcome : Outcome} {executionId attempt now : ℕ}

/-- The instant that the next occurrence of a recurring schedule is later than. -/
def ScheduledTask.anchor (task : ScheduledTask Cron) (now : ℕ) : ℕ :=
  if task.misfirePolicy = .catchUp then task.nextRunAt.getD now else now

/-- The instant before which this outcome's backoff allows no further occurrence. -/
def ScheduledTask.earliestRetry (settings : Settings) (task : ScheduledTask Cron)
    (outcome : Outcome) (now : ℕ) : ℕ :=
  if outcome.status = .hookFailed then settings.retryAt now (task.failureStreak.count + 1) else 0

theorem ScheduledTask.finalized_of_paused (paused : outcome.pauseSchedule = true) :
    (task.finalized nextRun settings task outcome executionId attempt now).nextRunAt = none ∧
      (task.finalized nextRun settings task outcome executionId attempt now).enabled = false := by
  have advance : task.advance nextRun outcome now =
      ⟨outcome.status, outcome.resultText, none, false, some outcome.status⟩ := by
    unfold advance
    exact if_pos (.inr paused)
  unfold finalized
  rw [advance, outcome.blocked paused]
  exact ⟨rfl, rfl⟩

theorem ScheduledTask.advance_of_cron (recurring : task.scheduleKind = .cron)
    (running : outcome.pauseSchedule = false) :
    task.advance nextRun outcome now = match nextRun task.cron (task.anchor now) with
      | .ok next => ⟨outcome.status, outcome.resultText, some next, true, none⟩
      | .error reason =>
        ⟨.failed, some (Text.strip
          (outcome.resultText.getD "" ++ " scheduler cannot compute next run: " ++ reason)),
          none, false, some .invalidCron⟩ := by
  unfold advance anchor
  rw [recurring, running]
  rfl

theorem ScheduledTask.finalized_of_error {reason : String} (recurring : task.scheduleKind = .cron)
    (running : outcome.pauseSchedule = false)
    (failed : nextRun task.cron (task.anchor now) = .error reason) :
    (task.finalized nextRun settings task outcome executionId attempt now).nextRunAt = none ∧
      (task.finalized nextRun settings task outcome executionId attempt now).enabled = false := by
  unfold finalized
  rw [advance_of_cron recurring running, failed]
  exact ⟨rfl, rfl⟩

theorem ScheduledTask.finalized_of_next {next : ℕ} (recurring : task.scheduleKind = .cron)
    (running : outcome.pauseSchedule = false)
    (computed : nextRun task.cron (task.anchor now) = .ok next) :
    (task.finalized nextRun settings task outcome executionId attempt now).nextRunAt =
        some (max next (task.earliestRetry settings outcome now)) ∧
      (task.finalized nextRun settings task outcome executionId attempt now).enabled = true := by
  unfold finalized
  rw [advance_of_cron recurring running, computed]
  refine ⟨?_, rfl⟩
  dsimp only
  unfold earliestRetry
  by_cases hook : outcome.status = .hookFailed
  · rw [hook, if_pos rfl]
    change (if settings.retryAt now (task.failureStreak.count + 1) ≤ next then some next
      else some (settings.retryAt now (task.failureStreak.count + 1))) = _
    by_cases early : settings.retryAt now (task.failureStreak.count + 1) ≤ next
    · rw [if_pos early, max_eq_left early]
    · rw [if_neg early, Nat.max_eq_right (Nat.le_of_not_le early)]
  · rw [if_neg hook, max_eq_left (zero_le _)]
    unfold Settings.hookFailureRetryAt
    split
    · contradiction
    · rfl

theorem ScheduledTask.finalized_definition :
    (task.finalized nextRun settings task outcome executionId attempt now).cron = task.cron ∧
      (task.finalized nextRun settings task outcome executionId attempt now).scheduleKind =
        task.scheduleKind ∧
      (task.finalized nextRun settings task outcome executionId attempt now).misfirePolicy =
        task.misfirePolicy :=
  ⟨rfl, rfl, rfl⟩

end Steps

section Runs

variable {Cron : Type*} {isMatch : Cron → ℕ → Prop} {nextRun : Cron → ℕ → Except String ℕ}
  {settings : Settings} {before after : Recurrence Cron} {label : Finalization}

/-- A `catch_up` schedule's backoff ends before its next match. -/
def Recurrence.OnTime (nextRun : Cron → ℕ → Except String ℕ) (settings : Settings)
    (recurrence : Recurrence Cron) (label : Finalization) : Prop :=
  recurrence.task.misfirePolicy = .catchUp → ∀ due next, recurrence.task.nextRunAt = some due →
    nextRun recurrence.task.cron due = .ok next →
      recurrence.task.earliestRetry settings label.outcome label.now ≤ next

/-- A schedule made from an expression and a policy, with occurrences that only go forward. -/
structure Recurrence.Recurring (cron : Cron) (policy : MisfirePolicy)
    (recurrence : Recurrence Cron) : Prop where
  cron : recurrence.task.cron = cron
  kind : recurrence.task.scheduleKind = .cron
  policy : recurrence.task.misfirePolicy = policy
  ordered : recurrence.occurrences.IsChain (· < ·)

section

variable (step : before.Finalizes nextRun settings label after)

include step

theorem Recurrence.Finalizes.occurrences :
    ∃ due, before.task.nextRunAt = some due ∧ due ≤ label.now ∧
      before.occurrences = before.log.map (·.occurrenceAt) ++ [due] ∧
      after.occurrences = before.occurrences ++ after.task.nextRunAt.toList := by
  cases step with
  | finalize enabled present late nondecreasing =>
    refine ⟨_, present, late, ?_, ?_⟩
    · rw [Recurrence.occurrences, present]
      rfl
    · rw [Recurrence.occurrences, Recurrence.occurrences, present, List.map_append]
      rfl

theorem Recurrence.Finalizes.task :
    after.task = before.task.finalized nextRun settings before.task label.outcome
      label.executionId label.attempt label.now := by
  cases step with
  | finalize enabled present late nondecreasing => rfl

theorem Recurrence.Finalizes.next (recurring : before.task.scheduleKind = .cron) {next : ℕ}
    (present : after.task.nextRunAt = some next) :
    ∃ matched, nextRun before.task.cron (before.task.anchor label.now) = .ok matched ∧
      next = max matched (before.task.earliestRetry settings label.outcome label.now) := by
  rw [step.task] at present
  cases paused : label.outcome.pauseSchedule with
  | true =>
    rw [(finalized_of_paused paused).1] at present
    cases present
  | false =>
    cases computed : nextRun before.task.cron (before.task.anchor label.now) with
    | error reason =>
      rw [(finalized_of_error recurring paused computed).1] at present
      cases present
    | ok matched =>
      rw [(finalized_of_next recurring paused computed).1] at present
      cases present
      exact ⟨matched, rfl, rfl⟩

theorem Recurrence.Finalizes.enabled_iff (recurring : before.task.scheduleKind = .cron) :
    after.task.enabled = true ↔ label.outcome.pauseSchedule = false ∧
      ∃ matched, nextRun before.task.cron (before.task.anchor label.now) = .ok matched := by
  rw [step.task]
  cases paused : label.outcome.pauseSchedule with
  | true =>
    rw [(finalized_of_paused paused).2]
    exact ⟨nofun, fun running => absurd running.1 nofun⟩
  | false =>
    cases computed : nextRun before.task.cron (before.task.anchor label.now) with
    | error reason =>
      rw [(finalized_of_error recurring paused computed).2]
      exact ⟨nofun, fun running => absurd running.2 nofun⟩
    | ok matched =>
      rw [(finalized_of_next recurring paused computed).2]
      exact ⟨fun _ => ⟨rfl, matched, rfl⟩, fun _ => rfl⟩

theorem Recurrence.Finalizes.isChain {related : ℕ → ℕ → Prop}
    (chain : before.occurrences.IsChain related)
    (link : ∀ due next, before.task.nextRunAt = some due → after.task.nextRunAt = some next →
      related due next) : after.occurrences.IsChain related := by
  obtain ⟨due, present, _, last, appended⟩ := step.occurrences
  rw [appended]
  cases following : after.task.nextRunAt with
  | none =>
    rw [Option.toList_none, List.append_nil]
    exact chain
  | some next =>
    refine List.isChain_append.mpr ⟨chain, .singleton next, ?_⟩
    intro earlier isLast later isFirst
    rw [last, List.getLast?_append, List.getLast?_singleton] at isLast
    cases isLast
    cases isFirst
    exact link due next present following

end

variable {cron : Cron} {policy : MisfirePolicy}

section

variable (returns : ReturnsSuccessors isMatch nextRun)

include returns

theorem Recurrence.Finalizes.recurring (step : before.Finalizes nextRun settings label after)
    (recurring : before.Recurring cron policy) : after.Recurring cron policy := by
  obtain ⟨sameCron, sameKind, samePolicy⟩ :=
    @finalized_definition _ nextRun settings before.task label.outcome
      label.executionId label.attempt label.now
  rw [← step.task] at sameCron sameKind samePolicy
  refine ⟨sameCron.trans recurring.cron, sameKind.trans recurring.kind,
    samePolicy.trans recurring.policy, step.isChain recurring.ordered ?_⟩
  intro due next present present'
  obtain ⟨_, same, late, _⟩ := step.occurrences
  cases present.symm.trans same
  obtain ⟨matched, computed, rfl⟩ := step.next recurring.kind present'
  have anchored : due ≤ before.task.anchor label.now := by
    unfold anchor
    rw [present]
    split
    · exact le_refl _
    · exact late
  calc due ≤ before.task.anchor label.now := anchored
    _ < matched := (returns _ _ _ computed).later
    _ ≤ max matched _ := le_max_left _ _

theorem Recurrence.Finalizes.consecutive_iff (step : before.Finalizes nextRun settings label after)
    (recurring : before.Recurring cron .catchUp) {due next : ℕ}
    (present : before.task.nextRunAt = some due) (present' : after.task.nextRunAt = some next) :
    IsSuccessor isMatch cron due next ↔ before.OnTime nextRun settings label := by
  obtain ⟨matched, computed, same⟩ := step.next recurring.kind present'
  have anchored : before.task.anchor label.now = due := by
    unfold anchor
    rw [if_pos recurring.policy, present]
    rfl
  rw [anchored] at computed
  have successor := returns _ _ _ computed
  rw [recurring.cron] at successor
  refine ⟨fun consecutive policy due' next' present'' computed' => ?_, fun onTime => ?_⟩
  · cases present.symm.trans present''
    cases computed.symm.trans computed'
    cases consecutive.unique successor
    calc before.task.earliestRetry settings label.outcome label.now
        ≤ max next (before.task.earliestRetry settings label.outcome label.now) :=
          le_max_right _ _
      _ = next := same.symm
  · rw [same, max_eq_left (onTime recurring.policy due matched present computed)]
    exact successor

variable {labels : List Finalization}

theorem Recurrence.Recurring.run (recurring : before.Recurring cron policy)
    (run : Run (Recurrence.Finalizes nextRun settings) before labels after) :
    after.Recurring cron policy :=
  run.invariant (fun _ _ _ valid step => step.recurring returns valid) recurring

theorem Recurrence.Recurring.consecutive (recurring : before.Recurring cron .catchUp)
    (consecutive : before.occurrences.IsChain (IsSuccessor isMatch cron))
    (run : Run (Guarded (Recurrence.Finalizes nextRun settings)
      (Recurrence.OnTime nextRun settings)) before labels after) :
    after.occurrences.IsChain (IsSuccessor isMatch cron) := by
  have both : after.Recurring cron .catchUp ∧
      after.occurrences.IsChain (IsSuccessor isMatch cron) := by
    apply run.invariant _ ⟨recurring, consecutive⟩
    intro source label target valid guarded
    refine ⟨guarded.2.recurring returns valid.1, guarded.2.isChain valid.2 ?_⟩
    intro due next present present'
    exact (guarded.2.consecutive_iff returns valid.1 present present').mpr guarded.1
  exact both.2

end

theorem Recurrence.recurring_of_added {idempotencyKey : Option String} {created : ℕ}
    {task : ScheduledTask Cron}
    (added : scheduleAdd nextRun cron policy idempotencyKey created = .ok task) :
    (⟨created, task, []⟩ : Recurrence Cron).Recurring cron policy ∧
      ∃ first, nextRun cron created = .ok first ∧
        (⟨created, task, []⟩ : Recurrence Cron).occurrences = [first] := by
  unfold scheduleAdd at added
  cases computed : nextRun cron created with
  | error reason =>
    rw [computed] at added
    cases added
  | ok first =>
    rw [computed] at added
    cases added
    exact ⟨⟨rfl, rfl, rfl, .singleton first⟩, first, rfl, rfl⟩

end Runs

section Advancing

variable {Cron : Type*} {isMatch : Cron → ℕ → Prop} {nextRun : Cron → ℕ → Except String ℕ}

theorem Recurrence.head_of_run {settings : Settings} {labels : List Finalization}
    {before after : Recurrence Cron} {first : ℕ} (headed : before.occurrences.head? = some first)
    (run : Run (Recurrence.Finalizes nextRun settings) before labels after) :
    after.occurrences.head? = some first := by
  induction run with
  | nil => exact headed
  | cons step _ ih =>
    obtain ⟨due, _, _, _, appended⟩ := step.occurrences
    apply ih
    rw [appended, List.head?_append, headed, Option.some_or]

/-- Recurring schedules advance: occurrences strictly increase; under `catch_up` they are the
consecutive matches as long as no backoff lies beyond the next one, and not otherwise; under the
other policies the next one is the first match after the finalization unless a hook failure's
backoff lies beyond it; and the schedule stays enabled unless its outcome pauses it or its
expression is not computable. -/
theorem recurring_schedule_advances (returns : ReturnsSuccessors isMatch nextRun)
    (settings : Settings) {cron : Cron} {policy : MisfirePolicy} {idempotencyKey : Option String}
    {created : ℕ} {task : ScheduledTask Cron} {labels : List Finalization}
    {recurrence : Recurrence Cron}
    (added : scheduleAdd nextRun cron policy idempotencyKey created = .ok task)
    (run : Run (Recurrence.Finalizes nextRun settings) ⟨created, task, []⟩ labels recurrence) :
    recurrence.occurrences.Pairwise (· < ·) ∧
    (∃ first, recurrence.occurrences.head? = some first ∧ IsSuccessor isMatch cron created first) ∧
    (policy = .catchUp → Run (Guarded (Recurrence.Finalizes nextRun settings)
        (Recurrence.OnTime nextRun settings)) ⟨created, task, []⟩ labels recurrence →
      recurrence.occurrences.IsChain (IsSuccessor isMatch cron)) ∧
    ∀ label after, recurrence.Finalizes nextRun settings label after →
      (policy = .catchUp → ∀ due next, recurrence.task.nextRunAt = some due →
        after.task.nextRunAt = some next →
          (IsSuccessor isMatch cron due next ↔ recurrence.OnTime nextRun settings label)) ∧
      (policy ≠ .catchUp → ∀ next, after.task.nextRunAt = some next →
        ∃ matched, IsSuccessor isMatch cron label.now matched ∧
          (next = matched ∨ matched < next ∧ label.outcome.status = .hookFailed ∧
            next = settings.retryAt label.now (recurrence.task.failureStreak.count + 1))) ∧
      (after.task.enabled = true ↔ label.outcome.pauseSchedule = false ∧
        ∃ matched, nextRun cron (recurrence.task.anchor label.now) = .ok matched) := by
  obtain ⟨started, first, computed, only⟩ := Recurrence.recurring_of_added added
  have recurring : recurrence.Recurring cron policy := started.run returns run
  refine ⟨recurring.ordered.pairwise, ⟨first, ?_, returns _ _ _ computed⟩, ?_, ?_⟩
  · apply Recurrence.head_of_run _ run
    rw [only, List.head?_cons]
  · rintro rfl guarded
    exact started.consecutive returns (only ▸ .singleton first) guarded
  · intro label after step
    refine ⟨?_, ?_, recurring.cron ▸ step.enabled_iff recurring.kind⟩
    · rintro rfl due next present present'
      exact step.consecutive_iff returns recurring present present'
    · intro other next present
      obtain ⟨matched, found, same⟩ := step.next recurring.kind present
      have anchored : recurrence.task.anchor label.now = label.now := by
        unfold anchor
        rw [recurring.policy, if_neg other]
      rw [anchored, recurring.cron] at found
      refine ⟨matched, returns _ _ _ found, ?_⟩
      unfold earliestRetry at same
      by_cases hook : label.outcome.status = .hookFailed
      · rw [if_pos hook] at same
        rcases lt_or_ge matched
          (settings.retryAt label.now (recurrence.task.failureStreak.count + 1)) with later | early
        · rw [max_eq_right (le_of_lt later)] at same
          exact .inr ⟨same ▸ later, hook, same⟩
        · rw [max_eq_left early] at same
          exact .inl same
      · rw [if_neg hook, max_eq_left (zero_le _)] at same
        exact .inl same

end Advancing

section Minutes

/-- `next_run` for `* * * * *`. -/
def everyMinute (_ : Unit) (after : ℕ) : Except String ℕ :=
  .ok ((after / 60000000 + 1) * 60000000)

theorem everyMinute_returns :
    ReturnsSuccessors (fun _ instant => instant % 60000000 = 0) everyMinute := by
  intro cron after next computed
  cases computed
  refine ⟨by omega, by omega, ?_⟩
  intro other matching later
  omega

def defaultSettings : Settings := ⟨3, 60, 900⟩

/-- An outcome that pauses nothing. -/
def Outcome.plain (status : Status) (ran : Bool) : Outcome :=
  ⟨status, none, ran, false, none, nofun⟩

def minutely (policy : MisfirePolicy) : ScheduledTask Unit where
  cron := ()
  scheduleKind := .cron
  runAt := none
  misfirePolicy := policy
  enabled := true
  nextRunAt := some 60000000
  idempotencyKey := none

theorem minutely_run (policy : MisfirePolicy) (label : Finalization) (late : 60000000 ≤ label.now) :
    ∃ recurrence, Run (Recurrence.Finalizes everyMinute defaultSettings) ⟨0, minutely policy, []⟩
        [label] recurrence ∧
      recurrence.occurrences = 60000000 :: ((minutely policy).finalized everyMinute
        defaultSettings (minutely policy) label.outcome label.executionId label.attempt
        label.now).nextRunAt.toList :=
  ⟨_, .cons (.finalize rfl rfl late (zero_le _)) (.nil _), rfl⟩

/-- A success, a second after its occurrence was due. -/
theorem minutely_advances : ∃ recurrence, Run (Recurrence.Finalizes everyMinute defaultSettings)
        ⟨0, minutely .catchUp, []⟩ [⟨61000000, 1, 1, .plain .success true⟩] recurrence ∧
      recurrence.occurrences = [60000000, 120000000] ∧
      recurrence.occurrences.Pairwise (· < ·) := by
  obtain ⟨recurrence, run, occurrences⟩ :=
    minutely_run .catchUp ⟨61000000, 1, 1, .plain .success true⟩ (by decide)
  have added : scheduleAdd everyMinute () .catchUp none 0 = .ok (minutely .catchUp) := rfl
  exact ⟨recurrence, run, occurrences.trans (by decide +kernel),
    (recurring_schedule_advances everyMinute_returns defaultSettings added run).1⟩

/-- After ten minutes without a runner one hook failure drops the backlog that `catch_up` is to
work off, and the next occurrence is no match that follows the one finalized. -/
theorem catch_up_drops_backlog :
    ∃ recurrence, Run (Recurrence.Finalizes everyMinute defaultSettings)
        ⟨0, minutely .catchUp, []⟩ [⟨601000000, 1, 1, .plain .hookFailed false⟩] recurrence ∧
      recurrence.occurrences = [60000000, 661000000] ∧
      ¬ recurrence.occurrences.IsChain
        (IsSuccessor (fun (_ : Unit) instant => instant % 60000000 = 0) ()) := by
  obtain ⟨recurrence, run, occurrences⟩ :=
    minutely_run .catchUp ⟨601000000, 1, 1, .plain .hookFailed false⟩ (by decide)
  have dropped : recurrence.occurrences = [60000000, 661000000] :=
    occurrences.trans (by decide +kernel)
  refine ⟨recurrence, run, dropped, ?_⟩
  rw [dropped]
  intro chain
  have next := (List.isChain_cons_cons.mp chain).1
  exact absurd next.matching (by decide)

end Minutes

end Kestrel.Scheduler
