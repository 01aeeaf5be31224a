import Kestrel.Base.Text
import Mathlib.Algebra.GroupWithZero.Nat
import Mathlib.Data.Nat.Size

/-!
# Durable schedules

The row of a schedule, and what finalizing one of its executions makes of it. Instants are
microseconds of the database's clock.
-/

namespace Kestrel.Scheduler

section Records

inductive ScheduleKind where
  | cron
  | oneShot
  deriving DecidableEq, Repr

inductive MisfirePolicy where
  | skip
  | fireOnce
  | catchUp
  deriving DecidableEq, Repr

/-- The statuses of executions, and of schedules that are over. -/
inductive Status where
  | claimed
  | executing
  | success
  | failed
  | hookFailed
  | blocked
  | skippedMisfire
  | cancelled
  | superseded
  | invalidCron
  | invalidIdempotencyKey
  | executionLogInconsistent
  | unresolvedEffect
  | other (name : String)
  deriving DecidableEq, Repr

inductive Decision where
  | deny
  | ask
  deriving DecidableEq, Repr

/-- Why a permission gate paused a schedule. -/
structure PauseCause where
  hook : Option String
  decision : Decision
  tool : Option String
  deriving DecidableEq, Repr

/-- The persisted streak of one schedule row. -/
structure FailureStreak where
  count : ℕ := 0
  firstAt : Option ℕ := none
  lastAt : Option ℕ := none
  lastExecutionId : Option ℕ := none
  flaggedAt : Option ℕ := none
  deriving DecidableEq, Repr

/-- A schedule row. `Cron` is the type of cron expressions with their timezones. -/
structure ScheduledTask (Cron : Type*) where
  cron : Cron
  scheduleKind : ScheduleKind
  runAt : Option ℕ
  misfirePolicy : MisfirePolicy
  enabled : Bool
  lastRunAt : Option ℕ := none
  nextRunAt : Option ℕ
  idempotencyKey : Option String
  leaseOwner : Option ℕ := none
  leaseExpiresAt : Option ℕ := none
  claimToken : Option ℕ := none
  claimExecutionId : Option ℕ := none
  claimScheduledFor : Option ℕ := none
  claimFenced : Bool := false
  attemptCount : ℕ := 0
  terminalStatus : Option Status := none
  terminalAt : Option ℕ := none
  failureStreak : FailureStreak := {}
  terminalCause : Option PauseCause := none

/-- What a dispatch reports. Only blocked outcomes pause their schedule. -/
structure Outcome where
  status : Status
  resultText : Option String
  ran : Bool
  pauseSchedule : Bool
  pauseCause : Option PauseCause
  blocked : pauseSchedule = true → status = .blocked

/-- The settings of a runner that finalization reads. -/
structure Settings where
  failureAlertThreshold : ℕ
  hookFailureBackoffBaseSeconds : ℕ
  hookFailureBackoffMaxSeconds : ℕ

end Records

section Streaks

/-- `next_failure_streak`. -/
def FailureStreak.next (prior : FailureStreak) (status : Status) (now : ℕ) (executionId : ℕ)
    (threshold : ℕ) : FailureStreak :=
  match status with
  | .success => {}
  | .failed | .hookFailed =>
    let count := prior.count + 1
    { count
      firstAt := if prior.count ≠ 0 ∧ prior.firstAt.isSome then prior.firstAt else some now
      lastAt := some now
      lastExecutionId := some executionId
      flaggedAt :=
        if prior.flaggedAt = none ∧ threshold ≤ count then some now else prior.flaggedAt }
  | _ => prior

/-- `hook_failure_backoff`, in seconds. -/
def hookFailureBackoff (consecutiveFailures baseSeconds maxSeconds : ℕ) : ℕ :=
  if baseSeconds = 0 then 0
  else
    let ceiling := max baseSeconds maxSeconds
    let exponent := consecutiveFailures - 1
    if ceiling.size ≤ exponent then ceiling else min ceiling (baseSeconds * 2 ^ exponent)

/-- The instant before which a schedule may not retry after a hook failure. -/
def Settings.retryAt (settings : Settings) (now consecutiveFailures : ℕ) : ℕ :=
  now + 1000000 * hookFailureBackoff consecutiveFailures settings.hookFailureBackoffBaseSeconds
    settings.hookFailureBackoffMaxSeconds

def Settings.hookFailureRetryAt (settings : Settings) (status : Status) (nextAt : Option ℕ)
    (now consecutiveFailures : ℕ) : Option ℕ :=
  match status, nextAt with
  | .hookFailed, some scheduled =>
    let retryAt := settings.retryAt now consecutiveFailures
    if retryAt ≤ scheduled then some scheduled else some retryAt
  | _, _ => nextAt

end Streaks

section Finalization

variable {Cron : Type*} (nextRun : Cron → ℕ → Except String ℕ) (settings : Settings)

/-- How an outcome ends its occurrence: the status and text that its log keeps, and the schedule's
next occurrence, or why it has none. -/
structure Advance where
  status : Status
  resultText : Option String
  nextAt : Option ℕ
  enabled : Bool
  terminalStatus : Option Status

/-- The part of `_finalize` before the backoff. `nextRun` is `next_run`, and its error the text of
a `CronParseError`. -/
def ScheduledTask.advance (task : ScheduledTask Cron) (outcome : Outcome) (now : ℕ) : Advance :=
  let oneShot : Bool := task.scheduleKind = .oneShot
  if (oneShot ∧ outcome.status ≠ .hookFailed) ∨ outcome.pauseSchedule then
    ⟨outcome.status, outcome.resultText, none, false, some outcome.status⟩
  else if oneShot then ⟨outcome.status, outcome.resultText, some now, true, none⟩
  else
    let after := if task.misfirePolicy = .catchUp then task.nextRunAt.getD now else now
    match nextRun task.cron after with
    | .ok next => ⟨outcome.status, outcome.resultText, some next, true, none⟩
    | .error reason =>
      let text := outcome.resultText.getD "" ++ " scheduler cannot compute next run: " ++ reason
      ⟨.failed, some (Text.strip text), none, false, some .invalidCron⟩

/-- The row that `_finalize` leaves: `task` is the claim's snapshot, and `row` the row it finds. -/
def ScheduledTask.finalized (row task : ScheduledTask Cron) (outcome : Outcome)
    (executionId attempt now : ℕ) : ScheduledTask Cron :=
  let advance := task.advance nextRun outcome now
  let streak := row.failureStreak.next advance.status now executionId
    settings.failureAlertThreshold
  { row with
    lastRunAt := if outcome.ran then some now else row.lastRunAt
    nextRunAt := settings.hookFailureRetryAt advance.status advance.nextAt now streak.count
    enabled := advance.enabled
    attemptCount := if advance.nextAt.isSome then 0 else attempt
    terminalStatus := advance.terminalStatus
    terminalAt := if advance.terminalStatus.isSome then some now else none
    leaseOwner := none
    leaseExpiresAt := none
    claimToken := none
    claimExecutionId := none
    claimScheduledFor := none
    claimFenced := false
    failureStreak := streak
    terminalCause := if outcome.pauseSchedule then outcome.pauseCause else none }

end Finalization

end Kestrel.Scheduler
