import Kestrel.Base.Except
import Mathlib.Data.Nat.Notation
import Mathlib.Tactic.SplitIfs

/-!
# The database clock

Instants are microseconds since the first representable one. Durable rows store them in texts of
a fixed width per backend, which compare as the instants they name.
-/

namespace Kestrel

/-- The databases with a statement clock. -/
inductive DatabaseBackend where
  | postgres
  | sqlite
  deriving DecidableEq, Repr

/-- The microseconds of the smallest stored step. -/
def DatabaseBackend.tick : DatabaseBackend → ℕ
  | .postgres => 1
  | .sqlite => 1000

def latestTimestampBound : ℕ := 315537897599999000

inductive ClockError where
  | timestampBoundOutOfRange (message : String)
  | overflow (message : String)
  deriving DecidableEq, Repr

/-- `database_timestamp_bound_text`. Precision that the backend cannot store is rounded up. -/
def DatabaseBackend.timestampBoundText (backend : DatabaseBackend) (value : ℕ) :
    Except ClockError ℕ :=
  if latestTimestampBound < value then
    .error (.timestampBoundOutOfRange "timestamp bound is later than the latest storable instant")
  else if value % backend.tick = 0 then .ok value
  else .ok (value + (backend.tick - value % backend.tick))

theorem DatabaseBackend.timestampBoundText_mono {backend : DatabaseBackend}
    {earlier later first second : ℕ} (ordered : earlier ≤ later)
    (rounded : backend.timestampBoundText earlier = .ok first)
    (rounded' : backend.timestampBoundText later = .ok second) : first ≤ second := by
  unfold timestampBoundText at rounded rounded'
  cases backend with
  | postgres =>
    rw [tick, Nat.mod_one, if_pos rfl] at rounded
    rw [tick, Nat.mod_one, if_pos rfl] at rounded'
    split_ifs at rounded
    split_ifs at rounded'
    cases rounded
    cases rounded'
    exact ordered
  | sqlite =>
    rw [tick] at rounded rounded'
    split_ifs at rounded
    all_goals
      split_ifs at rounded'
      all_goals
        cases rounded
        cases rounded'
        omega

end Kestrel
