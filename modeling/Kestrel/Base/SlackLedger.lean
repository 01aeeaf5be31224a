import Mathlib.Algebra.BigOperators.Fin
import Mathlib.Algebra.BigOperators.Group.Finset.Piecewise
import Mathlib.Algebra.Order.BigOperators.Group.Finset
import Mathlib.Data.Fintype.BigOperators
import Mathlib.Tactic.Abel

/-!
# A capacity committed to accounts, to a pool of slack and to a reservation

Slack moves between an account and the pool, and a reservation is taken out of the
accounts. Every unit of the capacity is committed to one of the three at most once.
-/

namespace SlackLedger

open Finset

variable {Account : Type*}

/-- What each account, the pool and the reservation hold. -/
@[ext] structure Commitments (Account : Type*) where
  /-- The part of the capacity an account may still count as its own. -/
  committed : Account → Int
  /-- Slack that accounts gave back. -/
  pool : Int
  /-- The part of the capacity taken out of every account. -/
  reserved : Int

namespace Commitments

def total [Fintype Account] (ledger : Commitments Account) : Int :=
  (∑ account, ledger.committed account) + ledger.pool + ledger.reserved

/-- Move slack of one account into the pool; a negative amount borrows it back. -/
def release [DecidableEq Account] (ledger : Commitments Account) (account : Account)
    (amount : Int) : Commitments Account where
  committed := Function.update ledger.committed account (ledger.committed account - amount)
  pool := ledger.pool + amount
  reserved := ledger.reserved

end Commitments

inductive Move [Fintype Account] [DecidableEq Account] (capacity : Int) :
    Commitments Account → Commitments Account → Prop where
  | stay (ledger : Commitments Account) : Move capacity ledger ledger
  | release (ledger : Commitments Account) (account : Account) (amount : Int) :
      Move capacity ledger (ledger.release account amount)
  | reserve (ledger : Commitments Account) (kept : Account → Int) (amount : Int) :
      (∑ account, kept account) + ledger.pool + (ledger.reserved + amount) ≤ capacity →
      Move capacity ledger ⟨kept, ledger.pool, ledger.reserved + amount⟩

variable [Fintype Account] [DecidableEq Account]

theorem sum_update (values : Account → Int) (account : Account) (value : Int) :
    ∑ each, Function.update values account value each =
      (∑ each, values each) - values account + value := by
  rw [sum_update_of_mem (mem_univ account)]
  rw [← add_sum_erase univ values (mem_univ account),
    sdiff_singleton_eq_erase]
  abel

theorem total_release (ledger : Commitments Account) (account : Account) (amount : Int) :
    (ledger.release account amount).total = ledger.total := by
  simp only [Commitments.total, Commitments.release, sum_update]
  abel

theorem Move.total_le {capacity : Int} {before after : Commitments Account}
    (move : Move capacity before after) (within : before.total ≤ capacity) :
    after.total ≤ capacity := by
  cases move with
  | stay => exact within
  | release account amount => rwa [total_release]
  | reserve kept amount fits => exact fits

end SlackLedger
