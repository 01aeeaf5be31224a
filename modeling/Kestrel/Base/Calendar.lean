import Mathlib.Data.Nat.Find
import Mathlib.Order.Monotone.Basic
import Mathlib.Tactic.SplitIfs

/-!
# The Gregorian calendar

Dates are counted from the first day of year 1, and instants in seconds from its midnight.
-/

namespace Calendar

open List Nat

abbrev IsLeap (year : ℕ) : Prop := year % 4 = 0 ∧ (year % 100 ≠ 0 ∨ year % 400 = 0)

def daysInMonth (year month : ℕ) : ℕ :=
  if month = 2 then if IsLeap year then 29 else 28
  else if month = 4 ∨ month = 6 ∨ month = 9 ∨ month = 11 then 30 else 31

def daysOfYears (years : ℕ) : ℕ := years * 365 + years / 4 - years / 100 + years / 400

def daysOfMonths (year : ℕ) : ℕ → ℕ
  | 0 => 0
  | months + 1 => daysOfMonths year months + daysInMonth year (months + 1)

theorem daysOfMonths_twelve (year : ℕ) : daysOfMonths year 12 = daysInMonth year 2 + 337 := by
  simp [daysOfMonths, daysInMonth]
  omega

theorem daysOfYears_succ (years : ℕ) :
    daysOfYears (years + 1) = daysOfYears years + daysOfMonths (years + 1) 12 := by
  rw [daysOfMonths_twelve]
  have centuries : years / 100 ≤ years / 4 := div_le_div_left (by decide) (by decide)
  rw [daysInMonth, if_pos rfl]
  simp only [daysOfYears, Nat.succ_div, Nat.dvd_iff_mod_eq_zero]
  generalize years / 4 = fours, years / 100 = hundreds, years / 400 = more at centuries ⊢
  split_ifs
  all_goals omega

def blocks (held : ℕ → ℕ) (bound count : ℕ) : ℕ :=
  Nat.findGreatest (fun filled => held filled ≤ count) bound

theorem blocks_spec {held : ℕ → ℕ} (zero : held 0 = 0) {bound count : ℕ}
    (within : count < held bound) :
    held (blocks held bound count) ≤ count ∧ count < held (blocks held bound count + 1) ∧
      blocks held bound count < bound := by
  have fits : held (blocks held bound count) ≤ count :=
    findGreatest_spec (P := fun filled => held filled ≤ count) (zero_le bound)
      (by rw [zero]; exact zero_le count)
  have below : blocks held bound count < bound := by
    refine lt_of_le_of_ne (findGreatest_le bound) fun same => ?_
    rw [same] at fits
    exact not_le.mpr within fits
  refine ⟨fits, Nat.lt_of_not_le ?_, below⟩
  exact Nat.findGreatest_is_greatest (P := fun filled => held filled ≤ count)
    (lt_succ_self _) below

theorem lt_daysOfYears (count : ℕ) : count < daysOfYears (count / 365 + 1) := by
  unfold daysOfYears
  omega

def dayNumber (year month day : ℕ) : ℕ :=
  daysOfYears (year - 1) + daysOfMonths year (month - 1) + (day - 1)

/-- A day of a month of a year. -/
@[ext] structure Date where
  year : ℕ
  month : ℕ
  day : ℕ
  year_pos : 0 < year
  month_mem : 0 < month ∧ month ≤ 12
  day_mem : 0 < day ∧ day ≤ daysInMonth year month

namespace Date

/-- The years passed before a day. -/
def yearsBefore (number : ℕ) : ℕ := blocks daysOfYears (number / 365 + 1) number

def dayOfYear (number : ℕ) : ℕ := number - daysOfYears (yearsBefore number)

/-- The months of its year passed before a day. -/
def monthsBefore (number : ℕ) : ℕ :=
  blocks (daysOfMonths (yearsBefore number + 1)) 12 (dayOfYear number)

theorem yearsBefore_spec (number : ℕ) : daysOfYears (yearsBefore number) ≤ number ∧
    number < daysOfYears (yearsBefore number + 1) :=
  have spec := @blocks_spec daysOfYears rfl _ _ (lt_daysOfYears number)
  ⟨spec.1, spec.2.1⟩

theorem monthsBefore_spec (number : ℕ) :
    daysOfMonths (yearsBefore number + 1) (monthsBefore number) ≤ dayOfYear number ∧
      dayOfYear number < daysOfMonths (yearsBefore number + 1) (monthsBefore number + 1) ∧
      monthsBefore number < 12 := by
  apply blocks_spec rfl
  have spec := yearsBefore_spec number
  rw [daysOfYears_succ] at spec
  unfold dayOfYear
  omega

/-- The days before a day. -/
def number (date : Date) : ℕ := dayNumber date.year date.month date.day

/-- The day that some number of days is before. -/
def ofNumber (number : ℕ) : Date where
  year := yearsBefore number + 1
  month := monthsBefore number + 1
  day := dayOfYear number - daysOfMonths (yearsBefore number + 1) (monthsBefore number) + 1
  year_pos := Nat.succ_pos _
  month_mem := ⟨Nat.succ_pos _, (monthsBefore_spec number).2.2⟩
  day_mem := by
    have spec := monthsBefore_spec number
    rw [daysOfMonths] at spec
    omega

@[simp] theorem number_ofNumber (number : ℕ) : (ofNumber number).number = number := by
  have years := yearsBefore_spec number
  have months := monthsBefore_spec number
  simp only [Date.number, dayNumber, ofNumber, dayOfYear, Nat.add_sub_cancel] at months ⊢
  omega

end Date

end Calendar
