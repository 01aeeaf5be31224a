import Mathlib.Data.Nat.Digits.Lemmas
import Mathlib.Data.Nat.Size
import Mathlib.Tactic.Ring

/-! # Positional notation with a fixed number of digits -/

namespace Positional

open List

variable (radix : ℕ)

/-- The last digits of a value, the highest first. -/
def digits : ℕ → ℕ → List ℕ
  | 0, _ => []
  | count + 1, value => value / radix ^ count % radix :: digits count value

def value (digits : List ℕ) : ℕ := digits.foldl (fun value digit => radix * value + digit) 0

@[simp] theorem length_digits (count number : ℕ) : (digits radix count number).length = count := by
  induction count with
  | zero => rfl
  | succ count ih => rw [digits, length_cons, ih]

theorem foldl_value (start : ℕ) (ds : List ℕ) :
    ds.foldl (fun value digit => radix * value + digit) start =
      start * radix ^ ds.length + value radix ds := by
  unfold value
  induction ds generalizing start with
  | nil => simp
  | cons digit ds ih =>
    rw [foldl_cons, foldl_cons, ih, ih (radix * 0 + digit), length_cons]
    ring

theorem value_append (ds ds' : List ℕ) :
    value radix (ds ++ ds') = value radix ds * radix ^ ds'.length + value radix ds' := by
  change (ds ++ ds').foldl _ 0 = _
  rw [foldl_append, foldl_value]
  rfl

theorem value_cons (digit : ℕ) (ds : List ℕ) :
    value radix (digit :: ds) = digit * radix ^ ds.length + value radix ds := by
  change ds.foldl _ (radix * 0 + digit) = _
  rw [foldl_value, Nat.mul_zero, Nat.zero_add]

theorem value_replicate_zero (count : ℕ) : value radix (replicate count 0) = 0 := by
  induction count with
  | zero => rfl
  | succ count ih => rw [replicate_succ, value_cons, ih, Nat.zero_mul]

theorem value_digits (count number : ℕ) :
    value radix (digits radix count number) = number % radix ^ count := by
  induction count with
  | zero => rw [Nat.pow_zero, Nat.mod_one]; rfl
  | succ count ih =>
    rw [digits, value_cons, length_digits, ih, Nat.mod_pow_succ]
    ring

theorem digits_lt (positive : 0 < radix) (count number : ℕ) :
    ∀ digit ∈ digits radix count number, digit < radix := by
  induction count with
  | zero => exact fun _ member => by cases member
  | succ count ih =>
    intro digit member
    rcases mem_cons.mp member with rfl | member
    · exact Nat.mod_lt _ positive
    · exact ih digit member

theorem digits_append (high low number : ℕ) : digits radix (high + low) number =
    digits radix high (number / radix ^ low) ++ digits radix low number := by
  induction high with
  | zero => rw [Nat.zero_add]; rfl
  | succ high ih =>
    rw [Nat.succ_add, digits, digits, ih, Nat.div_div_eq_div_mul, ← Nat.pow_add,
      Nat.add_comm low, cons_append]

variable {radix}

theorem value_lt {ds : List ℕ} (small : ∀ digit ∈ ds, digit < radix) :
    value radix ds < radix ^ ds.length := by
  induction ds with
  | nil => exact Nat.one_pos
  | cons digit ds ih =>
    rw [value_cons, length_cons, Nat.pow_succ]
    have rest := ih (fun digit member => small digit (mem_cons_of_mem _ member))
    have head : digit + 1 ≤ radix := small digit mem_cons_self
    calc digit * radix ^ ds.length + value radix ds
      _ < digit * radix ^ ds.length + radix ^ ds.length := Nat.add_lt_add_left rest _
      _ = (digit + 1) * radix ^ ds.length := by ring
      _ ≤ radix * radix ^ ds.length := Nat.mul_le_mul_right _ head
      _ = radix ^ ds.length * radix := Nat.mul_comm _ _

theorem digits_add_mul (count high low : ℕ) :
    digits radix count (high * radix ^ count + low) = digits radix count low := by
  have each : ∀ shown, shown ≤ count →
      digits radix shown (high * radix ^ count + low) = digits radix shown low := by
    intro shown within
    induction shown with
    | zero => rfl
    | succ shown ih =>
      rw [digits, digits, ih (Nat.le_of_succ_le within)]
      obtain ⟨more, rfl⟩ := Nat.exists_eq_add_of_le within
      have split : high * radix ^ (shown + 1 + more) + low =
          radix ^ shown * (radix * (high * radix ^ more)) + low := by ring
      rcases Nat.eq_zero_or_pos radix with zero | positive
      · subst zero
        cases shown with
        | zero | succ shown => simp
      · rw [split, Nat.mul_add_div (Nat.pow_pos positive), Nat.mul_add_mod]
  exact each count (Nat.le_refl count)

theorem digits_value {ds : List ℕ} (small : ∀ digit ∈ ds, digit < radix) :
    digits radix ds.length (value radix ds) = ds := by
  induction ds with
  | nil => rfl
  | cons digit ds ih =>
    have rest : ∀ digit ∈ ds, digit < radix :=
      fun digit member => small digit (mem_cons_of_mem _ member)
    have head := small digit mem_cons_self
    have bound := value_lt rest
    rw [length_cons, digits, value_cons, digits_add_mul, ih rest, Nat.mul_comm,
      Nat.mul_add_div (Nat.lt_of_le_of_lt (Nat.zero_le _) bound), Nat.div_eq_of_lt bound,
      Nat.add_zero, Nat.mod_eq_of_lt head]

end Positional
