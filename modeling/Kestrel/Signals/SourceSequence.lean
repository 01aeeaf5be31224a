import Kestrel.Base.Except
import Kestrel.Base.Text
import Kestrel.Storage.DatabaseClock
import Mathlib.Algebra.GroupWithZero.Nat
import Mathlib.Data.List.MinMax

/-!
# Source sequences of durable signals

Every event of an `(agent_id, source)` scope carries a number from the scope's counter. Two more
tables copy the counter, a fourth remembers that the scope was used, and the retained events bound
it from below. Each operation runs in one transaction under the scope's handoff lock: it either
fails and leaves the ledger alone, or commits the ledger returned here.
-/

namespace Kestrel.Signals

open Except

def maxSourceSequence : ℕ := 2 ^ 63 - 1

def sourceSequenceLossError : String :=
  "both exact counter copies were lost for a previously seen scope " ++
    "or provide no positive high-water evidence"

inductive SignalError where
  | value (message : String)
  | runtime (message : String)
  | overflow (message : String)
  | database (message : String)
  deriving DecidableEq, Repr

structure Scope where
  agentId : String
  source : String
  deriving DecidableEq, Repr

/-- The rows of one scope in the counter, recovery, high-water and seen tables. -/
structure ScopeRows where
  currentSequence : Option ℕ
  recoverySequence : Option ℕ
  highWaterSequence : Option ℕ
  seen : Bool
  deriving DecidableEq, Repr

namespace ScopeRows

def absent : ScopeRows := ⟨none, none, none, false⟩

/-- All four rows after the scope served a number. -/
def full (sequence : ℕ) : ScopeRows :=
  ⟨some sequence, some sequence, some sequence, decide (0 < sequence)⟩

/-- What the copies other than the counter say. -/
def recovered (rows : ScopeRows) : ℕ :=
  max (rows.recoverySequence.getD 0) (rows.highWaterSequence.getD 0)

/-- What all three copies say. -/
def exact (rows : ScopeRows) : ℕ :=
  max (rows.currentSequence.getD 0) rows.recovered

/-- The check in front of every write of the counter or of an event. -/
def lossFence (rows : ScopeRows) : Except SignalError Unit :=
  Except.require (rows.seen = true → 1 ≤ rows.recovered) (.database sourceSequenceLossError)

/-- What the triggers copy when a number is written. -/
def mirror (rows : ScopeRows) (sequence : ℕ) : ScopeRows :=
  { rows with
    recoverySequence := some (max (rows.recoverySequence.getD 0) sequence)
    highWaterSequence := some (max (rows.highWaterSequence.getD 0) sequence)
    seen := rows.seen || decide (0 < sequence) }

/-- A write of the counter, which never ends below its copies. -/
def writeCurrent (rows : ScopeRows) (sequence : ℕ) : ScopeRows :=
  let current := max sequence rows.recovered
  { rows.mirror current with currentSequence := some current }

/-- `INSERT OR IGNORE` of the counter's row. The fence fires in front of the conflict check. -/
def insertCurrent (rows : ScopeRows) : Except SignalError ScopeRows := do
  rows.lossFence
  match rows.currentSequence with
  | some _ => .ok rows
  | none => .ok (rows.writeCurrent 0)

/-- `INSERT OR IGNORE` of the two copies' rows. -/
def insertCopies (rows : ScopeRows) : ScopeRows :=
  { rows with
    recoverySequence := some (rows.recoverySequence.getD 0)
    highWaterSequence := some (rows.highWaterSequence.getD 0) }

def markSourceSequenceSeen (rows : ScopeRows) : ScopeRows := { rows with seen := true }

end ScopeRows

/-- The value of a row that must be there. -/
def readSequence (row : Option ℕ) (disappeared outOfRange : String) : Except SignalError ℕ :=
  match row with
  | none => .error (.runtime disappeared)
  | some sequence =>
    if maxSourceSequence < sequence then .error (.runtime outOfRange) else .ok sequence

/-- An update of a row that must not lower it. -/
def nondecreasing (row : Option ℕ) (sequence : ℕ) (message : String) : Except SignalError Unit :=
  Except.require (∃ stored ∈ row, stored ≤ sequence) (.runtime message)

namespace ScopeRows

/-- `_set_source_sequence_locked`. -/
def setSourceSequence (rows : ScopeRows) (sequence : ℕ) : Except SignalError ScopeRows := do
  Except.require (sequence ≤ maxSourceSequence) (.value "source sequence is out of range")
  nondecreasing rows.currentSequence sequence "Durable signal source sequence moved backwards"
  rows.lossFence
  let rows := rows.writeCurrent sequence
  nondecreasing rows.recoverySequence sequence
    "Durable signal source recovery watermark moved backwards"
  let rows := { rows with recoverySequence := some sequence }
  nondecreasing rows.highWaterSequence sequence "Durable signal source high-water moved backwards"
  let rows := { rows with highWaterSequence := some sequence }
  .ok (if 0 < sequence then rows.markSourceSequenceSeen else rows)

/-- The greatest retained number, when it is a number the counter can have served. -/
def retainedSequence : Option ℕ → Except SignalError ℕ
  | none => .ok 0
  | some retained =>
    if 1 ≤ retained ∧ retained ≤ maxSourceSequence then .ok retained
    else .error (.runtime "Durable signal event source sequence is out of range")

/-- `_source_sequence_locked`, without the legacy migration's reconstruction from history. -/
def sourceSequence (rows : ScopeRows) (retainedMaximum : Option ℕ) :
    Except SignalError (ℕ × ScopeRows) := do
  let rows ← rows.insertCurrent
  let sequence ← readSequence rows.currentSequence
    "Durable signal source sequence row disappeared"
    "Durable signal source sequence is out of range"
  let rows := rows.insertCopies
  let recovery ← readSequence rows.recoverySequence
    "Durable signal source recovery watermark disappeared"
    "Durable signal source recovery watermark is out of range"
  let highWater ← readSequence rows.highWaterSequence
    "Durable signal source high-water row disappeared"
    "Durable signal source high-water is out of range"
  Except.require (¬(rows.seen = true ∧ recovery < 1 ∧ highWater < 1))
    (.runtime ("Durable signal source counter cannot be reconstructed: " ++
      sourceSequenceLossError))
  let retained ← retainedSequence retainedMaximum
  let exactSequence := max (max sequence recovery) highWater
  Except.require (retained ≤ exactSequence)
    (.runtime ("Durable signal source counter cannot be reconstructed exactly: " ++
      "retained history exceeds every independent high-water"))
  let repaired := max exactSequence retained
  if repaired ≠ sequence ∨ repaired ≠ recovery ∨ repaired ≠ highWater then do
    let rows ← rows.setSourceSequence repaired
    .ok (repaired, rows)
  else if 0 < repaired ∧ rows.seen = false then .ok (repaired, rows.markSourceSequenceSeen)
  else .ok (repaired, rows)

/-- `_advance_source_sequence_locked`. -/
def advance (rows : ScopeRows) (retainedMaximum : Option ℕ) :
    Except SignalError (ℕ × ScopeRows) := do
  let (current, rows) ← rows.sourceSequence retainedMaximum
  Except.require (current < maxSourceSequence)
    (.overflow "Durable signal source sequence exhausted")
  let rows ← rows.setSourceSequence (current + 1)
  .ok (current + 1, rows)

variable {rows : ScopeRows} {sequence : ℕ} {retainedMaximum : Option ℕ}

variable {Result : Type} {result : Result} {row : Option ℕ}

theorem lossFence_bind_eq_ok {next : Unit → Except SignalError Result} :
    (rows.lossFence >>= next) = .ok result ↔
      (rows.seen = true → 1 ≤ rows.recovered) ∧ next () = .ok result :=
  require_bind_eq_ok

theorem nondecreasing_bind_eq_ok {message : String} {next : Unit → Except SignalError Result} :
    (nondecreasing row sequence message >>= next) = .ok result ↔
      (∃ stored ∈ row, stored ≤ sequence) ∧ next () = .ok result :=
  require_bind_eq_ok

theorem readSequence_eq_ok {disappeared outOfRange : String}
    (found : readSequence row disappeared outOfRange = .ok sequence) :
    row = some sequence ∧ sequence ≤ maxSourceSequence := by
  unfold readSequence at found
  cases row with
  | none => cases found
  | some stored =>
    dsimp only at found
    by_cases large : maxSourceSequence < stored
    · rw [if_pos large] at found
      cases found
    · rw [if_neg large] at found
      cases found
      exact ⟨rfl, not_lt.mp large⟩

theorem setSourceSequence_eq_ok {rows' : ScopeRows}
    (written : rows.setSourceSequence sequence = .ok rows') :
    rows' = full sequence ∧ sequence ≤ maxSourceSequence := by
  unfold setSourceSequence at written
  obtain ⟨bounded, written⟩ := require_bind_eq_ok.mp written
  obtain ⟨_, written⟩ := nondecreasing_bind_eq_ok.mp written
  obtain ⟨witnessed, written⟩ := lossFence_bind_eq_ok.mp written
  obtain ⟨⟨recovery, stored, recoveryLow⟩, written⟩ := nondecreasing_bind_eq_ok.mp written
  obtain ⟨⟨highWater, stored', highWaterLow⟩, written⟩ := nondecreasing_bind_eq_ok.mp written
  cases stored
  cases stored'
  refine ⟨?_, bounded⟩
  have low : rows.recovered ≤ sequence := by
    unfold recovered
    omega
  cases written
  have current : max sequence rows.recovered = sequence := max_eq_left low
  by_cases positive : 0 < sequence
  · simp [writeCurrent, mirror, markSourceSequenceSeen, full, current, positive]
  · have unseen : rows.seen = false := by
      by_contra seen
      have := witnessed (by simpa using seen)
      omega
    simp [writeCurrent, mirror, full, current, positive, unseen]

/-- Creating the counter's row adds nothing to what the copies say. -/
theorem insertCurrent_eq_ok {rows' : ScopeRows} (inserted : rows.insertCurrent = .ok rows') :
    rows'.exact = rows.exact ∧ (rows.seen = true → 0 < rows.exact) ∧
      (rows'.seen = true → rows'.recovered ≠ 0) := by
  unfold insertCurrent at inserted
  obtain ⟨witnessed, inserted⟩ := lossFence_bind_eq_ok.mp inserted
  have positive : rows.seen = true → 0 < rows.exact := by
    intro seen
    have := witnessed seen
    unfold exact
    omega
  cases stored : rows.currentSequence with
  | some sequence =>
    simp only [stored] at inserted
    cases inserted
    refine ⟨rfl, positive, ?_⟩
    intro seen
    have := witnessed seen
    omega
  | none =>
    simp only [stored] at inserted
    cases inserted
    refine ⟨?_, positive, ?_⟩
    · simp [exact, writeCurrent, mirror, stored, recovered]
    · intro seen
      have written : rows.seen = true ∨ 0 < rows.recovered := by
        simpa [writeCurrent, mirror] using seen
      have positive : 0 < rows.recovered := written.elim witnessed id
      simp only [writeCurrent, mirror, recovered, Option.getD_some] at positive ⊢
      omega

theorem retainedSequence_eq_ok {retained : ℕ}
    (found : retainedSequence retainedMaximum = .ok retained) :
    retained = retainedMaximum.getD 0 := by
  unfold retainedSequence at found
  cases retainedMaximum with
  | none =>
    cases found
    rfl
  | some stored =>
    dsimp only at found
    by_cases inRange : 1 ≤ stored ∧ stored ≤ maxSourceSequence
    · rw [if_pos inRange] at found
      cases found
      rfl
    · rw [if_neg inRange] at found
      cases found

/-- A scope whose number can be told is left with that number in every row. The number is what the
surviving copies say, no retained event exceeds it, and a seen scope has a positive one. -/
theorem sourceSequence_eq_ok {rows' : ScopeRows}
    (located : rows.sourceSequence retainedMaximum = .ok (sequence, rows')) :
    sequence = rows.exact ∧ rows' = full sequence ∧ retainedMaximum.getD 0 ≤ sequence ∧
      (rows.seen = true → 0 < sequence) := by
  unfold sourceSequence at located
  obtain ⟨inserted, insertion, located⟩ := bind_eq_ok.mp located
  obtain ⟨sameExact, positive, witnessed⟩ := insertCurrent_eq_ok insertion
  obtain ⟨current, currentRead, located⟩ := bind_eq_ok.mp located
  obtain ⟨recovery, recoveryRead, located⟩ := bind_eq_ok.mp located
  obtain ⟨highWater, highWaterRead, located⟩ := bind_eq_ok.mp located
  obtain ⟨currentStored, _⟩ := readSequence_eq_ok currentRead
  obtain ⟨recoveryStored, _⟩ := readSequence_eq_ok recoveryRead
  obtain ⟨highWaterStored, _⟩ := readSequence_eq_ok highWaterRead
  cases recoveryStored
  cases highWaterStored
  obtain ⟨_, located⟩ := require_bind_eq_ok.mp located
  obtain ⟨retained, retainedRead, located⟩ := bind_eq_ok.mp located
  have retainedEq := retainedSequence_eq_ok retainedRead
  obtain ⟨covered, located⟩ := require_bind_eq_ok.mp located
  have same : max (max current (inserted.recoverySequence.getD 0))
      (inserted.highWaterSequence.getD 0) = rows.exact := by
    rw [← sameExact, exact, currentStored, Option.getD_some, recovered, max_assoc]
  rw [same] at covered located
  rw [max_eq_left covered] at located
  have bounded : retainedMaximum.getD 0 ≤ rows.exact := retainedEq ▸ covered
  by_cases differs : rows.exact ≠ current ∨ rows.exact ≠ inserted.recoverySequence.getD 0 ∨
      rows.exact ≠ inserted.highWaterSequence.getD 0
  · rw [if_pos differs] at located
    obtain ⟨repaired, repair, located⟩ := bind_eq_ok.mp located
    cases located
    exact ⟨rfl, (setSourceSequence_eq_ok repair).1, bounded, positive⟩
  · rw [if_neg differs] at located
    push Not at differs
    obtain ⟨currentEq, recoveryEq, highWaterEq⟩ := differs
    have kept : inserted.insertCopies =
        ⟨some rows.exact, some rows.exact, some rows.exact, inserted.seen⟩ := by
      rw [insertCopies, currentStored, ← currentEq, ← recoveryEq, ← highWaterEq]
    rw [kept] at located
    by_cases unmarked : 0 < rows.exact ∧ inserted.seen = false
    · rw [if_pos unmarked] at located
      cases located
      refine ⟨rfl, ?_, bounded, positive⟩
      simp [markSourceSequenceSeen, full, unmarked.1]
    · rw [if_neg unmarked] at located
      cases located
      refine ⟨rfl, ?_, bounded, positive⟩
      have seenIff : inserted.seen = decide (0 < rows.exact) := by
        by_cases nonzero : 0 < rows.exact
        · have seen : inserted.seen ≠ false := fun unseen => unmarked ⟨nonzero, unseen⟩
          simpa [nonzero] using seen
        · have unseen : inserted.seen ≠ true := by
            intro seen
            apply witnessed seen
            rw [recovered, ← recoveryEq, ← highWaterEq]
            omega
          simpa [nonzero] using unseen
      rw [full, ← seenIff]

/-- The next number is one above what the surviving copies say. -/
theorem advance_eq_ok {rows' : ScopeRows}
    (advanced : rows.advance retainedMaximum = .ok (sequence, rows')) :
    sequence = rows.exact + 1 ∧ rows' = full sequence ∧ sequence ≤ maxSourceSequence ∧
      retainedMaximum.getD 0 ≤ rows.exact ∧ (rows.seen = true → 0 < rows.exact) := by
  unfold advance at advanced
  obtain ⟨⟨current, located⟩, locate, advanced⟩ := bind_eq_ok.mp advanced
  obtain ⟨_, advanced⟩ := require_bind_eq_ok.mp advanced
  obtain ⟨written, write, advanced⟩ := bind_eq_ok.mp advanced
  obtain ⟨rfl, _, retained, positive⟩ := sourceSequence_eq_ok locate
  obtain ⟨rfl, bounded⟩ := setSourceSequence_eq_ok write
  cases advanced
  exact ⟨rfl, rfl, bounded, retained, positive⟩

end ScopeRows

end Kestrel.Signals
