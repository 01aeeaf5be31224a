import Kestrel.Sessions.ChangeLedger
import Mathlib.Algebra.Order.Group.Multiset
import Mathlib.Data.List.Dedup

/-!
# What the triggers count

The per-row triggers add one for each agent of each watched row event. The statement triggers add
the same, save for rows that trade tuples or agents within one statement.
-/

namespace Kestrel.Sessions

open List

section Ledger

variable {Agent : Type*} [DecidableEq Agent] (agent : Agent)

theorem bumped_cons (bump : Bump Agent) (bumps : List (Bump Agent)) :
    bumpedChanges (bump :: bumps) agent =
        (if bump.agentId = agent then bump.changes else 0) + bumpedChanges bumps agent ∧
      bumpedAppends (bump :: bumps) agent =
        (if bump.agentId = agent then bump.appends else 0) + bumpedAppends bumps agent := by
  unfold bumpedChanges bumpedAppends
  by_cases same : bump.agentId = agent <;> simp [same]

theorem bumped_append (first second : List (Bump Agent)) : bumpedChanges (first ++ second) agent =
        bumpedChanges first agent + bumpedChanges second agent ∧
      bumpedAppends (first ++ second) agent =
        bumpedAppends first agent + bumpedAppends second agent := by
  unfold bumpedChanges bumpedAppends
  simp only [filter_append, map_append, sum_append, and_self]

theorem observed_upsert (ledger : List (LedgerRow Agent)) (slot : ℕ) (bump : Bump Agent) :
    observedChanges (upsert ledger slot bump) agent =
        observedChanges ledger agent + (if bump.agentId = agent then bump.changes else 0) ∧
      observedAppends (upsert ledger slot bump) agent =
        observedAppends ledger agent + if bump.agentId = agent then bump.appends else 0 := by
  unfold observedChanges observedAppends
  induction ledger with
  | nil => by_cases same : bump.agentId = agent <;> simp [upsert, same]
  | cons row rest ih =>
    unfold upsert
    by_cases hit : row.agentId = bump.agentId ∧ row.slot = slot
    · rw [if_pos hit]
      by_cases same : bump.agentId = agent
      · simp [hit.1, same]
        omega
      · simp [hit.1, same]
    · rw [if_neg hit, filter_cons, filter_cons]
      by_cases same : row.agentId = agent
      · simp only [same, decide_true, if_true, map_cons, sum_cons, ih]
        omega
      · simp [same, decide_false, Bool.false_eq_true, ih, and_self]

theorem observed_foldl (ledger : List (LedgerRow Agent)) (slot : ℕ) (bumps : List (Bump Agent)) :
    observedChanges (bumps.foldl (fun ledger bump => upsert ledger slot bump) ledger) agent =
        observedChanges ledger agent + bumpedChanges bumps agent ∧
      observedAppends (bumps.foldl (fun ledger bump => upsert ledger slot bump) ledger) agent =
        observedAppends ledger agent + bumpedAppends bumps agent := by
  induction bumps generalizing ledger with
  | nil => exact ⟨rfl, rfl⟩
  | cons bump bumps ih =>
    obtain ⟨changes, appends⟩ := ih (upsert ledger slot bump)
    rw [foldl_cons, changes, appends, (observed_upsert agent ledger slot bump).1,
      (observed_upsert agent ledger slot bump).2, (bumped_cons agent bump bumps).1,
      (bumped_cons agent bump bumps).2]
    omega

theorem bumped_map {agents : List Agent} (nodup : agents.Nodup) (changes appends : Agent → ℕ) :
    bumpedChanges (agents.map fun agent => ⟨agent, changes agent, appends agent⟩) agent =
        (if agent ∈ agents then changes agent else 0) ∧
      bumpedAppends (agents.map fun agent => ⟨agent, changes agent, appends agent⟩) agent =
        if agent ∈ agents then appends agent else 0 := by
  induction agents with
  | nil => exact ⟨rfl, rfl⟩
  | cons first agents ih =>
    rw [nodup_cons] at nodup
    obtain ⟨counted, counted'⟩ := ih nodup.2
    rw [map_cons, (bumped_cons agent _ _).1, (bumped_cons agent _ _).2, counted, counted']
    by_cases same : first = agent
    · subst same
      simp [nodup.1]
    · simp [same, Ne.symm same]

end Ledger

theorem changed_of_agentId {Agent Other Rest : Type*}
    {pair : HistoryRow Agent Other Rest × HistoryRow Agent Other Rest}
    (moved : pair.1.agentId ≠ pair.2.agentId) : changed pair :=
  fun same => moved (congrArg Watched.agentId same)

section Rows

variable {Agent Other Rest : Type*} [DecidableEq Agent]

theorem countOf_eq_zero {rows : List (HistoryRow Agent Other Rest)} {agent : Agent}
    (absent : agent ∉ rows.map fun row => row.agentId) : countOf rows agent = 0 := by
  unfold countOf
  rw [countP_eq_zero]
  intro row member same
  exact absent (mem_map.mpr ⟨row, member, of_decide_eq_true same⟩)

theorem bumped_statementBump (rows : List (HistoryRow Agent Other Rest)) (appends : Bool)
    (agent : Agent) :
    bumpedChanges (statementBump rows appends) agent = countOf rows agent ∧
      bumpedAppends (statementBump rows appends) agent =
        if appends then countOf rows agent else 0 := by
  unfold statementBump
  obtain ⟨changes, appended⟩ := bumped_map agent (nodup_dedup (rows.map fun row => row.agentId))
    (countOf rows) fun agent => if appends then countOf rows agent else 0
  rw [changes, appended]
  simp only [mem_dedup]
  by_cases present : agent ∈ rows.map fun row => row.agentId
  · rw [if_pos present, if_pos present]
    exact ⟨rfl, rfl⟩
  · rw [if_neg present, if_neg present, countOf_eq_zero present, ite_self]
    exact ⟨rfl, rfl⟩

theorem bumped_rows (rows : List (HistoryRow Agent Other Rest)) (appends : ℕ) (agent : Agent) :
    bumpedChanges (rows.map fun row => ⟨row.agentId, 1, appends⟩) agent = countOf rows agent ∧
      bumpedAppends (rows.map fun row => ⟨row.agentId, 1, appends⟩) agent =
        appends * countOf rows agent := by
  induction rows with
  | nil => exact ⟨rfl, rfl⟩
  | cons row rows ih =>
    rw [map_cons, (bumped_cons agent _ _).1, (bumped_cons agent _ _).2, ih.1, ih.2]
    unfold countOf
    rw [countP_cons]
    by_cases same : row.agentId = agent <;> simp [same, Nat.mul_add, Nat.add_comm]

end Rows

section Events

variable {Agent Other Rest : Type*} [DecidableEq Agent] [DecidableEq Other]

/-- The upserts of the SQLite trigger on one row event. -/
def RowEvent.bumps : RowEvent Agent Other Rest → List (Bump Agent)
  | .inserted row => [⟨row.agentId, 1, 1⟩]
  | .updated pair => rowUpdateBumps pair
  | .deleted row => [⟨row.agentId, 1, 0⟩]

theorem rowBumps_eq (statement : Statement Agent Other Rest) :
    rowBumps statement = statement.events.flatMap RowEvent.bumps := by
  cases statement with
  | insert rows | delete rows =>
    change rows.map _ = (rows.map _).flatMap _
    rw [flatMap_map, map_eq_flatMap]
    rfl
  | update pairs =>
    unfold rowBumps Statement.events
    rw [flatMap_map]
    rfl

theorem RowEvent.bumped (event : RowEvent Agent Other Rest) (agent : Agent) :
    (event.Touches agent ↔ 0 < bumpedChanges event.bumps agent) ∧
      (bumpedAppends event.bumps agent ≤ bumpedChanges event.bumps agent) ∧
      (bumpedAppends event.bumps agent = bumpedChanges event.bumps agent ↔
        (event.Touches agent → ∃ row, event = .inserted row)) := by
  cases event with
  | inserted row | deleted row =>
    unfold bumps Touches bumpedChanges bumpedAppends
    by_cases same : row.agentId = agent <;> simp [same]
  | updated pair =>
    unfold bumps Touches rowUpdateBumps bumpedChanges bumpedAppends
    by_cases moved : changed pair
    · by_cases left : pair.1.agentId = agent <;> by_cases arrived : pair.2.agentId = agent <;>
        by_cases rehomed : pair.1.agentId = pair.2.agentId <;>
        simp_all
    · simp [moved]

section Update

variable (pairs : List (HistoryRow Agent Other Rest × HistoryRow Agent Other Rest)) (agent : Agent)

/-- The changed rows that an agent keeps. -/
def stays : ℕ :=
  pairs.countP fun pair => changed pair ∧ pair.1.agentId = agent ∧ pair.2.agentId = agent

/-- The rows that come to an agent. -/
def joins : ℕ := pairs.countP fun pair => pair.1.agentId ≠ agent ∧ pair.2.agentId = agent

/-- The rows that an agent loses. -/
def leaves : ℕ := pairs.countP fun pair => pair.1.agentId = agent ∧ pair.2.agentId ≠ agent

/-- The tuples of an agent that changed rows took. -/
def gained : Multiset (Watched Agent Other) :=
  (((pairs.filter fun pair => changed pair).map fun pair => pair.2.toWatched :
    Multiset (Watched Agent Other))).filter fun row => row.agentId = agent

/-- The tuples of an agent that changed rows gave up. -/
def lost : Multiset (Watched Agent Other) :=
  (((pairs.filter fun pair => changed pair).map fun pair => pair.1.toWatched :
    Multiset (Watched Agent Other))).filter fun row => row.agentId = agent

omit [DecidableEq Other] in
theorem departedRows_eq : departedRows pairs agent = leaves pairs agent - joins pairs agent := by
  have counted : countOf (pairs.map Prod.fst) agent + joins pairs agent =
      countOf (pairs.map Prod.snd) agent + leaves pairs agent := by
    unfold countOf joins leaves
    induction pairs with
    | nil => rfl
    | cons pair pairs ih =>
      by_cases left : pair.1.agentId = agent <;> by_cases arrived : pair.2.agentId = agent <;>
        simp [left, arrived] at ih ⊢ <;> omega
  unfold departedRows
  omega

theorem bumped_update : bumpedChanges (pairs.flatMap rowUpdateBumps) agent =
      stays pairs agent + joins pairs agent + leaves pairs agent ∧
    bumpedAppends (pairs.flatMap rowUpdateBumps) agent = 0 := by
  unfold stays joins leaves
  induction pairs with
  | nil => exact ⟨rfl, rfl⟩
  | cons pair pairs ih =>
    rw [flatMap_cons, (bumped_append agent _ _).1, (bumped_append agent _ _).2, ih.1, ih.2,
      countP_cons, countP_cons, countP_cons]
    have own : bumpedChanges (rowUpdateBumps pair) agent =
          (if changed pair ∧ pair.1.agentId = agent ∧ pair.2.agentId = agent then 1 else 0) +
          (if pair.1.agentId ≠ agent ∧ pair.2.agentId = agent then 1 else 0) +
          (if pair.1.agentId = agent ∧ pair.2.agentId ≠ agent then 1 else 0) ∧
        bumpedAppends (rowUpdateBumps pair) agent = 0 := by
      unfold rowUpdateBumps bumpedChanges bumpedAppends
      by_cases moved : changed pair
      · by_cases left : pair.1.agentId = agent <;> by_cases arrived : pair.2.agentId = agent <;>
          by_cases rehomed : pair.1.agentId = pair.2.agentId <;>
          simp_all
      · have same : pair.1.agentId = pair.2.agentId := by
          by_contra other
          exact moved (changed_of_agentId other)
        by_cases left : pair.1.agentId = agent <;> simp_all
    simp only [decide_eq_true_eq]
    omega

theorem card_gained_lost : (gained pairs agent).card = stays pairs agent + joins pairs agent ∧
    (lost pairs agent).card = stays pairs agent + leaves pairs agent := by
  unfold gained lost stays joins leaves
  simp only [Multiset.filter_coe, Multiset.coe_card, ← countP_eq_length_filter,
    countP_map, countP_filter]
  induction pairs with
  | nil => exact ⟨rfl, rfl⟩
  | cons pair pairs ih =>
    simp only [countP_cons, ih.1, ih.2]
    by_cases moved : changed pair
    · by_cases left : pair.1.agentId = agent <;> by_cases arrived : pair.2.agentId = agent <;>
        simp [moved, left, arrived] <;> omega
    · have same : pair.1.agentId = pair.2.agentId := by
        by_contra other
        exact moved (changed_of_agentId other)
      by_cases left : pair.2.agentId = agent <;> simp [moved, same, left]

theorem changedRows_eq : changedRows pairs agent = (gained pairs agent - lost pairs agent).card := by
  have split : ∀ side : HistoryRow Agent Other Rest × HistoryRow Agent Other Rest →
      Watched Agent Other, ((pairs.map side : List _) : Multiset (Watched Agent Other)) =
        ((pairs.filter fun pair => changed pair).map side : List _) +
          ((pairs.filter fun pair => ¬ changed pair).map side : List _) := by
    intro side
    rw [Multiset.coe_add, ← map_append, Multiset.coe_eq_coe]
    refine (Perm.map side ?_).symm
    have perm := filter_append_perm (fun pair => decide (changed pair)) pairs
    simp only [← decide_not] at perm
    exact perm
  have unchanged : (pairs.filter fun pair => ¬ changed pair).map (fun pair => pair.2.toWatched) =
      (pairs.filter fun pair => ¬ changed pair).map fun pair => pair.1.toWatched := by
    apply map_congr_left
    intro pair member
    have kept := of_decide_eq_true (mem_filter.mp member).2
    exact (not_not.mp kept).symm
  unfold changedRows gained lost
  rw [split, split, unchanged, add_tsub_add_eq_tsub_right, Multiset.filter_sub]

end Update

end Events

end Kestrel.Sessions
