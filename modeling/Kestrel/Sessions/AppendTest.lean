import Kestrel.Sessions.TriggerCounts
import Mathlib.Order.Bounds.Basic

/-!
# The append test

With counts as the rows give them, three numbers tell appends above a target from every other
history. The statement triggers count so exactly where no update trades rows within itself.
-/

namespace Kestrel.Sessions

open List RowEvent Nat

variable {Agent Other Rest : Type*} [DecidableEq Agent] [DecidableEq Other]

/-- No changed row takes what another one of the agent gave up, and the agent does not both gain and
lose rows. -/
def Separate (agent : Agent) : Statement Agent Other Rest → Prop
  | .update pairs =>
    (∀ pair ∈ pairs, ∀ other ∈ pairs, changed pair → changed other →
      pair.2.toWatched = other.1.toWatched → pair.2.agentId ≠ agent) ∧
    ((∀ pair ∈ pairs, pair.2.agentId = agent → pair.1.agentId = agent) ∨
      ∀ pair ∈ pairs, pair.1.agentId = agent → pair.2.agentId = agent)
  | _ => True

section Statements

variable (pairs : List (HistoryRow Agent Other Rest × HistoryRow Agent Other Rest)) (agent : Agent)

theorem bumped_updateStatementBump : bumpedChanges (updateStatementBump pairs) agent =
        changedRows pairs agent + departedRows pairs agent ∧
      bumpedAppends (updateStatementBump pairs) agent = 0 := by
  unfold updateStatementBump
  have nodup := (nodup_dedup (pairs.flatMap fun pair =>
    [pair.1.agentId, pair.2.agentId])).filter fun agent =>
      decide (0 < changedRows pairs agent + departedRows pairs agent)
  obtain ⟨changes, appends⟩ := bumped_map agent nodup
    (fun agent => changedRows pairs agent + departedRows pairs agent) fun _ => 0
  rw [changes, appends, ite_self]
  refine ⟨?_, rfl⟩
  by_cases named : agent ∈ (pairs.flatMap fun pair => [pair.1.agentId, pair.2.agentId]).dedup.filter
      fun agent => decide (0 < changedRows pairs agent + departedRows pairs agent)
  · rw [if_pos named]
  · rw [if_neg named]
    -- An agent that no row names has no counts.
    by_contra counted
    apply named
    refine mem_filter.mpr ⟨mem_dedup.mpr ?_, decide_eq_true (by omega)⟩
    by_contra absent
    have away : ∀ pair ∈ pairs, pair.1.agentId ≠ agent ∧ pair.2.agentId ≠ agent := by
      intro pair member
      rw [mem_flatMap] at absent
      refine ⟨fun same => absent ⟨pair, member, ?_⟩, fun same => absent ⟨pair, member, ?_⟩⟩
      · rw [same]
        exact mem_cons_self
      · rw [same]
        exact mem_cons_of_mem _ mem_cons_self
    apply counted
    rw [changedRows_eq, departedRows_eq]
    have none : gained pairs agent = 0 := by
      apply Multiset.card_eq_zero.mp
      rw [(card_gained_lost pairs agent).1]
      unfold stays joins
      rw [countP_eq_zero.mpr, countP_eq_zero.mpr]
      · intro pair member found
        exact (away pair member).2 (of_decide_eq_true found).2
      · intro pair member found
        exact (away pair member).2 (of_decide_eq_true found).2.2
    have kept : leaves pairs agent = 0 := by
      unfold leaves
      rw [countP_eq_zero]
      intro pair member found
      exact (away pair member).1 (of_decide_eq_true found).1
    rw [none, kept, Multiset.zero_sub, Multiset.card_zero, Nat.zero_sub]

/-- What a statement count misses of an update. -/
def mixed : ℕ := (gained pairs agent ∩ lost pairs agent).card + min (joins pairs agent) (leaves pairs agent)

theorem statement_update_add_mixed :
    bumpedChanges (updateStatementBump pairs) agent + mixed pairs agent =
      bumpedChanges (pairs.flatMap rowUpdateBumps) agent := by
  have split : (gained pairs agent - lost pairs agent).card +
      (gained pairs agent ∩ lost pairs agent).card = (gained pairs agent).card := by
    rw [← Multiset.card_add, Multiset.sub_add_inter]
  rw [(bumped_updateStatementBump pairs agent).1, (bumped_update pairs agent).1, changedRows_eq,
    departedRows_eq]
  rw [(card_gained_lost pairs agent).1] at split
  unfold mixed
  omega

theorem mixed_eq_zero : mixed pairs agent = 0 ↔ Separate agent (.update pairs) := by
  have traded : (gained pairs agent ∩ lost pairs agent).card = 0 ↔
      ∀ pair ∈ pairs, ∀ other ∈ pairs, changed pair → changed other →
        pair.2.toWatched = other.1.toWatched → pair.2.agentId ≠ agent := by
    rw [Multiset.card_eq_zero, Multiset.eq_zero_iff_forall_notMem]
    unfold gained lost
    simp only [Multiset.mem_inter, Multiset.mem_filter, Multiset.mem_coe, mem_map,
      mem_filter, decide_eq_true_eq, not_and]
    constructor
    · intro none pair member other member' moved moved' same own
      exact none _ ⟨⟨pair, ⟨member, moved⟩, rfl⟩, own⟩ ⟨other, ⟨member', moved'⟩, same.symm⟩ own
    · rintro none _ ⟨⟨pair, ⟨member, moved⟩, rfl⟩, own⟩ ⟨other, ⟨member', moved'⟩, same⟩ _
      exact none pair member other member' moved moved' same.symm own
  have oneWay : min (joins pairs agent) (leaves pairs agent) = 0 ↔
      (∀ pair ∈ pairs, pair.2.agentId = agent → pair.1.agentId = agent) ∨
        ∀ pair ∈ pairs, pair.1.agentId = agent → pair.2.agentId = agent := by
    rw [Nat.min_eq_zero_iff]
    unfold joins leaves
    rw [countP_eq_zero, countP_eq_zero]
    refine or_congr ?_ ?_
    all_goals
      refine forall_congr' fun pair => forall_congr' fun _ => ?_
      rw [decide_eq_true_iff]
      tauto
  unfold mixed Separate
  rw [Nat.add_eq_zero_iff, traded, oneWay]

end Statements

theorem bumped_statementBumps (statement : Statement Agent Other Rest) (agent : Agent) :
    (bumpedChanges (statementBumps statement) agent = bumpedChanges (rowBumps statement) agent ↔
        Separate agent statement) ∧
      bumpedAppends (statementBumps statement) agent =
        bumpedAppends (rowBumps statement) agent := by
  cases statement with
  | insert rows =>
    refine ⟨iff_of_true ?_ trivial, ?_⟩
    · exact (bumped_statementBump rows true agent).1.trans (bumped_rows rows 1 agent).1.symm
    · refine (bumped_statementBump rows true agent).2.trans ?_
      exact ((bumped_rows rows 1 agent).2.trans (one_mul _)).symm
  | delete rows =>
    refine ⟨iff_of_true ?_ trivial, ?_⟩
    · exact (bumped_statementBump rows false agent).1.trans (bumped_rows rows 0 agent).1.symm
    · refine (bumped_statementBump rows false agent).2.trans ?_
      exact ((bumped_rows rows 0 agent).2.trans (Nat.zero_mul _)).symm
  | update pairs =>
    have counted := statement_update_add_mixed pairs agent
    refine ⟨?_, ?_⟩
    · rw [← mixed_eq_zero]
      change bumpedChanges (updateStatementBump pairs) agent =
        bumpedChanges (pairs.flatMap rowUpdateBumps) agent ↔ _
      omega
    · exact (bumped_updateStatementBump pairs agent).2.trans (bumped_update pairs agent).2.symm

section Events

variable (events : List (RowEvent Agent Other Rest)) (agent : Agent)

def insertedTuples : List (Watched Agent Other) :=
  events.filterMap fun event => match event with
    | .inserted row => if row.agentId = agent then some row.toWatched else none
    | _ => none

theorem bumped_events : (bumpedChanges (events.flatMap RowEvent.bumps) agent = 0 ↔
        ∀ event ∈ events, ¬ event.Touches agent) ∧
      bumpedAppends (events.flatMap RowEvent.bumps) agent ≤
        bumpedChanges (events.flatMap RowEvent.bumps) agent ∧
      (bumpedAppends (events.flatMap RowEvent.bumps) agent =
          bumpedChanges (events.flatMap RowEvent.bumps) agent ↔
        ∀ event ∈ events, event.Touches agent → ∃ row, event = .inserted row) := by
  induction events with
  | nil =>
    refine ⟨iff_of_true rfl ?_, le_refl 0, iff_of_true rfl ?_⟩
    all_goals
      intro event member
      cases member
  | cons event events ih =>
    obtain ⟨touched, below, same⟩ := event.bumped agent
    obtain ⟨none, below', same'⟩ := ih
    rw [flatMap_cons, (bumped_append agent _ _).1, (bumped_append agent _ _).2,
      forall_mem_cons, forall_mem_cons, ← none, ← same', ← same, touched]
    omega

theorem length_insertedTuples :
    (insertedTuples events agent).length = bumpedAppends (events.flatMap RowEvent.bumps) agent := by
  induction events with
  | nil => rfl
  | cons event events ih =>
    rw [flatMap_cons, (bumped_append agent _ _).2, ← ih]
    unfold insertedTuples
    cases event with
    | inserted row =>
      unfold RowEvent.bumps bumpedAppends
      by_cases same : row.agentId = agent <;> simp [same, add_comm]
    | deleted row =>
      unfold RowEvent.bumps bumpedAppends
      by_cases same : row.agentId = agent <;> simp [same]
    | updated pair =>
      have none : bumpedAppends (updated pair).bumps agent = 0 := by
        have counted := (bumped_update [pair] agent).2
        rw [flatMap_cons, flatMap_nil, append_nil] at counted
        exact counted
      rw [none, zero_add]
      rfl

omit [DecidableEq Other] in
theorem mem_insertedTuples {tuple : Watched Agent Other} : tuple ∈ insertedTuples events agent ↔
      ∃ row, .inserted row ∈ events ∧ row.agentId = agent ∧ row.toWatched = tuple := by
  unfold insertedTuples
  rw [mem_filterMap]
  constructor
  · rintro ⟨event, member, found⟩
    cases event with
    | inserted row =>
      simp only at found
      split_ifs at found with same
      exact ⟨row, member, same, Option.some.inj found⟩
    | deleted row | updated pair => cases found
  · rintro ⟨row, member, same, rfl⟩
    exact ⟨.inserted row, member, if_pos same⟩

end Events

def watchedOf (rows : Multiset (HistoryRow Agent Other Rest)) (agent : Agent) :
    Multiset (Watched Agent Other) :=
  (rows.map fun row => row.toWatched).filter fun tuple => tuple.agentId = agent

omit [DecidableEq Other] in
theorem rowsAbove_eq (rows : Multiset (HistoryRow Agent Other Rest)) (agent : Agent) (target : ℤ) :
    rowsAbove rows agent target =
      ((watchedOf rows agent).filter fun tuple => target < tuple.id).card := by
  unfold rowsAbove watchedOf
  rw [Multiset.filter_filter, Multiset.filter_map, Multiset.card_map]
  congr 1
  apply Multiset.filter_congr
  intro row _
  exact and_comm

omit [DecidableEq Other] in
theorem watchedOf_add (first second : Multiset (HistoryRow Agent Other Rest)) (agent : Agent) :
    watchedOf (first + second) agent = watchedOf first agent + watchedOf second agent := by
  unfold watchedOf
  rw [Multiset.map_add, Multiset.filter_add]

omit [DecidableEq Other] in
theorem watchedOf_inserted (rows : List (HistoryRow Agent Other Rest)) (agent : Agent) :
    watchedOf (rows : Multiset (HistoryRow Agent Other Rest)) agent =
      (insertedTuples (rows.map .inserted) agent : Multiset (Watched Agent Other)) := by
  unfold watchedOf insertedTuples
  rw [Multiset.map_coe, Multiset.filter_coe, Multiset.coe_eq_coe]
  apply Perm.of_eq
  induction rows with
  | nil => rfl
  | cons row rows ih =>
    rw [map_cons, map_cons, filter_cons, filterMap_cons, ih]
    by_cases same : row.agentId = agent <;> simp [same]

theorem watchedOf_update {agent : Agent}
    {pairs : List (HistoryRow Agent Other Rest × HistoryRow Agent Other Rest)}
    (away : ∀ pair ∈ pairs, ¬ (updated pair).Touches agent) :
    watchedOf (pairs.map Prod.snd : Multiset (HistoryRow Agent Other Rest)) agent =
      watchedOf (pairs.map Prod.fst : Multiset (HistoryRow Agent Other Rest)) agent := by
  unfold watchedOf
  rw [Multiset.map_coe, Multiset.filter_coe, Multiset.map_coe, Multiset.filter_coe,
    Multiset.coe_eq_coe]
  apply Perm.of_eq
  induction pairs with
  | nil => rfl
  | cons pair pairs ih =>
    obtain ⟨first, rest⟩ := forall_mem_cons.mp away
    simp only [map_cons, filter_cons, ih rest]
    by_cases moved : changed pair
    · have outside := not_or.mp (fun inside => first ⟨moved, inside⟩)
      rw [if_neg (by simpa using outside.2), if_neg (by simpa using outside.1)]
    · rw [not_not.mp moved]

theorem watchedOf_step {agent : Agent} {before after : Multiset (HistoryRow Agent Other Rest)}
    {statement : Statement Agent Other Rest} (executes : Executes before statement after)
    (inserts : ∀ event ∈ statement.events, event.Touches agent → ∃ row, event = .inserted row) :
    watchedOf after agent =
      watchedOf before agent + (insertedTuples statement.events agent : Multiset _) := by
  cases executes with
  | insert added => rw [watchedOf_add, watchedOf_inserted, Statement.events]
  | update pairs =>
    have none : insertedTuples (Statement.update pairs).events agent = [] := by
      apply eq_nil_iff_forall_not_mem.mpr
      intro tuple member
      obtain ⟨row, stored, _⟩ := (mem_insertedTuples _ agent).mp member
      obtain ⟨pair, _, impossible⟩ := mem_map.mp stored
      cases impossible
    have away : ∀ pair ∈ pairs, ¬ (updated pair).Touches agent := by
      intro pair member touches
      obtain ⟨row, impossible⟩ := inserts _ (mem_map_of_mem member) touches
      cases impossible
    rw [watchedOf_add, watchedOf_add, watchedOf_update away, none, Multiset.coe_nil, add_zero]
  | delete removed =>
    have none : insertedTuples (Statement.delete removed).events agent = [] := by
      apply eq_nil_iff_forall_not_mem.mpr
      intro tuple member
      obtain ⟨row, stored, _⟩ := (mem_insertedTuples _ agent).mp member
      obtain ⟨other, _, impossible⟩ := mem_map.mp stored
      cases impossible
    have away : watchedOf (removed : Multiset (HistoryRow Agent Other Rest)) agent = 0 := by
      rw [watchedOf, Multiset.filter_eq_nil]
      intro tuple member same
      obtain ⟨row, stored, rfl⟩ := Multiset.mem_map.mp member
      obtain ⟨other, impossible⟩ := inserts (.deleted row) (mem_map_of_mem stored) same
      cases impossible
    rw [watchedOf_add, away, none, Multiset.coe_nil, add_zero, add_zero]

section Runs

variable {backend : Backend} {before after : History Agent Other Rest}
  {labels : List (Statement Agent Other Rest × ℕ)} {agent : Agent}

def runEvents (labels : List (Statement Agent Other Rest × ℕ)) :
    List (RowEvent Agent Other Rest) :=
  labels.flatMap fun label => label.1.events

theorem observed_run (run : Transition.Run (HistoryStep backend) before labels after)
    (counted : ∀ label ∈ labels, bumpedChanges (bumps backend label.1) agent =
        bumpedChanges (rowBumps label.1) agent ∧
      bumpedAppends (bumps backend label.1) agent = bumpedAppends (rowBumps label.1) agent) :
    observedChanges after.ledger agent = observedChanges before.ledger agent +
        bumpedChanges ((runEvents labels).flatMap RowEvent.bumps) agent ∧
      observedAppends after.ledger agent = observedAppends before.ledger agent +
        bumpedAppends ((runEvents labels).flatMap RowEvent.bumps) agent := by
  induction run with
  | nil => exact ⟨rfl, rfl⟩
  | cons step _ ih =>
    obtain ⟨first, rest⟩ := forall_mem_cons.mp counted
    obtain ⟨changes, appends⟩ := ih rest
    unfold runEvents at changes appends ⊢
    rw [flatMap_cons, flatMap_append, (bumped_append agent _ _).1,
      (bumped_append agent _ _).2, changes, appends, step.2, (observed_foldl agent _ _ _).1,
      (observed_foldl agent _ _ _).2, first.1, first.2, rowBumps_eq]
    omega

theorem watchedOf_run (run : Transition.Run (HistoryStep backend) before labels after)
    (inserts : ∀ event ∈ runEvents labels, event.Touches agent → ∃ row, event = .inserted row) :
    watchedOf after.rows agent = watchedOf before.rows agent +
      (insertedTuples (runEvents labels) agent : Multiset (Watched Agent Other)) := by
  induction run with
  | nil => exact (add_zero _).symm
  | cons step _ ih =>
    unfold runEvents at inserts ih ⊢
    rw [flatMap_cons] at inserts ⊢
    obtain ⟨first, rest⟩ := forall_mem_append.mp inserts
    rw [ih rest, watchedOf_step step.1 first]
    unfold insertedTuples
    rw [filterMap_append, ← Multiset.coe_add, add_assoc]

/-- The agent's greatest id, or zero. -/
def IsTarget (rows : Multiset (HistoryRow Agent Other Rest)) (agent : Agent) (target : ℤ) : Prop :=
  IsGreatest {id | ∃ row ∈ rows, row.agentId = agent ∧ row.id = id} target ∨
    (∀ row ∈ rows, row.agentId ≠ agent) ∧ target = 0

omit [DecidableEq Other] in
theorem rowsAbove_of_isTarget {rows : Multiset (HistoryRow Agent Other Rest)} {target : ℤ}
    (isTarget : IsTarget rows agent target) : rowsAbove rows agent target = 0 := by
  unfold rowsAbove
  rw [Multiset.card_eq_zero, Multiset.filter_eq_nil]
  rintro row member ⟨own, above⟩
  rcases isTarget with greatest | ⟨absent, _⟩
  · exact absurd above (not_lt.mpr (greatest.2 ⟨row, member, own, rfl⟩))
  · exact absent row member own

/-- What the counters tell of the statements since they were read. -/
structure Exact (backend : Backend) (before after : History Agent Other Rest)
    (labels : List (Statement Agent Other Rest × ℕ)) (agent : Agent) (target : ℤ) : Prop where
  appendTest : onlyAppendsAbove
      ((observedChanges after.ledger agent : ℤ) - observedChanges before.ledger agent)
      ((observedAppends after.ledger agent : ℤ) - observedAppends before.ledger agent)
      (rowsAbove after.rows agent target) = true ↔
    AppendedAbove (runEvents labels) agent target
  kept : AppendedAbove (runEvents labels) agent target →
    (watchedOf after.rows agent).filter (fun tuple => tuple.id ≤ target) =
      (watchedOf before.rows agent).filter fun tuple => tuple.id ≤ target
  unmoved : observedChanges after.ledger agent = observedChanges before.ledger agent ↔
    ∀ event ∈ runEvents labels, ¬ event.Touches agent
  sameCounts : ∀ label ∈ labels, ∀ agent,
    bumpedChanges (bumps backend label.1) agent = bumpedChanges (rowBumps label.1) agent ∧
      bumpedAppends (bumps backend label.1) agent = bumpedAppends (rowBumps label.1) agent

theorem onlyAppendsAbove_iff {target : ℤ} (top : rowsAbove before.rows agent target = 0)
    (run : Transition.Run (HistoryStep backend) before labels after) :
    onlyAppendsAbove (bumpedChanges ((runEvents labels).flatMap RowEvent.bumps) agent)
        (bumpedAppends ((runEvents labels).flatMap RowEvent.bumps) agent)
        (rowsAbove after.rows agent target) = true ↔
      AppendedAbove (runEvents labels) agent target := by
  obtain ⟨_, _, onlyInserts⟩ := bumped_events (runEvents labels) agent
  have arrived := length_insertedTuples (runEvents labels) agent
  have above : (∀ event ∈ runEvents labels, event.Touches agent → ∃ row, event = .inserted row) →
      rowsAbove after.rows agent target =
        ((insertedTuples (runEvents labels) agent).filter fun tuple => target < tuple.id).length := by
    intro inserts
    rw [rowsAbove_eq] at top ⊢
    rw [watchedOf_run run inserts, Multiset.filter_add, Multiset.card_add, top, Nat.zero_add,
      Multiset.filter_coe, Multiset.coe_card]
  unfold onlyAppendsAbove AppendedAbove
  rw [decide_eq_true_iff]
  constructor
  · rintro ⟨some, appends, stands⟩
    have inserts := onlyInserts.mp (by omega)
    rw [above inserts] at stands
    have all : ∀ tuple ∈ insertedTuples (runEvents labels) agent, target < tuple.id := by
      have full : ((insertedTuples (runEvents labels) agent).filter fun tuple =>
          target < tuple.id).length = (insertedTuples (runEvents labels) agent).length := by omega
      intro tuple member
      exact of_decide_eq_true (length_filter_eq_length_iff.mp full tuple member)
    have nonempty : insertedTuples (runEvents labels) agent ≠ [] := by
      intro none
      rw [none] at arrived
      change 0 = _ at arrived
      omega
    obtain ⟨tuple, member⟩ := exists_mem_of_ne_nil _ nonempty
    obtain ⟨row, stored, own, _⟩ := (mem_insertedTuples _ agent).mp member
    refine ⟨⟨row, stored, own⟩, ?_⟩
    intro event happened touches
    obtain ⟨row, rfl⟩ := inserts event happened touches
    exact ⟨row, rfl, all _ ((mem_insertedTuples _ agent).mpr ⟨row, happened, touches, rfl⟩)⟩
  · rintro ⟨⟨row, stored, own⟩, inserted⟩
    have inserts : ∀ event ∈ runEvents labels, event.Touches agent →
        ∃ row, event = .inserted row := by
      intro event happened touches
      obtain ⟨row, same, _⟩ := inserted event happened touches
      exact ⟨row, same⟩
    have all : ∀ tuple ∈ insertedTuples (runEvents labels) agent, decide (target < tuple.id) := by
      intro tuple member
      obtain ⟨row, stored, own, rfl⟩ := (mem_insertedTuples _ agent).mp member
      obtain ⟨other, same, stands⟩ := inserted _ stored own
      cases same
      exact decide_eq_true stands
    have same := onlyInserts.mpr inserts
    have present := length_pos_of_mem
      ((mem_insertedTuples (runEvents labels) agent).mpr ⟨row, stored, own, rfl⟩)
    have full := length_filter_eq_length_iff.mpr all
    rw [above inserts]
    omega

/-- The three numbers are exact on SQLite, and on PostgreSQL where every update is separate. -/
theorem append_test_exact_iff (run : Transition.Run (HistoryStep backend) before labels after)
    {target : ℤ} (isTarget : IsTarget before.rows agent target) :
    Exact backend before after labels agent target ↔
      backend = .sqlite ∨ ∀ label ∈ labels, ∀ agent, Separate agent label.1 := by
  have same : (∀ label ∈ labels, ∀ agent,
      bumpedChanges (bumps backend label.1) agent = bumpedChanges (rowBumps label.1) agent ∧
        bumpedAppends (bumps backend label.1) agent = bumpedAppends (rowBumps label.1) agent) ↔
      backend = .sqlite ∨ ∀ label ∈ labels, ∀ agent, Separate agent label.1 := by
    cases backend with
    | sqlite => exact iff_of_true (fun _ _ _ => ⟨rfl, rfl⟩) (.inl rfl)
    | postgres =>
      rw [or_iff_right (by decide)]
      refine forall_congr' fun label => forall_congr' fun _ => forall_congr' fun agent => ?_
      rw [← (bumped_statementBumps label.1 agent).1]
      exact and_iff_left (bumped_statementBumps label.1 agent).2
  refine ⟨fun exact => same.mp exact.sameCounts, fun separate => ?_⟩
  have counted := same.mpr separate
  obtain ⟨changes, appends⟩ := observed_run run fun label member => counted label member agent
  refine ⟨?_, ?_, ?_, counted⟩
  · have added : ∀ first second : ℕ, ((first + second : ℕ) : ℤ) - first = second := by
      intro first second
      omega
    rw [changes, appends, added, added]
    exact onlyAppendsAbove_iff (rowsAbove_of_isTarget isTarget) run
  · rintro ⟨_, inserted⟩
    have inserts : ∀ event ∈ runEvents labels, event.Touches agent →
        ∃ row, event = .inserted row := by
      intro event happened touches
      obtain ⟨row, same, _⟩ := inserted event happened touches
      exact ⟨row, same⟩
    rw [watchedOf_run run inserts, Multiset.filter_add]
    have none : (insertedTuples (runEvents labels) agent : Multiset (Watched Agent Other)).filter
        (fun tuple => tuple.id ≤ target) = 0 := by
      rw [Multiset.filter_eq_nil]
      intro tuple member below
      obtain ⟨row, stored, own, rfl⟩ := (mem_insertedTuples _ agent).mp member
      obtain ⟨other, same, stands⟩ := inserted _ stored own
      cases same
      exact absurd below (not_le.mpr stands)
    rw [none, add_zero]
  · rw [changes, ← (bumped_events (runEvents labels) agent).1]
    omega

end Runs

/-- Rows that trade their agents. -/
def rowOfA : HistoryRow String Unit Unit := ⟨⟨1, "A", ()⟩, ()⟩

def rowOfB : HistoryRow String Unit Unit := ⟨⟨2, "B", ()⟩, ()⟩

def tradedToB : HistoryRow String Unit Unit := ⟨⟨1, "B", ()⟩, ()⟩

def tradedToA : HistoryRow String Unit Unit := ⟨⟨2, "A", ()⟩, ()⟩

/-- One statement that trades two rows between two agents. -/
def trade : Statement String Unit Unit := .update [(rowOfA, tradedToB), (rowOfB, tradedToA)]

/-- An insert counts as an append. -/
theorem append_test_exact_executed : ∃ after : History String Unit Unit,
      Transition.Run (HistoryStep .postgres) ⟨0, []⟩ [(.insert [rowOfA], 7)] after ∧
        Exact .postgres ⟨0, []⟩ after [(.insert [rowOfA], 7)] "A" 0 := by
  have run : Transition.Run (HistoryStep .postgres) (⟨0, []⟩ : History String Unit Unit)
      [(.insert [rowOfA], 7)] ⟨0 + [rowOfA], _⟩ := .cons ⟨.insert _, rfl⟩ (.nil _)
  refine ⟨_, run, (append_test_exact_iff run (.inr ⟨?_, rfl⟩)).mpr (.inr ?_)⟩
  · intro row member
    exact absurd member (Multiset.notMem_zero row)
  · intro label member agent
    rw [mem_singleton.mp member]
    trivial

/-- The statement trigger counts one change where the rows count two. -/
theorem traded_rows_counted_once : ∃ before after : History String Unit Unit,
      Transition.Run (HistoryStep .postgres) before [(trade, 7)] after ∧
        IsTarget before.rows "A" 1 ∧
        observedChanges after.ledger "A" = observedChanges before.ledger "A" + 1 ∧
        bumpedChanges (rowBumps trade) "A" = 2 ∧
        ¬ Exact .postgres before after [(trade, 7)] "A" 1 := by
  have run : Transition.Run (HistoryStep .postgres)
      (⟨0 + ([(rowOfA, tradedToB), (rowOfB, tradedToA)].map Prod.fst : List _), []⟩ :
        History String Unit Unit) [(trade, 7)]
      ⟨0 + ([(rowOfA, tradedToB), (rowOfB, tradedToA)].map Prod.snd : List _), _⟩ :=
    .cons ⟨.update _, rfl⟩ (.nil _)
  refine ⟨_, _, run, .inl ⟨⟨rowOfA, Multiset.mem_add.mpr (.inr mem_cons_self), rfl, rfl⟩, ?_⟩,
    by decide +kernel, by decide +kernel, ?_⟩
  · rintro id ⟨row, member, own, rfl⟩
    have stored := (Multiset.mem_add.mp member).resolve_left (Multiset.notMem_zero row)
    rcases mem_cons.mp stored with rfl | other
    · exact Int.le_refl 1
    · rw [mem_singleton.mp other] at own
      exact absurd own (by decide)
  · intro exact
    have counted := (exact.sameCounts _ mem_cons_self "A").1
    revert counted
    decide +kernel

end Kestrel.Sessions
