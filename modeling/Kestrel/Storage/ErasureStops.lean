import Kestrel.Storage.ErasureRuns
import Kestrel.Storage.ErasureTermination
import Kestrel.Storage.GroundedRuns

/-!
# Erasures that stop, and one that does not

An erasure of a reachable store stops unless its worklist re-lines a conclusion on premises that
rest on it. Two conclusions with such premises are re-lined in turn without end.
-/

namespace Kestrel.AssertionStore

open List Except Option Erasure Store Domain Table

variable {D : Domain}

theorem Erasure.start_store {before : Store D} {first : Erasure D} {assertionId : D.AssertionId}
    (started : start before assertionId = .ok first) : first.store = before := by
  unfold start at started
  split_ifs at started
  cases started
  rfl

theorem Erasure.not_rests {before : Store D} {erasure : Erasure D} (linked : before.Linked)
    (same : erasure.store = before) {conclusion premise : D.AssertionId} :
    ¬ Rests before erasure conclusion premise := by
  intro rests
  obtain ⟨assertion, _, _, located, unknown, _⟩ := rests
  rw [same] at located
  obtain ⟨_, _, eligible, stored⟩ := linked.of_current located
  unfold revision at unknown
  rw [stored] at unknown
  cases unknown

namespace Erasure

variable {supply : Supply D} {before : Store D} {erasure next : Erasure D}
  {row : DependentRow D}

section Progress

variable {current : Assertion D} {lineage proof : DerivedLineage D}

theorem freshenInferred_ok (fresh : supply.FreshFrom erasure.draws erasure.store)
    (active : current.status = .active) (inferred : current.epistemicState = .inferred)
    (derived : current.lineage.isDirect = false)
    (live : ∀ input ∈ lineage.inputRevisionIds.ids,
      erasure.store.isCurrentActiveEligibleRevision input = true) :
    ∃ freshened, erasure.freshenInferred supply current lineage = .ok freshened := by
  have absent := fresh erasure.draws (le_refl _)
  have distinct : supply.uuid4 erasure.draws ∉ lineage.inputRevisionIds.ids := by
    intro member
    exact stored_of_live (live _ member) absent
  let mapping : AssertionMapping D :=
    { current.toAssertionMapping with
      revisionId := supply.uuid4 erasure.draws
      status := .active
      epistemicState := .inferred
      supersedesRevisionId := none
      assertedAt := supply.now erasure.draws
      lineage := .derived lineage }
  have accepted : mapping.failure = none := by
    simp [AssertionMapping.failure, mapping, distinct]
  have made : Assertion.fromMapping mapping = .ok ⟨mapping, accepted⟩ := by
    unfold Assertion.fromMapping
    split
    · rfl
    · rename_i message failed
      rw [accepted] at failed
      cases failed
  have validated : erasure.store.validateLineage ⟨mapping, accepted⟩ [] = .ok () := by
    change List.forM _ _ = _
    refine forM_eq_ok.mpr ?_
    intro input member
    obtain ⟨row, stored⟩ := ne_none_iff_exists'.mp (stored_of_live (live input member))
    unfold revision
    rw [stored, map_some]
    rw [if_pos (live input member)]
  have unwritten : (erasure.store.invalidateEligibility current.revisionId false).revisions.row
      mapping.revisionId = none :=
    freshFrom_invalidateEligibility fresh _ _ _ (le_refl _)
  unfold freshenInferred
  rw [if_neg (by simp [active, inferred, derived])]
  rw [made]
  change ∃ freshened, (erasure.store.validateLineage ⟨mapping, accepted⟩ [] >>= _) =
    Except.ok freshened
  rw [validated]
  unfold writeRevision
  rw [unwritten]
  exact ⟨_, rfl⟩

theorem processRow_relines (fresh : supply.FreshFrom erasure.draws erasure.store)
    (located : row.currentRevisionId = row.derivedRevisionId)
    (kept : row.derivedAssertionId ∉ erasure.assertionIds)
    (found : erasure.store.current row.derivedAssertionId = some current)
    (same : current.revisionId = row.derivedRevisionId)
    (active : current.status = .active) (inferred : current.epistemicState = .inferred)
    (derived : current.lineage = .derived lineage) {input : D.RevisionId}
    (resolved : (erasure.enqueue row.derivedRevisionId).resolvedInputs
      lineage.inputRevisionIds.ids = some [input]) :
    ∃ next proof, processRow supply erasure row = .ok next ∧
      relining supply erasure row = some proof ∧ proof.inputRevisionIds.ids = [input] := by
  let collected := erasure.enqueue row.derivedRevisionId
  have built : ∃ proof, relinedLineage supply collected lineage lineage.ruleId
      lineage.profileVersion [input] none = .ok proof := by
    unfold relinedLineage uniqueIdentifiers
    rw [dif_neg (cons_ne_nil _ _), dif_pos (nodup_singleton _)]
    exact ⟨_, rfl⟩
  obtain ⟨proof, built⟩ := built
  have inputs := relinedLineage_inputs built
  have made : replacementLineage supply collected current = .ok (some proof) := by
    unfold replacementLineage
    rw [derived]
    dsimp only
    rw [resolved]
    rw [bind_eq_ok]
    exact ⟨proof, built, rfl⟩
  have kept' : row.derivedAssertionId ∉ collected.assertionIds := by
    rw [enqueue_assertionIds]
    exact kept
  have found' : collected.store.current row.derivedAssertionId = some current := by
    rw [enqueue_store]
    exact found
  have live : ∀ premise ∈ proof.inputRevisionIds.ids,
      erasure.store.isCurrentActiveEligibleRevision premise = true := by
    intro premise member
    obtain ⟨equal, resolves⟩ := resolvedInputs_eq_some resolved
    rw [inputs, equal] at member
    obtain ⟨original, listed, rfl⟩ := mem_map.mp member
    have supported := (resolves original listed).2.2
    rw [enqueue_store] at supported
    exact supported
  have relines : ∃ next, collected.reline supply current proof = .ok next := by
    let whole := collected.enqueueAll (collected.store.revisionsOf current.assertionId)
    have store : whole.store = erasure.store := by
      rw [enqueueAll_store, enqueue_store]
    have draws : whole.draws = erasure.draws := by
      rw [enqueueAll_draws, enqueue_draws]
    have freshened : ∃ freshened, whole.freshenInferred supply current proof = .ok freshened := by
      apply freshenInferred_ok
      · rw [store, draws]
        exact fresh
      · exact active
      · exact inferred
      · rw [derived]
        rfl
      · rw [store]
        exact live
    obtain ⟨freshened, success⟩ := freshened
    unfold reline
    dsimp only
    rw [success]
    exact ⟨_, rfl⟩
  obtain ⟨next, relines⟩ := relines
  refine ⟨next, proof, ?_, ?_, inputs⟩
  · unfold processRow relineOrDrop
    rw [if_neg (not_not.mpr located), if_neg kept', found']
    dsimp only
    rw [if_neg (not_not.mpr same), made]
    exact relines
  · unfold relining
    rw [if_neg (not_or.mpr ⟨not_not.mpr located, kept'⟩), found']
    dsimp only
    rw [made]

end Progress

section Circling

variable {first second : Assertion D} {premise : D.RevisionId}

/-- A kept conclusion was re-lined on one input, and its revision is not collected yet. -/
structure Turns (before : Store D) (erasure : Erasure D) (conclusion : Assertion D)
    (input : D.RevisionId) : Prop where
  current : erasure.store.current conclusion.assertionId = some conclusion
  live : erasure.store.revisions.row conclusion.revisionId = some ⟨conclusion, true⟩
  unknown : before.revisions.row conclusion.revisionId = none
  active : conclusion.status = .active
  inferred : conclusion.epistemicState = .inferred
  lineage : ∃ proof, conclusion.lineage = .derived proof ∧ proof.inputRevisionIds.ids = [input]
  kept : conclusion.assertionId ∉ erasure.assertionIds
  uncollected : conclusion.revisionId ∉ erasure.revisionIds

def OnlyNamedBy (erasure : Erasure D) (input revisionId : D.RevisionId) : Prop :=
  ∀ other, erasure.store.Names input other ↔ other = revisionId

/-- Two conclusions rest on each other: the pending premise of the first was refreshed as the
second, which names the first. -/
structure Circling (supply : Supply D) (before : Store D) (erasure : Erasure D)
    (first second : Assertion D) (premise : D.RevisionId) : Prop where
  valid : Valid supply before erasure
  pending : erasure.pending = {premise}
  refreshed : erasure.refreshedRevisionIds.row premise = some second.revisionId
  distinct : first.assertionId ≠ second.assertionId
  turns : Turns before erasure first premise
  turned : Turns before erasure second first.revisionId
  premiseNamed : OnlyNamedBy erasure premise first.revisionId
  firstNamed : OnlyNamedBy erasure first.revisionId second.revisionId
  unnamed : ∀ other, ¬ erasure.store.Names second.revisionId other

def turnRow (conclusion : Assertion D) : DependentRow D :=
  ⟨conclusion.assertionId, conclusion.revisionId, conclusion.revisionId⟩

theorem dependentRows_nodup {store : Store D} {batch : Finset D.RevisionId} :
    (store.dependentRows batch).Nodup := by
  unfold dependentRows rows
  rw [filterMap_filterMap]
  refine (perm_insertionSort _ _).nodup_iff.mpr (Nodup.filterMap ?_ store.revisions.nodup)
  have keyed : ∀ (revisionId : D.RevisionId) (row : DependentRow D),
      row ∈ ((store.revisions.row revisionId).map fun row => (revisionId, row)).bind
        (fun row : D.RevisionId × RevisionRow D =>
          if row.2.assertion.lineage.inputRevisionIds.any (· ∈ batch) then
            (store.currents.row row.2.assertion.assertionId).map fun current =>
              (⟨row.2.assertion.assertionId, row.1, current⟩ : DependentRow D)
          else none) → row.derivedRevisionId = revisionId := by
    intro revisionId row found
    obtain ⟨_, located, found⟩ := bind_eq_some_iff.mp found
    obtain ⟨stored, _, rfl⟩ := map_eq_some_iff.mp located
    split_ifs at found
    obtain ⟨_, _, rfl⟩ := map_eq_some_iff.mp found
    rfl
  intro revisionId other row found found'
  exact (keyed revisionId row found).symm.trans (keyed other row found')

theorem Turns.pointer (turns : Turns before erasure first premise) (linked : erasure.store.Linked) :
    erasure.store.currents.row first.assertionId = some first.revisionId :=
  (linked.of_current turns.current).2.1

theorem Turns.supports (turns : Turns before erasure first premise)
    (linked : erasure.store.Linked) :
    erasure.store.isCurrentActiveEligibleRevision first.revisionId = true := by
  unfold isCurrentActiveEligibleRevision
  rw [turns.live]
  have pointed : erasure.store.currents.rows.any
      (fun current => current.2 = first.revisionId) = true :=
    any_eq_true.mpr ⟨(first.assertionId, first.revisionId),
      mem_rows.mpr (turns.pointer linked), decide_eq_true rfl⟩
  simp only [pointed, turns.active, decide_true, Bool.and_self]

theorem Circling.ne (circling : Circling supply before erasure first second premise) :
    second.revisionId ≠ first.revisionId := by
  intro same
  have stored := circling.turned.live
  rw [same, circling.turns.live] at stored
  cases stored
  exact circling.distinct rfl

theorem Circling.batchRows (circling : Circling supply before erasure first second premise) :
    erasure.batchRows = [turnRow first] := by
  have pointer := circling.turns.pointer circling.valid.linked
  refine perm_singleton.mp ((perm_ext_iff_of_nodup dependentRows_nodup (nodup_singleton _)).mpr ?_)
  intro row
  rw [mem_singleton, circling.pending, mem_dependentRows]
  constructor
  · intro found
    obtain ⟨stored, present, owner, pointed, input, named, batched⟩ := found
    rw [Finset.mem_singleton] at batched
    subst batched
    have same := (circling.premiseNamed _).mp ⟨stored, present, named⟩
    rw [same, circling.turns.live] at present
    cases present
    rw [← owner, pointer] at pointed
    cases row
    cases pointed
    cases same
    cases owner
    rfl
  · intro same
    subst same
    obtain ⟨proof, lineage, inputs⟩ := circling.turns.lineage
    refine ⟨_, circling.turns.live, rfl, pointer, premise, ?_, Finset.mem_singleton_self _⟩
    rw [lineage]
    change premise ∈ proof.inputRevisionIds.ids
    rw [inputs]
    exact mem_singleton_self _

theorem names_replaceCurrent {store : Store D} {current replacement : Assertion D}
    (fresh : store.revisions.row replacement.revisionId = none) {input other : D.RevisionId} :
    (store.replaceCurrent current replacement).Names input other ↔
      other = replacement.revisionId ∧ input ∈ replacement.lineage.inputRevisionIds ∨
        store.Names input other := by
  constructor
  · intro names
    obtain ⟨row, stored, named⟩ := names
    rcases row_of_replaceCurrent stored with ⟨same, rfl⟩ | ⟨_, original, present, equal⟩
    · exact .inl ⟨same, named⟩
    · exact .inr ⟨original, present, equal ▸ named⟩
  · intro names
    rcases names with ⟨rfl, named⟩ | ⟨row, stored, named⟩
    · exact ⟨_, by rw [row_replaceCurrent, if_pos rfl], named⟩
    · refine ⟨_, old_row_replaceCurrent stored fresh, ?_⟩
      split_ifs <;> exact named

section

variable (circling : Circling supply before erasure first second premise)

include circling

theorem Circling.resolved :
    (({ erasure with pending := ∅ } : Erasure D).enqueue
      first.revisionId).resolvedInputs [premise] = some [second.revisionId] := by
  let middle : Erasure D := { erasure with pending := ∅ }
  have refreshed : (middle.enqueue first.revisionId).refreshedRevisionIds.row premise =
      some second.revisionId := by
    rw [enqueue_refreshedRevisionIds]
    exact circling.refreshed
  have resolves : (middle.enqueue first.revisionId).resolve premise = second.revisionId := by
    unfold resolve
    rw [refreshed, getD_some]
  have uncollected : second.revisionId ∉ (middle.enqueue first.revisionId).revisionIds := by
    intro collected
    rcases mem_revisionIds_enqueue.mp collected with old | same
    · exact circling.turned.uncollected old
    · exact circling.ne same
  have live : (middle.enqueue first.revisionId).store.isCurrentActiveEligibleRevision
      second.revisionId = true := by
    rw [enqueue_store]
    exact circling.turned.supports circling.valid.linked
  unfold resolvedInputs
  rw [map_singleton, resolves, if_neg (not_not.mpr (nodup_singleton _)), if_pos]
  intro original member
  rw [mem_singleton] at member
  subst member
  rw [resolves, refreshed]
  exact ⟨fun lost => some_ne_none _ lost.2, uncollected, live⟩

/-- After the first conclusion was re-lined on the second, the second rests on it. -/
theorem Circling.relined {replacement : Assertion D} {proof : DerivedLineage D} {middle : Erasure D}
    (same : middle = { erasure with pending := ∅ })
    (inputs : proof.inputRevisionIds.ids = [second.revisionId])
    (replaces : Replaces supply (middle.enqueue first.revisionId) first proof replacement)
    (valid : Valid supply before ((middle.enqueue first.revisionId).relined first replacement)) :
    Circling supply before ((middle.enqueue first.revisionId).relined first replacement) second
      replacement first.revisionId := by
  subst same
  have linked := circling.valid.linked
  have absent : erasure.store.revisions.row replacement.revisionId = none := by
    rw [replaces.revisionId, enqueue_draws]
    exact circling.valid.fresh _ (le_refl _)
  have identity : replacement.assertionId = first.assertionId := by
    unfold Assertion.assertionId
    rw [replaces.content]
  have fresh : ∀ revisionId, erasure.store.revisions.row revisionId ≠ none →
      revisionId ≠ replacement.revisionId := by
    intro revisionId stored equal
    rw [equal] at stored
    exact stored absent
  have firstFresh : first.revisionId ≠ replacement.revisionId := by
    apply fresh
    rw [circling.turns.live]
    exact some_ne_none _
  have secondFresh : second.revisionId ≠ replacement.revisionId := by
    apply fresh
    rw [circling.turned.live]
    exact some_ne_none _
  have replacementInputs : replacement.lineage.inputRevisionIds = [second.revisionId] := by
    rw [replaces.lineage]
    exact inputs
  -- The first conclusion's other revisions were collected before.
  have collected_iff : ∀ revisionId, revisionId ∈
      ((({ erasure with pending := ∅ } : Erasure D).enqueue first.revisionId).relined first
        replacement).revisionIds ↔
      revisionId ∈ erasure.revisionIds ∨ revisionId = first.revisionId := by
    intro revisionId
    rw [mem_revisionIds_relined, mem_revisionIds_enqueue, enqueue_store, mem_revisionsOf]
    constructor
    · intro found
      rcases found with listed | ⟨row, stored, owner⟩
      · exact listed
      · obtain ⟨pointer, pointed, _, others⟩ :=
          circling.valid.relined _ _ circling.turns.live circling.turns.unknown
        rw [circling.turns.pointer linked] at pointed
        cases pointed
        by_cases equal : revisionId = first.revisionId
        · exact .inr equal
        · exact .inl (others revisionId row stored owner equal)
    · exact .inl
  refine ⟨valid, ?_, ?_, ?_, ?_, ?_, ?_, ?_, ?_⟩
  · ext revisionId
    rw [mem_pending_relined, mem_pending_enqueue, mem_revisionIds_enqueue, enqueue_store,
      mem_revisionsOf, Finset.mem_singleton]
    constructor
    · intro found
      rcases found with (impossible | ⟨equal, _⟩) | ⟨⟨row, stored, owner⟩, outside⟩
      · exact absurd impossible (Finset.notMem_empty _)
      · exact equal
      · have listed := (collected_iff revisionId).mp (mem_revisionIds_relined.mpr (.inr (by
          rw [enqueue_store, mem_revisionsOf]
          exact ⟨row, stored, owner⟩)))
        exact absurd listed outside
    · exact fun equal => .inl (.inr ⟨equal, circling.turns.uncollected⟩)
  · change (insert _ _ _).row _ = _
    exact row_insert_self _ _ _
  · rw [identity]
    exact circling.distinct.symm
  · refine ⟨?_, ?_, circling.turned.unknown, circling.turned.active, circling.turned.inferred,
      circling.turned.lineage, ?_, ?_⟩
    · rw [relined_store, enqueue_store, linked.current_replaceCurrent_of_ne absent]
      · exact circling.turned.current
      · rw [identity]
        exact circling.distinct.symm
    · rw [relined_store, enqueue_store, old_row_replaceCurrent circling.turned.live absent,
        if_neg circling.ne]
    · rw [relined_assertionIds, enqueue_assertionIds]
      exact circling.turned.kept
    · rw [collected_iff]
      intro collected
      rcases collected with old | equal
      · exact circling.turned.uncollected old
      · exact circling.ne equal
  · refine ⟨?_, ?_, circling.valid.refreshes.absent absent, replaces.status,
      replaces.epistemicState, ⟨proof, replaces.lineage, inputs⟩, ?_, ?_⟩
    · rw [relined_store]
      exact current_replaceCurrent_self
    · rw [relined_store, row_replaceCurrent, if_pos rfl, replaces.status]
      rfl
    · rw [relined_assertionIds, enqueue_assertionIds, identity]
      exact circling.turns.kept
    · rw [collected_iff]
      intro collected
      rcases collected with old | equal
      · exact circling.valid.collected _ old absent
      · exact firstFresh equal.symm
  · intro other
    rw [relined_store, enqueue_store, names_replaceCurrent absent, replacementInputs,
      circling.firstNamed]
    constructor
    · intro found
      rcases found with ⟨_, impossible⟩ | named
      · exact absurd (mem_singleton.mp impossible).symm circling.ne
      · exact named
    · exact .inr
  · intro other
    rw [relined_store, enqueue_store, names_replaceCurrent absent, replacementInputs]
    constructor
    · intro found
      rcases found with ⟨equal, _⟩ | impossible
      · exact equal
      · exact absurd impossible (circling.unnamed other)
    · exact fun equal => .inl ⟨equal, mem_singleton_self _⟩
  · intro other
    rw [relined_store, enqueue_store, names_replaceCurrent absent, replacementInputs]
    intro found
    rcases found with ⟨_, impossible⟩ | ⟨row, stored, named⟩
    · exact secondFresh (mem_singleton.mp impossible).symm
    · exact fresh _ (linked.cites _ _ stored _ named) rfl

/-- **Every round re-lines the first conclusion on the second and swaps them.** -/
theorem Circling.round : ∃ next replacement, round supply erasure = .ok next ∧
      Circling supply before next second replacement first.revisionId := by
  let middle : Erasure D := { erasure with pending := ∅ }
  have valid : Valid supply before middle := circling.valid.unqueued
  obtain ⟨lineage, derived, inputs⟩ := circling.turns.lineage
  have processes : ∃ next proof, processRow supply middle (turnRow first) = .ok next ∧
      relining supply middle (turnRow first) = some proof ∧
      proof.inputRevisionIds.ids = [second.revisionId] :=
    processRow_relines valid.fresh rfl circling.turns.kept circling.turns.current rfl
      circling.turns.active circling.turns.inferred derived (inputs ▸ circling.resolved)
  obtain ⟨next, proof, processed, relined, premises⟩ := processes
  have listed : turnRow first ∈ erasure.batchRows := by
    rw [circling.batchRows]
    exact mem_singleton_self _
  have placed : Placed middle (turnRow first) := circling.valid.placed listed (.refl _)
  have step := processRow_step valid.fresh processed
  have validNext := (valid.step placed step).1
  have rounded : Erasure.round supply erasure = .ok next := by
    unfold Erasure.round
    rw [circling.batchRows, foldlM_cons, bind_eq_ok]
    exact ⟨next, processed, rfl⟩
  cases step with
  | historical historical => exact absurd rfl historical
  | dropped _ dropped => exact absurd dropped circling.turns.kept
  | drops _ _ _ _ nothing =>
    rw [relined] at nothing
    cases nothing
  | @relines current replacement chosen _ _ found _ relined' replaces =>
    rw [relined] at relined'
    cases relined'
    have same : some first = some current := circling.turns.current.symm.trans found
    cases same
    exact ⟨_, replacement, rounded, circling.relined rfl premises replaces validNext⟩

end

/-- No number of rounds empties the worklist, and none is rejected. -/
def Unending (supply : Supply D) (erasure : Erasure D) : Prop :=
  ∀ count, ∃ last, rounds supply count erasure = .ok last ∧ last.pending ≠ ∅

theorem Unending.of_round (working : erasure.pending ≠ ∅)
    (rounded : round supply erasure = .ok next) (later : Unending supply next) :
    Unending supply erasure := by
  intro count
  cases count with
  | zero => exact ⟨erasure, rfl, working⟩
  | succ count =>
    obtain ⟨last, reached, pending⟩ := later count
    refine ⟨last, ?_, pending⟩
    unfold rounds
    rw [if_neg working, rounded]
    exact reached

/-- **Conclusions that rest on each other are re-lined without end.** -/
theorem Circling.unending (circling : Circling supply before erasure first second premise) :
    Unending supply erasure := by
  have working : ∀ {first second : Assertion D} {premise : D.RevisionId} {erasure : Erasure D},
      Circling supply before erasure first second premise → erasure.pending ≠ ∅ := by
    intro first second premise erasure circling
    rw [circling.pending]
    exact Finset.singleton_ne_empty premise
  intro count
  induction count generalizing erasure first second premise with
  | zero => exact ⟨erasure, rfl, working circling⟩
  | succ count ih =>
    obtain ⟨next, replacement, rounded, again⟩ := circling.round
    obtain ⟨last, reached, pending⟩ := ih again
    refine ⟨last, ?_, pending⟩
    unfold rounds
    rw [if_neg (working circling), rounded]
    exact reached

theorem Turns.onlyNamedBy (turns : Turns before erasure first premise)
    (only : ∀ row ∈ erasure.store.revisions.rows,
      premise ∈ row.2.assertion.lineage.inputRevisionIds → row.1 = first.revisionId) :
    OnlyNamedBy erasure premise first.revisionId := by
  intro other
  constructor
  · intro names
    obtain ⟨row, stored, member⟩ := names
    exact only (other, row) (mem_rows.mpr stored) member
  · intro same
    subst same
    obtain ⟨proof, lineage, inputs⟩ := turns.lineage
    refine ⟨_, turns.live, ?_⟩
    rw [lineage]
    change premise ∈ proof.inputRevisionIds.ids
    rw [inputs]
    exact mem_singleton_self _

end Circling

section Checks

variable {condition : Erasure D → DependentRow D → Prop}

theorem Always.of_round (each : EachRow supply erasure condition)
    (later : ∀ next, Erasure.round supply erasure = .ok next → Always supply next condition) :
    Always supply erasure condition := by
  intro count reached continued
  cases count with
  | zero =>
    cases continued
    exact each
  | succ count =>
    unfold rounds at continued
    split_ifs at continued
    · cases continued
      exact each
    · obtain ⟨next, rounded, continued⟩ := bind_eq_ok.mp continued
      exact later next rounded count reached continued

theorem EachRow.of_nil (none : erasure.batchRows = []) : EachRow supply erasure condition := by
  intro processed row rest middle split
  rw [none] at split
  exact absurd split.symm (append_ne_nil_of_right_ne_nil _ (cons_ne_nil _ _))

theorem Always.of_idle (idle : erasure.pending = ∅) : Always supply erasure condition := by
  have nothing : erasure.batchRows = [] := by
    refine eq_nil_iff_forall_not_mem.mpr ?_
    intro row listed
    obtain ⟨_, _, _, _, input, _, batched⟩ := mem_dependentRows.mp listed
    rw [idle] at batched
    exact Finset.notMem_empty input batched
  intro count reached continued
  have same : reached = erasure := by
    cases count with
    | zero =>
      cases continued
      rfl
    | succ count =>
      unfold rounds at continued
      rw [if_pos idle] at continued
      cases continued
      rfl
  rw [same]
  exact EachRow.of_nil nothing

end Checks

end Erasure

namespace Store

variable {supply : Supply D} {before : Store D} {assertionId : D.AssertionId}

/-- **An erasure stops unless it re-lines a conclusion on premises that rest on it.** -/
theorem erase_stops (reachable : before.Reachable) (fresh : supply.FreshFrom 0 before)
    (onward : ∀ first, Erasure.start before assertionId = .ok first →
      Erasure.Always supply first (Erasure.Onward supply before)) :
    ∃ limit, before.erase supply assertionId limit ≠ .ok none := by
  have linked := reachable.linked
  cases started : start before assertionId with
  | error error =>
    refine ⟨0, ?_⟩
    intro unfinished
    unfold erase at unfinished
    rw [started] at unfinished
    cases unfinished
  | ok first =>
    have valid := start_valid linked fresh started
    have acyclic : Dependency.Acyclic (Erasure.Rests before first) := by
      intro conclusion cycle
      obtain ⟨premise, rests, _⟩ := Relation.TransGen.head'_iff.mp cycle
      exact not_rests linked (start_store started) rests
    have shallow : Erasure.Deep before 0 first := fun _ _ _ _ => trivial
    obtain ⟨limit, stops⟩ :=
      stops_of_deep linked valid acyclic shallow (onward first started)
    refine ⟨limit, ?_⟩
    intro unfinished
    obtain ⟨first', started', unfinished⟩ := bind_eq_ok.mp unfinished
    rw [started] at started'
    cases started'
    obtain ⟨last, reached, unfinished⟩ := bind_eq_ok.mp unfinished
    rw [if_pos (stops last reached), bind_eq_ok] at unfinished
    obtain ⟨erased, _, unfinished⟩ := unfinished
    cases unfinished

/-! ## Erasures on natural-number identifiers -/

open Domain.natural in
/-- A direct fact, a conclusion from it, a conclusion from that, and a ledger in which the two
conclusions prove each other. -/
def circularRun : List (Mutation Domain.natural) :=
  [.putAssertion (direct 1 1 1) [⟨1, ()⟩] none,
    .publishInferredAssertion (inferred 2 2 1 (by decide)),
    .publishInferredAssertion (inferred 3 3 2 (by decide)),
    .writeActiveDerivations ⟨0, 0⟩ [⟨2, [(0, [1]), (0, [3])]⟩, ⟨3, [(0, [2])]⟩] true]

/-- The tables that a number of steps of the run commit. -/
def circularStore (steps : ℕ) : Store Domain.natural :=
  (circularRun.take steps).foldl (afterCommit (Domain.natural.supply 100)) empty

theorem circularStore_reachable : (circularStore 4).Reachable := by
  refine ⟨circularRun.map .mutate, ?_⟩
  refine .cons (commits_afterCommit (freshFrom_natural 100 ?_) ?_) <|
    .cons (commits_afterCommit (freshFrom_natural 100 ?_) ?_) <|
    .cons (commits_afterCommit (freshFrom_natural 100 ?_) ?_) <|
    .cons (commits_afterCommit (freshFrom_natural 100 ?_) ?_) <| .nil _
  all_goals decide +kernel

/-- The worklist after a round, unchanged if it is rejected. -/
def afterRound (supply : Supply D) (erasure : Erasure D) : Erasure D :=
  match erasure.round supply with
  | .ok next => next
  | .error _ => erasure

theorem round_afterRound {supply : Supply D} {erasure : Erasure D}
    (accepted : (erasure.round supply).isOk = true) :
    erasure.round supply = .ok (afterRound supply erasure) := by
  unfold afterRound
  cases rounded : erasure.round supply with
  | ok next => rfl
  | error _ =>
    rw [rounded] at accepted
    cases accepted

/-- The worklist that erases a claim, after a number of rounds. -/
def erasing (store : Store Domain.natural) (assertionId : ℕ) : ℕ → Erasure Domain.natural
  | 0 =>
    { store := store
      revisionIds := (store.revisionsOf assertionId).toFinset
      assertionIds := {assertionId}
      pending := (store.revisionsOf assertionId).toFinset
      refreshedRevisionIds := .empty
      draws := 1 }
  | rounds + 1 => afterRound (Domain.natural.supply 200) (erasing store assertionId rounds)

theorem start_erasing {store : Store natural} {assertionId : ℕ}
    (present : store.revisionsOf assertionId ≠ []) :
    start store assertionId = .ok (erasing store assertionId 0) :=
  if_neg present

/-- After three rounds, the two conclusions are re-lined on each other. -/
theorem circling_erasing : Circling (natural.supply 200) (circularStore 4)
      (erasing (circularStore 4) 1 3) (natural.inferred 3 202 201 (by decide))
      (natural.inferred 2 203 202 (by decide)) 201 := by
  have fresh : (natural.supply 200).FreshFrom 0 (circularStore 4) :=
    freshFrom_natural 200 (by decide +kernel)
  have started : start (circularStore 4) 1 = .ok (erasing (circularStore 4) 1 0) :=
    start_erasing (by decide +kernel)
  have valid := start_valid circularStore_reachable.linked fresh started
  have valid := (valid.round (round_afterRound (by decide +kernel))).1
  have valid := (valid.round (round_afterRound (by decide +kernel))).1
  have valid := (valid.round (round_afterRound (by decide +kernel))).1
  have turns : Turns (circularStore 4) (erasing (circularStore 4) 1 3)
      (natural.inferred 3 202 201 (by decide)) 201 := by
    refine ⟨?_, ?_, ?_, rfl, rfl, ⟨_, rfl, rfl⟩, ?_, ?_⟩
    all_goals decide +kernel
  have turned : Turns (circularStore 4) (erasing (circularStore 4) 1 3)
      (natural.inferred 2 203 202 (by decide)) 202 := by
    refine ⟨?_, ?_, ?_, rfl, rfl, ⟨_, rfl, rfl⟩, ?_, ?_⟩
    all_goals decide +kernel
  refine ⟨valid, ?_, ?_, by decide, turns, turned, turns.onlyNamedBy ?_, turned.onlyNamedBy ?_, ?_⟩
  · decide +kernel
  · decide +kernel
  · decide +kernel
  · decide +kernel
  · intro other names
    obtain ⟨row, stored, named⟩ := names
    have unnamed : ∀ row ∈ (erasing (circularStore 4) 1 3).store.revisions.rows,
        203 ∉ row.2.assertion.lineage.inputRevisionIds := by decide +kernel
    exact unnamed (other, row) (mem_rows.mpr stored) named

open Domain.natural in
/-- Two direct facts, a conclusion from the first, and a ledger that proves it from either. -/
def alternativeRun : List (Mutation Domain.natural) :=
  [.putAssertion (direct 1 1 1) [⟨1, ()⟩] none,
    .putAssertion (direct 2 2 2) [⟨2, ()⟩] none,
    .publishInferredAssertion (inferred 3 3 1 three_ne_one),
    .writeActiveDerivations ⟨0, 0⟩ [⟨3, [(0, [1]), (0, [2])]⟩] true]

/-- The tables that a number of steps of the run commit. -/
def alternativeStore (steps : ℕ) : Store Domain.natural :=
  (alternativeRun.take steps).foldl (afterCommit (Domain.natural.supply 100)) empty

theorem alternativeStore_reachable : (alternativeStore 4).Reachable := by
  refine ⟨alternativeRun.map .mutate, ?_⟩
  refine .cons (commits_afterCommit (freshFrom_natural 100 ?_) ?_) <|
    .cons (commits_afterCommit (freshFrom_natural 100 ?_) ?_) <|
    .cons (commits_afterCommit (freshFrom_natural 100 ?_) ?_) <|
    .cons (commits_afterCommit (freshFrom_natural 100 ?_) ?_) <| .nil _
  all_goals decide +kernel

/-- Erasing the first fact re-lines the conclusion on the second and stops. -/
theorem erase_stops_alternative :
    (∃ limit, (alternativeStore 4).erase (Domain.natural.supply 200) 1 limit ≠ .ok none) ∧
      Erasure.relining (Domain.natural.supply 200)
        { erasing (alternativeStore 4) 1 0 with pending := ∅ } ⟨3, 3, 3⟩ ≠ none := by
  have started : start (alternativeStore 4) 1 = .ok (erasing (alternativeStore 4) 1 0) :=
    start_erasing (by decide +kernel)
  refine ⟨erase_stops alternativeStore_reachable (freshFrom_natural 200 (by decide +kernel)) ?_,
    by decide +kernel⟩
  intro first started'
  rw [started] at started'
  cases started'
  have following : ∀ count next, (erasing (alternativeStore 4) 1 count).round
      (natural.supply 200) = .ok next →
      ((erasing (alternativeStore 4) 1 count).round (natural.supply 200)).isOk = true →
      next = erasing (alternativeStore 4) 1 (count + 1) := by
    intro count next rounded accepted
    exact ok.inj (rounded.symm.trans (round_afterRound accepted))
  refine Erasure.Always.of_round ?_ ?_
  · -- The only row re-lines the conclusion on the second fact, which rests on nothing.
    intro processed row rest middle split reached
    have single : (erasing (alternativeStore 4) 1 0).batchRows = [⟨3, 3, 3⟩] := by decide +kernel
    rw [single] at split
    cases processed with
    | cons _ processed =>
      have length := congrArg List.length split
      simp at length
    | nil =>
      cases split
      cases reached
      intro lineage relined input named support stored path
      have premises : (relining (natural.supply 200)
          { erasing (alternativeStore 4) 1 0 with pending := ∅ } ⟨3, 3, 3⟩).map
            (·.inputRevisionIds.ids) = some [2] := by decide +kernel
      have second : (alternativeStore 4).revision 2 = some (natural.direct 2 2 2) := by
        decide +kernel
      rw [relined, map_some, Option.some.injEq] at premises
      rw [premises, mem_singleton] at named
      subst named
      have same : some (natural.direct 2 2 2) = some support := second.symm.trans stored
      cases same
      rcases Relation.ReflTransGen.cases_head path with equal | ⟨_, rests, _⟩
      · exact absurd equal (by decide)
      · exact not_rests alternativeStore_reachable.linked rfl rests
  · intro next rounded
    rw [following 0 next rounded (by decide +kernel)]
    refine Erasure.Always.of_round (Erasure.EachRow.of_nil (by decide +kernel)) ?_
    intro last finished
    rw [following 1 last finished (by decide +kernel)]
    exact Erasure.Always.of_idle (by decide +kernel)

/-- Erasing the fact never ends: the two conclusions are re-lined on each other in turn. -/
theorem erase_circles :
    ∃ (before : Store Domain.natural) (supply : Supply Domain.natural) (assertionId : ℕ),
      before.Reachable ∧ supply.FreshFrom 0 before ∧ before.revisionsOf assertionId ≠ [] ∧
        ∀ limit, before.erase supply assertionId limit = .ok none := by
  refine ⟨circularStore 4, natural.supply 200, 1, circularStore_reachable,
    freshFrom_natural 200 (by decide +kernel), by decide +kernel, ?_⟩
  have unending : Erasure.Unending (natural.supply 200) (erasing (circularStore 4) 1 0) :=
    .of_round (by decide +kernel) (round_afterRound (by decide +kernel)) <|
    .of_round (by decide +kernel) (round_afterRound (by decide +kernel)) <|
    .of_round (by decide +kernel) (round_afterRound (by decide +kernel)) circling_erasing.unending
  intro limit
  obtain ⟨last, reached, working⟩ := unending limit
  unfold erase
  rw [start_erasing (by decide +kernel), bind_eq_ok]
  refine ⟨_, rfl, ?_⟩
  rw [reached, bind_eq_ok]
  refine ⟨_, rfl, ?_⟩
  rw [if_neg working]
  rfl

end Store

end Kestrel.AssertionStore
