import Kestrel.Storage.ErasureRows

/-!
# The rounds of the erasure worklist

What every row and every round of the worklist keeps, and an induction rule for a round.
-/

namespace Kestrel.AssertionStore

open Store Option

variable {D : Domain}

namespace Erasure

variable {supply : Supply D} {before : Store D} {erasure next : Erasure D}
  {row : DependentRow D}

/-- What the worklist of an erasure keeps: only stored revisions are collected, a collected
current revision belongs to a dropped assertion, and a re-lined conclusion keeps only its fresh
current revision. -/
structure Valid (supply : Supply D) (before : Store D) (erasure : Erasure D) : Prop where
  refreshes : before.Refreshes erasure.store
  linked : erasure.store.Linked
  fresh : supply.FreshFrom erasure.draws erasure.store
  collected : ∀ revisionId ∈ erasure.revisionIds, erasure.store.revisions.row revisionId ≠ none
  pending : erasure.pending ⊆ erasure.revisionIds
  dropped : ∀ assertionId ∈ erasure.assertionIds, ∀ revisionId row,
    erasure.store.revisions.row revisionId = some row →
    row.assertion.assertionId = assertionId → revisionId ∈ erasure.revisionIds
  current : ∀ assertionId revisionId, erasure.store.currents.row assertionId = some revisionId →
    revisionId ∈ erasure.revisionIds → assertionId ∈ erasure.assertionIds
  relined : ∀ revisionId row, erasure.store.revisions.row revisionId = some row →
    before.revisions.row revisionId = none → ∃ pointer,
      erasure.store.currents.row row.assertion.assertionId = some pointer ∧
      before.revisions.row pointer = none ∧ ∀ other row',
        erasure.store.revisions.row other = some row' →
        row'.assertion.assertionId = row.assertion.assertionId → other ≠ pointer →
        other ∈ erasure.revisionIds
  refreshed : ∀ original revisionId,
    erasure.refreshedRevisionIds.row original = some revisionId →
    original ∈ erasure.revisionIds ∧ ∃ row row',
      erasure.store.revisions.row original = some row ∧
      erasure.store.revisions.row revisionId = some row' ∧
      row'.assertion.assertionId = row.assertion.assertionId

/-- The row's revision is stored under its assertion, and is no current revision if the row says
so. -/
structure Placed (erasure : Erasure D) (row : DependentRow D) : Prop where
  stored : ∃ stored, erasure.store.revisions.row row.derivedRevisionId = some stored ∧
    stored.assertion.assertionId = row.derivedAssertionId
  historical : row.currentRevisionId ≠ row.derivedRevisionId →
    ∀ assertionId, erasure.store.currents.row assertionId ≠ some row.derivedRevisionId

/-- The step only adds to the collected revisions and the dropped assertions. -/
structure Grows (erasure next : Erasure D) : Prop where
  store : erasure.store.Refreshes next.store
  revisionIds : erasure.revisionIds ⊆ next.revisionIds
  assertionIds : erasure.assertionIds ⊆ next.assertionIds

theorem Grows.trans {middle : Erasure D} (first : Grows erasure middle)
    (second : Grows middle next) : Grows erasure next :=
  ⟨first.store.trans second.store, fun _ member => second.revisionIds (first.revisionIds member),
    fun _ member => second.assertionIds (first.assertionIds member)⟩

theorem stored_of_live {store : Store D} {revisionId : D.RevisionId}
    (live : store.isCurrentActiveEligibleRevision revisionId = true) :
    store.revisions.row revisionId ≠ none := by
  unfold isCurrentActiveEligibleRevision at live
  intro absent
  rw [absent] at live
  cases live

theorem Replaces.cites {current replacement : Assertion D} {proof : DerivedLineage D}
    (replaces : Replaces supply erasure current proof replacement) :
    erasure.store.Cites replacement.lineage := by
  obtain ⟨premises, _, resolved⟩ := replaces.chosen
  obtain ⟨same, resolves⟩ := resolvedInputs_eq_some resolved
  rw [replaces.lineage]
  intro input named
  change input ∈ proof.inputRevisionIds.ids at named
  rw [same] at named
  obtain ⟨original, member, rfl⟩ := List.mem_map.mp named
  exact stored_of_live (resolves original member).2.2

theorem Valid.collect (valid : Valid supply before erasure) (store : next.store = erasure.store)
    (draws : next.draws = erasure.draws)
    (refreshedRevisionIds : next.refreshedRevisionIds = erasure.refreshedRevisionIds)
    (revisionIds : erasure.revisionIds ⊆ next.revisionIds)
    (pending : next.pending ⊆ next.revisionIds)
    (stored : ∀ revisionId ∈ next.revisionIds, erasure.store.revisions.row revisionId ≠ none)
    (dropped : ∀ assertionId ∈ next.assertionIds, ∀ revisionId row,
      erasure.store.revisions.row revisionId = some row →
      row.assertion.assertionId = assertionId → revisionId ∈ next.revisionIds)
    (current : ∀ assertionId revisionId, erasure.store.currents.row assertionId = some revisionId →
      revisionId ∈ next.revisionIds → assertionId ∈ next.assertionIds) :
    Valid supply before next where
  refreshes := store ▸ valid.refreshes
  linked := store ▸ valid.linked
  fresh := store ▸ draws ▸ valid.fresh
  collected := store ▸ stored
  pending := pending
  dropped := store ▸ dropped
  current := store ▸ current
  relined := fun revisionId row present absent => by
    rw [store] at present ⊢
    obtain ⟨pointer, pointed, unknown, others⟩ := valid.relined revisionId row present absent
    exact ⟨pointer, pointed, unknown, fun other row' present' same distinct =>
      revisionIds (others other row' present' same distinct)⟩
  refreshed := fun original revisionId found => by
    rw [refreshedRevisionIds] at found
    obtain ⟨member, rows⟩ := valid.refreshed original revisionId found
    rw [store]
    exact ⟨revisionIds member, rows⟩

section Step

variable {current replacement : Assertion D} {proof : DerivedLineage D}

theorem Valid.historical (valid : Valid supply before erasure) (placed : Placed erasure row)
    (historical : row.currentRevisionId ≠ row.derivedRevisionId) :
    Valid supply before (erasure.enqueue row.derivedRevisionId) := by
  obtain ⟨stored, present, owner⟩ := placed.stored
  refine valid.collect (enqueue_store _) (enqueue_draws _) (enqueue_refreshedRevisionIds _)
    (fun _ member => mem_revisionIds_enqueue.mpr (.inl member)) ?_ ?_ ?_ ?_
  · intro revisionId member
    rcases mem_pending_enqueue.mp member with old | ⟨same, _⟩
    · exact mem_revisionIds_enqueue.mpr (.inl (valid.pending old))
    · exact mem_revisionIds_enqueue.mpr (.inr same)
  · intro revisionId member
    rcases mem_revisionIds_enqueue.mp member with old | same
    · exact valid.collected revisionId old
    · rw [same, present]
      exact some_ne_none stored
  · intro assertionId member revisionId other present' same
    rw [enqueue_assertionIds] at member
    exact mem_revisionIds_enqueue.mpr
      (.inl (valid.dropped assertionId member revisionId other present' same))
  · intro assertionId revisionId pointed member
    rw [enqueue_assertionIds]
    rcases mem_revisionIds_enqueue.mp member with old | same
    · exact valid.current assertionId revisionId pointed old
    · exact absurd (same ▸ pointed) (placed.historical historical assertionId)

variable {revisionId : D.RevisionId}

section

variable (valid : Valid supply before erasure)

include valid

theorem Valid.mem_of_dropped (placed : Placed erasure row)
    (dropped : row.derivedAssertionId ∈ erasure.assertionIds) :
    revisionId ∈ ((erasure.enqueue row.derivedRevisionId).enqueueAll
        (erasure.store.revisionsOf row.derivedAssertionId)).revisionIds ↔
      revisionId ∈ erasure.revisionIds := by
  rw [mem_revisionIds_enqueueAll, mem_revisionIds_enqueue, mem_revisionsOf]
  constructor
  · intro found
    rcases found with (old | same) | ⟨other, present, owner⟩
    · exact old
    · obtain ⟨stored, present, owner⟩ := placed.stored
      exact same ▸ valid.dropped _ dropped _ _ present owner
    · exact valid.dropped _ dropped _ _ present owner
  · exact fun old => .inl (.inl old)

theorem Valid.droppedRow (placed : Placed erasure row)
    (dropped : row.derivedAssertionId ∈ erasure.assertionIds) :
    Valid supply before ((erasure.enqueue row.derivedRevisionId).enqueueAll
      (erasure.store.revisionsOf row.derivedAssertionId)) := by
  refine valid.collect (by simp) (by simp) (by simp)
    (fun _ member => (valid.mem_of_dropped placed dropped).mpr member) ?_ ?_ ?_ ?_
  · intro revisionId member
    rw [mem_revisionIds_enqueueAll, mem_revisionIds_enqueue]
    rcases mem_pending_enqueueAll.mp member with queued | ⟨listed, _⟩
    · rcases mem_pending_enqueue.mp queued with old | ⟨same, _⟩
      · exact .inl (.inl (valid.pending old))
      · exact .inl (.inr same)
    · exact .inr listed
  · exact fun revisionId member =>
      valid.collected revisionId ((valid.mem_of_dropped placed dropped).mp member)
  · intro assertionId member revisionId other present same
    rw [enqueueAll_assertionIds, enqueue_assertionIds] at member
    exact (valid.mem_of_dropped placed dropped).mpr
      (valid.dropped assertionId member revisionId other present same)
  · intro assertionId revisionId pointed member
    rw [enqueueAll_assertionIds, enqueue_assertionIds]
    exact valid.current assertionId revisionId pointed
      ((valid.mem_of_dropped placed dropped).mp member)

theorem mem_collected_current (found : erasure.store.current row.derivedAssertionId = some current)
    (same : current.revisionId = row.derivedRevisionId) :
    revisionId ∈ (erasure.enqueue row.derivedRevisionId).revisionIds ∨
        revisionId ∈ erasure.store.revisionsOf row.derivedAssertionId ↔
      revisionId ∈ erasure.revisionIds ∨
        ∃ stored, erasure.store.revisions.row revisionId = some stored ∧
          stored.assertion.assertionId = row.derivedAssertionId := by
  rw [mem_revisionIds_enqueue, mem_revisionsOf]
  constructor
  · intro listed
    rcases listed with (old | own) | listed
    · exact .inl old
    · obtain ⟨owner, _, eligible, present⟩ := valid.linked.of_current found
      exact .inr ⟨_, by rw [own, ← same]; exact present, owner⟩
    · exact .inr listed
  · intro listed
    rcases listed with old | listed
    · exact .inl (.inl old)
    · exact .inr listed

theorem Valid.dropsRow (found : erasure.store.current row.derivedAssertionId = some current)
    (same : current.revisionId = row.derivedRevisionId) :
    Valid supply before ((erasure.enqueue row.derivedRevisionId).drop row.derivedAssertionId) := by
  have member_iff : ∀ revisionId, revisionId ∈
      ((erasure.enqueue row.derivedRevisionId).drop row.derivedAssertionId).revisionIds ↔
      revisionId ∈ erasure.revisionIds ∨
        ∃ stored, erasure.store.revisions.row revisionId = some stored ∧
          stored.assertion.assertionId = row.derivedAssertionId := by
    intro revisionId
    rw [mem_revisionIds_drop, enqueue_store]
    exact mem_collected_current valid found same
  have dropped_iff : ∀ assertionId, assertionId ∈
      ((erasure.enqueue row.derivedRevisionId).drop row.derivedAssertionId).assertionIds ↔
      assertionId = row.derivedAssertionId ∨ assertionId ∈ erasure.assertionIds := by
    intro assertionId
    rw [drop_assertionIds, Finset.mem_insert, enqueue_assertionIds]
  refine valid.collect (by simp) (by simp) (by simp)
    (fun _ member => (member_iff _).mpr (.inl member)) ?_ ?_ ?_ ?_
  · intro revisionId member
    rw [mem_revisionIds_drop]
    rcases mem_pending_drop.mp member with queued | ⟨listed, _⟩
    · rcases mem_pending_enqueue.mp queued with old | ⟨own, _⟩
      · exact .inl (mem_revisionIds_enqueue.mpr (.inl (valid.pending old)))
      · exact .inl (mem_revisionIds_enqueue.mpr (.inr own))
    · exact .inr listed
  · intro revisionId member
    rcases (member_iff revisionId).mp member with old | ⟨stored, present, _⟩
    · exact valid.collected revisionId old
    · rw [present]
      exact some_ne_none stored
  · intro assertionId member revisionId other present owner
    rcases (dropped_iff assertionId).mp member with own | old
    · exact (member_iff revisionId).mpr (.inr ⟨other, present, owner.trans own⟩)
    · exact (member_iff revisionId).mpr
        (.inl (valid.dropped assertionId old revisionId other present owner))
  · intro assertionId revisionId pointed member
    rw [dropped_iff]
    rcases (member_iff revisionId).mp member with old | ⟨stored, present, owner⟩
    · exact .inr (valid.current assertionId revisionId pointed old)
    · obtain ⟨other, present', owner'⟩ := valid.linked.pointed _ _ pointed
      rw [present] at present'
      cases present'
      exact .inl (owner'.symm.trans owner)

end

/-- The facts about a row that re-lines its conclusion. -/
structure Relining (erasure : Erasure D) (row : DependentRow D)
    (current replacement : Assertion D) : Prop where
  owner : current.assertionId = row.derivedAssertionId
  revision : current.revisionId = row.derivedRevisionId
  pointer : erasure.store.currents.row row.derivedAssertionId = some current.revisionId
  stored : ∃ eligible,
    erasure.store.revisions.row current.revisionId = some ⟨current, eligible⟩
  fresh : erasure.store.revisions.row replacement.revisionId = none
  identity : replacement.assertionId = row.derivedAssertionId

theorem Valid.relining (valid : Valid supply before erasure)
    (found : erasure.store.current row.derivedAssertionId = some current)
    (same : current.revisionId = row.derivedRevisionId)
    (replaces : Replaces supply (erasure.enqueue row.derivedRevisionId) current proof
      replacement) : Relining erasure row current replacement := by
  obtain ⟨owner, pointer, stored⟩ := valid.linked.of_current found
  refine ⟨owner, same, pointer, stored, ?_, ?_⟩
  · rw [replaces.revisionId, enqueue_draws]
    exact valid.fresh _ (le_refl _)
  · unfold Assertion.assertionId at owner ⊢
    rw [replaces.content]
    exact owner

@[simp] theorem relined_store : (erasure.relined current replacement).store =
      erasure.store.replaceCurrent current replacement := rfl

@[simp] theorem relined_assertionIds :
    (erasure.relined current replacement).assertionIds = erasure.assertionIds := by
  unfold relined
  rw [enqueueAll_assertionIds]

theorem mem_revisionIds_relined : revisionId ∈ (erasure.relined current replacement).revisionIds ↔
      revisionId ∈ erasure.revisionIds ∨
        revisionId ∈ erasure.store.revisionsOf current.assertionId := by
  unfold relined
  exact mem_revisionIds_enqueueAll

theorem mem_pending_relined : revisionId ∈ (erasure.relined current replacement).pending ↔
      revisionId ∈ erasure.pending ∨ revisionId ∈ erasure.store.revisionsOf current.assertionId ∧
          revisionId ∉ erasure.revisionIds := by
  unfold relined
  exact mem_pending_enqueueAll

theorem Valid.mem_relined (valid : Valid supply before erasure)
    (found : erasure.store.current row.derivedAssertionId = some current)
    (relining : Relining erasure row current replacement) :
    revisionId ∈ ((erasure.enqueue row.derivedRevisionId).relined current replacement).revisionIds ↔
      revisionId ∈ erasure.revisionIds ∨
        ∃ stored, erasure.store.revisions.row revisionId = some stored ∧
          stored.assertion.assertionId = row.derivedAssertionId := by
  rw [mem_revisionIds_relined, enqueue_store, relining.owner]
  exact mem_collected_current valid found relining.revision

theorem Valid.relinesRow (valid : Valid supply before erasure)
    (kept : row.derivedAssertionId ∉ erasure.assertionIds)
    (found : erasure.store.current row.derivedAssertionId = some current)
    (same : current.revisionId = row.derivedRevisionId)
    (replaces : Replaces supply (erasure.enqueue row.derivedRevisionId) current proof replacement) :
    Valid supply before ((erasure.enqueue row.derivedRevisionId).relined current replacement) := by
  have relining := valid.relining found same replaces
  have member_iff : ∀ revisionId, revisionId ∈
      ((erasure.enqueue row.derivedRevisionId).relined current replacement).revisionIds ↔ _ :=
    fun _ => valid.mem_relined found relining
  obtain ⟨eligible, own⟩ := relining.stored
  have unknown : before.revisions.row replacement.revisionId = none :=
    valid.refreshes.absent relining.fresh
  have uncollected : replacement.revisionId ∉ erasure.revisionIds :=
    fun member => valid.collected _ member relining.fresh
  have old_owner : ∀ revisionId stored,
      (erasure.store.replaceCurrent current replacement).revisions.row revisionId =
        some stored → revisionId ≠ replacement.revisionId → ∃ original,
          erasure.store.revisions.row revisionId = some original ∧
            stored.assertion = original.assertion := by
    intro revisionId stored present distinct
    rcases row_of_replaceCurrent present with ⟨fresh, _⟩ | ⟨_, original⟩
    · exact absurd fresh distinct
    · exact original
  have older : ∀ revisionId stored, erasure.store.revisions.row revisionId = some stored →
      ∃ after, (erasure.store.replaceCurrent current replacement).revisions.row revisionId =
        some after ∧ after.assertion = stored.assertion := by
    intro revisionId stored present
    refine ⟨_, old_row_replaceCurrent present relining.fresh, ?_⟩
    split_ifs <;> rfl
  refine ⟨?_, ?_, ?_, ?_, ?_, ?_, ?_, ?_, ?_⟩
  · refine valid.refreshes.trans ?_
    rw [relined_store, enqueue_store]
    exact refreshes_replaceCurrent relining.fresh own replaces.content
  · have cites := replaces.cites
    rw [enqueue_store] at cites
    rw [relined_store, enqueue_store]
    exact valid.linked.replaceCurrent relining.fresh cites
  · have drawn := replaces.revisionId
    rw [enqueue_draws] at drawn
    have next := freshFrom_appendRevision
      (freshFrom_invalidateEligibility valid.fresh current.revisionId false) drawn
    change supply.FreshFrom ((erasure.enqueue row.derivedRevisionId).draws + 1) _
    rw [relined_store, enqueue_store, enqueue_draws]
    exact next
  · intro revisionId member
    rw [relined_store, enqueue_store]
    have stored : erasure.store.revisions.row revisionId ≠ none := by
      rcases (member_iff revisionId).mp member with old | ⟨stored, present, _⟩
      · exact valid.collected revisionId old
      · rw [present]
        exact some_ne_none stored
    obtain ⟨stored, present⟩ := ne_none_iff_exists'.mp stored
    obtain ⟨after, present', _⟩ := older revisionId stored present
    rw [present']
    exact some_ne_none after
  · intro revisionId member
    rw [mem_revisionIds_relined]
    rcases mem_pending_relined.mp member with queued | ⟨listed, _⟩
    · rcases mem_pending_enqueue.mp queued with old | ⟨fresh, _⟩
      · exact .inl (mem_revisionIds_enqueue.mpr (.inl (valid.pending old)))
      · exact .inl (mem_revisionIds_enqueue.mpr (.inr fresh))
    · exact .inr listed
  · intro assertionId member revisionId stored present owner
    rw [relined_assertionIds, enqueue_assertionIds] at member
    rw [relined_store, enqueue_store] at present
    rw [member_iff]
    rcases row_of_replaceCurrent present with ⟨_, rfl⟩ | ⟨_, original, present', equal⟩
    · exact absurd (relining.identity.symm.trans owner ▸ member) kept
    · exact .inl (valid.dropped assertionId member revisionId original present' (equal ▸ owner))
  · intro assertionId revisionId pointed member
    rw [relined_store, enqueue_store, pointer_replaceCurrent] at pointed
    rw [relined_assertionIds, enqueue_assertionIds]
    split_ifs at pointed with replaced
    · cases pointed
      rcases (member_iff _).mp member with old | ⟨stored, present, _⟩
      · exact absurd old uncollected
      · rw [relining.fresh] at present
        cases present
    · rcases (member_iff revisionId).mp member with old | ⟨stored, present, owner⟩
      · exact valid.current assertionId revisionId pointed old
      · obtain ⟨other, present', owner'⟩ := valid.linked.pointed _ _ pointed
        rw [present] at present'
        cases present'
        exact absurd (owner'.symm.trans (owner.trans relining.identity.symm)) replaced
  · -- The replaced conclusion keeps only the replacement; the others are as before.
    have replaced : ∀ stored : RevisionRow D,
        stored.assertion.assertionId = row.derivedAssertionId → ∃ pointer,
          (erasure.store.replaceCurrent current replacement).currents.row
            stored.assertion.assertionId = some pointer ∧
          before.revisions.row pointer = none ∧ ∀ other row',
            (erasure.store.replaceCurrent current replacement).revisions.row other = some row' →
            row'.assertion.assertionId = stored.assertion.assertionId → other ≠ pointer →
            other ∈ ((erasure.enqueue row.derivedRevisionId).relined current
              replacement).revisionIds := by
      intro stored owner
      refine ⟨replacement.revisionId, ?_, unknown, ?_⟩
      · rw [pointer_replaceCurrent, if_pos (owner.trans relining.identity.symm)]
      · intro other row' present same distinct
        obtain ⟨original, present', equal⟩ := old_owner other row' present distinct
        exact (member_iff other).mpr (.inr ⟨original, present', equal ▸ same.trans owner⟩)
    intro revisionId stored present absent
    rw [relined_store, enqueue_store] at present ⊢
    by_cases owner : stored.assertion.assertionId = row.derivedAssertionId
    · exact replaced stored owner
    · obtain ⟨original, present', equal⟩ := old_owner revisionId stored present (by
        intro fresh
        subst fresh
        rcases row_of_replaceCurrent present with ⟨_, rfl⟩ | ⟨distinct, _⟩
        · exact owner relining.identity
        · exact distinct rfl)
      obtain ⟨pointer, pointed, unknown', others⟩ :=
        valid.relined revisionId original present' absent
      rw [← equal] at pointed others
      refine ⟨pointer, ?_, unknown', ?_⟩
      · rw [pointer_replaceCurrent, if_neg (fun equal => owner (equal.trans relining.identity))]
        exact pointed
      · intro other row' present'' same distinct
        obtain ⟨original', present''', equal'⟩ := old_owner other row' present'' (by
          intro fresh
          subst fresh
          rcases row_of_replaceCurrent present'' with ⟨_, rfl⟩ | ⟨distinct', _⟩
          · exact owner (same.symm.trans relining.identity)
          · exact distinct' rfl)
        exact (member_iff other).mpr
          (.inl (others other original' present''' (equal' ▸ same) distinct))
  · intro original revisionId refreshed
    change (Table.insert _ _ _).row original = _ at refreshed
    rw [Table.row_insert, enqueue_refreshedRevisionIds] at refreshed
    rw [relined_store, enqueue_store]
    split_ifs at refreshed with replaced
    · cases refreshed
      subst replaced
      refine ⟨(member_iff _).mpr (.inr ⟨_, own, relining.owner⟩), ?_⟩
      obtain ⟨after, present, equal⟩ := older _ _ own
      refine ⟨after, _, present, by rw [row_replaceCurrent, if_pos rfl], ?_⟩
      rw [equal]
      exact relining.identity.trans relining.owner.symm
    · obtain ⟨member, stored, stored', present, present', same⟩ :=
        valid.refreshed original revisionId refreshed
      obtain ⟨after, kept', equal⟩ := older _ _ present
      obtain ⟨after', kept'', equal'⟩ := older _ _ present'
      exact ⟨(member_iff _).mpr (.inl member), after, after', kept', kept'',
        by rw [equal, equal']; exact same⟩

theorem Valid.step (valid : Valid supply before erasure) (placed : Placed erasure row)
    (step : RowStep supply erasure row next) : Valid supply before next ∧ Grows erasure next := by
  cases step with
  | historical historical =>
    refine ⟨valid.historical placed historical, ?_, ?_, ?_⟩
    · rw [enqueue_store]
      exact .refl _
    · exact fun _ member => mem_revisionIds_enqueue.mpr (.inl member)
    · rw [enqueue_assertionIds]
  | dropped _ dropped =>
    refine ⟨valid.droppedRow placed dropped, ?_, ?_, ?_⟩
    · rw [enqueueAll_store, enqueue_store]
      exact .refl _
    · exact fun _ member => (valid.mem_of_dropped placed dropped).mpr member
    · rw [enqueueAll_assertionIds, enqueue_assertionIds]
  | relines _ kept found same _ replaces =>
    have relining := valid.relining found same replaces
    obtain ⟨eligible, own⟩ := relining.stored
    refine ⟨valid.relinesRow kept found same replaces, ?_, ?_, ?_⟩
    · rw [relined_store, enqueue_store]
      exact refreshes_replaceCurrent relining.fresh own replaces.content
    · exact fun _ member => (valid.mem_relined found relining).mpr (.inl member)
    · rw [relined_assertionIds, enqueue_assertionIds]
  | drops _ _ found same _ =>
    refine ⟨valid.dropsRow found same, ?_, ?_, ?_⟩
    · rw [drop_store, enqueue_store]
      exact .refl _
    · exact fun _ member => mem_revisionIds_drop.mpr
        (.inl (mem_revisionIds_enqueue.mpr (.inl member)))
    · rw [drop_assertionIds, enqueue_assertionIds]
      exact Finset.subset_insert _ _

end Step

section Rounds

section

variable (valid : Valid supply before erasure)

include valid

theorem Valid.placed (member : row ∈ erasure.batchRows) (later : erasure.store.Refreshes next.store)
    : Placed next row := by
  obtain ⟨stored, present, owner, pointed, _⟩ := mem_dependentRows.mp member
  refine ⟨?_, ?_⟩
  · obtain ⟨_, present', _⟩ := later.stored _ _ present
    exact ⟨_, present', owner⟩
  · intro historical assertionId current
    rcases later.pointed _ _ current with same | absent
    · obtain ⟨other, present', owner'⟩ := valid.linked.pointed _ _ same
      rw [present] at present'
      cases present'
      rw [← owner', owner, pointed] at same
      exact historical (Option.some.inj same)
    · rw [present] at absent
      cases absent

theorem Valid.unqueued :
    Valid supply before { erasure with pending := ∅ } :=
  valid.collect rfl rfl rfl (fun _ member => member) (Finset.empty_subset _) valid.collected
    valid.dropped valid.current

/-- **Induction over the rows of a round.** -/
theorem Valid.round_induction {holds : List (DependentRow D) → Erasure D → Prop}
    (initial : holds [] { erasure with pending := ∅ })
    (preserved : ∀ processed row rest middle next, erasure.batchRows = processed ++ row :: rest →
      processed.foldlM (fun erasure row => processRow supply erasure row)
        { erasure with pending := ∅ } = .ok middle →
      Valid supply before middle → Grows erasure middle → Placed middle row →
      RowStep supply middle row next → Valid supply before next → Grows middle next →
      holds processed middle → holds (processed ++ [row]) next)
    (rounded : round supply erasure = .ok next) :
    Valid supply before next ∧ Grows erasure next ∧ holds erasure.batchRows next := by
  unfold round at rounded
  have kept : ∀ processed row rest middle next, erasure.batchRows = processed ++ row :: rest →
      processed.foldlM (fun erasure row => processRow supply erasure row)
        { erasure with pending := ∅ } = .ok middle →
      Valid supply before middle ∧ Grows erasure middle ∧ holds processed middle →
      processRow supply middle row = .ok next →
      Valid supply before next ∧ Grows erasure next ∧ holds (processed ++ [row]) next := by
    intro processed row rest middle next split reached invariant processed_row
    obtain ⟨validMiddle, grown, held⟩ := invariant
    have member : row ∈ erasure.batchRows := by
      rw [split]
      exact List.mem_append_right _ List.mem_cons_self
    have placed := valid.placed member grown.store
    have step := processRow_step validMiddle.fresh processed_row
    obtain ⟨validNext, grows⟩ := validMiddle.step placed step
    exact ⟨validNext, grown.trans grows, preserved processed row rest middle next split reached
      validMiddle grown placed step validNext grows held⟩
  have start : Grows erasure { erasure with pending := ∅ } :=
    ⟨.refl _, fun _ member => member, fun _ member => member⟩
  exact Except.foldlM_induction kept ⟨valid.unqueued, start, initial⟩ rounded

theorem Valid.round (rounded : round supply erasure = .ok next) :
    Valid supply before next ∧ Grows erasure next := by
  let anything : List (DependentRow D) → Erasure D → Prop := fun _ _ => True
  have kept : Valid supply before next ∧ Grows erasure next ∧ anything erasure.batchRows next :=
    valid.round_induction trivial (fun _ _ _ _ _ _ _ _ _ _ _ _ _ _ => trivial) rounded
  exact ⟨kept.1, kept.2.1⟩

end

theorem start_valid {assertionId : D.AssertionId} (linked : before.Linked)
    (fresh : supply.FreshFrom 0 before) (started : start before assertionId = .ok erasure) :
    Valid supply before erasure := by
  unfold start at started
  split_ifs at started
  cases started
  refine ⟨.refl _, linked, fun later _ => fresh later (Nat.zero_le later), ?_, fun _ member =>
    member, ?_, ?_, ?_, ?_⟩
  · intro revisionId member
    obtain ⟨row, stored, _⟩ := mem_revisionsOf.mp (List.mem_toFinset.mp member)
    rw [stored]
    exact some_ne_none row
  · intro other member revisionId row stored owner
    rw [Finset.mem_singleton] at member
    exact List.mem_toFinset.mpr (mem_revisionsOf.mpr ⟨row, stored, owner.trans member⟩)
  · intro other revisionId pointed member
    obtain ⟨row, stored, owner⟩ := mem_revisionsOf.mp (List.mem_toFinset.mp member)
    obtain ⟨row', stored', owner'⟩ := linked.pointed _ _ pointed
    rw [stored] at stored'
    cases stored'
    exact Finset.mem_singleton.mpr (owner'.symm.trans owner)
  · intro revisionId row stored absent
    rw [stored] at absent
    cases absent
  · intro original revisionId refreshed
    cases refreshed

end Rounds

end Erasure

end Kestrel.AssertionStore
