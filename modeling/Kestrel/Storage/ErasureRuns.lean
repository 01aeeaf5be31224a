import Kestrel.Storage.ErasureRounds

/-!
# Runs with erasures

When nothing is pending, every lineage that names a collected revision is collected too, so the
deletions leave no dangling reference. Every store that the operations reach is linked.
-/

namespace Kestrel.AssertionStore

open Except Option Erasure

variable {D : Domain}

namespace Erasure

variable {supply : Supply D} {before : Store D} {erasure next : Erasure D}
  {row : DependentRow D}

section Closure

/-- A stored revision with a collected input is collected, unless the input is pending. -/
def Closed (erasure : Erasure D) : Prop :=
  ∀ revisionId row, erasure.store.revisions.row revisionId = some row →
    ∀ input ∈ row.assertion.lineage.inputRevisionIds, input ∈ erasure.revisionIds →
      input ∈ erasure.pending ∨ revisionId ∈ erasure.revisionIds

/-- A step queues what it collects, the row's revision among it. -/
structure Queues (row : DependentRow D) (erasure next : Erasure D) : Prop where
  collects : row.derivedRevisionId ∈ next.revisionIds
  keeps : erasure.pending ⊆ next.pending
  queues : ∀ revisionId ∈ next.revisionIds,
    revisionId ∈ erasure.revisionIds ∨ revisionId ∈ next.pending

theorem queues_enqueue {revisionId other : D.RevisionId}
    (member : other ∈ (erasure.enqueue revisionId).revisionIds) :
    other ∈ erasure.revisionIds ∨ other ∈ (erasure.enqueue revisionId).pending := by
  rcases mem_revisionIds_enqueue.mp member with old | same
  · exact .inl old
  · by_cases present : revisionId ∈ erasure.revisionIds
    · exact .inl (same ▸ present)
    · exact .inr (mem_pending_enqueue.mpr (.inr ⟨same, present⟩))

theorem queues_both {revisionIds : List D.RevisionId}
    (collected : ∀ other, other ∈ next.revisionIds ↔
      other ∈ (erasure.enqueue row.derivedRevisionId).revisionIds ∨ other ∈ revisionIds)
    (pending : ∀ other, other ∈ next.pending ↔
      other ∈ (erasure.enqueue row.derivedRevisionId).pending ∨ other ∈ revisionIds ∧
          other ∉ (erasure.enqueue row.derivedRevisionId).revisionIds) :
    Queues row erasure next := by
  refine ⟨?_, ?_, ?_⟩
  · exact (collected _).mpr (.inl (mem_revisionIds_enqueue.mpr (.inr rfl)))
  · exact fun other member => (pending other).mpr (.inl (mem_pending_enqueue.mpr (.inl member)))
  · intro other member
    by_cases first : other ∈ (erasure.enqueue row.derivedRevisionId).revisionIds
    · rcases queues_enqueue first with old | queued
      · exact .inl old
      · exact .inr ((pending other).mpr (.inl queued))
    · rcases (collected other).mp member with earlier | listed
      · exact absurd earlier first
      · exact .inr ((pending other).mpr (.inr ⟨listed, first⟩))

theorem queues_step (step : RowStep supply erasure row next) : Queues row erasure next := by
  cases step with
  | historical =>
    exact ⟨mem_revisionIds_enqueue.mpr (.inr rfl),
      fun _ member => mem_pending_enqueue.mpr (.inl member),
      fun _ member => queues_enqueue member⟩
  | dropped =>
    exact queues_both (fun _ => mem_revisionIds_enqueueAll) (fun _ => mem_pending_enqueueAll)
  | relines =>
    exact queues_both (fun _ => mem_revisionIds_relined) (fun _ => mem_pending_relined)
  | drops => exact queues_both (fun _ => mem_revisionIds_drop) (fun _ => mem_pending_drop)

theorem uncollected_inputs_step (step : RowStep supply erasure row next)
    {revisionId : D.RevisionId} {written : RevisionRow D}
    (stored : next.store.revisions.row revisionId = some written)
    (fresh : erasure.store.revisions.row revisionId = none) :
    ∀ input ∈ written.assertion.lineage.inputRevisionIds, input ∉ erasure.revisionIds := by
  have impossible : next.store = erasure.store →
      ∀ input ∈ written.assertion.lineage.inputRevisionIds, input ∉ erasure.revisionIds := by
    intro same
    rw [same, fresh] at stored
    cases stored
  cases step with
  | historical => exact impossible (enqueue_store _)
  | dropped => exact impossible (by rw [enqueueAll_store, enqueue_store])
  | drops => exact impossible (by rw [drop_store, enqueue_store])
  | @relines current replacement proof _ _ _ _ _ replaces =>
    rw [relined_store, enqueue_store] at stored
    rcases Store.row_of_replaceCurrent stored with ⟨_, rfl⟩ | ⟨_, original, present, _⟩
    · obtain ⟨premises, _, resolved⟩ := replaces.chosen
      obtain ⟨inputs, resolves⟩ := resolvedInputs_eq_some resolved
      intro input named collected
      rw [replaces.lineage] at named
      change input ∈ proof.inputRevisionIds.ids at named
      rw [inputs] at named
      obtain ⟨premise, member, rfl⟩ := List.mem_map.mp named
      exact (resolves premise member).2.1 (mem_revisionIds_enqueue.mpr (.inl collected))
    · rw [fresh] at present
      cases present

/-- **Every round keeps the collected revisions closed.** -/
theorem Closed.round (closed : Closed erasure) (valid : Valid supply before erasure)
    (rounded : round supply erasure = .ok next) : Closed next := by
  let holds : List (DependentRow D) → Erasure D → Prop := fun processed middle =>
    (∀ row ∈ processed, row.derivedRevisionId ∈ middle.revisionIds) ∧
    (∀ revisionId ∈ middle.revisionIds,
      revisionId ∈ erasure.revisionIds ∨ revisionId ∈ middle.pending) ∧
    ∀ revisionId row, middle.store.revisions.row revisionId = some row →
      erasure.store.revisions.row revisionId = none →
      ∀ input ∈ row.assertion.lineage.inputRevisionIds, input ∉ erasure.revisionIds
  have kept : Valid supply before next ∧ Grows erasure next ∧ holds erasure.batchRows next := by
    refine valid.round_induction ?_ ?_ rounded
    · refine ⟨fun _ member => absurd member List.not_mem_nil, fun _ member => .inl member, ?_⟩
      intro revisionId row stored fresh
      rw [fresh] at stored
      cases stored
    · intro processed row rest middle after _ _ _ grown _ step _ grows held
      obtain ⟨done, queued, written⟩ := held
      have queues := queues_step step
      refine ⟨?_, ?_, ?_⟩
      · intro other member
        rcases List.mem_append.mp member with earlier | last
        · exact grows.revisionIds (done other earlier)
        · rw [List.mem_singleton.mp last]
          exact queues.collects
      · intro revisionId member
        rcases queues.queues revisionId member with old | new
        · rcases queued revisionId old with older | pending
          · exact .inl older
          · exact .inr (queues.keeps pending)
        · exact .inr new
      · intro revisionId stored present fresh input named
        by_cases known : middle.store.revisions.row revisionId = none
        · exact fun collected => uncollected_inputs_step step present known input named
            (grown.revisionIds collected)
        · obtain ⟨original, present'⟩ := ne_none_iff_exists'.mp known
          obtain ⟨_, present'', _⟩ := grows.store.stored _ _ present'
          rw [present] at present''
          cases present''
          exact written revisionId original present' fresh input named
  obtain ⟨_, grows, done, queued, written⟩ := kept
  intro revisionId stored present input named collected
  rcases queued input collected with old | pending
  · by_cases known : erasure.store.revisions.row revisionId = none
    · exact absurd old (written revisionId stored present known input named)
    · obtain ⟨original, present'⟩ := ne_none_iff_exists'.mp known
      obtain ⟨_, present'', _⟩ := grows.store.stored _ _ present'
      rw [present] at present''
      cases present''
      rcases closed revisionId original present' input named old with batched | known'
      · right
        obtain ⟨pointer, pointed⟩ :=
          ne_none_iff_exists'.mp (valid.linked.headed _ _ present')
        exact done ⟨original.assertion.assertionId, revisionId, pointer⟩
          (mem_dependentRows.mpr ⟨original, present', rfl, pointed, input, named, batched⟩)
      · exact .inr (grows.revisionIds known')
  · exact .inl pending

theorem Closed.rounds (closed : Closed erasure) (valid : Valid supply before erasure) {count : ℕ}
    (reached : rounds supply count erasure = .ok next) :
    Valid supply before next ∧ Closed next := by
  induction count generalizing erasure with
  | zero =>
    cases reached
    exact ⟨valid, closed⟩
  | succ count ih =>
    unfold rounds at reached
    split_ifs at reached
    · cases reached
      exact ⟨valid, closed⟩
    · obtain ⟨middle, rounded, reached⟩ := bind_eq_ok.mp reached
      exact ih (closed.round valid rounded) (valid.round rounded).1 reached

theorem start_closed {assertionId : D.AssertionId}
    (started : start before assertionId = .ok erasure) : Closed erasure := by
  unfold start at started
  split_ifs at started
  cases started
  exact fun _ _ _ _ _ collected => .inl collected

end Closure

section Deletion

variable {after : Store D} {result : ErasureResult D}

theorem sanitize_fields (revisionId : D.RevisionId) (row : RevisionRow D) :
    (erasure.sanitize revisionId row).assertion.revisionId = row.assertion.revisionId ∧
      (erasure.sanitize revisionId row).assertion.content = row.assertion.content ∧
      (erasure.sanitize revisionId row).assertion.status = row.assertion.status ∧
      (erasure.sanitize revisionId row).assertion.lineage = row.assertion.lineage := by
  unfold sanitize
  split_ifs <;> exact ⟨rfl, rfl, rfl, rfl⟩

theorem sanitize_assertionId (revisionId : D.RevisionId) (row : RevisionRow D) :
    (erasure.sanitize revisionId row).assertion.assertionId = row.assertion.assertionId := by
  unfold Assertion.assertionId
  rw [(sanitize_fields revisionId row).2.1]

/-- What the deletions leave. -/
structure Finished (erasure : Erasure D) (after : Store D) : Prop where
  revisions : ∀ revisionId, after.revisions.row revisionId =
    if revisionId ∈ erasure.revisionIds then none
    else (erasure.store.revisions.row revisionId).map (erasure.sanitize revisionId)
  currents : ∀ assertionId, after.currents.row assertionId =
    if assertionId ∈ erasure.assertionIds then none
    else erasure.store.currents.row assertionId
  derivations : ∀ derivationId derivation,
    after.derivations.row derivationId = some derivation → ∃ original,
      erasure.store.derivations.row derivationId = some original ∧
      derivation = erasure.retarget original ∧
      derivation.derivedRevisionId ∉ erasure.revisionIds ∧
      ∀ input ∈ derivation.inputRevisionIds, input ∉ erasure.revisionIds

theorem finish_finished (finished : erasure.finish = .ok (after, result)) :
    Finished erasure after := by
  unfold finish at finished
  obtain ⟨store, reconciled, finished⟩ := bind_eq_ok.mp finished
  obtain ⟨_, _, reconciled⟩ := bind_eq_ok.mp reconciled
  cases reconciled
  cases finished
  refine ⟨?_, ?_, ?_⟩
  · intro revisionId
    rw [Table.row_adjust, Table.row_keep_key]
    split_ifs with erased
    · rfl
    · rfl
  · intro assertionId
    rw [Table.row_keep_key]
    split_ifs with erased
    · rfl
    · rfl
  · intro derivationId derivation stored
    obtain ⟨located, kept⟩ := filter_eq_some_iff.mp stored
    obtain ⟨original, found, rfl⟩ := map_eq_some_iff.mp located
    obtain ⟨present, _⟩ := filter_eq_some_iff.mp found
    have outside := of_decide_eq_true kept
    exact ⟨original, present, rfl, outside.1, outside.2⟩

variable {revisionId : D.RevisionId}

theorem Finished.of_row (finished : Finished erasure after) {row : RevisionRow D}
    (stored : after.revisions.row revisionId = some row) :
    revisionId ∉ erasure.revisionIds ∧ ∃ original,
      erasure.store.revisions.row revisionId = some original ∧
        row = erasure.sanitize revisionId original := by
  rw [finished.revisions] at stored
  split_ifs at stored with erased
  obtain ⟨original, present, same⟩ := map_eq_some_iff.mp stored
  exact ⟨erased, original, present, same.symm⟩

theorem Finished.kept_row (finished : Finished erasure after) {original : RevisionRow D}
    (kept : revisionId ∉ erasure.revisionIds)
    (stored : erasure.store.revisions.row revisionId = some original) :
    after.revisions.row revisionId = some (erasure.sanitize revisionId original) := by
  rw [finished.revisions, if_neg kept, stored, map_some]

theorem Valid.row_resolve (valid : Valid supply before erasure) {row : RevisionRow D}
    (stored : erasure.store.revisions.row revisionId = some row) :
    ∃ resolved, erasure.store.revisions.row (erasure.resolve revisionId) = some resolved ∧
      resolved.assertion.assertionId = row.assertion.assertionId := by
  unfold resolve
  cases refreshed : erasure.refreshedRevisionIds.row revisionId with
  | none => exact ⟨row, stored, rfl⟩
  | some fresh =>
    obtain ⟨_, original, resolved, present, present', owner⟩ := valid.refreshed _ _ refreshed
    rw [stored] at present
    cases present
    exact ⟨resolved, present', owner⟩

/-- **The deletions leave no dangling reference.** -/
theorem Finished.linked (finished : Finished erasure after) (valid : Valid supply before erasure)
    (closed : Closed erasure) (idle : erasure.pending = ∅) : after.Linked := by
  have cited : ∀ revisionId row, erasure.store.revisions.row revisionId = some row →
      revisionId ∉ erasure.revisionIds →
      ∀ input ∈ row.assertion.lineage.inputRevisionIds, input ∉ erasure.revisionIds := by
    intro revisionId row stored kept input named collected
    rcases closed revisionId row stored input named collected with queued | collected'
    · rw [idle] at queued
      exact Finset.notMem_empty input queued
    · exact kept collected'
  have kept_stored : ∀ revisionId, erasure.store.revisions.row revisionId ≠ none →
      revisionId ∉ erasure.revisionIds → after.revisions.row revisionId ≠ none := by
    intro revisionId stored kept
    obtain ⟨row, present⟩ := ne_none_iff_exists'.mp stored
    rw [finished.kept_row kept present]
    exact some_ne_none _
  refine ⟨?_, ?_, ?_, ?_, ?_, ?_, ?_⟩
  · intro revisionId row stored
    obtain ⟨_, original, present, rfl⟩ := finished.of_row stored
    rw [(sanitize_fields revisionId original).1]
    exact valid.linked.keyed _ _ present
  · intro assertionId revisionId pointed
    rw [finished.currents] at pointed
    split_ifs at pointed with erased
    obtain ⟨row, stored, owner⟩ := valid.linked.pointed _ _ pointed
    have kept : revisionId ∉ erasure.revisionIds :=
      fun collected => erased (valid.current _ _ pointed collected)
    exact ⟨_, finished.kept_row kept stored, by rw [sanitize_assertionId]; exact owner⟩
  · intro revisionId row stored
    obtain ⟨kept, original, present, rfl⟩ := finished.of_row stored
    rw [sanitize_assertionId, finished.currents, if_neg]
    · exact valid.linked.headed _ _ present
    · exact fun erased => kept (valid.dropped _ erased _ _ present rfl)
  · intro revisionId row stored input named
    obtain ⟨kept, original, present, rfl⟩ := finished.of_row stored
    rw [(sanitize_fields revisionId original).2.2.2] at named
    exact kept_stored input (valid.linked.cites _ _ present input named)
      (cited _ _ present kept input named)
  · intro derivationId derivation stored
    obtain ⟨original, present, rfl, kept, _⟩ := finished.derivations _ _ stored
    obtain ⟨row, concluded, owner⟩ := valid.linked.concluded _ _ present
    obtain ⟨resolved, present', owner'⟩ := valid.row_resolve concluded
    exact ⟨_, finished.kept_row kept present', by
      rw [sanitize_assertionId]
      exact owner'.trans owner⟩
  · intro derivationId derivation stored input named
    obtain ⟨original, present, rfl, _, kept⟩ := finished.derivations _ _ stored
    obtain ⟨premise, member, rfl⟩ := List.mem_map.mp named
    obtain ⟨row, stored'⟩ :=
      ne_none_iff_exists'.mp (valid.linked.premised _ _ present premise member)
    obtain ⟨resolved, present', _⟩ := valid.row_resolve stored'
    refine kept_stored _ ?_ (kept _ named)
    rw [present']
    exact some_ne_none resolved
  · refine Subrelation.wf ?_ valid.linked.founded
    intro input revisionId names
    obtain ⟨row, stored, named⟩ := names
    obtain ⟨_, original, present, rfl⟩ := finished.of_row stored
    rw [(sanitize_fields revisionId original).2.2.2] at named
    exact ⟨original, present, named⟩

end Deletion

end Erasure

namespace Store

variable {supply : Supply D} {before after store : Store D}

theorem erase_eq_some {assertionId : D.AssertionId} {limit : ℕ} {result : ErasureResult D}
    (erased : before.erase supply assertionId limit = .ok (some (after, result))) :
    ∃ first last, start before assertionId = .ok first ∧
      rounds supply limit first = .ok last ∧ last.pending = ∅ ∧
      last.finish = .ok (after, result) := by
  unfold erase at erased
  obtain ⟨first, started, erased⟩ := bind_eq_ok.mp erased
  obtain ⟨last, reached, erased⟩ := bind_eq_ok.mp erased
  split_ifs at erased with idle
  · obtain ⟨final, finished, erased⟩ := bind_eq_ok.mp erased
    cases erased
    exact ⟨first, last, started, reached, idle, finished⟩
  · cases erased

/-- The operations on a tenant's canonical store. -/
inductive Operation (D : Domain) where
  | mutate (mutation : Mutation D)
  | revokeSemanticInference (engineVersion : D.Name)
  | erase (assertionId : D.AssertionId)

/-- An operation commits with identifiers that no stored revision has. -/
def Performs (before : Store D) (operation : Operation D) (after : Store D) : Prop :=
  ∃ supply : Supply D, supply.FreshFrom 0 before ∧
    match operation with
    | .mutate mutation => before.commit supply mutation = .ok after
    | .revokeSemanticInference engineVersion =>
      (before.revokeSemanticInference supply engineVersion).map Prod.fst = .ok after
    | .erase assertionId => ∃ limit result,
        before.erase supply assertionId limit = .ok (some (after, result))

/-- A run of operations leads from an empty tenant to the store. -/
def Reachable (store : Store D) : Prop :=
  ∃ operations, Transition.Run Performs empty operations store

theorem linked_performs (linked : before.Linked) {operation : Operation D}
    (performed : before.Performs operation after) : after.Linked := by
  obtain ⟨supply, fresh, performed⟩ := performed
  cases operation with
  | mutate mutation => exact (linked.commit performed).linked
  | revokeSemanticInference engineVersion =>
    obtain ⟨result, revoked⟩ := map_fst_eq_ok performed
    exact (linked.revokeSemanticInference revoked).linked
  | erase assertionId =>
    obtain ⟨limit, result, erased⟩ := performed
    obtain ⟨first, last, started, reached, idle, finished⟩ := erase_eq_some erased
    obtain ⟨valid, closed⟩ := (start_closed started).rounds
      (start_valid linked fresh started) reached
    exact (finish_finished finished).linked valid closed idle

/-- **Every reachable store is linked.** -/
theorem Reachable.linked (reachable : store.Reachable) : store.Linked := by
  obtain ⟨operations, run⟩ := reachable
  have preserved : ∀ (source : Store D) (operation : Operation D) (target : Store D),
      source.Linked → source.Performs operation target → target.Linked :=
    fun _ _ _ linked performed => linked_performs linked performed
  exact run.invariant preserved empty_linked

end Store

end Kestrel.AssertionStore
