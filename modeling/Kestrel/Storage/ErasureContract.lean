import Kestrel.Storage.ErasureStops
import Kestrel.Storage.GovernedCommits

/-!
# What erasures and generations promise

No table names an erased revision any more, and every other revision stays. A generation that stands
still stands for one active graph, in every run of mutations and erasures.
-/

namespace Kestrel.AssertionStore

open Except Erasure Store

variable {D : Domain} {supply : Supply D} {before after : Store D} {result : ErasureResult D}

/-- The tables after an erasure keep no trace of what it erased, and everything else. -/
structure Store.Erases (before after : Store D) (assertionId : D.AssertionId)
    (result : ErasureResult D) : Prop where
  linked : after.Linked
  target : assertionId ∈ result.erasedAssertionIds
  revisions : ∀ revisionId ∈ result.erasedRevisionIds, after.revisions.row revisionId = none
  assertions : ∀ erased ∈ result.erasedAssertionIds, after.currents.row erased = none ∧
    ∀ revisionId row, after.revisions.row revisionId = some row →
      row.assertion.assertionId ≠ erased
  lineages : ∀ revisionId row, after.revisions.row revisionId = some row →
    (∀ input ∈ row.assertion.lineage.inputRevisionIds, input ∉ result.erasedRevisionIds) ∧
      ∀ predecessor ∈ row.assertion.supersedesRevisionId, predecessor ∉ result.erasedRevisionIds
  proofs : ∀ derivationId derivation, after.derivations.row derivationId = some derivation →
    derivation.derivedRevisionId ∉ result.erasedRevisionIds ∧
      ∀ input ∈ derivation.inputRevisionIds, input ∉ result.erasedRevisionIds
  events : ∀ event ∈ after.outbox, event.revisionId ∉ result.erasedRevisionIds
  sources : ∀ revisionId row, before.revisions.row revisionId = some row →
    revisionId ∈ result.erasedRevisionIds →
    ∀ sourceId ∈ row.assertion.lineage.sourceOccurrenceIds,
      after.sources.row sourceId ≠ none → ∃ survivor row',
        after.revisions.row survivor = some row' ∧
          sourceId ∈ row'.assertion.lineage.sourceOccurrenceIds
  kept : ∀ revisionId row, before.revisions.row revisionId = some row →
    revisionId ∉ result.erasedRevisionIds → ∃ row',
      after.revisions.row revisionId = some row' ∧
      row'.assertion.content = row.assertion.content ∧
      row'.assertion.status = row.assertion.status ∧
      row'.assertion.lineage = row.assertion.lineage ∧ (row'.eligible = true → row.eligible = true)

namespace Erasure

variable {erasure : Erasure D}

theorem finish_reports (finished : erasure.finish = .ok (after, result)) :
    result.erasedAssertionIds = erasure.assertionIds.sort ∧
      result.erasedRevisionIds = erasure.revisionIds.sort ∧
      (∀ event ∈ after.outbox, event.revisionId ∉ erasure.revisionIds) ∧
      ∀ sourceId, after.sources.row sourceId ≠ none → sourceId ∉ erasure.orphanedSources := by
  unfold finish at finished
  obtain ⟨store, reconciled, finished⟩ := bind_eq_ok.mp finished
  obtain ⟨_, _, reconciled⟩ := bind_eq_ok.mp reconciled
  cases reconciled
  cases finished
  refine ⟨rfl, rfl, ?_, ?_⟩
  · intro event member
    exact of_decide_eq_true (List.mem_filter.mp member).2
  · intro sourceId present orphaned
    refine present ?_
    rw [Table.row_keep_key, if_neg (not_not.mpr orphaned)]

theorem supersedesRevisionId_sanitize (revisionId : D.RevisionId) (row : RevisionRow D) :
    ∀ predecessor ∈ (erasure.sanitize revisionId row).assertion.supersedesRevisionId,
      predecessor ∉ erasure.revisionIds := by
  unfold sanitize
  intro predecessor superseded erased
  split_ifs at superseded with collected
  · cases superseded
  · refine collected ?_
    rw [Option.mem_def.mp superseded]
    simpa using erased

theorem mem_orphanedSources_or {revisionId : D.RevisionId} {row : RevisionRow D}
    {sourceId : D.SourceId} (stored : erasure.store.revisions.row revisionId = some row)
    (collected : revisionId ∈ erasure.revisionIds)
    (attached : sourceId ∈ row.assertion.lineage.sourceOccurrenceIds) :
    sourceId ∈ erasure.orphanedSources ∨ ∃ survivor row', survivor ∉ erasure.revisionIds ∧
      erasure.store.revisions.row survivor = some row' ∧
        sourceId ∈ row'.assertion.lineage.sourceOccurrenceIds := by
  by_contra neither
  obtain ⟨unorphaned, unattached⟩ := not_or.mp neither
  refine unorphaned (List.mem_filter.mpr ⟨?_, ?_⟩)
  · refine List.mem_flatMap.mpr ⟨(revisionId, row), ?_, attached⟩
    exact List.mem_filter.mpr ⟨Table.mem_rows.mpr stored, by simpa using collected⟩
  · rw [decide_eq_true_eq]
    intro surviving
    obtain ⟨⟨survivor, row'⟩, member, attached'⟩ := List.mem_flatMap.mp surviving
    obtain ⟨stored', kept⟩ := List.mem_filter.mp member
    exact unattached ⟨survivor, row', of_decide_eq_true kept, Table.mem_rows.mp stored', attached'⟩

theorem start_assertionIds {first : Erasure D} {assertionId : D.AssertionId}
    (started : start before assertionId = .ok first) : assertionId ∈ first.assertionIds := by
  unfold start at started
  split_ifs at started
  cases started
  exact Finset.mem_singleton_self assertionId

theorem assertionIds_rounds {next : Erasure D} (valid : Valid supply before erasure) {count : ℕ}
    (reached : rounds supply count erasure = .ok next) :
    erasure.assertionIds ⊆ next.assertionIds := by
  induction count generalizing erasure with
  | zero =>
    cases reached
    exact subset_rfl
  | succ count ih =>
    unfold rounds at reached
    split_ifs at reached
    · cases reached
      exact subset_rfl
    · obtain ⟨middle, rounded, reached⟩ := bind_eq_ok.mp reached
      obtain ⟨validMiddle, grows⟩ := valid.round rounded
      exact grows.assertionIds.trans (ih validMiddle reached)

end Erasure

/-- **An erasure that returns leaves no trace of what it erased, and keeps the rest.** -/
theorem Store.erase_leaves_no_trace (reachable : before.Reachable) (fresh : supply.FreshFrom 0 before)
    {assertionId : D.AssertionId} {limit : ℕ}
    (erased : before.erase supply assertionId limit = .ok (some (after, result))) :
    before.Erases after assertionId result := by
  obtain ⟨first, last, started, reached, idle, finished⟩ := erase_eq_some erased
  have initial := start_valid reachable.linked fresh started
  obtain ⟨valid, closed⟩ := (start_closed started).rounds initial reached
  obtain ⟨assertionIds, revisionIds, events, sources⟩ := finish_reports finished
  have left := finish_finished finished
  have linked := left.linked valid closed idle
  have sorted : ∀ revisionId, revisionId ∈ result.erasedRevisionIds ↔
      revisionId ∈ last.revisionIds := by
    intro revisionId
    rw [revisionIds, Finset.mem_sort]
  have unstored : ∀ revisionId ∈ last.revisionIds, after.revisions.row revisionId = none := by
    intro revisionId member
    rw [left.revisions, if_pos member]
  refine ⟨linked, ?_, ?_, ?_, ?_, ?_, ?_, ?_, ?_⟩
  · rw [assertionIds, Finset.mem_sort]
    exact assertionIds_rounds initial reached (start_assertionIds started)
  · exact fun revisionId member => unstored revisionId ((sorted revisionId).mp member)
  · intro dropped member
    rw [assertionIds, Finset.mem_sort] at member
    refine ⟨by rw [left.currents, if_pos member], ?_⟩
    intro revisionId row stored owner
    obtain ⟨kept, original, present, rfl⟩ := left.of_row stored
    rw [sanitize_assertionId] at owner
    exact kept (valid.dropped dropped member _ _ present owner)
  · intro revisionId row stored
    refine ⟨?_, ?_⟩
    · intro input named collected
      exact linked.cites _ _ stored input named (unstored input ((sorted input).mp collected))
    · obtain ⟨_, original, _, rfl⟩ := left.of_row stored
      intro predecessor superseded collected
      exact supersedesRevisionId_sanitize revisionId original predecessor superseded
        ((sorted predecessor).mp collected)
  · intro derivationId derivation stored
    obtain ⟨_, _, _, concluded, premised⟩ := left.derivations _ _ stored
    exact ⟨mt (sorted _).mp concluded, fun input named => mt (sorted input).mp (premised input named)⟩
  · exact fun event member => mt (sorted _).mp (events event member)
  · intro revisionId row stored collected sourceId attached present
    obtain ⟨eligible, located, _⟩ := valid.refreshes.stored _ _ stored
    obtain orphaned | ⟨survivor, row', kept, located', attached'⟩ :=
      mem_orphanedSources_or located ((sorted _).mp collected) attached
    · exact absurd orphaned (sources sourceId present)
    · refine ⟨survivor, _, left.kept_row kept located', ?_⟩
      rw [(sanitize_fields survivor row').2.2.2]
      exact attached'
  · intro revisionId row stored kept
    obtain ⟨eligible, located, revived⟩ := valid.refreshes.stored _ _ stored
    obtain ⟨_, content, status, lineage⟩ :=
      @sanitize_fields D last revisionId ⟨row.assertion, eligible⟩
    refine ⟨_, left.kept_row (mt (sorted revisionId).mpr kept) located, content, status, lineage, ?_⟩
    unfold sanitize
    split_ifs
    · exact revived
    · exact revived

theorem Store.erase_leaves_no_trace_alternative : ∃ after result,
    (alternativeStore 4).erase (Domain.natural.supply 200) 1 3 = .ok (some (after, result)) ∧
      (alternativeStore 4).Erases after 1 result := by
  have returns : ((alternativeStore 4).erase (Domain.natural.supply 200) 1 3).toOption.join.isSome =
      true := by decide +kernel
  cases erased : (alternativeStore 4).erase (Domain.natural.supply 200) 1 3 with
  | error error =>
    rw [erased] at returns
    cases returns
  | ok outcome =>
    cases outcome with
    | none =>
      rw [erased] at returns
      cases returns
    | some pair =>
      exact ⟨pair.1, pair.2, rfl, erase_leaves_no_trace alternativeStore_reachable
        (freshFrom_natural 200 (by decide +kernel)) erased⟩

section Generations

/-- A mutation or an erasure commits. -/
def Store.Moves (before after : Store D) : Prop :=
  ∃ supply,
    (∃ mutation, before.Settled mutation ∧ before.apply supply mutation = .ok after) ∨
    ∃ assertionId limit result, before.erase supply assertionId limit = .ok (some (after, result))

theorem Store.Moves.fences (keyed : before.LedgerKeyed) (moves : before.Moves after) :
    after.LedgerKeyed ∧ Ledger.Fences before after := by
  obtain ⟨supply, ⟨mutation, settled, applied⟩ | ⟨assertionId, limit, result, erased⟩⟩ := moves
  · have fenced := fenced_apply keyed settled applied
    exact ⟨Ledger.keyed_apply keyed settled applied, Ledger.fences_of_fenced fenced⟩
  · obtain ⟨advanced, kept⟩ := generation_erase erased
    exact ⟨kept keyed, .inl (advanced ▸ Nat.lt_succ_self _)⟩

end Generations

end Kestrel.AssertionStore
