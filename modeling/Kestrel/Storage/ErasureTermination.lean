import Kestrel.Base.Acyclic
import Kestrel.Storage.ErasureRounds

/-!
# When the erasure worklist stops

Re-lining a conclusion publishes a fresh revision, which the worklist reaches again when one of
its premises is re-lined later. The worklist stops as long as no conclusion is re-lined on
premises that rest on the conclusion itself.
-/

namespace Kestrel.AssertionStore

open Option Finset Store Dependency List

variable {D : Domain}

variable {revisionId : D.RevisionId}

namespace Store

variable {before store : Store D} {current replacement : Assertion D}

def BelongsTo (store : Store D) (revisionId : D.RevisionId) (assertionId : D.AssertionId) : Prop :=
  ∃ row, store.revisions.row revisionId = some row ∧ row.assertion.assertionId = assertionId

def claims (store : Store D) : Finset D.AssertionId :=
  (store.revisions.rows.map fun row => row.2.assertion.assertionId).toFinset

variable {assertionId : D.AssertionId}

theorem mem_claims :
    assertionId ∈ store.claims ↔ ∃ revisionId, store.BelongsTo revisionId assertionId := by
  unfold claims BelongsTo
  rw [List.mem_toFinset, List.mem_map]
  constructor
  · intro found
    obtain ⟨⟨revisionId, row⟩, member, same⟩ := found
    exact ⟨revisionId, row, Table.mem_rows.mp member, same⟩
  · intro found
    obtain ⟨revisionId, row, stored, same⟩ := found
    exact ⟨(revisionId, row), Table.mem_rows.mpr stored, same⟩

theorem current_eq_some {row : RevisionRow D}
    (pointed : store.currents.row assertionId = some revisionId)
    (stored : store.revisions.row revisionId = some row) :
    store.current assertionId = some row.assertion := by
  unfold current currentRow
  rw [pointed, bind_some, stored, map_some]

theorem revision_replaceCurrent
    (stored : store.revisions.row revisionId ≠ none)
    (fresh : store.revisions.row replacement.revisionId = none) :
    (store.replaceCurrent current replacement).revision revisionId =
      store.revision revisionId := by
  obtain ⟨row, present⟩ := ne_none_iff_exists'.mp stored
  unfold revision
  rw [old_row_replaceCurrent present fresh, present, map_some, map_some]
  split_ifs <;> rfl

theorem current_replaceCurrent_self :
    (store.replaceCurrent current replacement).current replacement.assertionId =
      some replacement := by
  unfold Store.current currentRow
  rw [pointer_replaceCurrent, if_pos rfl, bind_some, row_replaceCurrent, if_pos rfl]
  rfl

theorem Linked.current_replaceCurrent_of_ne (linked : store.Linked)
    (fresh : store.revisions.row replacement.revisionId = none)
    (other : assertionId ≠ replacement.assertionId) :
    (store.replaceCurrent current replacement).current assertionId =
      store.current assertionId := by
  unfold Store.current currentRow
  rw [pointer_replaceCurrent, if_neg other]
  cases pointed : store.currents.row assertionId with
  | none => rfl
  | some revisionId =>
    obtain ⟨row, stored, _⟩ := linked.pointed _ _ pointed
    rw [bind_some, bind_some, old_row_replaceCurrent stored fresh, stored]
    split_ifs <;> rfl

end Store

namespace Erasure

variable {supply : Supply D} {before : Store D} {erasure next : Erasure D}
  {row : DependentRow D}

/-- The first conclusion was re-lined in this erasure, and its current lineage names a revision
of the second. -/
def Rests (before : Store D) (erasure : Erasure D) (conclusion premise : D.AssertionId) : Prop :=
  ∃ assertion input support, erasure.store.current conclusion = some assertion ∧
    before.revision assertion.revisionId = none ∧
    input ∈ assertion.lineage.inputRevisionIds ∧
    erasure.store.revision input = some support ∧ support.assertionId = premise

/-- If processing the row re-lines its conclusion, the new premises do not rest on it. -/
def Onward (supply : Supply D) (before : Store D) (erasure : Erasure D) (row : DependentRow D) :
    Prop :=
  ∀ lineage, relining supply erasure row = some lineage →
    ∀ input ∈ lineage.inputRevisionIds.ids, ∀ support, erasure.store.revision input = some support →
      ¬ Relation.ReflTransGen (Rests before erasure) support.assertionId row.derivedAssertionId

/-- A condition on the states in which the rows of a round are processed. -/
def EachRow (supply : Supply D) (erasure : Erasure D)
    (condition : Erasure D → DependentRow D → Prop) : Prop :=
  ∀ processed row rest middle, erasure.batchRows = processed ++ row :: rest →
    processed.foldlM (fun erasure row => processRow supply erasure row)
      { erasure with pending := ∅ } = .ok middle → condition middle row

/-- A condition on the states in which the rows of all rounds are processed. -/
def Always (supply : Supply D) (erasure : Erasure D)
    (condition : Erasure D → DependentRow D → Prop) : Prop :=
  ∀ count reached, rounds supply count erasure = .ok reached → EachRow supply reached condition

/-- The worklist runs out of pending revisions, or is rejected. -/
def Stops (supply : Supply D) (erasure : Erasure D) : Prop :=
  ∃ count, ∀ last, rounds supply count erasure = .ok last → last.pending = ∅

variable {premise : D.AssertionId}

theorem Rests.of_store (same : next.store = erasure.store) {conclusion : D.AssertionId} :
    Rests before next conclusion premise ↔ Rests before erasure conclusion premise := by
  unfold Rests
  rw [same]

variable {condition : Erasure D → DependentRow D → Prop}

theorem Always.round (always : Always supply erasure condition) (working : erasure.pending ≠ ∅)
    (rounded : round supply erasure = .ok next) : Always supply next condition := by
  intro count reached continued
  refine always (count + 1) reached ?_
  unfold rounds
  rw [if_neg working, Except.bind_eq_ok]
  exact ⟨next, rounded, continued⟩

theorem Always.eachRow (always : Always supply erasure condition)
    : EachRow supply erasure condition :=
  always 0 erasure rfl

theorem Stops.of_round (continued : ∀ next, round supply erasure = .ok next → Stops supply next) :
    Stops supply erasure := by
  cases rounded : round supply erasure with
  | error error =>
    refine ⟨1, ?_⟩
    intro last finished
    unfold rounds at finished
    split_ifs at finished with idle
    · cases finished
      exact idle
    · rw [rounded] at finished
      cases finished
  | ok next =>
    obtain ⟨count, finishes⟩ := continued next rounded
    refine ⟨count + 1, ?_⟩
    intro last finished
    unfold rounds at finished
    split_ifs at finished with idle
    · cases finished
      exact idle
    · rw [rounded] at finished
      exact finishes last finished

section Acyclic

theorem rests_relined_of_ne (linked : erasure.store.Linked) {current replacement : Assertion D}
    (fresh : erasure.store.revisions.row replacement.revisionId = none)
    {conclusion : D.AssertionId} (other : conclusion ≠ replacement.assertionId) :
    Rests before (erasure.relined current replacement) conclusion premise ↔
      Rests before erasure conclusion premise := by
  unfold Rests
  rw [relined_store, linked.current_replaceCurrent_of_ne fresh other]
  constructor
  · intro found
    obtain ⟨assertion, input, support, located, unknown, named, stored, owner⟩ := found
    rw [revision_replaceCurrent (linked.cites_of_current located input named) fresh] at stored
    exact ⟨assertion, input, support, located, unknown, named, stored, owner⟩
  · intro found
    obtain ⟨assertion, input, support, located, unknown, named, stored, owner⟩ := found
    refine ⟨assertion, input, support, located, unknown, named, ?_, owner⟩
    rw [revision_replaceCurrent (linked.cites_of_current located input named) fresh]
    exact stored

theorem rests_relined_self {current replacement : Assertion D} {proof : DerivedLineage D}
    (replaces : Replaces supply erasure current proof replacement)
    (fresh : erasure.store.revisions.row replacement.revisionId = none)
    (unknown : before.revisions.row replacement.revisionId = none)
    {conclusion : D.AssertionId} (identity : replacement.assertionId = conclusion) :
    Rests before (erasure.relined current replacement) conclusion premise ↔
      ∃ input ∈ proof.inputRevisionIds.ids, ∃ support,
        erasure.store.revision input = some support ∧ support.assertionId = premise := by
  subst identity
  have cites := replaces.cites
  unfold Rests
  rw [relined_store, current_replaceCurrent_self]
  constructor
  · intro found
    obtain ⟨assertion, input, support, located, _, named, stored, owner⟩ := found
    cases located
    rw [revision_replaceCurrent (cites input named) fresh] at stored
    rw [replaces.lineage] at named
    exact ⟨input, named, support, stored, owner⟩
  · intro found
    obtain ⟨input, named, support, stored, owner⟩ := found
    have member : input ∈ replacement.lineage.inputRevisionIds := by
      rw [replaces.lineage]
      exact named
    refine ⟨replacement, input, support, rfl, ?_, member, ?_, owner⟩
    · unfold revision
      rw [unknown, map_none]
    · rw [revision_replaceCurrent (cites input member) fresh]
      exact stored

theorem acyclic_step (valid : Valid supply before erasure)
    (acyclic : Acyclic (Rests before erasure))
    (onward : Onward supply before erasure row) (step : RowStep supply erasure row next) :
    Acyclic (Rests before next) := by
  have unchanged : next.store = erasure.store → Acyclic (Rests before next) := by
    intro same
    exact acyclic.mono fun _ _ rests => (Rests.of_store same).mp rests
  cases step with
  | historical => exact unchanged (enqueue_store _)
  | dropped => exact unchanged (by rw [enqueueAll_store, enqueue_store])
  | drops => exact unchanged (by rw [drop_store, enqueue_store])
  | @relines current replacement lineage _ _ found same chosen replaces =>
    have relining := valid.relining found same replaces
    have linked : (erasure.enqueue row.derivedRevisionId).store.Linked := by
      rw [enqueue_store]
      exact valid.linked
    have fresh : (erasure.enqueue row.derivedRevisionId).store.revisions.row
        replacement.revisionId = none := by
      rw [enqueue_store]
      exact relining.fresh
    apply acyclic.redirect replacement.assertionId
    · intro source target other rests
      rw [rests_relined_of_ne linked fresh other] at rests
      exact (Rests.of_store (enqueue_store _)).mp rests
    · intro target rests
      rw [rests_relined_self replaces fresh (valid.refreshes.absent relining.fresh) rfl] at rests
      obtain ⟨input, named, support, stored, rfl⟩ := rests
      rw [enqueue_store] at stored
      rw [relining.identity]
      exact onward lineage chosen input named support stored

theorem acyclic_round (valid : Valid supply before erasure)
    (acyclic : Acyclic (Rests before erasure))
    (onward : EachRow supply erasure (Onward supply before))
    (rounded : round supply erasure = .ok next) : Acyclic (Rests before next) := by
  let holds : List (DependentRow D) → Erasure D → Prop :=
    fun _ middle => Acyclic (Rests before middle)
  have kept : Valid supply before next ∧ Grows erasure next ∧ holds erasure.batchRows next := by
    refine valid.round_induction acyclic ?_ rounded
    intro processed row rest middle after split reached validMiddle _ _ step _ _ held
    exact acyclic_step validMiddle held (onward processed row rest middle split reached) step
  exact kept.2.2

end Acyclic

section Progress

/-- The revisions that are still uncollected and the claims that are still kept, among those of
the store before. -/
def remaining (before : Store D) (erasure : Erasure D) : ℕ :=
  (before.revisions.keys.toFinset \ erasure.revisionIds).card +
    (before.claims \ erasure.assertionIds).card

theorem remaining_le (grows : Grows erasure next) : remaining before next ≤ remaining before erasure :=
  Nat.add_le_add (card_le_card (sdiff_subset_sdiff (fun _ member => member) grows.revisionIds))
    (card_le_card (sdiff_subset_sdiff (fun _ member => member) grows.assertionIds))

theorem known_of_remaining (grows : Grows erasure next)
    (same : remaining before next = remaining before erasure) :
    (∀ revisionId ∈ next.revisionIds, before.revisions.row revisionId ≠ none →
      revisionId ∈ erasure.revisionIds) ∧
    ∀ assertionId ∈ next.assertionIds, assertionId ∈ before.claims →
      assertionId ∈ erasure.assertionIds := by
  have revisions : before.revisions.keys.toFinset \ next.revisionIds ⊆
      before.revisions.keys.toFinset \ erasure.revisionIds :=
    sdiff_subset_sdiff (fun _ member => member) grows.revisionIds
  have claims : before.claims \ next.assertionIds ⊆ before.claims \ erasure.assertionIds :=
    sdiff_subset_sdiff (fun _ member => member) grows.assertionIds
  have fewer := card_le_card revisions
  have fewer' := card_le_card claims
  unfold remaining at same
  have equal := eq_of_subset_of_card_le revisions (by omega)
  have equal' := eq_of_subset_of_card_le claims (by omega)
  constructor
  · intro revisionId member stored
    by_contra outside
    have left : revisionId ∈ before.revisions.keys.toFinset \ erasure.revisionIds :=
      mem_sdiff.mpr ⟨mem_toFinset.mpr ((before.revisions.mem_keys _).mpr stored), outside⟩
    rw [← equal] at left
    exact (mem_sdiff.mp left).2 member
  · intro assertionId member claimed
    by_contra outside
    have left : assertionId ∈ before.claims \ erasure.assertionIds :=
      mem_sdiff.mpr ⟨claimed, outside⟩
    rw [← equal'] at left
    exact (mem_sdiff.mp left).2 member

theorem Valid.mem_claims (valid : Valid supply before erasure) {assertionId : D.AssertionId} (owned : erasure.store.BelongsTo revisionId assertionId) :
    assertionId ∈ before.claims := by
  obtain ⟨row, stored, same⟩ := owned
  obtain ⟨original, row', present, owner⟩ := valid.refreshes.owned _ _ stored
  exact Store.mem_claims.mpr ⟨original, row', present, owner.trans same⟩

theorem Valid.primary_of_fresh (valid : Valid supply before erasure) (linked : before.Linked)
    {current : Assertion D} {premises : List D.RevisionId}
    (unknown : before.revisions.row current.revisionId = none)
    (proof : erasure.ProofInputs current premises) :
    premises = current.lineage.inputRevisionIds := by
  rcases proof with primary | ⟨derivationId, derivation, stored, _, concludes, _⟩
  · exact primary
  · rw [valid.refreshes.derivations] at stored
    obtain ⟨row, present, _⟩ := linked.concluded _ _ stored
    rw [concludes, unknown] at present
    cases present

theorem Valid.resolve_belongsTo (valid : Valid supply before erasure)
    {assertionId : D.AssertionId} :
    erasure.store.BelongsTo revisionId assertionId →
      erasure.store.BelongsTo (erasure.resolve revisionId) assertionId := by
  intro owned
  obtain ⟨row, stored, same⟩ := owned
  unfold resolve
  cases refreshed : erasure.refreshedRevisionIds.row revisionId with
  | none => exact ⟨row, stored, same⟩
  | some fresh =>
    obtain ⟨_, row', row'', present, present', owner⟩ := valid.refreshed _ _ refreshed
    rw [stored] at present
    cases present
    exact ⟨row'', present', owner.trans same⟩

section Quiet

variable {current replacement : Assertion D} {proof : DerivedLineage D}

theorem rests_of_fresh (found : erasure.store.current row.derivedAssertionId = some current)
    (unknown : before.revisions.row current.revisionId = none) :
    Rests before erasure row.derivedAssertionId premise ↔
      ∃ input ∈ current.lineage.inputRevisionIds, erasure.store.BelongsTo input premise := by
  unfold Rests
  rw [found]
  constructor
  · intro rests
    obtain ⟨_, input, support, located, _, named, stored, owner⟩ := rests
    cases located
    obtain ⟨row', present, rfl⟩ := map_eq_some_iff.mp stored
    exact ⟨input, named, row', present, owner⟩
  · intro rests
    obtain ⟨input, named, row', present, owner⟩ := rests
    refine ⟨current, input, row'.assertion, rfl, ?_, named, ?_, owner⟩
    · unfold revision
      rw [unknown, map_none]
    · unfold revision
      rw [present, map_some]

/-- Re-lining a conclusion once more keeps its edges: a fresh revision has no ledger proof, so
its own premises are resolved. -/
theorem rests_relined_again (valid : Valid supply before erasure) (linked : before.Linked)
    (found : erasure.store.current row.derivedAssertionId = some current)
    (same : current.revisionId = row.derivedRevisionId)
    (replaces : Replaces supply (erasure.enqueue row.derivedRevisionId) current proof replacement)
    (unknown : before.revisions.row current.revisionId = none) :
    Rests before ((erasure.enqueue row.derivedRevisionId).relined current replacement)
        row.derivedAssertionId premise ↔
      Rests before erasure row.derivedAssertionId premise := by
  have relining := valid.relining found same replaces
  have fresh : (erasure.enqueue row.derivedRevisionId).store.revisions.row
      replacement.revisionId = none := by
    rw [enqueue_store]
    exact relining.fresh
  have resolves : (erasure.enqueue row.derivedRevisionId).resolve = erasure.resolve := by
    funext revisionId
    unfold resolve
    rw [enqueue_refreshedRevisionIds]
  obtain ⟨premises, chosen, resolved⟩ := replaces.chosen
  have primary : premises = current.lineage.inputRevisionIds := by
    refine valid.primary_of_fresh linked unknown ?_
    unfold ProofInputs at chosen ⊢
    rw [enqueue_store] at chosen
    exact chosen
  obtain ⟨inputs, _⟩ := resolvedInputs_eq_some resolved
  rw [resolves, primary] at inputs
  rw [rests_relined_self replaces fresh (valid.refreshes.absent relining.fresh) relining.identity,
    rests_of_fresh found unknown, enqueue_store, inputs]
  have cites := valid.linked.cites_of_current found
  constructor
  · intro rests
    obtain ⟨input, named, support, stored, owner⟩ := rests
    obtain ⟨original, member, rfl⟩ := mem_map.mp named
    refine ⟨original, member, ?_⟩
    obtain ⟨row', present⟩ := ne_none_iff_exists'.mp (cites original member)
    have owned := valid.resolve_belongsTo ⟨row', present, rfl⟩
    obtain ⟨row'', present', owner'⟩ := owned
    unfold revision at stored
    rw [present', map_some, Option.some.injEq] at stored
    refine ⟨row', present, ?_⟩
    rw [← owner', stored]
    exact owner
  · intro rests
    obtain ⟨original, member, owned⟩ := rests
    obtain ⟨row', present, owner⟩ := valid.resolve_belongsTo owned
    refine ⟨erasure.resolve original, mem_map.mpr ⟨original, member, rfl⟩, row'.assertion,
      ?_, owner⟩
    unfold revision
    rw [present, map_some]

/-- A step without progress keeps every edge and queues nothing but the fresh current revision
of its row. -/
theorem quiet_step (valid : Valid supply before erasure) (linked : before.Linked)
    (placed : Placed erasure row) (step : RowStep supply erasure row next)
    (grows : Grows erasure next) (same : remaining before next = remaining before erasure) :
    (∀ conclusion premise, Rests before next conclusion premise ↔
      Rests before erasure conclusion premise) ∧
    ∀ revisionId ∈ next.pending, revisionId ∈ erasure.pending ∨
      revisionId = row.derivedRevisionId ∧ before.revisions.row revisionId = none ∧
        erasure.store.currents.row row.derivedAssertionId = some revisionId := by
  obtain ⟨revisionsKnown, claimsKnown⟩ := known_of_remaining grows same
  cases step with
  | historical historical =>
    refine ⟨fun _ _ => Rests.of_store (enqueue_store _), ?_⟩
    intro revisionId member
    rcases mem_pending_enqueue.mp member with old | ⟨rfl, uncollected⟩
    · exact .inl old
    · -- An old revision was collected before, and so was a fresh one that is not current.
      exfalso
      apply uncollected
      by_cases unknown : before.revisions.row row.derivedRevisionId = none
      · obtain ⟨stored, present, _⟩ := placed.stored
        obtain ⟨pointer, pointed, _, others⟩ := valid.relined _ _ present unknown
        refine others _ _ present rfl ?_
        intro equal
        exact placed.historical historical _ (equal ▸ pointed)
      · exact revisionsKnown _ (mem_revisionIds_enqueue.mpr (.inr rfl)) unknown
  | dropped _ dropped =>
    refine ⟨fun _ _ => Rests.of_store (by rw [enqueueAll_store, enqueue_store]), ?_⟩
    intro revisionId member
    have collected : ∀ other ∈ ((erasure.enqueue row.derivedRevisionId).enqueueAll
        (erasure.store.revisionsOf row.derivedAssertionId)).revisionIds,
        other ∈ erasure.revisionIds :=
      fun other listed => (valid.mem_of_dropped placed dropped).mp listed
    rcases mem_pending_enqueueAll.mp member with queued | ⟨listed, outside⟩
    · rcases mem_pending_enqueue.mp queued with old | ⟨rfl, outside⟩
      · exact .inl old
      · exact absurd (collected _ (mem_revisionIds_enqueueAll.mpr
          (.inl (mem_revisionIds_enqueue.mpr (.inr rfl))))) outside
    · exact absurd (mem_revisionIds_enqueue.mpr (.inl (collected _
        (mem_revisionIds_enqueueAll.mpr (.inr listed))))) outside
  | drops _ kept found _ _ =>
    exfalso
    obtain ⟨owner, _, eligible, own⟩ := valid.linked.of_current found
    refine kept (claimsKnown _ ?_ (valid.mem_claims ⟨_, own, owner⟩))
    rw [drop_assertionIds]
    exact mem_insert_self _ _
  | @relines current replacement proof _ kept found located _ replaces =>
    have relining := valid.relining found located replaces
    obtain ⟨eligible, own⟩ := relining.stored
    have uncollected : current.revisionId ∉ erasure.revisionIds :=
      fun member => kept (valid.current _ _ relining.pointer member)
    have unknown : before.revisions.row current.revisionId = none := by
      by_contra stored
      exact uncollected (revisionsKnown _ ((valid.mem_relined found relining).mpr
        (.inr ⟨_, own, relining.owner⟩)) stored)
    refine ⟨?_, ?_⟩
    · intro conclusion premise
      by_cases self : conclusion = row.derivedAssertionId
      · subst self
        exact rests_relined_again valid linked found located replaces unknown
      · have linked' : (erasure.enqueue row.derivedRevisionId).store.Linked := by
          rw [enqueue_store]
          exact valid.linked
        have fresh : (erasure.enqueue row.derivedRevisionId).store.revisions.row
            replacement.revisionId = none := by
          rw [enqueue_store]
          exact relining.fresh
        rw [rests_relined_of_ne linked' fresh (fun equal => self (equal.trans relining.identity))]
        exact Rests.of_store (enqueue_store _)
    · intro revisionId member
      have current_only : revisionId ∉ erasure.revisionIds →
          erasure.store.BelongsTo revisionId row.derivedAssertionId →
          revisionId = current.revisionId := by
        intro outside owned
        by_contra distinct
        obtain ⟨stored, present, owner⟩ := owned
        obtain ⟨pointer, pointed, _, others⟩ := valid.relined _ _ own unknown
        rw [relining.owner, relining.pointer] at pointed
        cases pointed
        exact outside (others _ _ present (owner.trans relining.owner.symm) distinct)
      have conclude : revisionId = current.revisionId →
          revisionId = row.derivedRevisionId ∧ before.revisions.row revisionId = none ∧
            erasure.store.currents.row row.derivedAssertionId = some revisionId := by
        intro equal
        subst equal
        exact ⟨located, unknown, relining.pointer⟩
      rcases mem_pending_relined.mp member with queued | ⟨listed, outside⟩
      · rcases mem_pending_enqueue.mp queued with old | ⟨equal, _⟩
        · exact .inl old
        · exact .inr (conclude (equal.trans located.symm))
      · rw [enqueue_store, relining.owner, mem_revisionsOf] at listed
        refine .inr (conclude (current_only ?_ listed))
        exact fun old => outside (mem_revisionIds_enqueue.mpr (.inl old))

end Quiet

end Progress

section Termination

/-- A round without progress keeps every edge, and queues only re-lined conclusions that rest on
the owner of a revision that was pending. -/
theorem quiet_round (valid : Valid supply before erasure) (linked : before.Linked)
    (rounded : round supply erasure = .ok next)
    (same : remaining before next = remaining before erasure) :
    (∀ conclusion premise, Rests before next conclusion premise ↔
      Rests before erasure conclusion premise) ∧
    ∀ revisionId ∈ next.pending, ∃ conclusion premise, ∃ batched ∈ erasure.pending,
      erasure.store.BelongsTo revisionId conclusion ∧
      erasure.store.BelongsTo batched premise ∧ Rests before erasure conclusion premise := by
  let holds : List (DependentRow D) → Erasure D → Prop := fun _ middle =>
    remaining before middle = remaining before erasure →
      (∀ conclusion premise, Rests before middle conclusion premise ↔
        Rests before erasure conclusion premise) ∧
      ∀ revisionId ∈ middle.pending, ∃ conclusion premise, ∃ batched ∈ erasure.pending,
        erasure.store.BelongsTo revisionId conclusion ∧
        erasure.store.BelongsTo batched premise ∧ Rests before erasure conclusion premise
  have kept : Valid supply before next ∧ Grows erasure next ∧ holds erasure.batchRows next := by
    refine valid.round_induction ?_ ?_ rounded
    · intro _
      refine ⟨fun _ _ => Iff.rfl, ?_⟩
      intro revisionId member
      exact absurd member (notMem_empty revisionId)
    · intro processed row rest middle after split _ validMiddle grown placed step _ grows held quiet
      have least : remaining before after ≤ remaining before middle := remaining_le grows
      have least' : remaining before middle ≤ remaining before erasure := remaining_le grown
      obtain ⟨edges, queued⟩ := held (by omega)
      obtain ⟨edges', queued'⟩ := quiet_step validMiddle linked placed step grows (by omega)
      refine ⟨fun conclusion premise => (edges' conclusion premise).trans
        (edges conclusion premise), ?_⟩
      intro revisionId member
      rcases queued' revisionId member with old | ⟨rfl, unknown, pointed⟩
      · exact queued revisionId old
      · have listed : row ∈ erasure.batchRows := by
          rw [split]
          exact mem_append_right _ mem_cons_self
        obtain ⟨stored, present, owner, _, input, named, batched⟩ := mem_dependentRows.mp listed
        obtain ⟨support, present'⟩ :=
          ne_none_iff_exists'.mp (valid.linked.cites _ _ present input named)
        refine ⟨row.derivedAssertionId, support.assertion.assertionId, input, batched,
          ⟨stored, present, owner⟩, ⟨support, present', rfl⟩, ?_⟩
        -- The row's revision was already current when the round began.
        have pointer : erasure.store.currents.row row.derivedAssertionId =
            some row.derivedRevisionId := by
          rcases grown.store.pointed _ _ pointed with same | absent
          · exact same
          · rw [present] at absent
            cases absent
        have located := current_eq_some pointer present
        have keyed := valid.linked.keyed _ _ present
        exact (rests_of_fresh located (by rw [keyed]; exact unknown)).mpr
          ⟨input, named, support, present', rfl⟩
  exact kept.2.2 same

/-- Every pending revision belongs to a conclusion from which a path of a length starts. -/
def Deep (before : Store D) (length : ℕ) (erasure : Erasure D) : Prop :=
  ∀ revisionId ∈ erasure.pending, ∀ assertionId,
    erasure.store.BelongsTo revisionId assertionId →
    Dependency.PathFrom (Rests before erasure) length assertionId

theorem deep_round {length : ℕ} (valid : Valid supply before erasure) (linked : before.Linked)
    (deep : Deep before length erasure) (rounded : round supply erasure = .ok next)
    (same : remaining before next = remaining before erasure) : Deep before (length + 1) next := by
  obtain ⟨edges, queued⟩ := quiet_round valid linked rounded same
  obtain ⟨_, grows⟩ := valid.round rounded
  intro revisionId member assertionId owned
  obtain ⟨conclusion, premise, batched, pending, owned', support, rests⟩ := queued revisionId member
  have equal : assertionId = conclusion := by
    obtain ⟨row', present, owner⟩ := owned
    obtain ⟨row'', present', owner'⟩ := owned'
    obtain ⟨_, present'', _⟩ := grows.store.stored _ _ present'
    rw [present] at present''
    cases present''
    exact owner.symm.trans owner'
  subst equal
  refine ⟨premise, (edges _ _).mpr rests, ?_⟩
  exact (deep batched pending premise support).mono fun source target edge =>
    (edges source target).mpr edge

theorem Valid.rests_claim (valid : Valid supply before erasure) {conclusion : D.AssertionId}
    (rests : Rests before erasure conclusion premise) : premise ∈ before.claims := by
  obtain ⟨_, input, support, _, _, _, stored, owner⟩ := rests
  obtain ⟨row', present, rfl⟩ := map_eq_some_iff.mp stored
  exact valid.mem_claims ⟨row', present, owner⟩

/-- The worklist stops when no conclusion is re-lined on premises that rest on it: every round
makes progress or leads one step further along an acyclic path. -/
theorem stops_of_deep (linked : before.Linked) {length : ℕ} (valid : Valid supply before erasure)
    (acyclic : Acyclic (Rests before erasure)) (deep : Deep before length erasure)
    (onward : Always supply erasure (Onward supply before)) : Stops supply erasure := by
  induction total : remaining before erasure using Nat.strong_induction_on
    generalizing erasure length with
  | h bound progress =>
    induction left : before.claims.card + 1 - length using Nat.strong_induction_on
      generalizing erasure length with
    | h slack deeper =>
      by_cases idle : erasure.pending = ∅
      · refine ⟨0, ?_⟩
        intro last finished
        cases finished
        exact idle
      · refine Stops.of_round ?_
        intro next rounded
        obtain ⟨validNext, grows⟩ := valid.round rounded
        have acyclicNext := acyclic_round valid acyclic onward.eachRow rounded
        have onwardNext := onward.round idle rounded
        have short : length ≤ before.claims.card := by
          obtain ⟨revisionId, pending⟩ := nonempty_iff_ne_empty.mpr idle
          obtain ⟨stored, present⟩ := ne_none_iff_exists'.mp
            (valid.collected revisionId (valid.pending pending))
          exact acyclic.length_le_card (fun _ _ rests => valid.rests_claim rests)
            (deep revisionId pending _ ⟨stored, present, rfl⟩)
        rcases Nat.lt_or_ge (remaining before next) bound with fewer | same
        · have shallow : Deep before 0 next := fun _ _ _ _ => trivial
          exact progress _ fewer validNext acyclicNext shallow onwardNext rfl
        · have least : remaining before next ≤ remaining before erasure := remaining_le grows
          have equal : remaining before next = remaining before erasure := by omega
          have deeperNext := deep_round valid linked deep rounded equal
          exact deeper (before.claims.card + 1 - (length + 1)) (by omega) validNext acyclicNext
            deeperNext onwardNext (equal.trans total) rfl

end Termination

end Erasure

end Kestrel.AssertionStore
