import Kestrel.Storage.Erasure
import Kestrel.Storage.Linked

/-!
# The steps of the erasure worklist

What processing one row of a batch does to the worklist and to the tables.
-/

namespace Kestrel.AssertionStore

open List Except Table

variable {D : Domain}

namespace Erasure

variable {supply : Supply D} {before : Store D} {erasure next : Erasure D}
  {row : DependentRow D} {current replacement : Assertion D} {lineage : DerivedLineage D}

section Collection

@[simp] theorem enqueue_store (revisionId : D.RevisionId) :
    (erasure.enqueue revisionId).store = erasure.store := by
  unfold enqueue
  split_ifs <;> rfl

@[simp] theorem enqueue_assertionIds (revisionId : D.RevisionId) :
    (erasure.enqueue revisionId).assertionIds = erasure.assertionIds := by
  unfold enqueue
  split_ifs <;> rfl

@[simp] theorem enqueue_refreshedRevisionIds (revisionId : D.RevisionId) :
    (erasure.enqueue revisionId).refreshedRevisionIds = erasure.refreshedRevisionIds := by
  unfold enqueue
  split_ifs <;> rfl

@[simp] theorem enqueue_draws (revisionId : D.RevisionId) :
    (erasure.enqueue revisionId).draws = erasure.draws := by
  unfold enqueue
  split_ifs <;> rfl

variable {revisionId other : D.RevisionId}

theorem mem_revisionIds_enqueue : other ∈ (erasure.enqueue revisionId).revisionIds ↔
      other ∈ erasure.revisionIds ∨ other = revisionId := by
  unfold enqueue
  split_ifs with present
  · constructor
    · exact .inl
    · intro found
      rcases found with old | same
      · exact old
      · exact same ▸ present
  · rw [Finset.mem_insert, or_comm]

theorem mem_pending_enqueue : other ∈ (erasure.enqueue revisionId).pending ↔
      other ∈ erasure.pending ∨ other = revisionId ∧ revisionId ∉ erasure.revisionIds := by
  unfold enqueue
  split_ifs with present
  · simp only [present, not_true_eq_false, and_false, or_false]
  · simp only [Finset.mem_insert, present, not_false_eq_true, and_true, or_comm]

variable {revisionIds : List D.RevisionId}

@[simp] theorem enqueueAll_store : (erasure.enqueueAll revisionIds).store = erasure.store := by
  unfold enqueueAll
  induction revisionIds generalizing erasure with
  | nil => rfl
  | cons revisionId revisionIds ih => rw [foldl_cons, ih, enqueue_store]

@[simp] theorem enqueueAll_assertionIds :
    (erasure.enqueueAll revisionIds).assertionIds = erasure.assertionIds := by
  unfold enqueueAll
  induction revisionIds generalizing erasure with
  | nil => rfl
  | cons revisionId revisionIds ih => rw [foldl_cons, ih, enqueue_assertionIds]

@[simp] theorem enqueueAll_refreshedRevisionIds :
    (erasure.enqueueAll revisionIds).refreshedRevisionIds = erasure.refreshedRevisionIds := by
  unfold enqueueAll
  induction revisionIds generalizing erasure with
  | nil => rfl
  | cons revisionId revisionIds ih => rw [foldl_cons, ih, enqueue_refreshedRevisionIds]

@[simp] theorem enqueueAll_draws : (erasure.enqueueAll revisionIds).draws = erasure.draws := by
  unfold enqueueAll
  induction revisionIds generalizing erasure with
  | nil => rfl
  | cons revisionId revisionIds ih => rw [foldl_cons, ih, enqueue_draws]

theorem mem_revisionIds_enqueueAll : other ∈ (erasure.enqueueAll revisionIds).revisionIds ↔
      other ∈ erasure.revisionIds ∨ other ∈ revisionIds := by
  unfold enqueueAll
  induction revisionIds generalizing erasure with
  | nil => simp only [foldl_nil, not_mem_nil, or_false]
  | cons revisionId revisionIds ih =>
    rw [foldl_cons, ih, mem_revisionIds_enqueue, mem_cons, or_assoc]

theorem mem_pending_enqueueAll : other ∈ (erasure.enqueueAll revisionIds).pending ↔
      other ∈ erasure.pending ∨ other ∈ revisionIds ∧ other ∉ erasure.revisionIds := by
  unfold enqueueAll
  induction revisionIds generalizing erasure with
  | nil => simp only [foldl_nil, not_mem_nil, false_and, or_false]
  | cons revisionId revisionIds ih =>
    rw [foldl_cons, ih, mem_pending_enqueue, mem_revisionIds_enqueue, mem_cons]
    by_cases same : other = revisionId
    · subst same
      simp [true_and, true_or, not_true_eq_false, and_false, or_false]
    · simp only [same, false_and, or_false, false_or]

variable {assertionId : D.AssertionId}

@[simp] theorem drop_store : (erasure.drop assertionId).store = erasure.store := enqueueAll_store

@[simp] theorem drop_assertionIds :
    (erasure.drop assertionId).assertionIds = insert assertionId erasure.assertionIds :=
  enqueueAll_assertionIds

@[simp] theorem drop_refreshedRevisionIds :
    (erasure.drop assertionId).refreshedRevisionIds = erasure.refreshedRevisionIds :=
  enqueueAll_refreshedRevisionIds

@[simp] theorem drop_draws : (erasure.drop assertionId).draws = erasure.draws := enqueueAll_draws

theorem mem_revisionIds_drop : other ∈ (erasure.drop assertionId).revisionIds ↔
      other ∈ erasure.revisionIds ∨ other ∈ erasure.store.revisionsOf assertionId :=
  mem_revisionIds_enqueueAll

theorem mem_pending_drop : other ∈ (erasure.drop assertionId).pending ↔ other ∈ erasure.pending ∨
        other ∈ erasure.store.revisionsOf assertionId ∧ other ∉ erasure.revisionIds :=
  mem_pending_enqueueAll

theorem mem_revisionsOf {store : Store D} {assertionId : D.AssertionId} :
    revisionId ∈ store.revisionsOf assertionId ↔ ∃ row, store.revisions.row revisionId = some row ∧
        row.assertion.assertionId = assertionId := by
  unfold Store.revisionsOf
  rw [mem_insertionSort, mem_map]
  constructor
  · intro found
    obtain ⟨⟨_, row⟩, member, rfl⟩ := found
    obtain ⟨stored, same⟩ := mem_filter.mp member
    exact ⟨row, mem_rows.mp stored, of_decide_eq_true same⟩
  · intro found
    obtain ⟨row, stored, same⟩ := found
    exact ⟨(revisionId, row), mem_filter.mpr ⟨mem_rows.mpr stored, decide_eq_true same⟩, rfl⟩

theorem mem_dependentRows {store : Store D} {batch : Finset D.RevisionId} :
    row ∈ store.dependentRows batch ↔
      ∃ stored, store.revisions.row row.derivedRevisionId = some stored ∧
        stored.assertion.assertionId = row.derivedAssertionId ∧
        store.currents.row row.derivedAssertionId = some row.currentRevisionId ∧
        ∃ input ∈ stored.assertion.lineage.inputRevisionIds, input ∈ batch := by
  unfold Store.dependentRows
  rw [mem_insertionSort, mem_filterMap]
  constructor
  · intro found
    obtain ⟨⟨revisionId, stored⟩, member, found⟩ := found
    split_ifs at found with named
    obtain ⟨pointer, pointed, rfl⟩ := Option.map_eq_some_iff.mp found
    obtain ⟨input, each, batched⟩ := any_eq_true.mp named
    exact ⟨stored, mem_rows.mp member, rfl, pointed, input, each, of_decide_eq_true batched⟩
  · intro found
    obtain ⟨stored, present, owner, pointed, input, each, batched⟩ := found
    refine ⟨(row.derivedRevisionId, stored), mem_rows.mpr present, ?_⟩
    rw [if_pos (any_eq_true.mpr ⟨input, each, decide_eq_true batched⟩), owner, pointed]
    rfl

end Collection

section Steps

/-- The inputs of a conclusion's canonical lineage, or of an active ledger proof of its current
revision. -/
def ProofInputs (erasure : Erasure D) (current : Assertion D) (premises : List D.RevisionId) :
    Prop :=
  premises = current.lineage.inputRevisionIds ∨
    ∃ derivationId derivation, erasure.store.derivations.row derivationId = some derivation ∧
      derivation.active = true ∧ derivation.derivedRevisionId = current.revisionId ∧
      derivation.inputRevisionIds = premises

def relining (supply : Supply D) (erasure : Erasure D) (row : DependentRow D) :
    Option (DerivedLineage D) :=
  let collected := erasure.enqueue row.derivedRevisionId
  if row.currentRevisionId ≠ row.derivedRevisionId ∨
      row.derivedAssertionId ∈ collected.assertionIds then none
  else
    match collected.store.current row.derivedAssertionId with
    | none => none
    | some current =>
      match replacementLineage supply collected current with
      | .ok lineage => lineage
      | .error _ => none

/-- The tables and variables after a conclusion was re-lined by a replacement. -/
def relined (erasure : Erasure D) (current replacement : Assertion D) : Erasure D :=
  { erasure.enqueueAll (erasure.store.revisionsOf current.assertionId) with
    store := (erasure.store.invalidateEligibility current.revisionId false).appendRevision
      replacement
    refreshedRevisionIds :=
      erasure.refreshedRevisionIds.insert current.revisionId replacement.revisionId
    draws := erasure.draws + 1 }

/-- The replacement is a fresh active revision of the conclusion on the resolved inputs of one
of its proofs. -/
structure Replaces (supply : Supply D) (erasure : Erasure D) (current : Assertion D)
    (proof : DerivedLineage D) (replacement : Assertion D) : Prop where
  revisionId : replacement.revisionId = supply.uuid4 erasure.draws
  status : replacement.status = .active
  epistemicState : replacement.epistemicState = .inferred
  content : replacement.content = current.content
  lineage : replacement.lineage = .derived proof
  active : current.status = .active
  derived : current.lineage.isDirect = false
  chosen : ∃ premises, erasure.ProofInputs current premises ∧
    erasure.resolvedInputs premises = some proof.inputRevisionIds.ids

inductive RowStep (supply : Supply D) (erasure : Erasure D) (row : DependentRow D) :
    Erasure D → Prop where
  | historical : row.currentRevisionId ≠ row.derivedRevisionId →
      RowStep supply erasure row (erasure.enqueue row.derivedRevisionId)
  | dropped : row.currentRevisionId = row.derivedRevisionId →
      row.derivedAssertionId ∈ erasure.assertionIds →
      RowStep supply erasure row ((erasure.enqueue row.derivedRevisionId).enqueueAll
        (erasure.store.revisionsOf row.derivedAssertionId))
  | relines {current replacement : Assertion D} {lineage : DerivedLineage D} :
      row.currentRevisionId = row.derivedRevisionId →
      row.derivedAssertionId ∉ erasure.assertionIds →
      erasure.store.current row.derivedAssertionId = some current →
      current.revisionId = row.derivedRevisionId →
      relining supply erasure row = some lineage →
      Replaces supply (erasure.enqueue row.derivedRevisionId) current lineage replacement →
      RowStep supply erasure row
        ((erasure.enqueue row.derivedRevisionId).relined current replacement)
  | drops {current : Assertion D} :
      row.currentRevisionId = row.derivedRevisionId →
      row.derivedAssertionId ∉ erasure.assertionIds →
      erasure.store.current row.derivedAssertionId = some current →
      current.revisionId = row.derivedRevisionId →
      relining supply erasure row = none →
      RowStep supply erasure row
        ((erasure.enqueue row.derivedRevisionId).drop row.derivedAssertionId)

theorem resolvedInputs_eq_some {premises inputs : List D.RevisionId}
    (resolved : erasure.resolvedInputs premises = some inputs) :
    inputs = premises.map erasure.resolve ∧ ∀ original ∈ premises,
      ¬ erasure.Lost original ∧ erasure.resolve original ∉ erasure.revisionIds ∧
        erasure.store.isCurrentActiveEligibleRevision (erasure.resolve original) = true := by
  unfold resolvedInputs at resolved
  split_ifs at resolved with _ valid
  cases resolved
  exact ⟨rfl, valid⟩

theorem relinedLineage_inputs {ruleId profileVersion : D.Name} {inputs : List D.RevisionId}
    {reference : Option D.DerivationId} {relined : DerivedLineage D}
    (made : relinedLineage supply erasure lineage ruleId profileVersion inputs reference =
      .ok relined) : relined.inputRevisionIds.ids = inputs := by
  unfold relinedLineage at made
  obtain ⟨identifiers, unique, made⟩ := bind_eq_ok.mp made
  cases made
  unfold uniqueIdentifiers at unique
  split_ifs at unique
  cases unique
  rfl

theorem replacementLineage_chosen
    (made : replacementLineage supply erasure current = .ok (some lineage)) :
    ∃ premises, erasure.ProofInputs current premises ∧
      erasure.resolvedInputs premises = some lineage.inputRevisionIds.ids := by
  unfold replacementLineage at made
  cases own : current.lineage with
  | direct sources =>
    rw [own] at made
    cases made
  | derived derived =>
    rw [own] at made
    dsimp only at made
    split at made
    · rename_i primary resolved
      obtain ⟨relined, built, made⟩ := bind_eq_ok.mp made
      cases made
      refine ⟨_, .inl rfl, ?_⟩
      rw [own, relinedLineage_inputs built]
      exact resolved
    · split at made
      · cases made
      · rename_i proof inputs found
        obtain ⟨relined, built, made⟩ := bind_eq_ok.mp made
        cases made
        obtain ⟨recorded, member, resolves⟩ := exists_of_findSome?_eq_some found
        obtain ⟨resolved, some_resolved, same⟩ := Option.map_eq_some_iff.mp resolves
        cases same
        obtain ⟨stored, concludes⟩ := mem_filter.mp member
        obtain ⟨present, active⟩ := Store.mem_activeDerivations.mp stored
        refine ⟨_, .inr ⟨proof.1, proof.2, present, active, of_decide_eq_true concludes, rfl⟩, ?_⟩
        rw [relinedLineage_inputs built]
        exact some_resolved

theorem reline_eq (fresh : supply.FreshFrom erasure.draws erasure.store)
    (made : replacementLineage supply erasure current = .ok (some lineage))
    (relines : erasure.reline supply current lineage = .ok next) :
    ∃ replacement, Replaces supply erasure current lineage replacement ∧
      next = erasure.relined current replacement := by
  unfold reline at relines
  obtain ⟨⟨store, replacement⟩, freshened, relines⟩ := bind_eq_ok.mp relines
  cases relines
  unfold freshenInferred at freshened
  split_ifs at freshened with invalid
  push Not at invalid
  obtain ⟨state, built, freshened⟩ := bind_eq_ok.mp freshened
  obtain ⟨_, _, freshened⟩ := bind_eq_ok.mp freshened
  obtain ⟨written, wrote, freshened⟩ := bind_eq_ok.mp freshened
  cases freshened
  have fields := Assertion.fromMapping_eq_ok built
  simp only [enqueueAll_store, enqueueAll_draws] at fields wrote
  have drawn : replacement.revisionId = supply.uuid4 erasure.draws := by rw [fields]
  refine ⟨replacement, ⟨drawn, by rw [fields], by rw [fields], by rw [fields], by rw [fields], invalid.1,
    by simpa using invalid.2.2, replacementLineage_chosen made⟩, ?_⟩
  have absent : (erasure.store.invalidateEligibility current.revisionId false).revisions.row
      replacement.revisionId = none := by
    rw [drawn]
    exact Store.freshFrom_invalidateEligibility fresh _ _ _ (le_refl _)
  rw [Store.setCurrent_of_writeRevision absent wrote]
  unfold relined
  simp only [enqueueAll_refreshedRevisionIds, enqueueAll_draws]

/-- **Processing a row only collects it, re-lines its conclusion, or drops it.** -/
theorem processRow_step (fresh : supply.FreshFrom erasure.draws erasure.store)
    (processed : erasure.processRow supply row = .ok next) : RowStep supply erasure row next := by
  unfold processRow at processed
  dsimp only at processed
  split_ifs at processed with historical dropped
  · cases processed
    exact .historical historical
  · cases processed
    rw [enqueue_assertionIds] at dropped
    rw [enqueue_store]
    exact .dropped (not_not.mp historical) dropped
  · have kept := dropped
    rw [enqueue_assertionIds] at kept
    unfold relineOrDrop at processed
    split at processed
    · cases processed
    · rename_i current found
      split_ifs at processed with moved
      obtain ⟨choice, chosen, processed⟩ := bind_eq_ok.mp processed
      have choice_eq : relining supply erasure row = choice := by
        unfold relining
        rw [if_neg (not_or.mpr ⟨historical, dropped⟩), found]
        dsimp only
        rw [chosen]
      rw [enqueue_store] at found
      cases choice with
      | none =>
        cases processed
        exact .drops (not_not.mp historical) kept found (not_not.mp moved) choice_eq
      | some lineage =>
        obtain ⟨replacement, replaces, rfl⟩ := reline_eq (by
          rw [enqueue_draws, enqueue_store]
          exact fresh) chosen processed
        exact .relines (not_not.mp historical) kept found (not_not.mp moved) choice_eq replaces

end Steps

end Erasure

namespace Store

variable {before middle after : Store D} {current replacement : Assertion D}

/-- The later store keeps the revisions and the ledger of the earlier one, revives no
eligibility, points only to old pointers or new revisions, and knows no new claims. -/
structure Refreshes (before after : Store D) : Prop where
  stored : ∀ revisionId row, before.revisions.row revisionId = some row → ∃ eligible,
    after.revisions.row revisionId = some ⟨row.assertion, eligible⟩ ∧
      (eligible = true → row.eligible = true)
  pointed : ∀ assertionId revisionId, after.currents.row assertionId = some revisionId →
    before.currents.row assertionId = some revisionId ∨
      before.revisions.row revisionId = none
  derivations : after.derivations = before.derivations
  owned : ∀ revisionId row, after.revisions.row revisionId = some row →
    ∃ original row', before.revisions.row original = some row' ∧
      row'.assertion.assertionId = row.assertion.assertionId

theorem Refreshes.refl (store : Store D) : Refreshes store store where
  stored := fun _ row stored => ⟨row.eligible, stored, id⟩
  pointed := fun _ _ pointed => .inl pointed
  derivations := rfl
  owned := fun revisionId row stored => ⟨revisionId, row, stored, rfl⟩

variable {revisionId : D.RevisionId}

theorem Refreshes.absent (step : Refreshes before after)
    (absent : after.revisions.row revisionId = none) : before.revisions.row revisionId = none := by
  cases stored : before.revisions.row revisionId with
  | none => rfl
  | some row =>
    obtain ⟨_, present, _⟩ := step.stored _ _ stored
    rw [absent] at present
    cases present

theorem Refreshes.trans (first : Refreshes before middle) (second : Refreshes middle after) :
    Refreshes before after where
  stored := fun revisionId row stored => by
    obtain ⟨eligible, present, narrower⟩ := first.stored revisionId row stored
    obtain ⟨eligible', present', narrower'⟩ := second.stored _ _ present
    exact ⟨eligible', present', fun live => narrower (narrower' live)⟩
  pointed := fun assertionId revisionId pointed => by
    rcases second.pointed _ _ pointed with same | absent
    · exact first.pointed _ _ same
    · exact .inr (first.absent absent)
  derivations := second.derivations.trans first.derivations
  owned := fun revisionId row stored => by
    obtain ⟨original, row', present, same⟩ := second.owned _ _ stored
    obtain ⟨original', row'', present', same'⟩ := first.owned _ _ present
    exact ⟨original', row'', present', same'.trans same⟩

def replaceCurrent (store : Store D) (current replacement : Assertion D) : Store D :=
  (store.invalidateEligibility current.revisionId false).appendRevision replacement

theorem row_replaceCurrent (revisionId : D.RevisionId) :
    (before.replaceCurrent current replacement).revisions.row revisionId =
      if revisionId = replacement.revisionId then
        some ⟨replacement, replacement.status = .active⟩
      else (before.revisions.row revisionId).map fun row =>
        if revisionId = current.revisionId then { row with eligible := false } else row := by
  unfold replaceCurrent appendRevision
  rw [row_insert]
  rfl

theorem pointer_replaceCurrent (assertionId : D.AssertionId) :
    (before.replaceCurrent current replacement).currents.row assertionId =
      if assertionId = replacement.assertionId then some replacement.revisionId
      else before.currents.row assertionId := by
  unfold replaceCurrent appendRevision
  rw [row_insert]
  rfl

theorem old_row_replaceCurrent {row : RevisionRow D}
    (stored : before.revisions.row revisionId = some row)
    (fresh : before.revisions.row replacement.revisionId = none) :
    (before.replaceCurrent current replacement).revisions.row revisionId =
      some (if revisionId = current.revisionId then { row with eligible := false } else row) := by
  have distinct : revisionId ≠ replacement.revisionId := by
    intro same
    rw [same, fresh] at stored
    cases stored
  rw [row_replaceCurrent, if_neg distinct, stored, Option.map_some]

theorem row_of_replaceCurrent {row : RevisionRow D}
    (stored : (before.replaceCurrent current replacement).revisions.row revisionId = some row) :
    revisionId = replacement.revisionId ∧ row = ⟨replacement, replacement.status = .active⟩ ∨
      revisionId ≠ replacement.revisionId ∧ ∃ original,
        before.revisions.row revisionId = some original ∧ row.assertion = original.assertion := by
  rw [row_replaceCurrent] at stored
  by_cases same : revisionId = replacement.revisionId
  · rw [if_pos same] at stored
    cases stored
    exact .inl ⟨same, rfl⟩
  · rw [if_neg same] at stored
    obtain ⟨original, present, rfl⟩ := Option.map_eq_some_iff.mp stored
    refine .inr ⟨same, original, present, ?_⟩
    split_ifs <;> rfl

theorem refreshes_replaceCurrent {eligible : Bool}
    (fresh : before.revisions.row replacement.revisionId = none)
    (stored : before.revisions.row current.revisionId = some ⟨current, eligible⟩)
    (content : replacement.content = current.content) :
    Refreshes before (before.replaceCurrent current replacement) where
  stored := fun revisionId row present => by
    rw [old_row_replaceCurrent present fresh]
    split_ifs
    · exact ⟨false, rfl, fun impossible => by cases impossible⟩
    · exact ⟨row.eligible, rfl, id⟩
  pointed := fun assertionId revisionId pointed => by
    rw [pointer_replaceCurrent] at pointed
    split_ifs at pointed
    · cases pointed
      exact .inr fresh
    · exact .inl pointed
  derivations := rfl
  owned := fun revisionId row present => by
    rcases row_of_replaceCurrent present with ⟨_, rfl⟩ | ⟨_, original, kept, same⟩
    · refine ⟨_, _, stored, ?_⟩
      unfold Assertion.assertionId
      rw [content]
    · exact ⟨revisionId, original, kept, by rw [same]⟩

theorem Linked.replaceCurrent (linked : before.Linked)
    (fresh : before.revisions.row replacement.revisionId = none)
    (cites : before.Cites replacement.lineage) :
    (before.replaceCurrent current replacement).Linked := by
  have ineligible := linked.invalidateEligibility current.revisionId false
  have unwritten : (before.invalidateEligibility current.revisionId false).revisions.row
      replacement.revisionId = none := by
    change (before.revisions.row _).map _ = none
    rw [fresh, Option.map_none]
  exact (ineligible.linked.appendRevision unwritten (cites.mono ineligible.retains)).linked

end Store

end Kestrel.AssertionStore
