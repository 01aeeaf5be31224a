import Kestrel.Storage.Publication

/-!
# One published conclusion

What a turn of the publication needs of the revisions that stand for the premises, and what it
changes: the row of its own identity and no other.
-/

namespace Kestrel.AssertionStore

open Store Option

variable {D : Domain}

namespace Store

variable {store : Store D} {assertion : Assertion D} {assertionId : D.AssertionId}

/-- The identity is held by an inactive assertion that the inference does not reactivate. -/
def Withheld (store : Store D) (assertionId : D.AssertionId) : Prop :=
  ∃ current, store.current assertionId = some current ∧ current.status ≠ .active ∧
    ¬ (current.epistemicState = .retracted ∧ current.lineage.isDirect = false)

/-- The identity is unused, or its conclusion is retracted and may be drawn again. -/
def Writable (store : Store D) (assertionId : D.AssertionId) : Prop :=
  ∀ current, store.current assertionId = some current →
    current.status ≠ .active ∧ current.epistemicState = .retracted ∧
      current.lineage.isDirect = false

/-- The inference owns the conclusion: it is to be written, or active and inferred. -/
def Owned (store : Store D) (assertionId : D.AssertionId) : Prop :=
  store.Writable assertionId ∨ ∃ row, store.currentRow assertionId = some row ∧
    row.assertion.status = .active ∧ row.assertion.epistemicState = .inferred

/-- The identity is held by an active assertion without eligibility. -/
def Ineligible (store : Store D) (assertionId : D.AssertionId) : Prop :=
  ∃ row, store.currentRow assertionId = some row ∧ row.assertion.status = .active ∧
    row.eligible = false

theorem current_eq (store : Store D) (assertionId : D.AssertionId) :
    store.current assertionId = (store.currentRow assertionId).map (·.assertion) := rfl

theorem Writable.not_withheld (writable : store.Writable assertionId) :
    ¬ store.Withheld assertionId := by
  intro withheld
  obtain ⟨current, found, _, kept⟩ := withheld
  exact kept (writable current found).2

theorem not_withheld_of_active {row : RevisionRow D} (found : store.currentRow assertionId = some row)
    (active : row.assertion.status = .active) :
    ¬ store.Withheld assertionId ∧ ¬ store.Writable assertionId := by
  have current : store.current assertionId = some row.assertion := by
    rw [current_eq, found, map_some]
  constructor
  · intro withheld
    obtain ⟨other, found', inactive, _⟩ := withheld
    rw [current] at found'
    cases found'
    exact inactive active
  · exact fun writable => (writable _ current).1 active

theorem exists_active (held : ¬ store.Withheld assertionId) (kept : ¬ store.Writable assertionId) :
    ∃ row, store.currentRow assertionId = some row ∧ row.assertion.status = .active := by
  unfold Writable at kept
  push Not at kept
  obtain ⟨current, found, derived⟩ := kept
  obtain ⟨row, located, rfl⟩ := map_eq_some_iff.mp found
  refine ⟨row, located, ?_⟩
  by_contra inactive
  exact held ⟨_, found, inactive, fun retracted => derived inactive retracted.1 retracted.2⟩

section Rows

theorem Linked.of_currentRow (linked : store.Linked) {row : RevisionRow D}
    (found : store.currentRow assertionId = some row) :
    row.assertion.assertionId = assertionId ∧
      store.currents.row assertionId = some row.assertion.revisionId ∧
      store.revisions.row row.assertion.revisionId = some row := by
  obtain ⟨revisionId, pointer, stored⟩ := bind_eq_some_iff.mp found
  obtain ⟨other, stored', owner⟩ := linked.pointed _ _ pointer
  rw [stored] at stored'
  cases stored'
  rw [linked.keyed _ _ stored]
  exact ⟨owner, pointer, stored⟩

theorem Linked.assertionId_unique (linked : store.Linked) {other : D.AssertionId}
    {row row' : RevisionRow D} (found : store.currentRow assertionId = some row)
    (found' : store.currentRow other = some row')
    (same : row.assertion.revisionId = row'.assertion.revisionId) : assertionId = other := by
  obtain ⟨owner, _, stored⟩ := linked.of_currentRow found
  obtain ⟨owner', _, stored'⟩ := linked.of_currentRow found'
  rw [same, stored'] at stored
  cases stored
  exact owner.symm.trans owner'

theorem Linked.isCurrentActiveEligibleRevision (linked : store.Linked) {row : RevisionRow D}
    (found : store.currentRow assertionId = some row) (active : row.assertion.status = .active) :
    store.isCurrentActiveEligibleRevision row.assertion.revisionId = row.eligible := by
  obtain ⟨_, pointer, stored⟩ := linked.of_currentRow found
  have pointed : (store.currents.rows.any fun current =>
      current.2 = row.assertion.revisionId) = true :=
    List.any_eq_true.mpr ⟨_, Table.mem_rows.mpr pointer, decide_eq_true rfl⟩
  unfold Store.isCurrentActiveEligibleRevision
  rw [stored]
  dsimp only
  rw [pointed, active, Bool.true_and, decide_eq_true rfl, Bool.true_and]

theorem Linked.currentRow_appendRevision (linked : store.Linked)
    (fresh : store.revisions.row assertion.revisionId = none) (assertionId : D.AssertionId) :
    (store.appendRevision assertion).currentRow assertionId =
      if assertionId = assertion.assertionId then some ⟨assertion, assertion.status = .active⟩
      else store.currentRow assertionId := by
  unfold Store.currentRow Store.appendRevision
  rw [Table.row_insert]
  split_ifs with same
  · exact Table.row_insert_self _ _ _
  · cases pointer : store.currents.row assertionId with
    | none => rfl
    | some revisionId =>
      obtain ⟨row, stored, _⟩ := linked.pointed _ _ pointer
      refine Table.row_insert_of_ne _ _ ?_
      intro drawn
      rw [drawn, fresh] at stored
      cases stored

theorem SameTables.currentRow {before after : Store D} (same : SameTables before after)
    (assertionId : D.AssertionId) : after.currentRow assertionId = before.currentRow assertionId := by
  unfold Store.currentRow
  rw [same.revisions, same.currents]

end Rows

section Writes

variable {supply : Supply D} {inputs : List D.RevisionId}

/-- The form of a conclusion that the materializer writes. -/
structure Conclusion (assertion : Assertion D) (inputs : List D.RevisionId) : Prop where
  active : assertion.status = .active
  inferred : assertion.epistemicState = .inferred
  initial : assertion.supersedesRevisionId = none
  derived : assertion.lineage.isDirect = false
  inputs : assertion.lineage.inputRevisionIds = inputs

theorem validateLineage_conclusion (conclusion : Conclusion assertion inputs)
    (stored : ∀ input ∈ inputs, store.revisions.row input ≠ none) :
    store.validateLineage assertion [] = .ok () ↔
      ∀ input ∈ inputs, store.isCurrentActiveEligibleRevision input = true := by
  have named := conclusion.inputs
  unfold validateLineage
  cases lineage : assertion.lineage with
  | direct ids =>
    have derived := conclusion.derived
    rw [lineage] at derived
    cases derived
  | derived derivation =>
    rw [lineage] at named
    subst named
    dsimp only
    rw [if_neg (by exact fun nonempty => nonempty rfl), Except.forM_eq_ok]
    refine forall₂_congr fun input member => ?_
    obtain ⟨row, present⟩ := ne_none_iff_exists'.mp (stored input member)
    unfold revision
    rw [present, map_some]
    split_ifs with eligible
    · exact iff_of_true rfl eligible
    · exact iff_of_false (fun impossible => by cases impossible) eligible

/-- What a successful write leaves: the conclusion as the active revision of its identity. -/
structure Publishes (before after : Store D) (assertion : Assertion D) : Prop where
  linked : after.Linked
  tables : SameTables (before.appendRevision assertion) after

/-- The write succeeds exactly when the lineage validates, and publishes the conclusion. -/
structure WritesConclusion (store : Store D) (assertion : Assertion D)
    (write : Except StoreError (Store D × AssertionWriteResult D)) : Prop where
  sound : ∀ after result, write = .ok (after, result) →
    store.validateLineage assertion [] = .ok () ∧ result.assertion = assertion ∧
      Publishes store after assertion
  complete : store.validateLineage assertion [] = .ok () → ∃ outcome, write = .ok outcome

theorem writes_publishInferredAssertion (linked : store.Linked)
    (conclusion : Conclusion assertion inputs)
    (fresh : store.revisions.row assertion.revisionId = none)
    (unused : store.current assertion.assertionId = none) :
    WritesConclusion store assertion (store.publishInferredAssertion supply assertion) := by
  have absent : store.revision assertion.revisionId = none := by
    unfold revision
    rw [fresh, map_none]
  have form : ¬ (assertion.status ≠ .active ∨ assertion.epistemicState ≠ .inferred ∨
      assertion.lineage.isDirect = true) := by
    rw [conclusion.active, conclusion.inferred, conclusion.derived]
    decide
  have initial : validateInitialAssertionWrite assertion = .ok () := by
    unfold validateInitialAssertionWrite
    rw [conclusion.active, conclusion.initial]
    rfl
  have written : store.writeRevision assertion = .ok { store with
      revisions := store.revisions.insert assertion.revisionId
        ⟨assertion, assertion.status = .active⟩ } := by
    unfold writeRevision
    rw [fresh]
  constructor
  · intro after result published
    unfold publishInferredAssertion at published
    rw [if_neg form, initial] at published
    change store.putInitialAssertion supply assertion [] none = _ at published
    have relinked := (linked.putInitialAssertion published).linked
    unfold putInitialAssertion at published
    rw [if_neg (by simp), absent] at published
    rw [unused] at published
    dsimp only at published
    change (store.validateLineage assertion [] >>= fun _ => _) = _ at published
    obtain ⟨_, validated, published⟩ := Except.bind_eq_ok.mp published
    rw [written] at published
    cases published
    exact ⟨validated, rfl, relinked, ⟨rfl, rfl, rfl⟩⟩
  · intro validated
    unfold publishInferredAssertion putInitialAssertion
    rw [if_neg form, initial, if_neg (by simp), absent]
    rw [unused]
    exact ⟨_, by
      change (store.validateLineage assertion [] >>= fun _ => _) = _
      rw [validated, Except.ok_bind, written]
      rfl⟩

theorem writes_reactivateInferred {current : Assertion D} (linked : store.Linked)
    (conclusion : Conclusion assertion inputs)
    (fresh : store.revisions.row assertion.revisionId = none)
    (found : store.current assertion.assertionId = some current)
    (inactive : current.status ≠ .active)
    (retracted : current.epistemicState = .retracted ∧ current.lineage.isDirect = false) :
    WritesConclusion store assertion (store.reactivateInferred supply assertion) := by
  have form : ¬ (assertion.status ≠ .active ∨ assertion.epistemicState ≠ .inferred ∨
      assertion.lineage.isDirect = true) := by
    rw [conclusion.active, conclusion.inferred, conclusion.derived]
    decide
  have status : current.status = .retracted := by
    have valid := current.valid
    unfold AssertionMapping.failure at valid
    by_contra other
    split_ifs at valid with _ _ mismatch <;> exact mismatch ⟨retracted.1, other⟩
  have owned : ¬ (current.status ≠ .retracted ∨ current.epistemicState ≠ .retracted ∨
      current.lineage.isDirect = true) := by
    rw [status, retracted.1, retracted.2]
    decide
  have written : store.writeRevision assertion = .ok { store with
      revisions := store.revisions.insert assertion.revisionId
        ⟨assertion, assertion.status = .active⟩ } := by
    unfold writeRevision
    rw [fresh]
  constructor
  · intro after result reactivated
    have relinked := (linked.reactivateInferred reactivated).linked
    unfold reactivateInferred at reactivated
    rw [if_neg form, found] at reactivated
    dsimp only at reactivated
    rw [if_neg inactive, if_neg owned] at reactivated
    obtain ⟨_, validated, reactivated⟩ := Except.bind_eq_ok.mp reactivated
    rw [written] at reactivated
    cases reactivated
    exact ⟨validated, rfl, relinked, ⟨rfl, rfl, rfl⟩⟩
  · intro validated
    unfold reactivateInferred
    rw [if_neg form, found]
    dsimp only
    rw [if_neg inactive, if_neg owned, validated, Except.ok_bind, written]
    exact ⟨_, rfl⟩

end Writes

end Store

end Kestrel.AssertionStore
