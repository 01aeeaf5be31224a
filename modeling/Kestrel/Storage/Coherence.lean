import Kestrel.Base.Except
import Kestrel.Storage.Lifecycle

/-!
# Coherent tables

The invariant that ties the revision, pointer and ledger tables together, and what each table
operation does to the live revisions.
-/

namespace Kestrel.AssertionStore

variable {D : Domain}

theorem Assertion.inferred_of_derived (assertion : Assertion D)
    (active : assertion.status = .active) (derived : assertion.lineage.isDirect = false) :
    assertion.epistemicState = .inferred := by
  have valid := assertion.valid
  unfold AssertionMapping.failure at valid
  cases lineage : assertion.lineage with
  | direct sources =>
    rw [lineage] at derived
    cases derived
  | derived inputs =>
    rw [lineage, active] at valid
    by_contra other
    split_ifs at valid with _ _ _ _ legal
    exact legal ⟨other, fun retracted => retracted.1.elim⟩

theorem Lineage.inputRevisionIds_ne_nil {lineage : Lineage D}
    (derived : lineage.isDirect = false) : lineage.inputRevisionIds ≠ [] := by
  cases lineage with
  | direct sources => cases derived
  | derived inputs => exact inputs.inputRevisionIds.ne_nil

theorem Assertion.fromMapping_eq_ok {mapping : AssertionMapping D} {assertion : Assertion D}
    (made : Assertion.fromMapping mapping = .ok assertion) :
    assertion.toAssertionMapping = mapping := by
  unfold Assertion.fromMapping at made
  split at made
  · cases made
    rfl
  · cases made

namespace Store

/-- The tables agree: revisions are stored under their own id, pointers name revisions of their
assertion, only active current revisions are eligible, and ledger proofs conclude stored
revisions of the assertion in their key. -/
structure Coherent (store : Store D) : Prop where
  keyed : ∀ revisionId row, store.revisions.row revisionId = some row →
    row.assertion.revisionId = revisionId
  pointed : ∀ assertionId revisionId, store.currents.row assertionId = some revisionId →
    ∃ row, store.revisions.row revisionId = some row ∧
      row.assertion.assertionId = assertionId
  active : ∀ revisionId row, store.revisions.row revisionId = some row → row.eligible = true →
    row.assertion.status = .active
  current : ∀ revisionId row, store.revisions.row revisionId = some row → row.eligible = true →
    store.currents.row row.assertion.assertionId = some revisionId
  concluded : ∀ derivationId derivation,
    store.derivations.row derivationId = some derivation →
    ∃ row, store.revisions.row derivation.derivedRevisionId = some row ∧
      row.assertion.assertionId = derivation.derivedAssertionId
  ledgerKeyed : ∀ derivationId derivation,
    store.derivations.row derivationId = some derivation →
    ∃ premises, derivationId = D.derivationId derivation.profileKey
      derivation.derivedAssertionId derivation.ruleId premises

/-- Two stores with the same revisions, pointers and ledger. -/
structure SameTables (before after : Store D) : Prop where
  revisions : after.revisions = before.revisions
  currents : after.currents = before.currents
  derivations : after.derivations = before.derivations

variable {store before after : Store D}

theorem empty_coherent : (empty : Store D).Coherent where
  keyed := fun _ _ stored => by cases stored
  pointed := fun _ _ stored => by cases stored
  active := fun _ _ stored => by cases stored
  current := fun _ _ stored => by cases stored
  concluded := fun _ _ stored => by cases stored
  ledgerKeyed := fun _ _ stored => by cases stored

section SameTables

theorem SameTables.refl (store : Store D) : SameTables store store := ⟨rfl, rfl, rfl⟩

theorem SameTables.trans {middle : Store D} (first : SameTables before middle)
    (second : SameTables middle after) : SameTables before after :=
  ⟨second.revisions.trans first.revisions, second.currents.trans first.currents,
    second.derivations.trans first.derivations⟩

theorem SameTables.coherent (same : SameTables before after) (coherent : before.Coherent) :
    after.Coherent := by
  obtain ⟨revisions, currents, derivations⟩ := same
  cases before
  cases after
  cases revisions
  cases currents
  cases derivations
  exact ⟨coherent.keyed, coherent.pointed, coherent.active, coherent.current,
    coherent.concluded, coherent.ledgerKeyed⟩

theorem SameTables.live (same : SameTables before after) {assertion : Assertion D} :
    after.Live assertion ↔ before.Live assertion := by
  unfold Live currentActiveEligibleRows currentRows
  rw [same.revisions, same.currents]

theorem SameTables.hasLedgerHistory (same : SameTables before after) {revisionId : D.RevisionId} :
    after.HasLedgerHistory revisionId ↔ before.HasLedgerHistory revisionId := by
  unfold HasLedgerHistory
  rw [same.derivations]

theorem sameTables_events (supply : Supply D) (operation : String)
    (assertions : List (Assertion D)) (draw : ℕ) (store : Store D) :
    SameTables store (events supply operation assertions draw store) := by
  induction assertions generalizing draw store with
  | nil => exact .refl store
  | cons assertion assertions ih =>
    have first : SameTables store
        (store.event (supply.eventUuid4 draw) assertion operation (assertion.status = .active)) :=
      ⟨rfl, rfl, rfl⟩
    exact first.trans (ih _ _)

theorem generation_events (supply : Supply D) (operation : String)
    (assertions : List (Assertion D)) (draw : ℕ) (store : Store D) :
    (events supply operation assertions draw store).generation = store.generation := by
  induction assertions generalizing draw store with
  | nil => rfl
  | cons assertion assertions ih =>
    unfold events
    rw [ih]
    rfl

theorem sameTables_storeSources {sources : List (SourceOccurrence D)}
    (stored : before.storeSources sources = .ok after) : SameTables before after := by
  unfold storeSources at stored
  refine Except.foldlM_relates SameTables.refl (fun first second => first.trans second) ?_ stored
  intro before source after _ stepped
  split at stepped
  · split_ifs at stepped
    cases stepped
    exact .refl before
  · cases stepped
    exact ⟨rfl, rfl, rfl⟩

end SameTables

section Live

variable {assertion : Assertion D}

section

variable (coherent : store.Coherent)

include coherent

theorem Coherent.of_current {assertionId : D.AssertionId}
    (found : store.current assertionId = some assertion) :
    assertion.assertionId = assertionId ∧
      store.currents.row assertionId = some assertion.revisionId ∧
      ∃ eligible, store.revisions.row assertion.revisionId = some ⟨assertion, eligible⟩ := by
  unfold Store.current currentRow at found
  obtain ⟨row, located, rfl⟩ := Option.map_eq_some_iff.mp found
  obtain ⟨revisionId, pointer, stored⟩ := Option.bind_eq_some_iff.mp located
  obtain ⟨other, stored', owner⟩ := coherent.pointed _ _ pointer
  rw [stored] at stored'
  cases stored'
  have keyed := coherent.keyed _ _ stored
  rw [keyed]
  exact ⟨owner, pointer, row.eligible, stored⟩

theorem Coherent.live_iff : store.Live assertion ↔
      store.revisions.row assertion.revisionId = some ⟨assertion, true⟩ := by
  unfold Live currentActiveEligibleRows currentRows
  rw [List.mem_map]
  constructor
  · intro found
    obtain ⟨row, member, rfl⟩ := found
    obtain ⟨located, live⟩ := List.mem_filter.mp member
    obtain ⟨pointer, _, stored⟩ := List.mem_filterMap.mp located
    rw [Bool.and_eq_true] at live
    rw [coherent.keyed _ _ stored, stored, ← live.2]
  · intro stored
    refine ⟨⟨assertion, true⟩, List.mem_filter.mpr ⟨?_, ?_⟩, rfl⟩
    · have pointer := coherent.current _ _ stored rfl
      exact List.mem_filterMap.mpr
        ⟨(assertion.assertionId, assertion.revisionId), Table.mem_rows.mpr pointer, stored⟩
    · rw [Bool.and_eq_true, decide_eq_true_eq]
      exact ⟨coherent.active _ _ stored rfl, rfl⟩

theorem Coherent.live_unique {first second : Assertion D} (left : store.Live first)
    (right : store.Live second) (same : first.assertionId = second.assertionId)
    : first = second := by
  rw [coherent.live_iff] at left right
  have pointer := coherent.current _ _ left rfl
  have pointer' := coherent.current _ _ right rfl
  rw [same, pointer'] at pointer
  rw [Option.some.inj pointer, left] at right
  exact (RevisionRow.mk.inj (Option.some.inj right)).1

theorem Coherent.live_revision {first second : Assertion D} (left : store.Live first)
    (right : store.Live second) (same : first.revisionId = second.revisionId) : first = second := by
  rw [coherent.live_iff] at left right
  rw [same, right] at left
  exact (RevisionRow.mk.inj (Option.some.inj left)).1.symm

theorem Coherent.active_of_live (live : store.Live assertion) : assertion.status = .active :=
  coherent.active _ _ (coherent.live_iff.mp live) rfl

theorem Coherent.live_of_isCurrentActiveEligibleRevision {revisionId : D.RevisionId}
    (supported : store.isCurrentActiveEligibleRevision revisionId = true) :
    ∃ assertion, store.Live assertion ∧ assertion.revisionId = revisionId := by
  unfold isCurrentActiveEligibleRevision at supported
  split at supported
  · cases supported
  · rename_i row stored
    simp only [Bool.and_eq_true] at supported
    have keyed := coherent.keyed _ _ stored
    refine ⟨row.assertion, coherent.live_iff.mpr ?_, keyed⟩
    rw [keyed, stored, ← supported.2]

theorem Coherent.live_inputs {sources : List (SourceOccurrence D)}
    (validated : store.validateLineage assertion sources = .ok ()) :
    ∀ input ∈ assertion.lineage.inputRevisionIds,
      ∃ support, store.Live support ∧ support.revisionId = input := by
  unfold validateLineage at validated
  cases lineage : assertion.lineage with
  | direct expected => intro input member; cases member
  | derived derived =>
    rw [lineage] at validated
    split_ifs at validated
    intro input member
    have checked := Except.forM_eq_ok.mp validated input member
    split at checked
    · cases checked
    · split_ifs at checked with supported
      exact coherent.live_of_isCurrentActiveEligibleRevision supported

end

end Live

end Store

end Kestrel.AssertionStore
