import Kestrel.Storage.PublicationSteps

/-!
# The loop over the generated facts

The loop gets past a fact exactly when the fact is ready: some proof names only premises that
have a recorded revision, and if a revision must be written, the first such proof names only
eligible ones.
-/

namespace Kestrel.AssertionStore

open Inference List Store Set Function

variable {D : Domain} {I L S : Type}

namespace Materialization

section Conditions

variable (run : Materialization D I L S) (store : Store D) (facts : List (Fact I L D.AssertionId))
  (done : Set (Fact I L D.AssertionId))

/-- The identity is a source's, or that of a fact that was dealt with and is not withheld. -/
def RecordedAt (assertionId : D.AssertionId) : Prop :=
  (∃ fact ∈ facts, fact.isSource = true ∧ run.assertionId fact = assertionId) ∨
    ∃ fact ∈ done, run.assertionId fact = assertionId ∧ ¬ store.Withheld assertionId

/-- What the loop relies on: the facts are a closure over the store, and the run's identifiers
are fresh. -/
structure Closing : Prop where
  linked : store.Linked
  fresh : ∀ assertionId, store.revisions.row (run.revisionId assertionId) = none
  distinct : (facts.map run.assertionId).Nodup
  recorded : ∀ fact ∈ facts, ∀ derivation ∈ fact.derivations,
    run.engine.Recorded facts fact derivation
  sources : ∀ fact ∈ facts, fact.isSource = true → ∃ row,
    store.currentRow (run.assertionId fact) = some row ∧ row.assertion.status = .active ∧
      row.eligible = true ∧
      run.sourceRevisionIds store facts (run.assertionId fact) = some row.assertion.revisionId

/-- What a turn of the loop keeps: an identity that was not written has the row it had, one that
was written has an active inferred eligible row, and the recorded revisions are the current
ones. -/
structure Persisting (state : PersistState D I L) : Prop where
  linked : state.store.Linked
  fresh : ∀ assertionId, (∀ fact ∈ done, run.assertionId fact ≠ assertionId) →
    state.store.revisions.row (run.revisionId assertionId) = none
  kept : ∀ assertionId, (∀ fact ∈ done, run.assertionId fact = assertionId →
      ¬ store.Writable assertionId) →
    state.store.currentRow assertionId = store.currentRow assertionId
  written : ∀ fact ∈ done, store.Writable (run.assertionId fact) → ∃ row,
    state.store.currentRow (run.assertionId fact) = some row ∧ row.assertion.status = .active ∧
      row.assertion.epistemicState = .inferred ∧ row.eligible = true
  recorded : ∀ assertionId revisionId, state.revisionIds assertionId = some revisionId ↔
    run.RecordedAt store facts done assertionId ∧ ∃ row,
      state.store.currentRow assertionId = some row ∧ row.assertion.revisionId = revisionId

variable [LinearOrder S]

/-- The proof that the loop chooses for a fact. -/
structure Primary (fact : Fact I L D.AssertionId)
    (derivation : Inference.Derivation D.AssertionId) : Prop where
  member : derivation ∈ fact.derivations
  recorded : ∀ premise ∈ derivation.premises, run.RecordedAt store facts done premise
  least : ∀ other ∈ fact.derivations,
    (∀ premise ∈ other.premises, run.RecordedAt store facts done premise) →
      run.signature derivation ≤ run.signature other

/-- The fact has a proof over recorded revisions, and if its conclusion is to be written, the
premises of the chosen proof are eligible. -/
structure Ready (fact : Fact I L D.AssertionId) : Prop where
  available : ∃ derivation ∈ fact.derivations,
    ∀ premise ∈ derivation.premises, run.RecordedAt store facts done premise
  eligible : store.Writable (run.assertionId fact) → ∀ derivation,
    run.Primary store facts done fact derivation → ∀ premise ∈ derivation.premises,
      ¬ store.Ineligible premise

end Conditions

variable {run : Materialization D I L S} {store after : Store D}
  {facts : List (Fact I L D.AssertionId)} {done : Set (Fact I L D.AssertionId)}
  {state : PersistState D I L} {fact : Fact I L D.AssertionId}

variable {assertionId : D.AssertionId}

theorem recordedAt_insert : run.RecordedAt store facts (insert fact done) assertionId ↔
      run.RecordedAt store facts done assertionId ∨
        run.assertionId fact = assertionId ∧ ¬ store.Withheld assertionId := by
  unfold RecordedAt
  simp only [mem_insert_iff, or_and_right, exists_or, exists_eq_left]
  rw [or_assoc]
  exact or_congr_right or_comm

theorem persisting_initial (closing : run.Closing store facts) :
    run.Persisting store facts ∅ ⟨store, run.sourceRevisionIds store facts, []⟩ where
  linked := closing.linked
  fresh := fun assertionId _ => closing.fresh assertionId
  kept := fun _ _ => rfl
  written := fun _ impossible => absurd impossible (notMem_empty _)
  recorded := by
    intro assertionId revisionId
    constructor
    · intro found
      by_cases source : ∃ fact ∈ facts, fact.isSource = true ∧ run.assertionId fact = assertionId
      · obtain ⟨fact, member, source, rfl⟩ := source
        obtain ⟨row, located, _, _, named⟩ := closing.sources fact member source
        dsimp only at found
        rw [named] at found
        exact ⟨.inl ⟨fact, member, source, rfl⟩, row, located, Option.some.inj found⟩
      · dsimp only at found
        unfold sourceRevisionIds at found
        rw [if_neg source] at found
        cases found
    · intro held
      obtain ⟨⟨fact, member, source, rfl⟩ | ⟨_, impossible, _⟩, row, located, rfl⟩ := held
      · obtain ⟨row', located', _, _, named⟩ := closing.sources fact member source
        rw [located'] at located
        cases located
        exact named
      · exact absurd impossible (notMem_empty _)

theorem Persisting.row_of_recorded (persisting : run.Persisting store facts done state)
    (closing : run.Closing store facts) (recorded : run.RecordedAt store facts done assertionId) :
    ∃ row, state.store.currentRow assertionId = some row ∧ row.assertion.status = .active ∧
      (row.eligible = true ↔ ¬ store.Ineligible assertionId) := by
  by_cases written : ∃ fact ∈ done, run.assertionId fact = assertionId ∧ store.Writable assertionId
  · obtain ⟨fact, member, rfl, writable⟩ := written
    obtain ⟨row, found, active, _, eligible⟩ := persisting.written fact member writable
    refine ⟨row, found, active, iff_of_true eligible ?_⟩
    intro ineligible
    obtain ⟨old, located, standing, _⟩ := ineligible
    exact (not_withheld_of_active located standing).2 writable
  · have kept := persisting.kept assertionId fun fact member same writable =>
      written ⟨fact, member, same, writable⟩
    have standing : ∃ row, store.currentRow assertionId = some row ∧
        row.assertion.status = .active := by
      rcases recorded with ⟨fact, member, source, rfl⟩ | ⟨fact, member, rfl, held⟩
      · obtain ⟨row, found, active, _⟩ := closing.sources fact member source
        exact ⟨row, found, active⟩
      · exact exists_active held fun writable => written ⟨fact, member, rfl, writable⟩
    obtain ⟨row, found, active⟩ := standing
    refine ⟨row, kept.trans found, active, ?_⟩
    constructor
    · intro eligible ineligible
      obtain ⟨other, found', _, lost⟩ := ineligible
      rw [found] at found'
      cases found'
      rw [eligible] at lost
      cases lost
    · intro eligible
      by_contra lost
      exact eligible ⟨row, found, active, Bool.eq_false_iff.mpr lost⟩

theorem Persisting.isSome_iff (persisting : run.Persisting store facts done state)
    (closing : run.Closing store facts) :
    (state.revisionIds assertionId).isSome = true ↔
      run.RecordedAt store facts done assertionId := by
  rw [Option.isSome_iff_exists]
  constructor
  · intro found
    obtain ⟨revisionId, found⟩ := found
    exact ((persisting.recorded _ _).mp found).1
  · intro recorded
    obtain ⟨row, found, _⟩ := persisting.row_of_recorded closing recorded
    exact ⟨_, (persisting.recorded _ _).mpr ⟨recorded, row, found, rfl⟩⟩

/-! ## What a turn changes -/

theorem Persisting.pass (persisting : run.Persisting store facts done state)
    (withheld : store.Withheld (run.assertionId fact)) :
    run.Persisting store facts (insert fact done) state where
  linked := persisting.linked
  fresh := fun assertionId undrawn => persisting.fresh assertionId fun other member =>
    undrawn other (mem_insert_of_mem _ member)
  kept := fun assertionId unwritten => persisting.kept assertionId fun other member =>
    unwritten other (mem_insert_of_mem _ member)
  written := by
    intro other member writable
    rcases mem_insert_iff.mp member with rfl | known
    · exact absurd withheld writable.not_withheld
    · exact persisting.written other known writable
  recorded := by
    intro assertionId revisionId
    rw [persisting.recorded, recordedAt_insert]
    apply and_congr_left
    intro _
    constructor
    · exact .inl
    · intro found
      rcases found with recorded | ⟨rfl, held⟩
      · exact recorded
      · exact absurd withheld held

section Advance

variable {row : RevisionRow D} {persisted : List (Fact I L D.AssertionId)}

theorem Persisting.stand (persisting : run.Persisting store facts done state)
    (unique : ∀ other ∈ done, run.assertionId other ≠ run.assertionId fact)
    (found : store.currentRow (run.assertionId fact) = some row)
    (active : row.assertion.status = .active) :
    run.Persisting store facts (insert fact done)
      { store := state.store
        revisionIds := update state.revisionIds (run.assertionId fact)
          (some row.assertion.revisionId)
        persisted := persisted } where
  linked := persisting.linked
  fresh := fun assertionId undrawn => persisting.fresh assertionId fun other member =>
    undrawn other (mem_insert_of_mem _ member)
  kept := fun assertionId unwritten => persisting.kept assertionId fun other member =>
    unwritten other (mem_insert_of_mem _ member)
  written := by
    intro other member writable
    rcases mem_insert_iff.mp member with rfl | known
    · exact absurd writable (not_withheld_of_active found active).2
    · exact persisting.written other known writable
  recorded := by
    intro assertionId revisionId
    dsimp only
    have located : state.store.currentRow (run.assertionId fact) = some row := by
      rw [persisting.kept _ fun other member same => absurd same (unique other member)]
      exact found
    by_cases same : assertionId = run.assertionId fact
    · subst same
      rw [update_self, recordedAt_insert, located]
      have held := (not_withheld_of_active found active).1
      simp only [Option.some.injEq, true_and, held, not_false_eq_true, or_true, exists_eq_left']
    · rw [update_of_ne same, persisting.recorded, recordedAt_insert]
      simp only [Ne.symm same, false_and, or_false]

theorem Persisting.write {assertion : Assertion D} {inputs : List D.RevisionId}
    (persisting : run.Persisting store facts done state)
    (unique : ∀ other ∈ done, run.assertionId other ≠ run.assertionId fact)
    (writable : store.Writable (run.assertionId fact))
    (conclusion : Conclusion assertion inputs)
    (identity : assertion.assertionId = run.assertionId fact)
    (drawn : assertion.revisionId = run.revisionId (run.assertionId fact))
    (publishes : Publishes state.store after assertion) :
    run.Persisting store facts (insert fact done)
      { store := after
        revisionIds := update state.revisionIds (run.assertionId fact)
          (some assertion.revisionId)
        persisted := persisted } := by
  have unwritten : state.store.revisions.row assertion.revisionId = none := by
    rw [drawn]
    exact persisting.fresh _ unique
  have rows : ∀ assertionId, after.currentRow assertionId =
      if assertionId = run.assertionId fact then some ⟨assertion, true⟩
      else state.store.currentRow assertionId := by
    intro assertionId
    rw [publishes.tables.currentRow, persisting.linked.currentRow_appendRevision unwritten,
      identity, conclusion.active, decide_eq_true rfl]
  refine ⟨publishes.linked, ?_, ?_, ?_, ?_⟩
  · intro assertionId undrawn
    have different := undrawn fact (mem_insert _ _)
    have absent := persisting.fresh assertionId fun other member =>
      undrawn other (mem_insert_of_mem _ member)
    rw [publishes.tables.revisions]
    change (Table.insert _ _ _).row _ = none
    rw [Table.row_insert_of_ne]
    · exact absent
    · rw [drawn]
      exact fun same => different (run.revisionId_injective same).symm
  · intro assertionId outside
    dsimp only
    rw [rows, if_neg]
    · exact persisting.kept assertionId fun other member =>
        outside other (mem_insert_of_mem _ member)
    · intro same
      subst same
      exact outside fact (mem_insert _ _) rfl writable
  · intro other member writable'
    rcases mem_insert_iff.mp member with rfl | known
    · refine ⟨⟨assertion, true⟩, ?_, conclusion.active, conclusion.inferred, rfl⟩
      rw [rows, if_pos rfl]
    · rw [rows, if_neg (unique other known)]
      exact persisting.written other known writable'
  · intro assertionId revisionId
    dsimp only
    rw [recordedAt_insert, rows]
    by_cases same : assertionId = run.assertionId fact
    · subst same
      rw [update_self, if_pos rfl]
      simp only [Option.some.injEq, writable.not_withheld, not_false_eq_true, true_and, or_true,
        exists_eq_left']
    · rw [update_of_ne same, if_neg same, persisting.recorded]
      simp only [Ne.symm same, false_and, or_false]

end Advance

/-! ## The conclusion a turn writes -/

section

variable (persisting : run.Persisting store facts done state)

include persisting

variable {premises : List D.AssertionId} {primary : Inference.Derivation D.AssertionId}

theorem Persisting.mem_inputs {input : D.RevisionId} :
    input ∈ premises.filterMap state.revisionIds ↔ ∃ premise ∈ premises,
      run.RecordedAt store facts done premise ∧ ∃ row,
        state.store.currentRow premise = some row ∧ row.assertion.revisionId = input := by
  rw [mem_filterMap]
  simp only [persisting.recorded]

theorem Persisting.nodup_inputs (distinct : premises.Nodup) :
    (premises.filterMap state.revisionIds).Nodup := by
  refine Nodup.filterMap ?_ distinct
  intro first second revisionId left right
  obtain ⟨_, row, found, same⟩ := (persisting.recorded _ _).mp left
  obtain ⟨_, row', found', same'⟩ := (persisting.recorded _ _).mp right
  exact persisting.linked.assertionId_unique found found' (same.trans same'.symm)

theorem Persisting.derivedAssertion (closing : run.Closing store facts)
    (unique : ∀ other ∈ done, run.assertionId other ≠ run.assertionId fact)
    (proof : run.engine.Recorded facts fact primary)
    (recorded : ∀ premise ∈ primary.premises, run.RecordedAt store facts done premise) :
    ∃ assertion, run.derivedAssertion fact primary
        (primary.premises.filterMap state.revisionIds) = .ok assertion ∧
      Conclusion assertion (primary.premises.filterMap state.revisionIds) ∧
      assertion.assertionId = run.assertionId fact ∧
      assertion.revisionId = run.revisionId (run.assertionId fact) := by
  have nonempty : primary.premises.filterMap state.revisionIds ≠ [] := by
    intro empty
    obtain ⟨premise, named⟩ := exists_mem_of_ne_nil _ proof.nonempty
    obtain ⟨row, found, _⟩ := persisting.row_of_recorded closing (recorded premise named)
    have member : row.assertion.revisionId ∈ primary.premises.filterMap state.revisionIds :=
      persisting.mem_inputs.mpr ⟨premise, named, recorded premise named, row, found, rfl⟩
    rw [empty] at member
    cases member
  have distinct := persisting.nodup_inputs proof.nodup
  have unnamed : run.revisionId (run.assertionId fact) ∉
      primary.premises.filterMap state.revisionIds := by
    intro named
    obtain ⟨premise, _, _, row, found, same⟩ := persisting.mem_inputs.mp named
    have stored := (persisting.linked.of_currentRow found).2.2
    rw [same, persisting.fresh _ unique] at stored
    cases stored
  generalize primary.premises.filterMap state.revisionIds = inputs at nonempty distinct unnamed ⊢
  have valid : AssertionMapping.failure
      { content := run.content fact.triple
        revisionId := run.revisionId (run.assertionId fact)
        epistemicState := .inferred
        assertedAt := run.generatedAt
        lineage := .derived
          { ruleId := run.ruleName primary.ruleId
            engineVersion := run.engineVersion
            profileVersion := run.profile.ruleProfileVersion
            inputRevisionIds := ⟨inputs, nonempty, distinct⟩
            evidence := run.evidence primary inputs }
        status := .active
        supersedesRevisionId := none } = none := by
    unfold AssertionMapping.failure
    simp [unnamed]
  refine ⟨⟨_, valid⟩, ?_, ⟨rfl, rfl, rfl, rfl, rfl⟩, run.content_assertionId fact.triple, rfl⟩
  unfold Materialization.derivedAssertion uniqueIdentifiers
  rw [dif_neg nonempty, dif_pos distinct, Except.ok_bind]
  unfold Assertion.fromMapping
  split
  · rfl
  · rename_i message checked
    rw [valid] at checked
    cases checked

theorem Persisting.validates_iff (closing : run.Closing store facts) {assertion : Assertion D}
    (recorded : ∀ premise ∈ primary.premises, run.RecordedAt store facts done premise)
    (conclusion : Conclusion assertion (primary.premises.filterMap state.revisionIds)) :
    state.store.validateLineage assertion [] = .ok () ↔
      ∀ premise ∈ primary.premises, ¬ store.Ineligible premise := by
  rw [validateLineage_conclusion conclusion]
  · constructor
    · intro eligible premise named
      obtain ⟨row, found, active, iff⟩ := persisting.row_of_recorded closing (recorded premise named)
      rw [← iff, ← persisting.linked.isCurrentActiveEligibleRevision found active]
      exact eligible _ (persisting.mem_inputs.mpr
        ⟨premise, named, recorded premise named, row, found, rfl⟩)
    · intro eligible input member
      obtain ⟨premise, named, _, row, found, rfl⟩ := persisting.mem_inputs.mp member
      obtain ⟨row', found', active, iff⟩ :=
        persisting.row_of_recorded closing (recorded premise named)
      rw [found] at found'
      cases found'
      rw [persisting.linked.isCurrentActiveEligibleRevision found active, iff]
      exact eligible premise named
  · intro input member
    obtain ⟨premise, _, _, row, found, rfl⟩ := persisting.mem_inputs.mp member
    rw [(persisting.linked.of_currentRow found).2.2]
    exact Option.some_ne_none row

end

variable [LinearOrder S]

theorem Persisting.primaryDerivation_cases (persisting : run.Persisting store facts done state)
    (closing : run.Closing store facts) (fact : Fact I L D.AssertionId) :
    (run.primaryDerivation state.revisionIds fact = none ∧ ¬ ∃ derivation ∈ fact.derivations,
        ∀ premise ∈ derivation.premises, run.RecordedAt store facts done premise) ∨
    ∃ primary, run.primaryDerivation state.revisionIds fact = some primary ∧
      run.Primary store facts done fact primary := by
  have listed : ∀ derivation, derivation ∈ (fact.derivations.filter fun derivation =>
      derivation.premises.all fun premise => (state.revisionIds premise).isSome).insertionSort
        (run.signature · ≤ run.signature ·) ↔ derivation ∈ fact.derivations ∧
        ∀ premise ∈ derivation.premises, run.RecordedAt store facts done premise := by
    intro derivation
    rw [mem_insertionSort, mem_filter, all_eq_true]
    simp only [persisting.isSome_iff closing]
  have sorted := pairwise_insertionSort
    (run.signature · ≤ run.signature ·) (fact.derivations.filter fun derivation =>
      derivation.premises.all fun premise => (state.revisionIds premise).isSome)
  unfold primaryDerivation
  generalize (fact.derivations.filter fun derivation => derivation.premises.all fun premise =>
    (state.revisionIds premise).isSome).insertionSort (run.signature · ≤ run.signature ·) =
      available at listed sorted
  cases available with
  | nil =>
    refine .inl ⟨rfl, fun found => ?_⟩
    obtain ⟨derivation, member, recorded⟩ := found
    exact absurd ((listed derivation).mpr ⟨member, recorded⟩) not_mem_nil
  | cons primary rest =>
    obtain ⟨member, recorded⟩ := (listed primary).mp mem_cons_self
    refine .inr ⟨primary, rfl, member, recorded, ?_⟩
    intro other known named
    rcases mem_cons.mp ((listed other).mpr ⟨known, named⟩) with rfl | later
    · exact le_refl _
    · exact (pairwise_cons.mp sorted).1 other later

theorem Primary.unique {first second : Inference.Derivation D.AssertionId}
    (left : run.Primary store facts done fact first)
    (right : run.Primary store facts done fact second) : first = second :=
  run.signature_injective (le_antisymm (left.least second right.member right.recorded)
    (right.least first left.member left.recorded))

/-! ## One turn -/

variable {supply : Supply D} {primary : Inference.Derivation D.AssertionId}
  {assertion : Assertion D}

omit [LinearOrder S] in
theorem Persisting.persistWrite (persisting : run.Persisting store facts done state)
    {inputs : List D.RevisionId}
    (unique : ∀ other ∈ done, run.assertionId other ≠ run.assertionId fact)
    (writable : store.Writable (run.assertionId fact))
    (conclusion : Conclusion assertion inputs)
    (identity : assertion.assertionId = run.assertionId fact)
    (drawn : assertion.revisionId = run.revisionId (run.assertionId fact))
    {write : Except StoreError (Store D × AssertionWriteResult D)}
    (writes : WritesConclusion state.store assertion write) :
    (∀ next, (write >>= fun outcome =>
        run.record fact outcome.2.assertion state outcome.1) = .ok next →
      state.store.validateLineage assertion [] = .ok () ∧
        run.Persisting store facts (insert fact done) next) ∧
    (state.store.validateLineage assertion [] = .ok () → ∃ next, (write >>= fun outcome =>
        run.record fact outcome.2.assertion state outcome.1) = .ok next) := by
  have recorded : ∀ (store' : Store D), run.record fact assertion state store' = .ok
      { store := store'
        revisionIds := update state.revisionIds (run.assertionId fact)
          (some assertion.revisionId)
        persisted := state.persisted ++ [fact] } := by
    intro store'
    unfold record
    rw [if_neg (fun inactive => inactive conclusion.active)]
  constructor
  · intro next stepped
    obtain ⟨⟨after, result⟩, written, stepped⟩ := Except.bind_eq_ok.mp stepped
    obtain ⟨validated, same, publishes⟩ := writes.sound after result written
    rw [same, recorded] at stepped
    cases stepped
    exact ⟨validated, persisting.write unique writable conclusion identity drawn publishes⟩
  · intro validated
    obtain ⟨⟨after, result⟩, written⟩ := writes.complete validated
    obtain ⟨_, same, _⟩ := writes.sound after result written
    rw [written, Except.ok_bind]
    rw [same, recorded]
    exact ⟨_, rfl⟩

theorem Persisting.ready_iff_validates (persisting : run.Persisting store facts done state)
    (closing : run.Closing store facts) (writable : store.Writable (run.assertionId fact))
    (proof : run.Primary store facts done fact primary)
    (conclusion : Store.Conclusion assertion (primary.premises.filterMap state.revisionIds)) :
    run.Ready store facts done fact ↔ state.store.validateLineage assertion [] = .ok () := by
  rw [persisting.validates_iff closing proof.recorded conclusion]
  constructor
  · exact fun ready => ready.eligible writable primary proof
  · intro eligible
    refine ⟨⟨primary, proof.member, proof.recorded⟩, fun _ other chosen => ?_⟩
    rw [chosen.unique proof]
    exact eligible

/-- **A turn goes through exactly when the fact is ready, and keeps the invariant.** -/
theorem Persisting.persistFact (persisting : run.Persisting store facts done state)
    (closing : run.Closing store facts) (member : fact ∈ facts)
    (unique : ∀ other ∈ done, run.assertionId other ≠ run.assertionId fact) :
    (∀ next, run.persistFact supply state fact = .ok next →
      run.Ready store facts done fact ∧ run.Persisting store facts (insert fact done) next) ∧
    (run.Ready store facts done fact → ∃ next, run.persistFact supply state fact = .ok next) := by
  rcases persisting.primaryDerivation_cases closing fact with ⟨absent, unavailable⟩ |
    ⟨primary, chosen, proof⟩
  · unfold Materialization.persistFact
    rw [absent]
    refine ⟨fun _ impossible => ?_, fun ready => absurd ready.available unavailable⟩
    cases impossible
  obtain ⟨assertion, made, conclusion, identity, drawn⟩ :=
    persisting.derivedAssertion closing unique (closing.recorded fact member primary proof.member)
      proof.recorded
  have unwritten : state.store.revisions.row assertion.revisionId = none := by
    rw [drawn]
    exact persisting.fresh _ unique
  have located : state.store.current (run.assertionId fact) =
      store.current (run.assertionId fact) := by
    rw [current_eq, current_eq,
      persisting.kept _ fun other known same => absurd same (unique other known)]
  have ready_of : ¬ store.Writable (run.assertionId fact) → run.Ready store facts done fact :=
    fun kept => ⟨⟨primary, proof.member, proof.recorded⟩, fun writable => absurd writable kept⟩
  unfold Materialization.persistFact
  rw [chosen]
  dsimp only
  rw [made, Except.ok_bind, located]
  cases held : store.current (run.assertionId fact) with
  | none =>
    have writable : store.Writable (run.assertionId fact) := by
      intro current found
      rw [held] at found
      cases found
    rw [persisting.ready_iff_validates closing writable proof conclusion]
    exact persisting.persistWrite unique writable conclusion identity drawn
      (writes_publishInferredAssertion persisting.linked conclusion unwritten
        (by rw [identity, located, held]))
  | some current =>
    obtain ⟨row, found, rfl⟩ := Option.map_eq_some_iff.mp held
    dsimp only
    split_ifs with active retracted
    · have kept := (not_withheld_of_active found active).2
      have standing : run.record fact row.assertion state state.store = .ok
          { store := state.store
            revisionIds := update state.revisionIds (run.assertionId fact)
              (some row.assertion.revisionId)
            persisted := state.persisted ++ [fact] } := by
        unfold record
        rw [if_neg (fun inactive => inactive active)]
      rw [standing]
      refine ⟨fun next stepped => ?_, fun _ => ⟨_, rfl⟩⟩
      cases stepped
      exact ⟨ready_of kept, persisting.stand unique found active⟩
    · have writable : store.Writable (run.assertionId fact) := by
        intro current found'
        rw [held] at found'
        cases found'
        exact ⟨active, retracted⟩
      rw [persisting.ready_iff_validates closing writable proof conclusion]
      exact persisting.persistWrite unique writable conclusion identity drawn
        (writes_reactivateInferred persisting.linked conclusion unwritten
          (by rw [identity, located, held]) active retracted)
    · have withheld : store.Withheld (run.assertionId fact) := ⟨_, held, active, retracted⟩
      refine ⟨fun next stepped => ?_, fun _ => ⟨_, rfl⟩⟩
      cases stepped
      exact ⟨ready_of fun writable => writable.not_withheld withheld, persisting.pass withheld⟩

end Materialization

end Kestrel.AssertionStore
