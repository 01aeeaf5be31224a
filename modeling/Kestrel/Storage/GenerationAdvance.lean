import Kestrel.Storage.ErasureRuns

/-!
# What an operation does to the generation

Every operation that changes the canonical tables advances the tenant's generation, a batch
quarantine without targets and a ledger write with an unchanged proof graph apart. None but an
erasure changes or removes a stored assertion.
-/

namespace Kestrel.AssertionStore

open Except Erasure

variable {D : Domain}

namespace Store

variable {store before middle after : Store D} {supply : Supply D}

def LedgerKeyed (store : Store D) : Prop :=
  ∀ derivationId derivation, store.derivations.row derivationId = some derivation →
    ∃ premises, derivationId = D.derivationId derivation.profileKey
      derivation.derivedAssertionId derivation.ruleId premises

/-- The step advances the generation by a number, and keeps the stored assertions and the keys
of the ledger. -/
structure Progresses (count : ℕ) (before after : Store D) : Prop where
  generation : after.generation = before.generation + count
  revision : ∀ revisionId assertion, before.revision revisionId = some assertion →
    after.revision revisionId = some assertion
  keyed : before.LedgerKeyed → after.LedgerKeyed

variable {count further : ℕ}

theorem Progresses.refl (store : Store D) : Progresses 0 store store :=
  ⟨rfl, fun _ _ stored => stored, fun keyed => keyed⟩

theorem Progresses.trans (first : Progresses count before middle)
    (second : Progresses further middle after) : Progresses (count + further) before after where
  generation := by rw [second.generation, first.generation, Nat.add_assoc]
  revision := fun revisionId assertion stored =>
    second.revision revisionId assertion (first.revision revisionId assertion stored)
  keyed := fun keyed => second.keyed (first.keyed keyed)

theorem Progresses.followed (first : Progresses 0 before middle)
    (second : Progresses count middle after) : Progresses count before after := by
  have whole := first.trans second
  rw [Nat.zero_add] at whole
  exact whole

theorem SameTables.progresses (same : SameTables before after)
    (generation : after.generation = before.generation + count) :
    Progresses count before after where
  generation := generation
  revision := fun revisionId assertion stored => by
    unfold Store.revision at stored ⊢
    rw [same.revisions]
    exact stored
  keyed := fun keyed derivationId derivation stored => by
    rw [same.derivations] at stored
    exact keyed derivationId derivation stored

section Writes

variable {assertion item state : Assertion D} {sources : List (SourceOccurrence D)}

theorem progresses_advanceGeneration (store : Store D) :
    Progresses 1 store store.advanceGeneration :=
  SameTables.progresses ⟨rfl, rfl, rfl⟩ rfl

theorem progresses_events (supply : Supply D) (operation : String)
    (assertions : List (Assertion D)) (draw : ℕ) (store : Store D) :
    Progresses 0 store (events supply operation assertions draw store) :=
  (sameTables_events supply operation assertions draw store).progresses
    (generation_events supply operation assertions draw store)

theorem progresses_event (eventId : D.EventId) (assertion : Assertion D) (operation : String)
    (eligible : Bool) (store : Store D) :
    Progresses 0 store (store.event eventId assertion operation eligible) :=
  SameTables.progresses ⟨rfl, rfl, rfl⟩ rfl

theorem progresses_storeSources (stored : before.storeSources sources = .ok after) :
    Progresses 0 before after := by
  unfold storeSources at stored
  refine foldlM_relates Progresses.refl (fun first second => first.trans second) ?_ stored
  intro before source after _ stepped
  split at stepped
  · split_ifs at stepped
    cases stepped
    exact .refl before
  · cases stepped
    exact SameTables.progresses ⟨rfl, rfl, rfl⟩ rfl

theorem progresses_setCurrent (store : Store D) (assertion : Assertion D) :
    Progresses 0 store (store.setCurrent assertion) :=
  ⟨rfl, fun _ _ stored => stored, fun keyed => keyed⟩

theorem progresses_writeRevision (written : before.writeRevision assertion = .ok after) :
    Progresses 0 before after := by
  unfold writeRevision at written
  split at written
  · split_ifs at written
    cases written
    exact .refl before
  · rename_i absent
    cases written
    refine ⟨rfl, ?_, fun keyed => keyed⟩
    intro revisionId other stored
    unfold revision at stored ⊢
    rw [Table.row_insert_of_ne _ _ (fun same => by rw [same, absent] at stored; cases stored)]
    exact stored

theorem progresses_adjust {change : D.DerivationId → Derivation D → Derivation D}
    (flags : ∀ derivationId derivation, ∃ active,
      change derivationId derivation = { derivation with active := active }) :
    Progresses 0 store { store with derivations := store.derivations.adjust change } := by
  refine ⟨rfl, fun _ _ stored => stored, ?_⟩
  intro keyed derivationId _ stored
  obtain ⟨derivation, original, rfl⟩ := Option.map_eq_some_iff.mp stored
  obtain ⟨active, same⟩ := flags derivationId derivation
  rw [same]
  exact keyed derivationId derivation original

theorem progresses_deactivate (store : Store D) (derivationIds : List D.DerivationId) :
    Progresses 0 store (store.deactivateInferenceDerivationIds derivationIds) := by
  apply progresses_adjust
  intro derivationId derivation
  split_ifs
  · exact ⟨false, rfl⟩
  · exact ⟨derivation.active, rfl⟩

theorem progresses_invalidateEligibility (store : Store D) (revisionId : D.RevisionId)
    (flag : Bool) : Progresses 0 store (store.invalidateEligibility revisionId flag) := by
  have ineligible : Progresses 0 store { store with
        revisions := store.revisions.adjust fun storedId row =>
          if storedId = revisionId then { row with eligible := false } else row } := by
    refine ⟨rfl, ?_, fun keyed => keyed⟩
    intro storedId assertion stored
    obtain ⟨row, present, rfl⟩ := Option.map_eq_some_iff.mp stored
    unfold revision
    rw [Table.row_adjust, present]
    split_ifs <;> rfl
  cases flag with
  | false => exact ineligible
  | true => exact ineligible.trans (progresses_deactivate _ _)

variable {epistemicState : Option EpistemicState}

theorem progresses_writeState {draw : ℕ} {status : AssertionStatus}
    {supersedesRevisionId : Option D.RevisionId}
    (written : before.writeState supply draw item status supersedesRevisionId epistemicState =
      .ok (after, state)) : Progresses 0 before after := by
  simp only [writeState, bind_eq_ok] at written
  obtain ⟨made, _, middle, revised, written⟩ := written
  cases written
  exact (progresses_writeRevision revised).trans (progresses_setCurrent _ _)

theorem progresses_retireAll {items states : List (Assertion D)} {draw : ℕ} {flag : Bool}
    {status : AssertionStatus}
    (retired : before.retireAll supply flag status epistemicState items draw =
      .ok (after, states)) : Progresses 0 before after := by
  induction items generalizing before draw states with
  | nil =>
    cases retired
    exact .refl _
  | cons item items ih =>
    simp only [retireAll, bind_eq_ok] at retired
    obtain ⟨⟨middle, state⟩, written, ⟨last, states⟩, rest, retired⟩ := retired
    cases retired
    exact ((progresses_invalidateEligibility before item.revisionId flag).trans
      (progresses_writeState written)).trans (ih rest)

end Writes

section Operations

variable {assertion replacement root : Assertion D} {sources : List (SourceOccurrence D)}
  {expectedGeneration : Option ℕ} {expectedRevisionId : D.RevisionId}

variable {result : AssertionWriteResult D} {roots : List (Assertion D)}
  {terminal : Option (AssertionStatus × Option EpistemicState)}

theorem progresses_putInitialAssertion
    (put : before.putInitialAssertion supply assertion sources expectedGeneration =
      .ok (after, result)) :
    after = before ∧ result.idempotent = true ∨
      Progresses 1 before after ∧ result.idempotent = false := by
  unfold putInitialAssertion at put
  split_ifs at put
  split at put
  · split_ifs at put
    cases put
    exact .inl ⟨rfl, rfl⟩
  · split at put
    · cases put
    · simp only [bind_eq_ok] at put
      obtain ⟨sourced, stored, _, _, written, revised, put⟩ := put
      cases put
      refine .inr ⟨?_, rfl⟩
      exact (((progresses_storeSources stored).trans (progresses_writeRevision revised)).trans
        (progresses_setCurrent _ _)).followed ((progresses_advanceGeneration _).trans
          (progresses_event _ _ _ _ _))

theorem progresses_reactivateInferred
    (reactivated : before.reactivateInferred supply assertion = .ok (after, result)) :
    after = before ∨ Progresses 1 before after := by
  unfold reactivateInferred at reactivated
  split_ifs at reactivated
  split at reactivated
  · cases reactivated
  · split_ifs at reactivated
    · cases reactivated
      exact .inl rfl
    · simp only [bind_eq_ok] at reactivated
      obtain ⟨_, _, written, revised, reactivated⟩ := reactivated
      cases reactivated
      exact .inr (((progresses_writeRevision revised).trans (progresses_setCurrent _ _)).followed
        ((progresses_advanceGeneration _).trans (progresses_event _ _ _ _ _)))

theorem progresses_supersede {result : SupersessionResult D}
    (superseded : before.supersede supply expectedRevisionId replacement sources
      expectedGeneration = .ok (after, result)) : Progresses 1 before after := by
  unfold supersede at superseded
  split_ifs at superseded
  simp only [bind_eq_ok] at superseded
  obtain ⟨sourced, stored, _, _, plan, _, predecessorState, _, replacementState, _,
    ⟨retired, states⟩, retires, first, firstWritten, second, secondWritten, superseded⟩ :=
    superseded
  cases superseded
  have withdrawn : Progresses 0 before (retired.invalidateEligibility expectedRevisionId false) :=
    ((progresses_storeSources stored).trans (progresses_deactivate _ _)).trans
      ((progresses_retireAll retires).trans (progresses_invalidateEligibility _ _ _))
  have replaced : Progresses 0 (retired.invalidateEligibility expectedRevisionId false)
      (second.setCurrent replacementState) :=
    ((progresses_writeRevision firstWritten).trans (progresses_setCurrent _ _)).trans
      ((progresses_writeRevision secondWritten).trans (progresses_setCurrent _ _))
  exact (withdrawn.trans replaced).followed ((progresses_advanceGeneration _).trans
    (((progresses_event _ _ _ _ _).trans (progresses_event _ _ _ _ _)).trans
      (progresses_events _ _ _ _ _)))

theorem progresses_restore {result : SupersessionResult D}
    (restored : before.restore supply expectedRevisionId replacement sources
      expectedGeneration = .ok (after, result)) : Progresses 1 before after := by
  unfold restore at restored
  obtain ⟨source, _, restored⟩ := bind_eq_ok.mp restored
  split_ifs at restored
  · obtain ⟨_, _, restored⟩ := bind_eq_ok.mp restored
    cases restored
  simp only [bind_eq_ok] at restored
  obtain ⟨predecessor, _, sourced, stored, _, _, state, _, written, revised, restored⟩ := restored
  cases restored
  exact (((progresses_storeSources stored).trans (progresses_writeRevision revised)).trans
    (progresses_setCurrent _ _)).followed ((progresses_advanceGeneration _).trans
      (progresses_event _ _ _ _ _))

theorem progresses_writeTerminal
    (written : before.writeTerminal supply root terminal = .ok (after, roots)) :
    Progresses 0 before after := by
  unfold writeTerminal at written
  cases terminal with
  | none =>
    cases written
    exact .refl _
  | some terminal =>
    simp only [bind_eq_ok] at written
    obtain ⟨⟨middle, state⟩, stated, written⟩ := written
    cases written
    exact progresses_writeState stated

theorem progresses_withdrawRoot {result : WithdrawalResult D}
    (withdrawn : before.withdrawRoot supply root terminal = .ok (after, result)) :
    Progresses 1 before after := by
  simp only [withdrawRoot, dependentCurrentRevisions, bind_eq_ok] at withdrawn
  obtain ⟨⟨stated, roots⟩, terminated, ⟨last, states⟩, retired, withdrawn⟩ := withdrawn
  cases withdrawn
  exact (((progresses_invalidateEligibility _ _ _).trans (progresses_deactivate _ _)).trans
    ((progresses_writeTerminal terminated).trans (progresses_retireAll retired))).followed
      (progresses_advanceGeneration _)

theorem progresses_quarantineCurrent {result : WithdrawalResult D}
    (quarantined : before.quarantineCurrent supply roots = .ok (after, result)) :
    Progresses (if roots = [] then 0 else 1) before after := by
  simp only [quarantineCurrent, dependentCurrentRevisions, bind_eq_ok] at quarantined
  obtain ⟨⟨rooted, states⟩, first, ⟨last, dependents⟩, second, quarantined⟩ := quarantined
  cases quarantined
  have withdrawn : Progresses 0 before last := (progresses_deactivate before _).trans
    ((progresses_retireAll first).trans (progresses_retireAll second))
  have advanced : Progresses (if roots = [] then 0 else 1) last
      (if roots = [] then last else last.advanceGeneration) := by
    split_ifs
    · exact .refl last
    · exact progresses_advanceGeneration last
  exact (withdrawn.followed advanced).trans
    ((progresses_events _ _ _ _ _).trans (progresses_events _ _ _ _ _))

theorem progresses_revokeSemanticInference {engineVersion : D.Name}
    {result : InferenceRevocationResult}
    (revoked : before.revokeSemanticInference supply engineVersion = .ok (after, result)) :
    after = before ∨ Progresses 1 before after := by
  unfold revokeSemanticInference at revoked
  dsimp only at revoked
  split_ifs at revoked
  · cases revoked
    exact .inl rfl
  · simp only [dependentCurrentRevisions, bind_eq_ok] at revoked
    obtain ⟨⟨last, states⟩, retired, revoked⟩ := revoked
    cases revoked
    exact .inr ((((progresses_deactivate _ _).trans (progresses_deactivate _ _)).trans
      ((progresses_deactivate _ _).trans (progresses_retireAll retired))).followed
        ((progresses_advanceGeneration _).trans (progresses_events _ _ _ _ _)))

end Operations

section Erasures

variable {erasure next last : Erasure D} {row : DependentRow D}

theorem progresses_reline {current : Assertion D} {lineage : DerivedLineage D}
    (relined : erasure.reline supply current lineage = .ok next) :
    Progresses 0 erasure.store next.store := by
  simp only [reline, bind_eq_ok] at relined
  obtain ⟨⟨stored, replacement⟩, freshened, relined⟩ := relined
  cases relined
  unfold freshenInferred at freshened
  split_ifs at freshened
  simp only [bind_eq_ok, enqueueAll_store] at freshened
  obtain ⟨_, _, _, _, written, revised, freshened⟩ := freshened
  cases freshened
  exact ((progresses_invalidateEligibility _ _ _).trans (progresses_writeRevision revised)).trans
    (progresses_setCurrent _ _)

theorem progresses_processRow (processed : erasure.processRow supply row = .ok next) :
    Progresses 0 erasure.store next.store := by
  unfold processRow at processed
  dsimp only at processed
  split_ifs at processed
  · cases processed
    rw [enqueue_store]
    exact .refl _
  · cases processed
    rw [enqueueAll_store, enqueue_store]
    exact .refl _
  · unfold relineOrDrop at processed
    split at processed
    · cases processed
    · split_ifs at processed
      obtain ⟨replacement, _, processed⟩ := bind_eq_ok.mp processed
      cases replacement with
      | none =>
        cases processed
        rw [drop_store, enqueue_store]
        exact .refl _
      | some lineage =>
        have step := progresses_reline processed
        rw [enqueue_store] at step
        exact step

theorem progresses_rounds {limit : ℕ} (reached : rounds supply limit erasure = .ok last) :
    Progresses 0 erasure.store last.store := by
  induction limit generalizing erasure with
  | zero =>
    cases reached
    exact .refl _
  | succ limit ih =>
    unfold rounds at reached
    split_ifs at reached
    · cases reached
      exact .refl _
    · obtain ⟨next, round, reached⟩ := bind_eq_ok.mp reached
      have first : Progresses 0 ({ erasure with pending := ∅ } : Erasure D).store next.store :=
        @foldlM_relates _ _ _ _
          (fun before after : Erasure D => Progresses 0 before.store after.store)
          (fun before => .refl before.store) (fun first second => first.trans second) _ _ _
          (fun _ _ _ _ processed => progresses_processRow processed) round
      exact first.trans (ih reached)

theorem generation_erase {assertionId : D.AssertionId} {limit : ℕ} {result : ErasureResult D}
    (erased : before.erase supply assertionId limit = .ok (some (after, result))) :
    after.generation = before.generation + 1 ∧ (before.LedgerKeyed → after.LedgerKeyed) := by
  obtain ⟨first, last, started, reached, _, finished⟩ := erase_eq_some erased
  have kept : first.store = before := by
    unfold start at started
    split_ifs at started
    cases started
    rfl
  have step : Progresses 0 before last.store := by
    rw [← kept]
    exact progresses_rounds reached
  constructor
  · simp only [finish, reconcileDerivations, bind_eq_ok] at finished
    obtain ⟨_, ⟨_, _, reconciled⟩, finished⟩ := finished
    cases reconciled
    cases finished
    exact congrArg (· + 1) step.generation
  · intro keyed derivationId derivation stored
    obtain ⟨original, present, rfl, _⟩ :=
      (finish_finished finished).derivations derivationId derivation stored
    exact step.keyed keyed derivationId original present

end Erasures

end Store

end Kestrel.AssertionStore
