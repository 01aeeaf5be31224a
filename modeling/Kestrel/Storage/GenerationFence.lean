import Kestrel.Storage.GenerationAdvance

/-!
# The generation fences the active graph

While the generation stands still, the active assertions and what the planner takes along with
any withdrawal stay the same, unless a batch quarantine without targets meets a conclusion that
nothing grounds.
-/

namespace Kestrel.AssertionStore

open Except Option List

variable {D : Domain}

/-- The mutations of the canonical tables, erasures apart. -/
inductive AssertionMutation (D : Domain) where
  | mutate (mutation : Mutation D)
  | revokeSemanticInference (engineVersion : D.Name)
  /-- The deactivation of a page by `reconcile_obsolete_derivations_page`; its retractions
  follow as mutations of their own. -/
  | retireDerivations (derivationIds : List D.DerivationId)

namespace Store

variable {store before middle after : Store D} {supply : Supply D}

def apply (supply : Supply D) (store : Store D) :
    AssertionMutation D → Except StoreError (Store D)
  | .mutate mutation => store.commit supply mutation
  | .revokeSemanticInference engineVersion =>
    (store.revokeSemanticInference supply engineVersion).map Prod.fst
  | .retireDerivations derivationIds =>
    .ok (store.deactivateInferenceDerivationIds derivationIds).advanceGeneration

/-- Two stores with the same revisions and pointers whose planners take the same conclusions
along with every withdrawal. -/
structure SameGraph (before after : Store D) : Prop where
  revisions : after.revisions = before.revisions
  currents : after.currents = before.currents
  planned : ∀ roots, (after.planDependentCurrentRevisions roots).1 =
    (before.planDependentCurrentRevisions roots).1

theorem SameGraph.refl (store : Store D) : SameGraph store store := ⟨rfl, rfl, fun _ => rfl⟩

section Planning

theorem live_congr (revisions : after.revisions = before.revisions)
    (currents : after.currents = before.currents) {assertion : Assertion D} :
    after.Live assertion ↔ before.Live assertion := by
  unfold Live currentActiveEligibleRows currentRows
  rw [revisions, currents]

theorem SameGraph.of_survives (revisions : after.revisions = before.revisions)
    (currents : after.currents = before.currents)
    (survives : ∀ withdrawn revisionId,
      after.Survives withdrawn revisionId ↔ before.Survives withdrawn revisionId) :
    SameGraph before after := by
  refine ⟨revisions, currents, ?_⟩
  intro roots
  have inferred : after.inferredAssertions = before.inferredAssertions := by
    unfold inferredAssertions currentActiveEligibleRows currentRows
    rw [revisions, currents]
  have grounded : ∀ revisionId, revisionId ∈ (after.groundingLoop roots).grounded ↔
      revisionId ∈ (before.groundingLoop roots).grounded := by
    intro revisionId
    rw [mem_groundingLoop_grounded, mem_groundingLoop_grounded]
    exact survives _ revisionId
  unfold planDependentCurrentRevisions
  simp only [inferred, grounded]

theorem Survives.antitone {withdrawn fewer : Set D.RevisionId} (subset : fewer ⊆ withdrawn)
    {revisionId : D.RevisionId} (survives : store.Survives withdrawn revisionId) :
    store.Survives fewer revisionId := by
  refine Horn.Derives.mono ?_ ?_ survives
  · intro each member
    exact ⟨fun removed => member.1 (subset removed), member.2⟩
  · intro premises each supports
    exact ⟨fun removed => supports.1 (subset removed), supports.2⟩

theorem survives_congr {withdrawn : Set D.RevisionId}
    (live : ∀ assertion, after.Live assertion ↔ before.Live assertion)
    (kept : ∀ premises assertion, before.Live assertion →
      before.Supports withdrawn premises assertion.revisionId → before.ProofOf premises assertion →
      (∀ premise ∈ premises, before.Survives withdrawn premise) → after.ProofOf premises assertion)
    (known : ∀ premises assertion, after.ProofOf premises assertion →
      before.ProofOf premises assertion) {revisionId : D.RevisionId} :
    after.Survives withdrawn revisionId ↔ before.Survives withdrawn revisionId := by
  constructor
  · intro survives
    refine Horn.Derives.mono ?_ ?_ survives
    · intro each member
      obtain ⟨outside, assertion, lives, rest⟩ := member
      exact ⟨outside, assertion, (live assertion).mp lives, rest⟩
    · intro premises each supports
      obtain ⟨outside, nonempty, assertion, lives, derived, same, proof⟩ := supports
      exact ⟨outside, nonempty, assertion, (live assertion).mp lives, derived, same,
        known premises assertion proof⟩
  · intro survives
    induction survives with
    | base member =>
      obtain ⟨outside, assertion, lives, rest⟩ := member
      exact .base ⟨outside, assertion, (live assertion).mpr lives, rest⟩
    | @rule premises conclusion supports survive ih =>
      obtain ⟨outside, nonempty, assertion, lives, derived, rfl, proof⟩ := supports
      exact .rule ⟨outside, nonempty, assertion, (live assertion).mpr lives, derived, rfl,
        kept premises assertion lives
          ⟨outside, nonempty, assertion, lives, derived, rfl, proof⟩ proof survive⟩ ih

end Planning

section Quarantine

theorem sameGraph_deactivate_ungrounded (store : Store D) :
    SameGraph store (store.deactivateInferenceDerivationIds
      (store.planDependentCurrentRevisions []).2) := by
  have nothing : {revisionId : D.RevisionId | revisionId ∈ []} = ∅ := by
    ext revisionId
    simp [not_mem_nil, Set.mem_empty_iff_false]
  have history : ∀ revisionId, (store.deactivateInferenceDerivationIds
      (store.planDependentCurrentRevisions []).2).HasLedgerHistory revisionId ↔
      store.HasLedgerHistory revisionId := by
    intro revisionId
    apply hasLedgerHistory_adjust
    intro derivationId derivation
    split_ifs <;> rfl
  refine SameGraph.of_survives rfl rfl ?_
  intro withdrawn revisionId
  have live : ∀ assertion, (store.deactivateInferenceDerivationIds
      (store.planDependentCurrentRevisions []).2).Live assertion ↔ store.Live assertion :=
    fun _ => Iff.rfl
  refine survives_congr live ?_ ?_
  · intro premises assertion lives supports proof survive
    obtain ⟨outside, nonempty, other, _, derived, same, _⟩ := supports
    rcases proof with ⟨derivationId, derivation, stored, active, concludes, rfl⟩ |
      ⟨unrecorded, inputs⟩
    · left
      refine ⟨derivationId, derivation, ?_, active, concludes, rfl⟩
      have surviving : store.SurvivingProof {revisionId | revisionId ∈ []} derivationId := by
        rw [nothing]
        refine ⟨derivation, stored, active, Set.notMem_empty _, ?_, nonempty, ?_⟩
        · exact ⟨other, ‹_›, derived, same.trans concludes.symm⟩
        · exact fun premise member =>
            (survive premise member).antitone (Set.empty_subset withdrawn)
      change (store.derivations.row derivationId).map _ = _
      rw [stored, map_some]
      dsimp only
      rw [if_neg fun planned =>
        (mem_planDependentCurrentRevisions_derivations.mp planned).2 surviving]
    · exact .inr ⟨fun recorded => unrecorded ((history _).mp recorded), inputs⟩
  · intro premises assertion proof
    rcases proof with ⟨derivationId, derivation, stored, active, rest⟩ | ⟨unrecorded, inputs⟩
    · obtain ⟨original, present, same⟩ := map_eq_some_iff.mp stored
      dsimp only at same
      split_ifs at same
      · subst same
        cases active
      · subst same
        exact .inl ⟨derivationId, original, present, active, rest⟩
    · exact .inr ⟨fun recorded => unrecorded ((history _).mpr recorded), inputs⟩

theorem sameGraph_quarantineCurrent {result : WithdrawalResult D}
    (settled : (before.planDependentCurrentRevisions []).1 = [])
    (quarantined : before.quarantineCurrent supply [] = .ok (after, result)) :
    SameGraph before after := by
  unfold quarantineCurrent dependentCurrentRevisions at quarantined
  simp only [map_nil, settled, filter_nil] at quarantined
  cases quarantined
  exact sameGraph_deactivate_ungrounded before

end Quarantine

section Ledger

variable {profile : LedgerProfile D} {facts : List (PublishedFact D)} {replace : Bool}

variable {derivationId : D.DerivationId} {revisionId : D.RevisionId}

theorem mem_activeDerivationMembership {assertionId : D.AssertionId} {inputs : List D.RevisionId} :
    (derivationId, assertionId, revisionId, inputs) ∈ store.activeDerivationMembership profile ↔
      ∃ derivation, store.derivations.row derivationId = some derivation ∧
        derivation.active = true ∧ derivation.profileKey = profile.key ∧
        derivation.derivedAssertionId = assertionId ∧
        derivation.derivedRevisionId = revisionId ∧ derivation.inputRevisionIds = inputs := by
  simp only [activeDerivationMembership, List.mem_map, List.mem_filter, decide_eq_true_eq,
    Prod.exists, Prod.mk.injEq, mem_activeDerivations]
  constructor
  · intro found
    obtain ⟨_, derivation, ⟨⟨stored, active⟩, profile⟩, rfl, owner, concludes, inputs⟩ := found
    exact ⟨derivation, stored, active, profile, owner, concludes, inputs⟩
  · intro found
    obtain ⟨derivation, stored, active, profile, owner, concludes, inputs⟩ := found
    exact ⟨_, derivation, ⟨⟨stored, active⟩, profile⟩, rfl, owner, concludes, inputs⟩

/-- The active proofs of two ledgers have the same conclusions and premises. -/
structure SameProofs (before after : Store D) : Prop where
  earlier : ∀ derivationId derivation, after.derivations.row derivationId = some derivation →
    derivation.active = true → ∃ original, before.derivations.row derivationId = some original ∧
      original.active = true ∧ original.derivedRevisionId = derivation.derivedRevisionId ∧
      original.inputRevisionIds = derivation.inputRevisionIds
  later : ∀ derivationId original, before.derivations.row derivationId = some original →
    original.active = true → ∃ derivation, after.derivations.row derivationId = some derivation ∧
      derivation.active = true ∧ derivation.derivedRevisionId = original.derivedRevisionId ∧
      derivation.inputRevisionIds = original.inputRevisionIds
  history : ∀ revisionId, after.HasLedgerHistory revisionId ↔ before.HasLedgerHistory revisionId

theorem SameProofs.sameGraph (same : SameProofs before after)
    (revisions : after.revisions = before.revisions)
    (currents : after.currents = before.currents) : SameGraph before after := by
  refine SameGraph.of_survives revisions currents ?_
  intro withdrawn revisionId
  refine survives_congr (fun _ => live_congr revisions currents) ?_ ?_
  · intro premises assertion _ _ proof _
    rcases proof with ⟨derivationId, original, stored, active, concludes, rfl⟩ |
      ⟨unrecorded, inputs⟩
    · obtain ⟨derivation, present, active, revision, inputs⟩ :=
        same.later derivationId original stored active
      exact .inl ⟨derivationId, derivation, present, active, revision.trans concludes, inputs⟩
    · exact .inr ⟨fun recorded => unrecorded ((same.history _).mp recorded), inputs⟩
  · intro premises assertion proof
    rcases proof with ⟨derivationId, derivation, stored, active, concludes, rfl⟩ |
      ⟨unrecorded, inputs⟩
    · obtain ⟨original, present, active, revision, inputs⟩ :=
        same.earlier derivationId derivation stored active
      exact .inl ⟨derivationId, original, present, active, revision.trans concludes, inputs⟩
    · exact .inr ⟨fun recorded => unrecorded ((same.history _).mpr recorded), inputs⟩

theorem row_replaced : (if replace then
      { store with
        derivations := store.derivations.adjust fun _ derivation =>
          if derivation.profileKey = profile.key then { derivation with active := false }
          else derivation }
      else store).derivations.row derivationId = (store.derivations.row derivationId).map
        fun derivation => if replace = true ∧ derivation.profileKey = profile.key then
          { derivation with active := false } else derivation := by
  cases replace with
  | false => simp only [Bool.false_eq_true, ↓reduceIte, false_and, Option.map_id']
  | true =>
    simp only [↓reduceIte, true_and]
    rfl

theorem sameProofs_writeFacts (keyed : before.LedgerKeyed)
    (rows : ∀ derivationId, middle.derivations.row derivationId =
      (before.derivations.row derivationId).map fun derivation =>
        if replace = true ∧ derivation.profileKey = profile.key then
          { derivation with active := false } else derivation)
    (extend : LedgerExtends profile (publishedAssertions facts) middle after)
    (unchanged : before.activeDerivationMembership profile =
      after.activeDerivationMembership profile) : SameProofs before after := by
  have earlier : ∀ derivationId derivation, after.derivations.row derivationId = some derivation →
      derivation.active = true → ∃ original, before.derivations.row derivationId = some original ∧
        original.active = true ∧ original.derivedRevisionId = derivation.derivedRevisionId ∧
        original.inputRevisionIds = derivation.inputRevisionIds := by
    intro derivationId derivation stored active
    rcases extend.rows derivationId with same | ⟨assertionId, _, proof, key, recorded⟩
    · rw [same, rows] at stored
      obtain ⟨original, present, changed⟩ := map_eq_some_iff.mp stored
      split_ifs at changed
      · subst changed
        cases active
      · subst changed
        exact ⟨original, present, active, rfl, rfl⟩
    · obtain ⟨_, row, _, _, present, active, owner, concludes, profileKey, _⟩ := recorded
      rw [← key, stored] at present
      cases present
      have member := mem_activeDerivationMembership.mpr
        ⟨derivation, stored, active, profileKey, rfl, rfl, rfl⟩
      rw [← unchanged] at member
      obtain ⟨original, present, active, _, _, same, inputs⟩ :=
        mem_activeDerivationMembership.mp member
      exact ⟨original, present, active, same, inputs⟩
  refine ⟨earlier, ?_, ?_⟩
  · intro derivationId original stored active
    by_cases own : original.profileKey = profile.key
    · have member := mem_activeDerivationMembership.mpr
        ⟨original, stored, active, own, rfl, rfl, rfl⟩
      rw [unchanged] at member
      obtain ⟨derivation, present, active, _, _, same, inputs⟩ :=
        mem_activeDerivationMembership.mp member
      exact ⟨derivation, present, active, same, inputs⟩
    · rcases extend.rows derivationId with same | ⟨assertionId, _, proof, key, _⟩
      · rw [same, rows, stored, map_some, if_neg fun replaced => own replaced.2]
        exact ⟨original, rfl, active, rfl, rfl⟩
      · -- A written row has the profile's key, and the key determines the profile.
        obtain ⟨premises, known⟩ := keyed derivationId original stored
        rw [known] at key
        exact absurd (D.derivationId_injective _ _ _ _ _ _ _ _ key).1 own
  · intro revisionId
    constructor
    · intro found
      obtain ⟨derivationId, derivation, stored, concludes⟩ := found
      rcases extend.rows derivationId with same | ⟨assertionId, _, proof, key, recorded⟩
      · rw [same, rows] at stored
        obtain ⟨original, present, changed⟩ := map_eq_some_iff.mp stored
        refine ⟨derivationId, original, present, ?_⟩
        rw [← concludes, ← changed]
        split_ifs <;> rfl
      · obtain ⟨_, row, _, _, present, active, _⟩ := recorded
        rw [← key, stored] at present
        cases present
        obtain ⟨original, kept, _, same, _⟩ := earlier derivationId derivation stored active
        exact ⟨derivationId, original, kept, same.trans concludes⟩
    · intro found
      obtain ⟨derivationId, original, stored, concludes⟩ := found
      rcases extend.rows derivationId with same | ⟨assertionId, _, proof, key, recorded⟩
      · refine ⟨derivationId, _, same.trans ((rows derivationId).trans
          (congrArg (Option.map _) stored)), ?_⟩
        dsimp only
        split_ifs
        all_goals exact concludes
      · obtain ⟨_, row, _, _, present, active, _⟩ := recorded
        rw [← key] at present
        obtain ⟨other, kept, _, same, _⟩ := earlier derivationId row present active
        rw [stored] at kept
        cases kept
        exact ⟨derivationId, row, present, same.symm.trans concludes⟩

theorem progresses_writeActiveDerivation {assertionId : D.AssertionId}
    {derivation : D.Name × List D.AssertionId}
    (written : before.writeActiveDerivation profile assertionId revisionId derivation =
      .ok after) : Progresses 0 before after := by
  unfold writeActiveDerivation at written
  obtain ⟨premises, _, written⟩ := bind_eq_ok.mp written
  split_ifs at written
  cases written
  refine ⟨rfl, fun _ _ stored => stored, ?_⟩
  intro keyed derivationId row stored
  rw [Table.row_insert] at stored
  split_ifs at stored with same
  · cases stored
    exact ⟨derivation.2, same⟩
  · exact keyed derivationId row stored

theorem progresses_writeFactDerivations {fact : PublishedFact D}
    (written : before.writeFactDerivations profile fact = .ok after) :
    Progresses 0 before after := by
  unfold writeFactDerivations at written
  split at written
  · cases written
    exact .refl before
  · split_ifs at written
    · cases written
      exact .refl before
    · exact foldlM_relates Progresses.refl (fun first second => first.trans second)
        (fun _ _ _ _ stepped => progresses_writeActiveDerivation stepped) written

theorem fenced_writeActiveDerivations (keyed : before.LedgerKeyed)
    (written : before.writeActiveDerivations profile facts replace = .ok after) :
    Progresses 1 before after ∨ Progresses 0 before after ∧ SameGraph before after := by
  unfold writeActiveDerivations at written
  obtain ⟨extended, folded, written⟩ := bind_eq_ok.mp written
  have deactivated : Progresses 0 before (if replace then
      { before with
        derivations := before.derivations.adjust fun _ derivation =>
          if derivation.profileKey = profile.key then { derivation with active := false }
          else derivation }
      else before) := by
    split_ifs
    · apply progresses_adjust
      intro derivationId derivation
      split_ifs
      · exact ⟨false, rfl⟩
      · exact ⟨derivation.active, rfl⟩
    · exact .refl before
  have recorded : Progresses 0 _ extended :=
    foldlM_relates Progresses.refl (fun first second => first.trans second)
      (fun _ _ _ _ stepped => progresses_writeFactDerivations stepped) folded
  have replaced : Replaced profile replace before _ := replaced_adjust
  obtain ⟨extend, _⟩ : LedgerExtends profile (publishedAssertions facts) _ extended ∧ _ :=
    extends_writeFacts (fun fact listed =>
      ⟨fact, (mem_insertionSort _).mp listed, rfl⟩) folded
  have revisions := extend.revisions.trans replaced.revisions
  have currents := extend.currents.trans replaced.currents
  split_ifs at written with changed
  · cases written
    exact .inl ((deactivated.trans recorded).followed (progresses_advanceGeneration extended))
  · cases written
    refine .inr ⟨deactivated.trans recorded, ?_⟩
    exact (sameProofs_writeFacts keyed (fun _ => row_replaced) extend
      (not_not.mp changed)).sameGraph revisions currents

end Ledger

section Mutations

/-- A quarantine without targets has nothing to take along: no live conclusion is without a
grounded proof. -/
def Settled (store : Store D) : AssertionMutation D → Prop
  | .mutate (.quarantineReportTargets []) => (store.planDependentCurrentRevisions []).1 = []
  | _ => True

/-- The step advances the generation, or leaves it and the graph alone. -/
def Fenced (before after : Store D) : Prop :=
  Progresses 1 before after ∨ Progresses 0 before after ∧ SameGraph before after

theorem Fenced.refl (store : Store D) : Fenced store store := .inr ⟨.refl store, .refl store⟩

theorem fenced_of_eq_or (unchanged : after = before ∨ Progresses 1 before after) :
    Fenced before after := by
  rcases unchanged with rfl | advanced
  · exact .refl _
  · exact .inl advanced

theorem expectedActiveTargets_eq_nil {targets : List (D.AssertionId × D.RevisionId)}
    (located : store.expectedActiveTargets targets = .ok []) : targets = [] := by
  unfold expectedActiveTargets at located
  rw [mapM_eq_ok, forall₂_nil_right_iff] at located
  exact located

/-- **A mutation advances the generation, or leaves the graph that governed validation reads
alone.** -/
theorem fenced_apply {mutation : AssertionMutation D} (keyed : before.LedgerKeyed)
    (settled : before.Settled mutation) (applied : before.apply supply mutation = .ok after) :
    Fenced before after := by
  cases mutation with
  | revokeSemanticInference engineVersion =>
    obtain ⟨result, revoked⟩ := map_fst_eq_ok applied
    exact fenced_of_eq_or (progresses_revokeSemanticInference revoked)
  | retireDerivations derivationIds =>
    cases applied
    exact .inl ((progresses_deactivate before derivationIds).followed
      (progresses_advanceGeneration _))
  | mutate mutation =>
    change before.commit supply mutation = .ok after at applied
    cases mutation with
    | putAssertion assertion sources expectedGeneration =>
      obtain ⟨result, put⟩ := map_fst_eq_ok applied
      simp only [putAssertion, bind_eq_ok] at put
      obtain ⟨_, _, put⟩ := put
      exact fenced_of_eq_or ((progresses_putInitialAssertion put).imp And.left And.left)
    | publishInferredAssertion assertion =>
      obtain ⟨result, published⟩ := map_fst_eq_ok applied
      unfold publishInferredAssertion at published
      split_ifs at published
      obtain ⟨_, _, published⟩ := bind_eq_ok.mp published
      exact fenced_of_eq_or ((progresses_putInitialAssertion published).imp And.left And.left)
    | reactivateInferred assertion =>
      obtain ⟨result, reactivated⟩ := map_fst_eq_ok applied
      exact fenced_of_eq_or (progresses_reactivateInferred reactivated)
    | supersede expected replacement sources expectedGeneration =>
      obtain ⟨result, superseded⟩ := map_fst_eq_ok applied
      exact .inl (progresses_supersede superseded)
    | restore expected replacement sources expectedGeneration =>
      obtain ⟨result, restored⟩ := map_fst_eq_ok applied
      exact .inl (progresses_restore restored)
    | retract | delete | invalidateAssertionEligibility =>
      obtain ⟨root, terminal, last, result, _, _, withdrawn, same, generation⟩ :=
        withdrawRoot_of_commit rfl applied
      have kept : Progresses 0 last after := same.progresses generation
      exact .inl ((progresses_withdrawRoot withdrawn).trans kept)
    | quarantineForValidation assertionId expected =>
      obtain ⟨result, quarantined⟩ := map_fst_eq_ok applied
      simp only [quarantineForValidation, bind_eq_ok] at quarantined
      obtain ⟨root, _, quarantined⟩ := quarantined
      exact .inl (progresses_quarantineCurrent quarantined)
    | quarantineReportTargets targets =>
      obtain ⟨result, quarantined⟩ := map_fst_eq_ok applied
      simp only [quarantineReportTargets, bind_eq_ok] at quarantined
      obtain ⟨roots, located, quarantined⟩ := quarantined
      have progress := progresses_quarantineCurrent quarantined
      by_cases targetless : roots = []
      · subst targetless
        cases expectedActiveTargets_eq_nil located
        exact .inr ⟨progress, sameGraph_quarantineCurrent settled quarantined⟩
      · rw [if_neg targetless] at progress
        exact .inl progress
    | writeActiveDerivations profile facts replace =>
      exact fenced_writeActiveDerivations keyed applied

theorem linked_apply {mutation : AssertionMutation D} (linked : before.Linked)
    (applied : before.apply supply mutation = .ok after) : after.Linked := by
  cases mutation with
  | mutate mutation => exact (linked.commit applied).linked
  | revokeSemanticInference engineVersion =>
    obtain ⟨result, revoked⟩ := map_fst_eq_ok applied
    exact (linked.revokeSemanticInference revoked).linked
  | retireDerivations derivationIds =>
    cases applied
    have same : SameTables (before.deactivateInferenceDerivationIds derivationIds)
        (before.deactivateInferenceDerivationIds derivationIds).advanceGeneration :=
      ⟨rfl, rfl, rfl⟩
    have kept := linked.deactivate derivationIds
    exact (kept.trans (same.relinks kept.linked)).linked

end Mutations

end Store

end Kestrel.AssertionStore
