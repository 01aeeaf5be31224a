import Kestrel.Base.Run
import Kestrel.Storage.Withdrawal

/-!
# Grounded conclusions

Every live derived revision should follow from live direct ones through the recorded proofs.
A withdrawal re-establishes this, whatever the state before it, because it keeps what the
planner grounds and nothing else.
-/

namespace Kestrel.AssertionStore

variable {D : Domain}

namespace Store

variable {store before middle after : Store D}

/-- Every live derived revision is in the least set that contains the live direct revisions and
is closed under the proofs. -/
def Grounded (store : Store D) : Prop :=
  ∀ assertion, store.Live assertion → assertion.lineage.isDirect = false →
    store.Survives ∅ assertion.revisionId

variable {withdrawn : Set D.RevisionId} {assertion : Assertion D} {revisionId : D.RevisionId}
  {roots : List D.RevisionId}

theorem Survives.of_direct (live : store.Live assertion)
    (direct : assertion.lineage.isDirect = true) (outside : assertion.revisionId ∉ withdrawn) :
    store.Survives withdrawn assertion.revisionId :=
  .base ⟨outside, assertion, live, direct, rfl⟩

theorem Grounded.survives (grounded : store.Grounded) (live : store.Live assertion)
    : store.Survives ∅ assertion.revisionId := by
  cases direct : assertion.lineage.isDirect with
  | true => exact .of_direct live direct (Set.notMem_empty _)
  | false => exact grounded assertion live direct

theorem Survives.transport (kept : ∀ assertion, before.Live assertion →
      before.Survives withdrawn assertion.revisionId → after.Live assertion)
    (proofs : ∀ derivationId, before.SurvivingProof withdrawn derivationId →
      after.derivations.row derivationId = before.derivations.row derivationId)
    (history : ∀ revisionId, after.HasLedgerHistory revisionId →
      before.HasLedgerHistory revisionId) (survives : before.Survives withdrawn revisionId) :
    after.Survives ∅ revisionId := by
  induction survives with
  | base member =>
    obtain ⟨outside, assertion, live, direct, rfl⟩ := member
    exact .of_direct (kept assertion live (.of_direct live direct outside)) direct
      (Set.notMem_empty _)
  | @rule premises conclusion supports survive ih =>
    have self : before.Survives withdrawn conclusion := .rule supports survive
    obtain ⟨outside, nonempty, assertion, live, derived, rfl, proof⟩ := supports
    refine .rule ⟨Set.notMem_empty _, nonempty, assertion, kept assertion live self, derived,
      rfl, ?_⟩ ih
    rcases proof with ⟨derivationId, derivation, stored, active, concludes, rfl⟩ |
      ⟨unrecorded, rfl⟩
    · left
      refine ⟨derivationId, derivation, ?_, active, concludes, rfl⟩
      rw [proofs derivationId ⟨derivation, stored, active, concludes ▸ outside,
        ⟨assertion, live, derived, concludes.symm⟩, nonempty, survive⟩]
      exact stored
    · right
      exact ⟨fun recorded => unrecorded (history _ recorded), rfl⟩

theorem SameTables.survives (same : SameTables before after) :
    after.Survives withdrawn revisionId ↔ before.Survives withdrawn revisionId := by
  obtain ⟨revisions, currents, derivations⟩ := same
  cases before
  cases after
  cases revisions
  cases currents
  cases derivations
  exact Iff.rfl

theorem SameTables.grounded (same : SameTables before after) (grounded : before.Grounded) :
    after.Grounded :=
  fun assertion live derived =>
    same.survives.mpr (grounded assertion (same.live.mp live) derived)

/-- The step leaves live exactly what the planner keeps when a set is withdrawn. -/
structure Cascade (withdrawn : Set D.RevisionId) (before after : Store D) : Prop where
  live : ∀ assertion, after.Live assertion ↔
    before.Live assertion ∧ before.Survives withdrawn assertion.revisionId
  proofs : ∀ derivationId, before.SurvivingProof withdrawn derivationId →
    after.derivations.row derivationId = before.derivations.row derivationId
  surviving : ∀ derivationId derivation, after.derivations.row derivationId = some derivation →
    derivation.active = true → before.SurvivingProof withdrawn derivationId
  history : ∀ revisionId, after.HasLedgerHistory revisionId ↔ before.HasLedgerHistory revisionId

variable {withdrawn : Set D.RevisionId}

theorem Cascade.survives (cascade : Cascade withdrawn before after)
    (survives : before.Survives withdrawn revisionId) : after.Survives ∅ revisionId :=
  survives.transport (fun assertion live kept => (cascade.live assertion).mpr ⟨live, kept⟩)
    cascade.proofs (fun revisionId => (cascade.history revisionId).mp)

theorem Cascade.grounded (cascade : Cascade withdrawn before after) : after.Grounded :=
  fun assertion live _ => cascade.survives ((cascade.live assertion).mp live).2

theorem Cascade.of_sameTables (cascade : Cascade withdrawn before middle)
    (same : SameTables middle after) : Cascade withdrawn before after where
  live := fun assertion => same.live.trans (cascade.live assertion)
  proofs := fun derivationId proof => by
    rw [same.derivations]
    exact cascade.proofs derivationId proof
  surviving := fun derivationId derivation stored => by
    rw [same.derivations] at stored
    exact cascade.surviving derivationId derivation stored
  history := fun revisionId => same.hasLedgerHistory.trans (cascade.history revisionId)

theorem not_survives_iff_planned (live : store.Live assertion) :
    ¬ store.Survives {revisionId | revisionId ∈ roots} assertion.revisionId ↔
      assertion.revisionId ∈ roots ∨ assertion ∈ (store.planDependentCurrentRevisions roots).1 := by
  rw [mem_planDependentCurrentRevisions]
  constructor
  · intro lost
    by_cases root : assertion.revisionId ∈ roots
    · exact .inl root
    · right
      refine ⟨live, ?_, root, lost⟩
      cases direct : assertion.lineage.isDirect with
      | true => exact absurd (.of_direct live direct root) lost
      | false => rfl
  · intro found
    rcases found with root | planned
    · exact fun survives => survives.live.1 root
    · exact planned.2.2.2

theorem filter_active_plan (coherent : store.Coherent) (roots : List D.RevisionId) :
    (store.planDependentCurrentRevisions roots).1.filter (fun dependent =>
      dependent.status = .active) = (store.planDependentCurrentRevisions roots).1 := by
  rw [List.filter_eq_self]
  intro dependent member
  rw [decide_eq_true_eq]
  exact coherent.active_of_live (mem_planDependentCurrentRevisions.mp member).1

theorem SurvivingProof.spares {derivationId : D.DerivationId}
    (proof : store.SurvivingProof {revisionId | revisionId ∈ roots} derivationId)
    {derivation : Derivation D} (stored : store.derivations.row derivationId = some derivation)
    {input : D.RevisionId} (named : input ∈ derivation.inputRevisionIds) :
    input ∉ roots ∧ ∀ dependent ∈ (store.planDependentCurrentRevisions roots).1,
      input ≠ dependent.revisionId := by
  obtain ⟨other, stored', _, _, _, _, survive⟩ := proof
  rw [stored] at stored'
  cases stored'
  have survives := survive input named
  refine ⟨survives.live.1, ?_⟩
  intro dependent planned same
  subst same
  exact (mem_planDependentCurrentRevisions.mp planned).2.2.2 survives

theorem grounded_iff_plan_eq_nil :
    store.Grounded ↔ (store.planDependentCurrentRevisions []).1 = [] := by
  have nothing : {revisionId : D.RevisionId | revisionId ∈ []} = ∅ := by
    ext revisionId
    simp [List.not_mem_nil, Set.mem_empty_iff_false]
  rw [List.eq_nil_iff_forall_not_mem]
  constructor
  · intro grounded assertion planned
    obtain ⟨live, derived, _, lost⟩ := mem_planDependentCurrentRevisions.mp planned
    rw [nothing] at lost
    exact lost (grounded assertion live derived)
  · intro unplanned assertion live derived
    by_contra lost
    refine unplanned assertion (mem_planDependentCurrentRevisions.mpr
      ⟨live, derived, List.not_mem_nil, ?_⟩)
    rw [nothing]
    exact lost

theorem mem_plan_iff (coherent : store.Coherent) (live : store.Live assertion) :
    assertion.revisionId ∈ (store.planDependentCurrentRevisions roots).1.map (·.revisionId) ↔
      assertion ∈ (store.planDependentCurrentRevisions roots).1 := by
  rw [List.mem_map]
  constructor
  · intro found
    obtain ⟨dependent, planned, same⟩ := found
    have known := (mem_planDependentCurrentRevisions.mp planned).1
    rw [← coherent.live_revision known live same]
    exact planned
  · intro planned
    exact ⟨assertion, planned, rfl⟩

theorem withdraws_plan (coherent : store.Coherent) (roots : List D.RevisionId) :
    Withdraws {derivationId |
        store.SurvivingProof {revisionId | revisionId ∈ roots} derivationId} ∅ store
      (store.deactivateInferenceDerivationIds (store.planDependentCurrentRevisions roots).2) :=
  withdraws_deactivateInferenceDerivationIds coherent fun _ surviving planned =>
    (mem_planDependentCurrentRevisions_derivations.mp planned).2 surviving

theorem surviving_of_active {derivationId : D.DerivationId} {derivation : Derivation D}
    (stored : (store.deactivateInferenceDerivationIds
      (store.planDependentCurrentRevisions roots).2).derivations.row derivationId =
        some derivation) (active : derivation.active = true) :
    store.SurvivingProof {revisionId | revisionId ∈ roots} derivationId := by
  obtain ⟨original, found, same⟩ := Option.map_eq_some_iff.mp stored
  dsimp only at same
  split_ifs at same with planned
  · subst same
    cases active
  · subst same
    by_contra lost
    exact planned (mem_planDependentCurrentRevisions_derivations.mpr
      ⟨⟨original, found, active⟩, lost⟩)

theorem cascade_of_plan (coherent : store.Coherent) {removed : Set D.RevisionId}
    (step : Withdraws {derivationId |
        store.SurvivingProof {revisionId | revisionId ∈ roots} derivationId} removed
      (store.deactivateInferenceDerivationIds (store.planDependentCurrentRevisions roots).2) after)
    (planned : ∀ assertion, store.Live assertion → (assertion.revisionId ∈ removed ↔
      assertion.revisionId ∈ roots ∨ assertion ∈ (store.planDependentCurrentRevisions roots).1)) :
    Cascade {revisionId | revisionId ∈ roots} store after := by
  have whole := (withdraws_plan coherent roots).trans step
  rw [Set.empty_union] at whole
  refine ⟨?_, whole.proofs, ?_, whole.history⟩
  · intro assertion
    rw [whole.live]
    apply and_congr_right
    intro live
    rw [planned assertion live, ← not_survives_iff_planned live, not_not]
  · intro derivationId derivation stored active
    exact surviving_of_active (step.inherited derivationId derivation stored active) active

end Store

end Kestrel.AssertionStore
