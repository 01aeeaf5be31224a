import Kestrel.Storage.Grounding

/-!
# The lifecycle keeps conclusions grounded

Every mutation of the lifecycle keeps the tables coherent. Withdrawals leave the store grounded
whatever it was before; the other mutations keep it grounded, a supersession and a ledger write
under conditions that their code does not check.
-/

namespace Kestrel.AssertionStore

open Except Option Set Assertion List

variable {D : Domain}

namespace Store

variable {store before middle after : Store D} {supply : Supply D}

variable {assertionId : D.AssertionId}

section Withdrawals

variable {root : Assertion D} {result : WithdrawalResult D}

theorem expectedActiveCurrent_eq_ok
    {expectedRevisionId : D.RevisionId}
    (expected : store.expectedActiveCurrent assertionId expectedRevisionId = .ok root) :
    store.current assertionId = some root ∧ root.revisionId = expectedRevisionId ∧
      root.status = .active := by
  unfold expectedActiveCurrent at expected
  split at expected
  · cases expected
  · rename_i current found
    split_ifs at expected with mismatch
    cases expected
    push Not at mismatch
    exact ⟨found, mismatch⟩

variable {roots : List (Assertion D)}

theorem expectedActiveTargets_current {targets : List (D.AssertionId × D.RevisionId)}
    (expected : store.expectedActiveTargets targets = .ok roots) :
    ∀ root ∈ roots, ∃ assertionId, store.current assertionId = some root := by
  unfold expectedActiveTargets at expected
  induction targets generalizing roots with
  | nil =>
    cases expected
    intro root member
    cases member
  | cons target targets ih =>
    rw [mapM_cons, bind_eq_ok] at expected
    obtain ⟨first, checked, expected⟩ := expected
    obtain ⟨rest, later, expected⟩ := bind_eq_ok.mp expected
    cases expected
    intro root member
    rcases mem_cons.mp member with rfl | other
    · split at checked
      · cases checked
      · rename_i current found
        split_ifs at checked
        cases checked
        exact ⟨target.1, found⟩
    · exact ih later root other

variable {terminal : Option (AssertionStatus × Option EpistemicState)}

theorem withdraws_terminal {kept : Set D.DerivationId} (coherent : store.Coherent)
    (fresh : supply.FreshFrom 0 store) (vacant : store.Vacant root.assertionId)
    (inactive : ∀ status epistemicState, terminal = some (status, epistemicState) →
      status ≠ .active) (written : store.writeTerminal supply root terminal = .ok (after, roots)) :
    Withdraws kept ∅ store after ∧ supply.FreshFrom 1 after := by
  unfold writeTerminal at written
  cases terminal with
  | none =>
    cases written
    exact ⟨.refl coherent, fun later _ => fresh later (Nat.zero_le later)⟩
  | some terminal =>
    obtain ⟨status, epistemicState⟩ := terminal
    obtain ⟨⟨middle, state⟩, stated, written⟩ := bind_eq_ok.mp written
    cases written
    obtain ⟨rfl, described⟩ := writeState_eq fresh stated
    have unwritten : store.revisions.row state.revisionId = none := by
      rw [described.revisionId]
      exact fresh 0 (le_refl 0)
    refine ⟨withdraws_appendRevision coherent unwritten ?_ ?_,
      freshFrom_appendRevision fresh described.revisionId⟩
    · rw [described.assertionId]
      exact vacant
    · rw [described.status]
      exact inactive status epistemicState rfl

/-- **A withdrawal of one root keeps exactly what the planner grounds without the root.** -/
theorem cascade_withdrawRoot (coherent : store.Coherent) (fresh : supply.FreshFrom 0 store) (found : store.current assertionId = some root)
    (inactive : ∀ status epistemicState, terminal = some (status, epistemicState) →
      status ≠ .active) (withdrawn : store.withdrawRoot supply root terminal = .ok (after, result))
    :
    after.Coherent ∧ Cascade {revisionId | revisionId ∈ [root.revisionId]}
      (store.invalidateEligibility root.revisionId true) after := by
  unfold withdrawRoot dependentCurrentRevisions at withdrawn
  generalize ineligible : store.invalidateEligibility root.revisionId true = middle at withdrawn ⊢
  have first : Withdraws (∅ : Set D.DerivationId) {root.revisionId} store middle := by
    rw [← ineligible]
    apply withdraws_invalidateEligibility coherent
    intro _ _ impossible
    exact absurd impossible (notMem_empty _)
  have fresh' : supply.FreshFrom 0 middle := by
    rw [← ineligible]
    exact freshFrom_invalidateEligibility fresh root.revisionId true
  have rootless : ∀ assertion, middle.Live assertion → assertion.revisionId ≠ root.revisionId :=
    fun assertion live => ((first.live assertion).mp live).2
  have vacant : middle.Vacant root.assertionId := fun assertion live same =>
    rootless assertion live
      (coherent.owns_of_current found assertion ((first.live assertion).mp live).1 same)
  dsimp only at withdrawn
  rw [filter_active_plan first.coherent, bind_eq_ok] at withdrawn
  obtain ⟨⟨stated, roots⟩, terminated, withdrawn⟩ := withdrawn
  obtain ⟨⟨last, states⟩, retired, withdrawn⟩ := bind_eq_ok.mp withdrawn
  cases withdrawn
  have plan := withdraws_plan first.coherent [root.revisionId]
  obtain ⟨terminalStep, fresh''⟩ : Withdraws {derivationId |
        middle.SurvivingProof {revisionId | revisionId ∈ [root.revisionId]} derivationId} ∅
      _ stated ∧ supply.FreshFrom 1 stated :=
    withdraws_terminal plan.coherent fresh' (fun assertion live =>
      vacant assertion ((plan.live assertion).mp live).1) inactive terminated
  have kept := plan.trans terminalStep
  obtain ⟨dependentStep, _⟩ := withdraws_retireAll terminalStep.coherent fresh''
    (fun dependent member => terminalStep.owns (plan.owns (first.coherent.owns_of_live
      (mem_planDependentCurrentRevisions.mp member).1)))
    (by decide)
    (by
      intro _ derivationId surviving derivation stored dependent member named
      rw [kept.proofs derivationId surviving] at stored
      exact (SurvivingProof.spares surviving stored named).2 dependent member rfl)
    retired
  have whole := terminalStep.trans dependentStep
  have same : SameTables last last.advanceGeneration := ⟨rfl, rfl, rfl⟩
  refine ⟨same.coherent dependentStep.coherent,
    (cascade_of_plan first.coherent whole ?_).of_sameTables same⟩
  intro assertion live
  rw [empty_union, mem_ofPred_eq, mem_plan_iff first.coherent live, List.mem_singleton]
  simp only [rootless assertion live, false_or]

/-- **A quarantine keeps exactly what the planner grounds without its roots.** -/
theorem cascade_quarantineCurrent (coherent : store.Coherent) (fresh : supply.FreshFrom 0 store)
    (found : ∀ root ∈ roots, ∃ assertionId, store.current assertionId = some root)
    (quarantined : store.quarantineCurrent supply roots = .ok (after, result)) :
    after.Coherent ∧ Cascade {revisionId | revisionId ∈ roots.map (·.revisionId)} store after := by
  unfold quarantineCurrent dependentCurrentRevisions at quarantined
  obtain ⟨⟨rooted, states⟩, first, quarantined⟩ := bind_eq_ok.mp quarantined
  dsimp only at quarantined
  obtain ⟨⟨last, dependents⟩, second, quarantined⟩ := bind_eq_ok.mp quarantined
  cases quarantined
  have active : (store.planDependentCurrentRevisions (roots.map (·.revisionId))).1.filter
      (fun dependent => dependent.status = .active ∧
        dependent.revisionId ∉ roots.map (·.revisionId)) =
      (store.planDependentCurrentRevisions (roots.map (·.revisionId))).1 := by
    rw [filter_eq_self]
    intro dependent member
    have planned := mem_planDependentCurrentRevisions.mp member
    exact decide_eq_true ⟨coherent.active_of_live planned.1, planned.2.2.1⟩
  rw [active] at second
  have plan := withdraws_plan coherent (roots.map (·.revisionId))
  have freshPlan : supply.FreshFrom 0 (store.deactivateInferenceDerivationIds
      (store.planDependentCurrentRevisions (roots.map (·.revisionId))).2) := fresh
  obtain ⟨rootStep, fresh'⟩ := withdraws_retireAll plan.coherent freshPlan (fun root member => by
      obtain ⟨assertionId, current⟩ := found root member
      exact plan.owns (coherent.owns_of_current current))
    (by decide)
    (by
      intro _ derivationId surviving derivation stored root member named
      rw [plan.proofs derivationId surviving] at stored
      exact (SurvivingProof.spares surviving stored named).1 (mem_map_of_mem member))
    first
  rw [Nat.zero_add] at fresh'
  have kept := plan.trans rootStep
  obtain ⟨dependentStep, _⟩ := withdraws_retireAll rootStep.coherent fresh'
    (fun dependent member => rootStep.owns (plan.owns (coherent.owns_of_live
      (mem_planDependentCurrentRevisions.mp member).1)))
    (by decide)
    (by
      intro _ derivationId surviving derivation stored dependent member named
      rw [kept.proofs derivationId surviving] at stored
      exact (SurvivingProof.spares surviving stored named).2 dependent member rfl)
    second
  have whole := rootStep.trans dependentStep
  have advanced : SameTables last (if roots = [] then last else last.advanceGeneration) := by
    split_ifs
    · exact .refl last
    · exact ⟨rfl, rfl, rfl⟩
  have conclude : ∀ final, SameTables last final → final.Coherent ∧
      Cascade {revisionId | revisionId ∈ roots.map (·.revisionId)} store final := by
    intro final same
    refine ⟨same.coherent dependentStep.coherent,
      (cascade_of_plan coherent whole ?_).of_sameTables same⟩
    intro assertion live
    rw [mem_union, mem_ofPred_eq, mem_ofPred_eq, mem_plan_iff coherent live]
  exact conclude _ (advanced.trans
    ((sameTables_events _ _ _ _ _).trans (sameTables_events _ _ _ _ _)))

end Withdrawals

section Appends

variable {assertion predecessor replacement : Assertion D}

theorem Grounded.appendRevision (grounded : store.Grounded) (coherent : store.Coherent)
    (fresh : store.revisions.row assertion.revisionId = none)
    (vacant : store.Vacant assertion.assertionId)
    (supported : ∀ input ∈ assertion.lineage.inputRevisionIds, store.Survives ∅ input) :
    (store.appendRevision assertion).Grounded := by
  have lifted : ∀ revisionId, store.Survives ∅ revisionId →
      (store.appendRevision assertion).Survives ∅ revisionId := by
    intro revisionId survives
    refine survives.transport ?_ ?_ ?_
    · intro other live _
      exact (coherent.live_appendRevision fresh vacant).mpr (.inl live)
    · exact fun _ _ => rfl
    · exact fun _ recorded => recorded
  intro other live derived
  rcases (coherent.live_appendRevision fresh vacant).mp live with old | ⟨rfl, _⟩
  · exact lifted _ (grounded other old derived)
  · have supports : (store.appendRevision other).Supports ∅ other.lineage.inputRevisionIds
        other.revisionId := by
      refine ⟨notMem_empty _, Lineage.inputRevisionIds_ne_nil derived, other, live, derived,
        rfl, .inr ⟨?_, rfl⟩⟩
      intro recorded
      obtain ⟨derivationId, derivation, stored, concludes⟩ := recorded
      obtain ⟨row, present, _⟩ := coherent.concluded _ _ stored
      rw [concludes, fresh] at present
      cases present
    exact .rule supports fun input member => lifted input (supported input member)

theorem Coherent.setCurrent (coherent : store.Coherent) {eligible : Bool}
    (stored : store.revisions.row assertion.revisionId = some ⟨assertion, eligible⟩)
    (vacant : store.Vacant assertion.assertionId) :
    (store.setCurrent assertion).Coherent ∧
      ∀ other, (store.setCurrent assertion).Live other ↔ store.Live other := by
  have result : (store.setCurrent assertion).Coherent := by
    refine ⟨coherent.keyed, ?_, coherent.active, ?_, coherent.concluded, coherent.ledgerKeyed⟩
    · intro assertionId revisionId pointed
      change (store.currents.insert _ _).row assertionId = _ at pointed
      rw [Table.row_insert] at pointed
      split_ifs at pointed with same
      · cases pointed
        exact ⟨_, stored, same.symm⟩
      · exact coherent.pointed _ _ pointed
    · intro revisionId row present live
      change (store.currents.insert _ _).row row.assertion.assertionId = _
      have lives : store.Live row.assertion := by
        rw [coherent.live_iff, coherent.keyed _ _ present, ← live]
        exact present
      rw [Table.row_insert_of_ne _ _ (vacant _ lives)]
      exact coherent.current _ _ present live
  refine ⟨result, ?_⟩
  intro other
  rw [result.live_iff, coherent.live_iff]
  exact Iff.rfl

theorem grounded_writeRevision (coherent : store.Coherent) (grounded : store.Grounded)
    (vacant : store.Vacant assertion.assertionId)
    (supported : ∀ input ∈ assertion.lineage.inputRevisionIds, store.Survives ∅ input)
    (written : store.writeRevision assertion = .ok after) :
    (after.setCurrent assertion).Coherent ∧ (after.setCurrent assertion).Grounded := by
  cases prior : store.revisions.row assertion.revisionId with
  | none =>
    rw [setCurrent_of_writeRevision prior written]
    exact ⟨coherent.appendRevision prior vacant,
      grounded.appendRevision coherent prior vacant supported⟩
  | some row =>
    unfold writeRevision at written
    rw [prior] at written
    dsimp only at written
    split_ifs at written with same
    cases written
    have stored : store.revisions.row assertion.revisionId = some ⟨assertion, row.eligible⟩ := by
      rw [prior, ← same]
    obtain ⟨result, live⟩ := coherent.setCurrent stored vacant
    refine ⟨result, ?_⟩
    intro other present derived
    refine (grounded other ((live other).mp present) derived).transport ?_ ?_ ?_
    · exact fun each lives _ => (live each).mpr lives
    · exact fun _ _ => rfl
    · exact fun _ recorded => recorded

theorem Grounded.supported (grounded : store.Grounded) (coherent : store.Coherent)
    {sources : List (SourceOccurrence D)}
    (validated : store.validateLineage assertion sources = .ok ()) :
    ∀ input ∈ assertion.lineage.inputRevisionIds, store.Survives ∅ input := by
  intro input member
  obtain ⟨support, live, rfl⟩ := coherent.live_inputs validated input member
  exact grounded.survives live

theorem Coherent.vacant_of_inactive (coherent : store.Coherent) {current : Assertion D}
    (found : store.current assertionId = some current) (inactive : current.status ≠ .active) :
    store.Vacant assertionId := by
  intro other live same
  obtain ⟨owner, _, eligible, stored⟩ := coherent.of_current found
  have revision := coherent.owns_of_current found other live (same.trans owner.symm)
  have row := coherent.live_iff.mp live
  rw [revision, stored] at row
  have equal := (RevisionRow.mk.inj (Option.some.inj row)).1
  exact inactive (equal ▸ coherent.active_of_live live)

theorem Coherent.vacant_of_absent (coherent : store.Coherent)
    (absent : store.current assertionId = none) : store.Vacant assertionId := by
  intro other live same
  have stored := coherent.live_iff.mp live
  have pointer := coherent.current _ _ stored rfl
  unfold Store.current currentRow at absent
  rw [← same, pointer, bind_some, stored] at absent
  cases absent

variable {result : AssertionWriteResult D}

theorem grounded_putInitialAssertion (coherent : store.Coherent) (grounded : store.Grounded)
    {sources : List (SourceOccurrence D)} {expectedGeneration : Option ℕ}
    (put : store.putInitialAssertion supply assertion sources expectedGeneration =
      .ok (after, result)) : after.Coherent ∧ after.Grounded := by
  unfold putInitialAssertion at put
  split_ifs at put
  split at put
  · split_ifs at put
    cases put
    exact ⟨coherent, grounded⟩
  · split at put
    · cases put
    · rename_i absent
      obtain ⟨sourced, stored, put⟩ := bind_eq_ok.mp put
      obtain ⟨_, validated, put⟩ := bind_eq_ok.mp put
      obtain ⟨written, revised, put⟩ := bind_eq_ok.mp put
      cases put
      have same := sameTables_storeSources stored
      have vacant : sourced.Vacant assertion.assertionId := fun other live =>
        coherent.vacant_of_absent absent other (same.live.mp live)
      obtain ⟨coherent', grounded'⟩ := grounded_writeRevision (same.coherent coherent)
        (same.grounded grounded) vacant
        ((same.grounded grounded).supported (same.coherent coherent) validated) revised
      have rest : SameTables (written.setCurrent assertion)
          (((written.setCurrent assertion).advanceGeneration).event (supply.eventUuid4 0)
            assertion "accepted" true) := ⟨rfl, rfl, rfl⟩
      exact ⟨rest.coherent coherent', rest.grounded grounded'⟩

theorem grounded_reactivateInferred (coherent : store.Coherent) (grounded : store.Grounded)
    (reactivated : store.reactivateInferred supply assertion = .ok (after, result)) :
    after.Coherent ∧ after.Grounded := by
  unfold reactivateInferred at reactivated
  split_ifs at reactivated
  split at reactivated
  · cases reactivated
  · rename_i current found
    split_ifs at reactivated with active inferred derived
    · cases reactivated
      exact ⟨coherent, grounded⟩
    · obtain ⟨_, validated, reactivated⟩ := bind_eq_ok.mp reactivated
      obtain ⟨written, revised, reactivated⟩ := bind_eq_ok.mp reactivated
      cases reactivated
      obtain ⟨coherent', grounded'⟩ := grounded_writeRevision coherent grounded
        (coherent.vacant_of_inactive found active) (grounded.supported coherent validated) revised
      have rest : SameTables (written.setCurrent assertion)
          (((written.setCurrent assertion).advanceGeneration).event (supply.eventUuid4 0)
            assertion "inferred" true) := ⟨rfl, rfl, rfl⟩
      exact ⟨rest.coherent coherent', rest.grounded grounded'⟩

end Appends

section Replacements

variable {replacement : Assertion D} {sources : List (SourceOccurrence D)}
  {expectedGeneration : Option ℕ} {expectedRevisionId : D.RevisionId}
  {result : SupersessionResult D}

theorem validateRestoration_direct {source : SourceOccurrence D}
    (validated : validateRestoration replacement sources = .ok source) :
    replacement.lineage.isDirect = true := by
  unfold validateRestoration at validated
  split at validated
  · rename_i lineage
    rw [lineage]
    rfl
  · cases validated
  · cases validated

theorem planRestorationLifecycle_current {predecessor : Assertion D} (coherent : store.Coherent)
    (planned : store.planRestorationLifecycle expectedRevisionId replacement = .ok predecessor) :
    store.current replacement.assertionId = some predecessor ∧ predecessor.status = .deleted := by
  unfold planRestorationLifecycle at planned
  split at planned
  · cases planned
  · rename_i stored found
    split_ifs at planned with mismatch moved
    cases planned
    push Not at mismatch moved
    obtain ⟨deleted, _, _, same⟩ := mismatch
    obtain ⟨current, located, revision⟩ := map_eq_some_iff.mp moved
    obtain ⟨_, _, eligible, row⟩ := coherent.of_current located
    obtain ⟨original, present, kept⟩ := map_eq_some_iff.mp found
    rw [revision, present] at row
    have equal := congrArg (·.assertion) (Option.some.inj row)
    rw [← same, located, ← kept, equal]
    exact ⟨rfl, by rw [← equal, kept]; exact deleted⟩

theorem grounded_restore (coherent : store.Coherent) (grounded : store.Grounded)
    (restored : store.restore supply expectedRevisionId replacement sources expectedGeneration =
      .ok (after, result)) : after.Coherent ∧ after.Grounded := by
  unfold restore at restored
  obtain ⟨source, validated, restored⟩ := bind_eq_ok.mp restored
  split_ifs at restored with _ accepted
  · obtain ⟨_, _, restored⟩ := bind_eq_ok.mp restored
    cases restored
  obtain ⟨predecessor, planned, restored⟩ := bind_eq_ok.mp restored
  obtain ⟨sourced, stored, restored⟩ := bind_eq_ok.mp restored
  obtain ⟨_, _, restored⟩ := bind_eq_ok.mp restored
  obtain ⟨state, made, restored⟩ := bind_eq_ok.mp restored
  obtain ⟨written, revised, restored⟩ := bind_eq_ok.mp restored
  cases restored
  have fields := fromMapping_eq_ok made
  have identity : state.assertionId = replacement.assertionId := by
    unfold assertionId
    rw [fields]
  obtain ⟨current, deleted⟩ := planRestorationLifecycle_current coherent planned
  have same := sameTables_storeSources stored
  have vacant : sourced.Vacant state.assertionId := by
    intro other live
    rw [identity]
    exact coherent.vacant_of_inactive current (by rw [deleted]; decide) other
      (same.live.mp live)
  have sourceless : ∀ input ∈ state.lineage.inputRevisionIds, sourced.Survives ∅ input := by
    intro input member
    have direct := validateRestoration_direct validated
    have lineage : state.lineage = replacement.lineage := by rw [fields]
    rw [lineage] at member
    cases shape : replacement.lineage with
    | direct _ =>
      rw [shape] at member
      cases member
    | derived _ =>
      rw [shape] at direct
      cases direct
  obtain ⟨coherent', grounded'⟩ := grounded_writeRevision (same.coherent coherent)
    (same.grounded grounded) vacant sourceless revised
  have rest : SameTables (written.setCurrent state)
      (((written.setCurrent state).advanceGeneration).event (supply.eventUuid4 0) state
        "accepted" true) := ⟨rfl, rfl, rfl⟩
  exact ⟨rest.coherent coherent', rest.grounded grounded'⟩

/-- What a supersession does not check: that no other live revision has the replacement's
identity, and that the replacement's inputs survive the predecessor. -/
structure SupersessionSafe (store : Store D) (expectedRevisionId : D.RevisionId)
    (replacement : Assertion D) : Prop where
  vacated : ∀ other, store.Live other → other.assertionId = replacement.assertionId →
    other.revisionId = expectedRevisionId
  supported : ∀ input ∈ replacement.lineage.inputRevisionIds,
    store.Survives {revisionId | revisionId ∈ [expectedRevisionId]} input

theorem planSupersessionLifecycle_eq_ok {plan : SupersessionLifecyclePlan D}
    (coherent : store.Coherent)
    (planned : store.planSupersessionLifecycle expectedRevisionId replacement = .ok plan) :
    store.current plan.predecessor.assertionId = some plan.predecessor ∧
      plan.predecessor.revisionId = expectedRevisionId ∧
      plan.dependentAssertions = (store.planDependentCurrentRevisions [expectedRevisionId]).1 ∧
      plan.deactivatedDerivationIds =
        (store.planDependentCurrentRevisions [expectedRevisionId]).2 := by
  unfold planSupersessionLifecycle at planned
  split at planned
  · cases planned
  · rename_i predecessor found
    split_ifs at planned with inactive moved unrelated
    cases planned
    push Not at moved
    obtain ⟨current, located, revision⟩ := map_eq_some_iff.mp moved
    obtain ⟨_, _, eligible, row⟩ := coherent.of_current located
    obtain ⟨original, present, kept⟩ := map_eq_some_iff.mp found
    rw [revision, present] at row
    have equal : predecessor = current := by
      rw [← kept]
      exact congrArg (·.assertion) (Option.some.inj row)
    refine ⟨?_, ?_, rfl, rfl⟩
    · dsimp only
      rw [located, equal]
    · dsimp only
      rw [equal, revision]

theorem row_retireAll {items states : List (Assertion D)} {draw : ℕ} {flag : Bool}
    {status : AssertionStatus} {epistemicState : Option EpistemicState}
    {revisionId : D.RevisionId} (absent : store.revisions.row revisionId = none)
    (fresh : supply.FreshFrom draw store)
    (undrawn : ∀ later, draw ≤ later → supply.uuid4 later ≠ revisionId)
    (retired : store.retireAll supply flag status epistemicState items draw =
      .ok (after, states)) : after.revisions.row revisionId = none := by
  induction items generalizing store draw states with
  | nil =>
    cases retired
    exact absent
  | cons item items ih =>
    obtain ⟨⟨middle, state⟩, written, retired⟩ := bind_eq_ok.mp retired
    obtain ⟨⟨last, states⟩, rest, retired⟩ := bind_eq_ok.mp retired
    cases retired
    have fresh' := freshFrom_invalidateEligibility fresh item.revisionId flag
    obtain ⟨rfl, described⟩ := writeState_eq fresh' written
    refine ih ?_ (freshFrom_appendRevision fresh' described.revisionId)
      (fun later after => undrawn later (by omega)) rest
    change (Table.insert _ _ _).row revisionId = none
    rw [Table.row_insert_of_ne]
    · cases flag with
      | false | true =>
        change (store.revisions.row _).map _ = none
        rw [absent, map_none]
    · rw [described.revisionId]
      exact (undrawn draw (le_refl draw)).symm

/-- Withdrawing the predecessor of a supersession and its dependents, and appending the
predecessor's state, keeps exactly what the planner grounds without the predecessor. -/
theorem cascade_supersession {retired : Store D} {root state : Assertion D}
    {states : List (Assertion D)} (coherent : store.Coherent)
    (fresh : supply.FreshFrom 0 store) (found : store.current assertionId = some root)
    (described : StateOf supply 0 root .superseded state)
    (retires : (store.deactivateInferenceDerivationIds
        (store.planDependentCurrentRevisions [root.revisionId]).2).retractDependents supply false
      (store.planDependentCurrentRevisions [root.revisionId]).1 1 = .ok (retired, states)) :
    (retired.invalidateEligibility root.revisionId false).revisions.row state.revisionId = none ∧
      ((retired.invalidateEligibility root.revisionId false).appendRevision state).Coherent ∧
      Cascade {revisionId | revisionId ∈ [root.revisionId]} store
        ((retired.invalidateEligibility root.revisionId false).appendRevision state) := by
  unfold retractDependents at retires
  have step := withdraws_plan coherent [root.revisionId]
  have freshLater : supply.FreshFrom 1 (store.deactivateInferenceDerivationIds
      (store.planDependentCurrentRevisions [root.revisionId]).2) :=
    fun later _ => fresh later (Nat.zero_le later)
  obtain ⟨dependentStep, _⟩ : Withdraws {derivationId |
        store.SurvivingProof {revisionId | revisionId ∈ [root.revisionId]} derivationId} _ _
      retired ∧ _ :=
    withdraws_retireAll step.coherent freshLater
      (fun dependent member => step.owns (coherent.owns_of_live
        (mem_planDependentCurrentRevisions.mp member).1))
      (by decide) (fun impossible => by cases impossible) retires
  have whole := dependentStep.trans (withdraws_invalidateEligibility dependentStep.coherent
    root.revisionId false (fun impossible => by cases impossible))
  have unwritten : (retired.invalidateEligibility root.revisionId false).revisions.row
      state.revisionId = none := by
    change (retired.revisions.row _).map _ = none
    rw [map_eq_none_iff, described.revisionId]
    have absent : (store.deactivateInferenceDerivationIds
        (store.planDependentCurrentRevisions [root.revisionId]).2).revisions.row
          (supply.uuid4 0) = none := fresh 0 (le_refl 0)
    refine row_retireAll absent freshLater ?_ retires
    intro later after drawn
    have := supply.uuid4_injective drawn
    omega
  have vacant : (retired.invalidateEligibility root.revisionId false).Vacant
      state.assertionId := by
    intro other live same
    obtain ⟨before, outside⟩ := (whole.live other).mp live
    exact outside (.inr (coherent.owns_of_current found other ((step.live other).mp before).1
      (same.trans described.assertionId)))
  have appended := whole.trans (withdraws_appendRevision whole.coherent unwritten vacant
    (by rw [described.status]; decide))
  refine ⟨unwritten, appended.coherent, cascade_of_plan coherent appended ?_⟩
  intro assertion live
  rw [union_empty, mem_union, mem_ofPred_eq, mem_plan_iff coherent live,
    mem_singleton_iff, List.mem_singleton, or_comm]

theorem grounded_supersede (coherent : store.Coherent) (fresh : supply.FreshFrom 0 store)
    (safe : store.SupersessionSafe expectedRevisionId replacement)
    (superseded : store.supersede supply expectedRevisionId replacement sources
      expectedGeneration = .ok (after, result)) : after.Coherent ∧ after.Grounded := by
  unfold supersede at superseded
  split_ifs at superseded
  obtain ⟨sourced, stored, superseded⟩ := bind_eq_ok.mp superseded
  obtain ⟨_, _, superseded⟩ := bind_eq_ok.mp superseded
  obtain ⟨plan, planned, superseded⟩ := bind_eq_ok.mp superseded
  obtain ⟨predecessorState, predecessorMade, superseded⟩ := bind_eq_ok.mp superseded
  obtain ⟨replacementState, replacementMade, superseded⟩ := bind_eq_ok.mp superseded
  obtain ⟨⟨retired, dependentStates⟩, retires, superseded⟩ := bind_eq_ok.mp superseded
  dsimp only at superseded
  obtain ⟨predecessorStore, predecessorWritten, superseded⟩ := bind_eq_ok.mp superseded
  obtain ⟨replacementStore, replacementWritten, superseded⟩ := bind_eq_ok.mp superseded
  cases superseded
  have same := sameTables_storeSources stored
  have coherent' := same.coherent coherent
  have fresh' : supply.FreshFrom 0 sourced := by
    intro later after
    rw [same.revisions]
    exact fresh later after
  obtain ⟨located, rfl, dependents, deactivated⟩ :=
    planSupersessionLifecycle_eq_ok coherent' planned
  rw [dependents, filter_active_plan coherent', deactivated] at retires
  obtain ⟨unwritten, appended, cascade⟩ := cascade_supersession coherent' fresh' located
    (stateOf_assertionWith predecessorMade) retires
  rw [setCurrent_of_writeRevision unwritten predecessorWritten] at replacementWritten
  have fields := fromMapping_eq_ok replacementMade
  have identity : replacementState.assertionId = replacement.assertionId := by
    unfold assertionId
    rw [fields]
  have lineage : replacementState.lineage = replacement.lineage := by rw [fields]
  obtain ⟨resultCoherent, resultGrounded⟩ := grounded_writeRevision appended cascade.grounded (by
      intro other live
      rw [identity]
      intro owner
      obtain ⟨before, kept⟩ := (cascade.live other).mp live
      exact kept.live.1 (mem_singleton.mpr (safe.vacated other (same.live.mp before) owner)))
    (by
      intro input member
      rw [lineage] at member
      exact cascade.survives (same.survives.mpr (safe.supported input member)))
    replacementWritten
  have conclude : ∀ final, SameTables (replacementStore.setCurrent replacementState) final →
      final.Coherent ∧ final.Grounded :=
    fun final rest => ⟨rest.coherent resultCoherent, rest.grounded resultGrounded⟩
  refine conclude _ ?_
  have events : SameTables (replacementStore.setCurrent replacementState)
      ((((replacementStore.setCurrent replacementState).advanceGeneration).event
        (supply.eventUuid4 0) predecessorState "superseded" false).event (supply.eventUuid4 1)
          replacementState "accepted" true) := ⟨rfl, rfl, rfl⟩
  exact events.trans (sameTables_events _ _ _ _ _)

end Replacements

end Store

end Kestrel.AssertionStore
