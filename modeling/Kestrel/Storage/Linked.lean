import Kestrel.Storage.GroundedRuns
import Mathlib.Order.WellFounded

/-!
# References between the tables

In every reachable store each reference names a stored revision, and no lineage leads back to
its own revision. Unlike coherence this needs no condition on the mutations.
-/

namespace Kestrel.AssertionStore

open List Except Option Table Store

variable {D : Domain}

namespace Store

variable {store before middle after : Store D} {supply : Supply D} {assertion : Assertion D}

def Names (store : Store D) (input revisionId : D.RevisionId) : Prop :=
  ∃ row, store.revisions.row revisionId = some row ∧
    input ∈ row.assertion.lineage.inputRevisionIds

def Cites (store : Store D) (lineage : Lineage D) : Prop :=
  ∀ input ∈ lineage.inputRevisionIds, store.revisions.row input ≠ none

/-- Every reference names a stored revision, and the lineages are well founded. -/
structure Linked (store : Store D) : Prop where
  keyed : ∀ revisionId row, store.revisions.row revisionId = some row →
    row.assertion.revisionId = revisionId
  pointed : ∀ assertionId revisionId, store.currents.row assertionId = some revisionId →
    ∃ row, store.revisions.row revisionId = some row ∧
      row.assertion.assertionId = assertionId
  headed : ∀ revisionId row, store.revisions.row revisionId = some row →
    store.currents.row row.assertion.assertionId ≠ none
  cites : ∀ revisionId row, store.revisions.row revisionId = some row →
    store.Cites row.assertion.lineage
  concluded : ∀ derivationId derivation,
    store.derivations.row derivationId = some derivation →
    ∃ row, store.revisions.row derivation.derivedRevisionId = some row ∧
      row.assertion.assertionId = derivation.derivedAssertionId
  premised : ∀ derivationId derivation,
    store.derivations.row derivationId = some derivation →
    ∀ input ∈ derivation.inputRevisionIds, store.revisions.row input ≠ none
  founded : WellFounded store.Names

/-- The step removes no revision. -/
def Retains (before after : Store D) : Prop :=
  ∀ revisionId, before.revisions.row revisionId ≠ none → after.revisions.row revisionId ≠ none

/-- The step keeps the references and removes no revision. -/
structure Relinks (before after : Store D) : Prop where
  linked : after.Linked
  retains : Retains before after

theorem empty_linked : (empty : Store D).Linked where
  keyed := fun _ _ stored => by cases stored
  pointed := fun _ _ stored => by cases stored
  headed := fun _ _ stored => by cases stored
  cites := fun _ _ stored => by cases stored
  concluded := fun _ _ stored => by cases stored
  premised := fun _ _ stored => by cases stored
  founded := ⟨fun revisionId => ⟨revisionId, fun _ named => by
    obtain ⟨_, stored, _⟩ := named
    cases stored⟩⟩

theorem Linked.relinks (linked : store.Linked) : Relinks store store :=
  ⟨linked, fun _ stored => stored⟩

theorem Relinks.trans (first : Relinks before middle) (second : Relinks middle after) :
    Relinks before after :=
  ⟨second.linked, fun revisionId stored => second.retains _ (first.retains revisionId stored)⟩

theorem Cites.mono {lineage : Lineage D} (cites : before.Cites lineage)
    (retains : Retains before after) : after.Cites lineage :=
  fun input named => retains input (cites input named)

variable {assertionId : D.AssertionId}

section Tables

theorem SameTables.relinks (same : SameTables before after) (linked : before.Linked) :
    Relinks before after := by
  obtain ⟨revisions, currents, derivations⟩ := same
  cases before
  cases after
  cases revisions
  cases currents
  cases derivations
  exact ⟨⟨linked.keyed, linked.pointed, linked.headed, linked.cites, linked.concluded,
    linked.premised, linked.founded⟩, fun _ stored => stored⟩

section

variable (linked : store.Linked)

include linked

theorem Linked.adjustDerivations {change : D.DerivationId → Derivation D → Derivation D}
    (flags : ∀ derivationId derivation, ∃ active,
      change derivationId derivation = { derivation with active := active }) :
    Relinks store { store with derivations := store.derivations.adjust change } := by
  refine ⟨⟨linked.keyed, linked.pointed, linked.headed, linked.cites, ?_, ?_, linked.founded⟩,
    fun _ stored => stored⟩
  · intro derivationId _ stored
    obtain ⟨derivation, original, rfl⟩ := map_eq_some_iff.mp stored
    obtain ⟨active, same⟩ := flags derivationId derivation
    rw [same]
    exact linked.concluded derivationId derivation original
  · intro derivationId _ stored
    obtain ⟨derivation, original, rfl⟩ := map_eq_some_iff.mp stored
    obtain ⟨active, same⟩ := flags derivationId derivation
    rw [same]
    exact linked.premised derivationId derivation original

theorem Linked.deactivate (derivationIds : List D.DerivationId) :
    Relinks store (store.deactivateInferenceDerivationIds derivationIds) := by
  apply linked.adjustDerivations
  intro derivationId derivation
  split_ifs
  · exact ⟨false, rfl⟩
  · exact ⟨derivation.active, rfl⟩

theorem Linked.adjustRevisions {change : D.RevisionId → RevisionRow D → RevisionRow D}
    (assertions : ∀ revisionId row, (change revisionId row).assertion = row.assertion) :
    Relinks store { store with revisions := store.revisions.adjust change } := by
  have retained : ∀ revisionId, store.revisions.row revisionId ≠ none →
      (store.revisions.adjust change).row revisionId ≠ none := by
    intro revisionId stored
    rw [row_adjust, ne_eq, map_eq_none_iff]
    exact stored
  have named : ∀ input revisionId,
      Names { store with revisions := store.revisions.adjust change } input revisionId →
        store.Names input revisionId := by
    intro input revisionId found
    obtain ⟨_, stored, member⟩ := found
    obtain ⟨row, original, rfl⟩ := map_eq_some_iff.mp stored
    rw [assertions] at member
    exact ⟨row, original, member⟩
  refine ⟨⟨?_, ?_, ?_, ?_, ?_, ?_, ?_⟩, retained⟩
  · intro revisionId _ stored
    obtain ⟨row, original, rfl⟩ := map_eq_some_iff.mp stored
    rw [assertions]
    exact linked.keyed _ _ original
  · intro assertionId revisionId pointed
    obtain ⟨row, stored, owner⟩ := linked.pointed _ _ pointed
    exact ⟨_, by rw [row_adjust, stored]; rfl, by rw [assertions]; exact owner⟩
  · intro revisionId _ stored
    obtain ⟨row, original, rfl⟩ := map_eq_some_iff.mp stored
    rw [assertions]
    exact linked.headed _ _ original
  · intro revisionId _ stored input member
    obtain ⟨row, original, rfl⟩ := map_eq_some_iff.mp stored
    rw [assertions] at member
    exact retained _ (linked.cites _ _ original input member)
  · intro derivationId derivation stored
    obtain ⟨row, present, owner⟩ := linked.concluded _ _ stored
    exact ⟨_, by rw [row_adjust, present]; rfl, by rw [assertions]; exact owner⟩
  · intro derivationId derivation stored input member
    exact retained _ (linked.premised _ _ stored input member)
  · exact Subrelation.wf (fun found => named _ _ found) linked.founded

theorem Linked.invalidateEligibility (revisionId : D.RevisionId) (flag : Bool)
    : Relinks store (store.invalidateEligibility revisionId flag) := by
  have first : Relinks store { store with
      revisions := store.revisions.adjust fun storedId row =>
        if storedId = revisionId then { row with eligible := false } else row } := by
    apply linked.adjustRevisions
    intro storedId row
    split_ifs <;> rfl
  cases flag with
  | false => exact first
  | true => exact first.trans (first.linked.deactivate _)

theorem Linked.appendRevision (fresh : store.revisions.row assertion.revisionId = none)
    (cites : store.Cites assertion.lineage) : Relinks store (store.appendRevision assertion) := by
  have distinct : ∀ revisionId, store.revisions.row revisionId ≠ none →
      revisionId ≠ assertion.revisionId := by
    intro revisionId stored same
    rw [same, fresh] at stored
    exact stored rfl
  have older : ∀ revisionId, store.revisions.row revisionId ≠ none →
      (store.appendRevision assertion).revisions.row revisionId =
        store.revisions.row revisionId :=
    fun revisionId stored => row_insert_of_ne _ _ (distinct revisionId stored)
  have retained : Retains store (store.appendRevision assertion) := by
    intro revisionId stored
    rw [older revisionId stored]
    exact stored
  have known : ∀ revisionId row,
      (store.appendRevision assertion).revisions.row revisionId = some row →
      revisionId = assertion.revisionId ∧ row.assertion = assertion ∨
        store.revisions.row revisionId = some row := by
    intro revisionId row stored
    change (store.revisions.insert _ _).row revisionId = _ at stored
    rw [row_insert] at stored
    split_ifs at stored with same
    · cases stored
      exact .inl ⟨same, rfl⟩
    · exact .inr stored
  refine ⟨⟨?_, ?_, ?_, ?_, ?_, ?_, ?_⟩, retained⟩
  · intro revisionId row stored
    rcases known revisionId row stored with ⟨rfl, same⟩ | old
    · rw [same]
    · exact linked.keyed _ _ old
  · intro assertionId revisionId pointed
    change (store.currents.insert _ _).row assertionId = _ at pointed
    rw [row_insert] at pointed
    split_ifs at pointed with same
    · cases pointed
      exact ⟨_, row_insert_self _ _ _, same.symm⟩
    · obtain ⟨row, stored, owner⟩ := linked.pointed _ _ pointed
      refine ⟨row, ?_, owner⟩
      rw [older _ (by rw [stored]; exact some_ne_none _)]
      exact stored
  · intro revisionId row stored
    change (store.currents.insert _ _).row _ ≠ none
    rw [row_insert]
    split_ifs with same
    · exact some_ne_none _
    · rcases known revisionId row stored with ⟨_, equal⟩ | old
      · exact absurd (congrArg Assertion.assertionId equal) same
      · exact linked.headed _ _ old
  · intro revisionId row stored input named
    rcases known revisionId row stored with ⟨_, same⟩ | old
    · rw [same] at named
      exact retained _ (cites input named)
    · exact retained _ (linked.cites _ _ old input named)
  · intro derivationId derivation stored
    obtain ⟨row, present, owner⟩ := linked.concluded _ _ stored
    refine ⟨row, ?_, owner⟩
    rw [older _ (by rw [present]; exact some_ne_none _)]
    exact present
  · intro derivationId derivation stored input named
    exact retained _ (linked.premised _ _ stored input named)
  · -- The fresh revision is named by no lineage, so only its own predecessors are new.
    have access : ∀ revisionId, store.revisions.row revisionId ≠ none →
        Acc (store.appendRevision assertion).Names revisionId := by
      intro revisionId
      induction revisionId using linked.founded.induction with
      | h revisionId ih =>
        intro stored
        refine ⟨revisionId, ?_⟩
        intro input named
        obtain ⟨row, present, member⟩ := named
        rw [older revisionId stored] at present
        exact ih input ⟨row, present, member⟩ (linked.cites _ _ present input member)
    refine ⟨fun revisionId => ⟨revisionId, ?_⟩⟩
    intro input named
    obtain ⟨row, present, member⟩ := named
    rcases known revisionId row present with ⟨_, same⟩ | old
    · rw [same] at member
      exact access input (cites input member)
    · exact access input (linked.cites _ _ old input member)

theorem Linked.setCurrent {row : RevisionRow D}
    (stored : store.revisions.row assertion.revisionId = some row)
    (same : row.assertion = assertion) : Relinks store (store.setCurrent assertion) := by
  refine ⟨⟨linked.keyed, ?_, ?_, linked.cites, linked.concluded, linked.premised,
    linked.founded⟩, fun _ present => present⟩
  · intro assertionId revisionId pointed
    change (store.currents.insert _ _).row assertionId = _ at pointed
    rw [row_insert] at pointed
    split_ifs at pointed with owner
    · cases pointed
      exact ⟨row, stored, by rw [same, owner]⟩
    · exact linked.pointed _ _ pointed
  · intro revisionId other present
    change (store.currents.insert _ _).row _ ≠ none
    rw [row_insert]
    split_ifs
    · exact some_ne_none _
    · exact linked.headed _ _ present

theorem Linked.writeRevision (cites : store.Cites assertion.lineage)
    (written : store.writeRevision assertion = .ok after) :
    Relinks store (after.setCurrent assertion) := by
  cases prior : store.revisions.row assertion.revisionId with
  | none =>
    rw [setCurrent_of_writeRevision prior written]
    exact linked.appendRevision prior cites
  | some row =>
    unfold Store.writeRevision at written
    rw [prior] at written
    dsimp only at written
    split_ifs at written with same
    cases written
    exact linked.setCurrent prior same

end

theorem cites_of_validateLineage {sources : List (SourceOccurrence D)}
    (validated : store.validateLineage assertion sources = .ok ()) :
    store.Cites assertion.lineage := by
  unfold validateLineage at validated
  cases lineage : assertion.lineage with
  | direct expected => intro input named; cases named
  | derived derived =>
    rw [lineage] at validated
    split_ifs at validated
    intro input named absent
    have checked := forM_eq_ok.mp validated input named
    unfold revision at checked
    rw [absent] at checked
    cases checked

theorem Linked.of_current (linked : store.Linked)
    (found : store.current assertionId = some assertion) :
    assertion.assertionId = assertionId ∧
      store.currents.row assertionId = some assertion.revisionId ∧
      ∃ eligible, store.revisions.row assertion.revisionId = some ⟨assertion, eligible⟩ := by
  unfold current currentRow at found
  obtain ⟨row, located, rfl⟩ := map_eq_some_iff.mp found
  obtain ⟨revisionId, pointer, stored⟩ := bind_eq_some_iff.mp located
  obtain ⟨other, stored', owner⟩ := linked.pointed _ _ pointer
  rw [stored] at stored'
  cases stored'
  rw [linked.keyed _ _ stored]
  exact ⟨owner, pointer, row.eligible, stored⟩

theorem Linked.cites_of_current (linked : store.Linked)
    (found : store.current assertionId = some assertion) : store.Cites assertion.lineage := by
  obtain ⟨_, _, _, stored⟩ := linked.of_current found
  exact linked.cites _ _ stored

theorem Linked.cites_of_currentRow (linked : store.Linked) {row : RevisionRow D}
    (current : row ∈ store.currentRows) : store.Cites row.assertion.lineage := by
  obtain ⟨pointer, _, stored⟩ := mem_filterMap.mp current
  exact linked.cites _ _ stored

theorem Linked.cites_of_live (linked : store.Linked) (live : store.Live assertion) :
    store.Cites assertion.lineage := by
  obtain ⟨row, member, rfl⟩ := mem_map.mp live
  exact linked.cites_of_currentRow (mem_filter.mp member).1

theorem Linked.cites_of_revision (linked : store.Linked) {revisionId : D.RevisionId}
    (found : store.revision revisionId = some assertion) : store.Cites assertion.lineage := by
  obtain ⟨row, stored, rfl⟩ := map_eq_some_iff.mp found
  exact linked.cites _ _ stored

end Tables

section States

variable {item state root : Assertion D} {items states : List (Assertion D)} {draw : ℕ}
  {flag : Bool} {status : AssertionStatus} {epistemicState : Option EpistemicState}

section

variable (linked : store.Linked)

include linked

theorem Linked.writeState (cites : store.Cites item.lineage)
    {supersedesRevisionId : Option D.RevisionId}
    (written : store.writeState supply draw item status supersedesRevisionId epistemicState =
      .ok (after, state)) : Relinks store after := by
  unfold Store.writeState at written
  obtain ⟨made, state_made, written⟩ := bind_eq_ok.mp written
  obtain ⟨middle, stored, written⟩ := bind_eq_ok.mp written
  cases written
  refine linked.writeRevision ?_ stored
  rw [(stateOf_assertionWith state_made).lineage]
  exact cites

theorem Linked.retireAll (cites : ∀ item ∈ items, store.Cites item.lineage)
    (retired : store.retireAll supply flag status epistemicState items draw =
      .ok (after, states)) : Relinks store after := by
  induction items generalizing store draw states with
  | nil =>
    cases retired
    exact linked.relinks
  | cons item items ih =>
    obtain ⟨⟨middle, state⟩, written, retired⟩ := bind_eq_ok.mp retired
    obtain ⟨⟨last, states⟩, rest, retired⟩ := bind_eq_ok.mp retired
    cases retired
    have invalidated := linked.invalidateEligibility item.revisionId flag
    have first := invalidated.trans (invalidated.linked.writeState
      ((cites item mem_cons_self).mono invalidated.retains) written)
    refine first.trans (ih first.linked ?_ rest)
    exact fun other member => (cites other (mem_cons_of_mem _ member)).mono first.retains

theorem Linked.cites_of_planned {withdrawn : List D.RevisionId}
    (planned : item ∈ (store.planDependentCurrentRevisions withdrawn).1) :
    store.Cites item.lineage :=
  linked.cites_of_live (mem_planDependentCurrentRevisions.mp planned).1

theorem Linked.withdrawRoot (cites : store.Cites root.lineage)
    {terminal : Option (AssertionStatus × Option EpistemicState)} {result : WithdrawalResult D}
    (withdrawn : store.withdrawRoot supply root terminal = .ok (after, result)) :
    Relinks store after := by
  unfold Store.withdrawRoot dependentCurrentRevisions at withdrawn
  obtain ⟨⟨ended, roots⟩, terminated, withdrawn⟩ := bind_eq_ok.mp withdrawn
  dsimp only at withdrawn
  obtain ⟨⟨retired, states⟩, retires, withdrawn⟩ := bind_eq_ok.mp withdrawn
  cases withdrawn
  have invalidated := linked.invalidateEligibility root.revisionId true
  generalize store.invalidateEligibility root.revisionId true = ineligible
    at terminated retires invalidated
  have pruned := invalidated.linked.deactivate
    (ineligible.planDependentCurrentRevisions [root.revisionId]).2
  generalize ineligible.deactivateInferenceDerivationIds _ = remaining at terminated pruned
  have terminates : Relinks remaining ended := by
    unfold writeTerminal at terminated
    split at terminated
    · cases terminated
      exact pruned.linked.relinks
    · obtain ⟨⟨written, state⟩, wrote, terminated⟩ := bind_eq_ok.mp terminated
      cases terminated
      exact pruned.linked.writeState (cites.mono (invalidated.trans pruned).retains) wrote
  have retires : Relinks ended retired := by
    refine terminates.linked.retireAll ?_ retires
    intro dependent member
    exact (invalidated.linked.cites_of_planned (mem_filter.mp member).1).mono
      (pruned.trans terminates).retains
  have whole := ((invalidated.trans pruned).trans terminates).trans retires
  have advanced : SameTables retired retired.advanceGeneration := ⟨rfl, rfl, rfl⟩
  exact whole.trans (advanced.relinks whole.linked)

theorem Linked.quarantineCurrent {roots : List (Assertion D)}
    (cites : ∀ root ∈ roots, store.Cites root.lineage) {result : WithdrawalResult D}
    (quarantined : store.quarantineCurrent supply roots = .ok (after, result)) :
    Relinks store after := by
  unfold Store.quarantineCurrent dependentCurrentRevisions at quarantined
  obtain ⟨⟨rooted, states⟩, first, quarantined⟩ := bind_eq_ok.mp quarantined
  dsimp only at quarantined
  obtain ⟨⟨last, dependents⟩, second, quarantined⟩ := bind_eq_ok.mp quarantined
  cases quarantined
  have pruned := linked.deactivate
    (store.planDependentCurrentRevisions (roots.map (·.revisionId))).2
  have rootsRetired := pruned.trans (pruned.linked.retireAll
    (fun root member => (cites root member).mono pruned.retains) first)
  have retired : Relinks store last := by
    refine rootsRetired.trans (rootsRetired.linked.retireAll ?_ second)
    intro dependent member
    exact (linked.cites_of_planned (mem_filter.mp member).1).mono rootsRetired.retains
  have advanced : SameTables last (if roots = [] then last else last.advanceGeneration) := by
    split_ifs <;> exact ⟨rfl, rfl, rfl⟩
  generalize (if roots = [] then last else last.advanceGeneration) = final at advanced ⊢
  have announced := (sameTables_events supply "validation_quarantined" states 0 final).trans
    (sameTables_events supply "retracted" dependents states.length _)
  exact retired.trans ((advanced.trans announced).relinks retired.linked)

theorem Linked.revokeSemanticInference {engineVersion : D.Name} {result : InferenceRevocationResult}
    (revoked : store.revokeSemanticInference supply engineVersion = .ok (after, result)) :
    Relinks store after := by
  unfold Store.revokeSemanticInference dependentCurrentRevisions at revoked
  dsimp only at revoked
  split_ifs at revoked
  · cases revoked
    exact linked.relinks
  obtain ⟨⟨last, states⟩, retires, revoked⟩ := bind_eq_ok.mp revoked
  cases revoked
  have disabled := linked.deactivate
    (store.activeProofsOf ((store.materializedBy engineVersion).map (·.revisionId)))
  generalize store.deactivateInferenceDerivationIds _ = first at disabled retires
  have pruned := disabled.linked.deactivate (first.planDependentCurrentRevisions
    ((store.materializedBy engineVersion).map (·.revisionId))).2
  generalize first.deactivateInferenceDerivationIds _ = second at pruned retires
  have deactivates := pruned.linked.deactivate
  generalize same : second.deactivateInferenceDerivationIds _ = third at retires
  have remaining : Relinks first third := by
    rw [← same]
    exact pruned.trans (deactivates _)
  have deactivated : Relinks store third := disabled.trans remaining
  have retired : Relinks store last := by
    refine deactivated.trans (deactivated.linked.retireAll ?_ retires)
    intro item member
    rw [mem_insertionSort, mem_filter, mem_append] at member
    rcases member.1 with selected | dependent
    · unfold materializedBy at selected
      rw [mem_insertionSort, mem_filter] at selected
      obtain ⟨row, current, rfl⟩ := mem_map.mp selected.1
      exact (linked.cites_of_currentRow current).mono deactivated.retains
    · have planned := disabled.linked.cites_of_planned (mem_filter.mp dependent).1
      exact planned.mono remaining.retains
  have advanced : SameTables last last.advanceGeneration := ⟨rfl, rfl, rfl⟩
  exact retired.trans ((advanced.trans (sameTables_events _ _ _ _ _)).relinks retired.linked)

end

end States

section Commands

variable {sources : List (SourceOccurrence D)} {replacement : Assertion D}
  {expectedGeneration : Option ℕ} {expected : D.RevisionId}

section

variable (linked : store.Linked)

include linked

theorem Linked.putInitialAssertion {result : AssertionWriteResult D}
    (put : store.putInitialAssertion supply assertion sources expectedGeneration =
      .ok (after, result)) : Relinks store after := by
  unfold Store.putInitialAssertion at put
  split_ifs at put
  split at put
  · split_ifs at put
    cases put
    exact linked.relinks
  · split at put
    · cases put
    · obtain ⟨sourced, stored, put⟩ := bind_eq_ok.mp put
      obtain ⟨_, validated, put⟩ := bind_eq_ok.mp put
      obtain ⟨middle, written, put⟩ := bind_eq_ok.mp put
      cases put
      have sources := (sameTables_storeSources stored).relinks linked
      have published := sources.trans
        (sources.linked.writeRevision (cites_of_validateLineage validated) written)
      have same : SameTables (middle.setCurrent assertion)
          (((middle.setCurrent assertion).advanceGeneration).event (supply.eventUuid4 0) assertion
            "accepted" true) := ⟨rfl, rfl, rfl⟩
      exact published.trans (same.relinks published.linked)

theorem Linked.reactivateInferred {result : AssertionWriteResult D}
    (reactivated : store.reactivateInferred supply assertion = .ok (after, result)) :
    Relinks store after := by
  unfold Store.reactivateInferred at reactivated
  split_ifs at reactivated
  split at reactivated
  · cases reactivated
  · split_ifs at reactivated
    · cases reactivated
      exact linked.relinks
    · obtain ⟨_, validated, reactivated⟩ := bind_eq_ok.mp reactivated
      obtain ⟨middle, written, reactivated⟩ := bind_eq_ok.mp reactivated
      cases reactivated
      have published := linked.writeRevision (cites_of_validateLineage validated) written
      have same : SameTables (middle.setCurrent assertion)
          (((middle.setCurrent assertion).advanceGeneration).event (supply.eventUuid4 0) assertion
            "inferred" true) := ⟨rfl, rfl, rfl⟩
      exact published.trans (same.relinks published.linked)

theorem Linked.supersede {result : SupersessionResult D}
    (superseded : store.supersede supply expected replacement sources expectedGeneration =
      .ok (after, result)) : Relinks store after := by
  unfold Store.supersede at superseded
  split_ifs at superseded
  obtain ⟨sourced, stored, superseded⟩ := bind_eq_ok.mp superseded
  obtain ⟨_, validated, superseded⟩ := bind_eq_ok.mp superseded
  obtain ⟨plan, planned, superseded⟩ := bind_eq_ok.mp superseded
  obtain ⟨predecessorState, predecessorMade, superseded⟩ := bind_eq_ok.mp superseded
  obtain ⟨replacementState, replacementMade, superseded⟩ := bind_eq_ok.mp superseded
  obtain ⟨⟨retired, dependentStates⟩, retires, superseded⟩ := bind_eq_ok.mp superseded
  dsimp only at superseded
  obtain ⟨predecessorStore, predecessorWritten, superseded⟩ := bind_eq_ok.mp superseded
  obtain ⟨replacementStore, replacementWritten, superseded⟩ := bind_eq_ok.mp superseded
  cases superseded
  have sourcesStored := (sameTables_storeSources stored).relinks linked
  obtain ⟨predecessorCites, dependentsCite⟩ : sourced.Cites plan.predecessor.lineage ∧
      ∀ dependent ∈ plan.dependentAssertions, sourced.Cites dependent.lineage := by
    unfold planSupersessionLifecycle at planned
    split at planned
    · cases planned
    · rename_i predecessor found
      split_ifs at planned
      cases planned
      exact ⟨sourcesStored.linked.cites_of_revision found,
        fun dependent member => sourcesStored.linked.cites_of_planned member⟩
  have pruned := sourcesStored.linked.deactivate plan.deactivatedDerivationIds
  have dependentsRetired := pruned.trans (pruned.linked.retireAll (fun dependent member =>
    (dependentsCite dependent (mem_filter.mp member).1).mono pruned.retains) retires)
  have ineligible := dependentsRetired.trans
    (dependentsRetired.linked.invalidateEligibility expected false)
  have predecessorLineage := (stateOf_assertionWith predecessorMade).lineage
  have predecessorPublished := ineligible.trans (ineligible.linked.writeRevision (by
    rw [predecessorLineage]
    exact predecessorCites.mono ineligible.retains) predecessorWritten)
  have replacementLineage : replacementState.lineage = replacement.lineage := by
    rw [Assertion.fromMapping_eq_ok replacementMade]
  have published := sourcesStored.trans (predecessorPublished.trans
    (predecessorPublished.linked.writeRevision (by
      rw [replacementLineage]
      exact (cites_of_validateLineage validated).mono predecessorPublished.retains)
      replacementWritten))
  have announced : SameTables (replacementStore.setCurrent replacementState)
      ((((replacementStore.setCurrent replacementState).advanceGeneration).event
        (supply.eventUuid4 0) predecessorState "superseded" false).event (supply.eventUuid4 1)
          replacementState "accepted" true) := ⟨rfl, rfl, rfl⟩
  exact published.trans ((announced.trans (sameTables_events _ _ _ _ _)).relinks published.linked)

theorem Linked.restore {result : SupersessionResult D}
    (restored : store.restore supply expected replacement sources expectedGeneration =
      .ok (after, result)) : Relinks store after := by
  unfold Store.restore at restored
  obtain ⟨source, _, restored⟩ := bind_eq_ok.mp restored
  split_ifs at restored with _ accepted
  · obtain ⟨_, _, restored⟩ := bind_eq_ok.mp restored
    cases restored
  obtain ⟨predecessor, _, restored⟩ := bind_eq_ok.mp restored
  obtain ⟨sourced, stored, restored⟩ := bind_eq_ok.mp restored
  obtain ⟨_, validated, restored⟩ := bind_eq_ok.mp restored
  obtain ⟨replacementState, made, restored⟩ := bind_eq_ok.mp restored
  obtain ⟨middle, written, restored⟩ := bind_eq_ok.mp restored
  cases restored
  have sourcesStored := (sameTables_storeSources stored).relinks linked
  have lineage : replacementState.lineage = replacement.lineage := by
    rw [Assertion.fromMapping_eq_ok made]
  have published := sourcesStored.trans (sourcesStored.linked.writeRevision (by
    rw [lineage]
    exact cites_of_validateLineage validated) written)
  have announced : SameTables (middle.setCurrent replacementState)
      (((middle.setCurrent replacementState).advanceGeneration).event (supply.eventUuid4 0)
        replacementState "accepted" true) := ⟨rfl, rfl, rfl⟩
  exact published.trans (announced.relinks published.linked)

theorem Linked.of_getAssertion {current : Assertion D}
    (found : store.getAssertion assertionId = some current) :
    ∃ row, store.revisions.row current.revisionId = some row ∧
      row.assertion.assertionId = assertionId := by
  unfold getAssertion at found
  obtain ⟨located, _⟩ := filter_eq_some_iff.mp found
  obtain ⟨owner, _, _, stored⟩ := linked.of_current located
  exact ⟨_, stored, owner⟩

theorem Linked.premiseRevisions {premises : List D.AssertionId} {revisionIds : List D.RevisionId}
    (resolved : store.premiseRevisions premises =
      .ok revisionIds) : ∀ input ∈ revisionIds, store.revisions.row input ≠ none := by
  unfold Store.premiseRevisions at resolved
  induction premises generalizing revisionIds with
  | nil =>
    cases resolved
    intro input named
    cases named
  | cons premise premises ih =>
    rw [mapM_cons, bind_eq_ok] at resolved
    obtain ⟨revisionId, located, resolved⟩ := resolved
    obtain ⟨rest, later, resolved⟩ := bind_eq_ok.mp resolved
    cases resolved
    intro input named
    rcases mem_cons.mp named with same | member
    · subst same
      split at located
      · cases located
      · rename_i support found
        cases located
        obtain ⟨row, stored, _⟩ := linked.of_getAssertion found
        rw [stored]
        exact some_ne_none row
    · exact ih later input member

end

variable {profile : LedgerProfile D}

theorem Linked.writeActiveDerivation (linked : before.Linked)
    {revisionId : D.RevisionId} {derivation : D.Name × List D.AssertionId}
    (owned : ∃ row, before.revisions.row revisionId = some row ∧
      row.assertion.assertionId = assertionId)
    (written : before.writeActiveDerivation profile assertionId revisionId derivation =
      .ok after) : after.Linked ∧ after.revisions = before.revisions := by
  unfold Store.writeActiveDerivation at written
  obtain ⟨premises, resolved, written⟩ := bind_eq_ok.mp written
  split_ifs at written
  cases written
  refine ⟨⟨linked.keyed, linked.pointed, linked.headed, linked.cites, ?_, ?_, linked.founded⟩, rfl⟩
  · intro derivationId row stored
    rw [row_insert] at stored
    split_ifs at stored
    · cases stored
      exact owned
    · exact linked.concluded _ _ stored
  · intro derivationId row stored
    change (before.derivations.insert _ _).row derivationId = _ at stored
    rw [row_insert] at stored
    split_ifs at stored
    · cases stored
      exact linked.premiseRevisions resolved
    · exact linked.premised _ _ stored

theorem Linked.writeFactDerivations (linked : before.Linked) {fact : PublishedFact D}
    (written : before.writeFactDerivations profile fact = .ok after) :
    after.Linked ∧ after.revisions = before.revisions := by
  unfold Store.writeFactDerivations at written
  split at written
  · cases written
    exact ⟨linked, rfl⟩
  · rename_i current found
    split_ifs at written
    · cases written
      exact ⟨linked, rfl⟩
    · have kept : ∀ (first : Store D) derivation second, derivation ∈ fact.derivations →
          first.Linked ∧ first.revisions = before.revisions →
          first.writeActiveDerivation profile fact.assertionId current.revisionId derivation =
            .ok second → second.Linked ∧ second.revisions = before.revisions := by
        intro first derivation second _ valid stepped
        obtain ⟨next, same⟩ := valid.1.writeActiveDerivation (by
          rw [valid.2]
          exact linked.of_getAssertion found) stepped
        exact ⟨next, same.trans valid.2⟩
      exact foldlM_invariant kept ⟨linked, rfl⟩ written

theorem Linked.writeActiveDerivations (linked : store.Linked) {facts : List (PublishedFact D)}
    {replace : Bool} (recorded : store.writeActiveDerivations profile facts replace = .ok after) :
    Relinks store after := by
  unfold Store.writeActiveDerivations at recorded
  obtain ⟨last, folded, recorded⟩ := bind_eq_ok.mp recorded
  have replaced : Relinks store (if replace then
      { store with
        derivations := store.derivations.adjust fun _ derivation =>
          if derivation.profileKey = profile.key then { derivation with active := false }
          else derivation }
      else store) := by
    split_ifs
    · apply linked.adjustDerivations
      intro derivationId derivation
      split_ifs
      · exact ⟨false, rfl⟩
      · exact ⟨derivation.active, rfl⟩
    · exact linked.relinks
  have kept : ∀ (first : Store D) fact second,
      fact ∈ facts.insertionSort (·.assertionId ≤ ·.assertionId) → Relinks store first →
      first.writeFactDerivations profile fact = .ok second → Relinks store second := by
    intro first fact second _ valid stepped
    obtain ⟨next, same⟩ := valid.linked.writeFactDerivations stepped
    refine ⟨next, ?_⟩
    intro revisionId present
    rw [same]
    exact valid.retains revisionId present
  have written := foldlM_invariant kept replaced folded
  split_ifs at recorded
  · cases recorded
    have advanced : SameTables last last.advanceGeneration := ⟨rfl, rfl, rfl⟩
    exact written.trans (advanced.relinks written.linked)
  · cases recorded
    exact written

/-- **A mutation keeps the references and removes no revision.** -/
theorem Linked.commit (linked : before.Linked) {mutation : Mutation D}
    (committed : before.commit supply mutation = .ok after) : Relinks before after := by
  cases mutation with
  | putAssertion assertion sources expectedGeneration =>
    obtain ⟨result, put⟩ := map_fst_eq_ok committed
    obtain ⟨_, _, put⟩ := bind_eq_ok.mp put
    exact linked.putInitialAssertion put
  | publishInferredAssertion assertion =>
    obtain ⟨result, published⟩ := map_fst_eq_ok committed
    unfold publishInferredAssertion at published
    split_ifs at published
    obtain ⟨_, _, published⟩ := bind_eq_ok.mp published
    exact linked.putInitialAssertion published
  | reactivateInferred assertion =>
    obtain ⟨result, reactivated⟩ := map_fst_eq_ok committed
    exact linked.reactivateInferred reactivated
  | supersede expected replacement sources expectedGeneration =>
    obtain ⟨result, superseded⟩ := map_fst_eq_ok committed
    exact linked.supersede superseded
  | restore expected replacement sources expectedGeneration =>
    obtain ⟨result, restored⟩ := map_fst_eq_ok committed
    exact linked.restore restored
  | retract | delete | invalidateAssertionEligibility =>
    obtain ⟨root, terminal, last, result, located, _, withdrawn, same, _⟩ :=
      withdrawRoot_of_commit rfl committed
    have cites := linked.cites_of_current (expectedActiveCurrent_eq_ok located).1
    have withdrew := linked.withdrawRoot cites withdrawn
    exact withdrew.trans (same.relinks withdrew.linked)
  | quarantineForValidation assertionId expected =>
    obtain ⟨result, quarantined⟩ := map_fst_eq_ok committed
    obtain ⟨root, located, quarantined⟩ := bind_eq_ok.mp quarantined
    refine linked.quarantineCurrent ?_ quarantined
    intro other member
    rw [mem_singleton] at member
    exact member ▸ linked.cites_of_current (expectedActiveCurrent_eq_ok located).1
  | quarantineReportTargets targets =>
    obtain ⟨result, quarantined⟩ := map_fst_eq_ok committed
    obtain ⟨roots, located, quarantined⟩ := bind_eq_ok.mp quarantined
    refine linked.quarantineCurrent ?_ quarantined
    intro root member
    obtain ⟨assertionId, found⟩ := expectedActiveTargets_current located root member
    exact linked.cites_of_current found
  | writeActiveDerivations profile facts replace => exact linked.writeActiveDerivations committed

end Commands

end Store

end Kestrel.AssertionStore
