import Kestrel.Storage.Grounding

/-!
# The ledger write

Writing the proofs of a closure changes no revision and no pointer. It records every proof of
every published live conclusion, and leaves the proofs of unpublished conclusions as they were,
unless it replaces the profile's proofs.
-/

namespace Kestrel.AssertionStore

open List

variable {D : Domain}

namespace Store

variable {store before middle after : Store D} {profile : LedgerProfile D}
  {facts : List (PublishedFact D)}

def proofKey (profile : LedgerProfile D) (assertionId : D.AssertionId)
    (derivation : D.Name × List D.AssertionId) : D.DerivationId :=
  D.derivationId profile.key assertionId derivation.1 derivation.2

/-- The ledger holds a closure proof of the current revision of an assertion, as active. -/
def RecordsProof (profile : LedgerProfile D) (store : Store D) (assertionId : D.AssertionId)
    (derivation : D.Name × List D.AssertionId) : Prop :=
  ∃ current row, store.getAssertion assertionId = some current ∧
    store.premiseRevisions derivation.2 = .ok row.inputRevisionIds ∧
    store.derivations.row (proofKey profile assertionId derivation) = some row ∧
    row.active = true ∧ row.derivedAssertionId = assertionId ∧
    row.derivedRevisionId = current.revisionId ∧ row.profileKey = profile.key ∧
    row.ruleId = derivation.1

/-- The step changes only ledger rows that are, after it, recorded proofs of published
conclusions. -/
structure LedgerExtends (profile : LedgerProfile D) (published : Set D.AssertionId)
    (before after : Store D) : Prop where
  revisions : after.revisions = before.revisions
  currents : after.currents = before.currents
  rows : ∀ derivationId, after.derivations.row derivationId = before.derivations.row derivationId ∨
    ∃ assertionId ∈ published, ∃ derivation,
      derivationId = proofKey profile assertionId derivation ∧
        RecordsProof profile after assertionId derivation

theorem getAssertion_congr (revisions : after.revisions = before.revisions)
    (currents : after.currents = before.currents) (assertionId : D.AssertionId) :
    after.getAssertion assertionId = before.getAssertion assertionId := by
  unfold getAssertion Store.current currentRow
  rw [revisions, currents]

theorem premiseRevisions_congr (revisions : after.revisions = before.revisions)
    (currents : after.currents = before.currents) (premises : List D.AssertionId) :
    after.premiseRevisions premises = before.premiseRevisions premises := by
  unfold premiseRevisions
  simp only [getAssertion_congr revisions currents]

variable {published : Set D.AssertionId}

theorem LedgerExtends.refl (store : Store D) : LedgerExtends profile published store store :=
  ⟨rfl, rfl, fun _ => .inl rfl⟩

variable {assertionId : D.AssertionId} {derivation : D.Name × List D.AssertionId} {replace : Bool}

theorem RecordsProof.congr (recorded : RecordsProof profile before assertionId derivation)
    (revisions : after.revisions = before.revisions) (currents : after.currents = before.currents)
    (row : after.derivations.row (proofKey profile assertionId derivation) =
      before.derivations.row (proofKey profile assertionId derivation)) :
    RecordsProof profile after assertionId derivation := by
  obtain ⟨current, stored, found, premises, present, rest⟩ := recorded
  refine ⟨current, stored, ?_, ?_, ?_, rest⟩
  · rw [getAssertion_congr revisions currents]
    exact found
  · rw [premiseRevisions_congr revisions currents]
    exact premises
  · rw [row]
    exact present

theorem RecordsProof.extends (recorded : RecordsProof profile before assertionId derivation)
    (extend : LedgerExtends profile published before after) :
    RecordsProof profile after assertionId derivation := by
  rcases extend.rows (proofKey profile assertionId derivation) with
    same | ⟨other, _, rewritten, key, recorded'⟩
  · exact recorded.congr extend.revisions extend.currents same
  · obtain ⟨_, owner, rule, premises⟩ := D.derivationId_injective _ _ _ _ _ _ _ _ key
    have equal : derivation = rewritten := Prod.ext rule premises
    rw [owner, equal]
    exact recorded'

theorem LedgerExtends.trans (first : LedgerExtends profile published before middle)
    (second : LedgerExtends profile published middle after) :
    LedgerExtends profile published before after := by
  refine ⟨second.revisions.trans first.revisions, second.currents.trans first.currents, ?_⟩
  intro derivationId
  rcases second.rows derivationId with same | written
  · rcases first.rows derivationId with unchanged | ⟨assertionId, member, derivation, key, recorded⟩
    · exact .inl (same.trans unchanged)
    · exact .inr ⟨assertionId, member, derivation, key, recorded.extends second⟩
  · exact .inr written

theorem extends_writeActiveDerivation {current : Assertion D} (member : assertionId ∈ published)
    (found : before.getAssertion assertionId = some current)
    (written : before.writeActiveDerivation profile assertionId current.revisionId derivation =
      .ok after) :
    LedgerExtends profile published before after ∧
      RecordsProof profile after assertionId derivation := by
  unfold writeActiveDerivation at written
  obtain ⟨premises, resolved, written⟩ := Except.bind_eq_ok.mp written
  split_ifs at written
  cases written
  have recorded : RecordsProof profile { before with
        derivations := before.derivations.insert
          (D.derivationId profile.key assertionId derivation.1 derivation.2)
          { derivedAssertionId := assertionId
            derivedRevisionId := current.revisionId
            ruleId := derivation.1
            profileKey := profile.key
            ruleProfileVersion :=
              ((before.derivations.row (D.derivationId profile.key assertionId derivation.1
                derivation.2)).map (·.ruleProfileVersion)).getD profile.ruleProfileVersion
            inputRevisionIds := premises
            active := true } } assertionId derivation := by
    refine ⟨current, _, found, ?_, Table.row_insert_self _ _ _, rfl, rfl, rfl, rfl, rfl⟩
    exact resolved
  refine ⟨⟨rfl, rfl, ?_⟩, recorded⟩
  intro derivationId
  by_cases same : derivationId = D.derivationId profile.key assertionId derivation.1 derivation.2
  · exact .inr ⟨assertionId, member, derivation, same, recorded⟩
  · exact .inl (Table.row_insert_of_ne _ _ same)

theorem extends_writeFactDerivations {fact : PublishedFact D} (member : fact.assertionId ∈ published)
    (written : before.writeFactDerivations profile fact = .ok after) :
    LedgerExtends profile published before after ∧
      ∀ current, before.getAssertion fact.assertionId = some current →
        current.epistemicState = .inferred →
        ∀ derivation ∈ fact.derivations,
          RecordsProof profile after fact.assertionId derivation := by
  unfold writeFactDerivations at written
  split at written
  · rename_i absent
    cases written
    refine ⟨.refl _, ?_⟩
    intro current found
    rw [absent] at found
    cases found
  · rename_i current found
    split_ifs at written with other
    · cases written
      refine ⟨.refl _, ?_⟩
      intro present found' inferred
      rw [found] at found'
      cases found'
      exact absurd inferred other
    · have steps : ∀ derivation (start next : Store D),
          LedgerExtends profile published before start →
          start.writeActiveDerivation profile fact.assertionId current.revisionId derivation =
            .ok next → LedgerExtends profile published start next ∧
              RecordsProof profile next fact.assertionId derivation := by
        intro derivation start next reached step
        refine extends_writeActiveDerivation member ?_ step
        rw [getAssertion_congr reached.revisions reached.currents]
        exact found
      revert written
      generalize fact.derivations = derivations
      suffices run : ∀ start, LedgerExtends profile published before start → derivations.foldlM
              (writeActiveDerivation profile fact.assertionId current.revisionId) start =
            .ok after →
          LedgerExtends profile published start after ∧ ∀ derivation ∈ derivations,
            RecordsProof profile after fact.assertionId derivation by
        intro written
        obtain ⟨extend, recorded⟩ := run before (.refl before) written
        exact ⟨extend, fun _ _ _ => recorded⟩
      induction derivations with
      | nil =>
        intro start _ folded
        cases folded
        exact ⟨.refl _, fun _ impossible => by cases impossible⟩
      | cons derivation derivations ih =>
        intro start reached folded
        rw [foldlM_cons, Except.bind_eq_ok] at folded
        obtain ⟨next, step, folded⟩ := folded
        obtain ⟨extend, recorded⟩ := steps derivation start next reached step
        obtain ⟨later, others⟩ := ih next (reached.trans extend) folded
        refine ⟨extend.trans later, ?_⟩
        intro each listed
        rcases mem_cons.mp listed with rfl | listed
        · exact recorded.extends later
        · exact others each listed

def publishedAssertions (facts : List (PublishedFact D)) : Set D.AssertionId :=
  {assertionId | ∃ fact ∈ facts, fact.assertionId = assertionId}

theorem extends_writeFacts (subset : ∀ fact ∈ facts, fact.assertionId ∈ published)
    (written : facts.foldlM (writeFactDerivations profile) before = .ok after) :
    LedgerExtends profile published before after ∧
      ∀ fact ∈ facts, ∀ current, before.getAssertion fact.assertionId = some current →
        current.epistemicState = .inferred →
        ∀ derivation ∈ fact.derivations,
          RecordsProof profile after fact.assertionId derivation := by
  induction facts generalizing before with
  | nil =>
    cases written
    exact ⟨.refl _, fun _ impossible => by cases impossible⟩
  | cons fact facts ih =>
    rw [foldlM_cons, Except.bind_eq_ok] at written
    obtain ⟨next, step, written⟩ := written
    obtain ⟨extend, recorded⟩ := extends_writeFactDerivations (subset fact mem_cons_self) step
    obtain ⟨later, others⟩ := ih
      (fun other listed => subset other (mem_cons_of_mem _ listed)) written
    refine ⟨extend.trans later, ?_⟩
    intro each listed current found inferred derivation member
    rcases mem_cons.mp listed with rfl | listed
    · exact (recorded current found inferred derivation member).extends later
    · refine others each listed current ?_ inferred derivation member
      rw [getAssertion_congr extend.revisions extend.currents]
      exact found

theorem Coherent.getAssertion_of_live (coherent : store.Coherent) {assertion : Assertion D}
    (live : store.Live assertion) : store.getAssertion assertion.assertionId = some assertion := by
  have stored := coherent.live_iff.mp live
  have pointer := coherent.current _ _ stored rfl
  have active := coherent.active_of_live live
  unfold getAssertion Store.current currentRow
  rw [pointer, Option.bind_some, stored, Option.map_some, Option.filter_some, active]
  rfl

theorem Coherent.of_getAssertion (coherent : store.Coherent) {assertion : Assertion D}
    (found : store.getAssertion assertionId = some assertion) :
    assertion.assertionId = assertionId ∧
      ∃ eligible, store.revisions.row assertion.revisionId = some ⟨assertion, eligible⟩ := by
  unfold getAssertion at found
  obtain ⟨owner, _, stored⟩ := coherent.of_current (Option.filter_eq_some_iff.mp found).1
  exact ⟨owner, stored⟩

theorem LedgerExtends.coherent (extend : LedgerExtends profile published before after)
    (coherent : before.Coherent) : after.Coherent := by
  have rows : ∀ derivationId derivation, after.derivations.row derivationId = some derivation →
      (∃ row, before.revisions.row derivation.derivedRevisionId = some row ∧
        row.assertion.assertionId = derivation.derivedAssertionId) ∧
      ∃ premises, derivationId = D.derivationId derivation.profileKey
        derivation.derivedAssertionId derivation.ruleId premises := by
    intro derivationId derivation stored
    rcases extend.rows derivationId with same | ⟨assertionId, _, proof, key, recorded⟩
    · rw [same] at stored
      exact ⟨coherent.concluded _ _ stored, coherent.ledgerKeyed _ _ stored⟩
    · obtain ⟨current, row, found, _, present, _, owner, concludes, profileKey, rule⟩ := recorded
      rw [← key, stored] at present
      cases present
      rw [getAssertion_congr extend.revisions extend.currents] at found
      obtain ⟨same, eligible, row⟩ := coherent.of_getAssertion found
      refine ⟨⟨_, by rw [concludes]; exact row, by rw [owner]; exact same⟩, proof.2, ?_⟩
      rw [profileKey, owner, rule]
      exact key
  refine ⟨?_, ?_, ?_, ?_, ?_, fun derivationId derivation stored =>
    (rows derivationId derivation stored).2⟩
  · rw [extend.revisions]
    exact coherent.keyed
  · rw [extend.revisions, extend.currents]
    exact coherent.pointed
  · rw [extend.revisions]
    exact coherent.active
  · rw [extend.revisions, extend.currents]
    exact coherent.current
  · intro derivationId derivation stored
    rw [extend.revisions]
    exact (rows derivationId derivation stored).1

/-- A recorded closure proof of a live derived conclusion, over the current revisions of its
premises. -/
def ClosureProof (store : Store D) (facts : List (PublishedFact D))
    (premises : List D.RevisionId) (revisionId : D.RevisionId) : Prop :=
  ∃ fact ∈ facts, ∃ derivation ∈ fact.derivations, ∃ assertion, store.Live assertion ∧
    assertion.lineage.isDirect = false ∧ assertion.assertionId = fact.assertionId ∧
    assertion.revisionId = revisionId ∧ premises ≠ [] ∧
    store.premiseRevisions derivation.2 = .ok premises

/-- What a ledger write does not check: that the published closure derives each of its live
conclusions from live direct revisions, and that a replacement publishes every live conclusion
whose proofs it deactivates. -/
structure LedgerWriteSafe (store : Store D) (profile : LedgerProfile D)
    (facts : List (PublishedFact D)) (replace : Bool) : Prop where
  derives : ∀ assertion, store.Live assertion → assertion.lineage.isDirect = false →
    assertion.assertionId ∈ publishedAssertions facts →
    Horn.Derives (store.ClosureProof facts) (store.DirectSupport ∅) assertion.revisionId
  publishes : replace = true → ∀ assertion, store.Live assertion →
    ∀ derivationId derivation, store.derivations.row derivationId = some derivation →
      derivation.active = true → derivation.profileKey = profile.key →
      derivation.derivedRevisionId = assertion.revisionId →
      assertion.assertionId ∈ publishedAssertions facts

/-- The ledger after the deactivation that a replacing write starts with. -/
structure Replaced (profile : LedgerProfile D) (replace : Bool) (before after : Store D) :
    Prop where
  revisions : after.revisions = before.revisions
  currents : after.currents = before.currents
  rows : ∀ derivationId derivation, before.derivations.row derivationId = some derivation →
    ¬ (replace = true ∧ derivation.profileKey = profile.key) →
    after.derivations.row derivationId = some derivation
  history : ∀ revisionId, after.HasLedgerHistory revisionId ↔ before.HasLedgerHistory revisionId
  coherent : before.Coherent → after.Coherent

theorem replaced_adjust : Replaced profile replace store (if replace then
      { store with
        derivations := store.derivations.adjust fun _ derivation =>
          if derivation.profileKey = profile.key then { derivation with active := false }
          else derivation }
      else store) := by
  cases replace with
  | false =>
    exact ⟨rfl, rfl, fun _ _ stored _ => stored, fun _ => Iff.rfl, fun coherent => coherent⟩
  | true =>
    refine ⟨rfl, rfl, ?_, ?_, ?_⟩
    · intro derivationId derivation stored outside
      change (store.derivations.row derivationId).map _ = _
      have other : derivation.profileKey ≠ profile.key := fun same => outside ⟨rfl, same⟩
      rw [stored, Option.map_some]
      dsimp only
      rw [if_neg other]
    · intro revisionId
      apply hasLedgerHistory_adjust
      intro derivationId derivation
      split_ifs <;> rfl
    · intro coherent
      apply coherent.adjust
      intro derivationId derivation
      split_ifs
      · exact ⟨false, rfl⟩
      · exact ⟨derivation.active, rfl⟩

theorem survives_writeFacts (coherent : before.Coherent)
    (safe : before.LedgerWriteSafe profile facts replace)
    (replaced : Replaced profile replace before middle)
    (extend : LedgerExtends profile (publishedAssertions facts) middle after)
    (recorded : ∀ fact ∈ facts, ∀ current, middle.getAssertion fact.assertionId = some current →
      current.epistemicState = .inferred → ∀ derivation ∈ fact.derivations,
        RecordsProof profile after fact.assertionId derivation) {revisionId : D.RevisionId}
    (survives : before.Survives ∅ revisionId) :
    after.Survives ∅ revisionId := by
  have revisions := extend.revisions.trans replaced.revisions
  have currents := extend.currents.trans replaced.currents
  have live : ∀ assertion, before.Live assertion → after.Live assertion := by
    intro assertion lives
    unfold Live currentActiveEligibleRows currentRows
    rw [revisions, currents]
    exact lives
  have bases : before.DirectSupport ∅ ⊆ after.DirectSupport ∅ := by
    intro each member
    obtain ⟨outside, assertion, lives, direct, same⟩ := member
    exact ⟨outside, assertion, live assertion lives, direct, same⟩
  -- A closure proof is recorded, so it supports its conclusion after the write.
  have closure : ∀ premises each, before.ClosureProof facts premises each →
      after.Supports ∅ premises each := by
    intro premises each proof
    obtain ⟨fact, listed, derivation, member, assertion, lives, derived, owner, rfl, nonempty,
      resolved⟩ := proof
    have found : middle.getAssertion fact.assertionId = some assertion := by
      rw [getAssertion_congr replaced.revisions replaced.currents, ← owner]
      exact coherent.getAssertion_of_live lives
    obtain ⟨current, row, located, inputs, present, active, _, concludes, _⟩ :=
      recorded fact listed assertion found
        (assertion.inferred_of_derived (coherent.active_of_live lives) derived) derivation member
    rw [getAssertion_congr extend.revisions extend.currents, found] at located
    cases located
    rw [premiseRevisions_congr revisions currents, resolved] at inputs
    exact ⟨Set.notMem_empty _, nonempty, assertion, live assertion lives, derived, rfl,
      .inl ⟨_, row, present, active, concludes, (Except.ok.inj inputs).symm⟩⟩
  induction survives with
  | base member => exact .base (bases member)
  | @rule premises conclusion supports _ ih =>
    obtain ⟨_, nonempty, assertion, lives, derived, rfl, proof⟩ := supports
    have stored := coherent.live_iff.mp lives
    by_cases publication : assertion.assertionId ∈ publishedAssertions facts
    · exact (safe.derives assertion lives derived publication).mono bases closure
    · refine .rule ⟨Set.notMem_empty _, nonempty, assertion, live assertion lives, derived, rfl,
        ?_⟩ ih
      rcases proof with ⟨derivationId, derivation, present, active, concludes, inputs⟩ |
        ⟨unrecorded, inputs⟩
      · left
        have owner : assertion.assertionId = derivation.derivedAssertionId := by
          obtain ⟨row, located, same⟩ := coherent.concluded _ _ present
          rw [concludes, stored] at located
          cases located
          exact same
        have spared := replaced.rows derivationId derivation present (fun deactivated =>
          publication (safe.publishes deactivated.1 assertion lives derivationId derivation
            present active deactivated.2 concludes))
        refine ⟨derivationId, derivation, ?_, active, concludes, inputs⟩
        rcases extend.rows derivationId with same | ⟨other, member, proof, key, _⟩
        · rw [same]
          exact spared
        · obtain ⟨listed, known⟩ := coherent.ledgerKeyed _ _ present
          rw [known] at key
          obtain ⟨_, same, _⟩ := D.derivationId_injective _ _ _ _ _ _ _ _ key
          rw [owner, same] at publication
          exact absurd member publication
      · right
        refine ⟨?_, inputs⟩
        intro history
        obtain ⟨derivationId, derivation, present, concludes⟩ := history
        rcases extend.rows derivationId with same | ⟨other, member, proof, key, written⟩
        · rw [same] at present
          exact unrecorded ((replaced.history _).mp ⟨derivationId, derivation, present, concludes⟩)
        · obtain ⟨current, row, found, _, located, _, _, derives, _⟩ := written
          rw [← key, present] at located
          cases located
          rw [getAssertion_congr revisions currents] at found
          obtain ⟨owner, eligible, row⟩ := coherent.of_getAssertion found
          rw [← derives, concludes, stored] at row
          have equal := congrArg (·.assertion) (Option.some.inj row)
          dsimp only at equal
          rw [equal, owner] at publication
          exact publication member

theorem grounded_writeActiveDerivations (coherent : store.Coherent) (grounded : store.Grounded)
    (safe : store.LedgerWriteSafe profile facts replace)
    (written : store.writeActiveDerivations profile facts replace = .ok after) :
    after.Coherent ∧ after.Grounded := by
  unfold writeActiveDerivations at written
  obtain ⟨extended, folded, written⟩ := Except.bind_eq_ok.mp written
  have replaced : Replaced profile replace store _ := replaced_adjust
  obtain ⟨extend, recorded⟩ : LedgerExtends profile (publishedAssertions facts) _ extended ∧ _ :=
    extends_writeFacts (fun fact listed =>
      ⟨fact, (mem_insertionSort _).mp listed, rfl⟩) folded
  have coherent' := extend.coherent (replaced.coherent coherent)
  have grounded' : extended.Grounded := by
    intro assertion lives derived
    apply survives_writeFacts coherent safe replaced extend
    · exact fun fact listed => recorded fact ((mem_insertionSort _).mpr listed)
    · refine grounded assertion ?_ derived
      unfold Live currentActiveEligibleRows currentRows at lives ⊢
      rw [extend.revisions, extend.currents, replaced.revisions, replaced.currents] at lives
      exact lives
  split_ifs at written
  · cases written
    have same : SameTables extended extended.advanceGeneration := ⟨rfl, rfl, rfl⟩
    exact ⟨same.coherent coherent', same.grounded grounded'⟩
  · cases written
    exact ⟨coherent', grounded'⟩

end Store

end Kestrel.AssertionStore
