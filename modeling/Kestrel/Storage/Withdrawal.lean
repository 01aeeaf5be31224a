import Kestrel.Storage.Coherence

/-!
# What a withdrawal does to the live revisions

Each table operation of a withdrawal keeps the tables coherent, removes known revisions from
the live ones, and leaves a known set of ledger proofs alone.
-/

namespace Kestrel.AssertionStore

open List Option Table

variable {D : Domain}

/-- None of the identifiers a mutation is still to draw is a stored revision. -/
def Supply.FreshFrom (supply : Supply D) (draw : ℕ) (store : Store D) : Prop :=
  ∀ later, draw ≤ later → store.revisions.row (supply.uuid4 later) = none

namespace Store

variable {store before middle after : Store D}

/-- Insert a revision and make it current. -/
def appendRevision (store : Store D) (assertion : Assertion D) : Store D :=
  { store with
    revisions := store.revisions.insert assertion.revisionId
      ⟨assertion, assertion.status = .active⟩
    currents := store.currents.insert assertion.assertionId assertion.revisionId }

/-- No revision of the identity is live. -/
def Vacant (store : Store D) (assertionId : D.AssertionId) : Prop :=
  ∀ assertion, store.Live assertion → assertion.assertionId ≠ assertionId

/-- The step keeps the tables coherent, removes exactly the named revisions from the live ones,
leaves the kept ledger proofs alone, activates no proof and changes no ledger history. -/
structure Withdraws (kept : Set D.DerivationId) (removed : Set D.RevisionId)
    (before after : Store D) : Prop where
  coherent : after.Coherent
  live : ∀ assertion, after.Live assertion ↔
    before.Live assertion ∧ assertion.revisionId ∉ removed
  proofs : ∀ derivationId ∈ kept,
    after.derivations.row derivationId = before.derivations.row derivationId
  inherited : ∀ derivationId derivation, after.derivations.row derivationId = some derivation →
    derivation.active = true → before.derivations.row derivationId = some derivation
  history : ∀ revisionId, after.HasLedgerHistory revisionId ↔ before.HasLedgerHistory revisionId

variable {kept : Set D.DerivationId} {removed further : Set D.RevisionId}

theorem Withdraws.refl (coherent : store.Coherent) : Withdraws kept ∅ store store where
  coherent := coherent
  live := fun _ => by simp only [Set.mem_empty_iff_false, not_false_eq_true, and_true]
  proofs := fun _ _ => rfl
  inherited := fun _ _ stored _ => stored
  history := fun _ => Iff.rfl

theorem Withdraws.trans (first : Withdraws kept removed before middle)
    (second : Withdraws kept further middle after) :
    Withdraws kept (removed ∪ further) before after where
  coherent := second.coherent
  live := fun assertion => by
    rw [second.live, first.live, Set.mem_union, not_or, and_assoc]
  proofs := fun derivationId member =>
    (second.proofs derivationId member).trans (first.proofs derivationId member)
  inherited := fun derivationId derivation stored active =>
    first.inherited derivationId derivation
      (second.inherited derivationId derivation stored active) active
  history := fun revisionId => (second.history revisionId).trans (first.history revisionId)

theorem Withdraws.congr (step : Withdraws kept removed before after)
    (same : ∀ assertion, before.Live assertion →
      (assertion.revisionId ∈ removed ↔ assertion.revisionId ∈ further)) :
    Withdraws kept further before after where
  coherent := step.coherent
  live := fun assertion => by
    rw [step.live]
    exact and_congr_right fun live => not_congr (same assertion live)
  proofs := step.proofs
  inherited := step.inherited
  history := step.history

section Deactivation

theorem hasLedgerHistory_adjust {change : D.DerivationId → Derivation D → Derivation D}
    (concludes : ∀ derivationId derivation,
      (change derivationId derivation).derivedRevisionId = derivation.derivedRevisionId)
    {revisionId : D.RevisionId} :
    ({ store with derivations := store.derivations.adjust change } : Store D).HasLedgerHistory
      revisionId ↔ store.HasLedgerHistory revisionId := by
  unfold HasLedgerHistory
  simp only [row_adjust]
  constructor
  · intro found
    obtain ⟨derivationId, _, stored, same⟩ := found
    obtain ⟨derivation, original, rfl⟩ := map_eq_some_iff.mp stored
    exact ⟨derivationId, derivation, original, (concludes _ _).symm.trans same⟩
  · intro found
    obtain ⟨derivationId, derivation, stored, same⟩ := found
    exact ⟨derivationId, change derivationId derivation, by rw [stored]; rfl,
      (concludes _ _).trans same⟩

theorem Coherent.adjust (coherent : store.Coherent)
    {change : D.DerivationId → Derivation D → Derivation D}
    (flags : ∀ derivationId derivation, ∃ active,
      change derivationId derivation = { derivation with active := active }) :
    ({ store with derivations := store.derivations.adjust change } : Store D).Coherent where
  keyed := coherent.keyed
  pointed := coherent.pointed
  active := coherent.active
  current := coherent.current
  concluded := by
    intro derivationId _ stored
    obtain ⟨derivation, original, rfl⟩ := map_eq_some_iff.mp stored
    obtain ⟨active, same⟩ := flags derivationId derivation
    rw [same]
    exact coherent.concluded derivationId derivation original
  ledgerKeyed := by
    intro derivationId _ stored
    obtain ⟨derivation, original, rfl⟩ := map_eq_some_iff.mp stored
    obtain ⟨active, same⟩ := flags derivationId derivation
    rw [same]
    exact coherent.ledgerKeyed derivationId derivation original

theorem withdraws_deactivateInferenceDerivationIds (coherent : store.Coherent)
    {derivationIds : List D.DerivationId}
    (spared : ∀ derivationId ∈ kept, derivationId ∉ derivationIds) :
    Withdraws kept ∅ store (store.deactivateInferenceDerivationIds derivationIds) where
  coherent := by
    apply coherent.adjust
    intro derivationId derivation
    split_ifs
    · exact ⟨false, rfl⟩
    · exact ⟨derivation.active, rfl⟩
  live := fun assertion => by
    change store.Live assertion ↔ _
    simp only [Set.mem_empty_iff_false, not_false_eq_true, and_true]
  proofs := fun derivationId member => by
    change (store.derivations.row derivationId).map _ = _
    simp only [spared derivationId member, ↓reduceIte, Option.map_id']
  inherited := by
    intro derivationId derivation stored active
    obtain ⟨original, found, same⟩ := map_eq_some_iff.mp stored
    dsimp only at same
    split_ifs at same
    · subst same
      cases active
    · exact same ▸ found
  history := by
    intro revisionId
    apply hasLedgerHistory_adjust
    intro derivationId derivation
    split_ifs <;> rfl

theorem withdraws_deactivateForInputs (coherent : store.Coherent) {revisionIds : List D.RevisionId}
    (spared : ∀ derivationId ∈ kept, ∀ derivation,
      store.derivations.row derivationId = some derivation →
      ∀ input ∈ derivation.inputRevisionIds, input ∉ revisionIds) :
    Withdraws kept ∅ store (store.deactivateInferenceDerivationsForInputs revisionIds) := by
  unfold deactivateInferenceDerivationsForInputs
  apply withdraws_deactivateInferenceDerivationIds coherent
  intro derivationId member listed
  obtain ⟨⟨_, derivation⟩, selected, rfl⟩ := List.mem_map.mp listed
  obtain ⟨stored, named⟩ := List.mem_filter.mp selected
  rw [Bool.and_eq_true, List.any_eq_true] at named
  obtain ⟨_, input, each, withdrawn⟩ := named
  exact spared _ member derivation (mem_rows.mp stored) input each (of_decide_eq_true withdrawn)

end Deactivation

section Invalidation

theorem withdraws_ineligible (coherent : store.Coherent) (revisionId : D.RevisionId) :
    Withdraws kept {revisionId} store { store with
        revisions := store.revisions.adjust fun storedId row =>
          if storedId = revisionId then { row with eligible := false } else row } := by
  have assertions : ∀ storedId (row : RevisionRow D),
      (if storedId = revisionId then { row with eligible := false } else row).assertion =
        row.assertion := by
    intro storedId row
    split_ifs <;> rfl
  have narrower : ∀ storedId (row : RevisionRow D),
      (if storedId = revisionId then { row with eligible := false } else row).eligible = true →
        storedId ≠ revisionId ∧ row.eligible = true := by
    intro storedId row eligible
    split_ifs at eligible with same
    exact ⟨same, eligible⟩
  have result : ({ store with
      revisions := store.revisions.adjust fun storedId row =>
        if storedId = revisionId then { row with eligible := false } else row } :
      Store D).Coherent := by
    refine ⟨?_, ?_, ?_, ?_, ?_, coherent.ledgerKeyed⟩
    · intro storedId _ stored
      obtain ⟨row, original, rfl⟩ := map_eq_some_iff.mp stored
      rw [assertions]
      exact coherent.keyed _ _ original
    · intro assertionId pointer pointed
      obtain ⟨row, stored, owner⟩ := coherent.pointed _ _ pointed
      exact ⟨_, by rw [row_adjust, stored]; rfl, by rw [assertions]; exact owner⟩
    · intro storedId _ stored eligible
      obtain ⟨row, original, rfl⟩ := map_eq_some_iff.mp stored
      rw [assertions]
      exact coherent.active _ _ original (narrower storedId row eligible).2
    · intro storedId _ stored eligible
      obtain ⟨row, original, rfl⟩ := map_eq_some_iff.mp stored
      rw [assertions]
      exact coherent.current _ _ original (narrower storedId row eligible).2
    · intro derivationId derivation stored
      obtain ⟨row, stored, owner⟩ := coherent.concluded _ _ stored
      exact ⟨_, by rw [row_adjust, stored]; rfl, by rw [assertions]; exact owner⟩
  refine ⟨result, ?_, fun _ _ => rfl, fun _ _ stored _ => stored, fun _ => Iff.rfl⟩
  intro assertion
  rw [result.live_iff, coherent.live_iff, row_adjust, Set.mem_singleton_iff]
  constructor
  · intro stored
    obtain ⟨row, original, same⟩ := map_eq_some_iff.mp stored
    have eligible : (if assertion.revisionId = revisionId then { row with eligible := false }
        else row).eligible = true := by rw [same]
    obtain ⟨outside, _⟩ := narrower _ _ eligible
    rw [if_neg outside] at same
    rw [original, same]
    exact ⟨rfl, outside⟩
  · intro found
    rw [found.1, map_some, if_neg found.2]

theorem withdraws_invalidateEligibility (coherent : store.Coherent) (revisionId : D.RevisionId)
    (flag : Bool)
    (spared : flag = true → ∀ derivationId ∈ kept, ∀ derivation,
      store.derivations.row derivationId = some derivation →
      revisionId ∉ derivation.inputRevisionIds) :
    Withdraws kept {revisionId} store (store.invalidateEligibility revisionId flag) := by
  have first : Withdraws kept {revisionId} store _ := withdraws_ineligible coherent revisionId
  cases flag with
  | false => exact first
  | true =>
    refine (first.trans (withdraws_deactivateForInputs first.coherent ?_)).congr ?_
    · intro derivationId member derivation stored input each named
      rw [mem_singleton] at named
      subst named
      exact spared rfl derivationId member derivation stored each
    · intro assertion _
      rw [Set.union_empty]

end Invalidation

section Append

variable {assertion item state : Assertion D} {supply : Supply D} {draw : ℕ}

theorem Coherent.appendRevision (coherent : store.Coherent)
    (fresh : store.revisions.row assertion.revisionId = none)
    (vacant : store.Vacant assertion.assertionId) : (store.appendRevision assertion).Coherent := by
  have distinct : ∀ revisionId row, store.revisions.row revisionId = some row →
      revisionId ≠ assertion.revisionId := by
    intro revisionId row stored same
    rw [same, fresh] at stored
    cases stored
  have older : ∀ revisionId row, store.revisions.row revisionId = some row →
      (store.appendRevision assertion).revisions.row revisionId = some row := by
    intro revisionId row stored
    exact (row_insert_of_ne _ _ (distinct _ _ stored)).trans stored
  refine ⟨?_, ?_, ?_, ?_, ?_, coherent.ledgerKeyed⟩
  · intro revisionId row stored
    change (store.revisions.insert _ _).row revisionId = _ at stored
    rw [row_insert] at stored
    split_ifs at stored with same
    · cases stored
      exact same.symm
    · exact coherent.keyed _ _ stored
  · intro assertionId revisionId pointed
    change (store.currents.insert _ _).row assertionId = _ at pointed
    rw [row_insert] at pointed
    split_ifs at pointed with same
    · cases pointed
      exact ⟨_, row_insert_self _ _ _, same.symm⟩
    · obtain ⟨row, stored, owner⟩ := coherent.pointed _ _ pointed
      exact ⟨row, older _ _ stored, owner⟩
  · intro revisionId row stored eligible
    change (store.revisions.insert _ _).row revisionId = _ at stored
    rw [row_insert] at stored
    split_ifs at stored with same
    · cases stored
      exact of_decide_eq_true eligible
    · exact coherent.active _ _ stored eligible
  · intro revisionId row stored eligible
    change (store.revisions.insert _ _).row revisionId = _ at stored
    change (store.currents.insert _ _).row row.assertion.assertionId = _
    rw [row_insert] at stored
    split_ifs at stored with same
    · cases stored
      rw [same]
      exact row_insert_self _ _ _
    · have live : store.Live row.assertion := by
        rw [coherent.live_iff, coherent.keyed _ _ stored, stored, ← eligible]
      rw [row_insert_of_ne _ _ (vacant _ live)]
      exact coherent.current _ _ stored eligible
  · intro derivationId derivation stored
    obtain ⟨row, stored, owner⟩ := coherent.concluded _ _ stored
    exact ⟨row, older _ _ stored, owner⟩

theorem Coherent.live_appendRevision (coherent : store.Coherent)
    (fresh : store.revisions.row assertion.revisionId = none)
    (vacant : store.Vacant assertion.assertionId) {other : Assertion D} :
    (store.appendRevision assertion).Live other ↔
      store.Live other ∨ other = assertion ∧ assertion.status = .active := by
  rw [(coherent.appendRevision fresh vacant).live_iff, coherent.live_iff]
  change (store.revisions.insert _ _).row other.revisionId = _ ↔ _
  rw [row_insert]
  split_ifs with same
  · rw [same, fresh, Option.some.injEq, RevisionRow.mk.injEq, decide_eq_true_eq]
    constructor
    · intro found
      exact .inr ⟨found.1.symm, found.2⟩
    · intro found
      rcases found with impossible | new
      · cases impossible
      · exact ⟨new.1.symm, new.2⟩
  · constructor
    · exact .inl
    · intro found
      rcases found with stored | new
      · exact stored
      · exact absurd (congrArg (·.revisionId) new.1) same

theorem withdraws_appendRevision (coherent : store.Coherent)
    (fresh : store.revisions.row assertion.revisionId = none)
    (vacant : store.Vacant assertion.assertionId) (inactive : assertion.status ≠ .active) :
    Withdraws kept ∅ store (store.appendRevision assertion) where
  coherent := coherent.appendRevision fresh vacant
  live := fun other => by
    rw [coherent.live_appendRevision fresh vacant]
    simp only [inactive, and_false, or_false, Set.mem_empty_iff_false, not_false_eq_true, and_true]
  proofs := fun _ _ => rfl
  inherited := fun _ _ stored _ => stored
  history := fun _ => Iff.rfl

theorem setCurrent_of_writeRevision (fresh : store.revisions.row assertion.revisionId = none)
    (written : store.writeRevision assertion = .ok after) :
    after.setCurrent assertion = store.appendRevision assertion := by
  unfold writeRevision at written
  rw [fresh] at written
  cases written
  rfl

/-- The state a lifecycle transition writes. -/
structure StateOf (supply : Supply D) (draw : ℕ) (item : Assertion D) (status : AssertionStatus)
    (state : Assertion D) : Prop where
  revisionId : state.revisionId = supply.uuid4 draw
  status : state.status = status
  content : state.content = item.content
  lineage : state.lineage = item.lineage

variable {status : AssertionStatus}

theorem StateOf.assertionId (written : StateOf supply draw item status state)
    : state.assertionId = item.assertionId := by
  unfold Assertion.assertionId
  rw [written.content]

variable {supersedesRevisionId : Option D.RevisionId} {epistemicState : Option EpistemicState}

theorem stateOf_assertionWith
    (made : assertionWith item (supply.uuid4 draw) (supply.now draw) status supersedesRevisionId
      epistemicState = .ok state) : StateOf supply draw item status state := by
  have fields := Assertion.fromMapping_eq_ok made
  exact ⟨by rw [fields], by rw [fields], by rw [fields], by rw [fields]⟩

theorem writeState_eq (fresh : supply.FreshFrom draw store)
    (written : store.writeState supply draw item status supersedesRevisionId epistemicState =
      .ok (after, state)) :
    after = store.appendRevision state ∧ StateOf supply draw item status state := by
  unfold writeState at written
  obtain ⟨made, state_made, written⟩ := Except.bind_eq_ok.mp written
  obtain ⟨middle, stored, written⟩ := Except.bind_eq_ok.mp written
  cases written
  have described := stateOf_assertionWith state_made
  refine ⟨setCurrent_of_writeRevision ?_ stored, described⟩
  rw [described.revisionId]
  exact fresh draw (le_refl draw)

theorem freshFrom_appendRevision (fresh : supply.FreshFrom draw store)
    (drawn : state.revisionId = supply.uuid4 draw) :
    supply.FreshFrom (draw + 1) (store.appendRevision state) := by
  intro later after
  change (store.revisions.insert _ _).row _ = none
  rw [row_insert_of_ne]
  · exact fresh later (by omega)
  · rw [drawn]
    intro same
    have := supply.uuid4_injective same
    omega

theorem freshFrom_invalidateEligibility (fresh : supply.FreshFrom draw store)
    (revisionId : D.RevisionId) (flag : Bool) :
    supply.FreshFrom draw (store.invalidateEligibility revisionId flag) := by
  intro later after
  have absent := fresh later after
  cases flag with
  | false | true =>
    change (store.revisions.row _).map _ = none
    rw [absent, map_none]

end Append

section Retirement

variable {supply : Supply D} {item state : Assertion D} {items states : List (Assertion D)}
  {draw : ℕ} {flag : Bool} {status : AssertionStatus} {epistemicState : Option EpistemicState}

/-- The only live revision of the item's identity, if any, is the item's. -/
def Owns (store : Store D) (item : Assertion D) : Prop :=
  ∀ other, store.Live other → other.assertionId = item.assertionId →
    other.revisionId = item.revisionId

theorem Coherent.owns_of_live (coherent : store.Coherent) (live : store.Live item) :
    store.Owns item :=
  fun _ other same => congrArg (·.revisionId) (coherent.live_unique other live same)

theorem Coherent.owns_of_current (coherent : store.Coherent) {assertionId : D.AssertionId}
    (found : store.current assertionId = some item) : store.Owns item := by
  obtain ⟨owner, pointer, _⟩ := coherent.of_current found
  intro other live same
  have current := coherent.current _ _ (coherent.live_iff.mp live) rfl
  rw [same, owner, pointer] at current
  exact (Option.some.inj current).symm

theorem Withdraws.owns (step : Withdraws kept removed before after)
    (owns : before.Owns item) : after.Owns item :=
  fun other live => owns other ((step.live other).mp live).1

theorem withdraws_retire (coherent : store.Coherent) (fresh : supply.FreshFrom draw store)
    (owns : store.Owns item) (inactive : status ≠ .active)
    (spared : flag = true → ∀ derivationId ∈ kept, ∀ derivation,
      store.derivations.row derivationId = some derivation →
      item.revisionId ∉ derivation.inputRevisionIds)
    (written : (store.invalidateEligibility item.revisionId flag).writeState supply draw item
      status none epistemicState = .ok (after, state)) :
    Withdraws kept {item.revisionId} store after ∧ supply.FreshFrom (draw + 1) after := by
  have first : Withdraws kept _ store _ :=
    withdraws_invalidateEligibility coherent item.revisionId flag spared
  have fresh' := freshFrom_invalidateEligibility fresh item.revisionId flag
  obtain ⟨rfl, described⟩ := writeState_eq fresh' written
  have vacant : (store.invalidateEligibility item.revisionId flag).Vacant state.assertionId := by
    intro other live same
    obtain ⟨live, outside⟩ := (first.live other).mp live
    exact outside (owns other live (same.trans described.assertionId))
  have unwritten : (store.invalidateEligibility item.revisionId flag).revisions.row
      state.revisionId = none := by
    rw [described.revisionId]
    exact fresh' draw (le_refl draw)
  have second := first.trans (withdraws_appendRevision first.coherent unwritten vacant
    (described.status ▸ inactive))
  rw [Set.union_empty] at second
  exact ⟨second, freshFrom_appendRevision fresh' described.revisionId⟩

theorem withdraws_retireAll (coherent : store.Coherent) (fresh : supply.FreshFrom draw store)
    (owns : ∀ item ∈ items, store.Owns item) (inactive : status ≠ .active)
    (spared : flag = true → ∀ derivationId ∈ kept, ∀ derivation,
      store.derivations.row derivationId = some derivation →
      ∀ item ∈ items, item.revisionId ∉ derivation.inputRevisionIds)
    (retired : store.retireAll supply flag status epistemicState items draw = .ok (after, states)) :
    Withdraws kept {revisionId | revisionId ∈ items.map (·.revisionId)} store after ∧
      supply.FreshFrom (draw + items.length) after := by
  induction items generalizing store draw states with
  | nil =>
    cases retired
    refine ⟨(Withdraws.refl coherent).congr ?_, fresh⟩
    intro assertion _
    simp [Set.mem_empty_iff_false, map_nil, not_mem_nil]
  | cons item items ih =>
    obtain ⟨⟨middle, state⟩, written, retired⟩ := Except.bind_eq_ok.mp retired
    obtain ⟨⟨last, states⟩, rest, retired⟩ := Except.bind_eq_ok.mp retired
    cases retired
    obtain ⟨first, fresh'⟩ : Withdraws kept {item.revisionId} store middle ∧
        supply.FreshFrom (draw + 1) middle :=
      withdraws_retire coherent fresh (owns item mem_cons_self) inactive
        (fun raised derivationId member derivation stored =>
          spared raised derivationId member derivation stored item mem_cons_self) written
    have later : flag = true → ∀ derivationId ∈ kept, ∀ derivation,
        middle.derivations.row derivationId = some derivation →
        ∀ item ∈ items, item.revisionId ∉ derivation.inputRevisionIds := by
      intro raised derivationId member derivation stored other listed
      rw [first.proofs derivationId member] at stored
      exact spared raised derivationId member derivation stored other (mem_cons_of_mem _ listed)
    obtain ⟨second, fresh''⟩ := ih first.coherent fresh'
      (fun other listed => first.owns (owns other (mem_cons_of_mem _ listed))) later rest
    refine ⟨(first.trans second).congr ?_, ?_⟩
    · intro assertion _
      simp [Set.mem_ofPred_eq, map_cons, mem_cons]
    · have count : draw + (item :: items).length = draw + 1 + items.length := by
        rw [length_cons]
        omega
      rw [count]
      exact fresh''

end Retirement

end Store

end Kestrel.AssertionStore
