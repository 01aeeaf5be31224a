import Kestrel.Storage.PremiseCompleteness

/-!
# Retiring the proofs of earlier profiles

A page of the reconciliation marks the active proofs of other profiles inactive, in key order,
and retracts the conclusions on the page that are left without an active proof.
-/

namespace Kestrel.AssertionStore

open List Except

variable {D : Domain}

def Supply.skip (supply : Supply D) (drawn : ℕ) : Supply D where
  uuid4 := fun draw => supply.uuid4 (drawn + draw)
  eventUuid4 := fun draw => supply.eventUuid4 (drawn + draw)
  now := fun draw => supply.now (drawn + draw)
  uuid4_injective := fun _ _ same => Nat.add_left_cancel (supply.uuid4_injective same)

structure InferenceReconciliationResult (D : Domain) where
  retiredDerivations : ℕ
  retractedAssertions : ℕ
  nextCursor : Option D.DerivationId
  backlog : ℕ

namespace Store

section Page

variable (store : Store D) (activeProfileKey : Option D.Name) (cursor : Option D.DerivationId)
  (maxDerivations : ℕ)

/-- The active proofs of other profiles after the cursor, in key order. -/
def obsoleteDerivations : List (D.DerivationId × Derivation D) :=
  store.activeDerivations.filter fun derivation =>
    (activeProfileKey.all fun key => derivation.2.profileKey ≠ key) &&
      cursor.all fun last => last < derivation.1

/-- The rows that a page retires. -/
def obsoletePage : List (D.DerivationId × Derivation D) :=
  ((store.obsoleteDerivations activeProfileKey cursor).take (maxDerivations + 1)).take
    maxDerivations

/-- The tables with the rows of a page marked inactive. -/
def retirePage : Store D :=
  store.deactivateInferenceDerivationIds
    ((store.obsoletePage activeProfileKey cursor maxDerivations).map Prod.fst)

def remainingDerivations (assertionId : D.AssertionId) (revisionId : D.RevisionId) : ℕ :=
  (store.activeDerivations.filter fun derivation =>
    derivation.2.derivedAssertionId = assertionId ∧
      derivation.2.derivedRevisionId = revisionId).length

end Page

/-- Retract the conclusion of a retired proof, if it is an active inferred assertion without an
active proof. The number of states written is returned. -/
def retractUnproved (supply : Supply D) (derivation : Derivation D) (store : Store D) :
    Except StoreError (Store D × ℕ) :=
  if store.remainingDerivations derivation.derivedAssertionId
      derivation.derivedRevisionId ≠ 0 then .ok (store, 0)
  else
    match store.getAssertion derivation.derivedAssertionId with
    | none => .ok (store, 0)
    | some current =>
      if current.status ≠ .active ∨ current.epistemicState ≠ .inferred ∨
          current.revisionId ≠ derivation.derivedRevisionId then .ok (store, 0)
      else do
        let (store, receipt) ← store.retract supply current.assertionId current.revisionId
        pure (store, receipt.roots.length + receipt.invalidated.length)

/-- The loop over the rows of a page. Every retraction draws one identifier for each state it
writes. -/
def retractUnprovedAll (supply : Supply D) :
    List (D.DerivationId × Derivation D) → ℕ → Store D → Except StoreError (Store D × ℕ)
  | [], retracted, store => .ok (store, retracted)
  | row :: rows, retracted, store => do
    let (store, count) ← store.retractUnproved (supply.skip retracted) row.2
    retractUnprovedAll supply rows (retracted + count) store

def reconcileObsoleteDerivationsPage (supply : Supply D) (activeProfileKey : Option D.Name)
    (cursor : Option D.DerivationId) (maxDerivations : ℕ) (store : Store D) :
    Except StoreError (Store D × InferenceReconciliationResult D) :=
  if ¬ (1 ≤ maxDerivations ∧ maxDerivations ≤ 1000) then
    .error (.inference "max_derivations must be an integer in [1, 1000]")
  else
    let rows := (store.obsoleteDerivations activeProfileKey cursor).take (maxDerivations + 1)
    let page := rows.take maxDerivations
    let backlog := rows.length - page.length
    if page = [] then .ok (store, ⟨0, 0, none, 0⟩)
    else do
      let (store, retracted) ← retractUnprovedAll supply page 0
        (store.deactivateInferenceDerivationIds (page.map Prod.fst)).advanceGeneration
      pure (store, ⟨page.length, retracted,
        if backlog ≠ 0 then page.getLast?.map Prod.fst else none, backlog⟩)

/-! ## The identifiers a retraction draws -/

variable {store before after : Store D} {supply : Supply D}

theorem freshFrom_skip {drawn : ℕ} :
    (supply.skip drawn).FreshFrom 0 store ↔ supply.FreshFrom drawn store := by
  constructor
  · intro fresh later after
    have absent : store.revisions.row (supply.uuid4 (drawn + (later - drawn))) = none :=
      fresh (later - drawn) (Nat.zero_le _)
    rw [Nat.add_sub_cancel' after] at absent
    exact absent
  · intro fresh later _
    exact fresh (drawn + later) (Nat.le_add_right drawn later)

theorem freshFrom_retireAll {items states : List (Assertion D)} {draw : ℕ} {flag : Bool}
    {status : AssertionStatus} {epistemicState : Option EpistemicState}
    (fresh : supply.FreshFrom draw store)
    (retired : store.retireAll supply flag status epistemicState items draw =
      .ok (after, states)) : supply.FreshFrom (draw + states.length) after := by
  induction items generalizing store draw states with
  | nil =>
    cases retired
    exact fresh
  | cons item items ih =>
    obtain ⟨⟨middle, state⟩, written, retired⟩ := bind_eq_ok.mp retired
    obtain ⟨⟨last, states⟩, rest, retired⟩ := bind_eq_ok.mp retired
    cases retired
    have fresh' := freshFrom_invalidateEligibility fresh item.revisionId flag
    obtain ⟨rfl, described⟩ := writeState_eq fresh' written
    have later := ih (freshFrom_appendRevision fresh' described.revisionId) rest
    rw [length_cons, Nat.add_comm states.length 1, ← Nat.add_assoc]
    exact later

theorem freshFrom_retract {assertionId : D.AssertionId} {expected : D.RevisionId}
    {result : WithdrawalResult D} (fresh : supply.FreshFrom 0 store)
    (retracted : store.retract supply assertionId expected = .ok (after, result)) :
    supply.FreshFrom (result.roots.length + result.invalidated.length) after := by
  unfold retract at retracted
  obtain ⟨root, _, retracted⟩ := bind_eq_ok.mp retracted
  obtain ⟨⟨last, _⟩, withdrawn, retracted⟩ := bind_eq_ok.mp retracted
  cases retracted
  unfold withdrawRoot dependentCurrentRevisions at withdrawn
  obtain ⟨⟨ended, roots⟩, terminated, withdrawn⟩ := bind_eq_ok.mp withdrawn
  dsimp only at withdrawn
  obtain ⟨⟨retired, states⟩, retires, withdrawn⟩ := bind_eq_ok.mp withdrawn
  cases withdrawn
  obtain ⟨⟨written, state⟩, wrote, terminated⟩ := bind_eq_ok.mp terminated
  cases terminated
  have pruned : supply.FreshFrom 0
      ((store.invalidateEligibility root.revisionId true).deactivateInferenceDerivationIds
        ((store.invalidateEligibility root.revisionId true).planDependentCurrentRevisions
          [root.revisionId]).2) := freshFrom_invalidateEligibility fresh root.revisionId true
  obtain ⟨rfl, described⟩ := writeState_eq pruned wrote
  have drawn := freshFrom_retireAll (freshFrom_appendRevision pruned described.revisionId) retires
  intro later after
  have same := sameTables_events supply "retracted" ([state] ++ states) 0 retired.advanceGeneration
  rw [same.revisions]
  exact drawn later after

/-! ## What the loop retracts -/

/-- The conclusion is an active inferred assertion without an active proof. -/
def Unproved (store : Store D) (derivation : Derivation D) : Prop :=
  store.remainingDerivations derivation.derivedAssertionId derivation.derivedRevisionId = 0 ∧
    ∃ current, store.getAssertion derivation.derivedAssertionId = some current ∧
      current.epistemicState = .inferred ∧ current.revisionId = derivation.derivedRevisionId

theorem retractUnproved_eq_ok {derivation : Derivation D} {count : ℕ}
    (stepped : store.retractUnproved supply derivation = .ok (after, count)) :
    (¬ store.Unproved derivation ∧ after = store ∧ count = 0) ∨
      (store.Unproved derivation ∧ ∃ assertionId receipt,
        store.retract supply assertionId derivation.derivedRevisionId = .ok (after, receipt) ∧
          count = receipt.roots.length + receipt.invalidated.length) := by
  unfold retractUnproved at stepped
  split_ifs at stepped with proved
  · cases stepped
    exact .inl ⟨fun unproved => proved unproved.1, rfl, rfl⟩
  rw [not_not] at proved
  split at stepped
  · rename_i absent
    cases stepped
    refine .inl ⟨?_, rfl, rfl⟩
    rintro ⟨_, current, found, _⟩
    rw [absent] at found
    cases found
  · rename_i current found
    have active : current.status = .active :=
      of_decide_eq_true (Option.filter_eq_some_iff.mp found).2
    split_ifs at stepped with other
    · cases stepped
      refine .inl ⟨?_, rfl, rfl⟩
      rintro ⟨_, current', found', inferred, same⟩
      rw [found] at found'
      cases found'
      rcases other with inactive | direct | moved
      · exact inactive active
      · exact direct inferred
      · exact moved same
    · push Not at other
      obtain ⟨_, inferred, same⟩ := other
      obtain ⟨⟨final, receipt⟩, retracted, stepped⟩ := bind_eq_ok.mp stepped
      cases stepped
      rw [same] at retracted
      exact .inr ⟨⟨proved, current, found, inferred, same⟩, _, receipt, retracted, rfl⟩

/-- What a loop over rows did: nothing when every conclusion still has an active proof, and
otherwise a withdrawal of the whole graph. -/
structure Settles (rows : List (D.DerivationId × Derivation D)) (before after : Store D) :
    Prop where
  coherent : after.Coherent
  activates : ActivatesNothing before after
  settled : (after = before ∧ ∀ row ∈ rows, ¬ before.Unproved row.2) ∨
    (after.Grounded ∧ ∃ row ∈ rows, before.Unproved row.2)

theorem settles_retractUnprovedAll {rows : List (D.DerivationId × Derivation D)}
    {drawn total : ℕ} (coherent : store.Coherent) (fresh : supply.FreshFrom drawn store)
    (looped : store.retractUnprovedAll supply rows drawn = .ok (after, total)) :
    Settles rows store after := by
  induction rows generalizing store drawn with
  | nil =>
    cases looped
    exact ⟨coherent, .of_derivations rfl, .inl ⟨rfl, fun _ member => by cases member⟩⟩
  | cons row rows ih =>
    obtain ⟨⟨middle, count⟩, stepped, rest⟩ := bind_eq_ok.mp looped
    rcases retractUnproved_eq_ok stepped with
      ⟨proved, rfl, rfl⟩ | ⟨unproved, assertionId, receipt, retracted, rfl⟩
    · obtain ⟨coherent', activates, settled⟩ := ih coherent fresh rest
      refine ⟨coherent', activates, ?_⟩
      rcases settled with ⟨same, others⟩ | ⟨grounded, other, member, unproved⟩
      · exact .inl ⟨same, forall_mem_cons.mpr ⟨proved, others⟩⟩
      · exact .inr ⟨grounded, other, mem_cons_of_mem _ member, unproved⟩
    · have skipped := freshFrom_skip.mpr fresh
      obtain ⟨coherent', grounded⟩ := grounded_withdrawal coherent skipped rfl
        (commit_retract retracted)
      have drawn' := freshFrom_retract skipped retracted
      have fresh' : supply.FreshFrom
          (drawn + (receipt.roots.length + receipt.invalidated.length)) middle := by
        intro later after
        have absent : middle.revisions.row (supply.uuid4 (drawn + (later - drawn))) = none :=
          drawn' (later - drawn) (by omega)
        rw [Nat.add_sub_cancel' (by omega)] at absent
        exact absent
      obtain ⟨coherent'', activates, settled⟩ := ih coherent' fresh' rest
      refine ⟨coherent'', (activatesNothing_withdrawal rfl
        (commit_retract retracted)).1.trans activates, .inr ⟨?_,
        row, mem_cons_self, unproved⟩⟩
      rcases settled with ⟨same, _⟩ | ⟨settled, _⟩
      · exact same ▸ grounded
      · exact settled

/-! ## When a page leaves the store grounded -/

section Page

variable {activeProfileKey : Option D.Name} {cursor : Option D.DerivationId}
  {maxDerivations : ℕ}

/-- Either some conclusion on the page has no active proof left once the page is marked
inactive, or the active proofs that are left still ground every conclusion on the page. -/
def PageGrounds (store : Store D) (activeProfileKey : Option D.Name)
    (cursor : Option D.DerivationId) (maxDerivations : ℕ) : Prop :=
  (∃ row ∈ store.obsoletePage activeProfileKey cursor maxDerivations,
    (store.retirePage activeProfileKey cursor maxDerivations).Unproved row.2) ∨
  ∀ row ∈ store.obsoletePage activeProfileKey cursor maxDerivations, ∀ assertion,
    store.Live assertion → assertion.revisionId = row.2.derivedRevisionId →
      (store.retirePage activeProfileKey cursor maxDerivations).Survives ∅ assertion.revisionId

theorem mem_obsoletePage {row : D.DerivationId × Derivation D}
    (member : row ∈ store.obsoletePage activeProfileKey cursor maxDerivations) :
    store.derivations.row row.1 = some row.2 ∧ row.2.active = true :=
  mem_activeDerivations.mp (mem_filter.mp (mem_of_mem_take (mem_of_mem_take member))).1

theorem withdraws_retirePage (coherent : store.Coherent) :
    Withdraws (∅ : Set D.DerivationId) ∅ store
      (store.retirePage activeProfileKey cursor maxDerivations) :=
  withdraws_deactivateInferenceDerivationIds coherent fun _ impossible =>
    absurd impossible (Set.notMem_empty _)

theorem row_retirePage {derivationId : D.DerivationId} {derivation : Derivation D}
    (stored : store.derivations.row derivationId = some derivation)
    (unlisted : (derivationId, derivation) ∉
      store.obsoletePage activeProfileKey cursor maxDerivations) :
    (store.retirePage activeProfileKey cursor maxDerivations).derivations.row derivationId =
      some derivation := by
  have outside : derivationId ∉
      (store.obsoletePage activeProfileKey cursor maxDerivations).map Prod.fst := by
    intro listed
    obtain ⟨row, member, rfl⟩ := mem_map.mp listed
    rw [(mem_obsoletePage member).1] at stored
    cases stored
    exact unlisted member
  change (store.derivations.row derivationId).map _ = _
  rw [stored, Option.map_some]
  dsimp only
  rw [if_neg outside]

theorem survives_retirePage (coherent : store.Coherent)
    (supported : ∀ row ∈ store.obsoletePage activeProfileKey cursor maxDerivations,
      ∀ assertion, store.Live assertion → assertion.revisionId = row.2.derivedRevisionId →
        (store.retirePage activeProfileKey cursor maxDerivations).Survives ∅ assertion.revisionId)
    {revisionId : D.RevisionId} (survives : store.Survives ∅ revisionId) :
    (store.retirePage activeProfileKey cursor maxDerivations).Survives ∅ revisionId := by
  have retires : Withdraws (∅ : Set D.DerivationId) ∅ store
      (store.retirePage activeProfileKey cursor maxDerivations) := withdraws_retirePage coherent
  induction survives with
  | base member => exact .base member
  | rule supports _ ih =>
    obtain ⟨outside, nonempty, assertion, live, derived, rfl, proof⟩ := supports
    by_cases listed : ∃ row ∈ store.obsoletePage activeProfileKey cursor maxDerivations,
        assertion.revisionId = row.2.derivedRevisionId
    · obtain ⟨row, member, same⟩ := listed
      exact supported row member assertion live same
    · refine .rule ⟨outside, nonempty, assertion, live, derived, rfl, ?_⟩ ih
      rcases proof with ⟨derivationId, derivation, stored, active, concludes, rfl⟩ |
        ⟨unrecorded, rfl⟩
      · left
        refine ⟨derivationId, derivation, row_retirePage stored ?_, active, concludes, rfl⟩
        exact fun member => listed ⟨_, member, concludes.symm⟩
      · right
        exact ⟨fun recorded => unrecorded ((retires.history _).mp recorded), rfl⟩

theorem grounded_retirePage_iff (coherent : store.Coherent) (grounded : store.Grounded) :
    (store.retirePage activeProfileKey cursor maxDerivations).Grounded ↔
      ∀ row ∈ store.obsoletePage activeProfileKey cursor maxDerivations,
        ∀ assertion, store.Live assertion → assertion.revisionId = row.2.derivedRevisionId →
          (store.retirePage activeProfileKey cursor maxDerivations).Survives ∅
            assertion.revisionId := by
  constructor
  · intro retired row _ assertion live _
    have live' : (store.retirePage activeProfileKey cursor maxDerivations).Live assertion := live
    exact retired.survives live'
  · intro supported assertion live derived
    exact survives_retirePage coherent supported (grounded assertion live derived)

theorem obsoletePage_eq_of_backlog (fits : ((store.obsoleteDerivations activeProfileKey cursor).take
        (maxDerivations + 1)).length -
      (store.obsoletePage activeProfileKey cursor maxDerivations).length = 0) :
    store.obsoletePage activeProfileKey cursor maxDerivations =
      store.obsoleteDerivations activeProfileKey cursor := by
  unfold obsoletePage at fits ⊢
  rw [take_take, Nat.min_eq_left (Nat.le_succ maxDerivations)] at fits ⊢
  rw [length_take, length_take] at fits
  exact take_of_length_le (by omega)

variable {result : InferenceReconciliationResult D}

/-- A page either finds nothing to retire or runs the loop over its rows, and returns no cursor
only after the last obsolete row. -/
theorem reconcileObsoleteDerivationsPage_eq_ok
    (reconciled : store.reconcileObsoleteDerivationsPage supply activeProfileKey cursor
      maxDerivations = .ok (after, result)) :
    ((store.obsoletePage activeProfileKey cursor maxDerivations = [] ∧ after = store) ∨
      (store.retirePage activeProfileKey cursor maxDerivations).advanceGeneration.retractUnprovedAll
        supply (store.obsoletePage activeProfileKey cursor maxDerivations) 0 =
          .ok (after, result.retractedAssertions)) ∧
    (result.nextCursor = none → store.obsoletePage activeProfileKey cursor maxDerivations =
      store.obsoleteDerivations activeProfileKey cursor) ∧
    ∀ next, result.nextCursor = some next →
      ((store.obsoletePage activeProfileKey cursor maxDerivations).getLast?.map Prod.fst) =
        some next := by
  unfold reconcileObsoleteDerivationsPage at reconciled
  split_ifs at reconciled with bounds
  change (if store.obsoletePage activeProfileKey cursor maxDerivations = [] then _ else _) = _
    at reconciled
  split at reconciled
  · rename_i empty
    cases reconciled
    refine ⟨.inl ⟨empty, rfl⟩, fun _ => ?_, fun _ impossible => by cases impossible⟩
    unfold obsoletePage at empty
    rw [take_take, Nat.min_eq_left (Nat.le_succ maxDerivations), take_eq_nil_iff] at empty
    rcases empty with zero | none_left
    · omega
    · unfold obsoletePage
      rw [none_left, take_nil, take_nil]
  · rename_i nonempty
    obtain ⟨⟨final, retracted⟩, looped, reconciled⟩ := bind_eq_ok.mp reconciled
    cases reconciled
    refine ⟨.inr looped, ?_, ?_⟩
    · intro exhausted
      split_ifs at exhausted with backlog
      · exact absurd (getLast?_eq_none_iff.mp (Option.map_eq_none_iff.mp exhausted)) nonempty
      · exact obsoletePage_eq_of_backlog (not_not.mp backlog)
    · intro next continued
      split_ifs at continued with backlog
      exact continued

/-- **A page over a grounded store leaves it grounded exactly when its condition holds.** -/
theorem reconciled_grounded_iff (coherent : store.Coherent) (grounded : store.Grounded)
    (fresh : supply.FreshFrom 0 store)
    (reconciled : store.reconcileObsoleteDerivationsPage supply activeProfileKey cursor
      maxDerivations = .ok (after, result)) :
    after.Coherent ∧
      ActivatesNothing (store.retirePage activeProfileKey cursor maxDerivations) after ∧
      (after.Grounded ↔ store.PageGrounds activeProfileKey cursor maxDerivations) := by
  obtain ⟨outcome, _⟩ := reconcileObsoleteDerivationsPage_eq_ok reconciled
  rcases outcome with ⟨empty, rfl⟩ | looped
  · have nothing : ActivatesNothing (after.retirePage activeProfileKey cursor maxDerivations)
        after := by
      intro derivationId derivation stored _
      apply row_retirePage stored
      rw [empty]
      exact not_mem_nil
    refine ⟨coherent, nothing, iff_of_true grounded (.inr ?_)⟩
    rw [empty]
    exact fun row impossible => by cases impossible
  · have retires : Withdraws (∅ : Set D.DerivationId) ∅ store
        (store.retirePage activeProfileKey cursor maxDerivations) :=
      withdraws_retirePage coherent
    have same : SameTables (store.retirePage activeProfileKey cursor maxDerivations)
        (store.retirePage activeProfileKey cursor maxDerivations).advanceGeneration :=
      ⟨rfl, rfl, rfl⟩
    have advanced : ActivatesNothing (store.retirePage activeProfileKey cursor maxDerivations)
        (store.retirePage activeProfileKey cursor maxDerivations).advanceGeneration :=
      .of_derivations rfl
    obtain ⟨coherent', activates, settled⟩ :=
      settles_retractUnprovedAll (same.coherent retires.coherent) fresh looped
    refine ⟨coherent', advanced.trans activates, ?_⟩
    unfold PageGrounds
    rw [← grounded_retirePage_iff coherent grounded]
    rcases settled with ⟨rfl, proved⟩ | ⟨settled, unproved⟩
    · constructor
      · exact fun kept => .inr (same.grounded kept)
      · intro condition
        rcases condition with ⟨row, member, unproved⟩ | kept
        · exact absurd unproved (proved row member)
        · exact same.grounded kept
    · exact iff_of_true settled (.inl unproved)

end Page

end Store

end Kestrel.AssertionStore
