import Kestrel.Storage.PublicationLoop

/-!
# The ledger write after the loop

The ledger resolves every premise of every proof of an active inferred conclusion, so it needs
each of them to be active.
-/

namespace Kestrel.AssertionStore

open Inference List Except

variable {D : Domain}

namespace Store

variable {store : Store D} {profile : LedgerProfile D}

theorem getAssertion_eq_some {assertionId : D.AssertionId} {assertion : Assertion D} :
    store.getAssertion assertionId = some assertion ↔ ∃ row,
      store.currentRow assertionId = some row ∧ row.assertion = assertion ∧
        assertion.status = .active := by
  unfold getAssertion
  rw [current_eq, Option.filter_eq_some_iff, Option.map_eq_some_iff, decide_eq_true_eq]
  constructor
  · intro found
    obtain ⟨⟨row, located, same⟩, active⟩ := found
    exact ⟨row, located, same, active⟩
  · intro found
    obtain ⟨row, located, same, active⟩ := found
    exact ⟨⟨row, located, same⟩, active⟩

def ResolvesTo (store : Store D) (premise : D.AssertionId) (revisionId : D.RevisionId) : Prop :=
  ∃ assertion, store.getAssertion premise = some assertion ∧ assertion.revisionId = revisionId

variable {premises : List D.AssertionId} {before : Store D}

theorem premiseRevisions_eq_ok {revisionIds : List D.RevisionId} :
    store.premiseRevisions premises = .ok revisionIds ↔
      Forall₂ store.ResolvesTo premises revisionIds := by
  unfold Store.premiseRevisions
  rw [mapM_eq_ok]
  refine iff_of_eq (congrArg (Forall₂ · premises revisionIds) ?_)
  funext premise revisionId
  refine propext ?_
  unfold ResolvesTo
  cases store.getAssertion premise with
  | none =>
    refine iff_of_false (fun impossible => by cases impossible) (fun known => ?_)
    obtain ⟨_, impossible, _⟩ := known
    cases impossible
  | some assertion =>
    simp only [ok.injEq, Option.some.injEq, exists_eq_left']

theorem Linked.biUnique_resolvesTo (linked : store.Linked) : Relator.BiUnique store.ResolvesTo := by
  constructor
  · intro premise revisionId other left right
    obtain ⟨assertion, found, rfl⟩ := left
    obtain ⟨assertion', found', same⟩ := right
    obtain ⟨row, located, rfl, _⟩ := getAssertion_eq_some.mp found
    obtain ⟨row', located', rfl, _⟩ := getAssertion_eq_some.mp found'
    exact linked.assertionId_unique located located' same.symm
  · intro premise revisionId other left right
    obtain ⟨assertion, found, rfl⟩ := left
    obtain ⟨assertion', found', rfl⟩ := right
    rw [found] at found'
    cases found'
    rfl

theorem Linked.premiseRevisions_iff (linked : store.Linked) (distinct : premises.Nodup) :
    (∃ revisionIds, store.premiseRevisions premises = .ok revisionIds ∧ revisionIds.Nodup) ↔
      ∀ premise ∈ premises, store.getAssertion premise ≠ none := by
  constructor
  · intro resolved
    obtain ⟨revisionIds, mapped, nodup⟩ := resolved
    have related := premiseRevisions_eq_ok.mp mapped
    clear mapped nodup distinct
    induction related with
    | nil => exact fun _ impossible => by cases impossible
    | cons first _ ih =>
      obtain ⟨assertion, found, _⟩ := first
      refine forall_mem_cons.mpr ⟨?_, ih⟩
      rw [found]
      exact Option.some_ne_none assertion
  · intro present
    have total : ∃ revisionIds, Forall₂ store.ResolvesTo premises revisionIds := by
      clear distinct
      induction premises with
      | nil => exact ⟨[], .nil⟩
      | cons premise premises ih =>
        obtain ⟨assertion, found⟩ :=
          Option.ne_none_iff_exists'.mp (present premise mem_cons_self)
        obtain ⟨rest, resolved⟩ := ih fun other named =>
          present other (mem_cons_of_mem _ named)
        exact ⟨assertion.revisionId :: rest, .cons ⟨assertion, found, rfl⟩ resolved⟩
    obtain ⟨revisionIds, resolved⟩ := total
    exact ⟨revisionIds, premiseRevisions_eq_ok.mpr resolved,
      (rel_nodup linked.biUnique_resolvesTo resolved).mp distinct⟩

/-- The premises of a proof resolve to distinct revisions. -/
def Resolves (store : Store D) (derivation : D.Name × List D.AssertionId) : Prop :=
  ∃ revisionIds, store.premiseRevisions derivation.2 = .ok revisionIds ∧ revisionIds.Nodup

def FactResolves (store : Store D) (fact : PublishedFact D) : Prop :=
  ∀ current, store.getAssertion fact.assertionId = some current →
    current.epistemicState = .inferred → ∀ derivation ∈ fact.derivations, store.Resolves derivation

/-- A store that differs only in its ledger. -/
def SameAssertions (before after : Store D) : Prop :=
  after.revisions = before.revisions ∧ after.currents = before.currents

theorem writeActiveDerivation_iff {assertionId : D.AssertionId} {revisionId : D.RevisionId}
    {derivation : D.Name × List D.AssertionId} (same : SameAssertions before store) :
    (∀ after, store.writeActiveDerivation profile assertionId revisionId derivation = .ok after →
      before.Resolves derivation ∧ SameAssertions before after) ∧
    (before.Resolves derivation →
      ∃ after, store.writeActiveDerivation profile assertionId revisionId derivation =
        .ok after) := by
  unfold writeActiveDerivation Resolves
  rw [premiseRevisions_congr same.1 same.2]
  constructor
  · intro after written
    obtain ⟨revisionIds, resolved, written⟩ := bind_eq_ok.mp written
    split_ifs at written with distinct
    cases written
    exact ⟨⟨revisionIds, resolved, distinct⟩, same⟩
  · intro resolves
    obtain ⟨revisionIds, resolved, distinct⟩ := resolves
    rw [resolved, ok_bind]
    rw [if_pos distinct]
    exact ⟨_, rfl⟩

theorem writeFactDerivations_iff {fact : PublishedFact D} (same : SameAssertions before store) :
    (∀ after, store.writeFactDerivations profile fact = .ok after →
      before.FactResolves fact ∧ SameAssertions before after) ∧
    (before.FactResolves fact → ∃ after, store.writeFactDerivations profile fact = .ok after) := by
  unfold writeFactDerivations FactResolves
  rw [getAssertion_congr same.1 same.2]
  cases before.getAssertion fact.assertionId with
  | none =>
    refine ⟨fun after written => ?_, fun _ => ⟨store, rfl⟩⟩
    cases written
    exact ⟨(fun _ impossible => by cases impossible), same⟩
  | some current =>
    dsimp only
    split_ifs with other
    · refine ⟨fun after written => ?_, fun _ => ⟨store, rfl⟩⟩
      cases written
      refine ⟨fun present found inferred => ?_, same⟩
      cases found
      exact absurd inferred other
    · obtain ⟨kept, succeeds⟩ := @foldlM_succeeds_iff _ _ _
        (writeActiveDerivation profile fact.assertionId current.revisionId)
        (fun _ state => SameAssertions before state)
        (fun _ derivation => before.Resolves derivation) fact.derivations
        (fun _ _ _ state _ valid => by
          obtain ⟨sound, complete⟩ := writeActiveDerivation_iff valid
          exact ⟨sound, complete⟩) store same
      constructor
      · intro after written
        refine ⟨fun present found _ derivation member => ?_, kept after written⟩
        obtain ⟨processed, rest, split⟩ := append_of_mem member
        exact succeeds.mp ⟨after, written⟩ processed derivation rest split
      · intro resolves
        refine succeeds.mpr fun processed derivation rest split => ?_
        refine resolves current rfl (not_not.mp other) derivation ?_
        rw [split]
        exact mem_append_right _ mem_cons_self

/-- **The ledger write goes through exactly when every proof of every active inferred conclusion
resolves.** -/
theorem writeActiveDerivations_iff {facts : List (PublishedFact D)} {replace : Bool} :
    (∃ after, store.writeActiveDerivations profile facts replace = .ok after) ↔
      ∀ fact ∈ facts, store.FactResolves fact := by
  unfold writeActiveDerivations
  dsimp only
  generalize replaced : (if replace then { store with
      derivations := store.derivations.adjust fun _ derivation =>
        if derivation.profileKey = profile.key then { derivation with active := false }
        else derivation } else store) = start
  have same : SameAssertions store start := by
    rw [← replaced]
    split_ifs <;> exact ⟨rfl, rfl⟩
  obtain ⟨kept, succeeds⟩ := @foldlM_succeeds_iff _ _ _ (writeFactDerivations profile)
    (fun _ state => SameAssertions store state) (fun _ fact => store.FactResolves fact)
    (facts.insertionSort (·.assertionId ≤ ·.assertionId))
    (fun _ _ _ state _ valid => writeFactDerivations_iff valid) start same
  constructor
  · intro written fact member
    obtain ⟨after, written⟩ := written
    obtain ⟨folded, finished, _⟩ := bind_eq_ok.mp written
    obtain ⟨processed, rest, split⟩ := append_of_mem
      ((mem_insertionSort (·.assertionId ≤ ·.assertionId)).mpr member)
    exact succeeds.mp ⟨folded, finished⟩ processed fact rest split
  · intro resolves
    obtain ⟨folded, finished⟩ := succeeds.mpr fun processed fact rest split => by
      refine resolves fact ((mem_insertionSort (·.assertionId ≤ ·.assertionId)).mp ?_)
      rw [split]
      exact mem_append_right _ mem_cons_self
    rw [finished, ok_bind]
    split_ifs <;> exact ⟨_, rfl⟩

end Store

end Kestrel.AssertionStore
