import Kestrel.Knowledge.ClosureDepth
import Kestrel.Storage.ErasureRuns
import Kestrel.Storage.Reconciliation
import Mathlib.Algebra.GroupWithZero.Nat

/-!
# Publishing a closure

The generated facts are written by depth and assertion identity, each over the revisions that
are available at its turn; then the ledger records every proof of every conclusion that the
inference owns.
-/

namespace Kestrel.AssertionStore

open Inference

variable {D : Domain} {I L S : Type} [LinearOrder S]

/-- The values that one materialization run fixes. -/
structure Materialization (D : Domain) (I L S : Type) where
  engine : Engine I L D.AssertionId
  profile : LedgerProfile D
  engineVersion : D.Name
  ruleName : RuleId → D.Name
  /-- The statement of a claim under the profile's ontology. -/
  triple : D.Content → Option (Triple I L)
  /-- The claim of a generated fact. -/
  content : Triple I L → D.Content
  triple_assertionId : ∀ content statement, triple content = some statement →
    D.deriveAssertionId content = engine.setting.assertionId statement
  content_assertionId : ∀ statement,
    D.deriveAssertionId (content statement) = engine.setting.assertionId statement
  /-- The digest of a proof. -/
  signature : Inference.Derivation D.AssertionId → S
  signature_injective : Function.Injective signature
  /-- The digest of the run and a conclusion. -/
  revisionId : D.AssertionId → D.RevisionId
  revisionId_injective : Function.Injective revisionId
  generatedAt : D.Instant
  evidence : Inference.Derivation D.AssertionId → List D.RevisionId → D.Evidence

/-- What the loop over the generated facts carries. -/
structure PersistState (D : Domain) (I L : Type) where
  store : Store D
  revisionIds : D.AssertionId → Option D.RevisionId
  persisted : List (Fact I L D.AssertionId)

namespace Materialization

variable (run : Materialization D I L S)

def assertionId (fact : Fact I L D.AssertionId) : D.AssertionId :=
  run.engine.setting.assertionId fact.triple

/-- `_source_facts`, as assertions in revision order. -/
def sourceAssertions (store : Store D) : List (Assertion D) :=
  ((store.currentActiveEligibleRows.map (·.assertion)).filter fun assertion =>
    assertion.epistemicState ≠ .inferred ∧
      (run.triple assertion.content).isSome).insertionSort (·.revisionId ≤ ·.revisionId)

def sources (store : Store D) : List (Triple I L) :=
  (run.sourceAssertions store).filterMap fun assertion => run.triple assertion.content

def derivedAssertion (fact : Fact I L D.AssertionId) (primary : Inference.Derivation D.AssertionId)
    (inputs : List D.RevisionId) : Except StoreError (Assertion D) := do
  let inputRevisionIds ← uniqueIdentifiers inputs "input_revision_ids"
  Assertion.fromMapping
    { content := run.content fact.triple
      revisionId := run.revisionId (run.assertionId fact)
      epistemicState := .inferred
      assertedAt := run.generatedAt
      lineage := .derived
        { ruleId := run.ruleName primary.ruleId
          engineVersion := run.engineVersion
          profileVersion := run.profile.ruleProfileVersion
          inputRevisionIds := inputRevisionIds
          evidence := run.evidence primary inputs }
      status := .active
      supersedesRevisionId := none }

/-- The first of the proofs whose premises have a recorded revision. -/
def primaryDerivation (revisionIds : D.AssertionId → Option D.RevisionId)
    (fact : Fact I L D.AssertionId) : Option (Inference.Derivation D.AssertionId) :=
  ((fact.derivations.filter fun derivation =>
    derivation.premises.all fun premise => (revisionIds premise).isSome).insertionSort
      (run.signature · ≤ run.signature ·)).head?

def record (fact : Fact I L D.AssertionId) (current : Assertion D)
    (state : PersistState D I L) (store : Store D) : Except StoreError (PersistState D I L) :=
  if current.status ≠ .active then
    .error (.inference "materialized assertion did not remain active")
  else .ok
    { store := store
      revisionIds := Function.update state.revisionIds (run.assertionId fact)
        (some current.revisionId)
      persisted := state.persisted ++ [fact] }

/-- One turn of the loop of `_persist_facts`. -/
def persistFact (supply : Supply D) (state : PersistState D I L)
    (fact : Fact I L D.AssertionId) : Except StoreError (PersistState D I L) :=
  match run.primaryDerivation state.revisionIds fact with
  | none => .error (.inference "closure fact has no publishable derivation")
  | some primary => do
    let assertion ← run.derivedAssertion fact primary
      (primary.premises.filterMap state.revisionIds)
    match state.store.current (run.assertionId fact) with
    | none => do
      let (store, result) ← state.store.publishInferredAssertion
        (supply.skip state.persisted.length) assertion
      run.record fact result.assertion state store
    | some current =>
      if current.status = .active then run.record fact current state state.store
      else if current.epistemicState = .retracted ∧ current.lineage.isDirect = false then do
        let (store, result) ← state.store.reactivateInferred
          (supply.skip state.persisted.length) assertion
        run.record fact result.assertion state store
      else .ok state

def sourceRevisionIds (store : Store D) (facts : List (Fact I L D.AssertionId))
    (assertionId : D.AssertionId) : Option D.RevisionId :=
  if ∃ fact ∈ facts, fact.isSource = true ∧ run.assertionId fact = assertionId then
    ((run.sourceAssertions store).find? (·.assertionId = assertionId)).map (·.revisionId)
  else none

/-- Facts are written by depth, then by identity. -/
def PrecedesEq (first second : Fact I L D.AssertionId) : Prop :=
  first.depth < second.depth ∨
    first.depth = second.depth ∧ run.assertionId first ≤ run.assertionId second

instance : DecidableRel run.PrecedesEq := fun _ _ => inferInstanceAs (Decidable (_ ∨ _))

def publicationOrder (facts : List (Fact I L D.AssertionId)) : List (Fact I L D.AssertionId) :=
  (facts.filter (!·.isSource)).insertionSort run.PrecedesEq

/-- `_persist_facts`, with the store it leaves. -/
def persistFacts (supply : Supply D) (facts : List (Fact I L D.AssertionId)) (store : Store D) :
    Except StoreError (Store D × ℕ × ℕ) := do
  let state ← (run.publicationOrder facts).foldlM (run.persistFact supply)
    ⟨store, run.sourceRevisionIds store facts, []⟩
  pure (state.store, state.persisted.length,
    (state.persisted.map fun fact => fact.derivations.length).sum)

/-- A generated fact as the ledger write reads it. -/
def published (fact : Fact I L D.AssertionId) : PublishedFact D where
  assertionId := run.assertionId fact
  derivations := (fact.derivations.insertionSort (run.signature · ≤ run.signature ·)).map
    fun derivation => (run.ruleName derivation.ruleId, derivation.premises)

/-- `_persist_facts` followed by `_write_active_derivations`. -/
def publish (supply : Supply D) (replace : Bool) (facts : List (Fact I L D.AssertionId))
    (store : Store D) : Except StoreError (Store D × ℕ × ℕ) := do
  let (store, counts) ← run.persistFacts supply facts store
  let store ← store.writeActiveDerivations run.profile
    ((facts.filter (!·.isSource)).map run.published) replace
  pure (store, counts)

end Materialization

end Kestrel.AssertionStore
