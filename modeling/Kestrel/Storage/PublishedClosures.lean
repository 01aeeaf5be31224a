import Kestrel.Storage.PublicationContract

/-!
# Publishing the closure of a store

The sources of a reachable store are distinct statements, and each stands on its live revision,
so the closure of its eligible direct facts meets what the publication relies on.
-/

namespace Kestrel.AssertionStore

open Inference List Store Engine Table

variable {D : Domain} {I L S : Type}

namespace Store

variable {store : Store D}

theorem Linked.currentRow_of_live (linked : store.Linked) {assertion : Assertion D}
    (live : store.Live assertion) :
    store.currentRow assertion.assertionId = some ⟨assertion, true⟩ ∧
      assertion.status = .active := by
  obtain ⟨row, member, rfl⟩ := mem_map.mp live
  obtain ⟨listed, kept⟩ := mem_filter.mp member
  obtain ⟨pointer, pointed, stored⟩ := mem_filterMap.mp listed
  obtain ⟨other, stored', owner⟩ := linked.pointed _ _ (mem_rows.mp pointed)
  rw [stored] at stored'
  cases stored'
  rw [Bool.and_eq_true, decide_eq_true_eq] at kept
  refine ⟨?_, kept.1⟩
  unfold currentRow
  rw [owner, mem_rows.mp pointed, Option.bind_some, stored, ← kept.2]

theorem Linked.nodup_assertions (linked : store.Linked) :
    (store.currentActiveEligibleRows.map (·.assertion)).Nodup := by
  unfold currentActiveEligibleRows currentRows
  rw [Nodup, pairwise_map, pairwise_filter, pairwise_filterMap]
  refine (nodup_rows store.currents).imp_of_mem ?_
  intro first second left right different row stored row' stored' _ _ same
  refine different ?_
  have pointed := mem_rows.mp (show (first.1, first.2) ∈ _ from left)
  have pointed' := mem_rows.mp (show (second.1, second.2) ∈ _ from right)
  obtain ⟨_, found, owner⟩ := linked.pointed _ _ pointed
  obtain ⟨_, found', owner'⟩ := linked.pointed _ _ pointed'
  rw [stored] at found
  rw [stored'] at found'
  cases found
  cases found'
  have key : first.1 = second.1 := by rw [← owner, ← owner', same]
  rw [key, pointed'] at pointed
  exact Prod.ext key (Option.some.inj pointed).symm

end Store

namespace Materialization

variable {run : Materialization D I L S} {store : Store D} {facts : List (Fact I L D.AssertionId)}

theorem mem_sourceAssertions {assertion : Assertion D} :
    assertion ∈ run.sourceAssertions store ↔ store.Live assertion ∧
      assertion.epistemicState ≠ .inferred ∧ (run.triple assertion.content).isSome = true := by
  unfold sourceAssertions
  rw [mem_insertionSort, mem_filter, decide_eq_true_eq]
  exact Iff.rfl

theorem sourceAssertions_unique (linked : store.Linked) {first second : Assertion D}
    (left : first ∈ run.sourceAssertions store) (right : second ∈ run.sourceAssertions store)
    (same : first.assertionId = second.assertionId) : first = second := by
  have found := (linked.currentRow_of_live (mem_sourceAssertions.mp left).1).1
  rw [same, (linked.currentRow_of_live (mem_sourceAssertions.mp right).1).1] at found
  exact ((RevisionRow.mk.inj (Option.some.inj found)).1).symm

theorem nodup_sources (linked : store.Linked) : (run.sources store).Nodup := by
  have distinct : (run.sourceAssertions store).Nodup := by
    unfold sourceAssertions
    exact ((perm_insertionSort _ _).nodup_iff).mpr (linked.nodup_assertions.filter _)
  unfold sources
  rw [Nodup, pairwise_filterMap]
  refine distinct.imp_of_mem ?_
  intro first second left right different statement read statement' read' same
  refine different (sourceAssertions_unique linked left right ?_)
  unfold Assertion.assertionId
  rw [run.triple_assertionId _ _ read, run.triple_assertionId _ _ read', same]

theorem sourceRevisionIds_of_source (linked : store.Linked) {fact : Fact I L D.AssertionId}
    (member : fact ∈ facts) (source : fact.isSource = true)
    (listed : fact.triple ∈ run.sources store) : ∃ row,
      store.currentRow (run.assertionId fact) = some row ∧ row.assertion.status = .active ∧
        row.eligible = true ∧ run.sourceRevisionIds store facts (run.assertionId fact) =
          some row.assertion.revisionId := by
  obtain ⟨assertion, known, read⟩ := mem_filterMap.mp listed
  have identity : assertion.assertionId = run.assertionId fact :=
    run.triple_assertionId _ _ read
  obtain ⟨found, active⟩ := linked.currentRow_of_live (mem_sourceAssertions.mp known).1
  rw [identity] at found
  refine ⟨_, found, active, rfl, ?_⟩
  unfold sourceRevisionIds
  rw [if_pos ⟨fact, member, source, rfl⟩]
  cases located : (run.sourceAssertions store).find? (·.assertionId = run.assertionId fact) with
  | none =>
    have absent := find?_eq_none.mp located assertion known
    exact absurd (decide_eq_true identity) absent
  | some other =>
    have same : other.assertionId = run.assertionId fact := by
      have found := find?_some located
      exact of_decide_eq_true found
    rw [sourceAssertions_unique linked (mem_of_find?_eq_some located) known
      (same.trans identity.symm), Option.map_some]

variable [DecidableEq I] [DecidableEq L]

theorem closing_of_close (linked : store.Linked)
    (fresh : ∀ assertionId, store.revisions.row (run.revisionId assertionId) = none)
    (closed : run.engine.close (run.sources store) = .ok facts) : run.Closing store facts where
  linked := linked
  fresh := fresh
  distinct := by
    have layered := layered_close (nodup_sources linked) closed
    have named := layered.nodup.map run.engine.setting.assertionId_injective
    unfold triples at named
    rw [map_map] at named
    exact named
  recorded := recorded_close closed
  sources := fun fact member source => sourceRevisionIds_of_source linked member source
    ((((close_complete closed).sound false 0).isSource_iff fact member).mp source)

variable [LinearOrder S]

/-- **The closure of the eligible direct facts of a reachable store is published exactly when it
is publishable.** -/
theorem publish_close_iff (reachable : store.Reachable) (supply : Supply D) (replace : Bool)
    (fresh : ∀ assertionId, store.revisions.row (run.revisionId assertionId) = none)
    (closed : run.engine.close (run.sources store) = .ok facts) :
    (∃ outcome, run.publish supply replace facts store = .ok outcome) ↔
      run.Publishable store facts :=
  publish_iff (closing_of_close reachable.linked fresh closed)

/-- When no generated identity is withheld or held without eligibility, the depths of the facts
alone make the closure publishable. -/
theorem publishable_of_unheld (linked : store.Linked)
    (closed : run.engine.close (run.sources store) = .ok facts)
    (unheld : ∀ fact ∈ facts, fact.isSource = false →
      ¬ store.Withheld (run.assertionId fact) ∧ ¬ store.Ineligible (run.assertionId fact)) :
    run.Publishable store facts := by
  have layered := layered_close (nodup_sources linked) closed
  have sound := (close_complete closed).sound false 0
  have held : ∀ fact ∈ facts, ¬ store.Withheld (run.assertionId fact) ∧
      ¬ store.Ineligible (run.assertionId fact) := by
    intro fact member
    cases source : fact.isSource with
    | false => exact unheld fact member source
    | true =>
      obtain ⟨row, found, active, eligible, _⟩ := sourceRevisionIds_of_source linked member source
        ((sound.isSource_iff fact member).mp source)
      refine ⟨(not_withheld_of_active found active).1, fun ineligible => ?_⟩
      obtain ⟨other, found', _, lost⟩ := ineligible
      rw [found] at found'
      cases found'
      rw [eligible] at lost
      cases lost
  have free : ∀ fact ∈ facts, ∀ derivation ∈ fact.derivations, ∀ premise ∈ derivation.premises,
      ¬ store.Withheld premise ∧ ¬ store.Ineligible premise := by
    intro fact member derivation recorded premise named
    obtain ⟨other, known, rfl⟩ :=
      (recorded_close closed fact member derivation recorded).known premise named
    exact held other known
  refine ⟨?_, fun fact member _ _ derivation recorded premise named =>
    (free fact member derivation recorded premise named).1⟩
  intro fact member source
  refine ⟨?_, fun _ derivation primary premise named =>
    (free fact member derivation primary.member premise named).2⟩
  obtain ⟨derivation, recorded, before⟩ := layered.proved fact member source
  refine ⟨derivation, recorded, ?_⟩
  intro premise named
  obtain ⟨other, known, rfl, shallower⟩ := before premise named
  cases kind : other.isSource with
  | true => exact .inl ⟨other, known, kind, rfl⟩
  | false => exact .inr ⟨other, ⟨known, kind, .inl shallower⟩, rfl, (held other known).1⟩

end Materialization

/-! ## Statements with numbered terms -/

namespace Numbered

/-- The statement that a number stands for. -/
def statement (code : ℕ) : Triple ℕ ℕ where
  subject := (Nat.unpair code).1
  predicate := (Nat.unpair (Nat.unpair code).2).1
  object :=
    let object := (Nat.unpair (Nat.unpair code).2).2
    if object % 2 = 0 then .iri (object / 2) else .literal (object / 2)

theorem assertionId_statement (code : ℕ) :
    Numbered.assertionId (statement code) = code := by
  have object : ∀ value : ℕ, Numbered.objectCode
      (if value % 2 = 0 then .iri (value / 2) else .literal (value / 2)) = value := by
    intro value
    split
    · exact Nat.mul_div_cancel' (Nat.dvd_of_mod_eq_zero ‹_›)
    · exact (Nat.div_add_mod value 2) ▸ by
        simp only [Numbered.objectCode]
        omega
  unfold Numbered.assertionId statement
  rw [object, Nat.pair_unpair, Nat.pair_unpair]

def ruleCode : RuleId → ℕ
  | .subClassOfTransitive => 0
  | .typeSubClassOf => 1
  | .subPropertyOfTransitive => 2
  | .subPropertyOf => 3
  | .domain => 4
  | .range => 5
  | .equivalentClassLeft => 6
  | .equivalentClassRight => 7
  | .equivalentPropertyLeft => 8
  | .equivalentPropertyRight => 9
  | .inverseOfForward => 10
  | .inverseOfReverse => 11
  | .symmetricProperty => 12
  | .transitiveProperty => 13
  | .propertyChainAxiom length => 14 + length

theorem ruleCode_injective : Function.Injective ruleCode := by
  intro first second same
  cases first <;> cases second <;> simp only [ruleCode] at same ⊢ <;> grind

/-- The materialization of numbered statements, whose revisions start at 1000. -/
def run : Materialization Domain.natural ℕ ℕ (List ℕ) where
  engine := Inference.Numbered.engine
  profile := ⟨1, 1⟩
  engineVersion := 1
  ruleName := ruleCode
  triple code := some (statement code)
  content := Inference.Numbered.assertionId
  triple_assertionId := by
    rintro code _ ⟨⟩
    exact (assertionId_statement code).symm
  content_assertionId _ := rfl
  signature derivation := ruleCode derivation.ruleId :: derivation.premises
  signature_injective := by
    rintro ⟨rule, premises⟩ ⟨rule', premises'⟩ same
    obtain ⟨codes, listed⟩ := List.cons.inj same
    exact congrArg₂ Inference.Derivation.mk (ruleCode_injective codes) listed
  revisionId code := 1000 + code
  revisionId_injective _ _ same := Nat.add_left_cancel same
  generatedAt := ()
  evidence _ _ := ()

theorem fresh_revisionId {store : Store Domain.natural}
    (below : ∀ key ∈ store.revisions.keys, key < 1000) (code : ℕ) :
    store.revisions.row (run.revisionId code) = none := by
  apply row_eq_none
  intro member
  have small : 1000 + code < 1000 := below _ member
  omega

end Numbered

open Domain.natural Inference.Numbered in
/-- An edge under a property, the property under a second one whose domain is declared, and the
edge under the second property asserted and deleted. -/
def deletedRun : List (Mutation Domain.natural) :=
  [.putAssertion (direct (assertionId ⟨30, 20, .iri 31⟩) 1 1) [⟨1, ()⟩] none,
    .putAssertion (direct (assertionId ⟨20, 2, .iri 21⟩) 2 2) [⟨2, ()⟩] none,
    .putAssertion (direct (assertionId ⟨21, 3, .iri 40⟩) 3 3) [⟨3, ()⟩] none,
    .putAssertion (direct (assertionId ⟨30, 21, .iri 31⟩) 4 4) [⟨4, ()⟩] none,
    .delete (assertionId ⟨30, 21, .iri 31⟩) 4]

/-- The tables that a number of steps of the run commit. -/
def deletedStore (steps : ℕ) : Store Domain.natural :=
  (deletedRun.take steps).foldl (Store.afterCommit (Domain.natural.supply 100)) Store.empty

theorem deletedStore_reachable : (deletedStore 3).Reachable ∧ (deletedStore 5).Reachable := by
  have first : Transition.Run Performs empty ((deletedRun.take 3).map .mutate)
      (deletedStore 3) := by
    refine .cons (commits_afterCommit (freshFrom_natural 100 ?_) ?_) <|
      .cons (commits_afterCommit (freshFrom_natural 100 ?_) ?_) <|
      .cons (commits_afterCommit (freshFrom_natural 100 ?_) ?_) <| .nil _
    all_goals decide +kernel
  have last : Transition.Run Performs (deletedStore 3) ((deletedRun.drop 3).map .mutate)
      (deletedStore 5) := by
    refine .cons (commits_afterCommit (freshFrom_natural 100 ?_) ?_) <|
      .cons (commits_afterCommit (freshFrom_natural 100 ?_) ?_) <| .nil _
    all_goals decide +kernel
  exact ⟨⟨_, first⟩, ⟨_, first.append last⟩⟩

/-- The edge under the second property is derived, and withheld since it was deleted; so the
instance of the domain has no proof at its turn. -/
theorem publish_fails_deleted :
    ∃ (store : Store Domain.natural) (facts : List (Fact ℕ ℕ ℕ)), store.Reachable ∧
      (∀ assertionId, store.revisions.row (Numbered.run.revisionId assertionId) = none) ∧
      Numbered.run.engine.close (Numbered.run.sources store) = .ok facts ∧
      (Numbered.run.publish (Domain.natural.supply 500) true facts store).map (fun _ => ()) =
        .error (.inference "closure fact has no publishable derivation") := by
  have computed : ((Numbered.run.engine.close (Numbered.run.sources (deletedStore 5))).map
      fun facts => (Numbered.run.publish (Domain.natural.supply 500) true facts
        (deletedStore 5)).map (fun _ => ())) =
      .ok (.error (.inference "closure fact has no publishable derivation")) := by decide +kernel
  obtain ⟨facts, closed, published⟩ := Except.map_eq_ok.mp computed
  exact ⟨deletedStore 5, facts, deletedStore_reachable.2,
    Numbered.fresh_revisionId (by decide +kernel), closed, published⟩

/-- Before the edge under the second property is asserted, the closure of the three facts is
published. -/
theorem publish_close_unheld :
    ∃ facts, Numbered.run.engine.close (Numbered.run.sources (deletedStore 3)) = .ok facts ∧
      ∃ outcome, Numbered.run.publish (Domain.natural.supply 500) true facts (deletedStore 3) =
        .ok outcome := by
  have computed : ((Numbered.run.engine.close (Numbered.run.sources (deletedStore 3))).map
      fun facts => decide (∀ fact ∈ facts, fact.isSource = false →
        (deletedStore 3).currentRow (Numbered.run.assertionId fact) = none)) = .ok true := by
    decide +kernel
  obtain ⟨facts, closed, unused⟩ := Except.map_eq_ok.mp computed
  refine ⟨facts, closed, (Materialization.publish_close_iff deletedStore_reachable.1 _ true
    (Numbered.fresh_revisionId (by decide +kernel)) closed).mpr ?_⟩
  refine Materialization.publishable_of_unheld deletedStore_reachable.1.linked closed ?_
  intro fact member generated
  have unheld := of_decide_eq_true unused fact member generated
  refine ⟨fun withheld => ?_, fun ineligible => ?_⟩
  · obtain ⟨current, found, _⟩ := withheld
    rw [current_eq, unheld] at found
    cases found
  · obtain ⟨row, found, _⟩ := ineligible
    rw [unheld] at found
    cases found

end Kestrel.AssertionStore
