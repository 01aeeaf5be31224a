import Kestrel.Storage.PublicationLedger

/-!
# When a closure can be published

A closure over a reachable store is published exactly when every generated fact is ready at its
turn and no proof that the ledger records names a withheld conclusion. When the inference may
write every conclusion, the depths of the facts make all of them ready.
-/

namespace Kestrel.AssertionStore

open Inference List Store

variable {D : Domain} {I L S : Type}

namespace Materialization

section Conditions

variable (run : Materialization D I L S) (store : Store D) (facts : List (Fact I L D.AssertionId))

def Precedes (first second : Fact I L D.AssertionId) : Prop :=
  first.depth < second.depth ∨
    first.depth = second.depth ∧ run.assertionId first < run.assertionId second

def Earlier (fact : Fact I L D.AssertionId) : Set (Fact I L D.AssertionId) :=
  {other | other ∈ facts ∧ other.isSource = false ∧ run.Precedes other fact}

/-- Every generated fact has, when its turn comes, a proof over sources and earlier conclusions
that are not withheld, which is eligible where a revision is to be written; and no proof of a
conclusion that the inference owns names a withheld one. -/
structure Publishable [LinearOrder S] : Prop where
  ready : ∀ fact ∈ facts, fact.isSource = false →
    run.Ready store facts (run.Earlier facts fact) fact
  named : ∀ fact ∈ facts, fact.isSource = false → store.Owned (run.assertionId fact) →
    ∀ derivation ∈ fact.derivations, ∀ premise ∈ derivation.premises, ¬ store.Withheld premise

end Conditions

variable {run : Materialization D I L S} {store : Store D}
  {facts : List (Fact I L D.AssertionId)}

variable {fact : Fact I L D.AssertionId}

section Order

theorem precedesEq_total (first second : Fact I L D.AssertionId) :
    run.PrecedesEq first second ∨ run.PrecedesEq second first := by
  unfold PrecedesEq
  rcases Nat.lt_trichotomy first.depth second.depth with less | same | greater
  · exact .inl (.inl less)
  · rcases le_total (run.assertionId first) (run.assertionId second) with le | le
    · exact .inl (.inr ⟨same, le⟩)
    · exact .inr (.inr ⟨same.symm, le⟩)
  · exact .inr (.inl greater)

theorem precedesEq_trans {first second third : Fact I L D.AssertionId}
    (left : run.PrecedesEq first second) (right : run.PrecedesEq second third) :
    run.PrecedesEq first third := by
  unfold PrecedesEq at left right ⊢
  rcases left with less | ⟨same, le⟩
  · rcases right with less' | ⟨same', _⟩
    · exact .inl (less.trans less')
    · exact .inl (same' ▸ less)
  · rcases right with less' | ⟨same', le'⟩
    · exact .inl (same.symm ▸ less')
    · exact .inr ⟨same.trans same', le.trans le'⟩

instance : Std.Total run.PrecedesEq := ⟨precedesEq_total⟩

instance : IsTrans _ run.PrecedesEq := ⟨fun _ _ _ => precedesEq_trans⟩

theorem mem_publicationOrder :
    fact ∈ run.publicationOrder facts ↔ fact ∈ facts ∧ fact.isSource = false := by
  unfold publicationOrder
  rw [mem_insertionSort, mem_filter, Bool.not_eq_true']

theorem nodup_publicationOrder (distinct : (facts.map run.assertionId).Nodup) :
    ((run.publicationOrder facts).map run.assertionId).Nodup := by
  unfold publicationOrder
  refine (((perm_insertionSort _ _).map run.assertionId).nodup_iff).mpr ?_
  exact distinct.sublist ((filter_sublist).map run.assertionId)

theorem mem_processed_iff (distinct : (facts.map run.assertionId).Nodup)
    {processed rest : List (Fact I L D.AssertionId)} {other : Fact I L D.AssertionId}
    (split : run.publicationOrder facts = processed ++ fact :: rest) :
    other ∈ processed ↔ other ∈ run.Earlier facts fact := by
  have sorted : (run.publicationOrder facts).Pairwise run.PrecedesEq :=
    pairwise_insertionSort _ _
  have apart := nodup_publicationOrder distinct
  rw [split] at sorted apart
  rw [map_append, map_cons] at apart
  obtain ⟨_, tail, across⟩ := pairwise_append.mp sorted
  obtain ⟨_, _, disjoint⟩ := nodup_append.mp apart
  constructor
  · intro member
    obtain ⟨known, generated⟩ := mem_publicationOrder.mp
      (split ▸ mem_append_left _ member : other ∈ run.publicationOrder facts)
    refine ⟨known, generated, ?_⟩
    rcases across other member fact mem_cons_self with less | ⟨same, le⟩
    · exact .inl less
    · exact .inr ⟨same, lt_of_le_of_ne le (disjoint _ (mem_map_of_mem member) _ mem_cons_self)⟩
  · intro earlier
    obtain ⟨known, generated, precedes⟩ := earlier
    have listed : other ∈ run.publicationOrder facts :=
      mem_publicationOrder.mpr ⟨known, generated⟩
    rw [split] at listed
    rcases mem_append.mp listed with member | later
    · exact member
    · exfalso
      have after : run.PrecedesEq fact other := by
        rcases mem_cons.mp later with rfl | later
        · exact .inr ⟨rfl, le_refl _⟩
        · exact (pairwise_cons.mp tail).1 other later
      rcases precedes with less | ⟨same, less⟩ <;> rcases after with less' | ⟨same', le'⟩
      · omega
      · omega
      · omega
      · exact absurd less (not_lt_of_ge le')

end Order

section Loop

variable [LinearOrder S] {supply : Supply D}

/-- **The loop goes through exactly when every fact is ready at its turn.** -/
theorem persistLoop_iff (closing : run.Closing store facts) :
    (∀ state, (run.publicationOrder facts).foldlM (run.persistFact supply)
        ⟨store, run.sourceRevisionIds store facts, []⟩ = .ok state →
      run.Persisting store facts {fact | fact ∈ run.publicationOrder facts} state) ∧
    ((∃ state, (run.publicationOrder facts).foldlM (run.persistFact supply)
        ⟨store, run.sourceRevisionIds store facts, []⟩ = .ok state) ↔
      ∀ fact ∈ facts, fact.isSource = false →
        run.Ready store facts (run.Earlier facts fact) fact) := by
  have sets : ∀ {processed rest : List (Fact I L D.AssertionId)} {fact},
      run.publicationOrder facts = processed ++ fact :: rest →
        {other | other ∈ processed} = run.Earlier facts fact :=
    fun split => Set.ext fun other => mem_processed_iff closing.distinct split
  obtain ⟨kept, succeeds⟩ := @Except.foldlM_succeeds_iff _ _ _ (run.persistFact supply)
    (fun processed state => run.Persisting store facts {fact | fact ∈ processed} state)
    (fun processed fact => run.Ready store facts {other | other ∈ processed} fact)
    (run.publicationOrder facts)
    (by
      intro processed fact rest state split persisting
      have member : fact ∈ run.publicationOrder facts := by
        rw [split]
        exact mem_append_right _ mem_cons_self
      have apart := nodup_publicationOrder closing.distinct
      rw [split, map_append, map_cons] at apart
      obtain ⟨_, _, disjoint⟩ := nodup_append.mp apart
      have grown : insert fact {other | other ∈ processed} =
          {other | other ∈ processed ++ [fact]} := by
        ext other
        simp only [Set.mem_insert_iff, Set.mem_ofPred_eq, mem_append, mem_singleton]
        exact or_comm
      rw [← grown]
      exact persisting.persistFact closing (mem_publicationOrder.mp member).1
        fun other known => disjoint _ (mem_map_of_mem known) _ mem_cons_self)
    ⟨store, run.sourceRevisionIds store facts, []⟩
    (by
      have initial := persisting_initial closing
      have none_yet : {fact : Fact I L D.AssertionId | fact ∈ []} = ∅ := by
        ext fact
        simp [not_mem_nil, Set.mem_empty_iff_false]
      rw [none_yet]
      exact initial)
  refine ⟨kept, succeeds.trans ?_⟩
  constructor
  · intro ready fact member generated
    obtain ⟨processed, rest, split⟩ :=
      append_of_mem (mem_publicationOrder.mpr ⟨member, generated⟩)
    rw [← sets split]
    exact ready processed fact rest split
  · intro ready processed fact rest split
    have member : fact ∈ run.publicationOrder facts := by
      rw [split]
      exact mem_append_right _ mem_cons_self
    obtain ⟨known, generated⟩ := mem_publicationOrder.mp member
    rw [sets split]
    exact ready fact known generated

end Loop

section Ledger

variable {state : PersistState D I L}

theorem Persisting.active_iff (closing : run.Closing store facts)
    (persisting : run.Persisting store facts {fact | fact ∈ run.publicationOrder facts} state)
    {assertionId : D.AssertionId}
    (known : ∃ fact ∈ facts, run.assertionId fact = assertionId) :
    state.store.getAssertion assertionId ≠ none ↔ ¬ store.Withheld assertionId := by
  constructor
  · intro active withheld
    obtain ⟨assertion, found⟩ := Option.ne_none_iff_exists'.mp active
    obtain ⟨row, located, rfl, active⟩ := getAssertion_eq_some.mp found
    rw [persisting.kept _ fun _ _ _ writable => writable.not_withheld withheld] at located
    exact (not_withheld_of_active located active).1 withheld
  · intro held
    obtain ⟨fact, member, rfl⟩ := known
    have recorded : run.RecordedAt store facts {fact | fact ∈ run.publicationOrder facts}
        (run.assertionId fact) := by
      cases source : fact.isSource with
      | true => exact .inl ⟨fact, member, source, rfl⟩
      | false => exact .inr ⟨fact, mem_publicationOrder.mpr ⟨member, source⟩, rfl, held⟩
    obtain ⟨row, found, active, _⟩ := persisting.row_of_recorded closing recorded
    rw [getAssertion_eq_some.mpr ⟨row, found, rfl, active⟩]
    exact Option.some_ne_none _

theorem Persisting.inferred_iff
    (persisting : run.Persisting store facts {fact | fact ∈ run.publicationOrder facts} state) (member : fact ∈ run.publicationOrder facts) :
    (∃ current, state.store.getAssertion (run.assertionId fact) = some current ∧
      current.epistemicState = .inferred) ↔ store.Owned (run.assertionId fact) := by
  by_cases writable : store.Writable (run.assertionId fact)
  · obtain ⟨row, found, active, inferred, _⟩ := persisting.written fact member writable
    exact iff_of_true ⟨row.assertion,
      getAssertion_eq_some.mpr ⟨row, found, rfl, active⟩, inferred⟩ (.inl writable)
  · have kept := persisting.kept (run.assertionId fact) fun _ _ _ => writable
    constructor
    · intro found
      obtain ⟨current, found, inferred⟩ := found
      obtain ⟨row, located, rfl, active⟩ := getAssertion_eq_some.mp found
      exact .inr ⟨row, kept ▸ located, active, inferred⟩
    · intro owned
      rcases owned with impossible | ⟨row, located, active, inferred⟩
      · exact absurd impossible writable
      · exact ⟨row.assertion, getAssertion_eq_some.mpr
          ⟨row, kept.trans located, rfl, active⟩, inferred⟩

theorem Persisting.factResolves_iff [LinearOrder S] (closing : run.Closing store facts)
    (persisting : run.Persisting store facts {fact | fact ∈ run.publicationOrder facts} state) (member : fact ∈ run.publicationOrder facts) :
    state.store.FactResolves (run.published fact) ↔ (store.Owned (run.assertionId fact) →
      ∀ derivation ∈ fact.derivations, ∀ premise ∈ derivation.premises,
        ¬ store.Withheld premise) := by
  have resolves : ∀ derivation ∈ fact.derivations,
      (state.store.Resolves (run.ruleName derivation.ruleId, derivation.premises) ↔
        ∀ premise ∈ derivation.premises, ¬ store.Withheld premise) := by
    intro derivation recorded
    have proof := closing.recorded fact (mem_publicationOrder.mp member).1 derivation recorded
    refine (persisting.linked.premiseRevisions_iff proof.nodup).trans ?_
    exact forall₂_congr fun premise named =>
      persisting.active_iff closing (proof.known premise named)
  rw [← persisting.inferred_iff member]
  constructor
  · intro resolved owned derivation recorded
    obtain ⟨current, found, inferred⟩ := owned
    refine (resolves derivation recorded).mp (resolved current found inferred _ ?_)
    exact mem_map_of_mem ((mem_insertionSort _).mpr recorded)
  · intro held current found inferred listed member
    obtain ⟨derivation, sorted, rfl⟩ := mem_map.mp member
    have recorded := (mem_insertionSort _).mp sorted
    exact (resolves derivation recorded).mpr (held ⟨current, found, inferred⟩ derivation recorded)

end Ledger

/-- **A closure is published exactly when it is publishable.** -/
theorem publish_iff [LinearOrder S] {supply : Supply D} {replace : Bool}
    (closing : run.Closing store facts) :
    (∃ outcome, run.publish supply replace facts store = .ok outcome) ↔
      run.Publishable store facts := by
  obtain ⟨kept, succeeds⟩ := @persistLoop_iff _ _ _ _ _ _ _ _ supply closing
  have generated : ∀ fact, fact ∈ facts.filter (!·.isSource) ↔
      fact ∈ run.publicationOrder facts := by
    intro fact
    rw [mem_publicationOrder, mem_filter, Bool.not_eq_true']
  constructor
  · intro outcome
    obtain ⟨outcome, published⟩ := outcome
    obtain ⟨⟨persisted, counts⟩, persists, published⟩ := Except.bind_eq_ok.mp published
    obtain ⟨state, looped, same⟩ := Except.bind_eq_ok.mp persists
    cases same
    obtain ⟨written, recorded, _⟩ := Except.bind_eq_ok.mp published
    refine ⟨succeeds.mp ⟨state, looped⟩, ?_⟩
    intro fact member source
    have listed : fact ∈ run.publicationOrder facts := mem_publicationOrder.mpr ⟨member, source⟩
    exact ((kept state looped).factResolves_iff closing listed).mp
      (writeActiveDerivations_iff.mp ⟨written, recorded⟩ _
        (mem_map_of_mem ((generated fact).mpr listed)))
  · intro publishable
    obtain ⟨state, looped⟩ := succeeds.mpr publishable.ready
    have resolves : ∀ fact ∈ (facts.filter (!·.isSource)).map run.published,
        state.store.FactResolves fact := by
      intro listed member
      obtain ⟨fact, unsourced, rfl⟩ := mem_map.mp member
      have placed := (generated fact).mp unsourced
      obtain ⟨known, source⟩ := mem_publicationOrder.mp placed
      exact ((kept state looped).factResolves_iff closing placed).mpr
        (publishable.named fact known source)
    have ledger : ∃ after, state.store.writeActiveDerivations run.profile
        ((facts.filter (!·.isSource)).map run.published) replace = .ok after :=
      writeActiveDerivations_iff.mpr resolves
    obtain ⟨written, recorded⟩ := ledger
    unfold publish persistFacts
    rw [looped, Except.ok_bind]
    exact ⟨_, by
      change (state.store.writeActiveDerivations run.profile _ replace >>= fun _ => _) = _
      rw [recorded]
      rfl⟩

end Materialization

end Kestrel.AssertionStore
