import Mathlib.Data.Nat.Pairing
import Kestrel.Base.Except
import Kestrel.Base.Horn
import Kestrel.Knowledge.InferenceRules

/-!
# The closure is the least set closed under the rules with distinct premises

The dictionary skips a rule instance that names one fact as two of its premises, because the
premises of a proof become the inputs of one lineage and those are distinct. Relative to the
remaining instances the bounded loop computes the least closed set, and records for every
generated fact exactly the accepted instances that conclude it.
-/

namespace Kestrel.Inference

open Horn List Except

variable {I L K : Type*}

/-- The rule instances of a profile with distinct recorded premises, as Horn rules over the
recorded premises and the consulted declarations. -/
def DistinctRule (setting : Setting I L K) (owl : Bool) (premises : List (Triple I L))
    (conclusion : Triple I L) : Prop :=
  ∃ candidate consulted, RuleShape setting owl candidate consulted ∧
    candidate.premises.Nodup ∧ premises = candidate.premises ++ consulted ∧
    conclusion = candidate.conclusion

/-- All rule instances of a profile, also those that use one fact twice. -/
def AnyRule (setting : Setting I L K) (owl : Bool) (premises : List (Triple I L))
    (conclusion : Triple I L) : Prop :=
  ∃ candidate consulted, RuleShape setting owl candidate consulted ∧
    premises = candidate.premises ++ consulted ∧ conclusion = candidate.conclusion

def Entailed (setting : Setting I L K) (owl : Bool) (sources : List (Triple I L)) :
    Triple I L → Prop :=
  Derives (DistinctRule setting owl) {fact | fact ∈ sources}

namespace Engine

variable {engine : Engine I L K} {sources : List (Triple I L)} {depth : ℕ}

variable {candidate : Candidate I L} {facts : List (Fact I L K)} {triple : Triple I L}
  {before after : CloseState I L K}

theorem accepts_iff : engine.Accepts candidate ↔
      candidate.premises.Nodup ∧ candidate.conclusion ∉ candidate.premises := by
  have injective := engine.setting.assertionId_injective
  rw [Accepts, nodup_map_iff injective, mem_map_of_injective injective]

theorem mem_triples : triple ∈ triples facts ↔ ∃ fact ∈ facts, fact.triple = triple := by
  simp only [triples, mem_map]

/-- What a later state keeps of an earlier one. -/
structure Grows (before after : CloseState I L K) : Prop where
  triples_subset : ∀ triple ∈ triples before.facts, triple ∈ triples after.facts
  entry : ∀ later ∈ after.facts, later.triple ∈ triples before.facts →
    ∃ fact ∈ before.facts, fact.triple = later.triple ∧ fact.isSource = later.isSource ∧
      ∀ derivation ∈ fact.derivations, derivation ∈ later.derivations
  unchanged : after.added = false → before.added = false ∧
    ∀ triple ∈ triples after.facts, triple ∈ triples before.facts

theorem Grows.of_facts_eq (facts : after.facts = before.facts) (added : after.added = before.added)
    : Grows before after := by
  refine ⟨?_, ?_, ?_⟩
  · rw [facts]
    exact fun _ member => member
  · rw [facts]
    exact fun later member _ => ⟨later, member, rfl, rfl, fun _ recorded => recorded⟩
  · rw [facts, added]
    exact fun quiet => ⟨quiet, fun _ member => member⟩

theorem Grows.refl (state : CloseState I L K) : Grows state state :=
  .of_facts_eq rfl rfl

theorem Grows.trans {first second third : CloseState I L K} (left : Grows first second)
    (right : Grows second third) : Grows first third := by
  refine ⟨fun triple member => right.triples_subset _ (left.triples_subset _ member), ?_, ?_⟩
  · intro later member present
    obtain ⟨middle, middle_member, middle_triple, middle_source, middle_kept⟩ :=
      right.entry later member (left.triples_subset _ present)
    obtain ⟨fact, fact_member, fact_triple, fact_source, fact_kept⟩ :=
      left.entry middle middle_member (middle_triple ▸ present)
    exact ⟨fact, fact_member, fact_triple.trans middle_triple, fact_source.trans middle_source,
      fun derivation recorded => middle_kept _ (fact_kept _ recorded)⟩
  · intro quiet
    obtain ⟨middle_quiet, middle_same⟩ := right.unchanged quiet
    obtain ⟨first_quiet, first_same⟩ := left.unchanged middle_quiet
    exact ⟨first_quiet, fun triple member => first_same _ (middle_same _ member)⟩

/-- What every state of a closure keeps: entries are sources or derived, and every recorded
proof is an accepted rule instance on the facts present. -/
structure Sound (engine : Engine I L K) (sources : List (Triple I L))
    (state : CloseState I L K) : Prop where
  sources_subset : ∀ triple ∈ sources, triple ∈ triples state.facts
  isSource_iff : ∀ fact ∈ state.facts, fact.isSource = true ↔ fact.triple ∈ sources
  entailed : ∀ triple ∈ triples state.facts, Entailed engine.setting engine.owl sources triple
  recorded : ∀ fact ∈ state.facts, ∀ derivation ∈ fact.derivations,
    fact.isSource = false ∧ ∃ candidate consulted,
      RuleShape engine.setting engine.owl candidate consulted ∧
      (∀ triple ∈ candidate.premises ++ consulted, triple ∈ triples state.facts) ∧
      engine.Accepts candidate ∧ candidate.conclusion = fact.triple ∧
      engine.derivation candidate = derivation

/-- The candidate has left its mark: its conclusion is present, with its proof unless the
conclusion is a source. -/
def Done (engine : Engine I L K) (state : CloseState I L K) (candidate : Candidate I L) :
    Prop :=
  engine.Accepts candidate →
    candidate.conclusion ∈ triples state.facts ∧
    ∀ fact ∈ state.facts, fact.triple = candidate.conclusion → fact.isSource = false →
      engine.derivation candidate ∈ fact.derivations

theorem Done.grows (done : engine.Done before candidate) (grows : Grows before after) :
    engine.Done after candidate := by
  intro accepted
  obtain ⟨present, recorded⟩ := done accepted
  refine ⟨grows.triples_subset _ present, ?_⟩
  intro later member same generated
  obtain ⟨fact, fact_member, fact_triple, fact_source, kept⟩ :=
    grows.entry later member (same ▸ present)
  exact kept _ (recorded fact fact_member (fact_triple.trans same) (fact_source.trans generated))

/-! ## One offer -/

theorem checkTime_eq_ok (checked : engine.checkTime before = .ok after) :
    after.facts = before.facts ∧ after.added = before.added := by
  unfold checkTime at checked
  split at checked
  · cases checked
  · cases checked
    exact ⟨rfl, rfl⟩

theorem checkMemory_eq_ok (checked : engine.checkMemory before = .ok after) : after = before := by
  unfold checkMemory at checked
  split at checked
  · cases checked
  · cases checked
    rfl

variable [LinearOrder K]

theorem mem_snapshot : triple ∈ engine.snapshot facts ↔ triple ∈ triples facts := by
  rw [snapshot, mem_insertionSort]

theorem recordDerivation_triple (derivation : Derivation K) (fact : Fact I L K) :
    (recordDerivation derivation fact).triple = fact.triple ∧
      (recordDerivation derivation fact).isSource = fact.isSource := by
  unfold recordDerivation
  split <;> exact ⟨rfl, rfl⟩

theorem mem_recordDerivation {derivation each : Derivation K} {fact : Fact I L K} :
    each ∈ (recordDerivation derivation fact).derivations ↔
      each ∈ fact.derivations ∨ (fact.isSource = false ∧ each = derivation) := by
  unfold recordDerivation
  split
  · rename_i skipped
    constructor
    · exact .inl
    · rintro (present | ⟨generated, rfl⟩)
      · exact present
      · rcases skipped with source | present
        · rw [source] at generated
          cases generated
        · exact present
  · rename_i fresh
    simp only [not_or, Bool.not_eq_true] at fresh
    simp [mem_append, fresh.1, true_and]

variable [DecidableEq I] [DecidableEq L]

theorem mem_map_record {derivation : Derivation K} {conclusion : Triple I L} {later : Fact I L K} :
    later ∈ (facts.map fun fact =>
        if fact.triple = conclusion then recordDerivation derivation fact else fact) ↔
      ∃ fact ∈ facts, (fact.triple = conclusion ∧ recordDerivation derivation fact = later) ∨
        (fact.triple ≠ conclusion ∧ fact = later) := by
  rw [mem_map]
  refine exists_congr fun fact => and_congr_right fun _ => ?_
  split
  · rename_i same
    simp only [same, true_and, ne_eq, not_true_eq_false, false_and, or_false]
  · rename_i different
    simp only [different, false_and, ne_eq, not_false_eq_true, true_and, false_or]

theorem triples_map_record (facts : List (Fact I L K)) (derivation : Derivation K)
    (conclusion : Triple I L) :
    triples (facts.map fun fact =>
      if fact.triple = conclusion then recordDerivation derivation fact else fact) =
      triples facts := by
  simp only [triples, map_map]
  refine map_congr_left fun fact _ => ?_
  simp only [Function.comp_apply]
  split
  · exact (recordDerivation_triple derivation fact).1
  · rfl

theorem enter_cases (entered : engine.enter depth candidate before = .ok after) :
    (candidate.conclusion ∈ triples before.facts ∧ after.added = before.added ∧
      after.facts = before.facts.map fun fact =>
        if fact.triple = candidate.conclusion then
          recordDerivation (engine.derivation candidate) fact
        else fact) ∨
    (candidate.conclusion ∉ triples before.facts ∧ after.added = true ∧
      after.facts = before.facts ++
        [⟨candidate.conclusion, depth, false, [engine.derivation candidate]⟩]) := by
  unfold enter at entered
  split at entered
  · rename_i present
    cases entered
    exact .inl ⟨present, rfl, rfl⟩
  · rename_i absent
    split at entered
    · cases entered
    · cases entered
      exact .inr ⟨absent, rfl, rfl⟩

theorem add_cases (offered : engine.add depth before candidate = .ok after) :
    (¬engine.Accepts candidate ∧ after.facts = before.facts ∧ after.added = before.added) ∨
    (engine.Accepts candidate ∧ ∃ polled : CloseState I L K, polled.facts = before.facts ∧
      polled.added = before.added ∧ engine.enter depth candidate polled = .ok after) := by
  unfold add at offered
  obtain ⟨polled, checked, offered⟩ := bind_eq_ok.mp offered
  obtain ⟨same_facts, same_added⟩ := checkTime_eq_ok checked
  split at offered
  · rename_i accepted
    obtain ⟨entered, enters, checked⟩ := bind_eq_ok.mp offered
    cases checkMemory_eq_ok checked
    exact .inr ⟨accepted, polled, same_facts, same_added, enters⟩
  · rename_i rejected
    cases offered
    exact .inl ⟨rejected, same_facts, same_added⟩

theorem grows_enter (entered : engine.enter depth candidate before = .ok after)
    : Grows before after := by
  rcases enter_cases entered with ⟨_, same_added, facts⟩ | ⟨absent, grown, facts⟩
  · refine ⟨?_, ?_, ?_⟩
    · rw [facts, triples_map_record]
      exact fun _ member => member
    · intro later member _
      rw [facts, mem_map_record] at member
      obtain ⟨fact, fact_member, ⟨_, rfl⟩ | ⟨_, rfl⟩⟩ := member
      · obtain ⟨same_triple, same_source⟩ :=
          recordDerivation_triple (engine.derivation candidate) fact
        exact ⟨fact, fact_member, same_triple.symm, same_source.symm,
          fun derivation present => mem_recordDerivation.mpr (.inl present)⟩
      · exact ⟨fact, fact_member, rfl, rfl, fun _ present => present⟩
    · rw [facts, triples_map_record, same_added]
      exact fun quiet => ⟨quiet, fun _ member => member⟩
  · refine ⟨?_, ?_, ?_⟩
    · intro triple member
      obtain ⟨fact, fact_member, rfl⟩ := mem_triples.mp member
      rw [facts]
      exact mem_triples.mpr ⟨fact, mem_append_left _ fact_member, rfl⟩
    · intro later member present
      rw [facts] at member
      rcases mem_append.mp member with earlier | fresh
      · exact ⟨later, earlier, rfl, rfl, fun _ recorded => recorded⟩
      · cases mem_singleton.mp fresh
        exact absurd present absent
    · rw [grown]
      exact fun impossible => by cases impossible

theorem grows_add (offered : engine.add depth before candidate = .ok after)
    : Grows before after := by
  rcases add_cases offered with ⟨_, facts, added⟩ | ⟨_, polled, facts, added, entered⟩
  · exact .of_facts_eq facts added
  · exact (Grows.of_facts_eq facts added).trans (grows_enter entered)

theorem done_add (offered : engine.add depth before candidate = .ok after)
    : engine.Done after candidate := by
  intro accepted
  rcases add_cases offered with ⟨rejected, _⟩ | ⟨_, polled, _, _, entered⟩
  · exact absurd accepted rejected
  rcases enter_cases entered with ⟨present, _, facts⟩ | ⟨absent, _, facts⟩
  · rw [facts]
    refine ⟨by rwa [triples_map_record], ?_⟩
    intro later member same generated
    obtain ⟨fact, _, ⟨_, rfl⟩ | ⟨different, rfl⟩⟩ := mem_map_record.mp member
    · rw [(recordDerivation_triple _ fact).2] at generated
      exact mem_recordDerivation.mpr (.inr ⟨generated, rfl⟩)
    · exact absurd same different
  · rw [facts]
    refine ⟨by simp [triples], ?_⟩
    intro later member same _
    rcases mem_append.mp member with earlier | fresh
    · exact absurd (mem_triples.mpr ⟨later, earlier, same⟩) absent
    · cases mem_singleton.mp fresh
      exact mem_singleton_self _

/-- Offering an instance whose premises are present keeps the state sound. -/
theorem Sound.add (sound : Sound engine sources before) {consulted : List (Triple I L)}
    (shape : RuleShape engine.setting engine.owl candidate consulted)
    (inside : ∀ triple ∈ candidate.premises ++ consulted, triple ∈ triples before.facts)
    (offered : engine.add depth before candidate = .ok after) : Sound engine sources after := by
  have grows := grows_add offered
  rcases add_cases offered with ⟨_, facts, _⟩ | ⟨accepted, polled, polled_facts, _, entered⟩
  · refine ⟨?_, ?_, ?_, ?_⟩
    · rw [facts]
      exact sound.sources_subset
    · rw [facts]
      exact sound.isSource_iff
    · rw [facts]
      exact sound.entailed
    · rw [facts]
      exact sound.recorded
  have conclusion_entailed :
      Entailed engine.setting engine.owl sources candidate.conclusion :=
    .rule ⟨candidate, consulted, shape, (accepts_iff.mp accepted).1, rfl, rfl⟩
      (fun triple member => sound.entailed triple (inside triple member))
  -- The proof that this offer may record.
  have own : ∀ fact : Fact I L K, fact.triple = candidate.conclusion → ∃ offered consulted,
      RuleShape engine.setting engine.owl offered consulted ∧
      (∀ triple ∈ offered.premises ++ consulted, triple ∈ triples after.facts) ∧
      engine.Accepts offered ∧ offered.conclusion = fact.triple ∧
      engine.derivation offered = engine.derivation candidate := fun fact same =>
    ⟨candidate, consulted, shape,
      fun triple member => grows.triples_subset _ (inside triple member), accepted, same.symm,
      rfl⟩
  have earlier : ∀ fact ∈ before.facts, ∀ derivation ∈ fact.derivations,
      fact.isSource = false ∧ ∃ offered consulted,
      RuleShape engine.setting engine.owl offered consulted ∧
      (∀ triple ∈ offered.premises ++ consulted, triple ∈ triples after.facts) ∧
      engine.Accepts offered ∧ offered.conclusion = fact.triple ∧
      engine.derivation offered = derivation := by
    intro fact member derivation recorded
    obtain ⟨generated, offered, consulted, shape, inside, accepted, same, named⟩ :=
      sound.recorded fact member derivation recorded
    exact ⟨generated, offered, consulted, shape,
      fun triple member => grows.triples_subset _ (inside triple member), accepted, same, named⟩
  rcases enter_cases entered with ⟨present, _, facts⟩ | ⟨absent, _, facts⟩
  · rw [polled_facts] at facts
    refine ⟨fun triple member => grows.triples_subset _ (sound.sources_subset triple member),
      ?_, ?_, ?_⟩
    · intro later member
      rw [facts, mem_map_record] at member
      obtain ⟨fact, fact_member, ⟨_, rfl⟩ | ⟨_, rfl⟩⟩ := member
      · rw [(recordDerivation_triple _ fact).1, (recordDerivation_triple _ fact).2]
        exact sound.isSource_iff fact fact_member
      · exact sound.isSource_iff fact fact_member
    · rw [facts, triples_map_record]
      exact sound.entailed
    · intro later member derivation recorded
      rw [facts, mem_map_record] at member
      obtain ⟨fact, fact_member, ⟨same, rfl⟩ | ⟨_, rfl⟩⟩ := member
      · rw [(recordDerivation_triple _ fact).1, (recordDerivation_triple _ fact).2]
        rcases mem_recordDerivation.mp recorded with old | ⟨generated, rfl⟩
        · exact earlier fact fact_member derivation old
        · exact ⟨generated, own fact same⟩
      · exact earlier fact fact_member derivation recorded
  · rw [polled_facts] at absent facts
    refine ⟨fun triple member => grows.triples_subset _ (sound.sources_subset triple member),
      ?_, ?_, ?_⟩
    · intro later member
      rw [facts] at member
      rcases mem_append.mp member with old | fresh
      · exact sound.isSource_iff later old
      · cases mem_singleton.mp fresh
        simp only [Bool.false_eq_true, false_iff]
        exact fun source => absent (sound.sources_subset _ source)
    · intro triple member
      rw [facts, triples, map_append] at member
      rcases mem_append.mp member with old | fresh
      · exact sound.entailed triple old
      · cases mem_singleton.mp fresh
        exact conclusion_entailed
    · intro later member derivation recorded
      rw [facts] at member
      rcases mem_append.mp member with old | fresh
      · exact earlier later old derivation recorded
      · cases mem_singleton.mp fresh
        cases mem_singleton.mp recorded
        exact ⟨rfl, own _ rfl⟩

/-! ## One round -/

theorem applyRules_spec (sound : Sound engine sources before)
    (applied : engine.applyRules depth before = .ok after) :
    Sound engine sources after ∧
      (after.added = false → ∀ triple ∈ triples after.facts, triple ∈ triples before.facts) ∧
      ∀ candidate ∈ candidates engine.setting engine.owl (engine.snapshot before.facts),
        engine.Done after candidate := by
  unfold applyRules at applied
  have started : Sound engine sources { before with added := false } := { sound with }
  have grows : Grows { before with added := false } after :=
    foldlM_relates Grows.refl Grows.trans (fun _ _ _ _ => grows_add) applied
  refine ⟨?_, fun quiet => (grows.unchanged quiet).2, ?_⟩
  · have offers : ∀ state candidate next,
        candidate ∈ candidates engine.setting engine.owl (engine.snapshot before.facts) →
        (Sound engine sources state ∧
          ∀ triple ∈ triples before.facts, triple ∈ triples state.facts) →
        engine.add depth state candidate = .ok next →
        Sound engine sources next ∧
          ∀ triple ∈ triples before.facts, triple ∈ triples next.facts := by
      rintro state candidate next offered ⟨valid, kept⟩ added
      obtain ⟨consulted, shape, inside⟩ := mem_candidates.mp offered
      refine ⟨valid.add shape (fun triple member =>
        kept triple (mem_snapshot.mp (inside triple member))) added, ?_⟩
      exact fun triple member => (grows_add added).triples_subset _ (kept triple member)
    exact (foldlM_invariant offers ⟨started, fun _ member => member⟩ applied).1
  · exact foldlM_establishes Grows.refl Grows.trans (fun done grows => done.grows grows)
      (fun _ _ _ _ => grows_add) (fun _ _ _ _ => done_add) applied

/-! ## The closure -/

/-- What the closure returns: a sound dictionary in which every instance has left its mark. -/
structure Complete (engine : Engine I L K) (sources : List (Triple I L))
    (facts : List (Fact I L K)) : Prop where
  sound : ∀ added polls, Sound engine sources ⟨facts, added, polls⟩
  done : ∀ candidate consulted, RuleShape engine.setting engine.owl candidate consulted →
    (∀ triple ∈ candidate.premises ++ consulted, triple ∈ triples facts) →
    ∀ added polls, engine.Done ⟨facts, added, polls⟩ candidate

theorem closeLoop_complete {remaining : ℕ} {state : CloseState I L K}
    (sound : Sound engine sources state) (closed : engine.closeLoop remaining state = .ok facts)
    : Complete engine sources facts := by
  induction remaining generalizing state with
  | zero => cases closed
  | succ remaining ih =>
    obtain ⟨polled, checked, closed⟩ := bind_eq_ok.mp closed
    obtain ⟨applied, applies, closed⟩ := bind_eq_ok.mp closed
    obtain ⟨ended, ended_checked, closed⟩ := bind_eq_ok.mp closed
    obtain ⟨fitting, memory, closed⟩ := bind_eq_ok.mp closed
    cases checkMemory_eq_ok memory
    obtain ⟨polled_facts, _⟩ := checkTime_eq_ok checked
    obtain ⟨ended_facts, ended_added⟩ := checkTime_eq_ok ended_checked
    have polled_sound : Sound engine sources polled := by
      refine ⟨?_, ?_, ?_, ?_⟩ <;> rw [polled_facts]
      exacts [sound.sources_subset, sound.isSource_iff, sound.entailed, sound.recorded]
    obtain ⟨applied_sound, unchanged, done⟩ := applyRules_spec polled_sound applies
    have ended_sound : ∀ added polls, Sound engine sources ⟨ended.facts, added, polls⟩ := by
      intro added polls
      rw [ended_facts]
      exact ⟨applied_sound.sources_subset, applied_sound.isSource_iff, applied_sound.entailed,
        applied_sound.recorded⟩
    split at closed
    · exact ih (ended_sound ended.added ended.polls) closed
    · rename_i quiet
      cases closed
      refine ⟨ended_sound, ?_⟩
      intro candidate consulted shape inside added polls
      rw [ended_facts] at inside ⊢
      refine done candidate (mem_candidates.mpr ⟨consulted, shape, ?_⟩)
      intro triple member
      rw [ended_added, Bool.not_eq_true] at quiet
      exact mem_snapshot.mpr (unchanged quiet triple (inside triple member))

theorem close_complete (closed : engine.close sources = .ok facts) :
    Complete engine sources facts := by
  unfold close at closed
  obtain ⟨started, checked, closed⟩ := bind_eq_ok.mp closed
  cases checkMemory_eq_ok checked
  refine closeLoop_complete ⟨?_, ?_, ?_, ?_⟩ closed
  · intro triple member
    simpa [triples, sourceFacts] using member
  · intro fact member
    obtain ⟨triple, source, rfl⟩ := mem_map.mp member
    simp only [source]
  · intro triple member
    exact .base (by simpa [triples, sourceFacts] using member)
  · intro fact member derivation recorded
    obtain ⟨triple, _, rfl⟩ := mem_map.mp member
    cases recorded

omit [LinearOrder K] in
theorem Complete.closed (complete : Complete engine sources facts) :
    Closed (DistinctRule engine.setting engine.owl) {triple | triple ∈ triples facts} := by
  rintro premises conclusion ⟨candidate, consulted, shape, distinct, rfl, rfl⟩ inside
  by_cases repeated : candidate.conclusion ∈ candidate.premises
  · exact inside _ (mem_append_left _ repeated)
  · exact (complete.done candidate consulted shape inside false 0
      (accepts_iff.mpr ⟨distinct, repeated⟩)).1

omit [LinearOrder K] in
theorem Complete.mem_triples_iff_entailed (complete : Complete engine sources facts)
    (triple : Triple I L) :
    triple ∈ triples facts ↔ Entailed engine.setting engine.owl sources triple := by
  have sound := complete.sound false 0
  exact ⟨sound.entailed triple,
    fun derived => derived.mem_of_closed sound.sources_subset complete.closed⟩

omit [LinearOrder K] in
theorem Complete.exists_generated (complete : Complete engine sources facts)
    (entailed : Entailed engine.setting engine.owl sources triple) (generated : triple ∉ sources) :
    ∃ fact ∈ facts, fact.triple = triple ∧ fact.isSource = false := by
  obtain ⟨fact, member, rfl⟩ :=
    mem_triples.mp ((complete.mem_triples_iff_entailed triple).mpr entailed)
  refine ⟨fact, member, rfl, ?_⟩
  have iff_source := (complete.sound false 0).isSource_iff fact member
  exact Bool.eq_false_iff.mpr fun source => generated (iff_source.mp source)

/-- Whenever the closure returns, its facts are the least set that contains the sources and is
closed under the rule instances with distinct premises. -/
theorem close_isLeast (engine : Engine I L K) (sources : List (Triple I L))
    (facts : List (Fact I L K)) (closed : engine.close sources = .ok facts) :
    IsLeast {set | {triple | triple ∈ sources} ⊆ set ∧
        Closed (DistinctRule engine.setting engine.owl) set}
      {triple | triple ∈ triples facts} := by
  have exact_closure : {triple | triple ∈ triples facts} =
      {triple | Entailed engine.setting engine.owl sources triple} :=
    Set.ext (close_complete closed).mem_triples_iff_entailed
  rw [exact_closure]
  exact isLeast_derives

end Engine

/-! ## Numbered terms -/

namespace Numbered

/-- A number for an object: IRIs are even and literals odd. -/
def objectCode : AssertionObject ℕ ℕ → ℕ
  | .iri value => 2 * value
  | .literal value => 2 * value + 1

def assertionId (triple : Triple ℕ ℕ) : ℕ :=
  Nat.pair triple.subject (Nat.pair triple.predicate (objectCode triple.object))

theorem assertionId_injective : Function.Injective assertionId := by
  rintro ⟨subject, predicate, object⟩ ⟨subject', predicate', object'⟩ same
  simp only [assertionId, Nat.pair_eq_pair] at same
  obtain ⟨rfl, rfl, codes⟩ := same
  cases object with
  | iri value =>
    cases object' with
    | iri value' =>
      obtain rfl : value = value' := by simp only [objectCode] at codes; omega
      rfl
    | literal value' => simp only [objectCode] at codes; omega
  | literal value =>
    cases object' with
    | iri value' => simp only [objectCode] at codes; omega
    | literal value' =>
      obtain rfl : value = value' := by simp only [objectCode] at codes; omega
      rfl

/-- A setting with numbers for IRIs and literals: the vocabulary is 0 to 10, the literal 0 is
the array that names property 20 twice, and every other literal is no array. -/
def setting : Setting ℕ ℕ ℕ where
  RDF_TYPE := 0
  RDFS_SUBCLASS := 1
  RDFS_SUBPROPERTY := 2
  RDFS_DOMAIN := 3
  RDFS_RANGE := 4
  OWL_EQUIVALENT_CLASS := 5
  OWL_EQUIVALENT_PROPERTY := 6
  OWL_INVERSE_OF := 7
  OWL_TRANSITIVE_PROPERTY := 8
  OWL_SYMMETRIC_PROPERTY := 9
  OWL_PROPERTY_CHAIN_AXIOM := 10
  distinct := by decide
  loadsStringArray literal := if literal = 0 then some ["p", "p"] else none
  parseIRI item := if item = "p" then some 20 else none
  assertionId := assertionId
  assertionId_injective := assertionId_injective

/-- The OWL profile under the default limits and a clock that never runs out. -/
def engine : Engine ℕ ℕ ℕ where
  setting := setting
  owl := true
  limits := ⟨10000, 64, 100000, 200000⟩
  clock _ := false

end Numbered

namespace Engine

/-- An instance of a class and a superclass close to the least set. -/
theorem close_isLeast_numbered :
    ∃ facts, Numbered.engine.close [⟨30, 0, .iri 31⟩, ⟨31, 1, .iri 32⟩] = .ok facts ∧
      ⟨30, 0, .iri 32⟩ ∈ triples facts ∧
      IsLeast {set | {triple | triple ∈ [⟨30, 0, .iri 31⟩, ⟨31, 1, .iri 32⟩]} ⊆ set ∧
          Closed (DistinctRule Numbered.setting true) set}
        {triple | triple ∈ triples facts} :=
  ⟨_, rfl, by decide, close_isLeast Numbered.engine _ _ rfl⟩

/-- A property chain that walks one edge twice is skipped: with q declared as the chain p, p
and a p-loop at x, the closure lacks the q-loop at x. -/
theorem close_skips_repeated_premise :
    ∃ facts, Numbered.engine.close [⟨21, 10, .literal 0⟩, ⟨30, 20, .iri 30⟩] = .ok facts ∧
      ¬IsLeast {set | {triple | triple ∈ [⟨21, 10, .literal 0⟩, ⟨30, 20, .iri 30⟩]} ⊆ set ∧
          Closed (AnyRule Numbered.setting true) set}
        {triple | triple ∈ triples facts} := by
  refine ⟨sourceFacts [⟨21, 10, .literal 0⟩, ⟨30, 20, .iri 30⟩], rfl, fun least => ?_⟩
  have looped : (⟨30, 21, .iri 30⟩ : Triple ℕ ℕ) ∈
      triples (K := ℕ) (sourceFacts [⟨21, 10, .literal 0⟩, ⟨30, 20, .iri 30⟩]) := by
    refine least.1.2 [⟨21, 10, .literal 0⟩, ⟨30, 20, .iri 30⟩, ⟨30, 20, .iri 30⟩] _
      ⟨⟨.propertyChainAxiom 2, ⟨30, 21, .iri 30⟩,
        [⟨21, 10, .literal 0⟩, ⟨30, 20, .iri 30⟩, ⟨30, 20, .iri 30⟩]⟩, [], ?_, rfl, rfl⟩ ?_
    · exact .propertyChainAxiom 21 (.literal 0) [20, 20] [⟨30, 20, .iri 30⟩, ⟨30, 20, .iri 30⟩]
        ⟨30, 20, .iri 30⟩ ⟨30, 20, .iri 30⟩ rfl (by decide) ⟨rfl, by simp⟩ rfl rfl
    · decide
  revert looped
  decide

end Engine

end Kestrel.Inference
