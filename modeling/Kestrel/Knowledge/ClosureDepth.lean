import Kestrel.Knowledge.Closure

/-!
# The depth of a generated fact

A fact enters the dictionary in the round after its first proof became possible, so every
generated fact has a proof whose premises entered in earlier rounds.
-/

namespace Kestrel.Inference

open List Except

namespace Engine

variable {I L K : Type*} {engine : Engine I L K} {sources : List (Triple I L)} {depth : ℕ}

/-- The fact is in the dictionary with a depth below the bound. -/
def EnteredBefore (engine : Engine I L K) (facts : List (Fact I L K)) (bound : ℕ) (premise : K) :
    Prop :=
  ∃ fact ∈ facts, engine.setting.assertionId fact.triple = premise ∧ fact.depth < bound

/-- The dictionary holds each triple once, at a depth up to the round, and every generated fact
has a proof from facts of smaller depth. -/
structure Layered (engine : Engine I L K) (depth : ℕ) (facts : List (Fact I L K)) : Prop where
  nodup : (triples facts).Nodup
  bounded : ∀ fact ∈ facts, fact.depth ≤ depth
  proved : ∀ fact ∈ facts, fact.isSource = false → ∃ derivation ∈ fact.derivations,
    ∀ premise ∈ derivation.premises, engine.EnteredBefore facts fact.depth premise

variable {facts : List (Fact I L K)}

theorem Layered.mono {later : ℕ} (layered : engine.Layered depth facts) (le : depth ≤ later)
    : engine.Layered later facts :=
  ⟨layered.nodup, fun fact member => (layered.bounded fact member).trans le, layered.proved⟩

variable [DecidableEq I] [DecidableEq L] [LinearOrder K]

omit [DecidableEq I] [DecidableEq L] in
theorem recordDerivation_depth (derivation : Derivation K) (fact : Fact I L K) :
    (recordDerivation derivation fact).depth = fact.depth := by
  unfold recordDerivation
  split <;> rfl

variable {conclusion : Triple I L} {candidate : Candidate I L} {before : CloseState I L K}

theorem EnteredBefore.record {bound : ℕ} {premise : K} {derivation : Derivation K}
    (entered : engine.EnteredBefore facts bound premise) :
    engine.EnteredBefore (facts.map fun fact =>
      if fact.triple = conclusion then recordDerivation derivation fact else fact) bound
      premise := by
  obtain ⟨fact, member, same, below⟩ := entered
  by_cases matching : fact.triple = conclusion
  · refine ⟨recordDerivation derivation fact,
      mem_map_record.mpr ⟨fact, member, .inl ⟨matching, rfl⟩⟩, ?_, ?_⟩
    · rw [(recordDerivation_triple derivation fact).1]
      exact same
    · rw [recordDerivation_depth]
      exact below
  · exact ⟨fact, mem_map_record.mpr ⟨fact, member, .inr ⟨matching, rfl⟩⟩, same, below⟩

theorem Layered.record {derivation : Derivation K} (layered : engine.Layered depth facts) :
    engine.Layered depth (facts.map fun fact =>
      if fact.triple = conclusion then recordDerivation derivation fact else fact) := by
  refine ⟨?_, ?_, ?_⟩
  · rw [triples_map_record]
    exact layered.nodup
  · intro later member
    obtain ⟨fact, known, ⟨_, rfl⟩ | ⟨_, rfl⟩⟩ := mem_map_record.mp member
    · rw [recordDerivation_depth]
      exact layered.bounded fact known
    · exact layered.bounded fact known
  · intro later member generated
    obtain ⟨fact, known, ⟨_, rfl⟩ | ⟨_, rfl⟩⟩ := mem_map_record.mp member
    · rw [(recordDerivation_triple derivation fact).2] at generated
      obtain ⟨first, recorded, before⟩ := layered.proved fact known generated
      refine ⟨first, mem_recordDerivation.mpr (.inl recorded), ?_⟩
      rw [recordDerivation_depth]
      exact fun premise named => (before premise named).record
    · obtain ⟨first, recorded, before⟩ := layered.proved fact known generated
      exact ⟨first, recorded, fun premise named => (before premise named).record⟩

omit [DecidableEq I] [DecidableEq L] [LinearOrder K] in
theorem EnteredBefore.append {facts added : List (Fact I L K)} {bound : ℕ} {premise : K}
    (entered : engine.EnteredBefore facts bound premise) :
    engine.EnteredBefore (facts ++ added) bound premise := by
  obtain ⟨fact, member, same, below⟩ := entered
  exact ⟨fact, mem_append_left _ member, same, below⟩

omit [DecidableEq I] [DecidableEq L] [LinearOrder K] in
theorem Layered.append (layered : engine.Layered depth facts)
    (absent : candidate.conclusion ∉ triples facts) (premises : ∀ premise ∈ candidate.premises,
      engine.EnteredBefore facts depth (engine.setting.assertionId premise)) :
    engine.Layered depth
      (facts ++ [⟨candidate.conclusion, depth, false, [engine.derivation candidate]⟩]) := by
  refine ⟨?_, ?_, ?_⟩
  · have distinct := nodup_append.mpr ⟨layered.nodup,
      nodup_singleton candidate.conclusion, fun triple known other new same =>
        absent (by rw [← mem_singleton.mp new, ← same]; exact known)⟩
    simpa only [triples, map_append, map_singleton] using distinct
  · intro fact member
    rcases mem_append.mp member with known | new
    · exact layered.bounded fact known
    · cases mem_singleton.mp new
      exact le_refl depth
  · intro fact member generated
    rcases mem_append.mp member with known | new
    · obtain ⟨first, recorded, before⟩ := layered.proved fact known generated
      exact ⟨first, recorded, fun premise named => (before premise named).append⟩
    · cases mem_singleton.mp new
      refine ⟨_, mem_singleton_self _, ?_⟩
      intro premise named
      obtain ⟨triple, listed, rfl⟩ := mem_map.mp named
      exact (premises triple listed).append

/-- What a round keeps while it offers the instances of its snapshot. -/
structure Offering (engine : Engine I L K) (depth : ℕ) (snapshot : List (Triple I L))
    (state : CloseState I L K) : Prop where
  layered : engine.Layered depth state.facts
  entered : ∀ triple ∈ snapshot,
    engine.EnteredBefore state.facts depth (engine.setting.assertionId triple)

theorem Offering.add {snapshot : List (Triple I L)} {after : CloseState I L K}
    (offering : engine.Offering depth snapshot before)
    (inside : ∀ premise ∈ candidate.premises, premise ∈ snapshot)
    (offered : engine.add depth before candidate = .ok after) :
    engine.Offering depth snapshot after := by
  rcases add_cases offered with ⟨_, facts, _⟩ | ⟨_, polled, facts, _, entered⟩
  · refine ⟨?_, ?_⟩ <;> rw [facts]
    exacts [offering.layered, offering.entered]
  · obtain ⟨layered, premises⟩ := offering
    rw [← facts] at layered premises
    rcases enter_cases entered with ⟨_, _, recorded⟩ | ⟨absent, _, appended⟩
    · refine ⟨?_, ?_⟩ <;> rw [recorded]
      · exact layered.record
      · exact fun triple listed => (premises triple listed).record
    · refine ⟨?_, ?_⟩ <;> rw [appended]
      · exact layered.append absent fun premise named => premises premise (inside premise named)
      · exact fun triple listed => (premises triple listed).append

/-- **A round adds facts one deeper than those it starts from.** -/
theorem layered_applyRules {after : CloseState I L K} (layered : engine.Layered depth before.facts)
    (applied : engine.applyRules (depth + 1) before = .ok after) :
    engine.Layered (depth + 1) after.facts := by
  unfold applyRules at applied
  have started : engine.Offering (depth + 1) (engine.snapshot before.facts)
      { before with added := false } := by
    refine ⟨layered.mono (Nat.le_succ depth), ?_⟩
    intro triple listed
    obtain ⟨fact, member, rfl⟩ := mem_triples.mp (mem_snapshot.mp listed)
    exact ⟨fact, member, rfl, Nat.lt_succ_of_le (layered.bounded fact member)⟩
  refine (foldlM_invariant ?_ started applied).layered
  intro state candidate next offered offering added
  obtain ⟨_, _, inside⟩ := mem_candidates.mp offered
  exact offering.add (fun premise named => inside premise (mem_append_left _ named)) added

theorem layered_closeLoop {remaining : ℕ} {state : CloseState I L K}
    (fuel : remaining ≤ engine.limits.maxIterations)
    (layered : engine.Layered (engine.limits.maxIterations - remaining) state.facts)
    (closed : engine.closeLoop remaining state = .ok facts) :
    engine.Layered engine.limits.maxIterations facts := by
  induction remaining generalizing state with
  | zero => cases closed
  | succ remaining ih =>
    obtain ⟨polled, checked, closed⟩ := bind_eq_ok.mp closed
    obtain ⟨applied, applies, closed⟩ := bind_eq_ok.mp closed
    obtain ⟨ended, ended_checked, closed⟩ := bind_eq_ok.mp closed
    obtain ⟨fitting, memory, closed⟩ := bind_eq_ok.mp closed
    cases checkMemory_eq_ok memory
    have deeper : engine.limits.maxIterations - remaining =
        engine.limits.maxIterations - (remaining + 1) + 1 := by omega
    rw [← (checkTime_eq_ok checked).1] at layered
    rw [deeper] at applies
    have round := layered_applyRules layered applies
    rw [← deeper, ← (checkTime_eq_ok ended_checked).1] at round
    split at closed
    · exact ih (by omega) round closed
    · cases closed
      exact round.mono (Nat.sub_le _ _)

/-- **In a closure of distinct sources every generated fact has a proof whose premises entered
before it.** -/
theorem layered_close (distinct : sources.Nodup) (closed : engine.close sources = .ok facts) :
    engine.Layered engine.limits.maxIterations facts := by
  unfold close at closed
  obtain ⟨started, checked, closed⟩ := bind_eq_ok.mp closed
  cases checkMemory_eq_ok checked
  refine layered_closeLoop (le_refl _) ?_ closed
  rw [Nat.sub_self]
  refine ⟨?_, ?_, ?_⟩
  · have same : triples (sourceFacts sources : List (Fact I L K)) = sources := by
      unfold triples sourceFacts
      rw [map_map]
      exact map_id sources
    rw [same]
    exact distinct
  · intro fact member
    obtain ⟨_, _, rfl⟩ := mem_map.mp member
    exact le_refl 0
  · intro fact member generated
    obtain ⟨_, _, rfl⟩ := mem_map.mp member
    cases generated

/-- The premises of a recorded proof are distinct facts of the dictionary, and not its
conclusion. -/
structure Recorded (engine : Engine I L K) (facts : List (Fact I L K)) (fact : Fact I L K)
    (derivation : Derivation K) : Prop where
  nonempty : derivation.premises ≠ []
  nodup : derivation.premises.Nodup
  outside : engine.setting.assertionId fact.triple ∉ derivation.premises
  known : ∀ premise ∈ derivation.premises, ∃ other ∈ facts,
    engine.setting.assertionId other.triple = premise

omit [DecidableEq I] [DecidableEq L] [LinearOrder K] in
theorem RuleShape.premises_ne_nil {owl : Bool} {candidate : Candidate I L}
    {consulted : List (Triple I L)}
    (shape : RuleShape engine.setting owl candidate consulted) : candidate.premises ≠ [] := by
  cases shape <;> exact cons_ne_nil _ _

theorem recorded_close (closed : engine.close sources = .ok facts) :
    ∀ fact ∈ facts, ∀ derivation ∈ fact.derivations, engine.Recorded facts fact derivation := by
  intro fact member derivation recorded
  have sound := (close_complete closed).sound false 0
  obtain ⟨_, candidate, consulted, shape, inside, accepted, same, rfl⟩ :=
    sound.recorded fact member derivation recorded
  refine ⟨?_, accepted.1, ?_, ?_⟩
  · exact fun empty => RuleShape.premises_ne_nil shape (map_eq_nil_iff.mp empty)
  · rw [← same]
    exact accepted.2
  · intro premise named
    obtain ⟨triple, listed, rfl⟩ := mem_map.mp named
    obtain ⟨other, known, rfl⟩ :=
      mem_triples.mp (inside triple (mem_append_left _ listed))
    exact ⟨other, known, rfl⟩

end Engine

end Kestrel.Inference
