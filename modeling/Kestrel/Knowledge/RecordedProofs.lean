import Mathlib.Data.List.Perm.Subperm
import Kestrel.Knowledge.Closure

/-!
# Which recorded proofs name all their premises

A recorded proof is self-sufficient when the facts it names yield its conclusion by one
application of the rules. The symmetric and transitive rules consult the declaration of the
property without naming it, so their proofs are self-sufficient only in degenerate cases.
-/

namespace Kestrel.Inference

open Horn List Candidate AssertionObject

variable {I L K : Type*}

/-! ## The vocabulary is distinct -/

namespace Vocabulary

variable (vocabulary : Vocabulary I)

theorem type_ne : vocabulary.RDF_TYPE ≠ vocabulary.RDFS_SUBCLASS ∧
    vocabulary.RDF_TYPE ≠ vocabulary.RDFS_DOMAIN ∧
    vocabulary.RDF_TYPE ≠ vocabulary.RDFS_RANGE ∧
    vocabulary.RDF_TYPE ≠ vocabulary.OWL_SYMMETRIC_PROPERTY := by
  have distinct := vocabulary.distinct
  simp only [nodup_cons, mem_cons, not_or] at distinct
  exact ⟨distinct.1.1, distinct.1.2.2.1, distinct.1.2.2.2.1, by tauto⟩

theorem hierarchy_ne_equivalence : vocabulary.RDFS_SUBCLASS ≠ vocabulary.OWL_EQUIVALENT_CLASS ∧
      vocabulary.RDFS_SUBPROPERTY ≠ vocabulary.OWL_EQUIVALENT_PROPERTY := by
  have distinct := vocabulary.distinct
  simp only [nodup_cons, mem_cons, not_or] at distinct
  tauto

end Vocabulary

variable {setting : Setting I L K} {owl : Bool} {candidate : Candidate I L}

theorem RuleShape.consults_cases {consulted : List (Triple I L)}
    (shape : RuleShape setting owl candidate consulted) :
    consulted = [] ∨ (∃ p x y, owl = true ∧
        candidate = ⟨.symmetricProperty, ⟨y, p, .iri x⟩, [⟨x, p, .iri y⟩]⟩ ∧
        consulted = [⟨p, setting.RDF_TYPE, .iri setting.OWL_SYMMETRIC_PROPERTY⟩]) ∨
      ∃ p x y object, owl = true ∧
        candidate = ⟨.transitiveProperty, ⟨x, p, object⟩, [⟨x, p, .iri y⟩, ⟨y, p, object⟩]⟩ ∧
        consulted = [⟨p, setting.RDF_TYPE, .iri setting.OWL_TRANSITIVE_PROPERTY⟩] := by
  cases shape with
  | symmetricProperty p x y on => exact .inr (.inl ⟨p, x, y, on, rfl, rfl⟩)
  | transitiveProperty p x y object on => exact .inr (.inr ⟨p, x, y, object, on, rfl, rfl⟩)
  | _ => exact .inl rfl

/-- One application of the rules to the premises of an instance yields its conclusion. -/
def Candidate.SelfSufficient (setting : Setting I L K) (owl : Bool)
    (candidate : Candidate I L) : Prop :=
  ∃ other consulted, RuleShape setting owl other consulted ∧
    (∀ fact ∈ other.premises ++ consulted, fact ∈ candidate.premises) ∧
    other.premises.Nodup ∧ other.conclusion ∉ other.premises ∧
    other.conclusion = candidate.conclusion

theorem Candidate.selfSufficient_of_consults_nothing
    (shape : RuleShape setting owl candidate []) (distinct : candidate.premises.Nodup)
    (fresh : candidate.conclusion ∉ candidate.premises) :
    candidate.SelfSufficient setting owl :=
  ⟨candidate, [], shape, by simp, distinct, fresh, rfl⟩

theorem Candidate.symmetric_selfSufficient_iff (p x y : I) (on : owl) (different : x ≠ y) :
    (⟨.symmetricProperty, ⟨y, p, .iri x⟩, [⟨x, p, .iri y⟩]⟩ : Candidate I L).SelfSufficient
        setting owl ↔
      p = setting.RDF_TYPE ∧ x = setting.RDF_TYPE ∧ y = setting.OWL_SYMMETRIC_PROPERTY := by
  obtain ⟨class_ne, property_ne⟩ := setting.toVocabulary.hierarchy_ne_equivalence
  constructor
  · rintro ⟨other, consulted, shape, inside, distinct, fresh, same⟩
    -- All premises of the other instance are the one statement, so it has a single premise.
    have all : ∀ fact ∈ other.premises ++ consulted, fact = ⟨x, p, .iri y⟩ := fun fact member =>
      mem_singleton.mp (inside fact member)
    have single : ∀ first second rest, other.premises ≠ first :: second :: rest := by
      intro first second rest two
      rw [two] at distinct all
      rw [all first (by simp), all second (by simp)] at distinct
      simp at distinct
    cases shape with
    | equivalentClassLeft | equivalentClassRight =>
      simp only [append_nil, mem_singleton, forall_eq, Triple.mk.injEq] at all
      simp only [Triple.mk.injEq] at same
      exact absurd (same.2.1.trans all.2.1.symm) class_ne
    | equivalentPropertyLeft | equivalentPropertyRight =>
      simp only [append_nil, mem_singleton, forall_eq, Triple.mk.injEq] at all
      simp only [Triple.mk.injEq] at same
      exact absurd (same.2.1.trans all.2.1.symm) property_ne
    | symmetricProperty p' x' y' =>
      have statement := all ⟨x', p', .iri y'⟩ (by simp)
      have declaration := all ⟨p', setting.RDF_TYPE, .iri setting.OWL_SYMMETRIC_PROPERTY⟩ (by simp)
      simp only [Triple.mk.injEq, iri.injEq] at statement declaration
      obtain ⟨rfl, rfl, rfl⟩ := statement
      obtain ⟨same_subject, same_predicate, same_object⟩ := declaration
      exact ⟨same_predicate.symm, same_subject.symm.trans same_predicate.symm, same_object.symm⟩
    | propertyChainAxiom q object chain path first last on decoded walk head_eq last_eq =>
      cases path with
      | nil => cases head_eq
      | cons step rest => exact absurd rfl (single _ step rest)
    | _ => exact absurd rfl (single _ _ _)
  · rintro ⟨rfl, rfl, rfl⟩
    refine ⟨_, _, .symmetricProperty _ _ _ on, by simp, by simp, ?_, rfl⟩
    simpa using fun same => absurd same.symm different

private theorem pair_cases {Value : Type*} {left right first second : Value}
    (left_mem : left ∈ [first, second]) (right_mem : right ∈ [first, second])
    (different : left ≠ right) :
    (left = first ∧ right = second) ∨ (left = second ∧ right = first) := by
  simp only [mem_cons, not_mem_nil, or_false] at left_mem right_mem
  rcases left_mem with rfl | rfl
  · rcases right_mem with rfl | rfl
    · exact absurd rfl different
    · exact .inl ⟨rfl, rfl⟩
  · rcases right_mem with rfl | rfl
    · exact .inr ⟨rfl, rfl⟩
    · exact absurd rfl different

/-- A composed statement is self-sufficient only if one of its premises is the declaration, or
the property is a hierarchy whose composition is a rule of its own. -/
theorem Candidate.transitive_selfSufficient_iff (p x y : I) (object : AssertionObject I L)
    (on : owl) (different : (⟨x, p, .iri y⟩ : Triple I L) ≠ ⟨y, p, object⟩)
    (fresh : (⟨x, p, object⟩ : Triple I L) ∉ [⟨x, p, .iri y⟩, ⟨y, p, object⟩]) :
    (⟨.transitiveProperty, ⟨x, p, object⟩, [⟨x, p, .iri y⟩, ⟨y, p, object⟩]⟩ :
        Candidate I L).SelfSufficient setting owl ↔
      (⟨p, setting.RDF_TYPE, .iri setting.OWL_TRANSITIVE_PROPERTY⟩ : Triple I L) ∈
          [⟨x, p, .iri y⟩, ⟨y, p, object⟩] ∨
        (p = setting.RDFS_SUBCLASS ∨ p = setting.RDFS_SUBPROPERTY) ∧ ∃ z, object = .iri z := by
  obtain ⟨class_ne, property_ne⟩ := setting.toVocabulary.hierarchy_ne_equivalence
  obtain ⟨type_ne_class, type_ne_domain, type_ne_range, type_ne_symmetric⟩ :=
    setting.toVocabulary.type_ne
  have predicates : ∀ fact : Triple I L, fact ∈ [⟨x, p, .iri y⟩, ⟨y, p, object⟩] →
      fact.predicate = p := by
    intro fact member
    simp only [mem_cons, not_mem_nil, or_false] at member
    rcases member with rfl | rfl <;> rfl
  constructor
  · rintro ⟨other, consulted, shape, inside, distinct, other_fresh, same⟩
    cases shape with
    | subClassOfTransitive a b c =>
      simp only [Triple.mk.injEq] at same
      exact .inr ⟨.inl same.2.1.symm, c, same.2.2.symm⟩
    | subPropertyOfTransitive a b c =>
      simp only [Triple.mk.injEq] at same
      exact .inr ⟨.inr same.2.1.symm, c, same.2.2.symm⟩
    | typeSubClassOf a b c =>
      have left := predicates _ (inside ⟨a, setting.RDF_TYPE, .iri b⟩ (by simp))
      have right := predicates _ (inside ⟨b, setting.RDFS_SUBCLASS, .iri c⟩ (by simp))
      exact absurd (left.trans right.symm) type_ne_class
    | subPropertyOf a s q stated =>
      -- The hierarchy fact maps the hierarchy predicate to itself: the statement is kept.
      have statement := predicates _ (inside ⟨a, s, stated⟩ (by simp))
      simp only [Triple.mk.injEq] at same statement
      obtain rfl : s = q := statement.trans same.2.1.symm
      exact absurd (mem_cons_self ..) other_fresh
    | domain a s c stated =>
      have declared := predicates _ (inside ⟨s, setting.RDFS_DOMAIN, .iri c⟩ (by simp))
      simp only [Triple.mk.injEq] at same
      exact absurd (same.2.1.trans declared.symm) type_ne_domain
    | range a s b c =>
      have declared := predicates _ (inside ⟨s, setting.RDFS_RANGE, .iri c⟩ (by simp))
      simp only [Triple.mk.injEq] at same
      exact absurd (same.2.1.trans declared.symm) type_ne_range
    | equivalentClassLeft a b | equivalentClassRight a b =>
      have declared := predicates _ (inside ⟨a, setting.OWL_EQUIVALENT_CLASS, .iri b⟩ (by simp))
      simp only [Triple.mk.injEq] at same
      exact absurd (same.2.1.trans declared.symm) class_ne
    | equivalentPropertyLeft a b | equivalentPropertyRight a b =>
      have declared :=
        predicates _ (inside ⟨a, setting.OWL_EQUIVALENT_PROPERTY, .iri b⟩ (by simp))
      simp only [Triple.mk.injEq] at same
      exact absurd (same.2.1.trans declared.symm) property_ne
    | inverseOfForward s q a b =>
      refine absurd ?_ fresh
      have declared := predicates _ (inside ⟨s, setting.OWL_INVERSE_OF, .iri q⟩ (by simp))
      have stated := predicates _ (inside ⟨a, s, .iri b⟩ (by simp))
      simp only [Triple.mk.injEq] at same declared stated
      obtain ⟨rfl, rfl, rfl⟩ := same
      simp only [nodup_cons, mem_singleton] at distinct
      rcases pair_cases (inside _ (by simp)) (inside _ (by simp)) distinct.1 with
        ⟨left, right⟩ | ⟨left, right⟩
      all_goals
        simp only [Triple.mk.injEq, iri.injEq] at left right
        simp [← left.2.2, ← left.1, stated]
    | inverseOfReverse s q a b =>
      refine absurd ?_ fresh
      have declared := predicates _ (inside ⟨s, setting.OWL_INVERSE_OF, .iri q⟩ (by simp))
      have stated := predicates _ (inside ⟨a, q, .iri b⟩ (by simp))
      simp only [Triple.mk.injEq] at same declared stated
      obtain ⟨rfl, rfl, rfl⟩ := same
      simp only [nodup_cons, mem_singleton] at distinct
      rcases pair_cases (inside _ (by simp)) (inside _ (by simp)) distinct.1 with
        ⟨left, right⟩ | ⟨left, right⟩
      all_goals
        simp only [Triple.mk.injEq, iri.injEq] at left right
        simp [← left.2.2, ← left.1, stated]
    | symmetricProperty s a b =>
      exfalso
      have declared := predicates _ (inside ⟨s, setting.RDF_TYPE,
        .iri setting.OWL_SYMMETRIC_PROPERTY⟩ (by simp))
      have declaration := inside ⟨s, setting.RDF_TYPE,
        .iri setting.OWL_SYMMETRIC_PROPERTY⟩ (by simp)
      have statement := inside ⟨a, s, .iri b⟩ (by simp)
      simp only [Triple.mk.injEq] at same declared
      obtain ⟨rfl, rfl, rfl⟩ := same
      simp only [mem_cons, not_mem_nil, or_false, Triple.mk.injEq,
        iri.injEq] at declaration statement
      have same_kind : s = setting.OWL_SYMMETRIC_PROPERTY := by
        rcases declaration with ⟨left, _, right⟩ | ⟨left, _, right⟩
        · rcases statement with ⟨_, _, end_eq⟩ | ⟨start_eq, _, end_eq⟩
          · exact left.trans (end_eq.trans right.symm)
          · exact left.trans (end_eq.trans (start_eq.trans right.symm))
        · rcases statement with ⟨start_eq, _, end_eq⟩ | ⟨start_eq, _, _⟩
          · exact left.trans (end_eq.symm.trans (start_eq.symm.trans right.symm))
          · exact left.trans (start_eq.symm.trans right.symm)
      exact type_ne_symmetric (declared.trans same_kind)
    | transitiveProperty s a b stated =>
      have statement := predicates _ (inside ⟨a, s, .iri b⟩ (by simp))
      subst statement
      exact .inl (inside _ (by simp))
    | propertyChainAxiom q stated chain path first last on decoded walk head_eq last_eq =>
      exfalso
      have chain_length := two_le_length_propertyChain decoded
      have path_length : path.length = chain.length := by
        rw [← walk.1, length_map]
      have bound := (subperm_of_subset distinct
        (fun fact member => inside fact (by simpa using member))).length_le
      simp only [length_cons, length_nil] at bound
      omega
  · rintro (declared | ⟨hierarchy, z, rfl⟩)
    · refine ⟨_, _, .transitiveProperty p x y object on, ?_, by simpa using different, fresh, rfl⟩
      intro fact member
      rcases mem_append.mp member with premise | consulted
      · exact premise
      · exact mem_singleton.mp consulted ▸ declared
    · rcases hierarchy with rfl | rfl
      · exact ⟨_, _, .subClassOfTransitive x y z, by simp, by simpa using different, fresh, rfl⟩
      · exact ⟨_, _, .subPropertyOfTransitive x y z, by simp, by simpa using different, fresh, rfl⟩

/-! ## The proofs a closure records -/

/-- No accepted symmetric or transitive instance on the entailed facts needs a declaration
that its premises do not supply. -/
structure DeclarationsRecorded (setting : Setting I L K) (owl : Bool)
    (sources : List (Triple I L)) : Prop where
  symmetric : owl = true → ∀ p x y,
    Entailed setting owl sources
      ⟨p, setting.RDF_TYPE, .iri setting.OWL_SYMMETRIC_PROPERTY⟩ →
    Entailed setting owl sources ⟨x, p, .iri y⟩ → x ≠ y →
    (⟨y, p, .iri x⟩ : Triple I L) ∉ sources →
    p = setting.RDF_TYPE ∧ x = setting.RDF_TYPE ∧ y = setting.OWL_SYMMETRIC_PROPERTY
  transitive : owl = true → ∀ p x y object,
    Entailed setting owl sources
      ⟨p, setting.RDF_TYPE, .iri setting.OWL_TRANSITIVE_PROPERTY⟩ →
    Entailed setting owl sources ⟨x, p, .iri y⟩ →
    Entailed setting owl sources ⟨y, p, object⟩ →
    (⟨x, p, .iri y⟩ : Triple I L) ≠ ⟨y, p, object⟩ →
    (⟨x, p, object⟩ : Triple I L) ∉ [⟨x, p, .iri y⟩, ⟨y, p, object⟩] →
    (⟨x, p, object⟩ : Triple I L) ∉ sources →
    (⟨p, setting.RDF_TYPE, .iri setting.OWL_TRANSITIVE_PROPERTY⟩ : Triple I L) ∈
        [⟨x, p, .iri y⟩, ⟨y, p, object⟩] ∨
      (p = setting.RDFS_SUBCLASS ∨ p = setting.RDFS_SUBPROPERTY) ∧ ∃ z, object = .iri z

namespace Engine

variable [DecidableEq I] [DecidableEq L] [LinearOrder K]
variable {engine : Engine I L K} {sources : List (Triple I L)} {facts : List (Fact I L K)}

def premiseFacts (engine : Engine I L K) (facts : List (Fact I L K))
    (derivation : Derivation K) : List (Triple I L) :=
  (triples facts).filter fun triple =>
    decide (engine.setting.assertionId triple ∈ derivation.premises)

/-- Applying the rules to the facts a derivation names yields the conclusion. -/
def PremisesSuffice (engine : Engine I L K) (facts : List (Fact I L K)) (fact : Fact I L K)
    (derivation : Derivation K) : Prop :=
  ∃ candidate ∈ candidates engine.setting engine.owl (engine.premiseFacts facts derivation),
    engine.Accepts candidate ∧ candidate.conclusion = fact.triple

variable {fact : Fact I L K} {candidate : Candidate I L}

omit [DecidableEq I] [DecidableEq L] [LinearOrder K] in
theorem Complete.mem_derivations_iff (complete : Complete engine sources facts)
    (member : fact ∈ facts) (derivation : Derivation K) :
    derivation ∈ fact.derivations ↔ fact.isSource = false ∧ ∃ candidate consulted,
      RuleShape engine.setting engine.owl candidate consulted ∧
      (∀ triple ∈ candidate.premises ++ consulted, triple ∈ triples facts) ∧
      engine.Accepts candidate ∧ candidate.conclusion = fact.triple ∧
      engine.derivation candidate = derivation := by
  constructor
  · exact (complete.sound false 0).recorded fact member derivation
  · rintro ⟨generated, candidate, consulted, shape, inside, accepted, same, rfl⟩
    exact (complete.done candidate consulted shape inside false 0 accepted).2 fact member
      same.symm generated

theorem mem_premiseFacts (inside : ∀ triple ∈ candidate.premises, triple ∈ triples facts)
    (triple : Triple I L) :
    triple ∈ engine.premiseFacts facts (engine.derivation candidate) ↔
      triple ∈ candidate.premises := by
  simp only [premiseFacts, derivation, mem_filter, decide_eq_true_eq,
    mem_map_of_injective engine.setting.assertionId_injective]
  exact ⟨fun both => both.2, fun member => ⟨inside triple member, member⟩⟩

theorem premisesSuffice_iff (inside : ∀ triple ∈ candidate.premises, triple ∈ triples facts)
    (same : candidate.conclusion = fact.triple) :
    engine.PremisesSuffice facts fact (engine.derivation candidate) ↔
      candidate.SelfSufficient engine.setting engine.owl := by
  simp only [PremisesSuffice, SelfSufficient, mem_candidates, accepts_iff,
    mem_premiseFacts inside, ← same]
  constructor
  · rintro ⟨other, ⟨consulted, shape, named⟩, ⟨distinct, fresh⟩, concluded⟩
    exact ⟨other, consulted, shape, named, distinct, fresh, concluded⟩
  · rintro ⟨other, consulted, shape, named, distinct, fresh, concluded⟩
    exact ⟨other, ⟨consulted, shape, named⟩, ⟨distinct, fresh⟩, concluded⟩

/-- The recorded proofs of a closure all suffice exactly when no instance needs a declaration
it does not record. -/
theorem close_premisesSuffice_iff (closed : engine.close sources = .ok facts) :
    (∀ fact ∈ facts, ∀ derivation ∈ fact.derivations,
      engine.PremisesSuffice facts fact derivation) ↔
    DeclarationsRecorded engine.setting engine.owl sources := by
  have complete := close_complete closed
  have present := complete.mem_triples_iff_entailed
  constructor
  · intro suffice
    -- Every accepted instance on entailed facts that concludes no source is recorded.
    have recorded : ∀ candidate consulted, RuleShape engine.setting engine.owl candidate consulted →
        (∀ triple ∈ candidate.premises ++ consulted,
          Entailed engine.setting engine.owl sources triple) →
        candidate.premises.Nodup → candidate.conclusion ∉ candidate.premises →
        candidate.conclusion ∉ sources →
        candidate.SelfSufficient engine.setting engine.owl := by
      intro candidate consulted shape entailed distinct fresh generated
      have conclusion : Entailed engine.setting engine.owl sources candidate.conclusion :=
        .rule ⟨candidate, consulted, shape, distinct, rfl, rfl⟩ entailed
      obtain ⟨fact, member, same, not_source⟩ := complete.exists_generated conclusion generated
      have inside : ∀ triple ∈ candidate.premises ++ consulted, triple ∈ triples facts :=
        fun triple named => (present triple).mpr (entailed triple named)
      have noted : engine.derivation candidate ∈ fact.derivations :=
        (complete.mem_derivations_iff member _).mpr ⟨not_source, candidate, consulted, shape,
          inside, accepts_iff.mpr ⟨distinct, fresh⟩, same.symm, rfl⟩
      exact (premisesSuffice_iff (fun triple named => inside triple
        (mem_append_left _ named)) same.symm).mp (suffice fact member _ noted)
    refine ⟨?_, ?_⟩
    · intro on p x y declared stated different generated
      have fresh : (⟨y, p, .iri x⟩ : Triple I L) ∉ [⟨x, p, .iri y⟩] := by
        simpa using fun same => absurd same.symm different
      refine (symmetric_selfSufficient_iff p x y on different).mp
        (recorded _ _ (.symmetricProperty p x y on) ?_ (nodup_singleton _) fresh generated)
      intro triple named
      simp only [mem_append, mem_singleton] at named
      rcases named with rfl | rfl
      · exact stated
      · exact declared
    · intro on p x y object declared first second different fresh generated
      refine (transitive_selfSufficient_iff p x y object on different fresh).mp
        (recorded _ _ (.transitiveProperty p x y object on) ?_ (by simpa using different) fresh
          generated)
      intro triple named
      simp only [mem_append, mem_cons, not_mem_nil, or_false] at named
      rcases named with (rfl | rfl) | rfl
      · exact first
      · exact second
      · exact declared
  · intro condition fact member derivation recorded
    obtain ⟨generated, candidate, consulted, shape, inside, accepted, same, rfl⟩ :=
      (complete.mem_derivations_iff member derivation).mp recorded
    obtain ⟨distinct, fresh⟩ := accepts_iff.mp accepted
    have not_source : candidate.conclusion ∉ sources := by
      rw [same]
      intro source
      rw [((complete.sound false 0).isSource_iff fact member).mpr source] at generated
      cases generated
    refine (premisesSuffice_iff (fun triple named =>
      inside triple (mem_append_left _ named)) same).mpr ?_
    have entailed : ∀ triple ∈ candidate.premises ++ consulted,
        Entailed engine.setting engine.owl sources triple :=
      fun triple named => (present triple).mp (inside triple named)
    rcases shape.consults_cases with rfl | ⟨p, x, y, on, rfl, rfl⟩ |
      ⟨p, x, y, object, on, rfl, rfl⟩
    · exact selfSufficient_of_consults_nothing shape distinct fresh
    · have different : x ≠ y := by
        rintro rfl
        exact fresh (mem_singleton_self _)
      exact (symmetric_selfSufficient_iff p x y on different).mpr
        (condition.symmetric on p x y (entailed _ (by simp)) (entailed _ (by simp)) different
          not_source)
    · have different : (⟨x, p, .iri y⟩ : Triple I L) ≠ ⟨y, p, object⟩ := by
        simpa using distinct
      exact (transitive_selfSufficient_iff p x y object on different fresh).mpr
        (condition.transitive on p x y object (entailed _ (by simp)) (entailed _ (by simp))
          (entailed _ (by simp)) different fresh not_source)

end Engine

end Kestrel.Inference
