import Mathlib.Data.List.Chain
import Kestrel.Knowledge.Inference

/-!
# The rule instances of the inference profiles

The shapes of the rules, with the premises a proof records and the declarations the rule
consults besides them. A round offers exactly the instances all of whose premises and
consulted declarations are in its snapshot.
-/

namespace Kestrel.Inference

open List

variable {I L K : Type*}

def Walk (chain : List I) (path : List (Triple I L)) : Prop :=
  path.map Triple.predicate = chain ∧
    path.IsChain fun left right => left.object = .iri right.subject

inductive RuleShape (setting : Setting I L K) (owl : Bool) :
    Candidate I L → List (Triple I L) → Prop where
  | subClassOfTransitive (a b c : I) : RuleShape setting owl
      ⟨.subClassOfTransitive, ⟨a, setting.RDFS_SUBCLASS, .iri c⟩,
        [⟨a, setting.RDFS_SUBCLASS, .iri b⟩, ⟨b, setting.RDFS_SUBCLASS, .iri c⟩]⟩ []
  | typeSubClassOf (x a b : I) : RuleShape setting owl
      ⟨.typeSubClassOf, ⟨x, setting.RDF_TYPE, .iri b⟩,
        [⟨x, setting.RDF_TYPE, .iri a⟩, ⟨a, setting.RDFS_SUBCLASS, .iri b⟩]⟩ []
  | subPropertyOfTransitive (p q r : I) : RuleShape setting owl
      ⟨.subPropertyOfTransitive, ⟨p, setting.RDFS_SUBPROPERTY, .iri r⟩,
        [⟨p, setting.RDFS_SUBPROPERTY, .iri q⟩, ⟨q, setting.RDFS_SUBPROPERTY, .iri r⟩]⟩ []
  | subPropertyOf (x p q : I) (object : AssertionObject I L) : RuleShape setting owl
      ⟨.subPropertyOf, ⟨x, q, object⟩,
        [⟨x, p, object⟩, ⟨p, setting.RDFS_SUBPROPERTY, .iri q⟩]⟩ []
  | domain (x p c : I) (object : AssertionObject I L) : RuleShape setting owl
      ⟨.domain, ⟨x, setting.RDF_TYPE, .iri c⟩,
        [⟨x, p, object⟩, ⟨p, setting.RDFS_DOMAIN, .iri c⟩]⟩ []
  | range (x p y c : I) : RuleShape setting owl
      ⟨.range, ⟨y, setting.RDF_TYPE, .iri c⟩,
        [⟨x, p, .iri y⟩, ⟨p, setting.RDFS_RANGE, .iri c⟩]⟩ []
  | equivalentClassLeft (a b : I) : owl → RuleShape setting owl
      ⟨.equivalentClassLeft, ⟨a, setting.RDFS_SUBCLASS, .iri b⟩,
        [⟨a, setting.OWL_EQUIVALENT_CLASS, .iri b⟩]⟩ []
  | equivalentClassRight (a b : I) : owl → RuleShape setting owl
      ⟨.equivalentClassRight, ⟨b, setting.RDFS_SUBCLASS, .iri a⟩,
        [⟨a, setting.OWL_EQUIVALENT_CLASS, .iri b⟩]⟩ []
  | equivalentPropertyLeft (p q : I) : owl → RuleShape setting owl
      ⟨.equivalentPropertyLeft, ⟨p, setting.RDFS_SUBPROPERTY, .iri q⟩,
        [⟨p, setting.OWL_EQUIVALENT_PROPERTY, .iri q⟩]⟩ []
  | equivalentPropertyRight (p q : I) : owl → RuleShape setting owl
      ⟨.equivalentPropertyRight, ⟨q, setting.RDFS_SUBPROPERTY, .iri p⟩,
        [⟨p, setting.OWL_EQUIVALENT_PROPERTY, .iri q⟩]⟩ []
  | inverseOfForward (p q x y : I) : owl → RuleShape setting owl
      ⟨.inverseOfForward, ⟨y, q, .iri x⟩,
        [⟨p, setting.OWL_INVERSE_OF, .iri q⟩, ⟨x, p, .iri y⟩]⟩ []
  | inverseOfReverse (p q x y : I) : owl → RuleShape setting owl
      ⟨.inverseOfReverse, ⟨y, p, .iri x⟩,
        [⟨p, setting.OWL_INVERSE_OF, .iri q⟩, ⟨x, q, .iri y⟩]⟩ []
  | symmetricProperty (p x y : I) : owl → RuleShape setting owl
      ⟨.symmetricProperty, ⟨y, p, .iri x⟩, [⟨x, p, .iri y⟩]⟩
      [⟨p, setting.RDF_TYPE, .iri setting.OWL_SYMMETRIC_PROPERTY⟩]
  | transitiveProperty (p x y : I) (object : AssertionObject I L) : owl → RuleShape setting owl
      ⟨.transitiveProperty, ⟨x, p, object⟩, [⟨x, p, .iri y⟩, ⟨y, p, object⟩]⟩
      [⟨p, setting.RDF_TYPE, .iri setting.OWL_TRANSITIVE_PROPERTY⟩]
  | propertyChainAxiom (q : I) (object : AssertionObject I L) (chain : List I)
      (path : List (Triple I L)) (first last : Triple I L) : owl →
      propertyChain setting object = some chain → Walk chain path →
      path.head? = some first → path.getLast? = some last → RuleShape setting owl
      ⟨.propertyChainAxiom chain.length, ⟨first.subject, q, last.object⟩,
        ⟨q, setting.OWL_PROPERTY_CHAIN_AXIOM, object⟩ :: path⟩ []

variable [DecidableEq I] {setting : Setting I L K} {snapshot : List (Triple I L)}

variable {predicate : I} {chain : List I}

theorem mem_schemaFacts {fact : Triple I L × I} : fact ∈ schemaFacts predicate snapshot ↔
      ∃ subject value, (⟨subject, predicate, .iri value⟩ : Triple I L) ∈ snapshot ∧
        fact = (⟨subject, predicate, .iri value⟩, value) := by
  simp only [schemaFacts, mem_filterMap]
  constructor
  · rintro ⟨⟨subject, property, object⟩, member, read⟩
    cases object with
    | literal literal => simp at read
    | iri value =>
      simp only [Option.ite_none_right_eq_some, Option.some.injEq] at read
      obtain ⟨rfl, rfl⟩ := read
      exact ⟨subject, value, member, rfl⟩
  · rintro ⟨subject, value, member, rfl⟩
    exact ⟨_, member, by simp⟩

theorem mem_declaredProperties {kind property : I} :
    property ∈ declaredProperties setting kind snapshot ↔
      (⟨property, setting.RDF_TYPE, .iri kind⟩ : Triple I L) ∈ snapshot := by
  simp only [declaredProperties, mem_filterMap, mem_schemaFacts]
  constructor
  · rintro ⟨fact, ⟨subject, value, member, rfl⟩, read⟩
    simp only [Option.ite_none_right_eq_some, Option.some.injEq] at read
    obtain ⟨rfl, rfl⟩ := read
    exact member
  · intro member
    exact ⟨_, ⟨property, kind, member, rfl⟩, by simp⟩

theorem mem_extendPaths {paths : List (List (Triple I L))} (walks : ∀ path, path ∈ paths ↔
      path ≠ [] ∧ Walk chain path ∧ ∀ fact ∈ path, fact ∈ snapshot) (nonempty : chain ≠ [])
    (path : List (Triple I L)) :
    path ∈ extendPaths snapshot paths predicate ↔
      path ≠ [] ∧ Walk (chain ++ [predicate]) path ∧ ∀ fact ∈ path, fact ∈ snapshot := by
  simp only [extendPaths, mem_flatMap]
  constructor
  · rintro ⟨start, member, extended⟩
    obtain ⟨_, ⟨follows, joins⟩, inside⟩ := (walks start).mp member
    cases ends : start.getLast? with
    | none => simp [ends] at extended
    | some tail =>
      simp only [ends] at extended
      cases object : tail.object with
      | literal literal => simp [object] at extended
      | iri value =>
        simp only [object, mem_map, mem_filter, decide_eq_true_eq] at extended
        obtain ⟨next, ⟨next_member, next_predicate, next_subject⟩, rfl⟩ := extended
        refine ⟨by simp, ⟨by simp [follows, next_predicate], ?_⟩, ?_⟩
        · rw [isChain_append]
          refine ⟨joins, isChain_singleton next, ?_⟩
          intro last last_eq first first_eq
          rw [ends, Option.mem_some_iff] at last_eq
          rw [head?_cons, Option.mem_some_iff] at first_eq
          rw [← last_eq, ← first_eq, object, next_subject]
        · intro fact fact_member
          rcases mem_append.mp fact_member with earlier | same
          · exact inside fact earlier
          · exact mem_singleton.mp same ▸ next_member
  · rintro ⟨_, ⟨follows, joins⟩, inside⟩
    rcases eq_nil_or_concat' path with rfl | ⟨start, next, rfl⟩
    · simp at follows
    rw [map_append, map_singleton] at follows
    obtain ⟨start_follows, next_predicate⟩ := append_inj' follows rfl
    rw [isChain_append] at joins
    have start_nonempty : start ≠ [] := by
      rintro rfl
      exact nonempty start_follows.symm
    refine ⟨start, (walks start).mpr ⟨start_nonempty, ⟨start_follows, joins.1⟩,
      fun fact member => inside fact (mem_append_left _ member)⟩, ?_⟩
    have ends := getLast?_eq_some_getLast start_nonempty
    have joined := joins.2.2 _ (Option.mem_def.mpr ends) next (by simp)
    simp only [ends, joined, mem_map, mem_filter, decide_eq_true_eq]
    exact ⟨next, ⟨inside next (by simp), by simpa using next_predicate, rfl⟩, rfl⟩

theorem mem_matchingPaths (nonempty : chain ≠ []) (path : List (Triple I L)) :
    path ∈ matchingPaths snapshot chain ↔
      path ≠ [] ∧ Walk chain path ∧ ∀ fact ∈ path, fact ∈ snapshot := by
  cases chain with
  | nil => exact absurd rfl nonempty
  | cons first rest =>
    have start : ∀ path : List (Triple I L),
        path ∈ ((snapshot.filter fun fact => fact.predicate = first).map fun fact => [fact]) ↔
          path ≠ [] ∧ Walk [first] path ∧ ∀ fact ∈ path, fact ∈ snapshot := by
      intro path
      simp only [mem_map, mem_filter, decide_eq_true_eq]
      constructor
      · rintro ⟨fact, ⟨member, follows⟩, rfl⟩
        refine ⟨by simp, ⟨by simp [follows], isChain_singleton fact⟩, ?_⟩
        simpa using member
      · rintro ⟨_, ⟨follows, _⟩, inside⟩
        obtain ⟨fact, rfl⟩ : ∃ fact, path = [fact] := by
          rw [← length_eq_one_iff, ← length_map Triple.predicate, follows]
          rfl
        exact ⟨fact, ⟨inside fact (by simp), by simpa using follows⟩, rfl⟩
    -- The walks along a prefix of the chain, extended one property at a time.
    suffices general : ∀ (later before : List I) (paths : List (List (Triple I L))), before ≠ [] →
        (∀ path, path ∈ paths ↔ path ≠ [] ∧ Walk before path ∧ ∀ fact ∈ path, fact ∈ snapshot) →
        ∀ path, path ∈ later.foldl (extendPaths snapshot) paths ↔
          path ≠ [] ∧ Walk (before ++ later) path ∧ ∀ fact ∈ path, fact ∈ snapshot from
      general rest [first] _ (by simp) start path
    intro later
    induction later with
    | nil =>
      intro before paths _ walks path
      rw [append_nil]
      exact walks path
    | cons predicate later ih =>
      intro before paths before_nonempty walks path
      rw [foldl_cons, append_cons]
      exact ih (before ++ [predicate]) _ (by simp)
        (mem_extendPaths walks before_nonempty) path

/-! ## What each block offers -/

variable {candidate : Candidate I L}

theorem mem_hierarchyCandidates {rule : RuleId} :
    candidate ∈ hierarchyCandidates rule predicate (schemaFacts predicate snapshot) ↔
      ∃ a b c, candidate = ⟨rule, ⟨a, predicate, .iri c⟩,
          [⟨a, predicate, .iri b⟩, ⟨b, predicate, .iri c⟩]⟩ ∧
        (⟨a, predicate, .iri b⟩ : Triple I L) ∈ snapshot ∧
        (⟨b, predicate, .iri c⟩ : Triple I L) ∈ snapshot := by
  simp only [hierarchyCandidates, mem_flatMap, mem_schemaFacts]
  constructor
  · rintro ⟨_, ⟨a, b, left, rfl⟩, _, ⟨b', c, right, rfl⟩, offered⟩
    simp only [mem_ite_nil_right, mem_singleton] at offered
    obtain ⟨rfl, rfl⟩ := offered
    exact ⟨a, b, c, rfl, left, right⟩
  · rintro ⟨a, b, c, rfl, left, right⟩
    exact ⟨_, ⟨a, b, left, rfl⟩, _, ⟨b, c, right, rfl⟩, by simp⟩

theorem mem_instanceCandidates : candidate ∈ instanceCandidates setting snapshot ↔
      ∃ x a b, candidate = ⟨.typeSubClassOf, ⟨x, setting.RDF_TYPE, .iri b⟩,
          [⟨x, setting.RDF_TYPE, .iri a⟩, ⟨a, setting.RDFS_SUBCLASS, .iri b⟩]⟩ ∧
        (⟨x, setting.RDF_TYPE, .iri a⟩ : Triple I L) ∈ snapshot ∧
        (⟨a, setting.RDFS_SUBCLASS, .iri b⟩ : Triple I L) ∈ snapshot := by
  simp only [instanceCandidates, mem_flatMap, mem_schemaFacts]
  constructor
  · rintro ⟨_, ⟨x, a, left, rfl⟩, _, ⟨a', b, right, rfl⟩, offered⟩
    simp only [mem_ite_nil_right, mem_singleton] at offered
    obtain ⟨rfl, rfl⟩ := offered
    exact ⟨x, a, b, rfl, left, right⟩
  · rintro ⟨x, a, b, rfl, left, right⟩
    exact ⟨_, ⟨x, a, left, rfl⟩, _, ⟨a, b, right, rfl⟩, by simp⟩

theorem mem_statementCandidates {statement : Triple I L} :
    candidate ∈ statementCandidates setting snapshot statement ↔
      (∃ q, candidate = ⟨.subPropertyOf, ⟨statement.subject, q, statement.object⟩,
          [statement, ⟨statement.predicate, setting.RDFS_SUBPROPERTY, .iri q⟩]⟩ ∧
        (⟨statement.predicate, setting.RDFS_SUBPROPERTY, .iri q⟩ : Triple I L) ∈ snapshot) ∨
      (∃ c, candidate = ⟨.domain, ⟨statement.subject, setting.RDF_TYPE, .iri c⟩,
          [statement, ⟨statement.predicate, setting.RDFS_DOMAIN, .iri c⟩]⟩ ∧
        (⟨statement.predicate, setting.RDFS_DOMAIN, .iri c⟩ : Triple I L) ∈ snapshot) ∨
      ∃ y c, statement.object = .iri y ∧ candidate = ⟨.range, ⟨y, setting.RDF_TYPE, .iri c⟩,
          [statement, ⟨statement.predicate, setting.RDFS_RANGE, .iri c⟩]⟩ ∧
        (⟨statement.predicate, setting.RDFS_RANGE, .iri c⟩ : Triple I L) ∈ snapshot := by
  simp only [statementCandidates, mem_append, or_assoc]
  refine or_congr ?_ (or_congr ?_ ?_)
  · simp only [mem_flatMap, mem_schemaFacts]
    constructor
    · rintro ⟨_, ⟨p, q, member, rfl⟩, offered⟩
      simp only [mem_ite_nil_right, mem_singleton] at offered
      obtain ⟨rfl, rfl⟩ := offered
      exact ⟨q, rfl, member⟩
    · rintro ⟨q, rfl, member⟩
      exact ⟨_, ⟨_, q, member, rfl⟩, by simp⟩
  · simp only [mem_flatMap, mem_schemaFacts]
    constructor
    · rintro ⟨_, ⟨p, c, member, rfl⟩, offered⟩
      simp only [mem_ite_nil_right, mem_singleton] at offered
      obtain ⟨rfl, rfl⟩ := offered
      exact ⟨c, rfl, member⟩
    · rintro ⟨c, rfl, member⟩
      exact ⟨_, ⟨_, c, member, rfl⟩, by simp⟩
  · cases object : statement.object with
    | literal literal => simp
    | iri value =>
      simp only [mem_flatMap, mem_schemaFacts]
      constructor
      · rintro ⟨_, ⟨p, c, member, rfl⟩, offered⟩
        simp only [mem_ite_nil_right, mem_singleton] at offered
        obtain ⟨rfl, rfl⟩ := offered
        exact ⟨value, c, rfl, rfl, member⟩
      · rintro ⟨y, c, same, rfl, member⟩
        cases same
        exact ⟨_, ⟨_, c, member, rfl⟩, by simp⟩

theorem mem_equivalenceCandidates {left right : RuleId} {equivalence hierarchy : I} :
    candidate ∈ equivalenceCandidates left right equivalence hierarchy snapshot ↔
      ∃ a b, (⟨a, equivalence, .iri b⟩ : Triple I L) ∈ snapshot ∧
        (candidate = ⟨left, ⟨a, hierarchy, .iri b⟩, [⟨a, equivalence, .iri b⟩]⟩ ∨
          candidate = ⟨right, ⟨b, hierarchy, .iri a⟩, [⟨a, equivalence, .iri b⟩]⟩) := by
  simp only [equivalenceCandidates, mem_flatMap, mem_schemaFacts]
  constructor
  · rintro ⟨_, ⟨a, b, member, rfl⟩, offered⟩
    exact ⟨a, b, member, by simpa using offered⟩
  · rintro ⟨a, b, member, offered⟩
    exact ⟨_, ⟨a, b, member, rfl⟩, by simpa using offered⟩

theorem mem_inverseCandidates : candidate ∈ inverseCandidates setting snapshot ↔
      ∃ p q s x y, (⟨p, setting.OWL_INVERSE_OF, .iri q⟩ : Triple I L) ∈ snapshot ∧
        (⟨x, s, .iri y⟩ : Triple I L) ∈ snapshot ∧
        (s = p ∧ candidate = ⟨.inverseOfForward, ⟨y, q, .iri x⟩,
            [⟨p, setting.OWL_INVERSE_OF, .iri q⟩, ⟨x, s, .iri y⟩]⟩ ∨
          s = q ∧ candidate = ⟨.inverseOfReverse, ⟨y, p, .iri x⟩,
            [⟨p, setting.OWL_INVERSE_OF, .iri q⟩, ⟨x, s, .iri y⟩]⟩) := by
  simp only [inverseCandidates, mem_flatMap, mem_schemaFacts]
  constructor
  · rintro ⟨_, ⟨p, q, declared, rfl⟩, ⟨x, s, object⟩, stated, offered⟩
    cases object with
    | literal literal => simp at offered
    | iri y =>
      simp only [mem_append, mem_ite_nil_right, mem_singleton] at offered
      exact ⟨p, q, s, x, y, declared, stated, offered⟩
  · rintro ⟨p, q, s, x, y, declared, stated, offered⟩
    refine ⟨_, ⟨p, q, declared, rfl⟩, _, stated, ?_⟩
    simpa only [mem_append, mem_ite_nil_right, mem_singleton] using offered

theorem mem_symmetricCandidates : candidate ∈ symmetricCandidates setting snapshot ↔
      ∃ p x y, candidate = ⟨.symmetricProperty, ⟨y, p, .iri x⟩, [⟨x, p, .iri y⟩]⟩ ∧
        (⟨x, p, .iri y⟩ : Triple I L) ∈ snapshot ∧
        (⟨p, setting.RDF_TYPE, .iri setting.OWL_SYMMETRIC_PROPERTY⟩ : Triple I L) ∈
          snapshot := by
  simp only [symmetricCandidates, mem_flatMap]
  constructor
  · rintro ⟨⟨x, p, object⟩, stated, offered⟩
    cases object with
    | literal literal => simp at offered
    | iri y =>
      simp only [mem_ite_nil_right, mem_singleton, mem_declaredProperties] at offered
      exact ⟨p, x, y, offered.2, stated, offered.1⟩
  · rintro ⟨p, x, y, rfl, stated, declared⟩
    exact ⟨_, stated, by simpa only [mem_ite_nil_right, mem_singleton, and_true,
      mem_declaredProperties] using declared⟩

theorem mem_transitiveCandidates : candidate ∈ transitiveCandidates setting snapshot ↔
      ∃ p x y object, candidate = ⟨.transitiveProperty, ⟨x, p, object⟩,
          [⟨x, p, .iri y⟩, ⟨y, p, object⟩]⟩ ∧
        (⟨x, p, .iri y⟩ : Triple I L) ∈ snapshot ∧ (⟨y, p, object⟩ : Triple I L) ∈ snapshot ∧
        (⟨p, setting.RDF_TYPE, .iri setting.OWL_TRANSITIVE_PROPERTY⟩ : Triple I L) ∈
          snapshot := by
  simp only [transitiveCandidates, mem_flatMap]
  constructor
  · rintro ⟨⟨x, p, object⟩, first, offered⟩
    cases object with
    | literal literal => simp at offered
    | iri y =>
      simp only [mem_ite_nil_right, mem_flatMap, mem_singleton, mem_declaredProperties] at offered
      obtain ⟨declared, ⟨y', p', object⟩, second, ⟨rfl, rfl⟩, rfl⟩ := offered
      exact ⟨p', x, y', object, rfl, first, second, declared⟩
  · rintro ⟨p, x, y, object, rfl, first, second, declared⟩
    refine ⟨_, first, ?_⟩
    simp only [mem_ite_nil_right, mem_flatMap, mem_singleton, mem_declaredProperties]
    exact ⟨declared, _, second, ⟨rfl, rfl⟩, rfl⟩

omit [DecidableEq I] in
theorem two_le_length_propertyChain {object : AssertionObject I L}
    (decoded : propertyChain setting object = some chain) : 2 ≤ chain.length := by
  cases object with
  | iri value => simp [propertyChain] at decoded
  | literal value =>
    simp only [propertyChain] at decoded
    split at decoded
    · cases decoded
    · rename_i items _
      split at decoded
      · rename_i bounds
        match items, bounds with
        | first :: second :: rest, _ =>
          simp only [mapM_cons, Option.pure_def, Option.bind_eq_bind,
            Option.bind_eq_some_iff, Option.some.injEq] at decoded
          obtain ⟨_, _, _, ⟨_, _, _, _, rfl⟩, rfl⟩ := decoded
          simp
      · cases decoded

omit [DecidableEq I] in
theorem propertyChain_ne_nil {object : AssertionObject I L} {chain : List I}
    (decoded : propertyChain setting object = some chain) : chain ≠ [] := by
  rintro rfl
  exact absurd (two_le_length_propertyChain decoded) (Nat.not_succ_le_zero 1)

theorem mem_chainCandidates : candidate ∈ chainCandidates setting snapshot ↔
      ∃ q object chain path first last,
        candidate = ⟨.propertyChainAxiom chain.length, ⟨first.subject, q, last.object⟩,
          ⟨q, setting.OWL_PROPERTY_CHAIN_AXIOM, object⟩ :: path⟩ ∧
        propertyChain setting object = some chain ∧ Walk chain path ∧
        path.head? = some first ∧ path.getLast? = some last ∧
        (⟨q, setting.OWL_PROPERTY_CHAIN_AXIOM, object⟩ : Triple I L) ∈ snapshot ∧
        ∀ fact ∈ path, fact ∈ snapshot := by
  simp only [chainCandidates, mem_flatMap, mem_ite_nil_right]
  constructor
  · rintro ⟨⟨q, predicate, object⟩, declared, rfl, offered⟩
    cases decoded : propertyChain setting object with
    | none => simp [decoded] at offered
    | some chain =>
      simp only [decoded, mem_flatMap] at offered
      obtain ⟨path, matching, offered⟩ := offered
      obtain ⟨_, walk, inside⟩ :=
        (mem_matchingPaths (propertyChain_ne_nil decoded) path).mp matching
      unfold chainCandidate at offered
      split at offered
      · rename_i first last head_eq last_eq
        exact ⟨q, object, chain, path, first, last, mem_singleton.mp offered, decoded,
          walk, head_eq, last_eq, declared, inside⟩
      · cases offered
  · rintro ⟨q, object, chain, path, first, last, rfl, decoded, walk, head_eq, last_eq,
      declared, inside⟩
    refine ⟨_, declared, rfl, ?_⟩
    have nonempty : path ≠ [] := by
      rintro rfl
      cases head_eq
    simp only [decoded, mem_flatMap]
    refine ⟨path, (mem_matchingPaths (propertyChain_ne_nil decoded) path).mpr
      ⟨nonempty, walk, inside⟩, ?_⟩
    simp [chainCandidate, head_eq, last_eq]

/-- A round offers exactly the rule instances whose premises and consulted declarations are
in its snapshot. -/
theorem mem_candidates {owl : Bool} : candidate ∈ candidates setting owl snapshot ↔
      ∃ consulted, RuleShape setting owl candidate consulted ∧
        ∀ fact ∈ candidate.premises ++ consulted, fact ∈ snapshot := by
  simp only [candidates, rdfsCandidates, mem_append, mem_hierarchyCandidates,
    mem_instanceCandidates, mem_flatMap, mem_statementCandidates]
  constructor
  · rintro ((((⟨a, b, c, rfl, left, right⟩ | ⟨x, a, b, rfl, left, right⟩) |
      ⟨a, b, c, rfl, left, right⟩) | ⟨⟨x, p, object⟩, stated, ⟨q, rfl, declared⟩ |
      ⟨c, rfl, declared⟩ | ⟨y, c, rfl, rfl, declared⟩⟩) | offered)
    · exact ⟨_, .subClassOfTransitive a b c, by simp [left, right]⟩
    · exact ⟨_, .typeSubClassOf x a b, by simp [left, right]⟩
    · exact ⟨_, .subPropertyOfTransitive a b c, by simp [left, right]⟩
    · exact ⟨_, .subPropertyOf x p q object, by simp [stated, declared]⟩
    · exact ⟨_, .domain x p c object, by simp [stated, declared]⟩
    · exact ⟨_, .range x p y c, by simp [stated, declared]⟩
    · cases owl with
      | false => cases offered
      | true =>
        simp only [↓reduceIte, owlCandidates, mem_append, mem_equivalenceCandidates,
          mem_inverseCandidates, mem_symmetricCandidates, mem_transitiveCandidates,
          mem_chainCandidates] at offered
        rcases offered with ((((⟨a, b, member, rfl | rfl⟩ | ⟨p, q, member, rfl | rfl⟩) |
          ⟨p, q, s, x, y, declared, stated, ⟨rfl, rfl⟩ | ⟨rfl, rfl⟩⟩) |
          ⟨p, x, y, rfl, stated, declared⟩) |
          ⟨p, x, y, object, rfl, first, second, declared⟩) |
          ⟨q, object, chain, path, first, last, rfl, decoded, walk, head_eq, last_eq,
            declared, inside⟩
        · exact ⟨_, .equivalentClassLeft a b rfl, by simp [member]⟩
        · exact ⟨_, .equivalentClassRight a b rfl, by simp [member]⟩
        · exact ⟨_, .equivalentPropertyLeft p q rfl, by simp [member]⟩
        · exact ⟨_, .equivalentPropertyRight p q rfl, by simp [member]⟩
        · exact ⟨_, .inverseOfForward s q x y rfl, by simp [declared, stated]⟩
        · exact ⟨_, .inverseOfReverse p s x y rfl, by simp [declared, stated]⟩
        · exact ⟨_, .symmetricProperty p x y rfl, by simp [declared, stated]⟩
        · refine ⟨_, .transitiveProperty p x y object rfl, ?_⟩
          intro fact member
          simp only [mem_cons, not_mem_nil, or_false] at member
          rcases member with (rfl | rfl) | rfl
          · exact first
          · exact second
          · exact declared
        · exact ⟨_, .propertyChainAxiom q object chain path first last rfl decoded walk
            head_eq last_eq, by simpa [declared] using inside⟩
  · rintro ⟨consulted, shape, inside⟩
    cases shape with
    | subClassOfTransitive a b c =>
      exact .inl (.inl (.inl (.inl ⟨a, b, c, rfl, inside _ (by simp), inside _ (by simp)⟩)))
    | typeSubClassOf x a b =>
      exact .inl (.inl (.inl (.inr ⟨x, a, b, rfl, inside _ (by simp), inside _ (by simp)⟩)))
    | subPropertyOfTransitive p q r =>
      exact .inl (.inl (.inr ⟨p, q, r, rfl, inside _ (by simp), inside _ (by simp)⟩))
    | subPropertyOf x p q object =>
      exact .inl (.inr ⟨⟨x, p, object⟩, inside _ (by simp), .inl ⟨q, rfl, inside _ (by simp)⟩⟩)
    | domain x p c object =>
      exact .inl (.inr ⟨⟨x, p, object⟩, inside _ (by simp),
        .inr (.inl ⟨c, rfl, inside _ (by simp)⟩)⟩)
    | range x p y c =>
      exact .inl (.inr ⟨⟨x, p, .iri y⟩, inside _ (by simp),
        .inr (.inr ⟨y, c, rfl, rfl, inside _ (by simp)⟩)⟩)
    | equivalentClassLeft a b on =>
      refine .inr ?_
      simp only [on, ↓reduceIte, owlCandidates, mem_append, mem_equivalenceCandidates]
      exact .inl (.inl (.inl (.inl (.inl ⟨a, b, inside _ (by simp), .inl rfl⟩))))
    | equivalentClassRight a b on =>
      refine .inr ?_
      simp only [on, ↓reduceIte, owlCandidates, mem_append, mem_equivalenceCandidates]
      exact .inl (.inl (.inl (.inl (.inl ⟨a, b, inside _ (by simp), .inr rfl⟩))))
    | equivalentPropertyLeft p q on =>
      refine .inr ?_
      simp only [on, ↓reduceIte, owlCandidates, mem_append, mem_equivalenceCandidates]
      exact .inl (.inl (.inl (.inl (.inr ⟨p, q, inside _ (by simp), .inl rfl⟩))))
    | equivalentPropertyRight p q on =>
      refine .inr ?_
      simp only [on, ↓reduceIte, owlCandidates, mem_append, mem_equivalenceCandidates]
      exact .inl (.inl (.inl (.inl (.inr ⟨p, q, inside _ (by simp), .inr rfl⟩))))
    | inverseOfForward p q x y on =>
      refine .inr ?_
      simp only [on, ↓reduceIte, owlCandidates, mem_append, mem_inverseCandidates]
      exact .inl (.inl (.inl (.inr ⟨p, q, p, x, y, inside _ (by simp), inside _ (by simp),
        .inl ⟨rfl, rfl⟩⟩)))
    | inverseOfReverse p q x y on =>
      refine .inr ?_
      simp only [on, ↓reduceIte, owlCandidates, mem_append, mem_inverseCandidates]
      exact .inl (.inl (.inl (.inr ⟨p, q, q, x, y, inside _ (by simp), inside _ (by simp),
        .inr ⟨rfl, rfl⟩⟩)))
    | symmetricProperty p x y on =>
      refine .inr ?_
      simp only [on, ↓reduceIte, owlCandidates, mem_append, mem_symmetricCandidates]
      exact .inl (.inl (.inr ⟨p, x, y, rfl, inside _ (by simp), inside _ (by simp)⟩))
    | transitiveProperty p x y object on =>
      refine .inr ?_
      simp only [on, ↓reduceIte, owlCandidates, mem_append, mem_transitiveCandidates]
      exact .inl (.inr ⟨p, x, y, object, rfl, inside _ (by simp), inside _ (by simp),
        inside _ (by simp)⟩)
    | propertyChainAxiom q object chain path first last on decoded walk head_eq last_eq =>
      refine .inr ?_
      simp only [on, ↓reduceIte, owlCandidates, mem_append, mem_chainCandidates]
      exact .inr ⟨q, object, chain, path, first, last, rfl, decoded, walk, head_eq, last_eq,
        inside _ (by simp), fun fact member => inside fact (by simp [member])⟩

end Kestrel.Inference
