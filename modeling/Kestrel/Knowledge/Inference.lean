import Mathlib.Algebra.GroupWithZero.Nat
import Mathlib.Data.List.Sort
import Mathlib.Order.Defs.LinearOrder

/-!
# Bounded RDFS and OWL 2 RL materialization

The rule engine of the materializer. IRIs and literals are only compared for equality, so
their types are parameters; an assertion identity is an injective function of the triple.
One round reads an immutable snapshot of the facts and offers every rule instance on it to
the fact dictionary, which records the premise identities of each accepted proof.
-/

namespace Kestrel.Inference

inductive AssertionObject (I L : Type*) where
  | iri (value : I)
  | literal (value : L)
  deriving DecidableEq, Repr

/-- The identity-bearing content of an assertion. -/
structure Triple (I L : Type*) where
  subject : I
  predicate : I
  object : AssertionObject I L
  deriving DecidableEq, Repr

instance {I L : Type*} [DecidableEq I] [DecidableEq L] : LawfulBEq (Triple I L) := inferInstance

/-- The vocabulary the rules react to. -/
structure Vocabulary (I : Type*) where
  RDF_TYPE : I
  RDFS_SUBCLASS : I
  RDFS_SUBPROPERTY : I
  RDFS_DOMAIN : I
  RDFS_RANGE : I
  OWL_EQUIVALENT_CLASS : I
  OWL_EQUIVALENT_PROPERTY : I
  OWL_INVERSE_OF : I
  OWL_TRANSITIVE_PROPERTY : I
  OWL_SYMMETRIC_PROPERTY : I
  OWL_PROPERTY_CHAIN_AXIOM : I
  distinct : [RDF_TYPE, RDFS_SUBCLASS, RDFS_SUBPROPERTY, RDFS_DOMAIN, RDFS_RANGE,
    OWL_EQUIVALENT_CLASS, OWL_EQUIVALENT_PROPERTY, OWL_INVERSE_OF, OWL_TRANSITIVE_PROPERTY,
    OWL_SYMMETRIC_PROPERTY, OWL_PROPERTY_CHAIN_AXIOM].Nodup

/-- The rule a derivation names. -/
inductive RuleId where
  | subClassOfTransitive
  | typeSubClassOf
  | subPropertyOfTransitive
  | subPropertyOf
  | domain
  | range
  | equivalentClassLeft
  | equivalentClassRight
  | equivalentPropertyLeft
  | equivalentPropertyRight
  | inverseOfForward
  | inverseOfReverse
  | symmetricProperty
  | transitiveProperty
  | propertyChainAxiom (length : ℕ)
  deriving DecidableEq, Repr

def RuleId.name : RuleId → String
  | .subClassOfTransitive => "rdfs:subClassOf-transitive"
  | .typeSubClassOf => "rdfs:type-subClassOf"
  | .subPropertyOfTransitive => "rdfs:subPropertyOf-transitive"
  | .subPropertyOf => "rdfs:subPropertyOf"
  | .domain => "rdfs:domain"
  | .range => "rdfs:range"
  | .equivalentClassLeft => "owl:equivalentClass-left"
  | .equivalentClassRight => "owl:equivalentClass-right"
  | .equivalentPropertyLeft => "owl:equivalentProperty-left"
  | .equivalentPropertyRight => "owl:equivalentProperty-right"
  | .inverseOfForward => "owl:inverseOf-forward"
  | .inverseOfReverse => "owl:inverseOf-reverse"
  | .symmetricProperty => "owl:SymmetricProperty"
  | .transitiveProperty => "owl:TransitiveProperty"
  | .propertyChainAxiom length => "owl:propertyChainAxiom:" ++ toString length

/-- What the rule engine takes from its environment: the vocabulary, the reading of a literal
as a JSON array of strings, the reading of a string as an IRI, and assertion identities. -/
structure Setting (I L K : Type*) extends Vocabulary I where
  loadsStringArray : L → Option (List String)
  parseIRI : String → Option I
  assertionId : Triple I L → K
  assertionId_injective : Function.Injective assertionId

/-- A rule instance offered to the fact dictionary. -/
structure Candidate (I L : Type*) where
  rule : RuleId
  conclusion : Triple I L
  premises : List (Triple I L)
  deriving DecidableEq, Repr

section Candidates

variable {I L K : Type*} [DecidableEq I]

/-- The facts with a given predicate and an IRI object, with that object. -/
def schemaFacts (predicate : I) (snapshot : List (Triple I L)) : List (Triple I L × I) :=
  snapshot.filterMap fun fact =>
    match fact.object with
    | .iri value => if fact.predicate = predicate then some (fact, value) else none
    | .literal _ => none

def declaredProperties (setting : Setting I L K) (kind : I) (snapshot : List (Triple I L)) :
    List I :=
  (schemaFacts setting.RDF_TYPE snapshot).filterMap fun fact =>
    if fact.2 = kind then some fact.1.subject else none

def propertyChain (setting : Setting I L K) : AssertionObject I L → Option (List I)
  | .iri _ => none
  | .literal value =>
    match setting.loadsStringArray value with
    | none => none
    | some decoded =>
      if 2 ≤ decoded.length ∧ decoded.length ≤ 3 then decoded.mapM setting.parseIRI else none

def extendPaths (snapshot : List (Triple I L)) (paths : List (List (Triple I L)))
    (predicate : I) : List (List (Triple I L)) :=
  paths.flatMap fun path =>
    match path.getLast? with
    | none => []
    | some tail =>
      match tail.object with
      | .literal _ => []
      | .iri value =>
        (snapshot.filter fun candidate =>
          candidate.predicate = predicate ∧ candidate.subject = value).map
            fun candidate => path ++ [candidate]

/-- The paths of facts that follow the properties of a chain. -/
def matchingPaths (snapshot : List (Triple I L)) : List I → List (List (Triple I L))
  | [] => []
  | first :: rest =>
    rest.foldl (extendPaths snapshot)
      ((snapshot.filter fun fact => fact.predicate = first).map fun fact => [fact])

def hierarchyCandidates (rule : RuleId) (predicate : I) (hierarchy : List (Triple I L × I)) :
    List (Candidate I L) :=
  hierarchy.flatMap fun left => hierarchy.flatMap fun right =>
    if left.2 = right.1.subject then
      [⟨rule, ⟨left.1.subject, predicate, .iri right.2⟩, [left.1, right.1]⟩]
    else []

/-- The instances of subclass membership. -/
def instanceCandidates (setting : Setting I L K) (snapshot : List (Triple I L)) :
    List (Candidate I L) :=
  (schemaFacts setting.RDF_TYPE snapshot).flatMap fun member =>
    (schemaFacts setting.RDFS_SUBCLASS snapshot).flatMap fun hierarchy =>
      if member.2 = hierarchy.1.subject then
        [⟨.typeSubClassOf, ⟨member.1.subject, setting.RDF_TYPE, .iri hierarchy.2⟩,
          [member.1, hierarchy.1]⟩]
      else []

/-- The subproperty, domain and range instances of one statement. -/
def statementCandidates (setting : Setting I L K) (snapshot : List (Triple I L))
    (statement : Triple I L) : List (Candidate I L) :=
  ((schemaFacts setting.RDFS_SUBPROPERTY snapshot).flatMap fun hierarchy =>
    if statement.predicate = hierarchy.1.subject then
      [⟨.subPropertyOf, ⟨statement.subject, hierarchy.2, statement.object⟩,
        [statement, hierarchy.1]⟩]
    else []) ++
  ((schemaFacts setting.RDFS_DOMAIN snapshot).flatMap fun domain =>
    if statement.predicate = domain.1.subject then
      [⟨.domain, ⟨statement.subject, setting.RDF_TYPE, .iri domain.2⟩, [statement, domain.1]⟩]
    else []) ++
  (match statement.object with
  | .literal _ => []
  | .iri value => (schemaFacts setting.RDFS_RANGE snapshot).flatMap fun range =>
    if statement.predicate = range.1.subject then
      [⟨.range, ⟨value, setting.RDF_TYPE, .iri range.2⟩, [statement, range.1]⟩]
    else [])

/-- The rule instances of the RDFS profile. -/
def rdfsCandidates (setting : Setting I L K) (snapshot : List (Triple I L)) :
    List (Candidate I L) :=
  hierarchyCandidates .subClassOfTransitive setting.RDFS_SUBCLASS
    (schemaFacts setting.RDFS_SUBCLASS snapshot) ++
  instanceCandidates setting snapshot ++
  hierarchyCandidates .subPropertyOfTransitive setting.RDFS_SUBPROPERTY
    (schemaFacts setting.RDFS_SUBPROPERTY snapshot) ++
  snapshot.flatMap (statementCandidates setting snapshot)

def equivalenceCandidates (left right : RuleId) (equivalence hierarchy : I)
    (snapshot : List (Triple I L)) : List (Candidate I L) :=
  (schemaFacts equivalence snapshot).flatMap fun equivalent =>
    [⟨left, ⟨equivalent.1.subject, hierarchy, .iri equivalent.2⟩, [equivalent.1]⟩,
      ⟨right, ⟨equivalent.2, hierarchy, .iri equivalent.1.subject⟩, [equivalent.1]⟩]

/-- Both readings of an inverse declaration. -/
def inverseCandidates (setting : Setting I L K) (snapshot : List (Triple I L)) :
    List (Candidate I L) :=
  (schemaFacts setting.OWL_INVERSE_OF snapshot).flatMap fun inverse =>
    snapshot.flatMap fun statement =>
      match statement.object with
      | .literal _ => []
      | .iri value =>
        (if statement.predicate = inverse.1.subject then
          [⟨.inverseOfForward, ⟨value, inverse.2, .iri statement.subject⟩,
            [inverse.1, statement]⟩]
        else []) ++
        (if statement.predicate = inverse.2 then
          [⟨.inverseOfReverse, ⟨value, inverse.1.subject, .iri statement.subject⟩,
            [inverse.1, statement]⟩]
        else [])

/-- The flipped statements of symmetric properties; the declaration is not a premise. -/
def symmetricCandidates (setting : Setting I L K) (snapshot : List (Triple I L)) :
    List (Candidate I L) :=
  let symmetric := declaredProperties setting setting.OWL_SYMMETRIC_PROPERTY snapshot
  snapshot.flatMap fun statement =>
    match statement.object with
    | .literal _ => []
    | .iri value =>
      if statement.predicate ∈ symmetric then
        [⟨.symmetricProperty, ⟨value, statement.predicate, .iri statement.subject⟩,
          [statement]⟩]
      else []

/-- The composed statements of transitive properties; the declaration is not a premise. -/
def transitiveCandidates (setting : Setting I L K) (snapshot : List (Triple I L)) :
    List (Candidate I L) :=
  let transitive := declaredProperties setting setting.OWL_TRANSITIVE_PROPERTY snapshot
  snapshot.flatMap fun first =>
    match first.object with
    | .literal _ => []
    | .iri value =>
      if first.predicate ∈ transitive then
        snapshot.flatMap fun second =>
          if second.predicate = first.predicate ∧ second.subject = value then
            [⟨.transitiveProperty, ⟨first.subject, first.predicate, second.object⟩,
              [first, second]⟩]
          else []
      else []

def chainCandidate (axiomFact : Triple I L) (chain : List I) (path : List (Triple I L)) :
    List (Candidate I L) :=
  match path.head?, path.getLast? with
  | some first, some last =>
    [⟨.propertyChainAxiom chain.length, ⟨first.subject, axiomFact.subject, last.object⟩,
      axiomFact :: path⟩]
  | _, _ => []

/-- The instances of the property chain axioms. -/
def chainCandidates (setting : Setting I L K) (snapshot : List (Triple I L)) :
    List (Candidate I L) :=
  snapshot.flatMap fun axiomFact =>
    if axiomFact.predicate = setting.OWL_PROPERTY_CHAIN_AXIOM then
      match propertyChain setting axiomFact.object with
      | none => []
      | some chain => (matchingPaths snapshot chain).flatMap (chainCandidate axiomFact chain)
    else []

/-- The rule instances the OWL profile adds. -/
def owlCandidates (setting : Setting I L K) (snapshot : List (Triple I L)) :
    List (Candidate I L) :=
  equivalenceCandidates .equivalentClassLeft .equivalentClassRight
    setting.OWL_EQUIVALENT_CLASS setting.RDFS_SUBCLASS snapshot ++
  equivalenceCandidates .equivalentPropertyLeft .equivalentPropertyRight
    setting.OWL_EQUIVALENT_PROPERTY setting.RDFS_SUBPROPERTY snapshot ++
  inverseCandidates setting snapshot ++
  symmetricCandidates setting snapshot ++
  transitiveCandidates setting snapshot ++
  chainCandidates setting snapshot

/-- The rule instances a round offers, in the order it offers them. -/
def candidates (setting : Setting I L K) (owl : Bool) (snapshot : List (Triple I L)) :
    List (Candidate I L) :=
  rdfsCandidates setting snapshot ++ if owl then owlCandidates setting snapshot else []

end Candidates

/-! ## The fact dictionary -/

/-- A recorded proof: its rule and the identities of its premises. -/
structure Derivation (K : Type*) where
  ruleId : RuleId
  premises : List K
  deriving DecidableEq, Repr

/-- An entry of the fact dictionary. -/
structure Fact (I L K : Type*) where
  triple : Triple I L
  depth : ℕ
  isSource : Bool
  derivations : List (Derivation K)
  deriving DecidableEq, Repr

/-- Finite operator-configured limits for one closure calculation; the wall-time limit is
the clock. -/
structure InferenceLimits where
  maxSourceAssertions : ℕ
  maxIterations : ℕ
  maxGeneratedAssertions : ℕ
  maxMemoryItems : ℕ
  deriving DecidableEq, Repr

inductive BudgetExceeded where
  | sourceAssertions
  | iterations
  | generatedAssertions
  | wallTime
  | memory
  | contextAssertions
  deriving DecidableEq, Repr

/-- Whether the wall-time limit has passed at the n-th poll. -/
abbrev Clock := ℕ → Bool

/-- The facts of a running closure, whether the round added one, and the clock polls. -/
structure CloseState (I L K : Type*) where
  facts : List (Fact I L K)
  added : Bool
  polls : ℕ

/-- The bound parameters of a closure calculation. -/
structure Engine (I L K : Type*) where
  setting : Setting I L K
  owl : Bool
  limits : InferenceLimits
  clock : Clock

namespace Engine

scoped instance {K : Type*} [LinearOrder K] : LawfulBEq K := inferInstance

variable {I L K : Type*} [DecidableEq I] [DecidableEq L] [LinearOrder K]

def triples (facts : List (Fact I L K)) : List (Triple I L) := facts.map Fact.triple

def sourceCount (facts : List (Fact I L K)) : ℕ := facts.countP Fact.isSource

def checkTime (engine : Engine I L K) (state : CloseState I L K) :
    Except BudgetExceeded (CloseState I L K) :=
  if engine.clock state.polls then .error .wallTime
  else .ok { state with polls := state.polls + 1 }

def checkMemory (engine : Engine I L K) (state : CloseState I L K) :
    Except BudgetExceeded (CloseState I L K) :=
  if state.facts.length + (state.facts.map fun fact => fact.derivations.length).sum >
      engine.limits.maxMemoryItems then .error .memory
  else .ok state

/-- The dictionary accepts a candidate with distinct premises that do not contain its
conclusion. -/
def Accepts (engine : Engine I L K) (candidate : Candidate I L) : Prop :=
  (candidate.premises.map engine.setting.assertionId).Nodup ∧
    engine.setting.assertionId candidate.conclusion ∉
      candidate.premises.map engine.setting.assertionId

instance (engine : Engine I L K) (candidate : Candidate I L) :
    Decidable (engine.Accepts candidate) :=
  inferInstanceAs (Decidable (_ ∧ _))

/-- The proof a candidate leaves in the dictionary. -/
def derivation (engine : Engine I L K) (candidate : Candidate I L) : Derivation K :=
  ⟨candidate.rule, candidate.premises.map engine.setting.assertionId⟩

def recordDerivation (derivation : Derivation K) (fact : Fact I L K) : Fact I L K :=
  if fact.isSource ∨ derivation ∈ fact.derivations then fact
  else { fact with derivations := fact.derivations ++ [derivation] }

def enter (engine : Engine I L K) (depth : ℕ) (candidate : Candidate I L)
    (state : CloseState I L K) : Except BudgetExceeded (CloseState I L K) :=
  if candidate.conclusion ∈ triples state.facts then
    .ok { state with
      facts := state.facts.map fun fact =>
        if fact.triple = candidate.conclusion then
          recordDerivation (engine.derivation candidate) fact
        else fact }
  else if state.facts.length - sourceCount state.facts ≥ engine.limits.maxGeneratedAssertions then
    .error .generatedAssertions
  else
    .ok { state with
      facts := state.facts ++
        [⟨candidate.conclusion, depth, false, [engine.derivation candidate]⟩]
      added := true }

/-- Offer one candidate to the dictionary. -/
def add (engine : Engine I L K) (depth : ℕ) (state : CloseState I L K)
    (candidate : Candidate I L) : Except BudgetExceeded (CloseState I L K) := do
  let state ← engine.checkTime state
  if engine.Accepts candidate then
    let state ← engine.enter depth candidate state
    engine.checkMemory state
  else return state

/-- The snapshot a round reads, in the order of assertion identities. -/
def snapshot (engine : Engine I L K) (facts : List (Fact I L K)) : List (Triple I L) :=
  (triples facts).insertionSort fun left right =>
    engine.setting.assertionId left ≤ engine.setting.assertionId right

/-- Offer every rule instance of the snapshot to the dictionary. -/
def applyRules (engine : Engine I L K) (depth : ℕ) (state : CloseState I L K) :
    Except BudgetExceeded (CloseState I L K) :=
  (candidates engine.setting engine.owl (engine.snapshot state.facts)).foldlM
    (engine.add depth) { state with added := false }

/-- Rounds until one adds nothing. -/
def closeLoop (engine : Engine I L K) :
    ℕ → CloseState I L K → Except BudgetExceeded (List (Fact I L K))
  | 0, _ => .error .iterations
  | remaining + 1, state => do
    let state ← engine.checkTime state
    let state ← engine.applyRules (engine.limits.maxIterations - remaining) state
    let state ← engine.checkTime state
    let state ← engine.checkMemory state
    if state.added then engine.closeLoop remaining state else return state.facts

/-- The dictionary of source facts a closure starts from. -/
def sourceFacts (sources : List (Triple I L)) : List (Fact I L K) :=
  sources.map fun triple => ⟨triple, 0, true, []⟩

def close (engine : Engine I L K) (sources : List (Triple I L)) :
    Except BudgetExceeded (List (Fact I L K)) := do
  let state ← engine.checkMemory ⟨sourceFacts sources, false, 0⟩
  engine.closeLoop engine.limits.maxIterations state

end Engine

end Kestrel.Inference
