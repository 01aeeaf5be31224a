import Mathlib.Data.List.Dedup
import Kestrel.Knowledge.Inference

/-!
# The source facts of a targeted materialization

A targeted unit starts from the selected direct facts and follows, from every fact it has
loaded, the index lookups that can supply a missing rule premise. The context budget bounds
the rows read; a lookup that may have been truncated makes the unit incomplete.
-/

namespace Kestrel.Inference

/-- One indexed lookup of premises. -/
inductive ContextTerm (I : Type*) where
  | bySubject (value : I)
  | byPredicate (value : I)
  | byObject (value : I)
  | byPredicateObject (predicate value : I)
  deriving DecidableEq, Repr

/-- The facts a lookup finds. -/
def ContextTerm.Matches {I L : Type*} : ContextTerm I → Triple I L → Prop
  | .bySubject value, fact => fact.subject = value
  | .byPredicate value, fact => fact.predicate = value
  | .byObject value, fact => fact.object = .iri value
  | .byPredicateObject predicate value, fact =>
    fact.predicate = predicate ∧ fact.object = .iri value

instance {I L : Type*} [DecidableEq I] [DecidableEq L] (term : ContextTerm I)
    (fact : Triple I L) : Decidable (term.Matches fact) :=
  match term with
  | .bySubject _ | .byPredicate _ | .byObject _ => inferInstanceAs (Decidable (_ = _))
  | .byPredicateObject _ _ => inferInstanceAs (Decidable (_ ∧ _))

section Terms

variable {I L K : Type*} [DecidableEq I]

def statementTerms (setting : Setting I L K) (owl : Bool) (predicate : I) :
    List (ContextTerm I) :=
  .bySubject predicate ::
    if owl then
      [.byPredicateObject setting.OWL_EQUIVALENT_PROPERTY predicate,
        .byPredicateObject setting.OWL_INVERSE_OF predicate]
    else []

/-- The indexed direct-premise joins for one source fact. -/
def targetContextTerms (setting : Setting I L K) (owl : Bool) (fact : Triple I L) :
    List (ContextTerm I) :=
  if fact.predicate = setting.RDF_TYPE then
    match fact.object with
    | .literal _ => []
    | .iri value =>
      .bySubject value ::
        (if owl then [.byPredicateObject setting.OWL_EQUIVALENT_CLASS value] else []) ++
        (if owl ∧ (value = setting.OWL_TRANSITIVE_PROPERTY ∨
            value = setting.OWL_SYMMETRIC_PROPERTY) then
          [.byPredicate fact.subject, .bySubject fact.subject]
        else [])
  else
    match fact.object with
    | .iri value =>
      if fact.predicate = setting.RDFS_SUBCLASS then
        [.bySubject fact.subject, .byObject fact.subject, .bySubject value]
      else if owl ∧ fact.predicate = setting.OWL_EQUIVALENT_CLASS then
        [.bySubject fact.subject, .byObject fact.subject, .bySubject value, .byObject value]
      else if fact.predicate = setting.RDFS_SUBPROPERTY then
        [.bySubject fact.subject, .byObject fact.subject, .byPredicate fact.subject,
          .bySubject value]
      else if owl ∧ fact.predicate = setting.OWL_EQUIVALENT_PROPERTY then
        [.bySubject fact.subject, .byObject fact.subject, .byPredicate fact.subject,
          .bySubject value, .byObject value, .byPredicate value]
      else if fact.predicate = setting.RDFS_DOMAIN ∨ fact.predicate = setting.RDFS_RANGE then
        [.bySubject fact.subject, .byPredicate fact.subject, .bySubject value]
      else if owl ∧ fact.predicate = setting.OWL_INVERSE_OF then
        [.bySubject fact.subject, .byPredicate fact.subject, .bySubject value,
          .byPredicate value]
      else if owl ∧ fact.predicate = setting.OWL_PROPERTY_CHAIN_AXIOM then
        [.bySubject fact.subject]
      else statementTerms setting owl fact.predicate
    | .literal _ =>
      if owl ∧ fact.predicate = setting.OWL_PROPERTY_CHAIN_AXIOM then
        .bySubject fact.subject ::
          match propertyChain setting fact.object with
          | none => []
          | some chain => chain.map .byPredicate
      else statementTerms setting owl fact.predicate

end Terms

/-- A current, active, projection-eligible assertion as the store returns it. -/
structure InferenceInput (I L R : Type*) where
  triple : Triple I L
  revisionId : R
  isInferred : Bool
  hasProfileOntology : Bool
  deriving DecidableEq, Repr

/-- The eligible current assertions of a tenant: one row per identity and per revision. -/
structure InferenceInputs (I L R : Type*) where
  rows : List (InferenceInput I L R)
  identities_nodup : (rows.map InferenceInput.triple).Nodup
  revisions_nodup : (rows.map InferenceInput.revisionId).Nodup

/-- The row is an eligible direct fact of the profile's ontology. -/
def InferenceInput.IsDirect {I L R : Type*} (row : InferenceInput I L R) : Prop :=
  row.isInferred = false ∧ row.hasProfileOntology = true

instance {I L R : Type*} (row : InferenceInput I L R) : Decidable row.IsDirect :=
  inferInstanceAs (Decidable (_ ∧ _))

def InferenceInputs.directFacts {I L R : Type*} (inputs : InferenceInputs I L R) :
    List (Triple I L) :=
  (inputs.rows.filter fun row => row.IsDirect).map InferenceInput.triple

/-- Why a targeted unit does not finish. -/
inductive TargetFailure where
  | budget (reason : BudgetExceeded)
  | queryLimit
  | exceedsMaxSourceAssertions
  | outOfFuel
  deriving DecidableEq, Repr

/-- The worklists of a target expansion. -/
structure ExpansionState (I L : Type*) where
  facts : List (Triple I L)
  pendingFacts : List (Triple I L)
  pendingTerms : List (ContextTerm I)
  seenTerms : List (ContextTerm I)
  remainingContextReads : ℕ
  polls : ℕ

namespace Engine

variable {I L K R : Type*} [DecidableEq I] [DecidableEq L] [LinearOrder K] [LinearOrder R]

/-- The rows a lookup may return: not yet loaded, after the cursor, in revision order. -/
def contextRows (inputs : InferenceInputs I L R) (term : ContextTerm I) (cursor : Option R)
    (excluded : List (Triple I L)) : List (InferenceInput I L R) :=
  (inputs.rows.filter fun row =>
    term.Matches row.triple ∧ row.triple ∉ excluded ∧
      cursor.all fun bound => decide (bound < row.revisionId)).insertionSort
    fun left right => left.revisionId ≤ right.revisionId

def pollTarget (engine : Engine I L K) (state : ExpansionState I L) :
    Except TargetFailure (ExpansionState I L) :=
  if engine.clock state.polls then .error (.budget .wallTime)
  else .ok { state with polls := state.polls + 1 }

/-- Probe a term index without admitting another context fact. -/
def refuseContextRow (engine : Engine I L K) (inputs : InferenceInputs I L R)
    (term : ContextTerm I) (cursor : Option R) (state : ExpansionState I L) :
    Except TargetFailure (ExpansionState I L) := do
  let state ← engine.pollTarget state
  if contextRows inputs term cursor state.facts = [] then return state
  else throw (.budget .contextAssertions)

def loadInput (engine : Engine I L K) (state : ExpansionState I L)
    (row : InferenceInput I L R) : Except TargetFailure (ExpansionState I L) :=
  if ¬row.IsDirect ∨ row.triple ∈ state.facts then .ok state
  else if state.facts.length ≥ engine.limits.maxSourceAssertions then
    .error (.budget .sourceAssertions)
  else if state.facts.length + 1 > engine.limits.maxMemoryItems then .error (.budget .memory)
  else .ok { state with
    facts := state.facts ++ [row.triple]
    pendingFacts := state.pendingFacts ++ [row.triple] }

/-- Queue a lookup that has not been made before. -/
def schedule (state : ExpansionState I L) (term : ContextTerm I) : ExpansionState I L :=
  if term ∈ state.seenTerms then state
  else { state with
    pendingTerms := state.pendingTerms ++ [term]
    seenTerms := state.seenTerms ++ [term] }

def schedulePending (engine : Engine I L K) (state : ExpansionState I L) : ExpansionState I L :=
  { state.pendingFacts.foldl
      (fun state fact => (targetContextTerms engine.setting engine.owl fact).foldl schedule state)
      state with pendingFacts := [] }

/-- Make one lookup within the remaining context reads. -/
def readContext (engine : Engine I L K) (inputs : InferenceInputs I L R) (term : ContextTerm I)
    (state : ExpansionState I L) : Except TargetFailure (ExpansionState I L) :=
  if state.remainingContextReads = 0 then engine.refuseContextRow inputs term none state
  else if 1000 < state.remainingContextReads then .error .queryLimit
  else do
    let limit := state.remainingContextReads
    let state ← engine.pollTarget state
    let page := (contextRows inputs term none state.facts).take limit
    let state ← page.foldlM engine.loadInput
      { state with remainingContextReads := limit - page.length }
    match page.getLast? with
    | some last =>
      if page.length = limit then
        engine.refuseContextRow inputs term (some last.revisionId) state
      else return state
    | none => return state

/-- Follow lookups until no fact and no lookup is pending. -/
def expandTargets (engine : Engine I L K) (inputs : InferenceInputs I L R) :
    ℕ → ExpansionState I L → Except TargetFailure (List (Triple I L))
  | 0, _ => .error .outOfFuel
  | fuel + 1, state => do
    let state := engine.schedulePending state
    match state.pendingTerms with
    | [] => return state.facts
    | term :: rest =>
      let state ← engine.readContext inputs term { state with pendingTerms := rest }
      engine.expandTargets inputs fuel state

/-- Read the eligible direct inputs of a target selection and their rule context. -/
def targetSourceFacts (engine : Engine I L K) (inputs : InferenceInputs I L R) (fuel : ℕ)
    (assertionIds : List K) (maxContextAssertions : ℕ) :
    Except TargetFailure (List (Triple I L)) := do
  let state ← engine.pollTarget ⟨[], [], [], [], 0, 0⟩
  if assertionIds.length = 0 ∨ 1000 < assertionIds.length then throw .queryLimit
  else
    let selected := (inputs.rows.filter fun row =>
      engine.setting.assertionId row.triple ∈ assertionIds).insertionSort
        fun left right => left.revisionId ≤ right.revisionId
    let state ← engine.pollTarget state
    let state ← (selected.take assertionIds.length).foldlM engine.loadInput state
    let state := { state with
      remainingContextReads :=
        min maxContextAssertions (engine.limits.maxSourceAssertions - state.facts.length) }
    let state :=
      if engine.owl then
        schedule state (.byPredicate engine.setting.OWL_PROPERTY_CHAIN_AXIOM)
      else state
    engine.expandTargets inputs fuel state

/-- The closure a targeted unit publishes from, when it is complete. The clock goes on while
the closure runs. -/
def materializeTargets (engine : Engine I L K) (inputs : InferenceInputs I L R) (fuel : ℕ)
    (closing : Clock) (assertionIds : List K) (maxContextAssertions : ℕ) :
    Except TargetFailure (List (Fact I L K)) :=
  let targetIds := (assertionIds.dedup).insertionSort (· ≤ ·)
  if targetIds = [] then .ok []
  else if engine.limits.maxSourceAssertions < targetIds.length then
    .error .exceedsMaxSourceAssertions
  else
    match engine.targetSourceFacts inputs fuel targetIds maxContextAssertions with
    | .error failure => .error failure
    | .ok sources =>
      match ({ engine with clock := closing }).close sources with
      | .error reason => .error (.budget reason)
      | .ok facts => .ok facts

end Engine

end Kestrel.Inference
