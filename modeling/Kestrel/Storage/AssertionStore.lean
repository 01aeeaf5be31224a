import Kestrel.Base.Table
import Mathlib.Order.Defs.LinearOrder
import Mathlib.Data.List.Lex
import Mathlib.Data.List.Sort

/-!
# The tables of one tenant's assertion store

Revisions are immutable apart from their eligibility, an assertion's current pointer names one
of its revisions, and the inference ledger keeps every recorded proof with its active flag.
The rows of `semantic_derivation_inputs` are the inputs of the stored lineages.
-/

namespace Kestrel.AssertionStore

/-- The identifiers and payloads that the store compares and never inspects. -/
structure Domain where
  AssertionId : Type
  RevisionId : Type
  DerivationId : Type
  SourceId : Type
  EventId : Type
  Name : Type
  Content : Type
  Evidence : Type
  SourceBody : Type
  Instant : Type
  [assertionOrder : LinearOrder AssertionId]
  [revisionOrder : LinearOrder RevisionId]
  [derivationOrder : LinearOrder DerivationId]
  [sourceDecidable : DecidableEq SourceId]
  [eventDecidable : DecidableEq EventId]
  [nameDecidable : DecidableEq Name]
  [contentDecidable : DecidableEq Content]
  [evidenceDecidable : DecidableEq Evidence]
  [bodyDecidable : DecidableEq SourceBody]
  [instantDecidable : DecidableEq Instant]
  /-- The deterministic identity of the claim in the content. -/
  deriveAssertionId : Content → AssertionId
  /-- A source occurrence id read as a revision id. -/
  sourceRevisionId : SourceId → RevisionId
  /-- The ledger key of a profile's proof of an assertion by a rule from premises. -/
  derivationId : Name → AssertionId → Name → List AssertionId → DerivationId
  derivationId_injective : ∀ profile assertion rule premises profile' assertion' rule' premises',
    derivationId profile assertion rule premises =
      derivationId profile' assertion' rule' premises' →
    profile = profile' ∧ assertion = assertion' ∧ rule = rule' ∧ premises = premises'
  /-- Whether a replacement and its source are an exact explicit-fact proposal. -/
  exactSaveFactProposal : Content → SourceId → SourceBody → Bool
  /-- The evidence of a re-lined lineage: the digest of its inputs, the run and the instant that
  re-lined it, and a reference to the ledger proof it repeats or to its own. -/
  relinedEvidence : Evidence → List RevisionId → RevisionId → Instant → Option DerivationId →
    Evidence

attribute [instance] Domain.assertionOrder Domain.revisionOrder Domain.derivationOrder
  Domain.sourceDecidable Domain.eventDecidable Domain.nameDecidable Domain.contentDecidable
  Domain.evidenceDecidable Domain.bodyDecidable Domain.instantDecidable

instance {D : Domain} : LawfulBEq D.AssertionId := inferInstance
instance {D : Domain} : LawfulBEq D.RevisionId := inferInstance
instance {D : Domain} : LawfulBEq D.DerivationId := inferInstance
instance {D : Domain} : LawfulBEq D.SourceId := inferInstance

/-- The rejections of a mutation, by exception class. -/
inductive StoreError where
  | store (message : String)
  | conflict (message : String)
  | tenantIsolation (message : String)
  | validation (message : String)
  | inference (message : String)
  deriving DecidableEq, Repr

inductive AssertionStatus where
  | active
  | superseded
  | retracted
  | quarantined
  | deleted
  deriving DecidableEq, Repr

inductive EpistemicState where
  | asserted
  | observed
  | reported
  | inferred
  | hypothesis
  | disputed
  | retracted
  deriving DecidableEq, Repr

/-- A non-empty ordered set of identifiers. -/
structure UniqueIdentifiers (Id : Type) where
  ids : List Id
  ne_nil : ids ≠ []
  nodup : ids.Nodup
  deriving DecidableEq

def uniqueIdentifiers {Id : Type} [DecidableEq Id] (values : List Id) (fieldName : String) :
    Except StoreError (UniqueIdentifiers Id) :=
  if empty : values = [] then .error (.validation (fieldName ++ " must not be empty"))
  else if distinct : values.Nodup then .ok ⟨values, empty, distinct⟩
  else .error (.validation (fieldName ++ " must be an ordered set without duplicates"))

variable {D : Domain}

structure DerivedLineage (D : Domain) where
  ruleId : D.Name
  engineVersion : D.Name
  profileVersion : D.Name
  inputRevisionIds : UniqueIdentifiers D.RevisionId
  evidence : D.Evidence
  deriving DecidableEq

inductive Lineage (D : Domain) where
  | direct (sourceOccurrenceIds : UniqueIdentifiers D.SourceId)
  | derived (lineage : DerivedLineage D)
  deriving DecidableEq

/-- The fields of an assertion revision before they are checked together. -/
structure AssertionMapping (D : Domain) where
  content : D.Content
  revisionId : D.RevisionId
  epistemicState : EpistemicState
  assertedAt : D.Instant
  lineage : Lineage D
  status : AssertionStatus
  supersedesRevisionId : Option D.RevisionId
  deriving DecidableEq

/-- The first check of `Assertion.__post_init__` that fails. -/
def AssertionMapping.failure (mapping : AssertionMapping D) : Option String :=
  if mapping.supersedesRevisionId = some mapping.revisionId then
    some "an assertion revision cannot supersede itself"
  else if mapping.status ∈ [.retracted, .quarantined, .deleted] ∧
      mapping.supersedesRevisionId ≠ none then
    some "retracted, quarantined, or deleted revisions cannot supersede another revision"
  else if mapping.epistemicState = .retracted ∧ mapping.status ≠ .retracted then
    some "epistemic_state retracted requires lifecycle status retracted"
  else if mapping.status = .retracted ∧ mapping.epistemicState ≠ .retracted then
    some "lifecycle status retracted requires epistemic_state retracted"
  else
    match mapping.lineage with
    | .direct _ =>
      if mapping.epistemicState = .inferred then
        some "an inferred assertion requires DerivedLineage"
      else none
    | .derived lineage =>
      if mapping.epistemicState ≠ .inferred ∧
          ¬ (mapping.status = .retracted ∧ mapping.epistemicState = .retracted) then
        some ("DerivedLineage requires epistemic_state inferred unless it is a retracted " ++
          "historical revision")
      else if mapping.revisionId ∈ lineage.inputRevisionIds.ids then
        some "derived lineage cannot name its own revision as input"
      else none

/-- An immutable canonical assertion revision. -/
structure Assertion (D : Domain) extends AssertionMapping D where
  valid : toAssertionMapping.failure = none
  deriving DecidableEq

def Assertion.fromMapping (mapping : AssertionMapping D) : Except StoreError (Assertion D) :=
  match checked : mapping.failure with
  | none => .ok ⟨mapping, checked⟩
  | some message => .error (.validation message)

/-- The deterministic identity of the asserted claim. -/
def Assertion.assertionId (assertion : Assertion D) : D.AssertionId :=
  D.deriveAssertionId assertion.content

def Lineage.inputRevisionIds : Lineage D → List D.RevisionId
  | .direct _ => []
  | .derived lineage => lineage.inputRevisionIds.ids

def Lineage.isDirect : Lineage D → Bool
  | .direct _ => true
  | .derived _ => false

def Lineage.engineVersion : Lineage D → Option D.Name
  | .direct _ => none
  | .derived lineage => some lineage.engineVersion

def assertionWith (assertion : Assertion D) (revisionId : D.RevisionId) (assertedAt : D.Instant)
    (status : AssertionStatus) (supersedesRevisionId : Option D.RevisionId)
    (epistemicState : Option EpistemicState) : Except StoreError (Assertion D) :=
  Assertion.fromMapping
    { assertion.toAssertionMapping with
      revisionId := revisionId
      status := status
      supersedesRevisionId := supersedesRevisionId
      assertedAt := assertedAt
      epistemicState := epistemicState.getD assertion.epistemicState }

/-- An attached piece of direct evidence. -/
structure SourceOccurrence (D : Domain) where
  sourceOccurrenceId : D.SourceId
  body : D.SourceBody
  deriving DecidableEq

/-- A stored revision with its projection eligibility. -/
structure RevisionRow (D : Domain) where
  assertion : Assertion D
  eligible : Bool
  deriving DecidableEq

/-- A proof in the inference ledger. -/
structure Derivation (D : Domain) where
  derivedAssertionId : D.AssertionId
  derivedRevisionId : D.RevisionId
  ruleId : D.Name
  profileKey : D.Name
  ruleProfileVersion : D.Name
  inputRevisionIds : List D.RevisionId
  active : Bool
  deriving DecidableEq

/-- A row of the projection outbox. -/
structure Event (D : Domain) where
  eventId : D.EventId
  assertionId : D.AssertionId
  revisionId : D.RevisionId
  operation : String
  generation : ℕ
  eligible : Bool
  deriving DecidableEq

/-- The canonical tables of one tenant. The acceptance order of the revisions is their
insertion order. -/
structure Store (D : Domain) where
  revisions : Table D.RevisionId (RevisionRow D)
  currents : Table D.AssertionId D.RevisionId
  derivations : Table D.DerivationId (Derivation D)
  sources : Table D.SourceId D.SourceBody
  outbox : List (Event D)
  generation : ℕ

/-- The fresh identifiers and instants one mutation draws. -/
structure Supply (D : Domain) where
  uuid4 : ℕ → D.RevisionId
  eventUuid4 : ℕ → D.EventId
  now : ℕ → D.Instant
  uuid4_injective : Function.Injective uuid4

namespace Store

def empty : Store D where
  revisions := .empty
  currents := .empty
  derivations := .empty
  sources := .empty
  outbox := []
  generation := 0

section Reads

variable (store : Store D)

def revision (revisionId : D.RevisionId) : Option (Assertion D) :=
  (store.revisions.row revisionId).map (·.assertion)

def currentRow (assertionId : D.AssertionId) : Option (RevisionRow D) :=
  (store.currents.row assertionId).bind store.revisions.row

def current (assertionId : D.AssertionId) : Option (Assertion D) :=
  (store.currentRow assertionId).map (·.assertion)

/-- `get_assertion` without inactive assertions. -/
def getAssertion (assertionId : D.AssertionId) : Option (Assertion D) :=
  (store.current assertionId).filter fun assertion => assertion.status = .active

def currentRows : List (RevisionRow D) :=
  store.currents.rows.filterMap fun current => store.revisions.row current.2

def currentActiveEligibleRows : List (RevisionRow D) :=
  store.currentRows.filter fun row => row.assertion.status = .active && row.eligible

def isCurrentActiveEligibleRevision (revisionId : D.RevisionId) : Bool :=
  match store.revisions.row revisionId with
  | none => false
  | some row =>
    store.currents.rows.any (fun current => current.2 = revisionId) &&
      row.assertion.status = .active && row.eligible

def validateLineage (assertion : Assertion D) (sources : List (SourceOccurrence D)) :
    Except StoreError Unit :=
  match assertion.lineage with
  | .derived lineage =>
    if sources ≠ [] then
      .error (.store "derived assertions must not attach direct source occurrences")
    else lineage.inputRevisionIds.ids.forM fun revisionId =>
      match store.revision revisionId with
      | none => .error
          (.tenantIsolation "derived assertion input revision is absent from the bound tenant")
      | some _ =>
        if store.isCurrentActiveEligibleRevision revisionId then .ok ()
        else .error (.store "derived assertion inputs must be current, active, and eligible")
  | .direct expected =>
    if sources.any fun source => source.sourceOccurrenceId ∉ expected.ids then
      .error (.store "a supplied source occurrence is absent from direct lineage")
    else if expected.ids.any fun sourceId =>
        sourceId ∉ sources.map (·.sourceOccurrenceId) ∧
          (store.sources.row sourceId).isNone then
      .error (.store
        "direct lineage references an unknown tenant-local source occurrence")
    else .ok ()

end Reads

section Writes

def storeSources (store : Store D) (sources : List (SourceOccurrence D)) :
    Except StoreError (Store D) :=
  sources.foldlM
    (fun store source =>
      match store.sources.row source.sourceOccurrenceId with
      | some existing =>
        if existing = source.body then .ok store
        else .error (.conflict "source occurrence id is already bound to different provenance")
      | none =>
        .ok { store with
          sources := store.sources.insert source.sourceOccurrenceId source.body })
    store

def writeRevision (store : Store D) (assertion : Assertion D) : Except StoreError (Store D) :=
  match store.revisions.row assertion.revisionId with
  | some prior =>
    if prior.assertion = assertion then .ok store
    else .error
      (.conflict "revision_id is immutable and already stores a different assertion")
  | none =>
    .ok { store with
      revisions := store.revisions.insert assertion.revisionId
        ⟨assertion, assertion.status = .active⟩ }

def setCurrent (store : Store D) (assertion : Assertion D) : Store D :=
  { store with currents := store.currents.insert assertion.assertionId assertion.revisionId }

def deactivateInferenceDerivationIds (store : Store D) (derivationIds : List D.DerivationId) :
    Store D :=
  { store with
    derivations := store.derivations.adjust fun derivationId derivation =>
      if derivationId ∈ derivationIds then { derivation with active := false } else derivation }

def deactivateInferenceDerivationsForInputs (store : Store D) (revisionIds : List D.RevisionId) :
    Store D :=
  store.deactivateInferenceDerivationIds
    ((store.derivations.rows.filter fun derivation =>
      derivation.2.active && derivation.2.inputRevisionIds.any (· ∈ revisionIds)).map Prod.fst)

def invalidateEligibility (store : Store D) (revisionId : D.RevisionId)
    (deactivateInferenceDerivations : Bool) : Store D :=
  let store := { store with
    revisions := store.revisions.adjust fun storedId row =>
      if storedId = revisionId then { row with eligible := false } else row }
  if deactivateInferenceDerivations then store.deactivateInferenceDerivationsForInputs [revisionId]
  else store

def advanceGeneration (store : Store D) : Store D :=
  { store with generation := store.generation + 1 }

/-- `_event`, at the store's generation. -/
def event (store : Store D) (eventId : D.EventId) (assertion : Assertion D) (operation : String)
    (eligible : Bool) : Store D :=
  { store with
    outbox := store.outbox ++ [⟨eventId, assertion.assertionId, assertion.revisionId, operation,
      store.generation, eligible⟩] }

/-- `_event` for several assertions, drawing consecutive identifiers. -/
def events (supply : Supply D) (operation : String) :
    List (Assertion D) → ℕ → Store D → Store D
  | [], _, store => store
  | assertion :: assertions, draw, store =>
    events supply operation assertions (draw + 1)
      (store.event (supply.eventUuid4 draw) assertion operation (assertion.status = .active))

def writeState (supply : Supply D) (draw : ℕ) (assertion : Assertion D)
    (status : AssertionStatus) (supersedesRevisionId : Option D.RevisionId)
    (epistemicState : Option EpistemicState) (store : Store D) :
    Except StoreError (Store D × Assertion D) := do
  let state ← assertionWith assertion (supply.uuid4 draw) (supply.now draw) status
    supersedesRevisionId epistemicState
  let store ← store.writeRevision state
  pure (store.setCurrent state, state)

end Writes

end Store

/-! ## Identifiers that are natural numbers -/

/-- A domain whose identifiers are natural numbers and whose contents are the identities of
their claims. -/
@[reducible] def Domain.natural : Domain where
  AssertionId := ℕ
  RevisionId := ℕ
  DerivationId := List ℕ
  SourceId := ℕ
  EventId := ℕ
  Name := ℕ
  Content := ℕ
  Evidence := Unit
  SourceBody := Unit
  Instant := Unit
  deriveAssertionId := id
  sourceRevisionId := id
  derivationId := fun profile assertion rule premises => profile :: assertion :: rule :: premises
  derivationId_injective := fun _ _ _ _ _ _ _ _ same => by
    simp only [List.cons.injEq] at same
    exact same
  exactSaveFactProposal := fun _ _ _ => true
  relinedEvidence := fun _ _ _ _ _ => ()

namespace Domain.natural

/-- The supply that draws consecutive identifiers. -/
def supply (first : ℕ) : Supply natural where
  uuid4 := fun draw => first + draw
  eventUuid4 := id
  now := fun _ => ()
  uuid4_injective := fun _ _ same => Nat.add_left_cancel same

def direct (content revisionId sourceId : ℕ) : Assertion natural where
  content := content
  revisionId := revisionId
  epistemicState := .asserted
  assertedAt := ()
  lineage := .direct ⟨[sourceId], by simp, by simp⟩
  status := .active
  supersedesRevisionId := none
  valid := by simp [AssertionMapping.failure]

def inferred (content revisionId input : ℕ) (distinct : revisionId ≠ input) :
    Assertion natural where
  content := content
  revisionId := revisionId
  epistemicState := .inferred
  assertedAt := ()
  lineage := .derived ⟨0, 0, 0, ⟨[input], by simp, by simp⟩, ()⟩
  status := .active
  supersedesRevisionId := none
  valid := by simp [AssertionMapping.failure, distinct]

theorem three_ne_one : 3 ≠ 1 := by decide

end Domain.natural

end Kestrel.AssertionStore
