import Kestrel.Base.Horn
import Kestrel.Base.Saturation
import Kestrel.Storage.AssertionStore
import Mathlib.Data.Finset.Card
import Mathlib.Data.List.Dedup
import Mathlib.Data.Finset.Dedup

/-!
# The lifecycle planner

The planner grounds the inferred revisions in the surviving direct ones: a least fixed point
over the active ledger proofs, and over the canonical lineage of revisions that never had a
ledger proof. What it does not ground, a withdrawal takes along.
-/

namespace Kestrel.AssertionStore

open List Saturation Nat

variable {D : Domain}

/-- The planner's two growing sets. -/
structure Grounding (D : Domain) where
  grounded : List D.RevisionId
  derivations : List D.DerivationId
  deriving DecidableEq

def addMember {Id : Type} [DecidableEq Id] (members : List Id) (member : Id) : List Id :=
  if member ∈ members then members else members ++ [member]

namespace Store

section Plan

variable (store : Store D) (withdrawn : List D.RevisionId)

/-- The current, active and eligible derived assertions, in revision order. -/
def inferredAssertions : List (Assertion D) :=
  ((store.currentActiveEligibleRows.map (·.assertion)).filter
    fun assertion => !assertion.lineage.isDirect).insertionSort (·.revisionId ≤ ·.revisionId)

def revisionsWithLedgerHistory : List D.RevisionId :=
  store.derivations.rows.map (·.2.derivedRevisionId)

/-- The active ledger proofs, in key order. -/
def activeDerivations : List (D.DerivationId × Derivation D) :=
  (store.derivations.rows.filter (·.2.active)).insertionSort (·.1 ≤ ·.1)

/-- The surviving current, active and eligible direct revisions. -/
def groundingSeed : Grounding D where
  grounded := ((store.currentActiveEligibleRows.map (·.assertion)).filter fun assertion =>
    assertion.revisionId ∉ withdrawn ∧ assertion.lineage.isDirect).map (·.revisionId)
  derivations := []

/-- Admit the conclusion of an active ledger proof whose premises are all grounded. -/
def admitDerivation (grounding : Grounding D) (proof : D.DerivationId × Derivation D) :
    Grounding D :=
  if proof.2.derivedRevisionId ∈ withdrawn ∨
      proof.2.derivedRevisionId ∉ store.inferredAssertions.map (·.revisionId) ∨
      proof.2.inputRevisionIds = [] ∨
      ¬ ∀ premise ∈ proof.2.inputRevisionIds, premise ∈ grounding.grounded then grounding
  else
    { grounded := addMember grounding.grounded proof.2.derivedRevisionId
      derivations := addMember grounding.derivations proof.1 }

/-- Admit a revision without ledger history whose canonical lineage is grounded. -/
def admitLineage (grounding : Grounding D) (assertion : Assertion D) : Grounding D :=
  if assertion.revisionId ∈ withdrawn ∨
      assertion.revisionId ∈ store.revisionsWithLedgerHistory ∨
      assertion.lineage.inputRevisionIds = [] ∨
      ¬ ∀ premise ∈ assertion.lineage.inputRevisionIds, premise ∈ grounding.grounded then
    grounding
  else { grounding with grounded := addMember grounding.grounded assertion.revisionId }

/-- One round of the planner's loop. -/
def groundingPass (grounding : Grounding D) : Grounding D :=
  store.inferredAssertions.foldl (store.admitLineage withdrawn)
    (store.activeDerivations.foldl (store.admitDerivation withdrawn) grounding)

/-- The planner's loop. Every round but the last admits a current revision or a ledger proof,
so the rounds here are enough. -/
def groundingLoop : Grounding D :=
  Saturation.untilStable (store.groundingPass withdrawn)
    (store.currentActiveEligibleRows.length + store.activeDerivations.length + 1)
    (store.groundingSeed withdrawn)

def planDependentCurrentRevisions : List (Assertion D) × List D.DerivationId :=
  let grounding := store.groundingLoop withdrawn
  ((store.inferredAssertions.filter fun assertion =>
      assertion.revisionId ∉ withdrawn ∧ assertion.revisionId ∉ grounding.grounded).insertionSort
        (·.assertionId ≤ ·.assertionId),
    (store.activeDerivations.map Prod.fst).filter (· ∉ grounding.derivations))

def dependentCurrentRevisions : Store D × List (Assertion D) :=
  let plan := store.planDependentCurrentRevisions withdrawn
  (store.deactivateInferenceDerivationIds plan.2, plan.1)

end Plan

/-! ## What the planner computes -/

/-- The assertion is the current, active and eligible revision of its identity. -/
def Live (store : Store D) (assertion : Assertion D) : Prop :=
  assertion ∈ store.currentActiveEligibleRows.map (·.assertion)

instance (store : Store D) (assertion : Assertion D) : Decidable (store.Live assertion) :=
  inferInstanceAs (Decidable (assertion ∈ store.currentActiveEligibleRows.map (·.assertion)))

def DirectSupport (store : Store D) (withdrawn : Set D.RevisionId) : Set D.RevisionId :=
  {revisionId | revisionId ∉ withdrawn ∧ ∃ assertion, store.Live assertion ∧
    assertion.lineage.isDirect = true ∧ assertion.revisionId = revisionId}

def HasLedgerHistory (store : Store D) (revisionId : D.RevisionId) : Prop :=
  ∃ derivationId derivation, store.derivations.row derivationId = some derivation ∧
    derivation.derivedRevisionId = revisionId

/-- The premises are the inputs of an active ledger proof of the revision, or of the canonical
lineage of a revision without ledger history. -/
def ProofOf (store : Store D) (premises : List D.RevisionId) (assertion : Assertion D) : Prop :=
  (∃ derivationId derivation, store.derivations.row derivationId = some derivation ∧
      derivation.active = true ∧ derivation.derivedRevisionId = assertion.revisionId ∧
      derivation.inputRevisionIds = premises) ∨
    (¬ store.HasLedgerHistory assertion.revisionId ∧
      assertion.lineage.inputRevisionIds = premises)

def Supports (store : Store D) (withdrawn : Set D.RevisionId) (premises : List D.RevisionId)
    (revisionId : D.RevisionId) : Prop :=
  revisionId ∉ withdrawn ∧ premises ≠ [] ∧ ∃ assertion, store.Live assertion ∧
    assertion.lineage.isDirect = false ∧ assertion.revisionId = revisionId ∧
    store.ProofOf premises assertion

def Survives (store : Store D) (withdrawn : Set D.RevisionId) (revisionId : D.RevisionId) :
    Prop :=
  Horn.Derives (store.Supports withdrawn) (store.DirectSupport withdrawn) revisionId

def SurvivingProof (store : Store D) (withdrawn : Set D.RevisionId)
    (derivationId : D.DerivationId) : Prop :=
  ∃ derivation, store.derivations.row derivationId = some derivation ∧
    derivation.active = true ∧ derivation.derivedRevisionId ∉ withdrawn ∧
    (∃ assertion, store.Live assertion ∧ assertion.lineage.isDirect = false ∧
      assertion.revisionId = derivation.derivedRevisionId) ∧
    derivation.inputRevisionIds ≠ [] ∧
    ∀ premise ∈ derivation.inputRevisionIds, store.Survives withdrawn premise

variable {store : Store D} {withdrawn : List D.RevisionId}

theorem mem_inferredAssertions {assertion : Assertion D} : assertion ∈ store.inferredAssertions ↔
      store.Live assertion ∧ assertion.lineage.isDirect = false := by
  unfold inferredAssertions Live
  rw [mem_insertionSort, mem_filter, Bool.not_eq_true']

theorem mem_activeDerivations {derivationId : D.DerivationId} {derivation : Derivation D} :
    (derivationId, derivation) ∈ store.activeDerivations ↔
      store.derivations.row derivationId = some derivation ∧ derivation.active = true := by
  unfold activeDerivations
  rw [mem_insertionSort, mem_filter, Table.mem_rows]

theorem mem_revisionsWithLedgerHistory {revisionId : D.RevisionId} :
    revisionId ∈ store.revisionsWithLedgerHistory ↔ store.HasLedgerHistory revisionId := by
  unfold revisionsWithLedgerHistory HasLedgerHistory
  rw [mem_map]
  constructor
  · intro found
    obtain ⟨⟨derivationId, derivation⟩, member, same⟩ := found
    exact ⟨derivationId, derivation, Table.mem_rows.mp member, same⟩
  · intro found
    obtain ⟨derivationId, derivation, stored, same⟩ := found
    exact ⟨(derivationId, derivation), Table.mem_rows.mpr stored, same⟩

theorem mem_groundingSeed {revisionId : D.RevisionId} :
    revisionId ∈ (store.groundingSeed withdrawn).grounded ↔
      revisionId ∈ store.DirectSupport {revision | revision ∈ withdrawn} := by
  unfold groundingSeed DirectSupport Live
  simp only [mem_map, mem_filter, decide_eq_true_eq, Set.mem_ofPred_eq]
  constructor
  · intro found
    obtain ⟨assertion, ⟨live, outside, direct⟩, same⟩ := found
    subst same
    exact ⟨outside, assertion, live, direct, rfl⟩
  · intro found
    obtain ⟨outside, assertion, live, direct, same⟩ := found
    subst same
    exact ⟨assertion, ⟨live, outside, direct⟩, rfl⟩

end Store

theorem mem_addMember {Id : Type} [DecidableEq Id] {members : List Id} {member other : Id} :
    other ∈ addMember members member ↔ other ∈ members ∨ other = member := by
  unfold addMember
  split_ifs with present
  · constructor
    · exact .inl
    · intro found
      rcases found with old | same
      · exact old
      · exact same ▸ present
  · rw [mem_append, mem_singleton]

theorem addMember_eq_or_card_lt {Id : Type} [DecidableEq Id] (members : List Id) (member : Id) :
    addMember members member = members ∨
      members.toFinset.card < (addMember members member).toFinset.card := by
  unfold addMember
  split_ifs with present
  · exact .inl rfl
  · right
    rw [toFinset_append, toFinset_cons, toFinset_nil, insert_empty_eq,
      Finset.union_comm, ← Finset.insert_eq,
      Finset.card_insert_of_notMem (mem_toFinset.not.mpr present)]
    exact lt_succ_self _

namespace Grounding

/-- The number of admitted revisions and proofs. -/
def size (grounding : Grounding D) : ℕ :=
  grounding.grounded.toFinset.card + grounding.derivations.toFinset.card

/-- Every admitted revision and proof survives, and the seed is admitted. -/
structure Sound (store : Store D) (withdrawn : List D.RevisionId) (grounding : Grounding D) :
    Prop where
  seed : ∀ revisionId ∈ (store.groundingSeed withdrawn).grounded,
    revisionId ∈ grounding.grounded
  grounded : ∀ revisionId ∈ grounding.grounded,
    store.Survives {revision | revision ∈ withdrawn} revisionId
  derivations : ∀ derivationId ∈ grounding.derivations,
    store.SurvivingProof {revision | revision ∈ withdrawn} derivationId

end Grounding

namespace Store

section Correctness

variable {store : Store D} {withdrawn : List D.RevisionId}

theorem groundingSeed_sound : (store.groundingSeed withdrawn).Sound store withdrawn where
  seed := fun _ member => member
  grounded := fun _ member => .base (mem_groundingSeed.mp member)
  derivations := fun _ member => by cases member

variable {grounding : Grounding D}

theorem admitDerivation_sound {proof : D.DerivationId × Derivation D}
    (member : proof ∈ store.activeDerivations) (sound : grounding.Sound store withdrawn) :
    (store.admitDerivation withdrawn grounding proof).Sound store withdrawn := by
  unfold admitDerivation
  split_ifs with skipped
  · exact sound
  · push Not at skipped
    obtain ⟨outside, inferred, nonempty, premises⟩ := skipped
    obtain ⟨stored, active⟩ := mem_activeDerivations.mp member
    obtain ⟨assertion, known, same⟩ := mem_map.mp inferred
    obtain ⟨live, derived⟩ := mem_inferredAssertions.mp known
    have survive : ∀ premise ∈ proof.2.inputRevisionIds,
        store.Survives {revision | revision ∈ withdrawn} premise :=
      fun premise each => sound.grounded premise (premises premise each)
    refine ⟨?_, ?_, ?_⟩
    · intro revisionId seeded
      exact mem_addMember.mpr (.inl (sound.seed revisionId seeded))
    · intro revisionId admitted
      rcases mem_addMember.mp admitted with old | new
      · exact sound.grounded revisionId old
      · subst new
        have supports : store.Supports {revision | revision ∈ withdrawn}
            proof.2.inputRevisionIds proof.2.derivedRevisionId :=
          ⟨outside, nonempty, assertion, live, derived, same,
            .inl ⟨proof.1, proof.2, stored, active, same.symm, rfl⟩⟩
        exact .rule supports survive
    · intro derivationId admitted
      rcases mem_addMember.mp admitted with old | new
      · exact sound.derivations derivationId old
      · subst new
        exact ⟨proof.2, stored, active, outside, ⟨assertion, live, derived, same⟩, nonempty,
          survive⟩

theorem admitLineage_sound {assertion : Assertion D} (member : assertion ∈ store.inferredAssertions)
    (sound : grounding.Sound store withdrawn) :
    (store.admitLineage withdrawn grounding assertion).Sound store withdrawn := by
  unfold admitLineage
  split_ifs with skipped
  · exact sound
  · push Not at skipped
    obtain ⟨outside, history, nonempty, premises⟩ := skipped
    obtain ⟨live, derived⟩ := mem_inferredAssertions.mp member
    rw [mem_revisionsWithLedgerHistory] at history
    refine ⟨?_, ?_, sound.derivations⟩
    · intro revisionId seeded
      exact mem_addMember.mpr (.inl (sound.seed revisionId seeded))
    · intro revisionId admitted
      rcases mem_addMember.mp admitted with old | new
      · exact sound.grounded revisionId old
      · subst new
        have supports : store.Supports {revision | revision ∈ withdrawn}
            assertion.lineage.inputRevisionIds assertion.revisionId :=
          ⟨outside, nonempty, assertion, live, derived, rfl, .inr ⟨history, rfl⟩⟩
        exact .rule supports fun premise each =>
          sound.grounded premise (premises premise each)

theorem groundingPass_sound (sound : grounding.Sound store withdrawn) :
    (store.groundingPass withdrawn grounding).Sound store withdrawn := by
  unfold groundingPass
  have derivations : (store.activeDerivations.foldl (store.admitDerivation withdrawn)
      grounding).Sound store withdrawn :=
    foldlRecOn _ _ sound fun _ valid _ member => admitDerivation_sound member valid
  exact foldlRecOn _ _ derivations fun _ valid _ member => admitLineage_sound member valid

theorem groundingLoop_sound : (store.groundingLoop withdrawn).Sound store withdrawn :=
  untilStable_invariant (fun _ => groundingPass_sound) _ groundingSeed_sound

theorem admitDerivation_inflationary :
    Inflationary Grounding.size (store.admitDerivation withdrawn) := by
  intro grounding proof
  unfold admitDerivation Grounding.size
  split_ifs
  · exact .inl rfl
  · rcases addMember_eq_or_card_lt grounding.grounded proof.2.derivedRevisionId with
      grounded | grounded <;>
    rcases addMember_eq_or_card_lt grounding.derivations proof.1 with
      derivations | derivations
    · left
      rw [grounded, derivations]
    · right
      rw [grounded]
      exact Nat.add_lt_add_left derivations _
    · right
      rw [derivations]
      exact Nat.add_lt_add_right grounded _
    · right
      exact Nat.add_lt_add grounded derivations

theorem admitLineage_inflationary :
    Inflationary Grounding.size (store.admitLineage withdrawn) := by
  intro grounding assertion
  unfold admitLineage Grounding.size
  split_ifs
  · exact .inl rfl
  · rcases addMember_eq_or_card_lt grounding.grounded assertion.revisionId with
      grounded | grounded
    · left
      rw [grounded]
    · right
      exact Nat.add_lt_add_right grounded _

variable (store withdrawn) in
theorem groundingPass_folds (grounding : Grounding D) :
    (store.activeDerivations.foldl (store.admitDerivation withdrawn) grounding = grounding ∨
      grounding.size <
        (store.activeDerivations.foldl (store.admitDerivation withdrawn) grounding).size) ∧
    ∀ middle : Grounding D,
      store.inferredAssertions.foldl (store.admitLineage withdrawn) middle = middle ∨ middle.size <
          (store.inferredAssertions.foldl (store.admitLineage withdrawn) middle).size :=
  ⟨admitDerivation_inflationary.foldl _ grounding,
    fun middle => admitLineage_inflationary.foldl _ middle⟩

theorem groundingPass_inflationary (grounding : Grounding D) :
    store.groundingPass withdrawn grounding = grounding ∨
      grounding.size < (store.groundingPass withdrawn grounding).size := by
  obtain ⟨derivations, lineages⟩ := groundingPass_folds store withdrawn grounding
  unfold groundingPass
  rcases derivations with unchanged | larger
  · rw [unchanged]
    exact lineages grounding
  · right
    rcases lineages (store.activeDerivations.foldl (store.admitDerivation withdrawn) grounding)
      with unchanged | further
    · rw [unchanged]
      exact larger
    · exact lt_trans larger further

theorem steps_of_groundingPass_eq (stable : store.groundingPass withdrawn grounding = grounding) :
    (∀ proof ∈ store.activeDerivations,
      store.admitDerivation withdrawn grounding proof = grounding) ∧
    ∀ assertion ∈ store.inferredAssertions,
      store.admitLineage withdrawn grounding assertion = grounding := by
  obtain ⟨derivations, lineages⟩ := groundingPass_folds store withdrawn grounding
  unfold groundingPass at stable
  have first : store.activeDerivations.foldl (store.admitDerivation withdrawn) grounding =
      grounding := by
    rcases derivations with unchanged | larger
    · exact unchanged
    · rcases lineages (store.activeDerivations.foldl (store.admitDerivation withdrawn) grounding)
        with unchanged | further
      · rw [unchanged] at stable
        exact stable
      · rw [stable] at further
        exact absurd (lt_trans larger further) (lt_irrefl _)
  rw [first] at stable
  exact ⟨admitDerivation_inflationary.step_eq_of_foldl_eq first,
    admitLineage_inflationary.step_eq_of_foldl_eq stable⟩

variable {revisionId : D.RevisionId} {derivationId : D.DerivationId}

theorem Survives.live {revisions : Set D.RevisionId}
    (survives : store.Survives revisions revisionId) :
    revisionId ∉ revisions ∧ ∃ assertion, store.Live assertion ∧
      assertion.revisionId = revisionId := by
  cases survives with
  | base member =>
    obtain ⟨outside, assertion, live, _, same⟩ := member
    exact ⟨outside, assertion, live, same⟩
  | rule supports _ =>
    obtain ⟨outside, _, assertion, live, _, same, _⟩ := supports
    exact ⟨outside, assertion, live, same⟩

theorem size_le_of_sound (sound : grounding.Sound store withdrawn) :
    grounding.size ≤ store.currentActiveEligibleRows.length + store.activeDerivations.length := by
  unfold Grounding.size
  apply Nat.add_le_add
  · have inside : grounding.grounded.toFinset ⊆
        (store.currentActiveEligibleRows.map (·.assertion.revisionId)).toFinset := by
      intro revisionId member
      obtain ⟨_, assertion, live, same⟩ :=
        (sound.grounded revisionId (mem_toFinset.mp member)).live
      obtain ⟨row, known, rfl⟩ := mem_map.mp live
      exact mem_toFinset.mpr (mem_map.mpr ⟨row, known, same⟩)
    calc grounding.grounded.toFinset.card
        ≤ _ := Finset.card_le_card inside
      _ ≤ _ := toFinset_card_le _
      _ = _ := length_map _
  · have inside : grounding.derivations.toFinset ⊆
        (store.activeDerivations.map Prod.fst).toFinset := by
      intro derivationId member
      obtain ⟨derivation, stored, active, _⟩ :=
        sound.derivations derivationId (mem_toFinset.mp member)
      exact mem_toFinset.mpr (mem_map.mpr
        ⟨(derivationId, derivation), mem_activeDerivations.mpr ⟨stored, active⟩, rfl⟩)
    calc grounding.derivations.toFinset.card
        ≤ _ := Finset.card_le_card inside
      _ ≤ _ := toFinset_card_le _
      _ = _ := length_map _

theorem groundingLoop_stable : store.groundingPass withdrawn (store.groundingLoop withdrawn) =
      store.groundingLoop withdrawn := by
  refine untilStable_stable (fun _ => groundingPass_sound) groundingPass_inflationary
    (fun _ => size_le_of_sound) groundingSeed_sound ?_
  omega

/-- **The planner grounds exactly the surviving revisions.** -/
theorem mem_groundingLoop_grounded :
    revisionId ∈ (store.groundingLoop withdrawn).grounded ↔
      store.Survives {revision | revision ∈ withdrawn} revisionId := by
  constructor
  · exact groundingLoop_sound.grounded revisionId
  · intro survives
    refine survives.mem_of_closed
      (fun _ member => groundingLoop_sound.seed _ (mem_groundingSeed.mpr member)) ?_
    intro premises conclusion supports admitted
    obtain ⟨outside, nonempty, assertion, live, derived, rfl, proof⟩ := supports
    obtain ⟨derivations, lineages⟩ := steps_of_groundingPass_eq groundingLoop_stable
    have known := mem_inferredAssertions.mpr ⟨live, derived⟩
    rcases proof with ⟨derivationId, derivation, stored, active, concludes, rfl⟩ |
      ⟨history, rfl⟩
    · have stable := derivations (derivationId, derivation)
        (mem_activeDerivations.mpr ⟨stored, active⟩)
      unfold admitDerivation at stable
      rw [if_neg (by
        push Not
        refine ⟨concludes ▸ outside, ?_, nonempty, admitted⟩
        exact mem_map.mpr ⟨assertion, known, concludes.symm⟩)] at stable
      rw [← stable, ← concludes]
      exact mem_addMember.mpr (.inr rfl)
    · have stable := lineages assertion known
      unfold admitLineage at stable
      rw [if_neg (by
        push Not
        refine ⟨outside, ?_, nonempty, admitted⟩
        exact fun recorded => history (mem_revisionsWithLedgerHistory.mp recorded))] at stable
      rw [← stable]
      exact mem_addMember.mpr (.inr rfl)

theorem mem_groundingLoop_derivations :
    derivationId ∈ (store.groundingLoop withdrawn).derivations ↔
      store.SurvivingProof {revision | revision ∈ withdrawn} derivationId := by
  constructor
  · exact groundingLoop_sound.derivations derivationId
  · intro proof
    obtain ⟨derivation, stored, active, outside, ⟨assertion, live, derived, same⟩, nonempty,
      premises⟩ := proof
    have fixed : store.groundingPass withdrawn (store.groundingLoop withdrawn) =
        store.groundingLoop withdrawn := groundingLoop_stable
    obtain ⟨derivations, _⟩ := steps_of_groundingPass_eq fixed
    have stable := derivations (derivationId, derivation)
      (mem_activeDerivations.mpr ⟨stored, active⟩)
    unfold admitDerivation at stable
    rw [if_neg (by
      push Not
      refine ⟨outside, ?_, nonempty, ?_⟩
      · exact mem_map.mpr ⟨assertion, mem_inferredAssertions.mpr ⟨live, derived⟩, same⟩
      · exact fun premise each => mem_groundingLoop_grounded.mpr (premises premise each))]
      at stable
    rw [← stable]
    exact mem_addMember.mpr (.inr rfl)

/-- **The planner takes along exactly the live derived assertions that do not survive.** -/
theorem mem_planDependentCurrentRevisions {assertion : Assertion D} :
    assertion ∈ (store.planDependentCurrentRevisions withdrawn).1 ↔
      store.Live assertion ∧ assertion.lineage.isDirect = false ∧ assertion.revisionId ∉ withdrawn ∧
        ¬ store.Survives {revision | revision ∈ withdrawn} assertion.revisionId := by
  unfold planDependentCurrentRevisions
  rw [mem_insertionSort, mem_filter, mem_inferredAssertions, decide_eq_true_eq,
    mem_groundingLoop_grounded, and_assoc]

/-- **The planner deactivates exactly the active proofs that do not survive.** -/
theorem mem_planDependentCurrentRevisions_derivations :
    derivationId ∈ (store.planDependentCurrentRevisions withdrawn).2 ↔
      (∃ derivation, store.derivations.row derivationId = some derivation ∧
        derivation.active = true) ∧
      ¬ store.SurvivingProof {revision | revision ∈ withdrawn} derivationId := by
  unfold planDependentCurrentRevisions
  rw [mem_filter, decide_eq_true_eq, mem_groundingLoop_derivations, mem_map]
  apply and_congr_left
  intro _
  constructor
  · intro found
    obtain ⟨⟨_, derivation⟩, member, rfl⟩ := found
    exact ⟨derivation, mem_activeDerivations.mp member⟩
  · intro found
    obtain ⟨derivation, member⟩ := found
    exact ⟨(derivationId, derivation), mem_activeDerivations.mpr member, rfl⟩

end Correctness

end Store

end Kestrel.AssertionStore
