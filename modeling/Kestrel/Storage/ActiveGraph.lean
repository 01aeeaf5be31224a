import Kestrel.Storage.GenerationFence

/-!
# The active graph and its prospective states

A governed write validates the complete active graph as its lifecycle plan leaves it. The store
commits exactly that graph, unless a supersession takes over the identity of an active assertion
that it does not withdraw.
-/

namespace Kestrel.AssertionStore

open List Except Option Set Store

variable {D : Domain}

namespace Store

variable {store before middle after : Store D} {supply : Supply D}

/-- `_complete_active_assertions`. Withdrawn eligibility does not matter to it. -/
def completeActiveAssertions (store : Store D) : List (Assertion D) :=
  ((store.currentRows.map (·.assertion)).filter fun assertion =>
    assertion.status = .active).insertionSort (·.revisionId ≤ ·.revisionId)

def ActiveCurrent (store : Store D) (assertion : Assertion D) : Prop :=
  store.current assertion.assertionId = some assertion ∧ assertion.status = .active

theorem Linked.mem_completeActiveAssertions (linked : store.Linked) {assertion : Assertion D} :
    assertion ∈ store.completeActiveAssertions ↔ store.ActiveCurrent assertion := by
  unfold completeActiveAssertions ActiveCurrent
  rw [mem_insertionSort, mem_filter, decide_eq_true_eq]
  apply and_congr_left
  intro _
  constructor
  · intro found
    obtain ⟨row, member, rfl⟩ := mem_map.mp found
    obtain ⟨pointer, listed, stored⟩ := mem_filterMap.mp member
    have pointed := Table.mem_rows.mp listed
    obtain ⟨other, stored', owner⟩ := linked.pointed _ _ pointed
    rw [stored] at stored'
    cases stored'
    simp only [current, currentRow, owner, pointed, bind_some, stored, map_some]
  · intro found
    obtain ⟨_, pointed, eligible, stored⟩ := linked.of_current found
    exact mem_map.mpr ⟨⟨assertion, eligible⟩, mem_filterMap.mpr
      ⟨_, Table.mem_rows.mpr pointed, stored⟩, rfl⟩

section Retirement

def Pointed (store : Store D) : Prop :=
  ∀ assertionId revisionId, store.currents.row assertionId = some revisionId →
    store.revision revisionId ≠ none

theorem Linked.isPointed (linked : store.Linked) : store.Pointed := by
  intro assertionId revisionId pointed absent
  obtain ⟨row, stored, _⟩ := linked.pointed _ _ pointed
  unfold revision at absent
  rw [stored] at absent
  cases absent

/-- The step leaves the pointers whole, and what it leaves active are the active assertions
outside a set of identities. -/
structure Retires (retired : Set D.AssertionId) (before after : Store D) : Prop where
  pointed : before.Pointed → after.Pointed
  active : before.Pointed → ∀ assertion, after.ActiveCurrent assertion ↔
    before.ActiveCurrent assertion ∧ assertion.assertionId ∉ retired

variable {retired further : Set D.AssertionId}

theorem Retires.trans (first : Retires retired before middle)
    (second : Retires further middle after) : Retires (retired ∪ further) before after where
  pointed := fun pointed => second.pointed (first.pointed pointed)
  active := fun pointed assertion => by
    rw [second.active (first.pointed pointed), first.active pointed, mem_union, not_or, and_assoc]

theorem retires_of_same (currents : after.currents = before.currents)
    (revision : ∀ revisionId, after.revision revisionId = before.revision revisionId) :
    Retires ∅ before after := by
  have current : ∀ assertionId, after.current assertionId = before.current assertionId := by
    intro assertionId
    unfold current currentRow
    rw [currents]
    cases pointed : before.currents.row assertionId with
    | none => rfl
    | some revisionId => exact revision revisionId
  constructor
  · intro pointed assertionId revisionId pointer
    rw [currents] at pointer
    rw [revision]
    exact pointed assertionId revisionId pointer
  · intro _ assertion
    unfold ActiveCurrent
    rw [current]
    simp only [mem_empty_iff_false, not_false_eq_true, and_true]

theorem Retires.refl (store : Store D) : Retires ∅ store store :=
  retires_of_same rfl fun _ => rfl

theorem SameTables.retires (same : SameTables before after) : Retires ∅ before after := by
  apply retires_of_same same.currents
  intro revisionId
  unfold revision
  rw [same.revisions]

theorem retires_deactivate (store : Store D) (derivationIds : List D.DerivationId) :
    Retires ∅ store (store.deactivateInferenceDerivationIds derivationIds) :=
  retires_of_same rfl fun _ => rfl

theorem retires_invalidateEligibility (store : Store D) (revisionId : D.RevisionId) :
    Retires ∅ store (store.invalidateEligibility revisionId false) := by
  refine retires_of_same rfl ?_
  intro storedId
  change ((store.revisions.row storedId).map _).map _ = (store.revisions.row storedId).map _
  rw [Option.map_map]
  congr 1
  funext row
  dsimp only [Function.comp_apply]
  split_ifs <;> rfl

variable {assertion item state : Assertion D} {items states : List (Assertion D)} {draw : ℕ}
  {status : AssertionStatus} {epistemicState : Option EpistemicState}

theorem current_setCurrent (pointed : before.Pointed)
    (written : before.writeRevision assertion = .ok middle) (assertionId : D.AssertionId) :
    (middle.setCurrent assertion).current assertionId =
      if assertionId = assertion.assertionId then some assertion
      else before.current assertionId := by
  have stored : middle.revision assertion.revisionId = some assertion := by
    unfold writeRevision at written
    split at written
    · rename_i prior present
      split_ifs at written with same
      cases written
      unfold revision
      rw [present, map_some, same]
    · cases written
      unfold revision
      rw [Table.row_insert_self]
      rfl
  have kept := (progresses_writeRevision written).revision
  unfold current currentRow setCurrent
  rw [Table.row_insert]
  split_ifs with same
  · exact stored
  · have currents : middle.currents = before.currents := by
      unfold writeRevision at written
      split at written
      · split_ifs at written
        cases written
        rfl
      · cases written
        rfl
    rw [currents]
    cases pointer : before.currents.row assertionId with
    | none => rfl
    | some revisionId =>
      obtain ⟨other, found⟩ := ne_none_iff_exists'.mp (pointed _ _ pointer)
      exact (kept revisionId other found).trans found.symm

theorem pointed_setCurrent (pointed : before.Pointed)
    (written : before.writeRevision assertion = .ok middle) :
    (middle.setCurrent assertion).Pointed := by
  intro assertionId revisionId pointer absent
  have current := current_setCurrent pointed written assertionId
  have unfolded : (middle.setCurrent assertion).current assertionId = none := by
    unfold Store.current currentRow
    rw [pointer]
    exact absent
  rw [unfolded] at current
  split_ifs at current with same
  change (middle.currents.insert _ _).row assertionId = some revisionId at pointer
  rw [Table.row_insert_of_ne _ _ same] at pointer
  have kept := (progresses_writeRevision written).revision
  have currents : middle.currents = before.currents := by
    unfold writeRevision at written
    split at written
    · split_ifs at written
      cases written
      rfl
    · cases written
      rfl
  rw [currents] at pointer
  obtain ⟨other, found⟩ := ne_none_iff_exists'.mp (pointed _ _ pointer)
  rw [show (middle.setCurrent assertion).revision revisionId = some other from
    kept revisionId other found] at absent
  cases absent

theorem retires_setCurrent (written : before.writeRevision assertion = .ok middle)
    (inactive : assertion.status ≠ .active) :
    Retires {assertion.assertionId} before (middle.setCurrent assertion) := by
  refine ⟨fun pointed => pointed_setCurrent pointed written, ?_⟩
  intro pointed other
  unfold ActiveCurrent
  rw [current_setCurrent pointed written, mem_singleton_iff]
  split_ifs with same
  · refine iff_of_false ?_ (fun found => found.2 same)
    intro found
    exact inactive (Option.some.inj found.1 ▸ found.2)
  · simp only [same, not_false_eq_true, and_true]

theorem retires_retireAll (inactive : status ≠ .active)
    (retired : before.retireAll supply false status epistemicState items draw =
      .ok (after, states)) :
    Retires {assertionId | ∃ item ∈ items, item.assertionId = assertionId} before after := by
  induction items generalizing before draw states with
  | nil =>
    cases retired
    have nothing : {assertionId : D.AssertionId |
        ∃ item ∈ ([] : List (Assertion D)), item.assertionId = assertionId} = ∅ := by
      ext assertionId
      simp [not_mem_nil, false_and, exists_false, mem_empty_iff_false]
    rw [nothing]
    exact .refl _
  | cons item items ih =>
    simp only [retireAll, writeState, bind_eq_ok] at retired
    obtain ⟨⟨middle, state⟩, ⟨made, stated, written, revised, same⟩, ⟨last, states⟩, rest,
      retired⟩ := retired
    cases same
    cases retired
    have described := stateOf_assertionWith stated
    have first := (retires_invalidateEligibility before item.revisionId).trans
      (retires_setCurrent revised (by rw [described.status]; exact inactive))
    have whole := first.trans (ih rest)
    have union : ∅ ∪ {state.assertionId} ∪
        {assertionId | ∃ item ∈ items, item.assertionId = assertionId} =
        {assertionId | ∃ each ∈ item :: items, each.assertionId = assertionId} := by
      ext assertionId
      simp only [empty_union, mem_union, mem_singleton_iff, mem_ofPred_eq,
        mem_cons, exists_eq_or_imp, described.assertionId]
      exact or_congr_left eq_comm
    rw [union] at whole
    exact whole

theorem active_setCurrent (pointed : before.Pointed)
    (written : before.writeRevision assertion = .ok middle) (active : assertion.status = .active)
    (other : Assertion D) : (middle.setCurrent assertion).ActiveCurrent other ↔
      before.ActiveCurrent other ∧ other.assertionId ≠ assertion.assertionId ∨
        other = assertion := by
  unfold ActiveCurrent
  rw [current_setCurrent pointed written]
  split_ifs with same
  · constructor
    · intro found
      exact .inr (Option.some.inj found.1).symm
    · intro found
      rcases found with ⟨_, distinct⟩ | rfl
      · exact absurd same distinct
      · exact ⟨rfl, active⟩
  · constructor
    · intro found
      exact .inl ⟨found, same⟩
    · intro found
      rcases found with found | rfl
      · exact found.1
      · exact absurd rfl same

end Retirement

end Store

inductive GovernedWrite (D : Domain) where
  | put (assertion : Assertion D) (sources : List (SourceOccurrence D))
  | supersede (expectedPredecessorRevisionId : D.RevisionId) (replacement : Assertion D)
      (sources : List (SourceOccurrence D))
  | restore (expectedTerminalRevisionId : D.RevisionId) (replacement : Assertion D)
      (sources : List (SourceOccurrence D))
  deriving DecidableEq

/-- The receipt of a governed write. -/
inductive Written (D : Domain) where
  | put (result : AssertionWriteResult D)
  | replaced (result : SupersessionResult D)
  deriving DecidableEq

/-- The revision that the receipt names. -/
def Written.assertion : Written D → Assertion D
  | .put result => result.assertion
  | .replaced result => result.replacement

def Written.idempotent : Written D → Bool
  | .put result => result.idempotent
  | .replaced result => result.idempotent

namespace GovernedWrite

def proposal : GovernedWrite D → Assertion D
  | .put assertion _ => assertion
  | .supersede _ replacement _ => replacement
  | .restore _ replacement _ => replacement

/-- The checks of the request before its transaction. -/
def validate : GovernedWrite D → Except StoreError Unit
  | .put assertion _ => Store.validateInitialAssertionWrite assertion
  | .supersede _ replacement _ =>
    if replacement.status ≠ .active then
      .error (.store "a supersession replacement must be active")
    else .ok ()
  | .restore _ replacement sources => do
    let _ ← Store.validateRestoration replacement sources
    pure ()

/-- The prospective active graph of the write: the snapshot with the proposal, or the
`post_state` of `plan_supersession_lifecycle` or `plan_restoration_lifecycle`. -/
def postState (write : GovernedWrite D) (store : Store D) :
    Except StoreError (List (Assertion D)) :=
  match write with
  | .put assertion _ => .ok (store.completeActiveAssertions ++ [assertion])
  | .supersede expected replacement _ => do
    let plan ← store.planSupersessionLifecycle expected replacement
    if expected ∉ store.completeActiveAssertions.map (·.revisionId) then
      .error (.conflict "expected predecessor is no longer the current revision")
    else .ok ((store.completeActiveAssertions.filter fun assertion =>
      assertion.revisionId ∉ plan.withdrawnRevisionIds) ++ [replacement])
  | .restore expected replacement _ => do
    let _ ← store.planRestorationLifecycle expected replacement
    .ok (store.completeActiveAssertions ++ [replacement])

def apply (supply : Supply D) (generation : ℕ) (write : GovernedWrite D) (store : Store D) :
    Except StoreError (Store D × Written D) :=
  match write with
  | .put assertion sources => do
    let (store, result) ← store.putInitialAssertion supply assertion sources (some generation)
    pure (store, .put result)
  | .supersede expected replacement sources => do
    let (store, result) ←
      store.supersede supply expected replacement sources (some generation)
    pure (store, .replaced result)
  | .restore expected replacement sources => do
    let (store, result) ← store.restore supply expected replacement sources (some generation)
    pure (store, .replaced result)

inductive Applied (supply : Supply D) (generation : ℕ) (before after : Store D) :
    GovernedWrite D → Written D → Prop
  | put (assertion : Assertion D) (sources : List (SourceOccurrence D))
      (result : AssertionWriteResult D)
      (put : before.putInitialAssertion supply assertion sources (some generation) =
        .ok (after, result)) :
      Applied supply generation before after (.put assertion sources) (.put result)
  | supersede (expected : D.RevisionId) (replacement : Assertion D)
      (sources : List (SourceOccurrence D)) (result : SupersessionResult D)
      (superseded : before.supersede supply expected replacement sources (some generation) =
        .ok (after, result)) :
      Applied supply generation before after (.supersede expected replacement sources)
        (.replaced result)
  | restore (expected : D.RevisionId) (replacement : Assertion D)
      (sources : List (SourceOccurrence D)) (result : SupersessionResult D)
      (restored : before.restore supply expected replacement sources (some generation) =
        .ok (after, result)) :
      Applied supply generation before after (.restore expected replacement sources)
        (.replaced result)

theorem Applied.of_apply {supply : Supply D} {generation : ℕ} {before after : Store D}
    {write : GovernedWrite D} {written : Written D}
    (applied : write.apply supply generation before = .ok (after, written)) :
    Applied supply generation before after write written := by
  cases write with
  | put assertion sources =>
    simp only [apply, bind_eq_ok] at applied
    obtain ⟨⟨last, result⟩, put, applied⟩ := applied
    cases applied
    exact .put _ _ _ put
  | supersede expected replacement sources =>
    simp only [apply, bind_eq_ok] at applied
    obtain ⟨⟨last, result⟩, superseded, applied⟩ := applied
    cases applied
    exact .supersede _ _ _ _ superseded
  | restore expected replacement sources =>
    simp only [apply, bind_eq_ok] at applied
    obtain ⟨⟨last, result⟩, restored, applied⟩ := applied
    cases applied
    exact .restore _ _ _ _ restored

/-- A supersession withdraws whatever active assertion has the identity of its replacement. -/
def Untaken (write : GovernedWrite D) (store : Store D) : Prop :=
  match write with
  | .supersede expected replacement _ =>
    ∀ plan, store.planSupersessionLifecycle expected replacement = .ok plan →
      ∀ assertion ∈ store.completeActiveAssertions,
        assertion.assertionId = replacement.assertionId →
        assertion.revisionId ∈ plan.withdrawnRevisionIds
  | _ => True

end GovernedWrite

/-- A prospective graph with the committed revision in the place of its proposal. -/
def stamped (committed : Assertion D) (graph : List (Assertion D)) : List (Assertion D) :=
  graph.map fun assertion =>
    if assertion.revisionId = committed.revisionId then committed else assertion

/-- Two revisions that differ at most in the revision they supersede. -/
def SameUpToLink (first second : Assertion D) : Prop :=
  { first.toAssertionMapping with supersedesRevisionId := none } =
    { second.toAssertionMapping with supersedesRevisionId := none }

namespace Store

variable {store before middle after : Store D} {supply : Supply D}

section Commits

variable {proposal committed replacement : Assertion D} {sources : List (SourceOccurrence D)}
  {graph : List (Assertion D)}

variable {other : Assertion D} {result : SupersessionResult D} {plan : SupersessionLifecyclePlan D}

theorem mem_stamped (same : proposal.revisionId = committed.revisionId)
    (distinct : ∀ assertion ∈ graph, assertion.revisionId ≠ committed.revisionId) :
    other ∈ stamped committed (graph ++ [proposal]) ↔ other ∈ graph ∨ other = committed := by
  unfold stamped
  rw [List.map_append, List.mem_append, List.map_singleton, if_pos same, List.mem_singleton,
    List.map_congr_left (fun assertion member => if_neg (distinct assertion member)),
    List.map_id']

variable {assertion : Assertion D} {expectedGeneration : Option ℕ} {expected : D.RevisionId}

theorem eq_of_writeRevision (written : before.writeRevision assertion = .ok after)
    (stored : before.revision assertion.revisionId = some other) : other = assertion := by
  obtain ⟨row, present, rfl⟩ := map_eq_some_iff.mp stored
  unfold writeRevision at written
  rw [present] at written
  dsimp only at written
  split_ifs at written with same
  exact same

theorem Linked.revision_of_active (linked : store.Linked) (active : store.ActiveCurrent assertion) :
    store.revision assertion.revisionId = some assertion := by
  obtain ⟨_, _, eligible, stored⟩ := linked.of_current active.1
  unfold revision
  rw [stored, map_some]

/-- **An initial write commits the snapshot with the new assertion.** -/
theorem active_putInitialAssertion {result : AssertionWriteResult D} (linked : before.Linked)
    (checked : validateInitialAssertionWrite assertion = .ok ())
    (put : before.putInitialAssertion supply assertion sources expectedGeneration =
      .ok (after, result)) (new : result.idempotent = false) :
    result.assertion = assertion ∧
      (∀ other ∈ before.completeActiveAssertions, other.revisionId ≠ assertion.revisionId) ∧
      ∀ other, after.ActiveCurrent other ↔ before.ActiveCurrent other ∨ other = assertion := by
  unfold putInitialAssertion at put
  split_ifs at put
  split at put
  · split_ifs at put
    cases put
    cases new
  · rename_i absent
    split at put
    · cases put
    · rename_i vacant
      simp only [bind_eq_ok] at put
      obtain ⟨sourced, stored, _, _, written, revised, put⟩ := put
      cases put
      have active : assertion.status = .active := by
        unfold validateInitialAssertionWrite at checked
        split_ifs at checked with mismatch
        push Not at mismatch
        exact mismatch.1
      have same := sameTables_storeSources stored
      have pointed := same.retires.pointed linked.isPointed
      have final : Retires ∅ (written.setCurrent assertion)
          (((written.setCurrent assertion).advanceGeneration).event (supply.eventUuid4 0)
            assertion "accepted" true) := SameTables.retires ⟨rfl, rfl, rfl⟩
      refine ⟨rfl, ?_, ?_⟩
      · intro other member equal
        have found := linked.revision_of_active (linked.mem_completeActiveAssertions.mp member)
        rw [equal, absent] at found
        cases found
      · intro other
        rw [final.active (pointed_setCurrent pointed revised),
          active_setCurrent pointed revised active, same.retires.active linked.isPointed]
        simp only [mem_empty_iff_false, not_false_eq_true, and_true]
        apply or_congr_left
        apply and_iff_left_of_imp
        intro found equal
        have known := found.1
        rw [equal, vacant] at known
        cases known

theorem Linked.current_of_revision (linked : store.Linked) {assertionId : D.AssertionId}
    {revisionId : D.RevisionId}
    (moved : (store.current assertionId).map (·.revisionId) = some revisionId)
    (found : store.revision revisionId = some assertion) :
    store.current assertionId = some assertion ∧ assertion.revisionId = revisionId := by
  obtain ⟨current, located, rfl⟩ := map_eq_some_iff.mp moved
  obtain ⟨_, _, eligible, stored⟩ := linked.of_current located
  unfold revision at found
  rw [stored, map_some] at found
  cases found
  exact ⟨located, rfl⟩

theorem assertionId_of_content {first second : Assertion D}
    (same : first.content = second.content) : first.assertionId = second.assertionId := by
  unfold Assertion.assertionId
  rw [same]

/-- **A restoration commits the snapshot with the restored revision.** -/
theorem active_restore (linked : before.Linked)
    (restored : before.restore supply expected replacement sources expectedGeneration =
      .ok (after, result)) :
    result.replacement.toAssertionMapping = { replacement.toAssertionMapping with
        supersedesRevisionId := some expected } ∧
      (∀ other ∈ before.completeActiveAssertions,
        other.revisionId ≠ result.replacement.revisionId) ∧
      ∀ other, after.ActiveCurrent other ↔
        before.ActiveCurrent other ∨ other = result.replacement := by
  unfold restore at restored
  obtain ⟨source, validated, restored⟩ := bind_eq_ok.mp restored
  split_ifs at restored
  · obtain ⟨_, _, restored⟩ := bind_eq_ok.mp restored
    cases restored
  simp only [bind_eq_ok] at restored
  obtain ⟨predecessor, planned, sourced, stored, _, _, state, made, written, revised,
    restored⟩ := restored
  cases restored
  have fields := Assertion.fromMapping_eq_ok made
  have identity : state.assertionId = replacement.assertionId :=
    assertionId_of_content (by rw [fields])
  have active : state.status = .active := by
    rw [fields]
    unfold validateRestoration at validated
    split at validated
    · split_ifs at validated with mismatch
      push Not at mismatch
      exact mismatch.1
    · cases validated
    · cases validated
  -- The terminal predecessor is current, so nothing of the identity is active.
  have terminal : before.current state.assertionId = some predecessor ∧
      predecessor.status = .deleted := by
    unfold planRestorationLifecycle at planned
    split at planned
    · cases planned
    · rename_i found
      split_ifs at planned with mismatch moved
      cases planned
      push Not at mismatch moved
      rw [identity, ← mismatch.2.2.2]
      exact ⟨(linked.current_of_revision moved found).1, mismatch.1⟩
  have vacant : ∀ other, before.ActiveCurrent other → other.assertionId ≠ state.assertionId := by
    intro other found same
    have known := found.1
    rw [same, terminal.1] at known
    cases known
    exact absurd (found.2.symm.trans terminal.2) (by decide)
  have same := sameTables_storeSources stored
  have pointed := same.retires.pointed linked.isPointed
  have final : Retires ∅ (written.setCurrent state)
      (((written.setCurrent state).advanceGeneration).event (supply.eventUuid4 0) state
        "accepted" true) := SameTables.retires ⟨rfl, rfl, rfl⟩
  refine ⟨fields, ?_, ?_⟩
  · intro other member equal
    have found := linked.mem_completeActiveAssertions.mp member
    have kept := (progresses_storeSources stored).revision _ _ (linked.revision_of_active found)
    rw [equal] at kept
    exact vacant other found (congrArg _ (eq_of_writeRevision revised kept))
  · intro other
    rw [final.active (pointed_setCurrent pointed revised),
      active_setCurrent pointed revised active, same.retires.active linked.isPointed]
    simp only [mem_empty_iff_false, not_false_eq_true, and_true]
    exact or_congr_left (and_iff_left_of_imp (vacant other))

theorem Linked.active_of_live (linked : store.Linked) (live : store.Live assertion)
    : store.ActiveCurrent assertion := by
  obtain ⟨row, member, rfl⟩ := mem_map.mp live
  obtain ⟨listed, kept⟩ := mem_filter.mp member
  rw [Bool.and_eq_true] at kept
  rw [← linked.mem_completeActiveAssertions]
  unfold completeActiveAssertions
  rw [mem_insertionSort, mem_filter]
  exact ⟨mem_map_of_mem listed, kept.1⟩

theorem Linked.planSupersessionLifecycle (linked : store.Linked)
    (planned : store.planSupersessionLifecycle expected replacement = .ok plan) :
    store.ActiveCurrent plan.predecessor ∧ plan.predecessor.revisionId = expected ∧
      (∀ dependent ∈ plan.dependentAssertions, store.ActiveCurrent dependent) ∧
      plan.withdrawnRevisionIds = expected :: plan.dependentAssertions.map (·.revisionId) := by
  unfold Store.planSupersessionLifecycle at planned
  split at planned
  · cases planned
  · rename_i predecessor found
    split_ifs at planned with inactive moved unrelated
    cases planned
    push Not at moved inactive
    obtain ⟨located, revision⟩ := linked.current_of_revision moved found
    refine ⟨⟨located, inactive⟩, revision, ?_, rfl⟩
    intro dependent member
    exact linked.active_of_live (mem_planDependentCurrentRevisions.mp member).1

theorem Linked.withdrawn_iff (linked : store.Linked) {withdrawn : List (Assertion D)}
    (active : ∀ item ∈ withdrawn, store.ActiveCurrent item) (found : store.ActiveCurrent assertion)
    :
    assertion.revisionId ∈ withdrawn.map (·.revisionId) ↔
      ∃ item ∈ withdrawn, item.assertionId = assertion.assertionId := by
  rw [List.mem_map]
  constructor
  · intro listed
    obtain ⟨item, member, same⟩ := listed
    have stored := linked.revision_of_active (active item member)
    rw [same, linked.revision_of_active found] at stored
    cases stored
    exact ⟨_, member, rfl⟩
  · intro listed
    obtain ⟨item, member, same⟩ := listed
    have current := (active item member).1
    rw [same, found.1] at current
    cases current
    exact ⟨_, member, rfl⟩

theorem SameTables.planSupersessionLifecycle (same : SameTables before after)
    (expected : D.RevisionId) (replacement : Assertion D) :
    after.planSupersessionLifecycle expected replacement =
      before.planSupersessionLifecycle expected replacement := by
  obtain ⟨revisions, currents, derivations⟩ := same
  cases before
  cases after
  cases revisions
  cases currents
  cases derivations
  rfl

/-- **A supersession commits its planned state**, if its plan withdraws what has the identity of
the replacement. -/
theorem active_supersede (linked : before.Linked)
    (planned : before.planSupersessionLifecycle expected replacement = .ok plan)
    (untaken : ∀ assertion ∈ before.completeActiveAssertions,
      assertion.assertionId = replacement.assertionId →
      assertion.revisionId ∈ plan.withdrawnRevisionIds)
    (superseded : before.supersede supply expected replacement sources expectedGeneration =
      .ok (after, result)) :
    result.replacement.toAssertionMapping = { replacement.toAssertionMapping with
        supersedesRevisionId := some result.predecessor.revisionId } ∧
      (∀ other ∈ before.completeActiveAssertions, other.revisionId ∉ plan.withdrawnRevisionIds →
        other.revisionId ≠ result.replacement.revisionId) ∧
      ∀ other, after.ActiveCurrent other ↔ (before.ActiveCurrent other ∧
        other.revisionId ∉ plan.withdrawnRevisionIds) ∨ other = result.replacement := by
  unfold supersede at superseded
  split_ifs at superseded with inactive
  simp only [bind_eq_ok] at superseded
  obtain ⟨sourced, stored, _, _, plan', planned', predecessorState, predecessorMade,
    replacementState, replacementMade, ⟨retired, states⟩, retires, first, firstWritten, second,
    secondWritten, superseded⟩ := superseded
  cases superseded
  have same := sameTables_storeSources stored
  rw [same.planSupersessionLifecycle, planned] at planned'
  cases planned'
  obtain ⟨root, revision, dependents, withdrawn⟩ := linked.planSupersessionLifecycle planned
  have rootState := stateOf_assertionWith predecessorMade
  have fields := Assertion.fromMapping_eq_ok replacementMade
  have active : replacementState.status = .active := by
    rw [fields]
    exact not_not.mp inactive
  -- The dependents and the predecessor retire, and the replacement joins.
  have retirement := (((same.retires.trans (retires_deactivate sourced
    plan.deactivatedDerivationIds)).trans (retires_retireAll (by decide) retires)).trans
      (retires_invalidateEligibility retired expected)).trans
        (retires_setCurrent firstWritten (by rw [rootState.status]; decide))
  have pointed := retirement.pointed linked.isPointed
  have noted : SameTables (second.setCurrent replacementState)
      ((((second.setCurrent replacementState).advanceGeneration).event (supply.eventUuid4 0)
        predecessorState "superseded" false).event (supply.eventUuid4 1) replacementState
          "accepted" true) := ⟨rfl, rfl, rfl⟩
  have final := (noted.trans (sameTables_events supply "retracted" states 2 _)).retires
  have everyActive : plan.dependentAssertions.filter (fun dependent => dependent.status = .active) =
      plan.dependentAssertions := by
    rw [filter_eq_self]
    exact fun dependent member => decide_eq_true (dependents dependent member).2
  rw [everyActive] at retirement
  have outside : ∀ other, before.ActiveCurrent other →
      (other.assertionId ∉ ∅ ∪ ∅ ∪ {assertionId | ∃ item ∈ plan.dependentAssertions,
          item.assertionId = assertionId} ∪ ∅ ∪ {predecessorState.assertionId} ↔
        other.revisionId ∉ plan.withdrawnRevisionIds) := by
    intro other found
    have listed := linked.withdrawn_iff (forall_mem_cons.mpr ⟨root, dependents⟩) found
    rw [map_cons, revision, ← withdrawn] at listed
    rw [listed, rootState.assertionId]
    simp only [mem_union, mem_empty_iff_false, false_or, or_false, mem_ofPred_eq,
      mem_singleton_iff, mem_cons, exists_eq_or_imp]
    exact not_congr (or_comm.trans (or_congr_left eq_comm))
  have identity : replacementState.assertionId = replacement.assertionId :=
    assertionId_of_content (by rw [fields])
  refine ⟨fields, ?_, ?_⟩
  · intro other member spared equal
    have found := linked.mem_completeActiveAssertions.mp member
    have stateless : Progresses 0 before (retired.invalidateEligibility expected false) :=
      ((progresses_storeSources stored).trans (progresses_deactivate _ _)).trans
        ((progresses_retireAll retires).trans (progresses_invalidateEligibility _ _ _))
    have kept := (stateless.trans ((progresses_writeRevision firstWritten).trans
      (progresses_setCurrent _ predecessorState))).revision _ _ (linked.revision_of_active found)
    rw [equal] at kept
    have taken := eq_of_writeRevision secondWritten kept
    exact spared (untaken other member (taken ▸ identity))
  · intro other
    rw [final.active (pointed_setCurrent pointed secondWritten),
      active_setCurrent pointed secondWritten active, retirement.active linked.isPointed]
    simp only [mem_empty_iff_false, not_false_eq_true, and_true]
    apply or_congr_left
    rw [and_assoc]
    apply and_congr_right
    intro found
    rw [outside other found]
    refine and_iff_left_of_imp ?_
    intro spared same
    exact spared (untaken other (linked.mem_completeActiveAssertions.mpr found)
      (same.trans identity))

/-- **A governed write commits the graph that was validated for it.** The committed revision
stands in the place of the proposal, from which it differs at most in its predecessor link. -/
theorem active_apply {write : GovernedWrite D} {generation : ℕ} {written : Written D}
    (linked : before.Linked) (checked : write.validate = .ok ()) (untaken : write.Untaken before)
    (planned : write.postState before = .ok graph)
    (applied : write.apply supply generation before = .ok (after, written))
    (new : written.idempotent = false) :
    SameUpToLink written.assertion write.proposal ∧
      ∀ other, after.ActiveCurrent other ↔ other ∈ stamped written.assertion graph := by
  cases GovernedWrite.Applied.of_apply applied with
  | put assertion sources result put =>
    cases planned
    obtain ⟨same, distinct, active⟩ := active_putInitialAssertion linked checked put new
    have committed : (Written.put result).assertion = assertion := same
    rw [committed]
    refine ⟨rfl, ?_⟩
    intro other
    rw [active, mem_stamped rfl distinct, linked.mem_completeActiveAssertions]
  | supersede expected replacement sources result superseded =>
    simp only [GovernedWrite.postState, bind_eq_ok] at planned
    obtain ⟨plan, lifecycle, planned⟩ := planned
    split_ifs at planned
    cases planned
    obtain ⟨fields, distinct, active⟩ := active_supersede linked lifecycle
      (untaken plan lifecycle) superseded
    have committed : (Written.replaced result).assertion = result.replacement := rfl
    rw [committed]
    refine ⟨?_, ?_⟩
    · unfold SameUpToLink
      rw [fields]
      rfl
    · intro other
      rw [active, mem_stamped (by rw [fields]), mem_filter,
        linked.mem_completeActiveAssertions, decide_eq_true_eq]
      intro each member
      obtain ⟨listed, spared⟩ := mem_filter.mp member
      exact distinct each listed (of_decide_eq_true spared)
  | restore expected replacement sources result restored =>
    simp only [GovernedWrite.postState, bind_eq_ok] at planned
    obtain ⟨_, _, planned⟩ := planned
    cases planned
    obtain ⟨fields, distinct, active⟩ := active_restore linked restored
    have committed : (Written.replaced result).assertion = result.replacement := rfl
    rw [committed]
    refine ⟨?_, ?_⟩
    · unfold SameUpToLink
      rw [fields]
      rfl
    · intro other
      rw [active, mem_stamped (by rw [fields]) distinct,
        linked.mem_completeActiveAssertions]

theorem SameGraph.postState (same : SameGraph before after) (write : GovernedWrite D) :
    write.postState after = write.postState before := by
  have active : after.completeActiveAssertions = before.completeActiveAssertions := by
    unfold completeActiveAssertions currentRows
    rw [same.revisions, same.currents]
  have revision : after.revision = before.revision := by
    funext revisionId
    unfold revision
    rw [same.revisions]
  have current : after.current = before.current := by
    funext assertionId
    unfold current currentRow
    rw [same.revisions, same.currents]
  cases write with
  | put assertion sources =>
    unfold GovernedWrite.postState
    rw [active]
  | supersede expected replacement sources =>
    simp only [GovernedWrite.postState, planSupersessionLifecycle, active, revision, current]
    cases before.revision expected with
    | none => rfl
    | some predecessor =>
      simp only [same.planned]
      split_ifs <;> rfl
  | restore expected replacement sources =>
    unfold GovernedWrite.postState planRestorationLifecycle
    rw [active, revision, current]

end Commits

end Store

end Kestrel.AssertionStore
