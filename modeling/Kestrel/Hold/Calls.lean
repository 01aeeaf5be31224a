import Kestrel.Hold.Appending

/-!
# What a call records

`set_hold` and `release_hold` on a history's database: a new operation appends the receipt that the
history's current authority decides, a repeated one gives its receipt back.
-/

namespace Kestrel.Hold

open Except Option HoldStore HoldReceipt

/-- The disposition of a new operation, with the authorities it found and left. -/
def dispositionOf (history : List HoldReceipt) (mutation : Mutation) (receiptId : String) :
    HoldDisposition × String × String :=
  match mutation.action with
  | .hold =>
    match (current history mutation.target).filter fun held => held.actorId = mutation.actorId ∧
        held.reason = mutation.reason ∧ held.authority = mutation.authority with
    | some held => (.alreadyInState, held.receiptId, held.receiptId)
    | none => (.applied, currentId history mutation.target, receiptId)
  | .release =>
    HoldStore.releaseDisposition (stateOf history mutation.target)
      mutation.expectedHoldReceiptId

def nextReceipt (history : List HoldReceipt) (operationId : String) (mutation : Mutation)
    (receiptId occurredAt : String) : HoldReceipt :=
  let (disposition, prior, resulting) := dispositionOf history mutation receiptId
  HoldStore.newReceipt operationId mutation disposition prior resulting receiptId occurredAt

variable {sha256 : Sha256} {isAware : String → Bool} {keys : List HoldTarget}
  {history : List HoldReceipt} {operation receiptId occurredAt : String} {mutation : Mutation}
  {receipt : HoldReceipt} {result : HoldMutation} {after : HoldStore}

/-- What a call whose texts are resolved does to the store of a history. -/
inductive Records (sha256 : Sha256) (isAware : String → Bool) (keys : List HoldTarget)
    (history : List HoldReceipt) (operation : String) (mutation : Mutation)
    (receiptId occurredAt : String) : HoldMutation → HoldStore → Prop where
  | replayed {receipt : HoldReceipt} : receiptOf history operation = some receipt →
      mutation = receipt.mutation →
      Records sha256 isAware keys history operation mutation receiptId occurredAt
        ⟨receipt, stateOf history mutation.target⟩ (storeOf sha256 isAware keys history)
  | appended {receipt : HoldReceipt} : receiptOf history operation = none →
      receipt = nextReceipt history operation mutation receiptId occurredAt →
      Appends isAware history receipt →
      Records sha256 isAware keys history operation mutation receiptId occurredAt
        ⟨receipt, stateOf (history ++ [receipt]) mutation.target⟩
        (storeOf sha256 isAware (withKey keys mutation.target) (history ++ [receipt]))

theorem stateOf_elim_holdReceiptId (history : List HoldReceipt) (target : HoldTarget) :
    (stateOf history target).elim "" HoldState.holdReceiptId = currentId history target := by
  unfold stateOf currentId
  cases current history target <;> rfl

theorem dispositionOf_prior (history : List HoldReceipt) (mutation : Mutation)
    (receiptId : String) :
    (dispositionOf history mutation receiptId).2.1 = currentId history mutation.target := by
  unfold dispositionOf
  cases mutation.action with
  | hold =>
    cases same : (current history mutation.target).filter fun held =>
        held.actorId = mutation.actorId ∧ held.reason = mutation.reason ∧
          held.authority = mutation.authority with
    | none => rfl
    | some held =>
      obtain ⟨isCurrent, _⟩ := filter_eq_some_iff.mp same
      unfold currentId
      rw [isCurrent]
      rfl
  | release =>
    simp only
    rw [← stateOf_elim_holdReceiptId]
    unfold releaseDisposition
    cases stateOf history mutation.target with
    | none => rfl
    | some latch =>
      simp only
      split_ifs <;> rfl

@[simp] theorem nextReceipt_target : (nextReceipt history operation mutation receiptId
    occurredAt).target = mutation.target := rfl

/-- The texts of a resolved call. -/
structure Resolved (operation : String) (mutation : Mutation) : Prop where
  operation : isCanonical operation = true
  isKey : mutation.target.IsKey
  door : validateDoorAuthority mutation.action mutation.scope mutation.targetId mutation.actorId
    mutation.authority = .ok ()

theorem isCanonical_of_isRequired {text : String} (required : IsRequired text) :
    isCanonical text = true := by
  unfold isCanonical
  rw [required.1, required.2]
  simp

theorem HoldCall.resolve_eq_ok {call : HoldCall} {action : HoldAction}
    {expected : Except HoldError String}
    (resolved : call.resolve action expected = .ok (operation, mutation)) :
    Resolved operation mutation ∧ mutation.action = action ∧
      expected = .ok mutation.expectedHoldReceiptId := by
  unfold HoldCall.resolve at resolved
  obtain ⟨targetId, known, resolved⟩ := bind_eq_ok.mp resolved
  obtain ⟨actor, _, resolved⟩ := bind_eq_ok.mp resolved
  obtain ⟨why, _, resolved⟩ := bind_eq_ok.mp resolved
  obtain ⟨identity, named, resolved⟩ := bind_eq_ok.mp resolved
  obtain ⟨stale, given, resolved⟩ := bind_eq_ok.mp resolved
  obtain ⟨_, door, resolved⟩ := bind_eq_ok.mp resolved
  obtain ⟨rfl, rfl⟩ := Prod.mk.inj (ok.inj resolved)
  exact ⟨⟨isCanonical_of_isRequired (requiredText_eq_ok named).1, target_eq_ok known, door⟩, rfl,
    given⟩

theorem appends_nextReceipt (resolved : Resolved operation mutation)
    (identity : isCanonical receiptId = true) (newOperation : receiptOf history operation = none)
    (newReceipt : receiptId ∉ history.map HoldReceipt.receiptId)
    (checked : checkReceipt isAware (nextReceipt history operation mutation receiptId occurredAt) =
      .ok ()) :
    Appends isAware history (nextReceipt history operation mutation receiptId occurredAt) where
  checked := checked
  isKey := resolved.isKey
  identity := identity
  operation := resolved.operation
  newReceipt := newReceipt
  newOperation := receiptOf_eq_none.mp newOperation
  prior := dispositionOf_prior history mutation receiptId

variable {receipt : HoldReceipt}

theorem Keyed.append (keyed : Keyed isAware keys history) (member : receipt.target ∈ keys)
    (appends : Appends isAware history receipt) :
    Keyed isAware keys (history ++ [receipt]) := by
  refine ⟨keyed.nodup, keyed.isKey, ?_, .append keyed.recorded appends⟩
  intro other stored
  rcases List.mem_append.mp stored with before | new
  · exact keyed.covered other before
  · rw [List.mem_singleton.mp new]
    exact member

theorem Keyed.target_mem_of_receiptOf (keyed : Keyed isAware keys history)
    (found : receiptOf history operation = some receipt) (same : mutation = receipt.mutation) :
    mutation.target ∈ keys := by
  rw [same]
  exact keyed.covered receipt (receiptOf_eq_some found).1

/-- What a mutation does once its texts are resolved: `_set_hold` and `_release_hold` differ in how
they append. -/
theorem replay_or_append (keyed : Keyed isAware keys history) (resolved : Resolved operation mutation)
    (identity : isCanonical receiptId = true)
    {append : Option HoldState × HoldDatabase → Except HoldError (HoldMutation × HoldStore)}
    (appends : append (stateOf history mutation.target,
          project sha256 (withKey keys mutation.target) history) = .ok (result, after) ↔
      receiptId ∉ history.map HoldReceipt.receiptId ∧
        operation ∉ history.map operationId ∧
        checkReceipt isAware (nextReceipt history operation mutation receiptId occurredAt) = .ok () ∧
        (result, after) = (⟨nextReceipt history operation mutation receiptId occurredAt,
            stateOf (history ++ [nextReceipt history operation mutation receiptId occurredAt])
              mutation.target⟩,
          storeOf sha256 isAware (withKey keys mutation.target)
            (history ++ [nextReceipt history operation mutation receiptId occurredAt]))) :
    ((storeOf sha256 isAware keys history).openLatch sha256 isAware mutation.target >>=
        fun opened => replay isAware opened.2 operation mutation >>= fun found =>
          match found with
          | some receipt => .ok (HoldMutation.mk receipt opened.1,
              mk opened.2 (storeOf sha256 isAware keys history).anchor)
          | none => append opened) = .ok (result, after) ↔
      Records sha256 isAware keys history operation mutation receiptId occurredAt result after := by
  rw [openLatch_storeOf keyed resolved.isKey]
  change (replay isAware (project sha256 (withKey keys mutation.target) history) operation
    mutation >>= fun found => match found with
      | some receipt => .ok (HoldMutation.mk receipt (stateOf history mutation.target),
          mk (project sha256 (withKey keys mutation.target) history)
            (storeOf sha256 isAware keys history).anchor)
      | none => append (stateOf history mutation.target,
          project sha256 (withKey keys mutation.target) history)) = _ ↔ _
  rw [replay_project keyed.recorded]
  cases found : receiptOf history operation with
  | none =>
    change append (stateOf history mutation.target,
        project sha256 (withKey keys mutation.target) history) = .ok (result, after) ↔ _
    rw [appends]
    constructor
    · rintro ⟨newReceipt, _, checked, same⟩
      obtain ⟨rfl, rfl⟩ := Prod.mk.inj same
      exact .appended found rfl (appends_nextReceipt resolved identity found newReceipt checked)
    · intro records
      cases records with
      | replayed known _ =>
        rw [found] at known
        cases known
      | appended _ same valid =>
        subst same
        exact ⟨valid.newReceipt, valid.newOperation, valid.checked, rfl⟩
  | some receipt =>
    by_cases same : mutation = receipt.mutation
    · have known := withKey_of_mem (keyed.target_mem_of_receiptOf found same)
      simp only [if_pos same, known]
      constructor
      · intro succeeded
        obtain ⟨rfl, rfl⟩ := Prod.mk.inj (ok.inj succeeded)
        exact .replayed found same
      · intro records
        cases records with
        | replayed other _ =>
          rw [found] at other
          obtain rfl := Option.some.inj other
          rfl
        | appended unused _ _ =>
          rw [found] at unused
          cases unused
    · simp only [if_neg same]
      refine iff_of_false ?_ ?_
      · intro impossible
        cases impossible
      · intro records
        cases records with
        | replayed other equal =>
          rw [found] at other
          obtain rfl := Option.some.inj other
          exact same equal
        | appended unused _ _ =>
          rw [found] at unused
          cases unused

theorem insert_bind_eq_ok (keyed : Keyed isAware keys history)
    (resolved : Resolved operation mutation) (identity : isCanonical receiptId = true)
    (isNext : receipt = nextReceipt history operation mutation receiptId occurredAt)
    {next : HoldDatabase → Except HoldError (HoldMutation × HoldStore)}
    (follows : Keyed isAware (withKey keys mutation.target) (history ++ [receipt]) →
      next (inserted sha256 (withKey keys mutation.target) history receipt) =
        .ok (⟨receipt, stateOf (history ++ [receipt]) mutation.target⟩,
          storeOf sha256 isAware (withKey keys mutation.target) (history ++ [receipt]))) :
    ((project sha256 (withKey keys mutation.target) history).insertReceipt sha256 isAware receipt >>=
        next) = .ok (result, after) ↔
      receiptId ∉ history.map HoldReceipt.receiptId ∧
        operation ∉ history.map operationId ∧
        checkReceipt isAware receipt = .ok () ∧
        (result, after) = (⟨receipt, stateOf (history ++ [receipt]) mutation.target⟩,
          storeOf sha256 isAware (withKey keys mutation.target) (history ++ [receipt])) := by
  have extended := keyed.withKey resolved.isKey
  have valid : receiptId ∉ history.map HoldReceipt.receiptId →
      operation ∉ history.map operationId → checkReceipt isAware receipt = .ok () →
      Keyed isAware (withKey keys mutation.target) (history ++ [receipt]) := by
    intro newReceipt newOperation checked
    subst isNext
    exact extended.append (mem_withKey keys mutation.target)
      (appends_nextReceipt resolved identity (receiptOf_eq_none.mpr newOperation) newReceipt checked)
  have sameIds : receipt.receiptId = receiptId ∧ receipt.operationId = operation := by
    subst isNext
    exact ⟨rfl, rfl⟩
  rw [bind_eq_ok]
  constructor
  · rintro ⟨database, stored, succeeded⟩
    obtain ⟨newReceipt, newOperation, checked, rfl⟩ := insertReceipt_project.mp stored
    rw [sameIds.1] at newReceipt
    rw [sameIds.2] at newOperation
    rw [follows (valid newReceipt newOperation checked)] at succeeded
    exact ⟨newReceipt, newOperation, checked, (ok.inj succeeded).symm⟩
  · rintro ⟨newReceipt, newOperation, checked, same⟩
    refine ⟨inserted sha256 (withKey keys mutation.target) history receipt, ?_, ?_⟩
    · rw [insertReceipt_project, sameIds.1, sameIds.2]
      exact ⟨newReceipt, newOperation, checked, rfl⟩
    · rw [follows (valid newReceipt newOperation checked), same]

theorem stateOf_concat_refused (refused : receipt.disposition ≠ .applied) (target : HoldTarget) :
    stateOf (history ++ [receipt]) target = stateOf history target := by
  unfold stateOf
  rw [current_concat_refused history refused, appliedAt_concat_refused history refused]

/-- A Hold that its actor set already, for its reason and under its authority, is not set again. -/
def Mutation.sets (mutation : Mutation) (held : HoldReceipt) : Prop :=
  held.actorId = mutation.actorId ∧ held.reason = mutation.reason ∧
    held.authority = mutation.authority

instance (mutation : Mutation) (held : HoldReceipt) : Decidable (mutation.sets held) :=
  inferInstanceAs (Decidable (_ ∧ _ ∧ _))

theorem nextReceipt_of_sets (operation receiptId occurredAt : String) {held : HoldReceipt} (isHold : mutation.action = .hold)
    (isCurrent : current history mutation.target = some held) (same : mutation.sets held) :
    nextReceipt history operation mutation receiptId occurredAt =
      newReceipt operation mutation .alreadyInState held.receiptId held.receiptId
        receiptId occurredAt := by
  have filtered : (some held).filter (fun held => decide (held.actorId = mutation.actorId ∧
      held.reason = mutation.reason ∧ held.authority = mutation.authority)) = some held :=
    filter_eq_some_iff.mpr ⟨rfl, decide_eq_true same⟩
  unfold nextReceipt dispositionOf
  simp only [isHold, isCurrent, filtered]

theorem nextReceipt_of_not_sets (operation receiptId occurredAt : String) (isHold : mutation.action = .hold)
    (different : ∀ held, current history mutation.target = some held → ¬ mutation.sets held) :
    nextReceipt history operation mutation receiptId occurredAt =
      newReceipt operation mutation .applied (currentId history mutation.target) receiptId
        receiptId occurredAt := by
  have filtered : (current history mutation.target).filter (fun held =>
      decide (held.actorId = mutation.actorId ∧ held.reason = mutation.reason ∧
        held.authority = mutation.authority)) = none := by
    apply filter_eq_none_iff.mpr
    intro held isCurrent same
    exact different held isCurrent (of_decide_eq_true same)
  unfold nextReceipt dispositionOf
  simp only [isHold, filtered]

theorem set_inserted (keyed : Keyed isAware keys (history ++ [receipt])) (isKey : receipt.target.IsKey)
    (applied : receipt.disposition = .applied) (hold : receipt.action = .hold) :
    (do
      let current ← currentLatch isAware
        ((inserted sha256 keys history receipt).latch receipt) receipt.target
      publish sha256 isAware ((inserted sha256 keys history receipt).latch receipt)
        ⟨receipt, current⟩) =
      .ok (⟨receipt, stateOf (history ++ [receipt]) receipt.target⟩,
        storeOf sha256 isAware keys (history ++ [receipt])) := by
  rw [latch_inserted applied hold, currentLatch_project keyed isKey]
  exact publish_project keyed.recorded _

theorem heldAuthority_project (keyed : Keyed isAware keys history) (target : HoldTarget) :
    ((stateOf history target).elim (.ok none) fun latch =>
        ((project sha256 keys history).latchAuthority isAware latch).map some) =
      .ok ((current history target).map authority) := by
  cases told : stateOf history target with
  | none =>
    have unheld : current history target = none := map_eq_none_iff.mp told
    rw [unheld]
    rfl
  | some latch =>
    obtain ⟨held, isCurrent, _⟩ := map_eq_some_iff.mp told
    rw [elim_some, latchAuthority_project keyed isCurrent told, isCurrent]
    rfl

theorem filter_stateOf (history : List HoldReceipt) (mutation : Mutation) :
    (stateOf history mutation.target).filter (fun latch =>
        decide (latch.actorId = mutation.actorId ∧ latch.reason = mutation.reason ∧
          (current history mutation.target).map authority = some mutation.authority)) =
      if ∃ held ∈ current history mutation.target, mutation.sets held then
        stateOf history mutation.target
      else none := by
  unfold stateOf
  cases current history mutation.target with
  | none => simp
  | some held =>
    simp only [map_some, mem_some_iff, exists_eq_left', some_inj]
    by_cases same : mutation.sets held
    · rw [if_pos same]
      exact filter_eq_some_iff.mpr ⟨rfl, decide_eq_true same⟩
    · rw [if_neg same]
      apply filter_eq_none_iff.mpr
      intro latch told agrees
      obtain rfl := Option.some.inj told
      exact same (of_decide_eq_true agrees)

theorem stateOf_of_current {target : HoldTarget} {held : HoldReceipt}
    (isCurrent : current history target = some held) :
    stateOf history target = some ⟨target.scope, target.targetId, held.reason, held.actorId,
      held.occurredAt, held.receiptId, (appliedAt history target).length⟩ := by
  unfold stateOf
  rw [isCurrent]
  rfl

theorem setHold_eq_ok {call : HoldCall} (keyed : Keyed isAware keys history)
    (identity : isCanonical receiptId = true) :
    (storeOf sha256 isAware keys history).setHold sha256 isAware call receiptId occurredAt =
        .ok (result, after) ↔
      ∃ operation mutation, call.mutation = .ok (operation, mutation) ∧
        Records sha256 isAware keys history operation mutation receiptId occurredAt result after := by
  unfold setHold
  rw [bind_eq_ok, Prod.exists]
  refine exists_congr fun operation => exists_congr fun mutation => and_congr_right fun known => ?_
  obtain ⟨resolved, isHold, _⟩ := HoldCall.resolve_eq_ok known
  have extended := keyed.withKey resolved.isKey
  refine replay_or_append keyed resolved identity ?_
  dsimp only
  rw [heldAuthority_project extended, ok_bind, filter_stateOf, stateOf_elim_holdReceiptId]
  -- The branches are those of the current Hold and of its agreement with the call.
  by_cases agrees : ∃ held ∈ current history mutation.target, mutation.sets held
  · rw [if_pos agrees]
    obtain ⟨held, isCurrent, same⟩ := agrees
    have told := stateOf_of_current isCurrent
    have isNext := nextReceipt_of_sets operation receiptId occurredAt isHold isCurrent same
    have refused : HoldDisposition.alreadyInState ≠ .applied := by decide
    rw [told, isNext]
    refine insert_bind_eq_ok keyed resolved identity isNext.symm ?_
    intro longer
    rw [inserted_refused refused, publish_project longer.recorded, stateOf_concat_refused refused,
      told]
  · rw [if_neg agrees]
    have isNext := nextReceipt_of_not_sets operation receiptId occurredAt isHold
      fun held isCurrent same => agrees ⟨held, isCurrent, same⟩
    rw [isNext]
    refine insert_bind_eq_ok keyed resolved identity isNext.symm ?_
    intro longer
    exact set_inserted longer resolved.isKey rfl isHold

theorem releaseDisposition_applied {target : HoldTarget} {expected : String}
    (applied : (releaseDisposition (stateOf history target) expected).1 = .applied) :
    ∃ held, current history target = some held ∧ held.receiptId = expected := by
  unfold releaseDisposition at applied
  cases told : stateOf history target with
  | none =>
    rw [told] at applied
    cases applied
  | some latch =>
    rw [told] at applied
    obtain ⟨held, isCurrent, rfl⟩ := map_eq_some_iff.mp told
    simp only at applied
    by_cases stale : held.receiptId = expected
    · exact ⟨held, isCurrent, stale⟩
    · rw [if_pos stale] at applied
      cases applied

theorem releaseHold_eq_ok {call : ReleaseCall} (keyed : Keyed isAware keys history)
    (identity : isCanonical receiptId = true) :
    (storeOf sha256 isAware keys history).releaseHold sha256 isAware call receiptId occurredAt =
        .ok (result, after) ↔
      ∃ operation mutation, call.mutation = .ok (operation, mutation) ∧
        Records sha256 isAware keys history operation mutation receiptId occurredAt result after := by
  unfold releaseHold
  rw [bind_eq_ok, Prod.exists]
  refine exists_congr fun operation => exists_congr fun mutation => and_congr_right fun known => ?_
  obtain ⟨resolved, isRelease, _⟩ := HoldCall.resolve_eq_ok known
  dsimp only
  refine replay_or_append keyed resolved identity ?_
  have decided : dispositionOf history mutation receiptId =
      releaseDisposition (stateOf history mutation.target)
        mutation.expectedHoldReceiptId := by
    unfold dispositionOf
    rw [isRelease]
  have isNext : nextReceipt history operation mutation receiptId occurredAt =
      newReceipt operation mutation (releaseDisposition (stateOf history mutation.target)
          mutation.expectedHoldReceiptId).1
        (releaseDisposition (stateOf history mutation.target) mutation.expectedHoldReceiptId).2.1
        (releaseDisposition (stateOf history mutation.target)
          mutation.expectedHoldReceiptId).2.2 receiptId occurredAt := by
    unfold nextReceipt
    rw [decided]
  rw [isNext]
  refine insert_bind_eq_ok keyed resolved identity isNext.symm ?_
  intro longer
  have rows : (if (releaseDisposition (stateOf history mutation.target)
        mutation.expectedHoldReceiptId).1 = .applied then
      (inserted sha256 (withKey keys mutation.target) history
        (nextReceipt history operation mutation receiptId occurredAt)).unlatch mutation.target
          mutation.expectedHoldReceiptId
      else inserted sha256 (withKey keys mutation.target) history
        (nextReceipt history operation mutation receiptId occurredAt)) =
      project sha256 (withKey keys mutation.target)
        (history ++ [nextReceipt history operation mutation receiptId occurredAt]) := by
    have disposition : (nextReceipt history operation mutation receiptId occurredAt).disposition =
        (releaseDisposition (stateOf history mutation.target)
          mutation.expectedHoldReceiptId).1 := congrArg HoldReceipt.disposition isNext
    rw [← disposition]
    by_cases applied : (nextReceipt history operation mutation receiptId
        occurredAt).disposition = .applied
    · rw [if_pos applied]
      obtain ⟨held, isCurrent, same⟩ := releaseDisposition_applied (disposition ▸ applied)
      rw [← same]
      exact unlatch_inserted applied isRelease isCurrent
    · rw [if_neg applied]
      exact inserted_refused applied
  rw [isNext] at rows
  rw [rows, currentLatch_project longer resolved.isKey]
  exact publish_project longer.recorded _

end Kestrel.Hold
