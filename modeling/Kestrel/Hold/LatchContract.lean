import Kestrel.Base.Run
import Kestrel.Hold.Effective

/-!
# Runs of Hold calls

Whatever calls reach the store, its rows are those of one recorded history, so the latches compose
and obey their authority.
-/

namespace Kestrel.Hold

open HoldStore Option

inductive HoldRequest where
  | set (call : HoldCall)
  | release (call : ReleaseCall)

def HoldRequest.mutation : HoldRequest → Except HoldError (String × Mutation)
  | .set call => call.mutation
  | .release call => call.mutation

/-- A request with the fresh receipt identity and the instant that the store draws for it. -/
structure HoldAttempt where
  request : HoldRequest
  receiptId : String
  occurredAt : String
  identity : isCanonical receiptId = true

namespace HoldStore

variable (sha256 : Sha256) (isAware : String → Bool)

def perform (store : HoldStore) (attempt : HoldAttempt) :
    Except HoldError (HoldMutation × HoldStore) :=
  match attempt.request with
  | .set call => store.setHold sha256 isAware call attempt.receiptId attempt.occurredAt
  | .release call => store.releaseHold sha256 isAware call attempt.receiptId attempt.occurredAt

/-- The store after a request. The transaction of a refused one rolls back. -/
def step (store : HoldStore) (attempt : HoldAttempt) : HoldStore :=
  match store.perform sha256 isAware attempt with
  | .ok (_, after) => after
  | .error _ => store

/-- The receipts in the order of their insertion. -/
def receipts (store : HoldStore) : List HoldReceipt :=
  store.database.receipts.filterMap typedReceipt

/-- The key's latch is read as active. -/
def Active (store : HoldStore) (target : HoldTarget) : Prop :=
  ∃ latch, currentLatch isAware store.database target = .ok (some latch)

end HoldStore

def HoldState.Names (latch : HoldState) (receipt : HoldReceipt) : Prop :=
  latch.holdReceiptId = receipt.receiptId ∧ latch.reason = receipt.reason ∧
    latch.actorId = receipt.actorId ∧ latch.setAt = receipt.occurredAt

section Contract

variable (sha256 : Sha256) (isAware : String → Bool)

/-- What the rows of a store tell. -/
structure LatchesCompose (store : HoldStore) : Prop where
  accepted : ∃ latches, store.database.validate sha256 isAware = .ok latches
  latch : ∀ target : HoldTarget, target.IsKey →
    ∃ latch, HoldStore.currentLatch isAware store.database target = .ok latch ∧
      (latch.isSome = true ↔ ∃ receipt,
        (appliedAt store.receipts target).getLast? = some receipt ∧ receipt.action = .hold) ∧
      ∀ state receipt, latch = some state →
        (appliedAt store.receipts target).getLast? = some receipt → state.Names receipt
  effective : ∀ agentId agent, requiredText agentId "agent_id" = .ok agent →
    ∃ effective, store.getEffective sha256 isAware agentId = .ok effective ∧
      (effective.held = true ↔ store.Active isAware ⟨.host, hostHoldTarget⟩ ∨
        store.Active isAware ⟨.agent, agent⟩ ∨
        ∃ holder key, mandateLatchKey agent holder = .ok key ∧ store.Active isAware ⟨.mandate, key⟩)

/-- What a successful call may change. -/
structure CallObeys (store : HoldStore) (mutation : Mutation) (result : HoldMutation)
    (after : HoldStore) : Prop where
  /-- A release of anything but the current Hold at most appends its own receipt. -/
  release : mutation.action = .release →
    (∀ latch, HoldStore.currentLatch isAware store.database mutation.target = .ok (some latch) →
      latch.holdReceiptId ≠ mutation.expectedHoldReceiptId) →
    (after = store ∨ after.receipts = store.receipts ++ [result.receipt]) ∧
      ∀ target : HoldTarget, target.IsKey →
        HoldStore.currentLatch isAware after.database target =
          HoldStore.currentLatch isAware store.database target
  /-- Only the holder and a sovereign release change the latch of a pair. -/
  mandate : ∀ key subject holder, parseMandateLatchKey key = .ok (subject, holder) →
    HoldStore.currentLatch isAware after.database ⟨.mandate, key⟩ ≠
      HoldStore.currentLatch isAware store.database ⟨.mandate, key⟩ →
    mutation.target = ⟨.mandate, key⟩ ∧
      (mutation.authority = .mandate ∧ mutation.actorId = holder ∨
        mutation.authority = .sovereign ∧ mutation.action = .release)

/-- A repeated operation gives its receipt back, or is refused, and changes nothing. -/
structure RepeatObeys (store : HoldStore) (attempt : HoldAttempt) (receipt : HoldReceipt)
    (mutation : Mutation) : Prop where
  unchanged : store.step sha256 isAware attempt = store
  same : mutation = receipt.mutation → ∃ current,
    store.perform sha256 isAware attempt = .ok (⟨receipt, current⟩, store)
  different : mutation ≠ receipt.mutation → store.perform sha256 isAware attempt =
    .error (.idempotencyConflict "hold operation id was already used for a different mutation")

end Contract

variable {sha256 : Sha256} {isAware : String → Bool} {keys : List HoldTarget}
  {history : List HoldReceipt} {operation : String} {mutation : Mutation} {result : HoldMutation}
  {after : HoldStore}

@[simp] theorem receipts_storeOf : (storeOf sha256 isAware keys history).receipts = history := by
  change (history.map HoldDatabase.rowOf).filterMap typedReceipt = history
  rw [List.filterMap_map]
  have typed : typedReceipt ∘ HoldDatabase.rowOf = some := funext typedReceipt_rowOf
  rw [typed, List.filterMap_some]

variable {attempt : HoldAttempt} {receipt : HoldReceipt} {target : HoldTarget}

theorem perform_eq_ok (keyed : Keyed isAware keys history) :
    (storeOf sha256 isAware keys history).perform sha256 isAware attempt = .ok (result, after) ↔
      ∃ operation mutation, attempt.request.mutation = .ok (operation, mutation) ∧
        Records sha256 isAware keys history operation mutation attempt.receiptId
          attempt.occurredAt result after := by
  unfold perform HoldRequest.mutation
  cases attempt.request with
  | set call => exact setHold_eq_ok keyed attempt.identity
  | release call => exact releaseHold_eq_ok keyed attempt.identity

theorem HoldRequest.resolved {request : HoldRequest}
    (known : request.mutation = .ok (operation, mutation)) : Resolved operation mutation := by
  cases request with
  | set call | release call => exact (HoldCall.resolve_eq_ok known).1

theorem perform_eq_conflict (keyed : Keyed isAware keys history)
    (known : attempt.request.mutation = .ok (operation, mutation))
    (found : receiptOf history operation = some receipt) (different : mutation ≠ receipt.mutation) :
    (storeOf sha256 isAware keys history).perform sha256 isAware attempt =
      .error (.idempotencyConflict "hold operation id was already used for a different mutation") := by
  have resolved := HoldRequest.resolved known
  have conflict : replay isAware (project sha256 (withKey keys mutation.target) history)
      operation mutation = .error (.idempotencyConflict
        "hold operation id was already used for a different mutation") := by
    rw [replay_project keyed.recorded, found]
    exact if_neg different
  unfold perform
  cases request : attempt.request with
  | set call =>
    rw [request] at known
    change call.mutation = _ at known
    unfold setHold
    simp only [known, Except.ok_bind, openLatch_storeOf keyed resolved.isKey, conflict]
    rfl
  | release call =>
    rw [request] at known
    change call.mutation = _ at known
    unfold releaseHold
    simp only [known, Except.ok_bind, openLatch_storeOf keyed resolved.isKey, conflict]
    rfl

theorem Records.storeOf (keyed : Keyed isAware keys history) (resolved : Resolved operation mutation)
    {receiptId occurredAt : String} (records : Records sha256 isAware keys history operation mutation
      receiptId occurredAt result after) :
    ∃ keys history, Keyed isAware keys history ∧ after = storeOf sha256 isAware keys history := by
  cases records with
  | replayed _ _ => exact ⟨keys, history, keyed, rfl⟩
  | appended _ isNext appends =>
    refine ⟨_, _, (keyed.withKey resolved.isKey).append ?_ appends, rfl⟩
    rw [isNext]
    exact mem_withKey keys mutation.target

theorem exists_storeOf_of_run {attempts : List HoldAttempt} {store : HoldStore}
    (run : Transition.Run (Transition.ofFunction (step sha256 isAware))
      (fresh sha256 isAware) attempts store) :
    ∃ keys history, Keyed isAware keys history ∧ store = storeOf sha256 isAware keys history := by
  refine @Transition.Run.invariant _ _ _ (fun store => ∃ keys history,
    Keyed isAware keys history ∧ store = storeOf sha256 isAware keys history) ?_ _ _ _ ?_ run
  · rintro source attempt target ⟨keys, history, keyed, rfl⟩ stepped
    rw [stepped]
    unfold step
    cases performed : (storeOf sha256 isAware keys history).perform sha256 isAware attempt with
    | error _ => exact ⟨keys, history, keyed, rfl⟩
    | ok found =>
      obtain ⟨operation, mutation, known, records⟩ := (perform_eq_ok keyed).mp performed
      exact records.storeOf keyed (HoldRequest.resolved known)
  · refine ⟨[], [], ⟨List.nodup_nil, ?_, ?_, .nil⟩, rfl⟩
    · intro target member
      cases member
    · intro receipt member
      cases member

theorem active_storeOf (keyed : Keyed isAware keys history) (isKey : target.IsKey) :
    (storeOf sha256 isAware keys history).Active isAware target ↔
      (stateOf history target).isSome = true := by
  unfold Active
  change (∃ latch, currentLatch isAware (project sha256 keys history) target = _) ↔ _
  rw [currentLatch_project keyed isKey, isSome_iff_exists]
  simp only [Except.ok.injEq]

theorem stateOf_isSome_iff : (stateOf history target).isSome = true ↔ ∃ receipt,
      (appliedAt history target).getLast? = some receipt ∧ receipt.action = .hold := by
  unfold stateOf
  rw [isSome_map, isSome_iff_exists]
  unfold current
  simp only [filter_eq_some_iff, decide_eq_true_eq]

theorem names_of_stateOf {state : HoldState} (told : stateOf history target = some state)
    (last : (appliedAt history target).getLast? = some receipt) : state.Names receipt := by
  obtain ⟨held, isCurrent, rfl⟩ := map_eq_some_iff.mp told
  obtain ⟨isLast, _⟩ := filter_eq_some_iff.mp isCurrent
  rw [last] at isLast
  obtain rfl := Option.some.inj isLast
  exact ⟨rfl, rfl, rfl, rfl⟩

theorem latchesCompose_storeOf (keyed : Keyed isAware keys history) :
    LatchesCompose sha256 isAware (storeOf sha256 isAware keys history) where
  accepted := ⟨_, validate_project keyed⟩
  latch := by
    intro target isKey
    refine ⟨_, currentLatch_project keyed isKey, ?_, ?_⟩
    · rw [receipts_storeOf]
      exact stateOf_isSome_iff
    · rw [receipts_storeOf]
      exact fun state receipt => names_of_stateOf
  effective := by
    intro agentId agent named
    have required := (requiredText_eq_ok named).1
    obtain ⟨effective, read, held⟩ := getEffective_storeOf sha256 keyed named
    refine ⟨effective, read, held.trans ?_⟩
    rw [active_storeOf keyed isKey_host, active_storeOf keyed
      ⟨required, fun other => (by cases other), fun other => by cases other⟩]
    refine or_congr_right (or_congr_right ?_)
    refine exists_congr fun holder => exists_congr fun key => and_congr_right fun keyedBy => ?_
    refine (active_storeOf keyed ?_).symm
    obtain ⟨target, owner, required, required', distinct, _, _, rfl⟩ :=
      mandateLatchKey_eq_ok keyedBy
    exact ⟨isRequired_encodePair _ _, fun other => (by cases other), fun _ =>
      ⟨_, parseMandateLatchKey_eq_ok.mpr ⟨required, required', distinct, rfl⟩⟩⟩

theorem stateOf_concat_of_ne (other : receipt.target ≠ target) :
    stateOf (history ++ [receipt]) target = stateOf history target := by
  unfold stateOf
  rw [current_concat_of_ne history other, appliedAt_concat_of_ne history other]

theorem door_of_mandate {key subject holder : String}
    (door : validateDoorAuthority mutation.action mutation.scope mutation.targetId mutation.actorId
      mutation.authority = .ok ())
    (target : mutation.target = ⟨.mandate, key⟩)
    (parsed : parseMandateLatchKey key = .ok (subject, holder)) :
    mutation.authority = .mandate ∧ mutation.actorId = holder ∨
      mutation.authority = .sovereign ∧ mutation.action = .release := by
  obtain ⟨scope, same⟩ := HoldTarget.mk.inj target
  unfold validateDoorAuthority at door
  rw [scope, same, parsed] at door
  simp only [Except.ok_bind] at door
  cases authority : mutation.authority with
  | mandate =>
    rw [authority, if_pos rfl] at door
    refine .inl ⟨rfl, ?_⟩
    by_contra other
    unfold Except.require at door
    rw [if_neg other] at door
    cases door
  | sovereign =>
    rw [authority, if_neg (by decide)] at door
    refine .inr ⟨rfl, ?_⟩
    cases action : mutation.action with
    | release => rfl
    | hold =>
      rw [action] at door
      cases door

theorem callObeys_storeOf (keyed : Keyed isAware keys history)
    (known : attempt.request.mutation = .ok (operation, mutation))
    (records : Records sha256 isAware keys history operation mutation attempt.receiptId
      attempt.occurredAt result after) :
    CallObeys isAware (storeOf sha256 isAware keys history) mutation result after := by
  have resolved := HoldRequest.resolved known
  have read : ∀ target : HoldTarget, target.IsKey →
      currentLatch isAware (storeOf sha256 isAware keys history).database target =
        .ok (stateOf history target) := fun target => currentLatch_project keyed
  cases records with
  | replayed _ _ =>
    exact ⟨fun _ _ => ⟨.inl rfl, fun _ _ => rfl⟩, fun _ _ _ _ changed => absurd rfl changed⟩
  | appended unused isNext appends =>
    rename_i receipt
    have target : receipt.target = mutation.target := by rw [isNext, nextReceipt_target]
    have longer := (keyed.withKey resolved.isKey).append
      (target ▸ mem_withKey keys mutation.target) appends
    have readAfter : ∀ target : HoldTarget, target.IsKey →
        currentLatch isAware (storeOf sha256 isAware (withKey keys mutation.target)
          (history ++ [receipt])).database target =
          .ok (stateOf (history ++ [receipt]) target) := fun target => currentLatch_project longer
    refine ⟨?_, ?_⟩
    · intro isRelease stale
      have refused : receipt.disposition ≠ .applied := by
        intro applied
        have disposition : (releaseDisposition (stateOf history mutation.target)
            mutation.expectedHoldReceiptId).1 = .applied := by
          rw [isNext] at applied
          change (dispositionOf history mutation attempt.receiptId).1 = _ at applied
          unfold dispositionOf at applied
          rw [isRelease] at applied
          exact applied
        obtain ⟨held, isCurrent, same⟩ := releaseDisposition_applied disposition
        have latched := read _ resolved.isKey
        rw [stateOf_of_current isCurrent] at latched
        exact stale _ latched same
      refine ⟨.inr ?_, ?_⟩
      · rw [receipts_storeOf, receipts_storeOf]
      · intro key isKey
        rw [read key isKey, readAfter key isKey, stateOf_concat_refused refused]
    · intro key subject holder parsed changed
      have isKey : (HoldTarget.mk .mandate key).IsKey := by
        obtain ⟨_, _, _, rfl⟩ := parseMandateLatchKey_eq_ok.mp parsed
        exact ⟨isRequired_encodePair _ _, fun other => (by cases other), fun _ => ⟨_, parsed⟩⟩
      have own : mutation.target = ⟨.mandate, key⟩ := by
        by_contra other
        rw [← target] at other
        apply changed
        rw [read _ isKey, readAfter _ isKey, stateOf_concat_of_ne other]
      exact ⟨own, door_of_mandate resolved.door own parsed⟩

theorem repeatObeys_storeOf (keyed : Keyed isAware keys history) (stored : receipt ∈ history)
    (known : attempt.request.mutation = .ok (receipt.operationId, mutation)) :
    RepeatObeys sha256 isAware (storeOf sha256 isAware keys history) attempt receipt mutation := by
  have found := receiptOf_of_mem keyed.recorded stored
  have same : mutation = receipt.mutation →
      (storeOf sha256 isAware keys history).perform sha256 isAware attempt =
        .ok (⟨receipt, stateOf history mutation.target⟩, storeOf sha256 isAware keys history) :=
    fun same => (perform_eq_ok keyed).mpr ⟨_, _, known, .replayed found same⟩
  have different : mutation ≠ receipt.mutation →
      (storeOf sha256 isAware keys history).perform sha256 isAware attempt =
        .error (.idempotencyConflict
          "hold operation id was already used for a different mutation") :=
    perform_eq_conflict keyed known found
  refine ⟨?_, fun equal => ⟨_, same equal⟩, different⟩
  unfold step
  by_cases equal : mutation = receipt.mutation
  · rw [same equal]
  · rw [different equal]

/-- An instant in UTC, and nothing else. -/
def isNoon (text : String) : Bool := text = "2026-01-01T12:00:00+00:00"

def firstHold : HoldAttempt where
  request := .set
    { scope := .host
      actorId := "sovereign"
      reason := "maintenance"
      operationId := "op-1"
      authority := .sovereign
      targetId := none
      holderId := none }
  receiptId := "9f0c"
  occurredAt := "2026-01-01T12:00:00+00:00"
  identity := by decide +kernel

def staleRelease : HoldAttempt where
  request := .release
    { scope := .host
      actorId := "sovereign"
      reason := "done"
      operationId := "op-2"
      authority := .sovereign
      targetId := none
      holderId := none
      expectedHoldReceiptId := "1111" }
  receiptId := "a7d2"
  occurredAt := "2026-01-01T12:00:00+00:00"
  identity := by decide +kernel

def firstMutation : Mutation :=
  ⟨.hold, .host, hostHoldTarget, "maintenance", "sovereign", "", .sovereign⟩

def firstReceipt : HoldReceipt :=
  nextReceipt [] "op-1" firstMutation firstHold.receiptId firstHold.occurredAt

def staleMutation : Mutation :=
  ⟨.release, .host, hostHoldTarget, "done", "sovereign", "1111", .sovereign⟩

def staleReceipt : HoldReceipt :=
  nextReceipt [firstReceipt] "op-2" staleMutation staleRelease.receiptId staleRelease.occurredAt

end Kestrel.Hold
