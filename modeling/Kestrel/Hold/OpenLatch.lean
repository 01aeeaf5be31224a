import Kestrel.Hold.Acceptance

/-!
# The checks of a call on a history's database

What every call reads before it mutates: the key's rows, its proven latch, the whole history against
the published head, and the receipt of its operation.
-/

namespace Kestrel.Hold

open List Except HoldDatabase HoldStore

variable {sha256 : Sha256} {isAware : String → Bool} {keys : List HoldTarget}
  {history : List HoldReceipt} {target : HoldTarget}

/-- The keys with rows, once a call names one. -/
def withKey (keys : List HoldTarget) (target : HoldTarget) : List HoldTarget :=
  if target ∈ keys then keys else keys ++ [target]

theorem mem_withKey (keys : List HoldTarget) (target : HoldTarget) : target ∈ withKey keys target := by
  unfold withKey
  by_cases member : target ∈ keys <;> simp [member]

theorem withKey_of_mem (member : target ∈ keys) : withKey keys target = keys := if_pos member

theorem Keyed.withKey (keyed : Keyed isAware keys history) (isKey : target.IsKey) :
    Keyed isAware (withKey keys target) history := by
  by_cases member : target ∈ keys
  · rw [withKey_of_mem member]
    exact keyed
  have appended : Hold.withKey keys target = keys ++ [target] := if_neg member
  rw [appended]
  refine ⟨?_, ?_, ?_, keyed.recorded⟩
  · refine nodup_append.mpr ⟨keyed.nodup, nodup_singleton _, ?_⟩
    intro key known other single same
    rw [same, mem_singleton.mp single] at known
    exact member known
  · intro key known
    rcases mem_append.mp known with before | new
    · exact keyed.isKey key before
    · rw [mem_singleton.mp new]
      exact isKey
  · intro receipt stored
    exact mem_append_left _ (keyed.covered receipt stored)

theorem latchRowOf_of_receiptsAt_eq_nil (empty : receiptsAt history target = []) :
    latchRowOf history target = ⟨target.scope.value, target.targetId, 0, "", "", "", "", 0⟩ := by
  unfold latchRowOf current appliedAt
  rw [empty]
  rfl

variable {Row : Type} {receipt : HoldReceipt}

theorem any_atTarget (row : HoldTarget → Row) (scope targetId : Row → String)
    (sameScope : ∀ key, scope (row key) = key.scope.value)
    (sameId : ∀ key, targetId (row key) = key.targetId) (keys : List HoldTarget)
    (target : HoldTarget) :
    ((keys.map row).any fun stored => atTarget target (scope stored) (targetId stored)) =
      decide (target ∈ keys) := by
  rw [Bool.eq_iff_iff, any_eq_true, decide_eq_true_iff]
  constructor
  · intro found
    obtain ⟨stored, member, selected⟩ := found
    obtain ⟨key, known, rfl⟩ := mem_map.mp member
    rw [sameScope, sameId, atTarget_iff] at selected
    exact selected ▸ known
  · intro known
    refine ⟨row target, mem_map_of_mem known, ?_⟩
    rw [sameScope, sameId, atTarget_iff]

theorem ensureLatchRow_project (keyed : Keyed isAware keys history) (target : HoldTarget) :
    (project sha256 keys history).ensureLatchRow target =
      project sha256 (withKey keys target) history := by
  unfold ensureLatchRow
  have latches := any_atTarget (latchRowOf history) LatchRow.scope LatchRow.targetId
    (latchRowOf_scope history) (latchRowOf_targetId history) keys target
  have counts := any_atTarget (countRowOf history) CountRow.scope CountRow.targetId
    (fun _ => rfl) (fun _ => rfl) keys target
  simp only [project, latches, counts]
  by_cases member : target ∈ keys
  · rw [withKey_of_mem member]
    simp [member, decide_true]
  · have empty := keyed.receiptsAt_eq_nil member
    have appended : withKey keys target = keys ++ [target] := if_neg member
    have count : countRowOf history target = ⟨target.scope.value, target.targetId, 0⟩ := by
      unfold countRowOf
      rw [empty]
      rfl
    rw [appended, map_append, map_append]
    simp [member, decide_false, Bool.false_eq_true, map_cons, map_nil,
      latchRowOf_of_receiptsAt_eq_nil empty, count]

theorem readLatchRow_project (keyed : Keyed isAware keys history) (target : HoldTarget) :
    (project sha256 keys history).readLatchRow target =
      .ok (if target ∈ keys then some (latchRowOf history target) else none) := by
  unfold readLatchRow
  have rows := filter_atTarget keys keyed.nodup (latchRowOf history) LatchRow.scope
    LatchRow.targetId (latchRowOf_scope history) (latchRowOf_targetId history) target
  simp only [project, rows]
  by_cases member : target ∈ keys <;> simp [member]

theorem stateOf_eq_none_of_notMem (keyed : Keyed isAware keys history) (unknown : target ∉ keys) :
    stateOf history target = none := by
  unfold stateOf current appliedAt
  rw [keyed.receiptsAt_eq_nil unknown]
  rfl

theorem currentLatch_project (keyed : Keyed isAware keys history) (isKey : target.IsKey) :
    currentLatch isAware (project sha256 keys history) target =
      .ok (stateOf history target) := by
  unfold currentLatch
  refine bind_eq_ok.mpr ⟨_, readLatchRow_project keyed target, ?_⟩
  by_cases member : target ∈ keys
  · rw [if_pos member]
    exact latchFromRow_latchRowOf isKey keyed.checked
  · rw [if_neg member, stateOf_eq_none_of_notMem keyed member]
    rfl

theorem assertHostLatchShape_project (keyed : Keyed isAware keys history) :
    (project sha256 keys history).assertHostLatchShape = .ok () := by
  refine if_pos ⟨?_, ?_⟩
  · intro row member
    obtain ⟨key, known, rfl⟩ := mem_map.mp member
    rw [latchRowOf_scope, latchRowOf_targetId]
    intro host
    exact (keyed.isKey key known).2.1 (HoldScope.value_injective host)
  · intro row member
    obtain ⟨receipt, stored, rfl⟩ := mem_map.mp member
    intro host
    exact (keyed.recorded.checked receipt stored).2.1.2.1 (HoldScope.value_injective host)

theorem validateLatchProjection_project (keyed : Keyed isAware keys history)
    (isKey : target.IsKey) :
    (project sha256 keys history).validateLatchProjection sha256 isAware
      (stateOf history target) target = .ok () := by
  -- The authority of the latch is a receipt of the key itself.
  have own : ∀ latch, stateOf history target = some latch →
      (project sha256 keys history).receipts.any (fun row =>
        decide (atTarget target row.scope row.targetId = true ∧
          row.receiptId = latch.holdReceiptId)) = true := by
    intro latch told
    obtain ⟨receipt, held, rfl⟩ := Option.map_eq_some_iff.mp told
    obtain ⟨stored, same⟩ := mem_of_mem_receiptsAt (mem_receiptsAt_of_current held)
    apply any_eq_true.mpr
    refine ⟨rowOf receipt, mem_map_of_mem stored, decide_eq_true ⟨?_, rfl⟩⟩
    exact (@atTarget_iff target receipt.target).mpr same
  unfold validateLatchProjection
  have foreign : (stateOf history target).bind (fun latch =>
      if (project sha256 keys history).receipts.any (fun row =>
          decide (atTarget target row.scope row.targetId = true ∧
            row.receiptId = latch.holdReceiptId)) then none
      else (project sha256 keys history).readReceiptById latch.holdReceiptId) = none := by
    cases told : stateOf history target with
    | none => rfl
    | some latch => exact if_pos (own latch told)
  simp only [foreign]
  refine bind_eq_ok.mpr ⟨(), rfl, ?_⟩
  refine bind_eq_ok.mpr ⟨_, validateTarget_project keyed isKey _, ?_⟩
  exact if_pos rfl

theorem filter_eq_singleton_of_nodup {Key : Type} [DecidableEq Key] {key : Row → Key}
    {rows : List Row} (nodup : (rows.map key).Nodup) {row : Row} (member : row ∈ rows) :
    rows.filter (fun other => key other = key row) = [row] := by
  induction rows with
  | nil => cases member
  | cons first rows ih =>
    rw [map_cons, nodup_cons] at nodup
    rw [filter_cons]
    rcases mem_cons.mp member with rfl | later
    · rw [if_pos (decide_eq_true rfl), filter_eq_nil_iff.mpr]
      intro other stored same
      exact nodup.1 (of_decide_eq_true same ▸ mem_map_of_mem stored)
    · have different : key first ≠ key row := fun same =>
        nodup.1 (same ▸ mem_map_of_mem later)
      rw [decide_eq_false different, if_neg Bool.false_ne_true, ih nodup.2 later]

def receiptOf (history : List HoldReceipt) (operationId : String) : Option HoldReceipt :=
  history.find? fun receipt => receipt.operationId = operationId

theorem receiptOf_eq_none {operationId : String} : receiptOf history operationId = none ↔
      operationId ∉ history.map HoldReceipt.operationId := by
  unfold receiptOf
  rw [find?_eq_none, mem_map]
  constructor
  · rintro unused ⟨receipt, stored, same⟩
    exact unused receipt stored (decide_eq_true same)
  · intro unused receipt stored same
    exact unused ⟨receipt, stored, of_decide_eq_true same⟩

theorem receiptOf_eq_some {operationId : String}
    (found : receiptOf history operationId = some receipt) :
    receipt ∈ history ∧ receipt.operationId = operationId := by
  unfold receiptOf at found
  have selected := find?_some found
  exact ⟨mem_of_find?_eq_some found, of_decide_eq_true selected⟩

theorem receiptOf_of_mem (recorded : Recorded isAware history) (stored : receipt ∈ history)
    : receiptOf history receipt.operationId = some receipt :=
  find?_eq_some_of_nodup recorded.operationIds stored

theorem filter_operation (recorded : Recorded isAware history) (row : HoldReceipt → Row)
    (operation : Row → String) (same : ∀ receipt, operation (row receipt) = receipt.operationId)
    (operationId : String) :
    (history.map row).filter (fun stored => operation stored = operationId) =
      ((receiptOf history operationId).map row).toList := by
  have rows : (history.map row).filter (fun stored => operation stored = operationId) =
      (history.filter fun receipt => receipt.operationId = operationId).map row := by
    rw [filter_map]
    congr 1
    apply filter_congr
    intro receipt _
    simp only [Function.comp, same]
  rw [rows]
  cases found : receiptOf history operationId with
  | none =>
    rw [filter_eq_nil_iff.mpr]
    · rfl
    · intro receipt stored selected
      exact receiptOf_eq_none.mp found (of_decide_eq_true selected ▸ mem_map_of_mem stored)
  | some receipt =>
    obtain ⟨stored, rfl⟩ := receiptOf_eq_some found
    rw [filter_eq_singleton_of_nodup recorded.operationIds stored]
    rfl

theorem validateOperationWitness_project (recorded : Recorded isAware history)
    (operationId : String) :
    (project sha256 keys history).validateOperationWitness operationId =
      .ok ((receiptOf history operationId).map rowOf) := by
  have witnesses := filter_operation recorded operationRowOf OperationRow.operationId
    (fun _ => rfl) operationId
  have rows := filter_operation recorded rowOf ReceiptRow.operationId (fun _ => rfl) operationId
  unfold validateOperationWitness readReceiptByOperation
  simp only [project, witnesses, rows]
  cases receiptOf history operationId with
  | none => rfl
  | some receipt =>
    refine require_bind_eq_ok.mpr ⟨Nat.le_refl 1, ?_⟩
    exact require_bind_eq_ok.mpr ⟨rfl, rfl⟩

theorem replay_project (recorded : Recorded isAware history) (operationId : String)
    (mutation : Mutation) :
    replay isAware (project sha256 keys history) operationId mutation =
      match receiptOf history operationId with
      | none => .ok none
      | some receipt =>
        if mutation = receipt.mutation then .ok (some receipt)
        else .error (.idempotencyConflict
          "hold operation id was already used for a different mutation") := by
  unfold replay
  rw [validateOperationWitness_project recorded]
  cases found : receiptOf history operationId with
  | none => rfl
  | some receipt =>
    have checked := (recorded.checked receipt (receiptOf_eq_some found).1).1
    by_cases same : mutation = receipt.mutation
    · simp only [if_pos same]
      refine bind_eq_ok.mpr ⟨some (rowOf receipt), rfl, ?_⟩
      refine bind_eq_ok.mpr ⟨receipt, receiptFromRow_rowOf checked, ?_⟩
      exact require_bind_eq_ok.mpr ⟨same, rfl⟩
    · simp only [if_neg same]
      change (receiptFromRow isAware (rowOf receipt) >>= _) = _
      rw [receiptFromRow_rowOf checked]
      change (require (mutation = receipt.mutation) _ >>= _) = _
      unfold require
      rw [if_neg same]
      rfl

theorem exists_payload (sha256 : Sha256) (recorded : Recorded isAware history) :
    ∃ payload, ∀ keys, (project sha256 keys history).currentHistoryAnchorPayload sha256 isAware =
      .ok payload := by
  have stored : ∀ row ∈ (history.map rowOf).mergeSort
      (fun first second => first.receiptId ≤ second.receiptId),
      ∃ receipt ∈ history, rowOf receipt = row := by
    intro row member
    rw [mem_mergeSort, mem_map] at member
    exact member
  have read : ∃ receipts, ((history.map rowOf).mergeSort
      (fun first second => first.receiptId ≤ second.receiptId)).mapM (receiptFromRow isAware) =
        .ok receipts := by
    apply exists_mapM_eq_ok
    intro row member
    obtain ⟨receipt, known, rfl⟩ := stored row member
    exact ⟨receipt, receiptFromRow_rowOf (recorded.checked receipt known).1⟩
  obtain ⟨receipts, read⟩ := read
  have covered : ∀ row ∈ (history.map rowOf).mergeSort
      (fun first second => first.receiptId ≤ second.receiptId),
      row.authority.isSome = HistoryAnchorFormat.v3.hasAuthority := by
    intro row member
    obtain ⟨receipt, _, rfl⟩ := stored row member
    rfl
  have computed : ∃ payload, historyAnchorPayloadFromRows sha256 isAware
      ((history.map rowOf).mergeSort
        fun first second => first.receiptId ≤ second.receiptId) .v3 = .ok payload :=
    ⟨_, require_bind_eq_ok.mpr ⟨covered, bind_eq_ok.mpr ⟨receipts, read, rfl⟩⟩⟩
  obtain ⟨payload, computed⟩ := computed
  exact ⟨payload, fun _ => computed⟩

def storeOf (sha256 : Sha256) (isAware : String → Bool) (keys : List HoldTarget)
    (history : List HoldReceipt) : HoldStore where
  database := project sha256 keys history
  anchor := ((project sha256 keys history).currentHistoryAnchorPayload sha256 isAware).toOption

theorem publish_project (recorded : Recorded isAware history) (mutation : HoldMutation) :
    publish sha256 isAware (project sha256 keys history) mutation =
      .ok (mutation, storeOf sha256 isAware keys history) := by
  obtain ⟨payload, computed⟩ := exists_payload sha256 recorded
  unfold publish storeOf
  rw [computed]
  rfl

theorem assertGlobalHistoryIntact_storeOf (recorded : Recorded isAware history)
    (others : List HoldTarget) :
    (project sha256 others history).assertGlobalHistoryIntact sha256 isAware
      (storeOf sha256 isAware keys history).anchor = .ok () := by
  obtain ⟨payload, computed⟩ := exists_payload sha256 recorded
  refine require_bind_eq_ok.mpr ⟨?_, ?_⟩
  · change ((history.map operationRowOf).map OperationRow.operationId).Nodup
    rw [map_map]
    exact recorded.operationIds
  refine require_bind_eq_ok.mpr ⟨?_, ?_⟩
  · intro row member
    obtain ⟨receipt, stored, rfl⟩ := mem_map.mp member
    exact ⟨operationRowOf receipt, mem_map_of_mem stored, rfl⟩
  refine require_bind_eq_ok.mpr ⟨?_, ?_⟩
  · intro witness member
    obtain ⟨receipt, stored, rfl⟩ := mem_map.mp member
    exact ⟨rowOf receipt, mem_map_of_mem stored, rfl, rfl⟩
  unfold storeOf
  rw [computed]
  refine require_bind_eq_ok.mpr ⟨rfl, ?_⟩
  exact bind_eq_ok.mpr ⟨payload, computed others, if_pos rfl⟩

theorem openLatch_storeOf (keyed : Keyed isAware keys history) (isKey : target.IsKey) :
    (storeOf sha256 isAware keys history).openLatch sha256 isAware target =
      .ok (stateOf history target, project sha256 (withKey keys target) history) := by
  have extended := keyed.withKey isKey
  refine bind_eq_ok.mpr ⟨(), assertHostLatchShape_project keyed, ?_⟩
  change (do
    let row ← ((project sha256 keys history).ensureLatchRow target).readLatchRow target
    let prior ← row.elim (.ok none) (latchFromRow isAware)
    ((project sha256 keys history).ensureLatchRow target).validateLatchProjection sha256 isAware
      prior target
    ((project sha256 keys history).ensureLatchRow target).assertGlobalHistoryIntact sha256 isAware
      (storeOf sha256 isAware keys history).anchor
    .ok (prior, (project sha256 keys history).ensureLatchRow target)) = _
  rw [ensureLatchRow_project keyed]
  refine bind_eq_ok.mpr ⟨_, readLatchRow_project extended target, ?_⟩
  refine bind_eq_ok.mpr ⟨stateOf history target, ?_, ?_⟩
  · rw [if_pos (mem_withKey keys target)]
    exact latchFromRow_latchRowOf isKey keyed.checked
  refine bind_eq_ok.mpr ⟨(), validateLatchProjection_project extended isKey, ?_⟩
  exact bind_eq_ok.mpr ⟨(), assertGlobalHistoryIntact_storeOf keyed.recorded _, rfl⟩

theorem latchAuthority_project (keyed : Keyed isAware keys history)
    (held : current history target = some receipt) {latch : HoldState}
    (told : stateOf history target = some latch) :
    (project sha256 keys history).latchAuthority isAware latch = .ok receipt.authority := by
  unfold stateOf at told
  rw [held, Option.map_some] at told
  obtain rfl := Option.some.inj told
  have stored := (mem_of_mem_receiptsAt (mem_receiptsAt_of_current held)).1
  have found : (history.map rowOf).find?
      (fun row => row.receiptId = receipt.receiptId) = some (rowOf receipt) := by
    have nodup : ((history.map rowOf).map ReceiptRow.receiptId).Nodup := by
      rw [map_map]
      exact keyed.recorded.receiptIds
    exact find?_eq_some_of_nodup nodup (mem_map_of_mem stored)
  unfold latchAuthority readReceiptById
  simp only [project, found]
  rw [receiptFromRow_rowOf (keyed.checked receipt stored)]
  rfl

end Kestrel.Hold
