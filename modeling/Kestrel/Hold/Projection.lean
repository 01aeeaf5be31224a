import Kestrel.Hold.History
import Kestrel.Hold.Store

/-!
# The database of a history

The rows that a recorded history leaves behind, which the validator accepts.
-/

namespace Kestrel.Hold

open List Except HoldScope HoldDatabase

/-- The latch that a history tells. -/
def stateOf (history : List HoldReceipt) (target : HoldTarget) : Option HoldState :=
  (current history target).map fun receipt =>
    ⟨target.scope, target.targetId, receipt.reason, receipt.actorId, receipt.occurredAt,
      receipt.receiptId, (appliedAt history target).length⟩

def latchRowOf (history : List HoldReceipt) (target : HoldTarget) : LatchRow :=
  match current history target with
  | none =>
    ⟨target.scope.value, target.targetId, 0, "", "", "", "", (appliedAt history target).length⟩
  | some receipt =>
    ⟨target.scope.value, target.targetId, 1, receipt.receiptId, receipt.reason, receipt.actorId,
      receipt.occurredAt, (appliedAt history target).length⟩

def countRowOf (history : List HoldReceipt) (target : HoldTarget) : CountRow :=
  ⟨target.scope.value, target.targetId, (receiptsAt history target).length⟩

def contentRowOf (sha256 : Sha256) (receipt : HoldReceipt) : ContentRow :=
  ⟨receipt.receiptId, receipt.scope.value, receipt.targetId,
    receiptContentDigest sha256 (HoldDatabase.rowOf receipt) receipt⟩

def operationRowOf (receipt : HoldReceipt) : OperationRow :=
  ⟨receipt.operationId, receipt.receiptId⟩

def project (sha256 : Sha256) (keys : List HoldTarget) (history : List HoldReceipt) :
    HoldDatabase where
  latches := keys.map (latchRowOf history)
  receipts := history.map HoldDatabase.rowOf
  receiptWitnesses := keys.map (countRowOf history)
  contentWitnesses := history.map (contentRowOf sha256)
  operationWitnesses := history.map operationRowOf
  migrations := HoldDatabase.initialized.migrations

structure Keyed (isAware : String → Bool) (keys : List HoldTarget) (history : List HoldReceipt) :
    Prop where
  nodup : keys.Nodup
  isKey : ∀ target ∈ keys, target.IsKey
  covered : ∀ receipt ∈ history, receipt.target ∈ keys
  recorded : Recorded isAware history

theorem atTarget_iff {target other : HoldTarget} :
    atTarget target other.scope.value other.targetId = true ↔ other = target := by
  obtain ⟨scope, targetId⟩ := target
  unfold atTarget
  rw [decide_eq_true_iff, HoldTarget.mk.injEq]
  constructor
  · rintro ⟨same, rfl⟩
    exact ⟨value_injective same, rfl⟩
  · rintro ⟨rfl, rfl⟩
    exact ⟨rfl, rfl⟩

theorem snapshotTarget_of_isKey {target : HoldTarget} (isKey : target.IsKey) (label : String) :
    snapshotTarget target.scope.value target.targetId label = .ok target := by
  unfold snapshotTarget
  rw [ofValue_value]
  refine require_bind_eq_ok.mpr ⟨isKey.1.1, ?_⟩
  refine require_bind_eq_ok.mpr ⟨isKey.1.2.symm, ?_⟩
  exact bind_eq_ok.mpr ⟨(), assertScopeKey_of_isKey isKey label, rfl⟩

theorem filter_atTarget {Row : Type} (keys : List HoldTarget) (nodup : keys.Nodup)
    (row : HoldTarget → Row) (scope targetId : Row → String)
    (sameScope : ∀ key, scope (row key) = key.scope.value)
    (sameId : ∀ key, targetId (row key) = key.targetId) (target : HoldTarget) :
    (keys.map row).filter (fun stored => atTarget target (scope stored) (targetId stored)) =
      if target ∈ keys then [row target] else [] := by
  induction keys with
  | nil => rfl
  | cons key keys ih =>
    rw [nodup_cons] at nodup
    have selected : atTarget target (scope (row key)) (targetId (row key)) =
        decide (key = target) := by
      rw [sameScope, sameId, Bool.eq_iff_iff, decide_eq_true_iff]
      exact atTarget_iff
    rw [map_cons, filter_cons, selected, ih nodup.2]
    by_cases same : key = target
    · subst same
      simp [nodup.1]
    · simp [same, Ne.symm same]

section Rows

variable {sha256 : Sha256} {isAware : String → Bool} {history : List HoldReceipt}
  {receipt : HoldReceipt} {target : HoldTarget}

@[simp] theorem typedReceipt_rowOf (receipt : HoldReceipt) :
    typedReceipt (rowOf receipt) = some receipt := by
  unfold typedReceipt rowOf
  simp only [HoldAction.ofValue_value, HoldDisposition.ofValue_value, ofValue_value,
    Option.getD_some, HoldAuthority.ofValue_value]
  rfl

theorem receiptFromRow_rowOf (checked : checkReceipt isAware receipt = .ok ()) :
    receiptFromRow isAware (rowOf receipt) = .ok receipt := by
  unfold receiptFromRow
  rw [typedReceipt_rowOf]
  exact bind_eq_ok.mpr ⟨(), checked, rfl⟩

theorem mapM_receiptFromRow {receipts : List HoldReceipt}
    (checked : ∀ receipt ∈ receipts, checkReceipt isAware receipt = .ok ()) :
    (receipts.map rowOf).mapM (receiptFromRow isAware) = .ok receipts := by
  rw [mapM_eq_ok, forall₂_map_left_iff, forall₂_same]
  exact fun receipt member => receiptFromRow_rowOf (checked receipt member)

theorem evidence_of_checked (checked : checkReceipt isAware receipt = .ok ()) :
    [receipt.receiptId, receipt.reason, receipt.actorId, receipt.occurredAt].any Text.isBlank =
        false ∧ isAware receipt.occurredAt = true := by
  unfold checkReceipt at checked
  obtain ⟨filled, checked⟩ := require_bind_eq_ok.mp checked
  obtain ⟨aware, _⟩ := require_bind_eq_ok.mp checked
  refine ⟨?_, aware⟩
  simp only [any_cons, any_nil, Bool.or_false, Bool.or_eq_false_iff] at filled ⊢
  exact ⟨filled.1, filled.2.2.2.1, filled.2.2.2.2⟩

theorem latchFromRow_latchRowOf (isKey : target.IsKey)
    (checked : ∀ receipt ∈ history, checkReceipt isAware receipt = .ok ()) :
    latchFromRow isAware (latchRowOf history target) = .ok (stateOf history target) := by
  unfold latchFromRow latchRowOf stateOf
  cases held : current history target with
  | none =>
    simp only [ofValue_value]
    refine require_bind_eq_ok.mpr ⟨.inl trivial, ?_⟩
    refine bind_eq_ok.mpr ⟨_, require_bind_eq_ok.mpr ⟨Int.natCast_nonneg _, rfl⟩, ?_⟩
    refine require_bind_eq_ok.mpr ⟨isKey.1.1, ?_⟩
    refine require_bind_eq_ok.mpr ⟨isKey.2.1, ?_⟩
    exact bind_eq_ok.mpr ⟨(), assertScopeKey_of_isKey isKey _, rfl⟩
  | some receipt =>
    have stored := (mem_filter.mp (mem_receiptsAt_of_current held)).1
    obtain ⟨filled, aware⟩ := evidence_of_checked (checked receipt stored)
    simp only [ofValue_value]
    refine require_bind_eq_ok.mpr ⟨.inr trivial, ?_⟩
    refine bind_eq_ok.mpr ⟨_, require_bind_eq_ok.mpr ⟨Int.natCast_nonneg _, rfl⟩, ?_⟩
    refine require_bind_eq_ok.mpr ⟨isKey.1.1, ?_⟩
    refine require_bind_eq_ok.mpr ⟨isKey.2.1, ?_⟩
    refine bind_eq_ok.mpr ⟨(), assertScopeKey_of_isKey isKey _, ?_⟩
    refine require_bind_eq_ok.mpr ⟨filled, ?_⟩
    exact require_bind_eq_ok.mpr ⟨aware, rfl⟩

theorem latchRowOf_scope (history : List HoldReceipt) (target : HoldTarget) :
    (latchRowOf history target).scope = target.scope.value := by
  unfold latchRowOf
  cases current history target <;> rfl

theorem latchRowOf_targetId (history : List HoldReceipt) (target : HoldTarget) :
    (latchRowOf history target).targetId = target.targetId := by
  unfold latchRowOf
  cases current history target <;> rfl

theorem latchRowOf_revision (history : List HoldReceipt) (target : HoldTarget) :
    (latchRowOf history target).revision = (appliedAt history target).length := by
  unfold latchRowOf
  cases current history target <;> rfl

theorem filter_receipts (history : List HoldReceipt) (target : HoldTarget) :
    (history.map rowOf).filter (fun row => atTarget target row.scope row.targetId) =
      (receiptsAt history target).map rowOf := by
  rw [filter_map]
  congr 1
  apply filter_congr
  intro receipt _
  rw [Bool.eq_iff_iff, decide_eq_true_iff]
  exact @atTarget_iff target receipt.target

theorem filter_contents (history : List HoldReceipt) (target : HoldTarget) :
    (history.map (contentRowOf sha256)).filter (fun row => atTarget target row.scope row.targetId) =
      (receiptsAt history target).map (contentRowOf sha256) := by
  rw [filter_map]
  congr 1
  apply filter_congr
  intro receipt _
  rw [Bool.eq_iff_iff, decide_eq_true_iff]
  exact @atTarget_iff target receipt.target

end Rows

end Kestrel.Hold
