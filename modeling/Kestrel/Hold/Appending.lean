import Kestrel.Hold.OpenLatch

/-!
# Mutations of a history's database

A call with a new operation appends one receipt, and the rows that it updates are the rows of the
longer history.
-/

namespace Kestrel.Hold

open List Except HoldDatabase

variable {sha256 : Sha256} {isAware : String → Bool} {keys : List HoldTarget}
  {history : List HoldReceipt} {receipt : HoldReceipt} {target : HoldTarget}

def inserted (sha256 : Sha256) (keys : List HoldTarget) (history : List HoldReceipt)
    (receipt : HoldReceipt) : HoldDatabase :=
  { project sha256 keys (history ++ [receipt]) with latches := keys.map (latchRowOf history) }

theorem insertReceipt_project {database : HoldDatabase} :
    (project sha256 keys history).insertReceipt sha256 isAware receipt = .ok database ↔
      receipt.receiptId ∉ history.map HoldReceipt.receiptId ∧
        receipt.operationId ∉ history.map HoldReceipt.operationId ∧
        checkReceipt isAware receipt = .ok () ∧ database = inserted sha256 keys history receipt := by
  have counts : ((project sha256 keys history).receiptWitnesses.map fun row =>
      if atTarget receipt.target row.scope row.targetId then
        { row with receiptCount := row.receiptCount + 1 }
      else row) = keys.map (countRowOf (history ++ [receipt])) := by
    change (keys.map (countRowOf history)).map _ = _
    rw [map_map]
    apply map_congr_left
    intro key _
    by_cases same : key = receipt.target
    · subst same
      change (if atTarget receipt.target receipt.target.scope.value receipt.target.targetId then _
        else _) = _
      rw [if_pos (atTarget_iff.mpr rfl)]
      unfold countRowOf
      rw [receiptsAt_concat_self, length_append]
      rfl
    · change (if atTarget receipt.target key.scope.value key.targetId then _ else _) = _
      rw [if_neg (fun selected => same (atTarget_iff.mp selected))]
      unfold countRowOf
      rw [receiptsAt_concat_of_ne history (Ne.symm same)]
  have result : { project sha256 keys history with
      receipts := (project sha256 keys history).receipts ++ [rowOf receipt]
      operationWitnesses := (project sha256 keys history).operationWitnesses ++
        [⟨receipt.operationId, receipt.receiptId⟩]
      contentWitnesses := (project sha256 keys history).contentWitnesses ++
        [⟨receipt.receiptId, receipt.scope.value, receipt.targetId,
          receiptContentDigest sha256 (rowOf receipt) receipt⟩]
      receiptWitnesses := (project sha256 keys history).receiptWitnesses.map fun row =>
        if atTarget receipt.target row.scope row.targetId then
          { row with receiptCount := row.receiptCount + 1 }
        else row } = inserted sha256 keys history receipt := by
    rw [counts]
    simp only [inserted, project, map_append, map_cons, map_nil, operationRowOf, contentRowOf]
  constructor
  · intro succeeded
    obtain ⟨unique, succeeded⟩ := require_bind_eq_ok.mp succeeded
    obtain ⟨stored, read, succeeded⟩ := bind_eq_ok.mp succeeded
    unfold receiptFromRow at read
    rw [typedReceipt_rowOf] at read
    obtain ⟨_, checked, same⟩ := bind_eq_ok.mp read
    obtain rfl := ok.inj same
    obtain ⟨_, succeeded⟩ := require_bind_eq_ok.mp succeeded
    obtain ⟨_, succeeded⟩ := require_bind_eq_ok.mp succeeded
    refine ⟨?_, ?_, checked, (ok.inj succeeded).symm.trans result⟩
    · intro member
      obtain ⟨old, stored, same⟩ := mem_map.mp member
      exact (unique _ (mem_map_of_mem stored)).1 same
    · intro member
      obtain ⟨old, stored, same⟩ := mem_map.mp member
      exact (unique _ (mem_map_of_mem stored)).2 same
  · rintro ⟨newReceipt, newOperation, checked, rfl⟩
    have identity : ∀ old ∈ history, old.receiptId ≠ receipt.receiptId := fun old stored same =>
      newReceipt (same ▸ mem_map_of_mem stored)
    have operation : ∀ old ∈ history, old.operationId ≠ receipt.operationId :=
      fun old stored same => newOperation (same ▸ mem_map_of_mem stored)
    refine require_bind_eq_ok.mpr ⟨?_, ?_⟩
    · intro row member
      obtain ⟨old, stored, rfl⟩ := mem_map.mp member
      exact ⟨identity old stored, operation old stored⟩
    refine bind_eq_ok.mpr ⟨receipt, receiptFromRow_rowOf checked, ?_⟩
    refine require_bind_eq_ok.mpr ⟨?_, ?_⟩
    · intro row member
      obtain ⟨old, stored, rfl⟩ := mem_map.mp member
      exact ⟨operation old stored, identity old stored⟩
    refine require_bind_eq_ok.mpr ⟨?_, congrArg Except.ok result⟩
    intro row member
    obtain ⟨old, stored, rfl⟩ := mem_map.mp member
    exact identity old stored

theorem latchRowOf_concat_of_ne (other : receipt.target ≠ target) :
    latchRowOf (history ++ [receipt]) target = latchRowOf history target := by
  unfold latchRowOf
  rw [current_concat_of_ne history other, appliedAt_concat_of_ne history other]

theorem inserted_refused (refused : receipt.disposition ≠ .applied) :
    inserted sha256 keys history receipt = project sha256 keys (history ++ [receipt]) := by
  have rows : keys.map (latchRowOf history) = keys.map (latchRowOf (history ++ [receipt])) := by
    apply map_congr_left
    intro key _
    unfold latchRowOf
    rw [current_concat_refused history refused, appliedAt_concat_refused history refused]
  unfold inserted
  rw [rows]
  rfl

theorem latch_inserted (applied : receipt.disposition = .applied) (hold : receipt.action = .hold) :
    (inserted sha256 keys history receipt).latch receipt =
      project sha256 keys (history ++ [receipt]) := by
  have rows : ((keys.map (latchRowOf history)).map fun row =>
      if atTarget receipt.target row.scope row.targetId then
        { row with
          active := 1
          holdReceiptId := receipt.receiptId
          reason := receipt.reason
          actorId := receipt.actorId
          setAt := receipt.occurredAt
          revision := row.revision + 1 }
      else row) = keys.map (latchRowOf (history ++ [receipt])) := by
    rw [map_map]
    apply map_congr_left
    intro key _
    simp only [Function.comp, latchRowOf_scope, latchRowOf_targetId, latchRowOf_revision]
    by_cases same : key = receipt.target
    · subst same
      rw [if_pos (atTarget_iff.mpr rfl)]
      unfold latchRowOf
      simp only [current_concat_applied history applied, if_pos hold,
        appliedAt_concat_applied history applied, length_append]
      rfl
    · rw [if_neg (fun selected => same (atTarget_iff.mp selected)),
        latchRowOf_concat_of_ne (Ne.symm same)]
  unfold latch inserted
  simp only [rows]
  rfl

theorem unlatch_inserted {held : HoldReceipt} (applied : receipt.disposition = .applied)
    (release : receipt.action = .release) (isCurrent : current history receipt.target = some held) :
    (inserted sha256 keys history receipt).unlatch receipt.target held.receiptId =
      project sha256 keys (history ++ [receipt]) := by
  have rows : ((keys.map (latchRowOf history)).map fun row =>
      if atTarget receipt.target row.scope row.targetId ∧ row.active = 1 ∧
          row.holdReceiptId = held.receiptId then
        { row with
          active := 0
          holdReceiptId := ""
          reason := ""
          actorId := ""
          setAt := ""
          revision := row.revision + 1 }
      else row) = keys.map (latchRowOf (history ++ [receipt])) := by
    rw [map_map]
    apply map_congr_left
    intro key _
    simp only [Function.comp, latchRowOf_scope, latchRowOf_targetId, latchRowOf_revision]
    by_cases same : key = receipt.target
    · subst same
      have row : latchRowOf history receipt.target =
          ⟨receipt.target.scope.value, receipt.target.targetId, 1, held.receiptId, held.reason,
            held.actorId, held.occurredAt, (appliedAt history receipt.target).length⟩ := by
        unfold latchRowOf
        rw [isCurrent]
      have notHold : receipt.action ≠ .hold := by
        rw [release]
        decide
      rw [row, if_pos ⟨atTarget_iff.mpr rfl, rfl, rfl⟩]
      unfold latchRowOf
      simp only [current_concat_applied history applied, if_neg notHold,
        appliedAt_concat_applied history applied, length_append]
      rfl
    · rw [if_neg (fun selected => same (atTarget_iff.mp selected.1)),
        latchRowOf_concat_of_ne (Ne.symm same)]
  unfold unlatch inserted
  simp only [rows]
  rfl

end Kestrel.Hold
