import Kestrel.Hold.Projection
import Mathlib.Data.List.Sort

/-!
# Validation of a history's database

The validator accepts the database of every recorded history and finds the latches that the
history tells.
-/

namespace Kestrel.Hold

open List Except Except HoldReceipt HoldDatabase

variable {sha256 : Sha256} {isAware : String → Bool} {keys : List HoldTarget}
  {history : List HoldReceipt} {target : HoldTarget}

theorem find?_eq_some_of_nodup {Row Key : Type} [DecidableEq Key] {key : Row → Key}
    {rows : List Row} (nodup : (rows.map key).Nodup) {row : Row} (member : row ∈ rows) :
    rows.find? (fun other => key other = key row) = some row := by
  cases found : rows.find? (fun other => key other = key row) with
  | none =>
    rw [find?_eq_none] at found
    exact absurd (decide_eq_true rfl) (found row member)
  | some other =>
    have selected := find?_some found
    have same := of_decide_eq_true selected
    rw [inj_on_of_nodup_map nodup (mem_of_find?_eq_some found) member same]

theorem mem_of_mem_receiptsAt {receipt : HoldReceipt} (member : receipt ∈ receiptsAt history target) :
    receipt ∈ history ∧ receipt.target = target := by
  obtain ⟨stored, same⟩ := mem_filter.mp member
  exact ⟨stored, of_decide_eq_true same⟩

theorem Keyed.checked (keyed : Keyed isAware keys history) :
    ∀ receipt ∈ history, checkReceipt isAware receipt = .ok () :=
  fun receipt member => (keyed.recorded.checked receipt member).1

theorem Keyed.receiptsAt_eq_nil (keyed : Keyed isAware keys history) (unknown : target ∉ keys) :
    receiptsAt history target = [] := by
  apply filter_eq_nil_iff.mpr
  intro receipt member same
  exact unknown (of_decide_eq_true same ▸ keyed.covered receipt member)

theorem Keyed.receiptIdsAt (keyed : Keyed isAware keys history) (target : HoldTarget) :
    ((receiptsAt history target).map receiptId).Nodup :=
  keyed.recorded.receiptIds.sublist (filter_sublist.map _)

theorem find?_latches (keyed : Keyed isAware keys history) (target : HoldTarget) :
    (project sha256 keys history).latches.find?
        (fun row => atTarget target row.scope row.targetId) =
      if target ∈ keys then some (latchRowOf history target) else none := by
  rw [← head?_filter]
  refine (congrArg head? (filter_atTarget keys keyed.nodup (latchRowOf history)
    LatchRow.scope LatchRow.targetId (latchRowOf_scope history) (latchRowOf_targetId history)
    target)).trans ?_
  by_cases member : target ∈ keys <;> simp [member]

theorem filter_counts (keyed : Keyed isAware keys history) (target : HoldTarget) :
    (project sha256 keys history).receiptWitnesses.filter
        (fun row => atTarget target row.scope row.targetId) =
      if target ∈ keys then [countRowOf history target] else [] :=
  filter_atTarget keys keyed.nodup (countRowOf history) CountRow.scope CountRow.targetId
    (fun _ => rfl) (fun _ => rfl) target

theorem contentWitnessesValid_project {receipts : List HoldReceipt}
    (nodup : (receipts.map receiptId).Nodup)
    (identities : ∀ receipt ∈ receipts, present receipt.receiptId = true) :
    contentWitnessesValid sha256 (receipts.map rowOf) receipts
      (receipts.map (contentRowOf sha256)) = true := by
  unfold contentWitnessesValid
  simp only [Bool.and_eq_true, all_eq_true, decide_eq_true_eq]
  refine ⟨⟨⟨?_, ?_⟩, ?_⟩, ?_⟩
  · intro witness member
    obtain ⟨receipt, stored, rfl⟩ := mem_map.mp member
    exact ⟨identities receipt stored, sha256.length_hexdigest _⟩
  · rw [map_map]
    exact nodup
  · intro witness member
    obtain ⟨receipt, stored, rfl⟩ := mem_map.mp member
    exact any_eq_true.mpr ⟨receipt, stored, decide_eq_true rfl⟩
  · intro pair member
    rw [← map_prod_right_eq_zip, mem_map] at member
    obtain ⟨receipt, stored, rfl⟩ := member
    apply any_eq_true.mpr
    refine ⟨contentRowOf sha256 receipt, mem_map_of_mem stored, ?_⟩
    rw [Bool.and_eq_true]
    exact ⟨decide_eq_true rfl, decide_eq_true rfl⟩

theorem checkLatch_stateOf (recorded : Recorded isAware history) {receipt : HoldReceipt}
    (held : current history target = some receipt) {latch : HoldState}
    (told : stateOf history target = some latch) (known : String → Bool) :
    checkLatch latch (authoritiesAt history target)
      ((current history target).map receiptId).toList known = .ok () := by
  unfold stateOf at told
  rw [held, Option.map_some] at told
  obtain rfl := Option.some.inj told
  have authority := current_mem held
  have stored := mem_of_mem_receiptsAt (mem_receiptsAt_of_current held)
  have nodup : ((authoritiesAt history target).map HoldReceipt.receiptId).Nodup :=
    recorded.receiptIds.sublist ((filter_sublist.trans (filter_sublist.trans filter_sublist)).map _)
  unfold checkLatch
  simp only [find?_eq_some_of_nodup nodup authority]
  refine require_bind_eq_ok.mpr ⟨?_, ?_⟩
  · rw [← stored.2]
    simp only [HoldReceipt.target, and_self]
  · rw [held]
    exact if_pos rfl

theorem witnessedReceipts_project (keyed : Keyed isAware keys history) (isKey : target.IsKey) :
    witnessedReceipts target (if target ∈ keys then some (latchRowOf history target) else none)
      (receiptsAt history target)
      (if target ∈ keys then [countRowOf history target] else []) =
        .ok ((receiptsAt history target).length : ℤ) := by
  by_cases member : target ∈ keys
  · rw [if_pos member, if_pos member]
    refine bind_eq_ok.mpr ⟨target, snapshotTarget_of_isKey isKey _, ?_⟩
    refine require_bind_eq_ok.mpr ⟨rfl, ?_⟩
    exact require_bind_eq_ok.mpr ⟨Int.natCast_nonneg _, rfl⟩
  · rw [if_neg member, if_neg member, keyed.receiptsAt_eq_nil member]
    rfl

/-- The validator finds the latch that the history tells. -/
theorem validateTarget_project (keyed : Keyed isAware keys history) (isKey : target.IsKey)
    (known : String → Bool) :
    (project sha256 keys history).validateTarget sha256 isAware target known =
      .ok (stateOf history target) := by
  have checkedAt : ∀ receipt ∈ receiptsAt history target, checkReceipt isAware receipt = .ok () :=
    fun receipt member => keyed.checked receipt (mem_of_mem_receiptsAt member).1
  unfold validateTarget validateSnapshotTarget
  rw [find?_latches keyed, filter_counts keyed]
  simp only [project, filter_receipts, filter_contents]
  -- The latch row, where the key has one.
  refine bind_eq_ok.mpr ⟨(), ?_, ?_⟩
  · by_cases member : target ∈ keys
    · rw [if_pos member]
      change (snapshotTarget _ _ _ >>= _) = _
      rw [latchRowOf_scope, latchRowOf_targetId, snapshotTarget_of_isKey isKey]
      exact if_pos rfl
    · rw [if_neg member]
      rfl
  refine bind_eq_ok.mpr ⟨stateOf history target, ?_, ?_⟩
  · by_cases member : target ∈ keys
    · rw [if_pos member]
      exact latchFromRow_latchRowOf isKey keyed.checked
    · rw [if_neg member]
      have unheld : current history target = none := by
        unfold current appliedAt
        rw [keyed.receiptsAt_eq_nil member]
        rfl
      unfold stateOf
      rw [unheld]
      rfl
  refine bind_eq_ok.mpr ⟨((appliedAt history target).length : ℤ), ?_, ?_⟩
  · by_cases member : target ∈ keys
    · rw [if_pos member, Option.elim_some, latchRowOf_revision]
      exact require_bind_eq_ok.mpr ⟨Int.natCast_nonneg _, rfl⟩
    · rw [if_neg member]
      unfold appliedAt
      rw [keyed.receiptsAt_eq_nil member]
      rfl
  -- The receipts and their witnesses.
  refine bind_eq_ok.mpr ⟨receiptsAt history target, mapM_receiptFromRow checkedAt, ?_⟩
  refine require_bind_eq_ok.mpr ⟨fun receipt member => (mem_of_mem_receiptsAt member).2, ?_⟩
  refine require_bind_eq_ok.mpr ⟨keyed.receiptIdsAt target, ?_⟩
  refine bind_eq_ok.mpr ⟨(), forM_eq_ok.mpr ?_, ?_⟩
  · intro witness member
    obtain ⟨receipt, stored, rfl⟩ := mem_map.mp member
    obtain ⟨_, rfl⟩ := mem_of_mem_receiptsAt stored
    refine bind_eq_ok.mpr ⟨receipt.target, snapshotTarget_of_isKey isKey _, ?_⟩
    exact if_pos rfl
  refine bind_eq_ok.mpr ⟨_, witnessedReceipts_project keyed isKey, ?_⟩
  refine bind_eq_ok.mpr ⟨_, (keyed.recorded.graph target).terminalAuthorities_eq, ?_⟩
  -- The latch against the open authorities.
  have open' : (stateOf history target).elim (require (((receiptsAt history target).length : ℤ) =
          (receiptsAt history target).length)
        (.corrupt "hold receipt-count revision does not match receipt history"))
      (fun latch => checkLatch latch (authoritiesAt history target)
        ((current history target).map receiptId).toList known) = .ok () := by
    cases held : current history target with
    | none =>
      unfold stateOf
      rw [held]
      exact if_pos rfl
    | some receipt =>
      cases told : stateOf history target with
      | none =>
        unfold stateOf at told
        rw [held] at told
        cases told
      | some latch =>
        rw [← held]
        exact checkLatch_stateOf keyed.recorded held told known
  refine bind_eq_ok.mpr ⟨(), open', ?_⟩
  refine bind_eq_ok.mpr ⟨(), ?_, ?_⟩
  · unfold stateOf
    cases current history target with
    | none => rfl
    | some receipt => exact if_pos rfl
  refine require_bind_eq_ok.mpr ⟨rfl, ?_⟩
  refine require_bind_eq_ok.mpr ⟨contentWitnessesValid_project (keyed.receiptIdsAt target) ?_, rfl⟩
  intro receipt member
  exact present_of_isCanonical
    (keyed.recorded.checked receipt (mem_of_mem_receiptsAt member).1).2.2.1

theorem snapshotLatches_project (keyed : Keyed isAware keys history) :
    snapshotLatches isAware (keys.map (latchRowOf history)) = .ok keys := by
  unfold snapshotLatches
  rw [List.foldlM_map]
  refine (foldlM_collects ?_).trans (congrArg Except.ok (List.map_id keys))
  intro before key after same
  have isKey : key.IsKey := keyed.isKey key (by rw [same]; exact List.mem_append_cons_self)
  have fresh : key ∉ before := by
    intro member
    have nodup := keyed.nodup
    rw [same] at nodup
    exact (nodup_append.mp nodup).2.2 key member key List.mem_cons_self rfl
  rw [List.map_id, List.map_id]
  refine bind_eq_ok.mpr ⟨key, ?_, ?_⟩
  · rw [latchRowOf_scope, latchRowOf_targetId]
    exact snapshotTarget_of_isKey isKey _
  refine require_bind_eq_ok.mpr ⟨fresh, ?_⟩
  exact bind_eq_ok.mpr ⟨_, latchFromRow_latchRowOf isKey keyed.checked, rfl⟩

theorem notMem_of_split {Row Key : Type} {key : Row → Key} {before after : List Row} {row : Row}
    (nodup : ((before ++ row :: after).map key).Nodup) : key row ∉ before.map key := by
  intro member
  rw [map_append, map_cons] at nodup
  exact (nodup_append.mp nodup).2.2 _ member _ mem_cons_self rfl

theorem snapshotReceipts_project (recorded : Recorded isAware history) :
    snapshotReceipts isAware (history.map HoldDatabase.rowOf) = .ok history := by
  unfold snapshotReceipts
  rw [foldlM_map]
  refine (foldlM_collects ?_).trans (congrArg Except.ok (map_id history))
  intro before receipt after same
  have stored : receipt ∈ history := by
    rw [same]
    exact mem_append_cons_self
  obtain ⟨checked, isKey, _, _⟩ := recorded.checked receipt stored
  rw [List.map_id, List.map_id]
  refine bind_eq_ok.mpr ⟨receipt, receiptFromRow_rowOf checked, ?_⟩
  refine bind_eq_ok.mpr ⟨receipt.target, snapshotTarget_of_isKey isKey _, ?_⟩
  refine require_bind_eq_ok.mpr ⟨notMem_of_split (same ▸ recorded.receiptIds), ?_⟩
  exact require_bind_eq_ok.mpr ⟨notMem_of_split (same ▸ recorded.operationIds), rfl⟩

theorem snapshotOperations_project (recorded : Recorded isAware history) :
    snapshotOperations (history.map operationRowOf) = .ok (history.map operationRowOf) := by
  unfold snapshotOperations
  rw [foldlM_map]
  refine foldlM_collects ?_
  intro before receipt after same
  have stored : receipt ∈ history := by
    rw [same]
    exact mem_append_cons_self
  obtain ⟨_, _, identity, operation⟩ := recorded.checked receipt stored
  refine require_bind_eq_ok.mpr ⟨?_, ?_⟩
  · rw [Bool.and_eq_true]
    exact ⟨operation, identity⟩
  refine require_bind_eq_ok.mpr ⟨?_, ?_⟩
  · rw [map_map]
    exact notMem_of_split (same ▸ recorded.operationIds)
  · rw [map_append]
    rfl

theorem checkOperationWitnesses_project (recorded : Recorded isAware history) :
    checkOperationWitnesses history (history.map operationRowOf) = .ok () := by
  unfold checkOperationWitnesses
  refine bind_eq_ok.mpr ⟨_, snapshotOperations_project recorded, ?_⟩
  refine bind_eq_ok.mpr ⟨(), forM_eq_ok.mpr ?_, forM_eq_ok.mpr ?_⟩
  · intro receipt member
    refine require_bind_eq_ok.mpr ⟨?_, if_pos (mem_map_of_mem member)⟩
    rw [map_map]
    exact mem_map_of_mem member
  · intro witness member
    obtain ⟨receipt, stored, rfl⟩ := mem_map.mp member
    exact if_pos ⟨receipt, stored, rfl, rfl⟩

def validatedKeys (keys : List HoldTarget) (history : List HoldReceipt) : List HoldTarget :=
  (⟨.host, hostHoldTarget⟩ :: keys ++ history.map HoldReceipt.target ++ keys ++
    history.map HoldReceipt.target).dedup.mergeSort HoldTarget.le

theorem mem_validatedKeys {target : HoldTarget} :
    target ∈ validatedKeys keys history ↔ target = ⟨.host, hostHoldTarget⟩ ∨ target ∈ keys ∨
      target ∈ history.map HoldReceipt.target := by
  unfold validatedKeys
  rw [mem_mergeSort, mem_dedup]
  simp only [cons_append, mem_cons, mem_append]
  tauto

theorem isKey_host : (HoldTarget.mk .host hostHoldTarget).IsKey :=
  ⟨⟨by decide +kernel, by decide +kernel⟩, fun _ => rfl, fun other => by cases other⟩

theorem validate_project (keyed : Keyed isAware keys history) :
    (project sha256 keys history).validate sha256 isAware =
      .ok ((validatedKeys keys history).map (stateOf history)).reduceOption := by
  unfold validate
  refine require_bind_eq_ok.mpr ⟨mem_cons_self, ?_⟩
  refine require_bind_eq_ok.mpr ⟨?_, ?_⟩
  · intro row member
    obtain ⟨receipt, _, rfl⟩ := mem_map.mp member
    rfl
  refine bind_eq_ok.mpr ⟨keys, snapshotLatches_project keyed, ?_⟩
  refine bind_eq_ok.mpr ⟨history, snapshotReceipts_project keyed.recorded, ?_⟩
  refine bind_eq_ok.mpr ⟨keys, ?_, ?_⟩
  · refine mapM_eq_ok.mpr ?_
    change Forall₂ _ (keys.map (countRowOf history)) keys
    rw [forall₂_map_left_iff, forall₂_same]
    exact fun target member => snapshotTarget_of_isKey (keyed.isKey target member) _
  refine bind_eq_ok.mpr ⟨history.map HoldReceipt.target, ?_, ?_⟩
  · refine mapM_eq_ok.mpr ?_
    change List.Forall₂ _ (history.map (contentRowOf sha256)) (history.map HoldReceipt.target)
    rw [forall₂_map_left_iff, forall₂_map_right_iff, forall₂_same]
    exact fun receipt member =>
      snapshotTarget_of_isKey (keyed.recorded.checked receipt member).2.1 _
  refine bind_eq_ok.mpr ⟨(), checkOperationWitnesses_project keyed.recorded, ?_⟩
  refine bind_eq_ok.mpr ⟨(validatedKeys keys history).map (stateOf history), ?_, rfl⟩
  refine mapM_eq_ok.mpr ?_
  change Forall₂ _ (validatedKeys keys history) _
  rw [forall₂_map_right_iff, forall₂_same]
  intro target member
  apply validateTarget_project keyed
  rcases mem_validatedKeys.mp member with rfl | known | known
  · exact isKey_host
  · exact keyed.isKey target known
  · obtain ⟨receipt, stored, rfl⟩ := mem_map.mp known
    exact (keyed.recorded.checked receipt stored).2.1

end Kestrel.Hold
