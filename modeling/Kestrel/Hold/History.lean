import Kestrel.Hold.AuthorityGraph

/-!
# Histories of receipts

What the store is for: an append-only history, in which the last applied receipt of a key tells its
latch. Every receipt names the authority that was current before it.
-/

namespace Kestrel.Hold

open List Except HoldReceipt

def receiptsAt (history : List HoldReceipt) (target : HoldTarget) : List HoldReceipt :=
  history.filter fun receipt => receipt.target = target

/-- The receipts that changed one key's latch. -/
def appliedAt (history : List HoldReceipt) (target : HoldTarget) : List HoldReceipt :=
  (receiptsAt history target).filter fun receipt => receipt.disposition = .applied

/-- The Hold that was applied last, unless a release was applied after it. -/
def current (history : List HoldReceipt) (target : HoldTarget) : Option HoldReceipt :=
  (appliedAt history target).getLast?.filter fun receipt => receipt.action = .hold

def currentId (history : List HoldReceipt) (target : HoldTarget) : String :=
  (current history target).elim "" HoldReceipt.receiptId

/-- The authorities that the applied receipts of a key created. -/
def authoritiesAt (history : List HoldReceipt) (target : HoldTarget) : List HoldReceipt :=
  (appliedAt history target).filter fun receipt => receipt.action = .hold

section Appending

variable {history : List HoldReceipt} {receipt : HoldReceipt} {target : HoldTarget}

theorem receiptsAt_concat_self (history : List HoldReceipt) (receipt : HoldReceipt) :
    receiptsAt (history ++ [receipt]) receipt.target =
      receiptsAt history receipt.target ++ [receipt] := by
  simp [receiptsAt]

theorem receiptsAt_concat_of_ne (history : List HoldReceipt) (other : receipt.target ≠ target) :
    receiptsAt (history ++ [receipt]) target = receiptsAt history target := by
  simp [receiptsAt, other]

theorem appliedAt_concat_of_ne (history : List HoldReceipt) (other : receipt.target ≠ target) :
    appliedAt (history ++ [receipt]) target = appliedAt history target := by
  unfold appliedAt
  rw [receiptsAt_concat_of_ne history other]

theorem appliedAt_concat_applied (history : List HoldReceipt)
    (applied : receipt.disposition = .applied) :
    appliedAt (history ++ [receipt]) receipt.target =
      appliedAt history receipt.target ++ [receipt] := by
  unfold appliedAt
  rw [receiptsAt_concat_self, filter_append]
  simp [applied]

theorem appliedAt_concat_refused (history : List HoldReceipt)
    (refused : receipt.disposition ≠ .applied) (target : HoldTarget) :
    appliedAt (history ++ [receipt]) target = appliedAt history target := by
  by_cases same : receipt.target = target
  · subst same
    unfold appliedAt
    rw [receiptsAt_concat_self, filter_append]
    simp [refused]
  · exact appliedAt_concat_of_ne history same

theorem current_concat_of_ne (history : List HoldReceipt) (other : receipt.target ≠ target) :
    current (history ++ [receipt]) target = current history target := by
  unfold current
  rw [appliedAt_concat_of_ne history other]

theorem current_concat_refused (history : List HoldReceipt)
    (refused : receipt.disposition ≠ .applied) (target : HoldTarget) :
    current (history ++ [receipt]) target = current history target := by
  unfold current
  rw [appliedAt_concat_refused history refused]

theorem current_concat_applied (history : List HoldReceipt)
    (applied : receipt.disposition = .applied) :
    current (history ++ [receipt]) receipt.target =
      if receipt.action = .hold then some receipt else none := by
  unfold current
  rw [appliedAt_concat_applied history applied, getLast?_concat]
  simp [Option.filter]

theorem current_mem (held : current history target = some receipt) :
    receipt ∈ authoritiesAt history target := by
  obtain ⟨last, hold⟩ := Option.filter_eq_some_iff.mp held
  exact mem_filter.mpr ⟨mem_of_getLast? last, hold⟩

theorem mem_receiptsAt_of_current (held : current history target = some receipt) :
    receipt ∈ receiptsAt history target :=
  (mem_filter.mp (mem_filter.mp (current_mem held)).1).1

end Appending

section Recorded

variable (isAware : String → Bool)

structure Appends (history : List HoldReceipt) (receipt : HoldReceipt) : Prop where
  checked : checkReceipt isAware receipt = .ok ()
  isKey : receipt.target.IsKey
  identity : isCanonical receipt.receiptId = true
  operation : isCanonical receipt.operationId = true
  newReceipt : receipt.receiptId ∉ history.map HoldReceipt.receiptId
  newOperation : receipt.operationId ∉ history.map HoldReceipt.operationId
  prior : receipt.priorHoldReceiptId = currentId history receipt.target

/-- A history in which every receipt was appended to those before it. -/
inductive Recorded : List HoldReceipt → Prop where
  | nil : Recorded []
  | append {history : List HoldReceipt} {receipt : HoldReceipt} :
      Recorded history → Appends isAware history receipt → Recorded (history ++ [receipt])

variable {isAware} {history : List HoldReceipt} {receipt : HoldReceipt}

theorem Appends.linked (appends : Appends isAware history receipt) : receipt.linked = true := by
  have checked := appends.checked
  obtain ⟨_, checked⟩ := require_bind_eq_ok.mp checked
  obtain ⟨_, checked⟩ := require_bind_eq_ok.mp checked
  obtain ⟨_, checked⟩ := require_bind_eq_ok.mp checked
  obtain ⟨_, _, checked⟩ := bind_eq_ok.mp checked
  obtain ⟨_, checked⟩ := require_bind_eq_ok.mp checked
  obtain ⟨_, checked⟩ := require_bind_eq_ok.mp checked
  unfold require at checked
  by_contra broken
  rw [if_neg broken] at checked
  cases checked

theorem present_of_isCanonical {text : String} (canonical : isCanonical text = true) :
    present text = true := by
  unfold isCanonical at canonical
  rw [Bool.and_eq_true] at canonical
  apply decide_eq_true
  rintro rfl
  exact absurd canonical.1 (by decide)

theorem resulting_of_linked (linked : receipt.linked = true) : receipt.resultingHoldReceiptId = "" ∨
      receipt.resultingHoldReceiptId = receipt.priorHoldReceiptId ∨
      receipt.disposition = .applied ∧ receipt.action = .hold ∧
        receipt.resultingHoldReceiptId = receipt.receiptId := by
  unfold HoldReceipt.linked at linked
  split at linked
  · exact .inr (.inr ⟨‹_›, ‹_›, (of_decide_eq_true linked).2⟩)
  · exact .inr (.inl (of_decide_eq_true linked).2.2)
  · cases linked
  · exact .inl (of_decide_eq_true linked).2.2
  · exact .inl (of_decide_eq_true linked).2.2
  · exact .inr (.inl (of_decide_eq_true linked).2.2.2)

structure Graph (history : List HoldReceipt) (target : HoldTarget) : Prop where
  references : ∀ receipt ∈ receiptsAt history target,
    ∀ id ∈ [receipt.priorHoldReceiptId, receipt.resultingHoldReceiptId], present id = true →
      id ∈ (authoritiesAt history target).map HoldReceipt.receiptId
  once : (((appliedAt history target).map HoldReceipt.priorHoldReceiptId).filter present).Nodup
  ordered : Ordered ((authoritiesAt history target).map HoldReceipt.receiptId)
    (consumerOf (appliedAt history target))
    ((current history target).map HoldReceipt.receiptId)

variable {applied : List HoldReceipt} {id : String}

theorem consumerOf_eq_none (named : present id = true) :
    consumerOf applied id = none ↔ ∀ receipt ∈ applied, receipt.priorHoldReceiptId ≠ id := by
  unfold consumerOf
  rw [find?_eq_none]
  constructor
  · rintro unconsumed receipt member rfl
    exact unconsumed receipt member (decide_eq_true ⟨named, rfl⟩)
  · intro unconsumed receipt member consumes
    exact unconsumed receipt member (of_decide_eq_true consumes).2

theorem consumerOf_eq_some {successor : HoldReceipt}
    (consumed : consumerOf applied id = some successor) :
    successor ∈ applied ∧ successor.priorHoldReceiptId = id ∧ present id = true := by
  unfold consumerOf at consumed
  have found := find?_some consumed
  have selected := of_decide_eq_true found
  refine ⟨mem_of_find?_eq_some consumed, selected.2, ?_⟩
  rw [← selected.2]
  exact selected.1

/-- What the receipt after a history adds to its graph. -/
theorem Graph.append (graph : Graph history receipt.target)
    (identities : ∀ old ∈ history, present old.receiptId = true)
    (appends : Appends isAware history receipt) :
    Graph (history ++ [receipt]) receipt.target := by
  have linked := appends.linked
  have named : present receipt.receiptId = true := present_of_isCanonical appends.identity
  -- The receipt's prior is the key's current authority.
  have priorKnown : present receipt.priorHoldReceiptId = true → receipt.priorHoldReceiptId ∈
        (authoritiesAt history receipt.target).map receiptId := by
    rw [appends.prior]
    unfold currentId
    cases held : current history receipt.target with
    | none => exact fun empty => absurd empty (by decide)
    | some last => exact fun _ => mem_map_of_mem (current_mem held)
  have unknown : receipt.receiptId ∉ (authoritiesAt history receipt.target).map receiptId := by
    intro member
    obtain ⟨old, stored, same⟩ := mem_map.mp member
    apply appends.newReceipt
    have inHistory := (mem_filter.mp (mem_filter.mp (mem_filter.mp stored).1).1).1
    exact mem_map.mpr ⟨old, inHistory, same⟩
  have presentKnown : ∀ id ∈ (authoritiesAt history receipt.target).map receiptId,
      present id = true := by
    intro id member
    obtain ⟨old, stored, rfl⟩ := mem_map.mp member
    exact identities old (mem_filter.mp (mem_filter.mp (mem_filter.mp stored).1).1).1
  have appliedPrior : ∀ old ∈ appliedAt history receipt.target,
      present old.priorHoldReceiptId = true → old.priorHoldReceiptId ∈
        (authoritiesAt history receipt.target).map receiptId := by
    intro old stored
    exact graph.references old (mem_filter.mp stored).1 _ mem_cons_self
  by_cases applied : receipt.disposition = .applied
  · have authorities : authoritiesAt (history ++ [receipt]) receipt.target =
        authoritiesAt history receipt.target ++
          if receipt.action = .hold then [receipt] else [] := by
      unfold authoritiesAt
      rw [appliedAt_concat_applied history applied, filter_append]
      by_cases hold : receipt.action = .hold <;> simp [hold]
    have consumers : ∀ id, consumerOf (appliedAt history receipt.target ++ [receipt]) id =
        (consumerOf (appliedAt history receipt.target) id).or
          (if present receipt.priorHoldReceiptId ∧ receipt.priorHoldReceiptId = id then
            some receipt else none) := by
      intro id
      unfold consumerOf
      rw [find?_append, find?_singleton]
      simp only [decide_eq_true_eq]
    refine ⟨?_, ?_, ?_⟩
    · rw [receiptsAt_concat_self, authorities, map_append]
      intro old stored id member named
      rcases mem_append.mp stored with before | new
      · exact mem_append_left _ (graph.references old before id member named)
      · obtain rfl := mem_singleton.mp new
        rcases mem_cons.mp member with rfl | last
        · exact mem_append_left _ (priorKnown named)
        · obtain rfl := mem_singleton.mp last
          rcases resulting_of_linked linked with empty | same | ⟨_, hold, same⟩
          · rw [empty] at named
            cases named
          · rw [same] at named ⊢
            exact mem_append_left _ (priorKnown named)
          · rw [same, if_pos hold]
            exact mem_append_right _ mem_cons_self
    · rw [appliedAt_concat_applied history applied, map_append, filter_append]
      refine nodup_append.mpr ⟨graph.once, (nodup_singleton _).filter _, ?_⟩
      -- An earlier receipt that consumed the current authority would have ended it.
      intro id before other last same
      obtain ⟨single, filled⟩ := mem_filter.mp last
      obtain rfl := mem_singleton.mp single
      obtain ⟨mapped, _⟩ := mem_filter.mp before
      obtain ⟨old, stored, rfl⟩ := mem_map.mp mapped
      have open' : (current history receipt.target).map receiptId =
          some receipt.priorHoldReceiptId := by
        rw [appends.prior] at filled ⊢
        unfold currentId at filled ⊢
        cases held : current history receipt.target with
        | none =>
          rw [held] at filled
          cases filled
        | some last => rfl
      have unconsumed := (graph.ordered.unconsumed _ (priorKnown filled)).mpr open'
      exact (consumerOf_eq_none filled).mp unconsumed old stored same
    · rw [authorities, appliedAt_concat_applied history applied,
        current_concat_applied history applied, map_append]
      refine ⟨?_, ?_, ?_⟩
      · intro cursor member successor consumed continues
        rw [consumers] at consumed
        rcases Option.or_eq_some_iff.mp consumed with earlier | ⟨_, new⟩
        · obtain ⟨stored, rfl, filled⟩ := consumerOf_eq_some earlier
          have known := appliedPrior successor stored filled
          obtain ⟨later, rises⟩ := graph.ordered.later _ known successor earlier continues
          refine ⟨mem_append_left _ later, ?_⟩
          rw [idxOf_append_of_mem known, idxOf_append_of_mem later]
          exact rises
        · split_ifs at new with named
          cases new
          obtain ⟨filled, rfl⟩ := named
          have hold : receipt.action = .hold := by
            cases action : receipt.action with
            | hold => rfl
            | release => exact absurd action continues
          have known := priorKnown filled
          rw [if_pos hold]
          refine ⟨mem_append_right _ mem_cons_self, ?_⟩
          rw [idxOf_append_of_mem known, idxOf_append_of_notMem unknown]
          exact lt_of_lt_of_le (idxOf_lt_length_of_mem known) (Nat.le_add_right _ _)
      · intro cursor member
        rw [consumers, Option.or_eq_none_iff]
        rcases mem_append.mp member with known | new
        · have different : cursor ≠ receipt.receiptId := fun same => unknown (same ▸ known)
          constructor
          · rintro ⟨unconsumed, last⟩
            have open' := (graph.ordered.unconsumed cursor known).mp unconsumed
            obtain ⟨held, isCurrent, rfl⟩ := Option.map_eq_some_iff.mp open'
            have same : receipt.priorHoldReceiptId = held.receiptId := by
              rw [appends.prior]
              unfold currentId
              rw [isCurrent]
              rfl
            rw [if_pos ⟨same ▸ presentKnown _ known, same⟩] at last
            cases last
          · intro held
            split_ifs at held
            · exact absurd (Option.some.inj held).symm different
            · cases held
        · split_ifs at new with hold
          · obtain rfl := mem_singleton.mp new
            rw [if_pos hold]
            refine iff_of_true ⟨?_, ?_⟩ rfl
            · rw [consumerOf_eq_none named]
              intro old stored same
              exact unknown (same ▸ appliedPrior old stored (same ▸ named))
            · rw [if_neg]
              rintro ⟨filled, same⟩
              exact unknown (same ▸ priorKnown filled)
          · cases new
      · intro id held
        split_ifs at held with hold
        · cases held
          rw [if_pos hold]
          exact mem_append_right _ mem_cons_self
        · cases held
  · have authorities : authoritiesAt (history ++ [receipt]) receipt.target =
        authoritiesAt history receipt.target := by
      unfold authoritiesAt
      rw [appliedAt_concat_refused history applied]
    refine ⟨?_, ?_, ?_⟩
    · rw [receiptsAt_concat_self, authorities]
      intro old stored id member named
      rcases mem_append.mp stored with before | new
      · exact graph.references old before id member named
      · obtain rfl := mem_singleton.mp new
        rcases mem_cons.mp member with rfl | last
        · exact priorKnown named
        · obtain rfl := mem_singleton.mp last
          rcases resulting_of_linked linked with empty | same | ⟨isApplied, _⟩
          · rw [empty] at named
            cases named
          · rw [same] at named ⊢
            exact priorKnown named
          · exact absurd isApplied applied
    · rw [appliedAt_concat_refused history applied]
      exact graph.once
    · rw [authorities, appliedAt_concat_refused history applied,
        current_concat_refused history applied]
      exact graph.ordered

theorem Recorded.checked (recorded : Recorded isAware history) :
    ∀ receipt ∈ history, checkReceipt isAware receipt = .ok () ∧ receipt.target.IsKey ∧
      isCanonical receipt.receiptId = true ∧ isCanonical receipt.operationId = true := by
  induction recorded with
  | nil =>
    intro receipt member
    cases member
  | append recorded appends ih =>
    intro other member
    rcases mem_append.mp member with before | new
    · exact ih other before
    · rw [mem_singleton.mp new]
      exact ⟨appends.checked, appends.isKey, appends.identity, appends.operation⟩

theorem Recorded.receiptIds (recorded : Recorded isAware history) :
    (history.map receiptId).Nodup := by
  induction recorded with
  | nil => exact nodup_nil
  | append recorded appends ih =>
    rw [map_append]
    refine nodup_append.mpr ⟨ih, nodup_singleton _, ?_⟩
    intro id before other single same
    rw [same, mem_singleton.mp single] at before
    exact appends.newReceipt before

theorem Recorded.operationIds (recorded : Recorded isAware history) :
    (history.map operationId).Nodup := by
  induction recorded with
  | nil => exact nodup_nil
  | append recorded appends ih =>
    rw [map_append]
    refine nodup_append.mpr ⟨ih, nodup_singleton _, ?_⟩
    intro id before other single same
    rw [same, mem_singleton.mp single] at before
    exact appends.newOperation before

theorem Recorded.graph (recorded : Recorded isAware history) (target : HoldTarget) :
    Graph history target := by
  induction recorded with
  | nil =>
    refine ⟨?_, nodup_nil, ?_, ?_, ?_⟩
    all_goals
      intro _ member
      cases member
  | append recorded appends ih =>
    rename_i history receipt
    by_cases same : receipt.target = target
    · subst same
      exact ih.append (fun old stored =>
        present_of_isCanonical (recorded.checked old stored).2.2.1) appends
    · have authorities : authoritiesAt (history ++ [receipt]) target =
          authoritiesAt history target := by
        unfold authoritiesAt
        rw [appliedAt_concat_of_ne history same]
      refine ⟨?_, ?_, ?_⟩
      · rw [receiptsAt_concat_of_ne history same, authorities]
        exact ih.references
      · rw [appliedAt_concat_of_ne history same]
        exact ih.once
      · rw [authorities, appliedAt_concat_of_ne history same, current_concat_of_ne history same]
        exact ih.ordered

theorem Graph.terminalAuthorities_eq {target : HoldTarget} (graph : Graph history target) :
    terminalAuthorities (receiptsAt history target) = .ok (authoritiesAt history target,
        ((current history target).map receiptId).toList) := by
  have references : (receiptsAt history target).all (fun receipt =>
      [receipt.priorHoldReceiptId, receipt.resultingHoldReceiptId].all fun id =>
        !present id || decide (id ∈ (authoritiesAt history target).map receiptId)) =
      true := by
    apply all_eq_true.mpr
    intro receipt stored
    apply all_eq_true.mpr
    intro id member
    rw [Bool.or_eq_true, Bool.not_eq_true']
    cases filled : present id with
    | false => exact .inl rfl
    | true => exact .inr (decide_eq_true (graph.references receipt stored id member filled))
  refine require_bind_eq_ok.mpr ⟨references, ?_⟩
  refine require_bind_eq_ok.mpr ⟨graph.once, ?_⟩
  exact bind_eq_ok.mpr ⟨_, graph.ordered.terminalAuthorityIds_eq, rfl⟩

end Recorded

end Kestrel.Hold
