import Kestrel.Signals.DeliveryRows

/-!
# What runs of the delivery ledger keep
-/

namespace Kestrel.Signals

open List Except DeliveryLedger Delivery

/-- What every reachable store keeps. -/
structure DeliverySystem.Kept (system : DeliverySystem) : Prop where
  rows : Rows system.ledger.deliveries system.retired system.reservations system.startable
  leases : system.startable.Nodup
  started : system.started ⊆ system.startable
  once : system.started.Nodup
  due : ∀ key ∈ system.due, ∃ delivery ∈ system.ledger.deliveries, delivery.key = key
  /-- A delivery's event is retained. -/
  referenced : ∀ delivery ∈ system.ledger.deliveries,
    ∃ event ∈ system.ledger.history.events, event.eventId = delivery.eventId
  /-- Only settled deliveries were deleted. -/
  settled : ∀ delivery ∈ system.retired, delivery.status.isTerminal = true

namespace DeliverySystem.Kept

variable {system : DeliverySystem}

theorem fresh (backend : DatabaseBackend) (backfillCompleted : Bool) :
    (DeliverySystem.fresh backend backfillCompleted).Kept where
  rows := ⟨nodup_nil, nodup_nil, fun _ member => by cases member⟩
  leases := nodup_nil
  started := Subset.refl _
  once := nodup_nil
  due := fun _ member => by cases member
  referenced := fun _ member => by cases member
  settled := fun _ member => by cases member

theorem records (kept : system.Kept) {clock : ℕ} {acknowledged : List String} : Kept { system with
      clock := clock
      acknowledged := acknowledged } where
  rows := kept.rows
  leases := kept.leases
  started := kept.started
  once := kept.once
  due := kept.due
  referenced := kept.referenced
  settled := kept.settled

theorem ledger (kept : system.Kept) {ledger : DeliveryLedger}
    (rows : Rows ledger.deliveries system.retired system.reservations system.startable)
    (due : ∀ key ∈ system.due, ∃ delivery ∈ ledger.deliveries, delivery.key = key)
    (referenced : ∀ delivery ∈ ledger.deliveries,
      ∃ event ∈ ledger.history.events, event.eventId = delivery.eventId) :
    Kept { system with ledger := ledger } where
  rows := rows
  leases := kept.leases
  started := kept.started
  once := kept.once
  due := due
  referenced := referenced
  settled := kept.settled

variable {ledger : DeliveryLedger} {change : Delivery → Delivery}

theorem sameDeliveries (kept : system.Kept)
    (same : ledger.deliveries = system.ledger.deliveries)
    (history : ledger.history = system.ledger.history) :
    Kept { system with ledger := ledger } := by
  apply kept.ledger (same ▸ kept.rows) (same ▸ kept.due)
  rw [same, history]
  exact kept.referenced

variable {test : Delivery → Bool} {agentId consumerId deliveryId token : String} {now : ℕ}

theorem update (kept : system.Kept)
    (renames : Renames change) (updated : ledger.deliveries =
      system.ledger.deliveries.map fun delivery => if test delivery then change delivery else delivery)
    (history : ledger.history = system.ledger.history)
    (accounted : ∀ delivery ∈ system.ledger.deliveries, test delivery = true →
      delivery.Accounted system.reservations system.startable →
        (change delivery).Accounted system.reservations system.startable) :
    Kept { system with ledger := ledger } := by
  apply kept.ledger
  · rw [updated]
    apply kept.rows.update (renames.ite test).id (renames.ite test).key
    · intro delivery member
      have before := kept.rows.accounted delivery (mem_append_left _ member)
      split_ifs with selected
      · exact accounted delivery member selected before
      · exact before
    · intro delivery old
      exact kept.rows.accounted delivery (mem_append_right _ old)
  · intro key member
    obtain ⟨delivery, stored, same⟩ := kept.due key member
    rw [updated]
    exact ⟨_, mem_map_of_mem stored, ((renames.ite test).key delivery).trans same⟩
  · rw [updated, history]
    intro delivery member
    obtain ⟨before, stored, rfl⟩ := mem_map.mp member
    rw [(renames.ite test).eventId before]
    exact kept.referenced before stored

theorem updateOne (kept : system.Kept)
    (renames : Renames change) (updated : ledger.deliveries =
      system.ledger.deliveries.map fun delivery => if test delivery then change delivery else delivery)
    (history : ledger.history = system.ledger.history) {target : Delivery}
    (member : target ∈ system.ledger.deliveries) (selected : test target = true)
    (only : ∀ delivery, test delivery = true → delivery.deliveryId = target.deliveryId)
    {startable : List Lease} (leases : startable.Nodup) (started : system.started ⊆ startable)
    (others : ∀ other, other ≠ target.deliveryId →
      (∀ token, (other, token) ∈ startable ↔ (other, token) ∈ system.startable) ∧
        leasesOf startable other = leasesOf system.startable other)
    (accounted : (change target).Accounted system.reservations startable) :
    Kept { system with
      ledger := ledger
      startable := startable } where
  rows := by
    dsimp only
    rw [updated]
    apply kept.rows.update (renames.ite test).id (renames.ite test).key
    · intro delivery stored
      by_cases same : delivery.deliveryId = target.deliveryId
      · obtain rfl := kept.rows.eq_of_id (mem_append_left _ stored) (mem_append_left _ member) same
        rw [if_pos selected]
        exact accounted
      · rw [if_neg fun chosen => same (only delivery chosen)]
        obtain ⟨sameLeases, sameCount⟩ := others delivery.deliveryId same
        exact (kept.rows.accounted delivery (mem_append_left _ stored)).congr
          (fun _ _ => Iff.rfl) sameLeases sameCount
    · intro delivery old
      obtain ⟨sameLeases, sameCount⟩ :=
        others delivery.deliveryId (kept.rows.id_ne_retired member old)
      exact (kept.rows.accounted delivery (mem_append_right _ old)).congr
        (fun _ _ => Iff.rfl) sameLeases sameCount
  leases := leases
  started := started
  once := kept.once
  due := by
    intro key due
    obtain ⟨delivery, stored, same⟩ := kept.due key due
    rw [updated]
    exact ⟨_, mem_map_of_mem stored, ((renames.ite test).key delivery).trans same⟩
  referenced := by
    dsimp only
    rw [updated, history]
    intro delivery member
    obtain ⟨before, stored, rfl⟩ := mem_map.mp member
    rw [(renames.ite test).eventId before]
    exact kept.referenced before stored
  settled := kept.settled

theorem tryUpdate (kept : system.Kept)
    (same : ledger.deliveries = system.ledger.deliveries)
    (history : ledger.history = system.ledger.history)
    (renames : Renames change)
    (accounted : ∀ delivery ∈ system.ledger.deliveries, test delivery = true →
      delivery.Accounted system.reservations system.startable →
        (change delivery).Accounted system.reservations system.startable) :
    Kept { system with ledger := (ledger.tryUpdate test change).2 } :=
  kept.update renames (by rw [deliveries_tryUpdate, same]) history accounted

theorem deactivateConsumer (kept : system.Kept) (agentId consumerId : String) (now : ℕ) :
    Kept { system with ledger := (system.ledger.deactivateConsumer agentId consumerId now).2 } := by
  unfold DeliveryLedger.deactivateConsumer
  cases system.ledger.getConsumer agentId consumerId with
  | none => exact kept
  | some consumer =>
    dsimp only
    by_cases active : consumer.active = true
    · rw [if_pos active]
      exact kept.update (renames_deactivate now) rfl rfl
        (fun _ _ _ accounted => accounted.deactivate now)
    · rw [if_neg active]
      exact kept

theorem renewDeliveryLease (kept : system.Kept) (agentId consumerId deliveryId token : String)
    (now : ℕ) : Kept { system with
      ledger := (system.ledger.renewDeliveryLease agentId consumerId deliveryId token now).2 } := by
  unfold DeliveryLedger.renewDeliveryLease
  cases system.ledger.activeConsumer agentId consumerId with
  | none => exact kept
  | some consumer =>
    exact kept.tryUpdate rfl rfl (renames_renew _ now)
      (fun _ _ _ accounted => accounted.renew _ now)

theorem deliveries_touchRuntimeOwner (ledger : DeliveryLedger) (agentId ownerId : String)
    (now : ℕ) : (ledger.touchRuntimeOwner agentId ownerId now).deliveries = ledger.deliveries := by
  unfold touchRuntimeOwner
  cases ledger.owner agentId ownerId <;> rfl

theorem history_touchRuntimeOwner (ledger : DeliveryLedger) (agentId ownerId : String)
    (now : ℕ) : (ledger.touchRuntimeOwner agentId ownerId now).history = ledger.history := by
  unfold touchRuntimeOwner
  cases ledger.owner agentId ownerId <;> rfl

section

variable (kept : system.Kept)

include kept

theorem activateInitialDelivery (agentId consumerId deliveryId owner token : String)
    (touchNow activationNow : ℕ) :
    Kept { system with
      ledger := (system.ledger.activateInitialDelivery agentId consumerId deliveryId owner token
        touchNow activationNow).2 } := by
  unfold DeliveryLedger.activateInitialDelivery
  cases system.ledger.activeConsumer agentId consumerId with
  | none => exact kept
  | some consumer =>
    apply kept.tryUpdate (deliveries_touchRuntimeOwner ..) (history_touchRuntimeOwner ..)
      (renames_activate _ activationNow)
    intro delivery _ selected accounted
    exact accounted.activate (of_decide_eq_true selected).2.1 _ activationNow

theorem releaseInitialReservations (agentId ownerId : String) (now : ℕ) (stopped : Bool)
    : Kept { system with
      ledger := system.ledger.releaseInitialReservations agentId ownerId now stopped } := by
  have text : "initial reservation owner stopped before activation" ≠
      cognitionAdmissionPending := by decide +kernel
  unfold DeliveryLedger.releaseInitialReservations
  split_ifs
  · exact kept
  all_goals
    exact kept.update (renames_requeue now _) rfl rfl
      (fun _ _ _ accounted => accounted.requeue now text)

theorem abandonInitialReservation (agentId consumerId deliveryId owner token : String) (now : ℕ)
    {reason : String} (text : reason ≠ cognitionAdmissionPending) : Kept { system with
      ledger := (system.ledger.abandonInitialReservation agentId consumerId deliveryId owner token
        now reason).2 } :=
  kept.tryUpdate rfl rfl (renames_requeue now reason)
    (fun _ _ _ accounted => accounted.requeue now text)

theorem recoverAbandonedInitialReservations (agentId recovering : String) (staleBefore now : ℕ)
    : Kept { system with
      ledger := system.ledger.recoverAbandonedInitialReservations agentId recovering staleBefore
        now } := by
  have text : "initial reservation owner unavailable before activation" ≠
      cognitionAdmissionPending := by decide +kernel
  exact kept.update (renames_requeue now _) rfl rfl
    (fun _ _ _ accounted => accounted.requeue now text)

theorem recoverAbandonedLeases (agentId recovering : String) (staleBefore now : ℕ)
    : Kept { system with
      ledger := system.ledger.recoverAbandonedLeases agentId recovering staleBefore now } := by
  have pendingText : "cognition admission owner unavailable before execution" ≠
      cognitionAdmissionPending := by decide +kernel
  have otherText : "lease owner unavailable before acknowledgement" ≠
      cognitionAdmissionPending := by decide +kernel
  exact kept.update (renames_recover now _ _) rfl rfl
    (fun _ _ _ accounted => accounted.recover now pendingText otherText)

theorem recoverExpiredLeases (agentId consumerId : String) (now staleBefore : ℕ)
    : Kept { system with
      ledger := system.ledger.recoverExpiredLeases agentId consumerId now staleBefore } := by
  have pendingText : "cognition admission lease expired before execution" ≠
      cognitionAdmissionPending := by decide +kernel
  have otherText : "lease expired before acknowledgement" ≠
      cognitionAdmissionPending := by decide +kernel
  exact kept.update (renames_recover now _ _) rfl rfl
    (fun _ _ _ accounted => accounted.recover now pendingText otherText)

theorem recoverOwnedPendingCognitionAdmissions (agentId ownerId : String) (now : ℕ)
    : Kept { system with
      ledger := system.ledger.recoverOwnedPendingCognitionAdmissions agentId ownerId now } := by
  refine kept.update (renames_defer now fun _ => false) rfl rfl ?_
  intro delivery _ selected accounted
  obtain ⟨_, _, _, pending⟩ := of_decide_eq_true selected
  apply accounted.defer now false
  have paid := accounted.paid
  unfold pendingAttempts at paid
  rw [if_pos pending] at paid
  omega

theorem nackDelivery {error : String} {delay : ℕ} {terminal ackable released : Bool}
    (text : error ≠ cognitionAdmissionPending)
    (outcome : system.ledger.nackDelivery agentId consumerId deliveryId token error delay terminal
      ackable now = .ok (released, ledger)) : Kept { system with ledger := ledger } := by
  unfold DeliveryLedger.nackDelivery at outcome
  obtain ⟨_, _, outcome⟩ := bind_eq_ok.mp outcome
  obtain ⟨_, outcome⟩ := require_bind_eq_ok.mp outcome
  cases outcome
  exact kept.tryUpdate rfl rfl (renames_settle _ now _ error terminal ackable)
    (fun _ _ _ accounted => accounted.settle _ now _ terminal ackable text)

theorem releaseManagedDeliveryAfterTask {owner error : String} {terminal ackable : Bool}
    {released : Bool} (text : error ≠ cognitionAdmissionPending)
    (outcome : system.ledger.releaseManagedDeliveryAfterTask agentId consumerId deliveryId token
      owner error terminal ackable now = .ok (released, ledger)) :
    Kept { system with ledger := ledger } := by
  unfold DeliveryLedger.releaseManagedDeliveryAfterTask at outcome
  obtain ⟨_, _, outcome⟩ := bind_eq_ok.mp outcome
  obtain ⟨_, outcome⟩ := require_bind_eq_ok.mp outcome
  obtain ⟨_, outcome⟩ := require_bind_eq_ok.mp outcome
  cases outcome
  exact kept.tryUpdate rfl rfl (renames_settle _ now now error terminal ackable)
    (fun _ _ _ accounted => accounted.settle _ now now terminal ackable text)

theorem ackDelivery (agentId consumerId deliveryId token : String) (complete : Bool)
    (now completionNow : ℕ) : Kept { system with
      ledger := (system.ledger.ackDelivery agentId consumerId deliveryId token complete now
        completionNow).2 } := by
  unfold DeliveryLedger.ackDelivery
  split_ifs with unknown
  · exact kept
  · have acknowledged : Kept { system with ledger := (system.ledger.tryUpdate
        (fun delivery => delivery.named agentId consumerId deliveryId ∧ delivery.isLive token now)
        (·.acknowledge now)).2 } :=
      kept.tryUpdate rfl rfl (renames_acknowledge now)
        (fun _ _ _ accounted => accounted.acknowledge now)
    dsimp only
    split_ifs
    · exact acknowledged.deactivateConsumer agentId consumerId completionNow
    · exact acknowledged

end

theorem named_deliveryId {delivery : Delivery}
    (named : delivery.named agentId consumerId deliveryId = true) :
    delivery.deliveryId = deliveryId := (of_decide_eq_true named).2.2

section

variable (kept : system.Kept)

include kept

theorem grant (same : ledger.deliveries = system.ledger.deliveries)
    (history : ledger.history = system.ledger.history)
    (named : ∀ delivery, test delivery = true → delivery.deliveryId = deliveryId)
    (ready : ∀ delivery ∈ system.ledger.deliveries, test delivery = true →
      delivery.admissionPending = false ∧ delivery.exhausted delivery.attempts = false)
    (unreserved : token ∉ system.reservations)
    (unleased : ∀ lease ∈ system.startable, lease.2 ≠ token) (executorId : String)
    (expiresAt now : ℕ) (pending : Bool) :
    Kept { system with
      ledger := (ledger.tryUpdate test (·.lease executorId token expiresAt now pending)).2
      startable := if (ledger.tryUpdate test
          (·.lease executorId token expiresAt now pending)).1 then
        granted system.startable deliveryId token pending else system.startable } := by
  rcases ledger.tryUpdate_cases test (·.lease executorId token expiresAt now pending) with
    ⟨changed, target, member, selected⟩ | ⟨unchanged, kept'⟩
  · rw [changed, if_pos rfl]
    rw [same] at member
    obtain rfl := named target selected
    obtain ⟨settled, room⟩ := ready target member selected
    have absent : (target.deliveryId, token) ∉ system.startable :=
      fun lease => unleased _ lease rfl
    refine kept.updateOne (renames_lease executorId token expiresAt now pending)
      (by rw [deliveries_tryUpdate, same]) ?_ member selected named ?_ ?_ ?_ ?_
    · exact history
    · unfold granted
      split_ifs
      · exact kept.leases
      · refine nodup_append.mpr ⟨kept.leases, nodup_singleton _, ?_⟩
        intro lease stored other single equal
        rw [mem_singleton.mp single] at equal
        exact absent (equal ▸ stored)
    · unfold granted
      split_ifs
      · exact kept.started
      · exact Subset.trans kept.started (subset_append_left _ _)
    · intro other distinct
      unfold granted
      split_ifs
      · exact ⟨fun _ => Iff.rfl, rfl⟩
      · refine ⟨?_, leasesOf_concat_of_ne _ token distinct⟩
        intro otherToken
        simp [distinct]
    · exact (kept.rows.accounted target (mem_append_left _ member)).lease settled room unreserved absent
        executorId expiresAt now pending
  · rw [unchanged, if_neg Bool.false_ne_true]
    exact kept.sameDeliveries (kept'.trans same) history

variable {secrets : ℕ → String}

theorem claimInitialDelivery {owner executorId : String} {pending : Bool}
    (unused : system.Unused (secrets 0)) (reserved : token ∈ system.reservations)
    : Kept { system with
      ledger := (system.ledger.claimInitialDelivery agentId consumerId deliveryId owner token
        executorId now pending secrets).2
      startable := if (system.ledger.claimInitialDelivery agentId consumerId deliveryId owner token
          executorId now pending secrets).1 then
        granted system.startable deliveryId (secrets 0) pending else system.startable } := by
  unfold DeliveryLedger.claimInitialDelivery
  cases system.ledger.activeConsumer agentId consumerId with
  | none => exact kept
  | some consumer =>
    apply kept.grant rfl rfl ?_ ?_ unused.reservations fun lease stored => (unused.leases lease stored).2
    · intro delivery selected
      exact named_deliveryId (of_decide_eq_true selected).1
    · intro delivery member selected
      obtain ⟨_, live, _⟩ := of_decide_eq_true selected
      obtain ⟨_, stored, _⟩ := of_decide_eq_true live
      have accounted := kept.rows.accounted delivery (mem_append_left _ member)
      have none := accounted.untouched token stored reserved
      have paid := accounted.paid
      constructor
      · by_contra pending
        unfold pendingAttempts at paid
        rw [if_pos (by simpa using pending)] at paid
        omega
      · rw [none]
        simp [exhausted]
        omega

theorem releaseDeliveryForHold (unstarted : (deliveryId, token) ∉ system.started)
    : Kept { system with
      ledger := (system.ledger.releaseDeliveryForHold agentId consumerId deliveryId token now).2
      startable := if (system.ledger.releaseDeliveryForHold agentId consumerId deliveryId token
          now).1 then
        system.startable.erase (deliveryId, token) else system.startable } := by
  unfold DeliveryLedger.releaseDeliveryForHold
  rcases system.ledger.tryUpdate_cases
      (fun delivery => delivery.named agentId consumerId deliveryId ∧ delivery.status = .leased ∧
        delivery.leaseToken = some token)
      (fun delivery => delivery.defer now (delivery.keepsIdentity system.ledger.backend true)) with
    ⟨changed, target, member, selected⟩ | ⟨unchanged, same⟩
  · rw [changed, if_pos rfl]
    obtain ⟨named, leased, stored⟩ := of_decide_eq_true selected
    obtain rfl := named_deliveryId named
    apply kept.updateOne
      (renames_defer now fun delivery => delivery.keepsIdentity system.ledger.backend true)
      (deliveries_tryUpdate ..) rfl member selected
    · intro delivery chosen
      exact named_deliveryId (of_decide_eq_true chosen).1
    · exact kept.leases.erase _
    · intro lease started
      refine (mem_erase_of_ne ?_).mpr (kept.started started)
      rintro rfl
      exact unstarted started
    · intro other distinct
      refine ⟨?_, leasesOf_erase_of_ne _ token distinct⟩
      intro otherToken
      apply mem_erase_of_ne
      intro same
      exact distinct (Prod.mk.inj same).1
    · exact (kept.rows.accounted target (mem_append_left _ member)).hold leased stored now _
  · rw [unchanged, if_neg Bool.false_ne_true]
    exact kept.sameDeliveries same rfl

theorem beginCognitionExecution {ownerId : String} : Kept { system with
      ledger := (system.ledger.beginCognitionExecution agentId consumerId deliveryId token ownerId
        now).2
      startable := if (system.ledger.beginCognitionExecution agentId consumerId deliveryId token
          ownerId now).1 then
        system.startable ++ [(deliveryId, token)] else system.startable } := by
  unfold DeliveryLedger.beginCognitionExecution
  rcases system.ledger.tryUpdate_cases
      (fun delivery => delivery.named agentId consumerId deliveryId ∧ delivery.status = .leased ∧
        delivery.leaseOwner = some ownerId ∧ delivery.leaseToken = some token ∧
        delivery.admissionPending) (·.begin now) with
    ⟨changed, target, member, selected⟩ | ⟨unchanged, same⟩
  · rw [changed, if_pos rfl]
    obtain ⟨named, leased, _, stored, pending⟩ := of_decide_eq_true selected
    obtain rfl := named_deliveryId named
    have accounted := kept.rows.accounted target (mem_append_left _ member)
    -- A pending attempt is not a reservation's, so the lease was not startable before.
    have absent : (target.deliveryId, token) ∉ system.startable := by
      by_cases reserved : token ∈ system.reservations
      · have none := accounted.untouched token stored reserved
        have paid := accounted.paid
        unfold pendingAttempts at paid
        rw [if_pos pending] at paid
        omega
      · rw [accounted.leased token leased stored reserved, pending]
        exact Bool.noConfusion
    apply kept.updateOne (renames_begin now) (deliveries_tryUpdate ..) rfl member
      selected
    · intro delivery chosen
      exact named_deliveryId (of_decide_eq_true chosen).1
    · refine nodup_append.mpr ⟨kept.leases, nodup_singleton _, ?_⟩
      intro lease lease' other single equal
      rw [mem_singleton.mp single] at equal
      exact absent (equal ▸ lease')
    · exact Subset.trans kept.started (subset_append_left _ _)
    · intro other distinct
      refine ⟨?_, leasesOf_concat_of_ne _ token distinct⟩
      intro otherToken
      simp [distinct]
    · exact accounted.begin pending leased stored now
  · rw [unchanged, if_neg Bool.false_ne_true]
    exact kept.sameDeliveries same rfl

theorem insertDeliveries
    (same : ledger.deliveries = system.ledger.deliveries)
    (history : ledger.history = system.ledger.history) {deliveries : List Delivery}
    (accounted : ∀ delivery ∈ deliveries, delivery.Accounted system.reservations system.startable)
    (unused : ∀ delivery ∈ deliveries, ∀ old ∈ system.retired,
      old.deliveryId ≠ delivery.deliveryId) (referenced : ∀ delivery ∈ deliveries,
      ∃ event ∈ system.ledger.history.events, event.eventId = delivery.eventId) :
    Kept { system with ledger := ledger.insertDeliveries deliveries } := by
  apply kept.ledger
  · exact Rows.insertDeliveries (same ▸ kept.rows) accounted unused
  · intro key due
    obtain ⟨delivery, stored, sameKey⟩ := kept.due key due
    rw [← same] at stored
    exact ⟨delivery, ledger.subset_insertDeliveries deliveries stored, sameKey⟩
  · rw [history_insertDeliveries, history]
    intro delivery member
    rcases mem_insertDeliveries member with old | new
    · exact kept.referenced delivery (same ▸ old)
    · exact referenced delivery new

theorem backfillConsumer
    (same : ledger.deliveries = system.ledger.deliveries)
    (history : ledger.history = system.ledger.history) (selectors : Selectors)
    (consumer : DurableConsumerRegistration) (now : ℕ)
    (unleased : ∀ index, ∀ lease ∈ system.startable, lease.1 ≠ secrets index)
    (unused : ∀ index, ∀ old ∈ system.retired, old.deliveryId ≠ secrets index) :
    Kept { system with ledger := ledger.backfillConsumer selectors consumer now secrets } := by
  unfold DeliveryLedger.backfillConsumer
  split_ifs
  · apply kept.insertDeliveries same history
    · intro delivery member
      obtain ⟨index, _, rfl⟩ := mem_mapIdx.mp member
      apply accounted_inserted
      · exact unleased (index + 1)
      · intro pair none
        cases none
    · intro delivery member
      obtain ⟨index, _, rfl⟩ := mem_mapIdx.mp member
      exact unused (index + 1)
    · intro delivery member
      obtain ⟨index, bound, rfl⟩ := mem_mapIdx.mp member
      rw [← history]
      exact ⟨_, (mem_filter.mp (getElem_mem bound)).1, rfl⟩
  · exact kept.sameDeliveries same history

theorem registerConsumer {selectors : Selectors} {registration : DurableConsumerRegistration}
    (unused : ∀ index, system.Unused (secrets index))
    (registered : system.ledger.registerConsumer selectors registration now secrets = .ok ledger) :
    Kept { system with ledger := ledger } := by
  obtain ⟨stored, same, history, rfl | rfl⟩ := registerConsumer_eq_ok registered
  · exact kept.sameDeliveries same history
  · exact kept.backfillConsumer same history selectors registration now
      (fun index lease stored => ((unused index).leases lease stored).1)
      (fun index old gone => (unused index).deliveries old (mem_append_right _ gone))

theorem claimLocked (consumer : DurableConsumerRegistration) (deliveryId executorId : String)
    (now staleBefore : ℕ) (pending : Bool) (unreserved : token ∉ system.reservations)
    (unleased : ∀ lease ∈ system.startable, lease.2 ≠ token) : Kept { system with
      ledger := (system.ledger.claimLocked consumer deliveryId executorId token now staleBefore
        pending).2
      startable := if (system.ledger.claimLocked consumer deliveryId executorId token now
          staleBefore pending).1 then
        granted system.startable deliveryId token pending else system.startable } := by
  apply kept.grant rfl rfl ?_ ?_ unreserved unleased
  · intro delivery selected
    exact named_deliveryId (of_decide_eq_true selected).1
  · intro delivery member selected
    obtain ⟨_, claimable⟩ := of_decide_eq_true selected
    obtain ⟨status, room, _⟩ := of_decide_eq_true claimable
    exact ⟨(kept.rows.accounted delivery (mem_append_left _ member)).not_pending_of_claimable status, room⟩

theorem prepareClaim (selectors : Selectors) (consumer : DurableConsumerRegistration)
    (eventId : Option String) (now staleBefore : ℕ)
    (unused : ∀ index, system.Unused (secrets index)) :
    Kept { system with
      ledger := system.ledger.prepareClaim selectors consumer eventId now staleBefore secrets } := by
  have recovered := kept.recoverExpiredLeases consumer.agentId consumer.consumerId now staleBefore
  cases eventId with
  | some _ => exact recovered
  | none =>
    exact recovered.backfillConsumer rfl rfl selectors consumer now
      (fun index lease stored => ((unused index).leases lease stored).1)
      (fun index old gone => (unused index).deliveries old (mem_append_right _ gone))

theorem claimDelivery (selectors : Selectors) {eventId : Option String} {executorId : String}
    {recoveryNow effectiveNow staleBefore : ℕ} {pending : Bool} {withheld : String → Bool} (unused : ∀ index, system.Unused (secrets index)) : Kept { system with
      ledger := (system.ledger.claimDelivery selectors agentId consumerId eventId executorId
        recoveryNow effectiveNow staleBefore pending withheld secrets).2
      startable := match (system.ledger.claimDelivery selectors agentId consumerId eventId
          executorId recoveryNow effectiveNow staleBefore pending withheld secrets).1 with
        | some deliveryId => granted system.startable deliveryId (secrets 0) pending
        | none => system.startable } := by
  unfold DeliveryLedger.claimDelivery
  cases system.ledger.activeConsumer agentId consumerId with
  | none => exact kept
  | some consumer =>
    have prepared := kept.prepareClaim selectors consumer eventId recoveryNow staleBefore unused
    dsimp only
    cases (system.ledger.prepareClaim selectors consumer eventId recoveryNow staleBefore
        secrets).lockClaimableDelivery agentId consumerId eventId executorId recoveryNow
        staleBefore withheld with
    | none => exact prepared
    | some deliveryId =>
      have claimed := prepared.claimLocked consumer deliveryId executorId effectiveNow
        staleBefore pending (unused 0).reservations
        fun lease stored => ((unused 0).leases lease stored).2
      dsimp only at claimed ⊢
      split_ifs at claimed ⊢
      · exact claimed
      · exact claimed

/-- The deliveries of a new event, with the tokens of their reservations. -/
theorem persistSignal {signal : Signal} {accepts : Option String → Bool} {owner : Option String}
    {completion : Except SignalError Unit}
    (injective : Function.Injective secrets) (unused : ∀ index, system.Unused (secrets index))
    {persistence : DurableEventPersistence}
    (created : persistence.created = true)
    (persisted : system.ledger.persistSignal signal accepts owner now completion secrets =
      .ok (persistence, ledger)) : Kept { system with
        ledger := ledger
        reservations := system.reservations ++ if owner.isSome then
          (range (system.ledger.matching signal.scope accepts).length).map fun index =>
            secrets (2 * index + 1) else []
        due := system.due ++ (system.ledger.matching signal.scope accepts).map fun consumer =>
          ⟨consumer.agentId, consumer.consumerId, signal.id⟩ } := by
  obtain ⟨history, grown, rfl⟩ := persistSignal_eq_ok created persisted
  have fresh : ∀ delivery ∈ initialDeliveries
      (system.ledger.matching signal.scope accepts) signal.id now owner secrets,
      ∃ index, delivery.deliveryId = secrets index ∧ delivery.eventId = signal.id := by
    intro delivery member
    obtain ⟨index, _, rfl⟩ := mem_mapIdx.mp member
    exact ⟨2 * index, rfl, rfl⟩
  refine ⟨?_, kept.leases, kept.started, kept.once, ?_, ?_, kept.settled⟩
  · apply Rows.insertDeliveries
    · apply kept.rows.reserve
      intro delivery member token reserved
      split_ifs at reserved
      · obtain ⟨index, _, rfl⟩ := mem_map.mp reserved
        exact (unused (2 * index + 1)).tokens delivery member
      · cases reserved
    · intro delivery member
      obtain ⟨index, bound, rfl⟩ := mem_mapIdx.mp member
      apply accounted_inserted
      · intro lease stored
        exact ((unused (2 * index)).leases lease stored).1
      · intro pair reserved
        obtain ⟨name, known, rfl⟩ := Option.map_eq_some_iff.mp reserved
        have some : owner.isSome = true := Option.isSome_iff_exists.mpr ⟨name, known⟩
        rw [if_pos some]
        exact mem_append_right _ (mem_map.mpr ⟨index, mem_range.mpr bound, rfl⟩)
    · intro delivery member old gone
      obtain ⟨index, named, _⟩ := fresh delivery member
      rw [named]
      exact (unused index).deliveries old (mem_append_right _ gone)
  · intro key member
    rcases mem_append.mp member with before | new
    · obtain ⟨delivery, stored, same⟩ := kept.due key before
      exact ⟨delivery, subset_insertDeliveries _ _ stored, same⟩
    · obtain ⟨consumer, matched, rfl⟩ := mem_map.mp new
      obtain ⟨index, bound, found⟩ := mem_iff_getElem.mp matched
      have inserted : inserted (secrets (2 * index))
          ⟨consumer.agentId, consumer.consumerId, signal.id⟩ consumer.maxAttempts now
          (owner.map fun name => (name, secrets (2 * index + 1))) ∈
            initialDeliveries (system.ledger.matching signal.scope accepts)
              signal.id now owner secrets :=
        mem_mapIdx.mpr ⟨index, bound, by rw [found]⟩
      apply exists_insertDeliveries ?_ ?_ inserted
      · exact nodup_initialDeliveries injective _ _ _ _
      · intro delivery member other stored
        obtain ⟨index, named, _⟩ := fresh delivery member
        rw [named]
        exact (unused index).deliveries other (mem_append_left _ stored)
  · rw [history_insertDeliveries]
    intro delivery member
    rcases mem_insertDeliveries member with old | new
    · obtain ⟨event, retained, same⟩ := kept.referenced delivery old
      exact ⟨event, grown.1 retained, same⟩
    · obtain ⟨_, _, same⟩ := fresh delivery new
      rw [same]
      exact grown.2

theorem startExecution {lease : Lease} (given : lease ∈ system.startable)
    (first : lease ∉ system.started) :
    Kept { system with started := system.started ++ [lease] } where
  rows := kept.rows
  leases := kept.leases
  started := append_subset.mpr ⟨kept.started, cons_subset.mpr ⟨given, nil_subset _⟩⟩
  once := by
    refine nodup_append.mpr ⟨kept.once, nodup_singleton _, ?_⟩
    intro before member other single equal
    rw [equal, mem_singleton.mp single] at member
    exact first member
  due := kept.due
  referenced := kept.referenced
  settled := kept.settled

theorem retain {history : Ledger}
    (drained : ∀ event ∈ system.ledger.history.events, event ∉ history.events →
      system.ledger.owed event.eventId = false) :
    (system.retain (system.ledger.cascade history)).Kept where
  rows := kept.rows.delete _
  leases := kept.leases
  started := kept.started
  once := kept.once
  due := by
    intro key member
    obtain ⟨due, retained⟩ := mem_filter.mp member
    obtain ⟨delivery, stored, rfl⟩ := kept.due key due
    exact ⟨delivery, mem_filter.mpr ⟨stored, retained⟩, rfl⟩
  referenced := by
    intro delivery member
    obtain ⟨event, retained, same⟩ := any_eq_true.mp (mem_filter.mp member).2
    exact ⟨event, retained, of_decide_eq_true same⟩
  settled := by
    intro delivery member
    rcases mem_append.mp member with old | deleted
    · exact kept.settled delivery old
    · obtain ⟨stored, gone⟩ := mem_filter.mp deleted
      obtain ⟨event, retained, same⟩ := kept.referenced delivery stored
      have absent : event ∉ history.events := by
        intro still
        have found : (history.events.any fun event => event.eventId = delivery.eventId) = true :=
          any_eq_true.mpr ⟨event, still, decide_eq_true same⟩
        change (!(history.events.any fun event => event.eventId = delivery.eventId)) = true at gone
        rw [found] at gone
        cases gone
      have unowed := drained event retained absent
      by_contra active
      rw [owed, any_eq_false] at unowed
      exact unowed delivery stored (decide_eq_true ⟨same.symm, by simpa using active⟩)

theorem advance (selectors : Selectors) {operation : DeliveryOperation}
    (allowed : system.Allowed operation) : (system.advance selectors operation).Kept := by
  cases operation with
  | registerConsumer registration now secrets =>
    obtain ⟨_, unused⟩ := allowed.fresh secrets rfl
    simp only [DeliverySystem.advance]
    cases outcome : system.ledger.registerConsumer selectors registration now secrets with
    | error _ => exact kept
    | ok ledger => exact kept.registerConsumer unused outcome
  | deactivateConsumer agentId consumerId now =>
    exact kept.deactivateConsumer agentId consumerId now
  | persistSignal signal accepts owner now completion secrets =>
    obtain ⟨injective, unused⟩ := allowed.fresh secrets rfl
    simp only [DeliverySystem.advance]
    cases outcome : system.ledger.persistSignal signal accepts owner now completion secrets with
    | error _ => exact kept
    | ok result =>
      obtain ⟨persistence, ledger⟩ := result
      dsimp only
      by_cases created : persistence.created = true
      · rw [if_pos created]
        exact kept.persistSignal injective unused created outcome
      · rw [if_neg created]
        rw [persistSignal_eq_ok_of_known (by simpa using created) outcome]
        exact kept
  | purgeExpired agentId source limit now =>
    simp only [DeliverySystem.advance]
    cases outcome : system.ledger.purgeExpired agentId source limit now with
    | error _ => exact kept
    | ok result =>
      obtain ⟨_, purged, same⟩ := bind_eq_ok.mp outcome
      cases same
      exact kept.retain (Ledger.purgeExpired_drained purged)
  | retireSourceHistory boundary =>
    simp only [DeliverySystem.advance]
    cases outcome : system.ledger.retireSourceHistory boundary with
    | error _ => exact kept
    | ok result =>
      obtain ⟨_, retired, same⟩ := bind_eq_ok.mp outcome
      cases same
      exact kept.retain (Ledger.retireSourceHistory_drained retired)
  | claimDelivery agentId consumerId eventId executorId recoveryNow effectiveNow staleBefore
      pending withheld secrets =>
    exact kept.claimDelivery selectors (allowed.fresh secrets rfl).2
  | renewDeliveryLease agentId consumerId deliveryId token now =>
    exact kept.renewDeliveryLease agentId consumerId deliveryId token now
  | claimInitialDelivery agentId consumerId deliveryId owner token executorId now pending
      secrets =>
    exact kept.claimInitialDelivery ((allowed.fresh secrets rfl).2 0)
      (allowed.transfer _ _ _ _ _ _ _ _ _ rfl)
  | activateInitialDelivery agentId consumerId deliveryId owner token touchNow activationNow =>
    exact kept.activateInitialDelivery agentId consumerId deliveryId owner token touchNow
      activationNow
  | touchRuntimeOwner agentId ownerId now =>
    exact kept.sameDeliveries (deliveries_touchRuntimeOwner ..) (history_touchRuntimeOwner ..)
  | releaseInitialReservations agentId ownerId now stopped =>
    exact kept.releaseInitialReservations agentId ownerId now stopped
  | abandonInitialReservation agentId consumerId deliveryId owner token now reason =>
    apply kept.abandonInitialReservation agentId consumerId deliveryId owner token now
    intro same
    exact allowed.marker (congrArg some same)
  | recoverAbandonedInitialReservations agentId recovering staleBefore now =>
    exact kept.recoverAbandonedInitialReservations agentId recovering staleBefore now
  | recoverAbandonedLeases agentId recovering staleBefore now =>
    exact kept.recoverAbandonedLeases agentId recovering staleBefore now
  | recoverOwnedPendingCognitionAdmissions agentId ownerId now =>
    exact kept.recoverOwnedPendingCognitionAdmissions agentId ownerId now
  | beginCognitionExecution agentId consumerId deliveryId token ownerId now =>
    exact kept.beginCognitionExecution
  | ackDelivery agentId consumerId deliveryId token complete now completionNow =>
    exact (kept.ackDelivery agentId consumerId deliveryId token complete now completionNow).records
  | nackDelivery agentId consumerId deliveryId token error delay terminal ackable now =>
    simp only [DeliverySystem.advance]
    cases outcome : system.ledger.nackDelivery agentId consumerId deliveryId token error delay
        terminal ackable now with
    | error _ => exact kept
    | ok result =>
      apply kept.nackDelivery ?_ outcome
      intro same
      exact allowed.marker (congrArg some same)
  | releaseDeliveryForHold agentId consumerId deliveryId token now =>
    exact kept.releaseDeliveryForHold (allowed.hold _ _ _ _ _ rfl)
  | releaseManagedDeliveryAfterTask agentId consumerId deliveryId token owner error terminal
      ackable now =>
    simp only [DeliverySystem.advance]
    cases outcome : system.ledger.releaseManagedDeliveryAfterTask agentId consumerId deliveryId
        token owner error terminal ackable now with
    | error _ => exact kept
    | ok result =>
      apply kept.releaseManagedDeliveryAfterTask ?_ outcome
      intro same
      exact allowed.marker (congrArg some same)
  | startExecution lease =>
    simp only [DeliverySystem.advance]
    by_cases begins : lease ∈ system.startable ∧ lease ∉ system.started
    · rw [if_pos begins]
      exact kept.startExecution begins.1 begins.2
    · rw [if_neg begins]
      exact kept

end

theorem step (kept : system.Kept) (selectors : Selectors) {operation : DeliveryOperation}
    (allowed : system.Allowed operation) : (system.step selectors operation).Kept :=
  (kept.advance selectors allowed).records

end DeliverySystem.Kept

end Kestrel.Signals
