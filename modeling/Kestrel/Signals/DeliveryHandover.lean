import Kestrel.Signals.DeliverySafety

/-!
# How a lease passes on

What one operation does to a row: it leaves terminal rows alone, acknowledges only under a live
lease, and takes a lease away only where its holder gave it up or lost it.
-/

namespace Kestrel.Signals

open List Status Delivery

namespace Delivery

/-- What a row becomes, given which rows lose their lease and which are acknowledged. -/
structure Succession (yields acks : Delivery → Prop) (before after : Delivery) : Prop where
  id : after.deliveryId = before.deliveryId
  final : before.status.isTerminal = true → after = before
  acknowledged : after.status = .acknowledged → before.status = .acknowledged ∨ acks before
  leased : ∀ token, before.status = .leased → before.leaseToken = some token →
    (after.status = .leased ∧ after.leaseToken = some token ∧
      after.leaseOwner = before.leaseOwner) ∨ after.status.isTerminal = true ∨ yields before

namespace Succession

variable {yields acks : Delivery → Prop} {before middle after : Delivery}

theorem refl (delivery : Delivery) : Succession yields acks delivery delivery where
  id := rfl
  final := fun _ => rfl
  acknowledged := Or.inl
  leased := fun _ leased stored => .inl ⟨leased, stored, rfl⟩

theorem of_open (id : after.deliveryId = before.deliveryId)
    (active : before.status.isTerminal = false) (quiet : after.status ≠ .acknowledged)
    (leased : ∀ token, before.status = .leased → before.leaseToken = some token →
      (after.status = .leased ∧ after.leaseToken = some token ∧
        after.leaseOwner = before.leaseOwner) ∨ after.status.isTerminal = true ∨ yields before) :
    Succession yields acks before after where
  id := id
  final := by
    rw [active]
    exact Bool.noConfusion
  acknowledged := fun acknowledged => absurd acknowledged quiet
  leased := leased

/-- What follows neither takes a lease nor acknowledges. -/
theorem trans (first : Succession yields acks before middle)
    (second : Succession (fun _ => False) (fun _ => False) middle after) :
    Succession yields acks before after where
  id := second.id.trans first.id
  final := by
    intro terminal
    have same := first.final terminal
    rw [← same] at terminal
    exact (second.final terminal).trans same
  acknowledged := fun acknowledged =>
    first.acknowledged ((second.acknowledged acknowledged).resolve_right not_false)
  leased := by
    intro token leased stored
    rcases first.leased token leased stored with ⟨held, carried, owned⟩ | terminal | yielded
    · rcases second.leased token held carried with ⟨held', carried', owned'⟩ | terminal | none
      · exact .inl ⟨held', carried', owned'.trans owned⟩
      · exact .inr (.inl terminal)
      · exact none.elim
    · rw [second.final terminal]
      exact .inr (.inl terminal)
    · exact .inr (.inr yielded)

theorem ite {change : Delivery → Delivery} {test : Delivery → Bool}
    (changes : test before = true → Succession yields acks before (change before)) :
    Succession yields acks before (if test before then change before else before) := by
  split_ifs with selected
  · exact changes selected
  · exact refl before

end Succession

end Delivery

/-- The rows of two tables succeed one another, apart from new ones under unused ids. -/
structure Follows (yields acks : Delivery → Prop) (before after : List Delivery) : Prop where
  comes : ∀ row ∈ after, (∃ old ∈ before, Delivery.Succession yields acks old row) ∨
    row.status ≠ .acknowledged ∧ ∀ old ∈ before, old.deliveryId ≠ row.deliveryId
  goes : ∀ old ∈ before, ∃ row ∈ after, Delivery.Succession yields acks old row

namespace Follows

variable {yields acks : Delivery → Prop} {before middle after retired : List Delivery}

theorem of_mem_iff (same : ∀ row, row ∈ after ↔ row ∈ before) :
    Follows yields acks before after where
  comes := fun row member => .inl ⟨row, (same row).mp member, .refl row⟩
  goes := fun row member => ⟨row, (same row).mpr member, .refl row⟩

theorem refl (rows : List Delivery) : Follows yields acks rows rows := of_mem_iff fun _ => Iff.rfl

theorem trans (first : Follows yields acks before middle)
    (second : Follows (fun _ => False) (fun _ => False) middle after) :
    Follows yields acks before after where
  comes := by
    intro row member
    rcases second.comes row member with ⟨between, stored, later⟩ | ⟨quiet, unused⟩
    · rcases first.comes between stored with ⟨old, found, earlier⟩ | ⟨quiet, unused⟩
      · exact .inl ⟨old, found, earlier.trans later⟩
      · refine .inr ⟨?_, ?_⟩
        · intro acknowledged
          exact quiet ((later.acknowledged acknowledged).resolve_right not_false)
        · rw [later.id]
          exact unused
    · refine .inr ⟨quiet, ?_⟩
      intro old found same
      obtain ⟨between, stored, earlier⟩ := first.goes old found
      exact unused between stored (earlier.id.trans same)
  goes := by
    intro old found
    obtain ⟨between, stored, earlier⟩ := first.goes old found
    obtain ⟨row, member, later⟩ := second.goes between stored
    exact ⟨row, member, earlier.trans later⟩

theorem update {change : Delivery → Delivery} {test : Delivery → Bool}
    (changes : ∀ row ∈ before, test row = true → Succession yields acks row (change row)) :
    Follows yields acks (before ++ retired)
      ((before.map fun row => if test row then change row else row) ++ retired) where
  comes := by
    intro row member
    rcases mem_append.mp member with current | old
    · obtain ⟨stored, found, rfl⟩ := mem_map.mp current
      exact .inl ⟨stored, mem_append_left _ found, .ite (changes stored found)⟩
    · exact .inl ⟨row, mem_append_right _ old, .refl row⟩
  goes := by
    intro row member
    rcases mem_append.mp member with current | old
    · exact ⟨_, mem_append_left _ (mem_map_of_mem current), .ite (changes row current)⟩
    · exact ⟨row, mem_append_right _ old, .refl row⟩

theorem insertDelivery (ledger : DeliveryLedger) {delivery : Delivery}
    (quiet : delivery.status ≠ .acknowledged)
    (unused : ∀ old ∈ retired, old.deliveryId ≠ delivery.deliveryId) :
    Follows yields acks (ledger.deliveries ++ retired)
      ((ledger.insertDelivery delivery).deliveries ++ retired) := by
  rcases ledger.insertDelivery_cases delivery with ⟨same, _⟩ | ⟨grown, free⟩
  · rw [same]
    exact refl _
  · rw [grown]
    refine ⟨?_, ?_⟩
    · intro row member
      rcases mem_append.mp member with current | old
      · rcases mem_append.mp current with before | new
        · exact .inl ⟨row, mem_append_left _ before, .refl row⟩
        · obtain rfl := mem_singleton.mp new
          refine .inr ⟨quiet, ?_⟩
          intro other stored
          rcases mem_append.mp stored with current | gone
          · exact (free other current).1
          · exact unused other gone
      · exact .inl ⟨row, mem_append_right _ old, .refl row⟩
    · intro row member
      refine ⟨row, ?_, .refl row⟩
      rcases mem_append.mp member with current | old
      · exact mem_append_left _ (mem_append_left _ current)
      · exact mem_append_right _ old

theorem insertDeliveries (ledger : DeliveryLedger) {deliveries : List Delivery}
    (quiet : ∀ delivery ∈ deliveries, delivery.status ≠ .acknowledged)
    (unused : ∀ delivery ∈ deliveries, ∀ old ∈ retired, old.deliveryId ≠ delivery.deliveryId) :
    Follows (fun _ => False) (fun _ => False) (ledger.deliveries ++ retired)
      ((ledger.insertDeliveries deliveries).deliveries ++ retired) := by
  induction deliveries generalizing ledger with
  | nil => exact refl _
  | cons delivery deliveries ih =>
    apply (insertDelivery ledger (quiet delivery mem_cons_self)
      (unused delivery mem_cons_self)).trans
    exact ih (ledger.insertDelivery delivery)
      (fun later member => quiet later (mem_cons_of_mem _ member))
      (fun later member => unused later (mem_cons_of_mem _ member))

theorem mono {yields' acks' : Delivery → Prop} (follows : Follows yields acks before after)
    (widerYields : ∀ row, yields row → yields' row) (widerAcks : ∀ row, acks row → acks' row) :
    Follows yields' acks' before after := by
  have widened : ∀ {old row}, Succession yields acks old row →
      Succession yields' acks' old row := by
    intro old row succession
    refine ⟨succession.id, succession.final, ?_, ?_⟩
    · intro acknowledged
      exact (succession.acknowledged acknowledged).imp_right (widerAcks old)
    · intro token leased stored
      exact (succession.leased token leased stored).imp_right fun lost =>
        lost.imp_right (widerYields old)
  refine ⟨?_, ?_⟩
  · intro row member
    exact (follows.comes row member).imp_left fun ⟨old, found, succession⟩ =>
      ⟨old, found, widened succession⟩
  · intro old found
    obtain ⟨row, member, succession⟩ := follows.goes old found
    exact ⟨row, member, widened succession⟩

end Follows

def DeliveryOperation.presented : DeliveryOperation → Option Lease
  | .claimInitialDelivery _ _ deliveryId _ token _ _ _ _ => some (deliveryId, token)
  | .abandonInitialReservation _ _ deliveryId _ token _ _ => some (deliveryId, token)
  | .ackDelivery _ _ deliveryId token _ _ _ => some (deliveryId, token)
  | .nackDelivery _ _ deliveryId token _ _ _ _ _ => some (deliveryId, token)
  | .releaseDeliveryForHold _ _ deliveryId token _ => some (deliveryId, token)
  | .releaseManagedDeliveryAfterTask _ _ deliveryId token _ _ _ _ _ => some (deliveryId, token)
  | _ => none

/-- How a row loses its lease. -/
inductive Yielded (ledger : DeliveryLedger) : DeliveryOperation → Delivery → Prop where
  /-- The lease's own token is presented. -/
  | presented {operation : DeliveryOperation} {delivery : Delivery} {token : String} :
      operation.presented = some (delivery.deliveryId, token) →
      delivery.leaseToken = some token → Yielded ledger operation delivery
  /-- The owner gives its pending admissions back. -/
  | owned {delivery : Delivery} {agentId ownerId : String} {now : ℕ} :
      delivery.leaseOwner = some ownerId →
      Yielded ledger (.recoverOwnedPendingCognitionAdmissions agentId ownerId now) delivery
  /-- The lease expired, and its owner is not a dispatcher with a live record. -/
  | expired {delivery : Delivery} {agentId consumerId : String} {eventId : Option String}
      {executorId : String} {recoveryNow effectiveNow staleBefore : ℕ} {pending : Bool}
      {withheld : String → Bool} {secrets : ℕ → String} :
      delivery.leaseExpiresAt.any (· ≤ recoveryNow) = true →
      ¬(delivery.leaseOwner.any (likeDispatcher ledger.backend) = true ∧
        ledger.ownerIsLive delivery staleBefore = true) →
      Yielded ledger (.claimDelivery agentId consumerId eventId executorId recoveryNow effectiveNow
        staleBefore pending withheld secrets) delivery
  /-- The owning dispatcher's record is stopped or stale. -/
  | gone {delivery : Delivery} {agentId recovering : String} {staleBefore now : ℕ} :
      ledger.ownerIsGone delivery staleBefore = true →
      Yielded ledger (.recoverAbandonedLeases agentId recovering staleBefore now) delivery

/-- An acknowledgement under the row's live lease. -/
def Acknowledges (operation : DeliveryOperation) (delivery : Delivery) : Prop :=
  ∃ agentId consumerId token complete now completionNow,
    operation = .ackDelivery agentId consumerId delivery.deliveryId token complete now
      completionNow ∧ delivery.isLive token now = true

namespace Delivery

variable {yields acks : Delivery → Prop} {delivery : Delivery}

theorem active_of_leased (leased : delivery.status = .leased) :
    delivery.status.isTerminal = false := by
  rw [leased]
  rfl

theorem succession_requeue (waiting : delivery.status = .initialReserved ∨
      delivery.status = .leased ∧ yields delivery) (now : ℕ) (error : String) :
    Succession yields acks delivery (delivery.requeue now error) := by
  rcases waiting with reserved | ⟨leased, yielded⟩
  · refine Succession.of_open rfl (by rw [reserved]; rfl) noConfusion ?_
    intro token leased
    cases reserved.symm.trans leased
  · exact Succession.of_open rfl (active_of_leased leased) noConfusion
      fun _ _ _ => .inr (.inr yielded)

theorem succession_recover (leased : delivery.status = .leased) (yielded : yields delivery)
    (now : ℕ) (pendingError otherError : String) :
    Succession yields acks delivery (delivery.recover now pendingError otherError) := by
  refine Succession.of_open rfl (active_of_leased leased) ?_ ?_
  · unfold recover
    dsimp only
    split_ifs <;> exact noConfusion
  · exact fun _ _ _ => .inr (.inr yielded)

theorem succession_defer (leased : delivery.status = .leased) (yielded : yields delivery)
    (now : ℕ) (keeps : Bool) : Succession yields acks delivery (delivery.defer now keeps) :=
  Succession.of_open rfl (active_of_leased leased) noConfusion fun _ _ _ => .inr (.inr yielded)

theorem succession_settle (active : delivery.status.isTerminal = false) (yielded : yields delivery)
    (backend : DatabaseBackend) (now retryAt : ℕ) (error : String) (terminal ackable : Bool) :
    Succession yields acks delivery
      (delivery.settle backend now retryAt error terminal ackable) := by
  refine Succession.of_open rfl active ?_ ?_
  · unfold settle
    dsimp only
    split_ifs <;> exact noConfusion
  · exact fun _ _ _ => .inr (.inr yielded)

theorem succession_acknowledge (leased : delivery.status = .leased) (acked : acks delivery)
    (now : ℕ) : Succession yields acks delivery (delivery.acknowledge now) where
  id := rfl
  final := by
    rw [active_of_leased leased]
    exact Bool.noConfusion
  acknowledged := fun _ => .inr acked
  leased := fun _ _ _ => .inr (.inl rfl)

theorem succession_lease (active : delivery.status.isTerminal = false)
    (yielded : delivery.status = .leased → yields delivery) (executorId token : String)
    (expiresAt now : ℕ) (pending : Bool) :
    Succession yields acks delivery (delivery.lease executorId token expiresAt now pending) :=
  Succession.of_open rfl active noConfusion fun _ leased _ => .inr (.inr (yielded leased))

theorem succession_activate (reserved : delivery.status = .initialReserved) (expiresAt now : ℕ) :
    Succession yields acks delivery (delivery.activate expiresAt now) := by
  refine Succession.of_open rfl (by rw [reserved]; rfl) noConfusion ?_
  intro token leased
  cases reserved.symm.trans leased

theorem succession_renew (leased : delivery.status = .leased) (expiresAt now : ℕ) :
    Succession yields acks delivery (delivery.renew expiresAt now) := by
  refine Succession.of_open rfl (active_of_leased leased) ?_ ?_
  · change delivery.status ≠ .acknowledged
    rw [leased]
    exact noConfusion
  · exact fun _ _ stored => .inl ⟨leased, stored, rfl⟩

theorem succession_begin (leased : delivery.status = .leased) (now : ℕ) :
    Succession yields acks delivery (delivery.begin now) := by
  refine Succession.of_open rfl (active_of_leased leased) ?_ ?_
  · change delivery.status ≠ .acknowledged
    rw [leased]
    exact noConfusion
  · exact fun _ _ stored => .inl ⟨leased, stored, rfl⟩

theorem succession_deactivate (active : delivery.status.isTerminal = false) (now : ℕ) :
    Succession yields acks delivery (delivery.deactivate now) :=
  Succession.of_open rfl active noConfusion fun _ _ _ => .inr (.inl rfl)

end Delivery

namespace DeliveryLedger

variable {yields acks : Delivery → Prop} {retired : List Delivery}

theorem follows_deactivateConsumer (ledger : DeliveryLedger) (agentId consumerId : String)
    (now : ℕ) : Follows yields acks (ledger.deliveries ++ retired)
      ((ledger.deactivateConsumer agentId consumerId now).2.deliveries ++ retired) := by
  unfold deactivateConsumer
  cases ledger.getConsumer agentId consumerId with
  | none => exact .refl _
  | some consumer =>
    dsimp only
    by_cases active : consumer.active = true
    · rw [if_pos active]
      apply Follows.update
      intro row _ selected
      exact succession_deactivate (of_decide_eq_true selected).2.2 now
    · rw [if_neg active]
      exact .refl _

variable {secrets : ℕ → String}

section

variable (ledger : DeliveryLedger)

include ledger

theorem follows_backfillConsumer (selectors : Selectors) (consumer : DurableConsumerRegistration)
    (now : ℕ) (unused : ∀ index, ∀ old ∈ retired, old.deliveryId ≠ secrets index) :
    Follows (fun _ => False) (fun _ => False) (ledger.deliveries ++ retired)
      ((ledger.backfillConsumer selectors consumer now secrets).deliveries ++ retired) := by
  unfold backfillConsumer
  split_ifs
  · apply Follows.insertDeliveries
    · intro delivery member
      obtain ⟨index, _, rfl⟩ := mem_mapIdx.mp member
      exact noConfusion
    · intro delivery member
      obtain ⟨index, _, rfl⟩ := mem_mapIdx.mp member
      exact unused (index + 1)
  · exact .refl _

theorem follows_prepareClaim (selectors : Selectors) (consumer : DurableConsumerRegistration)
    (eventId : Option String) (now staleBefore : ℕ)
    (unused : ∀ index, ∀ old ∈ retired, old.deliveryId ≠ secrets index)
    (yielded : ∀ row, row.leaseExpiresAt.any (· ≤ now) = true →
      ¬(row.leaseOwner.any (likeDispatcher ledger.backend) = true ∧
        ledger.ownerIsLive row staleBefore = true) → yields row) :
    Follows yields acks (ledger.deliveries ++ retired)
      ((ledger.prepareClaim selectors consumer eventId now staleBefore secrets).deliveries ++
        retired) := by
  have recovered : Follows yields acks (ledger.deliveries ++ retired)
      ((ledger.recoverExpiredLeases consumer.agentId consumer.consumerId now
        staleBefore).deliveries ++ retired) := by
    apply Follows.update
    intro row _ selected
    obtain ⟨_, _, leased, expired, unowned⟩ := of_decide_eq_true selected
    exact succession_recover leased (yielded row expired unowned) now _ _
  cases eventId with
  | some _ => exact recovered
  | none => exact recovered.trans (follows_backfillConsumer _ selectors consumer now unused)

theorem follows_claimLocked (consumer : DurableConsumerRegistration)
    (deliveryId executorId token : String) (now staleBefore : ℕ) (pending : Bool) :
    Follows (fun _ => False) (fun _ => False) (ledger.deliveries ++ retired)
      ((ledger.claimLocked consumer deliveryId executorId token now staleBefore
        pending).2.deliveries ++ retired) := by
  apply Follows.update
  intro row _ selected
  obtain ⟨claimable, _⟩ := of_decide_eq_true (of_decide_eq_true selected).2
  apply succession_lease (not_terminal_of_claimable claimable)
  intro leased
  rw [leased] at claimable
  cases claimable

theorem follows_claimDelivery (selectors : Selectors) (agentId consumerId : String)
    (eventId : Option String) (executorId : String) (recoveryNow effectiveNow staleBefore : ℕ)
    (pending : Bool) (withheld : String → Bool)
    (unused : ∀ index, ∀ old ∈ retired, old.deliveryId ≠ secrets index)
    (yielded : ∀ row, row.leaseExpiresAt.any (· ≤ recoveryNow) = true →
      ¬(row.leaseOwner.any (likeDispatcher ledger.backend) = true ∧
        ledger.ownerIsLive row staleBefore = true) → yields row) :
    Follows yields acks (ledger.deliveries ++ retired)
      ((ledger.claimDelivery selectors agentId consumerId eventId executorId recoveryNow
        effectiveNow staleBefore pending withheld secrets).2.deliveries ++ retired) := by
  unfold claimDelivery
  cases ledger.activeConsumer agentId consumerId with
  | none => exact .refl _
  | some consumer =>
    have prepared : Follows yields acks _ _ := ledger.follows_prepareClaim selectors consumer
      eventId recoveryNow staleBefore unused yielded
    dsimp only
    cases (ledger.prepareClaim selectors consumer eventId recoveryNow staleBefore
        secrets).lockClaimableDelivery agentId consumerId eventId executorId recoveryNow
        staleBefore withheld with
    | none => exact prepared
    | some deliveryId => exact prepared.trans (follows_claimLocked ..)

theorem follows_ackDelivery (agentId consumerId deliveryId token : String) (complete : Bool)
    (now completionNow : ℕ)
    (acked : ∀ row, row.deliveryId = deliveryId → row.isLive token now = true → acks row) :
    Follows yields acks (ledger.deliveries ++ retired)
      ((ledger.ackDelivery agentId consumerId deliveryId token complete now
        completionNow).2.deliveries ++ retired) := by
  unfold ackDelivery
  split_ifs
  · exact .refl _
  · have acknowledged : Follows yields acks (ledger.deliveries ++ retired)
        ((ledger.tryUpdate (fun delivery => delivery.named agentId consumerId deliveryId ∧
          delivery.isLive token now) (·.acknowledge now)).2.deliveries ++ retired) := by
      apply Follows.update
      intro row _ selected
      obtain ⟨named, live⟩ := of_decide_eq_true selected
      exact succession_acknowledge (of_decide_eq_true live).1
        (acked row (of_decide_eq_true named).2.2 live) now
    dsimp only
    split_ifs
    · exact acknowledged.trans (follows_deactivateConsumer ..)
    · exact acknowledged

end

end DeliveryLedger

end Kestrel.Signals
