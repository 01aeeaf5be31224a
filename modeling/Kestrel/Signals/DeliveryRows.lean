import Kestrel.Signals.DeliveryBudget
import Kestrel.Signals.SourceNumbering
import Mathlib.Data.List.Nodup

/-!
# The delivery table under its writes

Insertions and conditional updates keep the names of rows, and what the rows promise.
-/

namespace Kestrel.Signals

open List Except Delivery

/-- The delivery table and the rows deleted from it, with what they promise. -/
structure Rows (deliveries retired : List Delivery) (reservations : List String)
    (startable : List Lease) : Prop where
  ids : ((deliveries ++ retired).map Delivery.deliveryId).Nodup
  keys : (deliveries.map Delivery.key).Nodup
  accounted : ∀ delivery ∈ deliveries ++ retired, delivery.Accounted reservations startable

variable {change : Delivery → Delivery}

namespace Rows

variable {deliveries retired : List Delivery} {reservations : List String}
  {startable : List Lease}

section

variable (rows : Rows deliveries retired reservations startable)

include rows

theorem eq_of_id {first second : Delivery} (member : first ∈ deliveries ++ retired)
    (member' : second ∈ deliveries ++ retired) (same : first.deliveryId = second.deliveryId)
    : first = second :=
  inj_on_of_nodup_map rows.ids member member' same

theorem id_ne_retired {delivery old : Delivery} (member : delivery ∈ deliveries)
    (gone : old ∈ retired) :
    old.deliveryId ≠ delivery.deliveryId := by
  have distinct := rows.ids
  rw [map_append, nodup_append] at distinct
  intro same
  exact distinct.2.2 _ (mem_map_of_mem member) _ (mem_map_of_mem gone) same.symm

theorem update
    (sameId : ∀ delivery, (change delivery).deliveryId = delivery.deliveryId)
    (sameKey : ∀ delivery, (change delivery).key = delivery.key) {reservations' : List String}
    {startable' : List Lease} (accounted : ∀ delivery ∈ deliveries,
      (change delivery).Accounted reservations' startable')
    (archived : ∀ delivery ∈ retired, delivery.Accounted reservations' startable') :
    Rows (deliveries.map change) retired reservations' startable' where
  ids := by
    rw [map_append, map_map]
    have same : deliveries.map (deliveryId ∘ change) =
        deliveries.map deliveryId :=
      map_congr_left fun delivery _ => sameId delivery
    rw [same, ← map_append]
    exact rows.ids
  keys := by
    rw [map_map]
    exact (map_congr_left fun delivery _ => sameKey delivery) ▸ rows.keys
  accounted := by
    intro delivery member
    rcases mem_append.mp member with current | old
    · obtain ⟨before, stored, rfl⟩ := mem_map.mp current
      exact accounted before stored
    · exact archived delivery old

theorem delete (test : Delivery → Bool) :
    Rows (deliveries.filter test) (retired ++ deliveries.filter fun delivery => !test delivery)
      reservations startable := by
  have same : (deliveries.filter test ++
      (retired ++ deliveries.filter fun delivery => !test delivery)).Perm
        (deliveries ++ retired) := by
    apply (perm_append_comm.append_left _).trans
    rw [← append_assoc]
    exact (filter_append_perm test deliveries).append_right retired
  refine ⟨?_, ?_, ?_⟩
  · exact (same.map deliveryId).nodup_iff.mpr rows.ids
  · exact rows.keys.sublist (filter_sublist.map _)
  · intro delivery member
    exact rows.accounted delivery (same.mem_iff.mp member)

theorem reserve {tokens : List String}
    (unused : ∀ delivery ∈ deliveries ++ retired, ∀ token ∈ tokens,
      delivery.leaseToken ≠ some token) :
    Rows deliveries retired (reservations ++ tokens) startable where
  ids := rows.ids
  keys := rows.keys
  accounted := by
    intro delivery member
    apply (rows.accounted delivery member).congr ?_ (fun _ => Iff.rfl) rfl
    intro token stored
    rw [mem_append, or_iff_left]
    intro reserved
    exact unused delivery member token reserved stored

end

end Rows

namespace DeliveryLedger

theorem insertDelivery_cases (ledger : DeliveryLedger) (delivery : Delivery) :
    (ledger.insertDelivery delivery = ledger ∧ ∃ other ∈ ledger.deliveries,
        other.deliveryId = delivery.deliveryId ∨ other.key = delivery.key) ∨
      (ledger.insertDelivery delivery).deliveries = ledger.deliveries ++ [delivery] ∧
        ∀ other ∈ ledger.deliveries,
          other.deliveryId ≠ delivery.deliveryId ∧ other.key ≠ delivery.key := by
  unfold insertDelivery
  by_cases conflict : (ledger.deliveries.any fun other =>
      decide (other.deliveryId = delivery.deliveryId ∨ other.key = delivery.key)) = true
  · rw [if_pos conflict]
    obtain ⟨other, member, same⟩ := any_eq_true.mp conflict
    exact .inl ⟨rfl, other, member, of_decide_eq_true same⟩
  · rw [if_neg conflict]
    refine .inr ⟨rfl, ?_⟩
    intro other member
    rw [← not_or]
    intro same
    exact conflict (any_eq_true.mpr ⟨other, member, decide_eq_true same⟩)

theorem subset_insertDelivery (ledger : DeliveryLedger) (delivery : Delivery) :
    ledger.deliveries ⊆ (ledger.insertDelivery delivery).deliveries := by
  rcases ledger.insertDelivery_cases delivery with ⟨same, _⟩ | ⟨grown, _⟩
  · rw [same]
    exact Subset.refl _
  · rw [grown]
    exact subset_append_left _ _

variable {ledger : DeliveryLedger}

variable {delivery other : Delivery} {deliveries : List Delivery}

theorem mem_insertDelivery (member : other ∈ (ledger.insertDelivery delivery).deliveries) :
    other ∈ ledger.deliveries ∨ other = delivery := by
  rcases ledger.insertDelivery_cases delivery with ⟨same, _⟩ | ⟨grown, _⟩
  · rw [same] at member
    exact .inl member
  · rw [grown] at member
    exact (mem_append.mp member).imp_right mem_singleton.mp

theorem subset_insertDeliveries (ledger : DeliveryLedger) (deliveries : List Delivery) :
    ledger.deliveries ⊆ (ledger.insertDeliveries deliveries).deliveries := by
  induction deliveries generalizing ledger with
  | nil => exact Subset.refl _
  | cons delivery deliveries ih =>
    exact Subset.trans (ledger.subset_insertDelivery delivery)
      (ih (ledger.insertDelivery delivery))

theorem mem_insertDeliveries (member : other ∈ (ledger.insertDeliveries deliveries).deliveries) :
    other ∈ ledger.deliveries ∨ other ∈ deliveries := by
  induction deliveries generalizing ledger with
  | nil => exact .inl member
  | cons delivery deliveries ih =>
    rcases ih member with old | new
    · rcases mem_insertDelivery old with older | rfl
      · exact .inl older
      · exact .inr mem_cons_self
    · exact .inr (mem_cons_of_mem _ new)

theorem history_insertDeliveries (ledger : DeliveryLedger) (deliveries : List Delivery) :
    (ledger.insertDeliveries deliveries).history = ledger.history := by
  induction deliveries generalizing ledger with
  | nil => rfl
  | cons delivery deliveries ih =>
    refine (ih (ledger.insertDelivery delivery)).trans ?_
    unfold insertDelivery
    split_ifs <;> rfl

theorem exists_insertDeliveries (distinct : (deliveries.map deliveryId).Nodup)
    (unused : ∀ delivery ∈ deliveries, ∀ other ∈ ledger.deliveries,
      other.deliveryId ≠ delivery.deliveryId) (member : delivery ∈ deliveries) :
    ∃ other ∈ (ledger.insertDeliveries deliveries).deliveries, other.key = delivery.key := by
  induction deliveries generalizing ledger with
  | nil => cases member
  | cons first deliveries ih =>
    rw [map_cons, nodup_cons] at distinct
    rcases mem_cons.mp member with rfl | later
    · have free := unused delivery mem_cons_self
      rcases ledger.insertDelivery_cases delivery with
        ⟨same, other, stored, conflict⟩ | ⟨grown, _⟩
      · refine ⟨other, ?_, conflict.resolve_left (free other stored)⟩
        apply subset_insertDeliveries (ledger.insertDelivery delivery) deliveries
        rw [same]
        exact stored
      · refine ⟨delivery, ?_, rfl⟩
        apply subset_insertDeliveries (ledger.insertDelivery delivery) deliveries
        rw [grown]
        exact mem_append_right _ (mem_singleton.mpr rfl)
    · apply ih distinct.2 ?_ later
      intro next nextMember other stored
      rcases mem_insertDelivery stored with old | rfl
      · exact unused next (mem_cons_of_mem _ nextMember) other old
      · intro same
        exact distinct.1 (same ▸ mem_map_of_mem nextMember)

end DeliveryLedger

theorem Delivery.accounted_inserted {reservations : List String} {startable : List Lease}
    {deliveryId : String} (key : DeliveryKey) (maxAttempts now : ℕ)
    {reservation : Option (String × String)}
    (unused : ∀ lease ∈ startable, lease.1 ≠ deliveryId)
    (reserved : ∀ pair ∈ reservation, pair.2 ∈ reservations) :
    (inserted deliveryId key maxAttempts now reservation).Accounted reservations
      startable where
  marker := Bool.noConfusion
  reserved := by
    intro waiting
    cases reservation with
    | none => cases waiting
    | some pair => exact ⟨pair.2, rfl, reserved pair rfl⟩
  untouched := fun _ _ _ => rfl
  leased := by
    intro token leased
    cases reservation <;> cases leased
  paid := by
    have none : leasesOf startable deliveryId = 0 := by
      apply countP_eq_zero.mpr
      intro lease stored
      simpa using unused lease stored
    change leasesOf startable deliveryId + 0 ≤ 0
    rw [none]
  bounded := fun _ => Nat.zero_le _

namespace Rows

variable {ledger : DeliveryLedger} {retired : List Delivery} {reservations : List String}
  {startable : List Lease}

theorem insertDelivery (rows : Rows ledger.deliveries retired reservations startable)
    {delivery : Delivery} (accounted : delivery.Accounted reservations startable)
    (unused : ∀ old ∈ retired, old.deliveryId ≠ delivery.deliveryId) :
    Rows (ledger.insertDelivery delivery).deliveries retired reservations startable := by
  rcases ledger.insertDelivery_cases delivery with ⟨same, _⟩ | ⟨grown, free⟩
  · rw [same]
    exact rows
  · rw [grown]
    have moved : (ledger.deliveries ++ [delivery] ++ retired).Perm
        (delivery :: (ledger.deliveries ++ retired)) := by
      rw [append_assoc, singleton_append]
      exact perm_middle
    refine ⟨?_, ?_, ?_⟩
    · apply (moved.map deliveryId).nodup_iff.mpr
      rw [map_cons, nodup_cons]
      refine ⟨?_, rows.ids⟩
      intro member
      obtain ⟨other, stored, same⟩ := mem_map.mp member
      rcases mem_append.mp stored with current | old
      · exact (free other current).1 same
      · exact unused other old same
    · rw [map_append, nodup_append]
      refine ⟨rows.keys, nodup_singleton _, ?_⟩
      intro key member other single same
      obtain ⟨before, stored, rfl⟩ := mem_map.mp member
      exact (free before stored).2 (same.trans (mem_singleton.mp single))
    · intro other member
      rcases mem_cons.mp (moved.mem_iff.mp member) with rfl | old
      · exact accounted
      · exact rows.accounted other old

theorem insertDeliveries (rows : Rows ledger.deliveries retired reservations startable)
    {deliveries : List Delivery}
    (accounted : ∀ delivery ∈ deliveries, delivery.Accounted reservations startable)
    (unused : ∀ delivery ∈ deliveries, ∀ old ∈ retired, old.deliveryId ≠ delivery.deliveryId) :
    Rows (ledger.insertDeliveries deliveries).deliveries retired reservations startable := by
  induction deliveries generalizing ledger with
  | nil => exact rows
  | cons delivery deliveries ih =>
    exact ih (rows.insertDelivery (accounted delivery mem_cons_self)
        (unused delivery mem_cons_self))
      (fun later member => accounted later (mem_cons_of_mem _ member))
      (fun later member => unused later (mem_cons_of_mem _ member))

end Rows

/-- An update of rows that keeps their names. -/
structure Renames (change : Delivery → Delivery) : Prop where
  id : ∀ delivery, (change delivery).deliveryId = delivery.deliveryId
  key : ∀ delivery, (change delivery).key = delivery.key

theorem Renames.ite (renames : Renames change)
    (test : Delivery → Bool) :
    Renames fun delivery => if test delivery then change delivery else delivery where
  id := by
    intro delivery
    split_ifs
    · exact renames.id delivery
    · rfl
  key := by
    intro delivery
    split_ifs
    · exact renames.key delivery
    · rfl

theorem renames_requeue (now : ℕ) (error : String) :
    Renames (requeue · now error) := ⟨fun _ => rfl, fun _ => rfl⟩

theorem renames_recover (now : ℕ) (pendingError otherError : String) :
    Renames (recover · now pendingError otherError) := ⟨fun _ => rfl, fun _ => rfl⟩

theorem renames_defer (now : ℕ) (keeps : Delivery → Bool) :
    Renames fun delivery => delivery.defer now (keeps delivery) := ⟨fun _ => rfl, fun _ => rfl⟩

theorem renames_settle (backend : DatabaseBackend) (now retryAt : ℕ) (error : String)
    (terminal ackable : Bool) :
    Renames (settle · backend now retryAt error terminal ackable) :=
  ⟨fun _ => rfl, fun _ => rfl⟩

theorem renames_acknowledge (now : ℕ) : Renames (acknowledge · now) :=
  ⟨fun _ => rfl, fun _ => rfl⟩

theorem renames_lease (executorId token : String) (expiresAt now : ℕ) (pending : Bool) :
    Renames (lease · executorId token expiresAt now pending) :=
  ⟨fun _ => rfl, fun _ => rfl⟩

theorem renames_activate (expiresAt now : ℕ) : Renames (activate · expiresAt now) :=
  ⟨fun _ => rfl, fun _ => rfl⟩

theorem renames_renew (expiresAt now : ℕ) : Renames (renew · expiresAt now) :=
  ⟨fun _ => rfl, fun _ => rfl⟩

theorem renames_begin (now : ℕ) : Renames (begin · now) := ⟨fun _ => rfl, fun _ => rfl⟩

theorem renames_deactivate (now : ℕ) : Renames (deactivate · now) :=
  ⟨fun _ => rfl, fun _ => rfl⟩

theorem Renames.eventId (renames : Renames change)
    (delivery : Delivery) : (change delivery).eventId = delivery.eventId :=
  congrArg DeliveryKey.eventId (renames.key delivery)

namespace DeliveryLedger

variable {ledger : DeliveryLedger} {now : ℕ} {secrets : ℕ → String}

variable {ledger' : DeliveryLedger}

theorem registerConsumer_eq_ok {selectors : Selectors}
    {registration : DurableConsumerRegistration}
    (registered : ledger.registerConsumer selectors registration now secrets = .ok ledger') :
    ∃ stored : DeliveryLedger, stored.deliveries = ledger.deliveries ∧
      stored.history = ledger.history ∧
      (ledger' = stored ∨ ledger' = stored.backfillConsumer selectors registration now secrets) := by
  unfold registerConsumer at registered
  obtain ⟨_, _, registered⟩ := bind_eq_ok.mp registered
  obtain ⟨_, _, registered⟩ := bind_eq_ok.mp registered
  obtain ⟨_, _, registered⟩ := bind_eq_ok.mp registered
  obtain ⟨_, registered⟩ := require_bind_eq_ok.mp registered
  obtain ⟨_, registered⟩ := require_bind_eq_ok.mp registered
  obtain ⟨_, registered⟩ := require_bind_eq_ok.mp registered
  cases registered
  by_cases active : registration.active = true
  · rw [if_pos active]
    refine ⟨_, ?_, ?_, .inr rfl⟩
    all_goals
      split_ifs <;> rfl
  · rw [if_neg active]
    refine ⟨_, ?_, ?_, .inl rfl⟩
    all_goals
      split_ifs <;> rfl

variable {signal : Signal} {persistence : DurableEventPersistence}

theorem persistSignal_eq_ok {accepts : Option String → Bool}
    {owner : Option String} {completion : Except SignalError Unit}
    (created : persistence.created = true)
    (persisted : ledger.persistSignal signal accepts owner now completion secrets =
      .ok (persistence, ledger')) :
    ∃ history : Ledger, (ledger.history.events ⊆ history.events ∧
        ∃ event ∈ history.events, event.eventId = signal.id) ∧
      ledger' = { ledger with history := history }.insertDeliveries
        (initialDeliveries (ledger.matching signal.scope accepts) signal.id now owner secrets) := by
  unfold persistSignal at persisted
  obtain ⟨_, _, persisted⟩ := bind_eq_ok.mp persisted
  obtain ⟨⟨_, history⟩, stored, persisted⟩ := bind_eq_ok.mp persisted
  cases persisted
  rw [if_pos created]
  refine ⟨history, ?_, rfl⟩
  rcases Ledger.persistSignal_eq_ok stored with ⟨existing, _⟩ | ⟨_, event, named, _, _, rfl, _⟩
  · rw [created] at existing
    cases existing
  · exact ⟨subset_append_left _ _, event, mem_append_right _ mem_cons_self, named⟩

theorem persistSignal_eq_ok_of_known {accepts : Option String → Bool}
    {owner : Option String} {completion : Except SignalError Unit}
    (known : persistence.created = false)
    (persisted : ledger.persistSignal signal accepts owner now completion secrets =
      .ok (persistence, ledger')) : ledger' = ledger := by
  unfold persistSignal at persisted
  obtain ⟨_, _, persisted⟩ := bind_eq_ok.mp persisted
  obtain ⟨⟨_, history⟩, stored, persisted⟩ := bind_eq_ok.mp persisted
  cases persisted
  rw [known, if_neg Bool.false_ne_true]
  rcases Ledger.persistSignal_eq_ok stored with ⟨_, rfl⟩ | ⟨created, _⟩
  · rfl
  · rw [known] at created
    cases created

theorem nodup_initialDeliveries (injective : Function.Injective secrets)
    (consumers : List DurableConsumerRegistration) (eventId : String) (now : ℕ)
    (owner : Option String) :
    ((initialDeliveries consumers eventId now owner secrets).map deliveryId).Nodup := by
  apply pairwise_iff_getElem.mpr
  intro first second _ _ earlier same
  simp only [initialDeliveries, getElem_map, getElem_mapIdx] at same
  have equal : 2 * first = 2 * second := injective same
  omega

theorem tryUpdate_cases (ledger : DeliveryLedger) (test : Delivery → Bool)
    (change : Delivery → Delivery) :
    ((ledger.tryUpdate test change).1 = true ∧ ∃ target ∈ ledger.deliveries, test target = true) ∨
      (ledger.tryUpdate test change).1 = false ∧
        (ledger.tryUpdate test change).2.deliveries = ledger.deliveries := by
  unfold tryUpdate
  cases found : ledger.deliveries.any test with
  | true => exact .inl ⟨rfl, any_eq_true.mp found⟩
  | false =>
    refine .inr ⟨rfl, ?_⟩
    calc (ledger.update test change).deliveries
        = ledger.deliveries.map id := by
          apply map_congr_left
          intro delivery member
          rw [if_neg (any_eq_false.mp found delivery member)]
          rfl
      _ = ledger.deliveries := map_id _

theorem deliveries_tryUpdate (ledger : DeliveryLedger) (test : Delivery → Bool)
    (change : Delivery → Delivery) :
    (ledger.tryUpdate test change).2.deliveries =
      ledger.deliveries.map fun delivery => if test delivery then change delivery else delivery :=
  rfl

end DeliveryLedger

end Kestrel.Signals
