import Kestrel.Signals.DeliveryHandover
import Mathlib.Data.List.Perm.Subperm

/-!
# The contract of durable deliveries
-/

namespace Kestrel.Signals

open List Except DeliverySystem DeliveryLedger Delivery Transition

namespace DeliverySystem

variable {system : DeliverySystem} {operation : DeliveryOperation}

theorem Unused.retired {secret : String} (unused : system.Unused secret) :
    ∀ old ∈ system.retired, old.deliveryId ≠ secret :=
  fun old gone => unused.deliveries old (mem_append_right _ gone)

theorem follows_retain {yields acks : Delivery → Prop} (system : DeliverySystem)
    (history : Ledger) :
    Follows yields acks system.everyRow (system.retain (system.ledger.cascade history)).everyRow := by
  apply Follows.of_mem_iff
  intro row
  simp only [everyRow, retain, cascade, mem_append, mem_filter]
  cases history.events.any fun event => decide (event.eventId = row.eventId) <;> simp [or_comm]

/-- What one operation does to the rows. -/
theorem Allowed.follows (allowed : system.Allowed operation) (selectors : Selectors) :
    Follows (Yielded system.ledger operation) (Acknowledges operation) system.everyRow
      (system.step selectors operation).everyRow := by
  change Follows _ _ _ (system.advance selectors operation).everyRow
  have silent : ∀ {rows rows' : List Delivery},
      Follows (fun _ => False) (fun _ => False) rows rows' →
        Follows (Yielded system.ledger operation) (Acknowledges operation) rows rows' :=
    fun follows => follows.mono (fun _ none => none.elim) (fun _ none => none.elim)
  cases operation with
  | registerConsumer registration now secrets =>
    simp only [advance]
    cases outcome : system.ledger.registerConsumer selectors registration now secrets with
    | error _ => exact .refl _
    | ok ledger =>
      have unused := (allowed.fresh secrets rfl).2
      unfold everyRow
      obtain ⟨stored, same, _, rfl | rfl⟩ := registerConsumer_eq_ok outcome
      · rw [same]
        exact .refl _
      · rw [← same]
        exact silent (follows_backfillConsumer stored selectors registration now
          fun index => (unused index).retired)
  | deactivateConsumer agentId consumerId now =>
    exact system.ledger.follows_deactivateConsumer agentId consumerId now
  | persistSignal signal accepts owner now completion secrets =>
    have unused := (allowed.fresh secrets rfl).2
    simp only [advance]
    cases outcome : system.ledger.persistSignal signal accepts owner now completion secrets with
    | error _ => exact .refl _
    | ok result =>
      obtain ⟨persistence, ledger⟩ := result
      dsimp only
      by_cases created : persistence.created = true
      · rw [if_pos created]
        obtain ⟨history, _, rfl⟩ := persistSignal_eq_ok created outcome
        apply silent
        apply Follows.insertDeliveries { system.ledger with history := history }
        · intro delivery member
          obtain ⟨index, _, rfl⟩ := mem_mapIdx.mp member
          unfold inserted
          split_ifs <;> exact Status.noConfusion
        · intro delivery member
          obtain ⟨index, _, rfl⟩ := mem_mapIdx.mp member
          exact (unused (2 * index)).retired
      · rw [if_neg created]
        rw [persistSignal_eq_ok_of_known (by simpa using created) outcome]
        exact .refl _
  | purgeExpired agentId source limit now =>
    simp only [advance]
    cases outcome : system.ledger.purgeExpired agentId source limit now with
    | error _ => exact .refl _
    | ok result =>
      obtain ⟨_, _, same⟩ := bind_eq_ok.mp outcome
      cases same
      exact follows_retain ..
  | retireSourceHistory boundary =>
    simp only [advance]
    cases outcome : system.ledger.retireSourceHistory boundary with
    | error _ => exact .refl _
    | ok result =>
      obtain ⟨_, _, same⟩ := bind_eq_ok.mp outcome
      cases same
      exact follows_retain ..
  | claimDelivery agentId consumerId eventId executorId recoveryNow effectiveNow staleBefore
      pending withheld secrets =>
    have unused := (allowed.fresh secrets rfl).2
    exact system.ledger.follows_claimDelivery selectors agentId consumerId eventId executorId
      recoveryNow effectiveNow staleBefore pending withheld (fun index => (unused index).retired)
      fun _ => .expired
  | renewDeliveryLease agentId consumerId deliveryId token now =>
    simp only [advance, renewDeliveryLease]
    cases system.ledger.activeConsumer agentId consumerId with
    | none => exact .refl _
    | some consumer =>
      apply Follows.update
      intro row _ selected
      have live := (of_decide_eq_true selected).2
      exact succession_renew (of_decide_eq_true live).1 _ now
  | claimInitialDelivery agentId consumerId deliveryId owner token executorId now pending
      secrets =>
    change Follows _ _ _ ((system.ledger.claimInitialDelivery agentId consumerId deliveryId owner
      token executorId now pending secrets).2.deliveries ++ system.retired)
    unfold claimInitialDelivery
    cases system.ledger.activeConsumer agentId consumerId with
    | none => exact .refl _
    | some consumer =>
      apply Follows.update
      intro row _ selected
      obtain ⟨named, live, _⟩ := of_decide_eq_true selected
      obtain ⟨leased, stored, _⟩ := of_decide_eq_true live
      apply succession_lease (active_of_leased leased)
      intro _
      exact .presented (congrArg (fun id => some (id, token))
        (of_decide_eq_true named).2.2.symm) stored
  | activateInitialDelivery agentId consumerId deliveryId owner token touchNow activationNow =>
    simp only [advance, activateInitialDelivery]
    cases system.ledger.activeConsumer agentId consumerId with
    | none => exact .refl _
    | some consumer =>
      simp only [everyRow, deliveries_tryUpdate]
      rw [Kept.deliveries_touchRuntimeOwner]
      apply Follows.update
      intro row _ selected
      exact succession_activate (of_decide_eq_true selected).2.1 _ activationNow
  | touchRuntimeOwner agentId ownerId now =>
    simp only [advance, everyRow, Kept.deliveries_touchRuntimeOwner]
    exact .refl _
  | releaseInitialReservations agentId ownerId now stopped =>
    simp only [advance, releaseInitialReservations]
    split_ifs
    · exact .refl _
    all_goals
      apply Follows.update
      intro row _ selected
      exact succession_requeue (.inl (of_decide_eq_true selected).2.1) now _
  | abandonInitialReservation agentId consumerId deliveryId owner token now reason =>
    apply Follows.update
    intro row _ selected
    obtain ⟨named, waiting, _, stored⟩ := of_decide_eq_true selected
    apply succession_requeue (waiting.imp_right fun leased => ⟨leased, ?_⟩) now reason
    exact .presented (congrArg (fun id => some (id, token))
      (of_decide_eq_true named).2.2.symm) stored
  | recoverAbandonedInitialReservations agentId recovering staleBefore now =>
    apply Follows.update
    intro row _ selected
    exact succession_requeue (.inl (of_decide_eq_true selected).2.1) now _
  | recoverAbandonedLeases agentId recovering staleBefore now =>
    apply Follows.update
    intro row _ selected
    obtain ⟨_, leased, _, gone⟩ := of_decide_eq_true selected
    exact succession_recover leased (.gone gone) now _ _
  | recoverOwnedPendingCognitionAdmissions agentId ownerId now =>
    apply Follows.update
    intro row _ selected
    obtain ⟨_, leased, owned, _⟩ := of_decide_eq_true selected
    exact succession_defer leased (.owned owned) now false
  | beginCognitionExecution agentId consumerId deliveryId token ownerId now =>
    apply Follows.update
    intro row _ selected
    exact succession_begin (of_decide_eq_true selected).2.1 now
  | ackDelivery agentId consumerId deliveryId token complete now completionNow =>
    apply system.ledger.follows_ackDelivery agentId consumerId deliveryId token complete now
      completionNow
    rintro row rfl live
    exact ⟨agentId, consumerId, token, complete, now, completionNow, rfl, live⟩
  | nackDelivery agentId consumerId deliveryId token error delay terminal ackable now =>
    simp only [advance]
    cases outcome : system.ledger.nackDelivery agentId consumerId deliveryId token error delay
        terminal ackable now with
    | error _ => exact .refl _
    | ok result =>
      obtain ⟨_, _, outcome⟩ := bind_eq_ok.mp outcome
      obtain ⟨_, outcome⟩ := require_bind_eq_ok.mp outcome
      cases outcome
      apply Follows.update
      intro row _ selected
      obtain ⟨named, live⟩ := of_decide_eq_true selected
      obtain ⟨leased, stored, _⟩ := of_decide_eq_true live
      apply succession_settle (active_of_leased leased)
      exact .presented (congrArg (fun id => some (id, token))
        (of_decide_eq_true named).2.2.symm) stored
  | releaseDeliveryForHold agentId consumerId deliveryId token now =>
    apply Follows.update
    intro row _ selected
    obtain ⟨named, leased, stored⟩ := of_decide_eq_true selected
    apply succession_defer leased
    exact .presented (congrArg (fun id => some (id, token))
      (of_decide_eq_true named).2.2.symm) stored
  | releaseManagedDeliveryAfterTask agentId consumerId deliveryId token owner error terminal
      ackable now =>
    simp only [advance]
    cases outcome : system.ledger.releaseManagedDeliveryAfterTask agentId consumerId deliveryId
        token owner error terminal ackable now with
    | error _ => exact .refl _
    | ok result =>
      obtain ⟨_, _, outcome⟩ := bind_eq_ok.mp outcome
      obtain ⟨_, outcome⟩ := require_bind_eq_ok.mp outcome
      obtain ⟨_, outcome⟩ := require_bind_eq_ok.mp outcome
      cases outcome
      apply Follows.update
      intro row _ selected
      obtain ⟨named, status, _, stored⟩ := of_decide_eq_true selected
      apply succession_settle
      · rcases status with leased | ⟨retry, _⟩
        · exact active_of_leased leased
        · rw [retry]
          rfl
      · exact .presented (congrArg (fun id => some (id, token))
          (of_decide_eq_true named).2.2.symm) stored
  | startExecution lease =>
    simp only [advance]
    split_ifs <;> exact .refl _

end DeliverySystem

namespace DeliveryLedger

theorem mem_deactivateConsumer {ledger : DeliveryLedger} {row : Delivery}
    (stored : row ∈ ledger.deliveries) (settled : row.status.isTerminal = true)
    (agentId consumerId : String) (now : ℕ) :
    row ∈ (ledger.deactivateConsumer agentId consumerId now).2.deliveries := by
  obtain ⟨after, member, succession⟩ :=
    (@follows_deactivateConsumer (fun _ => False) (fun _ => False) [] ledger agentId consumerId
      now).goes row (mem_append_left _ stored)
  rw [append_nil] at member
  rw [← succession.final settled]
  exact member

theorem ackDelivery_cases (ledger : DeliveryLedger) (agentId consumerId deliveryId token : String)
    (complete : Bool) (now completionNow : ℕ) :
    (ledger.ackDelivery agentId consumerId deliveryId token complete now completionNow).1 = false ∧
        (ledger.ackDelivery agentId consumerId deliveryId token complete now
          completionNow).2.deliveries = ledger.deliveries ∨
      (ledger.ackDelivery agentId consumerId deliveryId token complete now completionNow).1 = true ∧
        ∃ target ∈ ledger.deliveries, target.deliveryId = deliveryId ∧ target.status = .leased ∧
          target.acknowledge now ∈ (ledger.ackDelivery agentId consumerId deliveryId token complete
            now completionNow).2.deliveries := by
  unfold ackDelivery
  split_ifs
  · exact .inl ⟨rfl, rfl⟩
  · rcases ledger.tryUpdate_cases (fun delivery => delivery.named agentId consumerId deliveryId ∧
        delivery.isLive token now) (·.acknowledge now) with
      ⟨changed, target, member, selected⟩ | ⟨unchanged, same⟩
    · right
      obtain ⟨named, live⟩ := of_decide_eq_true selected
      have written : target.acknowledge now ∈ (ledger.tryUpdate
          (fun delivery => delivery.named agentId consumerId deliveryId ∧
            delivery.isLive token now) (·.acknowledge now)).2.deliveries := by
        rw [deliveries_tryUpdate]
        exact mem_map.mpr ⟨target, member, if_pos selected⟩
      dsimp only
      rw [changed]
      split_ifs
      · exact ⟨rfl, target, member, (of_decide_eq_true named).2.2, (of_decide_eq_true live).1,
          mem_deactivateConsumer written rfl agentId consumerId completionNow⟩
      · exact ⟨rfl, target, member, (of_decide_eq_true named).2.2, (of_decide_eq_true live).1,
          written⟩
    · left
      dsimp only
      rw [unchanged]
      simpa using same

end DeliveryLedger

namespace DeliverySystem

variable {system : DeliverySystem} {operation : DeliveryOperation} {selectors : Selectors}

/-- The acknowledged rows are those that acknowledgements reported, each once. -/
structure Recorded (system : DeliverySystem) : Prop where
  once : system.acknowledged.Nodup
  rows : ∀ id, id ∈ system.acknowledged ↔
    ∃ row ∈ system.everyRow, row.deliveryId = id ∧ row.status = .acknowledged

namespace Recorded

theorem fresh (backend : DatabaseBackend) (backfillCompleted : Bool) :
    (fresh backend backfillCompleted).Recorded where
  once := nodup_nil
  rows := by
    intro id
    refine iff_of_false not_mem_nil ?_
    rintro ⟨row, member, _⟩
    cases member

theorem silent (recorded : system.Recorded) {yields acks : Delivery → Prop}
    {next : DeliverySystem} (follows : Follows yields acks system.everyRow next.everyRow)
    (none : ∀ row, ¬acks row) (same : next.acknowledged = system.acknowledged) :
    next.Recorded where
  once := by
    rw [same]
    exact recorded.once
  rows := by
    intro id
    rw [same, recorded.rows id]
    constructor
    · rintro ⟨row, member, rfl, acknowledged⟩
      obtain ⟨after, found, succession⟩ := follows.goes row member
      have settled : row.status.isTerminal = true := by
        rw [acknowledged]
        rfl
      rw [succession.final settled] at found
      exact ⟨row, found, rfl, acknowledged⟩
    · rintro ⟨row, member, rfl, acknowledged⟩
      rcases follows.comes row member with ⟨old, found, succession⟩ | ⟨quiet, _⟩
      · have before := (succession.acknowledged acknowledged).resolve_right (none old)
        exact ⟨old, found, succession.id.symm, before⟩
      · exact absurd acknowledged quiet

theorem ackDelivery (recorded : system.Recorded) (kept : system.Kept)
    {agentId consumerId deliveryId token : String} {complete : Bool} {now completionNow : ℕ}
    (follows : Follows (Yielded system.ledger (.ackDelivery agentId consumerId deliveryId token
        complete now completionNow)) (Acknowledges (.ackDelivery agentId consumerId deliveryId token
        complete now completionNow)) system.everyRow (system.step selectors
          (.ackDelivery agentId consumerId deliveryId token complete now completionNow)).everyRow) :
    (system.step selectors
      (.ackDelivery agentId consumerId deliveryId token complete now completionNow)).Recorded := by
  rcases system.ledger.ackDelivery_cases agentId consumerId deliveryId token complete now
      completionNow with ⟨refused, same⟩ | ⟨accepted, target, member, rfl, leased, written⟩
  · refine ⟨?_, ?_⟩
    all_goals
      simp only [step, advance, everyRow, refused, same, Bool.false_eq_true, ↓reduceIte]
    · exact recorded.once
    · exact recorded.rows
  · have appended : (system.step selectors (.ackDelivery agentId consumerId target.deliveryId token
        complete now completionNow)).acknowledged = system.acknowledged ++ [target.deliveryId] := by
      simp only [step, advance, accepted, ↓reduceIte]
    refine ⟨?_, ?_⟩
    · rw [appended]
      refine nodup_append.mpr ⟨recorded.once, nodup_singleton _, ?_⟩
      intro id before other single equal
      rw [equal, mem_singleton.mp single] at before
      obtain ⟨row, stored, same, acknowledged⟩ := (recorded.rows _).mp before
      rw [kept.rows.eq_of_id stored (mem_append_left _ member) same] at acknowledged
      cases leased.symm.trans acknowledged
    · intro id
      rw [appended, mem_append, mem_singleton, recorded.rows id]
      constructor
      · rintro (⟨row, stored, rfl, acknowledged⟩ | rfl)
        · obtain ⟨after, found, succession⟩ := follows.goes row stored
          have settled : row.status.isTerminal = true := by
            rw [acknowledged]
            rfl
          rw [succession.final settled] at found
          exact ⟨row, found, rfl, acknowledged⟩
        · exact ⟨target.acknowledge now, mem_append_left _ written, rfl, rfl⟩
      · rintro ⟨row, stored, rfl, acknowledged⟩
        rcases follows.comes row stored with ⟨old, found, succession⟩ | ⟨quiet, _⟩
        · rcases succession.acknowledged acknowledged with before | acked
          · exact .inl ⟨old, found, succession.id.symm, before⟩
          · obtain ⟨_, _, _, _, _, _, same, _⟩ := acked
            have sameId := (DeliveryOperation.ackDelivery.inj same).2.2.1
            exact .inr (succession.id.trans sameId.symm)
        · exact absurd acknowledged quiet

theorem acknowledged_advance (system : DeliverySystem) (selectors : Selectors)
    (other : ∀ agentId consumerId deliveryId token complete now completionNow, operation ≠
      .ackDelivery agentId consumerId deliveryId token complete now completionNow) :
    (system.advance selectors operation).acknowledged = system.acknowledged := by
  cases operation with
  | ackDelivery => exact absurd rfl (other _ _ _ _ _ _ _)
  | persistSignal signal accepts owner now completion secrets =>
    simp only [advance]
    split
    · rfl
    · split_ifs <;> rfl
  | registerConsumer | purgeExpired | retireSourceHistory | nackDelivery
  | releaseManagedDeliveryAfterTask | startExecution =>
    simp only [advance]
    split <;> rfl
  | _ => rfl

theorem step (recorded : system.Recorded) (kept : system.Kept) (selectors : Selectors)
    (allowed : system.Allowed operation) : (system.step selectors operation).Recorded := by
  have follows := allowed.follows selectors
  by_cases acks : ∃ agentId consumerId deliveryId token complete now completionNow, operation =
      .ackDelivery agentId consumerId deliveryId token complete now completionNow
  · obtain ⟨agentId, consumerId, deliveryId, token, complete, now, completionNow, rfl⟩ := acks
    exact recorded.ackDelivery kept follows
  · apply recorded.silent follows
    · rintro row ⟨agentId, consumerId, token, complete, now, completionNow, same, _⟩
      exact acks ⟨_, _, _, _, _, _, _, same⟩
    · apply acknowledged_advance
      intro agentId consumerId deliveryId token complete now completionNow same
      exact acks ⟨_, _, _, _, _, _, _, same⟩

end Recorded

/-- What every reachable store promises about its deliveries. -/
structure Sound (system : DeliverySystem) : Prop where
  /-- A consumer has at most one delivery of an event. -/
  single : (system.ledger.deliveries.map Delivery.key).Nodup
  /-- A consumer has a delivery of every retained event that it was owed. -/
  owed : ∀ key ∈ system.due, ∃ delivery ∈ system.ledger.deliveries, delivery.key = key
  /-- Retention deletes terminal deliveries only. -/
  settled : ∀ delivery ∈ system.retired, delivery.status.isTerminal = true
  /-- A delivery is acknowledged at most once. -/
  once : system.acknowledged.Nodup
  /-- A finite budget bounds the leases under which execution began. -/
  bounded : ∀ delivery ∈ system.everyRow, 0 < delivery.maxAttempts →
    leasesOf system.started delivery.deliveryId ≤ delivery.maxAttempts

theorem Kept.sound (kept : system.Kept) (recorded : system.Recorded) : system.Sound where
  single := kept.rows.keys
  owed := kept.due
  settled := kept.settled
  once := recorded.once
  bounded := by
    intro delivery member finite
    have accounted := kept.rows.accounted delivery member
    calc leasesOf system.started delivery.deliveryId
        _ ≤ leasesOf system.startable delivery.deliveryId :=
          (subperm_of_subset kept.once kept.started).countP_le _
        _ ≤ delivery.attempts := le_trans (Nat.le_add_right _ _) accounted.paid
        _ ≤ delivery.maxAttempts := accounted.bounded finite

/-- What a run between two reachable stores promises. -/
structure Contract (selectors : Selectors) (system : DeliverySystem)
    (operations : List DeliveryOperation) (later : DeliverySystem) : Prop where
  sound : later.Sound
  /-- A terminal row never changes. -/
  final : ∀ row ∈ system.everyRow, row.status.isTerminal = true → row ∈ later.everyRow
  /-- A row is acknowledged only under its live lease. -/
  acknowledged : ∀ row ∈ later.everyRow, row.status = .acknowledged → row ∈ system.everyRow ∨
    ∃ before operation after middle, operations = before ++ operation :: after ∧
      Transition.Run (Steps selectors) system before middle ∧
      ∃ leased ∈ middle.everyRow, leased.deliveryId = row.deliveryId ∧
        Acknowledges operation leased
  /-- A lease passes to another only after its holder gave it up or lost it. -/
  exclusive : ∀ row ∈ system.everyRow, ∀ token, row.status = .leased →
    row.leaseToken = some token → ∀ other ∈ later.everyRow,
      other.deliveryId = row.deliveryId → other.status = .leased → other.leaseToken ≠ some token →
      ∃ before operation after middle, operations = before ++ operation :: after ∧
        Transition.Run (Steps selectors) system before middle ∧
        ∃ held ∈ middle.everyRow, held.deliveryId = row.deliveryId ∧ held.status = .leased ∧
          held.leaseToken = some token ∧ held.leaseOwner = row.leaseOwner ∧
          Yielded middle.ledger operation held

variable {later : DeliverySystem} {operations : List DeliveryOperation}

theorem run_kept (initial : system.Kept ∧ system.Recorded)
    (run : Run (Steps selectors) system operations later) :
    later.Kept ∧ later.Recorded := by
  refine @Run.invariant _ _ _ (fun state => state.Kept ∧ state.Recorded) ?_ _ _ _
    initial run
  rintro source operation target ⟨kept, recorded⟩ ⟨allowed, rfl⟩
  exact ⟨kept.step selectors allowed, recorded.step kept selectors allowed⟩

section

variable (run : Transition.Run (Steps selectors) system operations later)

include run

variable {row : Delivery}

theorem run_final (member : row ∈ system.everyRow) (terminal : row.status.isTerminal = true) :
    row ∈ later.everyRow := by
  refine @Run.invariant _ _ _ (fun state => row ∈ state.everyRow) ?_ _ _ _ member run
  rintro source operation target stored ⟨allowed, rfl⟩
  obtain ⟨after, found, succession⟩ := (allowed.follows selectors).goes row stored
  rw [succession.final terminal] at found
  exact found

theorem run_acknowledged (member : row ∈ later.everyRow) (acknowledged : row.status = .acknowledged)
    :
    row ∈ system.everyRow ∨
      ∃ before operation after middle, operations = before ++ operation :: after ∧
        Run (Steps selectors) system before middle ∧
        ∃ leased ∈ middle.everyRow, leased.deliveryId = row.deliveryId ∧
          Acknowledges operation leased := by
  induction run with
  | nil => exact .inl member
  | @cons system middle later operation operations first run ih =>
    rcases ih member with earlier | ⟨before, last, after, state, rfl, reached, leased⟩
    · obtain ⟨allowed, rfl⟩ := first
      have follows := allowed.follows selectors
      rcases follows.comes row earlier with ⟨old, found, succession⟩ | ⟨quiet, _⟩
      · rcases succession.acknowledged acknowledged with settled | acked
        · have terminal : old.status.isTerminal = true := by
            rw [settled]
            rfl
          rw [succession.final terminal]
          exact .inl found
        · exact .inr ⟨[], operation, operations, system, rfl, .nil system, old, found,
            succession.id.symm, acked⟩
      · exact absurd acknowledged quiet
    · exact .inr ⟨operation :: before, last, after, state, rfl, .cons first reached, leased⟩

theorem run_leased {token : String} (member : row ∈ system.everyRow) (leased : row.status = .leased)
    (stored : row.leaseToken = some token) :
    (∃ other ∈ later.everyRow, other.deliveryId = row.deliveryId ∧
        (other.status.isTerminal = true ∨ other.leaseToken = some token)) ∨
      ∃ before operation after middle, operations = before ++ operation :: after ∧
        Run (Steps selectors) system before middle ∧
        ∃ held ∈ middle.everyRow, held.deliveryId = row.deliveryId ∧ held.status = .leased ∧
          held.leaseToken = some token ∧ held.leaseOwner = row.leaseOwner ∧
          Yielded middle.ledger operation held := by
  induction run generalizing row with
  | nil => exact .inl ⟨row, member, rfl, .inr stored⟩
  | @cons system middle later operation operations first run ih =>
    obtain ⟨allowed, rfl⟩ := first
    obtain ⟨after, found, succession⟩ := (allowed.follows selectors).goes row member
    rcases succession.leased token leased stored with ⟨held, carried, owned⟩ | terminal | yielded
    · rcases ih found held carried with
        ⟨other, last, same, ends⟩ | ⟨before, next, rest, state, rfl, reached, row', kept, same, facts⟩
      · exact .inl ⟨other, last, same.trans succession.id, ends⟩
      · refine .inr ⟨operation :: before, next, rest, state, rfl, .cons ⟨allowed, rfl⟩ reached,
          row', kept, same.trans succession.id, ?_⟩
        rw [← owned]
        exact facts
    · exact .inl ⟨after, run_final run found terminal, succession.id, .inl terminal⟩
    · exact .inr ⟨[], operation, operations, system, rfl, .nil system, row, member, rfl, leased,
        stored, rfl, yielded⟩

end

end DeliverySystem

/-- In every run that the clock, the secrets and the callers allow: a consumer has one delivery of
each retained event it was owed, terminal deliveries never change, a delivery is acknowledged at
most once and under its live lease, execution begins under no more leases than the attempt budget
allows, and a lease passes on only when its token is presented, when its owner gives it back, when
it expired without a live dispatcher, or when its dispatcher's record is stopped or stale. -/
theorem durable_deliveries_keep_contract (selectors : Selectors) {backend : DatabaseBackend}
    {backfillCompleted : Bool} {system later : DeliverySystem}
    {earlier operations : List DeliveryOperation}
    (reached : Transition.Run (DeliverySystem.Steps selectors)
      (DeliverySystem.fresh backend backfillCompleted) earlier system)
    (run : Transition.Run (DeliverySystem.Steps selectors) system operations later) :
    DeliverySystem.Contract selectors system operations later := by
  have reachable := run_kept ⟨DeliverySystem.Kept.fresh backend backfillCompleted,
      DeliverySystem.Recorded.fresh backend backfillCompleted⟩ reached
  obtain ⟨kept, recorded⟩ := run_kept reachable run
  refine ⟨kept.sound recorded, ?_, ?_, ?_⟩
  · exact fun row member terminal => run_final run member terminal
  · exact fun row member acknowledged =>
      run_acknowledged run member acknowledged
  · intro row member token leased stored other found same held different
    rcases run_leased run member leased stored with
      ⟨last, lastFound, lastSame, ends⟩ | yielded
    · obtain rfl := kept.rows.eq_of_id lastFound found (lastSame.trans same.symm)
      rcases ends with terminal | carried
      · rw [held] at terminal
        cases terminal
      · exact absurd carried different
    · exact yielded

/-- The secrets of one call: a label and a number of dots. -/
def secret (label : Char) (index : ℕ) : String := String.ofList (label :: List.replicate index '.')

theorem secret_injective (label : Char) : Function.Injective (secret label) := by
  intro first second same
  have lengths := congrArg (fun text => text.toList.length) same
  simpa [secret] using lengths

def clear (label : Char) (text : String) : Bool := text.toList.head? ≠ some label

theorem ne_secret_of_clear {label : Char} {text : String} (cleared : clear label text = true)
    (index : ℕ) : text ≠ secret label index := by
  rintro rfl
  exact of_decide_eq_true cleared (by simp [secret])

/-- No text of a store begins with a label. -/
def DeliverySystem.clear (system : DeliverySystem) (label : Char) : Bool :=
  (system.everyRow.all fun delivery => Signals.clear label delivery.deliveryId &&
      delivery.leaseToken.all (Signals.clear label)) &&
    system.reservations.all (Signals.clear label) &&
    system.startable.all fun lease => Signals.clear label lease.1 && Signals.clear label lease.2

theorem DeliverySystem.unused_of_clear {system : DeliverySystem} {label : Char}
    (cleared : system.clear label = true) (index : ℕ) : system.Unused (secret label index) := by
  unfold clear at cleared
  rw [Bool.and_eq_true, Bool.and_eq_true, all_eq_true, all_eq_true, all_eq_true] at cleared
  obtain ⟨⟨rows, reserved⟩, leased⟩ := cleared
  refine ⟨?_, ?_, ?_, ?_⟩
  · intro delivery member
    exact ne_secret_of_clear (Bool.and_eq_true_iff.mp (rows delivery member)).1 index
  · intro delivery member stored
    have cleared := (Bool.and_eq_true_iff.mp (rows delivery member)).2
    rw [stored] at cleared
    exact ne_secret_of_clear cleared index rfl
  · intro member
    exact ne_secret_of_clear (reserved _ member) index rfl
  · intro lease member
    obtain ⟨name, token⟩ := Bool.and_eq_true_iff.mp (leased lease member)
    exact ⟨ne_secret_of_clear name index, ne_secret_of_clear token index⟩

/-- A call that is neither a transfer nor a Hold release. -/
def DeliveryOperation.plain : DeliveryOperation → Bool
  | .claimInitialDelivery .. | .releaseDeliveryForHold .. => false
  | _ => true

theorem DeliverySystem.allowed_of_clear {system : DeliverySystem} {operation : DeliveryOperation}
    (label : Char) (cleared : system.clear label = true)
    (drawn : ∀ secrets ∈ operation.secrets, secrets = secret label)
    (clock : ∀ now ∈ operation.instants, system.clock ≤ now)
    (instants : operation.instants.Pairwise (· ≤ ·))
    (marker : operation.error ≠ some cognitionAdmissionPending) (plain : operation.plain = true) :
    system.Allowed operation where
  clock := clock
  instants := instants
  fresh := by
    intro secrets member
    rw [drawn secrets member]
    exact ⟨secret_injective label, unused_of_clear cleared⟩
  marker := marker
  transfer := by
    rintro _ _ _ _ _ _ _ _ _ rfl
    cases plain
  hold := by
    rintro _ _ _ _ _ rfl
    cases plain

def everyEvent : Selectors := ⟨fun _ => true, fun _ _ => true⟩

/-- Calls of a fresh store. -/
def delivered (operations : List DeliveryOperation) : DeliverySystem :=
  operations.foldl (DeliverySystem.step everyEvent) (.fresh .sqlite true)

def claimedByDispatcher : List DeliveryOperation :=
  [.registerConsumer ⟨"agent", "inbox", "workflow", none, 3, 30, true, false⟩ 0 (secret 'a'),
    .touchRuntimeOwner "agent" "dispatcher:one" 0,
    .persistSignal ⟨"first", none, workflow, 1⟩ (fun _ => true) none 0 (.ok ()) (secret 'b'),
    .claimDelivery "agent" "inbox" none "dispatcher:one" 0 0 0 false (fun _ => false)
      (secret 'c')]

theorem run_claimedByDispatcher : Transition.Run (DeliverySystem.Steps everyEvent)
    (.fresh .sqlite true) claimedByDispatcher (delivered claimedByDispatcher) := by
  refine .cons ⟨?_, rfl⟩ <| .cons ⟨?_, rfl⟩ <| .cons ⟨?_, rfl⟩ <| .cons ⟨?_, rfl⟩ <| .nil _
  · apply allowed_of_clear 'a' (by decide +kernel)
    · rintro _ ⟨⟩
      rfl
    all_goals decide +kernel
  · apply allowed_of_clear 'a' (by decide +kernel)
    · rintro _ ⟨⟩
    all_goals decide +kernel
  · apply allowed_of_clear 'b' (by decide +kernel)
    · rintro _ ⟨⟩
      rfl
    all_goals decide +kernel
  · apply allowed_of_clear 'c' (by decide +kernel)
    · rintro _ ⟨⟩
      rfl
    all_goals decide +kernel

def executedByDispatcher : List DeliveryOperation :=
  [.startExecution ("b", "c"), .ackDelivery "agent" "inbox" "b" "c" false 1 1]

theorem durable_deliveries_keep_contract_executed :
    DeliverySystem.Contract everyEvent (delivered claimedByDispatcher) executedByDispatcher
        (delivered (claimedByDispatcher ++ executedByDispatcher)) ∧
      (delivered (claimedByDispatcher ++ executedByDispatcher)).started = [("b", "c")] ∧
      (delivered (claimedByDispatcher ++ executedByDispatcher)).acknowledged = ["b"] := by
  refine ⟨durable_deliveries_keep_contract everyEvent run_claimedByDispatcher ?_,
    by decide +kernel, by decide +kernel⟩
  refine .cons ⟨?_, rfl⟩ <| .cons ⟨?_, rfl⟩ <| .nil _
  all_goals
    apply allowed_of_clear 'a' (by decide +kernel)
    · rintro _ ⟨⟩
    all_goals decide +kernel

/-- The dispatcher stops to heartbeat, and another recovers and claims. -/
def takenOver : List DeliveryOperation :=
  [.recoverAbandonedLeases "agent" "dispatcher:two" 1 1,
    .claimDelivery "agent" "inbox" none "dispatcher:two" 1 1 1 false (fun _ => false)
      (secret 'd')]

/-- A stale dispatcher's lease passes to another executor while it has not expired. -/
theorem stale_dispatcher_loses_unexpired_lease :
    Transition.Run (DeliverySystem.Steps everyEvent) (.fresh .sqlite true)
        (claimedByDispatcher ++ takenOver) (delivered (claimedByDispatcher ++ takenOver)) ∧
      (∀ operation ∈ takenOver, operation.presented = none) ∧
      ∃ row ∈ (delivered claimedByDispatcher).ledger.deliveries,
        ∃ other ∈ (delivered (claimedByDispatcher ++ takenOver)).ledger.deliveries,
          other.deliveryId = row.deliveryId ∧ row.status = .leased ∧ other.status = .leased ∧
            other.leaseOwner ≠ row.leaseOwner ∧
            row.leaseExpiresAt.any
              ((delivered (claimedByDispatcher ++ takenOver)).clock < ·) = true := by
  refine ⟨run_claimedByDispatcher.append ?_, by decide +kernel, by decide +kernel⟩
  refine .cons ⟨?_, rfl⟩ <| .cons ⟨?_, rfl⟩ <| .nil _
  · apply allowed_of_clear 'd' (by decide +kernel)
    · rintro _ ⟨⟩
    all_goals decide +kernel
  · apply allowed_of_clear 'd' (by decide +kernel)
    · rintro _ ⟨⟩
      rfl
    all_goals decide +kernel

end Kestrel.Signals
