import Kestrel.Signals.DeliveryRuns

/-!
# The attempt budget of a delivery

A lease under which execution may begin was paid for with one attempt of its delivery, and so was
the lease whose admission is pending. What every operation does to a row keeps this.
-/

namespace Kestrel.Signals

open Status

/-- How many leases of a delivery may execute. -/
def leasesOf (leases : List Lease) (deliveryId : String) : ℕ :=
  leases.countP fun lease => lease.1 = deliveryId

theorem leasesOf_concat_self (leases : List Lease) (deliveryId token : String) :
    leasesOf (leases ++ [(deliveryId, token)]) deliveryId = leasesOf leases deliveryId + 1 := by
  simp [leasesOf]

variable {deliveryId other : String}

theorem leasesOf_concat_of_ne (leases : List Lease) (token : String) (distinct : other ≠ deliveryId)
    :
    leasesOf (leases ++ [(deliveryId, token)]) other = leasesOf leases other := by
  simp [leasesOf, Ne.symm distinct]

variable {token : String}

theorem leasesOf_erase {leases : List Lease}
    (member : (deliveryId, token) ∈ leases) (other : String) :
    leasesOf leases other =
      leasesOf (leases.erase (deliveryId, token)) other + if deliveryId = other then 1 else 0 := by
  unfold leasesOf
  rw [(List.perm_cons_erase member).countP_eq, List.countP_cons]
  simp only [decide_eq_true_eq]

theorem leasesOf_erase_of_ne (leases : List Lease) (token : String) (distinct : other ≠ deliveryId)
    :
    leasesOf (leases.erase (deliveryId, token)) other = leasesOf leases other := by
  by_cases member : (deliveryId, token) ∈ leases
  · rw [leasesOf_erase member other, if_neg (Ne.symm distinct), Nat.add_zero]
  · rw [List.erase_of_not_mem member]

theorem Status.not_terminal_of_claimable {status : Status} (claimable : status.isClaimable = true) :
    status.isTerminal = false := by
  cases status <;> first | rfl | cases claimable

namespace Delivery

/-- One attempt of the row is held by a lease that may still be refused. -/
def pendingAttempts (delivery : Delivery) : ℕ := if delivery.admissionPending then 1 else 0

/-- What a row promises, given the tokens of reservations and the leases that may execute. -/
structure Accounted (delivery : Delivery) (reservations : List String) (startable : List Lease) :
    Prop where
  /-- The marker stands on leases only, until they end for good. -/
  marker : delivery.admissionPending = true →
    delivery.status = .leased ∨ delivery.status.isTerminal = true
  /-- A reservation waits under its own token. -/
  reserved : delivery.status = .initialReserved →
    ∃ token, delivery.leaseToken = some token ∧ token ∈ reservations
  /-- A reservation's token was never executed under. -/
  untouched : ∀ token, delivery.leaseToken = some token → token ∈ reservations →
    delivery.attempts = 0
  /-- A lease may execute unless its admission is pending. -/
  leased : ∀ token, delivery.status = .leased → delivery.leaseToken = some token →
    token ∉ reservations →
      ((delivery.deliveryId, token) ∈ startable ↔ delivery.admissionPending = false)
  /-- Every lease was paid for. -/
  paid : leasesOf startable delivery.deliveryId + delivery.pendingAttempts ≤ delivery.attempts
  /-- The budget bounds the attempts. -/
  bounded : 0 < delivery.maxAttempts → delivery.attempts ≤ delivery.maxAttempts

namespace Accounted

variable {delivery : Delivery} {reservations : List String} {startable : List Lease}

theorem pendingAttempts_eq_zero (settled : delivery.admissionPending = false) :
    delivery.pendingAttempts = 0 := by
  simp [pendingAttempts, settled]

variable {startable' : List Lease}

section

variable (accounted : delivery.Accounted reservations startable)

include accounted

theorem congr {reservations' : List String}
    (sameTokens : ∀ token, delivery.leaseToken = some token →
      (token ∈ reservations' ↔ token ∈ reservations))
    (sameLeases : ∀ token, (delivery.deliveryId, token) ∈ startable' ↔
      (delivery.deliveryId, token) ∈ startable)
    (sameCount : leasesOf startable' delivery.deliveryId = leasesOf startable delivery.deliveryId) :
    delivery.Accounted reservations' startable' where
  marker := accounted.marker
  reserved := by
    intro reserved
    obtain ⟨token, stored, member⟩ := accounted.reserved reserved
    exact ⟨token, stored, (sameTokens token stored).mpr member⟩
  untouched := fun token stored member =>
    accounted.untouched token stored ((sameTokens token stored).mp member)
  leased := by
    intro token leased stored fresh
    rw [sameLeases]
    exact accounted.leased token leased stored (mt (sameTokens token stored).mpr fresh)
  paid := sameCount ▸ accounted.paid
  bounded := accounted.bounded

theorem not_pending_of_claimable (claimable : delivery.status.isClaimable = true)
    : delivery.admissionPending = false := by
  by_contra pending
  rcases accounted.marker (by simpa using pending) with leased | terminal
  · rw [leased] at claimable
    cases claimable
  · rw [not_terminal_of_claimable claimable] at terminal
    cases terminal

theorem released (after : Delivery) (sameId : after.deliveryId = delivery.deliveryId)
    (sameMax : after.maxAttempts = delivery.maxAttempts)
    (sameAttempts : after.attempts = delivery.attempts)
    (ended : after.status ≠ .leased ∧ after.status ≠ .initialReserved)
    (settled : after.admissionPending = false)
    (kept : ∀ token, after.leaseToken = some token → delivery.leaseToken = some token) :
    after.Accounted reservations startable where
  marker := by
    intro pending
    rw [settled] at pending
    cases pending
  reserved := fun reserved => absurd reserved ended.2
  untouched := by
    intro token stored member
    rw [sameAttempts]
    exact accounted.untouched token (kept token stored) member
  leased := fun _ leased => absurd leased ended.1
  paid := by
    rw [sameId, sameAttempts, pendingAttempts_eq_zero settled]
    exact le_trans (Nat.add_le_add_left (Nat.zero_le _) _) accounted.paid
  bounded := by
    rw [sameMax, sameAttempts]
    exact accounted.bounded

theorem requeue (now : ℕ) {error : String} (text : error ≠ cognitionAdmissionPending) :
    (delivery.requeue now error).Accounted reservations startable := by
  apply accounted.released (delivery.requeue now error) rfl rfl rfl
  · exact ⟨noConfusion, noConfusion⟩
  · simp [Delivery.requeue, admissionPending, text]
  · intro token stored
    cases stored

theorem settle (backend : DatabaseBackend) (now retryAt : ℕ) {error : String}
    (terminal ackable : Bool) (text : error ≠ cognitionAdmissionPending) :
    (delivery.settle backend now retryAt error terminal ackable).Accounted reservations
      startable := by
  apply accounted.released (delivery.settle backend now retryAt error terminal ackable) rfl rfl rfl
  · unfold Delivery.settle
    dsimp only
    constructor <;> split_ifs <;> exact noConfusion
  · simp [Delivery.settle, admissionPending, text]
  · intro token stored
    unfold Delivery.settle at stored
    dsimp only at stored
    split_ifs at stored
    exact stored

theorem deactivate (now : ℕ) : (delivery.deactivate now).Accounted reservations startable := by
  apply accounted.released (delivery.deactivate now) rfl rfl rfl
  · exact ⟨noConfusion, Status.noConfusion⟩
  · have text : "durable consumer deactivated" ≠ cognitionAdmissionPending := by decide +kernel
    simp [Delivery.deactivate, admissionPending, text]
  · intro token stored
    cases stored

theorem leasesOf_le_startedAttempts :
    leasesOf startable delivery.deliveryId ≤ delivery.startedAttempts := by
  have paid := accounted.paid
  unfold startedAttempts pendingAttempts at *
  by_cases pending : delivery.admissionPending = true
  · simp only [pending, ↓reduceIte, true_and] at paid ⊢
    split_ifs <;> omega
  · simp [pending] at paid ⊢
    omega

theorem returned (after : Delivery)
    (sameId : after.deliveryId = delivery.deliveryId)
    (sameMax : after.maxAttempts = delivery.maxAttempts)
    (paid : leasesOf startable' delivery.deliveryId ≤ after.attempts)
    (fewer : after.attempts ≤ delivery.attempts)
    (ended : after.status ≠ .leased ∧ after.status ≠ .initialReserved)
    (settled : after.admissionPending = false)
    (kept : ∀ token, after.leaseToken = some token → delivery.leaseToken = some token) :
    after.Accounted reservations startable' where
  marker := by
    intro pending
    rw [settled] at pending
    cases pending
  reserved := fun reserved => absurd reserved ended.2
  untouched := by
    intro token stored member
    have none := accounted.untouched token (kept token stored) member
    omega
  leased := fun _ leased => absurd leased ended.1
  paid := by
    rw [sameId, pendingAttempts_eq_zero settled]
    exact paid
  bounded := by
    rw [sameMax]
    intro finite
    exact le_trans fewer (accounted.bounded finite)

theorem recover (now : ℕ) {pendingError otherError : String}
    (pendingText : pendingError ≠ cognitionAdmissionPending)
    (otherText : otherError ≠ cognitionAdmissionPending) :
    (delivery.recover now pendingError otherError).Accounted reservations startable := by
  apply accounted.returned (delivery.recover now pendingError otherError) rfl rfl
  · exact accounted.leasesOf_le_startedAttempts
  · exact Nat.sub_le _ _
  · unfold Delivery.recover
    dsimp only
    constructor <;> split_ifs <;> exact noConfusion
  · unfold Delivery.recover admissionPending
    split_ifs <;> simp [pendingText, otherText]
  · intro token stored
    cases stored

end

theorem hold_deferred : "hold_deferred" ≠ cognitionAdmissionPending := by decide +kernel

section

variable (accounted : delivery.Accounted reservations startable)

include accounted

theorem defer (now : ℕ) (keeps : Bool)
    (paid : leasesOf startable' delivery.deliveryId ≤ delivery.attempts - 1) :
    (delivery.defer now keeps).Accounted reservations startable' := by
  apply accounted.returned (delivery.defer now keeps) rfl rfl paid
  · exact Nat.sub_le _ _
  · exact ⟨noConfusion, noConfusion⟩
  · simp [Delivery.defer, admissionPending, hold_deferred]
  · intro token stored
    unfold Delivery.defer at stored
    split_ifs at stored
    exact stored

theorem acknowledge (now : ℕ) : (delivery.acknowledge now).Accounted reservations startable where
  marker := fun _ => .inr rfl
  reserved := noConfusion
  untouched := fun _ stored => by cases stored
  leased := fun _ leased => noConfusion leased
  paid := accounted.paid
  bounded := accounted.bounded

theorem activate (reserved : delivery.status = .initialReserved) (leaseExpiresAt now : ℕ) :
    (delivery.activate leaseExpiresAt now).Accounted reservations startable where
  marker := fun _ => .inl rfl
  reserved := noConfusion
  untouched := accounted.untouched
  leased := by
    intro token _ stored fresh
    obtain ⟨own, ownStored, member⟩ := accounted.reserved reserved
    cases ownStored.symm.trans stored
    exact absurd member fresh
  paid := accounted.paid
  bounded := accounted.bounded

theorem renew (leaseExpiresAt now : ℕ) :
    (delivery.renew leaseExpiresAt now).Accounted reservations startable where
  marker := accounted.marker
  reserved := accounted.reserved
  untouched := accounted.untouched
  leased := accounted.leased
  paid := accounted.paid
  bounded := accounted.bounded

theorem lease (settled : delivery.admissionPending = false)
    (room : delivery.exhausted delivery.attempts = false) (reservedFree : token ∉ reservations)
    (unused : (delivery.deliveryId, token) ∉ startable) (executorId : String)
    (leaseExpiresAt now : ℕ) (pending : Bool) :
    (delivery.lease executorId token leaseExpiresAt now pending).Accounted reservations
      (granted startable delivery.deliveryId token pending) where
  marker := fun _ => .inl rfl
  reserved := noConfusion
  untouched := by
    intro other stored member
    cases stored
    exact absurd member reservedFree
  leased := by
    intro other _ stored _
    cases stored
    cases pending with
    | true => simpa [granted, Delivery.lease, admissionPending] using unused
    | false =>
      simp only [admissionPending, decide_eq_false_iff_not] at settled
      simp [granted, Delivery.lease, admissionPending, settled]
  paid := by
    have paid := accounted.paid
    cases pending with
    | true =>
      simp only [granted, Delivery.lease, pendingAttempts, admissionPending, ↓reduceIte,
        decide_true]
      omega
    | false =>
      have settled' : delivery.lastError ≠ some cognitionAdmissionPending := by
        simpa [admissionPending] using settled
      simp only [granted, Delivery.lease, pendingAttempts, admissionPending, settled',
        Bool.false_eq_true, ↓reduceIte, decide_false, leasesOf_concat_self]
      omega
  bounded := by
    intro finite
    have room : ¬(0 < delivery.maxAttempts ∧ delivery.maxAttempts ≤ delivery.attempts) := by
      simpa [exhausted] using room
    change delivery.attempts + 1 ≤ delivery.maxAttempts
    have : ¬delivery.maxAttempts ≤ delivery.attempts := fun low => room ⟨finite, low⟩
    omega

theorem begin (pending : delivery.admissionPending = true)
    (leased : delivery.status = .leased) (stored : delivery.leaseToken = some token) (now : ℕ) :
    (delivery.begin now).Accounted reservations (startable ++ [(delivery.deliveryId, token)]) where
  marker := by
    intro marked
    cases marked
  reserved := by
    intro reserved
    cases leased.symm.trans reserved
  untouched := accounted.untouched
  leased := by
    intro other _ stored' _
    cases stored.symm.trans stored'
    simp [Delivery.begin, admissionPending]
  paid := by
    have paid := accounted.paid
    unfold pendingAttempts at paid
    rw [if_pos pending] at paid
    simp only [Delivery.begin, pendingAttempts, admissionPending, leasesOf_concat_self, reduceCtorEq,
      decide_false, Bool.false_eq_true, ↓reduceIte]
    omega
  bounded := accounted.bounded

theorem hold (leased : delivery.status = .leased)
    (stored : delivery.leaseToken = some token) (now : ℕ) (keeps : Bool) :
    (delivery.defer now keeps).Accounted reservations
      (startable.erase (delivery.deliveryId, token)) := by
  apply accounted.defer
  have paid := accounted.paid
  by_cases reserved : token ∈ reservations
  · have none := accounted.untouched token stored reserved
    have absent : (delivery.deliveryId, token) ∉ startable := by
      intro member
      have := leasesOf_erase member delivery.deliveryId
      simp only [↓reduceIte] at this
      omega
    rw [List.erase_of_not_mem absent]
    omega
  · have may := accounted.leased token leased stored reserved
    by_cases pending : delivery.admissionPending = true
    · have absent : (delivery.deliveryId, token) ∉ startable := by
        rw [may, pending]
        exact Bool.noConfusion
      unfold pendingAttempts at paid
      rw [if_pos pending] at paid
      rw [List.erase_of_not_mem absent]
      omega
    · have member := may.mpr (by simpa using pending)
      have := leasesOf_erase member delivery.deliveryId
      simp only [↓reduceIte] at this
      omega

end

end Accounted

end Delivery

end Kestrel.Signals
