import Kestrel.Llm.LeaseInvariant

/-!
# The calls of the lease coordinator

Each call keeps the coordinator sound from one await to the next, where a record without a lease is
durable, no answer is older than the local time of a release, and a lease that leaves its ready state
under an active route is saved.
-/

namespace Kestrel.Llm

open Attempt

variable {Details : Type} [DecidableEq Details] {setup : Setup Details} {record : Record Details}
  {lease : Lease Details} {events : List (Event Details)} {applied : Applied}

/-- What remains of a sound coordinator whose process is lost. -/
def Lost (setup : Setup Details) (world : World Details) : Prop := Sound setup world.crash

omit [DecidableEq Details] in
/-- The checks that an answer on a held lease passes. -/
def Applies (setup : Setup Details) (record : Record Details) (previous lease : Lease Details) :
    Prop :=
  setup.accepts record.request record.quote lease.terms = true ∧
    lease.leaseId = previous.leaseId ∧ lease.state ∈ previous.state.allowedTransitions ∧
    previous.updatedAt ≤ lease.updatedAt

/-- A call works on the record in memory, whose request is durable. -/
structure Engaged (setup : Setup Details) (record : Record Details)
    (events : List (Event Details)) (world : World Details) : Prop where
  sound : Sound setup world
  running : world.running = true
  memory : world.memory = some record
  named : Names world.durable record.request
  history : world.events = events

theorem Sound.cut {world : World Details} (sound : Sound setup world) : Lost setup world :=
  sound.recorded.crash

theorem Sound.unrouted {world : World Details} (sound : Sound setup world) :
    Sound setup { world with route := none } where
  recorded := ⟨sound.recorded.told, sound.recorded.agrees, sound.recorded.memoryLease,
    sound.recorded.durableLease⟩
  routed := by
    intro leaseId accepting
    obtain ⟨route, found, _⟩ := accepting
    exact nomatch found
  loaded := sound.loaded
  lost := fun stopped => ⟨(sound.lost stopped).1, rfl⟩

section Apply

/-- A lease that its provider has just reported. -/
structure Arriving (setup : Setup Details) (record : Record Details) (lease : Lease Details)
    (events : List (Event Details)) (applied : Applied) (world : World Details) : Prop
    extends Engaged setup record events world where
  known : (∀ previous, record.lease = some previous → lease.leaseId = previous.leaseId) →
    Known events record.request lease.leaseId
  clock : ∀ previous, record.lease = some previous → lease.leaseId = previous.leaseId →
    lease.updatedAt < previous.updatedAt → WentBack events lease
  confirmed : ∀ previous leaseId, record.lease = some previous →
    Applies setup record previous lease → lease.state ≠ .ready → world.Accepting leaseId →
    ∀ done, applied.persist ≠ .raised done

/-- The lease is in memory, and the route is still what it was. -/
structure Holding (setup : Setup Details) (record : Record Details) (lease : Lease Details)
    (events : List (Event Details)) (confirmed : Prop) (world : World Details) : Prop where
  recorded : Recorded setup world
  running : world.running = true
  memory : world.memory = some { record with lease := some lease }
  named : Names world.durable record.request
  history : world.events = events
  route : ∀ leaseId, world.Accepting leaseId →
    leaseId = lease.leaseId ∧ lease.state ≠ .pending ∧ (lease.state ≠ .ready → confirmed)

variable {world : World Details}

theorem Holding.sound {confirmed : Prop}
    (holding : Holding setup record lease events confirmed world)
    (routed : ∀ leaseId, world.Accepting leaseId → lease.state = .ready) : Sound setup world where
  recorded := holding.recorded
  routed := fun leaseId accepting =>
    ⟨_, lease, holding.memory, rfl, (holding.route leaseId accepting).1.symm,
      routed leaseId accepting⟩
  loaded := by
    intro _ absent
    rw [holding.memory] at absent
    exact nomatch absent
  lost := by
    intro stopped
    rw [holding.running] at stopped
    exact nomatch stopped

theorem Holding.engaged {confirmed : Prop}
    (holding : Holding setup record lease events confirmed world)
    (routed : ∀ leaseId, world.Accepting leaseId → lease.state = .ready) :
    Engaged setup { record with lease := some lease } events world :=
  ⟨holding.sound routed, holding.running, holding.memory, holding.named, holding.history⟩

theorem ensures_validateTransition : Ensures (validateTransition record.lease lease)
      (Arriving setup record lease events applied)
      (fun _ world => Arriving setup record lease events applied world ∧
        ∀ previous, record.lease = some previous → lease.leaseId = previous.leaseId ∧
          lease.state ∈ previous.state.allowedTransitions ∧ previous.updatedAt ≤ lease.updatedAt)
      (Sound setup) (Lost setup) := by
  unfold validateTransition
  cases found : record.lease with
  | none => exact .pure fun world arriving => ⟨arriving, fun _ impossible => nomatch impossible⟩
  | some previous =>
    refine .bind (.require fun world arriving => arriving.sound) fun _ => ?_
    refine .bind (.require fun world arriving => arriving.2.sound) fun _ => ?_
    split_ifs with stale
    · have noted : Ensures (modify fun world : World Details => world.note (.stale lease))
          (fun world => lease.state ∈ previous.state.allowedTransitions ∧
            lease.leaseId = previous.leaseId ∧ Arriving setup record lease events applied world)
          (fun _ => Sound setup) (Sound setup) (Lost setup) := by
        refine .modify ?_
        rintro world ⟨_, same, arriving⟩
        refine arriving.sound.note (arriving.sound.recorded.told.stale ?_)
        rw [arriving.history]
        exact arriving.clock previous found same stale
      exact .bind noted fun _ => .raise fun world sound => sound
    · refine .pure ?_
      rintro world ⟨allowed, same, arriving⟩
      refine ⟨arriving, ?_⟩
      intro other found
      obtain rfl := Option.some.inj found
      exact ⟨same, allowed, Int.not_lt.mp stale⟩

theorem Arriving.holding (arriving : Arriving setup record lease events applied world)
    (accepted : setup.accepts record.request record.quote lease.terms = true)
    (valid : ∀ previous, record.lease = some previous → lease.leaseId = previous.leaseId ∧
      lease.state ∈ previous.state.allowedTransitions ∧ previous.updatedAt ≤ lease.updatedAt) :
    Holding setup record lease events (∀ done, applied.persist ≠ .raised done)
      (world.hold { record with lease := some lease }) where
  recorded := by
    refine arriving.sound.recorded.hold (fun _ _ => arriving.named) ?_
    intro held same
    obtain rfl := Option.some.inj same
    refine ⟨accepted, ?_⟩
    rw [arriving.history]
    exact arriving.known fun previous found => (valid previous found).1
  running := arriving.running
  memory := rfl
  named := arriving.named
  history := arriving.history
  route := by
    intro leaseId accepting
    obtain ⟨other, previous, stored, found, same, ready⟩ := arriving.sound.routed leaseId accepting
    obtain rfl := Option.some.inj (arriving.memory.symm.trans stored)
    obtain ⟨sameId, allowed, later⟩ := valid previous found
    refine ⟨same.symm.trans sameId.symm, ?_, ?_⟩
    · intro pending
      rw [ready, pending] at allowed
      exact absurd allowed (by decide)
    · intro left
      exact arriving.confirmed previous leaseId found ⟨accepted, sameId, allowed, later⟩ left
        accepting

theorem ensures_persist_held : Ensures (persist applied.persist)
      (Holding setup record lease events (∀ done, applied.persist ≠ .raised done))
      (fun _ => Holding setup record lease events True) (Sound setup) (Lost setup) := by
  have saved : ∀ world,
      Holding setup record lease events (∀ done, applied.persist ≠ .raised done) world →
      Holding setup record lease events (∀ done, applied.persist ≠ .raised done)
        world.persisted := by
    intro world holding
    exact
      { recorded := holding.recorded.persisted holding.memory
          (holding.recorded.settled_of_named holding.named)
        running := holding.running
        memory := holding.memory
        named := ⟨_, holding.memory, rfl⟩
        history := holding.history
        route := holding.route }
  refine .write ?_ ?_ ?_
  · intro world holding _
    have done := saved world holding
    exact ⟨done.recorded, done.running, done.memory, done.named, done.history, fun leaseId accepting =>
      ⟨(done.route leaseId accepting).1, (done.route leaseId accepting).2.1, fun _ => trivial⟩⟩
  · intro world done holding failed
    have sound : ∀ world,
        Holding setup record lease events (∀ done, applied.persist ≠ .raised done) world →
        Sound setup world := by
      intro world holding
      refine holding.sound ?_
      intro leaseId accepting
      by_contra left
      exact (holding.route leaseId accepting).2.2 left done failed
    cases done with
    | false => exact sound world holding
    | true => exact sound _ (saved world holding)
  · intro world done holding _
    cases done with
    | false => exact holding.recorded.crash
    | true => exact (saved world holding).recorded.crash

theorem Holding.closed (holding : Holding setup record lease events True world)
    (closed : World Details) (same : closed = { world with route := closed.route })
    (silent : ∀ leaseId, ¬ closed.Accepting leaseId) :
    Engaged setup { record with lease := some lease } events closed := by
  have held : Holding setup record lease events True closed := by
    rw [same]
    refine ⟨⟨holding.recorded.told, holding.recorded.agrees, holding.recorded.memoryLease,
      holding.recorded.durableLease⟩, holding.running, holding.memory, holding.named,
      holding.history, ?_⟩
    intro leaseId accepting
    exact absurd accepting (silent leaseId)
  exact held.engaged fun leaseId accepting => absurd accepting (silent leaseId)

/-- After a deactivation the route accepts no call. -/
theorem ensures_deactivate_held (outcome : Write) :
    Ensures (deactivateInferenceLease lease.leaseId outcome)
      (Holding setup record lease events True)
      (fun _ world => Engaged setup { record with lease := some lease } events world ∧
        ∀ leaseId, ¬ world.Accepting leaseId)
      (Sound setup) (Lost setup) := by
  have silent : ∀ {world : World Details}, Holding setup record lease events True world →
      (∀ leaseId, ¬ world.Accepting leaseId) →
      Engaged setup { record with lease := some lease } events world ∧
        ∀ leaseId, ¬ world.Accepting leaseId := fun holding closed =>
    ⟨holding.engaged fun leaseId accepting => absurd accepting (closed leaseId), closed⟩
  refine .bind .get fun current => ?_
  split
  · rename_i absent
    refine .pure ?_
    rintro world ⟨rfl, holding⟩
    refine silent holding ?_
    rintro leaseId ⟨route, found, _⟩
    rw [absent] at found
    exact nomatch found
  · rename_i route found
    split_ifs with same
    · have closed : Ensures (modify fun world : World Details => world.closeRoute)
          (fun world => current = world ∧ Holding setup record lease events True world)
          (fun _ => Engaged setup { record with lease := some lease } events) (Sound setup)
          (Lost setup) := by
        refine .modify ?_
        rintro world ⟨_, holding⟩
        exact holding.closed _ rfl not_accepting_closeRoute
      refine .bind closed fun _ => ?_
      cases outcome with
      | done =>
        refine .modify ?_
        intro world engaged
        refine ⟨?_, ?_⟩
        · exact
          { sound := engaged.sound.unrouted
            running := engaged.running
            memory := engaged.memory
            named := engaged.named
            history := engaged.history }
        · rintro leaseId ⟨route, found, _⟩
          exact nomatch found
      | raised _ => exact .raise fun world engaged => engaged.sound
      | stopped _ => exact .stop fun world engaged => engaged.sound.cut
    · refine .pure ?_
      rintro world ⟨rfl, holding⟩
      refine silent holding ?_
      intro leaseId accepting
      obtain ⟨other, present, _, named⟩ := accepting
      have held := (holding.route leaseId ⟨other, present, by assumption, named⟩).1
      obtain rfl := Option.some.inj (found.symm.trans present)
      exact absurd (named.trans held) same

theorem ensures_activate_held (ready : lease.state = .ready) (outcome : Write) :
    Ensures (activateInferenceLease lease.leaseId outcome)
      (Holding setup record lease events True)
      (fun _ => Engaged setup { record with lease := some lease } events)
      (Sound setup) (Lost setup) := by
  have sound : ∀ world, Holding setup record lease events True world → Sound setup world :=
    fun world holding => holding.sound fun _ _ => ready
  refine .bind .get fun current => ?_
  split
  · cases outcome with
    | done =>
      refine .modify ?_
      rintro world ⟨_, holding⟩
      have open_ : Holding setup record lease events True
          { world with route := some ⟨lease.leaseId, true⟩ } := by
        refine ⟨⟨holding.recorded.told, holding.recorded.agrees, holding.recorded.memoryLease,
          holding.recorded.durableLease⟩, holding.running, holding.memory, holding.named,
          holding.history, ?_⟩
        rintro leaseId ⟨route, found, _, rfl⟩
        obtain rfl := Option.some.inj found
        exact ⟨rfl, by simp [ready], fun _ => trivial⟩
      exact open_.engaged fun _ _ => ready
    | raised _ => exact .raise fun world holding => sound world holding.2
    | stopped _ => exact .stop fun world holding => (sound world holding.2).cut
  · refine .bind (.require fun world holding => sound world holding.2) fun _ => ?_
    cases outcome with
    | done => exact .pure fun world holding => holding.2.2.engaged fun _ _ => ready
    | raised closed =>
      have drained : Ensures
          (modify fun world : World Details => if closed then world.closeRoute else world)
          (Holding setup record lease events True)
          (fun _ => Sound setup) (Sound setup) (Lost setup) := by
        refine .modify ?_
        intro world holding
        split_ifs
        · exact (holding.closed _ rfl not_accepting_closeRoute).sound
        · exact sound world holding
      exact .bind (drained.weaken fun _ holding => holding.2.2) fun _ =>
        .raise fun world sound => sound
    | stopped _ => exact .stop fun world holding => (sound world holding.2.2).cut

theorem ensures_routeLease (outcome : Write) :
    Ensures (routeLease lease outcome) (Holding setup record lease events True)
      (fun _ => Engaged setup { record with lease := some lease } events)
      (Sound setup) (Lost setup) := by
  unfold routeLease
  split
  · rename_i ready
    exact ensures_activate_held ready outcome
  · rename_i pending
    exact .pure fun world holding => holding.engaged fun leaseId accepting =>
      absurd pending (holding.route leaseId accepting).2.1
  · exact (ensures_deactivate_held outcome).strengthen fun _ _ engaged => engaged.1

theorem ensures_applyProviderLease : Ensures (applyProviderLease setup record lease applied)
      (Arriving setup record lease events applied)
      (fun result world => result = lease ∧
        (∀ previous, record.lease = some previous → lease.leaseId = previous.leaseId) ∧
        Engaged setup { record with lease := some lease } events world)
      (Sound setup) (Lost setup) := by
  unfold applyProviderLease
  refine .bind (.require fun world arriving => arriving.sound) fun _ => ?_
  refine .assuming (fun _ arriving => arriving.1) fun accepted => ?_
  refine .weaken ?_ fun _ arriving => arriving.2
  refine .bind ensures_validateTransition fun _ => ?_
  refine .assuming (fun _ arriving => arriving.2) fun valid => ?_
  refine .weaken ?_ fun _ arriving => arriving.1
  have held : Ensures (modify fun world : World Details =>
        world.hold { record with lease := some lease })
      (Arriving setup record lease events applied)
      (fun _ => Holding setup record lease events (∀ done, applied.persist ≠ .raised done))
      (Sound setup) (Lost setup) :=
    .modify fun world arriving => arriving.holding accepted valid
  refine .bind held fun _ => .bind ensures_persist_held fun _ =>
    .bind (ensures_routeLease applied.routing) fun _ => .pure fun world engaged => ?_
  exact ⟨rfl, fun previous found => (valid previous found).1, engaged⟩

end Apply

section Answers

variable {previous : Lease Details} {exchange : Exchange Details}

/-- An answer is not older than the time that the record holds, where no provider reported that
time. -/
def Timely (events : List (Event Details)) (leaseId : String) (updatedAt : ℤ)
    (exchange : Exchange Details) : Prop :=
  ∀ answer, exchange.answer = .returned answer → answer.leaseId = leaseId →
    (∃ request earlier, .reported request earlier ∈ events ∧ earlier.leaseId = leaseId ∧
      earlier.updatedAt = updatedAt) ∨ updatedAt ≤ answer.updatedAt

/-- A lease that leaves its ready state is saved. -/
def Confirmed (setup : Setup Details) (record : Record Details) (previous : Lease Details)
    (exchange : Exchange Details) : Prop :=
  ∀ answer, exchange.answer = .returned answer → Applies setup record previous answer →
    answer.state ≠ .ready → ∀ done, exchange.applied.persist ≠ .raised done

omit [DecidableEq Details] in
theorem Timely.wentBack {leaseId : String} {updatedAt : ℤ} {answer : Lease Details}
    (timely : Timely events leaseId updatedAt exchange) (answered : exchange.answer = .returned answer)
    (same : answer.leaseId = leaseId) (older : answer.updatedAt < updatedAt) :
    WentBack events answer := by
  obtain ⟨request, earlier, member, sameId, rfl⟩ | later := timely answer answered same
  · exact ⟨request, earlier, member, sameId.trans same.symm, older⟩
  · exact absurd later (Int.not_le.mpr older)

theorem Engaged.reported {world : World Details} (engaged : Engaged setup record events world)
    (answer : Lease Details) :
    Engaged setup record (.reported record.request answer :: events)
      (world.note (.reported record.request answer)) where
  sound := engaged.sound.note (engaged.sound.recorded.told.reported engaged.named answer)
  running := engaged.running
  memory := engaged.memory
  named := engaged.named
  history := by rw [World.note, engaged.history]

theorem ensures_receive (events : List (Event Details)) (found : record.lease = some previous)
    (timely : Timely events previous.leaseId previous.updatedAt exchange) :
    Ensures (receive setup record previous.leaseId exchange)
      (fun world => Engaged setup record events world ∧
        ∀ leaseId, world.Accepting leaseId → Confirmed setup record previous exchange)
      (fun result world => result.leaseId = previous.leaseId ∧
        Engaged setup { record with lease := some result }
          (.reported record.request result :: events) world)
      (Sound setup) (Lost setup) := by
  unfold receive
  refine .bind (.await (fun world engaged => engaged.1.sound) fun world engaged =>
    engaged.1.sound.cut) fun answer => ?_
  refine .assuming (fun _ engaged => engaged.1) fun answered => ?_
  unfold noteReport
  split_ifs with same
  · have noted : Ensures
        (modify fun world : World Details => world.note (.reported record.request answer))
        (fun world => exchange.answer = .returned answer ∧ Engaged setup record events world ∧
          ∀ leaseId, world.Accepting leaseId → Confirmed setup record previous exchange)
        (fun _ => Arriving setup record answer (.reported record.request answer :: events)
          exchange.applied) (Sound setup) (Lost setup) := by
      refine .modify ?_
      rintro world ⟨_, engaged, confirmed⟩
      refine ⟨engaged.reported answer, fun _ => ⟨answer, List.mem_cons_self, rfl⟩, ?_, ?_⟩
      · intro other isHeld _ older
        obtain rfl := Option.some.inj (found.symm.trans isHeld)
        exact (timely.wentBack answered same older).mono
      · intro other leaseId isHeld applies left accepting
        obtain rfl := Option.some.inj (found.symm.trans isHeld)
        exact confirmed leaseId accepting answer answered applies left
    refine .bind noted fun _ => ensures_applyProviderLease.strengthen ?_
    rintro result world ⟨rfl, _, engaged⟩
    exact ⟨same, engaged⟩
  · have refused : Ensures (pure () : Attempt (World Details) Unit)
        (fun world => exchange.answer = .returned answer ∧ Engaged setup record events world ∧
          ∀ leaseId, world.Accepting leaseId → Confirmed setup record previous exchange)
        (fun _ => Arriving setup record answer events exchange.applied) (Sound setup)
        (Lost setup) := by
      refine .pure ?_
      rintro world ⟨_, engaged, confirmed⟩
      refine ⟨engaged, fun known => absurd (known previous found) same, ?_, ?_⟩
      · intro other isHeld sameId
        obtain rfl := Option.some.inj (found.symm.trans isHeld)
        exact absurd sameId same
      · intro other leaseId isHeld applies
        obtain rfl := Option.some.inj (found.symm.trans isHeld)
        exact absurd applies.2.1 same
    refine .bind refused fun _ => ensures_applyProviderLease.strengthen ?_
    rintro result world ⟨rfl, sameId, _⟩
    exact absurd (sameId previous found) same

theorem ensures_refresh (events : List (Event Details)) (found : record.lease = some previous)
    (timely : Timely events previous.leaseId previous.updatedAt exchange) :
    Ensures (refreshProviderLease setup record previous exchange)
      (fun world => Engaged setup record events world ∧
        ∀ leaseId, world.Accepting leaseId → Confirmed setup record previous exchange)
      (fun result world => result.leaseId = previous.leaseId ∧
        Engaged setup { record with lease := some result }
          (.reported record.request result :: events) world)
      (Sound setup) (Lost setup) := by
  unfold refreshProviderLease
  refine .bind (.require fun world engaged => engaged.1.sound) fun _ => ?_
  exact (ensures_receive events found timely).weaken fun _ engaged => engaged.2

theorem ensures_acquireFromProvider (events : List (Event Details))
    (unleased : record.lease = none) :
    Ensures (acquireFromProvider setup record exchange)
      (fun world => Engaged setup record events world ∧
        ∃ named, world.durable = some named ∧ named.request = record.request ∧
          named.quote = record.quote)
      (fun _ => Sound setup) (Sound setup) (Lost setup) := by
  have unheld : ∀ {held : Lease Details}, record.lease ≠ some held := by
    intro held same
    rw [unleased] at same
    exact nomatch same
  refine .bind (.require fun world engaged => engaged.1.sound) fun _ => ?_
  refine .bind (.await (fun world engaged => engaged.2.1.sound) fun world engaged =>
    engaged.2.1.sound.cut) fun _ => ?_
  have asked : Ensures (modify fun world : World Details =>
        world.note (.acquired record.request record.quote world.durable))
      (fun world => Engaged setup record events world ∧
        ∃ named, world.durable = some named ∧ named.request = record.request ∧
          named.quote = record.quote)
      (fun _ world => ∃ events, Engaged setup record events world) (Sound setup) (Lost setup) := by
    refine .modify ?_
    rintro world ⟨engaged, named, stored, sameRequest, sameQuote⟩
    refine ⟨_, ?_, engaged.running, engaged.memory, engaged.named, rfl⟩
    exact engaged.sound.note (engaged.sound.recorded.told.acquire stored sameRequest sameQuote)
  refine .bind (asked.weaken fun _ engaged => engaged.2.2) fun _ => ?_
  refine .bind (.await (fun world engaged => engaged.choose_spec.sound) fun world engaged =>
    engaged.choose_spec.sound.cut) fun answer => ?_
  have noted : Ensures
      (modify fun world : World Details => world.note (.reported record.request answer))
      (fun world => exchange.answer = .returned answer ∧
        ∃ events, Engaged setup record events world)
      (fun _ world => ∃ events, Arriving setup record answer events exchange.applied world)
      (Sound setup) (Lost setup) := by
    refine .modify ?_
    rintro world ⟨_, events, engaged⟩
    exact ⟨_, engaged.reported answer, fun _ => ⟨answer, List.mem_cons_self, rfl⟩,
      fun _ isHeld => absurd isHeld unheld, fun _ _ isHeld => absurd isHeld unheld⟩
  refine .bind noted fun _ => ?_
  refine .forSome fun events => ensures_applyProviderLease.strengthen ?_
  exact fun _ _ arrived => arrived.2.2.sound

end Answers

end Kestrel.Llm
