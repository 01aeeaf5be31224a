import Kestrel.Llm.LeaseCalls
import Kestrel.Base.Counting

/-!
# Runs of the lease coordinator
-/

namespace Kestrel.Llm

open World Attempt Transition List

variable {Details : Type} [DecidableEq Details] {setup : Setup Details} {record : Record Details}
  {lease : Lease Details} {events : List (Event Details)} {exchange : Exchange Details}

section Acquiring

/-- No provider still serves a request. -/
def AllSettled (events : List (Event Details)) : Prop :=
  ∀ request, Used events request → Settled events request

/-- The coordinator may ask for another lease. -/
structure Free (setup : Setup Details) (world : World Details) : Prop where
  sound : Sound setup world
  running : world.running = true
  settled : AllSettled world.events
  silent : ∀ leaseId, ¬ world.Accepting leaseId

variable {world : World Details}

theorem Free.hold (free : Free setup world) (unleased : record.lease = none)
    : Sound setup (world.hold record) where
  recorded := by
    refine free.sound.recorded.hold ?_ ?_ <;> intro held same <;> rw [unleased] at same <;>
      exact nomatch same
  routed := fun leaseId accepting => absurd accepting (free.silent leaseId)
  loaded := fun _ absent => nomatch absent
  lost := by
    intro stopped
    rw [World.hold, free.running] at stopped
    exact nomatch stopped

theorem Free.persisted (free : Free setup world) (unleased : record.lease = none)
    : Sound setup (world.hold record).persisted where
  recorded := (free.hold unleased).recorded.persisted rfl fun request used =>
    .inl (free.settled request used)
  routed := fun leaseId accepting => absurd accepting (free.silent leaseId)
  loaded := fun _ absent => nomatch absent
  lost := (free.hold unleased).lost

theorem ensures_acquireQuoted (request : Request Details) (quotes : List (Quote Details))
    (outcome : Write) :
    Ensures (acquireQuoted setup request quotes outcome exchange) (Free setup)
      (fun _ => Sound setup) (Sound setup) (Lost setup) := by
  unfold acquireQuoted
  split
  · exact .raise fun world free => free.sound
  · rename_i quote _
    let record : Record Details := ⟨quote.providerName, request, quote, none⟩
    have held : Ensures (modify fun world : World Details => world.hold record)
        (Free setup) (fun _ world => ∃ before, Free setup before ∧ world = before.hold record)
        (Sound setup) (Lost setup) := .modify fun world free => ⟨world, free, rfl⟩
    have saved : Ensures (persist outcome)
        (fun world : World Details => ∃ before, Free setup before ∧ world = before.hold record)
        (fun _ world => (∃ events, Engaged setup record events world) ∧
          ∃ named, world.durable = some named ∧ named.request = record.request ∧
            named.quote = record.quote)
        (Sound setup) (Lost setup) := by
      refine .write ?_ ?_ ?_
      · rintro _ ⟨before, free, rfl⟩ _
        exact ⟨⟨_, free.persisted rfl, free.running, rfl, ⟨record, rfl, rfl⟩, rfl⟩, record, rfl, rfl,
          rfl⟩
      · rintro _ applied ⟨before, free, rfl⟩ _
        cases applied with
        | false => exact free.hold rfl
        | true => exact free.persisted rfl
      · rintro _ applied ⟨before, free, rfl⟩ _
        cases applied with
        | false => exact (free.hold rfl).cut
        | true => exact (free.persisted rfl).cut
    refine .bind held fun _ => .bind saved fun _ => ?_
    refine Ensures.weaken (.forSome fun events =>
      ensures_acquireFromProvider events rfl) ?_
    rintro world ⟨⟨events, engaged⟩, named⟩
    exact ⟨events, engaged, named⟩

theorem Engaged.silent (engaged : Engaged setup record events world)
    (found : record.lease = some lease) (left : lease.state ≠ .ready) (leaseId : String) :
    ¬ world.Accepting leaseId := by
  intro accepting
  obtain ⟨other, held, stored, isHeld, _, ready⟩ := engaged.sound.routed leaseId accepting
  obtain rfl := Option.some.inj (engaged.memory.symm.trans stored)
  obtain rfl := Option.some.inj (found.symm.trans isHeld)
  exact left ready

theorem LeaseState.not_ready_of_terminal {state : LeaseState} (terminal : state.isTerminal = true) :
    state ≠ .ready := by
  rintro rfl
  exact nomatch terminal

theorem ensures_recheck (found : record.lease = some lease)
    (timely : Timely events lease.leaseId lease.updatedAt exchange) :
    Ensures (recheck setup record lease exchange) (Engaged setup record events)
      (fun result world => result.leaseId = lease.leaseId ∧
        ∃ events, Engaged setup { record with lease := some result } events world ∧
          (result.state.isTerminal = true → Settled events record.request))
      (Sound setup) (Lost setup) := by
  unfold recheck
  split_ifs with terminal
  · refine ((ensures_refresh events found timely).weaken ?_).strengthen ?_
    · intro world engaged
      refine ⟨engaged, ?_⟩
      intro leaseId accepting
      exact absurd accepting
        (engaged.silent found (LeaseState.not_ready_of_terminal terminal) leaseId)
    · rintro result world ⟨same, engaged⟩
      exact ⟨same, _, engaged, settled_reported⟩
  · refine .pure ?_
    intro world engaged
    have same : record = { record with lease := some lease } := by
      cases record
      cases found
      rfl
    exact ⟨rfl, events, same ▸ engaged, fun impossible => absurd impossible terminal⟩

/-- The conditions of an acquisition: a record without a lease that is asked for again is durable,
and the recheck of a terminal lease is answered in time. -/
def AcquiresWith (world : World Details) (request : Request Details)
    (rechecked : Exchange Details) : Prop :=
  ∀ record, world.memory = some record →
    (record.lease = none → record.request.requestId = request.requestId →
      world.durable = some record) ∧
      ∀ lease, record.lease = some lease →
        Timely world.events lease.leaseId lease.updatedAt rechecked

/-- The state is the one that a call started from. -/
def Starting (setup : Setup Details) (start world : World Details) : Prop :=
  world = start ∧ Sound setup world ∧ world.running = true

theorem Starting.engaged {start : World Details} (starting : Starting setup start world)
    (memory : start.memory = some record) (found : record.lease = some lease) :
    Engaged setup record start.events world := by
  obtain ⟨rfl, sound, running⟩ := starting
  exact ⟨sound, running, memory, sound.recorded.agrees record lease memory found, rfl⟩

theorem ensures_acquire {start : World Details} (request : Request Details)
    {rechecked : Exchange Details} (quotes : List (Quote Details)) (outcome : Write)
    (condition : AcquiresWith start request rechecked) :
    Ensures (acquire setup request rechecked quotes outcome exchange)
      (Starting setup start) (fun _ => Sound setup) (Sound setup) (Lost setup) := by
  unfold acquire
  refine .bind (.require fun world starting => starting.2.1) fun _ => ?_
  refine .bind .get fun current => ?_
  refine .assuming (fun world starting => starting.1.trans starting.2.2.1) fun isStart => ?_
  subst isStart
  refine .weaken (show Ensures _ (Starting setup current) _ _ _ from ?_)
    fun _ starting => starting.2.2
  split
  · rename_i absent
    refine (ensures_acquireQuoted request quotes outcome).weaken ?_
    rintro world ⟨rfl, sound, running⟩
    refine ⟨sound, running, ?_, ?_⟩
    · intro other used
      obtain settled | ⟨named, stored, _⟩ := sound.recorded.told.owned other used
      · exact settled
      · rw [sound.loaded running absent] at stored
        cases stored
    · intro leaseId accepting
      obtain ⟨_, _, stored, _⟩ := sound.routed leaseId accepting
      rw [absent] at stored
      cases stored
  · rename_i previous stored
    obtain ⟨durable, timely⟩ := condition previous stored
    split
    · rename_i unleased
      refine .bind (.require fun world starting => starting.2.1) fun _ => ?_
      refine (ensures_acquireFromProvider current.events unleased).weaken ?_
      rintro world ⟨sameId, rfl, sound, running⟩
      have named := durable unleased sameId
      exact ⟨⟨sound, running, stored, ⟨previous, named, rfl⟩, rfl⟩, previous, named, rfl, rfl⟩
    · rename_i held found
      refine .bind ((ensures_recheck found (timely held found)).weaken fun world starting =>
        starting.engaged stored found) fun result => ?_
      refine .bind (.require fun world engaged => engaged.2.choose_spec.1.sound) fun _ => ?_
      refine (ensures_acquireQuoted request quotes outcome).weaken ?_
      rintro world ⟨terminal, _, events, engaged, settles⟩
      refine ⟨engaged.sound, engaged.running, ?_, ?_⟩
      · intro other used
        obtain settled | same := engaged.sound.recorded.settled_of_named engaged.named other used
        · exact settled
        · subst same
          rw [engaged.history]
          exact settles terminal
      · exact engaged.silent rfl (LeaseState.not_ready_of_terminal terminal)

end Acquiring

section Serving

variable {start world : World Details}

theorem ensures_recordForLease (leaseId : String) :
    Ensures (recordForLease leaseId) (Starting setup start)
      (fun result world => Starting setup start world ∧ start.memory = some result.1 ∧
        result.1.lease = some result.2 ∧ result.2.leaseId = leaseId)
      (Sound setup) (Lost setup) := by
  unfold recordForLease
  refine .bind .get fun current => ?_
  split
  · exact .raise fun world starting => starting.2.2.1
  · rename_i record stored
    split
    · exact .raise fun world starting => starting.2.2.1
    · rename_i lease found
      refine .bind (.require fun world starting => starting.2.2.1) fun _ => .pure ?_
      rintro world ⟨same, rfl, starting⟩
      have isStart := starting.1
      subst isStart
      exact ⟨starting, stored, found, same⟩

/-- The conditions of an exchange on the held lease: it is answered in time, and a lease that leaves
its ready state under an active route is saved. -/
def ServesWith (setup : Setup Details) (world : World Details) (exchange : Exchange Details) : Prop :=
  ∀ record lease, world.memory = some record → record.lease = some lease →
    Timely world.events lease.leaseId lease.updatedAt exchange ∧
      ∀ leaseId, world.Accepting leaseId → Confirmed setup record lease exchange

theorem ensures_status (leaseId : String) (condition : ServesWith setup start exchange) :
    Ensures (status setup leaseId exchange) (Starting setup start) (fun _ => Sound setup)
      (Sound setup) (Lost setup) := by
  unfold status
  refine .bind (ensures_recordForLease leaseId) fun found => ?_
  obtain ⟨record, lease⟩ := found
  refine .assuming (fun _ starting => starting.2) fun held => ?_
  obtain ⟨stored, found, _⟩ := held
  obtain ⟨timely, confirmed⟩ := condition record lease stored found
  refine ((ensures_refresh start.events found timely).weaken ?_).strengthen
    fun _ _ engaged => engaged.2.sound
  rintro world ⟨starting, _⟩
  have same := starting.1
  subst same
  exact ⟨starting.engaged stored found, confirmed⟩

theorem Engaged.touched (engaged : Engaged setup record events world) :
    Engaged setup record (.touched record.request :: events)
      (world.note (.touched record.request)) where
  sound := engaged.sound.note (engaged.sound.recorded.told.touched engaged.named)
  running := engaged.running
  memory := engaged.memory
  named := engaged.named
  history := by rw [note, engaged.history]

omit [DecidableEq Details] in
theorem Timely.mono {leaseId : String} {updatedAt : ℤ} {event : Event Details}
    (timely : Timely events leaseId updatedAt exchange) :
    Timely (event :: events) leaseId updatedAt exchange := by
  intro answer answered same
  obtain ⟨request, earlier, member, rest⟩ | later := timely answer answered same
  · exact .inl ⟨request, earlier, mem_cons_of_mem event member, rest⟩
  · exact .inr later

theorem ensures_touch (leaseId : String) (condition : ServesWith setup start exchange) :
    Ensures (touch setup leaseId exchange) (Starting setup start) (fun _ => Sound setup)
      (Sound setup) (Lost setup) := by
  unfold touch
  refine .bind (ensures_recordForLease leaseId) fun found => ?_
  obtain ⟨record, lease⟩ := found
  refine .assuming (fun _ starting => starting.2) fun held => ?_
  obtain ⟨stored, found, same⟩ := held
  obtain ⟨timely, confirmed⟩ := condition record lease stored found
  subst same
  refine .bind (.require fun world starting => starting.1.2.1) fun _ => ?_
  refine .bind (.require fun world starting => starting.2.1.2.1) fun _ => ?_
  refine .bind (.await (fun world starting => starting.2.2.1.2.1) fun world starting =>
    starting.2.2.1.2.1.cut) fun _ => ?_
  have touched : Ensures
      (modify fun world : World Details => world.note (.touched record.request))
      (Starting setup start)
      (fun _ world => Engaged setup record (.touched record.request :: start.events) world ∧
        ∀ leaseId, world.Accepting leaseId → Confirmed setup record lease exchange)
      (Sound setup) (Lost setup) := by
    refine .modify ?_
    intro world starting
    have same := starting.1
    subst same
    exact ⟨(starting.engaged stored found).touched, confirmed⟩
  refine .bind (touched.weaken fun _ starting => starting.2.2.2.1) fun _ => ?_
  exact (ensures_receive _ found timely.mono).strengthen fun _ _ engaged => engaged.2.sound

/-- The conditions of a release: the recheck of a terminal lease is answered in time, and the
provider's answer is not older than the local time of the release. -/
def ReleasesWith (world : World Details) (leaseId : String) (rechecked : Exchange Details) (now : ℤ)
    (exchange : Exchange Details) : Prop :=
  (∀ record lease, world.memory = some record → record.lease = some lease →
    Timely world.events lease.leaseId lease.updatedAt rechecked) ∧
  ∀ answer, exchange.answer = .returned answer → answer.leaseId = leaseId → now ≤ answer.updatedAt

theorem Engaged.holding (engaged : Engaged setup { record with lease := some lease } events world) :
    Holding setup record lease events True world where
  recorded := engaged.sound.recorded
  running := engaged.running
  memory := engaged.memory
  named := engaged.named
  history := engaged.history
  route := by
    intro leaseId accepting
    obtain ⟨other, held, stored, found, same, ready⟩ := engaged.sound.routed leaseId accepting
    obtain rfl := Option.some.inj (engaged.memory.symm.trans stored)
    obtain rfl := Option.some.inj found
    exact ⟨same.symm, by simp [ready], fun _ => trivial⟩

theorem Engaged.releasing (engaged : Engaged setup { record with lease := some lease } events world)
    (silent : ∀ leaseId, ¬ world.Accepting leaseId) (now : ℤ) :
    Engaged setup { record with lease := some { lease with state := .releasing, updatedAt := now } }
      events
      (world.hold
        { record with lease := some { lease with state := .releasing, updatedAt := now } }) where
  sound :=
    { recorded := by
        refine engaged.sound.recorded.hold (fun _ _ => engaged.named) ?_
        intro held same
        obtain rfl := Option.some.inj same
        have given := engaged.sound.recorded.memoryLease _ lease engaged.memory rfl
        exact ⟨given.1, given.2⟩
      routed := fun leaseId accepting => absurd accepting (silent leaseId)
      loaded := fun _ absent => nomatch absent
      lost := by
        intro stopped
        rw [hold, engaged.running] at stopped
        exact nomatch stopped }
  running := engaged.running
  memory := rfl
  named := engaged.named
  history := engaged.history

theorem Engaged.persisted (engaged : Engaged setup record events world) :
    Engaged setup record events world.persisted where
  sound :=
    { recorded := engaged.sound.recorded.persisted engaged.memory
        (engaged.sound.recorded.settled_of_named engaged.named)
      routed := engaged.sound.routed
      loaded := by
        intro _ absent
        exact absurd (engaged.memory.symm.trans absent) (Option.some_ne_none record)
      lost := engaged.sound.lost }
  running := engaged.running
  memory := engaged.memory
  named := ⟨record, engaged.memory, rfl⟩
  history := engaged.history

theorem ensures_releaseHeld (events : List (Event Details)) (deactivation : Write) {now : ℤ} (outcome : Write)
    (timely : ∀ answer, exchange.answer = .returned answer → answer.leaseId = lease.leaseId →
      now ≤ answer.updatedAt) :
    Ensures (releaseHeld setup record lease deactivation now outcome exchange)
      (Engaged setup { record with lease := some lease } events) (fun _ => Sound setup)
      (Sound setup) (Lost setup) := by
  let releasing : Record Details :=
    { record with lease := some { lease with state := .releasing, updatedAt := now } }
  have held : Ensures (modify fun world : World Details => world.hold releasing)
      (fun world => Engaged setup { record with lease := some lease } events world ∧
        ∀ leaseId, ¬ world.Accepting leaseId)
      (fun _ => Engaged setup releasing events) (Sound setup) (Lost setup) :=
    .modify fun world engaged => engaged.1.releasing engaged.2 now
  have saved : Ensures (persist outcome) (Engaged setup releasing events)
      (fun _ => Engaged setup releasing events) (Sound setup) (Lost setup) := by
    refine .write (fun world engaged _ => engaged.persisted) ?_ ?_
    · intro world applied engaged _
      cases applied with
      | false => exact engaged.sound
      | true => exact engaged.persisted.sound
    · intro world applied engaged _
      cases applied with
      | false => exact engaged.sound.cut
      | true => exact engaged.persisted.sound.cut
  refine .bind ((ensures_deactivate_held deactivation).weaken fun _ engaged => engaged.holding)
    fun _ => .bind held fun _ => .bind saved fun _ =>
    .bind (.require fun world engaged => engaged.sound) fun _ => ?_
  have answered : Timely events lease.leaseId now exchange :=
    fun answer answered same => .inr (timely answer answered same)
  have received := @ensures_receive _ _ setup releasing
    { lease with state := .releasing, updatedAt := now } exchange events rfl answered
  refine (received.weaken ?_).strengthen fun _ _ engaged => engaged.2.sound
  rintro world ⟨_, engaged⟩
  exact ⟨engaged, fun leaseId accepting =>
    absurd accepting (engaged.silent rfl (by simp) leaseId)⟩

theorem ensures_release (leaseId : String) {rechecked : Exchange Details} (deactivation : Write)
    {now : ℤ} (outcome : Write) (condition : ReleasesWith start leaseId rechecked now exchange) :
    Ensures (release setup leaseId rechecked deactivation now outcome exchange)
      (Starting setup start) (fun _ => Sound setup) (Sound setup) (Lost setup) := by
  unfold release
  refine .bind (ensures_recordForLease leaseId) fun found => ?_
  obtain ⟨record, lease⟩ := found
  refine .assuming (fun _ starting => starting.2) fun held => ?_
  obtain ⟨stored, found, same⟩ := held
  refine .bind ((ensures_recheck found (condition.1 record lease stored found)).weaken
    fun world starting => starting.1.engaged stored found) fun current => ?_
  split_ifs
  · exact .pure fun world engaged => engaged.2.choose_spec.1.sound
  · refine .assuming (fun _ engaged => engaged.1) fun sameId => ?_
    refine Ensures.weaken (.forSome fun events =>
      ensures_releaseHeld events deactivation outcome fun answer answered named =>
        condition.2 answer answered (named.trans (sameId.trans same))) ?_
    rintro world ⟨_, events, engaged, _⟩
    exact ⟨events, engaged⟩

end Serving

section Restoring

omit [DecidableEq Details] in
theorem fromPersisted_lease {held : Lease Details}
    (found : record.fromPersisted.lease = some held) :
    ∃ saved, record.lease = some saved ∧ held.leaseId = saved.leaseId ∧
      held.updatedAt = saved.updatedAt ∧ held.terms = saved.terms := by
  obtain ⟨saved, stored, rfl⟩ := Option.map_eq_some_iff.mp found
  exact ⟨saved, stored, rfl, rfl, rfl⟩

/-- The conditions of a restore: no route is active, and the saved lease is answered in time. -/
def RestoresWith (world : World Details) (exchange : Exchange Details) : Prop :=
  (∀ leaseId, ¬ world.Accepting leaseId) ∧
  ∀ record lease, world.durable = some record → record.lease = some lease →
    Timely world.events lease.leaseId lease.updatedAt exchange

/-- The process runs again with what is durable. -/
def Returning (setup : Setup Details) (start world : World Details) : Prop :=
  world = { start with running := true } ∧ Recorded setup start ∧
    (start.durable = none → Sound setup world) ∧ ∀ leaseId, ¬ start.Accepting leaseId

theorem Returning.engaged {start world : World Details} {payload : Record Details}
    (returning : Returning setup start world) (stored : start.durable = some payload) :
    Engaged setup payload.fromPersisted start.events (world.hold payload.fromPersisted) := by
  obtain ⟨rfl, recorded, _, silent⟩ := returning
  refine ⟨⟨⟨recorded.told, ?_, ?_, recorded.durableLease⟩, ?_, ?_, ?_⟩, rfl, rfl, ?_, rfl⟩
  · intro record lease same _
    obtain rfl := Option.some.inj same
    exact ⟨payload, stored, rfl⟩
  · intro record lease same found
    obtain rfl := Option.some.inj same
    obtain ⟨saved, isSaved, sameId, _, sameTerms⟩ := fromPersisted_lease found
    obtain ⟨accepted, known⟩ := recorded.durableLease payload saved stored isSaved
    refine ⟨?_, ?_⟩
    · rw [sameTerms]
      exact accepted
    · rw [sameId]
      exact known
  · exact fun leaseId accepting => absurd accepting (silent leaseId)
  · exact fun _ absent => nomatch absent
  · exact fun stopped => nomatch stopped
  · exact ⟨payload, stored, rfl⟩

theorem ensures_restore {start : World Details} (condition : RestoresWith start exchange) :
    Ensures (restore setup exchange) (Returning setup start) (fun _ => Sound setup)
      (Sound setup) (Lost setup) := by
  unfold restore
  refine .bind .get fun current => ?_
  refine .assuming (fun world returning => returning.1.trans returning.2.1) fun isStart => ?_
  refine .weaken (show Ensures _ (Returning setup start) _ _ _ from ?_)
    fun _ returning => returning.2
  have sameDurable : current.durable = start.durable := by rw [isStart]
  split
  · rename_i absent
    exact .pure fun world returning => returning.2.2.1 (sameDurable.symm.trans absent)
  · rename_i payload stored
    have stored := sameDurable.symm.trans stored
    refine .bind (.require_of ?_) fun _ => ?_
    · rintro world ⟨_, recorded, _⟩ lease found
      obtain ⟨saved, isSaved, _, _, sameTerms⟩ := fromPersisted_lease found
      rw [sameTerms]
      exact (recorded.durableLease payload saved stored isSaved).1
    have held : Ensures
        (modify fun world : World Details => world.hold payload.fromPersisted)
        (Returning setup start)
        (fun _ world => Engaged setup payload.fromPersisted start.events world ∧
          world.durable = some payload ∧ ∀ leaseId, ¬ world.Accepting leaseId)
        (Sound setup) (Lost setup) := by
      refine .modify ?_
      intro world returning
      refine ⟨returning.engaged stored, ?_, ?_⟩ <;> obtain ⟨rfl, _, _, silent⟩ := returning
      · exact stored
      · exact silent
    refine .bind held fun _ => ?_
    split
    · rename_i lease found
      obtain ⟨saved, isSaved, sameId, sameTime, _⟩ := fromPersisted_lease found
      have timely := condition.2 payload saved stored isSaved
      rw [← sameId, ← sameTime] at timely
      refine .bind ((ensures_refresh start.events found timely).weaken ?_) fun _ =>
        .pure fun world engaged => engaged.2.sound
      rintro world ⟨engaged, _, silent⟩
      exact ⟨engaged, fun leaseId accepting => absurd accepting (silent leaseId)⟩
    · rename_i unleased
      refine .bind ((ensures_acquireFromProvider start.events unleased).weaken ?_)
        fun _ => .pure fun world sound => sound
      rintro world ⟨engaged, durable, _⟩
      exact ⟨engaged, payload, durable, rfl, rfl⟩

end Restoring

section Runs

/-- The conditions under which a call does what it promises. -/
def Careful (setup : Setup Details) (world : World Details) : Call Details → Prop
  | .acquire request rechecked _ _ _ => AcquiresWith world request rechecked
  | .restore exchange => RestoresWith world exchange
  | .status _ exchange => ServesWith setup world exchange
  | .touch _ exchange => ServesWith setup world exchange
  | .release leaseId rechecked _ now _ exchange =>
    ReleasesWith world leaseId rechecked now exchange
  | .crash => True

variable {world : World Details}

theorem sound_finish {Value : Type} {attempt : Attempt (World Details) Value}
    {before : World Details → Prop}
    (ensures : Ensures attempt before (fun _ => Sound setup) (Sound setup) (Lost setup))
    (meets : before world) : Sound setup (finish (attempt world)) := by
  unfold finish
  rcases ended : attempt world with ⟨ending, after⟩
  cases ending with
  | returned value => exact ensures.onReturn world value after meets ended
  | raised => exact ensures.onRaise world after meets ended
  | stopped => exact ensures.onStop world after meets ended

theorem Sound.apply (sound : Sound setup world) {call : Call Details}
    (careful : Careful setup world call) : Sound setup (world.apply setup call) := by
  have starting : world.running = true → Starting setup world world := fun running =>
    ⟨rfl, sound, running⟩
  cases call with
  | acquire request rechecked quotes outcome exchange =>
    simp only [World.apply]
    split_ifs with running
    · exact sound_finish (ensures_acquire request quotes outcome careful) (starting running)
    · exact sound
  | restore exchange =>
    refine sound_finish (ensures_restore careful) ⟨rfl, sound.recorded, ?_, careful.1⟩
    intro absent
    exact
      { recorded := ⟨sound.recorded.told, sound.recorded.agrees, sound.recorded.memoryLease,
          sound.recorded.durableLease⟩
        routed := fun leaseId accepting => absurd accepting (careful.1 leaseId)
        loaded := fun _ _ => absent
        lost := by rintro ⟨⟩ }
  | status leaseId exchange =>
    simp only [World.apply]
    split_ifs with running
    · exact sound_finish (ensures_status leaseId careful) (starting running)
    · exact sound
  | touch leaseId exchange =>
    simp only [World.apply]
    split_ifs with running
    · exact sound_finish (ensures_touch leaseId careful) (starting running)
    · exact sound
  | release leaseId rechecked deactivation now outcome exchange =>
    simp only [World.apply]
    split_ifs with running
    · exact sound_finish (ensures_release leaseId deactivation outcome careful) (starting running)
    · exact sound
  | crash => exact sound.cut

theorem Sound.initial : Sound setup (initial : World Details) where
  recorded := by
    refine ⟨⟨?_, ?_, ?_, ?_⟩, fun _ _ absent => (nomatch absent),
      fun _ _ absent => (nomatch absent), fun _ _ absent => (nomatch absent)⟩
    · exact fun _ _ _ member => absurd member not_mem_nil
    · intro request quote record before suffix
      exact absurd (suffix_nil.mp suffix) (cons_ne_nil _ _)
    · intro lease before suffix
      exact absurd (suffix_nil.mp suffix) (cons_ne_nil _ _)
    · rintro request ⟨event, member, _⟩
      exact absurd member not_mem_nil
  routed := by
    rintro leaseId ⟨route, found, _⟩
    exact nomatch found
  loaded := fun _ _ => rfl
  lost := fun stopped => nomatch stopped

theorem Sound.run {calls : List (Call Details)} (run : Run
      (Transition.Guarded (Transition.ofFunction (World.apply setup)) (Careful setup))
      World.initial calls world) : Sound setup world := by
  refine invariant_of_guarded ?_ Sound.initial run
  intro source call target sound careful step
  rw [step]
  exact sound.apply careful

end Runs

end Kestrel.Llm
