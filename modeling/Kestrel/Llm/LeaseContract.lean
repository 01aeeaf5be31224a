import Kestrel.Llm.LeaseRuns

/-!
# What the lease coordinator promises

A lease is bought once and is not lost, where a record without a lease is durable, no answer is older
than the local time of a release, and a lease that leaves its ready state under an active route is
saved. Each of the three conditions is needed.
-/

namespace Kestrel.Llm

open Attempt

variable {Details : Type} [DecidableEq Details] {setup : Setup Details}

/-- An exchange that reports the held lease as terminal and fails nowhere. -/
structure Ends (setup : Setup Details) (world : World Details) (record : Record Details)
    (lease answer : Lease Details) (exchange : Exchange Details) : Prop where
  answered : exchange.answer = .returned answer
  installed : setup.installed record.providerName = true
  accepted : setup.accepts record.request record.quote answer.terms = true
  same : answer.leaseId = lease.leaseId
  terminal : answer.state.isTerminal = true
  forward : ¬ WentBack world.events answer
  applied : exchange.applied = ⟨.done, .done⟩

/-- The promises of the coordinator. -/
structure LeaseContract (setup : Setup Details) (world : World Details) : Prop where
  /-- The durable record names each request that a provider is asked for, with its quote. -/
  durable : ∀ request quote record, .acquired request quote record ∈ world.events →
    ∃ named, record = some named ∧ named.request = request ∧ named.quote = quote
  /-- Where a lease is asked for, the last word on every other request is that its lease is
  terminal. -/
  alone : ∀ request quote record before,
    .acquired request quote record :: before <:+ world.events →
    ∀ other, other ≠ request → Used before other → Settled before other
  /-- The durable record names what is not terminal, and holds no lease that was not reported. -/
  reachable : ∀ request, Used world.events request → Settled world.events request ∨
    ∃ record, world.durable = some record ∧ record.request = request ∧
      ∀ lease, record.lease = some lease → Known world.events request lease.leaseId
  routed : ∀ leaseId, world.Accepting leaseId →
    ∃ record lease, world.memory = some record ∧ record.lease = some lease ∧
      lease.leaseId = leaseId ∧ lease.state = .ready
  /-- A report is refused as stale only where its provider went back. -/
  fresh : ∀ lease before, .stale lease :: before <:+ world.events → WentBack before lease
  driven : ∀ record lease answer exchange, world.running = true → world.memory = some record →
    record.lease = some lease → lease.state.isTerminal = false →
    Ends setup world record lease answer exchange →
    Careful setup world (.status lease.leaseId exchange) →
    (world.apply setup (.status lease.leaseId exchange)).memory =
        some { record with lease := some answer } ∧
      (world.apply setup (.status lease.leaseId exchange)).durable =
        some { record with lease := some answer }

section Driving

variable {world : World Details} {record : Record Details} {lease answer : Lease Details}
  {exchange : Exchange Details}

omit [DecidableEq Details] in
theorem LeaseState.allowed_of_terminal {source target : LeaseState}
    (live : source.isTerminal = false) (terminal : target.isTerminal = true) :
    target ∈ source.allowedTransitions := by
  cases source <;> cases target <;> simp_all [isTerminal, allowedTransitions]

omit [DecidableEq Details] in
theorem run_deactivate (world : World Details) (leaseId : String) :
    ∃ route, deactivateInferenceLease leaseId .done world =
      (.returned (), { world with route := route }) := by
  unfold deactivateInferenceLease
  rw [run_bind (run_get world)]
  cases world.route with
  | none => exact ⟨world.route, rfl⟩
  | some route =>
    dsimp only
    split_ifs
    · exact ⟨none, rfl⟩
    · exact ⟨world.route, rfl⟩

omit [DecidableEq Details] in
theorem run_applyProviderLease (applies : Applies setup record lease answer)
    (found : record.lease = some lease) (terminal : answer.state.isTerminal = true)
    (world : World Details) :
    ∃ after, applyProviderLease setup record answer ⟨.done, .done⟩ world =
        (.returned answer, after) ∧
      after.memory = some { record with lease := some answer } ∧
      after.durable = some { record with lease := some answer } := by
  obtain ⟨accepted, same, allowed, later⟩ := applies
  have valid : validateTransition record.lease answer world = (.returned (), world) := by
    simp only [validateTransition, found]
    rw [run_bind (run_require same world),
      run_bind (run_require allowed world), if_neg (Int.not_lt.mpr later)]
    rfl
  have routed : routeLease answer .done = deactivateInferenceLease answer.leaseId .done := by
    unfold routeLease
    cases state : answer.state <;> simp_all [LeaseState.isTerminal]
  let held := World.persisted (world.hold { record with lease := some answer })
  obtain ⟨route, closed⟩ := run_deactivate held answer.leaseId
  refine ⟨{ held with route := route }, ?_, rfl, rfl⟩
  unfold applyProviderLease
  rw [run_bind (run_require accepted world), run_bind valid, run_bind (run_modify _ world), persist,
    run_bind (run_write_done _ _), routed, run_bind closed]
  rfl

omit [DecidableEq Details] in
theorem status_drives (running : world.running = true) (memory : world.memory = some record)
    (found : record.lease = some lease) (live : lease.state.isTerminal = false)
    (ends : Ends setup world record lease answer exchange)
    (careful : Careful setup world (.status lease.leaseId exchange)) :
    (world.apply setup (.status lease.leaseId exchange)).memory =
        some { record with lease := some answer } ∧
      (world.apply setup (.status lease.leaseId exchange)).durable =
        some { record with lease := some answer } := by
  obtain ⟨timely, _⟩ := careful record lease memory found
  have later : lease.updatedAt ≤ answer.updatedAt := by
    by_contra older
    exact ends.forward (timely.wentBack ends.answered ends.same (Int.not_le.mp older))
  have applies : Applies setup record lease answer :=
    ⟨ends.accepted, ends.same, LeaseState.allowed_of_terminal live ends.terminal, later⟩
  obtain ⟨after, applied, inMemory, durable⟩ :=
    run_applyProviderLease applies found ends.terminal (world.note (.reported record.request answer))
  have held : recordForLease lease.leaseId world = (.returned (record, lease), world) := by
    unfold recordForLease
    rw [run_bind (run_get world)]
    simp only [memory, found]
    rw [run_bind (run_require rfl world)]
    rfl
  have run : status setup lease.leaseId exchange world = (.returned answer, after) := by
    unfold status
    rw [run_bind held]
    dsimp only
    unfold refreshProviderLease receive noteReport
    rw [run_bind (run_require ends.installed world),
      run_bind ((run_await _ world).trans (by rw [ends.answered])),
      if_pos ends.same, run_bind (run_modify _ world), ends.applied, applied]
  simp only [World.apply, running, if_true, run, World.finish]
  exact ⟨inMemory, durable⟩

end Driving

/-- Every run of careful calls keeps the promises. -/
theorem lease_bought_once_and_kept (setup : Setup Details) (calls : List (Call Details))
    (world : World Details)
    (run : Transition.Run
      (Transition.Guarded (Transition.ofFunction (World.apply setup)) (Careful setup))
      World.initial calls world) : LeaseContract setup world := by
  have sound := Sound.run run
  refine ⟨sound.recorded.told.acquired, sound.recorded.told.alone, ?_, sound.routed,
    sound.recorded.told.fresh, fun record lease answer exchange => status_drives⟩
  intro request used
  obtain settled | ⟨record, stored, rfl⟩ := sound.recorded.told.owned request used
  · exact .inl settled
  · exact .inr ⟨record, stored, rfl, fun lease found =>
      (sound.recorded.durableLease record lease stored found).2⟩

section Samples

/-- Providers that are all installed, and leases that are all accepted. -/
def Setup.sample : Setup String where
  ownerId := "agent"
  installed := fun _ => true
  accepts := fun _ _ _ => true

def Request.sample : Request String := ⟨"r", "agent", "model"⟩

def Quote.sample : Quote String := ⟨"provider", 1, 60, 1, "quote"⟩

def Lease.sample (state : LeaseState) (updatedAt : ℤ) : Lease String := ⟨"l", state, updatedAt, "terms"⟩

/-- An answer that fails nowhere. -/
def Exchange.answering (state : LeaseState) (updatedAt : ℤ) : Exchange String :=
  ⟨.returned (), .returned (.sample state updatedAt), ⟨.done, .done⟩⟩

def Exchange.failing : Exchange String := ⟨.returned (), .raised, ⟨.done, .done⟩⟩

/-- A lease that is bought at the provider's time 10. -/
def Call.bought (outcome : Write) : Call String :=
  .acquire .sample .failing [.sample] outcome (.answering .ready 10)

/-- A lease that is released at the local time `now`, which its provider does at its time 50. -/
def Call.givenUp (now : ℤ) : Call String :=
  .release "l" .failing .done now .done (.answering .released 50)

theorem lease_bought_once_and_kept_released : LeaseContract Setup.sample
      ([Call.bought .done, .givenUp 40].foldl (World.apply Setup.sample) World.initial) := by
  refine lease_bought_once_and_kept Setup.sample [.bought .done, .givenUp 40] _
    (.cons ⟨?_, rfl⟩ (.cons ⟨?_, rfl⟩ (.nil _)))
  · exact fun record absent => nomatch absent
  · refine ⟨?_, ?_⟩
    · exact fun _ _ _ _ answer failed => nomatch failed
    · intro answer answered _
      obtain rfl := Ending.returned.inj answered
      decide

/-- A retried acquisition is sent though its record was never saved; a release stamps the record with
a local time that its provider never reaches; an expired lease whose save fails keeps its route. -/
theorem careless_calls_break_contract : ¬ LeaseContract Setup.sample
        ([Call.bought (.raised false), .bought .done].foldl (World.apply Setup.sample)
          World.initial) ∧
      ¬ LeaseContract Setup.sample
        ([Call.bought .done, .givenUp 100].foldl (World.apply Setup.sample) World.initial) ∧
      ¬ LeaseContract Setup.sample ([Call.bought .done, .status "l"
            ⟨.returned (), .returned (.sample .expired 20), ⟨.raised false, .done⟩⟩].foldl
          (World.apply Setup.sample) World.initial) := by
  refine ⟨?_, ?_, ?_⟩
  · intro contract
    obtain ⟨named, unsaved, _⟩ :=
      contract.durable .sample .sample none (by decide +kernel)
    cases unsaved
  · intro contract
    have back := contract.fresh (.sample .released 50)
      [.reported .sample (.sample .released 50), .reported .sample (.sample .ready 10),
        .acquired .sample .sample (some ⟨"provider", .sample, .sample, none⟩)] (by decide +kernel)
    obtain ⟨request, earlier, member, _, older⟩ := back
    simp only [List.mem_cons, Event.reported.injEq, reduceCtorEq, List.not_mem_nil, or_false]
      at member
    obtain ⟨_, rfl⟩ | ⟨_, rfl⟩ := member
    all_goals exact absurd older (by decide)
  · intro contract
    obtain ⟨record, lease, stored, found, _, ready⟩ :=
      contract.routed "l" ⟨⟨"l", true⟩, by decide +kernel, rfl, rfl⟩
    have held : ([Call.bought .done, .status "l"
        ⟨.returned (), .returned (.sample .expired 20), ⟨.raised false, .done⟩⟩].foldl
          (World.apply Setup.sample) World.initial).memory =
        some ⟨"provider", .sample, .sample, some (.sample .expired 20)⟩ := by decide +kernel
    obtain rfl := Option.some.inj (held.symm.trans stored)
    obtain rfl := Option.some.inj found
    cases ready

end Samples

end Kestrel.Llm
