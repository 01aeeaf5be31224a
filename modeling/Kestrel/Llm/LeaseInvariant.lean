import Kestrel.Llm.InferenceLeases
import Mathlib.Data.List.Infix

/-!
# What the lease coordinator keeps

At most one request is unsettled, and the durable record names it. The route accepts calls only for
the ready lease in memory.
-/

namespace Kestrel.Llm

open Event List

variable {Details : Type} [DecidableEq Details]

variable {lease : Lease Details} {record : Record Details}

section Events

def Event.concerns (request : Request Details) : Event Details → Bool
  | .acquired other _ _ => other = request
  | .touched other => other = request
  | .reported other _ => other = request
  | .stale _ => false

/-- The event asks a provider to serve a request. -/
def Event.uses (request : Request Details) : Event Details → Bool
  | .acquired other _ _ => other = request
  | .touched other => other = request
  | .reported _ _ => false
  | .stale _ => false

def Used (events : List (Event Details)) (request : Request Details) : Prop :=
  ∃ event ∈ events, event.uses request = true

/-- The last event about a request is the report that its lease is terminal. -/
def Settled (events : List (Event Details)) (request : Request Details) : Prop :=
  ∃ lease, events.find? (Event.concerns request) = some (.reported request lease) ∧
    lease.state.isTerminal = true

def Known (events : List (Event Details)) (request : Request Details) (leaseId : String) : Prop :=
  ∃ lease, .reported request lease ∈ events ∧ lease.leaseId = leaseId

/-- A provider reported a lease with a later time before. -/
def WentBack (events : List (Event Details)) (lease : Lease Details) : Prop :=
  ∃ request earlier, .reported request earlier ∈ events ∧ earlier.leaseId = lease.leaseId ∧
    lease.updatedAt < earlier.updatedAt

def Names (record : Option (Record Details)) (request : Request Details) : Prop :=
  ∃ named, record = some named ∧ named.request = request

variable {events : List (Event Details)} {request other : Request Details} {event : Event Details}

theorem Event.concerns_of_uses (uses : event.uses request = true) :
    event.concerns request = true := by
  cases event <;> simp_all [Event.uses, Event.concerns]

theorem Event.concerns_of_ne (about : event.concerns request = true) (distinct : other ≠ request) :
    event.concerns other = false := by
  cases event <;> simp_all [concerns, Ne.symm]

theorem settled_cons_of_silent (silent : event.concerns request = false) :
    Settled (event :: events) request ↔ Settled events request := by
  unfold Settled
  rw [find?_cons_of_neg (by rw [silent]; exact Bool.false_ne_true)]

theorem used_cons_of_silent (silent : event.concerns request = false)
    (used : Used (event :: events) request) : Used events request := by
  obtain ⟨found, member, uses⟩ := used
  obtain rfl | old := mem_cons.mp member
  · rw [concerns_of_uses uses] at silent
    exact nomatch silent
  · exact ⟨found, old, uses⟩

theorem settled_reported (terminal : lease.state.isTerminal = true) :
    Settled (.reported request lease :: events) request := by
  refine ⟨lease, ?_, terminal⟩
  rw [find?_cons_of_pos (by simp [concerns])]

omit [DecidableEq Details] in
theorem Known.mono {leaseId : String} (known : Known events request leaseId) :
    Known (event :: events) request leaseId := by
  obtain ⟨lease, member, same⟩ := known
  exact ⟨lease, mem_cons_of_mem event member, same⟩

omit [DecidableEq Details] in
theorem WentBack.mono (back : WentBack events lease) :
    WentBack (event :: events) lease := by
  obtain ⟨request, earlier, member, rest⟩ := back
  exact ⟨request, earlier, mem_cons_of_mem event member, rest⟩

omit [DecidableEq Details] in
theorem Names.unique {record : Option (Record Details)} (left : Names record request)
    (right : Names record other) : request = other := by
  obtain ⟨named, rfl, rfl⟩ := left
  obtain ⟨found, same, rfl⟩ := right
  obtain rfl := Option.some.inj same
  rfl

end Events

/-- A lease of a record: its terms were checked, and its provider reported it. -/
def Held (setup : Setup Details) (events : List (Event Details)) (record : Record Details)
    (lease : Lease Details) : Prop :=
  setup.accepts record.request record.quote lease.terms = true ∧
    Known events record.request lease.leaseId

structure Told (events : List (Event Details)) (durable : Option (Record Details)) : Prop where
  acquired : ∀ request quote record, .acquired request quote record ∈ events →
    ∃ named, record = some named ∧ named.request = request ∧ named.quote = quote
  alone : ∀ request quote record before, .acquired request quote record :: before <:+ events →
    ∀ other, other ≠ request → Used before other → Settled before other
  fresh : ∀ lease before, .stale lease :: before <:+ events → WentBack before lease
  owned : ∀ request, Used events request → Settled events request ∨ Names durable request

/-- The records in memory and in the database. -/
structure Recorded (setup : Setup Details) (world : World Details) : Prop where
  told : Told world.events world.durable
  agrees : ∀ record lease, world.memory = some record → record.lease = some lease →
    Names world.durable record.request
  memoryLease : ∀ record lease, world.memory = some record → record.lease = some lease →
    Held setup world.events record lease
  durableLease : ∀ record lease, world.durable = some record → record.lease = some lease →
    Held setup world.events record lease

/-- The route accepts calls. -/
def World.Accepting (world : World Details) (leaseId : String) : Prop :=
  ∃ route, world.route = some route ∧ route.accepting = true ∧ route.leaseId = leaseId

/-- The coordinator between two calls. -/
structure Sound (setup : Setup Details) (world : World Details) : Prop where
  recorded : Recorded setup world
  routed : ∀ leaseId, world.Accepting leaseId →
    ∃ record lease, world.memory = some record ∧ record.lease = some lease ∧
      lease.leaseId = leaseId ∧ lease.state = .ready
  loaded : world.running = true → world.memory = none → world.durable = none
  lost : world.running = false → world.memory = none ∧ world.route = none

section Notes

variable {events : List (Event Details)} {durable : Option (Record Details)}
  {request : Request Details}

theorem Told.owned_cons (told : Told events durable) {event : Event Details}
    (about : event.concerns request = true) (named : Names durable request)
    (other : Request Details) (used : Used (event :: events) other) :
    Settled (event :: events) other ∨ Names durable other := by
  by_cases same : other = request
  · exact .inr (same ▸ named)
  · have silent := concerns_of_ne about same
    rw [settled_cons_of_silent silent]
    exact told.owned other (used_cons_of_silent silent used)

theorem Told.cons (told : Told events durable) {event : Event Details}
    (acquired : ∀ request quote record, event = .acquired request quote record →
      (∃ named, record = some named ∧ named.request = request ∧ named.quote = quote) ∧
        ∀ other, other ≠ request → Used events other → Settled events other)
    (stale : ∀ lease, event = .stale lease → WentBack events lease)
    (owned : ∀ request, Used (event :: events) request →
      Settled (event :: events) request ∨ Names durable request) :
    Told (event :: events) durable where
  acquired := by
    intro request quote record member
    obtain same | old := mem_cons.mp member
    · exact (acquired request quote record same.symm).1
    · exact told.acquired request quote record old
  alone := by
    intro request quote record before suffix
    obtain same | old := suffix_cons_iff.mp suffix
    · obtain ⟨head, rfl⟩ := cons.inj same
      exact (acquired request quote record head.symm).2
    · exact told.alone request quote record before old
  fresh := by
    intro lease before suffix
    obtain same | old := suffix_cons_iff.mp suffix
    · obtain ⟨head, rfl⟩ := cons.inj same
      exact stale lease head.symm
    · exact told.fresh lease before old
  owned := owned

section

variable (told : Told events durable)

include told

theorem Told.reported (named : Names durable request) (lease : Lease Details)
    : Told (.reported request lease :: events) durable :=
  told.cons (fun _ _ _ impossible => (nomatch impossible))
    (fun _ impossible => (nomatch impossible))
    (told.owned_cons (by simp [concerns]) named)

theorem Told.touched (named : Names durable request) :
    Told (.touched request :: events) durable :=
  told.cons (fun _ _ _ impossible => (nomatch impossible))
    (fun _ impossible => (nomatch impossible))
    (told.owned_cons (by simp [concerns]) named)

theorem Told.stale (back : WentBack events lease)
    : Told (.stale lease :: events) durable := by
  refine told.cons (fun _ _ _ impossible => (nomatch impossible)) ?_ ?_
  · intro other same
    obtain rfl := stale.inj same
    exact back
  · intro other used
    have silent : (Event.stale lease).concerns other = false := rfl
    rw [settled_cons_of_silent silent]
    exact told.owned other (used_cons_of_silent silent used)

theorem Told.acquire {quote : Quote Details} {named : Record Details}
    (stored : durable = some named) (sameRequest : named.request = request)
    (sameQuote : named.quote = quote) :
    Told (.acquired request quote durable :: events) durable := by
  refine told.cons ?_ (fun _ impossible => (nomatch impossible))
    (told.owned_cons (by simp [concerns]) ⟨named, stored, sameRequest⟩)
  intro asked other record same
  obtain ⟨rfl, rfl, rfl⟩ := acquired.inj same
  refine ⟨⟨named, stored, sameRequest, sameQuote⟩, ?_⟩
  intro another distinct used
  obtain settled | owner := told.owned another used
  · exact settled
  · exact absurd (owner.unique ⟨named, stored, sameRequest⟩) distinct

theorem Told.persist {written : Option (Record Details)}
    (settled : ∀ request, Used events request → Settled events request ∨ Names written request) :
    Told events written :=
  ⟨told.acquired, told.alone, told.fresh, settled⟩

end

omit [DecidableEq Details] in
theorem Held.mono {setup : Setup Details}
    {event : Event Details} (held : Held setup events record lease) :
    Held setup (event :: events) record lease :=
  ⟨held.1, held.2.mono⟩

end Notes

section Worlds

variable {setup : Setup Details} {world : World Details}

theorem Recorded.note (recorded : Recorded setup world) {event : Event Details}
    (told : Told (event :: world.events) world.durable) : Recorded setup (world.note event) where
  told := told
  agrees := recorded.agrees
  memoryLease := fun record lease held of => (recorded.memoryLease record lease held of).mono
  durableLease := fun record lease held of => (recorded.durableLease record lease held of).mono

theorem Sound.note (sound : Sound setup world) {event : Event Details}
    (told : Told (event :: world.events) world.durable) : Sound setup (world.note event) where
  recorded := sound.recorded.note told
  routed := sound.routed
  loaded := sound.loaded
  lost := sound.lost

section

variable (recorded : Recorded setup world)

include recorded

theorem Recorded.crash : Sound setup world.crash where
  recorded :=
    { told := recorded.told
      agrees := fun _ _ impossible => nomatch impossible
      memoryLease := fun _ _ impossible => nomatch impossible
      durableLease := recorded.durableLease }
  routed := by
    intro leaseId accepting
    obtain ⟨route, found, _⟩ := accepting
    exact nomatch found
  loaded := fun impossible => nomatch impossible
  lost := fun _ => ⟨rfl, rfl⟩

theorem Recorded.hold
    (named : ∀ lease, record.lease = some lease → Names world.durable record.request)
    (held : ∀ lease, record.lease = some lease → Held setup world.events record lease) :
    Recorded setup (world.hold record) where
  told := recorded.told
  agrees := by
    intro other lease same found
    obtain rfl := Option.some.inj same
    exact named lease found
  memoryLease := by
    intro other lease same found
    obtain rfl := Option.some.inj same
    exact held lease found
  durableLease := recorded.durableLease

theorem Recorded.persisted (memory : world.memory = some record)
    (settled : ∀ request, Used world.events request →
      Settled world.events request ∨ request = record.request) :
    Recorded setup world.persisted where
  told := by
    refine recorded.told.persist ?_
    intro request used
    obtain done | rfl := settled request used
    · exact .inl done
    · exact .inr ⟨record, memory, rfl⟩
  agrees := fun other lease same _ => ⟨other, same, rfl⟩
  memoryLease := recorded.memoryLease
  durableLease := recorded.memoryLease

theorem Recorded.settled_of_named {request : Request Details} (named : Names world.durable request)
    (other : Request Details) (used : Used world.events other)
    : Settled world.events other ∨ other = request := by
  obtain settled | owner := recorded.told.owned other used
  · exact .inl settled
  · exact .inr (owner.unique named)

end

omit [DecidableEq Details] in
theorem not_accepting_closeRoute (leaseId : String) : ¬ world.closeRoute.Accepting leaseId := by
  rintro ⟨route, found, accepting, _⟩
  obtain ⟨old, _, rfl⟩ := Option.map_eq_some_iff.mp found
  exact nomatch accepting

end Worlds

end Kestrel.Llm
