import Kestrel.Stop.InvocationLifecycle

/-!
# Stop reports what was observed

A ticket names every unsettled generation of its turn, and the turn admits no more of them. A
ticket has nothing left only where each of its generations was settled as completed by its owner.
-/

namespace Kestrel.Stop.Invocation

open Transition List Except

variable {sha256 : Sha256} {labels : List Label} {label : Label} {source target : System}
  {before after tables : Tables} {generationId ownerId agentId turnId digest : String}
  {registration : Registration} {call : Call} {answer : Answer} {clock : Clock}
  {ticket : DistributedStopTicket} {receipts : Receipt.Tables} {lease : ℕ}

section Rows

theorem mem_ordered {generationIds : List String} :
    generationId ∈ ordered generationIds ↔ generationId ∈ generationIds :=
  mem_insertionSort _

theorem mem_map_fst_filter {Row : Type} {table : Table String Row} {test : Row → Bool} :
    generationId ∈ (table.rows.filter fun row => test row.2).map Prod.fst ↔
      ∃ row, table.row generationId = some row ∧ test row = true := by
  rw [mem_map]
  constructor
  · rintro ⟨⟨key, row⟩, member, rfl⟩
    obtain ⟨stored, passes⟩ := mem_filter.mp member
    exact ⟨row, Table.mem_rows.mp stored, passes⟩
  · rintro ⟨row, stored, passes⟩
    exact ⟨(generationId, row), mem_filter.mpr ⟨Table.mem_rows.mpr stored, passes⟩, rfl⟩

theorem mem_generations {isActive : ActiveRow → Bool} {isUnresolved : UnresolvedRow → Bool} :
    generationId ∈ tables.generations isActive isUnresolved ↔
      (∃ row, tables.active.row generationId = some row ∧ isActive row = true) ∨
        ∃ row, tables.unresolved.row generationId = some row ∧ isUnresolved row = true := by
  unfold Tables.generations
  rw [mem_append, mem_map_fst_filter, mem_map_fst_filter]

theorem remaining_eq_nil {generationIds : List String}
    (nothing : tables.remaining generationIds = []) :
    ∀ generationId ∈ generationIds,
      tables.active.row generationId = none ∧ tables.unresolved.row generationId = none := by
  intro generationId listed
  unfold Tables.remaining at nothing
  have unsorted : ∀ entry, entry ∉
      ((tables.active.rows.filter (·.1 ∈ generationIds)).map fun row => (row.1, row.2.heartbeatAt)) ++
        (tables.unresolved.rows.filter (·.1 ∈ generationIds)).map fun row =>
          (row.1, row.2.expiredAt) := by
    intro entry member
    have sorted := (mem_insertionSort (·.1 ≤ ·.1)).mpr member
    rw [nothing] at sorted
    cases sorted
  constructor
  · by_contra stored
    obtain ⟨row, stored⟩ := Option.ne_none_iff_exists'.mp stored
    refine unsorted (generationId, row.heartbeatAt) (mem_append_left _ ?_)
    exact mem_map.mpr ⟨(generationId, row), mem_filter.mpr
      ⟨Table.mem_rows.mpr stored, decide_eq_true listed⟩, rfl⟩
  · by_contra stored
    obtain ⟨row, stored⟩ := Option.ne_none_iff_exists'.mp stored
    refine unsorted (generationId, row.expiredAt) (mem_append_right _ ?_)
    exact mem_map.mpr ⟨(generationId, row), mem_filter.mpr
      ⟨Table.mem_rows.mpr stored, decide_eq_true listed⟩, rfl⟩

end Rows

section Marks

theorem markTurn_eq_ok (marked : before.markTurn sha256 agentId turnId clock = .ok (after, ticket)) :
    after.fences.row (agentId, turnDigest sha256 turnId) ≠ none ∧
      ticket.generationIds = ordered (before.generations
        (fun row => row.agentId = agentId && row.turnDigest = turnDigest sha256 turnId)
        (fun row => row.agentId = agentId && row.turnDigest = turnDigest sha256 turnId)) := by
  unfold Tables.markTurn requiredIdentity requiredOpaqueIdentity at marked
  simp only [require_bind_eq_ok] at marked
  obtain ⟨_, _, marked⟩ := marked
  cases marked
  exact ⟨(fence_spec _ _ _).2.2.2, rfl⟩

/-- A public turn is fenced, and the active generation that is bound to it is to be stopped. -/
def Sealed (agentId digest : String) (tables : Tables) : Prop :=
  tables.fences.row (agentId, digest) ≠ none ∧
    ∀ generationId row, tables.active.row generationId = some row → row.agentId = agentId →
      row.publicTurnDigest = some digest → row.stopRequested = true

theorem markPublicTurn_eq_ok
    (marked : before.markPublicTurn sha256 agentId turnId clock = .ok (after, ticket)) :
    Sealed agentId (publicTurnDigest sha256 turnId) after ∧ ticket.generationIds =
        ordered (before.publicGenerations agentId (publicTurnDigest sha256 turnId)) := by
  unfold Tables.markPublicTurn requiredIdentity requiredOpaqueIdentity at marked
  simp only [require_bind_eq_ok] at marked
  obtain ⟨_, _, few, marked⟩ := marked
  cases marked
  obtain ⟨active, _, _, fenced⟩ :=
    @fence_spec before agentId (publicTurnDigest sha256 turnId) (clock 0)
  refine ⟨⟨fenced, ?_⟩, rfl⟩
  intro generationId row stored agent turned
  obtain ⟨row', stored', changed⟩ := Option.map_eq_some_iff.mp stored
  rw [active] at stored'
  dsimp only at changed
  split_ifs at changed with selected
  · rw [← changed]
  · -- The row is the one that was found, so it is selected.
    subst changed
    have member : generationId ∈
        ordered (before.publicGenerations agentId (publicTurnDigest sha256 turnId)) := by
      rw [mem_ordered]
      refine mem_generations.mpr (.inl ⟨row', stored', ?_⟩)
      rw [agent, turned, decide_eq_true rfl, decide_eq_true rfl]
      rfl
    refine absurd ?_ selected
    obtain ⟨single, found⟩ : ∃ single,
        ordered (before.publicGenerations agentId (publicTurnDigest sha256 turnId)) = [single] :=
      length_eq_one_iff.mp (Nat.le_antisymm few (length_pos_of_mem member))
    rw [found, mem_singleton] at member
    rw [found, member, agent, turned, head?_cons, decide_eq_true rfl, decide_eq_true rfl,
      decide_eq_true rfl]
    rfl

theorem Steps.fences_kept (steps : Steps sha256 source label target) :
    source.tables.FencesKept target.tables := by
  rcases steps.performed with ⟨_, same⟩ | ⟨_, _, performed⟩
  · rw [same]
    exact fun _ fenced => fenced
  · exact (perform_change "" performed).2

theorem Sealed.step (is_sealed : Sealed agentId digest source.tables)
    (steps : Steps sha256 source label target) : Sealed agentId digest target.tables := by
  refine ⟨steps.fences_kept _ is_sealed.1, ?_⟩
  intro generationId row stored agent turned
  rcases steps.performed with ⟨_, same⟩ | ⟨answer, _, performed⟩
  · rw [same] at stored
    exact is_sealed.2 generationId row stored agent turned
  · cases (perform_change generationId performed).1 with
    | kept _ active _ => exact is_sealed.2 generationId row (active.symm.trans stored) agent turned
    | registered _ _ _ _ stored' _ _ _ unbound _ =>
      rw [stored] at stored'
      cases stored'
      rw [unbound] at turned
      cases turned
    | updated _ stored₀ stored' keeps same _ =>
      rw [stored] at stored'
      cases stored'
      exact keeps.stopRequested (is_sealed.2 generationId _ stored₀ (keeps.agentId.symm.trans agent)
        (same.symm.trans turned))
    | bound _ _ _ owner _ unfenced stored' _ =>
      rw [stored] at stored'
      cases stored'
      rw [← owner, agent, Option.some.inj turned] at unfenced
      exact absurd unfenced is_sealed.1
    | retired _ _ _ gone _ | completedActive _ _ _ _ gone _ =>
      rw [stored] at gone
      cases gone
    | completedUnresolved _ _ _ _ active _ =>
      exact is_sealed.2 generationId row (active.symm.trans stored) agent turned

theorem Steps.not_registers (steps : Steps sha256 source label target)
    (fenced : source.tables.fences.row
      (registration.agentId, turnDigest sha256 registration.turnId) ≠ none) :
    ¬ label.Did (Registers · · registration) := by
  rintro ⟨answer, answered, registers⟩
  rcases steps.performed with ⟨rolled, _⟩ | ⟨answer', answered', performed⟩
  · rw [rolled] at answered
    cases answered
  · rw [answered] at answered'
    cases answered'
    cases (perform_change registration.generationId performed).1 with
    | kept quiet _ _ | updated quiet _ _ _ _ _ | retired quiet _ _ _ _ =>
      exact quiet.registers registration registers rfl
    | registered registers' _ _ unfenced _ _ _ _ _ _ =>
      have same := registers.1.symm.trans registers'.1
      cases same
      exact fenced unfenced
    | bound called _ _ _ _ _ _ _ | completedActive called _ _ _ _ _
    | completedUnresolved called _ _ _ _ _ =>
      have impossible := registers.1.symm.trans called
      cases impossible

theorem Steps.not_binds (steps : Steps sha256 source label target)
    (is_sealed : Sealed agentId (publicTurnDigest sha256 turnId) source.tables) :
    ¬ label.Did (Binds · · generationId agentId turnId) := by
  rintro ⟨answer, answered, binds⟩
  rcases steps.performed with ⟨rolled, _⟩ | ⟨answer', answered', performed⟩
  · rw [rolled] at answered
    cases answered
  · rw [answered] at answered'
    cases answered'
    obtain ⟨⟨_, binding⟩, _⟩ := id binds
    cases (perform_change generationId performed).1 with
    | kept quiet _ _ | updated quiet _ _ _ _ _ | retired quiet _ _ _ _ =>
      obtain ⟨row, stored, agent, unrequested, turned⟩ := quiet.binds agentId turnId binds
      have requested := is_sealed.2 generationId row stored agent turned
      rw [unrequested] at requested
      cases requested
    | bound called _ _ _ _ unfenced _ _ =>
      have same := binding.symm.trans called
      cases same
      exact is_sealed.1 unfenced
    | registered registers _ _ _ _ _ _ _ _ _ =>
      have impossible := binding.symm.trans registers.1
      cases impossible
    | completedActive called _ _ _ _ _ | completedUnresolved called _ _ _ _ _ =>
      have impossible := binding.symm.trans called
      cases impossible

theorem not_did_of_run {holds : System → Prop} {event : Call → Answer → Prop}
    (preserved : ∀ source label target, holds source → Steps sha256 source label target → holds target)
    (refused : ∀ source label target, holds source → Steps sha256 source label target →
      ¬ label.Did event)
    (initial : holds source) (run : Run (Steps sha256) source labels target) :
    ¬ ∃ label ∈ labels, label.Did event := by
  induction run with
  | nil =>
    rintro ⟨label, member, _⟩
    cases member
  | cons steps _ ih =>
    rintro ⟨label, member, did⟩
    rcases mem_cons.mp member with rfl | member
    · exact refused _ _ _ initial steps did
    · exact ih (preserved _ _ _ initial steps) ⟨label, member, did⟩

end Marks

section Waits

def Performs (sha256 : Sha256) (source : System) (labels : List Label) (target : System)
    (call : Call) (answer : Answer) : Prop :=
  ∃ others middle label, labels = others ++ [label] ∧ Run (Steps sha256) source others middle ∧
    Steps sha256 middle label target ∧ label.call = call ∧ label.answer = some answer

/-- `wait_for_stop`, among the calls of other processes. Its deadline may pass at any time. -/
inductive WaitForStop (sha256 : Sha256) (lease : ℕ) (ticket : DistributedStopTicket) :
    System → List Label → System → StopDisposition → Prop where
  | alreadyComplete {source : System} : ticket.generationIds = [] →
      WaitForStop sha256 lease ticket source [] source .alreadyComplete
  | stopped {source target : System} {labels : List Label} : ticket.generationIds ≠ [] →
      Performs sha256 source labels target (.remaining ticket.generationIds) (.remaining []) →
      WaitForStop sha256 lease ticket source labels target .stopped
  | again {source middle next target : System} {labels labels' labels'' : List Label}
      {rows : List (String × ℕ)} {reaped : List String} {disposition : StopDisposition} :
      ticket.generationIds ≠ [] →
      Performs sha256 source labels middle (.remaining ticket.generationIds) (.remaining rows) →
      rows ≠ [] →
      Performs sha256 middle labels' next (.reapExpired (rows.map Prod.fst) lease)
        (.reaped reaped) →
      WaitForStop sha256 lease ticket next labels'' target disposition →
      WaitForStop sha256 lease ticket source (labels ++ (labels' ++ labels'')) target disposition
  | unreachable {source middle target : System} {labels labels' : List Label}
      {rows : List (String × ℕ)} : ticket.generationIds ≠ [] →
      Performs sha256 source labels middle (.remaining ticket.generationIds) (.remaining rows) →
      rows ≠ [] →
      Performs sha256 middle labels' target (.reapExpired (rows.map Prod.fst) lease)
        (.reaped []) →
      WaitForStop sha256 lease ticket source (labels ++ labels') target .unreachable

theorem Performs.run (performs : Performs sha256 source labels target call answer) :
    Run (Steps sha256) source labels target := by
  obtain ⟨others, middle, label, rfl, run, steps, _⟩ := performs
  exact run.append (.cons steps (.nil _))

theorem Performs.remaining {generationIds : List String} {rows : List (String × ℕ)}
    (performs : Performs sha256 source labels target (.remaining generationIds)
      (.remaining rows)) : target.tables.remaining generationIds = rows := by
  obtain ⟨others, middle, label, _, _, steps, called, answered⟩ := performs
  rcases steps.performed with ⟨rolled, _⟩ | ⟨answer, answered', performed⟩
  · rw [rolled] at answered
    cases answered
  · rw [answered] at answered'
    cases answered'
    rw [called] at performed
    have read := ok.inj performed
    have tables := congrArg Prod.fst read
    have rows := Answer.remaining.inj (congrArg Prod.snd read)
    dsimp only at tables
    rw [← tables]
    exact rows

theorem WaitForStop.remaining {disposition : StopDisposition}
    (waits : WaitForStop sha256 lease ticket source labels target disposition)
    (stopped : disposition = .stopped) : Run (Steps sha256) source labels target ∧
      ticket.generationIds ≠ [] ∧ target.tables.remaining ticket.generationIds = [] := by
  induction waits with
  | alreadyComplete _ | unreachable _ _ _ _ => cases stopped
  | stopped nonempty performs => exact ⟨performs.run, nonempty, performs.remaining⟩
  | again _ reads _ reaps _ ih =>
    obtain ⟨run, nonempty, nothing⟩ := ih stopped
    exact ⟨reads.run.append (reaps.run.append run), nonempty, nothing⟩

end Waits

section Contract

/-- What is known of every generation after a run. -/
structure Ledger (sha256 : Sha256) (labels : List Label) (system : System) : Prop where
  entry : ∀ generationId, ∃ state, Entry sha256 labels system.tables generationId state
  drawn : ∀ registration, Registered labels registration →
    registration.generationId ∈ system.drawn

theorem Ledger.initial (receipts : Receipt.Tables) : Ledger sha256 [] (.initial receipts) where
  entry := fun generationId => by
    refine ⟨.unregistered, .unregistered ?_ ?_ rfl rfl⟩
    · rintro registration ⟨_, member, _⟩
      cases member
    · rintro agentId turnId ⟨_, member, _⟩
      cases member
  drawn := by
    rintro registration ⟨_, member, _⟩
    cases member

theorem Ledger.step (ledger : Ledger sha256 labels source)
    (steps : Steps sha256 source label target) : Ledger sha256 (labels ++ [label]) target where
  entry := fun generationId => by
    obtain ⟨state, entry⟩ := ledger.entry generationId
    exact entry.step ledger.drawn steps
  drawn := fun registration registered => by
    rw [steps.drawn]
    rcases registered_snoc.mp registered with registered | ⟨_, _, registers, _⟩
    · exact mem_append_right _ (ledger.drawn registration registered)
    · refine mem_append_left _ ?_
      rw [registers]
      exact mem_singleton_self _

theorem ledger_of_run (run : Run (Steps sha256) (.initial receipts) labels target) :
    Ledger sha256 labels target :=
  run.history (fun _ _ _ _ ledger steps => ledger.step steps) (.initial receipts)

theorem Ledger.settled (ledger : Ledger sha256 labels target)
    (registered : Registered labels registration)
    (active : target.tables.active.row registration.generationId = none)
    (unresolved : target.tables.unresolved.row registration.generationId = none) :
    Settled labels registration.generationId := by
  obtain ⟨state, entry⟩ := ledger.entry registration.generationId
  cases entry with
  | unregistered unregistered _ _ _ => exact absurd rfl (unregistered registration registered)
  | active _ stored _ _ _ =>
    rw [active] at stored
    cases stored
  | unresolved _ stored _ _ _ =>
    rw [unresolved] at stored
    cases stored
  | settled _ _ _ settled => exact settled

section

variable (ledger : Ledger sha256 labels source)

include ledger

variable {isActive : ActiveRow → Bool} {isUnresolved : UnresolvedRow → Bool}

theorem Ledger.mem_generations (registered : Registered labels registration)
    (unsettled : ¬ Settled labels registration.generationId)
    (active : ∀ row : ActiveRow, Fits sha256 labels registration.generationId registration
      row.agentId row.turnDigest row.ownerId row.publicTurnDigest → isActive row = true)
    (unresolved : ∀ row : UnresolvedRow, Fits sha256 labels registration.generationId registration
      row.agentId row.turnDigest row.ownerId row.publicTurnDigest → isUnresolved row = true) :
    registration.generationId ∈ source.tables.generations isActive isUnresolved := by
  rw [Invocation.mem_generations]
  obtain ⟨state, entry⟩ := ledger.entry registration.generationId
  cases entry with
  | unregistered unregistered _ _ _ => exact absurd rfl (unregistered registration registered)
  | active only stored fits _ _ =>
    rw [← (only registration).mp ⟨registered, rfl⟩] at fits
    exact .inl ⟨_, stored, active _ fits⟩
  | unresolved only stored fits _ _ =>
    rw [← (only registration).mp ⟨registered, rfl⟩] at fits
    exact .inr ⟨_, stored, unresolved _ fits⟩
  | settled _ _ _ settled => exact absurd settled unsettled

theorem Ledger.registered (member : generationId ∈ source.tables.generations isActive isUnresolved)
    :
    ∃ registration, Registered labels registration ∧ registration.generationId = generationId := by
  obtain ⟨state, entry⟩ := ledger.entry generationId
  rcases Invocation.mem_generations.mp member with ⟨row, stored, _⟩ | ⟨row, stored, _⟩
  · obtain ⟨registration, only, _⟩ := entry.active_of_row stored
    exact ⟨registration, (only registration).mpr rfl⟩
  · obtain ⟨registration, only, _⟩ := entry.unresolved_of_row stored
    exact ⟨registration, (only registration).mpr rfl⟩

theorem Ledger.registered_of_bound (bound : Bound labels generationId agentId turnId) :
    ∃ registration, Registered labels registration ∧ registration.generationId = generationId := by
  obtain ⟨state, entry⟩ := ledger.entry generationId
  cases entry with
  | unregistered _ unbound _ _ => exact absurd bound (unbound agentId turnId)
  | active only _ _ _ _ | unresolved only _ _ _ _ | settled only _ _ _ =>
    exact ⟨_, (only _).mpr rfl⟩

theorem Ledger.ticket_registered (steps : Steps sha256 source label target)
    (answered : label.answer = some (.ticket ticket)) (member : generationId ∈ ticket.generationIds)
    :
    ∃ registration, Registered labels registration ∧ registration.generationId = generationId := by
  rcases steps.performed with ⟨rolled, _⟩ | ⟨answer, answered', performed⟩
  · rw [rolled] at answered
    cases answered
  rw [answered] at answered'
  cases answered'
  cases called : label.call with
  | markTurn agentId turnId =>
    rw [called] at performed
    obtain ⟨⟨_, ticket'⟩, marked, same⟩ := map_eq_ok.mp performed
    cases same
    rw [(markTurn_eq_ok marked).2, mem_ordered] at member
    exact ledger.registered member
  | markPublicTurn agentId turnId =>
    rw [called] at performed
    obtain ⟨⟨_, ticket'⟩, marked, same⟩ := map_eq_ok.mp performed
    cases same
    rw [(markPublicTurn_eq_ok marked).2, mem_ordered] at member
    exact ledger.registered member
  | markAgent agentId =>
    rw [called] at performed
    obtain ⟨⟨_, ticket'⟩, marked, same⟩ := map_eq_ok.mp performed
    cases same
    unfold Tables.markAgent requiredIdentity at marked
    rw [require_bind_eq_ok] at marked
    have named := congrArg Prod.snd (ok.inj marked.2)
    dsimp only at named
    rw [← named, mem_ordered] at member
    exact ledger.registered member
  | register _ | bindPublicTurn _ _ _ _ | settle _ _ _ _ | pollOwner _ _ | readOwner _ _
  | reapExpired _ _ | abandonOwner _ =>
    rw [called] at performed
    obtain ⟨_, _, same⟩ := map_eq_ok.mp performed
    have impossible := congrArg Prod.snd same
    cases impossible
  | remaining _ | writeReceipts _ =>
    rw [called] at performed
    have impossible := congrArg Prod.snd (ok.inj performed)
    cases impossible

end

/-- What Stop promises of the invocations that any number of processes register, after a run. -/
structure StopsObserved (sha256 : Sha256) (labels : List Label) (system : System) : Prop where
  /-- Every generation is in exactly one state. -/
  one_state : ∀ generationId, ∃! state, InState labels system.tables generationId state
  /-- The ticket of a turn names all its unsettled generations, and no more are registered. -/
  turn_ticket : ∀ before label after agentId turnId ticket, labels = before ++ label :: after →
    label.call = .markTurn agentId turnId → label.answer = some (.ticket ticket) →
    ∀ registration, registration.agentId = agentId → registration.turnId = turnId →
      (Registered before registration → ¬ Settled before registration.generationId →
        registration.generationId ∈ ticket.generationIds) ∧
      ¬ Registered after registration
  /-- The ticket of a public turn names the unsettled generations that were bound to it, and no
  more are bound. -/
  public_turn_ticket : ∀ before label after agentId turnId ticket,
    labels = before ++ label :: after →
    label.call = .markPublicTurn agentId turnId → label.answer = some (.ticket ticket) →
    ∀ generationId,
      (Bound before generationId agentId turnId → ¬ Settled before generationId →
        generationId ∈ ticket.generationIds) ∧
      ¬ Bound after generationId agentId turnId
  /-- Nothing remains of a ticket only where all of it was settled as completed by its owners. -/
  remaining_empty : ∀ label ∈ labels, ∀ ticket, label.answer = some (.ticket ticket) →
    system.tables.remaining ticket.generationIds = [] →
    ∀ generationId ∈ ticket.generationIds, Settled labels generationId
  /-- Waiting for a ticket reports stopped work only then. -/
  wait_for_stop : ∀ label ∈ labels, ∀ ticket, label.answer = some (.ticket ticket) →
    ∀ lease later target, WaitForStop sha256 lease ticket system later target .stopped →
    ∀ generationId ∈ ticket.generationIds, Settled (labels ++ later) generationId

theorem settled_of_remaining (run : Run (Steps sha256) (.initial receipts) labels target)
    (listed : label ∈ labels) (answered : label.answer = some (.ticket ticket))
    (nothing : target.tables.remaining ticket.generationIds = [])
    (member : generationId ∈ ticket.generationIds) : Settled labels generationId := by
  obtain ⟨before, after, rfl⟩ := append_of_mem listed
  obtain ⟨middle, earlier, rest⟩ := run.split
  cases rest with
  | cons steps _ =>
    obtain ⟨registration, ⟨found, found_mem, did⟩, rfl⟩ :=
      (ledger_of_run earlier).ticket_registered steps answered member
    obtain ⟨active, unresolved⟩ := remaining_eq_nil nothing _ member
    exact (ledger_of_run run).settled ⟨found, mem_append_left _ found_mem, did⟩ active unresolved

/-- **Stop reports stopped work only for observed completions.** -/
theorem stops_observed (run : Run (Steps sha256) (.initial receipts) labels target) :
    StopsObserved sha256 labels target where
  one_state := fun generationId => by
    obtain ⟨state, entry⟩ := (ledger_of_run run).entry generationId
    exact ⟨state, entry.inState_iff.mpr rfl, fun other inState => entry.inState_iff.mp inState⟩
  turn_ticket := by
    rintro before label after agentId turnId ticket rfl called answered registration rfl rfl
    obtain ⟨middle, earlier, rest⟩ := run.split
    cases rest with
    | cons steps later =>
      rcases steps.performed with ⟨rolled, _⟩ | ⟨answer, answered', performed⟩
      · rw [rolled] at answered
        cases answered
      rw [answered] at answered'
      cases answered'
      rw [called] at performed
      obtain ⟨⟨_, ticket'⟩, marked, same⟩ := map_eq_ok.mp performed
      cases same
      obtain ⟨fenced, named⟩ := markTurn_eq_ok marked
      constructor
      · intro registered unsettled
        rw [named, mem_ordered]
        apply (ledger_of_run earlier).mem_generations registered unsettled
        all_goals
          intro row fits
          rw [fits.agentId, fits.turnDigest, decide_eq_true rfl, decide_eq_true rfl]
          rfl
      · exact not_did_of_run (fun _ _ _ fenced steps => steps.fences_kept _ fenced)
          (fun _ _ _ fenced steps => steps.not_registers fenced) fenced later
  public_turn_ticket := by
    rintro before label after agentId turnId ticket rfl called answered generationId
    obtain ⟨middle, earlier, rest⟩ := run.split
    cases rest with
    | cons steps later =>
      rcases steps.performed with ⟨rolled, _⟩ | ⟨answer, answered', performed⟩
      · rw [rolled] at answered
        cases answered
      rw [answered] at answered'
      cases answered'
      rw [called] at performed
      obtain ⟨⟨_, ticket'⟩, marked, same⟩ := map_eq_ok.mp performed
      cases same
      obtain ⟨is_sealed, named⟩ := markPublicTurn_eq_ok marked
      constructor
      · intro bound unsettled
        rw [named, mem_ordered]
        obtain ⟨registration, registered, rfl⟩ := (ledger_of_run earlier).registered_of_bound bound
        apply (ledger_of_run earlier).mem_generations registered unsettled
        all_goals
          intro row fits
          obtain ⟨agent, turned⟩ := fits.bound agentId turnId bound
          rw [fits.agentId, agent, turned, decide_eq_true rfl, decide_eq_true rfl]
          rfl
      · exact not_did_of_run (fun _ _ _ is_sealed steps => is_sealed.step steps)
          (fun _ _ _ is_sealed steps => steps.not_binds is_sealed) is_sealed later
  remaining_empty := fun label listed ticket answered nothing generationId member =>
    settled_of_remaining run listed answered nothing member
  wait_for_stop := fun label listed ticket answered lease later target waits generationId member => by
    obtain ⟨run', _, nothing⟩ := waits.remaining rfl
    exact settled_of_remaining (run.append run') (mem_append_left _ listed) answered nothing member

end Contract

section Traced

def System.called (sha256 : Sha256) (call : Call) (clock : Clock) (system : System) :
    Label × System :=
  match system.tables.perform sha256 clock call with
  | .ok (committed, answer) => (⟨call, clock, some answer⟩, ⟨committed, call.draws ++ system.drawn⟩)
  | .error _ => (⟨call, clock, none⟩, ⟨system.tables, call.draws ++ system.drawn⟩)

theorem System.steps_called {system : System}
    (fresh : ∀ generationId ∈ call.draws, generationId ∉ system.drawn) :
    Steps sha256 system (system.called sha256 call clock).1 (system.called sha256 call clock).2 := by
  unfold called
  cases performed : system.tables.perform sha256 clock call with
  | error error => exact ⟨fresh, rfl, .inl ⟨rfl, rfl⟩⟩
  | ok result => exact ⟨fresh, rfl, .inr ⟨result.2, rfl, performed⟩⟩

/-- One call after another, from tables without receipts. -/
def tracedCalls : List Call → System → List Label × System
  | [], system => ([], system)
  | call :: calls, system =>
    let (label, next) := system.called .standard call id
    let (labels, last) := tracedCalls calls next
    (label :: labels, last)

theorem run_tracedCalls {calls : List Call} {system : System}
    (fresh : (calls.flatMap Call.draws ++ system.drawn).Nodup) :
    Run (Steps .standard) system (tracedCalls calls system).1 (tracedCalls calls system).2 := by
  induction calls generalizing system with
  | nil => exact .nil system
  | cons call calls ih =>
    have drawn : (system.called .standard call id).2.drawn = call.draws ++ system.drawn := by
      unfold System.called
      split
      · rfl
      · rfl
    rw [flatMap_cons, append_assoc] at fresh
    refine .cons (System.steps_called ?_) (ih ?_)
    · intro generationId drawn' again
      exact (nodup_append.mp fresh).2.2 generationId drawn' generationId
        (mem_append_right _ again) rfl
    · rw [drawn]
      exact (perm_append_comm_assoc _ _ _).nodup_iff.mp fresh

/-- A turn is registered, marked and settled. -/
def tracedTurn : List Call :=
  [.register ⟨"generation", "agent", "turn", "owner", 1⟩, .markTurn "agent" "turn",
    .settle "generation" "owner" .completed none]

def tracedStart : System := .initial ⟨.empty, .empty, .empty⟩

theorem tracedTurn_settled : Settled (tracedCalls tracedTurn tracedStart).1 "generation" := by
  have marked : some (.ticket ⟨["generation"]⟩) ∈
      (tracedCalls tracedTurn tracedStart).1.map Label.answer := by decide +kernel
  have nothing : (tracedCalls tracedTurn tracedStart).2.tables.remaining ["generation"] = [] := by
    decide +kernel
  have run : Run (Steps .standard) tracedStart (tracedCalls tracedTurn tracedStart).1
      (tracedCalls tracedTurn tracedStart).2 := run_tracedCalls (by decide)
  obtain ⟨label, listed, answered⟩ := mem_map.mp marked
  exact (stops_observed run).remaining_empty label listed _ answered nothing "generation"
    (mem_singleton_self _)

end Traced

end Kestrel.Stop.Invocation
