import Kestrel.Stop.InvocationRuns

/-!
# The lifecycle of registered generations

A generation is registered once, by one owner. It is active until it is retired to the unresolved
ledger, and it leaves both only when its owner settles it as completed.
-/

namespace Kestrel.Stop.Invocation

open Transition List

variable {sha256 : Sha256} {labels : List Label} {label : Label} {source target : System}
  {before after tables : Tables} {generationId ownerId agentId turnId : String}
  {registration : Registration} {call : Call} {answer : Answer}

section History

def Label.Did (label : Label) (event : Call → Answer → Prop) : Prop :=
  ∃ answer, label.answer = some answer ∧ event label.call answer

def Registered (labels : List Label) (registration : Registration) : Prop :=
  ∃ label ∈ labels, label.Did (Registers · · registration)

def Bound (labels : List Label) (generationId agentId turnId : String) : Prop :=
  ∃ label ∈ labels, label.Did (Binds · · generationId agentId turnId)

/-- A generation was settled as completed by the owner that registered it. -/
def Settled (labels : List Label) (generationId : String) : Prop :=
  ∃ registration before label after, labels = before ++ label :: after ∧
    Registered before registration ∧ registration.generationId = generationId ∧
    label.Did fun call _ => Completes call generationId registration.ownerId

theorem exists_mem_snoc {holds : Label → Prop} :
    (∃ found ∈ labels ++ [label], holds found) ↔ (∃ found ∈ labels, holds found) ∨ holds label := by
  constructor
  · rintro ⟨found, member, held⟩
    rcases mem_append.mp member with member | member
    · exact .inl ⟨found, member, held⟩
    · rw [mem_singleton] at member
      subst member
      exact .inr held
  · rintro (⟨found, member, held⟩ | held)
    · exact ⟨found, mem_append_left _ member, held⟩
    · exact ⟨label, mem_append_right _ (mem_singleton_self _), held⟩

theorem registered_snoc : Registered (labels ++ [label]) registration ↔
    Registered labels registration ∨ label.Did (Registers · · registration) :=
  exists_mem_snoc

theorem bound_snoc : Bound (labels ++ [label]) generationId agentId turnId ↔
    Bound labels generationId agentId turnId ∨ label.Did (Binds · · generationId agentId turnId) :=
  exists_mem_snoc

theorem settled_snoc : Settled (labels ++ [label]) generationId ↔ Settled labels generationId ∨
    ∃ registration, Registered labels registration ∧ registration.generationId = generationId ∧
      label.Did fun call _ => Completes call generationId registration.ownerId := by
  constructor
  · rintro ⟨registration, before, found, after, split, registered, same, completed⟩
    rcases eq_nil_or_concat after with rfl | ⟨after', last, rfl⟩
    · obtain ⟨rfl, last⟩ := append_inj' split rfl
      cases last
      exact .inr ⟨registration, registered, same, completed⟩
    · rw [concat_eq_append, ← cons_append, ← append_assoc] at split
      obtain ⟨rfl, _⟩ := append_inj' split rfl
      exact .inl ⟨registration, before, found, after', rfl, registered, same, completed⟩
  · rintro (⟨registration, before, found, after, rfl, registered, same, completed⟩ |
      ⟨registration, registered, same, completed⟩)
    · exact ⟨registration, before, found, after ++ [label], by simp, registered, same, completed⟩
    · exact ⟨registration, labels, label, [], rfl, registered, same, completed⟩

end History

section States

inductive GenerationState where
  | unregistered
  | active
  | unresolved
  | settled
  deriving DecidableEq, Repr

def InState (labels : List Label) (tables : Tables) (generationId : String) :
    GenerationState → Prop
  | .unregistered => ∀ registration, Registered labels registration →
      registration.generationId ≠ generationId
  | .active => tables.active.row generationId ≠ none
  | .unresolved => tables.unresolved.row generationId ≠ none
  | .settled => Settled labels generationId

def Only (labels : List Label) (generationId : String) (registration : Registration) : Prop :=
  ∀ other, Registered labels other ∧ other.generationId = generationId ↔ other = registration

structure Fits (sha256 : Sha256) (labels : List Label) (generationId : String)
    (registration : Registration) (agentId turnDigest' ownerId : String)
    (publicTurnDigest' : Option String) : Prop where
  agentId : agentId = registration.agentId
  turnDigest : turnDigest' = turnDigest sha256 registration.turnId
  ownerId : ownerId = registration.ownerId
  bound : ∀ agentId turnId, Bound labels generationId agentId turnId →
    agentId = registration.agentId ∧ publicTurnDigest' = some (publicTurnDigest sha256 turnId)

inductive Entry (sha256 : Sha256) (labels : List Label) (tables : Tables) (generationId : String) :
    GenerationState → Prop where
  | unregistered : InState labels tables generationId .unregistered →
      (∀ agentId turnId, ¬ Bound labels generationId agentId turnId) →
      tables.active.row generationId = none → tables.unresolved.row generationId = none →
      Entry sha256 labels tables generationId .unregistered
  | active {registration : Registration} {row : ActiveRow} : Only labels generationId registration →
      tables.active.row generationId = some row →
      Fits sha256 labels generationId registration row.agentId row.turnDigest row.ownerId
        row.publicTurnDigest →
      tables.unresolved.row generationId = none → ¬ Settled labels generationId →
      Entry sha256 labels tables generationId .active
  | unresolved {registration : Registration} {row : UnresolvedRow} :
      Only labels generationId registration → tables.unresolved.row generationId = some row →
      Fits sha256 labels generationId registration row.agentId row.turnDigest row.ownerId
        row.publicTurnDigest →
      tables.active.row generationId = none → ¬ Settled labels generationId →
      Entry sha256 labels tables generationId .unresolved
  | settled {registration : Registration} : Only labels generationId registration →
      tables.active.row generationId = none → tables.unresolved.row generationId = none →
      Settled labels generationId → Entry sha256 labels tables generationId .settled

theorem not_settled_of_unregistered (unregistered : InState labels tables generationId .unregistered) :
    ¬ Settled labels generationId := by
  rintro ⟨registration, before, found, after, rfl, ⟨label, member, registers⟩, same, _⟩
  exact unregistered registration ⟨label, mem_append_left _ member, registers⟩ same

theorem Only.not_unregistered (only : Only labels generationId registration) :
    ¬ InState labels tables generationId .unregistered := by
  intro unregistered
  obtain ⟨registered, same⟩ := (only registration).mpr rfl
  exact unregistered registration registered same

/-- **A generation is in exactly one state.** -/
theorem Entry.inState_iff {state other : GenerationState}
    (entry : Entry sha256 labels tables generationId state) :
    InState labels tables generationId other ↔ other = state := by
  have held : ∀ {Row : Type} {stored : Option Row} {row : Row}, stored = some row → stored ≠ none :=
    fun stored => by
      rw [stored]
      exact Option.some_ne_none _
  cases entry with
  | unregistered unregistered _ absent unlisted =>
    cases other with
    | unregistered => exact iff_of_true unregistered rfl
    | active => exact iff_of_false (not_not.mpr absent) nofun
    | unresolved => exact iff_of_false (not_not.mpr unlisted) nofun
    | settled => exact iff_of_false (not_settled_of_unregistered unregistered) nofun
  | active only stored _ unlisted unsettled =>
    cases other with
    | unregistered => exact iff_of_false only.not_unregistered nofun
    | active => exact iff_of_true (held stored) rfl
    | unresolved => exact iff_of_false (not_not.mpr unlisted) nofun
    | settled => exact iff_of_false unsettled nofun
  | unresolved only stored _ absent unsettled =>
    cases other with
    | unregistered => exact iff_of_false only.not_unregistered nofun
    | active => exact iff_of_false (not_not.mpr absent) nofun
    | unresolved => exact iff_of_true (held stored) rfl
    | settled => exact iff_of_false unsettled nofun
  | settled only absent unlisted settled =>
    cases other with
    | unregistered => exact iff_of_false only.not_unregistered nofun
    | active => exact iff_of_false (not_not.mpr absent) nofun
    | unresolved => exact iff_of_false (not_not.mpr unlisted) nofun
    | settled => exact iff_of_true settled rfl

end States

section Steps

/-- A call that committed does not register, bind anew or complete a generation. -/
def Label.Quiet (sha256 : Sha256) (generationId : String) (before : Tables) (label : Label) : Prop :=
  ∀ answer, label.answer = some answer →
    Invocation.Quiet sha256 generationId before label.call answer

variable {state : GenerationState}

section

variable (only : Only labels generationId registration)

include only

theorem Only.kept
    (registers : ∀ other, label.Did (Registers · · other) → other.generationId ≠ generationId) :
    Only (labels ++ [label]) generationId registration := by
  intro other
  rw [← only other, registered_snoc]
  constructor
  · rintro ⟨registered | did, same⟩
    · exact ⟨registered, same⟩
    · exact absurd same (registers other did)
  · rintro ⟨registered, same⟩
    exact ⟨.inl registered, same⟩

theorem Only.quiet (quiet : label.Quiet sha256 generationId before) :
    Only (labels ++ [label]) generationId registration := by
  apply only.kept
  rintro other ⟨answer, answered, registers⟩
  exact (quiet answer answered).registers other registers

theorem Only.unsettled (unsettled : ¬ Settled labels generationId)
    (owned : ∀ answer, label.answer = some answer →
      ¬ Completes label.call generationId registration.ownerId) :
    ¬ Settled (labels ++ [label]) generationId := by
  rw [settled_snoc]
  rintro (settled | ⟨other, registered, same, answer, answered, completed⟩)
  · exact unsettled settled
  · rw [(only other).mp ⟨registered, same⟩] at completed
    exact owned answer answered completed

end

theorem Fits.kept {agent digest owner : String} {publicDigest : Option String}
    (fits : Fits sha256 labels generationId registration agent digest owner publicDigest)
    (binds : ∀ agentId turnId, label.Did (Binds · · generationId agentId turnId) →
      agentId = registration.agentId ∧ publicDigest = some (publicTurnDigest sha256 turnId)) :
    Fits sha256 (labels ++ [label]) generationId registration agent digest owner publicDigest where
  agentId := fits.agentId
  turnDigest := fits.turnDigest
  ownerId := fits.ownerId
  bound := fun agentId turnId bound => by
    rcases bound_snoc.mp bound with bound | binding
    · exact fits.bound agentId turnId bound
    · exact binds agentId turnId binding

variable {row : ActiveRow} {abandonIf : Option Bool}

theorem Entry.active_of_row (entry : Entry sha256 labels tables generationId state)
    (stored : tables.active.row generationId = some row) :
    ∃ registration, Only labels generationId registration ∧
      Fits sha256 labels generationId registration row.agentId row.turnDigest row.ownerId
        row.publicTurnDigest ∧
      tables.unresolved.row generationId = none ∧ ¬ Settled labels generationId := by
  cases entry with
  | active only stored' fits unlisted unsettled =>
    rw [stored] at stored'
    cases stored'
    exact ⟨_, only, fits, unlisted, unsettled⟩
  | unregistered _ _ absent _ | unresolved _ _ _ absent _ | settled _ absent _ _ =>
    rw [stored] at absent
    cases absent

theorem Entry.active_quiet (entry : Entry sha256 labels before generationId state)
    (quiet : label.Quiet sha256 generationId before)
    (stored : before.active.row generationId = some row) :
    ∃ registration, Only (labels ++ [label]) generationId registration ∧
      Fits sha256 (labels ++ [label]) generationId registration row.agentId row.turnDigest
        row.ownerId row.publicTurnDigest ∧
      before.unresolved.row generationId = none ∧ ¬ Settled (labels ++ [label]) generationId := by
  obtain ⟨registration, only, fits, absent, unsettled⟩ := entry.active_of_row stored
  refine ⟨registration, only.quiet quiet, fits.kept ?_, absent, only.unsettled unsettled ?_⟩
  · rintro agentId turnId ⟨answer, answered, binds⟩
    obtain ⟨row, stored', agent, _, turned⟩ := (quiet answer answered).binds agentId turnId binds
    rw [stored] at stored'
    cases stored'
    exact ⟨agent.symm.trans fits.agentId, turned⟩
  · intro answer answered completed
    exact ((quiet answer answered).completes _ completed).1 _ stored fits.ownerId

theorem Entry.kept (entry : Entry sha256 labels before generationId state)
    (quiet : label.Quiet sha256 generationId before)
    (active : after.active.row generationId = before.active.row generationId)
    (unresolved : after.unresolved.row generationId = before.unresolved.row generationId) :
    Entry sha256 (labels ++ [label]) after generationId state := by
  cases entry with
  | unregistered unregistered unbound absent unlisted =>
    refine .unregistered ?_ ?_ (active.trans absent) (unresolved.trans unlisted)
    · intro registration registered
      rcases registered_snoc.mp registered with registered | ⟨answer, answered, registers⟩
      · exact unregistered registration registered
      · exact (quiet answer answered).registers registration registers
    · intro agentId turnId bound
      rcases bound_snoc.mp bound with bound | ⟨answer, answered, binds⟩
      · exact unbound agentId turnId bound
      · obtain ⟨row, stored, _⟩ := (quiet answer answered).binds agentId turnId binds
        rw [absent] at stored
        cases stored
  | active only stored fits unlisted unsettled =>
    obtain ⟨_, only', fits', _, unsettled'⟩ :=
      (Entry.active only stored fits unlisted unsettled).active_quiet quiet stored
    exact .active only' (active.trans stored) fits' (unresolved.trans unlisted) unsettled'
  | unresolved only stored fits absent unsettled =>
    refine .unresolved (only.quiet quiet) (unresolved.trans stored) (fits.kept ?_)
      (active.trans absent) (only.unsettled unsettled ?_)
    · rintro agentId turnId ⟨answer, answered, binds⟩
      obtain ⟨row, stored', _⟩ := (quiet answer answered).binds agentId turnId binds
      rw [absent] at stored'
      cases stored'
    · intro answer answered completed
      exact ((quiet answer answered).completes _ completed).2 _ stored fits.ownerId
  | settled only absent unlisted settled =>
    exact .settled (only.quiet quiet) (active.trans absent) (unresolved.trans unlisted)
      (settled_snoc.mpr (.inl settled))

theorem Entry.unresolved_of_row {row : UnresolvedRow}
    (entry : Entry sha256 labels tables generationId state)
    (stored : tables.unresolved.row generationId = some row) :
    ∃ registration, Only labels generationId registration ∧
      Fits sha256 labels generationId registration row.agentId row.turnDigest row.ownerId
        row.publicTurnDigest ∧
      tables.active.row generationId = none ∧ ¬ Settled labels generationId := by
  cases entry with
  | unresolved only stored' fits absent unsettled =>
    rw [stored] at stored'
    cases stored'
    exact ⟨_, only, fits, absent, unsettled⟩
  | unregistered _ _ _ unlisted | active _ _ _ unlisted _ | settled _ _ unlisted _ =>
    rw [stored] at unlisted
    cases unlisted

theorem Entry.unregistered_of_fresh (entry : Entry sha256 labels tables generationId state)
    {drawn : List String}
    (drawn_of_registered : ∀ registration, Registered labels registration →
      registration.generationId ∈ drawn)
    (fresh : generationId ∉ drawn) :
    InState labels tables generationId .unregistered ∧
      (∀ agentId turnId, ¬ Bound labels generationId agentId turnId) ∧
      tables.unresolved.row generationId = none := by
  have never : ∀ registration, ¬ Only labels generationId registration := by
    intro registration only
    obtain ⟨registered, same⟩ := (only registration).mpr rfl
    exact fresh (same ▸ drawn_of_registered registration registered)
  cases entry with
  | unregistered unregistered unbound _ unlisted => exact ⟨unregistered, unbound, unlisted⟩
  | active only _ _ _ _ | unresolved only _ _ _ _ | settled only _ _ _ =>
    exact absurd only (never _)

theorem not_registers {disposition : RequestCompletionDisposition}
    (called : label.call = .settle generationId ownerId disposition abandonIf) :
    ∀ other, label.Did (Registers · · other) → other.generationId ≠ generationId := by
  rintro other ⟨_, _, registers, _⟩
  rw [called] at registers
  cases registers

theorem Only.settled (only : Only labels generationId registration)
    (owner : registration.ownerId = ownerId) (answered : label.answer = some answer)
    (called : label.call = .settle generationId ownerId .completed abandonIf)
    (allowed : abandonIf ≠ some true) : Settled (labels ++ [label]) generationId := by
  obtain ⟨registered, same⟩ := (only registration).mpr rfl
  subst owner
  exact settled_snoc.mpr (.inr ⟨registration, registered, same, answer, answered, abandonIf, allowed,
    called⟩)

/-- **A step takes a generation from one state to another.** -/
theorem Entry.step (entry : Entry sha256 labels source.tables generationId state)
    (drawn_of_registered : ∀ registration, Registered labels registration →
      registration.generationId ∈ source.drawn)
    (steps : Steps sha256 source label target) :
    ∃ state', Entry sha256 (labels ++ [label]) target.tables generationId state' := by
  rcases steps.performed with ⟨rolled, same⟩ | ⟨answer, answered, performed⟩
  · refine ⟨state, entry.kept ?_ ?_ ?_⟩
    · intro answer answered
      rw [rolled] at answered
      cases answered
    · rw [same]
    · rw [same]
  have of_quiet : Quiet sha256 generationId source.tables label.call answer →
      label.Quiet sha256 generationId source.tables := by
    intro quiet answer' answered'
    rw [answered] at answered'
    cases answered'
    exact quiet
  have only_did : ∀ {event : Call → Answer → Prop}, label.Did event → event label.call answer := by
    intro event did
    obtain ⟨answer', answered', happened⟩ := did
    rw [answered] at answered'
    cases answered'
    exact happened
  cases (perform_change generationId performed).1 with
  | kept quiet active unresolved => exact ⟨state, entry.kept (of_quiet quiet) active unresolved⟩
  | registered registers same _ _ stored agent turn owner unbound unlisted =>
    have fresh : generationId ∉ source.drawn := by
      apply steps.fresh
      rw [registers.1]
      exact mem_singleton.mpr same.symm
    obtain ⟨unregistered, never, absent⟩ :=
      entry.unregistered_of_fresh drawn_of_registered fresh
    refine ⟨.active, .active ?_ stored ⟨agent, turn, owner, ?_⟩ (unlisted.trans absent) ?_⟩
    · intro other
      rw [registered_snoc]
      constructor
      · rintro ⟨registered | did, same'⟩
        · exact absurd same' (unregistered other registered)
        · have again := (only_did did).1
          rw [registers.1] at again
          exact (Call.register.inj again).symm
      · rintro rfl
        exact ⟨.inr ⟨answer, answered, registers⟩, same⟩
    · intro agentId turnId bound
      rcases bound_snoc.mp bound with bound | did
      · exact absurd bound (never agentId turnId)
      · obtain ⟨⟨_, impossible⟩, _⟩ := only_did did
        rw [registers.1] at impossible
        cases impossible
    · rw [settled_snoc]
      rintro (settled | ⟨_, _, _, did⟩)
      · exact not_settled_of_unregistered unregistered settled
      · obtain ⟨_, _, impossible⟩ := only_did did
        rw [registers.1] at impossible
        cases impossible
  | updated quiet stored stored' keeps turned unresolved =>
    obtain ⟨registration, only, fits, absent, unsettled⟩ :=
      entry.active_quiet (of_quiet quiet) stored
    refine ⟨.active, .active only stored' ?_ (unresolved.trans absent) unsettled⟩
    rw [keeps.agentId, keeps.turnDigest, keeps.ownerId, turned]
    exact fits
  | bound called bound stored agent unbound _ stored' unresolved =>
    obtain ⟨registration, only, fits, absent, unsettled⟩ := entry.active_of_row stored
    refine ⟨.active, .active (only.kept ?_) stored' ⟨fits.agentId, fits.turnDigest, fits.ownerId,
      ?_⟩ (unresolved.trans absent) (only.unsettled unsettled ?_)⟩
    · intro other did
      have registers := (only_did did).1
      rw [called] at registers
      cases registers
    · intro agentId turnId bound
      rcases bound_snoc.mp bound with bound | did
      · have turned := (fits.bound agentId turnId bound).2
        rw [unbound] at turned
        cases turned
      · obtain ⟨⟨_, binds⟩, _⟩ := only_did did
        rw [called] at binds
        cases binds
        exact ⟨agent.symm.trans fits.agentId, rfl⟩
    · rintro _ _ ⟨_, _, completed⟩
      rw [called] at completed
      cases completed
  | retired quiet stored _ gone unlisted =>
    obtain ⟨registration, only, fits, absent, unsettled⟩ :=
      entry.active_quiet (of_quiet quiet) stored
    exact ⟨.unresolved, .unresolved only unlisted fits gone unsettled⟩
  | completedActive called allowed stored owner gone unresolved =>
    obtain ⟨registration, only, fits, absent, _⟩ := entry.active_of_row stored
    exact ⟨.settled, .settled (only.kept (not_registers called)) gone (unresolved.trans absent)
      (only.settled (fits.ownerId.symm.trans owner) answered called allowed)⟩
  | completedUnresolved called allowed stored owner active gone =>
    obtain ⟨registration, only, fits, absent, _⟩ := entry.unresolved_of_row stored
    exact ⟨.settled, .settled (only.kept (not_registers called)) (active.trans absent) gone
      (only.settled (fits.ownerId.symm.trans owner) answered called allowed)⟩

end Steps

end Kestrel.Stop.Invocation
