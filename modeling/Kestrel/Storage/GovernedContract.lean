import Kestrel.Storage.GovernedRuns
import Kestrel.Storage.GroundedRuns

/-!
# What governed writes uphold

Whenever a governed write commits, the active assertions are the graph its report validated. No
operation commits twice, and its deliveries share one receipt. The graph includes active
assertions whose eligibility was withdrawn.
-/

namespace Kestrel.AssertionStore

open Ledger Service

variable {D : Domain} {G : Governance D}

variable {before after later last : Service G} {event : ServiceEvent G}
  {events : List (ServiceEvent G)}

structure CommitsWrite (before after : Service G) (id : ℕ) (call : WriteCall G)
    (postState : List (Assertion D)) (report : ShaclValidationReport G) (written : Written D) :
    Prop where
  found : before.writes id = some call
  phase : ∃ attempt generation, call.phase = .commit attempt generation postState report
  answered : after.writes id = some { call with phase := .returned (.accepted report written) }

/-- What governed writes uphold at a step of a tenant, and ever after it. -/
structure Governed (before : Service G) (event : ServiceEvent G) (after : Service G) : Prop where
  /-- A commit's report is stored with it, and the active assertions are the graph that the
  report validated, with the committed revision in the place of its proposal. -/
  validated : ∀ id call postState report written,
    CommitsWrite before after id call postState report written →
    after.ledger.reports report.reportId = some report ∧
      SameUpToLink written.assertion call.write.proposal ∧
      ∀ assertion, after.ledger.store.ActiveCurrent assertion ↔
        assertion ∈ stamped written.assertion postState
  /-- A step of a write call that commits nothing leaves the canonical tables alone. -/
  unchanged : ∀ id supply validator, event = .advanceWrite id supply validator →
    after.ledger.store = before.ledger.store ∨
      ∃ call postState report written, CommitsWrite before after id call postState report written
  /-- No operation commits twice. -/
  once : ∀ id call postState report written,
    CommitsWrite before after id call postState report written →
    ∀ events later event last, Transition.Run ClearStep after events later →
      ClearStep later event last → ∀ id' call' postState' report' written',
      CommitsWrite later last id' call' postState' report' written' →
      call'.operationId ≠ call.operationId
  /-- The accepted answers of one operation carry one report and one receipt. -/
  agree : ∀ id other call call' report report' written written',
    after.writes id = some call → after.writes other = some call' →
    call.Answered report written → call'.Answered report' written' →
    call.operationId = call'.operationId →
    report.reportId = report'.reportId ∧ call.write.receipt written = call'.write.receipt written'
  /-- While nothing is erased, a later delivery is answered with that report and receipt. -/
  redelivered : ∀ id call postState report written,
    CommitsWrite before after id call postState report written →
    ∀ events later, Transition.Run ClearStep after events later →
      (∀ event ∈ events, ∀ supply limit operationId assertionId,
        event ≠ .erase supply limit operationId assertionId) →
      ∀ write : GovernedWrite D, write.validate = .ok () →
        write.purpose = call.write.purpose → G.digest write = G.digest call.write →
        later.ledger.replayGoverned write call.operationId = .ok (some (report, written.replayed))

section Commits

variable {id : ℕ} {call : WriteCall G} {postState : List (Assertion D)}
  {report : ShaclValidationReport G} {written : Written D}

theorem CommitsWrite.advance (sound : before.ledger.Sound) (stepped : ClearStep before event after)
    (commits : CommitsWrite before after id call postState report written) :
    ∃ supply validator attempt generation, event = .advanceWrite id supply validator ∧
        call.phase = .commit attempt generation postState report ∧
        written.idempotent = false ∧
        Commits supply call.write call.operationId generation report before.ledger
          after.ledger written := by
  obtain ⟨found, ⟨attempt, generation, phase⟩, answered⟩ := commits
  have left : ∀ later, after.writes id = some later → later.phase ≠ call.phase := by
    intro later reached same
    rw [answered] at reached
    cases reached
    rw [phase] at same
    cases same
  rcases (moves_step sound stepped).writes with same |
    ⟨other, _, _, _, absent, begun⟩ | ⟨other, supply, validator, call', rfl, found', ledger, moved⟩
  · rw [same] at left
    exact absurd rfl (left call found)
  · have distinct : id ≠ other := by
      intro own
      rw [own, absent] at found
      cases found
    rw [begun, Function.update_of_ne distinct] at left
    exact absurd rfl (left call found)
  · by_cases own : id = other
    · subst own
      rw [found] at found'
      cases found'
      rw [moved, Function.update_self] at answered
      obtain ⟨_, new, committed⟩ :=
        commits_advance phase (congrArg WriteCall.phase (Option.some.inj answered))
      rw [← ledger] at committed
      exact ⟨supply, validator, attempt, generation, rfl, phase, new, committed⟩
    · rw [moved, Function.update_of_ne own] at left
      exact absurd rfl (left call found)

/-- **A commit leaves the graph that was validated.** -/
theorem CommitsWrite.validated (sound : before.Sound) (stepped : ClearStep before event after)
    (commits : CommitsWrite before after id call postState report written) :
    after.ledger.reports report.reportId = some report ∧
      SameUpToLink written.assertion call.write.proposal ∧
      ∀ assertion, after.ledger.store.ActiveCurrent assertion ↔
        assertion ∈ stamped written.assertion postState := by
  obtain ⟨supply, validator, attempt, generation, rfl, phase, new, committed⟩ :=
    commits.advance sound.ledger stepped
  have current := sound.current id call commits.found
  rw [phase] at current
  have planned := current.2 (GovernedWrite.generation_of_apply committed.applied)
  have untaken := stepped.1 call attempt generation postState report commits.found phase
  exact ⟨committed.stored, Store.active_apply sound.ledger.linked committed.valid untaken planned
    committed.applied new⟩

theorem CommitsWrite.taken (sound : before.ledger.Sound) (stepped : ClearStep before event after)
    (commits : CommitsWrite before after id call postState report written) :
    ¬ before.ledger.Taken call.operationId ∧ after.ledger.Taken call.operationId := by
  obtain ⟨_, _, _, _, _, _, new, committed⟩ := commits.advance sound stepped
  exact ⟨committed.vacant, (committed.records new).1⟩

theorem taken_run {operationId : G.OperationId} (sound : after.Sound)
    (run : Transition.Run ClearStep after events later)
    (taken : after.ledger.Taken operationId) :
    later.Sound ∧ later.ledger.Taken operationId := by
  have preserved : ∀ (source : Service G) event target,
      source.Sound ∧ source.ledger.Taken operationId → ClearStep source event target →
      target.Sound ∧ target.ledger.Taken operationId := by
    intro source event target valid stepped
    exact ⟨valid.1.step stepped,
      (moves_step valid.1.ledger stepped).evolves.taken operationId valid.2⟩
  exact run.invariant preserved ⟨sound, taken⟩

theorem keeps_run (sound : after.Sound) (run : Transition.Run ClearStep after events later)
    (kept : ∀ event ∈ events, ∀ supply limit operationId assertionId,
      event ≠ .erase supply limit operationId assertionId) :
    Keeps after.ledger later.ledger := by
  induction run with
  | nil => exact .refl _
  | cons first _ ih =>
    have moves := moves_step sound.ledger first
    exact (moves.keeps (kept _ List.mem_cons_self)).trans
      (ih (sound.step first) fun event member => kept event (List.mem_cons_of_mem _ member))

/-- **A later delivery is answered with the report and the receipt of the commit.** -/
theorem CommitsWrite.redelivered (sound : before.Sound) (stepped : ClearStep before event after)
    (commits : CommitsWrite before after id call postState report written)
    (run : Transition.Run ClearStep after events later)
    (kept : ∀ event ∈ events, ∀ supply limit operationId assertionId,
      event ≠ .erase supply limit operationId assertionId)
    {write : GovernedWrite D} (valid : write.validate = .ok ())
    (purpose : write.purpose = call.write.purpose) (digest : G.digest write = G.digest call.write) :
    later.ledger.replayGoverned write call.operationId = .ok (some (report, written.replayed)) := by
  obtain ⟨supply, validator, attempt, generation, rfl, phase, new, committed⟩ :=
    commits.advance sound.ledger stepped
  have keeps := keeps_run (sound.step stepped) run kept
  have row : later.ledger.operations call.operationId = some
      (writeRow supply call.write report.reportId before.ledger.store written) := by
    refine keeps.operations _ _ ?_
    rw [committed.operations, new]
    exact Function.update_self ..
  have found : later.ledger.operation call.operationId write.purpose (G.digest write) = .ok
      (some (writeRow supply call.write report.reportId before.ledger.store written)) := by
    rw [operation_eq_some]
    exact ⟨row, (purpose_receipt committed.applied).trans purpose.symm, digest.symm⟩
  have reported : later.ledger.validationReportFromReceipt
      (writeRow supply call.write report.reportId before.ledger.store written) =
      .ok report := by
    unfold validationReportFromReceipt writeRow
    dsimp only
    rw [keeps.reports _ _ committed.stored]
  have stored := (GovernedWrite.stored_apply sound.ledger.linked committed.applied new).mono
    keeps.revision
  have replayed : replay later.ledger.store (call.write.receipt written) =
      .ok written.replayed := replay_of_apply committed.applied stored
  have identity : written.replayed.assertion.assertionId = call.write.proposal.assertionId := by
    have same := (commits.validated sound stepped).2.1
    have content := congrArg AssertionMapping.content same
    cases written <;> exact Store.assertionId_of_content content
  have accepted : validateAcceptedReport written.replayed.assertion report = .ok () := by
    rw [← committed.accepted, validateAcceptedReport, validateAcceptedReport, identity]
  unfold replayGoverned
  rw [valid, Except.ok_bind, found, Except.ok_bind]
  dsimp only
  have receipt : (writeRow supply call.write report.reportId before.ledger.store
      written).receipt = call.write.receipt written := rfl
  rw [reported, Except.ok_bind, receipt, replayed, Except.ok_bind, accepted]
  rfl

end Commits

/-- **Governed writes commit what they validated.** -/
theorem governed_writes {events : List (ServiceEvent G)} {before after : Service G}
    {event : ServiceEvent G}
    (run : Transition.Run ClearStep (Service.empty : Service G) events before)
    (stepped : ClearStep before event after) : Governed before event after := by
  have sound := empty_sound.run run
  refine ⟨?_, ?_, ?_, (sound.step stepped).agree, ?_⟩
  · intro id call postState report written commits
    exact commits.validated sound stepped
  · intro id supply validator same
    subst same
    obtain ⟨call, found, moved⟩ := Option.bind_eq_some_iff.mp stepped.2.2
    cases moved
    rcases @store_advance _ _ call before.ledger supply validator with same |
      ⟨postState, report, written, phase, answered⟩
    · exact .inl same
    · refine .inr ⟨call, postState, report, written, found, phase, ?_⟩
      exact (Function.update_self ..).trans
        (congrArg (fun phase => some { call with phase := phase }) answered)
  · intro id call postState report written commits events later event last rest again id' call'
      postState' report' written' commits' same
    have taken := (commits.taken sound.ledger stepped).2
    obtain ⟨sound', taken'⟩ := taken_run (sound.step stepped) rest taken
    rw [← same] at taken'
    exact (commits'.taken sound'.ledger again).1 taken'
  · intro id call postState report written commits events later rest kept write valid purpose digest
    exact commits.redelivered sound stepped rest kept valid purpose digest

/-! ## A tenant with natural-number identifiers -/

/-- Operations are named by the revision they propose or by the report they repair, and a request
is its own digest. -/
@[reducible] def Governance.natural : Governance Domain.natural where
  OperationId := ℕ ⊕ ℕ
  ReportId := ℕ
  Digest := GovernedWrite Domain.natural ⊕ ℕ × List (ℕ × ℕ)
  digest := .inl
  resolvedOperationId := fun write => .inl write.proposal.revisionId
  quarantineOperationId := .inr
  quarantineDigest := fun reportId targets => .inr (reportId, targets)

namespace Governance.natural

def conformant (reportId : ℕ) : Validator natural :=
  fun _ => ⟨reportId, .conforms, .accept, [], rfl⟩

/-- A governed write of a direct fact, up to its commit. -/
def write (content : ℕ) : List (ServiceEvent natural) :=
  [.beginWrite 0 (.put (Domain.natural.direct content content content) [⟨content, ()⟩]) none 2,
    .advanceWrite 0 (Domain.natural.supply 100) (conformant 7),
    .advanceWrite 0 (Domain.natural.supply 100) (conformant 7),
    .advanceWrite 0 (Domain.natural.supply 100) (conformant 7)]

/-- A fact whose eligibility is withdrawn. -/
def withdrawal : List (ServiceEvent natural) :=
  [.mutate (Domain.natural.supply 100)
      (.mutate (.putAssertion (Domain.natural.direct 1 1 1) [⟨1, ()⟩] none)) none,
    .mutate (Domain.natural.supply 200) (.mutate (.invalidateAssertionEligibility 1 1)) none]

def commit : ServiceEvent natural :=
  .advanceWrite 0 (Domain.natural.supply 100) (conformant 7)

def ran (events : List (ServiceEvent natural)) : Service natural :=
  events.foldl (fun service event => (service.step event).getD service) .empty

end Governance.natural

theorem step_getD {service : Service G} {event : ServiceEvent G}
    (happens : (service.step event).isSome = true) :
    service.step event = some ((service.step event).getD service) := by
  obtain ⟨after, stepped⟩ := Option.isSome_iff_exists.mp happens
  rw [stepped, Option.getD_some]

theorem clear_put {service : Service G} {id : ℕ} {supply : Supply D} {validator : Validator G}
    {assertion : Assertion D} {sources : List (SourceOccurrence D)}
    (kind : (service.writes id).map (·.write) = some (.put assertion sources)) :
    (ServiceEvent.advanceWrite id supply validator).Clear service := by
  intro call attempt generation postState report found _
  rw [found] at kind
  have same : call.write = .put assertion sources := Option.some.inj kind
  rw [same]
  trivial

open Governance.natural in
/-- A governed write of a first fact commits the graph of that fact. -/
theorem governed_writes_put : ∃ call report written,
      CommitsWrite (ran (write 1)) (ran (write 1 ++ [commit])) 0 call
          [Domain.natural.direct 1 1 1] report written ∧
        Governed (ran (write 1)) commit (ran (write 1 ++ [commit])) := by
  have run : Transition.Run ClearStep empty (write 1) (ran (write 1)) := by
    refine .cons ⟨trivial, trivial, step_getD ?_⟩ <|
      .cons ⟨clear_put rfl, Store.freshFrom_natural 100 ?_, step_getD ?_⟩ <|
      .cons ⟨clear_put rfl, Store.freshFrom_natural 100 ?_, step_getD ?_⟩ <|
      .cons ⟨clear_put rfl, Store.freshFrom_natural 100 ?_, step_getD ?_⟩ <| .nil _
    all_goals decide +kernel
  have stepped : ClearStep (ran (write 1)) commit (ran (write 1 ++ [commit])) :=
    ⟨clear_put rfl, Store.freshFrom_natural 100 (by decide +kernel), step_getD (by decide +kernel)⟩
  exact ⟨_, _, _, ⟨rfl, ⟨_, _, rfl⟩, rfl⟩, governed_writes run stepped⟩

open Governance.natural in
/-- A fact whose eligibility was withdrawn stays in the graph that is validated and committed,
and is no eligible fact. -/
theorem ineligible_fact_validated :
    ¬ ∀ (events : List (ServiceEvent Governance.natural)) (before after : Service _) event id call
      postState report written, Transition.Run ServiceStep Service.empty events before →
      ServiceStep before event after →
      CommitsWrite before after id call postState report written →
      ∀ assertion, after.ledger.store.Live assertion ↔
        assertion ∈ stamped written.assertion postState := by
  intro claim
  have run : Transition.Run ServiceStep empty (withdrawal ++ write 2)
      (ran (withdrawal ++ write 2)) := by
    refine .cons ⟨Store.freshFrom_natural 100 ?_, step_getD ?_⟩ <|
      .cons ⟨Store.freshFrom_natural 200 ?_, step_getD ?_⟩ <|
      .cons ⟨trivial, step_getD ?_⟩ <|
      .cons ⟨Store.freshFrom_natural 100 ?_, step_getD ?_⟩ <|
      .cons ⟨Store.freshFrom_natural 100 ?_, step_getD ?_⟩ <|
      .cons ⟨Store.freshFrom_natural 100 ?_, step_getD ?_⟩ <| .nil _
    all_goals decide +kernel
  have stepped : ServiceStep (ran (withdrawal ++ write 2)) commit
      (ran (withdrawal ++ write 2 ++ [commit])) :=
    ⟨Store.freshFrom_natural 100 (by decide +kernel), step_getD (by decide +kernel)⟩
  have commits : CommitsWrite (ran (withdrawal ++ write 2))
      (ran (withdrawal ++ write 2 ++ [commit])) 0 _
      [Domain.natural.direct 1 1 1, Domain.natural.direct 2 2 2] _ _ :=
    ⟨rfl, ⟨_, _, rfl⟩, rfl⟩
  have live := (claim _ _ _ commit 0 _ _ _ _ run stepped commits (Domain.natural.direct 1 1 1)).mpr
    (by decide +kernel)
  exact absurd live (by decide +kernel)

end Kestrel.AssertionStore
