import Kestrel.Base.Run
import Kestrel.Storage.GovernedCommits

/-!
# Interleavings of governed writes

What a governed write has read stays what the tables say for as long as their generation is the
one it read. So a commit at that generation commits the graph that was validated, whatever was
committed in between.
-/

namespace Kestrel.AssertionStore

open WriteCall Ledger

variable {D : Domain} {G : Governance D}

def WritePhase.Current (write : GovernedWrite D) (store : Store D) : WritePhase G → Prop
  | .relookup _ generation current =>
    generation ≤ store.generation ∧
      (store.generation = generation → store.completeActiveAssertions = current)
  | .plan _ generation => generation ≤ store.generation
  | .checkpoint _ generation postState =>
    generation ≤ store.generation ∧
      (store.generation = generation → write.postState store = .ok postState)
  | .commit _ generation postState _ =>
    generation ≤ store.generation ∧
      (store.generation = generation → write.postState store = .ok postState)
  | _ => True

def WriteCall.Answered (call : WriteCall G) (report : ShaclValidationReport G)
    (written : Written D) : Prop :=
  call.phase = .returned (.accepted report written)

def Ledger.Records (ledger : Ledger G) (operationId : G.OperationId) (reportId : G.ReportId)
    (receipt : Receipt D) : Prop :=
  ledger.Taken operationId ∧ ∀ row, ledger.operations operationId = some row →
    row.receipt = receipt ∧ row.validationReportId = some reportId

def WriteCall.CommitsTo (call : WriteCall G) (postState : List (Assertion D))
    (report : ShaclValidationReport G) (written : Written D) (phase : WritePhase G) : Prop :=
  (∃ attempt generation, call.phase = .commit attempt generation postState report) ∧
    phase = .returned (.accepted report written)

section Calls

variable {call : WriteCall G} {ledger : Ledger G} {supply : Supply D} {validator : Validator G}
  {attempt generation : ℕ} {report : ShaclValidationReport G} {written : Written D}

theorem completeActiveAssertions_of_sameGraph {before after : Store D}
    (same : Store.SameGraph before after) :
    after.completeActiveAssertions = before.completeActiveAssertions := by
  unfold Store.completeActiveAssertions Store.currentRows
  rw [same.revisions, same.currents]

theorem WritePhase.Current.fenced {write : GovernedWrite D} {before after : Store D}
    {phase : WritePhase G} (current : phase.Current write before)
    (fences : Fences before after) : phase.Current write after := by
  have later : before.generation ≤ after.generation := by
    rcases fences with advanced | ⟨same, _⟩
    · exact Nat.le_of_lt advanced
    · exact Nat.le_of_eq same.symm
  have unmoved : ∀ generation, generation ≤ before.generation → after.generation = generation →
      before.generation = generation ∧ Store.SameGraph before after := by
    intro generation reached same
    rcases fences with advanced | ⟨kept, graph⟩
    · omega
    · exact ⟨kept.symm.trans same, graph⟩
  cases phase with
  | relookup attempt generation current' =>
    refine ⟨Nat.le_trans current.1 later, ?_⟩
    intro same
    obtain ⟨known, graph⟩ := unmoved generation current.1 same
    rw [completeActiveAssertions_of_sameGraph graph]
    exact current.2 known
  | plan attempt generation => exact Nat.le_trans current later
  | checkpoint attempt generation postState | commit attempt generation postState report =>
    refine ⟨Nat.le_trans current.1 later, ?_⟩
    intro same
    obtain ⟨known, graph⟩ := unmoved generation current.1 same
    rw [graph.postState]
    exact current.2 known
  | _ => trivial

theorem current_answerOr {next : WritePhase G} (current : next.Current call.write ledger.store) :
    (call.answerOr ledger next).Current call.write ledger.store := by
  unfold answerOr
  split
  · exact current
  · trivial
  · trivial

theorem current_retry : (call.retry attempt).Current call.write ledger.store := by
  unfold retry
  split_ifs <;> trivial

variable {postState : List (Assertion D)}

theorem current_judge (reached : generation ≤ ledger.store.generation)
    (current : ledger.store.generation = generation →
      call.write.postState ledger.store = .ok postState) :
    (call.judge validator attempt generation postState).Current call.write ledger.store := by
  unfold judge
  dsimp only
  split_ifs
  · exact ⟨reached, current⟩
  · trivial

theorem current_advance (current : call.phase.Current call.write ledger.store) :
    (call.advance supply validator ledger).2.Current call.write
      (call.advance supply validator ledger).1.store := by
  unfold advance
  split
  · exact current_answerOr trivial
  · exact ⟨Nat.le_refl _, fun _ => rfl⟩
  · rename_i attempt generation snapshot phase
    rw [phase] at current
    apply current_answerOr
    unfold proceed
    cases kind : call.write with
    | put assertion sources =>
      dsimp only
      split_ifs
      · trivial
      · rw [← kind]
        refine current_judge current.1 ?_
        intro same
        rw [kind, GovernedWrite.postState, current.2 same]
    | supersede expected replacement sources | restore expected replacement sources =>
      exact current.1
  · rename_i attempt generation phase
    rw [phase] at current
    split
    · rename_i postState planned
      exact ⟨current, fun _ => planned⟩
    · trivial
    · trivial
  · exact current_answerOr trivial
  · rename_i attempt generation postState phase
    rw [phase] at current
    split_ifs
    · exact current_retry
    · exact current_judge current.1 current.2
  · split
    · split_ifs <;> trivial
    · exact current_retry
    · trivial
  · exact current_answerOr trivial
  · split <;> trivial
  · trivial

theorem advance_cases : (call.advance supply validator ledger).1 = ledger ∨
      (∃ attempt generation postState report committed written,
        call.phase = .commit attempt generation postState report ∧
        ledger.commitWithReport supply call.write call.operationId generation report =
          .ok (committed, written) ∧
        call.advance supply validator ledger = (committed,
          if written.idempotent then .confirm else .returned (.accepted report written))) ∨
      ∃ report retained, ledger.persistReport report none = .ok retained ∧
        call.advance supply validator ledger = (retained, .returned (.rejected report)) := by
  unfold advance
  cases phase : call.phase with
  | plan attempt generation =>
    left
    dsimp only
    split <;> rfl
  | checkpoint attempt generation postState =>
    left
    dsimp only
    split_ifs <;> rfl
  | commit attempt generation postState report =>
    dsimp only
    split
    · rename_i committed written gone
      exact .inr (.inl ⟨attempt, generation, postState, report, committed, written, rfl, gone, rfl⟩)
    · exact .inl rfl
    · exact .inl rfl
  | retain report =>
    dsimp only
    split
    · rename_i retained persisted
      exact .inr (.inr ⟨report, retained, persisted, rfl⟩)
    · exact .inl rfl
  | _ => exact .inl rfl

theorem evolves_advance (sound : ledger.Sound) :
    Evolves ledger (call.advance supply validator ledger).1 ∧
      Keeps ledger (call.advance supply validator ledger).1 := by
  rcases @advance_cases _ _ call ledger supply validator with same |
    ⟨_, _, _, _, committed, written, _, gone, advanced⟩ | ⟨_, retained, persisted, advanced⟩
  · rw [same]
    exact ⟨sound.evolves, .refl ledger⟩
  · rw [advanced]
    rcases commitWithReport_eq_ok gone with ⟨rfl, _⟩ | commits
    · exact ⟨sound.evolves, .refl _⟩
    · exact ⟨commits.evolves sound, commits.keeps⟩
  · rw [advanced]
    have persists := persists_persistReport persisted
    exact ⟨persists.evolves sound, persists.keeps⟩

theorem store_advance : (call.advance supply validator ledger).1.store = ledger.store ∨
      ∃ postState report written, call.CommitsTo postState report written
        (call.advance supply validator ledger).2 := by
  rcases @advance_cases _ _ call ledger supply validator with same |
    ⟨attempt, generation, postState, report, committed, written, phase, gone, advanced⟩ |
    ⟨_, retained, persisted, advanced⟩
  · exact .inl (congrArg store same)
  · rw [advanced]
    rcases commitWithReport_eq_ok gone with ⟨same, _⟩ | commits
    · exact .inl (congrArg store same)
    · rcases GovernedWrite.progresses_apply commits.applied with ⟨same, _⟩ | ⟨_, new⟩
      · exact .inl same
      · refine .inr ⟨postState, report, written, ⟨attempt, generation, phase⟩, ?_⟩
        rw [new]
        rfl
  · rw [advanced]
    exact .inl (persists_persistReport persisted).store

theorem replayGoverned_eq_ok
    (replayed : ledger.replayGoverned call.write call.operationId = .ok (some (report, written))) :
    ∃ row, ledger.operations call.operationId = some row ∧
      row.receipt.purpose = call.write.purpose ∧
      ledger.validationReportFromReceipt row = .ok report ∧
      replay ledger.store row.receipt = .ok written := by
  simp only [replayGoverned, Except.bind_eq_ok] at replayed
  obtain ⟨_, _, found, looked, replayed⟩ := replayed
  cases found with
  | none => cases replayed
  | some row =>
    simp only [Except.bind_eq_ok] at replayed
    obtain ⟨_, reported, _, again, _, _, replayed⟩ := replayed
    cases replayed
    obtain ⟨stored, purpose, _⟩ := operation_eq_some.mp looked
    exact ⟨row, stored, purpose, reported, again⟩

theorem records_of_replay (sound : ledger.Sound)
    (replayed : ledger.replayGoverned call.write call.operationId = .ok (some (report, written))) :
    ledger.Records call.operationId report.reportId (call.write.receipt written) := by
  obtain ⟨row, stored, purpose, reported, again⟩ := replayGoverned_eq_ok replayed
  refine ⟨.inl (by rw [stored]; exact Option.some_ne_none row), ?_⟩
  intro other present
  rw [stored] at present
  cases present
  refine ⟨(receipt_of_replay sound.linked again purpose).symm, ?_⟩
  unfold validationReportFromReceipt at reported
  split at reported
  · cases reported
  · rename_i reportId named
    split at reported
    · cases reported
    · rename_i other kept
      cases reported
      rw [named, sound.reported reportId report kept]

theorem Ledger.Commits.records (new : written.idempotent = false) {before after : Ledger G}
    {operationId : G.OperationId}
    (commits : Commits supply call.write operationId generation report before after
      written) :
    after.Records operationId report.reportId (call.write.receipt written) := by
  have stored : after.operations operationId = some
      (writeRow supply call.write report.reportId before.store written) := by
    rw [commits.operations, new]
    exact Function.update_self ..
  refine ⟨.inl (by rw [stored]; exact Option.some_ne_none _), ?_⟩
  intro row present
  rw [stored] at present
  cases present
  exact ⟨rfl, rfl⟩

theorem retry_ne_accepted : call.retry attempt ≠ .returned (.accepted report written) := by
  unfold retry
  split_ifs <;> exact fun same => nomatch same

theorem judge_ne_accepted :
    call.judge validator attempt generation postState ≠ .returned (.accepted report written) := by
  unfold judge
  dsimp only
  split_ifs <;> exact fun same => nomatch same

theorem proceed_ne_accepted {current : List (Assertion D)} :
    call.proceed validator attempt generation current ≠ .returned (.accepted report written) := by
  unfold proceed
  split
  · split_ifs
    · exact fun same => nomatch same
    · exact judge_ne_accepted
  · exact fun same => nomatch same

theorem replayed_of_answerOr (next : WritePhase G)
    (distinct : next ≠ .returned (.accepted report written))
    (answered : call.answerOr ledger next = .returned (.accepted report written)) :
    ledger.replayGoverned call.write call.operationId = .ok (some (report, written)) := by
  unfold answerOr at answered
  split at answered
  · exact absurd answered distinct
  · rename_i found
    cases answered
    exact found
  · cases answered

theorem commits_advance {held : ShaclValidationReport G}
    (phase : call.phase = .commit attempt generation postState held)
    (answered : (call.advance supply validator ledger).2 = .returned (.accepted report written)) :
    report = held ∧ written.idempotent = false ∧
      Commits supply call.write call.operationId generation report ledger
        (call.advance supply validator ledger).1 written := by
  unfold advance at answered ⊢
  rw [phase] at answered ⊢
  dsimp only at answered ⊢
  split at answered
  · rename_i committed written gone
    split_ifs at answered with repeated
    cases answered
    rcases commitWithReport_eq_ok gone with ⟨_, again⟩ | commits
    · exact absurd again repeated
    · exact ⟨rfl, Bool.not_eq_true _ ▸ repeated, commits⟩
  · exact absurd answered retry_ne_accepted
  · cases answered

theorem answered_advance
    (answered : (call.advance supply validator ledger).2 = .returned (.accepted report written)) :
    ((call.advance supply validator ledger).1 = ledger ∧ (call.Answered report written ∨
        ledger.replayGoverned call.write call.operationId = .ok (some (report, written)))) ∨
      ∃ attempt generation postState, call.phase = .commit attempt generation postState report ∧
        Commits supply call.write call.operationId generation report ledger
          (call.advance supply validator ledger).1 written ∧ written.idempotent = false := by
  cases phase : call.phase with
  | lookup =>
    rw [advance, phase] at answered ⊢
    exact .inl ⟨rfl, .inr (replayed_of_answerOr (.snapshot 0) (fun same => nomatch same) answered)⟩
  | snapshot attempt =>
    rw [advance, phase] at answered ⊢
    cases answered
  | relookup attempt generation current =>
    rw [advance, phase] at answered ⊢
    exact .inl ⟨rfl, .inr (replayed_of_answerOr _ proceed_ne_accepted answered)⟩
  | plan attempt generation | retain held =>
    rw [advance, phase] at answered ⊢
    dsimp only at answered
    split at answered <;> cases answered
  | refused | confirm =>
    rw [advance, phase] at answered ⊢
    exact .inl ⟨rfl, .inr (replayed_of_answerOr (fail _) (fun same => nomatch same) answered)⟩
  | checkpoint attempt generation postState =>
    rw [advance, phase] at answered ⊢
    dsimp only at answered
    split_ifs at answered
    · exact absurd answered retry_ne_accepted
    · exact absurd answered judge_ne_accepted
  | commit attempt generation postState held =>
    obtain ⟨rfl, new, commits⟩ := commits_advance phase answered
    exact .inr ⟨attempt, generation, postState, rfl, commits, new⟩
  | returned outcome =>
    rw [advance, phase] at answered ⊢
    cases answered
    exact .inl ⟨rfl, .inl phase⟩

end Calls

theorem evolves_validation {call : ValidationCall G} {ledger : Ledger G} {supply : Supply D}
    {validator : Validator G} (sound : ledger.Sound)
    (settled : ∀ attempt report revisions, call.phase = .settle attempt report revisions →
      report.targets = [] → (ledger.store.planDependentCurrentRevisions []).1 = []) :
    Evolves ledger (call.advance supply validator ledger).1 ∧
      Keeps ledger (call.advance supply validator ledger).1 := by
  unfold ValidationCall.advance
  cases phase : call.phase with
  | survey attempt =>
    split_ifs <;> exact ⟨sound.evolves, .refl ledger⟩
  | select attempt generation | returned outcome => exact ⟨sound.evolves, .refl ledger⟩
  | settle attempt report revisions =>
    dsimp only
    split_ifs
    · split
      · rename_i persisted persists
        simp only [persistReportAt, Except.bind_eq_ok] at persists
        obtain ⟨_, _, persists⟩ := persists
        have kept := persists_persistReport persists
        exact ⟨kept.evolves sound, kept.keeps⟩
      · exact ⟨sound.evolves, .refl ledger⟩
    all_goals
      split
      · rename_i repaired repairs
        exact evolves_persistReportAndQuarantine sound
          (settled attempt report revisions phase) repairs
      all_goals exact ⟨sound.evolves, .refl ledger⟩

namespace Service

variable {before after service : Service G} {event : ServiceEvent G}

/-- The ledger is sound, what the calls have read at the current generation is what it says, and
the accepted answers of one operation carry one receipt. -/
structure Sound (service : Service G) : Prop where
  ledger : service.ledger.Sound
  current : ∀ id call, service.writes id = some call →
    call.phase.Current call.write service.ledger.store
  answered : ∀ id call report written, service.writes id = some call →
    call.Answered report written →
    service.ledger.Records call.operationId report.reportId (call.write.receipt written)
  agree : ∀ id other call call' report report' written written',
    service.writes id = some call → service.writes other = some call' →
    call.Answered report written → call'.Answered report' written' →
    call.operationId = call'.operationId →
    report.reportId = report'.reportId ∧ call.write.receipt written = call'.write.receipt written'

theorem empty_sound : (empty : Service G).Sound where
  ledger := Ledger.empty_sound
  current := fun _ _ impossible => nomatch impossible
  answered := fun _ _ _ _ impossible => nomatch impossible
  agree := fun _ _ _ _ _ _ _ _ impossible => nomatch impossible

end Service

/-- No supersession takes over the identity of an active assertion that it does not withdraw, and
no report without targets is quarantined beside a conclusion that nothing grounds. -/
def ServiceEvent.Clear (before : Service G) : ServiceEvent G → Prop
  | .advanceWrite id _ _ => ∀ call attempt generation postState report,
      before.writes id = some call → call.phase = .commit attempt generation postState report →
      call.write.Untaken before.ledger.store
  | .advanceValidation id _ _ => ∀ call attempt report revisions,
      before.validations id = some call → call.phase = .settle attempt report revisions →
      report.targets = [] → (before.ledger.store.planDependentCurrentRevisions []).1 = []
  | .mutate _ mutation _ => before.ledger.store.Settled mutation
  | _ => True

def ClearStep : Service G → ServiceEvent G → Service G → Prop :=
  Transition.Guarded ServiceStep fun before event => event.Clear before

namespace Service

variable {before after service : Service G} {event : ServiceEvent G}

/-- What a step does: the ledger evolves, and at most one write call starts or moves on. -/
structure Moves (before : Service G) (event : ServiceEvent G) (after : Service G) : Prop where
  evolves : Ledger.Evolves before.ledger after.ledger
  keeps : (∀ supply limit operationId assertionId,
    event ≠ .erase supply limit operationId assertionId) → Ledger.Keeps before.ledger after.ledger
  writes : after.writes = before.writes ∨
    (∃ id write operationId maxCommitRetries, before.writes id = none ∧
      after.writes = Function.update before.writes id
        (some (.begin write operationId maxCommitRetries))) ∨
    ∃ id supply validator call, event = .advanceWrite id supply validator ∧
      before.writes id = some call ∧
      after.ledger = (call.advance supply validator before.ledger).1 ∧
      after.writes = Function.update before.writes id
        (some { call with phase := (call.advance supply validator before.ledger).2 })

theorem moves_step (sound : before.ledger.Sound) (stepped : ClearStep before event after) :
    Moves before event after := by
  obtain ⟨clear, fresh, stepped⟩ := stepped
  cases event with
  | beginWrite id write operationId maxCommitRetries =>
    unfold Service.step at stepped
    dsimp only at stepped
    split at stepped
    · cases stepped
    · rename_i absent
      cases stepped
      exact ⟨sound.evolves, fun _ => .refl _,
        .inr (.inl ⟨id, write, operationId, maxCommitRetries, absent, rfl⟩)⟩
  | advanceWrite id supply validator =>
    obtain ⟨call, found, stepped⟩ := Option.bind_eq_some_iff.mp stepped
    cases stepped
    obtain ⟨evolves, keeps⟩ := @evolves_advance _ _ call before.ledger supply validator sound
    exact ⟨evolves, fun _ => keeps, .inr (.inr ⟨id, supply, validator, call, rfl, found, rfl, rfl⟩)⟩
  | beginValidation id assertionIds maxQuarantineRetries boundedFocusOnly =>
    unfold Service.step at stepped
    dsimp only at stepped
    split at stepped
    · cases stepped
    · cases stepped
      exact ⟨sound.evolves, fun _ => .refl _, .inl rfl⟩
  | advanceValidation id supply validator =>
    obtain ⟨call, found, stepped⟩ := Option.bind_eq_some_iff.mp stepped
    cases stepped
    obtain ⟨evolves, keeps⟩ := @evolves_validation _ _ call before.ledger supply validator sound
      fun attempt report revisions => clear call attempt report revisions found
    exact ⟨evolves, fun _ => keeps, .inl rfl⟩
  | mutate supply mutation recorded =>
    unfold Service.step at stepped
    dsimp only at stepped
    split at stepped
    · rename_i ledger mutated
      cases stepped
      obtain ⟨evolves, keeps⟩ := evolves_mutate sound clear mutated
      exact ⟨evolves, fun _ => keeps, .inl rfl⟩
    · cases stepped
  | erase supply limit operationId assertionId =>
    unfold Service.step at stepped
    dsimp only at stepped
    split at stepped
    · rename_i ledger erased
      cases stepped
      exact ⟨evolves_erase sound fresh erased,
        fun kept => absurd rfl (kept supply limit operationId assertionId), .inl rfl⟩
    · cases stepped

theorem Sound.evolve (sound : before.Sound) (evolves : Evolves before.ledger after.ledger)
    (writes : after.writes = before.writes) : after.Sound where
  ledger := evolves.sound
  current := by
    rw [writes]
    exact fun id call stored => (sound.current id call stored).fenced evolves.fences
  answered := by
    rw [writes]
    intro id call report written stored answered
    obtain ⟨taken, known⟩ := sound.answered id call report written stored answered
    refine ⟨evolves.taken _ taken, ?_⟩
    intro row present
    rcases evolves.rows _ _ present with kept | vacant
    · exact known row kept
    · exact absurd taken vacant
  agree := by
    rw [writes]
    exact sound.agree

theorem Sound.update {id : ℕ} {call : WriteCall G} (sound : before.Sound)
    (evolves : Evolves before.ledger after.ledger)
    (writes : after.writes = Function.update before.writes id (some call))
    (current : call.phase.Current call.write after.ledger.store)
    (answered : ∀ report written, call.Answered report written →
      after.ledger.Records call.operationId report.reportId (call.write.receipt written) ∧
      ∀ other call' report' written', before.writes other = some call' →
        call'.Answered report' written' → call'.operationId = call.operationId →
        report'.reportId = report.reportId ∧
          call'.write.receipt written' = call.write.receipt written) :
    after.Sound := by
  have rest : ({ after with writes := before.writes } : Service G).Sound :=
    sound.evolve evolves rfl
  have stored : ∀ other call', after.writes other = some call' →
      call' = call ∨ before.writes other = some call' := by
    intro other call' found
    rw [writes] at found
    by_cases own : other = id
    · rw [own, Function.update_self] at found
      exact .inl (Option.some.inj found).symm
    · rw [Function.update_of_ne own] at found
      exact .inr found
  refine ⟨rest.ledger, ?_, ?_, ?_⟩
  · intro other call' found
    rcases stored other call' found with rfl | held
    · exact current
    · exact rest.current other call' held
  · intro other call' report written found accepted
    rcases stored other call' found with rfl | held
    · exact (answered report written accepted).1
    · exact rest.answered other call' report written held accepted
  · intro first second call' call'' report report' written written' found found' accepted
      accepted' same
    rcases stored first call' found with rfl | held
    · rcases stored second call'' found' with rfl | held
      · unfold Answered at accepted accepted'
        rw [accepted] at accepted'
        cases accepted'
        exact ⟨rfl, rfl⟩
      · obtain ⟨named, receipt⟩ := (answered report written accepted).2 second call'' report'
          written' held accepted' same.symm
        exact ⟨named.symm, receipt.symm⟩
    · rcases stored second call'' found' with rfl | held'
      · exact (answered report' written' accepted').2 first call' report written held accepted same
      · exact sound.agree first second call' call'' report report' written written' held held'
          accepted accepted' same

theorem Sound.answered_advance {id : ℕ} {call : WriteCall G} {supply : Supply D}
    {validator : Validator G} (sound : service.Sound) (found : service.writes id = some call)
    {report : ShaclValidationReport G} {written : Written D}
    (answered : (call.advance supply validator service.ledger).2 =
      .returned (.accepted report written)) :
    (call.advance supply validator service.ledger).1.Records call.operationId report.reportId
        (call.write.receipt written) ∧
      ∀ other call' report' written', service.writes other = some call' →
        call'.Answered report' written' → call'.operationId = call.operationId →
        report'.reportId = report.reportId ∧
          call'.write.receipt written' = call.write.receipt written := by
  rcases AssertionStore.answered_advance answered with ⟨same, repeated | replayed⟩ |
    ⟨attempt, generation, postState, _, commits, new⟩
  · rw [same]
    refine ⟨sound.answered id call report written found repeated, ?_⟩
    intro other call' report' written' found' answered' operation
    exact sound.agree other id call' call report' report written' written found' found answered'
      repeated operation
  · rw [same]
    have records := records_of_replay sound.ledger replayed
    refine ⟨records, ?_⟩
    intro other call' report' written' found' answered' operation
    obtain ⟨row, stored, _⟩ := replayGoverned_eq_ok replayed
    have known := sound.answered other call' report' written' found' answered'
    rw [operation] at known
    obtain ⟨receipt, named⟩ := records.2 row stored
    obtain ⟨receipt', named'⟩ := known.2 row stored
    rw [named] at named'
    exact ⟨(Option.some.inj named').symm, receipt'.symm.trans receipt⟩
  · refine ⟨commits.records new, ?_⟩
    intro other call' report' written' found' answered' operation
    have known := sound.answered other call' report' written' found' answered'
    rw [operation] at known
    exact absurd known.1 commits.vacant

/-- **Every clear step keeps the service sound.** -/
theorem Sound.step (sound : before.Sound) (stepped : ClearStep before event after) :
    after.Sound := by
  obtain ⟨evolves, _, writes⟩ := moves_step sound.ledger stepped
  rcases writes with same | ⟨id, write, operationId, maxCommitRetries, _, begun⟩ |
    ⟨id, supply, validator, call, _, found, ledger, advanced⟩
  · exact sound.evolve evolves same
  · refine sound.update evolves begun ?_ ?_
    · unfold begin
      split_ifs <;> trivial
    · intro report written answered
      unfold Answered begin at answered
      split_ifs at answered
      cases answered
  · refine sound.update evolves advanced ?_ ?_
    · rw [ledger]
      exact current_advance (sound.current id call found)
    · rw [ledger]
      exact fun report written answered => sound.answered_advance found answered

theorem Sound.run {events : List (ServiceEvent G)} (sound : before.Sound)
    (run : Transition.Run ClearStep before events after) : after.Sound :=
  run.invariant (fun _ _ _ valid stepped => valid.step stepped) sound

end Service

end Kestrel.AssertionStore
