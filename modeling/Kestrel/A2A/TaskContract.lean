import Kestrel.A2A.TaskRuns

/-!
# What the shared task record promises

A row that ended is not changed again, nothing committed disappears, an overtaken turn commits
nothing, and an outcome that extends its baseline is refused only where it is contested. This holds
over runs whose calls bring messages and artifacts with identities of their own.
-/

namespace Kestrel.A2A.TaskStore

open List Except Transition Call

def reached (sdk : Sdk) (calls : List Call) : Tables := calls.foldl (Call.apply sdk) Tables.empty

/-- The signal, the task and the identity of a call that may be a worker's turn. -/
def Action.writer : Action → Option (Option TurnSignal × String × String)
  | .saveRecipientLifecycle signal task _ recipient _
  | .saveRecipientTerminalOutcome signal task _ recipient _ => some (signal, task.id, recipient)
  | .updateStatus signal taskId _ recipient _
  | .addArtifact signal taskId _ recipient _ => some (signal, taskId, recipient)
  | .cancelIfAuthorized signal taskId actor _ => some (signal, taskId, actor)
  | _ => none

structure TurnSignal.Admitted (signal : TurnSignal) (taskId agentId : String) (revision : ℕ) :
    Prop where
  source : signal.source = "a2a.task_submitted"
  target : signal.targetAgent = agentId
  task : signal.taskId = some taskId
  revision : signal.inputRevision = some (.ofNat revision)

/-- What a recipient proposes to commit. -/
structure Proposal where
  signal : Option TurnSignal
  outcome : TaskRecord
  baseline : TaskRecord
  recipientAgentId : String
  expectedStates : List TaskState
  operationId : Option String

/-- The proposal of a call that passes the checks of its entry point. -/
def Action.proposal : Action → Option Proposal
  | .saveRecipientLifecycle signal task baseline recipient expected =>
    if task.status.state ≠ .canceled ∧ expected.isTerminal = false then
      some ⟨signal, task, baseline, recipient, [expected], none⟩
    else none
  | .saveRecipientTerminalOutcome signal task baseline recipient operationId =>
    if task.status.state ∈ [TaskState.completed, .failed, .rejected] ∧ operationId ≠ "" then
      some ⟨signal, task, baseline, recipient, liveStates, some operationId⟩
    else none
  | _ => none

/-- A well-formed proposal, and a row that its predicate selects. -/
structure Proposal.Admitted (sdk : Sdk) (scope : NativeRecipientScope) (proposal : Proposal)
    (revision : Option ℕ) (row : TaskRow) : Prop where
  recipient : Text.isBlank proposal.recipientAgentId = false
  valid : sdk.validTask proposal.outcome = true
  timestamp : ∀ stamp ∈ proposal.outcome.status.timestamp, sdk.validTimestamp stamp = true
  concrete : (taskStateLabel proposal.outcome.status.state).isSome = true
  expected : ∀ state ∈ proposal.expectedStates, (taskStateLabel state).isSome = true
  turn : inputRevisionPredicate proposal.signal proposal.outcome.id proposal.recipientAgentId =
    .ok revision
  id : row.id = proposal.outcome.id
  inScope : row.inScope scope = true
  context : row.sessionId = proposal.outcome.contextId
  addressed : row.recipientAgentId = proposal.recipientAgentId
  state : row.status ∈ proposal.expectedStates
  current : row.admits revision = true

structure Settles (sdk : Sdk) (before : List Call) (call : Call) (row : TaskRow) : Prop where
  unsettled : ∀ old ∈ (reached sdk before).tasks, old.id = row.id → old.status.isTerminal = false
  written : row ∈ (reached sdk (before ++ [call])).tasks
  receipt : row.receipt = call.action.receipt

/-- The promises of the shared record over a sequence of calls. -/
structure RecordsKept (sdk : Sdk) (calls : List Call) : Prop where
  /-- A row that ended is never changed. -/
  settled : ∀ before after, calls = before ++ after → ∀ row ∈ (reached sdk before).tasks,
    row.status.isTerminal = true → row ∈ (reached sdk calls).tasks ∧
      ∀ later ∈ (reached sdk calls).tasks, later.id = row.id → later = row
  /-- One operation ended it, and the row records that one. -/
  winner : ∀ row ∈ (reached sdk calls).tasks, row.status.isTerminal = true →
    ∃ before call after, calls = before ++ call :: after ∧ Settles sdk before call row ∧
      ∀ before' call' after', calls = before' ++ call' :: after' →
        Settles sdk before' call' row → before' = before
  /-- The history only grows, and artifacts keep their places. -/
  kept : ∀ before after, calls = before ++ after → ∀ row ∈ (reached sdk before).tasks,
    ∃ later ∈ (reached sdk calls).tasks, later.id = row.id ∧ row.history <+: later.history ∧
      row.artifacts.map Artifact.artifactId <+: later.artifacts.map Artifact.artifactId
  /-- Message and artifact identities are present and unique. -/
  identified : ∀ row ∈ (reached sdk calls).tasks,
    Identified Message.messageId row.history ∧ Identified Artifact.artifactId row.artifacts
  /-- A turn that was admitted for another input revision commits nothing. -/
  stale : ∀ before call after, calls = before ++ call :: after →
    ∀ signal taskId agentId revision, call.action.writer = some (some signal, taskId, agentId) →
      signal.Admitted taskId agentId revision →
      (∀ row ∈ (reached sdk before).tasks, row.id = taskId → row.inputRevision ≠ revision) →
      reached sdk (before ++ [call]) = reached sdk before
  /-- An outcome that extends an earlier state of the row commits unless it is contested. -/
  outcomes : ∀ before call after, calls = before ++ call :: after →
    ∀ proposal revision row, call.action.proposal = some proposal →
      row ∈ (reached sdk before).tasks → proposal.Admitted sdk call.scope revision row →
      (∃ earlier rest, before = earlier ++ rest ∧
        ∃ old ∈ (reached sdk earlier).tasks, proposal.baseline = old.task) →
      TaskRecord.Extends proposal.baseline proposal.outcome →
      (∃ committed tables,
        call.run sdk (reached sdk before) = .ok (.committed (some committed), tables)) ∨
      Contested row.task proposal.baseline proposal.outcome

/-! ## Overtaken turns -/

section Stale

variable {sdk : Sdk} {scope : NativeRecipientScope} {signal : TurnSignal} {tables after : Tables}
  {taskId agentId : String} {revision : ℕ}

theorem TurnSignal.Admitted.predicate (admitted : signal.Admitted taskId agentId revision) :
    inputRevisionPredicate (some signal) taskId agentId = .ok (some revision) := by
  unfold inputRevisionPredicate
  simp [admitted.source, admitted.target, admitted.task, admitted.revision]

theorem TaskRow.admits_stale {row : TaskRow} (overtaken : row.inputRevision ≠ revision) :
    row.admits (some revision) = false := by
  simp [admits, overtaken]

theorem find?_stale {predicate : TaskRow → Bool}
    (overtaken : ∀ row ∈ tables.tasks, row.id = taskId → row.inputRevision ≠ revision)
    (keyed : ∀ row, predicate row = true → row.id = taskId ∧ row.admits (some revision) = true) :
    tables.tasks.find? predicate = none := by
  rw [find?_eq_none]
  intro row stored selected
  obtain ⟨named, current⟩ := keyed row selected
  rw [TaskRow.admits_stale (overtaken row stored named)] at current
  cases current

variable (admitted : signal.Admitted taskId agentId revision)
  (overtaken : ∀ row ∈ tables.tasks, row.id = taskId → row.inputRevision ≠ revision)

include admitted overtaken

theorem saveRecipientLifecycleFromStates_stale {task baseline : TaskRecord}
    {expectedStates : List TaskState} {operationId : Option String} {answer : Option TaskRecord}
    (named : task.id = taskId)
    (saved : saveRecipientLifecycleFromStates sdk scope (some signal) task baseline agentId
      expectedStates operationId tables = .ok (answer, after)) : after = tables := by
  subst named
  unfold saveRecipientLifecycleFromStates at saved
  simp only [bind_eq_ok, require_eq_ok, exists_const, admitted.predicate, ok.injEq] at saved
  obtain ⟨_, _, _, _, _, _, _, rfl, expected, _, saved⟩ := saved
  rw [find?_stale overtaken] at saved
  · cases saved
    rfl
  · intro row selected
    simp only [Bool.and_eq_true, decide_eq_true_eq] at selected
    exact ⟨selected.1.1.1.1.1, selected.2⟩

theorem updateStatus_stale {status : TaskStatus} {expectedState : TaskState} {answer : Bool}
    (updated : updateStatus sdk scope (some signal) taskId status agentId expectedState tables =
      .ok (answer, after)) : after = tables := by
  unfold updateStatus at updated
  simp only [bind_eq_ok, require_eq_ok, exists_const, admitted.predicate, ok.injEq] at updated
  obtain ⟨_, _, _, _, _, _, _, rfl, _, _, expected, _, updated⟩ := updated
  cases updated
  rw [Rows.update_eq_self]
  rw [any_eq_false]
  intro row stored selected
  simp only [Bool.and_eq_true, decide_eq_true_eq] at selected
  rw [TaskRow.admits_stale (overtaken row stored selected.1.1.1.1)] at selected
  cases selected.2

theorem addArtifact_stale {artifact : Artifact} {append : Bool}
    (added : addArtifact sdk scope (some signal) taskId artifact agentId append tables =
      .ok after) : after = tables := by
  unfold addArtifact at added
  simp only [bind_eq_ok, require_eq_ok, exists_const, admitted.predicate, ok.injEq] at added
  obtain ⟨_, _, _, rfl, added⟩ := added
  rw [find?_stale overtaken] at added
  · cases added
  · intro row selected
    simp only [Bool.and_eq_true, decide_eq_true_eq] at selected
    exact ⟨selected.1.1.1, selected.2⟩

theorem cancelIfAuthorized_stale {cancellation : Cancellation} {answer : Option TaskRecord}
    (canceled : cancelIfAuthorized sdk scope (some signal) taskId agentId cancellation tables =
      .ok (answer, after)) : after = tables := by
  unfold cancelIfAuthorized at canceled
  simp only [bind_eq_ok, require_eq_ok, exists_const, admitted.predicate, ok.injEq] at canceled
  obtain ⟨_, _, _, _, _, _, rfl, canceled⟩ := canceled
  rw [find?_stale overtaken] at canceled
  · cases canceled
    rfl
  · intro row selected
    simp only [Bool.and_eq_true, decide_eq_true_eq] at selected
    exact ⟨selected.1.1.1.1.1, selected.2⟩

/-- A turn that was admitted for another input revision changes nothing. -/
theorem Call.apply_stale {call : Call}
    (writer : call.action.writer = some (some signal, taskId, agentId)) :
    call.apply sdk tables = tables := by
  unfold apply
  cases answered : call.run sdk tables with
  | error _ => rfl
  | ok answer =>
    obtain ⟨scope, action⟩ := call
    cases action with
    | create | recordInitialInput | appendCreatorInput => cases writer
    | saveRecipientLifecycle =>
      obtain ⟨⟨_, _⟩, saved, same⟩ := map_eq_ok.mp answered
      cases same
      cases writer
      unfold saveRecipientLifecycle at saved
      simp only [require_bind_eq_ok] at saved
      exact saveRecipientLifecycleFromStates_stale admitted overtaken rfl saved.2.2.2
    | saveRecipientTerminalOutcome =>
      obtain ⟨⟨_, _⟩, saved, same⟩ := map_eq_ok.mp answered
      cases same
      cases writer
      unfold saveRecipientTerminalOutcome at saved
      simp only [require_bind_eq_ok] at saved
      exact saveRecipientLifecycleFromStates_stale admitted overtaken rfl saved.2.2
    | updateStatus =>
      obtain ⟨⟨_, _⟩, updated, same⟩ := map_eq_ok.mp answered
      cases same
      cases writer
      exact updateStatus_stale admitted overtaken updated
    | addArtifact =>
      obtain ⟨_, added, same⟩ := map_eq_ok.mp answered
      cases same
      cases writer
      exact addArtifact_stale admitted overtaken added
    | cancelIfAuthorized =>
      obtain ⟨⟨_, _⟩, canceled, same⟩ := map_eq_ok.mp answered
      cases same
      cases writer
      exact cancelIfAuthorized_stale admitted overtaken canceled

end Stale

/-! ## Outcomes -/

section Outcomes

variable {sdk : Sdk} {scope : NativeRecipientScope} {tables : Tables} {row : TaskRow}
  {proposal : Proposal} {revision : Option ℕ}

theorem storedState_of_label {state : TaskState} (concrete : (taskStateLabel state).isSome = true) :
    storedState state = .ok state := by
  unfold storedState
  rw [require_bind_eq_ok]
  exact ⟨concrete, rfl⟩

theorem mapM_storedState_of_labels {states : List TaskState}
    (concrete : ∀ state ∈ states, (taskStateLabel state).isSome = true) :
    states.mapM storedState = .ok states := by
  obtain ⟨stored, mapped⟩ := exists_mapM_eq_ok fun state member =>
    ⟨state, storedState_of_label (concrete state member)⟩
  rw [mapped, mapM_storedState mapped]

theorem statusTimestamp_of_valid {status : TaskStatus}
    (valid : ∀ stamp ∈ status.timestamp, sdk.validTimestamp stamp = true) :
    statusTimestamp sdk status = .ok status.timestamp := by
  unfold statusTimestamp
  cases given : status.timestamp with
  | none => rfl
  | some stamp =>
    rw [given] at valid
    exact if_pos (valid stamp rfl)

theorem taskPayload_of_valid {task : TaskRecord} (valid : sdk.validTask task = true) :
    ∃ payload, taskPayload sdk task = .ok payload := by
  unfold taskPayload
  simp [require_bind_eq_ok, valid, pure, Except.pure]

theorem find?_of_selected {tasks : List TaskRow} (ids : (tasks.map TaskRow.id).Nodup)
    {predicate : TaskRow → Bool} (taskId : String)
    (keyed : ∀ row, predicate row = true → row.id = taskId) {row : TaskRow}
    (stored : row ∈ tasks) (selected : predicate row = true) :
    tasks.find? predicate = some row := by
  have isFound : (tasks.find? predicate).isSome = true :=
    find?_isSome.mpr ⟨row, stored, selected⟩
  obtain ⟨other, found⟩ := Option.isSome_iff_exists.mp isFound
  rw [found, eq_of_selected ids keyed found stored selected]

theorem Proposal.Admitted.commits (documented : sdk.Documented) (sound : Sound sdk tables)
    (admitted : proposal.Admitted sdk scope revision row) (stored : row ∈ tables.tasks)
    (baseline : sdk.validTask proposal.baseline = true) {merged : TaskRecord}
    (merges : mergeTaskOutcome row.task proposal.baseline proposal.outcome = .ok merged) :
    ∃ committed after, saveRecipientLifecycleFromStates sdk scope proposal.signal proposal.outcome
      proposal.baseline proposal.recipientAgentId proposal.expectedStates proposal.operationId
      tables = .ok (some committed, after) := by
  have valid := Merged.valid documented (Merged.of_merge merges)
    (sound.mergeable row stored).valid admitted.valid
  obtain ⟨payload, written⟩ := taskPayload_of_valid valid
  have nonempty : proposal.expectedStates ≠ [] := ne_nil_of_mem admitted.state
  have found : tables.tasks.find? (fun other : TaskRow => other.id = proposal.outcome.id &&
      other.inScope scope && other.sessionId = proposal.outcome.contextId &&
      other.recipientAgentId = proposal.recipientAgentId &&
      proposal.expectedStates.contains other.status && other.admits revision) = some row := by
    refine find?_of_selected sound.ids proposal.outcome.id (fun candidate passes => ?_) stored ?_
    · simp only [Bool.and_eq_true, decide_eq_true_eq] at passes
      exact passes.1.1.1.1.1
    · simp [admitted.id, admitted.inScope, admitted.context, admitted.addressed, admitted.state,
        admitted.current]
  unfold saveRecipientLifecycleFromStates
  simp only [require, admitted.recipient, nonempty, admitted.valid, baseline,
    statusTimestamp_of_valid admitted.timestamp, admitted.turn,
    mapM_storedState_of_labels admitted.expected, storedState_of_label admitted.concrete,
    ok_bind, if_true, ne_eq, not_false_eq_true, found, merges, written]
  exact ⟨_, _, rfl⟩

theorem Call.run_proposal {call : Call} (proposed : call.action.proposal = some proposal)
    (recipient : Text.isBlank proposal.recipientAgentId = false) :
    call.run sdk tables = (saveRecipientLifecycleFromStates sdk call.scope proposal.signal
      proposal.outcome proposal.baseline proposal.recipientAgentId proposal.expectedStates
      proposal.operationId tables).map (Prod.map .committed id) := by
  obtain ⟨scope, action⟩ := call
  cases action with
  | saveRecipientLifecycle =>
    simp only [Action.proposal] at proposed
    split_ifs at proposed with allowed
    cases proposed
    simp [run, saveRecipientLifecycle, require, recipient, allowed.1, allowed.2, ok_bind, ne_eq,
      not_false_eq_true]
  | saveRecipientTerminalOutcome =>
    simp only [Action.proposal] at proposed
    split_ifs at proposed with allowed
    cases proposed
    simp [run, saveRecipientTerminalOutcome, require, allowed.1, allowed.2, ok_bind, ne_eq,
      not_false_eq_true]
  | create | recordInitialInput | appendCreatorInput | updateStatus | addArtifact
  | cancelIfAuthorized => cases proposed

theorem Call.Distinct.uncrossed {call : Call} (distinct : call.Distinct tables)
    (proposed : call.action.proposal = some proposal) (stored : row ∈ tables.tasks)
    (named : row.id = proposal.outcome.id) : Uncrossed row.task proposal.outcome := by
  obtain ⟨scope, action⟩ := call
  cases action with
  | saveRecipientLifecycle | saveRecipientTerminalOutcome =>
    simp only [Action.proposal] at proposed
    split_ifs at proposed
    cases proposed
    exact distinct row stored named
  | create | recordInitialInput | appendCreatorInput | updateStatus | addArtifact
  | cancelIfAuthorized => cases proposed

end Outcomes

/-! ## The contract -/

section Runs

variable {sdk : Sdk} {source target : Tables} {calls : List Call}

theorem Sound.initial (sdk : Sdk) : Sound sdk Tables.empty :=
  ⟨nodup_nil, fun _ impossible => (nomatch impossible), fun _ impossible => (nomatch impossible)⟩

theorem Sound.run (documented : sdk.Documented) (sound : Sound sdk source) (run : Run
      (Guarded (ofFunction (apply sdk)) Distinct)
      source calls target) : Sound sdk target ∧ Evolves source target := by
  refine @invariant_of_guarded _ _ _ _
    (fun state => Sound sdk state ∧ Evolves source state) ?_ _ _ _ ⟨sound, .refl source⟩ run
  intro before call after held distinct stepped
  subst stepped
  have moves := call.moves documented held.1.ids distinct
  exact ⟨moves.sound held.1, held.2.trans moves.evolves⟩

theorem split_reached {before after : List Call} (run : Run
      (Guarded (ofFunction (apply sdk)) Distinct)
      Tables.empty (before ++ after) target) :
    Run (Guarded (ofFunction (apply sdk)) Distinct)
      Tables.empty before (reached sdk before) ∧
    Run (Guarded (ofFunction (apply sdk)) Distinct)
      (reached sdk before) after target := by
  obtain ⟨middle, left, right⟩ := run.split
  obtain rfl := left.eq_foldl
  exact ⟨left, right⟩

theorem reached_append (before : List Call) (call : Call) :
    reached sdk (before ++ [call]) = call.apply sdk (reached sdk before) := by
  simp [reached]

theorem exists_settles (documented : sdk.Documented) (run : Run
      (Guarded (ofFunction (apply sdk)) Distinct)
      Tables.empty calls target) :
    ∀ row ∈ target.tasks, row.status.isTerminal = true →
      ∃ before call after, calls = before ++ call :: after ∧ Settles sdk before call row := by
  have known : Sound sdk target ∧ target = reached sdk calls ∧ ∀ row ∈ target.tasks,
      row.status.isTerminal = true →
        ∃ before call after, calls = before ++ call :: after ∧ Settles sdk before call row := by
    refine @Run.history _ _ _ (fun labels state => Sound sdk state ∧
      state = reached sdk labels ∧ ∀ row ∈ state.tasks, row.status.isTerminal = true →
        ∃ before call after, labels = before ++ call :: after ∧ Settles sdk before call row)
      ?_ _ _ _ ⟨.initial sdk, rfl, fun _ impossible => (nomatch impossible)⟩ run
    intro labels state call after held stepped
    obtain ⟨sound, rfl, settles⟩ := held
    obtain ⟨distinct, rfl⟩ := stepped
    have moves := call.moves documented sound.ids distinct
    refine ⟨moves.sound sound, (reached_append labels call).symm, ?_⟩
    intro row stored ends
    obtain earlier | ⟨unsettled, receipt⟩ := moves.ended sound stored ends
    · obtain ⟨before, first, rest, rfl, settled⟩ := settles row earlier ends
      exact ⟨before, first, rest ++ [call], by simp, settled⟩
    · refine ⟨labels, call, [], by simp, unsettled, ?_, receipt⟩
      rw [reached_append]
      exact stored
  exact known.2.2

end Runs

/-- Every run of distinct calls keeps the promises of the shared record. -/
theorem task_record_kept (sdk : Sdk) (documented : sdk.Documented) (calls : List Call)
    (tables : Tables)
    (run : Transition.Run
      (Transition.Guarded (Transition.ofFunction (Call.apply sdk)) Call.Distinct)
      Tables.empty calls tables) : RecordsKept sdk calls := by
  obtain rfl := run.eq_foldl
  have sound := (Sound.run documented (.initial sdk) run).1
  have evolves : ∀ before after, calls = before ++ after →
      Evolves (reached sdk before) (reached sdk calls) := by
    intro before after split
    subst split
    obtain ⟨left, right⟩ := split_reached run
    exact (Sound.run documented (Sound.run documented (.initial sdk) left).1 right).2
  have settled : ∀ before after, calls = before ++ after → ∀ row ∈ (reached sdk before).tasks,
      row.status.isTerminal = true → row ∈ (reached sdk calls).tasks := by
    intro before after split row stored ended
    obtain ⟨later, found, continues⟩ := evolves before after split row stored
    exact continues.settled ended ▸ found
  refine {
    settled := ?_
    winner := ?_
    kept := ?_
    identified := ?_
    stale := ?_
    outcomes := ?_ }
  · intro before after split row stored ended
    have found := settled before after split row stored ended
    exact ⟨found, fun later known same => inj_on_of_nodup_map sound.ids known found same⟩
  · intro row stored ended
    obtain ⟨before, call, after, split, settles⟩ := exists_settles documented run row stored ended
    refine ⟨before, call, after, split, settles, ?_⟩
    -- Whichever of two such calls comes later starts from a state that already holds the row.
    have notLater : ∀ first call₁ rest second call₂ rest₂, calls = first ++ call₁ :: rest →
        calls = second ++ call₂ :: rest₂ → Settles sdk first call₁ row →
        Settles sdk second call₂ row → ¬ first.length < second.length := by
      intro first call₁ rest second call₂ rest₂ left right earlier later shorter
      have extends₁ : first ++ [call₁] <+: second := by
        refine prefix_of_prefix_length_le ⟨rest, by simp [left]⟩
          ⟨call₂ :: rest₂, right.symm⟩ ?_
        rw [length_append, length_singleton]
        omega
      obtain ⟨between, rfl⟩ := extends₁
      have middle : Evolves (reached sdk (first ++ [call₁]))
          (reached sdk (first ++ [call₁] ++ between)) := by
        rw [right] at run
        obtain ⟨run, _⟩ := split_reached run
        obtain ⟨left, right⟩ := split_reached run
        exact (Sound.run documented (Sound.run documented (.initial sdk) left).1 right).2
      obtain ⟨later', found, continues⟩ := middle row earlier.written
      obtain rfl := continues.settled ended
      have live := later.unsettled _ found rfl
      rw [ended] at live
      cases live
    intro before' call' after' split' settles'
    have same : before'.length = before.length := by
      have forward := notLater _ _ _ _ _ _ split split' settles settles'
      have backward := notLater _ _ _ _ _ _ split' split settles' settles
      omega
    exact (append_inj (split'.symm.trans split) same).1
  · intro before after split row stored
    obtain ⟨later, found, continues⟩ := evolves before after split row stored
    exact ⟨later, found, continues.id, continues.history, continues.artifacts⟩
  · intro row stored
    have mergeable := sound.mergeable row stored
    exact ⟨mergeable.messagesIdentified documented, mergeable.artifactsIdentified documented⟩
  · intro before call after _ signal taskId agentId revision writer admitted overtaken
    rw [reached_append]
    exact Call.apply_stale admitted overtaken writer
  · intro before call after split proposal revision row proposed stored admitted earlier extension
    subst split
    obtain ⟨left, right⟩ := split_reached run
    obtain ⟨earlierCalls, rest, rfl, old, known, same⟩ := earlier
    have current := (Sound.run documented (.initial sdk) left).1
    obtain ⟨oldRun, between⟩ := split_reached left
    have oldSound := (Sound.run documented (.initial sdk) oldRun).1
    have grown := (Sound.run documented oldSound between).2
    obtain ⟨later, found, continues⟩ := grown old known
    have oldId : old.id = proposal.outcome.id := by
      rw [extension.id, same]
      rfl
    obtain rfl : later = row := inj_on_of_nodup_map current.ids found stored
      (continues.id.trans (oldId.trans admitted.id.symm))
    have distinct : call.Distinct (reached sdk (earlierCalls ++ rest)) := by
      cases right with
      | cons first _ => exact first.1
    have mergeable := current.mergeable later stored
    have oldMergeable := oldSound.mergeable old known
    have decided : (∃ merged,
        mergeTaskOutcome later.task proposal.baseline proposal.outcome = .ok merged) ∨
        Contested later.task proposal.baseline proposal.outcome := by
      rw [same] at extension ⊢
      exact extension.merge_or_contested continues.id continues.sessionId continues.history
        (mergeable.messagesIdentified documented) (mergeable.artifactsIdentified documented)
        (oldMergeable.artifactsIdentified documented)
        (distinct.uncrossed proposed stored admitted.id)
    refine decided.imp_left ?_
    intro merges
    obtain ⟨merged, merges⟩ := merges
    obtain ⟨committed, after, saved⟩ := admitted.commits documented current stored
      (by rw [same]; exact oldMergeable.valid) merges
    refine ⟨committed, after, ?_⟩
    rw [Call.run_proposal proposed admitted.recipient, saved]
    rfl

section Samples

/-- What an artifact becomes where another of its identity is added. -/
def replacedArtifact (append : Bool) (old added : Artifact) : Artifact :=
  if append then { old with content := old.content ++ added.content } else added

theorem replacedArtifact_artifactId {append : Bool} {old added : Artifact}
    (same : old.artifactId = added.artifactId) :
    (replacedArtifact append old added).artifactId = old.artifactId := by
  cases append
  · exact same.symm
  · rfl

/-- A kit that requires identities, and that adds an artifact in the place of the one of its identity,
or last. -/
def Sdk.sample : Sdk where
  validIdentity := fun id _ => id ≠ ""
  validStatus := fun _ => true
  validMessage := fun message => message.messageId ≠ ""
  validArtifact := fun artifact => artifact.artifactId ≠ ""
  validTask := fun task => task.id ≠ "" &&
    task.history.all (fun message => message.messageId ≠ "") &&
    task.artifacts.all (fun artifact => artifact.artifactId ≠ "")
  validTimestamp := fun _ => true
  appendArtifact := fun task artifact append =>
    if artifact.artifactId ∈ task.artifacts.map Artifact.artifactId then
      .ok { task with
        artifacts := task.artifacts.map fun other =>
          if other.artifactId = artifact.artifactId then replacedArtifact append other artifact
          else other }
    else if append then .error "Cannot append to a nonexistent artifact_id"
    else .ok { task with artifacts := task.artifacts ++ [artifact] }

theorem Sdk.sample_documented : Sdk.sample.Documented where
  task := by
    intro task
    simp [sample, and_assoc]
  message := by simp [sample]
  artifact := by simp [sample]
  appended := by
    intro task artifact append after appended
    simp only [sample] at appended
    split_ifs at appended with known
    · obtain rfl := ok.inj appended
      left
      rw [map_map]
      refine map_congr_left ?_
      intro other _
      by_cases same : other.artifactId = artifact.artifactId
      · simp [same, replacedArtifact_artifactId same]
      · simp [same]
    · obtain rfl := ok.inj appended
      exact .inr ⟨known, map_append⟩
  appendedValid := by
    intro task artifact append after appended valid others
    simp only [sample] at appended
    split_ifs at appended with known
    · obtain rfl := ok.inj appended
      intro other member
      obtain ⟨old, stored, rfl⟩ := mem_map.mp member
      have present := others old stored
      split_ifs with same
      · simpa [sample, replacedArtifact_artifactId same] using present
      · exact present
    · obtain rfl := ok.inj appended
      intro other member
      obtain stored | last := mem_append.mp member
      · exact others other stored
      · rw [mem_singleton.mp last]
        exact valid

def sampleScope : NativeRecipientScope := ⟨"recipient", "tenant"⟩

def sampleMessage (messageId taskId : String) (role : Role) : Message :=
  ⟨messageId, "context", taskId, role, [.text messageId], []⟩

def sampleRequest : Message := sampleMessage "request" "" .user

def sampleReply : Message := sampleMessage "reply" "task" .agent

def sampleTask (state : TaskState) (history : List Message) : TaskRecord :=
  ⟨"task", "context", ⟨state, none, none⟩, [⟨"artifact", "text"⟩], history, none⟩

/-- The task is created, its worker replies, and its creator continues with a message. -/
def conversation (continuation : String) : List Call :=
  [⟨sampleScope,
      .create (sampleTask .submitted [sampleRequest]) "creator" "recipient" true true⟩,
    ⟨sampleScope, .saveRecipientLifecycle none
      (sampleTask .inputRequired [sampleRequest, sampleReply])
      (sampleTask .submitted [sampleRequest]) "recipient" .submitted⟩,
    ⟨sampleScope, .appendCreatorInput
      ⟨⟨"tenant", sampleMessage continuation "task" .user, []⟩, "digest"⟩ "creator" true (0, 0)⟩]

/-- The worker completes the task as it was before the continuation. -/
def completion : Call :=
  ⟨sampleScope, .saveRecipientTerminalOutcome none
    (sampleTask .completed [sampleRequest, sampleReply])
    (sampleTask .inputRequired [sampleRequest, sampleReply]) "recipient" "operation"⟩

theorem uncrossed_of_rows {tables : Tables} {task : TaskRecord}
    (uncrossed : ∀ row ∈ tables.tasks, ∀ message ∈ task.history, ∀ other ∈ row.history,
      other.messageId = message.messageId → other = message) :
    ∀ row ∈ tables.tasks, row.id = task.id → Uncrossed row.task task :=
  fun row stored _ => uncrossed row stored

theorem task_record_kept_completed :
    RecordsKept .sample (conversation "continuation" ++ [completion]) := by
  refine task_record_kept .sample Sdk.sample_documented _ _
    (.cons ⟨?_, rfl⟩ (.cons ⟨?_, rfl⟩ (.cons ⟨?_, rfl⟩ (.cons ⟨?_, rfl⟩ (.nil _)))))
  · exact fun _ => ⟨by decide, by decide⟩
  · exact uncrossed_of_rows (by decide +kernel)
  · intro row found _ _ _ _
    revert row
    decide +kernel
  · exact uncrossed_of_rows (by decide +kernel)

/-- A continuation under the identity of a reply is appended, and then no outcome merges. -/
theorem reused_message_id_wedges_task : ¬ RecordsKept .sample (conversation "reply") ∧
      completion.run .sample (reached .sample (conversation "reply")) =
        .error (.outcomeConflict "Outcome has missing or duplicate message_id") := by
  refine ⟨?_, rfl⟩
  intro kept
  have repeated : ∃ row ∈ (reached .sample (conversation "reply")).tasks,
      ¬ (row.history.map Message.messageId).Nodup := by decide +kernel
  obtain ⟨row, stored, duplicate⟩ := repeated
  exact duplicate (kept.identified row stored).1.nodup

end Samples

end Kestrel.A2A.TaskStore
