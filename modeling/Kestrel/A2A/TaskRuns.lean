import Kestrel.A2A.TaskSteps
import Kestrel.Base.Run

/-!
# Runs of the task store

A call is one operation through the store of one scope. Over runs the rows stay mergeable, they only
grow, and a row that ended stays as it is.
-/

namespace Kestrel.A2A.TaskStore

open List Except Rows

inductive Action where
  | create (task : TaskRecord) (creatorAgentId recipientAgentId : String)
      (cognitionWakeEligible inputWakeEligible : Bool)
  | recordInitialInput (task : TaskRecord) (input : NativeTaskInput) (creatorAgentId : String)
  | appendCreatorInput (input : NativeTaskInput) (creatorAgentId : String) (contextOwned : Bool)
      (now : ℤ × ℤ)
  | saveRecipientLifecycle (signal : Option TurnSignal) (task baseline : TaskRecord)
      (recipientAgentId : String) (expectedState : TaskState)
  | saveRecipientTerminalOutcome (signal : Option TurnSignal) (task baseline : TaskRecord)
      (recipientAgentId operationId : String)
  | updateStatus (signal : Option TurnSignal) (taskId : String) (status : TaskStatus)
      (recipientAgentId : String) (expectedState : TaskState)
  | addArtifact (signal : Option TurnSignal) (taskId : String) (artifact : Artifact)
      (recipientAgentId : String) (append : Bool)
  | cancelIfAuthorized (signal : Option TurnSignal) (taskId actorAgentId : String)
      (cancellation : Cancellation)

/-- An operation through the store of a scope. -/
structure Call where
  scope : NativeRecipientScope
  action : Action

inductive Answer where
  | done
  | appended (appended : Bool)
  | committed (task : Option TaskRecord)
  | updated (updated : Bool)

def Call.run (sdk : Sdk) (tables : Tables) (call : Call) : Except Refusal (Answer × Tables) :=
  match call.action with
  | .create task creator recipient cognition input =>
    (create sdk call.scope task creator recipient cognition input tables).map (.done, ·)
  | .recordInitialInput task input creator =>
    (recordInitialInput call.scope task input creator tables).map (.done, ·)
  | .appendCreatorInput input creator contextOwned now =>
    (appendCreatorInput sdk call.scope input creator contextOwned now tables).map
      (Prod.map .appended id)
  | .saveRecipientLifecycle signal task baseline recipient expected =>
    (saveRecipientLifecycle sdk call.scope signal task baseline recipient expected tables).map
      (Prod.map .committed id)
  | .saveRecipientTerminalOutcome signal task baseline recipient operationId =>
    (saveRecipientTerminalOutcome sdk call.scope signal task baseline recipient operationId
      tables).map (Prod.map .committed id)
  | .updateStatus signal taskId status recipient expected =>
    (updateStatus sdk call.scope signal taskId status recipient expected tables).map
      (Prod.map .updated id)
  | .addArtifact signal taskId artifact recipient append =>
    (addArtifact sdk call.scope signal taskId artifact recipient append tables).map (.done, ·)
  | .cancelIfAuthorized signal taskId actor cancellation =>
    (cancelIfAuthorized sdk call.scope signal taskId actor cancellation tables).map
      (Prod.map .committed id)

/-- A refused call rolls back. -/
def Call.apply (sdk : Sdk) (tables : Tables) (call : Call) : Tables :=
  match call.run sdk tables with
  | .ok (_, after) => after
  | .error _ => tables

/-- The operation columns that a call writes where it ends a row. -/
def Action.receipt : Action → Receipt
  | .saveRecipientTerminalOutcome _ _ _ _ operationId =>
    { Receipt.blank with terminalOperationId := some operationId }
  | .cancelIfAuthorized _ _ actor cancellation =>
    ⟨some actor, cancellation.reason, cancellation.operationId, none⟩
  | _ => .blank

/-- The messages and artifacts that a call brings have identities of their own: a created task's are
distinct, an input that is appended is not one of the history's messages, the message of a
cancellation is new, and an outcome's messages are no other messages of the row. -/
def Call.Distinct (tables : Tables) (call : Call) : Prop :=
  match call.action with
  | .create task .. => (∀ row ∈ tables.tasks, row.id ≠ task.id) →
      (task.history.map Message.messageId).Nodup ∧ (task.artifacts.map Artifact.artifactId).Nodup
  | .appendCreatorInput input creator _ _ => ∀ row,
      tables.creatorRow call.scope input.request.message.taskId creator = some row →
      row.status.isTerminal = false → row.cognitionWakeEligible = true →
      row.inputWakeEligible = true →
      tables.priorInput row.id input.request.message.messageId = none →
      input.request.message.messageId ∉ row.history.map Message.messageId
  | .cancelIfAuthorized _ taskId _ cancellation => ∀ row ∈ tables.tasks, row.id = taskId →
      cancellation.messageId ∉ row.history.map Message.messageId ∧
      ∀ given ∈ cancellation.payload,
        cancellation.messageId ∉ given.1.history.map Message.messageId
  | .saveRecipientLifecycle _ task _ _ _ | .saveRecipientTerminalOutcome _ task _ _ _ =>
    ∀ row ∈ tables.tasks, row.id = task.id → Uncrossed row.task task
  | _ => True

section Steps

variable {sdk : Sdk} {tables after : Tables} {call : Call}

variable {scope : NativeRecipientScope} {signal : Option TurnSignal} {baseline : TaskRecord}
  {recipient : String}

theorem saveRecipientLifecycle_moves (documented : sdk.Documented)
    (ids : (tables.tasks.map TaskRow.id).Nodup) {task : TaskRecord} {expectedState : TaskState}
    {answer : Option TaskRecord}
    (saved : saveRecipientLifecycle sdk scope signal task baseline recipient expectedState tables =
      .ok (answer, after)) : Moves sdk .blank tables after := by
  unfold saveRecipientLifecycle at saved
  simp only [require_bind_eq_ok] at saved
  obtain ⟨_, _, live, saved⟩ := saved
  refine saveRecipientLifecycleFromStates_moves documented ids ?_ (.inl rfl) saved
  intro state member
  rw [mem_singleton.mp member]
  exact live

theorem saveRecipientTerminalOutcome_moves (documented : sdk.Documented)
    (ids : (tables.tasks.map TaskRow.id).Nodup) {task : TaskRecord} {operationId : String}
    {answer : Option TaskRecord}
    (saved : saveRecipientTerminalOutcome sdk scope signal task baseline recipient operationId
      tables = .ok (answer, after)) :
    Moves sdk { Receipt.blank with terminalOperationId := some operationId } tables after := by
  unfold saveRecipientTerminalOutcome at saved
  simp only [require_bind_eq_ok] at saved
  obtain ⟨ending, _, saved⟩ := saved
  refine saveRecipientLifecycleFromStates_moves documented ids
    (fun _ => liveStates_isTerminal) (.inr ?_) saved
  simp only [mem_cons, not_mem_nil, or_false] at ending
  obtain same | same | same := ending <;> rw [same] <;> rfl

theorem Call.moves (documented : sdk.Documented) (ids : (tables.tasks.map TaskRow.id).Nodup)
    (distinct : call.Distinct tables) :
    Moves sdk call.action.receipt tables (call.apply sdk tables) := by
  unfold Call.apply
  cases answered : call.run sdk tables with
  | error _ => exact .kept rfl
  | ok answer =>
    obtain ⟨scope, action⟩ := call
    cases action with
    | create =>
      obtain ⟨_, created, same⟩ := map_eq_ok.mp answered
      cases same
      exact create_moves documented distinct created
    | recordInitialInput =>
      obtain ⟨_, recorded, same⟩ := map_eq_ok.mp answered
      cases same
      exact .kept (recordInitialInput_tasks recorded)
    | appendCreatorInput =>
      obtain ⟨⟨_, _⟩, appended, same⟩ := map_eq_ok.mp answered
      cases same
      exact appendCreatorInput_moves documented ids distinct appended
    | saveRecipientLifecycle =>
      obtain ⟨⟨_, _⟩, saved, same⟩ := map_eq_ok.mp answered
      cases same
      exact saveRecipientLifecycle_moves documented ids saved
    | saveRecipientTerminalOutcome =>
      obtain ⟨⟨_, _⟩, saved, same⟩ := map_eq_ok.mp answered
      cases same
      exact saveRecipientTerminalOutcome_moves documented ids saved
    | updateStatus =>
      obtain ⟨⟨_, _⟩, updated, same⟩ := map_eq_ok.mp answered
      cases same
      exact updateStatus_moves documented updated
    | addArtifact =>
      obtain ⟨_, added, same⟩ := map_eq_ok.mp answered
      cases same
      exact addArtifact_moves documented ids added
    | cancelIfAuthorized =>
      obtain ⟨⟨_, _⟩, canceled, same⟩ := map_eq_ok.mp answered
      cases same
      exact cancelIfAuthorized_moves documented ids distinct canceled

end Steps

/-! ## Invariants of runs -/

/-- The table of a reachable state: one row for each identity, live rows without an operation of
their own, and rows that the merge accepts. -/
structure Sound (sdk : Sdk) (tables : Tables) : Prop where
  ids : (tables.tasks.map TaskRow.id).Nodup
  pending : ∀ row ∈ tables.tasks, row.status.isTerminal = false → row.receipt = .blank
  mergeable : ∀ row ∈ tables.tasks, Mergeable sdk row.task

structure Continues (row later : TaskRow) : Prop where
  id : later.id = row.id
  sessionId : later.sessionId = row.sessionId
  history : row.history <+: later.history
  artifacts : row.artifacts.map Artifact.artifactId <+: later.artifacts.map Artifact.artifactId
  settled : row.status.isTerminal = true → later = row

/-- Every row has a later state. -/
def Evolves (tables after : Tables) : Prop :=
  ∀ row ∈ tables.tasks, ∃ later ∈ after.tasks, Continues row later

theorem Continues.refl (row : TaskRow) : Continues row row :=
  ⟨rfl, rfl, prefix_rfl, prefix_rfl, fun _ => rfl⟩

theorem Continues.trans {first second third : TaskRow} (left : Continues first second)
    (right : Continues second third) : Continues first third where
  id := right.id.trans left.id
  sessionId := right.sessionId.trans left.sessionId
  history := left.history.trans right.history
  artifacts := left.artifacts.trans right.artifacts
  settled := fun ended => by
    obtain rfl := left.settled ended
    exact right.settled ended

theorem Evolves.refl (tables : Tables) : Evolves tables tables :=
  fun row stored => ⟨row, stored, .refl row⟩

theorem Evolves.trans {first second third : Tables} (left : Evolves first second)
    (right : Evolves second third) : Evolves first third := by
  intro row stored
  obtain ⟨middle, kept, before⟩ := left row stored
  obtain ⟨later, found, after⟩ := right middle kept
  exact ⟨later, found, before.trans after⟩

section Moving

variable {sdk : Sdk} {receipt : Receipt} {row later : TaskRow} {tables after : Tables}

theorem Advances.continues (advances : Advances sdk receipt row later) : Continues row later where
  id := advances.id
  sessionId := advances.sessionId
  history := advances.history
  artifacts := advances.artifacts
  settled := fun ended => by
    rw [advances.live] at ended
    cases ended

theorem Moves.evolves (moves : Moves sdk receipt tables after) : Evolves tables after := by
  intro row stored
  cases moves with
  | kept same => exact ⟨row, same ▸ stored, .refl row⟩
  | created _ _ _ _ _ tasks =>
    exact ⟨row, tasks ▸ mem_append_left _ stored, .refl row⟩
  | updated test change advances tasks =>
    cases selected : test row with
    | true =>
      exact ⟨change row, tasks ▸ changed_mem_update stored selected,
        (advances row stored selected).continues⟩
    | false => exact ⟨row, tasks ▸ kept_mem_update stored selected, .refl row⟩

theorem Moves.sound (sound : Sound sdk tables) (moves : Moves sdk receipt tables after) :
    Sound sdk after := by
  cases moves with
  | kept same => exact ⟨same ▸ sound.ids, same ▸ sound.pending, same ▸ sound.mergeable⟩
  | created row fresh blank _ mergeable tasks =>
    refine ⟨?_, ?_, ?_⟩
    · rw [tasks]
      exact nodup_append sound.ids fresh
    · rw [tasks]
      intro other member live
      obtain stored | last := mem_append.mp member
      · exact sound.pending other stored live
      · rw [mem_singleton.mp last]
        exact blank
    · rw [tasks]
      intro other member
      obtain stored | last := mem_append.mp member
      · exact sound.mergeable other stored
      · rw [mem_singleton.mp last]
        exact mergeable
  | updated test change advances tasks =>
    refine ⟨?_, ?_, ?_⟩
    · have kept : after.tasks.map TaskRow.id = tables.tasks.map TaskRow.id := by
        rw [tasks, update, map_map]
        refine map_congr_left ?_
        intro row stored
        by_cases selected : test row = true
        · simp [selected, (advances row stored selected).id]
        · simp [selected]
      rw [kept]
      exact sound.ids
    · rw [tasks]
      intro later member live
      obtain ⟨row, stored, rfl⟩ := mem_update.mp member
      split_ifs at live ⊢ with selected
      · have step := advances row stored selected
        exact step.pending (sound.pending row stored step.live) live
      · exact sound.pending row stored live
    · rw [tasks]
      intro later member
      obtain ⟨row, stored, rfl⟩ := mem_update.mp member
      split_ifs with selected
      · exact (advances row stored selected).mergeable (sound.mergeable row stored)
      · exact sound.mergeable row stored

/-- A row that ends in a step is the only one of its identity, was not settled before, and names the
operation. -/
theorem Moves.ended (sound : Sound sdk tables) (moves : Moves sdk receipt tables after)
    (stored : later ∈ after.tasks) (ends : later.status.isTerminal = true) :
    later ∈ tables.tasks ∨
      (∀ old ∈ tables.tasks, old.id = later.id → old.status.isTerminal = false) ∧
        later.receipt = receipt := by
  cases moves with
  | kept same => exact .inl (same ▸ stored)
  | created row fresh blank operation _ tasks =>
    rw [tasks] at stored
    obtain old | last := mem_append.mp stored
    · exact .inl old
    · obtain rfl := mem_singleton.mp last
      exact .inr ⟨fun old member same => absurd same (fresh old member), blank.trans operation.symm⟩
  | updated test change advances tasks =>
    rw [tasks] at stored
    obtain ⟨row, member, rfl⟩ := mem_update.mp stored
    split_ifs at ends ⊢ with selected
    · have step := advances row member selected
      refine .inr ⟨?_, step.ended (sound.pending row member step.live) ends⟩
      intro old known same
      rw [inj_on_of_nodup_map sound.ids known member (same.trans step.id)]
      exact step.live
    · exact .inl member

end Moving

end Kestrel.A2A.TaskStore
