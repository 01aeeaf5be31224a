import Kestrel.A2A.TaskMerge
import Kestrel.A2A.TaskStore

/-!
# What an operation does to the task table

Every operation leaves the tasks alone, adds one, or changes one live row, whose history and artifacts
it extends.
-/

namespace Kestrel.A2A.TaskStore

open List Except TaskRow Message

/-- What the kit documents of the functions that the store calls. -/
structure Sdk.Documented (sdk : Sdk) : Prop where
  /-- A task has its required fields when its parts have theirs. -/
  task : ∀ task, sdk.validTask task = true ↔ sdk.validIdentity task.id task.contextId = true ∧
    sdk.validStatus task.status = true ∧
    (∀ message ∈ task.history, sdk.validMessage message = true) ∧
    ∀ artifact ∈ task.artifacts, sdk.validArtifact artifact = true
  message : ∀ message, sdk.validMessage message = true → message.messageId ≠ ""
  artifact : ∀ artifact, sdk.validArtifact artifact = true → artifact.artifactId ≠ ""
  /-- An artifact is appended to, or replaces, the one of its identity, or comes last. -/
  appended : ∀ task artifact append after, sdk.appendArtifact task artifact append = .ok after →
    after.artifacts.map Artifact.artifactId = task.artifacts.map Artifact.artifactId ∨
      artifact.artifactId ∉ task.artifacts.map Artifact.artifactId ∧
        after.artifacts.map Artifact.artifactId =
          task.artifacts.map Artifact.artifactId ++ [artifact.artifactId]
  appendedValid : ∀ task artifact append after,
    sdk.appendArtifact task artifact append = .ok after → sdk.validArtifact artifact = true →
    (∀ other ∈ task.artifacts, sdk.validArtifact other = true) →
    ∀ other ∈ after.artifacts, sdk.validArtifact other = true

/-- The columns that name the operation which ended a row. -/
structure Receipt where
  canceledBy : Option String
  cancelReason : Option String
  cancelOperationId : Option String
  terminalOperationId : Option String
  deriving DecidableEq, Repr

def Receipt.blank : Receipt := ⟨none, none, none, none⟩

def TaskRow.receipt (row : TaskRow) : Receipt :=
  ⟨row.canceledBy, row.cancelReason, row.cancelOperationId, row.terminalOperationId⟩

/-- A row that the merge can index and that has its required fields. -/
structure Mergeable (sdk : Sdk) (task : TaskRecord) : Prop where
  valid : sdk.validTask task = true
  messages : (task.history.map Message.messageId).Nodup
  artifacts : (task.artifacts.map Artifact.artifactId).Nodup

/-- One operation on a live row, which writes the given receipt if it ends the row. -/
structure Advances (sdk : Sdk) (receipt : Receipt) (row after : TaskRow) : Prop where
  live : row.status.isTerminal = false
  id : after.id = row.id
  sessionId : after.sessionId = row.sessionId
  history : row.history <+: after.history
  artifacts : row.artifacts.map Artifact.artifactId <+: after.artifacts.map Artifact.artifactId
  pending : row.receipt = .blank → after.status.isTerminal = false → after.receipt = .blank
  ended : row.receipt = .blank → after.status.isTerminal = true → after.receipt = receipt
  mergeable : Mergeable sdk row.task → Mergeable sdk after.task

/-- What an operation does to the tasks. -/
inductive Moves (sdk : Sdk) (receipt : Receipt) (tables after : Tables) : Prop where
  | kept (same : after.tasks = tables.tasks)
  | created (row : TaskRow) (fresh : ∀ other ∈ tables.tasks, other.id ≠ row.id)
      (blank : row.receipt = .blank) (operation : receipt = .blank)
      (mergeable : Mergeable sdk row.task) (tasks : after.tasks = tables.tasks ++ [row])
  | updated (test : TaskRow → Bool) (change : TaskRow → TaskRow)
      (advances : ∀ row ∈ tables.tasks, test row = true →
        Advances sdk receipt row (change row))
      (tasks : after.tasks = Rows.update tables.tasks test change)

section Reading

variable {sdk : Sdk} {task other : TaskRecord}

theorem Sdk.Documented.valid_congr (documented : sdk.Documented) (id : other.id = task.id)
    (contextId : other.contextId = task.contextId) (status : other.status = task.status)
    (history : other.history = task.history) (artifacts : other.artifacts = task.artifacts)
    (valid : sdk.validTask task = true) : sdk.validTask other = true := by
  rw [documented.task] at valid ⊢
  rw [id, contextId, status, history, artifacts]
  exact valid

theorem Mergeable.messagesIdentified (documented : sdk.Documented) (mergeable : Mergeable sdk task) :
    Identified messageId task.history :=
  ⟨fun message member => documented.message message
    (((documented.task task).mp mergeable.valid).2.2.1 message member), mergeable.messages⟩

theorem Mergeable.artifactsIdentified (documented : sdk.Documented)
    (mergeable : Mergeable sdk task) : Identified Artifact.artifactId task.artifacts :=
  ⟨fun artifact member => documented.artifact artifact
    (((documented.task task).mp mergeable.valid).2.2.2 artifact member), mergeable.artifacts⟩

theorem storedState_eq_ok {state stored : TaskState} (known : storedState state = .ok stored) :
    stored = state := by
  unfold storedState at known
  obtain ⟨_, known⟩ := require_bind_eq_ok.mp known
  exact (ok.inj known).symm

theorem statusTimestamp_eq_ok {status : TaskStatus} {stamp : Option (ℤ × ℤ)}
    (known : statusTimestamp sdk status = .ok stamp) : stamp = status.timestamp := by
  unfold statusTimestamp at known
  cases given : status.timestamp with
  | none =>
    simp only [given] at known
    exact (ok.inj known).symm
  | some stamp =>
    simp only [given] at known
    split_ifs at known
    exact (ok.inj known).symm

theorem taskPayload_eq_ok {payload : Payload} (known : taskPayload sdk task = .ok payload) :
    sdk.validTask task = true ∧ payload.message = task.status.message ∧
      payload.artifacts = task.artifacts ∧ payload.history = task.history := by
  unfold taskPayload at known
  obtain ⟨valid, known⟩ := require_bind_eq_ok.mp known
  obtain rfl := ok.inj known
  exact ⟨valid, rfl, rfl, rfl⟩

end Reading

theorem eq_of_selected {tasks : List TaskRow} (ids : (tasks.map TaskRow.id).Nodup)
    {predicate : TaskRow → Bool} {taskId : String}
    (keyed : ∀ row, predicate row = true → row.id = taskId) {row other : TaskRow}
    (found : tasks.find? predicate = some row) (stored : other ∈ tasks)
    (selected : predicate other = true) : other = row := by
  refine inj_on_of_nodup_map ids stored (mem_of_find?_eq_some found) ?_
  rw [keyed other selected, keyed row (find?_some found)]

/-! ## Creation and inputs -/

section Creation

variable {sdk : Sdk} {scope : NativeRecipientScope} {tables after : Tables}

variable {creator : String} {input : NativeTaskInput}

theorem create_moves (documented : sdk.Documented) {task : TaskRecord} {recipient : String}
    {cognition input : Bool} (distinct : (∀ row ∈ tables.tasks, row.id ≠ task.id) →
      (task.history.map messageId).Nodup ∧ (task.artifacts.map Artifact.artifactId).Nodup)
    (created : create sdk scope task creator recipient cognition input tables = .ok after) :
    Moves sdk .blank tables after := by
  unfold create at created
  obtain ⟨_, created⟩ := require_bind_eq_ok.mp created
  obtain ⟨_, created⟩ := require_bind_eq_ok.mp created
  obtain ⟨_, created⟩ := require_bind_eq_ok.mp created
  obtain ⟨payload, written, created⟩ := bind_eq_ok.mp created
  obtain ⟨timestamp, stamped, created⟩ := bind_eq_ok.mp created
  obtain ⟨state, stored, created⟩ := bind_eq_ok.mp created
  obtain ⟨free, created⟩ := require_bind_eq_ok.mp created
  obtain rfl := ok.inj created
  obtain ⟨valid, message, artifacts, history⟩ := taskPayload_eq_ok written
  obtain rfl := storedState_eq_ok stored
  obtain rfl := statusTimestamp_eq_ok stamped
  have fresh : ∀ row ∈ tables.tasks, row.id ≠ task.id := by simpa using free
  obtain ⟨messages, identities⟩ := distinct fresh
  refine .created _ fresh rfl rfl ⟨?_, ?_, ?_⟩ rfl
  · refine documented.valid_congr ?_ ?_ ?_ ?_ ?_ valid
    · rfl
    · rfl
    · simp only [TaskRow.task, message]
    · exact history
    · exact artifacts
  · simp only [TaskRow.task, history]
    exact messages
  · simp only [TaskRow.task, artifacts]
    exact identities

theorem writeInput_tasks {taskId : String} {revision : ℕ}
    (written : writeInput taskId revision input tables = .ok after) :
    after.tasks = tables.tasks := by
  unfold writeInput at written
  obtain ⟨_, written⟩ := require_bind_eq_ok.mp written
  obtain rfl := ok.inj written
  rfl

theorem recordInitialInput_tasks {task : TaskRecord}
    (recorded : recordInitialInput scope task input creator tables = .ok after) :
    after.tasks = tables.tasks := by
  unfold recordInitialInput at recorded
  obtain ⟨_, _, recorded⟩ := bind_eq_ok.mp recorded
  obtain ⟨_, recorded⟩ := require_bind_eq_ok.mp recorded
  obtain ⟨_, recorded⟩ := require_bind_eq_ok.mp recorded
  exact writeInput_tasks recorded

theorem appendCreatorInput_moves (documented : sdk.Documented)
    (ids : (tables.tasks.map TaskRow.id).Nodup) {contextOwned appended : Bool} {now : ℤ × ℤ}
    (distinct : ∀ row, tables.creatorRow scope input.request.message.taskId creator = some row →
      row.status.isTerminal = false → row.cognitionWakeEligible = true →
      row.inputWakeEligible = true →
      tables.priorInput row.id input.request.message.messageId = none →
      input.request.message.messageId ∉ row.history.map messageId)
    (done : appendCreatorInput sdk scope input creator contextOwned now tables =
      .ok (appended, after)) : Moves sdk .blank tables after := by
  unfold appendCreatorInput at done
  obtain ⟨_, _, done⟩ := bind_eq_ok.mp done
  obtain ⟨_, done⟩ := require_bind_eq_ok.mp done
  obtain ⟨_, done⟩ := require_bind_eq_ok.mp done
  cases found : tables.creatorRow scope input.request.message.taskId creator with
  | none =>
    simp only [found] at done
    cases done
    exact .kept rfl
  | some row =>
    simp only [found] at done
    obtain ⟨live, done⟩ := require_bind_eq_ok.mp done
    obtain ⟨eligible, done⟩ := require_bind_eq_ok.mp done
    obtain ⟨_, done⟩ := require_bind_eq_ok.mp done
    obtain ⟨_, done⟩ := require_bind_eq_ok.mp done
    cases recorded : tables.priorInput row.id input.request.message.messageId with
    | some prior =>
      simp only [recorded] at done
      obtain ⟨_, done⟩ := require_bind_eq_ok.mp done
      cases done
      exact .kept rfl
    | none =>
      simp only [recorded] at done
      obtain ⟨_, done⟩ := require_bind_eq_ok.mp done
      obtain ⟨payload, stored, done⟩ := bind_eq_ok.mp done
      obtain ⟨written, wrote, done⟩ := bind_eq_ok.mp done
      cases done
      obtain ⟨valid, message, artifacts, history⟩ := taskPayload_eq_ok stored
      have fresh := distinct row found live eligible.1 eligible.2 recorded
      refine .updated _ _ ?_ (writeInput_tasks wrote)
      intro other member selected
      have keyed : row.id = other.id := by simp_all
      have same : other = row := inj_on_of_nodup_map ids member
        (mem_of_find?_eq_some found) keyed.symm
      subst same
      have appendedHistory : payload.history = other.history ++ [input.request.message] :=
        history
      have keptArtifacts : payload.artifacts = other.artifacts := artifacts
      refine {
        live
        id := rfl
        sessionId := rfl
        history := ?_
        artifacts := ?_
        pending := fun blank _ => blank
        ended := fun _ ends => nomatch ends
        mergeable := ?_ }
      · simp only [store, appendedHistory]
        exact prefix_append _ _
      · simp only [store, keptArtifacts]
        exact prefix_rfl
      · intro mergeable
        refine ⟨?_, ?_, ?_⟩
        · refine documented.valid_congr ?_ ?_ ?_ ?_ ?_ valid
          · rfl
          · rfl
          · simp only [task, store, message]
          · exact history
          · exact artifacts
        · simp only [task, store, appendedHistory]
          refine Rows.nodup_append mergeable.messages ?_
          intro earlier stored same
          exact fresh (mem_map.mpr ⟨earlier, stored, same⟩)
        · simp only [task, store, keptArtifacts]
          exact mergeable.artifacts

end Creation

/-! ## The recipient's writes -/

section Writes

variable {sdk : Sdk} {scope : NativeRecipientScope} {signal : Option TurnSignal}
  {tables after : Tables} {recipient taskId : String}

theorem Merged.valid (documented : sdk.Documented) {current outcome merged : TaskRecord}
    (kept : Merged current outcome merged) (currentValid : sdk.validTask current = true)
    (outcomeValid : sdk.validTask outcome = true) : sdk.validTask merged = true := by
  rw [documented.task] at currentValid outcomeValid ⊢
  rw [kept.id, kept.contextId, kept.status]
  refine ⟨currentValid.1, outcomeValid.2.1, ?_, ?_⟩
  · intro message member
    obtain known | known := kept.messagesKnown message member
    · exact currentValid.2.2.1 message known
    · exact outcomeValid.2.2.1 message known
  · intro artifact member
    obtain known | known := kept.artifacts.known artifact member
    · exact currentValid.2.2.2 artifact known
    · exact outcomeValid.2.2.2 artifact known

theorem liveStates_isTerminal {state : TaskState} (live : state ∈ liveStates) :
    state.isTerminal = false := by
  simp only [liveStates, mem_cons, not_mem_nil, or_false] at live
  obtain rfl | rfl | rfl | rfl := live <;> rfl

theorem mapM_storedState {states stored : List TaskState}
    (known : states.mapM storedState = .ok stored) : stored = states := by
  have paired := mapM_eq_ok.mp known
  induction paired with
  | nil => rfl
  | cons first _ ih =>
    rw [storedState_eq_ok first, ih (mapM_eq_ok.mpr ‹_›)]

theorem saveRecipientLifecycleFromStates_moves (documented : sdk.Documented)
    (ids : (tables.tasks.map TaskRow.id).Nodup) {task baseline : TaskRecord}
    {expectedStates : List TaskState} {operationId : Option String} {answer : Option TaskRecord}
    (live : ∀ state ∈ expectedStates, state.isTerminal = false)
    (ending : operationId = none ∨ task.status.state.isTerminal = true)
    (saved : saveRecipientLifecycleFromStates sdk scope signal task baseline recipient
      expectedStates operationId tables = .ok (answer, after)) :
    Moves sdk { Receipt.blank with terminalOperationId := operationId } tables after := by
  unfold saveRecipientLifecycleFromStates at saved
  simp only [bind_eq_ok, require_eq_ok, exists_const] at saved
  obtain ⟨_, _, _, _, timestamp, stamped, admitted, _, expected, known, saved⟩ := saved
  obtain rfl := mapM_storedState known
  obtain rfl := statusTimestamp_eq_ok stamped
  split at saved
  · cases saved
    exact .kept rfl
  next row found =>
  split at saved
  · cases saved
  next merged combined =>
  simp only [bind_eq_ok] at saved
  obtain ⟨payload, stored, state, concrete, saved⟩ := saved
  cases saved
  obtain rfl := storedState_eq_ok concrete
  obtain ⟨valid, message, artifacts, history⟩ := taskPayload_eq_ok stored
  have kept := Merged.of_merge combined
  refine .updated _ _ ?_ rfl
  intro other member selected
  have same : other = row :=
    eq_of_selected ids (fun candidate passes => by
      simp only [Bool.and_eq_true, decide_eq_true_eq] at passes
      exact passes.1.1.1.1.1) found member selected
  subst same
  have waiting : other.status.isTerminal = false := by
    simp only [Bool.and_eq_true, contains_iff_mem] at selected
    exact live _ selected.1.2
  refine {
    live := waiting
    id := rfl
    sessionId := rfl
    history := ?_
    artifacts := ?_
    pending := ?_
    ended := ?_
    mergeable := ?_ }
  · simp only [store, history]
    exact kept.history
  · simp only [store, artifacts]
    exact kept.artifacts.extended
  · intro blank unfinished
    obtain rfl | ends := ending
    · simp_all [receipt, store, Receipt.blank]
    · rw [ends] at unfinished
      cases unfinished
  · intro blank _
    simp_all [receipt, store, Receipt.blank]
  · intro mergeable
    refine ⟨?_, ?_, ?_⟩
    · refine documented.valid_congr ?_ ?_ ?_ ?_ ?_ valid
      · exact kept.id.symm
      · exact kept.contextId.symm
      · simp only [TaskRow.task, TaskRow.store, message, kept.status]
      · exact history
      · exact artifacts
    · simp only [TaskRow.task, TaskRow.store, history]
      exact kept.messages.nodup
    · simp only [TaskRow.task, TaskRow.store, artifacts]
      exact kept.artifacts.nodup

theorem updateStatus_moves (documented : sdk.Documented) {status : TaskStatus}
    {expectedState : TaskState} {answer : Bool}
    (updated : updateStatus sdk scope signal taskId status recipient expectedState tables =
      .ok (answer, after)) : Moves sdk .blank tables after := by
  unfold updateStatus at updated
  simp only [bind_eq_ok, require_eq_ok, exists_const] at updated
  obtain ⟨_, _, live, valid, timestamp, stamped, admitted, _, state, concrete, expected, known,
    updated⟩ := updated
  obtain rfl := storedState_eq_ok concrete
  obtain rfl := storedState_eq_ok known
  obtain rfl := statusTimestamp_eq_ok stamped
  cases updated
  refine .updated _ _ ?_ rfl
  intro row _ selected
  have waiting : row.status.isTerminal = false := by simp_all
  refine {
    live := waiting
    id := rfl
    sessionId := rfl
    history := prefix_rfl
    artifacts := prefix_rfl
    pending := fun blank _ => blank
    ended := fun blank _ => blank
    mergeable := ?_ }
  intro mergeable
  refine ⟨?_, mergeable.messages, mergeable.artifacts⟩
  have parts := (documented.task row.task).mp mergeable.valid
  exact (documented.task _).mpr ⟨parts.1, valid, parts.2.2.1, parts.2.2.2⟩

theorem addArtifact_moves (documented : sdk.Documented)
    (ids : (tables.tasks.map TaskRow.id).Nodup) {artifact : Artifact} {append : Bool}
    (added : addArtifact sdk scope signal taskId artifact recipient append tables = .ok after) :
    Moves sdk .blank tables after := by
  unfold addArtifact at added
  simp only [bind_eq_ok, require_eq_ok, exists_const] at added
  obtain ⟨valid, _, admitted, _, added⟩ := added
  split at added
  · cases added
  next row found =>
  obtain ⟨live, added⟩ := require_bind_eq_ok.mp added
  split at added
  · cases added
  next task appended =>
  cases added
  have placed := documented.appended _ _ _ _ appended
  refine .updated _ _ ?_ rfl
  intro other member selected
  have same : other = row :=
    eq_of_selected ids (fun candidate passes => by
      simp only [Bool.and_eq_true, decide_eq_true_eq] at passes
      exact passes.1.1.1) found member (Bool.and_eq_true _ _ ▸ selected).1
  subst same
  refine {
    live := liveStates_isTerminal live
    id := rfl
    sessionId := rfl
    history := prefix_rfl
    artifacts := ?_
    pending := fun blank _ => blank
    ended := fun blank _ => blank
    mergeable := ?_ }
  · obtain same | last := placed
    · exact same ▸ prefix_rfl
    · exact last.2 ▸ prefix_append _ _
  · intro mergeable
    have parts := (documented.task other.task).mp mergeable.valid
    have validArtifacts :=
      documented.appendedValid other.task artifact append task appended valid parts.2.2.2
    refine ⟨?_, mergeable.messages, ?_⟩
    · exact (documented.task _).mpr ⟨parts.1, parts.2.1, parts.2.2.1, validArtifacts⟩
    · obtain same | last := placed
      · exact same ▸ mergeable.artifacts
      · change (task.artifacts.map Artifact.artifactId).Nodup
        rw [last.2, nodup_append]
        refine ⟨mergeable.artifacts, nodup_singleton _, ?_⟩
        intro first stored second single same
        rw [mem_singleton.mp single] at same
        exact last.1 (same ▸ stored)

end Writes

/-! ## Cancellation -/

section Cancel

variable {sdk : Sdk} {scope : NativeRecipientScope} {signal : Option TurnSignal}
  {tables after : Tables}

/-- What a cancellation keeps of the row it starts from, before it appends its message. -/
structure Canceling (row : TaskRow) (payload : Option (TaskRecord × TaskRecord))
    (merged : TaskRecord) : Prop where
  id : merged.id = row.id
  contextId : merged.contextId = row.sessionId
  history : row.history <+: merged.history
  artifacts : row.artifacts.map Artifact.artifactId <+: merged.artifacts.map Artifact.artifactId
  known : ∀ message ∈ merged.history,
    message ∈ row.history ∨ ∃ given ∈ payload, message ∈ given.1.history
  distinct : (row.history.map Message.messageId).Nodup →
    (merged.history.map Message.messageId).Nodup
  distinctArtifacts : (row.artifacts.map Artifact.artifactId).Nodup →
    (merged.artifacts.map Artifact.artifactId).Nodup

theorem Canceling.of_merging {row : TaskRow} {given : Option (TaskRecord × TaskRecord)}
    {merged : TaskRecord}
    (merging : (match given with
      | some (task, baseline) => mergeTaskOutcome row.task baseline task
      | none => .ok row.task) = .ok merged) : Canceling row given merged := by
  cases given with
  | none =>
    obtain rfl := ok.inj merging
    exact ⟨rfl, rfl, prefix_rfl, prefix_rfl, fun _ member => .inl member,
      fun distinct => distinct, fun distinct => distinct⟩
  | some given =>
    have kept := Merged.of_merge merging
    refine ⟨kept.id, kept.contextId, kept.history, kept.artifacts.extended, ?_,
      fun _ => kept.messages.nodup, fun _ => kept.artifacts.nodup⟩
    intro message member
    exact (kept.messagesKnown message member).imp_right fun known => ⟨given, rfl, known⟩

theorem cancelIfAuthorized_moves (documented : sdk.Documented)
    (ids : (tables.tasks.map TaskRow.id).Nodup) {taskId actor : String}
    {cancellation : Cancellation} {answer : Option TaskRecord}
    (distinct : ∀ row ∈ tables.tasks, row.id = taskId →
      cancellation.messageId ∉ row.history.map messageId ∧
      ∀ given ∈ cancellation.payload,
        cancellation.messageId ∉ given.1.history.map messageId)
    (canceled : cancelIfAuthorized sdk scope signal taskId actor cancellation tables =
      .ok (answer, after)) :
    Moves sdk ⟨some actor, cancellation.reason, cancellation.operationId, none⟩ tables after := by
  unfold cancelIfAuthorized at canceled
  simp only [bind_eq_ok, require_eq_ok, exists_const] at canceled
  obtain ⟨_, _, _, _, _, admitted, _, canceled⟩ := canceled
  split at canceled
  · cases canceled
    exact .kept rfl
  next row found =>
  split at canceled
  · cases canceled
  next merged combined =>
  obtain ⟨payload, stored, canceled⟩ := bind_eq_ok.mp canceled
  cases canceled
  obtain ⟨valid, message, artifacts, history⟩ := taskPayload_eq_ok stored
  have kept := Canceling.of_merging combined
  have passes := find?_some found
  simp only [Bool.and_eq_true, decide_eq_true_eq, contains_iff_mem] at passes
  obtain ⟨⟨⟨⟨⟨named, _⟩, live⟩, _⟩, _⟩, _⟩ := passes
  have fresh := distinct row (mem_of_find?_eq_some found) named
  refine .updated _ _ ?_ rfl
  intro other member selected
  have same : other = row :=
    eq_of_selected ids (fun candidate passes => by
      simp only [Bool.and_eq_true, decide_eq_true_eq] at passes
      exact passes.1.1.1.1.1) found member selected
  subst same
  refine {
    live := liveStates_isTerminal live
    id := rfl
    sessionId := rfl
    history := ?_
    artifacts := ?_
    pending := fun _ unfinished => nomatch unfinished
    ended := ?_
    mergeable := ?_ }
  · simp only [store, history]
    exact kept.history.trans (prefix_append _ _)
  · simp only [store, artifacts]
    exact kept.artifacts
  · intro blank _
    simp_all [receipt, store, Receipt.blank]
  · intro mergeable
    refine ⟨?_, ?_, ?_⟩
    · refine documented.valid_congr ?_ ?_ ?_ ?_ ?_ valid
      · exact kept.id.symm
      · exact kept.contextId.symm
      · simp only [task, store, message]
      · exact history
      · exact artifacts
    · simp only [task, store, history]
      refine Rows.nodup_append (kept.distinct mergeable.messages) ?_
      intro earlier member same
      obtain known | ⟨given, proposed, known⟩ := kept.known earlier member
      · exact fresh.1 (mem_map.mpr ⟨earlier, known, same⟩)
      · exact fresh.2 given proposed (mem_map.mpr ⟨earlier, known, same⟩)
    · simp only [task, store, artifacts]
      exact kept.distinctArtifacts mergeable.artifacts

end Cancel

end Kestrel.A2A.TaskStore
