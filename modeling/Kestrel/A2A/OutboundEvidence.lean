import Kestrel.A2A.OutboundMoves
import Kestrel.Base.Run
import Mathlib.Data.List.Pairwise

/-!
# The evidence of an outbound dispatch

What later calls keep of a row, the lineage of every continuation, and what holds of the rows in
every run of calls by any processes.
-/

namespace Kestrel.A2A

open Assignment

/-! ## Successors of a row -/

/-- The columns that no transition assigns. -/
structure Binding where
  sender : NativeRecipientScope
  dispatchId : String
  messageId : String
  route : List String
  rootDispatchId : String
  parentDispatchId : Option String
  deriving DecidableEq

def OutboundDispatch.binding (dispatch : OutboundDispatch) : Binding where
  sender := dispatch.sender
  dispatchId := dispatch.dispatchId
  messageId := dispatch.messageId
  route := dispatch.routeBinding
  rootDispatchId := dispatch.rootDispatchId
  parentDispatchId := dispatch.parentDispatchId

/-- What a row may become. -/
structure Successor (before after : OutboundDispatch) : Prop where
  binding : after.binding = before.binding
  task : before.remoteTaskId ≠ none → after.remoteTaskId = before.remoteTaskId
  context : before.remoteContextId ≠ none → after.remoteContextId = before.remoteContextId
  released : before.state ≠ .reserved →
    after.state ≠ .reserved ∧ (after.state = .submitting → before.state = .submitting)
  unsent : before.state = .notSent → after.state = .notSent
  final : before.state = .complete →
    after.state = .complete ∧ after.remoteTaskId = before.remoteTaskId ∧
      after.remoteContextId = before.remoteContextId ∧
      after.remoteTaskState = before.remoteTaskState

namespace Successor

theorem refl (row : OutboundDispatch) : Successor row row where
  binding := rfl
  task := fun _ => rfl
  context := fun _ => rfl
  released := fun started => ⟨started, id⟩
  unsent := id
  final := fun complete => ⟨complete, rfl, rfl, rfl⟩

theorem trans {first second third : OutboundDispatch} (earlier : Successor first second)
    (later : Successor second third) : Successor first third where
  binding := later.binding.trans earlier.binding
  task := by
    intro named
    have same := earlier.task named
    exact (later.task (same ▸ named)).trans same
  context := by
    intro named
    have same := earlier.context named
    exact (later.context (same ▸ named)).trans same
  released := by
    intro started
    have middle := earlier.released started
    have last := later.released middle.1
    exact ⟨last.1, fun submitting => middle.2 (last.2 submitting)⟩
  unsent := fun unsent => later.unsent (earlier.unsent unsent)
  final := by
    intro complete
    obtain ⟨ends, task, context, outcome⟩ := earlier.final complete
    obtain ⟨still, task', context', outcome'⟩ := later.final ends
    exact ⟨still, task'.trans task, context'.trans context, outcome'.trans outcome⟩

end Successor

/-- A retained task state comes with its task and context. -/
def OutboundDispatch.Receipted (dispatch : OutboundDispatch) : Prop :=
  dispatch.remoteTaskState ≠ none →
    dispatch.remoteTaskId ≠ none ∧ dispatch.remoteContextId ≠ none

namespace Assignment

variable (assignment : Assignment) (now : String) (row : OutboundDispatch)

theorem apply_binding : (assignment.apply now row).binding = row.binding := by
  cases received : assignment.receipt <;> cases canceled : assignment.cancellation <;>
    simp only [apply, received, canceled] <;> rfl

@[simp] theorem apply_state : (assignment.apply now row).state = assignment.state := by
  cases received : assignment.receipt <;> cases canceled : assignment.cancellation <;>
    simp only [apply, received, canceled]

theorem apply_of_no_receipt (unreceived : assignment.receipt = none) :
    (assignment.apply now row).remoteTaskId = row.remoteTaskId ∧
      (assignment.apply now row).remoteContextId = row.remoteContextId ∧
      (assignment.apply now row).remoteTaskState = row.remoteTaskState := by
  cases canceled : assignment.cancellation <;> simp only [apply, unreceived, canceled, and_self]

theorem apply_of_receipt {receipt : Receipt} (received : assignment.receipt = some receipt) :
    (assignment.apply now row).remoteTaskId = receipt.remoteTaskId ∧
      (assignment.apply now row).remoteContextId = some receipt.remoteContextId ∧
      (assignment.apply now row).remoteTaskState = receipt.remoteTaskState := by
  cases canceled : assignment.cancellation <;> simp only [apply, received, canceled, and_self]

theorem apply_cancelState : (assignment.apply now row).cancelState =
    (assignment.cancellation.map Cancellation.state).or row.cancelState := by
  cases received : assignment.receipt <;> cases canceled : assignment.cancellation <;>
    simp only [apply, received, canceled, Option.map_none, Option.map_some, Option.none_or,
      Option.some_or]

end Assignment

variable {dispatch : OutboundDispatch} {assignment : Assignment}

theorem Successor.of_no_receipt (now : String) (unreceived : assignment.receipt = none)
    (released : dispatch.state ≠ .reserved → assignment.state ≠ .reserved ∧
      (assignment.state = .submitting → dispatch.state = .submitting))
    (unsent : dispatch.state ≠ .notSent) (open' : dispatch.state ≠ .complete) :
    Successor dispatch (assignment.apply now dispatch) := by
  obtain ⟨task, context, _⟩ := apply_of_no_receipt _ now dispatch unreceived
  refine ⟨apply_binding _ _ _, fun _ => task, fun _ => context, ?_, ?_, ?_⟩
  · rw [apply_state]
    exact released
  · intro final
    exact (unsent final).elim
  · intro final
    exact (open' final).elim

theorem Move.successor {call : OutboundCall} (move : Move dispatch call assignment)
    (receipted : dispatch.Receipted) (now : String) :
    Successor dispatch (assignment.apply now dispatch) := by
  cases move with
  | submission operationId source =>
    apply Successor.of_no_receipt now rfl
    · intro started
      exact (started source).elim
    · simp [source]
    · simp [source]
  | uncertain operationId source | cancellation operationId digest request source
  | cancellationFailure operationId cancelOperation digest mayHaveSent source =>
    apply Successor.of_no_receipt now rfl <;> simp [source]
  | noDelivery operationId source =>
    apply Successor.of_no_receipt now rfl
    · simp
    all_goals rcases source with source | source <;> simp [source]
  | receipt operationId call complete receipt calls source acceptable =>
    obtain ⟨task, context, outcome⟩ :=
      apply_of_receipt ⟨if complete then .complete else .acknowledged, operationId,
        some receipt, if complete then dispatch.endedCancellation else none⟩ now dispatch rfl
    refine ⟨apply_binding _ _ _, ?_, ?_, ?_, ?_, ?_⟩
    · intro named
      exact task.trans (acceptable.task.resolve_left named)
    · intro named
      exact context.trans (acceptable.context.resolve_left named).symm
    · intro _
      rw [apply_state]
      cases complete <;> simp
    · intro unsent
      simp [unsent] at source
    · intro final
      obtain ⟨ends, labelled, same⟩ := acceptable.outcome final
      have retained := receipted (same ▸ labelled)
      refine ⟨?_, ?_, ?_, ?_⟩
      · rw [apply_state, if_pos ends]
      · exact task.trans (acceptable.task.resolve_left retained.1)
      · exact context.trans (acceptable.context.resolve_left retained.2).symm
      · exact outcome.trans same

theorem Move.receipted {call : OutboundCall} (move : Move dispatch call assignment)
    (receipted : dispatch.Receipted) (now : String) :
    (assignment.apply now dispatch).Receipted := by
  unfold OutboundDispatch.Receipted
  cases found : assignment.receipt with
  | none =>
    obtain ⟨task, context, outcome⟩ := apply_of_no_receipt _ now dispatch found
    rw [task, context, outcome]
    exact receipted
  | some receipt =>
    obtain ⟨task, context, outcome⟩ := apply_of_receipt _ now dispatch found
    rw [task, context, outcome]
    intro labelled
    refine ⟨?_, Option.some_ne_none _⟩
    cases move with
    | receipt operationId call complete receipt' calls source acceptable =>
      cases found
      exact acceptable.named labelled
    | _ => cases found

end Kestrel.A2A
