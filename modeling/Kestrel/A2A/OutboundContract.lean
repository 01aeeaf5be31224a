import Kestrel.A2A.OutboundRuns

/-!
# The contract of the outbound ledger

An original message is admitted once, and the evidence of its dispatch never goes back.
-/

namespace Kestrel.A2A

open List Except

/-! ## Reconciliation -/

/-- The snapshots kept of the candidates so far are exactly those that claim the message. -/
def Collected (wire : Wire) (dispatch : OutboundDispatch) (processed found : List Task) : Prop :=
  ∀ candidate, candidate ∈ found ↔ candidate ∈ processed ∧ candidate.claims wire dispatch

variable {wire : Wire} {dispatch : OutboundDispatch}

theorem collectMatch_eq_ok {processed found after : List Task} {candidate : Task}
    (collected : Collected wire dispatch processed found)
    (succeeded : collectMatch wire dispatch found candidate = .ok after) :
    Collected wire dispatch (processed ++ [candidate]) after := by
  unfold collectMatch at succeeded
  obtain ⟨_, succeeded⟩ := require_bind_eq_ok.mp succeeded
  intro other
  simp only [mem_append, mem_singleton]
  split_ifs at succeeded with claims
  · cases known : found.find? fun previous => previous.id = candidate.id with
    | none =>
      rw [known] at succeeded
      rw [← ok.inj succeeded, mem_append, mem_singleton, collected other]
      constructor
      · intro member
        rcases member with ⟨older, claimed⟩ | rfl
        · exact ⟨.inl older, claimed⟩
        · exact ⟨.inr rfl, claims⟩
      · intro member
        obtain ⟨older | same, claimed⟩ := member
        · exact .inl ⟨older, claimed⟩
        · exact .inr same
    | some previous =>
      rw [known] at succeeded
      obtain ⟨same, succeeded⟩ := require_bind_eq_ok.mp succeeded
      rw [← ok.inj succeeded, collected other]
      constructor
      · intro member
        exact ⟨.inl member.1, member.2⟩
      · intro member
        obtain ⟨older | rfl, claimed⟩ := member
        · exact ⟨older, claimed⟩
        · rw [← collected, ← same]
          exact mem_of_find?_eq_some known
  · rw [← ok.inj succeeded, collected other]
    constructor
    · intro member
      exact ⟨.inl member.1, member.2⟩
    · intro member
      obtain ⟨older | rfl, claimed⟩ := member
      · exact ⟨older, claimed⟩
      · exact (claims claimed).elim

theorem reconciliationCandidate_eq_ok {candidates : List Task} {candidate : Task}
    (selected : reconciliationCandidate wire dispatch candidates = .ok (some candidate)) :
    dispatch.state = .unknown ∧ candidate ∈ candidates ∧ candidate.claims wire dispatch ∧
      ∀ other ∈ candidates, other.claims wire dispatch → other = candidate := by
  unfold reconciliationCandidate at selected
  obtain ⟨unknown, selected⟩ := require_bind_eq_ok.mp selected
  obtain ⟨found, folded, selected⟩ := bind_eq_ok.mp selected
  have collected : Collected wire dispatch candidates found := by
    refine @foldlM_induction _ _ _ _ (Collected wire dispatch) _ _ ?_ ?_ _ folded
    · intro processed value rest middle after _ _ collected stepped
      exact collectMatch_eq_ok collected stepped
    · intro other
      simp
  refine ⟨unknown, ?_⟩
  split at selected
  · cases selected
  next only =>
    cases selected
    obtain ⟨member, claims⟩ := (collected candidate).mp mem_cons_self
    refine ⟨member, claims, ?_⟩
    intro other stored claimed
    exact mem_singleton.mp ((collected other).mpr ⟨stored, claimed⟩)
  · cases selected

theorem validateResponse_task {answer : Task} {taskId : Option String} {complete : Bool}
    {digest : String}
    (validated : validateResponse wire dispatch (.task answer) = .ok (taskId, complete, digest)) :
    taskId = some answer.id := by
  unfold validateResponse at validated
  obtain ⟨_, validated⟩ := require_bind_eq_ok.mp validated
  obtain ⟨_, validated⟩ := require_bind_eq_ok.mp validated
  obtain ⟨_, validated⟩ := require_bind_eq_ok.mp validated
  rw [bind_eq_ok, Prod.exists] at validated
  obtain ⟨named, ends, identified, validated⟩ := validated
  obtain ⟨_, validated⟩ := require_bind_eq_ok.mp validated
  obtain ⟨_, validated⟩ := require_bind_eq_ok.mp validated
  rw [← (Prod.mk.inj (ok.inj validated)).1]
  obtain ⟨_, same⟩ := require_bind_eq_ok.mp identified
  exact (Prod.mk.inj (ok.inj same)).1.symm

structure Adopts (wire : Wire) (rows : OutboundRows) (dispatch : OutboundDispatch)
    (candidates : List Task) (committed : OutboundDispatch) (adopted : Task) : Prop where
  stored : dispatch ∈ rows
  uncertain : dispatch.state = .unknown
  candidate : adopted ∈ candidates
  claims : adopted.claims wire dispatch
  unique : ∀ other ∈ candidates, other.claims wire dispatch → other = adopted
  task : committed.remoteTaskId = some adopted.id
  key : committed.key = dispatch.key

theorem reconcile_adopts {scope : NativeRecipientScope} {now operationId : String}
    {rows after : OutboundRows} {committed : OutboundDispatch} {candidates : List Task}
    (reconciled : reconcile wire scope now rows dispatch operationId candidates =
      .ok (after, some committed)) :
    ∃ adopted, Adopts wire rows dispatch candidates committed adopted := by
  unfold reconcile at reconciled
  obtain ⟨selection, selected, reconciled⟩ := bind_eq_ok.mp reconciled
  cases selection with
  | none => cases reconciled
  | some adopted =>
    obtain ⟨uncertain, candidate, claims, unique⟩ := reconciliationCandidate_eq_ok selected
    obtain ⟨⟨taskId, complete, digest⟩, validated, reconciled⟩ := bind_eq_ok.mp reconciled
    dsimp only at reconciled
    obtain ⟨_, impossible⟩ | ⟨read, stored, owned, _, rfl, indexed, found, same⟩ :=
      transition_eq_ok reconciled
    · cases impossible
    · cases same
      have moved := committed_eq stored owned indexed found
      refine ⟨adopted, stored, uncertain, candidate, claims, unique, ?_, ?_⟩
      · have received := Assignment.apply_of_receipt ⟨if complete then .complete else .acknowledged,
          operationId, some ⟨taskId, adopted.contextId, digest, "task", taskStateLabel adopted.state⟩,
          if complete then dispatch.endedCancellation else none⟩ now dispatch rfl
        rw [moved, ← validateResponse_task validated]
        exact received.1
      · rw [moved]
        exact OutboundDispatch.key_eq_of_binding (Assignment.apply_binding _ _ _)

/-! ## The contract -/

/-- What holds of the rows after a run, and of what a longer run makes of them. -/
structure OutboundContract (wire : Wire) (steps later : List OutboundStep) : Prop where
  /-- No row is lost. -/
  kept : ∀ row ∈ outboundLedger wire steps,
    ∃ after ∈ outboundLedger wire (steps ++ later), after.key = row.key
  /-- A message id is reserved by one dispatch of its sender. -/
  messages : ∀ first ∈ outboundLedger wire steps,
    ∀ second ∈ outboundLedger wire (steps ++ later), first.sender = second.sender →
      first.messageId = second.messageId → first.dispatchId = second.dispatchId
  submissions : ∀ key, Transition.countAlong (OutboundStep.apply wire)
    (OutboundStep.submits wire key) [] steps ≤ 1
  monotone : ∀ row ∈ outboundLedger wire steps,
    row.state ∈ [DispatchState.unknown, .notSent, .complete] →
      ∀ after ∈ outboundLedger wire (steps ++ later), after.key = row.key →
        after.state ≠ .reserved ∧ after.state ≠ .submitting
  final : ∀ row ∈ outboundLedger wire steps, row.state = .complete →
    ∀ after ∈ outboundLedger wire (steps ++ later), after.key = row.key →
      after.state = .complete ∧ after.remoteTaskId = row.remoteTaskId ∧
        after.remoteContextId = row.remoteContextId ∧
        after.remoteTaskState = row.remoteTaskState
  owners : ∀ first ∈ outboundLedger wire steps, ∀ second ∈ outboundLedger wire steps,
    first.sender = second.sender → first.peer = second.peer →
      ∀ taskId, first.ownsTask taskId → second.ownsTask taskId → first = second
  lineages : ∀ row ∈ outboundLedger wire steps, ∃ root,
    Lineage (outboundLedger wire steps) row root ∧ root ∈ outboundLedger wire steps ∧
      root.parentDispatchId = none ∧ root.dispatchId = row.rootDispatchId ∧
      root.routeBinding = row.routeBinding ∧
      (row.parentDispatchId ≠ none → row.remoteTaskId ≠ none ∧
        root.remoteTaskId = row.remoteTaskId ∧ row.remoteContextId ≠ none ∧
        root.remoteContextId = row.remoteContextId)
  continuations : ∀ first ∈ outboundLedger wire steps, ∀ second ∈ outboundLedger wire steps,
    first.sender = second.sender → ∀ parentId, first.liveContinuationOf parentId →
      second.liveContinuationOf parentId → first = second
  /-- Of the cancellations of a dispatch, all but one are known never to have been sent. -/
  cancellations : ∀ key,
    Transition.countAlong (OutboundStep.apply wire) (OutboundStep.cancels wire key) [] steps ≤
      Transition.countAlong (OutboundStep.apply wire) (OutboundStep.withdraws wire key) [] steps +
        1
  reconciliations : ∀ (step : OutboundStep) (dispatch : OutboundDispatch) (candidates : List Task)
    (after : OutboundRows) (committed : OutboundDispatch),
    step.call = .reconcile dispatch candidates →
      step.perform wire (outboundLedger wire steps) = .ok (after, some committed) →
        ∃ adopted, Adopts wire (outboundLedger wire steps) dispatch candidates committed adopted

theorem successor_of_key (wire : Wire) (steps later : List OutboundStep) {row after : OutboundDispatch}
    (stored : row ∈ outboundLedger wire steps)
    (stored' : after ∈ outboundLedger wire (steps ++ later)) (same : after.key = row.key) :
    Successor row after := by
  obtain ⟨found, member, successor⟩ := outboundLedger_succeeds wire steps later row stored
  have named := OutboundDispatch.key_eq_of_binding successor.binding
  rw [(outboundLedger_sound wire (steps ++ later)).eq_of_key stored' member (same.trans named.symm)]
  exact successor

/-- Outbound evidence is monotone, and an original message is admitted once. -/
theorem outbound_evidence_monotone (wire : Wire) (steps later : List OutboundStep) :
    OutboundContract wire steps later := by
  have sound := outboundLedger_sound wire steps
  have succeeds := outboundLedger_succeeds wire steps later
  refine ⟨?_, ?_, ?_, ?_, ?_, ?_, ?_, ?_, ?_, ?_⟩
  · intro row stored
    obtain ⟨after, member, successor⟩ := succeeds row stored
    exact ⟨after, member, OutboundDispatch.key_eq_of_binding successor.binding⟩
  · intro first stored second stored' sender message
    obtain ⟨after, member, successor⟩ := succeeds first stored
    have kept := successor.binding
    have same : after = second := by
      apply (outboundLedger_sound wire (steps ++ later)).indexed.eq_of_conflicts member stored'
      refine ⟨(congrArg Binding.sender kept).trans sender, .inr (.inl ?_)⟩
      exact (congrArg Binding.messageId kept).trans message
    rw [← same]
    exact (congrArg Binding.dispatchId kept).symm
  · exact fun key => submissions_le_one wire key steps
  · intro row stored past after stored' same
    have successor := successor_of_key wire steps later stored stored' same
    have started : row.state ≠ .reserved ∧ row.state ≠ .submitting := by
      simp only [mem_cons, not_mem_nil, or_false] at past
      rcases past with past | past | past <;> simp [past]
    have released := successor.released started.1
    exact ⟨released.1, fun submitting => started.2 (released.2 submitting)⟩
  · intro row stored complete after stored' same
    exact (successor_of_key wire steps later stored stored' same).final complete
  · intro first stored second stored' sender peer taskId owns owns'
    apply sound.indexed.eq_of_conflicts stored stored'
    exact ⟨sender, .inr (.inr (.inl ⟨peer, taskId, owns.1, owns, owns'⟩))⟩
  · intro row stored
    obtain ⟨root, lineage⟩ := sound.lineages row stored
    exact ⟨root, lineage, lineage.ends⟩
  · intro first stored second stored' sender parentId live live'
    apply sound.indexed.eq_of_conflicts stored stored'
    exact ⟨sender, .inr (.inr (.inr ⟨parentId, live.1, live, live'⟩))⟩
  · exact fun key => cancellations_le wire key steps
  · intro step dispatch candidates after committed called performed
    unfold OutboundStep.perform at performed
    rw [called] at performed
    exact reconcile_adopts performed

end Kestrel.A2A
