import Kestrel.Security.ApprovalInvariant

/-!
# One decision for each approval request

At most one submission is accepted; an accepted decision is what the live call returns; without one
the call is told of a timeout or a cancellation; one audit row at most is written, and it names the
outcome; and nobody waits for a request that left the table. This holds over runs in which nothing
touches a request while a decision for its live call is applied.
-/

namespace Kestrel.Security.Approval

open Request

/-- The next steps of the call of a request return a decision, if they have not yet. -/
def Request.Returns (setup : Setup) (request : Request) (approved : Bool) (scope : String) : Prop :=
  request.caller = .returned approved scope ∨
    (∃ after, request.act setup .wake = some after ∧ after.caller = .returned approved scope) ∨
    ∃ middle after, request.act setup .announced = some middle ∧
      middle.act setup .wake = some after ∧ after.caller = .returned approved scope

/-- The promises of the queue about one request. -/
structure Request.Contract (setup : Setup) (request : Request) : Prop where
  /-- At most one submission is accepted. -/
  one : request.submissions.length ≤ 1
  /-- What was accepted for a live call is what the call returns. -/
  decided : ∀ submission ∈ request.submissions, ∀ persisted,
    submission.stage = .finished persisted → submission.awaiterGone = false →
    request.Returns setup submission.approved submission.scope
  /-- Without a decision nothing is granted, and the call is told so. -/
  undecided : request.submissions = [] → request.grants = [] ∧
    ∀ approved scope, request.caller = .returned approved scope →
      approved = false ∧ scope ∈ ["timeout", "cancelled", "cancelled_all"]
  /-- One audit row at most, which names the outcome. -/
  audited : request.audit.length ≤ 1 ∧ ∀ row ∈ request.audit,
    (∀ approved scope, request.caller = .returned approved scope → row = auditRow approved scope) ∧
    (request.caller = .cancelled → ∃ submission ∈ request.submissions,
      row = auditRow submission.approved submission.scope)
  /-- Nobody waits for a request that left the table. -/
  awaited : request.pending = false → request.caller.live = true → request.resumed = true

/-- A step that meets no decision it would race with. -/
def Queue.Careful (queue : Queue) : Step → Prop
  | .requestApproval _ _ _ => True
  | .act id event => ∀ request, queue.request id = some request → request.Careful event
  | .cancelAll => ∀ id request, queue.request id = some request → request.Unattended
  | .sweepStale now olderThanSeconds => ∀ id request, queue.request id = some request →
      request.pending = true → request.resumed = false →
      olderThanSeconds ≤ now - request.createdAt →
      request.caller.live = false ∧
        ∀ submission ∈ request.submissions, submission.awaiterGone = true

section Contract

variable {setup : Setup} {request : Request} {submission : Submission}

theorem Request.Holds.returns (held : request.Holds submission)
    (live : request.caller.live = true) (resumed : request.resumed = true) :
    request.Returns setup submission.approved submission.scope := by
  cases caller : request.caller with
  | waiting =>
    exact .inr (.inl ⟨request.wake, by simp [act, caller, resumed],
      wake_caller held⟩)
  | announcing =>
    refine .inr (.inr ⟨{ request with caller := .waiting },
      { request with caller := .waiting : Request }.wake, ?_, ?_, ?_⟩)
    · simp [act, caller]
    · simp [act, resumed]
    · exact wake_caller ⟨held.status, held.decision, held.scope⟩
  | expiring | withdrawing | returned | cancelled => simp [caller, Caller.live] at live

theorem Undecided.contract (undecided : Undecided request) : request.Contract setup where
  one := by simp [undecided.submissions]
  decided := by simp [undecided.submissions]
  undecided := by
    intro _
    refine ⟨undecided.grants, ?_⟩
    intro approved scope caller
    obtain ⟨denied, ⟨rfl, _⟩ | ⟨told, _⟩⟩ := undecided.returned approved scope caller
    · exact ⟨denied, by simp⟩
    · exact ⟨denied, by obtain rfl | rfl := told <;> simp⟩
  audited := by
    have row : request.audit = [] ∨
        request.audit = [auditRow false "timeout"] ∧ request.caller ≠ .cancelled ∧
          ∀ approved scope, request.caller = .returned approved scope →
            auditRow false "timeout" = auditRow approved scope := by
      cases caller : request.caller with
      | announcing | waiting => exact .inl (undecided.live (by simp [caller, Caller.live])).2
      | expiring => exact .inl (undecided.expiring caller)
      | withdrawing passing =>
        obtain none | ⟨_, one⟩ := undecided.withdrawing passing caller
        · exact .inl none
        · exact .inr ⟨one, by simp, by simp⟩
      | cancelled => exact .inl (undecided.cancelled caller)
      | returned approved scope =>
        obtain ⟨rfl, ⟨rfl, none | one⟩ | ⟨_, none⟩⟩ := undecided.returned approved scope caller
        · exact .inl none
        · refine .inr ⟨one, by simp, ?_⟩
          intro approved scope same
          cases same
          rfl
        · exact .inl none
    obtain none | ⟨one, unhurt, named⟩ := row
    · simp [none]
    · refine ⟨by simp [one], ?_⟩
      intro row member
      rw [one, List.mem_singleton] at member
      subst member
      exact ⟨named, fun gone => absurd gone unhurt⟩
  awaited := by
    intro left live
    rw [(undecided.live live).1] at left
    cases left

theorem InFlight.contract (flight : InFlight request submission) : request.Contract setup where
  one := by simp [flight.submissions]
  decided := by
    intro other member persisted finished
    rw [flight.submissions, List.mem_singleton] at member
    subst member
    exact absurd finished (flight.unfinished persisted)
  undecided := by simp [flight.submissions]
  audited := by simp [flight.audit]
  awaited := by
    intro left live
    obtain ⟨_, gone⟩ | ⟨_, ⟨_, _, _, pending⟩ | ⟨gone, _⟩⟩ := flight.place
    · simp [gone, Caller.live] at live
    · rw [pending] at left
      cases left
    · simp [gone, Caller.live] at live

theorem Final.contract (final : Final request submission) : request.Contract setup where
  one := by simp [final.submissions]
  decided := by
    intro other member persisted finished present
    rw [final.submissions, List.mem_singleton] at member
    subst member
    obtain ⟨gone, _⟩ | ⟨_, ⟨live, held, resumed⟩ | returned⟩ := final.place
    · rw [gone] at present
      cases present
    · exact held.returns live resumed
    · exact .inl returned
  undecided := by simp [final.submissions]
  audited := by
    obtain none | one := final.audit
    · simp [none]
    · refine ⟨by simp [one], ?_⟩
      intro row member
      rw [one, List.mem_singleton] at member
      subst member
      refine ⟨?_, fun _ => ⟨submission, by simp [final.submissions], rfl⟩⟩
      intro approved scope told
      obtain ⟨_, gone⟩ | ⟨_, ⟨live, _⟩ | returned⟩ := final.place
      · rw [gone] at told
        cases told
      · simp [told, Caller.live] at live
      · rw [returned] at told
        cases told
        rfl
  awaited := by
    intro _ live
    obtain ⟨_, gone⟩ | ⟨_, ⟨_, _, resumed⟩ | returned⟩ := final.place
    · simp [gone, Caller.live] at live
    · exact resumed
    · simp [returned, Caller.live] at live

theorem Sound.contract (sound : Sound request) : request.Contract setup := by
  cases sound with
  | undecided undecided => exact undecided.contract
  | inFlight submission flight => exact flight.contract
  | final submission final => exact final.contract

theorem Queue.sound_step {source target : Queue} {step : Step}
    (sound : ∀ id request, source.request id = some request → Sound request)
    (careful : source.Careful step) (stepped : source.step setup step = some target) :
    ∀ id request, target.request id = some request → Sound request := by
  cases step with
  | requestApproval newId createdAt timeoutSeconds =>
    simp only [Queue.step] at stepped
    cases free : source.request newId with
    | some _ =>
      simp only [free] at stepped
      cases stepped
    | none =>
      simp only [free] at stepped
      cases stepped
      intro id request found
      dsimp only at found
      by_cases same : id = newId
      · subst same
        rw [Function.update_self] at found
        cases found
        exact .queued setup createdAt timeoutSeconds
      · rw [Function.update_of_ne same] at found
        exact sound id request found
  | act actedId event =>
    simp only [Queue.step, Option.map_eq_some_iff, Option.bind_eq_some_iff] at stepped
    obtain ⟨after, ⟨before, stored, acted⟩, rfl⟩ := stepped
    intro id request found
    dsimp only at found
    by_cases same : id = actedId
    · subst same
      rw [Function.update_self] at found
      cases found
      exact (sound id before stored).act (careful before stored) acted
    · rw [Function.update_of_ne same] at found
      exact sound id request found
  | cancelAll =>
    cases stepped
    intro id request found
    obtain ⟨before, stored, rfl⟩ := Option.map_eq_some_iff.mp found
    exact (sound id before stored).cancel (.inr rfl) (careful id before stored)
  | sweepStale now olderThanSeconds =>
    cases stepped
    intro id request found
    obtain ⟨before, stored, rfl⟩ := Option.map_eq_some_iff.mp found
    exact (sound id before stored).sweep (careful id before stored)

end Contract

/-- Every careful run keeps the promises about every request. -/
theorem approvals_decided_once (setup : Setup) (steps : List Step) (queue : Queue)
    (run : Transition.Run (Transition.Guarded (Queue.Steps setup) Queue.Careful) Queue.empty steps
      queue) (id : String) (request : Request) (stored : queue.request id = some request) :
    request.Contract setup := by
  have sound : ∀ id request, queue.request id = some request → Sound request := by
    refine @Transition.invariant_of_guarded _ _ _ _
      (fun queue => ∀ id request, queue.request id = some request → Sound request) ?_ _ _ _ ?_ run
    · intro source step target valid careful stepped
      exact Queue.sound_step valid careful stepped
    · intro id request impossible
      cases impossible
  exact (sound id request stored).contract

section Samples

/-- A queue with a permission store and without callbacks. -/
def Setup.sample : Setup := ⟨true, false, false⟩

/-- A decision is submitted and persisted, and the call wakes. -/
def sampleDecision : List Step :=
  [.requestApproval "r" 0 none, .act "r" (.submit true "once"), .act "r" (.logged 0 true),
    .act "r" .wake]

theorem approvals_decided_once_woken :
    ∃ queue request, sampleDecision.foldlM (Queue.step .sample) .empty = some queue ∧
      queue.request "r" = some request ∧ request.caller = .returned true "once" ∧
      request.Contract .sample := by
  refine ⟨_, _, rfl, rfl, rfl, approvals_decided_once .sample sampleDecision _
    (.cons ⟨trivial, rfl⟩ (.cons ⟨?_, rfl⟩ (.cons ⟨?_, rfl⟩ (.cons ⟨?_, rfl⟩ (.nil _))))) "r" _ rfl⟩
  · intro request stored
    cases stored
    intro _
    exact ⟨fun _ => ⟨rfl, by simp⟩, fun _ => rfl⟩
  all_goals exact fun _ _ => trivial

/-- `cancel_request` lands while the decision is persisted. -/
def sampleCancelRace : List Step :=
  [.requestApproval "r" 0 none, .act "r" (.submit true "once"), .act "r" .cancelRequest,
    .act "r" .wake, .act "r" (.logged 0 true)]

/-- The call is cancelled while the decision is persisted, and a second one is submitted. -/
def sampleSecondDecision : List Step :=
  [.requestApproval "r" 0 none, .act "r" (.submit true "once"), .act "r" (.cancelTask false),
    .act "r" (.submit false "once")]

/-- A sweep takes out a request whose call waits without a cap. -/
def sampleSweep : List Step := [.requestApproval "r" 0 none, .sweepStale 10 5]

/-- An accepted approval is overridden by a cancellation, two submissions are accepted, and a swept
request leaves its call waiting. -/
theorem raced_decisions_break_contract :
    (∃ queue request, Transition.Run (Queue.Steps .sample) .empty sampleCancelRace queue ∧
      queue.request "r" = some request ∧ ¬ request.Contract .sample) ∧
    (∃ queue request, Transition.Run (Queue.Steps .sample) .empty sampleSecondDecision queue ∧
      queue.request "r" = some request ∧ ¬ request.Contract .sample) ∧
    ∃ queue request, Transition.Run (Queue.Steps .sample) .empty sampleSweep queue ∧
      queue.request "r" = some request ∧ ¬ request.Contract .sample := by
  refine ⟨⟨_, _, Transition.Run.of_foldlM rfl, rfl, ?_⟩,
    ⟨_, _, Transition.Run.of_foldlM rfl, rfl, ?_⟩, ⟨_, _, Transition.Run.of_foldlM rfl, rfl, ?_⟩⟩
  · intro contract
    have named := (contract.audited.2 _ (List.mem_singleton.mpr rfl)).1 _ _ rfl
    exact absurd named (by decide)
  · intro contract
    exact absurd contract.one (by decide)
  · intro contract
    exact absurd (contract.awaited rfl rfl) (by decide)

end Samples

end Kestrel.Security.Approval
