import Kestrel.Security.ApprovalQueue

/-!
# The invariant of a request

A request is undecided, has one decision in flight, or has one decision that is final. Careful steps
keep this: nothing else touches a request while a decision for a live call is in flight.
-/

namespace Kestrel.Security.Approval

open Request Caller Option

variable {setup : Setup} {request after : Request} {submission : Submission}

/-- A cancellation or a sweep meets no decision that is in flight for a live call. -/
def Request.Unattended (request : Request) : Prop :=
  request.pending = true → ∀ submission ∈ request.submissions, submission.awaiterGone = true

/-- An event that meets no decision it would race with. -/
def Request.Careful (request : Request) : Event → Prop
  | .submit _ scope => request.pending = true →
      (request.status = .pending → request.caller.live = true ∧ scope ≠ "") ∧
      (request.status = .awaiterGone → request.submissions = [])
  | .cancelTask written =>
    match request.caller with
    | .announcing => request.submissions = []
    | .waiting => ∀ submission ∈ request.submissions,
        ∀ persisted, submission.stage ≠ .finished persisted
    | .expiring => written = false
    | .withdrawing _ => request.audit = []
    | .returned _ _ | .cancelled => True
  | .expire => request.submissions = []
  | .cancelRequest => request.Unattended
  | _ => True

/-- The reply that tells of a cancellation of the request. -/
def CancelScope (scope : String) : Prop := scope = "cancelled" ∨ scope = "cancelled_all"

/-- No submission was accepted. -/
structure Undecided (request : Request) : Prop where
  submissions : request.submissions = []
  grants : request.grants = []
  unapproved : request.status ≠ .approved
  gone : request.status = .awaiterGone → request.caller = .cancelled
  reason : request.resumed = true → ∃ scope, request.userDecision = some scope ∧ CancelScope scope
  settled : request.resumed = true → request.status ≠ .pending
  live : request.caller.live = true → request.pending = true ∧ request.audit = []
  expiring : request.caller = .expiring → request.audit = []
  withdrawing : ∀ cancelled, request.caller = .withdrawing cancelled →
    (request.audit = [] ∨ cancelled = false ∧ request.audit = [auditRow false "timeout"])
  returned : ∀ approved scope, request.caller = .returned approved scope → approved = false ∧
    (scope = "timeout" ∧ (request.audit = [] ∨ request.audit = [auditRow false "timeout"]) ∨
      CancelScope scope ∧ request.audit = [])
  cancelled : request.caller = .cancelled → request.audit = []

/-- The status and the decision are those of a submission. -/
structure Request.Holds (request : Request) (submission : Submission) : Prop where
  status : request.status = if submission.approved then .approved else .denied
  decision : request.userDecision = some submission.scope
  scope : submission.scope ≠ ""

/-- One submission is being persisted. -/
structure InFlight (request : Request) (submission : Submission) : Prop where
  submissions : request.submissions = [submission]
  unfinished : ∀ persisted, submission.stage ≠ .finished persisted
  audit : request.audit = []
  place : (submission.awaiterGone = true ∧ request.caller = .cancelled) ∨
    submission.awaiterGone = false ∧
      (request.caller.live = true ∧ request.Holds submission ∧ request.resumed = false ∧
          request.pending = true ∨
        request.caller = .cancelled ∧ request.status = .awaiterGone)

structure Final (request : Request) (submission : Submission) : Prop where
  submissions : request.submissions = [submission]
  finished : ∃ persisted, submission.stage = .finished persisted
  left : request.pending = false
  audit : request.audit = [] ∨ request.audit = [auditRow submission.approved submission.scope]
  place : (submission.awaiterGone = true ∧ request.caller = .cancelled) ∨
    submission.awaiterGone = false ∧
      (request.caller.live = true ∧ request.Holds submission ∧ request.resumed = true ∨
        request.caller = .returned submission.approved submission.scope)

/-- The three situations of a request. -/
inductive Sound (request : Request) : Prop where
  | undecided (undecided : Undecided request)
  | inFlight (submission : Submission) (inFlight : InFlight request submission)
  | final (submission : Submission) (final : Final request submission)

theorem Sound.queued (setup : Setup) (createdAt : ℤ) (timeoutSeconds : Option ℤ) :
    Sound (.queued setup createdAt timeoutSeconds) := by
  refine .undecided ?_
  cases setup with
  | mk store added withdrawn =>
    cases added <;> constructor <;> simp [Request.queued, Caller.live]

/-! ## The call -/

theorem Sound.announced (sound : Sound request)
    (stepped : request.act setup .announced = some after) : Sound after := by
  simp only [act, ite_none_right_eq_some, Option.some.injEq] at stepped
  obtain ⟨announcing, rfl⟩ := stepped
  cases sound with
  | undecided undecided =>
    have live := undecided.live (by simp [announcing, live])
    refine .undecided { undecided with
      gone := fun gone => absurd (undecided.gone gone) (by simp [announcing])
      live := fun _ => live
      expiring := ?_
      withdrawing := ?_
      returned := ?_
      cancelled := ?_ }
    all_goals simp
  | inFlight submission flight =>
    refine .inFlight submission { flight with place := ?_ }
    have place := flight.place
    simp_all [live]
    exact ⟨place.2.1.1, place.2.1.2, place.2.1.3⟩
  | final submission final =>
    refine .final submission { final with place := ?_ }
    have place := final.place
    simp_all [live]
    exact ⟨place.2.1.1, place.2.1.2, place.2.1.3⟩

theorem Request.wake_caller (held : request.Holds submission) :
    request.wake.caller = .returned submission.approved submission.scope := by
  simp only [wake, held.decision, held.status, if_neg held.scope]
  cases submission.approved <;> simp

theorem Sound.wake (sound : Sound request)
    (stepped : request.act setup .wake = some after) : Sound after := by
  simp only [act, ite_none_right_eq_some, Option.some.injEq] at stepped
  obtain ⟨⟨waiting, resumed⟩, rfl⟩ := stepped
  have live : request.caller.live = true := by simp [waiting, live]
  cases sound with
  | undecided undecided =>
    obtain ⟨scope, decision, told⟩ := undecided.reason resumed
    have named : scope ≠ "" := by
      obtain rfl | rfl := told <;> simp
    have caller : request.wake.caller = .returned false scope := by
      simp [wake, decision, named, undecided.unapproved]
    refine .undecided { undecided with
      gone := fun gone => absurd (undecided.gone gone) (by simp [waiting])
      live := ?_
      expiring := ?_
      withdrawing := ?_
      returned := ?_
      cancelled := ?_ }
    · simp [caller, Caller.live]
    · simp [caller]
    · simp [caller]
    · intro approved other same
      rw [caller] at same
      cases same
      exact ⟨rfl, .inr ⟨told, (undecided.live live).2⟩⟩
    · simp [caller]
  | inFlight submission flight =>
    obtain gone | held := flight.place
    · rw [waiting] at gone
      cases gone.2
    · obtain ⟨_, held | gone⟩ := held
      · rw [held.2.2.1] at resumed
        cases resumed
      · rw [waiting] at gone
        cases gone.1
  | final submission final =>
    obtain gone | ⟨present, held⟩ := final.place
    · rw [waiting] at gone
      cases gone.2
    · obtain held | returned := held
      · exact .final submission { final with
          left := rfl
          place := .inr ⟨present, .inr (wake_caller held.2.1)⟩ }
      · rw [waiting] at returned
        cases returned

variable {cancelled written : Bool} {index : ℕ}

theorem Undecided.abandon (undecided : Undecided request) (status : request.status ≠ .awaiterGone)
    (audit : request.audit = [] ∨ cancelled = false ∧ request.audit = [auditRow false "timeout"]) :
    Undecided (request.abandon setup cancelled) := by
  have caller : (request.abandon setup cancelled).caller = .withdrawing cancelled ∨
      cancelled = true ∧ (request.abandon setup cancelled).caller = .cancelled ∨
      cancelled = false ∧ (request.abandon setup cancelled).caller = .returned false "timeout" := by
    unfold Request.abandon
    cases request.pending && setup.onRequestWithdrawn <;> cases cancelled <;> simp
  refine { undecided with
    gone := fun gone => absurd gone status
    live := ?_
    expiring := ?_
    withdrawing := ?_
    returned := ?_
    cancelled := ?_ }
  · obtain same | ⟨_, same⟩ | ⟨_, same⟩ := caller <;> simp [same, Caller.live]
  · obtain same | ⟨_, same⟩ | ⟨_, same⟩ := caller <;> simp [same]
  · intro passing
    obtain same | ⟨_, same⟩ | ⟨_, same⟩ := caller
    · intro known
      rw [same] at known
      cases known
      exact audit
    · simp [same]
    · simp [same]
  · intro approved scope known
    obtain same | ⟨_, same⟩ | ⟨unhurt, same⟩ := caller
    · simp [same] at known
    · simp [same] at known
    · rw [same] at known
      cases known
      exact ⟨rfl, .inl ⟨rfl, audit.imp_right And.right⟩⟩
  · intro known
    obtain same | ⟨raised, same⟩ | ⟨_, same⟩ := caller
    · simp [same] at known
    · obtain none | ⟨unhurt, _⟩ := audit
      · exact none
      · rw [raised] at unhurt
        cases unhurt
    · simp [same] at known

theorem Undecided.logTimeout (undecided : Undecided request) (expiring : request.caller = .expiring)
    (unhurt : cancelled = false ∨ written = false) :
    Undecided ((request.logTimeout written).abandon setup cancelled) := by
  have none := undecided.expiring expiring
  have status : request.status ≠ .awaiterGone :=
    fun gone => absurd (undecided.gone gone) (by simp [expiring])
  cases written with
  | false => exact undecided.abandon status (.inl none)
  | true =>
    have kept : cancelled = false := unhurt.resolve_right (by simp)
    have row : request.audit ++ [auditRow false "timeout"] = [auditRow false "timeout"] := by
      simp [none]
    have logged : Undecided { request with
        audit := request.audit ++ [auditRow false "timeout"]
        caller := .withdrawing false } := {
      undecided with
      gone := fun gone => absurd gone status
      live := by simp [Caller.live]
      expiring := by simp
      withdrawing := fun _ same => .inr ⟨by simpa using same.symm, row⟩
      returned := by simp
      cancelled := by simp }
    exact logged.abandon status (.inr ⟨kept, row⟩)

theorem Sound.expire (sound : Sound request) (careful : request.Careful .expire)
    (stepped : request.act setup .expire = some after) : Sound after := by
  simp only [act, ite_none_right_eq_some, Option.some.injEq] at stepped
  obtain ⟨⟨waiting, _⟩, rfl⟩ := stepped
  have live : request.caller.live = true := by simp [waiting, live]
  cases sound with
  | inFlight submission flight => cases flight.submissions.symm.trans careful
  | final submission final => cases final.submissions.symm.trans careful
  | undecided undecided =>
    have expired : Undecided { request with status := .timeout } := {
      undecided with
      unapproved := by simp
      gone := by simp
      settled := by simp }
    unfold expire
    cases setup.permissionStore with
    | false => exact .undecided (expired.abandon (by simp) (.inl (undecided.live live).2))
    | true =>
      refine .undecided { expired with
        gone := by simp
        live := by simp [Caller.live]
        expiring := fun _ => (undecided.live live).2
        withdrawing := by simp
        returned := by simp
        cancelled := by simp }

theorem Sound.timeoutLogged (sound : Sound request)
    (stepped : request.act setup (.timeoutLogged written) = some after) : Sound after := by
  simp only [act, ite_none_right_eq_some, Option.some.injEq] at stepped
  obtain ⟨expiring, rfl⟩ := stepped
  cases sound with
  | undecided undecided => exact .undecided (undecided.logTimeout expiring (.inl rfl))
  | inFlight submission flight =>
    have place := flight.place
    simp [expiring, live] at place
  | final submission final =>
    have place := final.place
    simp [expiring, live] at place

theorem Sound.undecided_of_withdrawing (sound : Sound request)
    (withdrawing : request.caller = .withdrawing cancelled) : Undecided request := by
  cases sound with
  | undecided undecided => exact undecided
  | inFlight submission flight =>
    have place := flight.place
    simp [withdrawing, live] at place
  | final submission final =>
    have place := final.place
    simp [withdrawing, live] at place

theorem Sound.withdrawn (sound : Sound request)
    (stepped : request.act setup .withdrawn = some after) : Sound after := by
  unfold act at stepped
  dsimp only at stepped
  split at stepped
  · next withdrawing =>
    have undecided := sound.undecided_of_withdrawing withdrawing
    have audit := undecided.withdrawing true withdrawing
    cases stepped
    refine .undecided { undecided with
      gone := fun _ => rfl
      live := by simp [live]
      expiring := by simp
      withdrawing := by simp
      returned := by simp
      cancelled := fun _ => by simpa using audit }
  · next withdrawing =>
    have undecided := sound.undecided_of_withdrawing withdrawing
    have audit := undecided.withdrawing false withdrawing
    cases stepped
    refine .undecided { undecided with
      gone := fun gone => absurd (undecided.gone gone) (by simp [withdrawing])
      live := by simp [live]
      expiring := by simp
      withdrawing := by simp
      returned := ?_
      cancelled := by simp }
    intro approved scope same
    cases same
    exact ⟨rfl, .inl ⟨rfl, audit.imp_right And.right⟩⟩
  · cases stepped

theorem Undecided.giveUp {status : ApprovalStatus} {pending : Bool} (undecided : Undecided request)
    (audit : request.audit = []) (unapproved : status ≠ .approved)
    (settled : request.resumed = true → status ≠ .pending) :
    Undecided { request with status, pending, caller := .cancelled } where
  submissions := undecided.submissions
  grants := undecided.grants
  unapproved := unapproved
  gone := fun _ => rfl
  reason := undecided.reason
  settled := settled
  live := by simp [Caller.live]
  expiring := by simp
  withdrawing := by simp
  returned := by simp
  cancelled := fun _ => audit

theorem Sound.cancelTask (sound : Sound request) (careful : request.Careful (.cancelTask written))
    (stepped : request.act setup (.cancelTask written) = some after) : Sound after := by
  unfold Request.act Request.cancelTask at stepped
  unfold Careful at careful
  cases caller : request.caller with
  | returned approved scope | cancelled => simp [caller] at stepped
  | announcing =>
    simp only [caller, Option.some.injEq] at stepped careful
    subst stepped
    cases sound with
    | inFlight submission flight => cases flight.submissions.symm.trans careful
    | final submission final => cases final.submissions.symm.trans careful
    | undecided undecided =>
      have audit := (undecided.live (by simp [caller, live])).2
      exact .undecided (undecided.giveUp audit undecided.unapproved undecided.settled)
  | waiting =>
    simp only [caller, Option.some.injEq] at stepped careful
    subst stepped
    cases sound with
    | undecided undecided =>
      have audit := (undecided.live (by simp [caller, live])).2
      exact .undecided (undecided.giveUp audit (by simp) (by simp))
    | inFlight submission flight =>
      refine .inFlight submission { flight with place := ?_ }
      obtain gone | ⟨present, _⟩ := flight.place
      · rw [caller] at gone
        cases gone.2
      · exact .inr ⟨present, .inr ⟨rfl, rfl⟩⟩
    | final submission final =>
      obtain ⟨persisted, finished⟩ := final.finished
      exact absurd finished (careful submission (by simp [final.submissions]) persisted)
  | expiring =>
    simp only [caller, Option.some.injEq] at stepped careful
    subst stepped
    cases sound with
    | undecided undecided =>
      exact .undecided (undecided.logTimeout caller (.inr careful))
    | inFlight submission flight =>
      have place := flight.place
      simp [caller, live] at place
    | final submission final =>
      have place := final.place
      simp [caller, live] at place
  | withdrawing cancelled =>
    simp only [caller, Option.some.injEq] at stepped careful
    subst stepped
    have undecided := sound.undecided_of_withdrawing caller
    exact .undecided (undecided.giveUp careful undecided.unapproved undecided.settled)

/-! ## Decisions -/

theorem InFlight.finish (persisted : Bool) {audit : List AuditRow}
    (flight : InFlight request submission)
    (row : audit = [] ∨ audit = [auditRow submission.approved submission.scope]) :
    Sound (finish 0 submission persisted { request with audit }) := by
  unfold Request.finish
  simp only [flight.submissions, List.set_cons_zero]
  refine .final _ {
    submissions := rfl
    finished := ⟨persisted, rfl⟩
    left := rfl
    audit := row
    place := ?_ }
  obtain ⟨gone, caller⟩ | ⟨present, held | ⟨caller, status⟩⟩ := flight.place
  · exact .inl ⟨by simp [gone], caller⟩
  · obtain ⟨live, held, _, _⟩ := held
    have known : (request.status = .awaiterGone) = False := by
      rw [held.status]
      cases submission.approved <;> simp
    refine .inr ⟨by simp [present, known], .inl ⟨live, ⟨held.status, held.decision, held.scope⟩, ?_⟩⟩
    simp [present, known]
  · exact .inl ⟨by simp [status], caller⟩

theorem Sound.submit {approved : Bool} {scope : String} (sound : Sound request)
    (careful : request.Careful (.submit approved scope))
    (stepped : request.act setup (.submit approved scope) = some after) : Sound after := by
  simp only [act, Option.some.injEq] at stepped
  subst stepped
  unfold submit
  by_cases undecidedYet : request.pending = true ∧
      (request.status = .pending ∨ request.status = .awaiterGone)
  · rw [if_pos undecidedYet]
    obtain ⟨pending, undecidedStatus⟩ := undecidedYet
    obtain ⟨live, gone⟩ := careful pending
    have none : request.submissions = [] := by
      cases sound with
      | undecided undecided => exact undecided.submissions
      | final submission final =>
        rw [final.left] at pending
        cases pending
      | inFlight submission flight =>
        obtain waiting | abandoned := undecidedStatus
        · obtain ⟨_, caller⟩ | ⟨_, ⟨_, held, _⟩ | ⟨caller, _⟩⟩ := flight.place
          · simp [caller, Caller.live, waiting] at live
          · have status := held.status
            rw [waiting] at status
            cases approved : submission.approved <;> simp [approved] at status
          · simp [caller, Caller.live, waiting] at live
        · exact gone abandoned
    have undecided : Undecided request := by
      cases sound with
      | undecided undecided => exact undecided
      | inFlight submission flight => cases flight.submissions.symm.trans none
      | final submission final => cases final.submissions.symm.trans none
    have flight : InFlight { request with
        status := if approved then .approved else .denied
        userDecision := some scope
        submissions := request.submissions ++ [request.submission approved scope] }
        (request.submission approved scope) := {
      submissions := by simp [none]
      unfinished := by
        intro persisted
        unfold submission
        cases approved && (scope = "always" || scope = "session") <;> simp
      audit := ?_
      place := ?_ }
    · cases persistent : setup.permissionStore with
      | true =>
        rw [if_pos rfl]
        exact .inFlight _ flight
      | false =>
        have finished := flight.finish true (.inl flight.audit)
        simpa [none, flight.audit] using finished
    · obtain waiting | abandoned := undecidedStatus
      · exact (undecided.live (live waiting).1).2
      · exact undecided.cancelled (undecided.gone abandoned)
    · obtain waiting | abandoned := undecidedStatus
      · refine .inr ⟨by simp [submission, waiting], .inl ⟨(live waiting).1,
          ⟨rfl, rfl, (live waiting).2⟩, ?_, pending⟩⟩
        exact Bool.eq_false_iff.mpr fun resumed => undecided.settled resumed waiting
      · exact .inl ⟨by simp [submission, abandoned], undecided.gone abandoned⟩
  · rw [if_neg undecidedYet]
    exact sound

theorem Sound.inFlight_of_stage (sound : Sound request)
    (found : request.submissions[index]? = some submission)
    (unfinished : ∀ persisted, submission.stage ≠ .finished persisted) :
    index = 0 ∧ InFlight request submission := by
  cases sound with
  | undecided undecided => simp [undecided.submissions] at found
  | inFlight other flight =>
    rw [flight.submissions, List.getElem?_singleton] at found
    by_cases first : index = 0
    · rw [if_pos first] at found
      cases found
      exact ⟨first, flight⟩
    · rw [if_neg first] at found
      cases found
  | final other final =>
    rw [final.submissions, List.getElem?_singleton] at found
    by_cases first : index = 0
    · rw [if_pos first] at found
      cases found
      obtain ⟨persisted, finished⟩ := final.finished
      exact absurd finished (unfinished persisted)
    · rw [if_neg first] at found
      cases found

theorem Sound.granted {stored : Bool} (sound : Sound request)
    (stepped : request.act setup (.granted index stored) = some after) : Sound after := by
  simp only [Request.act, Request.granted] at stepped
  cases found : request.submissions[index]? with
  | none =>
    simp only [found] at stepped
    cases stepped
  | some submission =>
    simp only [found, Option.ite_none_right_eq_some] at stepped
    obtain ⟨granting, stepped⟩ := stepped
    obtain ⟨rfl, flight⟩ := sound.inFlight_of_stage found (by simp [granting])
    cases stored with
    | false =>
      cases stepped
      exact flight.finish false (.inl flight.audit)
    | true =>
      cases stepped
      refine .inFlight { submission with stage := .logging } {
        submissions := by simp [flight.submissions]
        unfinished := by simp
        audit := flight.audit
        place := ?_ }
      obtain gone | ⟨present, ⟨live, held, rest⟩ | gone⟩ := flight.place
      · exact .inl gone
      · exact .inr ⟨present, .inl ⟨live, ⟨held.status, held.decision, held.scope⟩, rest⟩⟩
      · exact .inr ⟨present, .inr gone⟩

theorem Sound.logged (sound : Sound request)
    (stepped : request.act setup (.logged index written) = some after) : Sound after := by
  simp only [Request.act, Request.logged] at stepped
  cases found : request.submissions[index]? with
  | none =>
    simp only [found] at stepped
    cases stepped
  | some submission =>
    simp only [found, Option.ite_none_right_eq_some] at stepped
    obtain ⟨logging, stepped⟩ := stepped
    obtain ⟨rfl, flight⟩ := sound.inFlight_of_stage found (by simp [logging])
    cases written with
    | false =>
      cases stepped
      exact flight.finish false (.inl flight.audit)
    | true =>
      cases stepped
      rw [flight.audit]
      exact flight.finish true (.inr rfl)

/-! ## Cancellations and sweeps -/

theorem Sound.cancel {reason : String} (sound : Sound request) (known : CancelScope reason)
    (unattended : request.Unattended) : Sound (request.cancel reason) := by
  unfold Request.cancel
  by_cases pending : request.pending = true
  · rw [if_pos pending]
    cases sound with
    | undecided undecided =>
      refine .undecided { undecided with
        unapproved := by simp
        gone := by simp
        reason := fun _ => ⟨reason, rfl, known⟩
        settled := by simp
        live := ?_ }
      intro live
      have present : request.status ≠ .awaiterGone := by
        intro gone
        rw [undecided.gone gone] at live
        cases live
      exact ⟨by simp [present], (undecided.live live).2⟩
    | inFlight submission flight =>
      have gone := unattended pending submission (by simp [flight.submissions])
      refine .inFlight submission { flight with place := ?_ }
      obtain place | ⟨present, _⟩ := flight.place
      · exact .inl place
      · rw [gone] at present
        cases present
    | final submission final =>
      rw [final.left] at pending
      cases pending
  · rw [if_neg pending]
    exact sound

theorem Sound.sweep {now olderThanSeconds : ℤ} (sound : Sound request)
    (careful : request.pending = true → request.resumed = false →
      olderThanSeconds ≤ now - request.createdAt →
      request.caller.live = false ∧
        ∀ submission ∈ request.submissions, submission.awaiterGone = true) :
    Sound (request.sweep now olderThanSeconds) := by
  unfold Request.sweep
  by_cases stale : request.pending = true ∧ request.resumed = false ∧
      olderThanSeconds ≤ now - request.createdAt
  · rw [if_pos stale]
    obtain ⟨absent, gone⟩ := careful stale.1 stale.2.1 stale.2.2
    cases sound with
    | undecided undecided =>
      refine .undecided { undecided with
        unapproved := by simp
        gone := by simp
        settled := by simp
        live := ?_ }
      intro live
      rw [absent] at live
      cases live
    | inFlight submission flight =>
      have orphaned := gone submission (by simp [flight.submissions])
      refine .inFlight submission { flight with place := ?_ }
      obtain place | ⟨present, _⟩ := flight.place
      · exact .inl place
      · rw [orphaned] at present
        cases present
    | final submission final =>
      rw [final.left] at stale
      cases stale.1
  · rw [if_neg stale]
    exact sound

theorem Sound.act {event : Event} (sound : Sound request) (careful : request.Careful event)
    (stepped : request.act setup event = some after) : Sound after := by
  cases event with
  | announced => exact sound.announced stepped
  | wake => exact sound.wake stepped
  | expire => exact sound.expire careful stepped
  | timeoutLogged written => exact sound.timeoutLogged stepped
  | withdrawn => exact sound.withdrawn stepped
  | cancelTask written => exact sound.cancelTask careful stepped
  | submit approved scope => exact sound.submit careful stepped
  | granted index stored => exact sound.granted stepped
  | logged index written => exact sound.logged stepped
  | cancelRequest =>
    cases stepped
    exact sound.cancel (.inl rfl) careful

end Kestrel.Security.Approval
