import Kestrel.A2A.QuestionRuns
import Kestrel.A2A.OutboundContract

/-!
# The steps of the question ledger

Every transaction and every step advances the tables: it keeps them sound, loses nothing recorded
and claims no wake but by a claim.
-/

namespace Kestrel.A2A

open List Except QuestionDatabase QuestionStep QuestionSystem Function

/-- An answer as `record_answer` prepares it. -/
structure Answer.Prepared (wire : Wire) (answer : Answer) : Prop where
  digest : answer.digest = wire.responseDigest answer.response
  canceled : answer.response.isCanceled = true → answer.state = "canceled"

variable {response : Response}

theorem answerFields_canceled {questionId state : String}
    {reply : Option Message} (fields : answerFields questionId response = .ok (state, reply))
    (canceled : response.isCanceled = true) : state = "canceled" := by
  cases response with
  | message answer => cases canceled
  | task answer =>
    obtain ⟨_, fields⟩ := require_bind_eq_ok.mp fields
    split at fields
    · cases fields
    · obtain ⟨_, fields⟩ := require_bind_eq_ok.mp fields
      obtain ⟨_, _, fields⟩ := bind_eq_ok.mp fields
      rw [← (Prod.mk.inj (ok.inj fields)).1, of_decide_eq_true canceled]
      rfl

def AnswerPlan.answer : AnswerPlan → Option Answer
  | .retained => none
  | .expire answer _ => some answer
  | .settle answer => some answer

theorem planAnswer_eq_ok {wire : QuestionWire} {scope : NativeRecipientScope} {now : ℕ}
    {dispatches : OutboundRows} {question : NativeQuestion} {dispatch : OutboundDispatch} {plan : AnswerPlan}
    (planned : planAnswer wire scope now dispatches question dispatch response = .ok plan) :
    (∀ answer ∈ plan.answer, answer.Prepared wire.toWire) ∧
      ∀ retained ∈ question.responseDigest, retained = wire.responseDigest response := by
  unfold planAnswer at planned
  obtain ⟨_, _, planned⟩ := bind_eq_ok.mp planned
  obtain ⟨_, planned⟩ := require_bind_eq_ok.mp planned
  obtain ⟨_, planned⟩ := require_bind_eq_ok.mp planned
  obtain ⟨_, _, planned⟩ := bind_eq_ok.mp planned
  rw [bind_eq_ok, Prod.exists] at planned
  obtain ⟨state, reply, fields, planned⟩ := planned
  dsimp only at planned
  have prepared : Answer.Prepared wire.toWire
      ⟨question.questionId, response, wire.responseDigest response, state, reply⟩ :=
    ⟨rfl, answerFields_canceled fields⟩
  cases retained : question.responseDigest with
  | some digest =>
    rw [retained] at planned
    obtain ⟨same, planned⟩ := require_bind_eq_ok.mp planned
    rw [← ok.inj planned]
    refine ⟨nofun, ?_⟩
    intro known found
    rw [← Option.some.inj found]
    exact same
  | none =>
    rw [retained] at planned
    refine ⟨?_, nofun⟩
    intro answer found
    split_ifs at planned
    all_goals
      rw [← ok.inj planned] at found
      rw [← Option.some.inj found]
      exact prepared

namespace QuestionDatabase

variable {wire : QuestionWire} {database after : QuestionDatabase} {scope : NativeRecipientScope}

/-- What every transaction does to the tables. -/
structure Advances (wire : QuestionWire) (before after : QuestionDatabase) : Prop where
  sound : Sound wire before → Sound wire after
  succeeds : before.Succeeds after
  extend : Extends before.wakes after.wakes

namespace Advances

theorem refl (database : QuestionDatabase) : Advances wire database database where
  sound := id
  succeeds := .refl database
  extend := .refl _

theorem trans {first second third : QuestionDatabase} (earlier : Advances wire first second)
    (later : Advances wire second third) : Advances wire first third where
  sound := later.sound ∘ earlier.sound
  succeeds := earlier.succeeds.trans later.succeeds
  extend := earlier.extend.trans later.extend

theorem dispatches (rows : OutboundRows) :
    Advances wire database { database with dispatches := rows } where
  sound := fun sound => sound.dispatches rows
  succeeds := succeeds_dispatches rows
  extend := .refl _

variable {now : ℕ} {dispatch : OutboundDispatch}

theorem reserve {seen : OutboundRows} {call : QuestionCall}
    (reserved : reserveQuestion wire scope now seen database call = .ok after) :
    Advances wire database after where
  sound := fun sound => sound_reserveQuestion sound reserved
  succeeds := succeeds_reserveQuestion reserved
  extend := by
    obtain ⟨_, _, rfl⟩ := reserveQuestion_eq_ok reserved
    exact .refl _

section

variable (distinct : Function.Injective wire.wakeEventId)

include distinct

theorem answer {answer : Answer} (prepared : answer.Prepared wire.toWire)
    (committed : commitAnswer wire scope database answer = .ok after) :
    Advances wire database after where
  sound := fun sound =>
    sound_commitAnswer distinct sound prepared.digest prepared.canceled committed
  succeeds := succeeds_commitAnswer committed
  extend := by
    rcases commitAnswer_eq_ok committed with
      ⟨_, rfl, _⟩ | ⟨_, current, _, ⟨_, _, rfl⟩ | ⟨_, rfl⟩⟩
    · exact .refl _
    · exact .refl _
    · exact .insertWake wire (settleQuestion scope database answer).1 _ _ _ _ _ _

theorem expiry {questionId : String} {withdrawn : Bool}
    (committed : commitExpiry wire scope database questionId now withdrawn = .ok after) :
    Advances wire database after where
  sound := fun sound => sound_commitExpiry distinct sound committed
  succeeds := succeeds_commitExpiry committed
  extend := by
    rcases commitExpiry_eq_ok committed with rfl | ⟨_, current, _, rfl⟩
    · exact .refl _
    · exact .insertWake wire (expireQuestion scope database questionId now withdrawn).1 _ _ _ _ _ _

theorem unsent {question : NativeQuestion} (owned : question.sender = scope)
    (timely : Timely scope database question dispatch) :
    Advances wire database (commitUnsent wire scope database question dispatch) where
  sound := fun sound => sound_commitUnsent distinct sound owned timely
  succeeds := succeeds_commitUnsent question dispatch
  extend := by
    rcases commitUnsent_cases question dispatch with same | ⟨_, _, same⟩
    · rw [same]
      exact .refl _
    · rw [same]
      exact .insertWake wire
        (retireQuestion scope database question.questionId dispatch).1 _ _ _ _ _ _

end

theorem handoff {test : QuestionWake → Bool} {change : QuestionWake → QuestionWake}
    (kept : ∀ wake, (change wake).key = wake.key ∧ (change wake).eventId = wake.eventId ∧
      (change wake).claimToken = wake.claimToken)
    (done : ∀ wake, wake.isPending = false → (change wake).isPending = false)
    (handed : ∀ wake, test wake = true → wake.handedOffAt ≠ none →
      (change wake).handedOffAt = wake.handedOffAt) :
    Advances wire database (database.updateWake test change).1 where
  sound := fun sound => sound_settleHandoff sound kept done
  succeeds := succeeds_updateWake fun wake passes => ⟨(kept wake).1, handed wake passes⟩
  extend := .update fun wake => ⟨(kept wake).1, (kept wake).2.2⟩

theorem recordAnswer (distinct : Injective wire.wakeEventId) {questionId : String}
    (recorded : A2A.recordAnswer wire scope now database questionId dispatch response =
      .ok after) : Advances wire database after := by
  unfold A2A.recordAnswer at recorded
  split at recorded
  · cases recorded
  · obtain ⟨plan, planned, recorded⟩ := bind_eq_ok.mp recorded
    have prepared := (planAnswer_eq_ok planned).1
    cases plan with
    | retained =>
      rw [← ok.inj recorded]
      exact .refl database
    | settle settled => exact .answer distinct (prepared settled rfl) recorded
    | expire settled withdrawal =>
      obtain ⟨_, _, recorded⟩ := bind_eq_ok.mp recorded
      obtain ⟨expired, committed, recorded⟩ := bind_eq_ok.mp recorded
      exact (expiry distinct committed).trans (.answer distinct (prepared settled rfl) recorded)

theorem acknowledge (distinct : Injective wire.wakeEventId) {stamp : String}
    {operationId : String}
    (acknowledged : acknowledgeQuestion wire scope now stamp database dispatch operationId
      response = .ok after) : Advances wire database after := by
  unfold acknowledgeQuestion at acknowledged
  split at acknowledged
  · cases acknowledged
  · obtain ⟨_, _, acknowledged⟩ := bind_eq_ok.mp acknowledged
    rw [bind_eq_ok, Prod.exists] at acknowledged
    obtain ⟨rows, receipt, _, acknowledged⟩ := acknowledged
    rw [bind_eq_ok, Prod.exists] at acknowledged
    obtain ⟨rows, root, _, acknowledged⟩ := acknowledged
    dsimp only at acknowledged
    split_ifs at acknowledged
    · exact (dispatches rows).trans (.recordAnswer distinct acknowledged)
    · rw [← ok.inj acknowledged]
      exact dispatches rows

end Advances

end QuestionDatabase

/-! ## Steps -/

/-- What a process may have captured. -/
def Captured.Prepared (wire : Wire) : Captured → Prop
  | .read scope question => question.sender = scope
  | .unsent scope question _ => question.sender = scope
  | .answer _ settled => settled.Prepared wire
  | .expiring _ _ _ next => ∀ settled ∈ next, settled.Prepared wire
  | .expiry _ _ _ _ next => ∀ settled ∈ next, settled.Prepared wire

namespace QuestionSystem

variable {wire : QuestionWire} {state after : QuestionSystem} {step : QuestionStep}

/-- What every step of a run keeps. -/
structure Sound (wire : QuestionWire) (state : QuestionSystem) : Prop where
  database : state.database.Sound wire
  captured : ∀ captured ∈ state.captured, captured.Prepared wire.toWire
  claims : ClaimsMatch state.database.wakes state.claims
  tokens : (state.claims.map Prod.snd).Nodup

theorem initial_sound (wire : QuestionWire) : Sound wire initial := by
  refine ⟨⟨⟨nodup_nil, nodup_nil, ?_, ?_⟩, ?_⟩, ?_, ⟨?_, ?_⟩, nodup_nil⟩
  all_goals
    intro impossible member
    cases member

/-- What a step other than a claim does. -/
structure Advances (wire : QuestionWire) (before after : QuestionSystem) : Prop where
  database : before.database.Advances wire after.database
  captured : (∀ captured ∈ before.captured, captured.Prepared wire.toWire) →
    ∀ captured ∈ after.captured, captured.Prepared wire.toWire
  claims : after.claims = before.claims

namespace Advances

theorem refl (state : QuestionSystem) : Advances wire state state where
  database := .refl _
  captured := id
  claims := rfl

theorem withDatabase {database : QuestionDatabase}
    (advances : state.database.Advances wire database) :
    Advances wire state (state.withDatabase database) where
  database := advances
  captured := id
  claims := rfl

theorem capture {captured : Captured}
    (prepared : (∀ captured ∈ state.captured, captured.Prepared wire.toWire) →
      captured.Prepared wire.toWire) : Advances wire state (state.capture captured) where
  database := .refl _
  captured := by
    intro valid other member
    rcases mem_append.mp member with older | last
    · exact valid other older
    · rw [mem_singleton.mp last]
      exact prepared valid
  claims := rfl

theorem trans {first second third : QuestionSystem} (earlier : Advances wire first second)
    (later : Advances wire second third) : Advances wire first third where
  database := earlier.database.trans later.database
  captured := later.captured ∘ earlier.captured
  claims := later.claims.trans earlier.claims

theorem sound (advances : Advances wire state after) (sound : state.Sound wire) :
    after.Sound wire where
  database := advances.database.sound sound.database
  captured := advances.captured sound.captured
  claims := by
    rw [advances.claims]
    exact sound.claims.extend advances.database.extend
  tokens := by
    rw [advances.claims]
    exact sound.tokens

end Advances

theorem advances_commit (distinct : Injective wire.wakeEventId) {captured : Captured}
    (prepared : captured.Prepared wire.toWire)
    (timely : ∀ scope question dispatch, captured = .unsent scope question dispatch →
      Timely scope state.database question dispatch)
    (committed : state.commitCaptured wire captured = .ok after) : Advances wire state after := by
  cases captured with
  | unsent scope question dispatch =>
    rw [← ok.inj committed]
    exact .withDatabase (.unsent distinct prepared (timely scope question dispatch rfl))
  | answer scope answer =>
    obtain ⟨database, settled, rfl⟩ := map_eq_ok.mp committed
    exact .withDatabase (.answer distinct prepared settled)
  | expiry scope questionId now withdrawn next =>
    obtain ⟨database, committed, same⟩ := bind_eq_ok.mp committed
    have expired : Advances wire state (state.withDatabase database) :=
      .withDatabase (.expiry distinct committed)
    cases next with
    | none =>
      rw [← ok.inj same]
      exact expired
    | some answer =>
      rw [← ok.inj same]
      exact expired.trans (.capture fun _ => prepared answer rfl)
  | _ =>
    rw [← ok.inj committed]
    exact .refl state

/-- A committed step is a claim or advances the system. -/
theorem perform_cases (distinct : Injective wire.wakeEventId) (sound : state.Sound wire)
    (timely : step.TimelyStep state) (performed : step.perform wire state = .ok after) :
    Advances wire state after ∨ ∃ wake token lease, step = .claim wake token lease ∧
        after = state.claimed wake token lease := by
  cases step with
  | tick elapsed =>
    rw [← ok.inj performed]
    exact .inl ⟨.refl _, id, rfl⟩
  | outbound call =>
    rw [← ok.inj performed]
    exact .inl (.withDatabase (.dispatches _))
  | reserve scope seen call =>
    obtain ⟨database, reserved, rfl⟩ := map_eq_ok.mp performed
    exact .inl (.withDatabase (.reserve reserved))
  | read scope questionId =>
    unfold perform at performed
    dsimp only at performed
    split at performed
    · rw [← ok.inj performed]
      exact .inl (.refl state)
    next question found =>
      rw [← ok.inj performed]
      refine .inl (.capture fun _ => ?_)
      exact congrArg Prod.fst (sound.database.get_eq_some_iff.mp found).2
  | plan index dispatch response =>
    unfold perform at performed
    dsimp only at performed
    split at performed
    next scope question held =>
      obtain ⟨plan, planned, rfl⟩ := map_eq_ok.mp performed
      have prepared := (planAnswer_eq_ok planned).1
      cases plan with
      | retained => exact .inl (.refl state)
      | settle answer => exact .inl (.capture fun _ => prepared answer rfl)
      | expire answer withdrawal =>
        refine .inl (.capture fun _ => ?_)
        intro other found
        exact prepared other found
    · rw [← ok.inj performed]
      exact .inl (.refl state)
  | check index dispatch =>
    unfold perform at performed
    dsimp only at performed
    split at performed
    next scope question held =>
      obtain ⟨_, _, rfl⟩ := map_eq_ok.mp performed
      refine .inl (.capture fun valid => ?_)
      exact valid (.read scope question) (mem_of_getElem? held)
    · rw [← ok.inj performed]
      exact .inl (.refl state)
  | expire scope questionId withdrawal =>
    rw [← ok.inj performed]
    refine .inl (.capture fun _ => ?_)
    intro settled impossible
    cases impossible
  | checkExpiry index =>
    unfold perform at performed
    dsimp only at performed
    split at performed
    next scope questionId withdrawal next held =>
      obtain ⟨_, _, rfl⟩ := map_eq_ok.mp performed
      refine .inl (.capture fun valid => ?_)
      exact valid (.expiring scope questionId withdrawal next) (mem_of_getElem? held)
    · rw [← ok.inj performed]
      exact .inl (.refl state)
  | commit index =>
    unfold TimelyStep at timely
    unfold perform at performed
    dsimp only at performed timely
    split at performed
    next captured held =>
      rw [held] at timely
      refine .inl (advances_commit distinct
        (sound.captured captured (mem_of_getElem? held)) ?_ performed)
      intro scope question dispatch same
      subst same
      exact timely
    · rw [← ok.inj performed]
      exact .inl (.refl state)
  | acknowledge scope stamp dispatch operationId response =>
    obtain ⟨database, acknowledged, rfl⟩ := map_eq_ok.mp performed
    exact .inl (.withDatabase (.acknowledge distinct acknowledged))
  | claim wake token lease =>
    exact .inr ⟨wake, token, lease, rfl, (ok.inj performed).symm⟩
  | confirm wake =>
    obtain ⟨settled, confirmed, rfl⟩ := map_eq_ok.mp performed
    obtain ⟨_, _, same⟩ := bind_eq_ok.mp confirmed
    rw [← ok.inj same]
    refine .inl (.withDatabase (.handoff (fun _ => ⟨rfl, rfl, rfl⟩) ?_ ?_))
    · intro row done
      simp [QuestionWake.isPending] at done ⊢
    · intro row held handed
      have pending := ((Bool.and_eq_true _ _).mp held).2
      unfold QuestionWake.isPending at pending
      rw [Bool.and_eq_true, Option.isNone_iff_eq_none] at pending
      exact (handed pending.1).elim
  | fail wake =>
    obtain ⟨settled, failed, rfl⟩ := map_eq_ok.mp performed
    obtain ⟨_, _, same⟩ := bind_eq_ok.mp failed
    rw [← ok.inj same]
    refine .inl (.withDatabase (.handoff (fun _ => ⟨rfl, rfl, rfl⟩) ?_ fun _ _ _ => rfl))
    intro row _
    simp [QuestionWake.isPending]

theorem claimed_cases (wake : QuestionWake) (token : String) (lease : ℕ) :
    state.claimed wake token lease = state ∨ token ∉ state.claims.map Prod.snd ∧
        (state.database.claimWake wake token state.now lease).2 = true ∧
        state.claimed wake token lease = { state with
          database := (state.database.claimWake wake token state.now lease).1
          claims := state.claims ++ [(wake.key, token)] } := by
  unfold claimed
  split_ifs with used
  · exact .inl rfl
  · cases changed : (state.database.claimWake wake token state.now lease).2 with
    | true =>
      refine .inr ⟨used, rfl, ?_⟩
      simp [changed]
    | false =>
      refine .inl ?_
      have same : (state.database.claimWake wake token state.now lease).1 = state.database := by
        unfold claimWake updateWake at changed ⊢
        rw [Rows.update_eq_self changed]
      simp [changed, same]

theorem sound_claimed (sound : state.Sound wire) (wake : QuestionWake) (token : String)
    (lease : ℕ) : (state.claimed wake token lease).Sound wire := by
  rcases state.claimed_cases wake token lease with same | ⟨fresh, changed, same⟩
  · rw [same]
    exact sound
  · rw [same]
    refine ⟨sound_claimWake sound.database wake token state.now lease,
      sound.captured, sound.claims.claim sound.database.wakeKeys changed, ?_⟩
    apply Rows.nodup_append sound.tokens
    intro claim recorded found
    exact fresh (mem_map.mpr ⟨claim, recorded, found⟩)

theorem succeeds_claimed (wake : QuestionWake) (token : String) (lease : ℕ) :
    state.database.Succeeds (state.claimed wake token lease).database := by
  rcases state.claimed_cases wake token lease with same | ⟨_, _, same⟩
  · rw [same]
    exact .refl _
  · rw [same]
    exact succeeds_updateWake fun row _ => ⟨rfl, fun _ => rfl⟩

end QuestionSystem

namespace QuestionStep

variable {wire : QuestionWire} {state : QuestionSystem} {step : QuestionStep}

theorem sound_apply (distinct : Injective wire.wakeEventId) (sound : state.Sound wire)
    (timely : step.TimelyStep state) : (step.apply wire state).Sound wire := by
  unfold apply
  cases performed : step.perform wire state with
  | error _ => exact sound
  | ok after =>
    rcases perform_cases distinct sound timely performed with
      advances | ⟨wake, token, lease, _, rfl⟩
    · exact advances.sound sound
    · exact sound_claimed sound wake token lease

theorem succeeds_apply (distinct : Injective wire.wakeEventId) (sound : state.Sound wire)
    (timely : step.TimelyStep state) :
    state.database.Succeeds (step.apply wire state).database := by
  unfold apply
  cases performed : step.perform wire state with
  | error _ => exact .refl _
  | ok after =>
    rcases perform_cases distinct sound timely performed with
      advances | ⟨wake, token, lease, _, rfl⟩
    · exact advances.database.succeeds
    · exact succeeds_claimed wake token lease

end QuestionStep

end Kestrel.A2A
