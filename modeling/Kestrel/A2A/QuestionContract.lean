import Kestrel.A2A.QuestionSteps
import Kestrel.Base.Counting
import Kestrel.Base.Json

/-!
# The contract of the question ledger

One primary wake for each question, late wakes after it, and each wake handed off once. The
retirement of an unsent question trusts an earlier read of its status, so the primary wakes are
exclusive exactly in the runs where no question expires between that read and the retirement.
-/

namespace Kestrel.A2A

open List Except Option QuestionDatabase QuestionStep QuestionSystem Bool Json Prod

/-! ## Handoffs -/

def QuestionStep.handsOff (key : (NativeRecipientScope × String) × Wave) (state : QuestionSystem) :
    QuestionStep → Bool
  | .confirm wake =>
    match state.database.confirmHandoff wake state.now with
    | .ok (_, changed) => wake.key = key && changed
    | .error _ => false
  | _ => false

def QuestionDatabase.isHandedOff (database : QuestionDatabase)
    (key : (NativeRecipientScope × String) × Wave) : Bool :=
  database.wakes.any fun wake => wake.key = key ∧ wake.handedOffAt ≠ none

theorem QuestionDatabase.isHandedOff_eq_true {database : QuestionDatabase}
    {key : (NativeRecipientScope × String) × Wave} :
    database.isHandedOff key = true ↔
      ∃ wake ∈ database.wakes, wake.key = key ∧ wake.handedOffAt ≠ none := by
  unfold isHandedOff
  simp only [List.any_eq_true, decide_eq_true_eq]

variable {wire : QuestionWire} {state : QuestionSystem}

theorem QuestionStep.apply_confirm {wake : QuestionWake} {settled : QuestionDatabase × Bool}
    (confirmed : state.database.confirmHandoff wake state.now = .ok settled) :
    (confirm wake).apply wire state = state.withDatabase settled.1 := by
  have performed : (confirm wake).perform wire state = .ok (state.withDatabase settled.1) := by
    change (state.database.confirmHandoff wake state.now).map _ = _
    rw [confirmed]
    rfl
  unfold apply
  rw [performed]

theorem QuestionStep.handsOff_eq_true {wire : QuestionWire}
    {key : (NativeRecipientScope × String) × Wave} {state : QuestionSystem} {step : QuestionStep}
    (hands : step.handsOff key state = true) :
    ∃ wake, step = .confirm wake ∧ wake.key = key ∧ wake.claimToken ≠ none ∧
      ∃ row ∈ state.database.wakes, row.key = key ∧ row.claimToken = wake.claimToken ∧
        row.handedOffAt = none ∧
        { row with handedOffAt := some state.now : QuestionWake } ∈
          (step.apply wire state).database.wakes := by
  cases step with
  | confirm wake =>
    unfold handsOff at hands
    dsimp only at hands
    split at hands
    next settled changed confirmed =>
      obtain ⟨claimed, same⟩ := require_bind_eq_ok.mp confirmed
      obtain ⟨rfl, rfl⟩ := Prod.mk.inj (ok.inj same)
      obtain ⟨named, found⟩ := (and_eq_true _ _).mp hands
      have named := of_decide_eq_true named
      obtain ⟨row, stored, held⟩ := any_eq_true.mp found
      obtain ⟨matched, pending⟩ := (and_eq_true _ _).mp held
      obtain ⟨called, token⟩ := (and_eq_true _ _).mp matched
      obtain ⟨open', _⟩ := (and_eq_true _ _).mp pending
      refine ⟨wake, rfl, named, ?_, row, stored, ?_, of_decide_eq_true token,
        isNone_iff_eq_none.mp open', ?_⟩
      · obtain ⟨token, present, _⟩ := claimed
        rw [mem_def.mp present]
        exact some_ne_none _
      · exact (of_decide_eq_true called).1.trans named
      · rw [apply_confirm confirmed]
        exact Rows.changed_mem_update stored held
    · cases hands
  | _ => cases hands

theorem QuestionStep.handsOff_paid (distinct : Function.Injective wire.wakeEventId)
    (key : (NativeRecipientScope × String) × Wave) (step : QuestionStep) (sound : state.Sound wire)
    (timely : step.TimelyStep state) :
    (step.handsOff key state).toNat + (state.database.isHandedOff key).toNat ≤
      ((step.apply wire state).database.isHandedOff key).toNat := by
  by_cases handed : state.database.isHandedOff key = true
  · obtain ⟨wake, stored, named, done⟩ := isHandedOff_eq_true.mp handed
    obtain ⟨later, stored', kept⟩ := (step.succeeds_apply distinct sound timely).wakes wake stored
    have still : (step.apply wire state).database.isHandedOff key = true :=
      isHandedOff_eq_true.mpr
        ⟨later, stored', kept.key.trans named, by rw [kept.handedOff done]; exact done⟩
    have once : step.handsOff key state = false := by
      rw [eq_false_iff]
      intro hands
      obtain ⟨_, _, _, _, row, present, same, _, open', _⟩ :=
        @handsOff_eq_true wire _ _ _ hands
      have found : row = wake := inj_on_of_nodup_map sound.database.wakeKeys present stored
        (same.trans named.symm)
      exact done (found ▸ open')
    rw [once, handed, still]
    decide
  · rw [eq_false_iff.mpr handed]
    by_cases hands : step.handsOff key state = true
    · obtain ⟨_, _, _, _, row, present, same, _, _, changed⟩ :=
        @handsOff_eq_true wire _ _ _ hands
      have still : (step.apply wire state).database.isHandedOff key = true :=
        isHandedOff_eq_true.mpr ⟨_, changed, same, some_ne_none _⟩
      rw [hands, still]
      decide
    · rw [eq_false_iff.mpr hands]
      exact Nat.zero_le _

/-! ## Refusals -/

def QuestionStep.Answers (state : QuestionSystem) (question : NativeQuestion)
    (response : Response) : QuestionStep → Prop
  | .commit index => ∃ answer, state.captured[index]? = some (.answer question.sender answer) ∧
      answer.questionId = question.questionId ∧ answer.response = response
  | .acknowledge scope _ dispatch _ received => scope = question.sender ∧
      state.database.forDispatch scope dispatch.rootDispatchId = some question ∧
      received = response ∧ response.isTerminal = true
  | _ => False

theorem acknowledge_terminal {wire : Wire} {scope : NativeRecipientScope} {stamp : String}
    {rows after : OutboundRows} {dispatch committed : OutboundDispatch} {operationId : String}
    {response : Response} (terminal : response.isTerminal = true)
    (acknowledged : acknowledge wire scope stamp rows dispatch operationId response =
      .ok (after, some committed)) : committed.state = .complete := by
  unfold acknowledge at acknowledged
  obtain ⟨⟨taskId, complete, digest⟩, validated, acknowledged⟩ := bind_eq_ok.mp acknowledged
  have ends : complete = true := by
    unfold validateResponse at validated
    obtain ⟨_, validated⟩ := require_bind_eq_ok.mp validated
    obtain ⟨_, validated⟩ := require_bind_eq_ok.mp validated
    obtain ⟨_, validated⟩ := require_bind_eq_ok.mp validated
    rw [bind_eq_ok, Prod.exists] at validated
    obtain ⟨named, ends, identified, validated⟩ := validated
    obtain ⟨_, validated⟩ := require_bind_eq_ok.mp validated
    obtain ⟨_, validated⟩ := require_bind_eq_ok.mp validated
    rw [← (Prod.mk.inj (Prod.mk.inj (ok.inj validated)).2).1]
    cases response with
    | task answer =>
      obtain ⟨_, same⟩ := require_bind_eq_ok.mp identified
      exact (Prod.mk.inj (ok.inj same)).2.symm.trans terminal
    | message answer =>
      obtain ⟨_, same⟩ := require_bind_eq_ok.mp identified
      rw [if_pos (of_decide_eq_true terminal)] at same
      exact (Prod.mk.inj (ok.inj same)).2.symm
  obtain ⟨_, impossible⟩ | ⟨read, stored, owned, _, rfl, indexed, found, same⟩ :=
    transition_eq_ok acknowledged
  · cases impossible
  · cases same
    rw [committed_eq stored owned indexed found, Assignment.apply_state, if_pos ends]

theorem requireReceipt_eq_ok {refusal : String}
    {receipt : Except OutboundError (OutboundRows × Option OutboundDispatch)}
    {rows : OutboundRows} {committed : OutboundDispatch}
    (required : requireReceipt refusal receipt = .ok (rows, committed)) :
    receipt = .ok (rows, some committed) := by
  unfold requireReceipt at required
  split at required
  · cases required
  · cases required
  · obtain ⟨rfl, rfl⟩ := Prod.mk.inj (ok.inj required)
    rfl

theorem QuestionStep.refused (sound : state.Sound wire) {question : NativeQuestion}
    (stored : question ∈ state.database.questions) {retained other : Response}
    (recorded : question.response = some retained) {step : QuestionStep}
    (answers : step.Answers state question other)
    (different : wire.responseDigest other ≠ wire.responseDigest retained) :
    ∃ error, step.perform wire state = .error error := by
  have digested : question.responseDigest = some (wire.responseDigest retained) := by
    rw [(sound.database.valid question stored).recorded, recorded]
    rfl
  cases step with
  | commit index =>
    obtain ⟨answer, held, asked, rfl⟩ := answers
    have prepared : answer.Prepared wire.toWire :=
      sound.captured _ (mem_of_getElem? held)
    have named : question.key = (question.sender, answer.questionId) :=
      Prod.ext rfl asked.symm
    unfold perform
    dsimp only
    rw [held]
    change ∃ error, (commitAnswer wire question.sender state.database answer).map
      state.withDatabase = .error error
    cases committed : commitAnswer wire question.sender state.database answer with
    | error error => exact ⟨error, rfl⟩
    | ok after =>
      rcases commitAnswer_eq_ok committed with
        ⟨_, _, row, read, same⟩ | ⟨changed, _⟩
      · obtain ⟨present, key⟩ := sound.database.get_eq_some_iff.mp read
        have found := sound.database.eq_of_key present stored (key.trans named.symm)
        rw [found, digested, prepared.digest] at same
        exact (different (Option.some.inj same).symm).elim
      · obtain ⟨row, present, key, open', _⟩ :=
          updateQuestion_changed changed
        have found := sound.database.eq_of_key present stored (key.trans named.symm)
        rw [found, digested] at open'
        cases open'
  | acknowledge scope stamp dispatch operationId response =>
    obtain ⟨rfl, known, rfl, terminal⟩ := answers
    cases acknowledged : acknowledgeQuestion wire question.sender state.now stamp state.database
        dispatch operationId response with
    | error error =>
      refine ⟨error, ?_⟩
      unfold perform
      dsimp only
      rw [acknowledged]
      rfl
    | ok after =>
      exfalso
      unfold acknowledgeQuestion at acknowledged
      rw [known] at acknowledged
      obtain ⟨_, _, acknowledged⟩ := bind_eq_ok.mp acknowledged
      rw [bind_eq_ok, Prod.exists] at acknowledged
      obtain ⟨rows, receipt, received, acknowledged⟩ := acknowledged
      rw [bind_eq_ok, Prod.exists] at acknowledged
      obtain ⟨rows', root, rooted, acknowledged⟩ := acknowledged
      dsimp only at acknowledged
      have complete : root.state = .complete := by
        unfold acknowledgeRoot at rooted
        split at rooted
        · obtain ⟨rfl, rfl⟩ := Prod.mk.inj (ok.inj rooted)
          exact acknowledge_terminal terminal (requireReceipt_eq_ok received)
        · split at rooted
          · cases rooted
          · exact acknowledge_terminal terminal (requireReceipt_eq_ok rooted)
      rw [if_pos complete] at acknowledged
      unfold recordAnswer at acknowledged
      have read : get { state.database with dispatches := rows' }
          question.sender question.questionId = some question :=
        (sound.database.dispatches rows').get_eq_some_iff.mpr ⟨stored, rfl⟩
      rw [read] at acknowledged
      obtain ⟨plan, planned, _⟩ := bind_eq_ok.mp acknowledged
      exact different ((planAnswer_eq_ok planned).2 _ digested).symm
  | _ => cases answers

/-! ## The contract -/

/-- What holds after a run, and of what a longer run makes of it. -/
structure QuestionContract (wire : QuestionWire) (steps : List QuestionStep)
    (before after : QuestionSystem) : Prop where
  /-- A status changes only from `WAITING`. -/
  statuses : ∀ question ∈ before.database.questions, ∃ later ∈ after.database.questions,
    later.key = question.key ∧ (later.status = question.status ∨ question.status = .waiting)
  questions : (after.database.questions.map NativeQuestion.key).Nodup
  /-- One wake for each wave of a question. -/
  waves : (before.database.wakes.map QuestionWake.key).Nodup
  /-- An answer wake and a deadline wake never both exist. -/
  primary : ∀ first ∈ before.database.wakes, ∀ second ∈ before.database.wakes,
    first.question = second.question → first.wave = .answer → second.wave ≠ .deadline
  late : ∀ wake ∈ before.database.wakes, wake.wave = .lateAnswer →
    ∃ question ∈ before.database.questions, question.key = wake.question ∧
      question.status = .expired ∧ ∃ response ∈ question.response, response.isCanceled = false
  ordered : ∀ wake ∈ before.database.wakes, wake.wave = .lateAnswer → wake.claimToken ≠ none →
    ∃ deadline ∈ before.database.wakes, deadline.question = wake.question ∧
      deadline.wave = .deadline ∧
      (deadline.handedOffAt ≠ none ∨ deadline.deliveryFailedAt ≠ none)
  retained : ∀ question ∈ before.database.questions, ∀ response ∈ question.response,
    ∃ later ∈ after.database.questions, later.key = question.key ∧
      later.response = some response
  /-- Another response is refused, unless SHA-256 collides on the two. -/
  refused : ∀ question ∈ before.database.questions, ∀ retained ∈ question.response,
    ∀ (step : QuestionStep) (other : Response), step.Answers before question other →
      wire.responseDigest other ≠ wire.responseDigest retained →
        ∃ error, step.perform wire before = .error error
  handoffs : ∀ key, Transition.countAlong (QuestionStep.apply wire) (QuestionStep.handsOff key)
    QuestionSystem.initial steps ≤ 1
  /-- The one who hands a wake off holds the token of its latest claim, which no other has. -/
  holders : ∀ key step, QuestionStep.handsOff key before step = true →
    ∃ wake token, step = .confirm wake ∧ wake.claimToken = some token ∧
      latestClaim before.claims key = some token
  tokens : (before.claims.map Prod.snd).Nodup

def QuestionDatabase.HasBothPrimaryWakes (database : QuestionDatabase) : Prop :=
  ∃ first ∈ database.wakes, ∃ second ∈ database.wakes,
    first.question = second.question ∧ first.wave = .answer ∧ second.wave = .deadline

instance (database : QuestionDatabase) : Decidable database.HasBothPrimaryWakes :=
  inferInstanceAs (Decidable (∃ _ ∈ _, ∃ _ ∈ _, _))

instance : ∀ (state : QuestionSystem) (step : QuestionStep), Decidable (step.TimelyStep state) := by
  intro state step
  unfold QuestionStep.TimelyStep
  split
  · split <;> infer_instance
  · infer_instance

theorem hasBothPrimaryWakes_of_untimely (distinct : Function.Injective wire.wakeEventId)
    (sound : state.Sound wire) {step : QuestionStep} (untimely : ¬ step.TimelyStep state) :
    (step.apply wire state).database.HasBothPrimaryWakes := by
  unfold TimelyStep at untimely
  split at untimely
  · split at untimely
    next index _ scope question dispatch held =>
      unfold Timely at untimely
      simp only [not_forall] at untimely
      obtain ⟨row, stored, named, unsent, expired, fresh⟩ := untimely
      have owner : question.sender = scope :=
        sound.captured _ (mem_of_getElem? held)
      have changed : (retireQuestion scope state.database question.questionId dispatch).2 = true :=
        any_eq_true.mpr ⟨row, stored, (and_eq_true _ _).mpr ⟨decide_eq_true named, unsent⟩⟩
      have performed : (commit index).apply wire state =
          state.withDatabase (commitUnsent wire scope state.database question dispatch) := by
        unfold apply perform
        simp only [held]
        rfl
      have inserts : commitUnsent wire scope state.database question dispatch =
          (retireQuestion scope state.database question.questionId dispatch).1.insertWake wire
            question .answer "failed"
            "The original question was not delivered; no remote task exists." false false := by
        unfold commitUnsent
        exact if_pos ⟨changed, fresh⟩
      have retired : Keyed wire
          (retireQuestion scope state.database question.questionId dispatch).1 :=
        sound.database.toKeyed.updateQuestion fun _ => rfl
      have asked : question.key = row.key := by
        rw [named]
        exact Prod.ext owner rfl
      obtain ⟨⟨deadline, waits, wave⟩, others⟩ :=
        (sound.database.valid row stored).expired expired
      obtain ⟨present, asks⟩ := mem_wakesOf.mp waits
      rw [performed]
      rw [inserts]
      rcases insertWake_cases retired distinct with
        ⟨_, wake, found, same⟩ | ⟨wake, same, _, _, _, _, _, grown⟩
      · refine (others wake ?_ (congrArg snd same)).elim
        exact mem_wakesOf.mpr ⟨found, (congrArg fst same).trans asked⟩
      · rw [grown]
        refine ⟨wake, mem_append_right _ (mem_singleton.mpr rfl), deadline,
          mem_append_left _ present, ?_, congrArg snd same, wave⟩
        exact (congrArg fst same).trans (asked.trans asks.symm)
    · exact (untimely trivial).elim
  · exact (untimely trivial).elim

section Runs

variable {wire : QuestionWire} (distinct : Function.Injective wire.wakeEventId)
include distinct

theorem sound_of_timely {steps : List QuestionStep} {before after : QuestionSystem}
    (sound : before.Sound wire)
    (run : Transition.Run (Transition.Guarded (Transition.ofFunction (apply wire))
        fun state step => step.TimelyStep state) before steps after) :
    after.Sound wire ∧ before.database.Succeeds after.database := by
  induction run with
  | nil => exact ⟨sound, .refl _⟩
  | cons first _ ih =>
    obtain ⟨timely, rfl⟩ := first
    obtain ⟨final, later⟩ := ih (sound_apply distinct sound timely)
    exact ⟨final, (succeeds_apply distinct sound timely).trans later⟩

/-- In every run in which no question expires between a retirement's read and its transaction, a
question wakes its asker once for each wave and in order. Any other step gives a question both
primary wakes. -/
theorem question_wakes_once {steps later : List QuestionStep} {before after : QuestionSystem}
    (run : Transition.Run (Transition.Guarded (Transition.ofFunction (QuestionStep.apply wire))
        fun state step => step.TimelyStep state) QuestionSystem.initial steps before)
    (rest : Transition.Run (Transition.Guarded (Transition.ofFunction (QuestionStep.apply wire))
        fun state step => step.TimelyStep state) before later after) :
    QuestionContract wire steps before after ∧ ∀ step : QuestionStep, ¬ step.TimelyStep before →
        (step.apply wire before).database.HasBothPrimaryWakes := by
  obtain ⟨sound, _⟩ := sound_of_timely distinct (initial_sound wire) run
  obtain ⟨sound', succeeds⟩ := sound_of_timely distinct sound rest
  refine ⟨⟨?_, sound'.database.keys, sound.database.wakeKeys, ?_, ?_, ?_, ?_, ?_, ?_, ?_,
    sound.tokens⟩, fun step untimely => hasBothPrimaryWakes_of_untimely distinct sound untimely⟩
  · intro question stored
    obtain ⟨found, member, progress⟩ := succeeds.questions question stored
    exact ⟨found, member, progress.key, progress.status⟩
  · intro first stored second stored' same answer deadline
    obtain ⟨question, member, named⟩ := sound.database.owned first stored
    have valid := sound.database.valid question member
    rw [named] at valid
    have held : first ∈ before.database.wakesOf first.question :=
      mem_wakesOf.mpr ⟨stored, rfl⟩
    have held' : second ∈ before.database.wakesOf first.question :=
      mem_wakesOf.mpr ⟨stored', same.symm⟩
    cases status : question.status with
    | waiting =>
      rw [(valid.waiting status).2] at held
      cases held
    | resolved =>
      rw [(valid.resolved status).2 second held'] at deadline
      cases deadline
    | expired => exact (valid.expired status).2 first held answer
  · intro wake stored late
    obtain ⟨question, member, named⟩ := sound.database.owned wake stored
    have valid := sound.database.valid question member
    rw [named] at valid
    have held : wake ∈ before.database.wakesOf wake.question :=
      mem_wakesOf.mpr ⟨stored, rfl⟩
    refine ⟨question, member, named, ?_, valid.late wake held late⟩
    cases status : question.status with
    | waiting =>
      rw [(valid.waiting status).2] at held
      cases held
    | resolved =>
      rw [(valid.resolved status).2 wake held] at late
      cases late
    | expired => rfl
  · intro wake stored late claimed
    obtain ⟨question, member, named⟩ := sound.database.owned wake stored
    have valid := sound.database.valid question member
    rw [named] at valid
    obtain ⟨deadline, held, wave, done⟩ :=
      valid.ordered wake (mem_wakesOf.mpr ⟨stored, rfl⟩) late claimed
    obtain ⟨present, asks⟩ := mem_wakesOf.mp held
    refine ⟨deadline, present, asks, wave, ?_⟩
    unfold QuestionWake.isPending at done
    rw [and_eq_false_iff, isNone_eq_false_iff, isNone_eq_false_iff,
      isSome_iff_ne_none, isSome_iff_ne_none] at done
    exact done
  · intro question stored response recorded
    obtain ⟨found, member, progress⟩ := succeeds.questions question stored
    refine ⟨found, member, progress.key, ?_⟩
    have digested : question.responseDigest ≠ none := by
      rw [(sound.database.valid question stored).recorded, mem_def.mp recorded]
      exact some_ne_none _
    exact (progress.response digested).1.trans recorded
  · intro question stored retained recorded step other answers different
    exact step.refused sound stored recorded answers different
  · intro key
    have paid := @Transition.Run.countAlong_add_le _ _ (apply wire)
      (fun state step => step.TimelyStep state) (QuestionSystem.Sound wire)
      (handsOff key) (fun _ _ => false)
      (fun state => (state.database.isHandedOff key).toNat)
      (fun state step sound timely => step.sound_apply distinct sound timely)
      (fun state step sound timely => by
        rw [toNat_false, Nat.zero_add]
        exact step.handsOff_paid distinct key sound timely)
      initial before steps (initial_sound wire) run
    rw [Transition.countAlong_never] at paid
    have small := toNat_le (before.database.isHandedOff key)
    omega
  · intro key step hands
    obtain ⟨wake, called, _, claimed, row, stored, named, token, _⟩ :=
      @handsOff_eq_true wire _ _ _ hands
    obtain ⟨held, present⟩ := ne_none_iff_exists'.mp claimed
    refine ⟨wake, held, called, present, ?_⟩
    rw [← named, ← sound.claims.token row stored, token, present]

end Runs

/-! ## Two runs -/

def Wave.text : Wave → String
  | .answer => "answer"
  | .deadline => "deadline"
  | .lateAnswer => "late-answer"

theorem Wave.text_injective : Function.Injective Wave.text := by
  intro first second same
  cases first <;> cases second <;> first | rfl | simp [Wave.text] at same

/-- A wire whose digests are the ids of what they digest. -/
def plainWire : QuestionWire where
  hasRequiredFields := fun _ => true
  interfaceHasRequiredFields := fun _ => true
  isNativeRelease := fun version => version = "1.0"
  isRepresentable := fun _ => true
  responseDigest := fun response => response.kind ++ response.contextId
  messageDigest := Message.messageId
  sendRequestDigest := fun request => request.message.messageId
  cancelRequestDigest := CancelTaskRequest.id
  wakeEventId := fun wake => Json.encodePair
    (Json.encodePair wake.1.1.recipientId wake.1.1.tenant) (Json.encodePair wake.1.2 wake.2.text)

theorem plainWire_distinct : Function.Injective plainWire.wakeEventId := by
  intro first second same
  obtain ⟨⟨⟨recipientId', tenant'⟩, questionId'⟩, wave'⟩ := second
  have outer := congrArg readPair same
  unfold plainWire at outer
  rw [readPair_encodePair, readPair_encodePair] at outer
  obtain ⟨senders, asked⟩ := Prod.mk.inj (Option.some.inj outer)
  have left := congrArg readPair senders
  have right := congrArg readPair asked
  rw [readPair_encodePair, readPair_encodePair] at left right
  obtain ⟨rfl, rfl⟩ := Prod.mk.inj (Option.some.inj left)
  obtain ⟨rfl, wave⟩ := Prod.mk.inj (Option.some.inj right)
  exact congrArg (Prod.mk _) (Wave.text_injective wave)

def asker : NativeRecipientScope := ⟨"asker", ""⟩

/-- A question for one peer. -/
def askedCall : ReserveCall where
  dispatchId := "dispatch"
  request := ⟨"", ⟨"message", "context", "", .user, [.text "Why?"], []⟩,
    [(questionCorrelationUri, .object
      [("version", .number 1), ("kind", .text "question"), ("question_id", .text "question")])]⟩
  recipient := ⟨"peer", ""⟩
  signingDid := "did:peer"
  interface := ⟨"https://peer", "JSONRPC", "", "1.0"⟩
  dispatchTool := "ask"
  verb := "question"
  parent := none

def askedDispatch : OutboundDispatch :=
  askedCall.reservation plainWire.toWire asker "noon" "reserving"

def unsentDispatch : OutboundDispatch :=
  Assignment.apply ⟨.notSent, "giving up", none, none⟩ "noon" askedDispatch

/-- A question whose dispatch was never sent, as a retirement reads it. -/
def unsentSteps : List QuestionStep :=
  [.outbound ⟨asker, "noon", "reserving", .reserve [] askedCall⟩,
    .reserve asker [askedDispatch] ⟨askedDispatch, askedCall.request, "turn", "session", 10⟩,
    .outbound ⟨asker, "noon", "giving up", .recordNoDelivery askedDispatch⟩,
    .read asker "question",
    .check 0 unsentDispatch]

/-- The deadline passes, and another process expires the question before the retirement. -/
def expiringSteps : List QuestionStep :=
  [.tick 20, .expire asker "question" none, .checkExpiry 2, .commit 3, .commit 1]

/-- A retirement that read the question before it expired adds an answer wake. -/
theorem stale_retirement_wakes_twice :
    ((unsentSteps ++ expiringSteps).foldl (QuestionStep.apply plainWire)
      QuestionSystem.initial).database.HasBothPrimaryWakes := by
  decide +kernel

/-- A retirement in time, whose wake is then claimed. -/
theorem question_wakes_once_executed :
    ∃ before after, (unsentSteps.foldl (QuestionStep.apply plainWire)
        QuestionSystem.initial = before) ∧
      after.database.wakes.map QuestionWake.wave = [.answer] ∧
      QuestionContract plainWire unsentSteps before after :=
  ⟨_, _, rfl, by decide +kernel, (question_wakes_once plainWire_distinct
    (Transition.Run.of_meets (by decide +kernel))
    (Transition.Run.of_meets
      (show Transition.Meets (apply plainWire) (fun state step => step.TimelyStep state)
        (unsentSteps.foldl (apply plainWire) initial) [.commit 1] by
        decide +kernel))).1⟩

end Kestrel.A2A
