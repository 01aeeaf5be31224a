import Kestrel.A2A.QuestionRules

/-!
# The transactions of the question ledger

Each transaction keeps the tables sound and loses nothing that was recorded. Only the retirement
of an unsent question needs more than its own checks: its wake depends on an earlier read.
-/

namespace Kestrel.A2A

open List Except Rows

/-! ## One question -/

namespace NativeQuestion.Valid

variable {wire : Wire} {question : NativeQuestion} {wakes : List QuestionWake}

variable {wake : QuestionWake}

section

variable (valid : question.Valid wire wakes)

include valid

theorem append (ended : question.status ≠ .waiting)
    (resolved : question.status = .resolved → wake.wave = .answer)
    (expired : question.status = .expired → wake.wave ≠ .answer)
    (late : wake.wave = .lateAnswer → ∃ response ∈ question.response, response.isCanceled = false)
    (unclaimed : wake.claimToken = none) : question.Valid wire (wakes ++ [wake]) where
  waiting := fun waiting => (ended waiting).elim
  resolved := by
    intro final
    refine ⟨(valid.resolved final).1, ?_⟩
    intro other member
    rcases mem_append.mp member with older | last
    · exact (valid.resolved final).2 other older
    · rw [mem_singleton.mp last]
      exact resolved final
  expired := by
    intro final
    obtain ⟨⟨deadline, stored, wave⟩, others⟩ := valid.expired final
    refine ⟨⟨deadline, mem_append_left _ stored, wave⟩, ?_⟩
    intro other member
    rcases mem_append.mp member with older | last
    · exact others other older
    · rw [mem_singleton.mp last]
      exact expired final
  late := by
    intro other member wave
    rcases mem_append.mp member with older | last
    · exact valid.late other older wave
    · rw [mem_singleton.mp last] at wave
      exact late wave
  ordered := by
    intro other member wave claimed
    rcases mem_append.mp member with older | last
    · obtain ⟨deadline, stored, done⟩ := valid.ordered other older wave claimed
      exact ⟨deadline, mem_append_left _ stored, done⟩
    · rw [mem_singleton.mp last] at claimed
      exact (claimed unclaimed).elim
  recorded := valid.recorded

theorem response_eq_none (open' : question.responseDigest = none) : question.response = none := by
  have recorded := valid.recorded
  rw [open'] at recorded
  exact Option.map_eq_none_iff.mp recorded.symm

theorem not_late (open' : question.responseDigest = none) :
    ∀ wake ∈ wakes, wake.wave ≠ .lateAnswer := by
  intro wake member wave
  obtain ⟨response, known, _⟩ := valid.late wake member wave
  rw [valid.response_eq_none open'] at known
  cases known

theorem settled (open' : question.responseDigest = none) {answer : Answer}
    (digested : answer.digest = wire.responseDigest answer.response) :
    (question.settled answer).Valid wire wakes := by
  have punctual := valid.not_late open'
  refine ⟨?_, ?_, ?_, ?_, ?_, ?_⟩
  · intro waiting
    unfold NativeQuestion.settled at waiting
    split_ifs at waiting with before
    exact (before waiting).elim
  · intro _
    refine ⟨rfl, ?_⟩
    intro wake member
    cases status : question.status with
    | waiting =>
      rw [(valid.waiting status).2] at member
      cases member
    | resolved => exact (valid.resolved status).2 wake member
    | expired =>
      rename_i resolved
      unfold NativeQuestion.settled at resolved
      simp [status] at resolved
  · intro expired
    apply valid.expired
    unfold NativeQuestion.settled at expired
    split_ifs at expired
    exact expired
  · exact fun wake member wave => (punctual wake member wave).elim
  · exact fun wake member wave => (punctual wake member wave).elim
  · exact congrArg some digested

theorem settled_wake (open' : question.responseDigest = none) {answer : Answer}
    (digested : answer.digest = wire.responseDigest answer.response) (wave : wake.wave =
      if (question.settled answer).status = .expired then .lateAnswer else .answer)
    (uncanceled : (question.settled answer).status = .expired →
      answer.response.isCanceled = false) (unclaimed : wake.claimToken = none) :
    (question.settled answer).Valid wire (wakes ++ [wake]) := by
  have kept := valid.settled open' digested
  apply kept.append
  · intro waiting
    unfold NativeQuestion.settled at waiting
    split_ifs at waiting with before
    exact before waiting
  · intro resolved
    rw [wave, resolved]
    rfl
  · intro expired
    rw [wave, if_pos expired]
    exact Wave.noConfusion
  · intro late
    refine ⟨answer.response, rfl, ?_⟩
    by_cases expired : (question.settled answer).status = .expired
    · exact uncanceled expired
    · rw [wave, if_neg expired] at late
      cases late
  · exact unclaimed

theorem expire (waiting : question.status = .waiting) (withdrawn : Bool)
    (wave : wake.wave = .deadline) :
    { question with status := .expired, receiverSettled := withdrawn : NativeQuestion }.Valid wire
      (wakes ++ [wake]) := by
  rw [(valid.waiting waiting).2, nil_append]
  refine ⟨nofun, nofun, ?_, ?_, ?_, valid.recorded⟩
  · intro _
    refine ⟨⟨wake, mem_singleton.mpr rfl, wave⟩, ?_⟩
    intro other member
    rw [mem_singleton.mp member, wave]
    exact Wave.noConfusion
  all_goals
    intro other member late
    rw [mem_singleton.mp member, wave] at late
    cases late

theorem retire (open' : question.receiverSettled = false) : { question with
      receiverSettled := true
      status := if question.status = .waiting then .resolved else question.status :
        NativeQuestion }.Valid wire wakes := by
  cases status : question.status with
  | waiting =>
    rw [(valid.waiting status).2]
    refine ⟨nofun, ?_, nofun, ?_, ?_, valid.recorded⟩
    · exact fun _ => ⟨rfl, fun wake member => nomatch member⟩
    all_goals exact fun wake member => nomatch member
  | resolved =>
    rw [(valid.resolved status).1] at open'
    cases open'
  | expired =>
    refine ⟨nofun, nofun, ?_, valid.late, valid.ordered, valid.recorded⟩
    exact fun _ => valid.expired status

end

end NativeQuestion.Valid

/-! ## What later transactions keep -/

/-- What a question may become. -/
structure Progress (before after : NativeQuestion) : Prop where
  key : after.key = before.key
  dispatch : after.dispatchId = before.dispatchId
  status : after.status = before.status ∨ before.status = .waiting
  response : before.responseDigest ≠ none →
    after.response = before.response ∧ after.responseDigest = before.responseDigest

theorem Progress.refl (question : NativeQuestion) : Progress question question where
  key := rfl
  dispatch := rfl
  status := .inl rfl
  response := fun _ => ⟨rfl, rfl⟩

theorem Progress.trans {first second third : NativeQuestion} (earlier : Progress first second)
    (later : Progress second third) : Progress first third where
  key := later.key.trans earlier.key
  dispatch := later.dispatch.trans earlier.dispatch
  status := by
    rcases earlier.status with same | waiting
    · rw [← same]
      exact later.status
    · exact .inr waiting
  response := by
    intro recorded
    obtain ⟨response, digest⟩ := earlier.response recorded
    obtain ⟨response', digest'⟩ := later.response (digest ▸ recorded)
    exact ⟨response'.trans response, digest'.trans digest⟩

theorem Progress.settled {question : NativeQuestion} (open' : question.responseDigest = none)
    (answer : Answer) : Progress question (question.settled answer) where
  key := rfl
  dispatch := rfl
  status := by
    unfold NativeQuestion.settled
    split_ifs with waiting
    · exact .inr waiting
    · exact .inl rfl
  response := fun recorded => (recorded open').elim

/-- A wake keeps its name, and what became of it. -/
structure QuestionWake.Kept (before after : QuestionWake) : Prop where
  key : after.key = before.key
  handedOff : before.handedOffAt ≠ none → after.handedOffAt = before.handedOffAt

namespace QuestionDatabase

variable {wire : QuestionWire} {database : QuestionDatabase} {scope : NativeRecipientScope}

/-- Nothing recorded is lost. -/
structure Succeeds (before after : QuestionDatabase) : Prop where
  questions : ∀ question ∈ before.questions,
    ∃ later ∈ after.questions, Progress question later
  wakes : ∀ wake ∈ before.wakes, ∃ later ∈ after.wakes, wake.Kept later

theorem Succeeds.refl (database : QuestionDatabase) : database.Succeeds database where
  questions := fun question stored => ⟨question, stored, .refl question⟩
  wakes := fun wake stored => ⟨wake, stored, rfl, fun _ => rfl⟩

theorem Succeeds.trans {first second third : QuestionDatabase} (earlier : first.Succeeds second)
    (later : second.Succeeds third) : first.Succeeds third where
  questions := by
    intro question stored
    obtain ⟨middle, stored', progress⟩ := earlier.questions question stored
    obtain ⟨last, stored'', progress'⟩ := later.questions middle stored'
    exact ⟨last, stored'', progress.trans progress'⟩
  wakes := by
    intro wake stored
    obtain ⟨middle, stored', kept⟩ := earlier.wakes wake stored
    obtain ⟨last, stored'', kept'⟩ := later.wakes middle stored'
    refine ⟨last, stored'', kept'.key.trans kept.key, ?_⟩
    intro handed
    have same := kept.handedOff handed
    exact (kept'.handedOff (same ▸ handed)).trans same

theorem succeeds_updateQuestion {key : NativeRecipientScope × String}
    {test : NativeQuestion → Bool} {change : NativeQuestion → NativeQuestion}
    (progress : ∀ question, test question = true → Progress question (change question)) :
    database.Succeeds (database.updateQuestion key test change).1 where
  questions := by
    intro question stored
    by_cases passes : (decide (question.key = key) && test question) = true
    · exact ⟨_, changed_mem_update stored passes,
        progress question ((Bool.and_eq_true _ _).mp passes).2⟩
    · exact ⟨_, kept_mem_update stored (Bool.eq_false_iff.mpr passes), .refl question⟩
  wakes := (Succeeds.refl database).wakes

theorem succeeds_insertWake (question : NativeQuestion) (wave : Wave) (state reply : String)
    (withdrawn requiresFullResponse : Bool) :
    database.Succeeds
      (database.insertWake wire question wave state reply withdrawn requiresFullResponse) := by
  unfold QuestionDatabase.insertWake
  dsimp only
  split_ifs
  · exact .refl database
  · refine ⟨(Succeeds.refl database).questions, ?_⟩
    intro wake stored
    exact ⟨wake, mem_append_left _ stored, rfl, fun _ => rfl⟩

variable {answer : Answer} {after : QuestionDatabase} {questionId : String} {now : ℕ}
  {withdrawn : Bool} {seen : OutboundRows} {call : QuestionCall}

/-! ## Answers -/

theorem commitAnswer_eq_ok (committed : commitAnswer wire scope database answer = .ok after) :
    ((settleQuestion scope database answer).2 = false ∧ after = database ∧
        ∃ question, database.get scope answer.questionId = some question ∧
          question.responseDigest = some answer.digest) ∨
      (settleQuestion scope database answer).2 = true ∧ ∃ current,
          (settleQuestion scope database answer).1.get scope answer.questionId = some current ∧
          (current.status = .expired ∧ answer.state = "canceled" ∧
              after = (settleQuestion scope database answer).1 ∨
            (current.status = .expired → answer.state ≠ "canceled") ∧
              after = (settleQuestion scope database answer).1.insertWake wire current
                (if current.status = .expired then .lateAnswer else .answer) answer.state
                answer.replyText false answer.requiresFullResponse) := by
  unfold commitAnswer at committed
  dsimp only at committed
  cases read : (settleQuestion scope database answer).1.get scope answer.questionId with
  | none =>
    rw [read] at committed
    split_ifs at committed
  | some current =>
    rw [read] at committed
    obtain ⟨digested, committed⟩ := require_bind_eq_ok.mp committed
    cases changed : (settleQuestion scope database answer).2 with
    | false =>
      have same : (settleQuestion scope database answer).1 = database :=
        updateQuestion_unchanged changed
      rw [same] at read committed
      simp only [changed, Bool.false_eq_true, false_and, ↓reduceIte] at committed
      exact .inl ⟨rfl, (ok.inj committed).symm, current, read, digested⟩
    | true =>
      refine .inr ⟨rfl, current, rfl, ?_⟩
      simp only [changed, true_and] at committed
      by_cases wakes : current.status ≠ .expired ∨ answer.state ≠ "canceled"
      · rw [if_pos wakes] at committed
        refine .inr ⟨?_, (ok.inj committed).symm⟩
        exact fun expired => wakes.resolve_left (not_not.mpr expired)
      · rw [if_neg wakes] at committed
        rw [not_or, not_not, not_not] at wakes
        exact .inl ⟨wakes.1, wakes.2, (ok.inj committed).symm⟩

theorem succeeds_commitAnswer (committed : commitAnswer wire scope database answer = .ok after) :
    database.Succeeds after := by
  have settles : database.Succeeds (settleQuestion scope database answer).1 := by
    apply succeeds_updateQuestion
    intro question open'
    exact .settled (Option.isNone_iff_eq_none.mp open') answer
  rcases commitAnswer_eq_ok committed with
    ⟨_, rfl, _⟩ | ⟨_, current, _, ⟨_, _, rfl⟩ | ⟨_, rfl⟩⟩
  · exact .refl _
  · exact settles
  · exact settles.trans (succeeds_insertWake _ _ _ _ _ _)

variable {row : NativeQuestion} {dispatch : OutboundDispatch}

theorem settleQuestion_current (keyed : Keyed wire database) {current : NativeQuestion}
    (read : (settleQuestion scope database answer).1.get scope answer.questionId = some current)
    (stored : row ∈ database.questions) (named : row.key = (scope, answer.questionId))
    (open' : row.responseDigest.isNone = true) :
    current = row.settled answer := by
  have updated : Keyed wire (settleQuestion scope database answer).1 :=
    keyed.updateQuestion fun _ => rfl
  obtain ⟨member, same⟩ := updated.get_eq_some_iff.mp read
  apply updated.eq_of_key member
  · exact changed_mem_update stored ((Bool.and_eq_true _ _).mpr ⟨decide_eq_true named, open'⟩)
  · exact same.trans named.symm

theorem sound_commitAnswer (distinct : Function.Injective wire.wakeEventId)
    (sound : Sound wire database) (digested : answer.digest = wire.responseDigest answer.response)
    (named : answer.response.isCanceled = true → answer.state = "canceled")
    (committed : commitAnswer wire scope database answer = .ok after) :
    Sound wire after := by
  rcases commitAnswer_eq_ok committed with
    ⟨_, rfl, _⟩ | ⟨changed, current, read, ⟨_, _, rfl⟩ | ⟨uncanceled, rfl⟩⟩
  · exact sound
  · refine sound.updateQuestion (by exact fun _ => rfl) ?_
    intro row stored _ open'
    exact (sound.valid row stored).settled (Option.isNone_iff_eq_none.mp open') digested
  · have updated : Keyed wire (settleQuestion scope database answer).1 :=
      sound.toKeyed.updateQuestion fun _ => rfl
    refine sound.wake distinct (by exact fun _ => rfl) (updated.get_eq_some_iff.mp read).2 changed ?_
    intro row stored same open'
    have unanswered := Option.isNone_iff_eq_none.mp open'
    have settled := settleQuestion_current sound.toKeyed read stored same open'
    have valid := sound.valid row stored
    rw [same] at valid
    refine ⟨fun _ => valid.settled unanswered digested, ?_⟩
    intro wake _ wave unclaimed
    apply valid.settled_wake unanswered digested ?_ ?_ unclaimed
    · rw [wave, settled]
    · intro expired
      rw [← settled] at expired
      exact Bool.eq_false_iff.mpr fun canceled => uncanceled expired (named canceled)

/-! ## Expiry -/

theorem commitExpiry_eq_ok
    (committed : commitExpiry wire scope database questionId now withdrawn = .ok after) :
    after = database ∨ (expireQuestion scope database questionId now withdrawn).2 = true ∧
        ∃ current, (expireQuestion scope database questionId now withdrawn).1.get scope
            questionId = some current ∧
          after = (expireQuestion scope database questionId now withdrawn).1.insertWake wire
            current .deadline "expired" "" withdrawn false := by
  unfold commitExpiry at committed
  dsimp only at committed
  cases read : (expireQuestion scope database questionId now withdrawn).1.get scope questionId with
  | none =>
    rw [read] at committed
    split_ifs at committed
  | some current =>
    rw [read] at committed
    dsimp only at committed
    split_ifs at committed with changed
    · exact .inr ⟨changed, current, rfl, (ok.inj committed).symm⟩
    · obtain ⟨_, same⟩ := require_bind_eq_ok.mp committed
      rw [← ok.inj same]
      exact .inl (updateQuestion_unchanged (Bool.eq_false_iff.mpr changed))

theorem succeeds_commitExpiry
    (committed : commitExpiry wire scope database questionId now withdrawn = .ok after) :
    database.Succeeds after := by
  rcases commitExpiry_eq_ok committed with rfl | ⟨_, current, _, rfl⟩
  · exact .refl _
  · refine Succeeds.trans ?_ (succeeds_insertWake _ _ _ _ _ _)
    apply succeeds_updateQuestion
    intro question passes
    exact ⟨rfl, rfl, .inr (of_decide_eq_true passes).1, fun _ => ⟨rfl, rfl⟩⟩

theorem sound_commitExpiry (distinct : Function.Injective wire.wakeEventId)
    (sound : Sound wire database)
    (committed : commitExpiry wire scope database questionId now withdrawn = .ok after) :
    Sound wire after := by
  rcases commitExpiry_eq_ok committed with rfl | ⟨changed, current, read, rfl⟩
  · exact sound
  · have updated : Keyed wire (expireQuestion scope database questionId now withdrawn).1 :=
      sound.toKeyed.updateQuestion fun _ => rfl
    refine sound.wake distinct (by exact fun _ => rfl) (updated.get_eq_some_iff.mp read).2 changed ?_
    intro row stored same passes
    have waiting := (of_decide_eq_true passes).1
    have valid := sound.valid row stored
    rw [same] at valid
    constructor
    · intro present
      obtain ⟨wake, member, _⟩ := present
      rw [(valid.waiting waiting).2] at member
      cases member
    · intro wake _ wave _
      exact valid.expire waiting withdrawn wave

/-! ## Unsent questions -/

theorem commitUnsent_cases (question : NativeQuestion) (dispatch : OutboundDispatch) :
    commitUnsent wire scope database question dispatch =
        (retireQuestion scope database question.questionId dispatch).1 ∨
      (retireQuestion scope database question.questionId dispatch).2 = true ∧
        question.status ≠ .expired ∧
        commitUnsent wire scope database question dispatch =
          (retireQuestion scope database question.questionId dispatch).1.insertWake wire question
            .answer "failed" "The original question was not delivered; no remote task exists."
            false false := by
  unfold commitUnsent
  dsimp only
  split_ifs with wakes
  · exact .inr ⟨wakes.1, wakes.2, rfl⟩
  · exact .inl rfl

theorem succeeds_commitUnsent (question : NativeQuestion) (dispatch : OutboundDispatch) :
    database.Succeeds (commitUnsent wire scope database question dispatch) := by
  have retires :
      database.Succeeds (retireQuestion scope database question.questionId dispatch).1 := by
    apply succeeds_updateQuestion
    intro row _
    refine ⟨rfl, rfl, ?_, fun _ => ⟨rfl, rfl⟩⟩
    split_ifs with waiting
    · exact .inr waiting
    · exact .inl rfl
  rcases commitUnsent_cases question dispatch with same | ⟨_, _, same⟩
  · rw [same]
    exact retires
  · rw [same]
    exact retires.trans (succeeds_insertWake _ _ _ _ _ _)

/-- A question that the retirement finds expired was read as expired. -/
def Timely (scope : NativeRecipientScope) (database : QuestionDatabase)
    (question : NativeQuestion) (dispatch : OutboundDispatch) : Prop :=
  ∀ row ∈ database.questions, row.key = (scope, question.questionId) →
    isUnsent scope database dispatch row = true → row.status = .expired →
      question.status = .expired

instance (scope : NativeRecipientScope) (database : QuestionDatabase) (question : NativeQuestion)
    (dispatch : OutboundDispatch) : Decidable (Timely scope database question dispatch) :=
  inferInstanceAs (Decidable (∀ row ∈ _, _))

theorem isUnsent_unsettled (unsent : isUnsent scope database dispatch row = true)
    : row.receiverSettled = false := by
  unfold isUnsent at unsent
  rw [Bool.and_eq_true, Bool.and_eq_true, Bool.not_eq_true'] at unsent
  exact unsent.1.1

theorem sound_commitUnsent (distinct : Function.Injective wire.wakeEventId)
    (sound : Sound wire database) {question : NativeQuestion} (owned : question.sender = scope)
    (timely : Timely scope database question dispatch) :
    Sound wire (commitUnsent wire scope database question dispatch) := by
  rcases commitUnsent_cases question dispatch with same | ⟨changed, fresh, same⟩
  · rw [same]
    refine sound.updateQuestion (by exact fun _ => rfl) ?_
    intro row stored _ unsent
    exact (sound.valid row stored).retire (isUnsent_unsettled unsent)
  · rw [same]
    refine sound.wake distinct (by exact fun _ => rfl) (Prod.ext owned rfl) changed ?_
    intro row stored named unsent
    have valid := sound.valid row stored
    rw [named] at valid
    have retired := valid.retire (isUnsent_unsettled unsent)
    refine ⟨fun _ => retired, ?_⟩
    intro wake _ wave unclaimed
    have known : row.status = .waiting ∨ row.status = .resolved ∨ row.status = .expired := by
      cases row.status <;> simp
    rcases known with status | status | status
    · apply retired.append
      · simp [status]
      · exact fun _ => wave
      · simp [status]
      · intro late
        rw [wave] at late
        cases late
      · exact unclaimed
    · have settled := isUnsent_unsettled unsent
      rw [(valid.resolved status).1] at settled
      cases settled
    · exact (fresh (timely row stored named unsent status)).elim

/-! ## Wakes -/

section Wakes

variable {test : QuestionWake → Bool} {change : QuestionWake → QuestionWake}

theorem Keyed.updateWake (keyed : Keyed wire database)
    (kept : ∀ wake, (change wake).key = wake.key ∧ (change wake).eventId = wake.eventId) :
    Keyed wire (database.updateWake test change).1 where
  keys := keyed.keys
  wakeKeys := by
    change ((update _ _ _).map QuestionWake.key).Nodup
    rw [map_update fun wake => (kept wake).1]
    exact keyed.wakeKeys
  events := by
    intro wake member
    obtain ⟨old, stored, rfl⟩ := mem_update.mp member
    split_ifs
    · rw [(kept old).1, (kept old).2]
      exact keyed.events old stored
    · exact keyed.events old stored
  owned := by
    intro wake member
    obtain ⟨old, stored, rfl⟩ := mem_update.mp member
    split_ifs
    · rw [show (change old).question = old.question from congrArg Prod.fst (kept old).1]
      exact keyed.owned old stored
    · exact keyed.owned old stored

theorem Sound.updateWake (sound : Sound wire database)
    (kept : ∀ wake, (change wake).key = wake.key ∧ (change wake).eventId = wake.eventId)
    (done : ∀ wake, wake.isPending = false → (change wake).isPending = false)
    (ordered : ∀ wake ∈ database.wakes, test wake = true → wake.wave = .lateAnswer →
      (change wake).claimToken ≠ none → wake.claimToken ≠ none ∨
        ∃ deadline ∈ database.wakesOf wake.question, deadline.wave = .deadline ∧
          deadline.isPending = false) :
    Sound wire (database.updateWake test change).1 := by
  have view : ∀ key, (database.updateWake test change).1.wakesOf key =
      update (database.wakesOf key) test change := by
    intro key
    refine filter_update ?_
    intro wake
    rw [show (change wake).question = wake.question from congrArg Prod.fst (kept wake).1]
  have wave : ∀ wake, (if test wake then change wake else wake).wave = wake.wave := by
    intro wake
    split_ifs
    · exact congrArg Prod.snd (kept wake).1
    · rfl
  have settled : ∀ wake, wake.isPending = false →
      (if test wake then change wake else wake).isPending = false := by
    intro wake finished
    split_ifs
    · exact done wake finished
    · exact finished
  refine ⟨sound.toKeyed.updateWake kept, ?_⟩
  intro question stored
  have valid := sound.valid question stored
  rw [view]
  refine ⟨?_, ?_, ?_, ?_, ?_, valid.recorded⟩
  · intro waiting
    obtain ⟨open', none'⟩ := valid.waiting waiting
    rw [none']
    exact ⟨open', rfl⟩
  · intro resolved
    refine ⟨(valid.resolved resolved).1, ?_⟩
    intro wake member
    obtain ⟨old, stored', rfl⟩ := mem_update.mp member
    rw [wave]
    exact (valid.resolved resolved).2 old stored'
  · intro expired
    obtain ⟨⟨deadline, stored', named⟩, others⟩ := valid.expired expired
    refine ⟨⟨_, mem_update.mpr ⟨deadline, stored', rfl⟩, (wave deadline).trans named⟩, ?_⟩
    intro wake member
    obtain ⟨old, stored'', rfl⟩ := mem_update.mp member
    rw [wave]
    exact others old stored''
  · intro wake member late
    obtain ⟨old, stored', rfl⟩ := mem_update.mp member
    rw [wave] at late
    exact valid.late old stored' late
  · intro wake member late claimed
    obtain ⟨old, stored', rfl⟩ := mem_update.mp member
    rw [wave] at late
    have before : ∃ deadline ∈ database.wakesOf question.key, deadline.wave = .deadline ∧
        deadline.isPending = false := by
      obtain ⟨present, asked⟩ := mem_wakesOf.mp stored'
      split_ifs at claimed with passes
      · rcases ordered old present passes late claimed with older | found
        · exact valid.ordered old stored' late older
        · rw [← asked]
          exact found
      · exact valid.ordered old stored' late claimed
    obtain ⟨deadline, present, named, finished⟩ := before
    exact ⟨_, mem_update.mpr ⟨deadline, present, rfl⟩, (wave deadline).trans named,
      settled deadline finished⟩

theorem succeeds_updateWake (kept : ∀ wake, test wake = true → wake.Kept (change wake)) :
    database.Succeeds (database.updateWake test change).1 where
  questions := (Succeeds.refl database).questions
  wakes := by
    intro wake stored
    by_cases passes : test wake = true
    · exact ⟨_, changed_mem_update stored passes, kept wake passes⟩
    · exact ⟨_, kept_mem_update stored (Bool.eq_false_iff.mpr passes), rfl, fun _ => rfl⟩

end Wakes

theorem Sound.deadline_of_late (sound : Sound wire database) {wake : QuestionWake}
    (stored : wake ∈ database.wakes) (late : wake.wave = .lateAnswer) :
    ∃ deadline ∈ database.wakesOf wake.question, deadline.wave = .deadline := by
  obtain ⟨question, member, same⟩ := sound.owned wake stored
  have valid := sound.valid question member
  rw [same] at valid
  have present : wake ∈ database.wakesOf wake.question := mem_wakesOf.mpr ⟨stored, rfl⟩
  cases status : question.status with
  | waiting =>
    rw [(valid.waiting status).2] at present
    cases present
  | resolved =>
    rw [(valid.resolved status).2 wake present] at late
    cases late
  | expired => exact (valid.expired status).1

theorem sound_claimWake (sound : Sound wire database) (wake : QuestionWake) (token : String)
    (now lease : ℕ) : Sound wire (database.claimWake wake token now lease).1 := by
  refine sound.updateWake (by exact fun _ => ⟨rfl, rfl⟩) (by exact fun _ finished => finished) ?_
  intro row stored passes late _
  obtain ⟨deadline, member, wave⟩ := sound.deadline_of_late stored late
  refine .inr ⟨deadline, member, wave, ?_⟩
  obtain ⟨present, asked⟩ := mem_wakesOf.mp member
  have free := ((Bool.and_eq_true _ _).mp passes).2
  rw [Bool.eq_false_iff]
  intro pending
  have waits : database.waitsForDeadline row = true :=
    decide_eq_true ⟨late, any_eq_true.mpr
      ⟨deadline, present, decide_eq_true ⟨asked, wave, pending⟩⟩⟩
  rw [waits] at free
  cases free

theorem sound_settleHandoff (sound : Sound wire database) {test : QuestionWake → Bool}
    {change : QuestionWake → QuestionWake}
    (kept : ∀ wake, (change wake).key = wake.key ∧ (change wake).eventId = wake.eventId ∧
      (change wake).claimToken = wake.claimToken)
    (done : ∀ wake, wake.isPending = false → (change wake).isPending = false) :
    Sound wire (database.updateWake test change).1 := by
  refine sound.updateWake (fun wake => ⟨(kept wake).1, (kept wake).2.1⟩) done ?_
  intro wake _ _ _ claimed
  rw [(kept wake).2.2] at claimed
  exact .inl claimed

/-! ## Reservations and dispatches -/

theorem reserveQuestion_eq_ok
    (reserved : reserveQuestion wire scope now seen database call = .ok after) :
    ∃ questionId, (∀ other ∈ database.questions, other.key ≠ (scope, questionId)) ∧
      after = { database with
        questions := database.questions ++ [call.question scope questionId] } := by
  unfold reserveQuestion at reserved
  split at reserved
  · cases reserved
  next questionId _ =>
    obtain ⟨_, reserved⟩ := require_bind_eq_ok.mp reserved
    obtain ⟨_, reserved⟩ := require_bind_eq_ok.mp reserved
    obtain ⟨fresh, reserved⟩ := require_bind_eq_ok.mp reserved
    refine ⟨questionId, ?_, (ok.inj reserved).symm⟩
    intro other stored same
    exact (fresh other stored (congrArg Prod.fst same)).1 (congrArg Prod.snd same)
  · cases reserved

theorem succeeds_reserveQuestion
    (reserved : reserveQuestion wire scope now seen database call = .ok after) :
    database.Succeeds after := by
  obtain ⟨questionId, _, rfl⟩ := reserveQuestion_eq_ok reserved
  refine ⟨?_, (Succeeds.refl database).wakes⟩
  intro question stored
  exact ⟨question, mem_append_left _ stored, .refl question⟩

theorem sound_reserveQuestion (sound : Sound wire database)
    (reserved : reserveQuestion wire scope now seen database call = .ok after) :
    Sound wire after := by
  obtain ⟨questionId, fresh, rfl⟩ := reserveQuestion_eq_ok reserved
  have owned : ∀ wake ∈ database.wakes,
      ∃ question ∈ database.questions ++ [call.question scope questionId],
        question.key = wake.question := by
    intro wake stored
    obtain ⟨question, member, same⟩ := sound.owned wake stored
    exact ⟨question, mem_append_left _ member, same⟩
  refine ⟨⟨nodup_append sound.keys fresh, sound.wakeKeys, sound.events, owned⟩, ?_⟩
  intro question member
  rcases mem_append.mp member with older | last
  · exact sound.valid question older
  · rw [mem_singleton.mp last]
    have silent : database.wakesOf (scope, questionId) = [] := by
      apply filter_eq_nil_iff.mpr
      intro wake stored asked
      obtain ⟨other, present, same⟩ := sound.owned wake stored
      exact fresh other present (same.trans (of_decide_eq_true asked))
    change (call.question scope questionId).Valid wire.toWire (database.wakesOf (scope, questionId))
    rw [silent]
    refine ⟨fun _ => ⟨rfl, rfl⟩, nofun, nofun, ?_, ?_, rfl⟩
    all_goals exact fun wake member => nomatch member

theorem Sound.dispatches (sound : Sound wire database) (rows : OutboundRows) :
    Sound wire { database with dispatches := rows } :=
  ⟨⟨sound.keys, sound.wakeKeys, sound.events, sound.owned⟩, sound.valid⟩

theorem succeeds_dispatches (rows : OutboundRows) :
    database.Succeeds { database with dispatches := rows } :=
  ⟨(Succeeds.refl database).questions, (Succeeds.refl database).wakes⟩

end QuestionDatabase

end Kestrel.A2A
