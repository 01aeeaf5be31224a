import Kestrel.A2A.Question
import Mathlib.Logic.Function.Basic

/-!
# What a question's wakes say of it

The invariant of one question and its wakes, and the tables in which every question keeps it.
-/

namespace Kestrel.A2A

open List Rows

def Response.isCanceled : Response → Bool
  | .task answer => answer.state = .canceled
  | .message _ => false

structure NativeQuestion.Valid (wire : Wire) (question : NativeQuestion)
    (wakes : List QuestionWake) : Prop where
  waiting : question.status = .waiting → question.responseDigest = none ∧ wakes = []
  resolved : question.status = .resolved →
    question.receiverSettled = true ∧ ∀ wake ∈ wakes, wake.wave = .answer
  expired : question.status = .expired →
    (∃ wake ∈ wakes, wake.wave = .deadline) ∧ ∀ wake ∈ wakes, wake.wave ≠ .answer
  late : ∀ wake ∈ wakes, wake.wave = .lateAnswer →
    ∃ response ∈ question.response, response.isCanceled = false
  ordered : ∀ wake ∈ wakes, wake.wave = .lateAnswer → wake.claimToken ≠ none →
    ∃ deadline ∈ wakes, deadline.wave = .deadline ∧ deadline.isPending = false
  recorded : question.responseDigest = question.response.map wire.responseDigest

namespace QuestionDatabase

variable {wire : QuestionWire} {database : QuestionDatabase}

def wakesOf (database : QuestionDatabase) (key : NativeRecipientScope × String) :
    List QuestionWake :=
  database.wakes.filter fun wake => wake.question = key

theorem mem_wakesOf {key : NativeRecipientScope × String} {wake : QuestionWake} :
    wake ∈ database.wakesOf key ↔ wake ∈ database.wakes ∧ wake.question = key := by
  unfold wakesOf
  rw [mem_filter, decide_eq_true_eq]

/-- The keys of both tables, and the owners of the wakes. -/
structure Keyed (wire : QuestionWire) (database : QuestionDatabase) : Prop where
  keys : (database.questions.map NativeQuestion.key).Nodup
  wakeKeys : (database.wakes.map QuestionWake.key).Nodup
  events : ∀ wake ∈ database.wakes, wake.eventId = wire.wakeEventId wake.key
  owned : ∀ wake ∈ database.wakes, ∃ question ∈ database.questions, question.key = wake.question

/-- Every question agrees with its wakes. -/
structure Sound (wire : QuestionWire) (database : QuestionDatabase) : Prop
    extends Keyed wire database where
  valid : ∀ question ∈ database.questions,
    question.Valid wire.toWire (database.wakesOf question.key)

theorem Keyed.get_eq_some_iff (keyed : Keyed wire database) {sender : NativeRecipientScope}
    {questionId : String} {question : NativeQuestion} :
    database.get sender questionId = some question ↔
      question ∈ database.questions ∧ question.key = (sender, questionId) :=
  find?_eq_some_iff keyed.keys

theorem Keyed.eq_of_key (keyed : Keyed wire database) {first second : NativeQuestion}
    (member : first ∈ database.questions) (member' : second ∈ database.questions)
    (same : first.key = second.key) : first = second :=
  inj_on_of_nodup_map keyed.keys member member' same

/-! ## Updates of a question -/

section Update

variable {key : NativeRecipientScope × String} {test : NativeQuestion → Bool}
  {change : NativeQuestion → NativeQuestion}

theorem Keyed.updateQuestion (keyed : Keyed wire database)
    (kept : ∀ question, (change question).key = question.key) :
    Keyed wire (database.updateQuestion key test change).1 where
  keys := by
    change ((update _ _ _).map NativeQuestion.key).Nodup
    rw [map_update kept]
    exact keyed.keys
  wakeKeys := keyed.wakeKeys
  events := keyed.events
  owned := by
    intro wake stored
    obtain ⟨question, member, same⟩ := keyed.owned wake stored
    by_cases passes : (decide (question.key = key) && test question) = true
    · exact ⟨change question, changed_mem_update member passes, (kept question).trans same⟩
    · exact ⟨question, kept_mem_update member (Bool.eq_false_iff.mpr passes), same⟩

theorem updateQuestion_changed (changed : (database.updateQuestion key test change).2 = true) :
    ∃ question ∈ database.questions, question.key = key ∧ test question = true ∧
      change question ∈ (database.updateQuestion key test change).1.questions := by
  obtain ⟨question, member, passes⟩ := any_eq_true.mp changed
  obtain ⟨named, tested⟩ := (Bool.and_eq_true _ _).mp passes
  exact ⟨question, member, of_decide_eq_true named, tested, changed_mem_update member passes⟩

theorem updateQuestion_unchanged (unchanged : (database.updateQuestion key test change).2 = false) :
    (database.updateQuestion key test change).1 = database := by
  unfold QuestionDatabase.updateQuestion at unchanged ⊢
  dsimp only at unchanged ⊢
  rw [update_eq_self unchanged]

theorem mem_updateQuestion_of_ne (kept : ∀ question, (change question).key = question.key)
    {question : NativeQuestion}
    (member : question ∈ (database.updateQuestion key test change).1.questions)
    (distinct : question.key ≠ key) : question ∈ database.questions := by
  obtain ⟨old, stored, same⟩ := mem_update.mp member
  split_ifs at same with passes
  · obtain ⟨named, _⟩ := (Bool.and_eq_true _ _).mp passes
    rw [← same, kept] at distinct
    exact (distinct (of_decide_eq_true named)).elim
  · exact same ▸ stored

theorem Sound.updateQuestion (sound : Sound wire database)
    (kept : ∀ question, (change question).key = question.key)
    (valid : ∀ question ∈ database.questions, question.key = key → test question = true →
      (change question).Valid wire.toWire (database.wakesOf question.key)) :
    Sound wire (database.updateQuestion key test change).1 where
  toKeyed := sound.toKeyed.updateQuestion kept
  valid := by
    intro question member
    obtain ⟨old, stored, same⟩ := mem_update.mp member
    split_ifs at same with passes
    · obtain ⟨named, tested⟩ := (Bool.and_eq_true _ _).mp passes
      rw [← same, kept]
      exact valid old stored (of_decide_eq_true named) tested
    · rw [← same]
      exact sound.valid old stored

end Update

/-! ## Insertions of a wake -/

section Insertion

variable {question : NativeQuestion} {wave : Wave} {state reply : String}
  {withdrawn requiresFullResponse : Bool}

theorem insertWake_cases (keyed : Keyed wire database)
    (distinct : Function.Injective wire.wakeEventId) :
    (database.insertWake wire question wave state reply withdrawn requiresFullResponse =
        database ∧ ∃ wake ∈ database.wakes, wake.key = (question.key, wave)) ∨
      ∃ wake : QuestionWake, wake.key = (question.key, wave) ∧
        wake.eventId = wire.wakeEventId (question.key, wave) ∧ wake.claimToken = none ∧
        wake.handedOffAt = none ∧ wake.deliveryFailedAt = none ∧
        (∀ other ∈ database.wakes, other.key ≠ wake.key) ∧
        database.insertWake wire question wave state reply withdrawn requiresFullResponse =
          { database with wakes := database.wakes ++ [wake] } := by
  unfold QuestionDatabase.insertWake
  dsimp only
  split_ifs with conflict
  · obtain ⟨wake, stored, same⟩ := any_eq_true.mp conflict
    refine .inl ⟨rfl, wake, stored, ?_⟩
    rcases of_decide_eq_true same with same | ⟨_, same⟩
    · exact same
    · exact distinct ((keyed.events wake stored).symm.trans same)
  · refine .inr ⟨_, rfl, rfl, rfl, rfl, rfl, ?_, rfl⟩
    intro other stored same
    exact conflict (any_eq_true.mpr ⟨other, stored, decide_eq_true (.inl same)⟩)

theorem Keyed.append {wake : QuestionWake} (keyed : Keyed wire database)
    (event : wake.eventId = wire.wakeEventId wake.key)
    (fresh : ∀ other ∈ database.wakes, other.key ≠ wake.key)
    (owned : ∃ question ∈ database.questions, question.key = wake.question) :
    Keyed wire { database with wakes := database.wakes ++ [wake] } where
  keys := keyed.keys
  wakeKeys := nodup_append keyed.wakeKeys fresh
  events := by
    intro other member
    rcases mem_append.mp member with stored | last
    · exact keyed.events other stored
    · rw [mem_singleton.mp last]
      exact event
  owned := by
    intro other member
    rcases mem_append.mp member with stored | last
    · exact keyed.owned other stored
    · rw [mem_singleton.mp last]
      exact owned

theorem wakesOf_append_self {wake : QuestionWake} :
    wakesOf { database with wakes := database.wakes ++ [wake] } wake.question =
      database.wakesOf wake.question ++ [wake] := by
  unfold wakesOf
  rw [filter_append, filter_singleton, decide_eq_true rfl, cond_true]

theorem wakesOf_append_of_ne {wake : QuestionWake} {key : NativeRecipientScope × String}
    (distinct : wake.question ≠ key) :
    wakesOf { database with wakes := database.wakes ++ [wake] } key = database.wakesOf key := by
  unfold wakesOf
  rw [filter_append, filter_singleton, decide_eq_false distinct, cond_false, append_nil]

theorem Sound.wake {test : NativeQuestion → Bool} {change : NativeQuestion → NativeQuestion}
    (sound : Sound wire database) (distinct : Function.Injective wire.wakeEventId)
    (kept : ∀ question, (change question).key = question.key) {key : NativeRecipientScope × String}
    (named : question.key = key)
    (changed : (database.updateQuestion key test change).2 = true)
    (valid : ∀ row ∈ database.questions, row.key = key → test row = true →
      ((∃ wake ∈ database.wakesOf key, wake.wave = wave) →
        (change row).Valid wire.toWire (database.wakesOf key)) ∧
      ∀ wake : QuestionWake, wake.question = key → wake.wave = wave → wake.claimToken = none →
        (change row).Valid wire.toWire (database.wakesOf key ++ [wake])) :
    Sound wire ((database.updateQuestion key test change).1.insertWake wire question wave state
      reply withdrawn requiresFullResponse) := by
  have keyed : Keyed wire (database.updateQuestion key test change).1 :=
    sound.toKeyed.updateQuestion kept
  obtain ⟨row, stored, same, tested, member⟩ := updateQuestion_changed changed
  obtain ⟨untouched, inserted⟩ := valid row stored same tested
  have owner : (change row).key = key := (kept row).trans same
  have others : ∀ other ∈ (database.updateQuestion key test change).1.questions,
      other.key ≠ key → other ∈ database.questions := fun other member distinct =>
    mem_updateQuestion_of_ne kept member distinct
  rcases insertWake_cases keyed distinct with
    ⟨unchanged, wake, present, held⟩ | ⟨wake, held, event, unclaimed, _, _, fresh, grown⟩
  · rw [unchanged]
    refine ⟨keyed, ?_⟩
    intro other member'
    by_cases found : other.key = key
    · rw [keyed.eq_of_key member' member (found.trans owner.symm), owner]
      exact untouched ⟨wake, mem_wakesOf.mpr ⟨present, (congrArg Prod.fst held).trans named⟩,
        congrArg Prod.snd held⟩
    · exact sound.valid other (others other member' found)
  · have asked : wake.question = key := (congrArg Prod.fst held).trans named
    rw [grown]
    refine ⟨keyed.append (held ▸ event) fresh ⟨_, member, owner.trans asked.symm⟩, ?_⟩
    intro other member'
    by_cases found : other.key = key
    · rw [keyed.eq_of_key member' member (found.trans owner.symm), owner]
      have view := inserted wake asked (congrArg Prod.snd held) unclaimed
      rw [← asked] at view ⊢
      rw [wakesOf_append_self]
      exact view
    · rw [wakesOf_append_of_ne (fun same => found (same.symm.trans asked))]
      exact sound.valid other (others other member' found)

end Insertion

end QuestionDatabase

end Kestrel.A2A
