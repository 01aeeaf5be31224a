import Kestrel.A2A.QuestionTransactions
import Kestrel.A2A.OutboundMoves
import Kestrel.Base.Run

/-!
# Processes over the question ledger

Each call is cut where it awaits. What a process knows at such a point is captured, and may be used
at any later time or never.
-/

namespace Kestrel.A2A

open List

/-- What a process holds between two awaits. -/
inductive Captured where
  | read (scope : NativeRecipientScope) (question : NativeQuestion)
  /-- `settle_unsent`, before its transaction. -/
  | unsent (scope : NativeRecipientScope) (question : NativeQuestion) (dispatch : OutboundDispatch)
  /-- `record_answer`, before its transaction. -/
  | answer (scope : NativeRecipientScope) (answer : Answer)
  /-- `expire`, called alone or by `record_answer`. -/
  | expiring (scope : NativeRecipientScope) (questionId : String)
      (withdrawal : Option OutboundDispatch) (next : Option Answer)
  /-- `expire`, before its transaction. -/
  | expiry (scope : NativeRecipientScope) (questionId : String) (now : ℕ) (withdrawn : Bool)
      (next : Option Answer)

/-- The database, the clock, what processes hold, and the claims of wakes in order. -/
structure QuestionSystem where
  database : QuestionDatabase
  now : ℕ
  captured : List Captured
  claims : List (((NativeRecipientScope × String) × Wave) × String)

/-- An empty ledger. -/
def QuestionSystem.initial : QuestionSystem where
  database := ⟨[], [], []⟩
  now := 0
  captured := []
  claims := []

/-- One step of one process, up to its next await. -/
inductive QuestionStep where
  | tick (elapsed : ℕ)
  /-- A call of the outbound ledger. -/
  | outbound (step : OutboundStep)
  | reserve (scope : NativeRecipientScope) (seen : OutboundRows) (call : QuestionCall)
  | read (scope : NativeRecipientScope) (questionId : String)
  | plan (index : ℕ) (dispatch : OutboundDispatch) (response : Response)
  | check (index : ℕ) (dispatch : OutboundDispatch)
  | expire (scope : NativeRecipientScope) (questionId : String)
      (withdrawal : Option OutboundDispatch)
  | checkExpiry (index : ℕ)
  /-- The transaction that a captured call comes to. -/
  | commit (index : ℕ)
  | acknowledge (scope : NativeRecipientScope) (stamp : String) (dispatch : OutboundDispatch)
      (operationId : String) (response : Response)
  /-- A claim, under a token that `uuid4` made. -/
  | claim (wake : QuestionWake) (token : String) (lease : ℕ)
  | confirm (wake : QuestionWake)
  | fail (wake : QuestionWake)

namespace QuestionSystem

variable (wire : QuestionWire) (state : QuestionSystem)

def withDatabase (database : QuestionDatabase) : QuestionSystem :=
  { state with database := database }

def capture (captured : Captured) : QuestionSystem :=
  { state with captured := state.captured ++ [captured] }

/-- What a captured call of `record_answer` does next. -/
def capturePlan (scope : NativeRecipientScope) (questionId : String) : AnswerPlan → QuestionSystem
  | .retained => state
  | .settle answer => state.capture (.answer scope answer)
  | .expire answer withdrawal =>
    state.capture (.expiring scope questionId withdrawal (some answer))

/-- The transaction of a captured call. -/
def commitCaptured : Captured → Except QuestionError QuestionSystem
  | .unsent scope question dispatch =>
    .ok (state.withDatabase (commitUnsent wire scope state.database question dispatch))
  | .answer scope answer =>
    (commitAnswer wire scope state.database answer).map state.withDatabase
  | .expiry scope questionId now withdrawn next => do
    let database ← commitExpiry wire scope state.database questionId now withdrawn
    match next with
    | none => .ok (state.withDatabase database)
    | some answer => .ok ((state.withDatabase database).capture (.answer scope answer))
  | _ => .ok state

/-- A claim that took its row is recorded. -/
def claimed (wake : QuestionWake) (token : String) (lease : ℕ) : QuestionSystem :=
  if token ∈ state.claims.map Prod.snd then state
  else
    let (database, changed) := state.database.claimWake wake token state.now lease
    { state with
      database := database
      claims := if changed then state.claims ++ [(wake.key, token)] else state.claims }

end QuestionSystem

/-- One step. Steps that no captured call is ready for change nothing. -/
def QuestionStep.perform (wire : QuestionWire) (state : QuestionSystem) :
    QuestionStep → Except QuestionError QuestionSystem
  | .tick elapsed => .ok { state with now := state.now + elapsed }
  | .outbound step => .ok (state.withDatabase
      { state.database with dispatches := step.apply wire.toWire state.database.dispatches })
  | .reserve scope seen call =>
    (reserveQuestion wire scope state.now seen state.database call).map state.withDatabase
  | .read scope questionId =>
    match state.database.get scope questionId with
    | none => .ok state
    | some question => .ok (state.capture (.read scope question))
  | .plan index dispatch response =>
    match state.captured[index]? with
    | some (.read scope question) =>
      (planAnswer wire scope state.now state.database.dispatches question dispatch
        response).map (state.capturePlan scope question.questionId)
    | _ => .ok state
  | .check index dispatch =>
    match state.captured[index]? with
    | some (.read scope question) =>
      (checkUnsent scope state.now question dispatch).map fun _ =>
        state.capture (.unsent scope question dispatch)
    | _ => .ok state
  | .expire scope questionId withdrawal =>
    .ok (state.capture (.expiring scope questionId withdrawal none))
  | .checkExpiry index =>
    match state.captured[index]? with
    | some (.expiring scope questionId withdrawal next) =>
      (requireWithdrawal scope state.database questionId withdrawal).map fun _ =>
        state.capture (.expiry scope questionId state.now withdrawal.isSome next)
    | _ => .ok state
  | .commit index =>
    match state.captured[index]? with
    | some captured => state.commitCaptured wire captured
    | none => .ok state
  | .acknowledge scope stamp dispatch operationId response =>
    (acknowledgeQuestion wire scope state.now stamp state.database dispatch operationId
      response).map state.withDatabase
  | .claim wake token lease => .ok (state.claimed wake token lease)
  | .confirm wake =>
    (state.database.confirmHandoff wake state.now).map fun settled =>
      state.withDatabase settled.1
  | .fail wake =>
    (state.database.recordDeliveryFailure wake state.now).map fun settled =>
      state.withDatabase settled.1

/-- The system after a step. A refused one changes nothing. -/
def QuestionStep.apply (wire : QuestionWire) (state : QuestionSystem) (step : QuestionStep) :
    QuestionSystem :=
  match step.perform wire state with
  | .ok after => after
  | .error _ => state

/-- No `settle_unsent` finds expired a question that it read earlier as not expired. -/
def QuestionStep.TimelyStep (state : QuestionSystem) (step : QuestionStep) : Prop :=
  match step with
  | .commit index =>
    match state.captured[index]? with
    | some (.unsent scope question dispatch) =>
      QuestionDatabase.Timely scope state.database question dispatch
    | _ => True
  | _ => True

/-! ## Claims -/

def latestClaim (claims : List (((NativeRecipientScope × String) × Wave) × String))
    (key : (NativeRecipientScope × String) × Wave) : Option String :=
  ((claims.filter fun claim => claim.1 = key).getLast?).map Prod.snd

/-- Each wake carries the token of its latest claim. -/
structure ClaimsMatch (wakes : List QuestionWake)
    (claims : List (((NativeRecipientScope × String) × Wave) × String)) : Prop where
  token : ∀ wake ∈ wakes, wake.claimToken = latestClaim claims wake.key
  known : ∀ claim ∈ claims, ∃ wake ∈ wakes, wake.key = claim.1

/-- Wakes are added unclaimed, and those there were keep their names and claims. -/
structure Extends (before after : List QuestionWake) : Prop where
  kept : ∀ wake ∈ before, ∃ later ∈ after, later.key = wake.key
  origin : ∀ wake ∈ after,
    (∃ older ∈ before, older.key = wake.key ∧ older.claimToken = wake.claimToken) ∨
      wake.claimToken = none ∧ ∀ older ∈ before, older.key ≠ wake.key

namespace Extends

theorem refl (wakes : List QuestionWake) : Extends wakes wakes where
  kept := fun wake stored => ⟨wake, stored, rfl⟩
  origin := fun wake stored => .inl ⟨wake, stored, rfl, rfl⟩

theorem trans {first second third : List QuestionWake} (earlier : Extends first second)
    (later : Extends second third) : Extends first third where
  kept := by
    intro wake stored
    obtain ⟨middle, stored', same⟩ := earlier.kept wake stored
    obtain ⟨last, stored'', same'⟩ := later.kept middle stored'
    exact ⟨last, stored'', same'.trans same⟩
  origin := by
    intro wake stored
    rcases later.origin wake stored with ⟨middle, stored', same, claim⟩ | ⟨unclaimed, fresh⟩
    · rcases earlier.origin middle stored' with ⟨older, stored'', same', claim'⟩ | ⟨unclaimed, fresh⟩
      · exact .inl ⟨older, stored'', same'.trans same, claim'.trans claim⟩
      · refine .inr ⟨claim.symm.trans unclaimed, ?_⟩
        intro older present found
        exact fresh older present (found.trans same.symm)
    · refine .inr ⟨unclaimed, ?_⟩
      intro older present found
      obtain ⟨middle, stored', same⟩ := earlier.kept older present
      exact fresh middle stored' (same.trans found)

theorem insertWake (wire : QuestionWire) (database : QuestionDatabase) (question : NativeQuestion)
    (wave : Wave) (state reply : String) (withdrawn requiresFullResponse : Bool) :
    Extends database.wakes
      (database.insertWake wire question wave state reply withdrawn requiresFullResponse).wakes := by
  unfold QuestionDatabase.insertWake
  dsimp only
  split_ifs with conflict
  · exact .refl _
  · refine ⟨fun wake stored => ⟨wake, mem_append_left _ stored, rfl⟩, ?_⟩
    intro wake member
    rcases mem_append.mp member with older | last
    · exact .inl ⟨wake, older, rfl, rfl⟩
    · rw [mem_singleton.mp last]
      refine .inr ⟨rfl, ?_⟩
      intro older stored same
      exact conflict (any_eq_true.mpr ⟨older, stored, decide_eq_true (.inl same)⟩)

theorem update {wakes : List QuestionWake} {test : QuestionWake → Bool}
    {change : QuestionWake → QuestionWake}
    (kept : ∀ wake, (change wake).key = wake.key ∧ (change wake).claimToken = wake.claimToken) :
    Extends wakes (Rows.update wakes test change) where
  kept := by
    intro wake stored
    refine ⟨_, Rows.mem_update.mpr ⟨wake, stored, rfl⟩, ?_⟩
    split_ifs
    · exact (kept wake).1
    · rfl
  origin := by
    intro wake member
    obtain ⟨old, stored, rfl⟩ := Rows.mem_update.mp member
    refine .inl ⟨old, stored, ?_⟩
    split_ifs
    · exact ⟨(kept old).1.symm, (kept old).2.symm⟩
    · exact ⟨rfl, rfl⟩

end Extends

theorem ClaimsMatch.extend {before after : List QuestionWake}
    {claims : List (((NativeRecipientScope × String) × Wave) × String)}
    (matched : ClaimsMatch before claims) (extend : Extends before after) :
    ClaimsMatch after claims where
  token := by
    intro wake stored
    rcases extend.origin wake stored with ⟨older, present, same, claim⟩ | ⟨unclaimed, fresh⟩
    · rw [← same, ← claim]
      exact matched.token older present
    · have none' : claims.filter (fun claim => claim.1 = wake.key) = [] := by
        apply filter_eq_nil_iff.mpr
        intro claim recorded same
        obtain ⟨older, present, named⟩ := matched.known claim recorded
        exact fresh older present (named.trans (of_decide_eq_true same))
      rw [unclaimed]
      unfold latestClaim
      rw [none']
      rfl
  known := by
    intro claim recorded
    obtain ⟨older, present, named⟩ := matched.known claim recorded
    obtain ⟨wake, stored, same⟩ := extend.kept older present
    exact ⟨wake, stored, same.trans named⟩

theorem ClaimsMatch.claim {database : QuestionDatabase}
    {claims : List (((NativeRecipientScope × String) × Wave) × String)}
    (matched : ClaimsMatch database.wakes claims)
    (keys : (database.wakes.map QuestionWake.key).Nodup) {wake : QuestionWake} {token : String}
    {now lease : ℕ} (changed : (database.claimWake wake token now lease).2 = true) :
    ClaimsMatch (database.claimWake wake token now lease).1.wakes
      (claims ++ [(wake.key, token)]) := by
  obtain ⟨row, stored, passes⟩ := any_eq_true.mp changed
  have named : ∀ other : QuestionWake, (QuestionDatabase.names wake other && other.isPending &&
        (other.leaseUntil.all fun until' => until' ≤ now) &&
          !database.waitsForDeadline other) = true → other.key = wake.key := by
    intro other tested
    have selected := (Bool.and_eq_true _ _).mp ((Bool.and_eq_true _ _).mp
      ((Bool.and_eq_true _ _).mp tested).1).1
    exact (of_decide_eq_true selected.1).1
  have latest : ∀ key, latestClaim (claims ++ [(wake.key, token)]) key =
      if wake.key = key then some token else latestClaim claims key := by
    intro key
    unfold latestClaim
    rw [filter_append, filter_singleton]
    by_cases same : wake.key = key
    · rw [if_pos same]
      simp [same]
    · rw [if_neg same]
      simp [same]
  constructor
  · intro other member
    obtain ⟨old, present, rfl⟩ := Rows.mem_update.mp member
    split_ifs with tested
    · rw [latest]
      exact (if_pos (named old tested).symm).symm
    · rw [latest, if_neg ?_]
      · exact matched.token old present
      · intro same
        have found : old = row :=
          inj_on_of_nodup_map keys present stored (same.symm.trans (named row passes).symm)
        exact tested (found ▸ passes)
  · intro claim recorded
    have present : ∀ older ∈ database.wakes,
        ∃ later ∈ (database.claimWake wake token now lease).1.wakes, later.key = older.key := by
      intro older present
      refine ⟨_, Rows.mem_update.mpr ⟨older, present, rfl⟩, ?_⟩
      split_ifs <;> rfl
    rcases mem_append.mp recorded with older | last
    · obtain ⟨holder, member, same⟩ := matched.known claim older
      obtain ⟨later, member', same'⟩ := present holder member
      exact ⟨later, member', same'.trans same⟩
    · obtain ⟨later, member', same'⟩ := present row stored
      rw [mem_singleton.mp last]
      exact ⟨later, member', same'.trans (named row passes)⟩

end Kestrel.A2A
