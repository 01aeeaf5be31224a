import Kestrel.Base.Run
import Kestrel.Stop.Invocation

/-!
# Runs of the invocation store

Any number of processes call the store, in any order. What one call can do to the rows of a
generation is stated once, as `Change`.
-/

namespace Kestrel.Stop.Invocation

open Except Option Tables Table

variable {sha256 : Sha256} {before after tables : Tables} {clock : Clock}
  {generationId ownerId agentId turnId digest : String} {lease : ℕ}

section Calls

/-- A call of a process on the store, or a transaction of the receipt store beside it. -/
inductive Call where
  | register (registration : Registration)
  | bindPublicTurn (generationId ownerId agentId turnId : String)
  | settle (generationId ownerId : String) (disposition : RequestCompletionDisposition)
      (abandonIf : Option Bool)
  | markTurn (agentId turnId : String)
  | markPublicTurn (agentId turnId : String)
  | markAgent (agentId : String)
  | pollOwner (ownerId : String) (lease : ℕ)
  | readOwner (ownerId : String) (lease : ℕ)
  | reapExpired (generationIds : List String) (lease : ℕ)
  | remaining (generationIds : List String)
  | abandonOwner (ownerId : String)
  | writeReceipts (receipts : Receipt.Tables)

inductive Answer where
  | admitted (admitted : Bool)
  | bound (bound : Bool)
  | settled
  | ticket (ticket : DistributedStopTicket)
  | polled (poll : OwnerPoll)
  | reaped (generationIds : List String)
  | remaining (rows : List (String × ℕ))
  | abandons (generationIds : List String)
  | written
  deriving DecidableEq

def Tables.perform (sha256 : Sha256) (tables : Tables) (clock : Clock) :
    Call → Except InvocationError (Tables × Answer)
  | .register registration =>
    (tables.register sha256 registration clock).map (Prod.map id .admitted)
  | .bindPublicTurn generationId ownerId agentId turnId =>
    (tables.bindPublicTurn sha256 generationId ownerId agentId turnId).map (Prod.map id .bound)
  | .settle generationId ownerId disposition abandonIf =>
    (tables.settle generationId ownerId disposition abandonIf clock).map fun after =>
      (after, .settled)
  | .markTurn agentId turnId =>
    (tables.markTurn sha256 agentId turnId clock).map (Prod.map id .ticket)
  | .markPublicTurn agentId turnId =>
    (tables.markPublicTurn sha256 agentId turnId clock).map (Prod.map id .ticket)
  | .markAgent agentId => (tables.markAgent agentId).map (Prod.map id .ticket)
  | .pollOwner ownerId lease => (tables.pollOwner ownerId lease clock).map (Prod.map id .polled)
  | .readOwner ownerId lease =>
    (tables.readOwner ownerId lease clock).map fun poll => (tables, .polled poll)
  | .reapExpired generationIds lease =>
    (tables.reapExpired generationIds lease clock).map (Prod.map id .reaped)
  | .remaining generationIds => .ok (tables, .remaining (tables.remaining generationIds))
  | .abandonOwner ownerId =>
    (tables.abandonOwner ownerId).map fun generationIds => (tables, .abandons generationIds)
  | .writeReceipts receipts => .ok ({ tables with receipts := receipts }, .written)

def Call.draws : Call → List String
  | .register registration => [registration.generationId]
  | .bindPublicTurn _ _ _ _ | .settle _ _ _ _ | .markTurn _ _ | .markPublicTurn _ _
  | .markAgent _ | .pollOwner _ _ | .readOwner _ _ | .reapExpired _ _ | .remaining _
  | .abandonOwner _ | .writeReceipts _ => []

/-- A call with the readings of its clock, and its answer where its transaction committed. -/
structure Label where
  call : Call
  clock : Clock
  answer : Option Answer

/-- The tables, and the generation identities drawn so far. -/
structure System where
  tables : Tables
  drawn : List String

/-- No generation was registered and no turn fenced. -/
def System.initial (receipts : Receipt.Tables) : System := ⟨⟨.empty, .empty, .empty, receipts⟩, []⟩

/-- A process makes a call. Its transaction is rolled back, also where the process dies, or
commits. Identities are never drawn twice. -/
structure Steps (sha256 : Sha256) (before : System) (label : Label) (after : System) : Prop where
  fresh : ∀ generationId ∈ label.call.draws, generationId ∉ before.drawn
  drawn : after.drawn = label.call.draws ++ before.drawn
  performed : label.answer = none ∧ after.tables = before.tables ∨
    ∃ answer, label.answer = some answer ∧
      before.tables.perform sha256 label.clock label.call = .ok (after.tables, answer)

end Calls

section Changes

/-- A row after its generation was renewed, marked or bound. -/
structure ActiveRow.Keeps (row row' : ActiveRow) : Prop where
  agentId : row'.agentId = row.agentId
  turnDigest : row'.turnDigest = row.turnDigest
  ownerId : row'.ownerId = row.ownerId
  publicTurnDigest : ∀ digest, row.publicTurnDigest = some digest →
    row'.publicTurnDigest = some digest
  stopRequested : row.stopRequested = true → row'.stopRequested = true

theorem ActiveRow.Keeps.refl (row : ActiveRow) : row.Keeps row :=
  ⟨rfl, rfl, rfl, fun _ bound => bound, fun requested => requested⟩

def Registers (call : Call) (answer : Answer) (registration : Registration) : Prop :=
  call = .register registration ∧ answer = .admitted true

def Binds (call : Call) (answer : Answer) (generationId agentId turnId : String) : Prop :=
  (∃ ownerId, call = .bindPublicTurn generationId ownerId agentId turnId) ∧ answer = .bound true

def Completes (call : Call) (generationId ownerId : String) : Prop :=
  ∃ abandonIf, abandonIf ≠ some true ∧ call = .settle generationId ownerId .completed abandonIf

/-- A call does not register, bind anew or complete a generation. -/
structure Quiet (sha256 : Sha256) (generationId : String) (before : Tables) (call : Call)
    (answer : Answer) : Prop where
  registers : ∀ registration, Registers call answer registration →
    registration.generationId ≠ generationId
  binds : ∀ agentId turnId, Binds call answer generationId agentId turnId →
    ∃ row, before.active.row generationId = some row ∧ row.agentId = agentId ∧
      row.stopRequested = false ∧
      row.publicTurnDigest = some (publicTurnDigest sha256 turnId)
  completes : ∀ ownerId, Completes call generationId ownerId →
    (∀ row, before.active.row generationId = some row → row.ownerId ≠ ownerId) ∧
      ∀ row, before.unresolved.row generationId = some row → row.ownerId ≠ ownerId

inductive Change (sha256 : Sha256) (generationId : String) (before after : Tables) (call : Call)
    (answer : Answer) : Prop where
  | kept : Quiet sha256 generationId before call answer →
      after.active.row generationId = before.active.row generationId →
      after.unresolved.row generationId = before.unresolved.row generationId →
      Change sha256 generationId before after call answer
  | registered {registration : Registration} {row : ActiveRow} :
      Registers call answer registration → registration.generationId = generationId →
      before.active.row generationId = none →
      before.fences.row (registration.agentId, turnDigest sha256 registration.turnId) = none →
      after.active.row generationId = some row →
      row.agentId = registration.agentId →
      row.turnDigest = turnDigest sha256 registration.turnId →
      row.ownerId = registration.ownerId →
      row.publicTurnDigest = none →
      after.unresolved.row generationId = before.unresolved.row generationId →
      Change sha256 generationId before after call answer
  | updated {row row' : ActiveRow} :
      Quiet sha256 generationId before call answer →
      before.active.row generationId = some row →
      after.active.row generationId = some row' → row.Keeps row' →
      row'.publicTurnDigest = row.publicTurnDigest →
      after.unresolved.row generationId = before.unresolved.row generationId →
      Change sha256 generationId before after call answer
  | bound {ownerId agentId turnId : String} {row : ActiveRow} :
      call = .bindPublicTurn generationId ownerId agentId turnId → answer = .bound true →
      before.active.row generationId = some row → row.agentId = agentId →
      row.publicTurnDigest = none →
      before.fences.row (agentId, publicTurnDigest sha256 turnId) = none →
      after.active.row generationId =
        some { row with publicTurnDigest := some (publicTurnDigest sha256 turnId) } →
      after.unresolved.row generationId = before.unresolved.row generationId →
      Change sha256 generationId before after call answer
  | retired {row : ActiveRow} {now : ℕ} :
      Quiet sha256 generationId before call answer →
      before.active.row generationId = some row →
      before.unresolved.row generationId = none →
      after.active.row generationId = none →
      after.unresolved.row generationId = some (row.retired now) →
      Change sha256 generationId before after call answer
  | completedActive {ownerId : String} {abandonIf : Option Bool} {row : ActiveRow} :
      call = .settle generationId ownerId .completed abandonIf → abandonIf ≠ some true →
      before.active.row generationId = some row → row.ownerId = ownerId →
      after.active.row generationId = none →
      after.unresolved.row generationId = before.unresolved.row generationId →
      Change sha256 generationId before after call answer
  | completedUnresolved {ownerId : String} {abandonIf : Option Bool} {row : UnresolvedRow} :
      call = .settle generationId ownerId .completed abandonIf → abandonIf ≠ some true →
      before.unresolved.row generationId = some row → row.ownerId = ownerId →
      after.active.row generationId = before.active.row generationId →
      after.unresolved.row generationId = none →
      Change sha256 generationId before after call answer

variable {call : Call} {answer : Answer}

variable {registration : Registration} {bound : Bool} {disposition : RequestCompletionDisposition}
  {abandonIf : Option Bool}

theorem register_eq_ok {admitted : Bool}
    (committed : before.register sha256 registration clock = .ok (after, admitted)) :
    after = before ∧ admitted = false ∨
      admitted = true ∧ before.active.row registration.generationId = none ∧
      before.fences.row (registration.agentId, turnDigest sha256 registration.turnId) = none ∧
      after = { before with
        active := before.active.insert registration.generationId
          { agentId := registration.agentId
            turnDigest := turnDigest sha256 registration.turnId
            publicTurnDigest := none
            requestGeneration := registration.requestGeneration
            ownerId := registration.ownerId
            stopRequested := false
            registeredAt := clock 0
            heartbeatAt := clock 1 } } := by
  unfold register requiredIdentity requiredOpaqueIdentity at committed
  simp only [require_bind_eq_ok] at committed
  obtain ⟨_, _, _, _, _, committed⟩ := committed
  split_ifs at committed with refused
  · cases committed
    exact .inl ⟨rfl, rfl⟩
  · obtain ⟨absent, committed⟩ := require_bind_eq_ok.mp committed
    cases committed
    unfold refuses at refused
    rw [Bool.or_eq_true, not_or, Bool.not_eq_true, isSome_eq_false_iff,
      isNone_iff_eq_none] at refused
    exact .inr ⟨rfl, absent, refused.1, rfl⟩

theorem bindPublicTurn_eq_ok
    (committed : before.bindPublicTurn sha256 generationId ownerId agentId turnId =
      .ok (after, bound)) :
    after = before ∧ bound = false ∨
      bound = true ∧ ∃ row, before.active.row generationId = some row ∧ row.ownerId = ownerId ∧
        row.agentId = agentId ∧ row.stopRequested = false ∧
        (after = before ∧ row.publicTurnDigest = some (publicTurnDigest sha256 turnId) ∨
          row.publicTurnDigest = none ∧
          before.fences.row (agentId, publicTurnDigest sha256 turnId) = none ∧
          after = { before with
            active := before.active.insert generationId
              { row with publicTurnDigest := some (publicTurnDigest sha256 turnId) } }) := by
  unfold bindPublicTurn requiredIdentity requiredOpaqueIdentity at committed
  simp only [require_bind_eq_ok] at committed
  obtain ⟨_, _, _, _, committed⟩ := committed
  cases found : (before.active.row generationId).filter fun row =>
      row.ownerId = ownerId && row.agentId = agentId with
  | none =>
    rw [found] at committed
    cases committed
    exact .inl ⟨rfl, rfl⟩
  | some row =>
    rw [found] at committed
    dsimp only at committed
    obtain ⟨stored, named⟩ := filter_eq_some_iff.mp found
    rw [Bool.and_eq_true, decide_eq_true_eq, decide_eq_true_eq] at named
    by_cases requested : row.stopRequested = true
    · rw [if_pos requested] at committed
      cases committed
      exact .inl ⟨rfl, rfl⟩
    · rw [if_neg requested] at committed
      rw [Bool.not_eq_true] at requested
      cases turned : row.publicTurnDigest with
      | some digest =>
        rw [turned] at committed
        obtain ⟨same, committed⟩ := require_bind_eq_ok.mp committed
        cases committed
        refine .inr ⟨rfl, row, stored, named.1, named.2, requested, .inl ⟨rfl, ?_⟩⟩
        rw [turned, same]
      | none =>
        rw [turned] at committed
        dsimp only at committed
        by_cases refused : before.refuses agentId (publicTurnDigest sha256 turnId)
            (Receipt.identifierText sha256 .publicTurnTarget turnId) = true
        · rw [if_pos refused] at committed
          cases committed
          exact .inl ⟨rfl, rfl⟩
        · rw [if_neg refused, require_bind_eq_ok] at committed
          obtain ⟨_, committed⟩ := committed
          cases committed
          unfold refuses at refused
          rw [Bool.or_eq_true, not_or, Bool.not_eq_true, isSome_eq_false_iff,
            isNone_iff_eq_none] at refused
          exact .inr ⟨rfl, row, stored, named.1, named.2, requested, .inr ⟨turned, refused.1, rfl⟩⟩

/-- What a committed `settle` did. -/
inductive Settles (generationId ownerId : String) (disposition : RequestCompletionDisposition)
    (abandonIf : Option Bool) (before : Tables) : Tables → Prop where
  | unknown : (∀ row, before.active.row generationId = some row → row.ownerId ≠ ownerId) →
      (∀ row, before.unresolved.row generationId = some row → row.ownerId ≠ ownerId) →
      Settles generationId ownerId disposition abandonIf before before
  | retired {row : ActiveRow} {now : ℕ} :
      Tables.recordedAs disposition abandonIf = .abandoned →
      before.active.row generationId = some row →
      before.unresolved.row generationId = none →
      Settles generationId ownerId disposition abandonIf before
        (before.retire generationId row now)
  | unresolved : Tables.recordedAs disposition abandonIf = .abandoned →
      Settles generationId ownerId disposition abandonIf before before
  | completedActive {row : ActiveRow} : Tables.recordedAs disposition abandonIf = .completed →
      before.active.row generationId = some row → row.ownerId = ownerId →
      (∀ row, before.unresolved.row generationId = some row → row.ownerId ≠ ownerId) →
      Settles generationId ownerId disposition abandonIf before (before.deactivate generationId)
  | completedUnresolved {row : UnresolvedRow} :
      Tables.recordedAs disposition abandonIf = .completed →
      before.unresolved.row generationId = some row → row.ownerId = ownerId →
      (∀ row, before.active.row generationId = some row → row.ownerId ≠ ownerId) →
      Settles generationId ownerId disposition abandonIf before (before.resolve generationId)

theorem settle_settles
    (committed : before.settle generationId ownerId disposition abandonIf clock = .ok after) :
    Settles generationId ownerId disposition abandonIf before after := by
  have other : ∀ {Row : Type} {stored : Option Row} {owner : Row → String},
      (stored.filter fun row => owner row = ownerId) = none →
      ∀ row, stored = some row → owner row ≠ ownerId := by
    intro Row stored owner missing row held same
    exact filter_eq_none_iff.mp missing row held (decide_eq_true same)
  unfold settle requiredIdentity at committed
  simp only [require_bind_eq_ok] at committed
  obtain ⟨_, _, committed⟩ := committed
  cases active : (before.active.row generationId).filter (·.ownerId = ownerId) with
  | none =>
    cases unresolved : (before.unresolved.row generationId).filter (·.ownerId = ownerId) with
    | none =>
      rw [active, unresolved] at committed
      cases committed
      exact .unknown (other active) (other unresolved)
    | some row =>
      rw [active, unresolved] at committed
      obtain ⟨_, committed⟩ := require_bind_eq_ok.mp committed
      obtain ⟨stored, owned⟩ := filter_eq_some_iff.mp unresolved
      cases recorded : recordedAs disposition abandonIf with
      | abandoned =>
        rw [recorded] at committed
        cases committed
        exact .unresolved recorded
      | completed =>
        rw [recorded] at committed
        cases committed
        exact .completedUnresolved recorded stored (of_decide_eq_true owned) (other active)
  | some row =>
    obtain ⟨stored, owned⟩ := filter_eq_some_iff.mp active
    cases unresolved : (before.unresolved.row generationId).filter (·.ownerId = ownerId) with
    | some row' =>
      rw [active, unresolved] at committed
      cases committed
    | none =>
      rw [active, unresolved] at committed
      dsimp only at committed
      obtain ⟨_, committed⟩ := require_bind_eq_ok.mp committed
      cases recorded : recordedAs disposition abandonIf with
      | abandoned =>
        rw [recorded] at committed
        obtain ⟨absent, committed⟩ := require_bind_eq_ok.mp committed
        cases committed
        exact .retired recorded stored absent
      | completed =>
        rw [recorded] at committed
        cases committed
        exact .completedActive recorded stored (of_decide_eq_true owned) (other unresolved)

def Retires (generationId : String) (before after : Tables) : Prop :=
  after.active.row generationId = before.active.row generationId ∧
      after.unresolved.row generationId = before.unresolved.row generationId ∨
    ∃ row now, before.active.row generationId = some row ∧
      before.unresolved.row generationId = none ∧ after.active.row generationId = none ∧
      after.unresolved.row generationId = some (row.retired now)

theorem Retires.change (retires : Retires generationId before after)
    (quiet : Quiet sha256 generationId before call answer) :
    Change sha256 generationId before after call answer := by
  rcases retires with ⟨active, unresolved⟩ | ⟨row, now, stored, absent, gone, unresolved⟩
  · exact .kept quiet active unresolved
  · exact .retired quiet stored absent gone unresolved

variable {other : String}

theorem retires_retire {row : ActiveRow} (now : ℕ) (stored : before.active.row other = some row)
    (absent : before.unresolved.row other = none) :
    Retires generationId before (before.retire other row now) := by
  by_cases same : generationId = other
  · subst same
    refine .inr ⟨row, now, stored, absent, ?_, row_insert_self _ _ _⟩
    change (keep _ _).row _ = none
    rw [row_keep_key, if_neg (not_not.mpr rfl)]
  · refine .inl ⟨?_, row_insert_of_ne _ _ same⟩
    change (keep _ _).row _ = _
    rw [row_keep_key, if_pos same]

theorem reapAll_retires {rows : List (String × ℕ)} {statement : ℕ} {reaped : List String}
    (looped : reapAll lease clock before statement rows = (after, reaped)) :
    Retires generationId before after ∧ after.fences = before.fences := by
  induction rows generalizing before statement reaped with
  | nil =>
    cases looped
    exact ⟨.inl ⟨rfl, rfl⟩, rfl⟩
  | cons row rows ih =>
    obtain ⟨other, observedHeartbeat⟩ := row
    rw [reapAll] at looped
    cases retired : before.reap other observedHeartbeat lease (clock statement)
        (clock (statement + 1)) with
    | none =>
      rw [retired] at looped
      exact ih looped
    | some middle =>
      rw [retired] at looped
      have last : (reapAll lease clock middle (statement + 2) rows).1 = after :=
        congrArg Prod.fst looped
      obtain ⟨later, fences⟩ := ih (Prod.ext last rfl)
      unfold reap at retired
      cases stored : before.active.row other with
      | none =>
        rw [stored] at retired
        cases retired
      | some row =>
        rw [stored] at retired
        dsimp only at retired
        split_ifs at retired with old
        cases retired
        refine ⟨?_, fences⟩
        have first : Retires generationId before
            (before.retire other row (clock (statement + 1))) :=
          retires_retire _ stored old.2.2
        rcases first with
          ⟨active, unresolved⟩ | ⟨row', now, stored', absent, gone, unresolved⟩
        · unfold Retires at later ⊢
          rw [active, unresolved] at later
          exact later
        · refine .inr ⟨row', now, stored', absent, ?_⟩
          rcases later with ⟨active', unresolved'⟩ | ⟨_, _, held, _⟩
          · exact ⟨active'.trans gone, unresolved'.trans unresolved⟩
          · rw [gone] at held
            cases held

theorem Change.of_adjust {change : String → ActiveRow → ActiveRow}
    (quiet : Quiet sha256 generationId before call answer)
    (active : after.active = before.active.adjust change)
    (unresolved : after.unresolved = before.unresolved)
    (keeps : ∀ row, row.Keeps (change generationId row) ∧
      (change generationId row).publicTurnDigest = row.publicTurnDigest) :
    Change sha256 generationId before after call answer := by
  cases stored : before.active.row generationId with
  | none =>
    refine .kept quiet ?_ ?_
    · rw [active, row_adjust, stored]
      rfl
    · rw [unresolved]
  | some row =>
    obtain ⟨kept, turned⟩ := keeps row
    refine .updated quiet stored ?_ kept turned ?_
    · rw [active, row_adjust, stored]
      rfl
    · rw [unresolved]

theorem keeps_requested {selects : Bool} (row : ActiveRow) :
    row.Keeps (if selects = true then { row with stopRequested := true } else row) ∧
      (if selects = true then { row with stopRequested := true } else row).publicTurnDigest =
        row.publicTurnDigest := by
  cases selects with
  | false => exact ⟨.refl row, rfl⟩
  | true => exact ⟨⟨rfl, rfl, rfl, fun _ bound => bound, fun _ => rfl⟩, rfl⟩

def Tables.FencesKept (before after : Tables) : Prop :=
  ∀ key, before.fences.row key ≠ none → after.fences.row key ≠ none

theorem fence_spec (agentId digest : String) (now : ℕ) :
    (tables.fence agentId digest now).active = tables.active ∧
      (tables.fence agentId digest now).unresolved = tables.unresolved ∧
      tables.FencesKept (tables.fence agentId digest now) ∧
      (tables.fence agentId digest now).fences.row (agentId, digest) ≠ none := by
  unfold fence
  cases stored : tables.fences.row (agentId, digest) with
  | some _ =>
    refine ⟨rfl, rfl, fun _ fenced => fenced, ?_⟩
    rw [stored]
    exact some_ne_none _
  | none =>
    refine ⟨rfl, rfl, ?_, ?_⟩
    · intro key fenced
      rw [row_insert]
      split_ifs
      · exact some_ne_none _
      · exact fenced
    · dsimp only
      rw [row_insert_self]
      exact some_ne_none _

theorem changes_of_mark {selects : String → ActiveRow → Bool} {now : ℕ}
    (quiet : Quiet sha256 generationId before call answer)
    (marked : after = (before.fence agentId digest now).requestStop selects) :
    Change sha256 generationId before after call answer ∧ before.FencesKept after := by
  obtain ⟨active, unresolved, fences, _⟩ := @fence_spec before agentId digest now
  subst marked
  have adjusted : ((before.fence agentId digest now).requestStop selects).active =
      before.active.adjust fun key row =>
        if selects key row then { row with stopRequested := true } else row := by
    rw [← active]
    rfl
  exact ⟨.of_adjust quiet adjusted unresolved fun row => keeps_requested row, fences⟩

theorem Quiet.of_call (registers : ∀ registration, call ≠ .register registration)
    (binds : ∀ generationId ownerId agentId turnId,
      call ≠ .bindPublicTurn generationId ownerId agentId turnId)
    (settles : ∀ generationId ownerId disposition abandonIf,
      call ≠ .settle generationId ownerId disposition abandonIf) :
    Quiet sha256 generationId before call answer where
  registers := fun _ registered => absurd registered.1 (registers _)
  binds := fun _ _ bound => by
    obtain ⟨⟨_, same⟩, _⟩ := bound
    exact absurd same (binds _ _ _ _)
  completes := fun _ completed => by
    obtain ⟨_, _, same⟩ := completed
    exact absurd same (settles _ _ _ _)

theorem quiet_register {admitted : Bool}
    (other : admitted = true → registration.generationId ≠ generationId) :
    Quiet sha256 generationId before (.register registration) (.admitted admitted) where
  registers := fun registration registered => by
    obtain ⟨same, answered⟩ := registered
    cases same
    exact other (Answer.admitted.inj answered)
  binds := fun _ _ bound => by
    obtain ⟨⟨_, impossible⟩, _⟩ := bound
    cases impossible
  completes := fun _ completed => by
    obtain ⟨_, _, impossible⟩ := completed
    cases impossible

theorem quiet_bind (found : bound = true → other = generationId →
      ∃ row, before.active.row generationId = some row ∧ row.agentId = agentId ∧
        row.stopRequested = false ∧
        row.publicTurnDigest = some (publicTurnDigest sha256 turnId)) :
    Quiet sha256 generationId before (.bindPublicTurn other ownerId agentId turnId)
      (.bound bound) where
  registers := fun _ registered => by cases registered.1
  binds := fun _ _ bound => by
    obtain ⟨⟨_, same⟩, answered⟩ := bound
    cases same
    exact found (Answer.bound.inj answered) rfl
  completes := fun _ completed => by
    obtain ⟨_, _, impossible⟩ := completed
    cases impossible

theorem quiet_settle
    (unheld : recordedAs disposition abandonIf = .completed → other = generationId →
      (∀ row, before.active.row generationId = some row → row.ownerId ≠ ownerId) ∧
        ∀ row, before.unresolved.row generationId = some row → row.ownerId ≠ ownerId) :
    Quiet sha256 generationId before (.settle other ownerId disposition abandonIf) .settled where
  registers := fun _ registered => by cases registered.1
  binds := fun _ _ bound => by
    obtain ⟨⟨_, impossible⟩, _⟩ := bound
    cases impossible
  completes := fun _ completed => by
    obtain ⟨abandonIf, answered, same⟩ := completed
    cases same
    have recorded : recordedAs .completed abandonIf = .completed :=
      if_neg fun abandons => answered abandons.2
    exact unheld recorded rfl

/-- **What a committed call can do to a generation.** -/
theorem perform_change (generationId : String)
    (performed : before.perform sha256 clock call = .ok (after, answer)) :
    Change sha256 generationId before after call answer ∧ before.FencesKept after := by
  have kept : ∀ {tables : Tables}, tables.FencesKept tables := fun _ fenced => fenced
  cases call with
  | register registration =>
    obtain ⟨⟨_, admitted⟩, registered, same⟩ := map_eq_ok.mp performed
    cases same
    obtain ⟨rfl, refused⟩ | ⟨rfl, absent, unfenced, rfl⟩ := register_eq_ok registered
    · refine ⟨.kept (quiet_register ?_) rfl rfl, kept⟩
      intro admitted
      rw [refused] at admitted
      cases admitted
    · by_cases same : registration.generationId = generationId
      · subst same
        exact ⟨.registered ⟨rfl, rfl⟩ rfl absent unfenced (row_insert_self _ _ _) rfl rfl
          rfl rfl rfl, kept⟩
      · exact ⟨.kept (quiet_register fun _ => same) (row_insert_of_ne _ _ (Ne.symm same)) rfl, kept⟩
  | bindPublicTurn other ownerId agentId turnId =>
    obtain ⟨⟨_, bound⟩, binds, same⟩ := map_eq_ok.mp performed
    cases same
    obtain ⟨rfl, refused⟩ | ⟨rfl, row, stored, owner, agent, requested, rest⟩ :=
      bindPublicTurn_eq_ok binds
    · refine ⟨.kept (quiet_bind ?_) rfl rfl, kept⟩
      intro bound
      rw [refused] at bound
      cases bound
    · rcases rest with ⟨rfl, turned⟩ | ⟨unbound, unfenced, rfl⟩
      · refine ⟨.kept (quiet_bind ?_) rfl rfl, kept⟩
        intro _ same
        subst same
        exact ⟨row, stored, agent, requested, turned⟩
      · by_cases same : other = generationId
        · subst same
          exact ⟨.bound rfl rfl stored agent unbound unfenced (row_insert_self _ _ _) rfl, kept⟩
        · exact ⟨.kept (quiet_bind fun _ found => absurd found same)
            (row_insert_of_ne _ _ (Ne.symm same)) rfl, kept⟩
  | settle other ownerId disposition abandonIf =>
    obtain ⟨_, settled, same⟩ := map_eq_ok.mp performed
    cases same
    have completed : ∀ {disposition}, recordedAs disposition abandonIf = .completed →
        disposition = .completed ∧ abandonIf ≠ some true := by
      intro disposition recorded
      unfold recordedAs at recorded
      split_ifs at recorded with abandons
      exact ⟨recorded, fun answered => abandons ⟨recorded, answered⟩⟩
    have abandoned : recordedAs disposition abandonIf = .abandoned →
        Quiet sha256 generationId before (.settle other ownerId disposition abandonIf)
          .settled := by
      intro recorded
      refine quiet_settle fun recorded' => ?_
      rw [recorded] at recorded'
      cases recorded'
    cases settle_settles settled with
    | unknown active unresolved =>
      refine ⟨.kept (quiet_settle ?_) rfl rfl, kept⟩
      intro _ same
      subst same
      exact ⟨active, unresolved⟩
    | unresolved recorded => exact ⟨.kept (abandoned recorded) rfl rfl, kept⟩
    | retired recorded stored absent =>
      exact ⟨(retires_retire _ stored absent).change (abandoned recorded), kept⟩
    | completedActive recorded stored owner =>
      obtain ⟨rfl, answered⟩ := completed recorded
      by_cases same : generationId = other
      · subst same
        refine ⟨.completedActive rfl answered stored owner ?_ rfl, kept⟩
        change (keep _ _).row _ = none
        rw [row_keep_key, if_neg (not_not.mpr rfl)]
      · refine ⟨.kept (quiet_settle fun _ found => absurd found.symm same) ?_ rfl, kept⟩
        change (keep _ _).row _ = _
        rw [row_keep_key, if_pos same]
    | completedUnresolved recorded stored owner =>
      obtain ⟨rfl, answered⟩ := completed recorded
      by_cases same : generationId = other
      · subst same
        refine ⟨.completedUnresolved rfl answered stored owner rfl ?_, kept⟩
        change (keep _ _).row _ = none
        rw [row_keep_key, if_neg (not_not.mpr rfl)]
      · refine ⟨.kept (quiet_settle fun _ found => absurd found.symm same) rfl ?_, kept⟩
        change (keep _ _).row _ = _
        rw [row_keep_key, if_pos same]
  | markTurn agentId turnId =>
    obtain ⟨⟨_, ticket⟩, marked, same⟩ := map_eq_ok.mp performed
    cases same
    unfold markTurn requiredIdentity requiredOpaqueIdentity at marked
    simp only [require_bind_eq_ok] at marked
    obtain ⟨_, _, marked⟩ := marked
    exact changes_of_mark (.of_call nofun nofun nofun) (congrArg Prod.fst (ok.inj marked)).symm
  | markPublicTurn agentId turnId =>
    obtain ⟨⟨_, ticket⟩, marked, same⟩ := map_eq_ok.mp performed
    cases same
    unfold markPublicTurn requiredIdentity requiredOpaqueIdentity at marked
    simp only [require_bind_eq_ok] at marked
    obtain ⟨_, _, _, marked⟩ := marked
    exact changes_of_mark (.of_call nofun nofun nofun) (congrArg Prod.fst (ok.inj marked)).symm
  | markAgent agentId =>
    obtain ⟨⟨_, ticket⟩, marked, same⟩ := map_eq_ok.mp performed
    cases same
    unfold markAgent requiredIdentity at marked
    rw [require_bind_eq_ok] at marked
    cases marked.2
    exact ⟨.of_adjust (.of_call nofun nofun nofun) rfl rfl fun row => keeps_requested row, kept⟩
  | pollOwner ownerId lease =>
    obtain ⟨⟨_, poll⟩, polled, same⟩ := map_eq_ok.mp performed
    cases same
    unfold pollOwner requiredIdentity requiredLease at polled
    simp only [require_bind_eq_ok] at polled
    cases polled.2.2
    refine ⟨.of_adjust (.of_call nofun nofun nofun) rfl rfl ?_, kept⟩
    intro row
    split_ifs
    · exact ⟨⟨rfl, rfl, rfl, fun _ bound => bound, fun requested => requested⟩, rfl⟩
    · exact ⟨.refl row, rfl⟩
  | readOwner ownerId lease | abandonOwner ownerId =>
    obtain ⟨_, _, same⟩ := map_eq_ok.mp performed
    cases same
    exact ⟨.kept (.of_call nofun nofun nofun) rfl rfl, kept⟩
  | reapExpired generationIds lease =>
    obtain ⟨⟨_, reaped⟩, reaps, same⟩ := map_eq_ok.mp performed
    cases same
    unfold reapExpired requiredLease at reaps
    split_ifs at reaps
    · cases reaps
      exact ⟨.kept (.of_call nofun nofun nofun) rfl rfl, kept⟩
    · rw [require_bind_eq_ok, bind_eq_ok] at reaps
      obtain ⟨_, _, _, looped⟩ := reaps
      obtain ⟨retires, fences⟩ := reapAll_retires (ok.inj looped)
      refine ⟨retires.change (.of_call nofun nofun nofun), ?_⟩
      intro key fenced gone
      exact fenced ((congrArg (·.row key) fences).symm.trans gone)
  | remaining generationIds | writeReceipts receipts =>
    cases performed
    exact ⟨.kept (.of_call nofun nofun nofun) rfl rfl, kept⟩

end Changes

end Kestrel.Stop.Invocation
