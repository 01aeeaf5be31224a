import Kestrel.Stop.RegistryRuns
import Mathlib.Data.List.Induction

/-!
# A registry moves as successive owners of a lease

Each part of the registry's loop is a run of moves of the owner that holds the lease.
-/

namespace Kestrel.Stop.Invocation

open Relation List Function Registry Table Set Tenure Bool

/-- The owner that a registry's fields stand for. -/
structure Mirrors (registry : Registry) (state : Tenure.State String String) : Prop where
  owner : state.owner = registry.ownerId
  lapsed : state.lapsed ↔ registry.leaseLost = true
  candidate : state.candidate = registry.candidate.map Prod.fst
  history : state.history = registry.history
  running : ∀ generationId identity, state.running generationId = some identity →
    ∃ target, registry.active.row generationId = some target ∧ target.ownerId = identity ∧
      generationId ∉ registry.completing
  active : ∀ generationId target, registry.active.row generationId = some target →
    generationId ∈ state.known ∧
      (state.running generationId = some target.ownerId ∨
        .finishing generationId ∈ registry.history)
  completing : ∀ generationId ∈ registry.completing, generationId ∈ state.known
  cleanups : ∀ key settlement, registry.cleanups.row key = some settlement →
    settlement.generationId ∈ state.known ∧ state.running settlement.generationId = none

/-- What a part of the loop can do that neither takes a new identity nor publishes a generation. -/
structure Follows (draw : Draw) (before : Registry) (origin : Tenure.State String String)
    (registry : Registry) (state : Tenure.State String String) : Prop where
  moves : ReflTransGen Tenure.Moves origin state
  mirrors : Mirrors registry state
  drawn : state.drawn ⊆ insert draw.ownerId origin.drawn
  unspent : registry.leaseLost = false → draw.ownerId ∉ state.drawn
  known : state.known = origin.known
  closed : state.closed = origin.closed
  running : ∀ generationId identity, origin.running generationId = some identity →
    state.running generationId = some identity ∨ .finishing generationId ∈ registry.history
  history : before.history ⊆ registry.history
  owner : registry.ownerId = before.ownerId
  candidate : before.leaseLost = true →
    registry.leaseLost = true ∧ registry.candidate = before.candidate
  closing : registry.closing = before.closing

variable {lease : ℕ} {draw : Draw} {before registry : Registry}
  {origin state : Tenure.State String String}

theorem Mirrors.follows (mirrors : Mirrors registry state)
    (unspent : registry.leaseLost = false → draw.ownerId ∉ state.drawn) :
    Follows draw registry state registry state where
  moves := .refl
  mirrors := mirrors
  drawn := subset_insert _ _
  unspent := unspent
  known := rfl
  closed := rfl
  running _ _ runs := .inl runs
  history := List.Subset.refl _
  owner := rfl
  candidate lost := ⟨lost, rfl⟩
  closing := rfl

namespace Registry

theorem mem_leaseOwnedGenerationIds {generationId : String} :
    generationId ∈ registry.leaseOwnedGenerationIds ↔
      ∃ target, registry.active.row generationId = some target ∧
        target.ownerId = registry.ownerId ∧ generationId ∉ registry.completing := by
  unfold leaseOwnedGenerationIds
  simp only [mem_map, mem_filter, Prod.exists, decide_eq_true_eq]
  constructor
  · rintro ⟨_, target, ⟨listed, owned⟩, rfl⟩
    exact ⟨target, mem_rows.mp listed, owned⟩
  · rintro ⟨target, stored, owned⟩
    exact ⟨generationId, target, ⟨mem_rows.mpr stored, owned⟩, rfl⟩

theorem failClosedOwner_of_lost (lost : registry.leaseLost = true) :
    registry.failClosedOwner draw = registry := if_pos lost

@[simp] theorem cleanups_failClosedOwner :
    (registry.failClosedOwner draw).cleanups = registry.cleanups := by
  unfold failClosedOwner
  split <;> rfl

@[simp] theorem cleanups_heartbeatAttempt :
    (registry.heartbeatAttempt draw).cleanups = registry.cleanups := by
  unfold heartbeatAttempt
  split
  · rfl
  · rw [cleanups_failClosedOwner]
    unfold retainTerminalControl
    split
    · rfl
    · rfl
    · exact cleanups_failClosedOwner

end Registry

namespace Follows

open Registry

section

variable (follows : Follows draw before origin registry state)

include follows

/-- A fence tells every generation that the owner runs. -/
theorem failClosedOwner :
    ∃ after, Follows draw before origin (registry.failClosedOwner draw) after := by
  cases lost : registry.leaseLost with
  | true =>
    rw [failClosedOwner_of_lost lost]
    exact ⟨state, follows⟩
  | false =>
    have mirrors := follows.mirrors
    have held : ¬ state.lapsed := by
      rw [mirrors.lapsed, lost]
      exact false_ne_true
    have tells : ∀ work, state.running work = some state.owner →
        work ∈ registry.leaseOwnedGenerationIds.reverse := by
      intro work runs
      rw [mirrors.owner] at runs
      exact mem_reverse.mpr (mem_leaseOwnedGenerationIds.mpr (mirrors.running _ _ runs))
    have lapse := Moves.lapse held (follows.unspent lost) tells
    have grown : registry.history ⊆ registry.leaseOwnedGenerationIds.reverse.map .told ++
        .lapsed registry.ownerId :: registry.history :=
      fun event known => mem_append_right _ (mem_cons_of_mem _ known)
    refine ⟨_, follows.moves.tail lapse, ?_, ?_, ?_, follows.known, follows.closed, ?_, ?_, ?_,
      ?_, ?_⟩
    · rw [Registry.failClosedOwner, lost]
      exact {
        owner := mirrors.owner
        lapsed := iff_of_true trivial rfl
        candidate := rfl
        history := by
          rw [mirrors.owner, mirrors.history]
          rfl
        running := mirrors.running
        active := fun generationId target stored =>
          (mirrors.active generationId target stored).imp_right (Or.imp_right (grown ·))
        completing := mirrors.completing
        cleanups := mirrors.cleanups }
    · exact insert_subset (mem_insert _ _) follows.drawn
    · rw [Registry.failClosedOwner, lost]
      exact nofun
    all_goals rw [Registry.failClosedOwner, lost]
    · exact fun generationId identity runs =>
        (follows.running generationId identity runs).imp_right (grown ·)
    · exact fun event known => grown (follows.history known)
    · exact follows.owner
    · intro lost'
      rw [(follows.candidate lost').1] at lost
      cases lost
    · exact follows.closing

theorem retainTerminalControl (failure : Failure) :
    ∃ after, Follows draw before origin (registry.retainTerminalControl draw failure) after := by
  cases failure with
  | ordinary | refusal => exact ⟨state, follows⟩
  | control =>
    have held : Follows draw before origin { registry with terminalControl := true } state :=
      { follows with mirrors := { follows.mirrors with } }
    exact held.failClosedOwner

theorem heartbeatAttempt :
    ∃ after, Follows draw before origin (registry.heartbeatAttempt draw) after := by
  unfold Registry.heartbeatAttempt
  cases registry.attempted.bind OwnerRenewal.control with
  | none => exact ⟨state, follows⟩
  | some failure =>
    obtain ⟨middle, retained⟩ := follows.retainTerminalControl failure
    exact retained.failClosedOwner

theorem failClosedObserved (ownerId : String) :
    ∃ after, Follows draw before origin (registry.failClosedObserved draw ownerId) after := by
  unfold Registry.failClosedObserved
  split
  · exact ⟨state, follows⟩
  · exact follows.failClosedOwner

theorem record {event : Event String String}
    (moves : Moves state { state with history := event :: state.history }) :
    Follows draw before origin { registry with history := event :: registry.history }
      { state with history := event :: state.history } where
  moves := follows.moves.tail moves
  mirrors := { follows.mirrors with
    history := congrArg _ follows.mirrors.history
    active := fun generationId target stored =>
      (follows.mirrors.active generationId target stored).imp_right
        (Or.imp_right (mem_cons_of_mem _)) }
  drawn := follows.drawn
  unspent := follows.unspent
  known := follows.known
  closed := follows.closed
  running generationId identity runs :=
    (follows.running generationId identity runs).imp_right (mem_cons_of_mem _)
  history := fun _ known => mem_cons_of_mem _ (follows.history known)
  owner := follows.owner
  candidate := follows.candidate
  closing := follows.closing

theorem tell (generationIds : List String) :
    ∃ after, Follows draw before origin (registry.tell generationIds) after := by
  induction generationIds using reverseRecOn with
  | nil => exact ⟨state, { follows with mirrors := { follows.mirrors with } }⟩
  | append_singleton generationIds generationId ih =>
    obtain ⟨middle, told⟩ := ih
    unfold Registry.tell at told ⊢
    rw [reverse_append]
    exact ⟨_, told.record .tell⟩

theorem judgeLease :
    ∃ after, Follows draw before origin (registry.judgeLease lease draw) after := by
  unfold Registry.judgeLease
  split
  · exact follows.failClosedOwner
  · exact ⟨state, follows⟩

theorem foldRenewal (renewal : OwnerRenewal) (poll : OwnerPoll) :
    ∃ after, Follows draw before origin (registry.foldRenewal lease draw renewal poll) after := by
  have seen : Follows draw before origin
      { registry with observedRenewal := some renewal.number } state :=
    { follows with mirrors := { follows.mirrors with } }
  unfold Registry.foldRenewal
  dsimp only
  split
  · exact seen.failClosedOwner
  · have extended : Follows draw before origin
        (extend { registry with observedRenewal := some renewal.number } renewal poll) state :=
      { seen with mirrors := { seen.mirrors with } }
    obtain ⟨middle, told⟩ := extended.tell _
    exact told.judgeLease

end

theorem observeOwnerHeartbeat (follows : Follows draw before origin registry state) :
    ∃ after, Follows draw before origin (registry.observeOwnerHeartbeat lease draw) after := by
  obtain ⟨middle, attempted⟩ := follows.heartbeatAttempt
  unfold Registry.observeOwnerHeartbeat
  dsimp only
  split
  · exact ⟨middle, attempted⟩
  · split
    · exact attempted.judgeLease
    · exact attempted.foldRenewal _ _

theorem ensureRunning (follows : Follows draw before origin registry state) :
    Follows draw before origin (registry.ensureRunning draw).1 state := by
  unfold Registry.ensureRunning
  split
  · exact follows
  · exact { follows with mirrors := { follows.mirrors with } }

theorem awaitRenewal (follows : Follows draw before origin registry state) (ownerId : String) :
    ∃ after, Follows draw before origin (registry.awaitRenewal lease draw ownerId).1 after := by
  obtain ⟨middle, attempted⟩ := follows.heartbeatAttempt
  unfold Registry.awaitRenewal
  dsimp only
  split
  · exact ⟨state, follows⟩
  · refine ⟨middle, ?_⟩
    split_ifs <;> exact attempted

theorem restartHeartbeat (follows : Follows draw before origin registry state) :
    ∃ after, Follows draw before origin (registry.restartHeartbeat lease draw).1 after := by
  obtain ⟨middle, observed⟩ := @observeOwnerHeartbeat lease _ _ _ _ _ follows
  unfold Registry.restartHeartbeat
  dsimp only
  refine ⟨middle, ?_⟩
  split_ifs
  · exact observed
  · exact observed
  · exact observed.ensureRunning

theorem requireRenewingHeartbeat (follows : Follows draw before origin registry state) :
    ∃ after, Follows draw before origin (registry.requireRenewingHeartbeat lease draw).1 after := by
  unfold Registry.requireRenewingHeartbeat
  split
  · exact ⟨state, follows⟩
  · rename_i heartbeat _
    obtain ⟨middle, restarted⟩ : ∃ after, Follows draw before origin
        (if heartbeat.alive then (registry, .ok true)
          else registry.restartHeartbeat lease draw).1 after := by
      split
      · exact ⟨state, follows⟩
      · exact follows.restartHeartbeat
    generalize (if heartbeat.alive then (registry, .ok true)
      else registry.restartHeartbeat lease draw : Registry × Except Failure Bool) = result
      at restarted
    dsimp only
    split
    · exact ⟨middle, restarted⟩
    · exact ⟨middle, restarted⟩
    · split_ifs
      · exact ⟨middle, restarted⟩
      · exact ⟨middle, restarted⟩
      · exact restarted.awaitRenewal _

section

variable (follows : Follows draw before origin registry state)

include follows

/-- A generation that begins to end is not told any more. -/
theorem completeSoon (key : Key) (disposition : RequestCompletionDisposition) :
    ∃ after, Follows draw before origin (registry.completeSoon key disposition) after := by
  unfold Registry.completeSoon
  split
  swap
  · exact ⟨state, follows⟩
  rename_i generationId _ free
  cases stored : registry.active.row generationId with
  | none => exact ⟨state, follows⟩
  | some target =>
    have mirrors := follows.mirrors
    have known := (mirrors.active generationId target stored).1
    have later : ∀ {event : Event String String}, event ∈ registry.history →
        event ∈ .finishing generationId :: registry.history := mem_cons_of_mem _
    have parted : ∀ other identity, state.running other = some identity →
        update state.running generationId none other = some identity ∨
          .finishing other ∈ Event.finishing generationId :: registry.history := by
      intro other identity runs
      by_cases same : other = generationId
      · subst other
        exact .inr mem_cons_self
      · exact .inl ((update_of_ne same _ _).trans runs)
    have finish := @Moves.finish _ _ _ state generationId
    refine ⟨_, follows.moves.tail finish, ?_, follows.drawn, follows.unspent, follows.known, follows.closed, ?_, fun _ kept => later (follows.history kept),
      follows.owner, follows.candidate, follows.closing⟩
    · refine { mirrors with history := congrArg _ mirrors.history
                            running := ?_, active := ?_, completing := ?_, cleanups := ?_ }
      · intro other identity runs
        by_cases same : other = generationId
        · subst other
          exact nomatch (update_self _ _ _).symm.trans runs
        · have runs := (update_of_ne same _ _).symm.trans runs
          obtain ⟨target, stored, owned, going⟩ := mirrors.running other identity runs
          exact ⟨target, stored, owned, not_mem_cons_of_ne_of_not_mem same going⟩
      · intro other target stored
        obtain ⟨known, runs | finishing⟩ := mirrors.active other target stored
        · exact ⟨known, parted other _ runs⟩
        · exact ⟨known, .inr (later finishing)⟩
      · intro other member
        rcases mem_cons.mp member with rfl | member
        · exact known
        · exact mirrors.completing other member
      · intro other settlement running
        rw [row_insert] at running
        split_ifs at running with same
        · cases running
          exact ⟨known, update_self _ _ _⟩
        · obtain ⟨known, stopped⟩ := mirrors.cleanups other settlement running
          refine ⟨known, ?_⟩
          by_cases named : settlement.generationId = generationId
          · rw [named]
            exact update_self _ _ _
          · exact (update_of_ne named _ _).trans stopped
    · intro other identity runs
      rcases follows.running other identity runs with runs | finishing
      · exact parted other identity runs
      · exact .inr (later finishing)

theorem admitted {generationId : String} (held : registry.leaseLost = false)
    (opened : ¬ state.closed) (runs : state.running generationId = some registry.ownerId ∨
      generationId ∈ state.known ∧ .finishing generationId ∈ registry.history) :
    ∃ after, Follows draw before origin (registry.admitted generationId).1 after := by
  have mirrors := follows.mirrors
  have held : ¬ state.lapsed := by
    rw [mirrors.lapsed, held]
    exact false_ne_true
  rw [← mirrors.owner, ← mirrors.history] at runs
  have admits : Moves state _ := .admits held opened runs
  have recorded := follows.record admits
  rw [mirrors.owner] at recorded
  exact ⟨_, recorded⟩

theorem withHeartbeat (heartbeat : Option OwnerHeartbeat) :
    Follows draw before origin { registry with heartbeat := heartbeat } state :=
  { follows with mirrors := { follows.mirrors with } }

theorem restage {key : Key} {settlement : Settlement}
    (running : registry.cleanups.row key = some settlement) (stage : SettlementStage) :
    Follows draw before origin { registry with
        cleanups := registry.cleanups.insert key { settlement with stage := stage } } state := by
  refine { follows with mirrors := { follows.mirrors with cleanups := ?_ } }
  intro other found listed
  rw [row_insert] at listed
  split_ifs at listed with same
  · cases listed
    exact follows.mirrors.cleanups key settlement running
  · exact follows.mirrors.cleanups other found listed

theorem beginSettlement {key : Key} {after : Registry}
    (begun : registry.beginSettlement draw key = some after) :
    ∃ last, Follows draw before origin after last := by
  unfold Registry.beginSettlement at begun
  split at begun
  · rename_i settlement running
    split at begun
    · cases begun
      obtain ⟨last, attempted⟩ := follows.heartbeatAttempt
      refine ⟨last, attempted.restage ?_ _⟩
      rw [cleanups_heartbeatAttempt, running]
    · cases begun
  · cases begun

theorem dropSettlement (key : Key) (generationId : String) :
    Follows draw before origin (registry.dropSettlement key generationId) state := by
  have mirrors := follows.mirrors
  have fewer : ∀ other ∈ (registry.dropSettlement key generationId).completing,
      other ∈ registry.completing := by
    intro other member
    unfold Registry.dropSettlement at member
    split_ifs at member
    · exact (mem_filter.mp member).1
    · exact member
  refine { follows with mirrors := { mirrors with running := ?_, completing := ?_, cleanups := ?_ } }
  · intro other identity runs
    obtain ⟨target, stored, owned, going⟩ := mirrors.running other identity runs
    exact ⟨target, stored, owned, fun ending => going (fewer other ending)⟩
  · exact fun other ending => mirrors.completing other (fewer other ending)
  · intro other settlement running
    exact mirrors.cleanups other settlement (Option.filter_eq_some_iff.mp running).1

theorem endSettlement {key : Key} {after : Registry}
    (ended : registry.endSettlement draw key = some after) :
    ∃ last, Follows draw before origin after last := by
  unfold Registry.endSettlement at ended
  split at ended
  · rename_i settlement running
    split at ended
    · cases ended
      have mirrors := follows.mirrors
      obtain ⟨known, stopped⟩ := mirrors.cleanups key settlement running
      refine ⟨state, { follows with mirrors := { mirrors with
        running := ?_, active := ?_, completing := ?_, cleanups := ?_ } }⟩
      · intro other identity runs
        have different : other ≠ settlement.generationId := by
          rintro rfl
          exact nomatch stopped.symm.trans runs
        obtain ⟨target, stored, owned, going⟩ := mirrors.running other identity runs
        refine ⟨target, ?_, owned, fun ending => going (mem_filter.mp ending).1⟩
        exact (row_keep_key _ _ _).trans ((if_pos different).trans stored)
      · intro other target stored
        exact mirrors.active other target (Option.filter_eq_some_iff.mp stored).1
      · exact fun other ending => mirrors.completing other (mem_filter.mp ending).1
      · intro other settlement running
        exact mirrors.cleanups other settlement (Option.filter_eq_some_iff.mp running).1
    · split_ifs at ended
      · cases ended
        obtain ⟨last, retained⟩ := follows.retainTerminalControl _
        exact ⟨last, retained.dropSettlement _ _⟩
      · cases ended
        exact ⟨state, follows.dropSettlement _ _⟩
      · cases ended
        exact ⟨state, follows.restage running _⟩
    · cases ended
  · cases ended

end

end Follows

/-- What the task that holds the registration lock can do. -/
structure Reaches (draw : Draw) (origin : Tenure.State String String) (closing : Bool)
    (taken : List String) (registry : Registry) (state : Tenure.State String String) : Prop where
  moves : ReflTransGen Tenure.Moves origin state
  mirrors : Mirrors registry state
  drawn : state.drawn ⊆ insert draw.ownerId origin.drawn
  unspent : registry.leaseLost = false → draw.ownerId ∉ state.drawn
  known : ∀ generationId ∈ state.known, generationId ∈ taken
  closed : state.closed = origin.closed
  closing : registry.closing = closing

def StageValid (registry : Registry) (state : Tenure.State String String) (drawn : List String) :
    Registry.Publishing → Prop
  | .reacquiring candidate since _ =>
    registry.leaseLost = true ∧ registry.candidate = some (candidate, since)
  | .inserting generationId ownerId _ _ =>
    ownerId = registry.ownerId ∧ generationId ∈ drawn ∧ generationId ∉ state.known
  | .confirming generationId ownerId _ =>
    ownerId = registry.ownerId ∧ (state.running generationId = some ownerId ∨
      generationId ∈ state.known ∧ .finishing generationId ∈ registry.history)
  | .queued => True
  | .renewing _ => True
  | .returned _ => True
  | .raised _ => True

namespace Reaches

variable {closing : Bool} {key : Key} {taken : List String}

theorem start (reaches : Reaches draw origin closing taken registry state) :
    Follows draw registry state registry state :=
  reaches.mirrors.follows reaches.unspent

theorem trans (reaches : Reaches draw origin closing taken before state) {after : State String String}
    (follows : Follows draw before state registry after) :
    Reaches draw origin closing taken registry after where
  moves := reaches.moves.trans follows.moves
  mirrors := follows.mirrors
  drawn := follows.drawn.trans (insert_subset (mem_insert _ _) reaches.drawn)
  unspent := follows.unspent
  known := fun generationId known => reaches.known generationId (follows.known ▸ known)
  closed := follows.closed.trans reaches.closed
  closing := follows.closing.trans reaches.closing

/-- A fenced owner is not fenced again. -/
theorem heartbeatAttempt_of_lost (lost : registry.leaseLost = true) :
    ∃ held, registry.heartbeatAttempt draw = { registry with terminalControl := held } := by
  unfold heartbeatAttempt
  cases registry.attempted.bind OwnerRenewal.control with
  | none => exact ⟨registry.terminalControl, rfl⟩
  | some failure =>
    cases failure with
    | ordinary | refusal => exact ⟨registry.terminalControl, failClosedOwner_of_lost lost⟩
    | control =>
      refine ⟨true, ?_⟩
      have kept : failClosedOwner draw { registry with terminalControl := true } =
          { registry with terminalControl := true } := failClosedOwner_of_lost lost
      dsimp only [retainTerminalControl]
      rw [kept, kept]

variable {candidate generationId : String} {since : ℕ}

theorem judgeCandidate (reaches : Reaches draw origin closing taken registry state)
    (lost : registry.leaseLost = true) (unspent : draw.ownerId ∉ state.drawn)
    (chosen : registry.candidate = some (candidate, since)) (renewal : OwnerRenewal) :
    ∃ after, Reaches draw origin closing taken (registry.judgeCandidate lease draw candidate renewal)
      after := by
  have mirrors := reaches.mirrors
  unfold Registry.judgeCandidate
  dsimp only
  split_ifs with fit kept
  · exact ⟨state, reaches⟩
  · have taken : state.candidate = some candidate := by
      rw [mirrors.candidate, chosen]
      rfl
    refine ⟨_, reaches.moves.tail (.take (mirrors.lapsed.mpr lost) taken), ?_, reaches.drawn,
      fun _ => unspent, reaches.known, reaches.closed, reaches.closing⟩
    exact { mirrors with
      owner := rfl
      lapsed := iff_of_false id false_ne_true
      candidate := rfl
      history := congrArg _ mirrors.history
      active := fun generationId target stored =>
        (mirrors.active generationId target stored).imp_right (Or.imp_right (mem_cons_of_mem _)) }
  · refine ⟨_, reaches.moves.tail (.propose unspent), ?_,
      insert_subset (mem_insert _ _) reaches.drawn, fun held => ?_, reaches.known,
      reaches.closed, reaches.closing⟩
    · exact { mirrors with candidate := rfl }
    · exact absurd (lost.symm.trans held) Bool.noConfusion

/-- How a part of a reacquisition ends. -/
def Reacquires (draw : Draw) (origin : Tenure.State String String) (closing : Bool)
    (taken : List String) (reacquired : Registry × Registry.Reacquisition) : Prop :=
  ∃ state, Reaches draw origin closing taken reacquired.1 state ∧
    ∀ candidate since deadline, reacquired.2 = .waits candidate since deadline →
      reacquired.1.leaseLost = true ∧ reacquired.1.candidate = some (candidate, since)

section

variable (reaches : Reaches draw origin closing taken registry state)

include reaches

theorem reacquireLoop (lost : registry.leaseLost = true) (unspent : draw.ownerId ∉ state.drawn)
    (chosen : registry.candidate = some (candidate, since)) (deadline : ℕ)
    (renewal : Option OwnerRenewal) :
    Reacquires draw origin closing taken
      (registry.reacquireLoop lease draw candidate since deadline renewal) := by
  unfold Registry.reacquireLoop
  split
  · refine ⟨state, reaches, ?_⟩
    intro candidate' since' deadline' waits
    split_ifs at waits
    cases waits
    exact ⟨lost, chosen⟩
  · obtain ⟨after, judged⟩ := reaches.judgeCandidate lost unspent chosen _
    exact ⟨after, judged, nofun⟩

theorem reacquireOwnerLease (unspent : draw.ownerId ∉ state.drawn) :
    Reacquires draw origin closing taken (registry.reacquireOwnerLease lease draw) := by
  unfold Registry.reacquireOwnerLease
  split_ifs with held kept
  · exact ⟨state, reaches, nofun⟩
  · exact ⟨state, reaches, nofun⟩
  · have lost : registry.leaseLost = true := by
      cases lost : registry.leaseLost with
      | true => rfl
      | false => exact absurd (.inl lost) kept
    obtain ⟨control, attempted⟩ := @heartbeatAttempt_of_lost draw _ lost
    have controlled : Reaches draw origin closing taken (registry.heartbeatAttempt draw) state := by
      rw [attempted]
      exact { reaches with mirrors := { reaches.mirrors with } }
    have running := controlled.trans controlled.start.ensureRunning
    have lost' : ((registry.heartbeatAttempt draw).ensureRunning draw).1.leaseLost = true := by
      rw [attempted]
      unfold ensureRunning
      split <;> exact lost
    dsimp only
    split
    · exact ⟨state, controlled, nofun⟩
    · split
      · exact ⟨state, running, nofun⟩
      · exact running.reacquireLoop lost' unspent ‹_› _ _

theorem reacquireAgain (unspent : draw.ownerId ∉ state.drawn)
    (chosen : registry.candidate = some (candidate, since)) (deadline : ℕ) :
    Reacquires draw origin closing taken
      (registry.reacquireAgain lease draw candidate since deadline) := by
  unfold Registry.reacquireAgain
  split_ifs with kept
  · exact ⟨state, reaches, nofun⟩
  · have lost : registry.leaseLost = true := by
      cases lost : registry.leaseLost with
      | true => rfl
      | false => exact absurd (.inl lost) kept
    obtain ⟨control, attempted⟩ := @heartbeatAttempt_of_lost draw _ lost
    have controlled : Reaches draw origin closing taken (registry.heartbeatAttempt draw) state := by
      rw [attempted]
      exact { reaches with mirrors := { reaches.mirrors with } }
    have lost' : (registry.heartbeatAttempt draw).leaseLost = true := by
      rw [attempted]
      exact lost
    have chosen' : (registry.heartbeatAttempt draw).candidate = some (candidate, since) := by
      rw [attempted]
      exact chosen
    dsimp only
    split
    · exact ⟨state, controlled, nofun⟩
    · exact controlled.reacquireLoop lost' unspent chosen' _ _

end

/-- How a part of a registration ends. -/
def Advances (draw : Draw) (origin : Tenure.State String String) (closing : Bool)
    (taken : List String) (advanced : Registry × Registry.Publishing) : Prop :=
  ∃ state, Reaches draw origin closing taken advanced.1 state ∧
    StageValid advanced.1 state (draw.generationId :: taken) advanced.2

section

variable (reaches : Reaches draw origin closing taken registry state)

include reaches

theorem advances {stage : Publishing}
    (valid : StageValid registry state (draw.generationId :: taken) stage) :
    Advances draw origin closing taken (registry, stage) := ⟨state, reaches, valid⟩

theorem admitted (opened : ¬ origin.closed) (held : registry.leaseLost = false)
    (runs : state.running generationId = some registry.ownerId ∨
      generationId ∈ state.known ∧ .finishing generationId ∈ registry.history) :
    Advances draw origin closing taken (registry.admitted generationId) := by
  rw [← reaches.closed] at opened
  obtain ⟨after, admitted⟩ := reaches.start.admitted held opened runs
  exact ⟨after, reaches.trans admitted, trivial⟩

theorem admitGeneration (opened : ¬ origin.closed) (unused : draw.generationId ∉ taken) :
    Advances draw origin closing taken (registry.admitGeneration lease draw key) := by
  obtain ⟨middle, observed⟩ := @Follows.observeOwnerHeartbeat lease _ _ _ _ _ reaches.start
  have observed := reaches.trans observed
  unfold Registry.admitGeneration
  dsimp only
  split_ifs with held lost
  · exact observed.advances trivial
  · exact observed.advances trivial
  · split
    · refine observed.advances ⟨rfl, mem_cons_self, fun known => ?_⟩
      exact unused (observed.known _ known)
    · split
      · exact observed.advances trivial
      · rename_i generationId _ _ existing stored
        split_ifs with same
        · refine observed.admitted opened (not_eq_true _ ▸ lost) ?_
          obtain ⟨known, runs⟩ := observed.mirrors.active generationId existing stored
          rw [same] at runs
          exact runs.imp_right fun finishing => ⟨known, finishing⟩
        · exact observed.advances trivial

end

theorem renewAndAdmit {renewing : Registry × Segment}
    (reaches : Reaches draw origin closing taken renewing.1 state)
    (opened : ¬ origin.closed) (unused : draw.generationId ∉ taken) :
    Advances draw origin closing taken (renewAndAdmit lease draw key renewing) := by
  unfold Registry.renewAndAdmit
  split
  · exact reaches.admitGeneration opened unused
  all_goals exact reaches.advances trivial

theorem requireAndAdmit (reaches : Reaches draw origin closing taken registry state)
    (opened : ¬ origin.closed) (unused : draw.generationId ∉ taken) :
    Advances draw origin closing taken (Registry.renewAndAdmit lease draw key
      (registry.requireRenewingHeartbeat lease draw)) := by
  obtain ⟨after, required⟩ := @Follows.requireRenewingHeartbeat lease _ _ _ _ _ reaches.start
  exact (reaches.trans required).renewAndAdmit opened unused

theorem admitReacquired {reacquired : Registry × Reacquisition}
    (reacquires : Reacquires draw origin closing taken reacquired)
    (opened : ¬ origin.closed) (unused : draw.generationId ∉ taken) :
    Advances draw origin closing taken (admitReacquired lease draw key reacquired) := by
  obtain ⟨state, reaches, waits⟩ := reacquires
  unfold Registry.admitReacquired
  split
  · rename_i candidate since deadline waiting
    exact reaches.advances (waits candidate since deadline waiting)
  · exact reaches.advances trivial
  · split_ifs
    · exact reaches.advances trivial
    · exact reaches.advances trivial
    · exact reaches.requireAndAdmit opened unused

theorem publish (reaches : Reaches draw origin closing taken registry state)
    (unspent : draw.ownerId ∉ state.drawn) (opened : ¬ origin.closed)
    (unused : draw.generationId ∉ taken) :
    Advances draw origin closing taken (registry.publish lease draw key) := by
  unfold Registry.publish
  split
  · exact admitReacquired (reaches.reacquireOwnerLease unspent) opened unused
  · exact reaches.requireAndAdmit opened unused

/-- A committed row is published under the identity that holds the lease, or held it last. -/
theorem publishLocally (reaches : Reaches draw origin closing taken registry state)
    {generationId : String} (fresh : generationId ∉ state.known) (member : generationId ∈ taken)
    (started : ℕ) :
    ∃ after, Reaches draw origin closing taken
        (registry.publishLocally draw key generationId registry.ownerId started) after ∧
      after.running generationId = some registry.ownerId ∧ generationId ∈ after.known := by
  have mirrors := reaches.mirrors
  have different : ∀ other ∈ state.known, other ≠ generationId := by
    rintro other known rfl
    exact fresh known
  have start : Moves state _ := .start fresh
  refine ⟨_, ⟨reaches.moves.tail start, ?_, reaches.drawn, reaches.unspent, ?_, reaches.closed,
    reaches.closing⟩, ?_, mem_insert _ _⟩
  · refine { mirrors with running := ?_, active := ?_, completing := ?_, cleanups := ?_ }
    · intro other identity runs
      by_cases same : other = generationId
      · subst other
        have runs : update state.running generationId (some state.owner) generationId =
            some identity := runs
        rw [update_self] at runs
        have owned := Option.some.inj runs
        refine ⟨_, row_insert_self _ _ _, mirrors.owner.symm.trans owned, ?_⟩
        exact fun ending => fresh (mirrors.completing _ ending)
      · obtain ⟨target, stored, owned⟩ := mirrors.running other identity
          ((update_of_ne same _ _).symm.trans runs)
        exact ⟨target, (row_insert_of_ne _ _ same).trans stored, owned⟩
    · intro other target stored
      by_cases same : other = generationId
      · subst other
        cases (row_insert_self _ _ _).symm.trans stored
        refine ⟨mem_insert _ _, .inl ((update_self _ _ _).trans ?_)⟩
        rw [mirrors.owner]
      · obtain ⟨known, runs⟩ := mirrors.active other target
          ((row_insert_of_ne _ _ same).symm.trans stored)
        exact ⟨mem_insert_of_mem _ known, runs.imp_left fun runs =>
          (update_of_ne same _ _).trans runs⟩
    · exact fun other ending => mem_insert_of_mem _ (mirrors.completing other ending)
    · intro other settlement running
      obtain ⟨known, stopped⟩ := mirrors.cleanups other settlement running
      exact ⟨mem_insert_of_mem _ known, (update_of_ne (different _ known) _ _).trans stopped⟩
  · intro other known
    rcases known with rfl | known
    · exact member
    · exact reaches.known other known
  · refine (update_self _ _ _).trans ?_
    rw [mirrors.owner]

section

variable (reaches : Reaches draw origin closing taken registry state)

include reaches

theorem completeSoon (disposition : RequestCompletionDisposition) {stage : Publishing}
    (valid : ∀ registry state, StageValid registry state (draw.generationId :: taken) stage) :
    Advances draw origin closing taken (registry.completeSoon key disposition, stage) := by
  obtain ⟨after, completing⟩ := reaches.start.completeSoon key disposition
  exact ⟨after, reaches.trans completing, valid _ _⟩

theorem inserted (opened : ¬ origin.closed) (fresh : generationId ∉ state.known)
    (member : generationId ∈ taken) (started : ℕ) :
    Advances draw origin closing taken
      (registry.inserted lease draw key generationId registry.ownerId started) := by
  obtain ⟨middle, published, runs, known⟩ :=
    @publishLocally _ _ _ _ _ key _ reaches generationId fresh member started
  obtain ⟨after, observed⟩ := @Follows.observeOwnerHeartbeat lease _ _ _ _ _ published.start
  have owner := observed.owner
  have going := observed.running generationId registry.ownerId runs
  have known : generationId ∈ after.known := observed.known ▸ known
  have observed := published.trans observed
  have runs := going.imp_right fun finishing => And.intro known finishing
  unfold Registry.inserted
  dsimp only
  split_ifs with lost held alone held
  · exact observed.advances trivial
  · exact observed.completeSoon .completed fun _ _ => trivial
  · exact observed.advances trivial
  · exact observed.advances ⟨owner.symm, runs⟩
  · exact observed.admitted opened (not_eq_true _ ▸ lost)
      (runs.imp_left fun running => running.trans (congrArg some owner.symm))

theorem unconfirmed : Advances draw origin closing taken (registry.unconfirmed key) :=
  reaches.completeSoon .completed fun _ _ => trivial

theorem confirmed (opened : ¬ origin.closed) {ownerId : String}
    (runs : state.running generationId = some registry.ownerId ∨
      generationId ∈ state.known ∧ .finishing generationId ∈ registry.history)
    (outcome : Except Failure OwnerPoll) :
    Advances draw origin closing taken
      (registry.confirmed lease draw key generationId ownerId outcome) := by
  unfold Registry.confirmed
  split
  · rename_i failure
    split_ifs with control
    · obtain ⟨after, retained⟩ := reaches.start.retainTerminalControl failure
      exact (reaches.trans retained).advances trivial
    · obtain ⟨middle, attempted⟩ := reaches.start.heartbeatAttempt
      have attempted := reaches.trans attempted
      dsimp only
      split_ifs
      · exact attempted.advances trivial
      · obtain ⟨after, failed⟩ := attempted.start.failClosedObserved ownerId
        exact (attempted.trans failed).unconfirmed
  · obtain ⟨middle, observed⟩ := @Follows.observeOwnerHeartbeat lease _ _ _ _ _ reaches.start
    have going : middle.running generationId =
        some (registry.observeOwnerHeartbeat lease draw).ownerId ∨ generationId ∈ middle.known ∧
          .finishing generationId ∈ (registry.observeOwnerHeartbeat lease draw).history := by
      have known : generationId ∈ state.known → generationId ∈ middle.known :=
        fun known => observed.known ▸ known
      rcases runs with running | ⟨member, finishing⟩
      · obtain ⟨target, stored, _⟩ := reaches.mirrors.running generationId _ running
        have member := (reaches.mirrors.active generationId target stored).1
        rw [observed.owner]
        exact (observed.running generationId _ running).imp_right fun finishing =>
          ⟨known member, finishing⟩
      · exact .inr ⟨known member, observed.history finishing⟩
    have observed := reaches.trans observed
    dsimp only
    split_ifs with held live lost marked
    · exact observed.advances trivial
    · exact observed.unconfirmed
    · exact observed.completeSoon .completed fun _ _ => trivial
    · exact observed.admitted opened (not_eq_true _ ▸ lost) going
    · obtain ⟨after, failed⟩ := observed.start.failClosedObserved ownerId
      exact (observed.trans failed).unconfirmed

end

/-- **A registration keeps to the moves of an owner.** -/
theorem resume (reaches : Reaches draw origin closing taken registry state)
    (unspent : draw.ownerId ∉ state.drawn) (opened : ¬ origin.closed)
    (unused : draw.generationId ∉ taken) {stage : Publishing}
    (valid : StageValid registry state taken stage) {advanced : Registry × Publishing}
    (resumed : registry.resume lease draw key stage = some advanced) :
    Advances draw origin closing taken advanced := by
  cases stage with
  | queued =>
    cases resumed
    exact reaches.publish unspent opened unused
  | reacquiring candidate since deadline =>
    cases resumed
    exact admitReacquired (reaches.reacquireAgain unspent valid.2 deadline) opened unused
  | renewing ownerId =>
    cases resumed
    obtain ⟨after, awaited⟩ := @Follows.awaitRenewal lease _ _ _ _ _ reaches.start ownerId
    exact (reaches.trans awaited).renewAndAdmit opened unused
  | inserting generationId ownerId started outcome =>
    obtain ⟨rfl, member, fresh⟩ := valid
    match outcome with
    | none => cases resumed
    | some (.error failure) =>
      cases resumed
      exact reaches.advances trivial
    | some (.ok false) =>
      cases resumed
      exact reaches.advances trivial
    | some (.ok true) =>
      cases resumed
      exact reaches.inserted opened fresh member started
  | confirming generationId ownerId outcome =>
    obtain ⟨rfl, runs⟩ := valid
    cases outcome with
    | none => cases resumed
    | some outcome =>
      cases resumed
      exact reaches.confirmed opened runs outcome
  | returned admitted | raised failure => cases resumed

end Reaches

end Kestrel.Stop.Invocation
