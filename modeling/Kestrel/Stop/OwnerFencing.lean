import Kestrel.Stop.RegistryTenure

/-!
# Fenced owners stay fenced

Whatever the tasks of a registry, its heartbeat and the other processes do, the registry moves as
successive owners of one lease. What a heartbeat or a settlement writes is about the rows of the
identity that it was issued for.
-/

namespace Kestrel.Stop.Invocation

open Relation RegistrySystem Except Option RegistrySystem Table Registry

/-- The owner that a registry with all its tasks stands for. -/
structure Refines (system : RegistrySystem) (state : Tenure.State String String) : Prop where
  mirrors : Mirrors system.registry state
  drawn : ∀ identity ∈ state.drawn, identity ∈ system.drawn
  known : ∀ generationId ∈ state.known, generationId ∈ system.drawn
  closing : system.closing.isSome = true → system.registry.closing = true
  closed : state.closed → system.registry.closing = true ∧
    ∀ task key stage, system.registrations.row task = some (key, stage) → isOver stage = true
  stages : ∀ task key stage, system.registrations.row task = some (key, stage) →
    StageValid system.registry state system.drawn stage
  locked : ∀ task key stage, system.registrations.row task = some (key, stage) →
    holds stage = true → system.holder = some (.registration task)
  relay : ∀ candidate since deadline,
    system.relay = some (.reacquiring candidate since deadline) → system.holder = some .relay ∧
      system.registry.leaseLost = true ∧ system.registry.candidate = some (candidate, since)

/-- A registration's stage is an earlier one's, but for what it waited for. -/
structure Stays (before after : Registry.Publishing) : Prop where
  holds : holds after = holds before
  isOver : isOver after = isOver before
  valid : ∀ registry state drawn, StageValid registry state drawn before →
    StageValid registry state drawn after

theorem Stays.refl (stage : Publishing) : Stays stage stage :=
  ⟨rfl, rfl, fun _ _ _ => id⟩

variable {config : Config} {draw : Draw} {system target : RegistrySystem} {registry : Registry}
  {state after : Tenure.State String String}

theorem StageValid.follows {before : Registry} {drawn drawn' : List String}
    {stage : Publishing} (valid : StageValid before state drawn stage)
    (mirrors : Mirrors before state) (follows : Follows draw before state registry after)
    (grown : drawn ⊆ drawn') : StageValid registry after drawn' stage := by
  cases stage with
  | queued | renewing ownerId | returned admitted | raised failure => trivial
  | reacquiring candidate since deadline =>
    obtain ⟨lost, chosen⟩ := valid
    obtain ⟨lost', same⟩ := follows.candidate lost
    exact ⟨lost', same.trans chosen⟩
  | inserting generationId ownerId started outcome =>
    obtain ⟨rfl, member, fresh⟩ := valid
    exact ⟨follows.owner.symm, grown member, follows.known ▸ fresh⟩
  | confirming generationId ownerId outcome =>
    obtain ⟨rfl, runs⟩ := valid
    refine ⟨follows.owner.symm, ?_⟩
    rcases runs with runs | ⟨known, finishing⟩
    · obtain ⟨target, stored, _⟩ := mirrors.running generationId _ runs
      have known := (mirrors.active generationId target stored).1
      exact (follows.running generationId _ runs).imp_right fun finishing =>
        ⟨follows.known ▸ known, finishing⟩
    · exact .inr ⟨follows.known ▸ known, follows.history finishing⟩

namespace Refines

/-- A part of a task that neither takes a new identity nor publishes a generation. -/
theorem bystander (refines : Refines system state)
    (follows : Follows draw system.registry state registry after)
    (registers : target.registry = registry)
    (draws : target.drawn = draw.ownerId :: draw.generationId :: system.drawn)
    (closing : target.closing.isSome = true → system.closing.isSome = true)
    (registrations : ∀ task key stage, target.registrations.row task = some (key, stage) →
      (∃ before, system.registrations.row task = some (key, before) ∧ Stays before stage) ∨
        stage = .queued ∧ system.registry.closing = false)
    (holder : target.holder = system.holder)
    (relay : ∀ candidate since deadline,
      target.relay = some (.reacquiring candidate since deadline) →
        system.relay = some (.reacquiring candidate since deadline)) :
    Refines target after where
  mirrors := registers ▸ follows.mirrors
  drawn := by
    intro identity drawn
    rw [draws]
    rcases follows.drawn drawn with rfl | drawn
    · exact List.mem_cons_self
    · exact .tail _ (.tail _ (refines.drawn identity drawn))
  known := by
    intro generationId known
    rw [draws]
    exact .tail _ (.tail _ (refines.known generationId (follows.known ▸ known)))
  closing := by
    intro closes
    rw [registers, follows.closing]
    exact refines.closing (closing closes)
  closed := by
    intro closed
    obtain ⟨closes, done⟩ := refines.closed (follows.closed ▸ closed)
    refine ⟨by rw [registers, follows.closing, closes], ?_⟩
    intro task key stage listed
    rcases registrations task key stage listed with ⟨before, listed, stays⟩ | ⟨_, opened⟩
    · exact stays.isOver.trans (done task key before listed)
    · rw [closes] at opened
      cases opened
  stages := by
    intro task key stage listed
    rw [registers, draws]
    rcases registrations task key stage listed with ⟨before, listed, stays⟩ | ⟨rfl, _⟩
    · exact stays.valid _ _ _ ((refines.stages task key before listed).follows refines.mirrors
        follows fun _ member => .tail _ (.tail _ member))
    · trivial
  locked := by
    intro task key stage listed held
    rw [holder]
    rcases registrations task key stage listed with ⟨before, listed, stays⟩ | ⟨rfl, _⟩
    · exact refines.locked task key before listed (stays.holds.symm.trans held)
    · cases held
  relay := by
    intro candidate since deadline waits
    obtain ⟨held, lost, chosen⟩ := refines.relay candidate since deadline
      (relay candidate since deadline waits)
    obtain ⟨lost', same⟩ := follows.candidate lost
    rw [holder, registers]
    exact ⟨held, lost', same.trans chosen⟩

theorem holder (refines : Refines system state)
    (reaches : Reaches draw state system.registry.closing system.drawn registry after)
    (registers : target.registry = registry)
    (draws : target.drawn = draw.ownerId :: draw.generationId :: system.drawn)
    (closing : target.closing = system.closing)
    (done : state.closed → ∀ task key stage,
      target.registrations.row task = some (key, stage) → isOver stage = true)
    (stages : ∀ task key stage, target.registrations.row task = some (key, stage) →
      StageValid registry after (draw.generationId :: system.drawn) stage)
    (locked : ∀ task key stage, target.registrations.row task = some (key, stage) →
      holds stage = true → target.holder = some (.registration task))
    (relay : ∀ candidate since deadline,
      target.relay = some (.reacquiring candidate since deadline) → target.holder = some .relay ∧
        registry.leaseLost = true ∧ registry.candidate = some (candidate, since)) :
    Refines target after where
  mirrors := registers ▸ reaches.mirrors
  drawn := by
    intro identity drawn
    rw [draws]
    rcases reaches.drawn drawn with rfl | drawn
    · exact List.mem_cons_self
    · exact .tail _ (.tail _ (refines.drawn identity drawn))
  known := by
    intro generationId known
    rw [draws]
    exact .tail _ (.tail _ (reaches.known generationId known))
  closing := by
    intro closes
    rw [registers, reaches.closing]
    exact refines.closing (closing ▸ closes)
  closed := by
    intro closed
    have closed : state.closed := reaches.closed ▸ closed
    exact ⟨by rw [registers, reaches.closing, (refines.closed closed).1], done closed⟩
  stages := by
    intro task key stage listed
    have valid := stages task key stage listed
    rw [registers, draws]
    cases stage with
    | inserting generationId ownerId started outcome =>
      exact ⟨valid.1, .tail _ valid.2.1, valid.2.2⟩
    | queued | reacquiring | renewing | confirming | returned | raised => exact valid
  locked := locked
  relay := by
    rw [registers]
    exact relay

theorem stageValid_of_free {stage : Publishing} {drawn : List String}
    (free : holds stage = false) : StageValid registry state drawn stage := by
  cases stage with
  | queued | returned | raised => trivial
  | reacquiring | renewing | inserting | confirming => cases free

theorem reaches (refines : Refines system state) (unused : draw.ownerId ∉ system.drawn) :
    Reaches draw state system.registry.closing system.drawn system.registry state where
  moves := .refl
  mirrors := refines.mirrors
  drawn := Set.subset_insert _ _
  unspent _ drawn := unused (refines.drawn _ drawn)
  known := refines.known
  closed := rfl
  closing := rfl

theorem start (refines : Refines system state) (unused : draw.ownerId ∉ system.drawn) :
    Follows draw system.registry state system.registry state :=
  (refines.reaches unused).start

def Next (draw : Draw) (system : RegistrySystem) (state : Tenure.State String String)
    (stepped : RegistrySystem) : Prop :=
  ∃ after, ReflTransGen Tenure.Moves state after ∧ Refines { stepped with
    now := draw.now
    drawn := draw.ownerId :: draw.generationId :: system.drawn } after

theorem resume (refines : Refines system state) (unused : draw.ownerId ∉ system.drawn)
    (fresh : draw.generationId ∉ system.drawn) {task : ℕ} {stepped : RegistrySystem}
    (resumed : system.resume config draw task = some stepped) : Next draw system state stepped := by
  unfold RegistrySystem.resume at resumed
  obtain ⟨⟨key, stage⟩, listed, resumed⟩ := bind_eq_some_iff.mp resumed
  dsimp only at resumed
  by_cases held : system.holder =
      if holds stage then some (.registration task) else none
  swap
  · rw [if_pos held] at resumed
    cases resumed
  rw [if_neg (not_not_intro held)] at resumed
  obtain ⟨⟨registry, next⟩, went, resumed⟩ := bind_eq_some_iff.mp resumed
  cases resumed
  have opened : ¬ state.closed := by
    intro closed
    have done := (refines.closed closed).2 task key stage listed
    cases stage with
    | returned | raised => cases went
    | queued | reacquiring | renewing | inserting | confirming => cases done
  obtain ⟨after, reaches, valid⟩ := (refines.reaches unused).resume
    (fun drawn => unused (refines.drawn _ drawn)) opened fresh (refines.stages task key stage listed)
    went
  -- A registration that takes part holds the lock, so that the others hold nothing.
  have others : ∀ other key stage, other ≠ task →
      system.registrations.row other = some (key, stage) → holds stage = false := by
    intro other key' stage' different listed'
    cases holding : holds stage' with
    | false => rfl
    | true =>
      have lock := refines.locked other key' stage' listed' holding
      rw [held] at lock
      split_ifs at lock
      cases lock
      exact absurd rfl different
  refine ⟨after, reaches.moves, refines.holder reaches rfl rfl rfl
    (fun closed => absurd closed opened) ?_ ?_ ?_⟩
  · intro other key' stage' listed'
    by_cases same : other = task
    · subst other
      cases (row_insert_self _ _ _).symm.trans listed'
      exact valid
    · exact stageValid_of_free (others other key' stage' same
        ((row_insert_of_ne _ _ same).symm.trans listed'))
  · intro other key' stage' listed' holding
    by_cases same : other = task
    · subst other
      cases (row_insert_self _ _ _).symm.trans listed'
      exact if_pos holding
    · have free := others other key' stage' same ((row_insert_of_ne _ _ same).symm.trans listed')
      rw [free] at holding
      cases holding
  · intro candidate since deadline waits
    have lock := (refines.relay candidate since deadline waits).1
    rw [held] at lock
    split_ifs at lock
    cases lock

variable {stepped : RegistrySystem} {task : ℕ} {reply : Reply} {clock : Clock} {ownerId : String}

section

variable (refines : Refines system state)

include refines

theorem beside (follows : Follows draw system.registry state registry after)
    (registers : stepped.registry = registry) (closing : stepped.closing = system.closing)
    (registrations : stepped.registrations = system.registrations)
    (holder : stepped.holder = system.holder) (relay : ∀ candidate since deadline,
      stepped.relay = some (.reacquiring candidate since deadline) →
        system.relay = some (.reacquiring candidate since deadline)) :
    Next draw system state stepped := by
  refine ⟨after, follows.moves, refines.bystander follows registers rfl (fun closes => ?_) ?_ holder
    relay⟩
  · exact closing ▸ closes
  · intro task key stage listed
    exact .inl ⟨stage, registrations ▸ listed, Stays.refl stage⟩

theorem awaited (unused : draw.ownerId ∉ system.drawn) {key : Key}
    {before stage : Publishing} {tables : Tables}
    (listed : system.registrations.row task = some (key, before)) (stays : Stays before stage) :
    Next draw system state { system with
      tables := tables
      registrations := system.registrations.insert task (key, stage) } := by
  refine ⟨state, .refl, refines.bystander (refines.start unused) rfl rfl id ?_ rfl
    fun _ _ _ waits => waits⟩
  intro other key' stage' listed'
  by_cases same : other = task
  · subst other
    cases (row_insert_self _ _ _).symm.trans listed'
    exact .inl ⟨before, listed, stays⟩
  · exact .inl ⟨stage', (row_insert_of_ne _ _ same).symm.trans listed', Stays.refl stage'⟩

theorem insertRow (unused : draw.ownerId ∉ system.drawn)
    (inserted : system.insertRow config task reply clock = some stepped) :
    Next draw system state stepped := by
  unfold RegistrySystem.insertRow at inserted
  obtain ⟨⟨key, stage⟩, listed, inserted⟩ := bind_eq_some_iff.mp inserted
  dsimp only at inserted
  split at inserted
  · cases inserted
    exact refines.awaited unused listed ⟨rfl, rfl, fun _ _ _ => id⟩
  · cases inserted

theorem readOwner (unused : draw.ownerId ∉ system.drawn)
    (read : system.readOwner config task reply clock = some stepped) :
    Next draw system state stepped := by
  unfold RegistrySystem.readOwner at read
  obtain ⟨⟨key, stage⟩, listed, read⟩ := bind_eq_some_iff.mp read
  dsimp only at read
  split at read
  · cases read
    exact refines.awaited unused listed ⟨rfl, rfl, fun _ _ _ => id⟩
  · cases read

theorem deliver (unused : draw.ownerId ∉ system.drawn)
    (delivered : system.deliver draw task = some stepped) :
    Next draw system state stepped := by
  unfold RegistrySystem.deliver at delivered
  obtain ⟨⟨key, stage⟩, listed, delivered⟩ := bind_eq_some_iff.mp delivered
  have rest : ∀ other key stage,
      (system.registrations.keep fun other _ => other ≠ task).row other = some (key, stage) →
        (∃ before, system.registrations.row other = some (key, before) ∧ Stays before stage) ∨
          stage = .queued ∧ system.registry.closing = false :=
    fun other key stage kept =>
      .inl ⟨stage, (filter_eq_some_iff.mp kept).1, Stays.refl stage⟩
  dsimp only at delivered
  split at delivered
  · cases delivered
    exact ⟨state, .refl, refines.bystander (refines.start unused) rfl rfl id rest rfl
      fun _ _ _ waits => waits⟩
  · cases delivered
    obtain ⟨after, retained⟩ := (refines.start unused).retainTerminalControl _
    exact ⟨after, retained.moves, refines.bystander retained rfl rfl id rest rfl
      fun _ _ _ waits => waits⟩
  · cases delivered

theorem relayReacquired {reacquired : Registry × Reacquisition}
    (reacquires : Reaches.Reacquires draw state system.registry.closing system.drawn reacquired)
    (free : ∀ task, system.holder ≠ some (.registration task)) :
    Next draw system state (system.relayReacquired reacquired) := by
  obtain ⟨after, reaches, waits⟩ := reacquires
  have others : ∀ task key stage, system.registrations.row task = some (key, stage) →
      holds stage = false := by
    intro task key stage listed
    cases holding : holds stage with
    | false => rfl
    | true => exact absurd (refines.locked task key stage listed holding) (free task)
  obtain ⟨registry, next⟩ := reacquired
  have valid : ∀ task key stage, system.registrations.row task = some (key, stage) →
      StageValid registry after (draw.generationId :: system.drawn) stage :=
    fun task key stage listed => stageValid_of_free (others task key stage listed)
  have unlocked : ∀ {holder : Option Holder} task key stage,
      system.registrations.row task = some (key, stage) → holds stage = true →
        holder = some (.registration task) := by
    intro holder task key stage listed holding
    rw [others task key stage listed] at holding
    cases holding
  unfold RegistrySystem.relayReacquired
  dsimp only
  split
  · rename_i candidate since deadline
    refine ⟨after, reaches.moves, refines.holder reaches rfl rfl rfl
      (fun closed => (refines.closed closed).2) valid unlocked ?_⟩
    intro candidate' since' deadline' same
    cases same
    exact ⟨rfl, waits candidate since deadline rfl⟩
  · split
    all_goals
      exact ⟨after, reaches.moves, refines.holder reaches rfl rfl rfl
        (fun closed => (refines.closed closed).2) valid unlocked nofun⟩
  · exact ⟨after, reaches.moves, refines.holder reaches rfl rfl rfl
      (fun closed => (refines.closed closed).2) valid unlocked nofun⟩

theorem relayRestart (unused : draw.ownerId ∉ system.drawn) :
    Next draw system state (system.relayRestart config draw) := by
  unfold RegistrySystem.relayRestart
  dsimp only
  split
  · exact refines.beside (refines.start unused) rfl rfl rfl rfl nofun
  · obtain ⟨after, restarted⟩ :=
      @Follows.restartHeartbeat config.lease _ _ _ _ _ (refines.start unused)
    split
    all_goals
      rename_i registry _ same
      rw [same] at restarted
      exact refines.beside restarted rfl rfl rfl rfl nofun

theorem relayTurn (unused : draw.ownerId ∉ system.drawn)
    (turned : system.relayTurn config draw = some stepped) :
    Next draw system state stepped := by
  have unspent : draw.ownerId ∉ state.drawn := fun drawn => unused (refines.drawn _ drawn)
  unfold RegistrySystem.relayTurn at turned
  split at turned
  · cases turned
  · split_ifs at turned
    · cases turned
      exact refines.beside (refines.start unused) rfl rfl rfl rfl nofun
    · cases turned
      exact refines.beside (refines.start unused) rfl rfl rfl rfl nofun
    · cases turned
      obtain ⟨after, observed⟩ :=
        @Follows.observeOwnerHeartbeat config.lease _ _ _ _ _ (refines.start unused)
      refine refines.beside observed rfl rfl rfl rfl ?_
      intro candidate since deadline waits
      split_ifs at waits <;> cases waits
  · split_ifs at turned with free
    cases turned
    refine refines.relayReacquired ((refines.reaches unused).reacquireOwnerLease unspent) ?_
    intro task held
    rw [not_not.mp free] at held
    cases held
  · rename_i candidate since deadline waiting
    split_ifs at turned with held
    cases turned
    have chosen := (refines.relay candidate since deadline waiting).2.2
    refine refines.relayReacquired
      ((refines.reaches unused).reacquireAgain unspent chosen deadline) ?_
    intro task other
    rw [not_not.mp held] at other
    cases other
  · split_ifs at turned
    cases turned
    exact refines.relayRestart unused

theorem startRegistry (unused : draw.ownerId ∉ system.drawn)
    (started : system.startRegistry draw = some stepped) :
    Next draw system state stepped := by
  unfold RegistrySystem.startRegistry at started
  split_ifs at started
  all_goals
    cases started
    refine refines.beside ((refines.start unused).withHeartbeat _) rfl rfl rfl rfl ?_
    intro candidate since deadline waits
    cases going : system.relay with
    | none =>
      rw [going] at waits
      cases waits
    | some stage =>
      rw [going] at waits
      exact waits

theorem register (unused : draw.ownerId ∉ system.drawn) (opened : system.registry.closing = false)
    (task : ℕ) (key : Key) :
    Next draw system state { system with
      registrations := system.registrations.insert task (key, .queued) } := by
  refine ⟨state, .refl, refines.bystander (refines.start unused) rfl rfl id ?_ rfl
    fun _ _ _ waits => waits⟩
  intro other key' stage listed
  by_cases same : other = task
  · subst other
    cases (row_insert_self _ _ _).symm.trans listed
    exact .inr ⟨rfl, opened⟩
  · exact .inl ⟨stage, (row_insert_of_ne _ _ same).symm.trans listed, Stays.refl stage⟩

theorem settleRows (unused : draw.ownerId ∉ system.drawn) {key : Key}
    (settled : system.settleRows key reply clock = some stepped) :
    Next draw system state stepped := by
  unfold RegistrySystem.settleRows at settled
  obtain ⟨settlement, running, settled⟩ := bind_eq_some_iff.mp settled
  split at settled
  · cases settled
    exact refines.beside ((refines.start unused).restage running _) rfl rfl rfl rfl
      fun _ _ _ waits => waits
  · cases settled

theorem beaten (unused : draw.ownerId ∉ system.drawn) (heartbeat : Option OwnerHeartbeat)
    (tables : Tables) :
    Next draw system state { system with
      tables := tables
      registry := { system.registry with heartbeat := heartbeat } } :=
  refines.beside ((refines.start unused).withHeartbeat heartbeat) rfl rfl rfl rfl
    fun _ _ _ waits => waits

theorem beat (unused : draw.ownerId ∉ system.drawn)
    {change : OwnerHeartbeat → Option OwnerHeartbeat} (beaten : system.beat change = some stepped)
    : Next draw system state stepped := by
  unfold RegistrySystem.beat at beaten
  obtain ⟨heartbeat, _, beaten⟩ := bind_eq_some_iff.mp beaten
  obtain ⟨heartbeat, _, beaten⟩ := bind_eq_some_iff.mp beaten
  cases beaten
  exact refines.beaten unused _ _

theorem renewRows (unused : draw.ownerId ∉ system.drawn)
    (renewed : system.renewRows config reply clock = some stepped) :
    Next draw system state stepped := by
  unfold RegistrySystem.renewRows at renewed
  obtain ⟨heartbeat, _, renewed⟩ := bind_eq_some_iff.mp renewed
  obtain ⟨flight, _, renewed⟩ := bind_eq_some_iff.mp renewed
  split_ifs at renewed
  cases renewed
  exact refines.beaten unused _ _

theorem close (unused : draw.ownerId ∉ system.drawn) (closes : system.close = some stepped) :
    Next draw system state stepped := by
  unfold RegistrySystem.close at closes
  split at closes
  · cases closes
  cases closes
  refine ⟨state, .refl, ?_⟩
  exact {
    mirrors := { refines.mirrors with }
    drawn := fun identity drawn => .tail _ (.tail _ (refines.drawn identity drawn))
    known := fun generationId known => .tail _ (.tail _ (refines.known generationId known))
    closing := fun _ => rfl
    closed := fun closed => ⟨rfl, (refines.closed closed).2⟩
    stages := by
      intro task key stage listed
      have valid := (refines.stages task key stage listed).follows refines.mirrors
        (refines.start unused) fun _ member => .tail draw.ownerId (.tail draw.generationId member)
      cases stage <;> exact valid
    locked := by
      intro task key stage listed holding
      have lock := refines.locked task key stage listed holding
      have other : system.holder ≠ some .relay := by
        rw [lock]
        exact nofun
      exact (if_neg other).trans lock
    relay := nofun }

theorem closingRetains (unused : draw.ownerId ∉ system.drawn) (failure : Failure) (tables : Tables)
    {stage : ClosingStage} (closes : system.closing.isSome = true) :
    Next draw system state { system with
      tables := tables
      registry := system.registry.retainTerminalControl draw failure
      closing := some stage } := by
  obtain ⟨after, retained⟩ := (refines.start unused).retainTerminalControl failure
  exact ⟨after, retained.moves, refines.bystander retained rfl rfl (fun _ => closes)
    (fun _ _ stage listed => .inl ⟨stage, listed, Stays.refl stage⟩) rfl fun _ _ _ waits => waits⟩

end

theorem closing_of_abandonment {found : List Abandonment × Abandonment}
    (abandons : system.abandonment ownerId = some found) : system.closing.isSome = true := by
  unfold abandonment at abandons
  split at abandons
  · rename_i same
    rw [same]
    rfl
  · cases abandons

section

variable (refines : Refines system state)

include refines

theorem readAbandoned (unused : draw.ownerId ∉ system.drawn)
    (read : system.readAbandoned ownerId = some stepped) : Next draw system state stepped := by
  unfold RegistrySystem.readAbandoned at read
  obtain ⟨⟨others, found⟩, abandons, read⟩ := bind_eq_some_iff.mp read
  dsimp only at read
  split at read
  · cases read
  · obtain ⟨generationIds, _, read⟩ := bind_eq_some_iff.mp read
    cases read
    exact refines.closingRetains unused .ordinary system.tables (closing_of_abandonment abandons)

theorem abandonRow (unused : draw.ownerId ∉ system.drawn)
    (abandoned : system.abandonRow draw ownerId reply clock = some stepped) :
    Next draw system state stepped := by
  unfold RegistrySystem.abandonRow at abandoned
  obtain ⟨⟨others, found⟩, abandons, abandoned⟩ := bind_eq_some_iff.mp abandoned
  have closes := closing_of_abandonment abandons
  dsimp only at abandoned
  split at abandoned
  · split at abandoned
    · cases abandoned
      exact refines.closingRetains unused .ordinary _ closes
    · cases abandoned
      exact refines.closingRetains unused _ _ closes
  · cases abandoned

theorem endAbandonment (unused : draw.ownerId ∉ system.drawn) {failure : Failure}
    (ended : system.endAbandonment draw ownerId failure = some stepped) :
    Next draw system state stepped := by
  unfold RegistrySystem.endAbandonment at ended
  obtain ⟨⟨others, found⟩, abandons, ended⟩ := bind_eq_some_iff.mp ended
  cases ended
  exact refines.closingRetains unused failure system.tables (closing_of_abandonment abandons)

theorem endClose (unused : draw.ownerId ∉ system.drawn) {failed : Bool}
    (ended : system.endClose draw failed = some stepped) : Next draw system state stepped := by
  unfold RegistrySystem.endClose at ended
  split at ended
  swap
  · cases ended
  rename_i stopping
  have closes : system.closing.isSome = true := by
    rw [stopping]
    rfl
  dsimp only at ended
  split at ended
  · cases ended
    exact refines.closingRetains unused _ system.tables closes
  · rename_i clean
    cases ended
    obtain ⟨after, retained⟩ := (refines.start unused).retainTerminalControl
      ((system.registry.attempted.bind OwnerRenewal.control).getD .ordinary)
    have done : ∀ task key stage, system.registrations.row task = some (key, stage) →
        isOver stage = true := by
      intro task key stage listed
      cases going : isOver stage with
      | true => rfl
      | false =>
        refine absurd (.inr (.inr (.inl (List.any_eq_true.mpr ⟨(task, key, stage), ?_, ?_⟩)))) clean
        · exact mem_rows.mpr listed
        · simp only [going, Bool.false_eq_true, not_false_eq_true, decide_true]
    have idle : ∀ {stage : Publishing}, isOver stage = true →
        holds stage = false := by
      intro stage finished
      cases stage with
      | returned | raised => rfl
      | queued | reacquiring | renewing | inserting | confirming => cases finished
    have closing := retained.closing.trans (refines.closing closes)
    have mirrors := retained.mirrors
    refine ⟨_, retained.moves.tail .close, ?_⟩
    exact {
      mirrors := { mirrors with
        history := congrArg _ mirrors.history
        running := nofun
        active := nofun
        completing := nofun
        cleanups := fun key settlement running => ⟨(mirrors.cleanups key settlement running).1, rfl⟩ }
      drawn := by
        intro identity drawn
        rcases retained.drawn drawn with rfl | drawn
        · exact List.mem_cons_self
        · exact .tail _ (.tail _ (refines.drawn identity drawn))
      known := fun generationId known =>
        .tail _ (.tail _ (refines.known generationId (retained.known ▸ known)))
      closing := fun _ => closing
      closed := fun _ => ⟨closing, done⟩
      stages := fun task key stage listed => stageValid_of_free (idle (done task key stage listed))
      locked := refines.locked
      relay := by
        intro candidate since deadline waits
        obtain ⟨held, lost, chosen⟩ := refines.relay candidate since deadline waits
        obtain ⟨lost', same⟩ := retained.candidate lost
        exact ⟨held, lost', same.trans chosen⟩ }

end

/-- **A step of a registry is a run of moves of its owner.** -/
theorem step (refines : Refines system state) (unused : draw.ownerId ∉ system.drawn)
    (fresh : draw.generationId ∉ system.drawn) {action : Action} {stepped : RegistrySystem}
    (steps : system.step config draw action = some stepped) : Next draw system state stepped := by
  have follows := refines.start unused
  cases action with
  | start => exact refines.startRegistry unused steps
  | register task key =>
    dsimp only [RegistrySystem.step] at steps
    split_ifs at steps with refused
    cases steps
    refine refines.register unused ?_ task key
    rw [not_or, not_or, Bool.not_eq_true, Bool.not_eq_true] at refused
    exact refused.2.1
  | resume task => exact refines.resume unused fresh steps
  | insertRow task reply clock => exact refines.insertRow unused steps
  | readOwner task reply clock => exact refines.readOwner unused steps
  | deliver task => exact refines.deliver unused steps
  | completeSoon key disposition =>
    cases steps
    obtain ⟨after, completing⟩ := follows.completeSoon key disposition
    exact refines.beside completing rfl rfl rfl rfl fun _ _ _ waits => waits
  | beginSettlement key =>
    obtain ⟨registry, begun, steps⟩ := bind_eq_some_iff.mp steps
    cases steps
    obtain ⟨after, begun⟩ := follows.beginSettlement begun
    exact refines.beside begun rfl rfl rfl rfl fun _ _ _ waits => waits
  | settleRows key reply clock => exact refines.settleRows unused steps
  | endSettlement key =>
    obtain ⟨registry, ended, steps⟩ := bind_eq_some_iff.mp steps
    cases steps
    obtain ⟨after, ended⟩ := follows.endSettlement ended
    exact refines.beside ended rfl rfl rfl rfl fun _ _ _ waits => waits
  | beginRenewal | publishRenewal | exitHeartbeat => exact refines.beat unused steps
  | renewRows reply clock => exact refines.renewRows unused steps
  | relay => exact refines.relayTurn unused steps
  | peer call clock =>
    obtain ⟨⟨tables, _⟩, _, steps⟩ := bind_eq_some_iff.mp steps
    cases steps
    exact refines.beside follows rfl rfl rfl rfl fun _ _ _ waits => waits
  | close => exact refines.close unused steps
  | abandonOwners =>
    dsimp only [RegistrySystem.step] at steps
    split at steps
    · rename_i closing
      cases steps
      refine refines.closingRetains unused .ordinary system.tables ?_
      rw [closing]
      rfl
    · cases steps
  | readAbandoned ownerId => exact refines.readAbandoned unused steps
  | abandonRow ownerId reply clock => exact refines.abandonRow unused steps
  | endAbandonment ownerId failure => exact refines.endAbandonment unused steps
  | stopHeartbeat =>
    dsimp only [RegistrySystem.step] at steps
    split at steps
    · rename_i closing
      cases steps
      refine ⟨state, .refl, refines.bystander (follows.withHeartbeat _) rfl rfl (fun _ => ?_)
        (fun _ _ stage listed => .inl ⟨stage, listed, Stays.refl stage⟩) rfl
        fun _ _ _ waits => waits⟩
      rw [closing]
      rfl
    · cases steps
  | endClose failed => exact refines.endClose unused steps

theorem initial (ownerId : String) (tables : Tables) (now : ℕ) :
    Refines (initial ownerId tables now) (Tenure.State.initial ownerId ∅ ∅) where
  mirrors := {
    owner := rfl
    lapsed := iff_of_false id Bool.false_ne_true
    candidate := rfl
    history := rfl
    running := nofun
    active := nofun
    completing := nofun
    cleanups := nofun }
  drawn := by
    intro identity drawn
    rcases drawn with rfl | drawn
    · exact List.mem_singleton_self _
    · cases drawn
  known := nofun
  closing := nofun
  closed := nofun
  stages := nofun
  locked := nofun
  relay := nofun

/-- **A run of a registry is a run of moves of successive owners.** -/
theorem run {tables : Tables} {now : ℕ} {labels : List (Draw × Action)}
    (run : Transition.Run (RegistrySystem.Steps config)
      (RegistrySystem.initial ownerId tables now) labels system) :
    ∃ state, ReflTransGen Tenure.Moves (Tenure.State.initial ownerId ∅ ∅) state ∧
      Refines system state := by
  have preserved : ∀ source label target, (∃ state,
      ReflTransGen Tenure.Moves (Tenure.State.initial ownerId ∅ ∅) state ∧ Refines source state) →
      RegistrySystem.Steps config source label target → ∃ state,
        ReflTransGen Tenure.Moves (Tenure.State.initial ownerId ∅ ∅) state ∧
          Refines target state := by
    intro source label target refined steps
    obtain ⟨state, moves, refines⟩ := refined
    obtain ⟨_, ⟨unused, fresh, _⟩, stepped⟩ := steps
    obtain ⟨stepped, went, rfl⟩ := map_eq_some_iff.mp stepped
    obtain ⟨after, onward, refined⟩ := refines.step unused fresh went
    exact ⟨after, moves.trans onward, refined⟩
  exact run.invariant preserved ⟨_, .refl, initial ownerId tables now⟩

end Refines

section Writes

variable {before after : Tables} {ownerId : String} {lease : ℕ} {clock : Clock}

/-- The rows of other identities are as they were. -/
structure Spares (ownerId : String) (before after : Tables) : Prop where
  active : ∀ generationId row, before.active.row generationId = some row →
    row.ownerId ≠ ownerId → after.active.row generationId = some row
  unresolved : ∀ generationId row, before.unresolved.row generationId = some row →
    row.ownerId ≠ ownerId → after.unresolved.row generationId = some row

theorem Spares.refl (ownerId : String) (tables : Tables) : Spares ownerId tables tables :=
  ⟨fun _ _ stored _ => stored, fun _ _ stored _ => stored⟩

theorem pollOwner_spares {poll : OwnerPoll}
    (committed : before.pollOwner ownerId lease clock = .ok (after, poll)) :
    Spares ownerId before after := by
  unfold Tables.pollOwner at committed
  obtain ⟨_, _, committed⟩ := bind_eq_ok.mp committed
  obtain ⟨_, _, committed⟩ := bind_eq_ok.mp committed
  cases committed
  refine ⟨fun generationId row stored other => ?_, fun _ _ stored _ => stored⟩
  rw [row_adjust, stored, map_some, if_neg fun renews => other renews.1]

theorem settle_spares {generationId : String} {disposition : RequestCompletionDisposition}
    {abandonIf : Option Bool}
    (committed : before.settle generationId ownerId disposition abandonIf clock = .ok after) :
    Spares ownerId before after := by
  have deactivated : ∀ row, before.active.row generationId = some row → row.ownerId = ownerId →
      Spares ownerId before (before.deactivate generationId) := by
    intro row stored owned
    refine ⟨fun other row' stored' different => ?_, fun _ _ stored _ => stored⟩
    unfold Tables.deactivate
    rw [row_keep_key, if_pos, stored']
    rintro rfl
    rw [stored] at stored'
    cases stored'
    exact different owned
  obtain ⟨_, _, committed⟩ := bind_eq_ok.mp committed
  obtain ⟨_, _, committed⟩ := bind_eq_ok.mp committed
  dsimp only at committed
  split at committed
  · cases committed
    exact Spares.refl ownerId before
  · cases committed
  · rename_i row found _
    obtain ⟨stored, owned⟩ := filter_eq_some_iff.mp found
    have spares := deactivated row stored (of_decide_eq_true owned)
    obtain ⟨_, _, committed⟩ := bind_eq_ok.mp committed
    split at committed
    · obtain ⟨absent, committed⟩ := require_bind_eq_ok.mp committed
      cases committed
      refine ⟨spares.active, fun other row' stored' different => ?_⟩
      unfold Tables.retire
      rw [row_insert_of_ne]
      · exact stored'
      · rintro rfl
        rw [absent] at stored'
        cases stored'
    · cases committed
      exact spares
  · rename_i row _ found
    obtain ⟨stored, owned⟩ := filter_eq_some_iff.mp found
    obtain ⟨_, _, committed⟩ := bind_eq_ok.mp committed
    split at committed
    · cases committed
      exact Spares.refl ownerId before
    · cases committed
      refine ⟨fun _ _ stored _ => stored, fun other row' stored' different => ?_⟩
      unfold Tables.resolve
      dsimp only
      rw [row_keep_key, if_pos, stored']
      rintro rfl
      rw [stored] at stored'
      cases stored'
      exact different (of_decide_eq_true owned)

theorem transact_spares {Result : Type} {reply : Reply}
    {transaction : Except InvocationError (Tables × Result)}
    (spares : ∀ after result, transaction = .ok (after, result) → Spares ownerId before after) :
    Spares ownerId before (transact before reply transaction).1 := by
  unfold transact
  split
  · exact spares _ _ rfl
  · exact spares _ _ rfl
  all_goals exact Spares.refl ownerId before

def issuedFor (system : RegistrySystem) : Action → Option String
  | .renewRows _ _ => (system.registry.heartbeat.bind (·.inFlight)).map (·.ownerId)
  | .settleRows key _ _ => (system.registry.cleanups.row key).map (·.ownerId)
  | .abandonRow ownerId _ _ => some ownerId
  | _ => none

/-- What a heartbeat or a settlement writes is about the identity that it was issued for. -/
theorem issued_spares {action : Action} {stepped : RegistrySystem}
    (issued : issuedFor system action = some ownerId)
    (steps : system.step config draw action = some stepped) :
    Spares ownerId system.tables stepped.tables := by
  cases action with
  | renewRows reply clock =>
    obtain ⟨flight, flies, rfl⟩ := map_eq_some_iff.mp issued
    obtain ⟨heartbeat, beats, flies⟩ := bind_eq_some_iff.mp flies
    simp only [step, renewRows, beats, flies, bind_eq_bind, bind_some] at steps
    split_ifs at steps
    cases steps
    exact transact_spares fun after poll committed => pollOwner_spares committed
  | settleRows key reply clock =>
    obtain ⟨settlement, running, rfl⟩ := map_eq_some_iff.mp issued
    simp only [step, settleRows, running, bind_eq_bind, bind_some] at steps
    split at steps
    · cases steps
      refine transact_spares fun after _ committed => ?_
      obtain ⟨settled, went, same⟩ := map_eq_ok.mp committed
      cases same
      exact settle_spares went
    · cases steps
  | abandonRow identity reply clock =>
    cases issued
    obtain ⟨⟨others, found⟩, _, steps⟩ := bind_eq_some_iff.mp steps
    dsimp only at steps
    split at steps
    · rename_i generationId rest _
      have spares : Spares ownerId system.tables (transact system.tables reply
          ((system.tables.settle generationId ownerId .abandoned none clock).map (·, ()))).1 := by
        refine transact_spares fun after _ committed => ?_
        obtain ⟨settled, went, same⟩ := map_eq_ok.mp committed
        cases same
        exact settle_spares went
      split at steps
      all_goals
        cases steps
        exact spares
    · cases steps
  | start | register | resume | insertRow | readOwner | deliver | completeSoon | beginSettlement
  | endSettlement | beginRenewal | publishRenewal | exitHeartbeat | relay | peer | close
  | abandonOwners | readAbandoned | endAbandonment | stopHeartbeat | endClose => cases issued

end Writes

/-- **Fenced owners stay fenced.** In every run of a registry, each owner takes the lease under an
identity of its own, a generation is admitted under the identity that holds the lease and never
lapsed, and before that all generations of lapsed identities that had not begun to end were told to
stop. What a heartbeat or a settlement writes spares the rows of the other identities. -/
theorem fenced_owner_stays_fenced {ownerId : String} {tables : Tables} {now : ℕ}
    {labels : List (Draw × Action)}
    (run : Transition.Run (RegistrySystem.Steps config)
      (RegistrySystem.initial ownerId tables now) labels system) :
    Tenure.Fenced system.registry.history ∧
      ∀ label next issued, RegistrySystem.Steps config system label next →
        issuedFor system label.2 = some issued → Spares issued system.tables next.tables := by
  constructor
  · obtain ⟨state, moves, refines⟩ := Refines.run run
    rw [← refines.mirrors.history]
    exact ((Tenure.Valid.initial ownerId ∅ ∅).run moves).fenced
  · intro label next issued steps issues
    obtain ⟨_, _, stepped⟩ := steps
    obtain ⟨stepped, went, rfl⟩ := map_eq_some_iff.mp stepped
    have spares := issued_spares issues went
    exact ⟨spares.active, spares.unresolved⟩

section Sampled

/-- A step as a function. -/
def RegistrySystem.advance (config : Config) (before : RegistrySystem) (label : Draw × Action) :
    Option RegistrySystem :=
  if before.now ≤ label.1.now ∧ label.1.ownerId ∉ before.drawn ∧
      label.1.generationId ∉ before.drawn ∧ label.1.ownerId ≠ label.1.generationId then
    (before.step config label.1 label.2).map fun after =>
      { after with
        now := label.1.now
        drawn := label.1.ownerId :: label.1.generationId :: before.drawn }
  else none

theorem steps_of_advance {label : Draw × Action} {next : RegistrySystem}
    (advanced : system.advance config label = some next) :
    RegistrySystem.Steps config system label next := by
  unfold advance at advanced
  split_ifs at advanced with allowed
  exact ⟨allowed.1, allowed.2, advanced⟩

def numbered (first : ℕ) : List (ℕ × Action) → List (Draw × Action)
  | [] => []
  | (now, action) :: rest =>
    (⟨now, "owner " ++ toString first, "generation " ++ toString first, true⟩, action) ::
      numbered (first + 1) rest

def sampleConfig : Config := ⟨.standard, 10, fun _ => "agent"⟩

def sampleStart : RegistrySystem :=
  .initial "owner 0" ⟨.empty, .empty, .empty, ⟨.empty, .empty, .empty⟩⟩ 0

/-- A registration that is the owner's only generation. -/
def registersAlone (now task : ℕ) (key : Key) : List (ℕ × Action) :=
  [(now, .register task key), (now, .resume task), (now, .insertRow task .arrives fun _ => now),
    (now, .resume task), (now, .readOwner task .arrives fun _ => now), (now, .resume task)]

/-- Two generations are admitted and one begins to end. The heartbeat fails until the lease lapsed,
then it renews a new identity, which admits a generation. -/
def lapsedLabels : List (Draw × Action) :=
  numbered 1 <|
    [(0, .start)] ++ registersAlone 1 1 ⟨0, "first", 1⟩ ++
    [(1, .register 2 ⟨0, "second", 2⟩), (1, .resume 2), (1, .insertRow 2 .arrives fun _ => 1),
      (1, .resume 2), (2, .completeSoon ⟨0, "first", 1⟩ .completed), (3, .beginRenewal),
      (4, .renewRows (.fails .ordinary) fun _ => 4), (5, .publishRenewal), (20, .relay),
      (20, .relay), (20, .relay), (21, .beginRenewal), (21, .renewRows .arrives fun _ => 21),
      (22, .publishRenewal), (22, .relay)] ++ registersAlone 23 3 ⟨0, "third", 3⟩

theorem run_lapsedLabels : ∃ last, Transition.Run (RegistrySystem.Steps sampleConfig) sampleStart
    lapsedLabels last ∧ last.registry.history =
      [.admitted "generation 24" "owner 16", .held "owner 16", .told "generation 9",
        .lapsed "owner 0", .finishing "generation 3", .admitted "generation 9" "owner 0",
        .admitted "generation 3" "owner 0", .held "owner 0"] := by
  have computed : (lapsedLabels.foldlM (advance sampleConfig) sampleStart).map
      (·.registry.history) = some
        [.admitted "generation 24" "owner 16", .held "owner 16", .told "generation 9",
          .lapsed "owner 0", .finishing "generation 3", .admitted "generation 9" "owner 0",
          .admitted "generation 3" "owner 0", .held "owner 0"] := by decide +kernel
  obtain ⟨last, replayed, history⟩ := map_eq_some_iff.mp computed
  have run := Transition.Run.of_foldlM replayed
  exact ⟨last, run.mono fun _ _ _ advanced => steps_of_advance advanced, history⟩

/-- A generation is admitted under a new identity, and one of the lapsed identity was told to stop
by then. -/
theorem fenced_owner_stays_fenced_lapsed : ∃ last : RegistrySystem,
    .admitted "generation 24" "owner 16" ∈ last.registry.history ∧
      .lapsed "owner 0" ∈ last.registry.history ∧ Tenure.Fenced last.registry.history := by
  obtain ⟨last, run, history⟩ := run_lapsedLabels
  refine ⟨last, ?_, ?_, (fenced_owner_stays_fenced run).1⟩
  · rw [history]
    decide
  · rw [history]
    decide

/-- The generation that began to end before its owner's lease lapsed is not told to stop. -/
theorem finishing_generation_not_told : ∃ labels last,
    Transition.Run (RegistrySystem.Steps sampleConfig) sampleStart labels last ∧
      ∃ since before, last.registry.history = since ++ .lapsed "owner 0" :: before ∧
        .admitted "generation 3" "owner 0" ∈ before ∧
        .admitted "generation 24" "owner 16" ∈ since ∧
        .told "generation 3" ∉ last.registry.history := by
  obtain ⟨last, run, history⟩ := run_lapsedLabels
  refine ⟨lapsedLabels, last, run,
    [.admitted "generation 24" "owner 16", .held "owner 16", .told "generation 9"],
    [.finishing "generation 3", .admitted "generation 9" "owner 0",
      .admitted "generation 3" "owner 0", .held "owner 0"], history, ?_, ?_, ?_⟩
  · decide
  · decide
  · rw [history]
    decide

end Sampled

end Kestrel.Stop.Invocation
