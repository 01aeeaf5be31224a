import Kestrel.Spawn.AuthorityBirths

/-!
# No slot is lost or doubled

Over every interleaving of processes that may die anywhere, the claims given out are distinct and
within the cap, a born child that was neither retired nor withdrawn is denied or recorded, and a
retired record stays. Distinctness alone needs a condition: `record_active` does not look at the
pending reservations.
-/

namespace Kestrel.Spawn.Authority

open List Registry World Transition Option

def World.Steps (host : Host) (world : World) (action : Step) (after : World) : Prop :=
  world.step host action = some after

def World.Careful (host : Host) (world : World) : Step → Prop
  | .recordActive activation _ =>
    world.registry.records.get activation.childDid = none →
      world.registry.collision host activation.childName activation.config = false →
      world.registry.pendingCollision host activation.childName activation.config = false
  | _ => True

def Step.Passes (limit : ℕ) : Step → Prop
  | .reservePending _ _ cap => cap = some limit
  | .recordActive _ cap => cap = some limit
  | _ => True

inductive World.Slots (host : Host) (world : World) (action : Step) (registry : Registry) : Prop
  | frees (frees : Registry.Frees host world.registry registry)
  | takes (claim : Claim) (takes : Registry.Takes host world.registry registry claim)
      (below : ∀ limit, action.Passes limit → world.registry.authoritySlots < limit)
      (fresh : world.Careful host action →
        ∀ other ∈ world.registry.occupied host, ¬ other.Meets claim)

structure World.Progress (host : Host) (world : World) (action : Step) (after : World) : Prop where
  sound : after.Sound host
  slots : world.Slots host action after.registry
  final : Registry.KeepsFinal world.registry after.registry

namespace World

variable {host : Host} {world after : World} {action : Step}

theorem Progress.of_registry (sound : after.Sound host)
    (same : after.registry = world.registry) : world.Progress host action after where
  sound := sound
  slots := by
    rw [same]
    exact .frees (.refl _)
  final := by
    rw [same]
    exact .refl _

theorem Progress.of_keeps {registry : Registry} (sound : world.Sound host)
    (keeps : Keeps host world.registry registry) :
    world.Progress host action { world with registry := registry } where
  sound := sound.keeps keeps
  slots := .frees keeps.frees
  final := keeps.final

variable {process : ℕ} {sidecar : Sidecar} {reservationId childName : String}

/-! ## Steps on sidecars -/

section

variable (sound : world.Sound host)

include sound

theorem Progress.openSidecar (taken : world.step host (.openSidecar process sidecar) = some after) :
    world.Progress host (.openSidecar process sidecar) after := by
  cases sidecar with
  | pending reservationId =>
    simp only [step, ite_none_left_eq_some, Option.some.injEq] at taken
    obtain ⟨fresh, rfl⟩ := taken
    refine .of_registry (sound.sidecars rfl rfl rfl rfl rfl ?_ ?_) rfl
    · intro other third written engaged
      by_cases same : Sidecar.pending other = .pending reservationId
      · cases same
        exact absurd ((sound.custody reservationId).drawn fresh).1 written
      · rwa [Engages, openSidecar, holding_setHolding_of_ne same, holding_setFile] at engaged
    · intro other
      by_cases same : other = reservationId
      · subst same
        exact (sound.custody other).openFresh fresh
      · exact ((sound.custody other).draw reservationId).openSidecar (by simpa using same)
  | provisional childDid =>
    simp only [step] at taken
    split at taken
    · cases taken
      refine .of_registry (sound.sidecars rfl rfl rfl rfl rfl ?_ ?_) rfl
      · intro other third _ engaged
        rwa [Engages, openSidecar, holding_setHolding_of_ne (by simp), holding_setFile]
          at engaged
      · intro other
        exact (sound.custody other).openSidecar (by simp)
    · cases taken
      exact .of_registry sound rfl

theorem Progress.lockSidecar (taken : world.step host (.lockSidecar process sidecar) = some after) :
    world.Progress host (.lockSidecar process sidecar) after := by
  simp only [step] at taken
  split at taken
  · rename_i inode held
    obtain ⟨locked, claimed, rfl⟩ := map_eq_some_iff.mp taken
    refine .of_registry (sound.sidecars rfl rfl rfl rfl rfl ?_ ?_) rfl
    · intro other third _ engaged
      by_cases same : Sidecar.pending other = sidecar
      · subst same
        by_cases this : third = process
        · subst this
          rw [Engages, held]
          simp
        · rwa [Engages, holding_setHolding_of_other this, holding_setFile] at engaged
      · rwa [Engages, holding_setHolding_of_ne same, holding_setFile] at engaged
    · intro other
      exact (sound.custody other).lockSidecar held claimed
  · cases taken

theorem Progress.release {unlink : Bool}
    (taken : world.step host (.release process sidecar unlink) = some after) :
    world.Progress host (.release process sidecar unlink) after := by
  simp only [step] at taken
  split at taken
  · rename_i inode held
    cases taken
    refine .of_registry (sound.sidecars ?_ ?_ ?_ ?_ ?_ ?_ ?_) ?_
    · cases unlink <;> rfl
    · cases unlink <;> rfl
    · cases unlink <;> rfl
    · cases unlink <;> rfl
    · cases unlink <;> rfl
    · intro other third _ engaged
      by_cases this : third = process
      · subst this
        by_cases same : Sidecar.pending other = sidecar
        · subst same
          exact absurd holding_release_self engaged
        · rwa [Engages, holding_release_of_ne same] at engaged
      · rwa [Engages, holding_release_of_other this] at engaged
    · intro other
      exact (sound.custody other).release held
    · cases unlink <;> rfl
  · cases taken
    exact .of_registry sound rfl

theorem Progress.dropClaim (taken : world.step host (.dropClaim process) = some after) :
    world.Progress host (.dropClaim process) after := by
  simp only [step] at taken
  split at taken
  · cases taken
  · rename_i sidecar inode rest held
    cases taken
    refine .of_registry (sound.sidecars rfl rfl rfl rfl rfl ?_ ?_) rfl
    · intro other third _ engaged
      rwa [Engages, holding_dropClaim] at engaged
    · intro other
      exact (sound.custody other).dropClaim held

theorem Progress.unlinkSidecar
    (taken : world.step host (.unlinkSidecar process sidecar) = some after) :
    world.Progress host (.unlinkSidecar process sidecar) after := by
  simp only [step, ite_none_right_eq_some, Option.some.injEq] at taken
  obtain ⟨owed, rfl⟩ := taken
  refine .of_registry (sound.sidecars rfl rfl rfl rfl rfl ?_ ?_) rfl
  · intro other third _ engaged
    rwa [Engages, holding_unlinkSidecar] at engaged
  · intro other
    exact (sound.custody other).unlinkSidecar owed

theorem Progress.die : world.Progress host (.die process) (world.die process) := by
  refine .of_registry (sound.sidecars rfl rfl rfl rfl rfl ?_ ?_) rfl
  · intro other third _ engaged
    exact (engages_die engaged).2
  · intro other
    exact (sound.custody other).die

end

/-! ## Mutations -/

theorem Progress.reservePending {reservation : Reservation} {cap : Option ℕ}
    (sound : world.Sound host)
    (taken : world.step host (.reservePending process reservation cap) = some after) :
    world.Progress host (.reservePending process reservation cap) after := by
  simp only [step] at taken
  split at taken
  · rename_i inode held unwritten
    cases taken
    cases result : world.registry.reservePending host reservation cap with
    | error _ => exact .of_registry sound rfl
    | ok written =>
      obtain ⟨free, pendingFree, below, same⟩ := reservePending_eq_ok result
      have absent : world.registry.pending.get reservation.reservationId = none := by
        by_contra present
        obtain ⟨other, found⟩ := ne_none_iff_exists'.mp present
        have reserved := ((sound.settled _).pending other found).1
        rw [unwritten] at reserved
        cases reserved
      obtain ⟨value, registry⟩ := written
      subst same
      refine ⟨sound.reserved held unwritten, .takes (reservation.claim host)
        (takes_pending absent) ?_ ?_, fun _ _ found _ => found⟩
      · intro limit passed
        exact below limit (by simp [show cap = some limit from passed])
      · intro _ other member
        obtain pending | recorded := mem_append.mp member
        · exact meets_of_pendingCollision pendingFree other pending
        · exact meets_of_collision free other recorded
  · cases taken

theorem Progress.birth (sound : world.Sound host)
    (taken : world.step host (.birth process reservationId) = some after) :
    world.Progress host (.birth process reservationId) after := by
  simp only [step, ite_none_right_eq_some, map_eq_some_iff] at taken
  obtain ⟨bears, reservation, issued, rfl⟩ := taken
  exact .of_registry (sound.birth bears issued) rfl

/-- A reconciliation goes through its candidates one at a time. -/
theorem Progress.of_foldl {each : World → String → World} (values : List String)
    (kept : ∀ world : World, world.Sound host → ∀ value, (each world value).Sound host ∧
      Frees host world.registry (each world value).registry ∧
      KeepsFinal world.registry (each world value).registry)
    (sound : world.Sound host) : world.Progress host action (values.foldl each world) := by
  have folded : ∀ (values : List String) (world : World), world.Sound host →
      (values.foldl each world).Sound host ∧
        Frees host world.registry (values.foldl each world).registry ∧
        KeepsFinal world.registry (values.foldl each world).registry := by
    intro values
    induction values with
    | nil => exact fun world sound => ⟨sound, .refl _, .refl _⟩
    | cons value values ih =>
      intro world sound
      obtain ⟨sound, frees, final⟩ := kept world sound value
      obtain ⟨sound', frees', final'⟩ := ih _ sound
      exact ⟨sound', frees.trans frees', final.trans final'⟩
  obtain ⟨sound, frees, final⟩ := folded values world sound
  exact ⟨sound, .frees frees, final⟩

section

variable (sound : world.Sound host)

include sound

theorem Progress.withdrawPending
    (taken : world.step host (.withdrawPending reservationId childName) = some after) :
    world.Progress host (.withdrawPending reservationId childName) after := by
  cases taken
  cases result : world.registry.withdrawPending reservationId childName with
  | error _ => exact .of_registry sound rfl
  | ok written =>
    obtain ⟨⟨reservation, found⟩, same⟩ := withdrawPending_eq_ok result
    obtain ⟨value, registry⟩ := written
    subst same
    exact ⟨sound.left found (.inl rfl), .frees frees_erase_pending, fun _ _ found _ => found⟩

theorem Progress.promotePending {promotion : Promotion}
    (taken : world.step host (.promotePending process promotion) = some after) :
    world.Progress host (.promotePending process promotion) after := by
  simp only [step] at taken
  split at taken
  · cases taken
    cases result : world.registry.promotePending host promotion with
    | error _ => exact .of_registry sound rfl
    | ok written =>
      obtain ⟨reservation, found, fits, absent, same⟩ := promotePending_eq_ok result
      obtain ⟨value, registry⟩ := written
      subst same
      exact ⟨sound.promoted found fits absent, .frees (frees_promotion found fits absent),
        keepsFinal_new promotion.witness absent⟩
  · cases taken

theorem Progress.recordActive {activation : Activation} {cap : Option ℕ}
    (taken : world.step host (.recordActive activation cap) = some after) :
    world.Progress host (.recordActive activation cap) after := by
  cases taken
  cases result : world.registry.recordActive host activation cap with
  | error _ => exact .of_registry sound rfl
  | ok written =>
    obtain ⟨value, registry⟩ := written
    obtain same | ⟨absent, free, below, same⟩ := recordActive_eq_ok result
    · subst same
      exact .of_registry sound rfl
    · subst same
      refine ⟨sound.recorded activation.witness absent, .takes (activation.witness.claim host)
          (takes_record _ activation.witness absent rfl) ?_ ?_,
        keepsFinal_new activation.witness absent⟩
      · intro limit passed
        exact below limit (by simp [show cap = some limit from passed])
      · intro careful other member
        obtain pending | recorded := mem_append.mp member
        · exact meets_of_pendingCollision (careful absent free) other pending
        · exact meets_of_collision free other recorded

theorem Progress.withdrawActive {childDid : String} {mandate : SpawnMandate}
    (taken : world.step host (.withdrawActive childName childDid mandate) = some after) :
    world.Progress host (.withdrawActive childName childDid mandate) after := by
  cases taken
  cases result : world.registry.withdrawActive childName childDid mandate with
  | error _ => exact .of_registry sound rfl
  | ok written =>
    obtain ⟨value, registry⟩ := written
    obtain ⟨_, same⟩ | ⟨existing, found, active, same⟩ := withdrawActive_eq_ok result
    · subst same
      exact ⟨sound.closed (.inl rfl) rfl (fun _ _ => rfl), .frees (.refl _), .refl _⟩
    · subst same
      exact ⟨sound.closed (.inl rfl) rfl (fun _ distinct => claimOf_erase_of_ne distinct),
        .frees frees_erase_record, keepsFinal_erase found (by simp [active])⟩

theorem Progress.retire {childDid : String}
    (taken : world.step host (.retire childName childDid) = some after) :
    world.Progress host (.retire childName childDid) after := by
  cases taken
  cases result : world.registry.retire host childName childDid with
  | error _ => exact .of_registry sound rfl
  | ok written =>
    obtain ⟨value, registry⟩ := written
    obtain same | ⟨existing, found, live, same⟩ := retire_eq_ok result
    · subst same
      exact ⟨sound.closed (.inr rfl) rfl (fun _ _ => rfl), .frees (.refl _), .refl _⟩
    · subst same
      have named := Dictionary.key_of_get found
      have known := found
      rw [← named] at known
      refine ⟨sound.closed (.inr rfl) rfl ?_, .frees (frees_record
        (existing.withState .retired) known ?_),
        keepsFinal_put (existing.withState .retired) known live⟩
      · intro other distinct
        refine claimOf_put_of_ne (existing.withState .retired) ?_
        rw [← named] at distinct
        exact distinct
      · rw [claims, if_neg (by simp [Witness.live, Witness.withState])]
        exact nil_sublist _

theorem Sound.progress (taken : world.step host action = some after) :
    world.Progress host action after := by
  cases action with
  | openSidecar process sidecar => exact .openSidecar sound taken
  | lockSidecar process sidecar => exact .lockSidecar sound taken
  | reservePending process reservation cap => exact .reservePending sound taken
  | birth process reservationId => exact .birth sound taken
  | reapOrphaned process reservationIds obscured =>
    cases taken
    exact .of_foldl reservationIds (fun _ sound _ => sound.reapOrphaned) sound
  | withdrawPending reservationId childName => exact .withdrawPending sound taken
  | promotePending process promotion => exact .promotePending sound taken
  | admitOrphaned process childDids unreadable =>
    cases taken
    exact .of_foldl childDids (fun _ sound _ => sound.admitOrphaned) sound
  | recordActive activation cap => exact .recordActive sound taken
  | commitActiveReceipt childName childDid expected committed =>
    cases taken
    cases result : world.registry.commitActiveReceipt host childName childDid expected
        committed with
    | error _ => exact .of_registry sound rfl
    | ok written =>
      exact .of_keeps sound (keeps_commitActiveReceipt result)
  | withdrawActive childName childDid mandate => exact .withdrawActive sound taken
  | admitRetirements targets =>
    cases taken
    cases result : world.registry.admitRetirements host targets with
    | error _ => exact .of_registry sound rfl
    | ok written =>
      obtain ⟨value, registry⟩ := written
      exact .of_keeps sound (keeps_admitRetirements result)
  | cancelRetirement childName childDid =>
    cases taken
    cases result : world.registry.cancelRetirement host childName childDid with
    | error _ => exact .of_registry sound rfl
    | ok written =>
      exact .of_keeps sound (keeps_cancelRetirement result)
  | retire childName childDid => exact .retire sound taken
  | release process sidecar unlink => exact .release sound taken
  | dropClaim process => exact .dropClaim sound taken
  | unlinkSidecar process sidecar => exact .unlinkSidecar sound taken
  | die process =>
    cases taken
    exact .die sound

end

/-! ## Runs -/

theorem Sound.denied (sound : world.Sound host) (born : reservationId ∈ world.born)
    (kept : world.fate reservationId ≠ some .withdrawn)
    (unretired : world.fate reservationId ≠ some .retired) :
    ∃ reservation, world.issued reservationId = some reservation ∧
      reservation.claim host ∈ world.registry.occupied host := by
  have settled := sound.settled reservationId
  cases fate : world.fate reservationId with
  | none => exact absurd fate (settled.born born)
  | some fate' =>
    cases fate' with
    | reserved =>
      obtain ⟨reservation, found⟩ := settled.reserved fate
      exact ⟨reservation, (settled.pending reservation found).2, mem_occupied_of_pending found⟩
    | promoted childDid =>
      obtain ⟨reservation, issued, held⟩ := settled.promoted childDid fate
      exact ⟨reservation, issued, mem_occupied_of_claimOf held⟩
    | withdrawn => exact absurd fate kept
    | retired => exact absurd fate unretired
    | reaped => exact absurd born (settled.reaped fate).1

theorem Distinct.step (distinct : world.registry.Distinct host)
    (careful : world.Careful host action) (progress : world.Progress host action after) :
    after.registry.Distinct host := by
  cases progress.slots with
  | frees frees => exact distinct.of_frees frees
  | takes claim takes _ fresh => exact distinct.of_takes takes (fresh careful)

theorem Sound.keepsFinal {actions : List Step} (sound : world.Sound host)
    (run : Run (Steps host) world actions after) :
    KeepsFinal world.registry after.registry := by
  have kept : after.Sound host ∧ KeepsFinal world.registry after.registry := by
    refine @Run.invariant _ _ _ (fun reached => reached.Sound host ∧
      KeepsFinal world.registry reached.registry) ?_ _ _ _ ⟨sound, .refl _⟩ run
    intro middle action next before taken
    have progress := before.1.progress taken
    exact ⟨progress.sound, before.2.trans progress.final⟩
  exact kept.2

theorem Sound.capped {limit : ℕ} {actions : List Step}
    (run : Run (Steps host) .initial actions world)
    (passes : ∀ action ∈ actions, action.Passes limit) :
    world.registry.authoritySlots ≤ limit := by
  have kept : world.Sound host ∧ ((∀ action ∈ actions, action.Passes limit) →
      world.registry.authoritySlots ≤ limit) := by
    refine @Run.history _ _ _ (fun actions reached => reached.Sound host ∧
      ((∀ action ∈ actions, action.Passes limit) →
        reached.registry.authoritySlots ≤ limit)) ?_ _ _ _
      ⟨.initial, fun _ => Nat.zero_le _⟩ run
    intro done middle action next before taken
    have progress := before.1.progress taken
    refine ⟨progress.sound, ?_⟩
    intro passes
    have slots := before.2 fun other member => passes other (mem_append_left _ member)
    have passed := passes action (mem_append_right _ (mem_singleton_self _))
    rw [← length_occupied host] at slots ⊢
    cases progress.slots with
    | frees frees => exact Nat.le_trans frees.length_le slots
    | takes claim takes below _ =>
      have room := below limit passed
      rw [← length_occupied host] at room
      rw [takes.length_eq, length_cons]
      exact room
  exact kept.2 passes

end World

/-- The promises of the registry after a run. -/
structure World.Exclusive (host : Host) (actions : List Step) (world : World) : Prop where
  /-- The names and the data slots given out are distinct. -/
  distinct : world.registry.Distinct host
  /-- A cap that every call passes is kept. -/
  capped : ∀ limit, (∀ action ∈ actions, action.Passes limit) →
    world.registry.authoritySlots ≤ limit
  /-- What was born and neither retired nor withdrawn is denied or recorded. -/
  denied : ∀ reservationId ∈ world.born, world.fate reservationId ≠ some .withdrawn →
    world.fate reservationId ≠ some .retired →
    ∃ reservation, world.issued reservationId = some reservation ∧
      reservation.claim host ∈ world.registry.occupied host
  /-- A retired record never changes. -/
  final : ∀ later after, Transition.Run (World.Steps host) world later after →
    Registry.KeepsFinal world.registry after.registry

/-- In every run in which no child is recorded into the slot of a pending reservation, no slot is
lost or doubled. -/
theorem authority_slots_exclusive (host : Host) {actions : List Step} {world : World}
    (run : Transition.Run (Transition.Guarded (World.Steps host) (World.Careful host))
      .initial actions world) : world.Exclusive host actions := by
  have kept : world.Sound host ∧ world.registry.Distinct host := by
    refine @Transition.invariant_of_guarded _ _ _ _
      (fun reached => reached.Sound host ∧ reached.registry.Distinct host) ?_ _ _ _
      ⟨.initial, ⟨nodup_nil, nodup_nil⟩⟩ run
    intro middle action next before careful taken
    have progress := before.1.progress taken
    exact ⟨progress.sound, World.Distinct.step before.2 careful progress⟩
  have free := run.mono fun _ _ _ guarded => guarded.2
  exact
    { distinct := kept.2
      capped := fun _ => World.Sound.capped free
      denied := fun _ born kept' unretired => kept.1.denied born kept' unretired
      final := fun _ _ later => kept.1.keepsFinal later }

section Samples

/-- A host whose names compare by their lower-case letters. -/
def Host.sample : Host := ⟨String.toLower, id⟩

def SpawnMandate.sample : SpawnMandate where
  parentDid := "did:root"
  childDid := none
  scope :=
    { constitutionHash := "", additionalConstraints := "\x7b\x7d", budgetAllocation := "0.0",
      ttlSeconds := 3600, featuresAllowed := [], purpose := "", maxChildDepth := 0 }
  authorityCommitted := true
  parentSignature := none
  createdAt := 0

def Reservation.sample : Reservation where
  reservationId := "r1"
  childName := "Scout"
  parentDid := "did:root"
  mandate := .sample
  config := ⟨"/base/agent_data/scout"⟩

def SpawnMandate.signed : SpawnMandate :=
  { SpawnMandate.sample with childDid := some "did:scout", parentSignature := some "s" }

def Registry.Promotion.sample : Registry.Promotion where
  reservationId := "r1"
  childName := "Scout"
  childDid := "did:scout"
  mandate := .signed
  config := ⟨"/base/agent_data/scout"⟩
  proposalCreatedAt := 0

/-- A child is reserved, born and promoted. -/
def sampleSpawn : List Step :=
  [.openSidecar 0 (.pending "r1"), .lockSidecar 0 (.pending "r1"),
    .reservePending 0 .sample (some 1), .birth 0 "r1",
    .openSidecar 0 (.provisional "did:scout"), .lockSidecar 0 (.provisional "did:scout"),
    .promotePending 0 .sample, .release 0 (.pending "r1") true]

theorem authority_slots_exclusive_spawn :
    ∃ world, sampleSpawn.foldlM (World.step .sample) .initial = some world ∧
      world.born = ["r1"] ∧ world.registry.authoritySlots = 1 ∧
      world.Exclusive .sample sampleSpawn := by
  refine ⟨_, rfl, rfl, rfl, authority_slots_exclusive .sample
    (.cons ⟨trivial, rfl⟩ (.cons ⟨trivial, rfl⟩ (.cons ⟨trivial, rfl⟩ (.cons ⟨trivial, rfl⟩
      (.cons ⟨trivial, rfl⟩ (.cons ⟨trivial, rfl⟩ (.cons ⟨trivial, rfl⟩ (.cons ⟨trivial, rfl⟩
        (.nil _)))))))))⟩

def Registry.Activation.sample : Registry.Activation where
  childName := "scout"
  childDid := "did:legacy"
  mandate := { SpawnMandate.signed with childDid := some "did:legacy" }
  config := ⟨"/base/agent_data/scout"⟩
  proposalCreatedAt := none

/-- While a producer holds a reservation, another process records a legacy child into its slot. -/
def sampleBackfill : List Step :=
  [.openSidecar 0 (.pending "r1"), .lockSidecar 0 (.pending "r1"),
    .reservePending 0 .sample none, .recordActive .sample none]

/-- A name and a data slot are given out twice. -/
theorem recorded_child_doubles_slot :
    ∃ world, Transition.Run (World.Steps .sample) .initial sampleBackfill world ∧
      ¬ world.registry.Distinct .sample := by
  refine ⟨_, .of_foldlM rfl, ?_⟩
  intro distinct
  exact absurd distinct.dataDirs (by decide +kernel)

end Samples

end Kestrel.Spawn.Authority
