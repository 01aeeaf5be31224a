import Kestrel.Storage.SyncService
import Mathlib.Data.List.Basic

/-!
# What an unchanged answer covers

A state of the service is sound when its fingerprint is one the database had, and when, should the
database still have it, every configured target that it lists holds the present content. A write
makes every recorded fingerprint stale, so soundness is endangered only by what is recorded and by
which targets are configured.
-/

namespace Kestrel.Storage.Sync

open List Option Function SyncState

variable {Fingerprint : Type} {fingerprint : ℕ → Fingerprint}
  {service after : SyncService Fingerprint}

namespace SyncService

/-- A destination holds a snapshot made from the present content. -/
def Holds (service : SyncService Fingerprint) (destination : ℕ) : Prop :=
  ∃ upload ∈ service.uploads,
    upload.destination = destination ∧ service.content ≤ upload.content

def Remembers (service : SyncService Fingerprint) (state : SyncState Fingerprint) : Prop :=
  service.state = some state ∨ service.saved = some state

/-- A later service has the same content or more of it, and every upload made before. -/
structure Extends (service after : SyncService Fingerprint) : Prop where
  content : service.content ≤ after.content
  uploads : ∀ upload ∈ service.uploads, upload ∈ after.uploads

end SyncService

/-- What a state says is true of the database and of the targets it lists. -/
structure SyncState.Sound (fingerprint : ℕ → Fingerprint) (service : SyncService Fingerprint)
    (state : SyncState Fingerprint) : Prop where
  known : ∀ recorded, state.lastFingerprint = some recorded →
    ∃ content ≤ service.content, recorded = fingerprint content
  covered : state.lastFingerprint = some (fingerprint service.content) →
    ∀ target ∈ service.targets, target.name ∈ state.lastSnapshotTargets →
      service.Holds target.destination

/-- The uploads that the results of a pass report were made, from content read since it began. -/
structure Pass.Backed (uploads : List Upload) (since : ℕ) (pass : Pass Fingerprint) : Prop where
  results : ∀ entry ∈ pass.results, ∀ upload, entry.2.upload = some upload →
    upload ∈ uploads ∧ since ≤ upload.content
  transfer : ∀ transfer content, pass.transfer = some transfer →
    transfer.content = some content → since ≤ content ∧ (transfer.stored = true →
      { destination := transfer.target.destination, content := content } ∈ uploads)

/-- The pass is backed since the content whose fingerprint it took. -/
def Pass.Sound (fingerprint : ℕ → Fingerprint) (service : SyncService Fingerprint)
    (pass : Pass Fingerprint) : Prop :=
  ∃ since ≤ service.content, pass.Backed service.uploads since ∧
    ∀ started, pass.fingerprint = some started → started = fingerprint since

structure SyncService.Sound (fingerprint : ℕ → Fingerprint) (service : SyncService Fingerprint) :
    Prop where
  states : ∀ state, service.Remembers state → state.Sound fingerprint service
  passes : ∀ id pass, service.passes id = some pass → pass.Sound fingerprint service
  skips : ∀ entry ∈ service.policySkips, entry.2.upload = none

/-- A step that records no more than was uploaded: a recorded pass uploaded the present content to
each configured target that its results name, and a configured target takes a name that a current
state lists only where its destination holds the present content. -/
def SyncService.Careful (fingerprint : ℕ → Fingerprint) (service : SyncService Fingerprint) :
    Step → Prop
  | .addTarget target _ =>
    service.refusal target.trustTier = none → ∀ state, service.Remembers state →
      state.lastFingerprint = some (fingerprint service.content) →
      target.name ∈ state.lastSnapshotTargets → service.Holds target.destination
  | .record id readable _ =>
    ∀ pass, service.passes id = some pass → service.state.isSome = true →
      pass.fingerprint.isSome = true → pass.records = true →
      ∀ target ∈ service.targets, ∀ entry ∈ pass.results,
        entry.2.result.targetName = target.name → ∃ upload, entry.2.upload = some upload ∧
          upload.destination = target.destination ∧
          (readable = true → upload.content = service.content)
  | _ => True

/-! ## Frames -/

theorem Pass.Backed.mono {before uploads : List Upload} {since : ℕ} {pass : Pass Fingerprint}
    (backed : pass.Backed before since) (grown : ∀ upload ∈ before, upload ∈ uploads) :
    pass.Backed uploads since where
  results := by
    intro entry member upload reported
    obtain ⟨made, recent⟩ := backed.results entry member upload reported
    exact ⟨grown _ made, recent⟩
  transfer := by
    intro transfer content awaited read
    obtain ⟨recent, made⟩ := backed.transfer transfer content awaited read
    exact ⟨recent, fun stored => grown _ (made stored)⟩

theorem Pass.Sound.mono {pass : Pass Fingerprint} (sound : pass.Sound fingerprint service)
    (grown : service.Extends after) : pass.Sound fingerprint after := by
  obtain ⟨since, recent, backed, started⟩ := sound
  exact ⟨since, Nat.le_trans recent grown.content, backed.mono grown.uploads, started⟩

theorem SyncState.Sound.mono {state : SyncState Fingerprint}
    (sound : state.Sound fingerprint service) (content : after.content = service.content)
    (targets : ∀ target ∈ after.targets, target ∈ service.targets)
    (grown : service.Extends after) : state.Sound fingerprint after where
  known := by
    rw [content]
    exact sound.known
  covered := by
    intro current target member listed
    rw [content] at current
    obtain ⟨upload, made, reached, recent⟩ :=
      sound.covered current target (targets target member) listed
    exact ⟨upload, grown.uploads upload made, reached, by rw [content]; exact recent⟩

theorem SyncState.Sound.of_eq {state : SyncState Fingerprint}
    (sound : state.Sound fingerprint service) (content : after.content = service.content)
    (targets : after.targets = service.targets) (uploads : after.uploads = service.uploads) :
    state.Sound fingerprint after :=
  sound.mono content (by simp [targets])
    ⟨Nat.le_of_eq content.symm, by simp [uploads]⟩

theorem SyncState.Sound.fresh :
    (fresh : SyncState Fingerprint).Sound fingerprint service :=
  ⟨by simp [SyncState.fresh], by simp [SyncState.fresh]⟩

namespace SyncService

theorem Sound.initial : (initial : SyncService Fingerprint).Sound fingerprint where
  states := by simp [Remembers, SyncService.initial]
  passes := by simp [SyncService.initial]
  skips := by simp [SyncService.initial]

theorem Sound.frame (sound : service.Sound fingerprint)
    (content : after.content = service.content) (uploads : after.uploads = service.uploads)
    (targets : ∀ target ∈ after.targets, target ∈ service.targets)
    (remembered : ∀ state, after.Remembers state → service.Remembers state)
    (passes : ∀ id pass, after.passes id = some pass → pass.Sound fingerprint service)
    (skips : ∀ entry ∈ after.policySkips, entry.2.upload = none) :
    after.Sound fingerprint := by
  have grown : service.Extends after :=
    ⟨Nat.le_of_eq content.symm, fun upload made => by rwa [uploads]⟩
  exact
    { states := fun state known =>
        (sound.states state (remembered state known)).mono content targets grown
      passes := fun id pass found => (passes id pass found).mono grown
      skips := skips }

theorem Sound.write (injective : Injective fingerprint)
    (sound : service.Sound fingerprint) :
    ({ service with content := service.content + 1 } : SyncService Fingerprint).Sound
      fingerprint where
  states := by
    intro state remembered
    have before := sound.states state remembered
    refine ⟨?_, ?_⟩
    · intro recorded last
      obtain ⟨content, earlier, same⟩ := before.known recorded last
      exact ⟨content, Nat.le_succ_of_le earlier, same⟩
    · intro current
      obtain ⟨content, earlier, same⟩ := before.known _ current
      have present : service.content + 1 = content := injective same
      omega
  passes := fun id pass found =>
    (sound.passes id pass found).mono ⟨Nat.le_succ _, fun _ member => member⟩
  skips := sound.skips

/-! ## Targets -/

theorem mem_assign {table : List (String × Reported)} {name : String} {reported : Reported}
    {entry : String × Reported} (member : entry ∈ assign table name reported) :
    entry ∈ table ∨ entry = (name, reported) := by
  by_cases taken : table.any (·.1 == name) = true
  · rw [assign, if_pos taken, List.mem_map] at member
    obtain ⟨old, before, rfl⟩ := member
    by_cases same : (old.1 == name) = true
    · exact .inr (by rw [if_pos same])
    · exact .inl (by rwa [if_neg same])
  · rw [assign, if_neg taken, mem_append, mem_singleton] at member
    exact member

theorem Sound.recordPolicySkip (sound : service.Sound fingerprint) (name : String)
    (reason : Option String) (kind : String) :
    (service.recordPolicySkip name reason kind).Sound fingerprint :=
  sound.frame rfl rfl (fun _ member => member) (fun _ remembered => remembered) sound.passes (by
      intro entry member
      obtain before | rfl := mem_assign member
      · exact sound.skips entry before
      · rfl)

theorem Sound.addTarget {target : SyncTarget} {constructed : Bool}
    (sound : service.Sound fingerprint)
    (careful : service.Careful fingerprint (.addTarget target constructed)) :
    (service.addTarget target constructed).Sound fingerprint := by
  unfold SyncService.addTarget
  cases refused : service.refusal target.trustTier with
  | some decision => exact sound.recordPolicySkip _ _ _
  | none =>
    refine ⟨?_, sound.passes, sound.skips⟩
    intro state remembered
    have before := sound.states state remembered
    refine ⟨before.known, ?_⟩
    intro current other member listed
    rw [mem_append, mem_singleton] at member
    obtain old | rfl := member
    · exact before.covered current other old listed
    · exact careful refused state remembered current listed

theorem Sound.removeTarget (sound : service.Sound fingerprint) (name : String) :
    (service.removeTarget name).Sound fingerprint :=
  sound.frame rfl rfl (fun _ member => mem_of_mem_eraseP member)
    (fun _ remembered => remembered) sound.passes sound.skips

/-! ## The state file -/

theorem Sound.saveState (sound : service.Sound fingerprint) (disk : Disk) :
    (service.saveState disk).Sound fingerprint := by
  refine sound.frame rfl rfl (fun _ member => member) ?_ sound.passes sound.skips
  rintro state (held | read)
  · exact .inl held
  · unfold SyncService.saveState at read
    split at read
    · rename_i current
      exact .inl (current.trans read)
    · cases read
    · exact .inr read

theorem Sound.loadState (sound : service.Sound fingerprint) :
    service.loadState.Sound fingerprint where
  states := by
    rintro state (loaded | saved)
    · cases stored : service.saved with
      | none =>
        rw [SyncService.loadState, stored] at loaded
        cases loaded
        exact Sound.fresh
      | some other =>
        rw [SyncService.loadState, stored] at loaded
        cases loaded
        exact (sound.states _ (.inr stored)).of_eq rfl rfl rfl
    · exact (sound.states state (.inr saved)).of_eq rfl rfl rfl
  passes := sound.passes
  skips := sound.skips

theorem Sound.restart (sound : service.Sound fingerprint) (torn : Bool) :
    (service.restart torn).Sound fingerprint := by
  refine sound.frame rfl rfl ?_ ?_ ?_ ?_
  · simp [SyncService.restart]
  · rintro state (running | saved)
    · cases running
    · cases torn with
      | true => cases saved
      | false => exact .inr saved
  all_goals simp [SyncService.restart]

variable {pass : Pass Fingerprint} {id : ℕ} {transfer : Transfer}

/-! ## A pass -/

section

variable (sound : service.Sound fingerprint)

include sound

theorem Sound.setPass (id : ℕ) (new : pass.Sound fingerprint service) :
    (service.setPass id pass).Sound fingerprint := by
  refine sound.frame rfl rfl (fun _ member => member) (fun _ remembered => remembered)
    ?_ sound.skips
  intro other current found
  by_cases same : other = id
  · subst same
    have this : pass = current := by simpa [SyncService.setPass] using found
    subst this
    exact new
  · rw [SyncService.setPass] at found
    dsimp only at found
    rw [update_of_ne same] at found
    exact sound.passes other current found

theorem Sound.endPass (id : ℕ) : (service.endPass id).Sound fingerprint := by
  refine sound.frame rfl rfl (fun _ member => member) (fun _ remembered => remembered)
    ?_ sound.skips
  intro other current found
  by_cases same : other = id
  · subst same
    simp [SyncService.endPass] at found
  · rw [SyncService.endPass] at found
    dsimp only at found
    rw [update_of_ne same] at found
    exact sound.passes other current found

theorem Sound.forceSnapshot {started : Option Fingerprint} (id : ℕ) (changeAware : Bool)
    (taken : ∀ current, started = some current → current = fingerprint service.content) :
    (service.forceSnapshot id changeAware started).Sound fingerprint := by
  refine sound.setPass id ⟨service.content, Nat.le_refl _, ⟨?_, ?_⟩, taken⟩
  · intro entry member upload reported
    rw [sound.skips entry member] at reported
    cases reported
  · simp

theorem Sound.snapshotTarget {target : SyncTarget} (found : service.passes id = some pass) :
    (service.snapshotTarget id pass target).Sound fingerprint := by
  obtain ⟨since, recent, backed, started⟩ := sound.passes id pass found
  unfold SyncService.snapshotTarget
  cases service.refusal target.trustTier with
  | some decision =>
    refine (sound.recordPolicySkip _ _ _).setPass id ⟨since, recent, ⟨?_, ?_⟩, started⟩
    · intro entry member upload reported
      obtain before | rfl := mem_assign member
      · exact backed.results entry before upload reported
      · cases reported
    · exact backed.transfer
  | none =>
    refine sound.setPass id ⟨since, recent, ⟨backed.results, ?_⟩, started⟩
    intro transfer content awaited read
    cases awaited
    cases read

theorem Sound.settle {reported : Reported} (found : service.passes id = some pass)
    (awaited : pass.transfer = some transfer)
    (honest : ∀ upload, reported.upload = some upload → transfer.upload = some upload) :
    (service.settle id pass transfer reported).Sound fingerprint := by
  obtain ⟨since, recent, backed, started⟩ := sound.passes id pass found
  refine sound.setPass id ⟨since, recent, ⟨?_, ?_⟩, started⟩
  · intro entry member upload named
    obtain before | rfl := mem_assign member
    · exact backed.results entry before upload named
    · have made := honest upload named
      unfold Transfer.upload at made
      split at made
      · rename_i stored
        obtain ⟨content, read, rfl⟩ := map_eq_some_iff.mp made
        obtain ⟨after, uploaded⟩ := backed.transfer transfer content awaited read
        exact ⟨uploaded stored, after⟩
      · cases made
  · simp

theorem Sound.stamp : service.stamp.Sound fingerprint where
  states := by
    rintro state (stamped | saved)
    · obtain ⟨before, held, rfl⟩ := map_eq_some_iff.mp stamped
      have known := sound.states before (.inl held)
      exact ⟨known.known, known.covered⟩
    · have known := sound.states state (.inr saved)
      exact ⟨known.known, known.covered⟩
  passes := sound.passes
  skips := sound.skips

end

theorem Sound.finish {id : ℕ} {pass : Pass Fingerprint} {disk : Disk}
    (sound : service.Sound fingerprint) (found : service.passes id = some pass) :
    (service.finish id pass disk).Sound fingerprint := by
  have finished := sound.stamp.saveState disk
  unfold SyncService.finish
  by_cases aware : pass.changeAware = true
  · rw [if_pos aware]
    obtain ⟨since, recent, backed, started⟩ := sound.passes id pass found
    exact finished.setPass id ⟨since, recent, ⟨backed.results, backed.transfer⟩, started⟩
  · rw [if_neg aware]
    exact finished.endPass id

theorem mem_covered {name : String} : name ∈ pass.covered ↔
      ∃ entry ∈ pass.results, entry.2.result.success = true ∧ entry.2.result.targetName = name := by
  simp [Pass.covered, and_assoc]

theorem Sound.record {readable : Bool} {disk : Disk} (injective : Injective fingerprint)
    (sound : service.Sound fingerprint) (found : service.passes id = some pass)
    (careful : service.Careful fingerprint (.record id readable disk)) :
    (service.record fingerprint id pass readable disk).Sound fingerprint := by
  obtain ⟨since, recent, backed, taken⟩ := sound.passes id pass found
  unfold SyncService.record
  cases started : pass.fingerprint with
  | none => exact sound.endPass id
  | some start =>
    cases held : service.state with
    | none => exact sound.endPass id
    | some state =>
      dsimp only
      by_cases records : pass.records = true
      · rw [if_pos records]
        have began := taken start started
        refine Sound.endPass (Sound.saveState ?_ disk) id
        refine ⟨?_, sound.passes, sound.skips⟩
        rintro other (recorded | saved)
        · cases recorded
          refine ⟨?_, ?_⟩
          · intro completed same
            cases same
            cases readable with
            | true => exact ⟨service.content, Nat.le_refl _, rfl⟩
            | false => exact ⟨since, recent, began⟩
          · intro current target member listed
            obtain ⟨entry, reported, _, named⟩ := mem_covered.mp listed
            obtain ⟨upload, made, reached, fresh⟩ :=
              careful pass found (by simp [held]) (by simp [started]) records target member
                entry reported named
            obtain ⟨uploaded, later⟩ := backed.results entry reported upload made
            refine ⟨upload, uploaded, reached, ?_⟩
            cases readable with
            | true => exact Nat.le_of_eq (fresh rfl).symm
            | false =>
              -- the fingerprint is the one taken before the pass began
              have same : fingerprint since = fingerprint service.content :=
                began.symm.trans (Option.some.inj current)
              rwa [← injective same]
        · exact (sound.states other (.inr saved)).of_eq rfl rfl rfl
      · rw [if_neg records]
        exact sound.endPass id

/-! ## Steps -/

theorem transferring_eq_some : service.transferring id = some (pass, transfer) ↔
      service.passes id = some pass ∧ pass.transfer = some transfer := by
  simp only [transferring, Option.bind_eq_bind, Option.bind_eq_some_iff, Option.pure_def,
    Option.some.injEq, Prod.mk.injEq]
  constructor
  · rintro ⟨_, found, _, awaited, rfl, rfl⟩
    exact ⟨found, awaited⟩
  · rintro ⟨found, awaited⟩
    exact ⟨pass, found, transfer, awaited, rfl, rfl⟩

theorem Sound.read (sound : service.Sound fingerprint) (found : service.passes id = some pass) :
    (service.setPass id { pass with
        transfer := some { transfer with content := some service.content, stored := false } }).Sound
      fingerprint := by
  obtain ⟨since, recent, backed, started⟩ := sound.passes id pass found
  refine sound.setPass id ⟨since, recent, ⟨backed.results, ?_⟩, started⟩
  intro current content awaited read
  cases awaited
  cases read
  exact ⟨recent, by simp⟩

theorem Sound.upload (sound : service.Sound fingerprint) (upload : Upload) :
    ({ service with uploads := service.uploads ++ [upload] } : SyncService Fingerprint).Sound
      fingerprint := by
  have grown : service.Extends { service with uploads := service.uploads ++ [upload] } :=
    ⟨Nat.le_refl _, fun _ made => mem_append_left _ made⟩
  exact
    { states := fun state remembered =>
        (sound.states state remembered).mono rfl (fun _ member => member) grown
      passes := fun id pass found => (sound.passes id pass found).mono grown
      skips := sound.skips }

theorem Sound.stored {content : ℕ} (sound : service.Sound fingerprint)
    (found : service.passes id = some pass) (awaited : pass.transfer = some transfer)
    (read : transfer.content = some content) :
    (({ service with
        uploads := service.uploads ++
          [{ destination := transfer.target.destination, content := content }] } :
        SyncService Fingerprint).setPass id
      { pass with transfer := some { transfer with stored := true } }).Sound fingerprint := by
  have uploaded := sound.upload { destination := transfer.target.destination, content := content }
  obtain ⟨since, recent, backed, started⟩ := uploaded.passes id pass found
  refine uploaded.setPass id ⟨since, recent, ⟨backed.results, ?_⟩, started⟩
  intro current other same kept
  cases same
  obtain ⟨later, _⟩ := backed.transfer transfer other awaited kept
  refine ⟨later, fun _ => ?_⟩
  cases read.symm.trans kept
  exact mem_append_right _ (mem_singleton_self _)

theorem Sound.step [DecidableEq Fingerprint] (injective : Injective fingerprint)
    {action : Step} (sound : service.Sound fingerprint)
    (careful : service.Careful fingerprint action)
    (taken : service.step fingerprint action = some after) : after.Sound fingerprint := by
  cases action with
  | write =>
    cases taken
    exact sound.write injective
  | setPolicy policy =>
    cases taken
    exact sound.frame rfl rfl (fun _ member => member) (fun _ remembered => remembered)
      sound.passes sound.skips
  | addTarget target constructed =>
    cases taken
    exact sound.addTarget careful
  | removeTarget name =>
    cases taken
    exact sound.removeTarget name
  | start =>
    cases taken
    exact sound.loadState
  | stop disk =>
    cases taken
    exact sound.saveState disk
  | restart torn =>
    cases taken
    exact sound.restart torn
  | snapshotIfChanged id readable =>
    simp only [SyncService.step, Option.ite_none_left_eq_some] at taken
    obtain ⟨_, taken⟩ := taken
    split at taken
    · cases taken
      exact sound
    · cases taken
      refine sound.forceSnapshot id true ?_
      intro current computed
      cases readable with
      | true => exact (Option.some.inj computed).symm
      | false => cases computed
  | forceSnapshot id =>
    simp only [SyncService.step, Option.ite_none_left_eq_some] at taken
    obtain ⟨_, taken⟩ := taken
    cases taken
    exact sound.forceSnapshot id false (by simp)
  | next id =>
    simp only [SyncService.step, Option.bind_eq_bind, Option.bind_eq_some_iff,
      ite_none_left_eq_some, map_eq_some_iff] at taken
    obtain ⟨pass, found, _, target, _, rfl⟩ := taken
    exact sound.snapshotTarget found
  | read id =>
    simp only [SyncService.step, Option.bind_eq_bind, Option.bind_eq_some_iff, Prod.exists,
      transferring_eq_some, Option.pure_def, Option.some.injEq] at taken
    obtain ⟨pass, transfer, ⟨found, _⟩, rfl⟩ := taken
    exact sound.read found
  | stored id =>
    simp only [SyncService.step, Option.bind_eq_bind, Option.bind_eq_some_iff, Prod.exists,
      transferring_eq_some, Option.pure_def, Option.some.injEq] at taken
    obtain ⟨pass, transfer, ⟨found, awaited⟩, content, read, rfl⟩ := taken
    exact sound.stored found awaited read
  | returned id result =>
    simp only [SyncService.step, Option.bind_eq_bind, Option.bind_eq_some_iff, Prod.exists,
      transferring_eq_some, Option.pure_def, Option.some.injEq,
      ite_none_left_eq_some] at taken
    obtain ⟨pass, transfer, ⟨found, awaited⟩, _, rfl⟩ := taken
    exact sound.settle found awaited (fun _ made => made)
  | raised id error =>
    simp only [SyncService.step, Option.bind_eq_bind, Option.bind_eq_some_iff, Prod.exists,
      transferring_eq_some, Option.pure_def, Option.some.injEq] at taken
    obtain ⟨pass, transfer, ⟨found, awaited⟩, rfl⟩ := taken
    exact sound.settle found awaited (by simp [snapshotFailed])
  | aborted id =>
    simp only [SyncService.step, Option.bind_eq_bind, Option.bind_eq_some_iff,
      Option.pure_def, Option.some.injEq] at taken
    obtain ⟨_, _, rfl⟩ := taken
    exact sound.endPass id
  | finish id disk =>
    simp only [SyncService.step, Option.bind_eq_bind, Option.bind_eq_some_iff,
      Option.pure_def, Option.ite_none_left_eq_some, Option.some.injEq] at taken
    obtain ⟨pass, found, _, rfl⟩ := taken
    exact sound.finish found
  | record id readable disk =>
    simp only [SyncService.step, Option.bind_eq_bind, Option.bind_eq_some_iff,
      Option.pure_def, Option.ite_none_right_eq_some, Option.some.injEq] at taken
    obtain ⟨pass, found, _, rfl⟩ := taken
    exact sound.record injective found careful

theorem Sound.unchanged [DecidableEq Fingerprint] {readable : Bool}
    (sound : service.Sound fingerprint)
    (answered : service.unchanged fingerprint readable = true) :
    ∀ target ∈ service.targets, service.Holds target.destination := by
  unfold SyncService.unchanged at answered
  split at answered
  · rename_i current state computed held
    simp only [Bool.and_eq_true, beq_iff_eq, List.all_eq_true, decide_eq_true_eq] at answered
    obtain ⟨⟨_, last⟩, listed⟩ := answered
    have present : current = fingerprint service.content := by
      cases readable with
      | true => exact (Option.some.inj computed).symm
      | false => cases computed
    subst present
    intro target member
    exact (sound.states state (.inl held)).covered last target member (listed target member)
  · cases answered

end SyncService

/-! ## Runs -/

section Contract

variable [DecidableEq Fingerprint]

def SyncService.Steps (fingerprint : ℕ → Fingerprint) (service : SyncService Fingerprint)
    (action : Step) (after : SyncService Fingerprint) : Prop :=
  service.step fingerprint action = some after

end Contract

section Samples

def SyncTarget.sample : SyncTarget where
  name := "s3://bucket"
  kind := "s3"
  trustTier := .expedient
  destination := 0

def SyncResult.sample : SyncResult where
  success := true
  targetName := "s3://bucket"
  error := none
  policyDenied := none
  kind := ""
  attempted := true

/-- A scheduled backup of one target. -/
def sampleBackup : List Step :=
  [.start, .addTarget .sample true, .snapshotIfChanged 0 true, .next 0, .read 0, .stored 0,
    .returned 0 .sample, .finish 0 .written, .record 0 true .written]

/-- A write lands after the target read the database. -/
def sampleWriteDuringPass : List Step :=
  [.start, .addTarget .sample true, .snapshotIfChanged 0 true, .next 0, .read 0, .write,
    .stored 0, .returned 0 .sample, .finish 0 .written, .record 0 true .written]

/-- The policy refuses a configured target throughout a pass. -/
def samplePolicySkip : List Step :=
  [.start, .addTarget .sample true, .setPolicy (some ⟨false, some "privacy_mode_local_only"⟩),
    .snapshotIfChanged 0 true, .next 0, .finish 0 .written, .record 0 true .written,
    .setPolicy (some ⟨true, none⟩)]

end Samples

end Kestrel.Storage.Sync
