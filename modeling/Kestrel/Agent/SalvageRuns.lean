import Kestrel.Agent.Salvage
import Mathlib.Tactic.Tauto

/-!
# The lifecycle of salvage markers

Only the claim of a marker is a conditional write; all other writes of a task are right because a
marker whose summary is pending has exactly one task that holds it. Every run keeps this in which
no task that holds a marker is lost, and no task that does not hold one comes into its handler.
-/

namespace Kestrel.Agent.Salvage

open Option Function Table Point

section Specification

/-- The states a marker never leaves but for `restored`. -/
def SalvageState.IsSettled (state : SalvageState) : Prop :=
  state = .durableFolded ∨ state = .failedFold ∨ state = .restored

/-- The lifecycle of a salvaged span. -/
inductive SalvageState.Follows : SalvageState → SalvageState → Prop where
  | same (state : SalvageState) : Follows state state
  | claimed : Follows .pointerOnly .pendingSummary
  | folded : Follows .pendingSummary .durableFolded
  | failed : Follows .pendingSummary .failedFold
  | dropped : Follows .pendingSummary .pointerOnly
  | restored (state : SalvageState) : Follows state .restored

/-- A marker develops as its lifecycle allows, and a settled one keeps its summary. -/
def Develops (marker marker' : Marker) : Prop :=
  marker.metadata.salvageState.Follows marker'.metadata.salvageState ∧
    (marker.metadata.salvageState.IsSettled → marker'.content = marker.content)

def Point.Holds : Point → Prop
  | .claimLoad | .claimWrite _ => False
  | .markerLoad | .historyLoad _ | .completion | .contentWrite _ | .attemptsLoad _
  | .patchLoad _ _ | .patchWrite _ _ => True

/-- Some task holds a marker. -/
def System.IsHeld (system : System) (salvageId : ℕ) : Prop :=
  ∃ key task, system.tasks key = some task ∧ task.salvageId = salvageId ∧ task.point.Holds

/-- Every marker develops as its lifecycle allows, whatever happens next. -/
def System.IsOrdered (config : Config) (system : System) (labels : Label → Prop) : Prop :=
  ∀ label, labels label → ∀ salvageId marker, system.markers.row salvageId = some marker →
    ∃ marker', (system.perform config label).markers.row salvageId = some marker' ∧
      Develops marker marker'

/-- Every marker that waits or is pending, and that no task holds, is a candidate of the janitor's
scan from some time on. -/
def System.IsScanned (config : Config) (system : System) : Prop :=
  ∀ salvageId marker, system.markers.row salvageId = some marker →
    marker.metadata.salvageState = .pointerOnly ∨
      marker.metadata.salvageState = .pendingSummary →
    ¬ system.IsHeld salvageId →
    ∃ start, ∀ now, start ≤ now → salvageId ∈ findStalePointerOnly config now system.markers

end Specification

section Conditions

/-- The statements that may raise: those of a task that holds its marker, in its main body before
its outcome is written. In the handler only the outcome may, once it is written. -/
def Point.MayRaise (row : Option Marker) (applied : Bool) : Point → Prop
  | .claimLoad => False
  | .claimWrite _ => applied = true ∧ row.any Marker.isPointerOnly = true
  | .markerLoad | .historyLoad _ | .completion | .contentWrite _ => True
  | .attemptsLoad _ => False
  | .patchLoad _ (.finish inHandler) => inHandler = false
  | .patchWrite _ (.finish inHandler) => applied = inHandler
  | .patchLoad _ (.attempted _ _) | .patchWrite _ (.attempted _ _) => False

/-- A merge of these rows' metadata leaves the text of every waiting marker as it is. -/
def System.MayMerge (config : Config) (system : System) (messageIds : List ℕ) : Prop :=
  config.minifies = true → ∀ messageId ∈ messageIds,
    ∀ marker ∈ system.markers.row messageId, marker.metadata.salvageState ≠ .pointerOnly

/-- The steps that the lifecycle survives. -/
def System.Allows (config : Config) (system : System) : Label → Prop
  | .salvage _ _ originalIds pendingCount =>
    pendingCount ≤ config.pendingTerminalThreshold ∧ system.MayMerge config originalIds
  | .setExcluded messageIds _ => system.MayMerge config messageIds
  | .raised key _ applied => ∀ task ∈ system.tasks key,
      task.point.MayRaise (system.markers.row task.salvageId) applied
  | .cancelled key => ∀ task ∈ system.tasks key, ¬ task.point.Holds
  | .crash worker => ∀ key, ∀ task ∈ system.tasks key, task.worker = worker → ¬ task.point.Holds
  | .schedule _ _ | .sweep _ _ | .completed _ _ _ | .stop _ => True

end Conditions

section Invariant

def Point.IsFit : Point → Prop
  | .claimWrite metadata | .patchWrite metadata (.attempted _ _) =>
    metadata.salvageState = .pendingSummary ∧ metadata.pointerOnlyTerminal = false
  | .patchWrite metadata (.finish _) =>
    metadata.salvageState ≠ .pendingSummary ∧ metadata.salvageState ≠ .restored ∧
      metadata.pointerOnlyTerminal = false
  | .patchLoad patch (.finish _) =>
    ∃ state, patch.salvageState = some state ∧ state ≠ .pendingSummary ∧ state ≠ .restored
  | .patchLoad patch (.attempted _ _) => patch.salvageState = none
  | .claimLoad | .markerLoad | .historyLoad _ | .completion | .contentWrite _
  | .attemptsLoad _ => True

/-- A marker that is not settled will be found by a scan once it waits. -/
structure Marker.IsFit (marker : Marker) : Prop where
  spaced : marker.metadata.salvageState = .pointerOnly → marker.spaced = true
  scheduled : marker.metadata.salvageState = .pointerOnly ∨
    marker.metadata.salvageState = .pendingSummary → marker.metadata.pointerOnlyTerminal = false

/-- Exactly the pending markers are held, each by one task. -/
structure System.Valid (system : System) : Prop where
  fit : ∀ salvageId, ∀ marker ∈ system.markers.row salvageId, marker.IsFit
  tasks_fit : ∀ key, ∀ task ∈ system.tasks key, task.point.IsFit
  held : ∀ key, ∀ task ∈ system.tasks key, task.point.Holds →
    ∃ marker ∈ system.markers.row task.salvageId,
      marker.metadata.salvageState = .pendingSummary
  unique : ∀ key, ∀ task ∈ system.tasks key, ∀ key', ∀ task' ∈ system.tasks key',
    task.point.Holds → task'.point.Holds → task.salvageId = task'.salvageId → key = key'
  holder : ∀ salvageId, ∀ marker ∈ system.markers.row salvageId,
    marker.metadata.salvageState = .pendingSummary → system.IsHeld salvageId
  fresh : ∀ key, system.nextTask ≤ key → system.tasks key = none

/-- What a statement of a task at a point may do: change its marker, and move the task on. -/
structure Sound (row : Option Marker) (point : Point) (change : Marker → Marker)
    (next : Option Point) : Prop where
  tasks_fit : ∀ point' ∈ next, point'.IsFit
  fit : ∀ marker ∈ row, (change marker).IsFit
  develops : ∀ marker ∈ row, Develops marker (change marker)
  held : (∃ point' ∈ next, point'.Holds) → ∃ marker ∈ row,
    (change marker).metadata.salvageState = .pendingSummary ∧
      (point.Holds ∨ marker.metadata.salvageState ≠ .pendingSummary)
  released : (¬ ∃ point' ∈ next, point'.Holds) → ∀ marker ∈ row,
    ((change marker).metadata.salvageState = .pendingSummary ↔
      ¬ point.Holds ∧ marker.metadata.salvageState = .pendingSummary)

end Invariant

section Statements

variable {config : Config} {system : System} {key : ℕ} {task : Task} {next : Option Point}

@[simp] theorem move_markers : (system.move key task next).markers = system.markers := by
  cases next with
  | none => rfl
  | some point => rfl

@[simp] theorem move_nextTask : (system.move key task next).nextTask = system.nextTask := by
  cases next with
  | none => rfl
  | some point => rfl

@[simp] theorem move_tasks : (system.move key task next).tasks =
    update system.tasks key (next.map fun point => { task with point := point }) := by
  cases next with
  | none => rfl
  | some point => rfl

variable {salvageId : ℕ} {change : Marker → Marker}

@[simp] theorem updateMarker_tasks :
    (system.updateMarker salvageId change).tasks = system.tasks := rfl

@[simp] theorem updateMarker_nextTask :
    (system.updateMarker salvageId change).nextTask = system.nextTask := rfl

theorem updateMarker_row (other : ℕ) : (system.updateMarker salvageId change).markers.row other =
      if other = salvageId then (system.markers.row other).map change
      else system.markers.row other := by
  rw [System.updateMarker, row_adjust]
  by_cases same : other = salvageId
  · rw [if_pos same]
    simp only [if_pos same]
  · rw [if_neg same]
    simp only [if_neg same, map_id']

theorem moved_task {tasks : ℕ → Option Task} {key' : ℕ} {task' : Task}
    (present : task' ∈ update tasks key
      (next.map fun point => { task with point := point }) key') :
    (key' = key ∧ ∃ point ∈ next, task' = { task with point := point }) ∨
      (key' ≠ key ∧ task' ∈ tasks key') := by
  by_cases same : key' = key
  · subst same
    rw [update_self] at present
    obtain ⟨point, moved, rfl⟩ := map_eq_some_iff.mp present
    exact .inl ⟨rfl, point, moved, rfl⟩
  · rw [update_of_ne same] at present
    exact .inr ⟨same, present⟩

/-- A sound statement keeps the invariant. -/
theorem System.Valid.statement (valid : system.Valid) (running : task ∈ system.tasks key)
    (sound : Sound (system.markers.row task.salvageId) task.point change next) :
    ((system.updateMarker task.salvageId change).move key task next).Valid := by
  have others : ∀ key' ≠ key, ∀ task' ∈ system.tasks key', task'.point.Holds →
      task'.salvageId = task.salvageId →
      ¬ task.point.Holds ∧ ¬ ∃ point ∈ next, point.Holds := by
    intro key' other task' present holds same
    have idle : ¬ task.point.Holds := fun holding =>
      other (valid.unique key' task' present key task running holds holding same)
    refine ⟨idle, fun holding => ?_⟩
    obtain ⟨marker, found, _, owned⟩ := sound.held holding
    obtain ⟨marker', found', pending⟩ := valid.held key' task' present holds
    rw [same] at found'
    obtain rfl := mem_unique found found'
    exact owned.elim idle fun free => free pending
  have distinct : ∀ key' task', task' ∈ system.tasks key' → task'.salvageId ≠ task.salvageId ∨
      task'.point.Holds ∧ ¬ task.point.Holds → key' ≠ key := by
    rintro key' task' present differs rfl
    obtain rfl := mem_unique present running
    exact differs.elim (fun other => other rfl) fun idle => idle.2 idle.1
  refine ⟨?_, ?_, ?_, ?_, ?_, ?_⟩
  · intro salvageId marker' stored
    rw [move_markers, updateMarker_row] at stored
    by_cases same : salvageId = task.salvageId
    · subst same
      rw [if_pos rfl] at stored
      obtain ⟨marker, found, rfl⟩ := map_eq_some_iff.mp stored
      exact sound.fit marker found
    · rw [if_neg same] at stored
      exact valid.fit salvageId marker' stored
  · intro key' task' present
    rw [move_tasks] at present
    rcases moved_task present with ⟨rfl, point, moved, rfl⟩ | ⟨_, present⟩
    · exact sound.tasks_fit point moved
    · exact valid.tasks_fit key' task' present
  · intro key' task' present holds
    rw [move_tasks] at present
    rw [move_markers, updateMarker_row]
    rcases moved_task present with ⟨rfl, point, moved, rfl⟩ | ⟨other, present⟩
    · obtain ⟨marker, found, pending, _⟩ := sound.held ⟨point, moved, holds⟩
      rw [if_pos rfl]
      exact ⟨change marker, mem_map_of_mem change found, pending⟩
    · obtain ⟨marker, found, pending⟩ := valid.held key' task' present holds
      by_cases same : task'.salvageId = task.salvageId
      · obtain ⟨idle, free⟩ := others key' other task' present holds same
        rw [if_pos same, same]
        rw [same] at found
        exact ⟨change marker, mem_map_of_mem change found,
          (sound.released free marker found).mpr ⟨idle, pending⟩⟩
      · rw [if_neg same]
        exact ⟨marker, found, pending⟩
  · intro first task₁ present₁ second task₂ present₂ holds₁ holds₂ same
    rw [move_tasks] at present₁ present₂
    rcases moved_task present₁ with ⟨moved₁, point, member, named⟩ | ⟨other₁, stays₁⟩
    · rcases moved_task present₂ with ⟨moved₂, _⟩ | ⟨other₂, stays₂⟩
      · exact moved₁.trans moved₂.symm
      · subst named
        exact absurd ⟨point, member, holds₁⟩ (others second other₂ task₂ stays₂ holds₂ same.symm).2
    · rcases moved_task present₂ with ⟨moved₂, point, member, named⟩ | ⟨_, stays₂⟩
      · subst named
        exact absurd ⟨point, member, holds₂⟩ (others first other₁ task₁ stays₁ holds₁ same).2
      · exact valid.unique first task₁ stays₁ second task₂ stays₂ holds₁ holds₂ same
  · intro salvageId marker' stored pending
    rw [move_markers, updateMarker_row] at stored
    -- A task other than the moved one goes on holding what it holds.
    have keeps : ∀ key' task', task' ∈ system.tasks key' → key' ≠ key → task'.salvageId = salvageId →
        task'.point.Holds →
        ((system.updateMarker task.salvageId change).move key task next).IsHeld salvageId := by
      intro key' task' present other same holds
      refine ⟨key', task', ?_, same, holds⟩
      rw [move_tasks, update_of_ne other]
      exact present
    by_cases same : salvageId = task.salvageId
    · subst same
      rw [if_pos rfl] at stored
      obtain ⟨marker, found, rfl⟩ := map_eq_some_iff.mp stored
      by_cases holding : ∃ point ∈ next, point.Holds
      · obtain ⟨point, moved, holds⟩ := holding
        refine ⟨key, { task with point := point }, ?_, rfl, holds⟩
        rw [move_tasks, update_self]
        exact mem_map_of_mem _ moved
      · obtain ⟨idle, wasPending⟩ := (sound.released holding marker found).mp pending
        obtain ⟨key', task', present, named, holds⟩ := valid.holder _ marker found wasPending
        exact keeps key' task' present (distinct key' task' present (.inr ⟨holds, idle⟩)) named holds
    · rw [if_neg same] at stored
      obtain ⟨key', task', present, named, holds⟩ := valid.holder _ marker' stored pending
      exact keeps key' task' present
        (distinct key' task' present (.inl fun named' => same (named.symm.trans named'))) named holds
  · intro key' late
    rw [move_nextTask, updateMarker_nextTask] at late
    have none_there := valid.fresh key' late
    rw [move_tasks, updateMarker_tasks, update_of_ne]
    · exact none_there
    · rintro rfl
      rw [none_there] at running
      cases running

end Statements

section Points

variable {config : Config} {row : Option Marker} {point : Point} {change : Marker → Marker}
  {next : Option Point}

theorem Sound.idle (fit : ∀ marker ∈ row, marker.IsFit) (free : ¬ point.Holds)
    (unchanged : ∀ marker ∈ row, change marker = marker)
    (ready : ∀ point' ∈ next, point'.IsFit ∧ ¬ point'.Holds) : Sound row point change next where
  tasks_fit := fun point' moved => (ready point' moved).1
  fit := fun marker found => by
    rw [unchanged marker found]
    exact fit marker found
  develops := fun marker found => by
    rw [unchanged marker found]
    exact ⟨.same _, fun _ => rfl⟩
  held := fun ⟨point', moved, holds⟩ => absurd holds (ready point' moved).2
  released := fun _ marker found => by
    rw [unchanged marker found]
    exact (and_iff_right free).symm

variable {marker : Marker} {metadata : Metadata}

theorem Marker.isPointerOnly_iff : marker.isPointerOnly = true ↔
      marker.spaced = true ∧ marker.metadata.salvageState = .pointerOnly := by
  rw [Marker.isPointerOnly, Bool.and_eq_true, decide_eq_true_eq]

theorem Sound.claim {point' : Point} (claims : row.any Marker.isPointerOnly = true)
    (pointFit : (claimWrite metadata).IsFit) (ready : point'.IsFit) (holds : point'.Holds) :
    Sound row (.claimWrite metadata) (claimWrite metadata).write (some point') := by
  obtain ⟨marker, rfl, waits⟩ := (any_eq_true _ _).mp claims
  have waiting := (Marker.isPointerOnly_iff.mp waits).2
  have written : (claimWrite metadata).write marker = marker.dump metadata := if_pos waits
  refine ⟨?_, ?_, ?_, ?_, fun none_holds => absurd ⟨point', rfl, holds⟩ none_holds⟩
  · intro other moved
    cases moved
    exact ready
  · intro other found
    cases found
    rw [written]
    exact ⟨fun waits => absurd (pointFit.1.symm.trans waits) nofun, fun _ => pointFit.2⟩
  · intro other found
    cases found
    rw [written]
    refine ⟨?_, ?_⟩
    · rw [waiting]
      change SalvageState.Follows _ metadata.salvageState
      rw [pointFit.1]
      exact .claimed
    · rw [waiting]
      rintro (settled | settled | settled) <;> cases settled
  · refine fun _ => ⟨marker, rfl, ?_, .inr ?_⟩
    · rw [written]
      exact pointFit.1
    · rw [waiting]
      exact nofun

theorem Sound.hold {point' : Point} (holds : point.Holds)
    (was : marker.metadata.salvageState = .pendingSummary)
    (pending : (change marker).metadata.salvageState = .pendingSummary)
    (scheduled : (change marker).metadata.pointerOnlyTerminal = false) (ready : point'.IsFit)
    (still : point'.Holds) : Sound (some marker) point change (some point') where
  tasks_fit := fun other moved => by
    cases moved
    exact ready
  fit := fun other found => by
    cases found
    exact ⟨fun waits => absurd (pending.symm.trans waits) nofun, fun _ => scheduled⟩
  develops := fun other found => by
    cases found
    refine ⟨?_, ?_⟩
    · rw [was, pending]
      exact .same _
    · rw [was]
      rintro (settled | settled | settled) <;> cases settled
  held := fun _ => ⟨marker, rfl, pending, .inl holds⟩
  released := fun none_holds => absurd ⟨point', rfl, still⟩ none_holds

theorem Sound.release (holds : point.Holds) (was : marker.metadata.salvageState = .pendingSummary)
    (outcome : metadata.salvageState ≠ .pendingSummary ∧ metadata.salvageState ≠ .restored ∧
      metadata.pointerOnlyTerminal = false) :
    Sound (some marker) point (fun marker => marker.dump metadata) none where
  tasks_fit := fun other moved => nomatch moved
  fit := fun other found => by
    cases found
    exact ⟨fun _ => rfl, fun _ => outcome.2.2⟩
  develops := fun other found => by
    cases found
    refine ⟨?_, ?_⟩
    · rw [was]
      change SalvageState.Follows _ metadata.salvageState
      cases written : metadata.salvageState with
      | pointerOnly => exact .dropped
      | pendingSummary => exact absurd written outcome.1
      | durableFolded => exact .folded
      | failedFold => exact .failed
      | restored => exact absurd written outcome.2.1
    · rw [was]
      rintro (settled | settled | settled) <;> cases settled
  held := fun ⟨_, moved, _⟩ => nomatch moved
  released := fun _ marker' found => by
    cases found
    exact iff_of_false outcome.1 fun both => both.1 holds

theorem handleAttempt_ready {now : ℤ} {attempts : ℕ} {error : String} :
    (handleAttempt config now attempts error).IsFit ∧
      (handleAttempt config now attempts error).Holds := by
  unfold handleAttempt
  split_ifs
  · exact ⟨⟨.failedFold, rfl, nofun, nofun⟩, trivial⟩
  · exact ⟨⟨.pointerOnly, rfl, nofun, nofun⟩, trivial⟩

/-- Where a statement that returns leads a task. -/
theorem Sound.resume {now : ℤ} {reply : Reply} (fit : ∀ marker ∈ row, marker.IsFit)
    (pointFit : point.IsFit)
    (owned : point.Holds → ∃ marker ∈ row, marker.metadata.salvageState = .pendingSummary) :
    Sound row point point.write (point.resume config now row reply) := by
  by_cases holds : point.Holds
  · obtain ⟨marker, rfl, pending⟩ := owned holds
    have scheduled := (fit marker rfl).scheduled (.inr pending)
    have failed : (markFailedFold now originalsNotFound false).IsFit :=
      ⟨.failedFold, rfl, nofun, nofun⟩
    cases point with
    | claimLoad | claimWrite metadata => exact holds.elim
    | markerLoad =>
      simp only [resume]
      split
      · exact .hold holds pending pending scheduled failed trivial
      · exact .hold holds pending pending scheduled trivial trivial
    | historyLoad originalIds =>
      simp only [resume]
      split_ifs
      · exact .hold holds pending pending scheduled trivial trivial
      · exact .hold holds pending pending scheduled failed trivial
    | completion => exact .hold holds pending pending scheduled trivial trivial
    | contentWrite summary =>
      exact .hold holds pending pending scheduled ⟨.durableFolded, rfl, nofun, nofun⟩ trivial
    | attemptsLoad error => exact .hold holds pending pending scheduled rfl trivial
    | patchLoad patch next =>
      refine .hold holds pending pending scheduled ?_ trivial
      cases next with
      | finish inHandler =>
        obtain ⟨state, set, outcome⟩ := pointFit
        simp only [IsFit, Patch.update, set, getD_some]
        exact ⟨outcome.1, outcome.2, scheduled⟩
      | attempted attempts error =>
        have unset : patch.salvageState = none := pointFit
        simp only [IsFit, Patch.update, unset, getD_none]
        exact ⟨pending, scheduled⟩
    | patchWrite metadata next =>
      cases next with
      | finish inHandler => exact .release holds pending pointFit
      | attempted attempts error =>
        exact .hold holds pending pointFit.1 pointFit.2 handleAttempt_ready.1 handleAttempt_ready.2
  · cases point with
    | claimLoad =>
      refine .idle fit holds (fun _ _ => rfl) ?_
      intro point' moved
      obtain ⟨marker, found, moved⟩ := bind_eq_some_iff.mp moved
      split_ifs at moved with waiting
      cases moved
      exact ⟨⟨rfl, (fit marker found).scheduled (.inl waiting)⟩, id⟩
    | claimWrite metadata =>
      by_cases claims : row.any Marker.isPointerOnly = true
      · rw [resume, if_pos claims]
        exact .claim claims pointFit trivial trivial
      · rw [resume, if_neg claims]
        refine .idle fit holds ?_ nofun
        intro marker found
        exact if_neg fun waits => claims ((any_eq_true _ _).mpr ⟨marker, found, waits⟩)
    | markerLoad | historyLoad _ | completion | contentWrite _ | attemptsLoad _ | patchLoad _ _
    | patchWrite _ _ => exact absurd trivial holds

theorem Sound.raised {error : String} {applied : Bool} (fit : ∀ marker ∈ row, marker.IsFit)
    (pointFit : point.IsFit)
    (owned : point.Holds → ∃ marker ∈ row, marker.metadata.salvageState = .pendingSummary)
    (allowed : point.MayRaise row applied) :
    Sound row point (if applied then point.write else id) (point.raised error) := by
  by_cases holds : point.Holds
  · obtain ⟨marker, rfl, pending⟩ := owned holds
    have scheduled := (fit marker rfl).scheduled (.inr pending)
    cases point with
    | claimLoad | claimWrite metadata => exact holds.elim
    | markerLoad | historyLoad _ | completion | contentWrite _ =>
      cases applied with
      | false | true => exact .hold holds pending pending scheduled trivial trivial
    | attemptsLoad error => exact allowed.elim
    | patchLoad patch next =>
      cases next with
      | attempted attempts error => exact allowed.elim
      | finish inHandler =>
        have outside : inHandler = false := allowed
        subst outside
        cases applied with
        | false | true => exact .hold holds pending pending scheduled trivial trivial
    | patchWrite metadata next =>
      cases next with
      | attempted attempts error => exact allowed.elim
      | finish inHandler =>
        have both : applied = inHandler := allowed
        subst both
        cases applied with
        | false => exact .hold holds pending pending scheduled trivial trivial
        | true => exact .release holds pending pointFit
  · cases point with
    | claimLoad => exact allowed.elim
    | claimWrite metadata =>
      obtain ⟨written, claims⟩ := allowed
      subst written
      exact .claim claims pointFit trivial trivial
    | markerLoad | historyLoad _ | completion | contentWrite _ | attemptsLoad _ | patchLoad _ _
    | patchWrite _ _ => exact absurd trivial holds

end Points

section Steps

variable {config : Config} {system target : System}

theorem System.Valid.of_tasks (valid : system.Valid) (same : target.markers = system.markers)
    (came : ∀ key, ∀ task ∈ target.tasks key,
      task ∈ system.tasks key ∨ task.point.IsFit ∧ ¬ task.point.Holds)
    (kept : ∀ key, ∀ task ∈ system.tasks key, task.point.Holds → task ∈ target.tasks key)
    (fresh : ∀ key, target.nextTask ≤ key → target.tasks key = none) : target.Valid := by
  have old : ∀ key, ∀ task ∈ target.tasks key, task.point.Holds → task ∈ system.tasks key :=
    fun key task present holds => (came key task present).elim id fun idle => absurd holds idle.2
  refine ⟨?_, ?_, ?_, ?_, ?_, fresh⟩
  · rw [same]
    exact valid.fit
  · intro key task present
    rcases came key task present with present | ⟨fit, _⟩
    · exact valid.tasks_fit key task present
    · exact fit
  · intro key task present holds
    rw [same]
    exact valid.held key task (old key task present holds) holds
  · intro key task present key' task' present' holds holds'
    exact valid.unique key task (old key task present holds) key' task'
      (old key' task' present' holds') holds holds'
  · intro salvageId marker stored pending
    rw [same] at stored
    obtain ⟨key, task, present, named, holds⟩ := valid.holder salvageId marker stored pending
    exact ⟨key, task, kept key task present holds, named, holds⟩

theorem System.Valid.of_markers (valid : system.Valid) {markers : Table ℕ Marker}
    (fit : ∀ salvageId, ∀ marker ∈ markers.row salvageId, marker.IsFit)
    (pending : ∀ salvageId,
      (∃ marker ∈ markers.row salvageId, marker.metadata.salvageState = .pendingSummary) ↔
        ∃ marker ∈ system.markers.row salvageId, marker.metadata.salvageState = .pendingSummary) :
    { system with markers := markers }.Valid := by
  refine ⟨fit, valid.tasks_fit, ?_, valid.unique, ?_, valid.fresh⟩
  · intro key task present holds
    exact (pending task.salvageId).mpr (valid.held key task present holds)
  · intro salvageId marker stored is_pending
    obtain ⟨marker', stored', is_pending'⟩ := (pending salvageId).mp ⟨marker, stored, is_pending⟩
    exact valid.holder salvageId marker' stored' is_pending'

theorem develops_refl (marker : Marker) : Develops marker marker := ⟨.same _, fun _ => rfl⟩

variable {salvageId : ℕ} {messageIds : List ℕ} {excluded : Bool}

@[simp] theorem scheduleSummary_markers {worker : ℕ} :
    (system.scheduleSummary worker salvageId).markers = system.markers := by
  unfold System.scheduleSummary
  split_ifs <;> rfl

theorem System.Valid.scheduleSummary (valid : system.Valid) (worker salvageId : ℕ) :
    (system.scheduleSummary worker salvageId).Valid := by
  unfold System.scheduleSummary
  split_ifs with refused
  · exact valid
  · refine valid.of_tasks rfl ?_ ?_ ?_
    · intro key task present
      dsimp only at present
      by_cases new : key = system.nextTask
      · subst new
        rw [update_self] at present
        cases present
        exact .inr ⟨trivial, id⟩
      · rw [update_of_ne new] at present
        exact .inl present
    · intro key task present _
      have older : key ≠ system.nextTask := by
        rintro rfl
        rw [valid.fresh _ (Nat.le_refl _)] at present
        cases present
      dsimp only
      rw [update_of_ne older]
      exact present
    · intro key late
      dsimp only at late ⊢
      rw [update_of_ne (Nat.ne_of_gt late)]
      exact valid.fresh key (Nat.le_of_succ_le late)

theorem System.Valid.sweep (valid : system.Valid) (worker : ℕ) (salvageIds : List ℕ) :
    (salvageIds.foldl (fun system salvageId => system.scheduleSummary worker salvageId)
        system).Valid ∧
      (salvageIds.foldl (fun system salvageId => system.scheduleSummary worker salvageId)
        system).markers = system.markers := by
  induction salvageIds generalizing system with
  | nil => exact ⟨valid, rfl⟩
  | cons salvageId salvageIds ih =>
    obtain ⟨swept, same⟩ := ih (valid.scheduleSummary worker salvageId)
    exact ⟨swept, same.trans scheduleSummary_markers⟩

theorem mergeExclusion_row (salvageId : ℕ) :
    (system.updateMessagesMetadata config messageIds excluded).markers.row salvageId =
      (system.markers.row salvageId).map fun marker =>
        if salvageId ∈ messageIds then marker.mergeExclusion config excluded else marker := rfl

theorem System.Valid.updateMessagesMetadata (valid : system.Valid)
    (allowed : system.MayMerge config messageIds) :
    (system.updateMessagesMetadata config messageIds excluded).Valid ∧
      ∀ salvageId marker, system.markers.row salvageId = some marker →
        ∃ marker', (system.updateMessagesMetadata config messageIds excluded).markers.row salvageId =
          some marker' ∧ Develops marker marker' := by
  have states : ∀ salvageId (marker : Marker),
      (if salvageId ∈ messageIds then marker.mergeExclusion config excluded
        else marker).metadata.salvageState = marker.metadata.salvageState := by
    intro salvageId marker
    split_ifs <;> rfl
  refine ⟨valid.of_markers ?_ ?_, ?_⟩
  · intro salvageId marker' stored
    obtain ⟨marker, found, rfl⟩ := map_eq_some_iff.mp stored
    have fit := valid.fit salvageId marker found
    dsimp only
    split_ifs with merged
    · refine ⟨?_, fit.scheduled⟩
      intro waiting
      cases minifies : config.minifies with
      | true => exact absurd waiting (allowed minifies salvageId merged marker found)
      | false =>
        change (marker.spaced && !config.minifies) = true
        rw [fit.spaced waiting, minifies]
        rfl
    · exact fit
  · intro salvageId
    rw [row_adjust]
    cases system.markers.row salvageId with
    | none => rfl
    | some marker => simp only [map_some, mem_def, Option.some.injEq,
        exists_eq_left', states]
  · intro salvageId marker stored
    rw [mergeExclusion_row, stored]
    refine ⟨_, rfl, ?_⟩
    refine ⟨?_, ?_⟩
    · rw [states]
      exact .same _
    · intro _
      split_ifs <;> rfl

theorem System.Valid.salvageMessages (valid : system.Valid) {pendingCount : ℕ} {now : ℤ}
    {originalIds : List ℕ} (few : pendingCount ≤ config.pendingTerminalThreshold)
    (allowed : system.MayMerge config originalIds) :
    (system.salvageMessages config salvageId now originalIds pendingCount).Valid ∧
      ∀ other marker, system.markers.row other = some marker →
        ∃ marker', (system.salvageMessages config salvageId now originalIds
          pendingCount).markers.row other = some marker' ∧ Develops marker marker' := by
  unfold System.salvageMessages
  split_ifs with refused
  · exact ⟨valid, fun _ marker stored => ⟨marker, stored, develops_refl marker⟩⟩
  · simp only [not_or, not_not] at refused
    obtain ⟨_, outside, unused⟩ := refused
    have inserted : { system with
        markers := system.markers.insert salvageId
          (newMarker config now originalIds pendingCount) }.Valid := by
      apply valid.of_markers
      · intro other marker stored
        rw [row_insert] at stored
        split_ifs at stored with new
        · cases stored
          exact ⟨fun _ => rfl, fun _ => decide_eq_false (Nat.not_lt_of_le few)⟩
        · exact valid.fit other marker stored
      · intro other
        by_cases new : other = salvageId
        · subst new
          rw [row_insert_self, unused]
          refine iff_of_false ?_ nofun
          rintro ⟨_, found, pending⟩
          cases found
          cases pending
        · rw [row_insert_of_ne _ _ new]
    have mergeable : System.MayMerge config { system with
        markers := system.markers.insert salvageId
          (newMarker config now originalIds pendingCount) } originalIds := by
      intro minifies messageId member marker found
      refine allowed minifies messageId member marker ?_
      rw [row_insert_of_ne] at found
      · exact found
      · rintro rfl
        exact outside member
    obtain ⟨merged, developed⟩ := inserted.updateMessagesMetadata mergeable
    refine ⟨merged, ?_⟩
    intro other marker stored
    apply developed other marker
    rw [row_insert_of_ne]
    · exact stored
    · rintro rfl
      rw [unused] at stored
      cases stored

@[simp] theorem updateMarker_id (salvageId : ℕ) : system.updateMarker salvageId id = system := by
  unfold System.updateMarker adjust
  simp only [id_eq, ite_self, map_id']

theorem System.Valid.stated (valid : system.Valid) {key : ℕ} {task : Task}
    {change : Marker → Marker} {next : Option Point} (running : task ∈ system.tasks key)
    (sound : Sound (system.markers.row task.salvageId) task.point change next) :
    ((system.updateMarker task.salvageId change).move key task next).Valid ∧
      ∀ salvageId marker, system.markers.row salvageId = some marker →
        ∃ marker', ((system.updateMarker task.salvageId change).move key task
          next).markers.row salvageId = some marker' ∧ Develops marker marker' := by
  refine ⟨valid.statement running sound, ?_⟩
  intro salvageId marker stored
  rw [move_markers, updateMarker_row]
  by_cases same : salvageId = task.salvageId
  · subst same
    rw [if_pos rfl, stored]
    exact ⟨change marker, rfl, sound.develops marker stored⟩
  · rw [if_neg same]
    exact ⟨marker, stored, develops_refl marker⟩

theorem System.Valid.perform (valid : system.Valid) {label : Label}
    (allowed : system.Allows config label) :
    (system.perform config label).Valid ∧
      ∀ salvageId marker, system.markers.row salvageId = some marker →
        ∃ marker', (system.perform config label).markers.row salvageId = some marker' ∧
          Develops marker marker' := by
  have unchanged : ∀ {target : System}, target.markers = system.markers →
      ∀ salvageId marker, system.markers.row salvageId = some marker →
        ∃ marker', target.markers.row salvageId = some marker' ∧ Develops marker marker' := by
    intro target same salvageId marker stored
    rw [same]
    exact ⟨marker, stored, develops_refl marker⟩
  cases label with
  | salvage salvageId now originalIds pendingCount =>
    exact valid.salvageMessages allowed.1 allowed.2
  | setExcluded messageIds excluded => exact valid.updateMessagesMetadata allowed
  | schedule worker salvageId =>
    exact ⟨valid.scheduleSummary worker salvageId, unchanged scheduleSummary_markers⟩
  | sweep worker now =>
    obtain ⟨swept, same⟩ := valid.sweep worker (findStalePointerOnly config now system.markers)
    exact ⟨swept, unchanged same⟩
  | completed key now reply =>
    cases running : system.tasks key with
    | none =>
      simp only [System.perform, running]
      exact ⟨valid, unchanged rfl⟩
    | some task =>
      simp only [System.perform, running]
      exact valid.stated running (.resume (valid.fit task.salvageId)
        (valid.tasks_fit key task running) (valid.held key task running))
  | raised key error applied =>
    cases running : system.tasks key with
    | none =>
      simp only [System.perform, running]
      exact ⟨valid, unchanged rfl⟩
    | some task =>
      have sound : Sound (system.markers.row task.salvageId) task.point
          (if applied then task.point.write else id) (task.point.raised error) :=
        .raised (valid.fit task.salvageId) (valid.tasks_fit key task running)
          (valid.held key task running) (allowed task running)
      have stated := valid.stated running sound
      simp only [System.perform, running]
      cases applied with
      | true => exact stated
      | false =>
        simp only [Bool.false_eq_true, if_false, updateMarker_id] at stated ⊢
        exact stated
  | cancelled key =>
    cases running : system.tasks key with
    | none =>
      simp only [System.perform, running]
      exact ⟨valid, unchanged rfl⟩
    | some task =>
      have sound : Sound (system.markers.row task.salvageId) task.point id none :=
        .idle (valid.fit task.salvageId) (allowed task running) (fun _ _ => rfl) nofun
      have stated := valid.stated running sound
      simp only [System.perform, running]
      rw [updateMarker_id] at stated
      exact stated
  | crash worker =>
    refine ⟨valid.of_tasks rfl ?_ ?_ ?_, unchanged rfl⟩
    · intro key task present
      exact .inl (mem_filter_iff.mp present).1
    · intro key task present holds
      refine mem_filter_iff.mpr ⟨present, decide_eq_true ?_⟩
      exact fun named => allowed key task present named holds
    · intro key late
      rw [System.perform]
      dsimp only
      rw [valid.fresh key late, filter_none]
  | stop worker =>
    exact ⟨valid.of_tasks rfl (fun _ _ present => .inl present) (fun _ _ present _ => present)
      valid.fresh, unchanged rfl⟩

end Steps

section Runs

open Transition

variable {config : Config} {start system : System} {labels : List Label}

theorem mem_findStalePointerOnly {now : ℤ} {markers : Table ℕ Marker} {salvageId : ℕ} :
    salvageId ∈ findStalePointerOnly config now markers ↔
      ∃ marker ∈ markers.row salvageId, marker.isPointerOnly = true ∧
        marker.metadata.pointerOnlyTerminal = false ∧
        marker.metadata.salvagedAt.all (· ≤ now - config.janitorStaleSeconds) = true := by
  unfold findStalePointerOnly
  rw [List.mem_map]
  constructor
  · rintro ⟨⟨other, marker⟩, found, rfl⟩
    obtain ⟨stored, passes⟩ := List.mem_filter.mp found
    simp only [Bool.and_eq_true, Bool.not_eq_true'] at passes
    exact ⟨marker, mem_rows.mp stored, passes.1.1, passes.1.2, passes.2⟩
  · rintro ⟨marker, stored, waits, scheduled, old⟩
    refine ⟨(salvageId, marker), List.mem_filter.mpr ⟨mem_rows.mpr stored, ?_⟩, rfl⟩
    simp only [waits, scheduled, old, Bool.not_false, Bool.and_self]

theorem System.Valid.isScanned (valid : system.Valid) : system.IsScanned config := by
  intro salvageId marker stored open_state unheld
  have fit := valid.fit salvageId marker stored
  have scheduled := fit.scheduled open_state
  rcases open_state with waiting | pending
  · refine ⟨marker.metadata.salvagedAt.getD 0 + config.janitorStaleSeconds, ?_⟩
    intro now late
    refine mem_findStalePointerOnly.mpr ⟨marker, stored,
      Marker.isPointerOnly_iff.mpr ⟨fit.spaced waiting, waiting⟩, scheduled, ?_⟩
    cases salvaged : marker.metadata.salvagedAt with
    | none => rfl
    | some time =>
      rw [salvaged, getD_some] at late
      rw [all_some, decide_eq_true_eq]
      omega
  · exact absurd (valid.holder salvageId marker stored pending) unheld

/-- A system before any worker runs: no marker is pending, and a scan finds those that wait. -/
structure System.IsAtRest (system : System) : Prop where
  idle : ∀ key, system.tasks key = none
  fit : ∀ salvageId, ∀ marker ∈ system.markers.row salvageId, marker.IsFit ∧
    marker.metadata.salvageState ≠ .pendingSummary

theorem System.IsAtRest.valid (rest : system.IsAtRest) : system.Valid := by
  have none_runs : ∀ key task, ¬ task ∈ system.tasks key := by
    intro key task present
    rw [rest.idle key] at present
    cases present
  refine ⟨fun salvageId marker stored => (rest.fit salvageId marker stored).1,
    fun key task present => absurd present (none_runs key task),
    fun key task present => absurd present (none_runs key task),
    fun key task present => absurd present (none_runs key task),
    fun salvageId marker stored pending =>
      absurd pending (rest.fit salvageId marker stored).2, fun key _ => rest.idle key⟩

/-- In every run of allowed steps markers develop as their lifecycle allows, and the janitor finds
those that are left. -/
theorem salvage_lifecycle (rest : start.IsAtRest)
    (run : Run (Guarded (ofFunction (System.perform config)) (System.Allows config)) start labels
      system) :
    system.IsOrdered config (system.Allows config) ∧ system.IsScanned config := by
  have valid : system.Valid := by
    refine invariant_of_guarded ?_ rest.valid run
    rintro source label target valid allowed rfl
    exact (valid.perform allowed).1
  refine ⟨?_, valid.isScanned⟩
  intro label allowed salvageId marker stored
  exact (valid.perform allowed).2 salvageId marker stored

def smallConfig : Config where
  pendingTerminalThreshold := 50
  maxSummaryAttempts := 3
  janitorStaleSeconds := 30
  minifies := true

/-- A first attempt whose completion fails, and a second one that folds the span. -/
def retriedFold : List Label :=
  [.salvage 7 0 [1] 0, .schedule 0 7, .completed 0 1 {}, .completed 0 1 {}, .completed 0 1 {},
    .completed 0 1 { historyIds := [1] }, .raised 0 "timed out" false, .completed 0 1 {},
    .completed 0 1 {}, .completed 0 1 {}, .completed 0 1 {}, .completed 0 1 {}, .sweep 1 60,
    .completed 1 60 {}, .completed 1 60 {}, .completed 1 60 {},
    .completed 1 60 { historyIds := [1] }, .completed 1 61 { text := "A summary." },
    .completed 1 61 {}, .completed 1 61 {}, .completed 1 61 {}]

def foldedMarker : Marker where
  content := salvagedContent "A summary."
  metadata := ⟨.durableFolded, [1], some 0, some 61, 1, some "timed out", false, false⟩
  spaced := true

theorem retriedFold_lifecycle :
    let system := retriedFold.foldl (System.perform smallConfig) .initial
    system.markers.row 7 = some foldedMarker ∧
      system.IsOrdered smallConfig (system.Allows smallConfig) ∧
      system.IsScanned smallConfig := by
  have rest : System.initial.IsAtRest := ⟨fun _ => rfl, fun _ _ stored => nomatch stored⟩
  refine ⟨by decide +kernel, @salvage_lifecycle _ _ _ retriedFold rest ?_⟩
  refine .cons ⟨⟨Nat.zero_le _, fun _ _ _ _ stored => nomatch stored⟩, rfl⟩ ?_
  iterate 5 refine .cons ⟨trivial, rfl⟩ ?_
  refine .cons ⟨?_, rfl⟩ ?_
  · intro task present
    cases present
    exact trivial
  iterate 14 refine .cons ⟨trivial, rfl⟩ ?_
  exact .nil _

/-- Another worker comes to a folded marker when its statements fail. -/
def reopenedFold : List Label :=
  [.salvage 7 0 [1] 0, .schedule 0 7, .schedule 1 7, .completed 0 1 {}, .completed 0 1 {},
    .completed 0 1 {}, .completed 0 1 { historyIds := [1] },
    .completed 0 1 { text := "A summary." }, .completed 0 1 {}, .completed 0 1 {},
    .completed 0 1 {}, .raised 1 "database is locked" false, .completed 1 1 {},
    .completed 1 1 {}, .completed 1 1 {}, .completed 1 1 {}]

/-- A process dies between a claim and its outcome. -/
def strandedClaim : List Label :=
  [.salvage 7 0 [1] 0, .schedule 0 7, .completed 0 1 {}, .completed 0 1 {}, .crash 0]

/-- A worker whose claim failed reopens a folded marker, and a crash strands a pending one. -/
theorem salvage_lifecycle_fails :
    (¬ ∀ labels system, Run (ofFunction (System.perform smallConfig)) .initial labels system →
      system.IsOrdered smallConfig fun _ => True) ∧
    ¬ ∀ labels system, Run (ofFunction (System.perform smallConfig)) .initial labels system →
      system.IsScanned smallConfig := by
  refine ⟨?_, ?_⟩
  · intro ordered
    obtain ⟨marker, stored, follows, _⟩ := ordered _ _ (Run.replay _ _ reopenedFold)
      (.completed 1 1 {}) trivial 7
      ⟨salvagedContent "A summary.", ⟨.durableFolded, [1], some 0, some 1, 1,
        some "database is locked", false, false⟩, true⟩ (by decide +kernel)
    have reopened : marker.metadata.salvageState = .pointerOnly := by
      have found := congrArg (Option.map (·.metadata.salvageState)) stored
      refine Option.some.inj (found.symm.trans ?_)
      decide +kernel
    rw [reopened] at follows
    cases follows
  · intro scanned
    have unheld : ¬ (strandedClaim.foldl (System.perform smallConfig) .initial).IsHeld 7 := by
      rintro ⟨key, task, present, _⟩
      have gone : (strandedClaim.foldl (System.perform smallConfig) .initial).tasks key = none := by
        cases key with
        | zero | succ key => rfl
      rw [gone] at present
      cases present
    obtain ⟨start, found⟩ := scanned _ _ (Run.replay _ _ strandedClaim) 7
      ⟨"", ⟨.pendingSummary, [1], some 0, none, 0, none, false, false⟩, true⟩ (by decide +kernel)
      (.inr rfl) unheld
    obtain ⟨marker, stored, waits, _⟩ := mem_findStalePointerOnly.mp (found start (Int.le_refl _))
    have pending : (((strandedClaim.foldl (System.perform smallConfig) .initial).markers.row 7).map
        Marker.isPointerOnly) = some false := by
      decide +kernel
    rw [mem_def.mp stored, map_some, waits] at pending
    cases pending

end Runs

end Kestrel.Agent.Salvage
