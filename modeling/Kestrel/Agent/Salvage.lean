import Kestrel.Base.Run
import Kestrel.Base.Table
import Kestrel.Base.Text
import Mathlib.Data.Int.Notation

/-!
# Salvage markers and their summary tasks

A salvage marker is the durable record of a pruned span, and its own queue entry. Summary tasks of
any number of workers claim it, summarize the span and write back; between two statements of a task
every other task may run. The rows are those of one agent.
-/

namespace Kestrel.Agent.Salvage

section Markers

inductive SalvageState where
  | pointerOnly
  | pendingSummary
  | durableFolded
  | failedFold
  | restored
  deriving DecidableEq, Repr

/-- The metadata of a marker. A missing or malformed `salvaged_at` is `none`. -/
structure Metadata where
  salvageState : SalvageState
  originalMessageIds : List ℕ
  salvagedAt : Option ℤ
  summarizedAt : Option ℤ
  summaryAttempts : ℕ
  lastAttemptError : Option String
  pointerOnlyTerminal : Bool
  excludedFromContext : Bool
  deriving DecidableEq, Repr

/-- A marker row. `spaced` tells whether its metadata text has a blank after every colon, as
`json.dumps` writes it. -/
structure Marker where
  content : String
  metadata : Metadata
  spaced : Bool
  deriving DecidableEq, Repr

/-- `metadata LIKE '%"salvage_state": "pointer-only"%'`. -/
def Marker.isPointerOnly (marker : Marker) : Bool :=
  marker.spaced && marker.metadata.salvageState = .pointerOnly

/-- A write of `json.dumps(meta)` to the metadata column. -/
def Marker.dump (marker : Marker) (metadata : Metadata) : Marker :=
  { marker with metadata := metadata, spaced := true }

/-- A patch of a marker's metadata. -/
structure Patch where
  salvageState : Option SalvageState := none
  summarizedAt : Option ℤ := none
  summaryAttempts : Option ℕ := none
  lastAttemptError : Option String := none
  deriving DecidableEq, Repr

/-- `meta.update(patch)`. -/
def Patch.update (patch : Patch) (metadata : Metadata) : Metadata :=
  { metadata with
    salvageState := patch.salvageState.getD metadata.salvageState
    summarizedAt := patch.summarizedAt.or metadata.summarizedAt
    summaryAttempts := patch.summaryAttempts.getD metadata.summaryAttempts
    lastAttemptError := patch.lastAttemptError.or metadata.lastAttemptError }

/-- What the deployment fixes. `minifies` tells whether the database writes merged JSON without
blanks, as SQLite does and PostgreSQL does not. -/
structure Config where
  pendingTerminalThreshold : ℕ
  maxSummaryAttempts : ℕ
  janitorStaleSeconds : ℤ
  minifies : Bool

end Markers

section Tasks

/-- What follows a patch: the end of the task, in or outside its exception handler, or the
handler's decision after an attempt. -/
inductive Continuation where
  | finish (inHandler : Bool)
  | attempted (attempts : ℕ) (error : String)
  deriving DecidableEq, Repr

/-- The statement of `_summarize_salvage` that a task awaits, with what it knows. -/
inductive Point where
  | claimLoad
  | claimWrite (metadata : Metadata)
  | markerLoad
  | historyLoad (originalIds : List ℕ)
  | completion
  | contentWrite (summary : String)
  | attemptsLoad (error : String)
  | patchLoad (patch : Patch) (next : Continuation)
  | patchWrite (metadata : Metadata) (next : Continuation)
  deriving DecidableEq, Repr

/-- `_mark_durable_folded`, after its first statement. -/
def markDurableFolded (now : ℤ) : Point :=
  .patchLoad { salvageState := some .durableFolded, summarizedAt := some now } (.finish false)

def markFailedFold (now : ℤ) (reason : String) (inHandler : Bool) : Point :=
  .patchLoad
    { salvageState := some .failedFold
      lastAttemptError := some reason
      summarizedAt := some now } (.finish inHandler)

def handleAttempt (config : Config) (now : ℤ) (attempts : ℕ) (error : String) : Point :=
  if config.maxSummaryAttempts ≤ attempts then
    markFailedFold now s!"exhausted {config.maxSummaryAttempts} retries: {error}" true
  else .patchLoad { salvageState := some .pointerOnly } (.finish true)

/-- What follows a patch. -/
def Continuation.proceed (config : Config) (now : ℤ) : Continuation → Option Point
  | .finish _ => none
  | .attempted attempts error => some (handleAttempt config now attempts error)

def originalsNotFound : String := "originals not found (restored or deleted?)"

def salvagedContent (summary : String) : String :=
  "[SALVAGED CONTEXT — durable summary]\n\n" ++ summary

/-- What a statement does to the marker's row. -/
def Point.write : Point → Marker → Marker
  | .claimWrite metadata, marker => if marker.isPointerOnly then marker.dump metadata else marker
  | .contentWrite summary, marker => { marker with content := salvagedContent summary }
  | .patchWrite metadata _, marker => marker.dump metadata
  | .claimLoad, marker | .markerLoad, marker | .historyLoad _, marker | .completion, marker
  | .attemptsLoad _, marker | .patchLoad _ _, marker => marker

/-- What a statement or a completion returned: the ids of the history rows, or a text. -/
structure Reply where
  historyIds : List ℕ := []
  text : String := ""
  deriving DecidableEq, Repr

/-- Where a task goes when its statement returns, from the row that the statement found. `none` is
the end of the task. -/
def Point.resume (config : Config) (now : ℤ) (row : Option Marker) (reply : Reply) :
    Point → Option Point
  | .claimLoad =>
    row.bind fun marker =>
      if marker.metadata.salvageState = .pointerOnly then
        some (.claimWrite { marker.metadata with salvageState := .pendingSummary })
      else none
  | .claimWrite _ => if row.any Marker.isPointerOnly then some .markerLoad else none
  | .markerLoad =>
    match (row.map (·.metadata.originalMessageIds)).getD [] with
    | [] => some (markFailedFold now originalsNotFound false)
    | first :: originalIds => some (.historyLoad (first :: originalIds))
  | .historyLoad originalIds =>
    if originalIds.any (reply.historyIds.contains ·) then some .completion
    else some (markFailedFold now originalsNotFound false)
  | .completion => some (.contentWrite (Text.strip reply.text))
  | .contentWrite _ => some (markDurableFolded now)
  | .attemptsLoad error =>
    match row with
    | none => some (handleAttempt config now config.maxSummaryAttempts error)
    | some marker =>
      let attempts := marker.metadata.summaryAttempts + 1
      some (.patchLoad { summaryAttempts := some attempts, lastAttemptError := some error }
        (.attempted attempts error))
  | .patchLoad patch next =>
    match row with
    | none => next.proceed config now
    | some marker => some (.patchWrite (patch.update marker.metadata) next)
  | .patchWrite _ next => next.proceed config now

/-- Whether a task is in its exception handler. -/
def Point.inHandler : Point → Bool
  | .attemptsLoad _ => true
  | .patchLoad _ (.attempted _ _) | .patchWrite _ (.attempted _ _) => true
  | .patchLoad _ (.finish inHandler) | .patchWrite _ (.finish inHandler) => inHandler
  | .claimLoad | .claimWrite _ | .markerLoad | .historyLoad _ | .completion
  | .contentWrite _ => false

/-- Where a task goes when its statement raises. Only the main body is under the handler. -/
def Point.raised (point : Point) (error : String) : Option Point :=
  if point.inHandler then none else some (.attemptsLoad error)

/-- A summary task of a worker. -/
structure Task where
  worker : ℕ
  salvageId : ℕ
  point : Point
  deriving DecidableEq, Repr

end Tasks

section Systems

/-- The marker rows and the tasks of all workers. -/
structure System where
  markers : Table ℕ Marker
  inFlight : ℕ → List ℕ
  stopped : ℕ → Bool
  tasks : ℕ → Option Task
  nextTask : ℕ

/-- A statement on the row of one marker. -/
def System.updateMarker (system : System) (salvageId : ℕ) (change : Marker → Marker) : System :=
  { system with
    markers := system.markers.adjust fun key marker =>
      if key = salvageId then change marker else marker }

/-- `update_message_metadata`: one JSON merge of the exclusion. -/
def Marker.mergeExclusion (config : Config) (excluded : Bool) (marker : Marker) : Marker :=
  { marker with
    metadata := { marker.metadata with excludedFromContext := excluded }
    spaced := marker.spaced && !config.minifies }

/-- `update_messages_metadata`, by `restore_messages`, by `exclude_messages` and for the originals
of a salvage. Markers are history rows too. -/
def System.updateMessagesMetadata (config : Config) (system : System) (messageIds : List ℕ)
    (excluded : Bool) : System :=
  { system with
    markers := system.markers.adjust fun key marker =>
      if key ∈ messageIds then marker.mergeExclusion config excluded else marker }

/-- The marker that `salvage_messages` inserts. -/
def newMarker (config : Config) (now : ℤ) (originalIds : List ℕ) (pendingCount : ℕ) : Marker where
  content := ""
  metadata :=
    { salvageState := .pointerOnly
      originalMessageIds := originalIds
      salvagedAt := some now
      summarizedAt := none
      summaryAttempts := 0
      lastAttemptError := none
      pointerOnlyTerminal := config.pendingTerminalThreshold < pendingCount
      excludedFromContext := false }
  spaced := true

/-- `salvage_messages`, in one transaction, under the new id that the database gives. -/
def System.salvageMessages (config : Config) (system : System) (salvageId : ℕ) (now : ℤ)
    (originalIds : List ℕ) (pendingCount : ℕ) : System :=
  if originalIds = [] ∨ salvageId ∈ originalIds ∨ system.markers.row salvageId ≠ none then system
  else
    { system with
      markers := system.markers.insert salvageId
        (newMarker config now originalIds pendingCount) }.updateMessagesMetadata
          config originalIds true

def System.scheduleSummary (system : System) (worker salvageId : ℕ) : System :=
  if system.stopped worker = true ∨ salvageId ∈ system.inFlight worker then system
  else
    { system with
      inFlight := Function.update system.inFlight worker (salvageId :: system.inFlight worker)
      tasks := Function.update system.tasks system.nextTask
        (some ⟨worker, salvageId, .claimLoad⟩)
      nextTask := system.nextTask + 1 }

def findStalePointerOnly (config : Config) (now : ℤ) (markers : Table ℕ Marker) : List ℕ :=
  (markers.rows.filter fun row =>
    row.2.isPointerOnly && !row.2.metadata.pointerOnlyTerminal &&
      row.2.metadata.salvagedAt.all (· ≤ now - config.janitorStaleSeconds)).map Prod.fst

/-- One sweep of `_janitor_loop`. -/
def System.sweep (config : Config) (system : System) (worker : ℕ) (now : ℤ) : System :=
  (findStalePointerOnly config now system.markers).foldl
    (fun system salvageId => system.scheduleSummary worker salvageId) system

/-- A task moved to a point, or ended: `finally` and the end of the coroutine. -/
def System.move (system : System) (key : ℕ) (task : Task) : Option Point → System
  | some point =>
    { system with tasks := Function.update system.tasks key (some { task with point := point }) }
  | none =>
    { system with
      inFlight := Function.update system.inFlight task.worker
        ((system.inFlight task.worker).filter (· ≠ task.salvageId))
      tasks := Function.update system.tasks key none }

/-- What may happen next. -/
inductive Label where
  /-- `salvage_messages` commits. -/
  | salvage (salvageId : ℕ) (now : ℤ) (originalIds : List ℕ) (pendingCount : ℕ)
  /-- An operator restores or excludes rows. -/
  | setExcluded (messageIds : List ℕ) (excluded : Bool)
  | schedule (worker salvageId : ℕ)
  | sweep (worker : ℕ) (now : ℤ)
  /-- A task's statement returns. -/
  | completed (key : ℕ) (now : ℤ) (reply : Reply)
  /-- A task's statement raises, after it was applied or not. -/
  | raised (key : ℕ) (error : String) (applied : Bool)
  /-- A task is cancelled. -/
  | cancelled (key : ℕ)
  /-- A process dies with its worker's tasks, and starts anew. -/
  | crash (worker : ℕ)
  | stop (worker : ℕ)
  deriving DecidableEq, Repr

def System.perform (config : Config) (system : System) : Label → System
  | .salvage salvageId now originalIds pendingCount =>
    system.salvageMessages config salvageId now originalIds pendingCount
  | .setExcluded messageIds excluded => system.updateMessagesMetadata config messageIds excluded
  | .schedule worker salvageId => system.scheduleSummary worker salvageId
  | .sweep worker now => system.sweep config worker now
  | .completed key now reply =>
    match system.tasks key with
    | none => system
    | some task =>
      (system.updateMarker task.salvageId task.point.write).move key task
        (task.point.resume config now (system.markers.row task.salvageId) reply)
  | .raised key error applied =>
    match system.tasks key with
    | none => system
    | some task =>
      (if applied then system.updateMarker task.salvageId task.point.write else system).move
        key task (task.point.raised error)
  | .cancelled key =>
    match system.tasks key with
    | none => system
    | some task => system.move key task none
  | .crash worker =>
    { system with
      inFlight := Function.update system.inFlight worker []
      stopped := Function.update system.stopped worker false
      tasks := fun key => (system.tasks key).filter (·.worker ≠ worker) }
  | .stop worker => { system with stopped := Function.update system.stopped worker true }

/-- The state before anything was salvaged. -/
def System.initial : System where
  markers := .empty
  inFlight := fun _ => []
  stopped := fun _ => false
  tasks := fun _ => none
  nextTask := 0

end Systems

end Kestrel.Agent.Salvage
