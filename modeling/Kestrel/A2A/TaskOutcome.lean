import Kestrel.A2A.Message
import Mathlib.Data.List.Dedup

/-!
# Merging a handler's outcome into the latest task

A handler works on a copy of its task, the baseline, while other writers change the stored row. The
merge applies what the handler changed to the row as it is now, and refuses what another writer
changed as well.
-/

namespace Kestrel.A2A

/-- `TaskStatus`. A timestamp is a pair of seconds and nanoseconds. -/
structure TaskStatus where
  state : TaskState
  message : Option Message
  timestamp : Option (ℤ × ℤ)
  deriving DecidableEq

/-- A protobuf `Task` with all its fields. Its metadata may be absent. -/
structure TaskRecord where
  id : String
  contextId : String
  status : TaskStatus
  artifacts : List Artifact
  history : List Message
  metadata : Option Metadata
  deriving DecidableEq

def TaskRecord.fields (task : TaskRecord) : Metadata := task.metadata.getD []

section Index

variable {Item : Type}

/-- `_index`: the items by their identities, which have to be present and distinct. -/
def index (name : String) (identity : Item → String) (items : List Item) :
    Except String (List (String × Item)) :=
  items.foldlM (fun indexed item =>
    if identity item = "" ∨ (indexed.lookup (identity item)).isSome then
      .error ("Outcome has missing or duplicate " ++ name)
    else .ok (indexed ++ [(identity item, item)])) []

structure Identified (identity : Item → String) (items : List Item) : Prop where
  present : ∀ item ∈ items, identity item ≠ ""
  nodup : (items.map identity).Nodup

end Index

/-- One artifact of the outcome against the baseline's and the current row's. -/
def mergeArtifact (baseline current : List (String × Artifact)) (merged : List Artifact)
    (wanted : Artifact) : Except String (List Artifact) :=
  let before := baseline.lookup wanted.artifactId
  if before = some wanted then .ok merged
  else
    let latest := current.lookup wanted.artifactId
    if latest ≠ before ∧ latest ≠ some wanted then
      .error ("Artifact changed while handler ran: " ++ wanted.artifactId)
    else if latest.isSome then
      -- The row's artifacts are identified, so this replaces the one of that identity.
      .ok (merged.map fun artifact =>
        if artifact.artifactId = wanted.artifactId then wanted else artifact)
    else .ok (merged ++ [wanted])

/-- One message that the outcome adds, against the messages of the merged history so far. -/
def mergeMessage (merged : List Message × List (String × Message)) (message : Message) :
    Except String (List Message × List (String × Message)) :=
  let latest := merged.2.lookup message.messageId
  if latest ≠ none ∧ latest ≠ some message then
    .error ("Message changed while handler ran: " ++ message.messageId)
  else if latest = none then
    .ok (merged.1 ++ [message], merged.2 ++ [(message.messageId, message)])
  else .ok merged

def mergeField (current baseline outcome : Metadata) (merged : Option Metadata) (key : String) :
    Except String (Option Metadata) :=
  let before := baseline.lookup key
  let wanted := outcome.lookup key
  if before = wanted then .ok merged
  else if current.lookup key ≠ before ∧ current.lookup key ≠ wanted then
    .error ("Metadata changed while handler ran: " ++ key)
  else
    match wanted with
    | none => .ok (merged.map fun fields => fields.filter fun field => field.1 ≠ key)
    | some value =>
      .ok (some ((merged.getD []).filter (fun field => field.1 ≠ key) ++ [(key, value)]))

/-- The presence of empty metadata is a change of its own. -/
def mergePresence (baseline outcome : Option Metadata) (merged : Option Metadata) :
    Option Metadata :=
  if merged.getD [] = [] ∧ baseline.isSome ≠ outcome.isSome then
    if outcome.isSome then some [] else none
  else merged

def mergeTaskOutcome (current baseline outcome : TaskRecord) : Except String TaskRecord := do
  Except.require ((current.id, current.contextId) = (baseline.id, baseline.contextId) ∧
      (outcome.id, outcome.contextId) = (baseline.id, baseline.contextId))
    "Handler outcome changed its task or context identity"
  let baselineArtifacts ← index "artifact_id" Artifact.artifactId baseline.artifacts
  let currentArtifacts ← index "artifact_id" Artifact.artifactId current.artifacts
  let outcomeArtifacts ← index "artifact_id" Artifact.artifactId outcome.artifacts
  Except.require (∀ artifact ∈ baselineArtifacts, artifact.1 ∈ outcomeArtifacts.map Prod.fst)
    "Handler outcome removed a committed artifact"
  let artifacts ← (outcomeArtifacts.map Prod.snd).foldlM
    (mergeArtifact baselineArtifacts currentArtifacts) current.artifacts
  Except.require (current.history.take baseline.history.length = baseline.history ∧
      outcome.history.take baseline.history.length = baseline.history)
    "Handler outcome changed committed message history"
  let messages ← index "message_id" Message.messageId current.history
  let _ ← index "message_id" Message.messageId outcome.history
  let merged ← (outcome.history.drop baseline.history.length).foldlM mergeMessage
    (current.history, messages)
  let metadata ← (baseline.fields.map Prod.fst ++ outcome.fields.map Prod.fst).dedup.foldlM
    (mergeField current.fields baseline.fields outcome.fields) current.metadata
  return { current with
    status := outcome.status
    artifacts
    history := merged.1
    metadata := mergePresence baseline.metadata outcome.metadata metadata }

end Kestrel.A2A
